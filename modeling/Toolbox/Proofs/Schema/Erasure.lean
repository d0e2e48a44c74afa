import Toolbox.Proofs.Schema.Nodes
import Toolbox.Schema.Codec
import Toolbox.Proofs.Signature.Schema

/-!
# Stored union kinds

The kind of a union need not be stored: its alternatives tell as much.  Leaving it out everywhere
(`eraseUnion`) moves no node (`at?_eraseUnion`).  It changes a schema only if a node stores a union
kind (`eraseUnion_eq_self_iff`), and the kind of a node only if that node lists no alternatives
(`effectiveKind_at?_eraseUnion_iff`).

Schemas of types store a union kind only with the alternatives beside it
(`listsAlternatives_ofType`), and so do schemas of signatures (`listsAlternatives_schema`).
-/

namespace Toolbox

namespace Schema

mutual

/-- The schema with every stored union kind left out, at every depth. -/
def eraseUnion : Schema → Schema
  | ⟨kind, description, properties, required, items, additional, anyOf, literals, default,
      nullable⟩ =>
    ⟨if kind = some .union then none else kind, description, erasePropertiesUnion? properties,
      required, eraseUnion? items, eraseUnion? additional, eraseMembersUnion? anyOf, literals,
      default, nullable⟩

def eraseUnion? : Option Schema → Option Schema
  | none => none
  | some n => some n.eraseUnion

def eraseMembersUnion? : Option (List Schema) → Option (List Schema)
  | none => none
  | some ns => some (eraseMembersUnion ns)

def eraseMembersUnion : List Schema → List Schema
  | [] => []
  | n :: ns => n.eraseUnion :: eraseMembersUnion ns

def erasePropertiesUnion? : Option (List (String × Schema)) → Option (List (String × Schema))
  | none => none
  | some ps => some (erasePropertiesUnion ps)

def erasePropertiesUnion : List (String × Schema) → List (String × Schema)
  | [] => []
  | (name, n) :: ps => (name, n.eraseUnion) :: erasePropertiesUnion ps

end

theorem eraseMembersUnion_eq_map (ns : List Schema) : eraseMembersUnion ns = ns.map eraseUnion := by
  induction ns with
  | nil => rfl
  | cons n ns ih => rw [eraseMembersUnion, ih, List.map_cons]

theorem erasePropertiesUnion_eq_map (ps : List (String × Schema)) :
    erasePropertiesUnion ps = ps.map fun e => (e.1, e.2.eraseUnion) := by
  induction ps with
  | nil => rfl
  | cons e ps ih => rw [erasePropertiesUnion, ih, List.map_cons]

/-- The erased schema, field by field. -/
theorem eraseUnion_eq (n : Schema) :
    n.eraseUnion = { n with
      kind := if n.kind = some .union then none else n.kind
      properties := n.properties.map (·.map fun e => (e.1, e.2.eraseUnion))
      items := n.items.map eraseUnion
      additional := n.additional.map eraseUnion
      anyOf := n.anyOf.map (·.map eraseUnion) } := by
  obtain ⟨kind, description, properties, required, items, additional, anyOf, literals, default,
    nullable⟩ := n
  rw [eraseUnion]
  congr 1
  · cases properties with
    | none => rfl
    | some ps => rw [erasePropertiesUnion?, erasePropertiesUnion_eq_map, Option.map_some]
  · cases items <;> rfl
  · cases additional <;> rfl
  · cases anyOf with
    | none => rfl
    | some ns => rw [eraseMembersUnion?, eraseMembersUnion_eq_map, Option.map_some]

/-! ## Nodes -/

theorem child?_eraseUnion (n : Schema) (s : Step) :
    n.eraseUnion.child? s = (n.child? s).map eraseUnion := by
  rw [eraseUnion_eq]
  cases s with
  | property name =>
    simp only [child?, property]
    cases n.properties with
    | none => rfl
    | some ps => exact findEntry_map eraseUnion name
  | items => rfl
  | additional => rfl
  | alternative index =>
    simp only [child?]
    cases n.anyOf with
    | none => rfl
    | some ns => exact List.getElem?_map ..

/-- Erasing reaches every node and moves none. -/
theorem at?_eraseUnion (n : Schema) (path : List Step) :
    n.eraseUnion.at? path = (n.at? path).map eraseUnion := by
  induction path generalizing n with
  | nil => rfl
  | cons s path ih =>
    rw [at?, at?, child?_eraseUnion]
    cases n.child? s with
    | none => rfl
    | some m => exact ih m

theorem kind_eraseUnion (n : Schema) :
    n.eraseUnion.kind = if n.kind = some .union then none else n.kind := by
  rw [eraseUnion_eq]

theorem anyOf_eraseUnion (n : Schema) : n.eraseUnion.anyOf = n.anyOf.map (·.map eraseUnion) := by
  rw [eraseUnion_eq]

theorem map_members_congr {α : Type} {f g : Schema → α} {o : Option (List Schema)}
    (h : ∀ ns ∈ o, ∀ n ∈ ns, f n = g n) : o.map (·.map f) = o.map (·.map g) :=
  Option.map_congr fun ns hns => List.map_congr_left fun n hn => h ns hns n hn

theorem map_properties_congr {α : Type} {f g : Schema → α} {o : Option (List (String × Schema))}
    (h : ∀ ps ∈ o, ∀ e ∈ ps, f e.2 = g e.2) :
    o.map (·.map fun e => (e.1, f e.2)) = o.map (·.map fun e => (e.1, g e.2)) :=
  Option.map_congr fun ps hps => List.map_congr_left fun e he => by rw [h ps hps e he]

/-! ## What erasing changes -/

theorem eraseUnion_eq_self {n : Schema}
    (h : n.Everywhere fun m => m.Sorted ∧ m.kind ≠ some .union) : n.eraseUnion = n := by
  refine h.induction_on (Q := fun m => m.eraseUnion = m) (fun _ hm => hm.1) ?_
  intro m hm hproperties hitems hadditional hanyOf
  have hps : m.properties.map (·.map fun e => (e.1, e.2.eraseUnion)) = m.properties :=
    (map_properties_congr (g := id) hproperties).trans (by simp)
  have hns : m.anyOf.map (·.map eraseUnion) = m.anyOf :=
    (map_members_congr (g := id) hanyOf).trans (by simp)
  have hi : m.items.map eraseUnion = m.items :=
    (Option.map_congr (g := id) hitems).trans Option.map_id_apply
  have ha : m.additional.map eraseUnion = m.additional :=
    (Option.map_congr (g := id) hadditional).trans Option.map_id_apply
  rw [eraseUnion_eq, hps, hns, hi, ha, if_neg hm.2]
  cases m
  rfl

theorem kind_ne_union_of_eraseUnion_eq {n : Schema} (h : n.eraseUnion = n) :
    n.kind ≠ some .union := by
  intro hkind
  have herased := n.kind_eraseUnion
  rw [h, hkind, if_pos rfl] at herased
  cases herased

/-- Erasing changes nothing exactly if no node stores a union kind. -/
theorem eraseUnion_eq_self_iff {n : Schema} (hsorted : n.Everywhere Sorted) :
    n.eraseUnion = n ↔ n.Everywhere fun m => m.kind ≠ some .union := by
  constructor
  · intro h path m hm
    have herased := n.at?_eraseUnion path
    rw [h, hm, Option.map_some] at herased
    exact kind_ne_union_of_eraseUnion_eq (Option.some.inj herased).symm
  · intro h
    exact eraseUnion_eq_self fun path m hm => ⟨hsorted path m hm, h path m hm⟩

/-- Whether a node that stores a union kind lists its alternatives. -/
def ListsAlternatives (n : Schema) : Prop := n.kind = some .union → n.anyOf.isSome

theorem effectiveKind_eraseUnion_iff (n : Schema) :
    n.eraseUnion.effectiveKind = n.effectiveKind ↔ n.ListsAlternatives := by
  unfold effectiveKind ListsAlternatives
  rw [kind_eraseUnion, anyOf_eraseUnion]
  by_cases hkind : n.kind = some .union
  · rw [if_pos hkind, hkind]
    cases n.anyOf <;> simp
  · rw [if_neg hkind]
    cases hsome : n.kind with
    | none => cases n.anyOf <;> simp
    | some k => simp [hsome ▸ hkind]

/-- The kinds of all nodes are kept exactly if every union lists its alternatives. -/
theorem effectiveKind_at?_eraseUnion_iff (n : Schema) :
    (∀ path, (n.eraseUnion.at? path).map effectiveKind = (n.at? path).map effectiveKind) ↔
      n.Everywhere ListsAlternatives := by
  simp only [at?_eraseUnion, Option.map_map]
  constructor
  · intro h path m hm
    have hpath := h path
    rw [hm] at hpath
    exact m.effectiveKind_eraseUnion_iff.mp (Option.some.inj hpath)
  · intro h path
    exact Option.map_congr fun m hm => m.effectiveKind_eraseUnion_iff.mpr (h path m hm)

end Schema

/-! ## Derived schemas -/

namespace Schema

variable {n : Schema}

theorem listsAlternatives_withDescription (h : n.Everywhere ListsAlternatives)
    (description : String) : (n.withDescription description).Everywhere ListsAlternatives :=
  h.of_child?_eq (fun _ => rfl) h.node

theorem listsAlternatives_withDefault (h : n.Everywhere ListsAlternatives) (default : Json) :
    (n.withDefault default).Everywhere ListsAlternatives :=
  h.of_child?_eq (fun _ => rfl) h.node

/-- The node of a part of a type stores the kind of unions only beside alternatives. -/
theorem listsAlternatives_ofType (t : ParamType) :
    (ofType t).value.Everywhere ListsAlternatives := by
  intro path n hn
  obtain ⟨s, -, hrenders⟩ := rendersAll_ofType t path n hn
  exact hrenders.anyOf.mpr

end Schema

namespace Signature

open Schema

theorem listsAlternatives_property (docs : DocComment) (p : Param) :
    (p.property docs).Everywhere ListsAlternatives := by
  have hproperty : (propertySchema docs p).value.Everywhere ListsAlternatives := by
    rw [propertySchema, Logged.value_bind]
    split
    next description _ =>
      exact listsAlternatives_withDescription (listsAlternatives_ofType p.type) _
    next => exact listsAlternatives_ofType p.type
  rw [Param.property]
  split
  next value _ => exact listsAlternatives_withDefault hproperty value
  next => exact hproperty

theorem listsAlternatives_schema (s : Signature) : s.schema.value.Everywhere ListsAlternatives := by
  refine s.schema_induction ?_ ?_ ?_
  · exact everywhere_object.mpr (fun hunion => nomatch hunion)
  · intro n p hn
    exact hn.withProperty (listsAlternatives_property s.docComment p) p.name _ hn.node
  · intro n description hn
    exact listsAlternatives_withDescription hn description

end Signature

end Toolbox
