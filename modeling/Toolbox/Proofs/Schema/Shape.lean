import Toolbox.Proofs.Schema.Derive
import Toolbox.Proofs.Schema.Nodes

/-!
# The nodes of the schema of a type

Every node of the schema of a type is that of a part of the type (`ParamType.GivesNode`), and its
fields are set as its kind demands and hold what the part says (`Schema.Renders`).  Null only makes
a node nullable, and a union with a single other member has no node of its own
(`ofType_union_single`), so this holds of all nodes by induction on the type (`rendersAll_ofType`).
-/

namespace Toolbox

namespace ParamType

/-- Whether a type has a node of its own in its schema.  An option has none, nor has a union with
exactly one member that is not null. -/
def OwnsNode : ParamType → Prop
  | .optional _ => False
  | .union ts => (ts.filter (!·.isNull)).length ≠ 1
  | _ => True

/-- Whether a type names no more than one alternative besides null: it is neither a literal nor a
union with several members that are not null. -/
def IsSingle : ParamType → Prop
  | .union ts => (ts.filter (!·.isNull)).length < 2
  | .literal _ => False
  | _ => True

theorem IsSingle.not_union {t : ParamType} (h : t.IsSingle) {p : Prop} :
    ∀ ts, t = .union ts → 2 ≤ (ts.filter (!·.isNull)).length → p := by
  rintro ts rfl hts
  exact absurd hts (Nat.not_le.mpr h)

theorem IsSingle.not_literal {t : ParamType} (h : t.IsSingle) {p : List Json → Prop} :
    ∀ vs, t = .literal vs → p vs := by
  rintro vs rfl
  exact h.elim

/-- Whether a path in the schema of a type leads to the node of a part of the type.  The elements of
arrays and the values of objects are of any type where none is known. -/
inductive GivesNode : ParamType → List Schema.Step → ParamType → Prop
  | own {t : ParamType} (h : t.OwnsNode) : GivesNode t [] t
  | optional {t path s} (h : GivesNode t path s) : GivesNode (.optional t) path s
  | single {before t after path s} (hnull : ∀ m ∈ before ++ after, m = .null) (ht : t ≠ .null)
      (h : GivesNode t path s) : GivesNode (.union (before ++ t :: after)) path s
  | alternative {ts : List ParamType} {index t path s} (hown : (ParamType.union ts).OwnsNode)
      (hindex : ts[index]? = some t) (h : GivesNode t path s) :
      GivesNode (.union ts) (.alternative index :: path) s
  | items {items : Option ParamType} {path s} (h : GivesNode (items.getD .any) path s) :
      GivesNode (.sequence items) (.items :: path) s
  | values {values : Option ParamType} {path s} (h : GivesNode (values.getD .any) path s) :
      GivesNode (.mapping values) (.additional :: path) s

end ParamType

namespace Schema

variable {n m : Schema} {t s : ParamType}

/-- Kinds of nodes that may list literals. -/
def literalKinds : List SchemaKind := [.string, .integer, .number, .boolean, .null]

/-- The node of a part of a type: which fields are set follows from the kind, what they hold from the
part. -/
structure Renders (t : ParamType) (n : Schema) : Prop where
  kind : n.effectiveKind = n.kind
  items : n.items.isSome ↔ n.kind = some .array
  additional : n.additional.isSome ↔ n.kind = some .object
  anyOf : n.anyOf.isSome ↔ n.kind = some .union
  /-- alternatives are those of a union, member by member -/
  members : ∀ ns ∈ n.anyOf, 2 ≤ ns.length ∧
    ∃ ts, t = .union ts ∧ ns = ts.map fun m => (ofType m).value
  /-- and a union with several members that are not null has alternatives -/
  union : ∀ ts, t = .union ts → 2 ≤ (ts.filter (!·.isNull)).length → n.anyOf.isSome
  /-- literals are those of a literal type -/
  literals : ∀ vs ∈ n.literals, t = .literal vs ∧ ∃ kind ∈ literalKinds, n.kind = some kind
  /-- and a literal type has them -/
  literal : ∀ vs, t = .literal vs → n.literals = some vs
  properties : n.properties = none
  required : n.required = none
  description : n.description = none
  default : n.default = none
  nullable : n.nullable ≠ some false

theorem Renders.orNull (h : Renders t n) : Renders t n.orNull :=
  { h with nullable := fun hfalse => Bool.noConfusion (Option.some.inj hfalse) }

/-! ## Nodes that builders make -/

theorem renders_any (ht : t.IsSingle) : Renders t any := by
  constructor
  case union => exact ht.not_union
  case literal => exact ht.not_literal
  all_goals simp [any, effectiveKind]

theorem renders_ofKind {kind : SchemaKind} (hkind : kind ∈ literalKinds) (ht : t.IsSingle) :
    Renders t (ofKind kind) := by
  have hplain : kind ≠ .array ∧ kind ≠ .object ∧ kind ≠ .union := by
    revert hkind
    cases kind <;> decide
  constructor
  case union => exact ht.not_union
  case literal => exact ht.not_literal
  all_goals simp [ofKind, effectiveKind, hplain]

theorem renders_array (ht : t.IsSingle) : Renders t (array n) := by
  constructor
  case union => exact ht.not_union
  case literal => exact ht.not_literal
  all_goals simp [array, effectiveKind]

theorem renders_map (ht : t.IsSingle) : Renders t (map n) := by
  constructor
  case union => exact ht.not_union
  case literal => exact ht.not_literal
  all_goals simp [map, effectiveKind]

theorem renders_union {ts : List ParamType} (hts : 2 ≤ ts.length) :
    Renders (.union ts) (union (ts.map fun m => (ofType m).value)) := by
  constructor <;> simp [union, effectiveKind, hts]

theorem renders_enumeration {kind : SchemaKind} (hkind : kind ∈ literalKinds) (vs : List Json) :
    Renders (.literal vs) (enumeration kind vs) := by
  have hplain : kind ≠ .array ∧ kind ≠ .object ∧ kind ≠ .union := by
    revert hkind
    cases kind <;> decide
  constructor <;> simp [enumeration, effectiveKind, hplain, hkind]

/-! ## Kinds of literals -/

theorem mem_literalKinds_of_literalKind {v : Json} {kind : SchemaKind}
    (h : literalKind v = some kind) : kind ∈ literalKinds := by
  unfold literalKind at h
  split at h <;> cases h <;> decide

theorem mem_literalKinds_of_joinKinds {a b kind : SchemaKind} (h : joinKinds a b = some kind)
    (ha : a ∈ literalKinds) : kind ∈ literalKinds := by
  unfold joinKinds at h
  split at h
  next =>
    cases h
    exact ha
  next => split at h <;> cases h <;> decide

theorem mem_literalKinds_of_joinLiterals {vs : List Json} {a kind : SchemaKind}
    (h : joinLiterals a vs = some kind) (ha : a ∈ literalKinds) : kind ∈ literalKinds := by
  induction vs generalizing a with
  | nil =>
    cases h
    exact ha
  | cons v vs ih =>
    rw [joinLiterals] at h
    obtain ⟨b, -, h⟩ := Option.bind_eq_some_iff.mp h
    obtain ⟨c, hc, h⟩ := Option.bind_eq_some_iff.mp h
    exact ih h (mem_literalKinds_of_joinKinds hc ha)

/-- The kind that literals share is one of literals. -/
theorem mem_literalKinds_of_commonKind {vs : List Json} {kind : SchemaKind}
    (h : commonKind vs = some kind) : kind ∈ literalKinds := by
  cases vs with
  | nil => cases h
  | cons v vs =>
    rw [commonKind] at h
    obtain ⟨a, ha, h⟩ := Option.bind_eq_some_iff.mp h
    exact mem_literalKinds_of_joinLiterals h (mem_literalKinds_of_literalKind ha)

theorem renders_ofLiterals (vs : List Json) : Renders (.literal vs) (ofLiterals vs) := by
  rw [ofLiterals]
  cases h : commonKind vs with
  | none => exact renders_enumeration (by decide) vs
  | some kind => exact renders_enumeration (mem_literalKinds_of_commonKind h) vs

/-! ## All nodes -/

/-- Whether every node of a schema is that of a part of the type. -/
def RendersAll (t : ParamType) (n : Schema) : Prop :=
  ∀ path m, n.at? path = some m → ∃ s, t.GivesNode path s ∧ Renders s m

theorem at?_cons_eq_some_iff {step : Step} {path : List Step} :
    n.at? (step :: path) = some m ↔ ∃ k, n.child? step = some k ∧ k.at? path = some m :=
  Option.bind_eq_some_iff

/-- The node itself, and those below it, behind their steps. -/
theorem rendersAll_iff :
    RendersAll t n ↔ (∃ s, t.GivesNode [] s ∧ Renders s n) ∧
      ∀ step k, n.child? step = some k → ∀ path m, k.at? path = some m →
        ∃ s, t.GivesNode (step :: path) s ∧ Renders s m := by
  constructor
  · intro h
    refine ⟨h [] n rfl, fun step k hk path m hm => h (step :: path) m ?_⟩
    exact at?_cons_eq_some_iff.mpr ⟨k, hk, hm⟩
  · rintro ⟨hn, hbelow⟩ path m hm
    cases path with
    | nil =>
      cases hm
      exact hn
    | cons step path =>
      obtain ⟨k, hk, hm⟩ := at?_cons_eq_some_iff.mp hm
      exact hbelow step k hk path m hm

theorem rendersAll_of_childless (hchild : ∀ step, n.child? step = none) (hown : t.OwnsNode)
    (hn : Renders t n) : RendersAll t n := by
  rw [rendersAll_iff]
  refine ⟨⟨t, .own hown, hn⟩, fun step k hk => ?_⟩
  rw [hchild] at hk
  cases hk

theorem rendersAll_any : RendersAll .any any :=
  rendersAll_of_childless (fun step => by cases step <;> rfl) trivial (renders_any trivial)

theorem rendersAll_ofKind {kind : SchemaKind} (hkind : kind ∈ literalKinds) (hown : t.OwnsNode)
    (ht : t.IsSingle) : RendersAll t (ofKind kind) :=
  rendersAll_of_childless (fun step => by cases step <;> rfl) hown (renders_ofKind hkind ht)

/-- Null changes nothing below the node. -/
theorem RendersAll.orNull (h : RendersAll t n) : RendersAll t n.orNull := by
  obtain ⟨⟨s, hs, hn⟩, hbelow⟩ := rendersAll_iff.mp h
  exact rendersAll_iff.mpr ⟨⟨s, hs, hn.orNull⟩, hbelow⟩

theorem RendersAll.mono (h : RendersAll t n)
    (hts : ∀ path p, t.GivesNode path p → s.GivesNode path p) : RendersAll s n := by
  intro path m hm
  obtain ⟨p, hp, hn⟩ := h path m hm
  exact ⟨p, hts path p hp, hn⟩

theorem rendersAll_array {items : Option ParamType} (h : RendersAll (items.getD .any) n) :
    RendersAll (.sequence items) (array n) := by
  rw [rendersAll_iff]
  refine ⟨⟨_, .own trivial, renders_array trivial⟩, fun step k hk path m hm => ?_⟩
  cases step <;> cases hk
  obtain ⟨s, hs, hn⟩ := h path m hm
  exact ⟨s, .items hs, hn⟩

theorem rendersAll_map {values : Option ParamType} (h : RendersAll (values.getD .any) n) :
    RendersAll (.mapping values) (map n) := by
  rw [rendersAll_iff]
  refine ⟨⟨_, .own trivial, renders_map trivial⟩, fun step k hk path m hm => ?_⟩
  cases step <;> cases hk
  obtain ⟨s, hs, hn⟩ := h path m hm
  exact ⟨s, .values hs, hn⟩

theorem rendersAll_union {ts : List ParamType} (hown : (ParamType.union ts).OwnsNode)
    (hts : 2 ≤ ts.length) (h : ∀ t ∈ ts, RendersAll t (ofType t).value) :
    RendersAll (.union ts) (union (ts.map fun m => (ofType m).value)) := by
  rw [rendersAll_iff]
  refine ⟨⟨_, .own hown, renders_union hts⟩, fun step k hk path m hm => ?_⟩
  cases step with
  | alternative index =>
    have hk : (ts.map fun m => (ofType m).value)[index]? = some k := hk
    rw [List.getElem?_map] at hk
    obtain ⟨t, ht, rfl⟩ := Option.map_eq_some_iff.mp hk
    obtain ⟨s, hs, hn⟩ := h t (List.mem_of_getElem? ht) path m hm
    exact ⟨s, .alternative hown ht hs, hn⟩
  | property | items | additional => cases hk

/-! ## Unions with a single member that is not null -/

section
variable {before after : List ParamType}

/-- A union with one member that is not null is described as that member, or as an option of it if
null is a member as well. -/
theorem ofType_union_single (hnull : ∀ m ∈ before ++ after, m = .null) (ht : t ≠ .null) :
    ofType (.union (before ++ t :: after)) =
      if before ++ after = [] then ofType t else ofType (.optional t) := by
  have hisNull : ∀ m ∈ before ++ after, m.isNull = true :=
    fun m hm => (m.isNull_iff).mpr (hnull m hm)
  have hnot : t.isNull = false := by
    rw [← Bool.not_eq_true, t.isNull_iff]
    exact ht
  rw [List.forall_mem_append] at hisNull
  have hfilter : (before ++ t :: after).filter (!·.isNull) = [t] := by
    rw [List.filter_eq_cons_iff]
    refine ⟨before, after, rfl, ?_, by simp [hnot], ?_⟩
    · intro m hm
      simp [hisNull.1 m hm]
    · rw [List.filter_eq_nil_iff]
      intro m hm
      simp [hisNull.2 m hm]
  have hany : (before ++ t :: after).any (·.isNull) = true ↔ before ++ after ≠ [] := by
    rw [List.any_append, List.any_cons, hnot, Bool.false_or, ← List.any_append, List.any_eq_true]
    constructor
    · rintro ⟨m, hm, -⟩
      exact List.ne_nil_of_mem hm
    · intro hne
      obtain ⟨m, hm⟩ := List.exists_mem_of_ne_nil _ hne
      exact ⟨m, hm, (m.isNull_iff).mpr (hnull m hm)⟩
  rw [ofType_union_eq, hfilter]
  show (if (before ++ t :: after).any (·.isNull) = true then orNull <$> ofType t else ofType t) = _
  by_cases hempty : before ++ after = []
  · rw [if_pos hempty, if_neg (fun h => hany.mp h hempty)]
  · rw [if_neg hempty, if_pos (hany.mpr hempty), ofType]

end

/-- The members that are not null stand among others that are. -/
theorem exists_of_filter_eq_singleton {ts : List ParamType} (h : ts.filter (!·.isNull) = [t]) :
    ∃ before after, ts = before ++ t :: after ∧ (∀ m ∈ before ++ after, m = .null) ∧ t ≠ .null := by
  obtain ⟨before, after, rfl, hbefore, ht, hafter⟩ := List.filter_eq_cons_iff.mp h
  have hnull : ∀ m : ParamType, ¬ (!m.isNull) = true → m = .null := by
    intro m hm
    simpa [m.isNull_iff] using hm
  refine ⟨before, after, rfl, ?_, ?_⟩
  · rw [List.forall_mem_append]
    exact ⟨fun m hm => hnull m (hbefore m hm),
      fun m hm => hnull m (List.filter_eq_nil_iff.mp hafter m hm)⟩
  · rintro rfl
    simp [ParamType.isNull] at ht

theorem rendersAll_ofType (t : ParamType) : RendersAll t (ofType t).value := by
  induction t using ParamType.induction with
  | null => exact rendersAll_ofKind (by decide) trivial trivial
  | optional t ih => exact ih.orNull.mono fun path p hp => .optional hp
  | union ts ih =>
    cases hfilter : ts.filter (!·.isNull) with
    | nil =>
      have hown : (ParamType.union ts).OwnsNode := by simp [ParamType.OwnsNode, hfilter]
      have hts : (ParamType.union ts).IsSingle := by simp [ParamType.IsSingle, hfilter]
      rw [ofType_union, hfilter]
      show RendersAll (.union ts) (if ts.isEmpty then any else null)
      split
      next =>
        exact rendersAll_of_childless (fun step => by cases step <;> rfl) hown (renders_any hts)
      next => exact rendersAll_ofKind (by decide) hown hts
    | cons t rest =>
      cases rest with
      | nil =>
        obtain ⟨before, after, rfl, hnull, ht⟩ := exists_of_filter_eq_singleton hfilter
        have hsingle := ih t (List.mem_append_right _ List.mem_cons_self)
        have hunion : ∀ path p, t.GivesNode path p →
            (ParamType.union (before ++ t :: after)).GivesNode path p :=
          fun path p hp => .single hnull ht hp
        rw [ofType_union_single hnull ht]
        split
        next => exact hsingle.mono hunion
        next => exact hsingle.orNull.mono hunion
      | cons t' rest =>
        have hown : (ParamType.union ts).OwnsNode := by simp [ParamType.OwnsNode, hfilter]
        have hlength : (ts.filter (!·.isNull)).length ≤ ts.length := List.length_filter_le _ _
        rw [ofType_union, hfilter]
        refine rendersAll_union hown ?_ ih
        rw [hfilter, List.length_cons, List.length_cons] at hlength
        omega
  | sequence items ih =>
    cases items with
    | none => exact rendersAll_array rendersAll_any
    | some t => exact rendersAll_array (ih t rfl)
  | mapping values ih =>
    cases values with
    | none => exact rendersAll_map rendersAll_any
    | some t => exact rendersAll_map (ih t rfl)
  | scalar kind => cases kind <;> exact rendersAll_ofKind (by decide) trivial trivial
  | literal vs =>
    have hchild : ∀ step, (ofLiterals vs).child? step = none := fun step => by cases step <;> rfl
    exact rendersAll_of_childless hchild trivial (renders_ofLiterals vs)
  | any => exact rendersAll_any
  | unknown name => exact rendersAll_ofKind (by decide) trivial trivial

/-- Types have neither a description nor a default. -/
theorem ofType_unannotated (t : ParamType) :
    (ofType t).value.description = none ∧ (ofType t).value.default = none := by
  obtain ⟨s, -, hn⟩ := rendersAll_ofType t [] _ rfl
  exact ⟨hn.description, hn.default⟩

/-- Every node of the schema of a type is that of the part of the type at its place, with the fields
that its kind demands: alternatives are those of a union of several members that are not null, which
has them always, and literals those of a literal type, which has them always.  A union with one member that is not null has no node of its own: it is
described as that member, or as an option of it if null is a member as well. -/
theorem ofType_shaped :
    (∀ (t : ParamType) path n, (ofType t).value.at? path = some n →
      ∃ s, t.GivesNode path s ∧ Renders s n) ∧
      ∀ before t after, (∀ m ∈ before ++ after, m = .null) → t ≠ .null →
        let ts := before ++ t :: after
        (ofType (.union ts) = if before ++ after = [] then ofType t else ofType (.optional t)) ∧
          (ofType (.union ts)).value.kind = (ofType t).value.kind ∧
          (ofType (.union ts)).value.anyOf = (ofType t).value.anyOf := by
  refine ⟨rendersAll_ofType, ?_⟩
  intro before t after hnull ht ts
  have hsingle := ofType_union_single hnull ht
  refine ⟨hsingle, ?_⟩
  show (ofType (.union (before ++ t :: after))).value.kind = _ ∧
    (ofType (.union (before ++ t :: after))).value.anyOf = _
  rw [hsingle]
  split
  next => exact ⟨rfl, rfl⟩
  next => exact ⟨rfl, rfl⟩

/-- Limits by name, or null for none: the literals stand below the one node of the union. -/
theorem ofType_shaped_limits :
    let names := ParamType.mapping (some (.literal [.string "low", .string "high"]))
    let limits := ParamType.union [.null, names, .null]
    ofType limits = ofType (.optional names) ∧
      ∃ s n, (ofType limits).value.at? [.additional] = some n ∧ limits.GivesNode [.additional] s ∧
        Renders s n ∧ n.literals = some [.string "low", .string "high"] := by
  intro names limits
  have hnull : ∀ m ∈ [ParamType.null] ++ [.null], m = .null := by simp
  obtain ⟨hsingle, -, -⟩ := ofType_shaped.2 [.null] names [.null] hnull nofun
  refine ⟨hsingle, ?_⟩
  obtain ⟨s, hs, hn⟩ := ofType_shaped.1 limits [.additional] _ rfl
  exact ⟨s, _, rfl, hs, hn, rfl⟩

end Schema

end Toolbox
