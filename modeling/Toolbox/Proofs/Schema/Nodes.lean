import Toolbox.Proofs.Schema.Building

/-!
# The nodes of a schema

A schema is a tree.  A path of steps leads from it to one of its nodes (`Schema.at?`), and a
property that all nodes have holds everywhere in it (`Schema.Everywhere`).  Such a property is one
of the node itself and of what stands directly below it (`everywhere_iff`), so each builder has an
equation for it.
-/

namespace Toolbox.Schema

/-- A step from a schema to one that stands directly below it. -/
inductive Step where
  | property (name : String)
  | items
  | additional
  | alternative (index : Nat)

/-- The schema that a step leads to. -/
def child? (n : Schema) : Step → Option Schema
  | .property name => n.property name
  | .items => n.items
  | .additional => n.additional
  | .alternative index => (n.anyOf.getD [])[index]?

/-- The node that a path leads to. -/
def at? (n : Schema) : List Step → Option Schema
  | [] => some n
  | s :: path => (n.child? s).bind (·.at? path)

/-- Whether every node has the property `P`. -/
def Everywhere (P : Schema → Prop) (n : Schema) : Prop := ∀ path m, n.at? path = some m → P m

/-- Induction over schemas, with a hypothesis for each schema that stands directly below. -/
@[elab_as_elim]
theorem induction {P : Schema → Prop}
    (node : ∀ n : Schema, (∀ ps ∈ n.properties, ∀ e ∈ ps, P e.2) → (∀ m ∈ n.items, P m) →
      (∀ m ∈ n.additional, P m) → (∀ ms ∈ n.anyOf, ∀ m ∈ ms, P m) → P n)
    (n : Schema) : P n := by
  refine Schema.rec (motive_1 := P) (motive_2 := fun o => ∀ ps ∈ o, ∀ e ∈ ps, P e.2)
    (motive_3 := fun o => ∀ m ∈ o, P m) (motive_4 := fun o => ∀ ms ∈ o, ∀ m ∈ ms, P m)
    (motive_5 := fun ps => ∀ e ∈ ps, P e.2) (motive_6 := fun ms => ∀ m ∈ ms, P m)
    (motive_7 := fun e => P e.2) ?_ ?_ ?_ ?_ ?_ ?_ ?_ ?_ ?_ ?_ ?_ ?_ n
  · intro kind description properties required items additional anyOf literals default nullable
    exact node ⟨kind, description, properties, required, items, additional, anyOf, literals,
      default, nullable⟩
  · intro ps hps
    cases hps
  · intro ps ih qs hqs
    cases hqs
    exact ih
  · intro m hm
    cases hm
  · intro m ih k hk
    cases hk
    exact ih
  · intro ms hms
    cases hms
  · intro ms ih ks hks
    cases hks
    exact ih
  · intro e he
    cases he
  · intro e ps he hps
    rw [List.forall_mem_cons]
    exact ⟨he, hps⟩
  · intro m hm
    cases hm
  · intro m ms hm hms
    rw [List.forall_mem_cons]
    exact ⟨hm, hms⟩
  · intro name m hm
    exact hm

section
variable {P : Schema → Prop} {n m : Schema}

/-- What holds everywhere holds of the node itself and everywhere below it. -/
theorem everywhere_iff :
    n.Everywhere P ↔ P n ∧ ∀ s m, n.child? s = some m → m.Everywhere P := by
  constructor
  · intro h
    refine ⟨h [] n rfl, fun s m hm path k hk => h (s :: path) k ?_⟩
    rw [at?, hm]
    exact hk
  · rintro ⟨hn, hbelow⟩ path m hm
    cases path with
    | nil =>
      cases hm
      exact hn
    | cons s path =>
      obtain ⟨k, hk, hm⟩ := Option.bind_eq_some_iff.mp hm
      exact hbelow s k hk path m hm

theorem Everywhere.node (h : n.Everywhere P) : P n := (everywhere_iff.mp h).1

theorem Everywhere.child (h : n.Everywhere P) {s : Step} (hm : n.child? s = some m) :
    m.Everywhere P :=
  (everywhere_iff.mp h).2 s m hm

theorem Everywhere.mono {Q : Schema → Prop} (h : n.Everywhere P) (hPQ : ∀ m, P m → Q m) :
    n.Everywhere Q :=
  fun path m hm => hPQ m (h path m hm)

/-- Nodes that change nothing below them leave what holds there as it is. -/
theorem Everywhere.of_child?_eq (h : n.Everywhere P) (hchild : ∀ s, m.child? s = n.child? s)
    (hm : P m) : m.Everywhere P := by
  rw [everywhere_iff]
  refine ⟨hm, fun s k hk => h.child (s := s) ?_⟩
  rw [← hchild, hk]

theorem Everywhere.property_of_mem (h : n.Everywhere P) (hsorted : n.Sorted)
    {ps : List (String × Schema)} (hps : ps ∈ n.properties) {e : String × Schema} (he : e ∈ ps) :
    e.2.Everywhere P := by
  have hps : n.properties = some ps := hps
  have hascending : Ascending ps := by
    have hsorted : Ascending (n.properties.getD []) := hsorted
    rwa [hps] at hsorted
  refine h.child (s := .property e.1) ?_
  show n.properties.bind (findEntry e.1) = some e.2
  rw [hps]
  exact (findEntry_eq_some_iff hascending e.1 e.2).mpr he

theorem Everywhere.alternative_of_mem (h : n.Everywhere P) {ns : List Schema} (hns : ns ∈ n.anyOf)
    (hm : m ∈ ns) : m.Everywhere P := by
  have hns : n.anyOf = some ns := hns
  obtain ⟨index, hindex⟩ := List.mem_iff_getElem?.mp hm
  refine h.child (s := .alternative index) ?_
  show (n.anyOf.getD [])[index]? = some m
  rw [hns]
  exact hindex

/-- Induction over a schema whose nodes all have a property `P`, and so keep their properties in
order. -/
theorem Everywhere.induction_on {Q : Schema → Prop} (h : n.Everywhere P)
    (hsorted : ∀ m, P m → m.Sorted)
    (node : ∀ m, P m → (∀ ps ∈ m.properties, ∀ e ∈ ps, Q e.2) → (∀ k ∈ m.items, Q k) →
      (∀ k ∈ m.additional, Q k) → (∀ ks ∈ m.anyOf, ∀ k ∈ ks, Q k) → Q m) : Q n := by
  induction n using Schema.induction with
  | node n hproperties hitems hadditional hanyOf =>
    refine node n h.node ?_ ?_ ?_ ?_
    · intro ps hps e he
      exact hproperties ps hps e he (h.property_of_mem (hsorted n h.node) hps he)
    · intro m hm
      exact hitems m hm (h.child (s := .items) hm)
    · intro m hm
      exact hadditional m hm (h.child (s := .additional) hm)
    · intro ns hns m hm
      exact hanyOf ns hns m hm (h.alternative_of_mem hns hm)

/-! ## Builders -/

theorem everywhere_of_childless (hchild : ∀ s, n.child? s = none) : n.Everywhere P ↔ P n := by
  rw [everywhere_iff, and_iff_left]
  intro s m hm
  rw [hchild] at hm
  cases hm

theorem everywhere_ofKind (kind : SchemaKind) : (ofKind kind).Everywhere P ↔ P (ofKind kind) :=
  everywhere_of_childless fun s => by cases s <;> rfl

theorem everywhere_object : object.Everywhere P ↔ P object :=
  everywhere_of_childless fun s => by cases s <;> rfl

theorem everywhere_union (ns : List Schema) :
    (union ns).Everywhere P ↔ P (union ns) ∧ ∀ n ∈ ns, n.Everywhere P := by
  constructor
  · intro h
    exact ⟨h.node, fun n hn => h.alternative_of_mem rfl hn⟩
  · rintro ⟨hunion, hmembers⟩
    rw [everywhere_iff]
    refine ⟨hunion, fun s m hm => ?_⟩
    cases s with
    | alternative index => exact hmembers m (List.mem_of_getElem? hm)
    | property | items | additional => cases hm

theorem Everywhere.withProperty (h : n.Everywhere P) (hm : m.Everywhere P) (name : String)
    (required : Bool) (hnode : P (n.withProperty name m required)) :
    (n.withProperty name m required).Everywhere P := by
  rw [everywhere_iff]
  refine ⟨hnode, fun s k hk => ?_⟩
  cases s with
  | property key =>
    have hk : (n.withProperty name m required).property key = some k := hk
    rw [property_withProperty] at hk
    split at hk
    next =>
      cases hk
      exact hm
    next => exact h.child (s := .property key) hk
  | items => exact h.child (s := .items) hk
  | additional => exact h.child (s := .additional) hk
  | alternative index => exact h.child (s := .alternative index) hk

end

end Toolbox.Schema
