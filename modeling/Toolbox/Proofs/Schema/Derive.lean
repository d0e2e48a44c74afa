import Toolbox.Schema.Derive

/-!
# Schemas of types, by the shape of the type

`ParamType.induction` is the induction over types, with a hypothesis for every member of a union.
`ofType_union_eq` is the equation of unions over the members themselves: without members anything
goes, null alone is null, a single other member stands for itself, and all else lists the
alternatives.  `ofType_union` is what it says about the schema alone.
-/

namespace Toolbox

namespace ParamType

/-- Induction over types; a union comes with the hypothesis for each of its members. -/
@[elab_as_elim]
theorem induction {P : ParamType → Prop} (null : P .null) (optional : ∀ t, P t → P (.optional t))
    (union : ∀ ts, (∀ t ∈ ts, P t) → P (.union ts))
    (sequence : ∀ items, (∀ t ∈ items, P t) → P (.sequence items))
    (mapping : ∀ values, (∀ t ∈ values, P t) → P (.mapping values))
    (scalar : ∀ kind, P (.scalar kind)) (literal : ∀ values, P (.literal values)) (any : P .any)
    (unknown : ∀ name, P (.unknown name)) (t : ParamType) : P t := by
  refine ParamType.rec (motive_2 := fun ts => ∀ t ∈ ts, P t) (motive_3 := fun o => ∀ t ∈ o, P t)
    null optional union sequence mapping scalar literal any unknown ?_ ?_ ?_ ?_ t
  · intro t ht
    cases ht
  · intro t ts ht hts
    rw [List.forall_mem_cons]
    exact ⟨ht, hts⟩
  · intro t ht
    cases ht
  · intro t ht s hs
    cases hs
    exact ht

theorem isNull_iff (t : ParamType) : t.isNull = true ↔ t = .null := by
  cases t <;> simp [isNull]

end ParamType

namespace Schema

theorem ofMembers_eq_map (ts : List ParamType) :
    ofMembers ts = ts.map fun t => (t.isNull, ofType t) := by
  induction ts with
  | nil => rfl
  | cons t ts ih => rw [ofMembers, ih, List.map_cons]

theorem value_collect (ns : List (Logged Schema)) : (collect ns).value = ns.map (·.value) := by
  induction ns with
  | nil => rfl
  | cons n ns ih =>
    show n.value :: (collect ns).value = _
    rw [ih, List.map_cons]

/-- Describing a union, by the members that are not null. -/
theorem ofType_union_eq (ts : List ParamType) :
    ofType (.union ts) =
      match ts.filter (!·.isNull) with
      | [] => pure (if ts.isEmpty then any else null)
      | [t] => if ts.any (·.isNull) then orNull <$> ofType t else ofType t
      | _ => union <$> collect (ts.map ofType) := by
  have hfilter : (ofMembers ts).filter (!·.1) =
      (ts.filter (!·.isNull)).map fun t => (t.isNull, ofType t) := by
    rw [ofMembers_eq_map, List.filter_map]
    rfl
  have hany : (ofMembers ts).any (·.1) = ts.any (·.isNull) := by
    rw [ofMembers_eq_map, List.any_map]
    rfl
  have hempty : (ofMembers ts).isEmpty = ts.isEmpty := by
    rw [ofMembers_eq_map, List.isEmpty_map]
  have hall : (ofMembers ts).map (·.2) = ts.map ofType := by
    rw [ofMembers_eq_map, List.map_map]
    rfl
  rw [ofType, ofUnion, hfilter]
  cases ts.filter (!·.isNull) with
  | nil => rw [List.map_nil, hempty]
  | cons t rest =>
    cases rest with
    | nil => simp only [List.map_cons, List.map_nil, hany]
    | cons t' rest => simp only [List.map_cons, hall]

/-- The schema of a union, by the members that are not null. -/
theorem ofType_union (ts : List ParamType) :
    (ofType (.union ts)).value =
      match ts.filter (!·.isNull) with
      | [] => if ts.isEmpty then any else null
      | [t] => if ts.any (·.isNull) then (ofType t).value.orNull else (ofType t).value
      | _ => union (ts.map fun t => (ofType t).value) := by
  rw [ofType_union_eq]
  split
  next => rfl
  next => split <;> rfl
  next =>
    rw [Logged.value_map, value_collect, List.map_map]
    rfl

end Schema

end Toolbox
