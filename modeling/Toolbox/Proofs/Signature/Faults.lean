import Mathlib.Data.List.Induction
import Toolbox.Proofs.Signature.Validity

/-!
# Faults of arguments

Why no schema is derived from an argument depends on its position, on the names before it and on the
argument itself (`Param.schemaFault?`).  A list of arguments has no fault (`Signature.Faultless`), or
else a first one, with nothing but faultless arguments before it (`faultless_or_firstFault`).
-/

namespace Toolbox

namespace Param

/-- The fault of a default without a JSON form. -/
def defaultFault? (p : Param) : Option SchemaError :=
  match p.default with
  | some (.unrepresentable reason) => some (.unrepresentableDefault p.name reason)
  | some (.json _) | none => none

/-- Why no schema is derived from an argument at this position, behind arguments of these names. -/
def schemaFault? (index : Nat) (earlier : List String) (p : Param) : Option SchemaError :=
  if Text.IsBlankText p.name then some (.emptyParameterName index)
  else if p.name ∈ earlier then some (.duplicateParameter p.name)
  else p.defaultFault?

theorem defaultFault?_eq_some_iff (p : Param) (cause : SchemaError) :
    p.defaultFault? = some cause ↔ ∃ reason, p.default = some (.unrepresentable reason) ∧
      cause = .unrepresentableDefault p.name reason := by
  unfold defaultFault?
  cases p.default with
  | none => simp
  | some d => cases d <;> simp [eq_comm]

theorem representable_iff (p : Param) :
    p.Representable ↔ ¬ ∃ reason, p.default = some (.unrepresentable reason) := by
  unfold Representable
  rw [not_exists]

theorem defaultFault?_eq_none_iff (p : Param) : p.defaultFault? = none ↔ p.Representable := by
  unfold defaultFault? Representable
  cases p.default with
  | none => simp
  | some d => cases d <;> simp

theorem schemaFault?_eq_none_iff (index : Nat) (earlier : List String) (p : Param) :
    p.schemaFault? index earlier = none ↔
      ¬ Text.IsBlankText p.name ∧ p.name ∉ earlier ∧ p.Representable := by
  unfold schemaFault?
  by_cases hblank : Text.IsBlankText p.name
  · simp [hblank]
  · by_cases hearlier : p.name ∈ earlier
    · simp [hblank, hearlier]
    · rw [if_neg hblank, if_neg hearlier, defaultFault?_eq_none_iff]
      simp [hblank, hearlier]

/-- The order of the earlier names does not matter. -/
theorem schemaFault?_reverse (index : Nat) (earlier : List String) (p : Param) :
    p.schemaFault? index earlier.reverse = p.schemaFault? index earlier := by
  unfold schemaFault?
  simp only [List.mem_reverse]

end Param

namespace Signature

/-- Arguments without a fault. -/
structure Faultless (ps : List Param) : Prop where
  nonblank : ∀ p ∈ ps, ¬ Text.IsBlankText p.name
  distinct : (paramNames ps).Nodup
  representable : ∀ p ∈ ps, p.Representable

theorem faultless_nil : Faultless [] :=
  ⟨List.forall_mem_nil _, List.nodup_nil, List.forall_mem_nil _⟩

theorem nodup_paramNames_concat {before : List Param} {p : Param} :
    (paramNames (before ++ [p])).Nodup ↔ (paramNames before).Nodup ∧ p.name ∉ paramNames before := by
  unfold paramNames
  rw [List.map_append, List.map_singleton, (List.perm_append_singleton p.name _).nodup_iff,
    List.nodup_cons, and_comm]

theorem not_mem_paramNames_before {before after : List Param} {p : Param}
    (h : (paramNames (before ++ p :: after)).Nodup) : p.name ∉ paramNames before := by
  rw [paramNames, List.map_append, List.map_cons, List.nodup_append] at h
  exact fun hmem => h.2.2 p.name hmem p.name List.mem_cons_self rfl

/-- One more argument has no fault if it has none behind the others. -/
theorem faultless_concat_iff (before : List Param) (p : Param) :
    Faultless (before ++ [p]) ↔
      Faultless before ∧ p.schemaFault? before.length (paramNames before) = none := by
  rw [Param.schemaFault?_eq_none_iff]
  constructor
  · intro h
    obtain ⟨hnonblank, hblank⟩ := List.forall_mem_append.mp h.nonblank
    obtain ⟨hdistinct, hnew⟩ := nodup_paramNames_concat.mp h.distinct
    obtain ⟨hdefaults, hdefault⟩ := List.forall_mem_append.mp h.representable
    rw [List.forall_mem_singleton] at hblank hdefault
    exact ⟨⟨hnonblank, hdistinct, hdefaults⟩, hblank, hnew, hdefault⟩
  · rintro ⟨h, hblank, hnew, hdefault⟩
    exact
      { nonblank := List.forall_mem_append.mpr ⟨h.nonblank, List.forall_mem_singleton.mpr hblank⟩
        distinct := nodup_paramNames_concat.mpr ⟨h.distinct, hnew⟩
        representable :=
          List.forall_mem_append.mpr ⟨h.representable, List.forall_mem_singleton.mpr hdefault⟩ }

/-- Whether `cause` is the fault of the first argument that has one. -/
def FirstFault (ps : List Param) (cause : SchemaError) : Prop :=
  ∃ before p after, ps = before ++ p :: after ∧ Faultless before ∧
    p.schemaFault? before.length (paramNames before) = some cause

theorem faultless_or_firstFault (ps : List Param) : Faultless ps ∨ ∃ cause, FirstFault ps cause := by
  induction ps using List.reverseRecOn with
  | nil => exact Or.inl faultless_nil
  | append_singleton ps p ih =>
    rcases ih with h | ⟨cause, before, q, after, rfl, hbefore, hfault⟩
    · cases hfault : p.schemaFault? ps.length (paramNames ps) with
      | none => exact Or.inl ((faultless_concat_iff ps p).mpr ⟨h, hfault⟩)
      | some cause => exact Or.inr ⟨cause, ps, p, [], rfl, h, hfault⟩
    · exact Or.inr ⟨cause, before, q, after ++ [p], by simp, hbefore, hfault⟩

/-- An argument has a fault exactly if one is blank, repeats an earlier name or has an unusable
default. -/
theorem exists_firstFault_iff (ps : List Param) :
    (∃ cause, FirstFault ps cause) ↔ ∃ before p after, ps = before ++ p :: after ∧
      (Text.IsBlankText p.name ∨ p.name ∈ paramNames before ∨
        ∃ reason, p.default = some (.unrepresentable reason)) := by
  constructor
  · rintro ⟨cause, before, p, after, hps, -, hfault⟩
    refine ⟨before, p, after, hps, ?_⟩
    have hsome : p.schemaFault? before.length (paramNames before) ≠ none := by simp [hfault]
    rw [ne_eq, Param.schemaFault?_eq_none_iff, Param.representable_iff] at hsome
    by_contra hnot
    simp only [not_or] at hnot
    exact hsome hnot
  · rintro ⟨before, p, after, rfl, h⟩
    refine (faultless_or_firstFault _).resolve_left fun hnone => ?_
    have hp : p ∈ before ++ p :: after := List.mem_append_right _ List.mem_cons_self
    rcases h with hblank | hrepeated | hdefault
    · exact hnone.nonblank p hp hblank
    · exact not_mem_paramNames_before hnone.distinct hrepeated
    · exact p.representable_iff.mp (hnone.representable p hp) hdefault

end Signature

end Toolbox
