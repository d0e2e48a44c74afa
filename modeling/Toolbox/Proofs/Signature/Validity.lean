import Toolbox.Proofs.Text.Characters
import Toolbox.Signature

/-!
# Valid signatures

`Signature.validate` walks the parameters once and stops at the first fault.  What it accepts is
said here without the walk (`Signature.WellFormed`): no name is blank, no name repeats, and only the
first parameter may be a receiver.
-/

namespace Toolbox

namespace Param

/-- The default of a parameter, if it has a JSON form. -/
def fallback (p : Param) : Option Json :=
  match p.default with
  | some (.json value) => some value
  | some (.unrepresentable _) | none => none

/-- Whether a default, if there is one, has a JSON form. -/
def Representable (p : Param) : Prop := ∀ reason, p.default ≠ some (.unrepresentable reason)

theorem defaultValue_of_representable {p : Param} (h : p.Representable) :
    p.defaultValue = .ok p.fallback := by
  unfold defaultValue fallback
  cases hd : p.default with
  | none => rfl
  | some d =>
    cases d with
    | json value => rfl
    | unrepresentable reason => exact absurd hd (h reason)

theorem default_of_representable {p : Param} (h : p.Representable) :
    p.default = p.fallback.map .json := by
  unfold fallback
  cases hd : p.default with
  | none => rfl
  | some d =>
    cases d with
    | json value => rfl
    | unrepresentable reason => exact absurd hd (h reason)

end Param

/-- Names of parameters, in order. -/
def paramNames (ps : List Param) : List String := ps.map (·.name)

theorem mem_paramNames {ps : List Param} {name : String} :
    name ∈ paramNames ps ↔ ∃ p ∈ ps, p.name = name := List.mem_map

theorem not_mem_paramNames {ps : List Param} {name : String} :
    name ∉ paramNames ps ↔ ∀ p ∈ ps, p.name ≠ name := by
  rw [mem_paramNames]
  simp only [not_exists, not_and]

theorem nodup_paramNames_cons {p : Param} {ps : List Param} :
    (paramNames (p :: ps)).Nodup ↔ (∀ q ∈ ps, q.name ≠ p.name) ∧ (paramNames ps).Nodup := by
  rw [← not_mem_paramNames]
  exact List.nodup_cons

namespace Signature

/-- The arguments are the parameters that are no receivers, in their order. -/
theorem arguments_eq (s : Signature) : s.arguments = s.params.filter fun p => p.receiver = false :=
  List.filter_congr fun p _ => by cases p.receiver <;> rfl

/-- What a valid signature is like. -/
structure WellFormed (s : Signature) : Prop where
  nonblank : ∀ p ∈ s.params, ¬ Text.IsBlankText p.name
  distinct : (paramNames s.params).Nodup
  receiver : ∀ p ∈ s.params.tail, p.receiver = false

/-- Behind the first parameter a receiver is a fault. -/
theorem paramFault?_succ_eq_none_iff (signature : String) (index : Nat) (seen : List String)
    (ps : List Param) :
    paramFault? signature (index + 1) seen ps = none ↔
      (∀ p ∈ ps, ¬ Text.IsBlankText p.name ∧ p.receiver = false ∧ p.name ∉ seen) ∧
        (paramNames ps).Nodup := by
  simp only [← Text.isBlankText_eq_false_iff]
  induction ps generalizing index seen with
  | nil => simp [paramFault?, paramNames]
  | cons p ps ih =>
    rw [paramFault?, nodup_paramNames_cons, List.forall_mem_cons]
    by_cases hblank : Text.isBlankText p.name = true
    · simp [hblank]
    · by_cases hreceiver : p.receiver = true
      · simp [hblank, hreceiver]
      · by_cases hseen : p.name ∈ seen
        · simp [hblank, hreceiver, hseen]
        · rw [if_neg hblank, if_neg (fun h => hreceiver h.1), if_neg hseen, ih]
          simp only [Bool.not_eq_true] at hblank hreceiver
          simp only [hblank, hreceiver, hseen, true_and, not_false_eq_true, List.mem_cons, not_or]
          constructor
          · rintro ⟨hall, hnodup⟩
            refine ⟨fun q hq => ?_, fun q hq => (hall q hq).2.2.1, hnodup⟩
            exact ⟨(hall q hq).1, (hall q hq).2.1, (hall q hq).2.2.2⟩
          · rintro ⟨hall, hne, hnodup⟩
            refine ⟨fun q hq => ?_, hnodup⟩
            exact ⟨(hall q hq).1, (hall q hq).2.1, hne q hq, (hall q hq).2.2⟩

theorem fault?_eq_none_iff (s : Signature) : s.fault? = none ↔ s.WellFormed := by
  unfold fault?
  constructor
  · intro h
    cases hps : s.params with
    | nil => exact ⟨by simp [hps], by simp [hps, paramNames], by simp [hps]⟩
    | cons p ps =>
      rw [hps, paramFault?] at h
      split at h
      next => cases h
      next hblank =>
        rw [if_neg (by simp), if_neg (by simp), paramFault?_succ_eq_none_iff] at h
        obtain ⟨hall, hnodup⟩ := h
        refine ⟨?_, ?_, ?_⟩
        · rw [hps, List.forall_mem_cons]
          exact ⟨fun h => hblank (Text.isBlankText_iff.mpr h), fun q hq => (hall q hq).1⟩
        · rw [hps, nodup_paramNames_cons]
          exact ⟨fun q hq hname => (hall q hq).2.2 (List.mem_singleton.mpr hname), hnodup⟩
        · rw [hps]
          exact fun q hq => (hall q hq).2.1
  · rintro ⟨hnonblank, hdistinct, hreceiver⟩
    cases hps : s.params with
    | nil => rfl
    | cons p ps =>
      rw [hps] at hnonblank hdistinct hreceiver
      rw [List.forall_mem_cons] at hnonblank
      rw [nodup_paramNames_cons] at hdistinct
      rw [paramFault?, if_neg fun h => hnonblank.1 (Text.isBlankText_iff.mp h), if_neg (by simp),
        if_neg (by simp), paramFault?_succ_eq_none_iff]
      refine ⟨fun q hq => ⟨hnonblank.2 q hq, hreceiver q hq, ?_⟩, hdistinct.2⟩
      rw [List.mem_singleton]
      exact hdistinct.1 q hq

/-- A signature is accepted exactly if it is well formed. -/
theorem validate_eq_ok_iff (s : Signature) : s.validate = .ok () ↔ s.WellFormed := by
  rw [← fault?_eq_none_iff]
  unfold validate
  cases s.fault? with
  | none => simp
  | some fault => simp

theorem WellFormed.arguments_nonblank {s : Signature} (h : s.WellFormed) :
    ∀ p ∈ s.arguments, ¬ Text.IsBlankText p.name :=
  fun p hp => h.nonblank p (List.filter_sublist.subset hp)

theorem WellFormed.arguments_distinct {s : Signature} (h : s.WellFormed) :
    (paramNames s.arguments).Nodup :=
  h.distinct.sublist (List.filter_sublist.map _)

end Signature

end Toolbox
