import Toolbox.Proofs.Schema.Meaning
import Toolbox.Proofs.Signature.Schema
import Toolbox.Proofs.Signature.Refusal
import Toolbox.Proofs.Signature.Warnings

/-!
# Degraded schemas

A valid signature has no schema only for a default without a JSON form.  It is then described by the
permissive schema, which admits every object of arguments, and the event says so.  Binding still
asks for what is declared: it refuses unexpected names, and it refuses arguments that leave out the
one whose default is unusable (`bind_of_degraded`).  So every such schema promises more than binding
keeps: the empty object is admitted and never bound.
-/

namespace Toolbox

/-- Any members of an object are accepted by the schema of last resort. -/
theorem Schema.accepts_permissive (members : List (String × Json)) :
    permissive.accepts (.object members) = true := rfl

namespace Signature

theorem schema_events_of_trySchema_error {s : Signature} {cause : SchemaError}
    (h : s.trySchema.value = .error cause) :
    s.schema.events = s.trySchema.events ++ [.schemaFailed s.name cause] := by
  rw [events_schema, failures, h]

/-- The first fault of arguments with distinct names that are not blank is a default. -/
theorem FirstFault.exists_default {ps : List Param} {cause : SchemaError} (h : FirstFault ps cause)
    (hblank : ∀ p ∈ ps, ¬ Text.IsBlankText p.name) (hdistinct : (paramNames ps).Nodup) :
    ∃ p ∈ ps, ∃ reason, p.default = some (.unrepresentable reason) ∧
      cause = .unrepresentableDefault p.name reason := by
  obtain ⟨before, p, after, rfl, -, hfault⟩ := h
  have hp : p ∈ before ++ p :: after := List.mem_append_right _ List.mem_cons_self
  rw [Param.schemaFault?, if_neg (hblank p hp),
    if_neg (not_mem_paramNames_before hdistinct)] at hfault
  exact ⟨p, hp, (p.defaultFault?_eq_some_iff cause).mp hfault⟩

/-- A valid signature without a schema is described as accepting any arguments, and that is logged,
with an unusable default as the cause.  Binding accepts them exactly if every argument without a
usable default is supplied, and nothing but arguments; so it always refuses arguments among which
that one is missing. -/
theorem bind_of_degraded {s : Signature} {cause : SchemaError} (hvalid : s.validate = .ok ())
    (hcause : s.trySchema.value = .error cause) :
    s.schema.value = .permissive ∧ .schemaFailed s.name cause ∈ s.schema.events ∧
      (∀ args : Dict Json, s.schema.value.accepts (.ofDict args) = true) ∧
      (∀ args, (∃ bound, s.bind args = .ok bound) ↔ Admits s.arguments args) ∧
      ∃ p ∈ s.arguments, ∃ reason, p.default = some (.unrepresentable reason) ∧
        cause = .unrepresentableDefault p.name reason ∧
        ∀ args, p.name ∉ args.keys →
          ∃ fault, s.bind args = .error (.invalidArguments s.name fault) := by
  have hs : s.WellFormed := s.validate_eq_ok_iff.mp hvalid
  have hdistinct := hs.arguments_distinct
  have hschema := schema_of_trySchema_error hcause
  obtain ⟨p, hp, reason, hdefault, rfl⟩ :=
    ((s.trySchema_eq_error_iff cause).mp hcause).exists_default hs.arguments_nonblank hdistinct
  refine ⟨hschema, ?_, ?_, fun _ => exists_bind_iff_admits hdistinct, p, hp, reason, hdefault, rfl, ?_⟩
  · rw [schema_events_of_trySchema_error hcause]
    exact List.mem_append_right _ (List.mem_singleton_self _)
  · rw [hschema]
    exact fun args => Schema.accepts_permissive args.entries
  · intro args habsent
    have hfallback : p.fallback = none := by rw [Param.fallback, hdefault]
    cases hrefusal : s.refusal? args with
    | some fault => exact ⟨fault, bind_of_refusal hdistinct hrefusal⟩
    | none =>
      have hadmits := (s.refusal?_eq_none_iff args).mp hrefusal
      exact absurd (hadmits.1 p hp hfallback) habsent

/-- A signature with one argument, whose default cannot be written down. -/
def wait : Signature :=
  { name := "wait"
    params := [{ name := "delay", type := .unknown "Duration"
                 default := some (.unrepresentable "not finite") }] }

theorem bind_of_degraded_wait :
    wait.validate = .ok () ∧
      wait.trySchema.value = .error (.unrepresentableDefault "delay" "not finite") ∧
      wait.schema.value = .permissive ∧
      ((∃ bound, wait.bind (.ofList [("delay", .int 5)]) = .ok bound) ↔
        Admits wait.arguments (.ofList [("delay", .int 5)])) := by
  have hvalid : wait.validate = .ok () := by decide +kernel
  have hcause : wait.trySchema.value = .error (.unrepresentableDefault "delay" "not finite") := by
    decide +kernel
  obtain ⟨hschema, -, -, hbind, -⟩ := bind_of_degraded hvalid hcause
  exact ⟨hvalid, hcause, hschema, hbind _⟩

/-- The empty object and one with another member are admitted by the schema and refused. -/
theorem wait_refuses_admitted :
    wait.validate = .ok () ∧ (∃ cause, wait.trySchema.value = .error cause) ∧
      wait.schema.value.accepts (.object []) = true ∧
      wait.bind ∅ = .error (.invalidArguments "wait"
        (.unusableDefault (.unrepresentableDefault "delay" "not finite"))) ∧
      wait.schema.value.accepts (.object [("delay", .int 5), ("unit", .string "s")]) = true ∧
      wait.bind (.ofList [("delay", .int 5), ("unit", .string "s")]) =
        .error (.invalidArguments "wait" (.unexpected "unit")) := by
  refine ⟨by decide +kernel, ⟨.unrepresentableDefault "delay" "not finite", by decide +kernel⟩, ?_⟩
  refine ⟨by decide +kernel, by decide +kernel, by decide +kernel, by decide +kernel⟩

end Signature

end Toolbox
