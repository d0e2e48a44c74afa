import Toolbox.Proofs.Registry.Views
import Toolbox.Proofs.Signature.Refusal
import Toolbox.Proofs.Tool.Validity

/-!
# Invocations

What an invocation does is decided before any body runs: by the name, by whether the tool of that
name is enabled, by the shape of the input and by its signature (`Registry.prepare`).  Either one
body runs, once, on what was bound, or none does and the error is the one that was found
(`Registry.invoke_eq`).  That no other body has a part in it is said by letting all bodies vary:
`RunsBody` and `RunsNone` hold for any bodies that the stored tools might have.
-/

namespace Toolbox

/-- The members of an object by name; null counts as the empty object. -/
def Json.namedArguments? : Json → Option (Dict Json)
  | .object members => some (Dict.ofList members)
  | .null => some ∅
  | .bool _ | .number _ | .string _ | .array _ => none

namespace Invoker

/-- What the body runs on, or why it does not run. -/
def prepare (i : Invoker) (input : Json) : Except ToolError (Dict Json) :=
  match input.namedArguments? with
  | some args => i.signature.bind args
  | none => .error (.invalidArguments i.signature.name (.notAnObject input))

theorem invoke_eq (i : Invoker) (input : Json) :
    i.invoke input = match i.prepare input with
      | .ok bound => i.body bound
      | .error e => pure (.error e) := by
  cases input <;> rfl

theorem prepare_eq_ok_iff (i : Invoker) (input : Json) (bound : Dict Json) :
    i.prepare input = .ok bound ↔
      ∃ args, input.namedArguments? = some args ∧ i.signature.bind args = .ok bound := by
  unfold prepare
  cases input.namedArguments? with
  | none => simp
  | some args => simp

end Invoker

namespace Registry

/-- What the body of the tool of a name runs on, or why no body runs. -/
def prepare (r : Registry) (name : String) (input : Json) : Except ToolError (Dict Json) :=
  match r.find? name with
  | none => .error (.unknownTool name)
  | some t => if t.enabled then t.invoker.prepare input else .error (.disabledTool name)

theorem prepare_eq_ok_iff (r : Registry) (name : String) (input : Json) (bound : Dict Json) :
    r.prepare name input = .ok bound ↔
      ∃ t, r.find? name = some t ∧ t.enabled = true ∧ t.invoker.prepare input = .ok bound := by
  unfold prepare
  cases r.find? name with
  | none => simp
  | some t =>
    cases henabled : t.enabled with
    | true => simp [henabled]
    | false => simp [henabled]

theorem prepare_of_enabled {r : Registry} {name : String} {t : Tool} (h : r.find? name = some t)
    (henabled : t.enabled = true) (input : Json) :
    r.prepare name input = t.invoker.prepare input := by
  unfold prepare
  rw [h]
  exact if_pos henabled

/-- The body of the tool of that name runs on what was prepared, or else no body runs. -/
theorem invoke_eq (r : Registry) (name : String) (input : Json) :
    match r.prepare name input with
    | .ok bound => ∃ t, r.find? name = some t ∧ r.invoke name input = t.invoker.body bound
    | .error e => r.invoke name input = pure (.error e) := by
  unfold prepare invoke
  cases r.find? name with
  | none => rfl
  | some t =>
    cases henabled : t.enabled with
    | false => simp [henabled]
    | true =>
      simp only [henabled, if_true, t.invoker.invoke_eq]
      cases t.invoker.prepare input with
      | error e => rfl
      | ok bound => exact ⟨t, rfl, rfl⟩

/-! ## Bodies that vary -/

/-- The registry with other bodies in place of those of its tools. -/
def withBodies (r : Registry) (bodies : String → Dict Json → Logged (Except ToolError Json)) :
    Registry :=
  { r with catalogue.tools := r.catalogue.tools.mapValues fun t =>
      { t with invoker.body := bodies t.name } }

/-- Whether an invocation runs the body of the tool of that name on `bound`, and does nothing but
that. -/
def RunsBody (r : Registry) (name : String) (input : Json) (bound : Dict Json) : Prop :=
  ∀ bodies, (r.withBodies bodies).invoke name input = bodies name bound

/-- Whether an invocation runs no body and answers with an error. -/
def RunsNone (r : Registry) (name : String) (input : Json) (e : ToolError) : Prop :=
  ∀ bodies, (r.withBodies bodies).invoke name input = pure (.error e)

theorem find?_withBodies (r : Registry)
    (bodies : String → Dict Json → Logged (Except ToolError Json)) (name : String) :
    (r.withBodies bodies).find? name =
      (r.find? name).map fun t => { t with invoker.body := bodies t.name } :=
  r.catalogue.tools.find?_mapValues _ name

/-- What is prepared does not depend on the bodies. -/
theorem prepare_withBodies (r : Registry)
    (bodies : String → Dict Json → Logged (Except ToolError Json)) (name : String) (input : Json) :
    (r.withBodies bodies).prepare name input = r.prepare name input := by
  unfold prepare
  rw [find?_withBodies]
  cases r.find? name <;> rfl

section
variable {r : Registry} (h : r.catalogue.Consistent)
include h

theorem runsBody_of_prepare {name : String} {input : Json} {bound : Dict Json}
    (hprepare : r.prepare name input = .ok bound) : r.RunsBody name input bound := by
  intro bodies
  have hinvoke := (r.withBodies bodies).invoke_eq name input
  rw [prepare_withBodies, hprepare] at hinvoke
  obtain ⟨t, ht, hinvoke⟩ := hinvoke
  rw [find?_withBodies, Option.map_eq_some_iff] at ht
  obtain ⟨t, ht, rfl⟩ := ht
  rw [hinvoke, ← h.keyed name t ht]

omit h in
theorem runsNone_of_prepare {name : String} {input : Json} {e : ToolError}
    (hprepare : r.prepare name input = .error e) : r.RunsNone name input e := by
  intro bodies
  have hinvoke := (r.withBodies bodies).invoke_eq name input
  rw [prepare_withBodies, hprepare] at hinvoke
  exact hinvoke

/-- The body that runs is told apart by bodies that answer with what they are given. -/
theorem runsBody_iff (name : String) (input : Json) (bound : Dict Json) :
    r.RunsBody name input bound ↔ r.prepare name input = .ok bound := by
  refine ⟨fun hruns => ?_, runsBody_of_prepare h⟩
  have hecho := hruns fun _ given => pure (.ok (.object given.entries))
  cases hprepare : r.prepare name input with
  | error e =>
    rw [runsNone_of_prepare hprepare] at hecho
    cases congrArg Logged.value hecho
  | ok bound' =>
    rw [runsBody_of_prepare h hprepare] at hecho
    have hentries : bound'.entries = bound.entries := by
      simpa using congrArg Logged.value hecho
    cases bound'
    cases bound
    cases hentries
    rfl

end

theorem mem_map_name_definitions_iff {r : Registry} (h : r.catalogue.Consistent) (name : String) :
    name ∈ r.definitions.map (·.name) ↔ ∃ t, r.find? name = some t ∧ t.enabled = true := by
  rw [List.mem_map]
  constructor
  · rintro ⟨d, hd, rfl⟩
    obtain ⟨t, ht, henabled, -, -⟩ := (mem_definitions_iff h d).mp hd
    exact ⟨t, ht, henabled⟩
  · rintro ⟨t, ht, henabled⟩
    exact ⟨⟨name, t.description, t.parameters⟩,
      (mem_definitions_iff h _).mpr ⟨t, ht, henabled, rfl, rfl⟩, rfl⟩

theorem distinct_of_find? {r : Registry} (h : r.catalogue.Consistent) {name : String} {t : Tool}
    (ht : r.find? name = some t) : (paramNames t.invoker.signature.arguments).Nodup :=
  (t.validate_eq_ok_iff.mp (h.valid name t ht)).signature.arguments_distinct

/-! ## Runs -/

/-- After any run of operations on a registry without tools an invocation runs one body or none.  It
runs one exactly if the name is among the definitions and the input is an object of arguments, null
for none, that bind against the signature of the tool of that name.  The body is that tool's, and it
is given a value for each argument of the signature and nothing else: the caller's value or else the
default.  Its answer is the answer.  For an absent name and for a disabled tool the input does not
matter, and the registry stays as it is. -/
theorem run_invoke (settings : Settings) (executor : Option Executor) (os : List Operation) :
    let r := ((blank settings executor).run os).state
    ∀ name input,
      ((∃ bound, r.RunsBody name input bound) ∨ ∃ e, r.RunsNone name input e) ∧
      ((∃ bound, r.RunsBody name input bound) ↔
        name ∈ r.definitions.map (·.name) ∧ ∃ t args, r.find? name = some t ∧
          input.namedArguments? = some args ∧ ∃ bound, t.invoker.signature.bind args = .ok bound) ∧
      (∀ bound, r.RunsBody name input bound →
        ∃ t args, r.find? name = some t ∧ input.namedArguments? = some args ∧
          (∀ key, key ∈ bound.keys ↔ key ∈ paramNames t.invoker.signature.arguments) ∧
          (∀ p ∈ t.invoker.signature.arguments,
            bound.find? p.name = (args.find? p.name).or p.fallback) ∧
          r.invoke name input = t.invoker.body bound) ∧
      (r.find? name = none → r.invoke name input = pure (.error (.unknownTool name))) ∧
      (∀ t, r.find? name = some t → t.enabled = false →
        r.invoke name input = pure (.error (.disabledTool name))) ∧
      (r.perform (.invoke name input)).state = r := by
  intro r name input
  have hconsistent : r.catalogue.Consistent := run_blank_consistent settings executor os
  refine ⟨?_, ?_, ?_, ?_, ?_, rfl⟩
  · cases hprepare : r.prepare name input with
    | ok bound => exact Or.inl ⟨bound, runsBody_of_prepare hconsistent hprepare⟩
    | error e => exact Or.inr ⟨e, runsNone_of_prepare hprepare⟩
  · simp only [runsBody_iff hconsistent, prepare_eq_ok_iff, Invoker.prepare_eq_ok_iff,
      mem_map_name_definitions_iff hconsistent]
    constructor
    · rintro ⟨bound, t, ht, henabled, args, hargs, hbind⟩
      exact ⟨⟨t, ht, henabled⟩, t, args, ht, hargs, bound, hbind⟩
    · rintro ⟨⟨t, ht, henabled⟩, t', args, ht', hargs, bound, hbind⟩
      rw [ht] at ht'
      cases ht'
      exact ⟨bound, t, ht, henabled, args, hargs, hbind⟩
  · intro bound hruns
    rw [runsBody_iff hconsistent] at hruns
    have hinvoke := r.invoke_eq name input
    rw [hruns] at hinvoke
    obtain ⟨t, ht, hinvoke⟩ := hinvoke
    obtain ⟨t', ht', -, hprepare⟩ := (r.prepare_eq_ok_iff name input bound).mp hruns
    rw [ht] at ht'
    cases ht'
    obtain ⟨args, hargs, hbind⟩ := (t.invoker.prepare_eq_ok_iff input bound).mp hprepare
    obtain ⟨-, hbinds, hkeys⟩ := Signature.bind_eq_ok (distinct_of_find? hconsistent ht) hbind
    exact ⟨t, args, ht, hargs, hkeys, hbinds.argument, hinvoke⟩
  · intro hnone
    unfold invoke
    rw [hnone]
  · intro t ht hdisabled
    unfold invoke
    simp only [ht, hdisabled, Bool.false_eq_true, if_false]

/-- After any run of operations on a registry without tools an invocation of an enabled tool that
runs no body is refused for its arguments: the input is no object of arguments, or an argument is
absent or unexpected.  The error names the signature of the tool, which is the name the tool was
invoked by only if the two are the same. -/
theorem run_invoke_refused (settings : Settings) (executor : Option Executor)
    (os : List Operation) :
    let r := ((blank settings executor).run os).state
    ∀ name input t, r.find? name = some t → t.enabled = true →
      (∀ bound, ¬ r.RunsBody name input bound) →
      ∃ fault,
        r.invoke name input = pure (.error (.invalidArguments t.invoker.signature.name fault)) ∧
        (input.namedArguments?.elim (some (.notAnObject input)) t.invoker.signature.refusal? =
          some fault) ∧
        ((∃ fault', r.invoke name input = pure (.error (.invalidArguments name fault'))) ↔
          t.invoker.signature.name = name) := by
  intro r name input t ht henabled hnone
  have hconsistent : r.catalogue.Consistent := run_blank_consistent settings executor os
  have hdistinct := distinct_of_find? hconsistent ht
  -- what refuses the input, in the signature's name
  obtain ⟨fault, hfault, hprepare⟩ : ∃ fault,
      input.namedArguments?.elim (some (.notAnObject input)) t.invoker.signature.refusal? =
        some fault ∧
      r.prepare name input = .error (.invalidArguments t.invoker.signature.name fault) := by
    rw [prepare_of_enabled ht henabled, Invoker.prepare]
    cases hargs : input.namedArguments? with
    | none => exact ⟨_, rfl, rfl⟩
    | some args =>
      cases hrefusal : t.invoker.signature.refusal? args with
      | some fault => exact ⟨fault, hrefusal, Signature.bind_of_refusal hdistinct hrefusal⟩
      | none =>
        obtain ⟨bound, hbind, -⟩ := Signature.bind_of_not_refused hdistinct hrefusal
        have hruns : r.RunsBody name input bound := by
          rw [runsBody_iff hconsistent, prepare_of_enabled ht henabled,
            Invoker.prepare_eq_ok_iff]
          exact ⟨args, hargs, hbind⟩
        exact absurd hruns (hnone bound)
  have hinvoke := r.invoke_eq name input
  rw [hprepare] at hinvoke
  refine ⟨fault, hinvoke, hfault, ?_⟩
  constructor
  · rintro ⟨fault', hname⟩
    have herror := congrArg Logged.value (hinvoke.symm.trans hname)
    cases herror
    rfl
  · intro hsame
    rw [hsame] at hinvoke
    exact ⟨fault, hinvoke⟩

/-- A tool that is stored under a name other than its signature's is not named when its arguments
are refused. -/
theorem run_invoke_refused_renamed :
    let add : Signature := { name := "add", params := [{ name := "a", type := .integer }] }
    let sum : Tool := { name := "sum", invoker := ⟨add, fun _ => pure (.ok .null)⟩ }
    let r := ((blank {} none).run [.register sum]).state
    (∃ t, r.find? "sum" = some t ∧ t.enabled = true) ∧
      r.invoke "sum" (.object []) = pure (.error (.invalidArguments "add" (.missing "a"))) ∧
      ∀ fault, r.invoke "sum" (.object []) ≠ pure (.error (.invalidArguments "sum" fault)) := by
  intro add sum r
  have hprepare : r.prepare "sum" (.object []) =
      .error (.invalidArguments "add" (.missing "a")) := by decide +kernel
  have hrefused := r.invoke_eq "sum" (.object [])
  rw [hprepare] at hrefused
  have henabled : (r.find? "sum").map (·.enabled) = some true := by decide +kernel
  refine ⟨Option.map_eq_some_iff.mp henabled, hrefused, ?_⟩
  intro fault h
  rw [hrefused] at h
  simpa using congrArg Logged.value h

end Registry

end Toolbox
