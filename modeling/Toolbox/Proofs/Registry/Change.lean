import Toolbox.Registry.Operation

/-!
# Changes of a catalogue

Every operation acts on the catalogue through a list of changes that depends on the operation alone
(`Operation.changes`): what an executor answers, the settings and the rest of the registry have no
part in it.  `perform_catalogue` says so for one operation and `run_catalogue` for a run, so an
invariant of catalogues needs one lemma for each kind of change.  The tool that is submitted with a
registration or a declaration is spelled out field by field (`Registration.tool`,
`Declaration.tool`).
-/

namespace Toolbox

/-- A change of a catalogue.  Only a valid tool is ever stored. -/
inductive Change where
  | stored (tool : Tool) (valid : tool.validate = .ok ())
  | removed (name : String)
  | switched (name : String) (enabled : Bool)
  | cleared

/-- Makes a change; one that names no tool of the catalogue does nothing. -/
def Catalogue.apply (c : Catalogue) : Change → Catalogue
  | .stored t _ => (c.insert t).2
  | .removed name => (c.remove? name).getD c
  | .switched name enabled => (c.setEnabled? name enabled).getD c
  | .cleared => {}

/-- Makes several changes in turn. -/
def Catalogue.replay (c : Catalogue) (changes : List Change) : Catalogue :=
  changes.foldl Catalogue.apply c

/-- What registering a tool changes: nothing if the tool is refused. -/
def Tool.changes (t : Tool) : List Change :=
  match h : t.validate with
  | .ok () => [.stored t h]
  | .error _ => []

/-- The tool that is submitted by registering an invoker. -/
def Registration.tool (g : Registration) (i : Invoker) : Tool where
  name := g.name.getD i.signature.name
  description := g.description
  parameters :=
    g.parameters.getD (if g.autoSchema then i.signature.schema.value else .permissive)
  category := g.category
  version := g.version
  enabled := g.enabled
  autoRegister := g.autoRegister
  invoker := i
  provenance := g.provenance

/-- The tool that a declaration stands for. -/
def Declaration.tool (d : Declaration) : Tool where
  name := d.name
  description := d.description
  parameters := d.parameters.getD (if d.autoSchema then d.signature.schema.value else .permissive)
  category := d.category
  version := d.version
  enabled := d.enabled
  autoRegister := d.autoRegister
  invoker := ⟨d.signature, d.body⟩
  provenance := some ⟨d.sourceFile, d.sourceLine⟩

/-- What an operation changes. -/
def Operation.changes : Operation → List Change
  | .register t => t.changes
  | .submit g i => (g.tool i).changes
  | .declare d => d.tool.changes
  | .registerDeclared ds => ds.flatMap fun d => d.tool.changes
  | .unregister name => [.removed name]
  | .setEnabled name enabled => [.switched name enabled]
  | .clear => [.cleared]
  | .attach _ | .detach | .invoke _ _ | .find _ | .contains _ | .names _ | .categoryNames
  | .definitions | .size | .settings | .debugText => []

/-- What a run of operations changes, in order. -/
def changesOf (os : List Operation) : List Change := os.flatMap Operation.changes

theorem changesOf_cons (o : Operation) (os : List Operation) :
    changesOf (o :: os) = o.changes ++ changesOf os := rfl

theorem Operation.changes_registerDeclared_cons (d : Declaration) (ds : List Declaration) :
    (registerDeclared (d :: ds)).changes = d.tool.changes ++ (registerDeclared ds).changes := rfl

theorem Tool.changes_of_valid {t : Tool} (h : t.validate = .ok ()) : t.changes = [.stored t h] := by
  unfold Tool.changes
  split
  next => rfl
  next e he => rw [h] at he; cases he

theorem Tool.changes_of_invalid {t : Tool} {e : ToolError} (h : t.validate = .error e) :
    t.changes = [] := by
  unfold Tool.changes
  split
  next he => rw [h] at he; cases he
  next => rfl

theorem Catalogue.replay_append (c : Catalogue) (hs ks : List Change) :
    c.replay (hs ++ ks) = (c.replay hs).replay ks :=
  List.foldl_append

/-! ## Reports -/

namespace Report

variable {σ α β : Type}

@[simp] theorem map_state (f : α → β) (r : Report σ α) : (r.map f).state = r.state := rfl

@[simp] theorem map_answer (f : α → β) (r : Report σ α) : (r.map f).answer = f r.answer := rfl

@[simp] theorem after_state (es : List Event) (r : Report σ α) : (r.after es).state = r.state := rfl

@[simp] theorem after_answer (es : List Event) (r : Report σ α) :
    (r.after es).answer = r.answer := rfl

@[simp] theorem andThen_state (r : Report σ α) (f : α → σ → Report σ β) :
    (r.andThen f).state = (f r.answer r.state).state := rfl

@[simp] theorem andThen_answer (r : Report σ α) (f : α → σ → Report σ β) :
    (r.andThen f).answer = (f r.answer r.state).answer := rfl

end Report

/-! ## One operation -/

theorem Registration.value_toTool (g : Registration) (i : Invoker) :
    (g.toTool i).value = g.tool i := by
  unfold toTool resolveSchema tool
  cases g.parameters with
  | some n => rfl
  | none => cases g.autoSchema <;> rfl

theorem Registration.registerIn_eq (g : Registration) (r : Registry) (i : Invoker) :
    g.registerIn r i = (r.register (g.tool i)).after (g.toTool i).events := by
  rw [← g.value_toTool]
  rfl

theorem Declaration.registerIn_eq (d : Declaration) (r : Registry) :
    d.registerIn r =
      (r.register d.tool).after (d.registration.toTool d.invoker).events :=
  d.registration.registerIn_eq r d.invoker

namespace Registry

theorem bridge_catalogue (r : Registry) (offer : Offer) :
    (r.bridge offer).state.catalogue = r.catalogue := by
  unfold bridge
  split <;> rfl

theorem bridgeAll_catalogue (r : Registry) (offers : List Offer) :
    (r.bridgeAll offers).state.catalogue = r.catalogue := by
  induction offers generalizing r with
  | nil => rfl
  | cons offer offers ih =>
    rw [bridgeAll, Report.andThen_state, ih]
    exact r.bridge_catalogue offer

theorem register_of_valid (r : Registry) {t : Tool} (h : t.validate = .ok ()) :
    (r.register t).answer = .ok t ∧ (r.register t).state.catalogue = (r.catalogue.insert t).2 := by
  unfold register
  rw [h]
  refine ⟨rfl, ?_⟩
  simp only [Report.after_state, Report.map_state]
  split
  · rw [bridge_catalogue]
  · rfl

theorem register_of_invalid (r : Registry) {t : Tool} {e : ToolError} (h : t.validate = .error e) :
    r.register t = { answer := .error e, state := r } := by
  unfold register
  rw [h]

theorem register_catalogue (r : Registry) (t : Tool) :
    (r.register t).state.catalogue = r.catalogue.replay t.changes := by
  cases h : t.validate with
  | ok u =>
    rw [(r.register_of_valid h).2, Tool.changes_of_valid h]
    rfl
  | error e =>
    rw [r.register_of_invalid h, Tool.changes_of_invalid h]
    rfl

theorem registerIn_catalogue (r : Registry) (d : Declaration) :
    (d.registerIn r).state.catalogue = r.catalogue.replay d.tool.changes := by
  rw [d.registerIn_eq]
  exact r.register_catalogue d.tool

/-- A registration answers the tool that it stores. -/
theorem register_eq_ok_iff (r : Registry) (t stored : Tool) :
    (r.register t).answer = .ok stored ↔ ∃ valid, t.changes = [.stored stored valid] := by
  cases h : t.validate with
  | ok u =>
    rw [(r.register_of_valid h).1, Tool.changes_of_valid h]
    constructor
    · intro he
      cases he
      exact ⟨h, rfl⟩
    · rintro ⟨valid, he⟩
      cases he
      rfl
  | error e => simp [r.register_of_invalid h, Tool.changes_of_invalid h]

/-- Declarations change the catalogue one after the other, and the valid ones are counted. -/
theorem registerDeclared_spec (r : Registry) (ds : List Declaration) :
    (r.registerDeclared ds).state.catalogue =
        r.catalogue.replay (Operation.registerDeclared ds).changes ∧
      (r.registerDeclared ds).answer = (Operation.registerDeclared ds).changes.length := by
  induction ds generalizing r with
  | nil => exact ⟨rfl, rfl⟩
  | cons d ds ih =>
    obtain ⟨hcat, hcount⟩ := ih (d.registerIn r).state
    rw [Operation.changes_registerDeclared_cons, Catalogue.replay_append, ← registerIn_catalogue,
      ← hcat, registerDeclared, List.length_append]
    simp only [Report.andThen_state, Report.andThen_answer]
    cases h : d.tool.validate with
    | ok u =>
      have hans : (d.registerIn r).answer = .ok d.tool := by
        rw [d.registerIn_eq]
        exact (r.register_of_valid h).1
      rw [hans, Tool.changes_of_valid h]
      simp [hcount, Nat.add_comm]
    | error e =>
      have hans : (d.registerIn r).answer = .error e := by
        rw [d.registerIn_eq, r.register_of_invalid h]
        rfl
      rw [hans, Tool.changes_of_invalid h]
      simp [hcount]

theorem unregister_catalogue (r : Registry) (name : String) :
    (r.unregister name).state.catalogue = r.catalogue.apply (.removed name) := by
  show _ = (r.catalogue.remove? name).getD r.catalogue
  unfold unregister
  cases r.catalogue.remove? name <;> rfl

theorem setEnabled_catalogue (r : Registry) (name : String) (enabled : Bool) :
    (r.setEnabled name enabled).state.catalogue = r.catalogue.apply (.switched name enabled) := by
  show _ = (r.catalogue.setEnabled? name enabled).getD r.catalogue
  unfold setEnabled
  cases r.catalogue.setEnabled? name enabled <;> rfl

/-- An operation acts on the catalogue through its changes and in no other way. -/
theorem perform_catalogue (r : Registry) (o : Operation) :
    (r.perform o).state.catalogue = r.catalogue.replay o.changes := by
  cases o with
  | register t => exact r.register_catalogue t
  | submit g i =>
    show (g.registerIn r i).state.catalogue = _
    rw [g.registerIn_eq]
    exact r.register_catalogue (g.tool i)
  | declare d => exact r.registerIn_catalogue d
  | registerDeclared ds => exact (r.registerDeclared_spec ds).1
  | unregister name => exact r.unregister_catalogue name
  | setEnabled name enabled => exact r.setEnabled_catalogue name enabled
  | attach executor => exact bridgeAll_catalogue _ _
  | clear | detach | invoke | find | contains | names | categoryNames | definitions | size
  | settings | debugText => rfl

/-- An operation that registers one tool answers the tool that it stores. -/
theorem perform_eq_ok_iff (r : Registry) (o : Operation) (result : Except ToolError Tool)
    (stored : Tool) (h : (r.perform o).answer = .registered result) :
    result = .ok stored ↔ ∃ valid, o.changes = [.stored stored valid] := by
  cases o with
  | register t =>
    obtain rfl : (r.register t).answer = result := Answer.registered.inj h
    exact r.register_eq_ok_iff t stored
  | submit g i =>
    obtain rfl : (g.registerIn r i).answer = result := Answer.registered.inj h
    rw [g.registerIn_eq]
    exact r.register_eq_ok_iff (g.tool i) stored
  | declare d =>
    obtain rfl : (d.registerIn r).answer = result := Answer.registered.inj h
    rw [d.registerIn_eq]
    exact r.register_eq_ok_iff d.tool stored
  | registerDeclared | unregister | setEnabled | attach | clear | detach | invoke | find | contains
  | names | categoryNames | definitions | size | settings | debugText => nomatch h

/-! ## A run -/

theorem run_catalogue (r : Registry) (os : List Operation) :
    (r.run os).state.catalogue = r.catalogue.replay (changesOf os) := by
  induction os generalizing r with
  | nil => rfl
  | cons o os ih =>
    rw [run, Report.andThen_state, Report.map_state, ih, perform_catalogue, changesOf_cons,
      Catalogue.replay_append]

end Registry

end Toolbox
