import Toolbox.Proofs.Registry.Delivery
import Toolbox.Registry.Default

/-!
# The default registry is an ordinary one

Whichever call of a host comes first creates the default registry (`Host.call_first`), and from then
on every call reaches that one (`Host.run_opened`).  So the host answers as an ordinary registry
does that was made with the configuration of the first call and given the linked declarations, if
that configuration says so, before anything else (`Host.run_default`).
-/

namespace Toolbox

namespace Host

/-! ## Calls -/

/-- A call by which a host program reaches its default registry. -/
inductive Call where
  | configure (settings : Settings)
  | access
  | perform (operation : Operation)

/-- What a call is answered. -/
inductive Reply where
  | configured (result : Except ToolError Settings)
  | accessed
  | answered (answer : Answer)

/-- The operation that a call does. -/
def Call.operation? : Call → Option Operation
  | .perform o => some o
  | _ => none

/-- The answer of an operation in a reply. -/
def Reply.answer? : Reply → Option Answer
  | .answered answer => some answer
  | _ => none

/-- The operations that calls do, in order. -/
def performed (calls : List Call) : List Operation := calls.filterMap Call.operation?

/-- The configuration that calls choose: only the first call can. -/
def chosen : List Call → Settings
  | .configure settings :: _ => settings
  | _ => {}

/-- What a call of a registry that exists is answered. -/
def replyTo (r : Registry) : Call → Reply
  | .configure _ =>
    .configured (.error (.invalidConfiguration "default tool registry is already initialized"))
  | .access => .accessed
  | .perform o => .answered (r.perform o).answer

def call (p : Host) : Call → Report Host Reply
  | .configure settings => (p.configure settings).map .configured
  | .access => (p.store p.require).map fun _ => .accessed
  | .perform o => (p.perform o).map .answered

/-- Does calls in turn. -/
def run (p : Host) : List Call → Report Host (List Reply)
  | [] => { answer := [], state := p }
  | c :: calls => (p.call c).andThen fun reply p => (p.run calls).map (reply :: ·)

/-- The operations with which a registry starts: it is given the linked declarations, if it is
configured to collect them. -/
def opening (linked : List Declaration) (settings : Settings) : List Operation :=
  if settings.collectDeclared then [.registerDeclared linked] else []

/-! ## A host with a default registry -/

/-- Once a host has a default registry its calls do to that one what they do, and nothing else. -/
theorem run_opened (linked : List Declaration) (r : Registry) (calls : List Call) :
    let report := ({ linked, registry := some r } : Host).run calls
    let ordinary := r.run (performed calls)
    report.state = { linked, registry := some ordinary.state } ∧
      report.answer.filterMap Reply.answer? = ordinary.answer ∧
      report.events = ordinary.events ∧ report.deliveries = ordinary.deliveries ∧
      ∀ k, report.answer[k]? =
        calls[k]?.map (replyTo (r.run (performed (calls.take k))).state) := by
  induction calls generalizing r with
  | nil => exact ⟨rfl, rfl, rfl, rfl, fun k => rfl⟩
  | cons c calls ih =>
    cases c with
    | configure | access =>
      obtain ⟨hstate, hanswer, hevents, hdeliveries, hreplies⟩ := ih r
      refine ⟨hstate, hanswer, hevents, hdeliveries, ?_⟩
      intro k
      cases k with
      | zero => rfl
      | succ k => exact hreplies k
    | perform o =>
      obtain ⟨hstate, hanswer, hevents, hdeliveries, hreplies⟩ := ih (r.perform o).state
      refine ⟨hstate, congrArg (_ :: ·) hanswer, congrArg (_ ++ ·) hevents,
        congrArg (_ ++ ·) hdeliveries, ?_⟩
      intro k
      cases k with
      | zero => rfl
      | succ k => exact hreplies k

/-! ## The first call -/

theorem build_state (linked : List Declaration) (settings : Settings) :
    (build linked settings).state =
      ((Registry.blank settings none).run (opening linked settings)).state := by
  unfold build opening
  cases settings.collectDeclared <;> rfl

/-- Nothing is handed over while the registry is created: no executor is attached to it. -/
theorem build_deliveries (linked : List Declaration) (settings : Settings) :
    (build linked settings).deliveries = [] := by
  unfold build
  cases settings.collectDeclared with
  | false => rfl
  | true =>
    have hoffers := ((Registry.blank settings none).registerDeclared_handsOver linked).offers
    show ((Registry.blank settings none).registerDeclared linked).deliveries ++ [] = []
    rw [List.append_nil, List.map_eq_nil_iff.mp hoffers]

/-- What the first call is answered. -/
def firstReply (r : Registry) : Call → Reply
  | .configure settings => .configured (.ok settings)
  | c => replyTo r c

/-- The first call creates the default registry and then does what it would do to that one, except
that a configuration is accepted. -/
theorem call_first (linked : List Declaration) (c : Call) :
    let first := build linked (chosen [c])
    let later := ({ linked, registry := some first.state } : Host).call c
    ({ linked } : Host).call c =
      { answer := firstReply first.state c, state := later.state,
        events := first.events ++ later.events,
        deliveries := first.deliveries ++ later.deliveries } := by
  intro first later
  cases c with
  | configure | access =>
    -- nothing is left to do on the registry that was created
    have hevents : first.events ++ later.events = first.events := List.append_nil _
    have hdeliveries : first.deliveries ++ later.deliveries = first.deliveries := List.append_nil _
    rw [hevents, hdeliveries]
    rfl
  | perform o => rfl

/-- The calls after the first one find the registry that it created. -/
theorem run_first (linked : List Declaration) (c : Call) (calls : List Call) :
    let settings := chosen (c :: calls)
    let first := ((Registry.blank settings none).run (opening linked settings)).state
    let later := ({ linked, registry := some first } : Host).run (c :: calls)
    ({ linked } : Host).run (c :: calls) =
      { answer := firstReply first c :: later.answer.tail, state := later.state,
        events := (build linked settings).events ++ later.events,
        deliveries := later.deliveries } := by
  intro settings first later
  have hchosen : settings = chosen [c] := by cases c <;> rfl
  have hfirst : first = (build linked (chosen [c])).state := by
    rw [← hchosen]
    exact (build_state linked settings).symm
  simp only [later, hfirst, hchosen, run, Report.andThen, Report.map]
  rw [call_first, List.append_assoc, build_deliveries, List.nil_append]
  rfl

end Host

/-! ## The configuration stays -/

namespace Registry

variable (r : Registry)

theorem bridge_settings (offer : Offer) : (r.bridge offer).state.settings = r.settings := by
  unfold bridge
  split <;> rfl

theorem bridgeAll_settings (offers : List Offer) :
    (r.bridgeAll offers).state.settings = r.settings := by
  induction offers generalizing r with
  | nil => rfl
  | cons offer offers ih =>
    rw [bridgeAll, Report.andThen_state, ih]
    exact r.bridge_settings offer

theorem register_settings (t : Tool) : (r.register t).state.settings = r.settings := by
  unfold register
  split
  next => rfl
  next =>
    simp only [Report.after_state, Report.map_state]
    split
    next => exact bridge_settings _ _
    next => rfl

theorem registerDeclared_settings (ds : List Declaration) :
    (r.registerDeclared ds).state.settings = r.settings := by
  induction ds generalizing r with
  | nil => rfl
  | cons d ds ih =>
    have hhead : (d.registerIn r).state.settings = r.settings :=
      r.register_settings (d.registration.toTool d.invoker).value
    rw [registerDeclared, Report.andThen_state]
    cases (d.registerIn r).answer with
    | ok t => exact (ih _).trans hhead
    | error cause => exact (ih _).trans hhead

/-- No operation changes the configuration. -/
theorem perform_settings (o : Operation) : (r.perform o).state.settings = r.settings := by
  cases o with
  | register t => exact r.register_settings t
  | submit g i => exact r.register_settings (g.toTool i).value
  | declare d => exact r.register_settings (d.registration.toTool d.invoker).value
  | registerDeclared ds => exact r.registerDeclared_settings ds
  | unregister name =>
    show (r.unregister name).state.settings = r.settings
    unfold unregister
    cases r.catalogue.remove? name <;> rfl
  | setEnabled name enabled =>
    show (r.setEnabled name enabled).state.settings = r.settings
    unfold setEnabled
    cases r.catalogue.setEnabled? name enabled <;> rfl
  | attach executor => exact bridgeAll_settings _ _
  | clear | detach | invoke | find | contains | names | categoryNames | definitions | size
  | settings | debugText => rfl

theorem run_settings (os : List Operation) : (r.run os).state.settings = r.settings := by
  induction os generalizing r with
  | nil => rfl
  | cons o os ih => exact (ih _).trans (r.perform_settings o)

end Registry

/-! ## Runs -/

namespace Host

/-- A host program that starts without a default registry makes any calls.  It answers as an
ordinary registry does that was given the linked declarations first, exactly if the configuration
says so, and then the same operations; so the declarations are collected once, and never again.  The
configuration is the one that the first call gives, or else the default one.  A call that gives a
configuration is refused unless it is the first, and then changes nothing. -/
theorem run_default (linked : List Declaration) (calls : List Call) :
    let settings := chosen calls
    let first := ((Registry.blank settings none).run (opening linked settings)).state
    let ordinary := first.run (performed calls)
    let report := ({ linked } : Host).run calls
    report.answer.filterMap Reply.answer? = ordinary.answer ∧
      (∀ k, report.answer[k]? = calls[k]?.map fun c =>
        if k = 0 then firstReply first c
        else replyTo (first.run (performed (calls.take k))).state c) ∧
      ordinary.state.settings = settings ∧
      (calls ≠ [] →
        report.state = { linked, registry := some ordinary.state } ∧
        report.events = (build linked settings).events ++ ordinary.events ∧
        report.deliveries = ordinary.deliveries ∧
        ∀ given, report.state.configure given =
          { answer := .error
              (.invalidConfiguration "default tool registry is already initialized")
            state := report.state, events := [], deliveries := [] }) := by
  intro settings first ordinary report
  have hsettings : ordinary.state.settings = settings :=
    (first.run_settings _).trans (Registry.run_settings _ _)
  cases calls with
  | nil => exact ⟨rfl, fun k => rfl, hsettings, fun h => absurd rfl h⟩
  | cons c calls =>
    obtain ⟨hstate, hanswer, hevents, hdeliveries, hreplies⟩ := run_opened linked first (c :: calls)
    have hreport : report = _ := run_first linked c calls
    rw [hreport]
    refine ⟨?_, ?_, hsettings, fun _ => ⟨hstate, congrArg (_ ++ ·) hevents, hdeliveries, ?_⟩⟩
    · refine Eq.trans ?_ hanswer
      cases c <;> rfl
    · intro k
      cases k with
      | zero => rfl
      | succ k => exact hreplies (k + 1)
    · intro given
      rw [hstate]
      rfl

/-- The registry is created by a call that only reads; a configuration comes too late then, and the
declarations are not collected again when it has been cleared. -/
theorem run_default_created_by_reading :
    let clock : Declaration :=
      { name := "clock", description := "Tells the time.", signature := { name := "clock" }
        body := fun _ => pure (.ok .null), sourceFile := "clock.rs", sourceLine := 1
        modulePath := "clock" }
    let calls : List Call :=
      [.perform (.names none), .configure { collectDeclared := false }, .perform .clear,
        .perform (.names none)]
    let report := ({ linked := [clock] } : Host).run calls
    report.answer[0]? = some (.answered (.names ["clock"])) ∧
      report.answer[1]? = some (.configured
        (.error (.invalidConfiguration "default tool registry is already initialized"))) ∧
      report.answer[3]? = some (.answered (.names [])) := by
  intro clock calls report
  obtain ⟨-, hreplies, -⟩ := run_default [clock] calls
  have hcollected : ((Registry.blank {} none).run (opening [clock] {})).state.names none =
      ["clock"] := by decide +kernel
  have hnames : ∀ {ns ns' : List String}, ns = ns' →
      some (Reply.answered (.names ns)) = some (.answered (.names ns')) :=
    congrArg fun ns => some (Reply.answered (.names ns))
  exact ⟨(hreplies 0).trans (hnames hcollected), (hreplies 1).trans rfl, (hreplies 3).trans rfl⟩

end Host

end Toolbox
