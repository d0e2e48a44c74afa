import Toolbox.Proofs.Registry.Independence
import Toolbox.Proofs.Registry.Invocation
import Toolbox.Proofs.Signature.Warnings

/-!
# The log is an audit trail

At the level INFO a registry reports which names it stores, replaces and takes away.  These events
alone, posted one after the other to an empty ledger (`Event.post`), give the names and categories
that the registry holds at that moment, and each event fits the ledger that it is posted to
(`Event.Fits`).  A change of the catalogue is reported in one way (`Change.report`), whichever
operation makes it (`infos_perform`), so it is enough to post the report of one change
(`posted_report`, `explains_report`); changes in turn follow by induction (`posted_reports`).

While a body runs it may raise events of its own.  They are no part of the registry's log.
-/

namespace Toolbox

theorem infos_append (es fs : List Event) : infos (es ++ fs) = infos es ++ infos fs :=
  List.filter_append ..

/-! ## Making a tool raises no such events -/

namespace Logged

variable {α β : Type}

/-- Whether a computation raises nothing at the level INFO. -/
def Quiet (x : Logged α) : Prop := infos x.events = []

theorem quiet_pure (a : α) : (pure a : Logged α).Quiet := rfl

theorem Quiet.bind {x : Logged α} (h : x.Quiet) {f : α → Logged β} (hf : (f x.value).Quiet) :
    (x >>= f).Quiet := by
  unfold Quiet at h hf ⊢
  rw [events_bind, infos_append, h, hf, List.append_nil]

end Logged

/-- Deriving a schema raises warnings only. -/
theorem Signature.quiet_schema (s : Signature) : s.schema.Quiet := by
  unfold Logged.Quiet infos
  rw [List.filter_eq_nil_iff]
  intro e he
  rw [level_of_mem_events_schema he]
  decide

theorem Registration.quiet_toTool (g : Registration) (i : Invoker) : (g.toTool i).Quiet := by
  refine Logged.Quiet.bind ?_ (Logged.quiet_pure _)
  unfold resolveSchema
  split
  next => exact Logged.quiet_pure _
  next =>
    split
    next => exact i.signature.quiet_schema
    next => exact Logged.quiet_pure _

/-! ## The report of a change -/

/-- How a change of a catalogue is reported. -/
def Change.report (c : Catalogue) : Change → List Event
  | .stored t _ => [Registry.storedEvent t (c.tools.find? t.name)]
  | .removed name => if c.tools.contains name then [.unregistered name] else []
  | .switched _ _ => []
  | .cleared => [.cleared c.tools.size]

/-- How several changes in turn are reported. -/
def Catalogue.reports (c : Catalogue) : List Change → List Event
  | [] => []
  | change :: changes => change.report c ++ (c.apply change).reports changes

theorem Catalogue.reports_append (c : Catalogue) (hs ks : List Change) :
    c.reports (hs ++ ks) = c.reports hs ++ (c.replay hs).reports ks := by
  induction hs generalizing c with
  | nil => rfl
  | cons h hs ih =>
    rw [List.cons_append, reports, reports, ih, List.append_assoc]
    rfl

namespace Registry

variable (r : Registry)

theorem infos_bridge (offer : Offer) : infos (r.bridge offer).events = [] := by
  rw [← infos_unbridged, bridge_events]
  rfl

theorem infos_bridgeAll (offers : List Offer) : infos (r.bridgeAll offers).events = [] := by
  induction offers generalizing r with
  | nil => rfl
  | cons offer offers ih =>
    show infos ((r.bridge offer).events ++ ((r.bridge offer).state.bridgeAll offers).events) = []
    rw [infos_append, infos_bridge, ih]
    rfl

theorem infos_storedEvent (t : Tool) (previous : Option Tool) :
    infos [storedEvent t previous] = [storedEvent t previous] := by
  cases previous <;> rfl

theorem infos_register (t : Tool) :
    infos (r.register t).events = r.catalogue.reports t.changes := by
  cases h : t.validate with
  | error e =>
    rw [r.register_of_invalid h, Tool.changes_of_invalid h]
    rfl
  | ok u =>
    rw [Tool.changes_of_valid h]
    unfold register
    rw [h]
    refine (infos_append _ _).trans ?_
    rw [infos_storedEvent]
    -- handing the tool over is not reported at this level
    refine congrArg ([storedEvent t (r.catalogue.tools.find? t.name)] ++ ·) ?_
    simp only [Report.map]
    split
    next => exact infos_bridge _ _
    next => rfl

theorem infos_registerIn (g : Registration) (i : Invoker) :
    infos (g.registerIn r i).events = r.catalogue.reports (g.tool i).changes := by
  rw [g.registerIn_eq]
  show infos ((g.toTool i).events ++ (r.register (g.tool i)).events) = _
  rw [infos_append, g.quiet_toTool i, List.nil_append, infos_register]

theorem infos_registerDeclared (ds : List Declaration) :
    infos (r.registerDeclared ds).events =
      r.catalogue.reports (Operation.registerDeclared ds).changes := by
  induction ds generalizing r with
  | nil => rfl
  | cons d ds ih =>
    rw [Operation.changes_registerDeclared_cons, Catalogue.reports_append,
      ← r.registerIn_catalogue d, ← ih]
    show infos ((d.registerIn r).events ++ _) = _
    rw [infos_append, Declaration.registerIn, infos_registerIn]
    refine congrArg (r.catalogue.reports d.tool.changes ++ ·) ?_
    -- a declaration that is passed over is warned about
    cases (d.registration.registerIn r d.invoker).answer with
    | ok t => rfl
    | error cause => rfl

theorem infos_unregister (name : String) :
    infos (r.unregister name).events = r.catalogue.reports [.removed name] := by
  show _ = (if r.catalogue.tools.contains name then [Event.unregistered name] else []) ++ []
  unfold unregister Catalogue.remove? Dict.contains
  cases r.catalogue.tools.find? name <;> rfl

theorem infos_setEnabled (name : String) (enabled : Bool) :
    infos (r.setEnabled name enabled).events = [] := by
  unfold setEnabled
  cases r.catalogue.setEnabled? name enabled <;> rfl

end Registry

/-- Whether an operation runs the body of a tool. -/
def Operation.runsBody : Operation → Bool
  | .invoke .. => true
  | _ => false

theorem Operation.exists_of_runsBody {o : Operation} (h : o.runsBody = true) :
    ∃ name input, o = .invoke name input := by
  cases o with
  | invoke name input => exact ⟨name, input, rfl⟩
  | register | submit | declare | registerDeclared | unregister | setEnabled | clear | attach
  | detach | find | contains | names | categoryNames | definitions | size | settings
  | debugText => cases h

namespace Registry

variable (r : Registry)

/-- An operation reports its changes, whatever else it does. -/
theorem infos_perform {o : Operation} (ho : o.runsBody = false) :
    infos (r.perform o).events = r.catalogue.reports o.changes := by
  cases o with
  | register t => exact r.infos_register t
  | submit g i => exact r.infos_registerIn g i
  | declare d => exact r.infos_registerIn d.registration d.invoker
  | registerDeclared ds => exact r.infos_registerDeclared ds
  | unregister name => exact r.infos_unregister name
  | setEnabled name enabled => exact r.infos_setEnabled name enabled
  | attach executor => exact infos_bridgeAll _ _
  | invoke => cases ho
  | clear | detach | find | contains | names | categoryNames | definitions | size | settings
  | debugText => rfl

end Registry

/-! ## The ledger -/

namespace Event

/-- Names with their categories after an event, given those before it. -/
def post (ledger : Dict String) : Event → Dict String
  | registered tool category | reregistered tool category _ => ledger.insert tool category
  | unregistered tool => ledger.erase tool
  | cleared _ => ∅
  | _ => ledger

/-- Whether an event is about the names and categories as they stand. -/
def Fits (ledger : Dict String) : Event → Prop
  | registered tool _ => ledger.find? tool = none
  | reregistered tool _ previous => ledger.find? tool = some previous
  | unregistered tool => ledger.contains tool = true
  | cleared count => count = ledger.size
  | _ => False

end Event

/-- Names with their categories after events in turn. -/
def Dict.posted (ledger : Dict String) (es : List Event) : Dict String := es.foldl Event.post ledger

/-- Whether each event fits what those before it leave. -/
def Dict.Explains (ledger : Dict String) : List Event → Prop
  | [] => True
  | e :: es => e.Fits ledger ∧ (e.post ledger).Explains es

/-- What events leave of an empty ledger. -/
def ledgerAfter (es : List Event) : Dict String := (∅ : Dict String).posted es

/-- The names of the tools with their categories. -/
def Catalogue.ledger (c : Catalogue) : Dict String := c.tools.mapValues (·.category)

theorem Dict.posted_append (ledger : Dict String) (es fs : List Event) :
    ledger.posted (es ++ fs) = (ledger.posted es).posted fs :=
  List.foldl_append

theorem Dict.explains_append (ledger : Dict String) (es fs : List Event) :
    ledger.Explains (es ++ fs) ↔ ledger.Explains es ∧ (ledger.posted es).Explains fs := by
  induction es generalizing ledger with
  | nil => simp [Explains, posted]
  | cons e es ih =>
    rw [List.cons_append, Explains, Explains, ih, and_assoc]
    rfl

theorem Registry.post_storedEvent (ledger : Dict String) (t : Tool) (previous : Option Tool) :
    (storedEvent t previous).post ledger = ledger.insert t.name t.category := by
  cases previous <;> rfl

namespace Catalogue

variable (c : Catalogue)

theorem find?_ledger (name : String) :
    c.ledger.find? name = (c.tools.find? name).map (·.category) :=
  c.tools.find?_mapValues _ name

theorem contains_ledger (name : String) : c.ledger.contains name = c.tools.contains name := by
  rw [Dict.contains, find?_ledger, Option.isSome_map]
  rfl

theorem keys_ledger : c.ledger.keys = c.tools.keys := List.map_map

theorem size_ledger : c.ledger.size = c.tools.size := List.length_map _

/-- The report of a change does to the ledger what the change does to the catalogue. -/
theorem posted_report (change : Change) :
    c.ledger.posted (change.report c) = (c.apply change).ledger := by
  apply Dict.ext_find?
  intro name
  rw [find?_ledger, find?_apply]
  cases change with
  | stored t valid =>
    show ((Registry.storedEvent t _).post c.ledger).find? name = _
    rw [Registry.post_storedEvent, Dict.find?_insert, find?_ledger, Change.effect]
    by_cases hn : name = t.name
    · simp [hn]
    · simp [hn, Ne.symm hn]
  | removed n =>
    have hpost : c.ledger.posted ((Change.removed n).report c) = c.ledger.erase n := by
      show c.ledger.posted (if c.tools.contains n then [.unregistered n] else []) = _
      split
      next => rfl
      next hmiss =>
        rw [← contains_ledger, Dict.contains, Option.isSome_iff_ne_none, not_not] at hmiss
        exact (Dict.erase_eq_self hmiss).symm
    rw [hpost, Dict.find?_erase, find?_ledger, Change.effect]
    by_cases hn : name = n
    · simp [hn]
    · simp [hn, Ne.symm hn]
  | switched n enabled =>
    show c.ledger.find? name = _
    rw [find?_ledger, Change.effect]
    split
    next => cases c.tools.find? name <;> rfl
    next => rfl
  | cleared => rfl

/-- The report of a change is about the catalogue as it stands. -/
theorem explains_report (change : Change) : c.ledger.Explains (change.report c) := by
  cases change with
  | stored t valid =>
    refine ⟨?_, trivial⟩
    have hfind := c.find?_ledger t.name
    show (Registry.storedEvent t (c.tools.find? t.name)).Fits c.ledger
    cases hp : c.tools.find? t.name with
    | none =>
      rw [hp] at hfind
      exact hfind
    | some previous =>
      rw [hp] at hfind
      exact hfind
  | removed n =>
    show c.ledger.Explains (if c.tools.contains n then [.unregistered n] else [])
    split
    next hheld => exact ⟨(c.contains_ledger n).trans hheld, trivial⟩
    next => trivial
  | switched n enabled => trivial
  | cleared => exact ⟨c.size_ledger.symm, trivial⟩

/-- So do the reports of changes in turn, and each event fits what those before it leave. -/
theorem posted_reports (changes : List Change) :
    c.ledger.posted (c.reports changes) = (c.replay changes).ledger ∧
      c.ledger.Explains (c.reports changes) := by
  induction changes generalizing c with
  | nil => exact ⟨rfl, trivial⟩
  | cons change changes ih =>
    obtain ⟨hposted, hexplains⟩ := ih (c.apply change)
    rw [reports, Dict.posted_append, Dict.explains_append, posted_report]
    exact ⟨hposted, c.explains_report change, hexplains⟩

end Catalogue

/-! ## Runs -/

/-- Whether the body of a tool raises nothing at the level INFO. -/
def Tool.Quiet (t : Tool) : Prop := ∀ bound, (t.invoker.body bound).Quiet

/-- The tools of a catalogue stay quiet if only quiet ones are stored. -/
theorem Catalogue.quiet_replay {c : Catalogue} {changes : List Change}
    (hheld : ∀ name t, c.tools.find? name = some t → t.Quiet)
    (hstored : ∀ t valid, .stored t valid ∈ changes → t.Quiet) :
    ∀ name t, (c.replay changes).tools.find? name = some t → t.Quiet := by
  induction changes generalizing c with
  | nil => exact hheld
  | cons change changes ih =>
    refine ih ?_ fun t valid ht => hstored t valid (List.mem_cons_of_mem _ ht)
    intro name t ht
    rw [find?_apply, Change.effect_eq_some_iff] at ht
    rcases ht with ⟨valid, rfl, -⟩ | ⟨-, -, s, hs, rfl⟩
    · exact hstored t valid List.mem_cons_self
    · exact hheld name s hs

namespace Registry

/-- The events that a registry raises itself while it does operations in turn. -/
def log (r : Registry) : List Operation → List Event
  | [] => []
  | o :: os => (if o.runsBody then [] else (r.perform o).events) ++ (r.perform o).state.log os

variable (r : Registry)

theorem infos_log (os : List Operation) :
    infos (r.log os) = r.catalogue.reports (changesOf os) := by
  induction os generalizing r with
  | nil => rfl
  | cons o os ih =>
    rw [log, infos_append, ih, changesOf_cons, Catalogue.reports_append, perform_catalogue]
    refine congrArg (· ++ _) ?_
    cases ho : o.runsBody with
    | false => exact r.infos_perform ho
    | true =>
      obtain ⟨name, input, rfl⟩ := Operation.exists_of_runsBody ho
      rfl

/-- An invocation raises nothing but what the body of the tool of that name raises. -/
theorem invoke_events (name : String) (input : Json) :
    (r.perform (.invoke name input)).events = [] ∨
      ∃ t bound, r.find? name = some t ∧
        (r.perform (.invoke name input)).events = (t.invoker.body bound).events := by
  have hinvoke := r.invoke_eq name input
  have hevents : (r.perform (.invoke name input)).events = (r.invoke name input).events :=
    List.append_nil _
  rw [hevents]
  cases hprepare : r.prepare name input with
  | error e =>
    rw [hprepare] at hinvoke
    exact Or.inl (congrArg Logged.events hinvoke)
  | ok bound =>
    rw [hprepare] at hinvoke
    obtain ⟨t, ht, hbody⟩ := hinvoke
    exact Or.inr ⟨t, bound, ht, congrArg Logged.events hbody⟩

/-- If no body raises such an event then all that a run raises are in the log. -/
theorem infos_run {os : List Operation} (hheld : ∀ name t, r.find? name = some t → t.Quiet)
    (hstored : ∀ t valid, .stored t valid ∈ changesOf os → t.Quiet) :
    infos (r.run os).events = infos (r.log os) := by
  induction os generalizing r with
  | nil => rfl
  | cons o os ih =>
    have hrest :
        infos ((r.perform o).state.run os).events = infos ((r.perform o).state.log os) := by
      refine ih _ ?_ fun t valid ht => hstored t valid (List.mem_append_right _ ht)
      unfold find?
      rw [perform_catalogue]
      exact Catalogue.quiet_replay hheld fun t valid ht =>
        hstored t valid (List.mem_append_left _ ht)
    show infos ((r.perform o).events ++ ((r.perform o).state.run os).events) = _
    rw [log, infos_append, infos_append, hrest]
    refine congrArg (· ++ _) ?_
    split
    next ho =>
      obtain ⟨name, input, rfl⟩ := Operation.exists_of_runsBody ho
      rcases r.invoke_events name input with hnone | ⟨t, bound, ht, hbody⟩
      · rw [hnone]
      · rw [hbody]
        exact hheld name t ht bound
    next => rfl

theorem infos_of_refused {o : Operation} {e : ToolError}
    (h : (r.perform o).answer = .registered (.error e)) : infos (r.perform o).events = [] := by
  have hrefused : ∀ t, (r.register t).answer = .error e →
      r.catalogue.reports t.changes = [] := by
    intro t ht
    cases hvalid : t.validate with
    | ok u =>
      rw [(r.register_of_valid hvalid).1] at ht
      cases ht
    | error e =>
      rw [Tool.changes_of_invalid hvalid]
      rfl
  cases o with
  | register t => exact (r.infos_register t).trans (hrefused t (Answer.registered.inj h))
  | submit g i =>
    have ht : (g.registerIn r i).answer = .error e := Answer.registered.inj h
    rw [g.registerIn_eq] at ht
    exact (r.infos_registerIn g i).trans (hrefused (g.tool i) ht)
  | declare d =>
    have ht : (d.registerIn r).answer = .error e := Answer.registered.inj h
    rw [d.registerIn_eq] at ht
    exact (r.infos_registerIn d.registration d.invoker).trans (hrefused d.tool ht)
  | registerDeclared | unregister | setEnabled | attach | clear | detach | invoke | find | contains
  | names | categoryNames | definitions | size | settings | debugText => nomatch h

theorem infos_of_missed {o : Operation} (h : (r.perform o).answer = .flag false) :
    infos (r.perform o).events = [] := by
  cases o with
  | unregister name =>
    have hmiss : (r.unregister name).answer = false := Answer.flag.inj h
    show infos (r.unregister name).events = []
    unfold unregister at hmiss ⊢
    cases hremove : r.catalogue.remove? name with
    | none => rfl
    | some c =>
      rw [hremove] at hmiss
      cases hmiss
  | setEnabled name enabled => exact r.infos_setEnabled name enabled
  | contains => rfl
  | register | submit | declare | registerDeclared | attach | clear | detach | invoke | find
  | names | categoryNames | definitions | size | settings | debugText => nomatch h

/-- Each declaration that is registered is reported once, and the others are not. -/
theorem length_infos_registerDeclared (ds : List Declaration) :
    (infos (r.registerDeclared ds).events).length = (r.registerDeclared ds).answer := by
  rw [infos_registerDeclared, (r.registerDeclared_spec ds).2]
  generalize r.catalogue = c
  induction ds generalizing c with
  | nil => rfl
  | cons d ds ih =>
    rw [Operation.changes_registerDeclared_cons, Catalogue.reports_append, List.length_append,
      List.length_append, ih]
    refine congrArg (· + _) ?_
    cases h : d.tool.validate with
    | ok u =>
      rw [Tool.changes_of_valid h]
      rfl
    | error e =>
      rw [Tool.changes_of_invalid h]
      rfl

/-- After any run of operations on a registry without tools, the events that it raised at the level
INFO give the names and the categories that it now holds.  Each of them is about the names and
categories as the events before it leave them: a name is registered when it is absent, replaced when
it is present, with the category that it had, and taken away when it is present, and a clearance
counts what there is.  What is refused and what finds no tool raises none.  Only the bodies of tools
may raise others; if none does then these are all. -/
theorem run_audited (settings : Settings) (executor : Option Executor) (os : List Operation) :
    let r := ((blank settings executor).run os).state
    let trail := infos ((blank settings executor).log os)
    let ledger := ledgerAfter trail
    (∀ name, ledger.find? name = (r.find? name).map (·.category)) ∧
      r.names none = ledger.keys ∧
      (∀ category,
        r.names (some category) = (ledger.entries.filter (·.2 = category)).map (·.1)) ∧
      (∀ category, category ∈ r.categoryNames ↔ category ∈ ledger.values) ∧
      (∀ earlier e later, trail = earlier ++ e :: later → e.Fits (ledgerAfter earlier)) ∧
      (∀ o e, (r.perform o).answer = .registered (.error e) → infos (r.perform o).events = []) ∧
      (∀ o, (r.perform o).answer = .flag false → infos (r.perform o).events = []) ∧
      (∀ ds, (r.perform (.registerDeclared ds)).answer =
        .count (infos (r.perform (.registerDeclared ds)).events).length) ∧
      (∀ name input, (r.perform (.invoke name input)).events = [] ∨
        ∃ t bound, r.find? name = some t ∧
          (r.perform (.invoke name input)).events = (t.invoker.body bound).events) ∧
      ((∀ t valid, .stored t valid ∈ changesOf os → t.Quiet) →
        infos ((blank settings executor).run os).events = trail) := by
  intro r trail ledger
  have hconsistent : r.catalogue.Consistent := run_blank_consistent settings executor os
  obtain ⟨hposted, hexplained⟩ := ({} : Catalogue).posted_reports (changesOf os)
  have htrail : trail = ({} : Catalogue).reports (changesOf os) := infos_log _ os
  have hledger : ledger = r.catalogue.ledger := by
    show ledgerAfter trail = _
    rw [htrail, show r.catalogue = _ from run_blank_catalogue settings executor os]
    exact hposted
  have hfind : ∀ name, ledger.find? name = (r.find? name).map (·.category) := by
    intro name
    rw [hledger]
    exact r.catalogue.find?_ledger name
  refine ⟨hfind, ?_, ?_, ?_, ?_, fun o e => r.infos_of_refused, fun o => r.infos_of_missed, ?_,
    r.invoke_events, ?_⟩
  · rw [hledger]
    exact r.catalogue.keys_ledger.symm
  · intro category
    have hascend : ((ledger.entries.filter (·.2 = category)).map (·.1)).Pairwise (· < ·) :=
      ledger.keys_ascending.sublist (List.filter_sublist.map _)
    refine eq_of_ascending (r.names_ascend (some category)) hascend fun name => ?_
    rw [mem_names_of_iff hconsistent, ← Option.map_eq_some_iff, ← hfind, Dict.find?_eq_some_iff]
    simp
  · intro category
    rw [mem_categoryNames_iff hconsistent, Dict.mem_values]
    simp only [hfind, Option.map_eq_some_iff]
  · rintro earlier e later hsplit
    have hexplained : (∅ : Dict String).Explains trail := by
      rw [htrail]
      exact hexplained
    rw [hsplit, Dict.explains_append] at hexplained
    exact hexplained.2.1
  · intro ds
    exact congrArg Answer.count (r.length_infos_registerDeclared ds).symm
  · intro hquiet
    exact infos_run _ (fun name t ht => nomatch ht) hquiet

/-- A tool is registered, replaced in another category and taken away, and then is not found. -/
theorem run_audited_replacement :
    let clock : Tool :=
      { name := "clock", invoker := ⟨{ name := "clock" }, fun _ => pure (.ok .null)⟩ }
    let os : List Operation :=
      [.register clock, .register { clock with category := "time" }, .unregister "clock",
        .unregister "clock"]
    let trail := infos ((blank {} none).log os)
    trail = [.registered "clock" "general", .reregistered "clock" "time" "general",
        .unregistered "clock"] ∧
      (Event.reregistered "clock" "time" "general").Fits
        (ledgerAfter [.registered "clock" "general"]) ∧
      ((blank {} none).run os).state.names none = (ledgerAfter trail).keys := by
  intro clock os trail
  have htrail : trail = [.registered "clock" "general", .reregistered "clock" "time" "general",
      .unregistered "clock"] := by decide +kernel
  obtain ⟨-, hnames, -, -, hfits, -⟩ := run_audited {} none os
  exact ⟨htrail, hfits [.registered "clock" "general"] _ [.unregistered "clock"] htrail, hnames⟩

end Registry

end Toolbox
