import Toolbox.Proofs.Registry.Views

/-!
# What an executor is handed

An executor is handed the tools that ask for it: those stored when it is attached, then each one
that is registered while it stays attached.  `Report.HandsOver` says that a report hands over
certain offers, to the executor that is attached and to no other; it composes, so it is shown of
each operation (`perform_handsOver`) and then of a run (`run_handsOver`).  A run is cut at its latest
attachment (`AttachedLast`).  What was handed over since is never out of date (`Catalogue.Fresh`),
because each change of the catalogue that stores a tool also offers it (`Fresh.apply`).  An offer
presents its tool as it stands at that moment (`Offer.Presents`); whether the tool is enabled may
change later, the rest of it may not (`Offer.Describes`).
-/

namespace Toolbox

/-! ## Offers -/

/-- The executor after further deliveries. -/
def Executor.logged (e : Executor) (ds : List Delivery) : Executor :=
  { e with deliveries := e.deliveries ++ ds }

theorem Executor.logged_nil (e : Executor) : e.logged [] = e := by
  rw [logged, List.append_nil]

theorem Executor.logged_logged (e : Executor) (ds ds' : List Delivery) :
    (e.logged ds).logged ds' = e.logged (ds ++ ds') := by
  unfold logged
  rw [List.append_assoc]

/-- Whether an offer tells all that a tool is, apart from whether it is enabled. -/
structure Offer.Describes (offer : Offer) (t : Tool) : Prop where
  name : offer.name = t.name
  description : offer.description = t.description
  parameters : offer.parameters = t.parameters
  category : offer.category = t.category
  version : offer.version = t.version
  invoker : offer.invoker = t.invoker

/-- Whether an offer tells all that a tool is, as it stands. -/
structure Offer.Presents (offer : Offer) (t : Tool) : Prop extends Offer.Describes offer t where
  enabled : offer.enabled = t.enabled

theorem Tool.offer_presents (t : Tool) : t.offer.Presents t := ⟨⟨rfl, rfl, rfl, rfl, rfl, rfl⟩, rfl⟩

/-- The tool that a change stores and that asks to be offered. -/
def Change.asking? : Change → Option Tool
  | .stored t _ => if t.autoRegister then some t else none
  | _ => none

/-- The tools that changes store and that ask to be offered, in order. -/
def askingOf (changes : List Change) : List Tool := changes.filterMap Change.asking?

theorem mem_askingOf {changes : List Change} {t : Tool} (h : t ∈ askingOf changes) :
    ∃ valid, .stored t valid ∈ changes ∧ t.autoRegister = true := by
  obtain ⟨change, hmem, hasking⟩ := List.mem_filterMap.mp h
  cases change with
  | stored t' valid =>
    rw [Change.asking?] at hasking
    split at hasking
    next hauto =>
      cases hasking
      exact ⟨valid, hmem, hauto⟩
    next => cases hasking
  | removed | switched | cleared => cases hasking

/-- The offers that changes make, in order. -/
def offersOf (changes : List Change) : List Offer := (askingOf changes).map Tool.offer

theorem offersOf_append (hs ks : List Change) :
    offersOf (hs ++ ks) = offersOf hs ++ offersOf ks := by
  rw [offersOf, askingOf, List.filterMap_append, List.map_append]
  rfl

/-- The tools of a registry that ask to be offered. -/
def Registry.asking (r : Registry) : List Tool := r.catalogue.tools.values.filter (·.autoRegister)

/-- Offers that were made of tools present these tools, one after the other. -/
theorem forall₂_presents {ds : List Delivery} {ts : List Tool}
    (h : ds.map (·.offer) = ts.map Tool.offer) :
    List.Forall₂ (fun d t => d.offer.Presents t) ds ts := by
  have hequal : List.Forall₂ (fun d t => d.offer = t.offer) ds ts := by
    rw [← List.forall₂_map_left_iff (R := fun o t => o = Tool.offer t), h,
      List.forall₂_map_left_iff, List.forall₂_same]
    exact fun _ _ => rfl
  exact hequal.imp fun d t hoffer => hoffer ▸ t.offer_presents

/-- Whether an operation leaves the executor attached that is. -/
def Operation.keepsExecutor : Operation → Bool
  | .attach _ | .detach => false
  | _ => true

/-! ## Handing over -/

namespace Report

variable {α β : Type}

/-- Whether what happens to a registry hands over these offers, in order, to the executor that is
attached, if one is, and to no other. -/
structure HandsOver (before : Registry) (offers : List Offer) (report : Report Registry α) :
    Prop where
  offers : report.deliveries.map (·.offer) = if before.executor.isSome then offers else []
  executor : report.state.executor = before.executor.map (·.logged report.deliveries)

variable {r s : Registry} {offers offers' : List Offer} {report : Report Registry α}

theorem HandsOver.map (h : report.HandsOver r offers) (f : α → β) :
    (report.map f).HandsOver r offers :=
  ⟨h.offers, h.executor⟩

theorem HandsOver.after (h : report.HandsOver r offers) (es : List Event) :
    (report.after es).HandsOver r offers :=
  ⟨h.offers, h.executor⟩

/-- Only the executor of the registry before counts. -/
theorem HandsOver.of_executor_eq (h : report.HandsOver s offers) (hs : s.executor = r.executor) :
    report.HandsOver r offers :=
  ⟨hs ▸ h.offers, hs ▸ h.executor⟩

/-- What leaves the executor alone hands nothing over. -/
theorem handsOver_nil {report : Report Registry α} (h : report.state.executor = r.executor)
    (hdeliveries : report.deliveries = []) : report.HandsOver r [] := by
  refine ⟨?_, ?_⟩
  · rw [hdeliveries, List.map_nil, ite_self]
  · rw [h, hdeliveries]
    cases r.executor with
    | none => rfl
    | some e => exact congrArg some e.logged_nil.symm

/-- What is delivered is one of the offers, and reaches the executor that is attached. -/
theorem HandsOver.mem (h : report.HandsOver r offers) {d : Delivery} (hd : d ∈ report.deliveries) :
    d.offer ∈ offers ∧ ∃ e, report.state.executor = some e ∧ d ∈ e.deliveries := by
  have hmem : d.offer ∈ report.deliveries.map (·.offer) := List.mem_map_of_mem hd
  rw [h.offers] at hmem
  rw [h.executor]
  cases hr : r.executor with
  | none =>
    rw [hr] at hmem
    cases hmem
  | some e =>
    rw [hr] at hmem
    exact ⟨hmem, _, rfl, List.mem_append_right _ hd⟩

theorem HandsOver.andThen (h : report.HandsOver r offers) {f : α → Registry → Report Registry β}
    (hf : (f report.answer report.state).HandsOver report.state offers') :
    (report.andThen f).HandsOver r (offers ++ offers') := by
  have hsome : report.state.executor.isSome = r.executor.isSome := by
    rw [h.executor, Option.isSome_map]
  refine ⟨?_, ?_⟩
  · show (report.deliveries ++ (f report.answer report.state).deliveries).map (·.offer) = _
    rw [List.map_append, h.offers, hf.offers, hsome]
    cases r.executor.isSome <;> rfl
  · show (f report.answer report.state).state.executor = _
    rw [hf.executor, h.executor]
    cases r.executor with
    | none => rfl
    | some e => exact congrArg some (e.logged_logged _ _)

end Report

namespace Registry

variable (r : Registry)

theorem bridge_handsOver (offer : Offer) : (r.bridge offer).HandsOver r [offer] := by
  unfold bridge
  cases h : r.executor with
  | none => exact ⟨by simp [h], by simp [h]⟩
  | some e => exact ⟨by simp [h, Executor.receive], by simp [h, Executor.receive, Executor.logged]⟩

theorem bridgeAll_handsOver (offers : List Offer) : (r.bridgeAll offers).HandsOver r offers := by
  induction offers generalizing r with
  | nil => exact Report.handsOver_nil rfl rfl
  | cons offer offers ih => exact (r.bridge_handsOver offer).andThen (ih _)

/-- Registering hands over the tool if it is stored and asks for it. -/
theorem register_handsOver (t : Tool) : (r.register t).HandsOver r (offersOf t.changes) := by
  cases h : t.validate with
  | error e =>
    rw [r.register_of_invalid h, Tool.changes_of_invalid h]
    exact Report.handsOver_nil rfl rfl
  | ok u =>
    rw [Tool.changes_of_valid h]
    unfold register
    rw [h]
    refine Report.HandsOver.after (Report.HandsOver.map ?_ _) _
    -- the catalogue has changed by now, but not the executor
    cases hauto : t.autoRegister with
    | true =>
      have hoffers : offersOf [.stored t h] = [t.offer] := by
        simp [offersOf, askingOf, Change.asking?, hauto]
      rw [hoffers]
      exact (bridge_handsOver _ t.offer).of_executor_eq rfl
    | false =>
      have hoffers : offersOf [.stored t h] = [] := by
        simp [offersOf, askingOf, Change.asking?, hauto]
      rw [hoffers]
      exact Report.handsOver_nil rfl rfl

theorem registerIn_handsOver (g : Registration) (i : Invoker) :
    (g.registerIn r i).HandsOver r (offersOf (g.tool i).changes) := by
  rw [g.registerIn_eq]
  exact (r.register_handsOver (g.tool i)).after _

theorem registerDeclared_handsOver (ds : List Declaration) :
    (r.registerDeclared ds).HandsOver r
      (offersOf (Operation.registerDeclared ds).changes) := by
  induction ds generalizing r with
  | nil => exact Report.handsOver_nil rfl rfl
  | cons d ds ih =>
    have hhead : (d.registerIn r).HandsOver r (offersOf d.tool.changes) :=
      r.registerIn_handsOver d.registration d.invoker
    rw [Operation.changes_registerDeclared_cons, offersOf_append, registerDeclared]
    apply hhead.andThen
    cases (d.registerIn r).answer with
    | ok t => exact (ih _).map _
    | error cause => exact (ih _).after _

/-- An operation that keeps the executor hands over what it stores, as far as it asks for it. -/
theorem perform_handsOver {o : Operation} (h : o.keepsExecutor = true) :
    (r.perform o).HandsOver r (offersOf o.changes) := by
  cases o with
  | register t => exact (r.register_handsOver t).map _
  | submit g i => exact (r.registerIn_handsOver g i).map _
  | declare d => exact (r.registerIn_handsOver d.registration d.invoker).map _
  | registerDeclared ds => exact (r.registerDeclared_handsOver ds).map _
  | unregister name =>
    refine Report.HandsOver.map ?_ _
    unfold unregister
    cases r.catalogue.remove? name <;> exact Report.handsOver_nil rfl rfl
  | setEnabled name enabled =>
    refine Report.HandsOver.map ?_ _
    unfold setEnabled
    cases r.catalogue.setEnabled? name enabled <;> exact Report.handsOver_nil rfl rfl
  | attach | detach => cases h
  | clear | invoke | find | contains | names | categoryNames | definitions | size | settings
  | debugText => exact Report.handsOver_nil rfl rfl

/-- Attaching an executor hands over the tools that are stored, as far as they ask for it. -/
theorem attach_handsOver (executor : Executor) :
    (r.attach executor).HandsOver { r with executor := some executor }
      (r.asking.map Tool.offer) :=
  (bridgeAll_handsOver { r with executor := some executor } _).map fun _ =>
    (r.asking.map Tool.offer).length

theorem run_handsOver {os : List Operation} (h : ∀ o ∈ os, o.keepsExecutor = true) :
    (r.run os).HandsOver r (offersOf (changesOf os)) := by
  induction os generalizing r with
  | nil => exact Report.handsOver_nil rfl rfl
  | cons o os ih =>
    rw [List.forall_mem_cons] at h
    rw [changesOf_cons, offersOf_append]
    exact (r.perform_handsOver h.1).andThen ((ih _ h.2).map _)

/-! ## The latest attachment -/

theorem run_append_state (os ps : List Operation) :
    (r.run (os ++ ps)).state = ((r.run os).state.run ps).state := by
  induction os generalizing r with
  | nil => rfl
  | cons o os ih => exact ih _

/-- The latest attachment in a run of operations on a registry without tools: the executor that was
attached, the registry that it was attached to, and the operations since.  Unless another one was
attached later, it is the executor that was there to begin with. -/
inductive AttachedLast (settings : Settings) (initial : Option Executor) :
    List Operation → Executor → Registry → List Operation → Prop
  | initially (executor : Executor) (os : List Operation) (first : initial = some executor)
      (keep : ∀ o ∈ os, o.keepsExecutor = true) :
      AttachedLast settings initial os executor (blank settings initial) os
  | later (before : List Operation) (executor : Executor) (os : List Operation)
      (keep : ∀ o ∈ os, o.keepsExecutor = true) :
      AttachedLast settings initial (before ++ .attach executor :: os) executor
        ((blank settings initial).run before).state os

variable {settings : Settings} {initial : Option Executor}

theorem AttachedLast.concat {os since : List Operation} {executor : Executor} {moment : Registry}
    (h : AttachedLast settings initial os executor moment since) {o : Operation}
    (ho : o.keepsExecutor = true) :
    AttachedLast settings initial (os ++ [o]) executor moment (since ++ [o]) := by
  have hkeep : ∀ {ps : List Operation}, (∀ p ∈ ps, p.keepsExecutor = true) →
      ∀ p ∈ ps ++ [o], p.keepsExecutor = true := by
    intro ps hps
    rw [List.forall_mem_append, List.forall_mem_singleton]
    exact ⟨hps, ho⟩
  cases h with
  | initially _ _ first keep => exact .initially executor _ first (hkeep keep)
  | later before _ _ keep =>
    rw [List.append_assoc, List.cons_append]
    exact .later before executor _ (hkeep keep)

/-- An executor that is attached was attached. -/
theorem exists_attachedLast {os : List Operation} {executor : Executor}
    (h : ((blank settings initial).run os).state.executor = some executor) :
    ∃ attached moment since, AttachedLast settings initial os attached moment since := by
  induction os using List.reverseRecOn generalizing executor with
  | nil => exact ⟨executor, _, [], .initially executor [] h (List.forall_mem_nil _)⟩
  | append_singleton os o ih =>
    rw [run_append_state] at h
    cases ho : o.keepsExecutor with
    | true =>
      have hstep := (perform_handsOver ((blank settings initial).run os).state ho).executor
      rw [show (Registry.perform _ o).state.executor = some executor from h] at hstep
      obtain ⟨held, hheld, -⟩ := Option.map_eq_some_iff.mp hstep.symm
      obtain ⟨attached, moment, since, hlast⟩ := ih hheld
      exact ⟨attached, moment, since ++ [o], hlast.concat ho⟩
    | false =>
      cases o with
      | attach attached => exact ⟨attached, _, [], .later os attached [] (List.forall_mem_nil _)⟩
      | detach => cases h
      | register | submit | declare | registerDeclared | unregister | setEnabled | clear | invoke
      | find | contains | names | categoryNames | definitions | size | settings | debugText =>
        cases ho

/-- Since its latest attachment an executor has received an offer for every tool that was stored
then and asks for it, and after these the offers of the operations since. -/
theorem AttachedLast.received {os since : List Operation} {attached : Executor} {moment : Registry}
    (h : AttachedLast settings initial os attached moment since) :
    ∃ received : List Delivery,
      ((blank settings initial).run os).state.executor = some (attached.logged received) ∧
      received.map (·.offer) = moment.asking.map Tool.offer ++ offersOf (changesOf since) := by
  cases h with
  | initially _ _ first keep =>
    have hrun := run_handsOver (blank settings initial) keep
    refine ⟨_, hrun.executor.trans ?_, hrun.offers.trans ?_⟩
    · rw [show (blank settings initial).executor = some attached from first]
      rfl
    · rw [show (blank settings initial).executor = some attached from first]
      rfl
  | later before _ _ keep =>
    let moment := ((blank settings initial).run before).state
    have hrun := (moment.attach_handsOver attached).andThen
      (f := fun _ r => r.run since) (run_handsOver _ keep)
    refine ⟨_, ?_, hrun.offers⟩
    rw [run_append_state]
    exact hrun.executor

end Registry

/-! ## Nothing is out of date -/

/-- The last of several offers under a name. -/
def lastOffer? (name : String) (offers : List Offer) : Option Offer :=
  (offers.filter (·.name == name)).getLast?

theorem lastOffer?_append (name : String) (xs ys : List Offer) :
    lastOffer? name (xs ++ ys) = (lastOffer? name ys).or (lastOffer? name xs) := by
  unfold lastOffer?
  rw [List.filter_append, List.getLast?_append]

namespace Catalogue

variable {c : Catalogue}

/-- Whether the last offer under the name of each tool that asks for offers describes it. -/
def Fresh (c : Catalogue) (offers : List Offer) : Prop :=
  ∀ name t, c.tools.find? name = some t → t.autoRegister = true →
    ∃ offer, lastOffer? name offers = some offer ∧ offer.Describes t

/-- A change that stores a tool offers it, and no change makes another offer. -/
theorem Fresh.apply {offers : List Offer} (h : c.Fresh offers) (change : Change) :
    (c.apply change).Fresh (offers ++ change.asking?.toList.map Tool.offer) := by
  intro name t ht hauto
  rw [find?_apply, Change.effect_eq_some_iff] at ht
  rw [lastOffer?_append]
  rcases ht with ⟨valid, rfl, hname⟩ | ⟨hstores, -, s, hs, rfl⟩
  · refine ⟨t.offer, ?_, t.offer_presents.toDescribes⟩
    have hoffer : lastOffer? name [t.offer] = some t.offer := by
      simp [lastOffer?, Tool.offer, hname]
    rw [Change.asking?, if_pos hauto, Option.toList_some, List.map_singleton, hoffer,
      Option.some_or]
  · obtain ⟨offer, hlast, hdescribes⟩ := h name s hs hauto
    have hother : lastOffer? name (change.asking?.toList.map Tool.offer) = none := by
      cases change with
      | stored t' valid =>
        have hne : t'.name ≠ name := by simpa [Change.stores] using hstores
        rw [Change.asking?]
        split
        next => simp [lastOffer?, Tool.offer, hne]
        next => rfl
      | removed | switched | cleared => rfl
    rw [hother, Option.none_or]
    exact ⟨offer, hlast, ⟨hdescribes.name, hdescribes.description, hdescribes.parameters,
      hdescribes.category, hdescribes.version, hdescribes.invoker⟩⟩

theorem Fresh.replay {offers : List Offer} (h : c.Fresh offers) (changes : List Change) :
    (c.replay changes).Fresh (offers ++ offersOf changes) := by
  induction changes generalizing c offers with
  | nil => rwa [show offersOf [] = [] from rfl, List.append_nil]
  | cons change changes ih =>
    have hsplit : offersOf (change :: changes) =
        change.asking?.toList.map Tool.offer ++ offersOf changes := by
      unfold offersOf askingOf
      rw [List.filterMap_cons]
      cases change.asking? <;> rfl
    rw [hsplit, ← List.append_assoc]
    exact ih (h.apply change)

end Catalogue

namespace Registry

variable {r : Registry}

theorem mem_asking_iff (h : r.catalogue.Consistent) (t : Tool) :
    t ∈ r.asking ↔ r.find? t.name = some t ∧ t.autoRegister = true := by
  unfold asking
  rw [List.mem_filter, Dict.mem_values]
  constructor
  · rintro ⟨⟨name, hfind⟩, hauto⟩
    obtain rfl : t.name = name := h.keyed name t hfind
    exact ⟨hfind, hauto⟩
  · rintro ⟨hfind, hauto⟩
    exact ⟨⟨t.name, hfind⟩, hauto⟩

/-- No tool is offered twice on attachment. -/
theorem asking_names_nodup (h : r.catalogue.Consistent) : (r.asking.map (·.name)).Nodup := by
  have hkeys : (r.catalogue.tools.values.map (·.name)).Nodup := by
    rw [h.map_name_values]
    exact r.catalogue.tools.keys_nodup
  exact hkeys.sublist (List.filter_sublist.map _)

theorem fresh_asking (h : r.catalogue.Consistent) :
    r.catalogue.Fresh (r.asking.map Tool.offer) := by
  intro name t ht hauto
  have hname : t.name = name := h.keyed name t ht
  have hasking : t ∈ r.asking := (mem_asking_iff h t).mpr ⟨hname ▸ ht, hauto⟩
  have hmem : t.offer ∈ (r.asking.map Tool.offer).filter (·.name == name) :=
    List.mem_filter.mpr ⟨List.mem_map_of_mem hasking, beq_iff_eq.mpr hname⟩
  have hlast := List.getLast?_eq_some_getLast (List.ne_nil_of_mem hmem)
  -- whatever offer under the name comes last, it is that of the tool
  obtain ⟨hoffered, hsame⟩ := List.mem_filter.mp (List.getLast_mem (List.ne_nil_of_mem hmem))
  obtain ⟨s, hs, hoffer⟩ := List.mem_map.mp hoffered
  rw [← hoffer] at hlast hsame
  have hsname : s.name = name := beq_iff_eq.mp hsame
  obtain rfl : s = t := by
    have hfind := ((mem_asking_iff h s).mp hs).1
    rw [hsname] at hfind
    exact Option.some.inj (hfind.symm.trans ht)
  exact ⟨s.offer, hlast, s.offer_presents.toDescribes⟩

/-! ## Runs -/

/-- What an operation delivers reaches the executor that is then attached, and presents a tool that
asks for it: one that the operation stores, or on attachment one that was stored. -/
theorem perform_delivers (h : r.catalogue.Consistent) {o : Operation} {d : Delivery}
    (hd : d ∈ (r.perform o).deliveries) :
    (∃ e, (r.perform o).state.executor = some e ∧ d ∈ e.deliveries) ∧
      ∃ t, t.autoRegister = true ∧ d.offer.Presents t ∧
        ((∃ valid, .stored t valid ∈ o.changes) ∨
          ((∃ e, o = .attach e) ∧ r.find? t.name = some t)) := by
  cases ho : o.keepsExecutor with
  | true =>
    obtain ⟨hoffer, hreached⟩ := (r.perform_handsOver ho).mem hd
    obtain ⟨t, hasking, ht⟩ := List.mem_map.mp hoffer
    obtain ⟨valid, hstored, hauto⟩ := mem_askingOf hasking
    exact ⟨hreached, t, hauto, ht ▸ t.offer_presents, Or.inl ⟨valid, hstored⟩⟩
  | false =>
    cases o with
    | attach e =>
      obtain ⟨hoffer, hreached⟩ := ((r.attach_handsOver e).map Answer.count).mem hd
      obtain ⟨t, hasking, ht⟩ := List.mem_map.mp hoffer
      obtain ⟨hfind, hauto⟩ := (mem_asking_iff h t).mp hasking
      exact ⟨hreached, t, hauto, ht ▸ t.offer_presents, Or.inr ⟨⟨e, rfl⟩, hfind⟩⟩
    | detach => cases hd
    | register | submit | declare | registerDeclared | unregister | setEnabled | clear | invoke
    | find | contains | names | categoryNames | definitions | size | settings | debugText =>
      cases ho

theorem perform_deliveries_of_detached (h : r.executor = none) {o : Operation}
    (ho : ∀ e, o ≠ .attach e) : (r.perform o).deliveries = [] := by
  cases hkeeps : o.keepsExecutor with
  | true =>
    have hoffers := (r.perform_handsOver hkeeps).offers
    rw [h] at hoffers
    exact List.map_eq_nil_iff.mp hoffers
  | false =>
    cases o with
    | attach e => exact absurd rfl (ho e)
    | detach => rfl
    | register | submit | declare | registerDeclared | unregister | setEnabled | clear | invoke
    | find | contains | names | categoryNames | definitions | size | settings | debugText =>
      cases hkeeps

/-- The offers since the latest attachment describe the tools that are stored now. -/
theorem AttachedLast.fresh {settings : Settings} {initial : Option Executor}
    {os since : List Operation} {attached : Executor} {moment : Registry}
    (h : AttachedLast settings initial os attached moment since) :
    ((blank settings initial).run os).state.catalogue.Fresh
      (moment.asking.map Tool.offer ++ offersOf (changesOf since)) := by
  cases h with
  | initially =>
    rw [run_catalogue]
    exact (fresh_asking Catalogue.consistent_empty).replay _
  | later before =>
    have hmoment := run_blank_consistent settings initial before
    rw [run_append_state, run, Report.andThen_state, Report.map_state, run_catalogue,
      perform_catalogue]
    exact (fresh_asking hmoment).replay _

theorem AttachedLast.consistent {settings : Settings} {initial : Option Executor}
    {os since : List Operation} {attached : Executor} {moment : Registry}
    (h : AttachedLast settings initial os attached moment since) :
    moment.catalogue.Consistent := by
  cases h with
  | initially => exact Catalogue.consistent_empty
  | later before => exact run_blank_consistent settings initial before

/-- After any run of operations on a registry without tools, perhaps with an executor, the executor
that is attached has received, since its latest attachment, one offer for each tool that was stored
then and asks for it, which is the number that attaching answered, and after these one offer for
each registration since that succeeded and asks for it, in order, and nothing else; each offer
presents its tool as it stood at that moment.  An operation stores a tool for each registration in
it that succeeds.  The last offer under the name of a tool that is stored now and asks for it
describes that tool.  Nothing is delivered but such offers, and nothing while no executor is
attached. -/
theorem run_delivers (settings : Settings) (initial : Option Executor) (os : List Operation) :
    let r := ((blank settings initial).run os).state
    (∀ executor, r.executor = some executor →
      ∃ attached moment since stored received,
        AttachedLast settings initial os attached moment since ∧
        executor = attached.logged received ∧
        List.Forall₂ (fun d t => d.offer.Presents t) received
          (stored ++ askingOf (changesOf since)) ∧
        (∀ t, t ∈ stored ↔ moment.find? t.name = some t ∧ t.autoRegister = true) ∧
        (stored.map (·.name)).Nodup ∧ (moment.attach attached).answer = stored.length ∧
        ∀ name t, r.find? name = some t → t.autoRegister = true →
          ∃ offer, lastOffer? name (received.map (·.offer)) = some offer ∧ offer.Describes t) ∧
      (∀ o result stored, (r.perform o).answer = .registered result →
        (result = .ok stored ↔ ∃ valid, o.changes = [.stored stored valid])) ∧
      (∀ ds, (r.perform (.registerDeclared ds)).answer =
        .count (Operation.registerDeclared ds).changes.length) ∧
      (∀ o d, d ∈ (r.perform o).deliveries →
        (∃ e, (r.perform o).state.executor = some e ∧ d ∈ e.deliveries) ∧
          ∃ t, t.autoRegister = true ∧ d.offer.Presents t ∧
            ((∃ valid, .stored t valid ∈ o.changes) ∨
              ((∃ e, o = .attach e) ∧ r.find? t.name = some t))) ∧
      ∀ o, r.executor = none → (∀ e, o ≠ .attach e) → (r.perform o).deliveries = [] := by
  intro r
  refine ⟨?_, ?_, ?_, ?_, ?_⟩
  · intro executor hexecutor
    obtain ⟨attached, moment, since, hlast⟩ := exists_attachedLast hexecutor
    obtain ⟨received, hheld, hreceived⟩ := hlast.received
    have hpresents : List.Forall₂ (fun d t => d.offer.Presents t) received
        (moment.asking ++ askingOf (changesOf since)) :=
      forall₂_presents (hreceived.trans List.map_append.symm)
    refine ⟨attached, moment, since, moment.asking, received, hlast, ?_, hpresents,
      mem_asking_iff hlast.consistent, asking_names_nodup hlast.consistent, ?_, ?_⟩
    · exact Option.some.inj (hexecutor.symm.trans hheld)
    · exact List.length_map Tool.offer
    · rw [hreceived]
      exact hlast.fresh
  · intro o result stored h
    exact r.perform_eq_ok_iff o result stored h
  · intro ds
    exact congrArg Answer.count (r.registerDeclared_spec ds).2
  · intro o d hd
    exact perform_delivers (run_blank_consistent settings initial os) hd
  · intro o hnone ho
    exact perform_deliveries_of_detached hnone ho

/-- Two tools, one of which keeps to itself and the other of which is disabled, before an executor
comes that refuses the other; that one is enabled, which is not offered, and registered again, which
is. -/
theorem run_delivers_replacement :
    let clock : Tool :=
      { name := "clock", invoker := ⟨{ name := "clock" }, fun _ => pure (.ok .null)⟩ }
    let os : List Operation :=
      [.register clock, .register { clock with name := "diary", autoRegister := false },
        .setEnabled "clock" false, .attach (Executor.refusing "remote" ["clock"]),
        .setEnabled "clock" true, .register { clock with version := "2.0.0" }]
    let r := ((blank {} none).run os).state
    ∃ executor received offer, r.executor = some executor ∧
      executor.deliveries.map (fun d => (d.offer.name, d.offer.version, d.offer.enabled)) =
        [("clock", "1.0.0", false), ("clock", "2.0.0", true)] ∧
      (∃ earlier, executor.deliveries = earlier ++ received) ∧
      lastOffer? "clock" (received.map (·.offer)) = some offer ∧ offer.version = "2.0.0" := by
  intro clock os r
  obtain ⟨executor, hexecutor⟩ : ∃ executor, r.executor = some executor :=
    Option.isSome_iff_exists.mp (by decide +kernel)
  obtain ⟨t, ht, hsummary⟩ :
      ∃ t, r.find? "clock" = some t ∧ (t.autoRegister, t.version) = (true, "2.0.0") := by
    have hstored : (r.find? "clock").map (fun t => (t.autoRegister, t.version)) =
        some (true, "2.0.0") := by decide +kernel
    exact Option.map_eq_some_iff.mp hstored
  obtain ⟨hauto, hversion⟩ := Prod.mk.inj hsummary
  obtain ⟨attached, _, _, _, received, _, hlogged, _, _, _, _, hfresh⟩ :=
    (run_delivers {} none os).1 executor hexecutor
  obtain ⟨offer, hlast, hdescribes⟩ := hfresh "clock" t ht hauto
  refine ⟨executor, received, offer, hexecutor, ?_, ⟨attached.deliveries, ?_⟩, hlast, ?_⟩
  · have hoffered : r.executor.map (·.deliveries.map fun d =>
        (d.offer.name, d.offer.version, d.offer.enabled)) =
          some [("clock", "1.0.0", false), ("clock", "2.0.0", true)] := by decide +kernel
    rw [hexecutor] at hoffered
    exact Option.some.inj hoffered
  · rw [hlogged]
    rfl
  · rw [hdescribes.version, hversion]

end Registry

end Toolbox
