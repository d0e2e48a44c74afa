import Mathlib.Data.List.Forall2
import Toolbox.Proofs.Registry.Consistency

/-!
# The catalogue does not depend on the executor

Two registries with one catalogue may differ in the executor and in the settings.  The same
operations then do the same to both catalogues, whatever executors are attached on the way and
whatever these refuse.  Reports agree (`Report.Agree`) if they leave one catalogue behind, answer
alike and raise the same events apart from those about handing tools over.  Parts of an operation
that agree make up an operation that agrees (`Report.Agree.andThen`), hence a step of two
registries agrees (`perform_agree`), and a run of them (`run_agree`).
-/

namespace Toolbox

/-- Whether an event tells how handing a tool over went. -/
def Event.isBridging : Event → Bool
  | .bridged _ | .bridgingFailed .. => true
  | .registeredLocally level _ _ => level != .info
  | _ => false

theorem Event.level_ne_info {e : Event} (h : e.isBridging = true) : e.level ≠ .info := by
  cases e with
  | bridged | bridgingFailed => nofun
  | registeredLocally level tool cause => exact bne_iff_ne.mp h
  | unsupportedType | schemaFailed | registered | reregistered | unregistered | enablementChanged
  | cleared | invalidDeclaration | collectedDeclared | outputShown => nomatch h

theorem Settings.localLevel_ne_info (c : Settings) : c.localLevel ≠ .info := by
  unfold localLevel
  split <;> nofun

/-- The events that are not about handing tools over. -/
def unbridged (es : List Event) : List Event := es.filter (!·.isBridging)

theorem unbridged_append (es fs : List Event) :
    unbridged (es ++ fs) = unbridged es ++ unbridged fs :=
  List.filter_append ..

/-- The events at the level INFO. -/
def infos (es : List Event) : List Event := es.filter (·.level = .info)

/-- Handing tools over is never reported at the level INFO. -/
theorem infos_unbridged (es : List Event) : infos (unbridged es) = infos es := by
  unfold infos unbridged
  rw [List.filter_filter]
  refine List.filter_congr fun e _ => ?_
  cases h : e.isBridging with
  | true => simp [e.level_ne_info h]
  | false => simp

namespace Operation

/-- Whether two operations are the same but for the executor that they attach. -/
inductive Alike : Operation → Operation → Prop where
  | same (o : Operation) : Alike o o
  | attach (executor executor' : Executor) : Alike (.attach executor) (.attach executor')

/-- Whether the answer of an operation shows the executor or the settings. -/
def showsSurroundings : Operation → Bool
  | .detach | .settings | .debugText => true
  | _ => false

end Operation

/-! ## Reports -/

namespace Report

variable {α β : Type}

/-- Whether two reports leave one catalogue behind and raise the same events, apart from those about
handing tools over, and their answers are related. -/
structure Agree (related : α → α → Prop) (a b : Report Registry α) : Prop where
  answer : related a.answer b.answer
  catalogue : a.state.catalogue = b.state.catalogue
  events : unbridged a.events = unbridged b.events

variable {related : α → α → Prop} {related' : β → β → Prop} {a b : Report Registry α}

theorem Agree.map (h : a.Agree related b) {f g : α → β}
    (hfg : ∀ x y, related x y → related' (f x) (g y)) : (a.map f).Agree related' (b.map g) :=
  ⟨hfg _ _ h.answer, h.catalogue, h.events⟩

theorem Agree.map_eq (h : a.Agree Eq b) (f : α → β) : (a.map f).Agree Eq (b.map f) :=
  h.map fun _ _ => congrArg f

theorem Agree.after (h : a.Agree related b) (es : List Event) :
    (a.after es).Agree related (b.after es) := by
  refine ⟨h.answer, h.catalogue, ?_⟩
  show unbridged (es ++ a.events) = unbridged (es ++ b.events)
  rw [unbridged_append, unbridged_append, h.events]

theorem Agree.andThen (h : a.Agree related b) {f g : α → Registry → Report Registry β}
    (hfg : ∀ x y (r r' : Registry), related x y → r.catalogue = r'.catalogue →
      (f x r).Agree related' (g y r')) :
    (a.andThen f).Agree related' (b.andThen g) := by
  have hnext := hfg _ _ _ _ h.answer h.catalogue
  refine ⟨hnext.answer, hnext.catalogue, ?_⟩
  show unbridged (a.events ++ (f a.answer a.state).events) =
    unbridged (b.events ++ (g b.answer b.state).events)
  rw [unbridged_append, unbridged_append, h.events, hnext.events]

end Report

/-! ## One operation -/

namespace Registry

variable {r r' : Registry}

/-- Handing a tool over raises no other events. -/
theorem bridge_events (r : Registry) (offer : Offer) : unbridged (r.bridge offer).events = [] := by
  unfold bridge
  split
  next =>
    have hlevel : (r.settings.localLevel != .info) = true :=
      bne_iff_ne.mpr r.settings.localLevel_ne_info
    simp [unbridged, Event.isBridging, hlevel]
  next executor _ =>
    cases h : (executor.receive offer).2.refusal with
    | none => simp [unbridged, Event.isBridging, h]
    | some cause => simp [unbridged, Event.isBridging, h]

theorem bridge_agree (h : r.catalogue = r'.catalogue) (offer : Offer) :
    (r.bridge offer).Agree Eq (r'.bridge offer) := by
  refine ⟨rfl, ?_, ?_⟩
  · rw [bridge_catalogue, bridge_catalogue, h]
  · rw [bridge_events, bridge_events]

theorem bridgeAll_agree (h : r.catalogue = r'.catalogue) (offers : List Offer) :
    (r.bridgeAll offers).Agree Eq (r'.bridgeAll offers) := by
  induction offers generalizing r r' with
  | nil => exact ⟨rfl, h, rfl⟩
  | cons offer offers ih => exact (bridge_agree h offer).andThen fun _ _ _ _ _ hcat => ih hcat

theorem register_agree (h : r.catalogue = r'.catalogue) (t : Tool) :
    (r.register t).Agree Eq (r'.register t) := by
  unfold register
  cases t.validate with
  | error e => exact ⟨rfl, h, rfl⟩
  | ok u =>
    simp only [h]
    refine (Report.Agree.map_eq ?_ _).after _
    split
    next => exact bridge_agree (by rfl) t.offer
    next => exact ⟨rfl, rfl, rfl⟩

theorem registerIn_agree (h : r.catalogue = r'.catalogue) (g : Registration) (i : Invoker) :
    (g.registerIn r i).Agree Eq (g.registerIn r' i) :=
  (register_agree h (g.toTool i).value).after _

theorem registerDeclared_agree (h : r.catalogue = r'.catalogue) (ds : List Declaration) :
    (r.registerDeclared ds).Agree Eq (r'.registerDeclared ds) := by
  induction ds generalizing r r' with
  | nil => exact ⟨rfl, h, rfl⟩
  | cons d ds ih =>
    refine (registerIn_agree h d.registration d.invoker).andThen ?_
    rintro answer _ s s' rfl hs
    cases answer with
    | ok t => exact (ih hs).map_eq _
    | error cause => exact (ih hs).after _

theorem unregister_agree (h : r.catalogue = r'.catalogue) (name : String) :
    (r.unregister name).Agree Eq (r'.unregister name) := by
  unfold unregister
  rw [h]
  cases r'.catalogue.remove? name with
  | none => exact ⟨rfl, h, rfl⟩
  | some catalogue => exact ⟨rfl, rfl, rfl⟩

theorem setEnabled_agree (h : r.catalogue = r'.catalogue) (name : String) (enabled : Bool) :
    (r.setEnabled name enabled).Agree Eq (r'.setEnabled name enabled) := by
  unfold setEnabled
  rw [h]
  cases r'.catalogue.setEnabled? name enabled with
  | none => exact ⟨rfl, h, rfl⟩
  | some catalogue => exact ⟨rfl, rfl, rfl⟩

theorem clear_agree (h : r.catalogue = r'.catalogue) : r.clear.Agree Eq r'.clear :=
  ⟨rfl, rfl, by rw [clear, clear, h]⟩

theorem attach_agree (h : r.catalogue = r'.catalogue) (executor executor' : Executor) :
    (r.attach executor).Agree Eq (r'.attach executor') := by
  unfold attach
  simp only [h]
  exact (bridgeAll_agree (by rfl) _).map_eq _

theorem reply_agree (h : r.catalogue = r'.catalogue) {related : Answer → Answer → Prop}
    {x y : Answer} (hxy : related x y) : (r.reply x).Agree related (r'.reply y) :=
  ⟨hxy, h, rfl⟩

/-- What one operation does to two registries with one catalogue agrees; so do its answers, unless
they show the executor or the settings. -/
theorem perform_agree (h : r.catalogue = r'.catalogue) {o o' : Operation} (ho : o.Alike o') :
    (r.perform o).Agree (fun x y => o.showsSurroundings = false → x = y) (r'.perform o') := by
  have hmap : ∀ {α : Type} {a b : Report Registry α} (f : α → Answer), a.Agree Eq b →
      (a.map f).Agree (fun x y => o.showsSurroundings = false → x = y) (b.map f) :=
    fun f hab => hab.map fun _ _ hxy _ => congrArg f hxy
  cases ho with
  | attach executor executor' => exact hmap _ (attach_agree h executor executor')
  | same =>
    cases o with
    | register t => exact hmap _ (register_agree h t)
    | submit g i => exact hmap _ (registerIn_agree h g i)
    | declare d => exact hmap _ (registerIn_agree h d.registration d.invoker)
    | registerDeclared ds => exact hmap _ (registerDeclared_agree h ds)
    | unregister name => exact hmap _ (unregister_agree h name)
    | setEnabled name enabled => exact hmap _ (setEnabled_agree h name enabled)
    | clear => exact hmap (fun _ => .done) (clear_agree h)
    | attach executor => exact hmap _ (attach_agree h executor executor)
    | detach => exact ⟨nofun, h, rfl⟩
    | invoke name input =>
      have hinvoke : r.invoke name input = r'.invoke name input := by
        unfold invoke find?
        rw [h]
      simp only [perform, hinvoke]
      exact (reply_agree h fun _ => rfl).after _
    | find name => exact reply_agree h fun _ => by rw [find?, find?, h]
    | contains name => exact reply_agree h fun _ => by rw [contains, contains, h]
    | names category =>
      refine reply_agree h fun _ => ?_
      cases category <;> rw [names, names, h]
    | categoryNames => exact reply_agree h fun _ => by rw [categoryNames, categoryNames, h]
    | definitions => exact reply_agree h fun _ => by rw [definitions, definitions, h]
    | size => exact reply_agree h fun _ => by rw [size, size, isEmpty, isEmpty, h]
    | settings | debugText => exact reply_agree h nofun

/-! ## A run -/

/-- Whether two runs of operations answer alike wherever the answer does not show the executor or
the settings. -/
def AnswersAgree (os : List Operation) (xs ys : List Answer) : Prop :=
  ∀ (k : Nat) (o : Operation), os[k]? = some o → o.showsSurroundings = false →
    ∃ x, xs[k]? = some x ∧ ys[k]? = some x

theorem answersAgree_nil : AnswersAgree [] [] [] := by
  intro k o ho
  cases ho

theorem AnswersAgree.cons {o : Operation} {os : List Operation} {x y : Answer} {xs ys : List Answer}
    (hxy : o.showsSurroundings = false → x = y) (h : AnswersAgree os xs ys) :
    AnswersAgree (o :: os) (x :: xs) (y :: ys) := by
  intro k p hp hshows
  cases k with
  | zero =>
    cases hp
    exact ⟨x, rfl, congrArg some (hxy hshows).symm⟩
  | succ k => exact h k p hp hshows

theorem run_agree (h : r.catalogue = r'.catalogue) {os os' : List Operation}
    (hos : List.Forall₂ Operation.Alike os os') :
    (r.run os).Agree (AnswersAgree os) (r'.run os') := by
  induction hos generalizing r r' with
  | nil => exact ⟨answersAgree_nil, h, rfl⟩
  | cons ho _ ih =>
    -- the registries between the steps differ, but the rest needs only their catalogues
    refine (perform_agree h ho).andThen ?_
    intro x y s s' hxy hs
    exact (ih hs).map fun xs ys hall => hall.cons hxy

/-- Two registries with one catalogue, whatever their executors and settings, are given the same
operations, but perhaps other executors to attach.  After every step their catalogues are the same,
and so are the events so far, apart from those about handing tools over, which are never at the
level INFO.  Every answer is the same, unless it shows the executor or the settings. -/
theorem run_independent (r r' : Registry) (h : r.catalogue = r'.catalogue) (os os' : List Operation)
    (hos : List.Forall₂ Operation.Alike os os') (k : Nat) :
    let a := r.run (os.take k)
    let b := r'.run (os'.take k)
    a.state.catalogue = b.state.catalogue ∧ AnswersAgree (os.take k) a.answer b.answer ∧
      infos a.events = infos b.events ∧ unbridged a.events = unbridged b.events := by
  intro a b
  have hagree : a.Agree (AnswersAgree (os.take k)) b := run_agree h (List.forall₂_take k hos)
  refine ⟨hagree.catalogue, hagree.answer, ?_, hagree.events⟩
  rw [← infos_unbridged a.events, ← infos_unbridged b.events, hagree.events]

/-- No executor on one side; on the other one that refuses the tool, and another that takes it. -/
theorem run_independent_of_refusal :
    let t : Tool :=
      { name := "clock", invoker := ⟨{ name := "clock" }, fun _ => pure (.ok .null)⟩ }
    let r := blank {} none
    let r' := blank { warnWithoutExecutor := false } (some (Executor.refusing "strict" ["clock"]))
    let os : List Operation :=
      [.register t, .attach (Executor.refusing "strict" ["clock"]), .names none]
    let os' : List Operation := [.register t, .attach (Executor.refusing "lenient" []), .names none]
    r.catalogue = r'.catalogue ∧ List.Forall₂ Operation.Alike os os' ∧
      (r.run os).events ≠ (r'.run os').events ∧
      (r.run os).state.catalogue = (r'.run os').state.catalogue ∧
      AnswersAgree os (r.run os).answer (r'.run os').answer ∧
      infos (r.run os).events = infos (r'.run os').events ∧
      unbridged (r.run os).events = unbridged (r'.run os').events := by
  intro t r r' os os'
  have hos : List.Forall₂ Operation.Alike os os' :=
    .cons (.same _) (.cons (.attach _ _) (.cons (.same _) .nil))
  refine ⟨rfl, hos, by decide +kernel, ?_⟩
  exact run_independent r r' rfl os os' hos 3

end Registry

end Toolbox
