import Mathlib.Data.Set.Card
import Toolbox.Proofs.Cut
import Toolbox.Proofs.Registry.Consistency

/-!
# A registry answers from its history

What is stored under a name follows from the changes of the run: it is the tool that was stored
last, unless it was taken away since, with the flag that was set last (`Leaves`).  A change has an
effect on one name at a time (`Change.effect`), so what the run leaves under a name is a fold of
these effects (`heldAfter`), and the fold is read off the history by induction on its end.  Every
other answer of a registry is a view of this one (`Registry.Reflects`).
-/

namespace Toolbox

/-! ## Changes, as seen from one name -/

namespace Change

/-- Whether a change stores a tool under `name`. -/
def stores (name : String) : Change → Bool
  | .stored t _ => t.name == name
  | _ => false

/-- Whether a change takes away what is stored under `name`. -/
def forgets (name : String) : Change → Bool
  | .removed n => n == name
  | .cleared => true
  | _ => false

/-- The flag that a change sets for `name`. -/
def flag? (name : String) : Change → Option Bool
  | .switched n enabled => if n = name then some enabled else none
  | _ => none

/-- Whether a change has to do with `name`. -/
def concerns (name : String) (c : Change) : Bool :=
  c.stores name || c.forgets name || (c.flag? name).isSome

/-- What is stored under `name` after a change, given what was stored there before. -/
def effect (name : String) (held : Option Tool) : Change → Option Tool
  | .stored t _ => if t.name = name then some t else held
  | .removed n => if n = name then none else held
  | .switched n enabled => if n = name then held.map fun t => { t with enabled } else held
  | .cleared => none

end Change

/-- The flag that was set last for `name`. -/
def lastFlag (name : String) (initial : Bool) (changes : List Change) : Bool :=
  (changes.filterMap (Change.flag? name)).getLastD initial

/-- A history leaves `t` under `name`: a tool was stored there and neither replaced nor taken away
since, and `t` is that tool with the flag that was set last. -/
def Leaves (history : List Change) (name : String) (t : Tool) : Prop :=
  ∃ before submitted valid after,
    history = before ++ .stored submitted valid :: after ∧ submitted.name = name ∧
    (∀ c ∈ after, c.stores name = false ∧ c.forgets name = false) ∧
    t = { submitted with enabled := lastFlag name submitted.enabled after }

/-- A history leaves nothing under `name`: whatever was stored there was taken away later. -/
def LeavesNone (history : List Change) (name : String) : Prop :=
  ∀ before submitted valid after,
    history = before ++ .stored submitted valid :: after → submitted.name = name →
    ∃ c ∈ after, c.forgets name = true

/-- What a history leaves under `name`, one effect after the other. -/
def heldAfter (name : String) (history : List Change) : Option Tool :=
  history.foldl (Change.effect name) none

theorem heldAfter_concat (name : String) (history : List Change) (c : Change) :
    heldAfter name (history ++ [c]) = c.effect name (heldAfter name history) :=
  List.foldl_concat ..

namespace Change

/-- A change leaves the tool that it stores, or what was held with the flag that it sets. -/
theorem effect_eq_some_iff (c : Change) (name : String) (held : Option Tool) (t : Tool) :
    c.effect name held = some t ↔
      (∃ valid, c = .stored t valid ∧ t.name = name) ∨
        (c.stores name = false ∧ c.forgets name = false ∧
          ∃ s, held = some s ∧ t = { s with enabled := (c.flag? name).getD s.enabled }) := by
  cases c with
  | stored s valid =>
    by_cases hn : s.name = name
    · have heffect : effect name held (.stored s valid) = some s := if_pos hn
      have hstores : stores name (.stored s valid) = true := beq_iff_eq.mpr hn
      rw [heffect, hstores]
      constructor
      · intro he
        cases he
        exact Or.inl ⟨valid, rfl, hn⟩
      · rintro (⟨_, he, -⟩ | ⟨hf, -⟩)
        · cases he
          rfl
        · cases hf
    · have heffect : effect name held (.stored s valid) = held := if_neg hn
      have hstores : stores name (.stored s valid) = false := beq_eq_false_iff_ne.mpr hn
      rw [heffect, hstores]
      constructor
      · intro he
        exact Or.inr ⟨rfl, rfl, t, he, rfl⟩
      · rintro (⟨_, he, ht⟩ | ⟨-, -, s', hs', rfl⟩)
        · cases he
          exact absurd ht hn
        · exact hs'
  | removed n =>
    by_cases hn : n = name
    · simp [effect, forgets, hn]
    · simp [effect, stores, forgets, flag?, hn]
  | switched n enabled =>
    by_cases hn : n = name
    · simp [effect, stores, forgets, flag?, hn, eq_comm]
    · simp [effect, stores, forgets, flag?, hn]
  | cleared => simp [effect, forgets]

/-- A change leaves nothing if it takes away, or stores nothing where nothing was held. -/
theorem effect_eq_none_iff (c : Change) (name : String) (held : Option Tool) :
    c.effect name held = none ↔
      c.forgets name = true ∨ (c.stores name = false ∧ held = none) := by
  cases c with
  | stored t valid =>
    by_cases hn : t.name = name
    · simp [effect, stores, forgets, hn]
    · simp [effect, stores, forgets, hn]
  | removed n =>
    by_cases hn : n = name
    · simp [effect, forgets, hn]
    · simp [effect, stores, forgets, hn]
  | switched n enabled =>
    by_cases hn : n = name
    · simp [effect, stores, forgets, hn]
    · simp [effect, stores, forgets, hn]
  | cleared => simp [effect, forgets]

theorem effect_of_not_concerns {name : String} {c : Change} (h : c.concerns name = false)
    (held : Option Tool) : c.effect name held = held := by
  unfold concerns at h
  simp only [Bool.or_eq_false_iff, Option.isSome_eq_false_iff, Option.isNone_iff_eq_none] at h
  obtain ⟨⟨hstores, hforgets⟩, hflag⟩ := h
  cases held with
  | none => exact (c.effect_eq_none_iff name none).mpr (Or.inr ⟨hstores, rfl⟩)
  | some t =>
    refine (c.effect_eq_some_iff name (some t) t).mpr (Or.inr ⟨hstores, hforgets, t, rfl, ?_⟩)
    rw [hflag]
    rfl

end Change

/-- Changes that have nothing to do with a name have no influence on it. -/
theorem heldAfter_filter_concerns (name : String) (history : List Change) :
    heldAfter name (history.filter (·.concerns name)) = heldAfter name history := by
  induction history using List.reverseRecOn with
  | nil => rfl
  | append_singleton history c ih =>
    rw [List.filter_append, heldAfter_concat]
    cases h : c.concerns name with
    | true =>
      rw [List.filter_cons_of_pos h, List.filter_nil, heldAfter_concat, ih]
    | false =>
      rw [List.filter_cons_of_neg (by simp [h]), List.filter_nil, List.append_nil, ih,
        Change.effect_of_not_concerns h]

/-! ## The history read from its end -/

theorem lastFlag_concat (name : String) (initial : Bool) (changes : List Change) (c : Change) :
    lastFlag name initial (changes ++ [c]) =
      (c.flag? name).getD (lastFlag name initial changes) := by
  unfold lastFlag
  rw [List.filterMap_append]
  cases h : c.flag? name with
  | none => simp [h]
  | some enabled => simp [h]

theorem leaves_concat (history : List Change) (c : Change) (name : String) (t : Tool) :
    Leaves (history ++ [c]) name t ↔
      (∃ valid, c = .stored t valid ∧ t.name = name) ∨
        (c.stores name = false ∧ c.forgets name = false ∧
          ∃ s, Leaves history name s ∧ t = { s with enabled := (c.flag? name).getD s.enabled }) := by
  constructor
  · rintro ⟨before, submitted, valid, after, hsplit, hname, hafter, rfl⟩
    rcases concat_eq_append_cons_iff.mp hsplit with ⟨rfl, rfl, rfl⟩ | ⟨after', rfl, rfl⟩
    · exact Or.inl ⟨valid, rfl, hname⟩
    · obtain ⟨hstores, hforgets⟩ := hafter c (by simp)
      refine Or.inr ⟨hstores, hforgets, _, ⟨before, submitted, valid, after', rfl, hname, ?_, rfl⟩,
        ?_⟩
      · intro d hd
        exact hafter d (List.mem_append_left _ hd)
      · rw [lastFlag_concat]
  · rintro (⟨valid, rfl, hname⟩ | ⟨hstores, hforgets, s, hs, rfl⟩)
    · exact ⟨history, t, valid, [], rfl, hname, by simp, rfl⟩
    · obtain ⟨before, submitted, valid, after, rfl, hname, hafter, rfl⟩ := hs
      refine ⟨before, submitted, valid, after ++ [c], by simp, hname, ?_, ?_⟩
      · intro d hd
        rcases List.mem_append.mp hd with hd | hd
        · exact hafter d hd
        · rw [List.mem_singleton] at hd
          subst hd
          exact ⟨hstores, hforgets⟩
      · rw [lastFlag_concat]

theorem leavesNone_concat (history : List Change) (c : Change) (name : String) :
    LeavesNone (history ++ [c]) name ↔
      c.forgets name = true ∨ (c.stores name = false ∧ LeavesNone history name) := by
  constructor
  · intro h
    by_cases hf : c.forgets name = true
    · exact Or.inl hf
    · refine Or.inr ⟨?_, ?_⟩
      · cases c with
        | stored t valid =>
          by_contra hs
          obtain ⟨d, hd, -⟩ := h history t valid [] rfl (by simpa [Change.stores] using hs)
          cases hd
        | removed | switched | cleared => rfl
      · rintro before submitted valid after rfl hname
        obtain ⟨d, hd, hforgets⟩ := h before submitted valid (after ++ [c]) (by simp) hname
        rcases List.mem_append.mp hd with hd | hd
        · exact ⟨d, hd, hforgets⟩
        · rw [List.mem_singleton] at hd
          exact absurd (hd ▸ hforgets) hf
  · rintro h before submitted valid after hsplit hname
    rcases concat_eq_append_cons_iff.mp hsplit with ⟨rfl, rfl, rfl⟩ | ⟨after', rfl, rfl⟩
    · simp [Change.forgets, Change.stores, hname] at h
    · rcases h with hf | ⟨-, h⟩
      · exact ⟨c, by simp, hf⟩
      · obtain ⟨d, hd, hforgets⟩ := h before submitted valid after' rfl hname
        exact ⟨d, List.mem_append_left _ hd, hforgets⟩

/-- Folding the effects gives the tool that the history leaves. -/
theorem heldAfter_eq_some_iff (name : String) (history : List Change) (t : Tool) :
    heldAfter name history = some t ↔ Leaves history name t := by
  induction history using List.reverseRecOn generalizing t with
  | nil => simp [heldAfter, Leaves]
  | append_singleton history c ih =>
    rw [heldAfter_concat, leaves_concat, Change.effect_eq_some_iff]
    simp only [ih]

theorem heldAfter_eq_none_iff (name : String) (history : List Change) :
    heldAfter name history = none ↔ LeavesNone history name := by
  induction history using List.reverseRecOn with
  | nil => simp [heldAfter, LeavesNone]
  | append_singleton history c ih =>
    rw [heldAfter_concat, leavesNone_concat, Change.effect_eq_none_iff, ih]

end Toolbox
