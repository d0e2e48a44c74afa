import Mathlib.Data.List.Nodup
import Toolbox.Proofs.Dict
import Toolbox.Proofs.Registry.Change

/-!
# The two indices of a catalogue agree

A catalogue keeps its tools by name and the names by category, and changes the two one after the
other.  `Catalogue.Consistent` is the invariant that ties them: a tool is stored under its own name
and is valid, a name is listed in a category exactly if the tool of that name has it, and no
category is empty.  Each kind of change keeps it (`Consistent.apply`), hence every run does
(`run_consistent`), and the categories then partition the names (`Consistent.partition`).
-/

namespace Toolbox

/-! ## The index of names -/

/-- Whether an index lists `name` under `category`. -/
def Listed (index : Dict NameSet) (category name : String) : Prop :=
  ∃ names, index.find? category = some names ∧ names.contains name = true

/-- Whether every category of an index has a name. -/
def NoneEmpty (index : Dict NameSet) : Prop :=
  ∀ category names, index.find? category = some names → names.isEmpty = false

namespace Catalogue

theorem mem_namesIn (c : Catalogue) (category name : String) :
    name ∈ c.namesIn category ↔ Listed c.categories category name := by
  unfold namesIn Listed
  cases c.categories.find? category with
  | none => simp
  | some names => simp [Dict.mem_keys]

theorem listed_enterName (index : Dict NameSet) (category name category' name' : String) :
    Listed (enterName index category name) category' name' ↔
      category' = category ∧ name' = name ∨ Listed index category' name' := by
  unfold Listed enterName
  rw [Dict.find?_insert]
  by_cases hc : category' = category
  · subst hc
    rw [if_pos rfl]
    cases index.find? category' with
    | none => simp [Dict.contains_insert]
    | some names => simp [Dict.contains_insert]
  · rw [if_neg hc]
    simp [hc]

theorem listed_forgetName (index : Dict NameSet) (category name category' name' : String) :
    Listed (forgetName index category name) category' name' ↔
      Listed index category' name' ∧ ¬ (category' = category ∧ name' = name) := by
  unfold forgetName
  cases hf : index.find? category with
  | none =>
    constructor
    · intro h
      refine ⟨h, ?_⟩
      rintro ⟨rfl, rfl⟩
      obtain ⟨names, hn, -⟩ := h
      rw [hf] at hn
      cases hn
    · intro h
      exact h.1
  | some names =>
    have hrest : (names.erase name).contains name' = true ↔ name' ≠ name ∧ names.contains name' :=
      names.contains_erase name name'
    by_cases hc : category' = category
    · subst hc
      by_cases he : (names.erase name).isEmpty = true
      · -- the category goes, and held no other name
        have hnone := ((names.erase name).isEmpty_iff.mp he) name'
        simp only [he, if_true, Listed, Dict.find?_erase, hf, true_and]
        simp only [hnone, Bool.false_eq_true, false_iff] at hrest
        simpa [and_comm] using hrest
      · simp only [he, Bool.false_eq_true, if_false, Listed, Dict.find?_insert, if_true, hf,
          Option.some.injEq, exists_eq_left', true_and, hrest]
        exact and_comm
    · by_cases he : (names.erase name).isEmpty = true
      · simp [he, Listed, Dict.find?_erase, hc]
      · simp [he, Listed, Dict.find?_insert, hc]

theorem noneEmpty_enterName {index : Dict NameSet} (h : NoneEmpty index) (category name : String) :
    NoneEmpty (enterName index category name) := by
  intro category' names hf
  unfold enterName at hf
  rw [Dict.find?_insert] at hf
  split at hf
  next =>
    cases hf
    have hin : (((index.find? category).getD ∅).insert name ()).contains name = true :=
      (Dict.contains_insert _ _ _ _).mpr (Or.inl rfl)
    by_contra he
    rw [Bool.not_eq_false, Dict.isEmpty_iff] at he
    rw [he name] at hin
    cases hin
  next => exact h category' names hf

theorem noneEmpty_forgetName {index : Dict NameSet} (h : NoneEmpty index) (category name : String) :
    NoneEmpty (forgetName index category name) := by
  intro category' names hf
  unfold forgetName at hf
  split at hf
  next => exact h category' names hf
  next held _ =>
    by_cases he : (held.erase name).isEmpty = true
    · simp only [he, if_true, Dict.find?_erase] at hf
      split at hf
      next => cases hf
      next => exact h category' names hf
    · simp only [he, Bool.false_eq_true, if_false, Dict.find?_insert] at hf
      split at hf
      next =>
        cases hf
        simpa using he
      next => exact h category' names hf

/-! ## The invariant -/

/-- The tools and the index of their names agree, and every tool is valid. -/
structure Consistent (c : Catalogue) : Prop where
  keyed : ∀ name t, c.tools.find? name = some t → t.name = name
  listed : ∀ category name, Listed c.categories category name ↔
    ∃ t, c.tools.find? name = some t ∧ t.category = category
  noneEmpty : NoneEmpty c.categories
  valid : ∀ name t, c.tools.find? name = some t → t.validate = .ok ()

theorem consistent_empty : Consistent {} := by
  refine ⟨?_, ?_, ?_, ?_⟩
  · intro name t h
    cases h
  · intro category name
    simp [Listed]
  · intro category names h
    cases h
  · intro name t h
    cases h

variable {c : Catalogue}

theorem Consistent.insert (h : c.Consistent) {t : Tool} (ht : t.validate = .ok ()) :
    (c.insert t).2.Consistent := by
  have hfind : ∀ name, (c.insert t).2.tools.find? name =
      if name = t.name then some t else c.tools.find? name := fun name => Dict.find?_insert ..
  -- the old entry of the name is gone before the new one is made
  have hlisted : ∀ category name, Listed (c.insert t).2.categories category name ↔
      category = t.category ∧ name = t.name ∨ Listed c.categories category name ∧ name ≠ t.name := by
    intro category name
    show Listed (enterName _ t.category t.name) category name ↔ _
    rw [listed_enterName]
    cases hp : c.tools.find? t.name with
    | none =>
      refine or_congr_right ⟨fun hl => ⟨hl, ?_⟩, fun hl => hl.1⟩
      rintro rfl
      obtain ⟨p, hp', -⟩ := (h.listed category t.name).mp hl
      rw [hp] at hp'
      cases hp'
    | some p =>
      simp only [listed_forgetName]
      refine or_congr_right (and_congr_right fun hl => ?_)
      constructor
      · rintro hne rfl
        obtain ⟨p', hp', hcat⟩ := (h.listed category t.name).mp hl
        rw [hp] at hp'
        cases hp'
        exact hne ⟨hcat.symm, rfl⟩
      · rintro hne ⟨-, rfl⟩
        exact hne rfl
  refine ⟨?_, ?_, ?_, ?_⟩
  · intro name s hs
    rw [hfind] at hs
    split at hs
    next hn =>
      cases hs
      exact hn.symm
    next => exact h.keyed name s hs
  · intro category name
    rw [hlisted, hfind]
    split
    next hn => simp [hn, eq_comm]
    next hn => simp [hn, h.listed]
  · apply noneEmpty_enterName
    cases c.tools.find? t.name with
    | none => exact h.noneEmpty
    | some p => exact noneEmpty_forgetName h.noneEmpty p.category t.name
  · intro name s hs
    rw [hfind] at hs
    split at hs
    next =>
      cases hs
      exact ht
    next => exact h.valid name s hs

theorem Consistent.remove (h : c.Consistent) (name : String) :
    ((c.remove? name).getD c).Consistent := by
  unfold remove?
  cases hp : c.tools.find? name with
  | none => exact h
  | some p =>
    have hfind : ∀ name' s, (c.tools.erase name).find? name' = some s ↔
        name' ≠ name ∧ c.tools.find? name' = some s := by
      intro name' s
      rw [Dict.find?_erase]
      split
      next hn => simp [hn]
      next hn => simp [hn]
    refine ⟨?_, ?_, noneEmpty_forgetName h.noneEmpty p.category name, ?_⟩
    · intro name' s hs
      exact h.keyed name' s ((hfind name' s).mp hs).2
    · intro category name'
      show Listed (forgetName c.categories p.category name) category name' ↔
        ∃ t, (c.tools.erase name).find? name' = some t ∧ t.category = category
      simp only [listed_forgetName, hfind, h.listed]
      constructor
      · rintro ⟨⟨s, hs, rfl⟩, hne⟩
        refine ⟨s, ⟨?_, hs⟩, rfl⟩
        rintro rfl
        rw [hp] at hs
        cases hs
        exact hne ⟨rfl, rfl⟩
      · rintro ⟨s, ⟨hn, hs⟩, rfl⟩
        exact ⟨⟨s, hs, rfl⟩, fun hne => hn hne.2⟩
    · intro name' s hs
      exact h.valid name' s ((hfind name' s).mp hs).2

theorem Consistent.setEnabled (h : c.Consistent) (name : String) (enabled : Bool) :
    ((c.setEnabled? name enabled).getD c).Consistent := by
  unfold setEnabled?
  cases hp : c.tools.find? name with
  | none => exact h
  | some p =>
    -- what is stored differs from what was stored in the flag alone
    have hfind : ∀ name' s, (c.tools.insert name { p with enabled }).find? name' = some s →
        ∃ s', c.tools.find? name' = some s' ∧ s.name = s'.name ∧ s.category = s'.category ∧
          s.validate = s'.validate := by
      intro name' s hs
      rw [Dict.find?_insert] at hs
      split at hs
      next hn =>
        cases hs
        exact ⟨p, hn ▸ hp, rfl, rfl, rfl⟩
      next => exact ⟨s, hs, rfl, rfl, rfl⟩
    refine ⟨?_, ?_, h.noneEmpty, ?_⟩
    · intro name' s hs
      obtain ⟨s', hs', hname, -, -⟩ := hfind name' s hs
      rw [hname]
      exact h.keyed name' s' hs'
    · intro category name'
      refine (h.listed category name').trans ?_
      constructor
      · rintro ⟨s, hs, rfl⟩
        show ∃ t, (c.tools.insert name { p with enabled }).find? name' = some t ∧ _
        rw [Dict.find?_insert]
        split
        next hn =>
          rw [hn, hp] at hs
          cases hs
          exact ⟨_, rfl, rfl⟩
        next => exact ⟨s, hs, rfl⟩
      · rintro ⟨s, hs, rfl⟩
        obtain ⟨s', hs', -, hcat, -⟩ := hfind name' s hs
        exact ⟨s', hs', hcat.symm⟩
    · intro name' s hs
      obtain ⟨s', hs', -, -, hvalid⟩ := hfind name' s hs
      rw [hvalid]
      exact h.valid name' s' hs'

/-- Every change keeps the two indices in agreement. -/
theorem Consistent.apply (h : c.Consistent) (change : Change) : (c.apply change).Consistent := by
  cases change with
  | stored t ht => exact h.insert ht
  | removed name => exact h.remove name
  | switched name enabled => exact h.setEnabled name enabled
  | cleared => exact consistent_empty

theorem Consistent.replay (h : c.Consistent) (changes : List Change) :
    (c.replay changes).Consistent := by
  induction changes generalizing c with
  | nil => exact h
  | cons change changes ih => exact ih (h.apply change)

theorem namesIn_ascending (c : Catalogue) (category : String) :
    (c.namesIn category).Pairwise (· < ·) := by
  unfold namesIn
  cases c.categories.find? category with
  | none => exact List.Pairwise.nil
  | some names => exact names.keys_ascending

theorem namesIn_ne_nil (h : NoneEmpty c.categories) {category : String}
    (hc : category ∈ c.categories.keys) : c.namesIn category ≠ [] := by
  rw [Dict.mem_keys, Dict.contains_iff] at hc
  obtain ⟨names, hn⟩ := hc
  have hne := h category names hn
  unfold namesIn
  rw [hn]
  intro hnil
  rw [Option.map_some, Option.getD_some, Dict.keys_eq_nil_iff, hne] at hnil
  cases hnil

theorem mem_categories_of_listed {category name : String} (h : Listed c.categories category name) :
    category ∈ c.categories.keys := by
  obtain ⟨names, hn, -⟩ := h
  rw [Dict.mem_keys, Dict.contains_iff]
  exact ⟨names, hn⟩

/-- The categories of a consistent catalogue partition the names of its tools. -/
theorem Consistent.partition (h : c.Consistent) :
    (c.categories.keys.flatMap c.namesIn).Perm c.tools.keys := by
  have hdisjoint : ∀ category category', category ≠ category' →
      List.Disjoint (c.namesIn category) (c.namesIn category') := by
    intro category category' hne name hm hm'
    rw [mem_namesIn, h.listed] at hm hm'
    obtain ⟨t, ht, rfl⟩ := hm
    obtain ⟨t', ht', rfl⟩ := hm'
    rw [ht] at ht'
    cases ht'
    exact hne rfl
  have hnodup : (c.categories.keys.flatMap c.namesIn).Nodup := by
    rw [List.nodup_flatMap]
    refine ⟨?_, ?_⟩
    · intro category _
      exact (c.namesIn_ascending category).imp String.ne_of_lt
    · exact c.categories.keys_nodup.imp fun hne => hdisjoint _ _ hne
  rw [List.perm_ext_iff_of_nodup hnodup c.tools.keys_nodup]
  intro name
  rw [List.mem_flatMap, Dict.mem_keys, Dict.contains_iff]
  constructor
  · rintro ⟨category, -, hm⟩
    rw [mem_namesIn, h.listed] at hm
    obtain ⟨t, ht, -⟩ := hm
    exact ⟨t, ht⟩
  · rintro ⟨t, ht⟩
    have hl : Listed c.categories t.category name := (h.listed _ _).mpr ⟨t, ht, rfl⟩
    exact ⟨t.category, mem_categories_of_listed hl, (c.mem_namesIn _ _).mpr hl⟩

end Catalogue

/-! ## Runs -/

namespace Registry

def blank (settings : Settings) (executor : Option Executor) : Registry := { settings, executor }

theorem run_blank_catalogue (settings : Settings) (executor : Option Executor)
    (os : List Operation) :
    ((blank settings executor).run os).state.catalogue = ({} : Catalogue).replay (changesOf os) :=
  run_catalogue (blank settings executor) os

theorem run_blank_consistent (settings : Settings) (executor : Option Executor)
    (os : List Operation) : ((blank settings executor).run os).state.catalogue.Consistent := by
  rw [run_blank_catalogue]
  exact Catalogue.consistent_empty.replay _

/-- After any run of operations on a registry without tools the two indices of its catalogue agree
and every tool is valid.  So the names ascend strictly, and the categories partition them into
lists that are not empty and ascend strictly. -/
theorem run_consistent (settings : Settings) (executor : Option Executor) (os : List Operation) :
    let r := ((blank settings executor).run os).state
    r.catalogue.Consistent ∧ (r.names none).Pairwise (· < ·) ∧
      (r.categoryNames.flatMap fun category => r.names (some category)).Perm (r.names none) ∧
      ∀ category ∈ r.categoryNames,
        r.names (some category) ≠ [] ∧ (r.names (some category)).Pairwise (· < ·) := by
  intro r
  have h : r.catalogue.Consistent := by
    rw [show r.catalogue = _ from run_blank_catalogue settings executor os]
    exact Catalogue.consistent_empty.replay _
  refine ⟨h, r.catalogue.tools.keys_ascending, h.partition, ?_⟩
  intro category hc
  exact ⟨Catalogue.namesIn_ne_nil h.noneEmpty hc, r.catalogue.namesIn_ascending category⟩

end Registry

end Toolbox
