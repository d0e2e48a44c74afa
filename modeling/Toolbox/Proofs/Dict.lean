import Toolbox.Dict

/-!
# Dictionaries through their look-ups

What `keys`, `values`, `contains` and `isEmpty` say about `find?`.  A dictionary has one entry for
each name (`Dict.find?_eq_some_iff`), so its names ascend strictly and are determined by
`contains` (`eq_of_ascending`).
-/

namespace Toolbox

section Entries
variable {α : Type} {es : List (String × α)}

theorem findEntry_eq_some_iff (h : Ascending es) (k : String) (v : α) :
    findEntry k es = some v ↔ (k, v) ∈ es := by
  induction es with
  | nil => simp [findEntry]
  | cons e es ih =>
    obtain ⟨he, hs⟩ := List.pairwise_cons.mp h
    rw [findEntry, List.mem_cons]
    split
    next hk =>
      constructor
      · intro hv
        left
        exact Prod.ext hk (Option.some.inj hv).symm
      · rintro (rfl | hm)
        · rfl
        · have hlt : e.1 < k := he (k, v) hm
          exact absurd (hk ▸ hlt) (String.lt_irrefl e.1)
    next hk =>
      rw [ih hs]
      constructor
      · intro hm
        exact Or.inr hm
      · rintro (rfl | hm)
        · exact absurd rfl hk
        · exact hm

theorem isSome_findEntry_iff (k : String) :
    (findEntry k es).isSome ↔ k ∈ es.map (·.1) := by
  induction es with
  | nil => simp [findEntry]
  | cons e es ih =>
    rw [findEntry, List.map_cons, List.mem_cons]
    split
    next hk => simp [hk]
    next hk => simp [hk, ih]

theorem findEntry_append (k : String) (es ds : List (String × α)) :
    findEntry k (es ++ ds) = (findEntry k es).or (findEntry k ds) := by
  induction es with
  | nil => rfl
  | cons e es ih =>
    rw [List.cons_append, findEntry, findEntry, ih]
    split <;> rfl

/-- Sorting the reversed entries leaves the first one of each name. -/
theorem findEntry_sortEntries_reverse (k : String) (es : List (String × α)) :
    findEntry k (sortEntries es.reverse) = findEntry k es := by
  induction es with
  | nil => rfl
  | cons e es ih =>
    have hlast : sortEntries (e :: es).reverse = insertEntry e.1 e.2 (sortEntries es.reverse) := by
      unfold sortEntries
      rw [List.reverse_cons, List.foldl_append, List.foldl_cons, List.foldl_nil]
    rw [hlast, findEntry_insertEntry, ih, findEntry]

theorem findEntry_map {β : Type} (f : α → β) (k : String) :
    findEntry k (es.map fun e => (e.1, f e.2)) = (findEntry k es).map f := by
  induction es with
  | nil => rfl
  | cons e es ih =>
    rw [List.map_cons, findEntry, findEntry, ih]
    split <;> rfl

theorem map_insertEntry {β : Type} (f : α → β) (key : String) (value : α) (es : List (String × α)) :
    (insertEntry key value es).map (fun e => (e.1, f e.2)) =
      insertEntry key (f value) (es.map fun e => (e.1, f e.2)) := by
  induction es with
  | nil => rfl
  | cons e es ih =>
    rw [List.map_cons, insertEntry, insertEntry]
    split
    · rfl
    · split
      · rfl
      · rw [List.map_cons, ih]

theorem insertEntry_of_lt {key : String} {value : α} (h : ∀ e ∈ es, e.1 < key) :
    insertEntry key value es = es ++ [(key, value)] := by
  induction es with
  | nil => rfl
  | cons e es ih =>
    rw [List.forall_mem_cons] at h
    have hne : key ≠ e.1 := fun he => String.ne_of_lt h.1 he.symm
    have hlt : ¬ key < e.1 := fun hk => String.lt_irrefl key (String.lt_trans hk h.1)
    rw [insertEntry, if_neg hlt, if_neg hne, ih h.2, List.cons_append]

/-- Entries that ascend already stay as they are. -/
theorem Ascending.sortEntries_eq (h : Ascending es) : sortEntries es = es := by
  suffices hfold : ∀ sorted : List (String × α), Ascending (sorted ++ es) →
      es.foldl (fun sorted e => Toolbox.insertEntry e.1 e.2 sorted) sorted = sorted ++ es from
    hfold [] h
  intro sorted hsorted
  induction es generalizing sorted with
  | nil => simp
  | cons e es ih =>
    have hbelow : ∀ d ∈ sorted, d.1 < e.1 := fun d hd =>
      (List.pairwise_append.mp hsorted).2.2 d hd e List.mem_cons_self
    rw [List.foldl_cons, insertEntry_of_lt hbelow, ih (List.pairwise_cons.mp h).2]
    · simp
    · simpa using hsorted

end Entries

/-- Strictly ascending lists with the same members are equal. -/
theorem eq_of_ascending {xs ys : List String} (hx : xs.Pairwise (· < ·)) (hy : ys.Pairwise (· < ·))
    (h : ∀ s, s ∈ xs ↔ s ∈ ys) : xs = ys := by
  have hperm : xs.Perm ys := by
    rw [List.perm_ext_iff_of_nodup (hx.imp String.ne_of_lt) (hy.imp String.ne_of_lt)]
    exact h
  refine hperm.eq_of_pairwise ?_ hx hy
  intro a _ _ _ hab hba
  exact absurd (String.lt_trans hab hba) (String.lt_irrefl a)

/-- In ascending names the first that passes a test is the least. -/
theorem find?_eq_some_of_least {names : List String} (hnames : names.Pairwise (· < ·))
    {test : String → Bool} {name : String} (hmem : name ∈ names) (htest : test name = true)
    (hleast : ∀ other ∈ names, test other = true → ¬ other < name) :
    names.find? test = some name := by
  obtain ⟨before, after, rfl⟩ := List.append_of_mem hmem
  rw [List.find?_eq_some_iff_append]
  refine ⟨htest, before, after, rfl, fun other hother => ?_⟩
  have hlt : other < name := (List.pairwise_append.mp hnames).2.2 other hother name List.mem_cons_self
  cases hpass : test other with
  | false => rfl
  | true => exact absurd hlt (hleast other (List.mem_append_left _ hother) hpass)

namespace Dict

variable {α : Type}

theorem find?_eq_some_iff (d : Dict α) (k : String) (v : α) :
    d.find? k = some v ↔ (k, v) ∈ d.entries :=
  findEntry_eq_some_iff d.ascending k v

theorem contains_iff (d : Dict α) (k : String) :
    d.contains k = true ↔ ∃ v, d.find? k = some v := by
  rw [contains, Option.isSome_iff_exists]

theorem mem_keys (d : Dict α) (k : String) : k ∈ d.keys ↔ d.contains k = true :=
  (isSome_findEntry_iff k).symm

theorem mem_values (d : Dict α) (v : α) : v ∈ d.values ↔ ∃ k, d.find? k = some v := by
  rw [values, List.mem_map]
  constructor
  · rintro ⟨⟨k, w⟩, hm, rfl⟩
    exact ⟨k, (d.find?_eq_some_iff k w).mpr hm⟩
  · rintro ⟨k, hk⟩
    exact ⟨(k, v), (d.find?_eq_some_iff k v).mp hk, rfl⟩

theorem keys_nodup (d : Dict α) : d.keys.Nodup :=
  d.keys_ascending.imp fun h => String.ne_of_lt h

theorem length_keys (d : Dict α) : d.keys.length = d.size := List.length_map _

theorem keys_eq_nil_iff (d : Dict α) : d.keys = [] ↔ d.isEmpty = true := by
  rw [keys, List.map_eq_nil_iff, isEmpty, List.isEmpty_iff]

theorem isEmpty_iff (d : Dict α) : d.isEmpty = true ↔ ∀ k, d.contains k = false := by
  rw [← keys_eq_nil_iff, List.eq_nil_iff_forall_not_mem]
  simp only [mem_keys, Bool.not_eq_true]

theorem find?_mapValues {β : Type} (f : α → β) (d : Dict α) (key : String) :
    (d.mapValues f).find? key = (d.find? key).map f :=
  findEntry_map f key

@[simp] theorem contains_empty (k : String) : (∅ : Dict α).contains k = false := rfl

/-- Erasing what is not there does nothing. -/
theorem erase_eq_self {d : Dict α} {key : String} (h : d.find? key = none) : d.erase key = d := by
  apply ext_find?
  intro k
  rw [find?_erase]
  split
  next hk => rw [hk, h]
  next => rfl

theorem contains_insert (d : Dict α) (key k : String) (v : α) :
    (d.insert key v).contains k = true ↔ k = key ∨ d.contains k = true := by
  rw [contains, find?_insert]
  split
  next h => simp [h]
  next h => simp [h, contains]

theorem contains_erase (d : Dict α) (key k : String) :
    (d.erase key).contains k = true ↔ k ≠ key ∧ d.contains k = true := by
  rw [contains, find?_erase]
  split
  next h => simp [h]
  next h => simp [h, contains]

end Dict

end Toolbox
