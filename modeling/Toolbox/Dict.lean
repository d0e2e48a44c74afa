/-!
# Dictionaries

Finite maps from names to values, kept as entries in ascending order of their names, so two
dictionaries that answer every look-up alike are equal (`Dict.ext_find?`).  Names are compared by
code point, which is also the order of their UTF-8 bytes.
-/

namespace Toolbox

universe u v

/-- Entries in strictly ascending order of their names. -/
def Ascending {α : Type u} (es : List (String × α)) : Prop := es.Pairwise (fun a b => a.1 < b.1)

/-- Sets the value of `key`: before the first larger name, or in place of the same one. -/
def insertEntry {α : Type u} (key : String) (value : α) : List (String × α) → List (String × α)
  | [] => [(key, value)]
  | e :: es =>
    if key < e.1 then (key, value) :: e :: es
    else if key = e.1 then (key, value) :: es
    else e :: insertEntry key value es

/-- Value of the first entry of `key`. -/
def findEntry {α : Type u} (key : String) : List (String × α) → Option α
  | [] => none
  | e :: es => if key = e.1 then some e.2 else findEntry key es

/-- Entries in ascending order; of two entries with one name the later one counts. -/
def sortEntries {α : Type u} (es : List (String × α)) : List (String × α) :=
  es.foldl (fun sorted e => insertEntry e.1 e.2 sorted) []

section Entries
variable {α : Type u}

theorem findEntry_insertEntry (key k : String) (value : α) (es : List (String × α)) :
    findEntry k (insertEntry key value es) = if k = key then some value else findEntry k es := by
  induction es with
  | nil => rfl
  | cons e es ih =>
    simp only [insertEntry]
    split
    · rfl
    · split
      · rename_i he
        by_cases h : k = key <;> simp [findEntry, h, he ▸ h]
      · rename_i he
        simp only [findEntry, ih]
        by_cases h : k = e.1
        · subst h
          simp [Ne.symm he]
        · simp [h]

theorem mem_insertEntry {key : String} {value : α} {e : String × α} {es : List (String × α)}
    (h : e ∈ insertEntry key value es) : e = (key, value) ∨ e ∈ es := by
  induction es with
  | nil => simpa [insertEntry] using h
  | cons d es ih =>
    simp only [insertEntry] at h
    split at h
    · simpa using h
    · split at h
      · rcases List.mem_cons.mp h with h | h
        · exact .inl h
        · exact .inr (List.mem_cons_of_mem _ h)
      · rcases List.mem_cons.mp h with h | h
        · exact .inr (h ▸ List.mem_cons_self)
        · exact (ih h).imp_right (List.mem_cons_of_mem _)

theorem lt_of_not_lt_of_ne {a b : String} (h : ¬ a < b) (hne : a ≠ b) : b < a :=
  Classical.byContradiction fun h' =>
    hne (String.le_antisymm (String.not_lt.mp h') (String.not_lt.mp h))

theorem Ascending.insertEntry {es : List (String × α)} (h : Ascending es) (key : String)
    (value : α) : Ascending (insertEntry key value es) := by
  induction es with
  | nil => simp [Ascending, Toolbox.insertEntry]
  | cons e es ih =>
    obtain ⟨he, hs⟩ := List.pairwise_cons.mp h
    simp only [Toolbox.insertEntry]
    split
    next hlt =>
      exact List.pairwise_cons.mpr ⟨fun d hd => (List.mem_cons.mp hd).elim (fun hd => hd ▸ hlt)
        (fun hd => String.lt_trans hlt (he d hd)), h⟩
    next hlt =>
      split
      next heq => exact List.pairwise_cons.mpr ⟨fun d hd => heq ▸ he d hd, hs⟩
      next hne =>
        refine List.pairwise_cons.mpr ⟨fun d hd => ?_, ih hs⟩
        rcases mem_insertEntry hd with rfl | hd
        · exact lt_of_not_lt_of_ne hlt hne
        · exact he d hd

theorem ascending_sortEntries (es : List (String × α)) : Ascending (sortEntries es) := by
  suffices h : ∀ sorted : List (String × α), Ascending sorted →
      Ascending (es.foldl (fun sorted e => Toolbox.insertEntry e.1 e.2 sorted) sorted) from
    h [] .nil
  induction es with
  | nil => exact fun _ h => h
  | cons e es ih => exact fun sorted h => ih _ (h.insertEntry e.1 e.2)

theorem findEntry_eq_none {k : String} {es : List (String × α)} (h : ∀ e ∈ es, k ≠ e.1) :
    findEntry k es = none := by
  induction es with
  | nil => rfl
  | cons e es ih =>
    rw [findEntry, if_neg (h e List.mem_cons_self)]
    exact ih fun d hd => h d (List.mem_cons_of_mem _ hd)

/-- Nothing is found below the first of ascending entries. -/
theorem Ascending.findEntry_eq_none_of_lt {k : String} {e : String × α} {es : List (String × α)}
    (h : Ascending (e :: es)) (hk : k < e.1) : findEntry k (e :: es) = none :=
  findEntry_eq_none fun d hd => by
    rintro rfl
    rcases List.mem_cons.mp hd with rfl | hd
    · exact String.lt_irrefl _ hk
    · exact String.lt_irrefl _ (String.lt_trans hk ((List.pairwise_cons.mp h).1 d hd))

/-- Ascending entries are determined by what look-ups find. -/
theorem Ascending.eq_of_findEntry_eq {es ds : List (String × α)} (hes : Ascending es)
    (hds : Ascending ds) (h : ∀ k, findEntry k es = findEntry k ds) : es = ds := by
  induction es generalizing ds with
  | nil =>
    cases ds with
    | nil => rfl
    | cons d ds => simpa [findEntry] using h d.1
  | cons e es ih =>
    cases ds with
    | nil => simpa [findEntry] using h e.1
    | cons d ds =>
      have hkey : e.1 = d.1 := by
        refine Classical.byContradiction fun hne => ?_
        by_cases hlt : e.1 < d.1
        · have := h e.1
          rw [hds.findEntry_eq_none_of_lt hlt] at this
          simp [findEntry] at this
        · have := h d.1
          rw [hes.findEntry_eq_none_of_lt (lt_of_not_lt_of_ne hlt hne)] at this
          simp [findEntry] at this
      have hval : e.2 = d.2 := by simpa [findEntry, hkey] using h e.1
      obtain ⟨he, hes⟩ := List.pairwise_cons.mp hes
      obtain ⟨hd, hds⟩ := List.pairwise_cons.mp hds
      have htail : es = ds := by
        refine ih hes hds fun k => ?_
        by_cases hk : k = e.1
        · subst hk
          rw [findEntry_eq_none fun x hx (h' : e.1 = x.1) => String.lt_irrefl x.1 (h' ▸ he x hx),
            findEntry_eq_none fun x hx (h' : e.1 = x.1) =>
              String.lt_irrefl d.1 (by have := hd x hx; rwa [← h', hkey] at this)]
        · simpa [findEntry, hk, hkey ▸ hk] using h k
      exact List.cons_eq_cons.mpr ⟨Prod.ext hkey hval, htail⟩

theorem findEntry_filter_ne (key k : String) (es : List (String × α)) :
    findEntry k (es.filter (·.1 != key)) = if k = key then none else findEntry k es := by
  induction es with
  | nil => simp [findEntry]
  | cons e es ih =>
    by_cases he : e.1 = key
    · rw [List.filter_cons_of_neg (by simp [he]), ih]
      by_cases hk : k = key <;> simp [findEntry, he, hk]
    · rw [List.filter_cons_of_pos (by simp [he]), findEntry, findEntry, ih]
      by_cases hk : k = key
      · subst hk
        simp [Ne.symm he]
      · simp [hk]

end Entries

/-- A finite map from names to values. -/
structure Dict (α : Type u) where
  entries : List (String × α)
  ascending : Ascending entries
  deriving DecidableEq

namespace Dict

variable {α : Type u} {β : Type v}

def empty : Dict α := ⟨[], .nil⟩

instance : EmptyCollection (Dict α) := ⟨empty⟩
instance : Inhabited (Dict α) := ⟨empty⟩

/-- Dictionary of the given entries; of two entries with one name the later one counts. -/
def ofList (es : List (String × α)) : Dict α := ⟨sortEntries es, ascending_sortEntries es⟩

def find? (d : Dict α) (key : String) : Option α := findEntry key d.entries

def contains (d : Dict α) (key : String) : Bool := (d.find? key).isSome

/-- Names in ascending order. -/
def keys (d : Dict α) : List String := d.entries.map (·.1)

/-- Values in the order of their names. -/
def values (d : Dict α) : List α := d.entries.map (·.2)

def size (d : Dict α) : Nat := d.entries.length

def isEmpty (d : Dict α) : Bool := d.entries.isEmpty

def insert (d : Dict α) (key : String) (value : α) : Dict α :=
  ⟨insertEntry key value d.entries, d.ascending.insertEntry key value⟩

/-- Removes the entry of `key`. -/
def erase (d : Dict α) (key : String) : Dict α :=
  ⟨d.entries.filter (·.1 != key), d.ascending.filter _⟩

def mapValues (f : α → β) (d : Dict α) : Dict β :=
  ⟨d.entries.map fun e => (e.1, f e.2), by simpa [Ascending, List.pairwise_map] using d.ascending⟩

@[simp] theorem find?_empty (k : String) : (∅ : Dict α).find? k = none := rfl

theorem find?_insert (d : Dict α) (key k : String) (value : α) :
    (d.insert key value).find? k = if k = key then some value else d.find? k :=
  findEntry_insertEntry key k value d.entries

theorem find?_erase (d : Dict α) (key k : String) :
    (d.erase key).find? k = if k = key then none else d.find? k :=
  findEntry_filter_ne key k d.entries

/-- Dictionaries that answer every look-up alike are equal. -/
theorem ext_find? {d d' : Dict α} (h : ∀ k, d.find? k = d'.find? k) : d = d' := by
  cases d with | mk es hes =>
  cases d' with | mk ds hds =>
  simp only [mk.injEq]
  exact hes.eq_of_findEntry_eq hds h

theorem keys_ascending (d : Dict α) : d.keys.Pairwise (· < ·) :=
  List.pairwise_map.mpr d.ascending

end Dict

end Toolbox
