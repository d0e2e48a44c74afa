import Mathlib.Data.List.Basic
import Toolbox.Text.Alphabetic
import Toolbox.Text.Basic

/-!
# Sets of characters

White space is said here by its code points one by one (`IsBlank`).  It and the characters of
identifiers are apart, within ASCII by their codes and beyond it because the ranges of the two
properties are.
-/

namespace Toolbox.Text

/-! ## White space -/

/-- Code points of white space. -/
def whiteSpace : List Nat :=
  [0x9, 0xA, 0xB, 0xC, 0xD, 0x20, 0x85, 0xA0, 0x1680, 0x2000, 0x2001, 0x2002, 0x2003, 0x2004, 0x2005,
   0x2006, 0x2007, 0x2008, 0x2009, 0x200A, 0x2028, 0x2029, 0x202F, 0x205F, 0x3000]

def IsBlank (c : Char) : Prop := c.toNat ∈ whiteSpace

instance (c : Char) : Decidable (IsBlank c) := inferInstanceAs (Decidable (_ ∈ _))

theorem isBlank_iff {c : Char} : isBlank c = true ↔ IsBlank c := by
  simp only [isBlank, inRanges, blankRanges, IsBlank, whiteSpace, List.any_cons, List.any_nil,
    Bool.or_eq_true, Bool.and_eq_true, decide_eq_true_eq, Bool.or_false, List.mem_cons,
    List.not_mem_nil, or_false]
  omega

theorem isBlank_eq_false_iff {c : Char} : isBlank c = false ↔ ¬ IsBlank c := by
  rw [← isBlank_iff, Bool.not_eq_true]

/-- Whether a text holds nothing but white space. -/
def IsBlankText (s : String) : Prop := ∀ c ∈ s.toList, IsBlank c

theorem isBlankText_iff {s : String} : isBlankText s = true ↔ IsBlankText s := by
  simp only [isBlankText, List.all_eq_true, isBlank_iff, IsBlankText]

instance (s : String) : Decidable (IsBlankText s) := decidable_of_iff _ isBlankText_iff

theorem isBlankText_eq_false_iff {s : String} : isBlankText s = false ↔ ¬ IsBlankText s := by
  rw [← isBlankText_iff, Bool.not_eq_true]

theorem toNat_of_isBlank {c : Char} (h : isBlank c = true) : c.toNat ≤ 32 ∨ 133 ≤ c.toNat := by
  simp only [isBlank, inRanges, blankRanges, List.any_cons, List.any_nil, Bool.or_eq_true,
    Bool.and_eq_true, decide_eq_true_eq, Bool.or_false] at h
  omega

/-! ## Characters of identifiers -/

theorem toNat_of_isAlphanum {c : Char} (h : c.isAlphanum = true) :
    48 ≤ c.toNat ∧ c.toNat ≤ 122 := by
  have hupper : c.isUpper = true ↔ 65 ≤ c.toNat ∧ c.toNat ≤ 90 := decide_eq_true_iff
  have hlower : c.isLower = true ↔ 97 ≤ c.toNat ∧ c.toNat ≤ 122 := by
    show (decide (97 ≤ c.toNat) && decide (c.toNat ≤ 122)) = true ↔ _
    simp only [Bool.and_eq_true, decide_eq_true_eq]
  have hdigit : c.isDigit = true ↔ 48 ≤ c.toNat ∧ c.toNat ≤ 57 := by
    show (decide (48 ≤ c.toNat) && decide (c.toNat ≤ 57)) = true ↔ _
    simp only [Bool.and_eq_true, decide_eq_true_eq]
  change (c.isUpper || c.isLower || c.isDigit) = true at h
  rw [Bool.or_eq_true, Bool.or_eq_true, hupper, hlower, hdigit] at h
  omega

/-- Two lists of ranges without a common number. -/
def apart (rs ts : List (Nat × Nat)) : Bool :=
  rs.all fun r => ts.all fun t => r.2 < t.1 || t.2 < r.1

theorem inRanges_eq_false_of_apart {rs ts : List (Nat × Nat)} (h : apart rs ts = true) {n : Nat}
    (hn : inRanges rs n = true) : inRanges ts n = false := by
  obtain ⟨r, hr, hin⟩ := List.any_eq_true.mp hn
  refine List.any_eq_false.mpr fun t ht => ?_
  have hrt : (decide (r.2 < t.1) || decide (t.2 < r.1)) = true :=
    List.all_eq_true.mp (List.all_eq_true.mp h r hr) t ht
  simp only [Bool.and_eq_true, Bool.or_eq_true, decide_eq_true_eq] at hin hrt ⊢
  omega

theorem apart_alphabetic_blank : apart alphabeticRanges blankRanges = true := by decide +kernel

theorem apart_numeric_blank : apart numericRanges blankRanges = true := by decide +kernel

/-- No white space stands in an identifier. -/
theorem isBlank_of_isIdentifierChar {c : Char} (h : isIdentifierChar c = true) :
    isBlank c = false := by
  have hascii : c.isAlphanum = true → isBlank c = false := by
    intro halnum
    have hcode := toNat_of_isAlphanum halnum
    cases hblank : isBlank c with
    | false => rfl
    | true =>
      have hcode' := toNat_of_isBlank hblank
      omega
  simp only [isIdentifierChar, isAlphabetic, isNumeric, Bool.or_eq_true, beq_iff_eq] at h
  rcases h with ((h | h) | (h | h)) | rfl
  · exact hascii (by simp [Char.isAlphanum, h])
  · exact inRanges_eq_false_of_apart apart_alphabetic_blank h
  · exact hascii (by simp [Char.isAlphanum, h])
  · exact inRanges_eq_false_of_apart apart_numeric_blank h
  · decide

/-- A character whose small letter is a letter is one. -/
theorem isAlpha_of_isAlpha_toLower {c : Char} (h : c.toLower.isAlpha = true) :
    c.isAlpha = true := by
  unfold Char.toLower at h
  split at h
  next hupper =>
    have hc : c.isUpper = true := decide_eq_true hupper
    exact Bool.or_eq_true_iff.mpr (Or.inl hc)
  next => exact h

theorem isIdentifierChar_of_isAlpha {c : Char} (h : c.isAlpha = true) :
    isIdentifierChar c = true := by
  simp [isIdentifierChar, isAlphabetic, h]

/-- A letter or an underscore, and then letters, numerals and underscores. -/
def IsIdentifier (s : List Char) : Prop :=
  ∃ c rest, s = c :: rest ∧ (isAlphabetic c = true ∨ c = '_') ∧
    ∀ d ∈ rest, isAlphabetic d = true ∨ isNumeric d = true ∨ d = '_'

theorem isIdentifier_iff {s : List Char} : isIdentifier s = true ↔ IsIdentifier s := by
  cases s with
  | nil => simp [isIdentifier, IsIdentifier]
  | cons c rest => simp [isIdentifier, IsIdentifier, isIdentifierChar, or_assoc]

theorem isIdentifierChar_of_isIdentifier {s : List Char} (h : isIdentifier s = true) :
    ∀ c ∈ s, isIdentifierChar c = true := by
  cases s with
  | nil => simp
  | cons c s =>
    simp only [isIdentifier, Bool.and_eq_true, List.all_eq_true] at h
    obtain ⟨hfirst, hrest⟩ := h
    intro d hd
    rcases List.mem_cons.mp hd with rfl | hd
    · rcases Bool.or_eq_true_iff.mp hfirst with hletter | hunderscore
      · simp [isIdentifierChar, hletter]
      · simp [isIdentifierChar, hunderscore]
    · exact hrest d hd

theorem ne_of_isIdentifierChar {c sign : Char} (h : isIdentifierChar c = true)
    (hsign : isIdentifierChar sign = false) : c ≠ sign := by
  rintro rfl
  rw [h] at hsign
  cases hsign

theorem not_mem_of_isIdentifierChar {s : List Char} (h : ∀ c ∈ s, isIdentifierChar c = true)
    {sign : Char} (hsign : isIdentifierChar sign = false) : sign ∉ s :=
  fun hmem => ne_of_isIdentifierChar (h sign hmem) hsign rfl

/-- An identifier starts with one of its characters. -/
theorem exists_cons_of_isIdentifier {s : List Char} (h : isIdentifier s = true) :
    ∃ c rest, s = c :: rest ∧ isIdentifierChar c = true := by
  cases s with
  | nil => cases h
  | cons c rest => exact ⟨c, rest, rfl, isIdentifierChar_of_isIdentifier h c List.mem_cons_self⟩

end Toolbox.Text
