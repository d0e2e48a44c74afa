import Toolbox.Proofs.Text.Characters
import Toolbox.Text.Case

/-!
# Case within ASCII

The first run of each case mapping holds the letters of ASCII, and everything else in its tables
lies beyond.  So within ASCII a mapping gives one character, and what holds of such characters can
be checked one by one (`of_ascii`).
-/

namespace Toolbox.Text

theorem of_ascii {P : Char → Prop} (h : ∀ n < 128, P (Char.ofNat n)) {c : Char}
    (hc : c.toNat < 128) : P c := by
  have hcode : P (Char.ofNat c.toNat) := h c.toNat hc
  rwa [Char.ofNat_toNat] at hcode

theorem ascii_of_isAlphanum {c : Char} (h : c.isAlphanum = true) : c.toNat < 128 := by
  have hcode := toNat_of_isAlphanum h
  omega

/-! ## Tables -/

/-- Whether a run maps nothing within ASCII. -/
def Run.isBeyond (r : Run) : Bool := 128 ≤ r.first

theorem Run.contains_of_isBeyond {r : Run} (h : r.isBeyond = true) {n : Nat} (hn : n < 128) :
    r.contains n = false := by
  have hfirst : 128 ≤ r.first := of_decide_eq_true h
  have hlow : ¬r.first ≤ n := by omega
  simp [contains, hlow]

theorem lookup_of_isBeyond {runs : List Run} (h : runs.all Run.isBeyond = true) {n : Nat}
    (hn : n < 128) : Run.lookup runs n = none := by
  rw [Run.lookup, Option.map_eq_none_iff, List.find?_eq_none]
  intro r hr
  rw [Run.contains_of_isBeyond (List.all_eq_true.mp h r hr) hn]
  exact Bool.false_ne_true

variable {c : Char}

/-- Within ASCII the first run alone decides on an image. -/
theorem mapCase_of_ascii {expansions : List (Nat × List Nat)} {letters : Run} {runs : List Run}
    (hexpansions : expansions.all (128 ≤ ·.1) = true) (hruns : runs.all Run.isBeyond = true)
    (hc : c.toNat < 128) :
    mapCase expansions (letters :: runs) c =
      [if letters.contains c.toNat then letters.image c.toNat else c] := by
  have hlookup : expansions.lookup c.toNat = none := by
    rw [List.lookup_eq_none_iff]
    intro e he
    have hcode : 128 ≤ e.1 := of_decide_eq_true (List.all_eq_true.mp hexpansions e he)
    have hne : c.toNat ≠ e.1 := by omega
    simp [hne]
  rw [mapCase, hlookup]
  cases hletter : letters.contains c.toNat with
  | true => simp [Run.lookup, hletter]
  | false =>
    have hnone : Run.lookup (letters :: runs) c.toNat = none := by
      rw [Run.lookup, List.find?_cons_of_neg (by simp [hletter])]
      exact lookup_of_isBeyond hruns hc
    simp [hnone]

/-! ## Characters -/

theorem toUpper_of_ascii (hc : c.toNat < 128) : toUpper c = [c.toUpper] := by
  let letters : Run := ⟨0x61, 0x7A, 1, -32⟩
  have htable : toUpper c = mapCase upperExpansions (letters :: upperRuns.tail) c := rfl
  rw [htable, mapCase_of_ascii (by decide +kernel) (by decide +kernel) hc]
  exact of_ascii (P := fun c => [if letters.contains c.toNat then letters.image c.toNat else c] =
    [c.toUpper]) (by decide +kernel) hc

theorem toLower_of_ascii (hc : c.toNat < 128) : toLower c = [c.toLower] := by
  let letters : Run := ⟨0x41, 0x5A, 1, 32⟩
  have htable : toLower c = mapCase lowerExpansions (letters :: lowerRuns.tail) c := rfl
  rw [htable, mapCase_of_ascii (by decide +kernel) (by decide +kernel) hc]
  exact of_ascii (P := fun c => [if letters.contains c.toNat then letters.image c.toNat else c] =
    [c.toLower]) (by decide +kernel) hc

theorem isUppercase_of_ascii (hc : c.toNat < 128) : isUppercase c = c.isUpper := by
  have hruns : uppercaseRuns.tail.all Run.isBeyond = true := by decide +kernel
  have hbeyond : uppercaseRuns.tail.any (·.contains c.toNat) = false := by
    rw [List.any_eq_false]
    intro r hr
    rw [Run.contains_of_isBeyond (List.all_eq_true.mp hruns r hr) hc]
    exact Bool.false_ne_true
  have hfirst : isUppercase c =
      ((⟨0x41, 0x5A, 1, 0⟩ : Run).contains c.toNat || uppercaseRuns.tail.any (·.contains c.toNat)) :=
    rfl
  rw [hfirst, hbeyond, Bool.or_false]
  exact of_ascii (P := fun c => (⟨0x41, 0x5A, 1, 0⟩ : Run).contains c.toNat = c.isUpper)
    (by decide +kernel) hc

theorem toUpper_toLower_of_ascii (hc : c.toNat < 128) : c.toLower.toUpper = c.toUpper :=
  of_ascii (P := fun c => c.toLower.toUpper = c.toUpper) (by decide +kernel) hc

/-- Raising a letter or digit gives one of the same kind. -/
theorem isAlphanum_toUpper (hc : c.isAlphanum = true) :
    c.toUpper.isAlphanum = true ∧ c.toUpper.isAlpha = !c.isDigit ∧ c.toUpper.isDigit = c.isDigit :=
  of_ascii (P := fun c => c.isAlphanum = true →
    c.toUpper.isAlphanum = true ∧ c.toUpper.isAlpha = !c.isDigit ∧ c.toUpper.isDigit = c.isDigit)
    (by decide +kernel) (ascii_of_isAlphanum hc) hc

end Toolbox.Text
