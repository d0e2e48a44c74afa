import Mathlib.Data.List.SplitBy
import Toolbox.Annotation.RenameRule
import Toolbox.Proofs.Text.Ascii

/-!
# Words of names

A rename rule writes the words of a name, the second and each further one of which starts at a
capital letter, in one of eight ways (`spelled`).  The rules themselves pass over the name character
by character, with a mark before each capital but a first one.  Within ASCII both come to the same
(`apply_eq_spelled`), for a passage over the words takes a word's first character apart from the
rest, and capitals stand nowhere else.
-/

namespace Toolbox.RenameRule

open Text

def words (s : List Char) : List (List Char) := s.splitBy fun _ c => !c.isUpper

/-- Words with a mark between them, each character of them written anew. -/
def marked (mark : Char) (write : Char → Char) (s : List Char) : List Char :=
  [mark].intercalate ((words s).map (·.map write))

def dash (c : Char) : Char := if c = '_' then '-' else c

/-- A name of ASCII characters as a rule spells it. -/
def spelled (s : List Char) : RenameRule → List Char
  | lower => s.map Char.toLower
  | upper => s.map Char.toUpper
  | pascal => s
  | camel => (s.take 1).map Char.toLower ++ s.drop 1
  | snake => marked '_' Char.toLower s
  | screamingSnake => marked '_' Char.toUpper s
  | kebab => marked '-' (fun c => dash c.toLower) s
  | screamingKebab => marked '-' (fun c => dash c.toUpper) s

/-! ## Words -/

theorem forall_of_isChain {α : Type} {p : α → Prop} {a : α} {as : List α}
    (h : (a :: as).IsChain fun _ b => p b) : ∀ b ∈ as, p b := by
  induction as generalizing a with
  | nil =>
    intro b hb
    cases hb
  | cons b as ih =>
    rw [List.isChain_cons_cons] at h
    exact List.forall_mem_cons.mpr ⟨h.1, ih h.2⟩

/-- Behind its first character a word has no capitals. -/
theorem isUpper_of_mem_tail {s : List Char} {c : Char} {w : List Char} (h : c :: w ∈ words s) :
    ∀ d ∈ w, d.isUpper = false := by
  intro d hd
  have hchain : (c :: w).IsChain fun _ d => (!d.isUpper) = true := List.isChain_of_mem_splitBy h
  have hlower := forall_of_isChain hchain d hd
  rwa [Bool.not_eq_true'] at hlower

/-- All words but the first start with a capital. -/
theorem exists_isUpper {s : List Char} {first : List Char} {ws : List (List Char)}
    (h : words s = first :: ws) : ∀ w ∈ ws, ∃ c rest, w = c :: rest ∧ c.isUpper = true := by
  have hchain := List.isChain_getLast_head_splitBy (fun _ c => !c.isUpper) s
  rw [show s.splitBy (fun _ c => !c.isUpper) = first :: ws from h] at hchain
  have hcapital : (first :: ws).IsChain fun _ w => ∃ c rest, w = c :: rest ∧ c.isUpper = true := by
    refine hchain.imp ?_
    rintro v w ⟨-, hw, hupper⟩
    refine ⟨w.head hw, w.tail, (List.cons_head_tail hw).symm, ?_⟩
    rwa [Bool.not_eq_false'] at hupper
  exact forall_of_isChain hcapital

theorem intercalate_cons (mark : Char) (w : List Char) (ws : List (List Char)) :
    [mark].intercalate (w :: ws) = w ++ ws.flatMap (mark :: ·) := by
  induction ws generalizing w with
  | nil => simp
  | cons v ws ih => simp [ih]

/-! ## Passages -/

/-- A character with a mark before it if it is a capital. -/
def passed (mark : Char) (write : Char → Char) (c : Char) : List Char :=
  if c.isUpper then [mark, write c] else [write c]

theorem flatMap_passed {mark : Char} {write : Char → Char} {w : List Char}
    (h : ∀ c ∈ w, c.isUpper = false) : w.flatMap (passed mark write) = w.map write := by
  induction w with
  | nil => rfl
  | cons c w ih =>
    obtain ⟨hc, hw⟩ := List.forall_mem_cons.mp h
    rw [List.flatMap_cons, List.map_cons, ih hw, passed, hc]
    rfl

/-- Words with marks between them, in one passage over the name. -/
theorem marked_cons (mark : Char) (write : Char → Char) (c : Char) (s : List Char) :
    marked mark write (c :: s) = write c :: s.flatMap (passed mark write) := by
  obtain ⟨first, ws, hwords⟩ : ∃ first ws, words (c :: s) = first :: ws :=
    List.exists_cons_of_ne_nil (List.splitBy_ne_nil.mpr (List.cons_ne_nil c s))
  have hflatten : first ++ ws.flatten = c :: s := by
    rw [← List.flatten_cons, ← hwords]
    exact List.flatten_splitBy _ _
  have hmem : ∀ w ∈ first :: ws, w ∈ words (c :: s) := by
    rw [hwords]
    exact fun _ hw => hw
  obtain ⟨d, rest, rfl⟩ : ∃ d rest, first = d :: rest :=
    List.exists_cons_of_ne_nil (List.ne_nil_of_mem_splitBy (hmem first List.mem_cons_self))
  obtain ⟨rfl, rfl⟩ : d = c ∧ rest ++ ws.flatten = s := List.cons.inj hflatten
  have hws : ws.flatMap (fun w => mark :: w.map write) =
      ws.flatMap (fun w => w.flatMap (passed mark write)) := by
    refine List.flatMap_congr fun w hw => ?_
    obtain ⟨e, tail, rfl, hupper⟩ := exists_isUpper hwords w hw
    have htail := isUpper_of_mem_tail (hmem _ (List.mem_cons_of_mem _ hw))
    rw [List.flatMap_cons, flatMap_passed htail, passed, hupper]
    rfl
  have hrest := isUpper_of_mem_tail (hmem _ List.mem_cons_self)
  rw [marked, hwords, List.map_cons, intercalate_cons, List.flatMap_map, hws, List.flatMap_append,
    flatMap_passed hrest, ← List.flatMap_id, List.flatMap_assoc]
  rfl

/-! ## Rules -/

variable {s : List Char}

theorem toSnake_eq_marked (h : ∀ c ∈ s, c.toNat < 128) : toSnake s = marked '_' Char.toLower s := by
  cases s with
  | nil => rfl
  | cons c s =>
    obtain ⟨hc, hs⟩ := List.forall_mem_cons.mp h
    have hpassed : s.flatMap snakeChar = s.flatMap (passed '_' Char.toLower) := by
      refine List.flatMap_congr fun d hd => ?_
      rw [snakeChar, passed, isUppercase_of_ascii (hs d hd), toLower_of_ascii (hs d hd)]
    rw [toSnake, marked_cons, toLower_of_ascii hc, hpassed]
    rfl

/-- Writing words anew writes the marks between them anew. -/
theorem map_marked {mark : Char} {write again whole : Char → Char} (h : ∀ c ∈ s, again (write c) = whole c) :
    (marked mark write s).map again = marked (again mark) whole s := by
  cases s with
  | nil => rfl
  | cons c s =>
    obtain ⟨hc, hs⟩ := List.forall_mem_cons.mp h
    have hpassed : s.flatMap (fun d => (passed mark write d).map again) =
        s.flatMap (passed (again mark) whole) := by
      refine List.flatMap_congr fun d hd => ?_
      unfold passed
      cases d.isUpper with
      | true => simp [hs d hd]
      | false => simp [hs d hd]
    rw [marked_cons, marked_cons, List.map_cons, List.map_flatMap, hc, hpassed]

/-- Within ASCII a rule writes the words of a name as it spells them. -/
theorem apply_eq_spelled (h : ∀ c ∈ s, c.toNat < 128) (rule : RenameRule) :
    rule.apply s = spelled s rule := by
  have hupper : ∀ c ∈ s, c.toLower.toUpper = c.toUpper := fun c hc =>
    toUpper_toLower_of_ascii (h c hc)
  cases rule with
  | lower => rfl
  | upper => rfl
  | pascal => rfl
  | camel =>
    cases s with
    | nil => rfl
    | cons c s =>
      have hc := toLower_of_ascii (h c List.mem_cons_self)
      show toLower c ++ s = [c.toLower] ++ s
      rw [hc]
  | snake => exact toSnake_eq_marked h
  | screamingSnake =>
    show (toSnake s).map Char.toUpper = marked '_' Char.toUpper s
    rw [toSnake_eq_marked h, map_marked hupper]
    rfl
  | kebab =>
    show (toSnake s).map dash = marked '-' (fun c => dash c.toLower) s
    rw [toSnake_eq_marked h, map_marked fun _ _ => rfl]
    rfl
  | screamingKebab =>
    show ((toSnake s).map Char.toUpper).map dash = marked '-' (fun c => dash c.toUpper) s
    rw [toSnake_eq_marked h, map_marked hupper, map_marked fun _ _ => rfl]
    rfl

/-! ## Lengths -/

theorem length_flatMap_passed (mark : Char) (write : Char → Char) (s : List Char) :
    (s.flatMap (passed mark write)).length = s.length + s.countP Char.isUpper := by
  induction s with
  | nil => rfl
  | cons c s ih =>
    rw [List.flatMap_cons, List.length_append, ih, List.length_cons, List.countP_cons, passed]
    cases c.isUpper with
    | true =>
      simp
      omega
    | false =>
      simp
      omega

theorem length_marked (mark : Char) (write : Char → Char) (s : List Char) :
    (marked mark write s).length = s.length + s.tail.countP Char.isUpper := by
  cases s with
  | nil => rfl
  | cons c s =>
    rw [marked_cons, List.length_cons, length_flatMap_passed, List.length_cons, List.tail_cons]
    omega

/-- No rule drops the mark of a raw identifier. -/
theorem length_spelled_raw (s : List Char) (rule : RenameRule) :
    (spelled s rule).length < (spelled ('r' :: '#' :: s) rule).length := by
  have hmarked : ∀ mark write,
      (marked mark write s).length < (marked mark write ('r' :: '#' :: s)).length := by
    intro mark write
    have htail : s.tail.countP Char.isUpper ≤ s.countP Char.isUpper :=
      (List.tail_sublist s).countP_le
    have hmark : ('#' :: s).countP Char.isUpper = s.countP Char.isUpper := by
      rw [List.countP_cons_of_neg (by decide)]
    rw [length_marked, length_marked, List.tail_cons, hmark, List.length_cons, List.length_cons]
    omega
  cases rule with
  | lower | upper | pascal | camel =>
    simp only [spelled, List.length_map, List.length_append, List.length_take, List.length_drop,
      List.length_cons]
    omega
  | snake => exact hmarked _ _
  | screamingSnake => exact hmarked _ _
  | kebab => exact hmarked _ _
  | screamingKebab => exact hmarked _ _

end Toolbox.RenameRule
