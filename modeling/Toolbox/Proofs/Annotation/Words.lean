import Toolbox.Proofs.Annotation.RenameRule

/-!
# Names made of words

A name in camel case with a capital is put together from words, each with its first letter raised
(`Word.joined`).  In such a name a capital stands where a word starts and nowhere else, so the
passages of the rename rules find the words again: every rule writes them as `written` says
(`apply_joined`).  Where it puts a mark between words, the words can be read back from what it has
written, for no word holds a mark, and so no two names are written alike.
-/

namespace Toolbox.RenameRule

open Text

/-- A small letter or a digit, of ASCII. -/
def isSmall (c : Char) : Bool := c.isLower || c.isDigit

/-- A word of a name: a small letter, and behind it small letters and digits. -/
structure Word where
  first : Char
  rest : List Char
  first_isLower : first.isLower = true
  rest_isSmall : ∀ c ∈ rest, isSmall c = true

namespace Word

def letters (w : Word) : List Char := w.first :: w.rest

/-- The word in capitals. -/
def raised (w : Word) : List Char := w.letters.map Char.toUpper

/-- The word with a capital first. -/
def capital (w : Word) : List Char := w.first.toUpper :: w.rest

/-- The name that words make up. -/
def joined (ws : List Word) : List Char := ws.flatMap capital

end Word

open Word

/-- How a rule writes the name that words make up. -/
def written (ws : List Word) : RenameRule → List Char
  | lower => ws.flatMap letters
  | upper => ws.flatMap raised
  | pascal => ws.flatMap capital
  | camel => (ws.take 1).flatMap letters ++ (ws.drop 1).flatMap capital
  | snake => ['_'].intercalate (ws.map letters)
  | screamingSnake => ['_'].intercalate (ws.map raised)
  | kebab => ['-'].intercalate (ws.map letters)
  | screamingKebab => ['-'].intercalate (ws.map raised)

/-- The mark that a rule puts between words, and what it makes of each word. -/
def separated? : RenameRule → Option (Char × (Word → List Char))
  | snake => some ('_', letters)
  | screamingSnake => some ('_', raised)
  | kebab => some ('-', letters)
  | screamingKebab => some ('-', raised)
  | lower | upper | pascal | camel => none

/-! ## Characters of words -/

theorem ascii_of_isSmall {c : Char} (h : isSmall c = true) : c.toNat < 128 := by
  apply ascii_of_isAlphanum
  show ((c.isUpper || c.isLower) || c.isDigit) = true
  rw [Bool.or_assoc, Bool.or_eq_true]
  exact Or.inr h

theorem of_isSmall {P : Char → Prop}
    (h : ∀ n < 128, isSmall (Char.ofNat n) = true → P (Char.ofNat n)) {c : Char}
    (hc : isSmall c = true) : P c :=
  of_ascii (P := fun c => isSmall c = true → P c) h (ascii_of_isSmall hc) hc

section
variable {c : Char}

theorem toLower_of_isSmall (h : isSmall c = true) : c.toLower = c :=
  of_isSmall (P := fun c => c.toLower = c) (by decide +kernel) h

theorem isUpper_of_isSmall (h : isSmall c = true) : c.isUpper = false :=
  of_isSmall (P := fun c => c.isUpper = false) (by decide +kernel) h

/-- Raising a small letter is undone by lowering. -/
theorem toLower_toUpper (h : isSmall c = true) : c.toUpper.toLower = c :=
  of_isSmall (P := fun c => c.toUpper.toLower = c) (by decide +kernel) h

theorem toUpper_toUpper (h : isSmall c = true) : c.toUpper.toUpper = c.toUpper :=
  of_isSmall (P := fun c => c.toUpper.toUpper = c.toUpper) (by decide +kernel) h

theorem dash_of_isSmall (h : isSmall c = true) : dash c = c ∧ dash c.toUpper = c.toUpper :=
  of_isSmall (P := fun c => dash c = c ∧ dash c.toUpper = c.toUpper) (by decide +kernel) h

theorem ne_mark_of_isSmall (h : isSmall c = true) :
    (c ≠ '_' ∧ c.toUpper ≠ '_') ∧ c ≠ '-' ∧ c.toUpper ≠ '-' :=
  of_isSmall (P := fun c => (c ≠ '_' ∧ c.toUpper ≠ '_') ∧ c ≠ '-' ∧ c.toUpper ≠ '-')
    (by decide +kernel) h

end

namespace Word

theorem isSmall_first (w : Word) : isSmall w.first = true := by
  rw [isSmall, w.first_isLower, Bool.true_or]

theorem isSmall_of_mem {w : Word} : ∀ c ∈ w.letters, isSmall c = true :=
  List.forall_mem_cons.mpr ⟨w.isSmall_first, w.rest_isSmall⟩

theorem isUpper_first (w : Word) : w.first.toUpper.isUpper = true :=
  of_ascii (P := fun c => c.isLower = true → c.toUpper.isUpper = true) (by decide +kernel)
    (ascii_of_isSmall w.isSmall_first) w.first_isLower

/-- Whatever is done to the characters of a word with a capital is done to those of the word, if the
capital does not matter. -/
theorem map_capital (w : Word) (write again : Char → Char)
    (hfirst : ∀ c, isSmall c = true → write c.toUpper = again c)
    (hrest : ∀ c, isSmall c = true → write c = again c) :
    w.capital.map write = w.letters.map again := by
  rw [capital, letters, List.map_cons, List.map_cons, hfirst _ w.isSmall_first,
    List.map_congr_left fun c hc => hrest c (w.rest_isSmall c hc)]

theorem map_toLower_capital (w : Word) : w.capital.map Char.toLower = w.letters := by
  rw [w.map_capital Char.toLower id (fun _ => toLower_toUpper) (fun _ => toLower_of_isSmall),
    List.map_id]

theorem map_toUpper_capital (w : Word) : w.capital.map Char.toUpper = w.raised :=
  w.map_capital Char.toUpper Char.toUpper (fun _ => toUpper_toUpper) fun _ _ => rfl

theorem letters_injective {v w : Word} (h : v.letters = w.letters) : v = w := by
  obtain ⟨first, rest, _, _⟩ := v
  obtain ⟨first', rest', _, _⟩ := w
  obtain ⟨rfl, rfl⟩ : first = first' ∧ rest = rest' := List.cons.inj h
  rfl

theorem ascii_joined (ws : List Word) : ∀ c ∈ joined ws, c.toNat < 128 := by
  intro c hc
  obtain ⟨w, -, hc⟩ := List.mem_flatMap.mp hc
  rcases List.mem_cons.mp hc with rfl | hc
  · apply ascii_of_isAlphanum
    show ((w.first.toUpper.isUpper || _) || _) = true
    rw [w.isUpper_first, Bool.true_or, Bool.true_or]
  · exact ascii_of_isSmall (w.rest_isSmall c hc)

theorem map_joined {write : Char → Char} {parts : Word → List Char} (ws : List Word)
    (h : ∀ w : Word, w.capital.map write = parts w) :
    (joined ws).map write = ws.flatMap parts := by
  rw [joined, List.map_flatMap]
  exact List.flatMap_congr fun w _ => h w

end Word

/-! ## Passages over a name -/

/-- In front of each word but the first a passage puts its mark. -/
theorem marked_joined {mark : Char} {write : Char → Char} {parts : Word → List Char} (w : Word)
    (ws : List Word) (h : ∀ v : Word, v.capital.map write = parts v) :
    marked mark write (joined (w :: ws)) = [mark].intercalate ((w :: ws).map parts) := by
  have hrest : ∀ v : Word, v.rest.flatMap (passed mark write) = v.rest.map write := fun v =>
    flatMap_passed fun c hc => isUpper_of_isSmall (v.rest_isSmall c hc)
  have hcapital : ∀ v : Word, v.capital.flatMap (passed mark write) = mark :: parts v := by
    intro v
    rw [capital, List.flatMap_cons, hrest, passed, v.isUpper_first, ← h]
    rfl
  have hws : (joined ws).flatMap (passed mark write) = ws.flatMap (mark :: parts ·) := by
    rw [joined, List.flatMap_assoc]
    exact List.flatMap_congr fun v _ => hcapital v
  calc marked mark write (joined (w :: ws))
    _ = write w.first.toUpper :: (w.rest ++ joined ws).flatMap (passed mark write) :=
      marked_cons mark write w.first.toUpper (w.rest ++ joined ws)
    _ = parts w ++ ws.flatMap (mark :: parts ·) := by
      rw [List.flatMap_append, hrest, hws, ← h]
      rfl
    _ = [mark].intercalate ((w :: ws).map parts) := by
      rw [List.map_cons, intercalate_cons, List.flatMap_map]

theorem spelled_joined (w : Word) (ws : List Word) (rule : RenameRule) :
    spelled (joined (w :: ws)) rule = written (w :: ws) rule := by
  have hletters := fun v : Word => v.map_toLower_capital
  have hraised := fun v : Word => v.map_toUpper_capital
  cases rule with
  | lower => exact map_joined (w :: ws) hletters
  | upper => exact map_joined (w :: ws) hraised
  | pascal => rfl
  | camel =>
    have hfirst : w.first.toUpper.toLower = w.first := toLower_toUpper w.isSmall_first
    show w.first.toUpper.toLower :: (w.rest ++ joined ws) = w.letters ++ [] ++ joined ws
    rw [hfirst, List.append_nil]
    rfl
  | snake => exact marked_joined w ws hletters
  | screamingSnake => exact marked_joined w ws hraised
  | kebab =>
    refine marked_joined w ws fun v => ?_
    rw [v.map_capital _ id, List.map_id]
    · intro c hc
      rw [toLower_toUpper hc, (dash_of_isSmall hc).1, id_eq]
    · intro c hc
      rw [toLower_of_isSmall hc, (dash_of_isSmall hc).1, id_eq]
  | screamingKebab =>
    refine marked_joined w ws fun v => v.map_capital _ Char.toUpper ?_ ?_
    · intro c hc
      rw [toUpper_toUpper hc, (dash_of_isSmall hc).2]
    · exact fun c hc => (dash_of_isSmall hc).2

/-! ## Reading words back -/

section
variable {rule : RenameRule} {mark : Char} {part : Word → List Char}

theorem written_of_separated? (h : rule.separated? = some (mark, part)) (ws : List Word) :
    written ws rule = [mark].intercalate (ws.map part) := by
  cases rule <;> cases h <;> rfl

theorem not_mem_part (h : rule.separated? = some (mark, part)) (w : Word) : mark ∉ part w := by
  have hletters : '_' ∉ w.letters ∧ '-' ∉ w.letters :=
    ⟨fun hmem => (ne_mark_of_isSmall (isSmall_of_mem _ hmem)).1.1 rfl,
      fun hmem => (ne_mark_of_isSmall (isSmall_of_mem _ hmem)).2.1 rfl⟩
  have hraised : '_' ∉ w.raised ∧ '-' ∉ w.raised := by
    constructor
    · intro hmem
      obtain ⟨c, hc, hmark⟩ := List.mem_map.mp hmem
      exact (ne_mark_of_isSmall (isSmall_of_mem c hc)).1.2 hmark
    · intro hmem
      obtain ⟨c, hc, hmark⟩ := List.mem_map.mp hmem
      exact (ne_mark_of_isSmall (isSmall_of_mem c hc)).2.2 hmark
  cases rule with
  | snake =>
    cases h
    exact hletters.1
  | screamingSnake =>
    cases h
    exact hraised.1
  | kebab =>
    cases h
    exact hletters.2
  | screamingKebab =>
    cases h
    exact hraised.2
  | lower | upper | pascal | camel => cases h

/-- Lowering what a rule makes of a word gives the word. -/
theorem map_toLower_part (h : rule.separated? = some (mark, part)) (w : Word) :
    (part w).map Char.toLower = w.letters := by
  have hletters : w.letters.map Char.toLower = w.letters := by
    rw [List.map_congr_left fun c hc => toLower_of_isSmall (isSmall_of_mem c hc), List.map_id']
  have hraised : w.raised.map Char.toLower = w.letters := by
    have hundone : ∀ c ∈ w.letters, (Char.toLower ∘ Char.toUpper) c = c := fun c hc =>
      toLower_toUpper (isSmall_of_mem c hc)
    rw [raised, List.map_map, List.map_congr_left hundone, List.map_id']
  cases rule with
  | snake | kebab =>
    cases h
    exact hletters
  | screamingSnake | screamingKebab =>
    cases h
    exact hraised
  | lower | upper | pascal | camel => cases h

theorem splitOn_written (h : rule.separated? = some (mark, part)) (w : Word) (ws : List Word) :
    (written (w :: ws) rule).splitOn mark = (w :: ws).map part := by
  rw [written_of_separated? h]
  refine List.splitOn_intercalate mark (fun text htext => ?_) (by simp)
  obtain ⟨v, -, rfl⟩ := List.mem_map.mp htext
  exact not_mem_part h v

end

/-- Every rule writes the name that words make up as it writes their words.  Where it puts a mark
between them, they stand between the marks, in small letters or in capitals, so that names that are
written alike are made up of the same words. -/
theorem apply_joined (w : Word) (ws : List Word) (rule : RenameRule) :
    rule.apply (joined (w :: ws)) = written (w :: ws) rule ∧
      ∀ mark part, rule.separated? = some (mark, part) →
        (rule.apply (joined (w :: ws))).splitOn mark = (w :: ws).map part ∧
          ((w :: ws).map part).map (·.map Char.toLower) = (w :: ws).map letters ∧
          ∀ v vs, rule.apply (joined (v :: vs)) = rule.apply (joined (w :: ws)) →
            v :: vs = w :: ws := by
  have happly : ∀ v vs, rule.apply (joined (v :: vs)) = written (v :: vs) rule := fun v vs =>
    (apply_eq_spelled (ascii_joined (v :: vs)) rule).trans (spelled_joined v vs rule)
  refine ⟨happly w ws, fun mark part hmark => ?_⟩
  have hback : ∀ vs : List Word, (vs.map part).map (·.map Char.toLower) = vs.map letters := by
    intro vs
    rw [List.map_map]
    exact List.map_congr_left fun v _ => map_toLower_part hmark v
  refine ⟨?_, hback (w :: ws), fun v vs hequal => ?_⟩
  · rw [happly, splitOn_written hmark]
  · have hparts : (v :: vs).map part = (w :: ws).map part := by
      rw [← splitOn_written hmark, ← splitOn_written hmark, ← happly, ← happly, hequal]
    have hletters : (v :: vs).map letters = (w :: ws).map letters := by
      rw [← hback, ← hback, hparts]
    exact List.map_injective_iff.mpr (fun _ _ => letters_injective) hletters

theorem apply_joined_http2_server :
    let http2 : Word := ⟨'h', ['t', 't', 'p', '2'], rfl, List.all_eq_true.mp rfl⟩
    let server : Word := ⟨'s', ['e', 'r', 'v', 'e', 'r'], rfl, List.all_eq_true.mp rfl⟩
    joined [http2, server] = "Http2Server".toList ∧
      screamingKebab.apply "Http2Server".toList = "HTTP2-SERVER".toList ∧
      "HTTP2-SERVER".toList.splitOn '-' = [http2.raised, server.raised] := by
  intro http2 server
  have hjoined : joined [http2, server] = "Http2Server".toList := by decide
  have hwritten : written [http2, server] screamingKebab = "HTTP2-SERVER".toList := by decide
  obtain ⟨happly, hread⟩ := apply_joined http2 [server] screamingKebab
  obtain ⟨hsplit, -, -⟩ := hread '-' raised rfl
  rw [hjoined, hwritten] at happly
  rw [hjoined, happly] at hsplit
  exact ⟨hjoined, happly, hsplit⟩

end Toolbox.RenameRule
