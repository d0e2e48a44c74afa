import Toolbox.Proofs.Dict
import Toolbox.Proofs.DocComment.Entries

/-!
# Where the description of a parameter stands

A line belongs to a section of parameters if the last boundary before it opens one (`InSection`).  A
parameter has the description that the first entry for it (`IsEntry`) in such a section gives
(`FirstGives`).
Reading keeps no more than a flag, and the flag says of the lines behind which it is set just this
(`openAfter_iff`), so what is read is known by induction on the end of the lines.  Nothing that is
said at the start of a text is taken back further on (`Extends`).
-/

namespace Toolbox.DocComment

open Text

/-! ## Boundaries -/

/-- The four labels of sections of parameters. -/
def labels : List (List Char) :=
  ["args".toList, "arguments".toList, "parameters".toList, "params".toList]

/-- Whether a title is one of the labels, in any ASCII case. -/
def IsLabel (title : List Char) : Prop := title.map Char.toLower ∈ labels

instance (title : List Char) : Decidable (IsLabel title) :=
  inferInstanceAs (Decidable (_ ∈ _))

theorem isLabel_iff {title : List Char} : isLabel title = true ↔ IsLabel title :=
  List.contains_iff_mem

/-- A boundary is a heading, or a line that ends in a colon and either holds one of the labels or
starts in the first column. -/
def Boundary (line : List Char) : Prop :=
  (trimmed line).head? = some '#' ∨
    (trimmed line).getLast? = some ':' ∧
      (IsLabel (trimmed (trimmed line).dropLast) ∨ ∀ c ∈ line.head?, ¬ IsBlank c)

/-- Title of a boundary. -/
def title (line : List Char) : List Char :=
  if (trimmed line).head? = some '#' then
    (trimmed ((trimmed line).dropWhile (· == '#'))).rdropWhile (· == ':')
  else trimmed (trimmed line).dropLast

theorem startsBlank_iff (line : List Char) :
    (line.head?.map isBlank).getD false = true ↔ ¬ ∀ c ∈ line.head?, ¬ IsBlank c := by
  cases line with
  | nil => simp
  | cons c rest => simp [isBlank_iff]

theorem boundary?_spec (line : List Char) :
    (Boundary line ∧ boundary? line = some (isLabel (title line))) ∨
      (¬ Boundary line ∧ boundary? line = none) := by
  have hcolons : ∀ s, dropTrailing ':' s = s.rdropWhile (· == ':') := fun _ => rfl
  unfold boundary? Boundary title
  simp only [← isLabel_iff, ← trim_eq_trimmed, ← hcolons]
  generalize trim line = text
  split
  next heading =>
    left
    simp
  next hheading =>
    have hhead : text.head? ≠ some '#' := by
      intro h
      obtain ⟨heading, rfl⟩ := List.head?_eq_some_iff.mp h
      exact hheading heading rfl
    rw [if_neg hhead]
    by_cases hlast : text.getLast? = some ':'
    · rw [if_pos hlast]
      by_cases hlabel : isLabel (trim text.dropLast) = true
      · left
        exact ⟨Or.inr ⟨hlast, Or.inl hlabel⟩, by rw [if_pos hlabel, hlabel]⟩
      · rw [if_neg hlabel]
        by_cases hindent : ∀ c ∈ line.head?, ¬ IsBlank c
        · left
          refine ⟨Or.inr ⟨hlast, Or.inr hindent⟩, ?_⟩
          rw [if_neg fun h => (startsBlank_iff line).mp h hindent, Bool.eq_false_iff.mpr hlabel]
        · right
          rw [if_pos ((startsBlank_iff line).mpr hindent)]
          exact ⟨fun h => h.elim hhead fun h => h.2.elim hlabel hindent, rfl⟩
    · right
      simp [hhead, hlast]

theorem boundary?_eq_none_iff (line : List Char) : boundary? line = none ↔ ¬ Boundary line := by
  rcases boundary?_spec line with ⟨h, hsome⟩ | ⟨h, hnone⟩
  · simp [h, hsome]
  · simp [h, hnone]

theorem boundary?_of_boundary {line : List Char} (h : Boundary line) :
    boundary? line = some (isLabel (title line)) := by
  rcases boundary?_spec line with ⟨-, hsome⟩ | ⟨hnot, -⟩
  · exact hsome
  · exact absurd h hnot

/-! ## Sections -/

/-- A section of parameters is open behind the lines `before`: the last boundary among them opens
one. -/
def InSection (before : List (List Char)) : Prop :=
  ∃ earlier opening between, before = earlier ++ opening :: between ∧
    Boundary opening ∧ IsLabel (title opening) ∧ ∀ line ∈ between, ¬ Boundary line

/-- A line behind the lines `before` describes the parameter `name`. -/
def Gives (before : List (List Char)) (line : List Char) (name text : String) : Prop :=
  ¬ Boundary line ∧ InSection before ∧ IsEntry (trimmed line) name text

/-- None of the lines describes the parameter `name`. -/
def GivesNone (ls : List (List Char)) (name : String) : Prop :=
  ∀ before line after text, ls = before ++ line :: after → ¬ Gives before line name text

/-- The first of the lines that describes the parameter `name` does so with this text. -/
def FirstGives (ls : List (List Char)) (name text : String) : Prop :=
  ∃ before line after, ls = before ++ line :: after ∧ Gives before line name text ∧
    GivesNone before name

theorem inSection_concat (before : List (List Char)) (line : List Char) :
    InSection (before ++ [line]) ↔
      (Boundary line ∧ IsLabel (title line)) ∨ (¬ Boundary line ∧ InSection before) := by
  constructor
  · rintro ⟨earlier, opening, between, hsplit, hboundary, hlabel, hbetween⟩
    rcases concat_eq_append_cons_iff.mp hsplit with ⟨rfl, rfl, rfl⟩ | ⟨between', rfl, rfl⟩
    · exact Or.inl ⟨hboundary, hlabel⟩
    · have hline : ¬ Boundary line := hbetween line (by simp)
      refine Or.inr ⟨hline, earlier, opening, between', rfl, hboundary, hlabel, ?_⟩
      intro l hl
      exact hbetween l (List.mem_append_left _ hl)
  · rintro (⟨hboundary, hlabel⟩ | ⟨hline, hsection⟩)
    · exact ⟨before, line, [], rfl, hboundary, hlabel, by simp⟩
    · obtain ⟨earlier, opening, between, rfl, hboundary, hlabel, hbetween⟩ := hsection
      refine ⟨earlier, opening, between ++ [line], by simp, hboundary, hlabel, ?_⟩
      intro l hl
      rcases List.mem_append.mp hl with hl | hl
      · exact hbetween l hl
      · rw [List.mem_singleton.mp hl]
        exact hline

theorem givesNone_concat (ls : List (List Char)) (line : List Char) (name : String) :
    GivesNone (ls ++ [line]) name ↔ GivesNone ls name ∧ ∀ text, ¬ Gives ls line name text := by
  constructor
  · intro h
    refine ⟨?_, fun text => h ls line [] text rfl⟩
    rintro before l after text rfl
    exact h before l (after ++ [line]) text (by simp)
  · rintro ⟨hls, hline⟩ before l after text hsplit
    rcases concat_eq_append_cons_iff.mp hsplit with ⟨rfl, rfl, rfl⟩ | ⟨after', rfl, rfl⟩
    · exact hline text
    · exact hls before l after' text rfl

theorem firstGives_concat (ls : List (List Char)) (line : List Char) (name text : String) :
    FirstGives (ls ++ [line]) name text ↔
      FirstGives ls name text ∨ (GivesNone ls name ∧ Gives ls line name text) := by
  constructor
  · rintro ⟨before, l, after, hsplit, hgives, hnone⟩
    rcases concat_eq_append_cons_iff.mp hsplit with ⟨rfl, rfl, rfl⟩ | ⟨after', rfl, rfl⟩
    · exact Or.inr ⟨hnone, hgives⟩
    · exact Or.inl ⟨before, l, after', rfl, hgives, hnone⟩
  · rintro (⟨before, l, after, rfl, hgives, hnone⟩ | ⟨hnone, hgives⟩)
    · exact ⟨before, l, after ++ [line], by simp, hgives, hnone⟩
    · exact ⟨ls, line, [], rfl, hgives, hnone⟩

/-! ## Reading line after line -/

/-- Whether a section is open behind the lines, given whether one is open before them. -/
def openAfter (inside : Bool) (ls : List (List Char)) : Bool :=
  ls.foldl (fun inside line => (boundary? line).getD inside) inside

theorem openAfter_concat (inside : Bool) (ls : List (List Char)) (line : List Char) :
    openAfter inside (ls ++ [line]) = (boundary? line).getD (openAfter inside ls) :=
  List.foldl_concat ..

/-- The flag is set behind the lines of an open section. -/
theorem openAfter_iff (before : List (List Char)) :
    openAfter false before = true ↔ InSection before := by
  induction before using List.reverseRecOn with
  | nil => simp [openAfter, InSection]
  | append_singleton before line ih =>
    rw [openAfter_concat, inSection_concat, ← ih]
    by_cases hline : Boundary line
    · simp [boundary?_of_boundary hline, hline, isLabel_iff]
    · simp [(boundary?_eq_none_iff line).mpr hline, hline]

theorem boundary?_of_blank {line : List Char} (h : trim line = []) : boundary? line = none := by
  unfold boundary?
  rw [h]
  rfl

theorem entries_cons_of_blank {line : List Char} (h : trim line = []) (inside : Bool)
    (ls : List (List Char)) : entries inside (line :: ls) = entries inside ls := by
  rw [entries.eq_def]
  dsimp only
  rw [if_pos (by simp [h])]

/-- What is read from one line, and what from those behind it. -/
theorem entries_cons (inside : Bool) (line : List Char) (ls : List (List Char)) :
    entries inside (line :: ls) =
      (if inside = true ∧ boundary? line = none then ( entry? (trim line)).toList else []) ++
        entries ((boundary? line).getD inside) ls := by
  by_cases hblank : trim line = []
  · have hentry : entry? [] = none := rfl
    rw [entries_cons_of_blank hblank, boundary?_of_blank hblank, hblank, hentry]
    simp
  · rw [entries.eq_def]
    dsimp only
    rw [if_neg (by simp [hblank])]
    cases hboundary : boundary? line with
    | some opening => simp
    | none =>
      cases inside with
      | false => simp
      | true => cases entry? (trim line) <;> simp

theorem entries_append (inside : Bool) (ls ms : List (List Char)) :
    entries inside (ls ++ ms) = entries inside ls ++ entries (openAfter inside ls) ms := by
  induction ls generalizing inside with
  | nil => rfl
  | cons line ls ih =>
    rw [List.cons_append, entries_cons, entries_cons, ih, List.append_assoc]
    rfl

/-- The last line adds what it gives. -/
theorem findEntry_entries_singleton (before : List (List Char)) (line : List Char)
    (name text : String) :
    findEntry name (entries (openAfter false before) [line]) = some text ↔
      Gives before line name text := by
  unfold Gives
  rw [entries_cons, ← openAfter_iff, ← boundary?_eq_none_iff, entries, List.append_nil,
    ← entry?_eq_some_iff, ← trim_eq_trimmed]
  by_cases hgate : openAfter false before = true ∧ boundary? line = none
  · rw [if_pos hgate]
    cases hentry : entry? (trim line) with
    | none => simp [findEntry]
    | some e =>
      simp [findEntry, hgate.1, hgate.2, Prod.ext_iff, eq_comm]
  · rw [if_neg hgate]
    simp only [findEntry, reduceCtorEq, false_iff]
    exact fun h => hgate ⟨h.2.1, h.1⟩

/-- The first entry of a name is the one that the first line gives. -/
theorem findEntry_entries (name : String) (ls : List (List Char)) :
    (∀ text, findEntry name (entries false ls) = some text ↔ FirstGives ls name text) ∧
      (findEntry name (entries false ls) = none ↔ GivesNone ls name) := by
  induction ls using List.reverseRecOn with
  | nil => simp [entries, findEntry, FirstGives, GivesNone]
  | append_singleton ls line ih =>
    obtain ⟨ihsome, ihnone⟩ := ih
    have hline := findEntry_entries_singleton ls line name
    rw [entries_append, findEntry_append]
    constructor
    · intro text
      rw [firstGives_concat, Option.or_eq_some_iff, ihsome, ihnone, hline]
    · rw [givesNone_concat, Option.or_eq_none_iff, ihnone, Option.eq_none_iff_forall_ne_some]
      simp only [ne_eq, hline]

/-! ## Reading what is on the lines -/

theorem entries_nonblank (inside : Bool) (ls : List (List Char)) :
    entries inside (nonblank ls) = entries inside ls := by
  induction ls generalizing inside with
  | nil => rfl
  | cons line ls ih =>
    by_cases hblank : trim line = []
    · rw [nonblank_cons_of_blank hblank, entries_cons_of_blank hblank, ih]
    · rw [nonblank_cons_of_ne hblank, entries_cons, entries_cons, ih]

theorem boundary?_trimEnd {line : List Char} (h : trim line ≠ []) :
    boundary? (trimEnd line) = boundary? line := by
  unfold boundary?
  rw [trim_trimEnd, head?_trimEnd h]

/-- What is read depends on the content only. -/
theorem entries_content (inside : Bool) (ls : List (List Char)) :
    entries inside (content ls) = entries inside ls := by
  induction ls generalizing inside with
  | nil => rfl
  | cons line ls ih =>
    unfold content at ih ⊢
    by_cases hblank : trim line = []
    · rw [nonblank_cons_of_blank hblank, entries_cons_of_blank hblank, ih]
    · rw [nonblank_cons_of_ne hblank, List.map_cons, entries_cons, entries_cons, ih,
        boundary?_trimEnd hblank, trim_trimEnd]

theorem param_parse (doc name : String) :
    (parse doc).param name = findEntry name (entries false (lines doc.toList)) :=
  findEntry_sortEntries_reverse name _

/-- A parameter has the description that the first entry for it gives. -/
theorem param_parse_iff (doc name text : String) :
    (parse doc).param name = some text ↔ FirstGives (nonblank (lines doc.toList)) name text := by
  rw [param_parse, ← entries_nonblank]
  exact (findEntry_entries name _).1 text

/-! ## Further text -/

/-- Whatever `d` says, `longer` says as well. -/
structure Extends (longer d : DocComment) : Prop where
  summary : ∀ text, d.summary = some text → longer.summary = some text
  param : ∀ name text, d.param name = some text → longer.param name = some text

/-- A longer text whose content starts alike. -/
theorem extends_of_content {doc longer : String} {more : List (List Char)}
    (h : content (lines longer.toList) = content (lines doc.toList) ++ more) :
    (parse longer).Extends (parse doc) where
  summary text htext := by
    unfold parse at htext ⊢
    dsimp only at htext ⊢
    rw [firstLine_eq] at htext ⊢
    rw [h, List.head?_append]
    cases hfirst : (content (lines doc.toList)).head? with
    | none =>
      rw [hfirst] at htext
      cases htext
    | some line =>
      rw [hfirst] at htext
      exact htext
  param name text htext := by
    rw [param_parse, ← entries_content] at htext ⊢
    rw [h, entries_append, findEntry_append, htext]
    rfl

/-- A parameter has the description that the first entry for it in a section of parameters gives,
and further lines take nothing back. -/
theorem parse_located :
    (∀ doc name : String,
      (∀ text, (parse doc).param name = some text ↔
        FirstGives (nonblank (lines doc.toList)) name text) ∧
      ((parse doc).param name = none ↔ GivesNone (nonblank (lines doc.toList)) name)) ∧
    (∀ d e lineBreak : String, lineBreak = "\n" ∨ lineBreak = "\r\n" →
      (parse (d ++ lineBreak ++ e)).Extends (parse d)) := by
  constructor
  · intro doc name
    refine ⟨param_parse_iff doc name, ?_⟩
    rw [param_parse, ← entries_nonblank]
    exact (findEntry_entries name _).2
  · intro d e lineBreak hbreak
    have hcontent : content (lines (d ++ lineBreak ++ e).toList) =
        content (lines d.toList) ++ content (lines e.toList) := by
      rcases hbreak with rfl | rfl
      · rw [String.toList_append, String.toList_append, List.append_assoc]
        exact content_lines_append d.toList e.toList
      · have hcut : (d ++ "\r\n" ++ e).toList = (d.toList ++ ['\r']) ++ '\n' :: e.toList := by simp
        rw [hcut, content_lines_append, content_lines_concat_return]
    exact extends_of_content hcontent

/-- Entries without a description are passed over, and what is said of a parameter again does not
count. -/
theorem parse_located_repeated_entry :
    FirstGives (nonblank (lines "Sum.\nArgs:\n  x:\n  x: first\n".toList)) "x" "first" ∧
    (parse ("Sum.\nArgs:\n  x:\n  x: first\n" ++ "\r\n" ++ "# Params\n* `x` - last")).param "x" =
      some "first" := by
  have hfirst : (parse "Sum.\nArgs:\n  x:\n  x: first\n").param "x" = some "first" := by
    decide +kernel
  obtain ⟨hlocated, hextends⟩ := parse_located
  exact ⟨((hlocated _ "x").1 "first").mp hfirst, (hextends _ _ _ (Or.inr rfl)).param "x" _ hfirst⟩

end Toolbox.DocComment
