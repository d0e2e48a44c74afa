import Mathlib.Data.List.DropRight
import Toolbox.Proofs.Cut
import Toolbox.Proofs.Text.Characters

/-!
# Lines, up to what cannot be seen

Whoever trims the lines of a text and passes over the blank ones sees only its `content`: the other
lines, without the white space at their ends.  Of the two texts around a line feed the contents are
joined (`content_lines_append`), whatever stands at the ends of the lines, so the content of a text
is the content of the lines it was written from (`Written.content_lines`).  Its first line is found
where the first character stands that is no white space (`firstLine_eq_some_iff`).
-/

namespace Toolbox.Text

/-! ## White space at the ends -/

/-- A text less the white space at its ends. -/
def trimmed (s : List Char) : List Char :=
  (s.dropWhile fun c => IsBlank c).rdropWhile fun c => IsBlank c

theorem trim_eq_trimmed : trim = trimmed := by
  have hblank : isBlank = fun c => decide (IsBlank c) := by
    funext c
    rw [Bool.eq_iff_iff, isBlank_iff, decide_eq_true_iff]
  funext s
  unfold trim trimEnd trimStart trimmed List.rdropWhile
  rw [hblank]

section
variable {s blank : List Char}

theorem trimStart_append_of_blank (h : ∀ c ∈ blank, isBlank c = true) (s : List Char) :
    trimStart (blank ++ s) = trimStart s :=
  List.dropWhile_append_of_pos h

theorem trimEnd_append_of_blank (h : ∀ c ∈ blank, isBlank c = true) (s : List Char) :
    trimEnd (s ++ blank) = trimEnd s := by
  have hreverse : ∀ c ∈ blank.reverse, isBlank c = true := fun c hc => h c (List.mem_reverse.mp hc)
  unfold trimEnd
  rw [List.reverse_append, List.dropWhile_append_of_pos hreverse]

theorem trimStart_eq_self (h : ∀ c ∈ s.head?, isBlank c = false) : trimStart s = s := by
  cases s with
  | nil => rfl
  | cons c s => exact List.dropWhile_cons_of_neg (by simp [h c rfl])

theorem trim_append_of_blank (h : ∀ c ∈ blank, isBlank c = true) (s : List Char) :
    trim (blank ++ s) = trim s := by
  rw [trim, trimStart_append_of_blank h, trim]

theorem trimEnd_eq_self (h : ∀ c ∈ s.getLast?, isBlank c = false) : trimEnd s = s := by
  refine List.rdropWhile_eq_self_iff.mpr fun hs => ?_
  simp [h _ (List.getLast?_eq_getLast_of_ne_nil hs)]

theorem trim_eq_self (hfirst : ∀ c ∈ s.head?, isBlank c = false)
    (hlast : ∀ c ∈ s.getLast?, isBlank c = false) : trim s = s := by
  rw [trim, trimStart_eq_self hfirst, trimEnd_eq_self hlast]

theorem trimStart_append_of_ne (h : trimStart s ≠ []) (t : List Char) :
    trimStart (s ++ t) = trimStart s ++ t := by
  unfold trimStart at h ⊢
  rw [List.dropWhile_append, if_neg (by simpa using h)]

/-- The two ends may be trimmed in either order. -/
theorem trimStart_trimEnd (s : List Char) : trimStart (trimEnd s) = trim s := by
  induction s using List.reverseRecOn with
  | nil => rfl
  | append_singleton s c ih =>
    have hend : isBlank c = false → ∀ t, trimEnd (t ++ [c]) = t ++ [c] := fun hc t =>
      trimEnd_eq_self (by simp [hc])
    unfold trim at ih ⊢
    by_cases hs : trimStart s = []
    · have hstart : trimStart (s ++ [c]) = trimStart [c] :=
        trimStart_append_of_blank (List.dropWhile_eq_nil_iff.mp hs) [c]
      rw [hstart]
      cases hc : isBlank c with
      | true =>
        rw [trimEnd_append_of_blank (by simp [hc]), ih, hs]
        simp [trimStart, trimEnd, hc]
      | false =>
        have hself : trimStart [c] = [c] := trimStart_eq_self (by simp [hc])
        rw [hend hc, hstart, hself]
        exact (hend hc []).symm
    · rw [trimStart_append_of_ne hs]
      cases hc : isBlank c with
      | true =>
        have hblank : ∀ d ∈ [c], isBlank d = true := by simp [hc]
        rw [trimEnd_append_of_blank hblank, trimEnd_append_of_blank hblank, ih]
      | false => rw [hend hc, hend hc, trimStart_append_of_ne hs]

@[simp] theorem trim_trimEnd (s : List Char) : trim (trimEnd s) = trim s := by
  have hidem : trimEnd (trimEnd s) = trimEnd s := List.rdropWhile_idempotent _ _
  rw [← trimStart_trimEnd, hidem, trimStart_trimEnd]

/-- Trimming takes nothing but white space. -/
theorem mem_trim {c : Char} (h : c ∈ s) (hc : isBlank c = false) : c ∈ trim s := by
  have hstart : c ∈ trimStart s := mem_dropWhile h hc
  have hend : c ∈ (trimStart s).reverse.dropWhile isBlank :=
    mem_dropWhile (List.mem_reverse.mpr hstart) hc
  exact List.mem_reverse.mpr hend

theorem trim_eq_nil_iff (s : List Char) : trim s = [] ↔ ∀ c ∈ s, isBlank c = true := by
  constructor
  · intro h c hc
    cases hblank : isBlank c with
    | true => rfl
    | false =>
      have hmem : c ∈ trim s := mem_trim hc hblank
      rw [h] at hmem
      cases hmem
  · intro h
    have hstart : trimStart s = [] := List.dropWhile_eq_nil_iff.mpr h
    rw [trim, hstart]
    rfl

theorem isBlank_getLast?_trim (s : List Char) : ∀ c ∈ (trim s).getLast?, isBlank c = false := by
  intro c hc
  obtain ⟨hne, hlast⟩ := List.mem_getLast?_eq_getLast hc
  rw [hlast]
  exact Bool.eq_false_iff.mpr (List.rdropWhile_last_not isBlank (trimStart s) hne)

/-- A line that is not blank starts alike without its end. -/
theorem head?_trimEnd (h : trim s ≠ []) : (trimEnd s).head? = s.head? := by
  obtain ⟨rest, hrest⟩ : trimEnd s <+: s := List.rdropWhile_prefix _ _
  cases hend : trimEnd s with
  | nil =>
    rw [← trimStart_trimEnd, hend] at h
    exact absurd rfl h
  | cons c front =>
    rw [← hrest, hend]
    rfl

/-- A carriage return at the end is white space. -/
theorem trimEnd_dropReturn (line : List Char) : trimEnd (dropReturn line) = trimEnd line := by
  unfold dropReturn
  split
  next h =>
    obtain ⟨front, rfl⟩ := List.getLast?_eq_some_iff.mp h
    have hblank : ∀ c ∈ ['\r'], isBlank c = true := List.forall_mem_singleton.mpr (by decide)
    rw [List.dropLast_concat, trimEnd_append_of_blank hblank]
  next => rfl

end

/-! ## What is on the lines -/

/-- The lines with something on them. -/
def nonblank (ls : List (List Char)) : List (List Char) :=
  ls.filter fun line => line.any fun c => ¬ IsBlank c

/-- What is on the lines. -/
def content (ls : List (List Char)) : List (List Char) := (nonblank ls).map trimEnd

/-- Of a line with something on it trimming leaves something. -/
theorem nonblank_eq (ls : List (List Char)) :
    nonblank ls = ls.filter fun line => !(trim line).isEmpty := by
  refine List.filter_congr fun line _ => ?_
  rw [Bool.eq_iff_iff, Bool.not_eq_true', ← Bool.not_eq_true, List.isEmpty_iff, trim_eq_nil_iff]
  simp [isBlank_iff]

theorem nonblank_cons_of_blank {line : List Char} (h : trim line = []) (ls : List (List Char)) :
    nonblank (line :: ls) = nonblank ls := by
  rw [nonblank_eq, nonblank_eq, List.filter_cons_of_neg (by simp [h])]

theorem nonblank_cons_of_ne {line : List Char} (h : trim line ≠ []) (ls : List (List Char)) :
    nonblank (line :: ls) = line :: nonblank ls := by
  rw [nonblank_eq, nonblank_eq, List.filter_cons_of_pos (by simp [h])]

theorem content_append (ls ms : List (List Char)) :
    content (ls ++ ms) = content ls ++ content ms := by
  unfold content nonblank
  rw [List.filter_append, List.map_append]

theorem content_cons (line : List Char) (ls : List (List Char)) :
    content (line :: ls) = content [line] ++ content ls :=
  content_append [line] ls

theorem content_singleton_congr {line other : List Char} (h : trimEnd line = trimEnd other) :
    content [line] = content [other] := by
  have htrim : trim line = trim other := by rw [← trim_trimEnd line, h, trim_trimEnd]
  unfold content
  rw [nonblank_eq, nonblank_eq, List.filter_cons, List.filter_cons, htrim]
  split
  · exact congrArg (fun l => [l]) h
  · rfl

/-! ## Contents of texts -/

/-- How the lines of a text end plays no part. -/
theorem content_lines (s : List Char) : content (lines s) = content (s.splitOn '\n') := by
  suffices hpieces : ∀ pieces, content (linesOfPieces pieces) = content pieces from hpieces _
  intro pieces
  fun_induction linesOfPieces pieces with
  | case1 => rfl
  | case2 last hlast =>
    rw [List.isEmpty_iff.mp hlast]
    rfl
  | case3 last hlast => rfl
  | case4 piece pieces hne ih =>
    rw [content_cons, content_cons piece, ih,
      content_singleton_congr (trimEnd_dropReturn piece)]

theorem content_lines_append (d e : List Char) :
    content (lines (d ++ '\n' :: e)) = content (lines d) ++ content (lines e) := by
  rw [content_lines, content_lines, content_lines, List.splitOn_append_cons_self, content_append]

theorem content_lines_of_not_mem {line : List Char} (h : '\n' ∉ line) :
    content (lines line) = content [line] := by
  rw [content_lines, List.splitOn_eq_singleton h]

theorem content_lines_concat_return (d : List Char) :
    content (lines (d ++ ['\r'])) = content (lines d) := by
  by_cases hfeed : '\n' ∈ d
  · obtain ⟨before, after, rfl⟩ := List.append_of_mem hfeed
    have ih := content_lines_concat_return after
    rw [List.append_assoc, List.cons_append, content_lines_append, content_lines_append, ih]
  · have hreturn : '\n' ∉ d ++ ['\r'] := by simp [hfeed]
    have hblank : ∀ c ∈ ['\r'], isBlank c = true := List.forall_mem_singleton.mpr (by decide)
    rw [content_lines_of_not_mem hreturn, content_lines_of_not_mem hfeed,
      content_singleton_congr (trimEnd_append_of_blank hblank d)]
termination_by d.length
decreasing_by simp_all; omega

/-- A text that has these lines, each with a line feed behind it or a carriage return and a line
feed.  The last line may have neither. -/
inductive Written : List (List Char) → List Char → Prop
  | nil : Written [] []
  | last (line : List Char) : Written [line] line
  | feed {ls : List (List Char)} {s : List Char} (line : List Char) (h : Written ls s) :
      Written (line :: ls) (line ++ '\n' :: s)
  | returnFeed {ls : List (List Char)} {s : List Char} (line : List Char) (h : Written ls s) :
      Written (line :: ls) (line ++ '\r' :: '\n' :: s)

theorem Written.content_lines {ls : List (List Char)} {s : List Char} (h : Written ls s)
    (hfeed : ∀ line ∈ ls, '\n' ∉ line) : content (lines s) = content ls := by
  induction h with
  | nil => rfl
  | last line => exact content_lines_of_not_mem (hfeed line List.mem_cons_self)
  | @feed ls s line h ih =>
    rw [List.forall_mem_cons] at hfeed
    rw [content_lines_append, ih hfeed.2, content_lines_of_not_mem hfeed.1, content_cons line ls]
  | @returnFeed ls s line h ih =>
    rw [List.forall_mem_cons] at hfeed
    have hcut : line ++ '\r' :: '\n' :: s = (line ++ ['\r']) ++ '\n' :: s := by simp
    rw [hcut, content_lines_append, ih hfeed.2, content_lines_concat_return,
      content_lines_of_not_mem hfeed.1, content_cons line ls]

/-- A text is cut at the first `sep`. -/
theorem splitOnce_eq_some_iff {sep : Char} {s before after : List Char} :
    splitOnce sep s = some (before, after) ↔ s = before ++ sep :: after ∧ sep ∉ before := by
  constructor
  · intro h
    have hparts := List.takeWhile_append_dropWhile (p := (· != sep)) (l := s)
    have hstop := List.head?_dropWhile_not (· != sep) s
    unfold splitOnce at h
    split at h
    next => cases h
    next c rest hdrop =>
      obtain ⟨rfl, rfl⟩ := Prod.mk.inj (Option.some.inj h)
      rw [hdrop] at hparts hstop
      have hc : c = sep := by simpa using hstop
      refine ⟨hc ▸ hparts.symm, fun hmem => ?_⟩
      simpa using List.mem_takeWhile_imp hmem
  · rintro ⟨rfl, hsep⟩
    have hbefore : ∀ c ∈ before, (c != sep) = true := by
      intro c hc
      have hne : c ≠ sep := fun he => hsep (he ▸ hc)
      simp [hne]
    unfold splitOnce
    rw [dropWhile_append_cons hbefore (by simp), takeWhile_append_cons hbefore (by simp)]

theorem dropTrailing_eq_self {c : Char} {s : List Char} (h : c ∉ s) : dropTrailing c s = s := by
  have hreverse : c ∉ s.reverse := fun hc => h (List.mem_reverse.mp hc)
  unfold dropTrailing
  rw [dropWhile_eq_self hreverse, List.reverse_reverse]

/-! ## The first line -/

/-- The first line with something on it is the first of the content. -/
theorem firstLine_eq (s : List Char) : firstLine s = (content (lines s)).head?.map trim := by
  unfold firstLine content
  rw [nonblank_eq, List.find?_map, List.head?_map, List.head?_filter, Option.map_map]
  have htrim : trim ∘ trimEnd = trim := funext trim_trimEnd
  rw [htrim]
  rfl

/-- Whether `line` is the first line of a text that has something on it, less the white space at its
ends: nothing but white space stands before it, and behind it up to the end of the line. -/
structure FirstLine (text line : List Char) : Prop where
  ne_nil : line ≠ []
  oneLine : '\n' ∉ line
  first : ∀ c ∈ line.head?, ¬ IsBlank c
  last : ∀ c ∈ line.getLast?, ¬ IsBlank c
  stands : ∃ lead trail rest, text = lead ++ (line ++ (trail ++ rest)) ∧
    (∀ c ∈ lead, IsBlank c) ∧ (∀ c ∈ trail, IsBlank c ∧ c ≠ '\n') ∧ ∀ c ∈ rest.head?, c = '\n'

theorem content_lines_nil : content (lines []) = [] := rfl

/-- The first line of a text and those behind it. -/
theorem content_lines_cut {line rest : List Char} (hline : '\n' ∉ line)
    (hrest : ∀ c ∈ rest.head?, c = '\n') :
    content (lines (line ++ rest)) = content [line] ++ content (lines rest.tail) := by
  cases rest with
  | nil =>
    rw [List.append_nil, content_lines_of_not_mem hline, List.tail_nil, content_lines_nil,
      List.append_nil]
  | cons c rest =>
    obtain rfl : c = '\n' := hrest c rfl
    rw [content_lines_append, content_lines_of_not_mem hline, List.tail_cons]

/-- Of a line with something on it that stands before other lines, only what is left of it by
trimming counts. -/
theorem head?_content_congr {line other : List Char} (h : trim line = trim other)
    (ls : List (List Char)) :
    (content [line] ++ ls).head?.map trim = (content [other] ++ ls).head?.map trim := by
  unfold content
  by_cases hother : trim other = []
  · rw [nonblank_cons_of_blank (h.trans hother), nonblank_cons_of_blank hother]
  · rw [nonblank_cons_of_ne (h ▸ hother), nonblank_cons_of_ne hother]
    simp [h]

theorem exists_cut (s : List Char) :
    ∃ line rest, s = line ++ rest ∧ '\n' ∉ line ∧ ∀ c ∈ rest.head?, c = '\n' := by
  refine ⟨s.takeWhile (· != '\n'), s.dropWhile (· != '\n'), (List.takeWhile_append_dropWhile).symm,
    fun hmem => ?_, fun c hc => ?_⟩
  · simpa using List.mem_takeWhile_imp hmem
  · have hstop := List.head?_dropWhile_not (· != '\n') s
    rw [Option.mem_def.mp hc] at hstop
    simpa using hstop

theorem firstLine_cons_of_blank {c : Char} (hc : isBlank c = true) (s : List Char) :
    firstLine (c :: s) = firstLine s := by
  rw [firstLine_eq, firstLine_eq]
  by_cases hfeed : c = '\n'
  · subst hfeed
    exact congrArg (fun ls => ls.head?.map trim) (content_lines_append [] s)
  · obtain ⟨line, rest, rfl, hline, hrest⟩ := exists_cut s
    have hcons : '\n' ∉ c :: line := by
      rw [List.mem_cons, not_or]
      exact ⟨fun heq => hfeed heq.symm, hline⟩
    have htrim : trim (c :: line) = trim line :=
      trim_append_of_blank (List.forall_mem_singleton.mpr hc) line
    rw [← List.cons_append, content_lines_cut hcons hrest, content_lines_cut hline hrest]
    exact head?_content_congr htrim _

/-- White space at the start of a text plays no part. -/
theorem firstLine_append_of_blank {lead : List Char} (h : ∀ c ∈ lead, isBlank c = true)
    (s : List Char) : firstLine (lead ++ s) = firstLine s := by
  induction lead with
  | nil => rfl
  | cons c lead ih =>
    rw [List.forall_mem_cons] at h
    rw [List.cons_append, firstLine_cons_of_blank h.1, ih h.2]

theorem FirstLine.firstLine_eq {text line : List Char} (h : FirstLine text line) :
    firstLine text = some line := by
  obtain ⟨lead, trail, rest, rfl, hlead, htrail, hrest⟩ := h.stands
  have hone : '\n' ∉ line ++ trail := by
    rw [List.mem_append, not_or]
    exact ⟨h.oneLine, fun hmem => (htrail _ hmem).2 rfl⟩
  have htrim : trim (line ++ trail) = line := by
    rw [← trim_trimEnd, trimEnd_append_of_blank fun c hc => isBlank_iff.mpr (htrail c hc).1,
      trim_trimEnd, trim_eq_self (fun c hc => isBlank_eq_false_iff.mpr (h.first c hc))
        fun c hc => isBlank_eq_false_iff.mpr (h.last c hc)]
  rw [firstLine_append_of_blank fun c hc => isBlank_iff.mpr (hlead c hc), Text.firstLine_eq, ← List.append_assoc,
    content_lines_cut hone hrest, content, nonblank_cons_of_ne (htrim.symm ▸ h.ne_nil)]
  simp [htrim]

theorem FirstLine.append_of_blank {text line lead : List Char} (h : FirstLine text line)
    (hlead : ∀ c ∈ lead, IsBlank c) : FirstLine (lead ++ text) line := by
  obtain ⟨lead', trail, rest, rfl, hlead', htrail, hrest⟩ := h.stands
  refine { h with stands := ⟨lead ++ lead', trail, rest, ?_, ?_, htrail, hrest⟩ }
  · rw [List.append_assoc]
  · exact List.forall_mem_append.mpr ⟨hlead, hlead'⟩

/-- What is trimmed at the end is white space, and what is left does not end in any. -/
theorem exists_trimEnd_append (s : List Char) :
    ∃ trail, s = trimEnd s ++ trail ∧ (∀ c ∈ trail, IsBlank c) ∧
      ∀ c ∈ (trimEnd s).getLast?, ¬ IsBlank c := by
  refine ⟨s.rtakeWhile isBlank, List.rdropWhile_append_rtakeWhile.symm,
    fun c hc => isBlank_iff.mp (List.mem_rtakeWhile_imp hc), fun c hc => ?_⟩
  obtain ⟨hend, hlast⟩ := List.mem_getLast?_eq_getLast hc
  rw [hlast, ← isBlank_iff]
  exact List.rdropWhile_last_not isBlank s hend

/-- What is to be seen at the start of a text begins its first line. -/
theorem exists_firstLine_cons {c : Char} (hc : ¬ IsBlank c) (s : List Char) :
    ∃ line, FirstLine (c :: s) line := by
  obtain ⟨line, rest, rfl, hline, hrest⟩ := exists_cut s
  have hne : c ≠ '\n' := by
    rintro rfl
    exact hc (by decide)
  have hone : '\n' ∉ c :: line := by
    rw [List.mem_cons, not_or]
    exact ⟨hne.symm, hline⟩
  obtain ⟨trail, hparts, htrail, hlast⟩ := exists_trimEnd_append (c :: line)
  have hhead : (trimEnd (c :: line)).head? = some c := by
    refine head?_trimEnd fun hnil => ?_
    exact hc (isBlank_iff.mp ((trim_eq_nil_iff _).mp hnil c List.mem_cons_self))
  refine ⟨trimEnd (c :: line),
    { ne_nil := fun hnil => by simp [hnil] at hhead
      oneLine := fun hmem => hone (hparts ▸ List.mem_append_left trail hmem)
      first := fun d hd => ?_
      last := hlast
      stands := ⟨[], trail, rest, ?_, List.forall_mem_nil _, fun d hd => ⟨htrail d hd, ?_⟩, hrest⟩ }⟩
  · rw [hhead] at hd
    exact Option.some.inj hd ▸ hc
  · rw [List.nil_append, ← List.append_assoc, ← hparts, List.cons_append]
  · rintro rfl
    exact hone (hparts ▸ List.mem_append_right _ hd)

/-- A text in which something is to be seen has a first line. -/
theorem exists_firstLine {text : List Char} {c : Char} (hc : c ∈ text)
    (hvisible : ¬ IsBlank c) : ∃ line, FirstLine text line := by
  have hsplit := List.takeWhile_append_dropWhile (p := isBlank) (l := text)
  have hmem := mem_dropWhile hc (isBlank_eq_false_iff.mpr hvisible)
  have hstop := List.head?_dropWhile_not isBlank text
  cases hstart : text.dropWhile isBlank with
  | nil =>
    rw [hstart] at hmem
    cases hmem
  | cons first behind =>
    rw [hstart] at hstop hsplit
    have hfirst : ¬ IsBlank first := isBlank_eq_false_iff.mp (by simpa using hstop)
    obtain ⟨line, hline⟩ := exists_firstLine_cons hfirst behind
    refine ⟨line, hsplit ▸ hline.append_of_blank fun d hd => ?_⟩
    exact isBlank_iff.mp (List.mem_takeWhile_imp hd)

theorem firstLine_eq_some_iff {text line : List Char} :
    firstLine text = some line ↔ FirstLine text line := by
  refine ⟨fun h => ?_, FirstLine.firstLine_eq⟩
  by_cases hblank : ∀ c ∈ text, isBlank c = true
  · have hnone : firstLine (text ++ []) = none := firstLine_append_of_blank hblank []
    rw [List.append_nil, h] at hnone
    cases hnone
  · obtain ⟨c, hc, hvisible⟩ : ∃ c ∈ text, isBlank c = false := by simpa using hblank
    obtain ⟨found, hfound⟩ := exists_firstLine hc (isBlank_eq_false_iff.mp hvisible)
    rw [hfound.firstLine_eq] at h
    exact Option.some.inj h ▸ hfound

end Toolbox.Text
