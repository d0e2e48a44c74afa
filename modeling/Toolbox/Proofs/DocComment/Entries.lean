import Toolbox.DocComment
import Toolbox.Proofs.Text.Lines

/-!
# Entries of doc comments

A line is an entry if behind its bullets stands a name, in back quotes or with a colon or a
parenthesis behind it, and then something that describes it.  `IsEntry` says so of the parts of the
line, and `entry?` finds these parts (`entry?_eq_some_iff`): where one part ends and the next begins
is fixed by the characters that each may start with.
-/

namespace Toolbox.DocComment

open Text

/-! ## Parts of a line -/

/-- Whether `rest` is left of a text when all characters with a property are dropped at its start. -/
def Dropped (P : Char → Prop) (s rest : List Char) : Prop :=
  ∃ front, s = front ++ rest ∧ (∀ c ∈ front, P c) ∧ ∀ c ∈ rest.head?, ¬ P c

theorem dropWhile_eq_iff {p : Char → Bool} {P : Char → Prop} (h : ∀ c, p c = true ↔ P c)
    {s rest : List Char} : s.dropWhile p = rest ↔ Dropped P s rest := by
  constructor
  · rintro rfl
    refine ⟨s.takeWhile p, List.takeWhile_append_dropWhile.symm,
      fun c hc => (h c).mp (List.mem_takeWhile_imp hc), fun c hc hP => ?_⟩
    have hstop := List.head?_dropWhile_not p s
    rw [Option.mem_def.mp hc] at hstop
    exact absurd ((h c).mpr hP) (by simpa using hstop)
  · rintro ⟨front, rfl, hfront, hrest⟩
    rw [List.dropWhile_append_of_pos fun c hc => (h c).mpr (hfront c hc)]
    cases rest with
    | nil => rfl
    | cons c rest => exact List.dropWhile_cons_of_neg fun hc => hrest c rfl ((h c).mp hc)

theorem trimStart_eq_iff {s rest : List Char} : trimStart s = rest ↔ Dropped IsBlank s rest :=
  dropWhile_eq_iff fun _ => isBlank_iff

/-- What stands behind the bullets of a line, and behind the white space after them. -/
def Body (line body : List Char) : Prop :=
  ∃ marked, Dropped (· ∈ ['*', '-', '+']) line marked ∧ Dropped IsBlank marked body

/-- A name in back quotes, and behind signs that set it off what is said of it. -/
def Quotes (body name said : List Char) : Prop :=
  ∃ tail marked, body = '\x60' :: (name ++ '\x60' :: tail) ∧ Dropped IsBlank tail marked ∧
    Dropped (· ∈ [':', '-']) marked said

/-- A name, perhaps with a type in parentheses, and behind a colon what is said of it. -/
def Announces (body name said : List Char) : Prop :=
  ∃ type, body = name ++ (type ++ ':' :: said) ∧ ':' ∉ type ∧
    (type = [] ∨ ∃ rest, Dropped IsBlank type ('(' :: rest))

/-- Whether a line is an entry for `name` with the description `text`. -/
structure IsEntry (line : List Char) (name text : String) : Prop where
  identifier : IsIdentifier name.toList
  nonempty : text.toList ≠ []
  stands : ∃ body said, Body line body ∧
    (Quotes body name.toList said ∨ Announces body name.toList said) ∧ trimmed said = text.toList

/-! ## Finding the parts -/

section
variable {line body : List Char} {name text : String}

theorem body_iff :
    Body line body ↔
      body = trimStart (line.dropWhile fun c => c == '*' || c == '-' || c == '+') := by
  have hbullet : ∀ c : Char, (c == '*' || c == '-' || c == '+') = true ↔ c ∈ ['*', '-', '+'] := by
    simp [or_assoc]
  unfold Body
  simp only [← dropWhile_eq_iff hbullet, exists_eq_left', ← trimStart_eq_iff]
  exact eq_comm

theorem describe?_eq_some_iff {found said : List Char} :
    describe? found (trim said) = some (name, text) ↔
      found = name.toList ∧ text.toList ≠ [] ∧ trimmed said = text.toList := by
  unfold describe?
  rw [← trim_eq_trimmed]
  split
  next hempty =>
    rw [List.isEmpty_iff.mp hempty]
    simp only [reduceCtorEq, false_iff]
    exact fun h => h.2.1 h.2.2.symm
  next hne =>
    rw [List.isEmpty_iff] at hne
    simp only [Option.some.injEq, Prod.mk.injEq]
    constructor
    · rintro ⟨rfl, rfl⟩
      simpa using hne
    · rintro ⟨rfl, -, htext⟩
      simp [htext]

/-- A name in back quotes is found behind the first of them. -/
theorem quoted_iff {rest : List Char} :
    ((splitOnce '\x60' rest).bind fun x =>
        if isIdentifier x.1 = true then
          describe? x.1 (trim ((trimStart x.2).dropWhile fun c => c == ':' || c == '-'))
        else none) = some (name, text) ↔
      IsIdentifier name.toList ∧ text.toList ≠ [] ∧
        ∃ said, Quotes ('\x60' :: rest) name.toList said ∧ trimmed said = text.toList := by
  have hmark : ∀ c : Char, (c == ':' || c == '-') = true ↔ c ∈ [':', '-'] := by simp
  rw [Option.bind_eq_some_iff]
  constructor
  · rintro ⟨⟨found, tail⟩, hsplit, h⟩
    obtain ⟨rfl, -⟩ := splitOnce_eq_some_iff.mp hsplit
    split at h
    next hfound =>
      obtain ⟨rfl, hne, htext⟩ := describe?_eq_some_iff.mp h
      exact ⟨isIdentifier_iff.mp hfound, hne, _,
        ⟨tail, _, rfl, trimStart_eq_iff.mp rfl, (dropWhile_eq_iff hmark).mp rfl⟩, htext⟩
    next => cases h
  · rintro ⟨hname, hne, said, ⟨tail, marked, hrest, htail, hmarked⟩, htext⟩
    have hidentifier := isIdentifier_iff.mpr hname
    have hquote : '\x60' ∉ name.toList :=
      not_mem_of_isIdentifierChar (isIdentifierChar_of_isIdentifier hidentifier)
        (by decide +kernel)
    rw [← trimStart_eq_iff] at htail
    rw [← dropWhile_eq_iff hmark] at hmarked
    refine ⟨(name.toList, tail), splitOnce_eq_some_iff.mpr ⟨(List.cons.inj hrest).2, hquote⟩, ?_⟩
    rw [if_pos hidentifier, htail, hmarked]
    exact describe?_eq_some_iff.mpr ⟨rfl, hne, htext⟩

/-- What stands behind a name that is announced begins with a sign that is not of the name. -/
theorem exists_cons_of_announced {type : List Char} (said : List Char)
    (h : type = [] ∨ ∃ rest, Dropped IsBlank type ('(' :: rest)) :
    ∃ c rest, type ++ ':' :: said = c :: rest ∧ isIdentifierChar c = false := by
  rcases h with rfl | ⟨inner, front, rfl, hfront, -⟩
  · exact ⟨':', said, rfl, by decide +kernel⟩
  · cases front with
    | nil => exact ⟨'(', _, rfl, by decide +kernel⟩
    | cons c front =>
      refine ⟨c, _, rfl, Bool.eq_false_iff.mpr fun hc => ?_⟩
      exact isBlank_eq_false_iff.mp (isBlank_of_isIdentifierChar hc)
        (hfront c List.mem_cons_self)

/-- Behind a name stands its colon, perhaps after a type, if the first sign is one of the two. -/
theorem announced_iff {type said : List Char} (hcolon : ':' ∉ type) :
    (type ++ ':' :: said).head? = some ':' ∨
        (trimStart (type ++ ':' :: said)).head? = some '(' ↔
      type = [] ∨ ∃ rest, Dropped IsBlank type ('(' :: rest) := by
  simp only [← trimStart_eq_iff]
  by_cases hblank : trimStart type = []
  · have hall : ∀ c ∈ type, isBlank c = true := by simpa [trimStart] using hblank
    have hstart : trimStart (type ++ ':' :: said) = ':' :: said := by
      rw [trimStart_append_of_blank hall]
      exact trimStart_eq_self (by simp; decide)
    cases type with
    | nil => simp
    | cons c type =>
      have hc : c ≠ ':' := fun hc => hcolon (hc ▸ List.mem_cons_self)
      rw [hstart, hblank]
      simp [hc]
  · have hne : type ≠ [] := by
      rintro rfl
      exact hblank rfl
    obtain ⟨c, type, rfl⟩ := List.exists_cons_of_ne_nil hne
    have hc : c ≠ ':' := fun hc => hcolon (hc ▸ List.mem_cons_self)
    rw [trimStart_append_of_ne hblank, List.head?_append_of_ne_nil _ hblank]
    simp [hc, List.head?_eq_some_iff]

/-- A name without back quotes is found up to the first sign that is not of it. -/
theorem unquoted_iff :
    (if (isIdentifier (body.takeWhile isIdentifierChar) &&
          ((body.dropWhile isIdentifierChar).head? == some ':' ||
            (trimStart (body.dropWhile isIdentifierChar)).head? == some '(')) = true then
        (splitOnce ':' (body.dropWhile isIdentifierChar)).bind fun x =>
          describe? (body.takeWhile isIdentifierChar) (trim x.2)
      else none) = some (name, text) ↔
      IsIdentifier name.toList ∧ text.toList ≠ [] ∧
        ∃ said, Announces body name.toList said ∧ trimmed said = text.toList := by
  constructor
  · intro h
    split at h
    next hcond =>
      simp only [Bool.and_eq_true, Bool.or_eq_true, beq_iff_eq] at hcond
      obtain ⟨hfound, hsign⟩ := hcond
      obtain ⟨⟨type, said⟩, hsplit, h⟩ := Option.bind_eq_some_iff.mp h
      obtain ⟨hrest, hcolon⟩ := splitOnce_eq_some_iff.mp hsplit
      obtain ⟨hname, hne, htext⟩ := describe?_eq_some_iff.mp h
      rw [hrest, announced_iff hcolon] at hsign
      rw [hname] at hfound
      refine ⟨isIdentifier_iff.mp hfound, hne, said, ⟨type, ?_, hcolon, hsign⟩, htext⟩
      rw [← hname, ← hrest, List.takeWhile_append_dropWhile]
    next => cases h
  · rintro ⟨hname, hne, said, ⟨type, rfl, hcolon, hsign⟩, htext⟩
    have hidentifier := isIdentifier_iff.mpr hname
    have hchars := isIdentifierChar_of_isIdentifier hidentifier
    have hsplit : splitOnce ':' (type ++ ':' :: said) = some (type, said) :=
      splitOnce_eq_some_iff.mpr ⟨rfl, hcolon⟩
    obtain ⟨c, rest, hrest, hc⟩ := exists_cons_of_announced said hsign
    rw [← announced_iff hcolon] at hsign
    rw [hrest] at hsign hsplit ⊢
    rw [takeWhile_append_cons hchars hc, dropWhile_append_cons hchars hc,
      if_pos (by simpa [hidentifier] using hsign), hsplit]
    exact describe?_eq_some_iff.mpr ⟨rfl, hne, htext⟩

/-- A line is read as an entry exactly if it is one. -/
theorem entry?_eq_some_iff : entry? line = some (name, text) ↔ IsEntry line name text := by
  obtain ⟨body, hbody⟩ : ∃ body, Body line body := ⟨_, body_iff.mpr rfl⟩
  have hentry : IsEntry line name text ↔ IsIdentifier name.toList ∧ text.toList ≠ [] ∧
      ∃ said, (Quotes body name.toList said ∨ Announces body name.toList said) ∧
        trimmed said = text.toList := by
    constructor
    · rintro ⟨hname, hne, body', said, hbody', hsaid⟩
      rw [body_iff.mp hbody', ← body_iff.mp hbody] at hsaid
      exact ⟨hname, hne, said, hsaid⟩
    · rintro ⟨hname, hne, said, hsaid⟩
      exact ⟨hname, hne, body, said, hbody, hsaid⟩
  unfold entry?
  rw [hentry, ← body_iff.mp hbody]
  split
  next rest =>
    refine quoted_iff.trans (and_congr_right fun hname => and_congr_right fun _ =>
      exists_congr fun said => and_congr_left fun _ => (or_iff_left ?_).symm)
    rintro ⟨type, hstart, -⟩
    obtain ⟨c, front, hcons, hc⟩ := exists_cons_of_isIdentifier (isIdentifier_iff.mpr hname)
    rw [hcons] at hstart
    exact ne_of_isIdentifierChar hc (by decide +kernel) (List.cons.inj hstart).1.symm
  next hunquoted =>
    refine unquoted_iff.trans (and_congr_right fun _ => and_congr_right fun _ =>
      exists_congr fun said => and_congr_left fun _ => (or_iff_right ?_).symm)
    rintro ⟨tail, -, hstart, -⟩
    exact hunquoted _ hstart

end

end Toolbox.DocComment
