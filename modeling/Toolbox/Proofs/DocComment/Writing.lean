import Toolbox.Proofs.DocComment.Sections

/-!
# Documentation reads back as it was written

A page of documentation is a summary, a blank line, the title of a section of parameters and the
entries of that section, each in one of three layouts (`Page`).  A title opens the section
(`Title.boundary?_line`), and an entry is no boundary and is read as what it says
(`Entry.read_line`), whatever its description looks like.  So the section holds the entries that
were written, and the first one for a name counts (`parse_written`).
-/

namespace Toolbox.DocComment

open Text

/-! ## Labels -/

section
variable {label : List Char}

theorem isAlpha_of_mem_labels : ∀ l ∈ labels, ∀ c ∈ l, c.isAlpha = true := by
  have hall : (labels.all fun l => l.all Char.isAlpha) = true := by decide
  simpa only [List.all_eq_true] using hall

/-- Labels consist of letters. -/
theorem isIdentifierChar_of_label (h : IsLabel label) :
    ∀ c ∈ label, isIdentifierChar c = true := by
  intro c hc
  have halpha : c.toLower.isAlpha = true := isAlpha_of_mem_labels _ h _ (List.mem_map_of_mem hc)
  exact isIdentifierChar_of_isAlpha (isAlpha_of_isAlpha_toLower halpha)

theorem ne_nil_of_label (h : IsLabel label) : label ≠ [] := by
  rintro rfl
  revert h
  decide

theorem not_mem_of_label (h : IsLabel label) {sign : Char}
    (hsign : isIdentifierChar sign = false) : sign ∉ label :=
  not_mem_of_isIdentifierChar (isIdentifierChar_of_label h) hsign

theorem isBlank_of_label (h : IsLabel label) : ∀ c ∈ label, isBlank c = false :=
  fun c hc => isBlank_of_isIdentifierChar (isIdentifierChar_of_label h c hc)

theorem trim_of_label (h : IsLabel label) : trim label = label :=
  trim_eq_self (fun c hc => isBlank_of_label h c (List.mem_of_mem_head? hc))
    (fun c hc => isBlank_of_label h c (List.mem_of_getLast? hc))

/-- A label with a colon behind it opens a section. -/
theorem boundary?_colon (h : IsLabel label) : boundary? (label ++ [':']) = some true := by
  have hne : label ≠ [] := ne_nil_of_label h
  have htrim : trim (label ++ [':']) = label ++ [':'] := by
    refine trim_eq_self ?_ (by simp; decide)
    rw [List.head?_append_of_ne_nil _ hne]
    exact fun c hc => isBlank_of_label h c (List.mem_of_mem_head? hc)
  unfold boundary?
  rw [htrim]
  split
  next heading hheading =>
    have hsign : '#' ∈ label ++ [':'] := hheading ▸ List.mem_cons_self
    have hnot : '#' ∉ label := not_mem_of_label h (by decide +kernel)
    simp [hnot] at hsign
  next =>
    rw [if_pos (by simp), List.dropLast_concat, trim_of_label h, if_pos (isLabel_iff.mpr h)]

/-- A label in a heading opens a section. -/
theorem boundary?_heading (h : IsLabel label) (more : Nat) {gap : List Char}
    (hgap : ∀ c ∈ gap, isBlank c = true) :
    boundary? ('#' :: (List.replicate more '#' ++ (gap ++ label))) = some true := by
  have hne : label ≠ [] := ne_nil_of_label h
  have htrim : trim ('#' :: (List.replicate more '#' ++ (gap ++ label))) =
      '#' :: (List.replicate more '#' ++ (gap ++ label)) := by
    refine trim_eq_self (by simp; decide) ?_
    rw [← List.append_assoc, ← List.cons_append, List.getLast?_append_of_ne_nil _ hne]
    exact fun c hc => isBlank_of_label h c (List.mem_of_getLast? hc)
  have hnot : '#' ∉ gap ++ label := by
    intro hmem
    rcases List.mem_append.mp hmem with hmem | hmem
    · exact absurd (hgap '#' hmem) (by decide)
    · exact not_mem_of_label h (by decide +kernel) hmem
  have hsigns : (List.replicate more '#' ++ (gap ++ label)).dropWhile (· == '#') =
      gap ++ label := by
    rw [List.dropWhile_append_of_pos (by simp)]
    exact dropWhile_eq_self hnot
  unfold boundary?
  rw [htrim]
  show some (isLabel (dropTrailing ':' (trim (List.dropWhile _ _)))) = _
  rw [hsigns, trim_append_of_blank hgap, trim_of_label h,
    dropTrailing_eq_self (not_mem_of_label h (by decide +kernel)), isLabel_iff.mpr h]

end

/-! ## Lines that hold a text -/

section
variable {indent lead text : List Char} {c : Char}

theorem trim_lead (hc : isBlank c = false) (htext : text ≠ []) (htrim : trim text = text) :
    trim (c :: lead ++ text) = c :: lead ++ text := by
  refine trim_eq_self (by simpa using hc) ?_
  rw [List.getLast?_append_of_ne_nil _ htext, ← htrim]
  exact isBlank_getLast?_trim text

/-- An indented line with a colon before its text, whatever the text, is no boundary. -/
theorem not_boundary_of_indented (hindent : ∀ c ∈ indent, isBlank c = true) (hne : indent ≠ [])
    (hc : isBlank c = false) (hsign : c ≠ '#') (hcolon : ':' ∈ c :: lead) (htext : text ≠ [])
    (htrim : trim text = text) : ¬ Boundary (indent ++ (c :: lead ++ text)) := by
  unfold Boundary
  rw [← trim_eq_trimmed, trim_append_of_blank hindent, trim_lead hc htext htrim]
  rintro (hhead | ⟨-, hlabel | hfirst⟩)
  · exact hsign (Option.some.inj hhead)
  · rw [List.dropLast_append_of_ne_nil htext] at hlabel
    have hmem : ':' ∈ trim (c :: lead ++ text.dropLast) :=
      mem_trim (List.mem_append_left _ hcolon) (by decide)
    exact not_mem_of_label hlabel (by decide +kernel) hmem
  · obtain ⟨b, rest, rfl⟩ := List.exists_cons_of_ne_nil hne
    exact hfirst b rfl (isBlank_iff.mp (hindent b List.mem_cons_self))

/-- A line in the first column whose text does not end in a colon is no boundary. -/
theorem not_boundary_of_last (hc : isBlank c = false) (hsign : c ≠ '#') (htext : text ≠ [])
    (htrim : trim text = text) (hlast : text.getLast? ≠ some ':') :
    ¬ Boundary (c :: lead ++ text) := by
  unfold Boundary
  rw [← trim_eq_trimmed, trim_lead hc htext htrim, List.getLast?_append_of_ne_nil _ htext]
  rintro (hhead | ⟨hcolon, -⟩)
  · exact hsign (Option.some.inj hhead)
  · exact hlast hcolon

end

/-! ## Lines that are entries -/

section
variable {name text : String}

theorem trimmed_space (text : List Char) : trimmed (' ' :: text) = trimmed text := by
  have hblank : ∀ c ∈ [' '], isBlank c = true := List.forall_mem_singleton.mpr (by decide)
  rw [← trim_eq_trimmed]
  exact trim_append_of_blank hblank text

theorem dropped_cons {P : Char → Prop} {c d : Char} (hc : P c) (hd : ¬ P d) (rest : List Char) :
    Dropped P (c :: d :: rest) (d :: rest) :=
  ⟨[c], rfl, List.forall_mem_singleton.mpr hc, fun _ he => Option.some.inj he ▸ hd⟩

/-- A line that starts with a name has no bullets. -/
theorem body_of_isIdentifier {name : List Char} (hname : isIdentifier name = true)
    (rest : List Char) : Body (name ++ rest) (name ++ rest) := by
  obtain ⟨c, front, rfl, hc⟩ := exists_cons_of_isIdentifier hname
  have hsign : ∀ sign, isIdentifierChar sign = false → c ≠ sign :=
    fun _ => ne_of_isIdentifierChar hc
  refine ⟨_, ⟨[], rfl, List.forall_mem_nil _, ?_⟩, [], rfl, List.forall_mem_nil _, ?_⟩
  · rintro d ⟨⟩
    simp [hsign '*' (by decide +kernel), hsign '-' (by decide +kernel),
      hsign '+' (by decide +kernel)]
  · rintro d ⟨⟩
    exact isBlank_eq_false_iff.mp (isBlank_of_isIdentifierChar hc)

/-- A name, perhaps with a type in parentheses, and behind a colon what describes it. -/
theorem isEntry_colon (hname : IsIdentifier name.toList) (htext : text.toList ≠ [])
    (htrim : trimmed text.toList = text.toList) {type : List Char} (hcolon : ':' ∉ type)
    (htype : type = [] ∨ ∃ rest, type = ' ' :: '(' :: rest) :
    IsEntry (name.toList ++ (type ++ ':' :: ' ' :: text.toList)) name text := by
  have hannounced : type = [] ∨ ∃ rest, Dropped IsBlank type ('(' :: rest) := by
    rcases htype with rfl | ⟨rest, rfl⟩
    · exact Or.inl rfl
    · exact Or.inr ⟨rest, dropped_cons (by decide) (by decide) rest⟩
  exact
    { identifier := hname
      nonempty := htext
      stands := ⟨_, ' ' :: text.toList, body_of_isIdentifier (isIdentifier_iff.mpr hname) _,
        Or.inr ⟨type, rfl, hcolon, hannounced⟩, (trimmed_space _).trans htrim⟩ }

/-- A name in back quotes behind a bullet, and behind a dash what describes it. -/
theorem isEntry_bullet (hname : IsIdentifier name.toList) (htext : text.toList ≠ [])
    (htrim : trimmed text.toList = text.toList) :
    IsEntry ('*' :: ' ' :: '\x60' :: (name.toList ++ '\x60' :: ' ' :: '-' :: ' ' :: text.toList))
      name text :=
  { identifier := hname
    nonempty := htext
    stands := ⟨_, ' ' :: text.toList,
      ⟨_, dropped_cons (by decide) (by decide) _, dropped_cons (by decide) (by decide) _⟩,
      Or.inl ⟨_, _, rfl, dropped_cons (by decide) (by decide) _,
        dropped_cons (by decide) (by decide) _⟩,
      (trimmed_space _).trans htrim⟩ }

theorem read_indented {indent type : List Char} (hindent : ∀ c ∈ indent, isBlank c = true)
    (hne : indent ≠ []) (hname : IsIdentifier name.toList) (htext : text.toList ≠ [])
    (htrim : trimmed text.toList = text.toList) (hcolon : ':' ∉ type)
    (htype : type = [] ∨ ∃ rest, type = ' ' :: '(' :: rest) :
    boundary? (indent ++ (name.toList ++ (type ++ ':' :: ' ' :: text.toList))) = none ∧
      entry? (trim (indent ++ (name.toList ++ (type ++ ':' :: ' ' :: text.toList)))) =
        some (name, text) := by
  have hentry := entry?_eq_some_iff.mpr (isEntry_colon hname htext htrim hcolon htype)
  obtain ⟨c, rest, hcons, hfirst⟩ := exists_cons_of_isIdentifier (isIdentifier_iff.mpr hname)
  have hc : isBlank c = false := isBlank_of_isIdentifierChar hfirst
  have hsign : c ≠ '#' := ne_of_isIdentifierChar hfirst (by decide +kernel)
  have hline : name.toList ++ (type ++ ':' :: ' ' :: text.toList) =
      c :: (rest ++ type ++ [':', ' ']) ++ text.toList := by simp [hcons]
  rw [← trim_eq_trimmed] at htrim
  rw [hline] at hentry ⊢
  rw [boundary?_eq_none_iff, trim_append_of_blank hindent, trim_lead hc htext htrim]
  exact ⟨not_boundary_of_indented hindent hne hc hsign (by simp) htext htrim, hentry⟩

theorem read_bullet (hname : IsIdentifier name.toList) (htext : text.toList ≠ [])
    (htrim : trimmed text.toList = text.toList) (hlast : text.toList.getLast? ≠ some ':') :
    boundary? ('*' :: ' ' :: '\x60' ::
        (name.toList ++ '\x60' :: ' ' :: '-' :: ' ' :: text.toList)) = none ∧
      entry? (trim ('*' :: ' ' :: '\x60' ::
        (name.toList ++ '\x60' :: ' ' :: '-' :: ' ' :: text.toList))) = some (name, text) := by
  have hentry := entry?_eq_some_iff.mpr (isEntry_bullet hname htext htrim)
  have hline : '*' :: ' ' :: '\x60' :: (name.toList ++ '\x60' :: ' ' :: '-' :: ' ' :: text.toList) =
      '*' :: (' ' :: '\x60' :: (name.toList ++ ['\x60', ' ', '-', ' '])) ++ text.toList := by simp
  have hc : isBlank '*' = false := by decide
  rw [← trim_eq_trimmed] at htrim
  rw [hline] at hentry ⊢
  rw [boundary?_eq_none_iff, trim_lead hc htext htrim]
  exact ⟨not_boundary_of_last hc (by decide) htext htrim hlast, hentry⟩

end

/-! ## Pages of documentation -/

/-- White space on one line. -/
structure Gap where
  text : String
  blank : IsBlankText text
  oneLine : '\n' ∉ text.toList

/-- How the title of a section is set: with a colon behind it, or as a heading, with so many more
number signs behind the first. -/
inductive TitleStyle
  | colon
  | heading (more : Nat) (gap : Gap)

/-- Title of a section of parameters: a label in any ASCII case. -/
structure Title where
  label : String
  style : TitleStyle
  named : IsLabel label.toList

/-- How an entry is laid out: indented, or as a bullet in the first column. -/
inductive Layout
  | plain (indent : Gap) (indented : indent.text.toList ≠ [])
  | typed (indent : Gap) (indented : indent.text.toList ≠ []) (type : String)
      (colon : ':' ∉ type.toList) (oneLine : '\n' ∉ type.toList)
  | bullet

/-- What is said of one parameter. -/
structure Entry where
  name : String
  text : String
  layout : Layout
  identifier : IsIdentifier name.toList
  nonempty : text.toList ≠ []
  trimmed : Text.trimmed text.toList = text.toList
  oneLine : '\n' ∉ text.toList
  last : layout = .bullet → text.toList.getLast? ≠ some ':'

/-- Documentation with a summary and one section of parameters. -/
structure Page where
  summary : String
  gap : Gap
  title : Title
  entries : List Entry
  nonblank : ¬ IsBlankText summary
  oneLine : '\n' ∉ summary.toList

/-- The line of a title. -/
def Title.line (t : Title) : String :=
  match t.style with
  | .colon => t.label ++ ":"
  | .heading more gap => String.ofList ('#' :: List.replicate more '#') ++ gap.text ++ t.label

/-- The line of an entry. -/
def Entry.line (e : Entry) : String :=
  match e.layout with
  | .plain indent _ => indent.text ++ e.name ++ ": " ++ e.text
  | .typed indent _ type _ _ => indent.text ++ e.name ++ " (" ++ type ++ "): " ++ e.text
  | .bullet => "* \x60" ++ e.name ++ "\x60 - " ++ e.text

/-- The lines of a page. -/
def Page.lines (p : Page) : List (List Char) :=
  p.summary.toList :: p.gap.text.toList :: p.title.line.toList :: p.entries.map (·.line.toList)

theorem Gap.isBlank_of_mem (g : Gap) : ∀ c ∈ g.text.toList, isBlank c = true :=
  fun c hc => isBlank_iff.mpr (g.blank c hc)

namespace Title

theorem boundary?_line (t : Title) : boundary? t.line.toList = some true := by
  obtain ⟨label, style, hlabel⟩ := t
  cases style with
  | colon =>
    have hline : (label ++ ":").toList = label.toList ++ [':'] := by simp
    exact hline ▸ boundary?_colon hlabel
  | heading more gap =>
    have hline : (String.ofList ('#' :: List.replicate more '#') ++ gap.text ++ label).toList =
        '#' :: (List.replicate more '#' ++ (gap.text.toList ++ label.toList)) := by simp
    exact hline ▸ boundary?_heading hlabel more gap.isBlank_of_mem

theorem line_oneLine (t : Title) : '\n' ∉ t.line.toList := by
  obtain ⟨label, style, hlabel⟩ := t
  have hnot : '\n' ∉ label.toList := not_mem_of_label hlabel (by decide +kernel)
  cases style with
  | colon => simp [line, hnot]
  | heading more gap => simp [line, hnot, gap.oneLine]

end Title

namespace Entry

theorem line_oneLine (e : Entry) : '\n' ∉ e.line.toList := by
  obtain ⟨name, text, layout, hidentifier, hne, htrim, htext, hlast⟩ := e
  have hname := isIdentifier_iff.mpr hidentifier
  have hnot : '\n' ∉ name.toList :=
    not_mem_of_isIdentifierChar (isIdentifierChar_of_isIdentifier hname) (by decide +kernel)
  cases layout with
  | plain indent hindent => simp [line, hnot, htext, indent.oneLine]
  | typed indent hindent type hcolon htype => simp [line, hnot, htext, indent.oneLine, htype]
  | bullet => simp [line, hnot, htext]

/-- An entry is no boundary, and it is read as what it says. -/
theorem read_line (e : Entry) :
    boundary? e.line.toList = none ∧ entry? (trim e.line.toList) = some (e.name, e.text) := by
  obtain ⟨name, text, layout, hname, hne, htrim, htext, hlast⟩ := e
  cases layout with
  | plain indent hindent =>
    have hline : (indent.text ++ name ++ ": " ++ text).toList =
        indent.text.toList ++ (name.toList ++ ([] ++ ':' :: ' ' :: text.toList)) := by simp
    exact hline ▸ read_indented indent.isBlank_of_mem hindent hname hne htrim List.not_mem_nil
      (Or.inl rfl)
  | typed indent hindent type hcolon htype =>
    have hline : (indent.text ++ name ++ " (" ++ type ++ "): " ++ text).toList =
        indent.text.toList ++ (name.toList ++
          (' ' :: '(' :: (type.toList ++ [')']) ++ ':' :: ' ' :: text.toList)) := by simp
    have hnocolon : ':' ∉ ' ' :: '(' :: (type.toList ++ [')']) := by simp [hcolon]
    exact hline ▸ read_indented indent.isBlank_of_mem hindent hname hne htrim hnocolon
      (Or.inr ⟨_, rfl⟩)
  | bullet =>
    have hline : ("* \x60" ++ name ++ "\x60 - " ++ text).toList =
        '*' :: ' ' :: '\x60' :: (name.toList ++ '\x60' :: ' ' :: '-' :: ' ' :: text.toList) := by
      simp
    exact hline ▸ read_bullet hname hne htrim (hlast rfl)

end Entry

/-! ## Reading a page -/

/-- A section holds the entries that were written. -/
theorem entries_written (es : List Entry) :
    entries true (es.map (·.line.toList)) = es.map fun e => (e.name, e.text) := by
  induction es with
  | nil => rfl
  | cons e es ih =>
    obtain ⟨hboundary, hentry⟩ := e.read_line
    rw [List.map_cons, entries_cons, hboundary, hentry, if_pos ⟨rfl, rfl⟩, List.map_cons]
    exact congrArg ((e.name, e.text) :: ·) ih

/-- Nothing before the title is an entry, whatever the summary looks like. -/
theorem entries_lines (p : Page) :
    entries false p.lines = p.entries.map fun e => (e.name, e.text) := by
  have hgap : trim p.gap.text.toList = [] := (trim_eq_nil_iff _).mpr p.gap.isBlank_of_mem
  unfold Page.lines
  rw [entries_cons, if_neg (by simp), entries_cons_of_blank hgap, entries_cons,
    p.title.boundary?_line, if_neg (by simp)]
  exact entries_written p.entries

theorem findEntry_written (name : String) (es : List Entry) :
    findEntry name (es.map fun e => (e.name, e.text)) =
      (es.find? (·.name == name)).map (·.text) := by
  induction es with
  | nil => rfl
  | cons e es ih =>
    rw [List.map_cons, findEntry, List.find?_cons, ih]
    by_cases hname : name = e.name
    · simp [hname]
    · have hother : (e.name == name) = false := beq_false_of_ne (Ne.symm hname)
      rw [if_neg hname, hother]

theorem Page.lines_oneLine (p : Page) : ∀ line ∈ p.lines, '\n' ∉ line := by
  intro line hline
  simp only [Page.lines, List.mem_cons, List.mem_map] at hline
  rcases hline with rfl | rfl | rfl | ⟨e, -, rfl⟩
  · exact p.oneLine
  · exact p.gap.oneLine
  · exact p.title.line_oneLine
  · exact e.line_oneLine

/-- A page that was written is read with its summary, and for each name with the first entry that
was written for it. -/
theorem parse_written (p : Page) (doc : String) (h : Written p.lines doc.toList) :
    (parse doc).summary = some (String.ofList (trimmed p.summary.toList)) ∧
    ∀ name, (parse doc).param name = (p.entries.find? (·.name == name)).map (·.text) := by
  have hcontent : content (lines doc.toList) = content p.lines := h.content_lines p.lines_oneLine
  constructor
  · have hsummary : trim p.summary.toList ≠ [] := fun h =>
      p.nonblank fun c hc => isBlank_iff.mp ((trim_eq_nil_iff _).mp h c hc)
    unfold parse
    dsimp only
    rw [firstLine_eq, hcontent, Page.lines, content, nonblank_cons_of_ne hsummary,
      ← trim_eq_trimmed]
    simp
  · intro name
    rw [param_parse, ← entries_content, hcontent, entries_content, entries_lines,
      findEntry_written]

/-- A page whose summary, names and texts look like titles. -/
def lookalikes : Page where
  summary := " # Args:"
  gap := ⟨"", by decide, by decide⟩
  title := ⟨"PARAMS", .heading 1 ⟨" ", by decide, by decide⟩, by decide⟩
  entries :=
    [⟨"args", "Params:", .typed ⟨"  ", by decide, by decide⟩ (by decide) "list" (by decide)
          (by decide), isIdentifier_iff.mp (by decide +kernel), by decide, by decide, by decide, nofun⟩,
      ⟨"city", "- at: x", .bullet, isIdentifier_iff.mp (by decide +kernel), by decide, by decide,
        by decide, fun _ => by decide⟩,
      ⟨"args", "y", .plain ⟨"\t", by decide, by decide⟩ (by decide),
        isIdentifier_iff.mp (by decide +kernel), by decide, by decide, by decide, nofun⟩]
  nonblank := by decide
  oneLine := by decide

/-- The page, with line ends of both kinds and none behind the last line. -/
def lookalikesDoc : String :=
  " # Args:\r\n\r\n## PARAMS\r\n  args (list): Params:\n* \x60city\x60 - - at: x\n\targs: y"

theorem parse_written_lookalikes :
    Written lookalikes.lines lookalikesDoc.toList ∧
      (parse lookalikesDoc).summary = some "# Args:" ∧
      (parse lookalikesDoc).param "args" = some "Params:" ∧
      (parse lookalikesDoc).param "city" = some "- at: x" ∧
      (parse lookalikesDoc).param "list" = none := by
  have hwritten : Written lookalikes.lines lookalikesDoc.toList := by
    have hlines := Written.returnFeed " # Args:".toList <| .returnFeed [] <|
      .returnFeed "## PARAMS".toList <| .feed "  args (list): Params:".toList <|
      .feed "* \x60city\x60 - - at: x".toList <| .last "\targs: y".toList
    simpa [lookalikesDoc, lookalikes, Page.lines, Title.line, Entry.line] using hlines
  obtain ⟨hsummary, hparam⟩ := parse_written lookalikes lookalikesDoc hwritten
  exact ⟨hwritten, hsummary, hparam "args", hparam "city", hparam "list"⟩

end Toolbox.DocComment
