import Toolbox.Proofs.Annotation.Acceptance

/-!
# How comments are grouped

The lines of a comment come in attributes, one line in each or several, with attributes of other
kinds between them.  Each line stands behind one space, which is no part of it.  The documentation
is cut into lines again and loses that space, so it is the lines as they were written
(`lines_of_holds`), however they were grouped, and all that is made of a function is the same
(`docText_of_holds`).
-/

namespace Toolbox.DeclaredFunction

/-- How a line stands in an attribute: behind a space.  A line that does not begin with a space,
such as an empty one, may do without. -/
inductive Padded : List Char → List Char → Prop
  | space (line : List Char) : Padded line (' ' :: line)
  | bare {line : List Char} (h : line.head? ≠ some ' ') : Padded line line

/-- The attribute `#[doc = "text"]`, whichever way the text is written. -/
def documenting (text : List Char) (written : List Token) : Attribute where
  path := { name := "doc" }
  form := .value { form := .text (String.ofList text), tokens := written }

/-- Whether attributes hold these lines, some in each attribute that documents. -/
inductive Holds : List (List Char) → List Attribute → Prop
  | nil : Holds [] []
  | doc {group padded ls : List (List Char)} {as : List Attribute} (written : List Token)
      (hne : group ≠ []) (hpadded : List.Forall₂ Padded group padded) (h : Holds ls as) :
      Holds (group ++ ls) (documenting (Text.joinLines padded) written :: as)
  | other {ls : List (List Char)} {a : Attribute} {as : List Attribute}
      (ha : ∀ text written, a ≠ documenting text written) (h : Holds ls as) : Holds ls (a :: as)

theorem Padded.dropSpace {line text : List Char} (h : Padded line text) :
    DeclaredFunction.dropSpace text = line := by
  cases h with
  | space => rfl
  | bare h =>
    cases line with
    | nil => rfl
    | cons c line =>
      unfold DeclaredFunction.dropSpace
      split
      next heq =>
        cases heq
        exact absurd rfl h
      next => rfl

theorem Padded.not_mem {line text : List Char} (h : Padded line text) (hline : '\n' ∉ line) :
    '\n' ∉ text := by
  cases h with
  | space =>
    intro hmem
    rcases List.mem_cons.mp hmem with heq | hmem
    · exact absurd heq (by decide)
    · exact hline hmem
  | bare => exact hline

/-- Padded lines can be told apart, and lose their padding. -/
theorem dropSpace_of_padded {group padded : List (List Char)} (h : List.Forall₂ Padded group padded)
    (hfeed : ∀ line ∈ group, '\n' ∉ line) :
    (∀ text ∈ padded, '\n' ∉ text) ∧ padded.map dropSpace = group := by
  induction h with
  | nil =>
    refine ⟨fun text hmem => ?_, rfl⟩
    cases hmem
  | cons hline _ ih =>
    obtain ⟨hfirst, hrest⟩ := List.forall_mem_cons.mp hfeed
    obtain ⟨hpadded, hmap⟩ := ih hrest
    rw [List.forall_mem_cons, List.map_cons, hline.dropSpace, hmap]
    exact ⟨⟨hline.not_mem hfirst, hpadded⟩, rfl⟩

theorem docOf?_documenting (text : List Char) (written : List Token) :
    docOf? (documenting text written) = some (String.ofList text) := by
  have hnamed : (documenting text written).isNamed "doc" = true := Attribute.isNamed_iff.mpr rfl
  show (if (documenting text written).isNamed "doc" then some (String.ofList text) else none) = _
  rw [if_pos hnamed]

theorem docOf?_other {a : Attribute} (ha : ∀ text written, a ≠ documenting text written) :
    docOf? a = none := by
  obtain ⟨path, form⟩ := a
  cases form with
  | bare | list => rfl
  | value e =>
    obtain ⟨form, written⟩ := e
    cases form with
    | text text =>
      refine if_neg fun hnamed => ha text.toList written ?_
      obtain rfl : path = { name := "doc" } := Attribute.isNamed_iff.mp hnamed
      rw [documenting, String.ofList_toList]
    | range | comparison | block | invocation | verbatim | other => rfl

/-- The lines that attributes document with. -/
def linesOf (as : List Attribute) : List (List Char) :=
  (as.filterMap docOf?).flatMap fun text => (text.toList.splitOn '\n').map dropSpace

theorem docText_eq (as : List Attribute) : docText as = Text.joinLines (linesOf as) := rfl

theorem lines_of_holds {ls : List (List Char)} {as : List Attribute} (h : Holds ls as)
    (hfeed : ∀ line ∈ ls, '\n' ∉ line) : linesOf as = ls := by
  induction h with
  | nil => rfl
  | @doc group padded ls as written hne hpadded _ ih =>
    rw [List.forall_mem_append] at hfeed
    obtain ⟨hapart, hdrop⟩ := dropSpace_of_padded hpadded hfeed.1
    have hpadded : padded ≠ [] := by
      rintro rfl
      exact hne hdrop.symm
    rw [linesOf, List.filterMap_cons_some (docOf?_documenting _ written), List.flatMap_cons,
      ← linesOf, ih hfeed.2, String.toList_ofList, Text.joinLines,
      List.splitOn_intercalate _ hapart hpadded, hdrop]
  | other ha _ ih =>
    rw [linesOf, List.filterMap_cons_none (docOf?_other ha)]
    exact ih hfeed

/-- Lines may stand in an attribute each. -/
theorem holds_ofLines (doc : List String) :
    Holds (doc.map String.toList) (Attribute.ofLines doc) := by
  induction doc with
  | nil => exact .nil
  | cons line doc ih =>
    have hline : ∃ text, Padded line.toList text ∧
        (if line.isEmpty then "" else " " ++ line) = String.ofList (Text.joinLines [text]) := by
      cases hempty : line.isEmpty with
      | true =>
        have hline : line = "" := String.isEmpty_iff.mp hempty
        subst hline
        exact ⟨[], .bare (by simp), rfl⟩
      | false =>
        refine ⟨' ' :: line.toList, .space line.toList, String.toList_injective ?_⟩
        simp [Text.joinLines]
    obtain ⟨text, hpadded, htext⟩ := hline
    rw [Attribute.ofLines, List.map_cons, List.map_cons, htext]
    exact .doc [.ofText _] (List.cons_ne_nil _ []) (.cons hpadded .nil) ih

/-- Lines may all stand in one attribute. -/
theorem holds_singleton {ls : List (List Char)} (hne : ls ≠ []) :
    Holds ls [.doc (String.ofList (Text.joinLines (ls.map (' ' :: ·))))] := by
  let text := String.ofList (Text.joinLines (ls.map (' ' :: ·)))
  have hpadded : List.Forall₂ Padded ls (ls.map (' ' :: ·)) :=
    List.forall₂_map_right_iff.mpr (List.forall₂_same.mpr fun line _ => .space line)
  have h : Holds (ls ++ []) [.doc text] := .doc [.ofText text] hne hpadded .nil
  rwa [List.append_nil] at h

def withAttributes (f : DeclaredFunction) (as : List Attribute) : DeclaredFunction :=
  { f with attributes := as }

theorem expansion_withAttributes (f : DeclaredFunction) (options : ToolAttributes)
    (arguments : List Argument) (description : String) {as bs : List Attribute}
    (h : docText bs = docText as) :
    (f.withAttributes bs).expansion options arguments description =
      let e := (f.withAttributes as).expansion options arguments description
      { e with function := e.function.withAttributes bs } := by
  simp only [expansion, withAttributes, h]
  rfl

/-- Of the attributes of a function, an expansion reads the documentation alone. -/
theorem expand_withAttributes (f : DeclaredFunction) (options : ToolAttributes)
    {as bs : List Attribute} (h : docText bs = docText as) :
    (f.withAttributes bs).expand options = ((f.withAttributes as).expand options).map fun e =>
      { e with function := e.function.withAttributes bs } := by
  have hfault : ∀ cs, (f.withAttributes cs).fault? = f.fault? := fun _ => rfl
  have hparams : ∀ cs, (f.withAttributes cs).params = f.params := fun _ => rfl
  have hattributes : ∀ cs, (f.withAttributes cs).attributes = cs := fun _ => rfl
  have hname : ∀ cs, (f.withAttributes cs).companionName = f.companionName := fun _ => rfl
  simp only [expand, hfault, hparams, hattributes, hname, h]
  cases f.fault? with
  | some fault => rfl
  | none =>
    cases argumentsOf f.params with
    | error faults => rfl
    | ok arguments =>
      cases options.description.or ((Text.firstLine (docText as)).map String.ofList) with
      | none => rfl
      | some description =>
        cases Literal.isWord f.companionName.toList with
        | false => rfl
        | true =>
          have he := f.expansion_withAttributes options arguments description h
          exact congrArg Except.ok he

/-- The documentation of a function is the lines of its comment, joined, with all their indentation
but the one space in front of each.  So an expansion carries these lines and takes its summary from
them, and however else they are grouped, nothing changes in it but the attributes that the function
keeps. -/
theorem docText_of_holds {ls : List (List Char)} {as : List Attribute} (h : Holds ls as)
    (hfeed : ∀ line ∈ ls, '\n' ∉ line) :
    docText as = Text.joinLines ls ∧ (ls ≠ [] → (docText as).splitOn '\n' = ls) ∧
      (∀ (f : DeclaredFunction) options e, f.attributes = as → f.expand options = .ok e →
        (e.doc.getD "").toList = Text.joinLines ls ∧
          (options.description = none →
            (DocComment.parse (e.doc.getD "")).summary = some e.description)) ∧
      ∀ bs, Holds ls bs → docText bs = docText as ∧ ∀ (f : DeclaredFunction) options,
        (f.withAttributes bs).expand options = ((f.withAttributes as).expand options).map fun e =>
          { e with function := e.function.withAttributes bs } := by
  have htext : ∀ {bs}, Holds ls bs → docText bs = Text.joinLines ls := fun {bs} hbs => by
    rw [docText_eq, lines_of_holds hbs hfeed]
  refine ⟨htext h, fun hne => ?_, ?_, fun bs hbs => ?_⟩
  · rw [htext h]
    exact List.splitOn_intercalate '\n' hfeed hne
  · rintro f options e rfl he
    obtain ⟨hdescription, -, hdoc⟩ := description_of_expand he
    have hcarried : e.doc.getD "" = f.documentation := by
      rw [hdoc]
      split
      next hempty =>
        have hnone : docText f.attributes = [] := List.isEmpty_iff.mp hempty
        rw [documentation, hnone, String.ofList_nil, Option.getD_none]
      next => rfl
    rw [hcarried, documentation, String.toList_ofList, ← documentation]
    refine ⟨htext h, fun hnone => ?_⟩
    rwa [description?, hnone, Option.none_or] at hdescription
  · have hsame : docText bs = docText as := (htext hbs).trans (htext h).symm
    exact ⟨hsame, fun f options => f.expand_withAttributes options hsame⟩

theorem docText_of_holds_indented :
    let doc := ["Finds it.", "", "Args:", "    key: What to find."]
    let block : Attribute := .doc " Finds it.\n \n Args:\n     key: What to find."
    docText (Attribute.ofLines doc) =
        "Finds it.\n\nArgs:\n    key: What to find.".toList ∧
      docText [{ path := { name := "inline" } }, block] = docText (Attribute.ofLines doc) := by
  intro doc block
  obtain ⟨htext, -, -, hgrouped⟩ := docText_of_holds (holds_ofLines doc) (by decide)
  refine ⟨htext, (hgrouped _ (.other ?_ ?_)).1⟩
  · intro text written h
    exact absurd (congrArg Attribute.path h) (by simp [documenting])
  · exact holds_singleton (List.cons_ne_nil _ _)

end Toolbox.DeclaredFunction
