import Toolbox.Proofs.Annotation.Alignment
import Toolbox.Proofs.Signature.Contents

/-!
# Which functions expand

A function expands if its parts pass the checks (`Admissible`), it has a description, and its
companion can have the name it would get.  Where the attribute gives no description, the first line
of the documentation is one.  A schema is described by that line as well, so the tool and its schema
are described alike (`expand_summarised`).
-/

namespace Toolbox

namespace DeclaredFunction

/-- A function whose parts pass the checks that come before the description. -/
structure Admissible (f : DeclaredFunction) : Prop where
  function : f.fault? = none
  params : ∀ p ∈ f.params, ∃ a, argument p = .ok a

theorem exists_argumentsOf_iff (ps : List DeclaredParam) :
    (∃ as, argumentsOf ps = .ok as) ↔ ∀ p ∈ ps, ∃ a, argument p = .ok a := by
  induction ps with
  | nil =>
    constructor
    · intro _ p hp
      cases hp
    · intro _
      exact ⟨[], rfl⟩
  | cons p ps ih =>
    rw [List.forall_mem_cons, ← ih]
    constructor
    · rintro ⟨as, h⟩
      obtain ⟨a, ha, h⟩ := exists_of_bind_eq_ok h
      obtain ⟨rest, hrest, -⟩ := exists_of_bind_eq_ok h
      exact ⟨⟨a, ha⟩, rest, hrest⟩
    · rintro ⟨⟨a, ha⟩, rest, hrest⟩
      refine ⟨a :: rest, ?_⟩
      rw [argumentsOf, ha, hrest]
      rfl

/-- The documentation as a text. -/
def documentation (f : DeclaredFunction) : String := String.ofList (docText f.attributes)

/-- The description that is given, or else the summary of the documentation. -/
def description? (f : DeclaredFunction) (attributes : ToolAttributes) : Option String :=
  attributes.description.or (DocComment.parse f.documentation).summary

theorem summary_parse (doc : String) :
    (DocComment.parse doc).summary = (Text.firstLine doc.toList).map String.ofList := rfl

theorem summary_documentation (f : DeclaredFunction) :
    (DocComment.parse f.documentation).summary =
      (Text.firstLine (docText f.attributes)).map String.ofList := by
  rw [summary_parse, documentation, String.toList_ofList]

variable {f : DeclaredFunction} {attributes : ToolAttributes} {e : Expansion}

/-! ## The outcome of an expansion -/

/-- Behind the checks of its parts, a function is refused without a description, and then for the
name of its companion. -/
theorem expand_of_admissible (h : f.Admissible) (attributes : ToolAttributes) :
    ∃ as, argumentsOf f.params = .ok as ∧
      f.expand attributes = match f.description? attributes with
        | none => .error [.noDescription]
        | some description =>
          if Literal.isWord f.companionName.toList then
            .ok (f.expansion attributes as description)
          else .error [.illegalCompanion f.companionName] := by
  obtain ⟨as, harguments⟩ := (exists_argumentsOf_iff f.params).mpr h.params
  refine ⟨as, harguments, ?_⟩
  rw [description?, summary_documentation]
  simp only [expand, h.function, harguments]
  rfl

theorem admissible_of_expand (h : f.expand attributes = .ok e) : f.Admissible := by
  cases hfault : f.fault? with
  | some fault =>
    simp only [expand, hfault] at h
    cases h
  | none =>
    simp only [expand, hfault] at h
    obtain ⟨as, harguments, -⟩ := exists_of_bind_eq_ok h
    exact ⟨hfault, (exists_argumentsOf_iff f.params).mp ⟨as, harguments⟩⟩

/-- What is accepted is described, has a companion with a legal name, and carries its documentation
unless that is empty. -/
theorem description_of_expand (h : f.expand attributes = .ok e) :
    f.description? attributes = some e.description ∧
      Literal.isWord f.companionName.toList = true ∧
      e.doc = if (docText f.attributes).isEmpty then none else some f.documentation := by
  obtain ⟨as, -, houtcome⟩ := expand_of_admissible (admissible_of_expand h) attributes
  rw [h] at houtcome
  cases hdescription : f.description? attributes with
  | none =>
    rw [hdescription] at houtcome
    cases houtcome
  | some description =>
    rw [hdescription] at houtcome
    cases hword : Literal.isWord f.companionName.toList with
    | false =>
      simp only [hword, Bool.false_eq_true, if_false] at houtcome
      cases houtcome
    | true =>
      simp only [hword, if_true] at houtcome
      cases houtcome
      exact ⟨rfl, rfl, rfl⟩

/-! ## Summaries -/

/-- A function without a given description that passes all other checks expands exactly if its
documentation has a summary, which is its first line, and is refused for want of one otherwise.  The
declaration is described by that summary, its signature carries the documentation, and the schema
that is derived from it, if any, is described by the summary as well. -/
theorem expand_summarised (hnone : attributes.description = none)
    (hchecks : ∃ description e, f.expand { attributes with description := some description } = .ok e) :
    ((∃ e, f.expand attributes = .ok e) ↔
        ∃ summary, (DocComment.parse f.documentation).summary = some summary) ∧
      ((DocComment.parse f.documentation).summary = none →
        f.expand attributes = .error [.noDescription]) ∧
      (∀ e, f.expand attributes = .ok e → ∀ scope body,
        (DocComment.parse f.documentation).summary = some (e.declaration scope body).description ∧
        (e.declaration scope body).signature.doc = some f.documentation ∧
        ∀ schema, (e.declaration scope body).signature.trySchema.value = .ok schema →
          schema.description = some (e.declaration scope body).description) ∧
      ∀ summary, (DocComment.parse f.documentation).summary = some summary ↔
        Text.FirstLine f.documentation.toList summary.toList := by
  obtain ⟨_, _, hchecks⟩ := hchecks
  have hadmissible : f.Admissible := admissible_of_expand hchecks
  have hword : Literal.isWord f.companionName.toList = true := (description_of_expand hchecks).2.1
  have hsummary : f.description? attributes = (DocComment.parse f.documentation).summary := by
    rw [description?, hnone, Option.none_or]
  obtain ⟨as, -, houtcome⟩ := expand_of_admissible hadmissible attributes
  simp only [hsummary, hword, if_true] at houtcome
  refine ⟨?_, ?_, ?_, DocComment.summary_parse_iff f.documentation⟩
  · constructor
    · rintro ⟨e, he⟩
      exact ⟨e.description, hsummary ▸ (description_of_expand he).1⟩
    · rintro ⟨summary, hsome⟩
      rw [hsome] at houtcome
      exact ⟨_, houtcome⟩
  · intro hmissing
    rw [hmissing] at houtcome
    exact houtcome
  · intro e he scope body
    obtain ⟨hdescription, -, hdoc⟩ := description_of_expand he
    rw [hsummary] at hdescription
    -- the documentation that has a first line is not empty, so the signature carries it
    have hne : (docText f.attributes).isEmpty = false := by
      cases htext : docText f.attributes with
      | nil =>
        rw [summary_documentation, htext] at hdescription
        cases hdescription
      | cons c rest => rfl
    rw [hne] at hdoc
    have hcarried : (e.declaration scope body).signature.doc = some f.documentation := hdoc
    refine ⟨hdescription, hcarried, ?_⟩
    intro schema hschema
    rw [Signature.description_of_trySchema hschema, Signature.docComment, hcarried]
    exact hdescription

/-- A function whose documentation is spread over attributes with several lines, with nothing but
blanks, and with another attribute between them. -/
def scattered : DeclaredFunction :=
  { name := "scattered"
    attributes := [.doc "", .doc " \t\n", { path := { name := "inline" } },
      .doc "\u2003 Finds it.\n More.", .doc " Args:\n     key: What to find."]
    params := [{ pattern := [.word "key"], type := .name (.ofWord "String") }] }

theorem scattered_expand_summarised :
    ∃ e, scattered.expand {} = .ok e ∧ e.description = "Finds it." ∧
      ∀ scope body schema, (e.declaration scope body).signature.trySchema.value = .ok schema →
        schema.description = some e.description := by
  have hchecks : ∃ description e,
      scattered.expand { ({} : ToolAttributes) with description := some description } = .ok e :=
    ⟨"Finds.", exists_of_isSome_toOption (by decide +kernel)⟩
  have hsummary : (DocComment.parse scattered.documentation).summary = some "Finds it." := by
    decide +kernel
  obtain ⟨hexpands, -, hdescribed, -⟩ := expand_summarised rfl hchecks
  obtain ⟨e, he⟩ := hexpands.mpr ⟨_, hsummary⟩
  refine ⟨e, he, ?_, fun scope body => (hdescribed e he scope body).2.2⟩
  have hdescription := (hdescribed e he .blank fun _ => pure (.ok .null)).1
  rw [hsummary] at hdescription
  exact (Option.some.inj hdescription).symm

end DeclaredFunction

end Toolbox
