import Toolbox.Proofs.DocComment.Sections
import Toolbox.Proofs.Signature.Schema

/-!
# What a derived schema contains

The outcome of `trySchema` for any signature (`trySchema_determined`): the first fault of an argument
if there is one, and else the schema of an object about which everything is known, field by field
(`Signature.Derives`).  Every field is set by adding arguments or by the documentation; that no other
is set holds of the empty object schema and is kept by both (`Schema.SetsObjectFields`).
-/

namespace Toolbox

namespace Schema

/-- Whether a schema is that of an object, and no field is set but its description, its properties
and its required names, if it has any. -/
def SetsObjectFields (n : Schema) : Prop :=
  ∃ description properties required,
    n = { kind := some .object, description, properties := some properties
          required := if required = [] then none else some required }

theorem setsObjectFields_object : object.SetsObjectFields := ⟨none, [], [], rfl⟩

theorem SetsObjectFields.setDescription {n : Schema} (h : n.SetsObjectFields)
    (description : Option String) : (n.setDescription description).SetsObjectFields := by
  obtain ⟨_, properties, required, rfl⟩ := h
  exact ⟨description, properties, required, rfl⟩

/-- Once a name is required, some name is. -/
theorem requireName_eq_some (name : String) (required : Option (List String)) :
    ∃ names, names ≠ [] ∧ requireName name required = some names := by
  refine ⟨_, ?_, rfl⟩
  split
  next hmem => exact List.ne_nil_of_mem hmem
  next => simp

theorem SetsObjectFields.withProperty {n : Schema} (h : n.SetsObjectFields) (name : String)
    (schema : Schema) (required : Bool) :
    (n.withProperty name schema required).SetsObjectFields := by
  obtain ⟨description, properties, names, rfl⟩ := h
  cases required with
  | false => exact ⟨description, insertEntry name schema properties, names, rfl⟩
  | true =>
    obtain ⟨names', hne, hnames⟩ :=
      requireName_eq_some name (if names = [] then none else some names)
    refine ⟨description, insertEntry name schema properties, names', ?_⟩
    rw [if_neg hne, ← hnames]
    rfl

end Schema

/-- The summary of a documentation is its first line. -/
theorem DocComment.summary_parse_iff (doc text : String) :
    (DocComment.parse doc).summary = some text ↔ Text.FirstLine doc.toList text.toList := by
  rw [DocComment.parse, Option.map_eq_some_iff, ← Text.firstLine_eq_some_iff]
  constructor
  · rintro ⟨line, hline, rfl⟩
    rwa [String.toList_ofList]
  · intro hline
    exact ⟨text.toList, hline, String.ofList_toList⟩

/-- Whether this is the description of a parameter: the one that is declared, or else the one that
the first entry for it in the documentation gives. -/
def Param.HasDescription (doc : Option String) (p : Param) (text : String) : Prop :=
  p.description = some text ∨ p.description = none ∧ ∃ d, doc = some d ∧
    DocComment.FirstGives (Text.nonblank (Text.lines d.toList)) p.name text

namespace Signature

/-- What the schema is like that is derived from a signature. -/
structure Derives (s : Signature) (n : Schema) : Prop where
  fields : n.SetsObjectFields
  /-- the first line of the documentation that is not blank, trimmed; if there is none, nothing -/
  description : ∀ text, n.description = some text ↔
    ∃ doc, s.doc = some doc ∧ Text.FirstLine doc.toList text.toList
  names : ∀ name, name ∈ n.propertyNames ↔ name ∈ paramNames s.arguments
  ascending : n.propertyNames.Pairwise (· < ·)
  /-- the schema of the type, with its description, if it has any, and with the default -/
  property : ∀ p ∈ s.arguments, ∃ description,
    n.property p.name =
        some (((Schema.ofType p.type).value.setDescription description).setDefault p.fallback) ∧
      ∀ text, description = some text ↔ p.HasDescription s.doc text
  /-- the default of a property is the one that is declared, null included -/
  default : ∀ p ∈ s.arguments, p.default = p.fallback.map .json
  required : n.requiredNames = paramNames (s.arguments.filter (·.default.isNone))
  distinct : n.requiredNames.Nodup

theorem docComment_summary_iff (s : Signature) (text : String) :
    s.docComment.summary = some text ↔
      ∃ doc, s.doc = some doc ∧ Text.FirstLine doc.toList text.toList := by
  have hsummary : s.docComment.summary = s.doc.bind fun doc => (DocComment.parse doc).summary := by
    unfold docComment
    cases s.doc <;> rfl
  simp only [hsummary, Option.bind_eq_some_iff, DocComment.summary_parse_iff]

theorem docComment_param_iff (s : Signature) (p : Param) (text : String) :
    (p.description <|> s.docComment.param p.name) = some text ↔ p.HasDescription s.doc text := by
  have hparam : s.docComment.param p.name = s.doc.bind fun d => (DocComment.parse d).param p.name := by
    unfold docComment
    cases s.doc <;> rfl
  rw [Option.orElse_eq_orElse, Option.orElse_eq_or, Option.or_eq_some_iff, hparam,
    Option.bind_eq_some_iff]
  simp only [DocComment.param_parse_iff, Param.HasDescription]

theorem description_of_trySchema {s : Signature} {n : Schema} (h : s.trySchema.value = .ok n) :
    n.description = s.docComment.summary := by
  obtain ⟨-, rfl⟩ := (s.trySchema_eq_ok_iff n).mp h
  rfl

/-- A schema that is derived has these contents. -/
theorem derives_of_trySchema {s : Signature} {n : Schema} (h : s.trySchema.value = .ok n) :
    s.Derives n := by
  have hn := describes_of_trySchema h
  have hdescription := description_of_trySchema h
  obtain ⟨hargs, rfl⟩ := (s.trySchema_eq_ok_iff n).mp h
  have hdefault : ∀ p ∈ s.arguments, p.default = p.fallback.map .json := fun p hp =>
    Param.default_of_representable (hargs.representable p hp)
  have hrequired : s.arguments.filter (·.fallback.isNone) = s.arguments.filter (·.default.isNone) := by
    refine List.filter_congr fun p hp => ?_
    rw [hdefault p hp, Option.isNone_map]
  refine
    { fields := ?_
      description := fun text => hdescription ▸ s.docComment_summary_iff text
      names := hn.mem_propertyNames
      ascending := hn.sorted.propertyNames_ascend
      property := fun p hp => ⟨p.description <|> s.docComment.param p.name,
        (hn.property p hp).trans (congrArg some (p.property_eq _)), s.docComment_param_iff p⟩
      default := hdefault
      required := hrequired ▸ hn.required
      distinct := ?_ }
  · refine (List.foldlRecOn _ _ Schema.setsObjectFields_object ?_).setDescription _
    intro n hn p _
    exact hn.withProperty _ _ _
  · rw [hn.required]
    exact hargs.distinct.sublist (List.filter_sublist.map _)

/-- The outcome of deriving a schema.  The arguments are the parameters that are no receivers.  It
fails exactly if an argument has a blank name, repeats the name of an earlier argument or has an
unusable default.  The error is then that of the first such argument, whose position is counted
among the arguments; on one argument a blank name comes before a repeated one and that before its
default.  Otherwise a schema is derived, with these contents. -/
theorem trySchema_determined (s : Signature) :
    s.arguments = s.params.filter (fun p => p.receiver = false) ∧
      ((∃ cause, s.trySchema.value = .error cause) ↔
        ∃ before p after, s.arguments = before ++ p :: after ∧
          (Text.IsBlankText p.name ∨ p.name ∈ paramNames before ∨
            ∃ reason, p.default = some (.unrepresentable reason))) ∧
      (∀ cause, s.trySchema.value = .error cause ↔ FirstFault s.arguments cause) ∧
      ((∀ cause, s.trySchema.value ≠ .error cause) →
        ∃ n, s.trySchema.value = .ok n ∧ s.Derives n) := by
  refine ⟨s.arguments_eq, ?_, s.trySchema_eq_error_iff, ?_⟩
  · rw [← exists_firstFault_iff]
    simp only [s.trySchema_eq_error_iff]
  · intro hnone
    cases h : s.trySchema.value with
    | error cause => exact absurd h (hnone cause)
    | ok n => exact ⟨n, rfl, derives_of_trySchema h⟩

/-- A signature whose documentation begins with blank lines. -/
theorem trySchema_determined_documented :
    let s : Signature :=
      { name := "wait"
        doc := some " \n\t\n  Waits a while. \nThen goes on.\nArgs:\n  reason: Why.\n"
        params := [{ name := "seconds", type := .real, default := some (.json (.int 1)) },
          { name := "reason", type := .text }] }
    ∃ n, s.trySchema.value = .ok n ∧ n.description = some "Waits a while." ∧
      n.property "reason" = some { kind := some .string, description := some "Why." } ∧
      n.requiredNames = ["reason"] := by
  intro s
  have hok : s.trySchema.value.toOption.isSome = true := by decide +kernel
  obtain ⟨n, hn, hderives⟩ := (trySchema_determined s).2.2.2 fun cause hcause => by
    rw [hcause] at hok
    cases hok
  have hreason : s.params[1] ∈ s.arguments := by simp [s, arguments]
  obtain ⟨description, hproperty, htext⟩ := hderives.property _ hreason
  have hdescription : description = some "Why." :=
    (htext "Why.").mpr <| Or.inr ⟨rfl, _, rfl,
      (DocComment.param_parse_iff _ _ _).mp (by decide +kernel)⟩
  rw [hdescription] at hproperty
  refine ⟨n, hn, (hderives.description _).mpr ⟨_, rfl, ?_⟩, hproperty, hderives.required⟩
  exact
    { ne_nil := by decide
      oneLine := by decide
      first := by
        rintro c ⟨⟩
        decide
      last := by
        rintro c ⟨⟩
        decide
      stands := by
        refine ⟨" \n\t\n  ".toList, [' '],
          "\nThen goes on.\nArgs:\n  reason: Why.\n".toList, rfl,
          (Text.isBlankText_iff (s := " \n\t\n  ")).mp (by decide), List.forall_mem_singleton.mpr (by decide), ?_⟩
        rintro c ⟨⟩
        rfl }

end Signature

end Toolbox
