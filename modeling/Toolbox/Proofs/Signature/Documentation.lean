import Toolbox.Proofs.Signature.Schema
import Toolbox.Signature

/-!
# Documentation changes descriptions only

A signature is stripped of its documentation and of the descriptions of its parameters
(`Signature.undocumented`), a schema of its description and those of its properties
(`Schema.undescribed`).  Deriving the schema commutes with stripping (`trySchema_undocumented`): each
argument is added alike, whatever the documentation says about it.  Checking and binding a signature
do not read its documentation at all, so signatures that are the same when stripped behave alike
(`alike_of_undocumented_eq`).
-/

namespace Toolbox

/-- The parameter without its description. -/
def Param.undescribed (p : Param) : Param := { p with description := none }

/-- The signature without its documentation and without the descriptions of its parameters. -/
def Signature.undocumented (s : Signature) : Signature :=
  { s with doc := none, params := s.params.map Param.undescribed }

/-- The schema without its description and those of its properties.  What is inside the properties
stays as it is. -/
def Schema.undescribed (n : Schema) : Schema :=
  { n with
    description := none
    properties := n.properties.map (·.map fun e => (e.1, e.2.setDescription none)) }

/-! ## Schemas -/

theorem Schema.undescribed_withProperty (n : Schema) (name : String) (schema : Schema)
    (required : Bool) :
    (n.withProperty name schema required).undescribed =
      n.undescribed.withProperty name (schema.setDescription none) required := by
  have hproperties : n.undescribed.properties.getD [] =
      (n.properties.getD []).map fun e => (e.1, e.2.setDescription none) := by
    unfold undescribed
    cases n.properties <;> rfl
  have hinsert := map_insertEntry (fun m : Schema => m.setDescription none) name schema
    (n.properties.getD [])
  rw [withProperty, withProperty, hproperties, ← hinsert]
  rfl

/-- An argument without its description has the property without its description. -/
theorem Param.setDescription_property (docs : DocComment) (p : Param) :
    (p.property docs).setDescription none = p.undescribed.property {} := by
  rw [p.property_eq docs, p.undescribed.property_eq {}]
  rfl

theorem Schema.undescribed_withArgument (docs : DocComment) (n : Schema) (p : Param) :
    (n.withArgument docs p).undescribed = n.undescribed.withArgument {} p.undescribed := by
  rw [withArgument, undescribed_withProperty, p.setDescription_property]
  rfl

namespace Signature

theorem arguments_undocumented (s : Signature) :
    s.undocumented.arguments = s.arguments.map Param.undescribed := by
  unfold arguments undocumented
  rw [List.filter_map]
  rfl

/-- The arguments are added alike, and a fault stops both walks. -/
theorem addArguments_undescribed (docs : DocComment) (index : Nat) (seen : List String) (n : Schema)
    (ps : List Param) :
    (addArguments {} index seen n.undescribed (ps.map Param.undescribed)).value =
      (addArguments docs index seen n ps).value.map Schema.undescribed := by
  induction ps generalizing index seen n with
  | nil => rfl
  | cons p ps ih =>
    have hfault : p.undescribed.schemaFault? index seen = p.schemaFault? index seen := rfl
    rw [List.map_cons, addArguments_cons, addArguments_cons, hfault]
    cases p.schemaFault? index seen with
    | some cause => rfl
    | none =>
      show (addArguments {} (index + 1) (p.name :: seen)
        (n.undescribed.withArgument {} p.undescribed) (ps.map Param.undescribed)).value = _
      rw [← Schema.undescribed_withArgument docs]
      exact ih (index + 1) (p.name :: seen) (n.withArgument docs p)

/-- Without documentation a signature has the schema without descriptions, or the same error. -/
theorem trySchema_undocumented (s : Signature) :
    s.undocumented.trySchema.value = s.trySchema.value.map Schema.undescribed := by
  have hadd := addArguments_undescribed s.docComment 0 [] .object s.arguments
  have hobject : Schema.object.undescribed = .object := rfl
  have hdocs : s.undocumented.docComment = {} := rfl
  rw [hobject, ← arguments_undocumented, ← hdocs] at hadd
  rw [value_trySchema, hadd, value_trySchema]
  cases (addArguments s.docComment 0 [] .object s.arguments).value with
  | error cause => rfl
  | ok n => cases s.docComment.summary <;> rfl

/-! ## Checking and binding -/

theorem paramFault?_undescribed (signature : String) (index : Nat) (seen : List String)
    (ps : List Param) :
    paramFault? signature index seen (ps.map Param.undescribed) =
      paramFault? signature index seen ps := by
  induction ps generalizing index seen with
  | nil => rfl
  | cons p ps ih =>
    rw [List.map_cons, paramFault?, paramFault?, ← ih]
    rfl

theorem validate_undocumented (s : Signature) : s.undocumented.validate = s.validate := by
  have hfault : s.undocumented.fault? = s.fault? := paramFault?_undescribed s.name 0 [] s.params
  rw [validate, validate, hfault]

theorem bindParams_undescribed (ps : List Param) (supplied bound : Dict Json) :
    bindParams (ps.map Param.undescribed) supplied bound = bindParams ps supplied bound := by
  induction ps generalizing supplied bound with
  | nil => rfl
  | cons p ps ih =>
    rw [List.map_cons, bindParams, bindParams]
    simp only [ih]
    rfl

theorem bind_undocumented (s : Signature) (args : Dict Json) :
    s.undocumented.bind args = s.bind args := by
  have hall : s.undocumented.bindAll args = s.bindAll args := by
    rw [bindAll, bindAll, arguments_undocumented, bindParams_undescribed]
  rw [bind, bind, hall]
  rfl

/-- Signatures that differ in their documentation and in the descriptions of their parameters behave
alike.  Either no schema is derived from any of them, for the same reason, or the schemas are the
same but for their descriptions and those of their properties.  They are both valid or have the same
fault, and they bind the same arguments to the same values or refuse them for the same reason. -/
theorem alike_of_undocumented_eq {s t : Signature} (h : s.undocumented = t.undocumented) :
    ((∃ cause, s.trySchema.value = .error cause ∧ t.trySchema.value = .error cause) ∨
        ∃ n m, s.trySchema.value = .ok n ∧ t.trySchema.value = .ok m ∧
          n.undescribed = m.undescribed) ∧
      s.validate = t.validate ∧ ∀ args, s.bind args = t.bind args := by
  refine ⟨?_, ?_, fun args => ?_⟩
  · have hschema : s.trySchema.value.map Schema.undescribed =
        t.trySchema.value.map Schema.undescribed := by
      rw [← s.trySchema_undocumented, h, t.trySchema_undocumented]
    cases hs : s.trySchema.value with
    | error cause =>
      cases ht : t.trySchema.value with
      | error cause' =>
        rw [hs, ht] at hschema
        cases hschema
        exact Or.inl ⟨cause, rfl, rfl⟩
      | ok m =>
        rw [hs, ht] at hschema
        cases hschema
    | ok n =>
      cases ht : t.trySchema.value with
      | error cause' =>
        rw [hs, ht] at hschema
        cases hschema
      | ok m =>
        rw [hs, ht] at hschema
        exact Or.inr ⟨n, m, rfl, rfl, Except.ok.inj hschema⟩
  · rw [← s.validate_undocumented, h, t.validate_undocumented]
  · rw [← s.bind_undocumented, h, t.bind_undocumented]

/-- The documentation describes one argument twice, and another that there is not. -/
theorem alike_of_undocumented_eq_repeated_entry :
    let doc := "Converts.\n\nArgs:\n  value: An amount.\n  value: Ignored.\n  other: Unknown."
    let s : Signature :=
      { name := "convert", doc := some doc
        params := [{ name := "value", type := .real },
          { name := "to", type := .text, default := some (.json (.string "m"))
            description := some "A unit." }] }
    let t : Signature :=
      { name := "convert"
        params := [{ name := "value", type := .real },
          { name := "to", type := .text, default := some (.json (.string "m")) }] }
    s.undocumented = t.undocumented ∧
      ∃ n m, s.trySchema.value = .ok n ∧ t.trySchema.value = .ok m ∧
        (n.property "value").bind (·.description) = some "An amount." ∧
        (m.property "value").bind (·.description) = none ∧ n.undescribed = m.undescribed := by
  intro doc s t
  have hs : s.trySchema.value.map (fun n => (n.property "value").bind (·.description)) =
      .ok (some "An amount.") := by decide +kernel
  have ht : t.trySchema.value.map (fun n => (n.property "value").bind (·.description)) =
      .ok none := by decide +kernel
  have h : s.undocumented = t.undocumented := rfl
  refine ⟨h, ?_⟩
  rcases (alike_of_undocumented_eq h).1 with ⟨cause, herror, -⟩ | ⟨n, m, hn, hm, heq⟩
  · rw [herror] at hs
    cases hs
  · rw [hn] at hs
    rw [hm] at ht
    exact ⟨n, m, hn, hm, Except.ok.inj hs, Except.ok.inj ht, heq⟩

end Signature

end Toolbox
