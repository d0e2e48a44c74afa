import Toolbox.Proofs.Schema.Building
import Toolbox.Proofs.Signature.Validity
import Toolbox.Tool

/-!
# Valid tools

`Tool.validate` makes its checks one after the other and stops at the first fault.  What it accepts
is said here without that order (`Tool.WellFormed`), each part on its own: the name
(`ToolName`), the version, the category, the parameters and the signature.
-/

namespace Toolbox

/-- What the name of a tool is like: it has 1 to 64 bytes, and its characters are Latin letters,
digits, underscores, hyphens and dots. -/
structure ToolName (name : String) : Prop where
  nonempty : 1 ≤ name.utf8ByteSize
  short : name.utf8ByteSize ≤ 64
  plain : ∀ c ∈ name.toList, ('A' ≤ c ∧ c ≤ 'Z') ∨ ('a' ≤ c ∧ c ≤ 'z') ∨ ('0' ≤ c ∧ c ≤ '9') ∨
    c = '_' ∨ c = '-' ∨ c = '.'

namespace Tool

theorem isNameChar_iff (c : Char) :
    isNameChar c = true ↔ ('A' ≤ c ∧ c ≤ 'Z') ∨ ('a' ≤ c ∧ c ≤ 'z') ∨ ('0' ≤ c ∧ c ≤ '9') ∨
      c = '_' ∨ c = '-' ∨ c = '.' := by
  have hupper : c.isUpper = true ↔ 'A' ≤ c ∧ c ≤ 'Z' := decide_eq_true_iff
  have hlower : c.isLower = true ↔ 'a' ≤ c ∧ c ≤ 'z' := by
    show (decide ('a' ≤ c) && decide (c ≤ 'z')) = true ↔ _
    simp only [Bool.and_eq_true, decide_eq_true_eq]
  have hdigit : c.isDigit = true ↔ '0' ≤ c ∧ c ≤ '9' := by
    show (decide ('0' ≤ c) && decide (c ≤ '9')) = true ↔ _
    simp only [Bool.and_eq_true, decide_eq_true_eq]
  show (c.isUpper || c.isLower || c.isDigit || c == '_' || c == '-' || c == '.') = true ↔ _
  simp only [Bool.or_eq_true, beq_iff_eq, hupper, hlower, hdigit, or_assoc]

theorem nameFault?_eq_none_iff (name : String) : nameFault? name = none ↔ ToolName name := by
  have hplain : name.toList.all isNameChar = true ↔ _ := List.all_eq_true
  simp only [isNameChar_iff] at hplain
  have hempty : name.isEmpty = true ↔ name.utf8ByteSize = 0 := beq_iff_eq
  unfold nameFault?
  split
  next h =>
    simp only [reduceCtorEq, false_iff]
    intro hname
    exact absurd hname.nonempty (by rw [hempty.mp h]; decide)
  next h =>
    rw [hempty] at h
    split
    next hlong =>
      simp only [reduceCtorEq, false_iff]
      intro hname
      exact absurd hname.short (Nat.not_le.mpr hlong)
    next hshort =>
      split
      next hall =>
        simp only [true_iff]
        exact ⟨Nat.one_le_iff_ne_zero.mpr h, Nat.not_lt.mp hshort, hplain.mp hall⟩
      next hall =>
        simp only [reduceCtorEq, false_iff]
        exact fun hname => hall (hplain.mpr hname.plain)

theorem undeclared?_eq_none_iff (n : Schema) :
    undeclared? n = none ↔ ∀ name ∈ n.requiredNames, (n.property name).isSome := by
  unfold undeclared?
  rw [List.find?_eq_none]
  simp only [Option.isNone_iff_eq_none, ← Option.isSome_iff_ne_none]

/-- What a valid signature lacks is no property, for properties are no matter of signatures. -/
theorem paramFault?_ne_undeclaredRequired (signature : String) (index : Nat) (seen : List String)
    (ps : List Param) (tool parameter : String) :
    Signature.paramFault? signature index seen ps ≠ some (.undeclaredRequired tool parameter) := by
  induction ps generalizing index seen with
  | nil => simp [Signature.paramFault?]
  | cons p ps ih =>
    rw [Signature.paramFault?]
    split
    next => simp
    next =>
      split
      next => simp
      next =>
        split
        next => simp
        next => exact ih _ _

theorem fault?_of_validate {t : Tool} {fault : RegistrationFault}
    (h : t.validate = .error (.invalidRegistration fault)) : t.fault? = some fault := by
  unfold validate at h
  split at h
  next => cases h
  next hfault =>
    cases h
    exact hfault

/-- A tool that is refused for an undeclared name requires that name and does not declare it. -/
theorem undeclared?_of_fault? {t : Tool} {tool parameter : String}
    (h : t.fault? = some (.undeclaredRequired tool parameter)) :
    undeclared? t.parameters = some parameter := by
  unfold fault? at h
  split at h
  next fault hname =>
    cases h
    unfold nameFault? at hname
    split at hname
    next => cases hname
    next =>
      split at hname
      next => cases hname
      next => split at hname <;> cases hname
  next =>
    split at h
    next => cases h
    next =>
      split at h
      next => cases h
      next =>
        split at h
        next => cases h
        next =>
          split at h
          next hundeclared =>
            cases h
            exact hundeclared
          next => exact absurd h (paramFault?_ne_undeclaredRequired _ _ _ _ tool parameter)

/-- What a valid tool is like. -/
structure WellFormed (t : Tool) : Prop where
  name : ToolName t.name
  version : ¬ Text.IsBlankText t.version
  category : ¬ Text.IsBlankText t.category
  parameters : t.parameters.DescribesObject
  signature : t.invoker.signature.WellFormed

theorem fault?_eq_none_iff (t : Tool) : t.fault? = none ↔ t.WellFormed := by
  have hname := nameFault?_eq_none_iff t.name
  have hdeclared := undeclared?_eq_none_iff t.parameters
  have hsignature := t.invoker.signature.fault?_eq_none_iff
  constructor
  · intro h
    unfold fault? at h
    split at h
    next => cases h
    next hnone =>
      split at h
      next => cases h
      next hversion =>
        split at h
        next => cases h
        next hcategory =>
          split at h
          next => cases h
          next hkind =>
            split at h
            next => cases h
            next hall =>
              exact
                { name := hname.mp hnone
                  version := fun h => hversion (Text.isBlankText_iff.mpr h)
                  category := fun h => hcategory (Text.isBlankText_iff.mpr h)
                  parameters := ⟨Decidable.not_not.mp hkind, hdeclared.mp hall⟩
                  signature := hsignature.mp h }
  · intro h
    unfold fault?
    have hversion := Text.isBlankText_eq_false_iff.mpr h.version
    have hcategory := Text.isBlankText_eq_false_iff.mpr h.category
    simp [hname.mpr h.name, hversion, hcategory, h.parameters.kind,
      hdeclared.mpr h.parameters.declared, hsignature.mpr h.signature]

/-- A tool is accepted exactly if it is well formed. -/
theorem validate_eq_ok_iff (t : Tool) : t.validate = .ok () ↔ t.WellFormed := by
  rw [← fault?_eq_none_iff]
  unfold validate
  cases t.fault? with
  | none => simp
  | some fault => simp

/-- Every other tool is refused for a fault. -/
theorem validate_eq_error_iff (t : Tool) :
    (∃ fault, t.validate = .error (.invalidRegistration fault)) ↔ ¬ t.WellFormed := by
  rw [← fault?_eq_none_iff]
  unfold validate
  cases t.fault? with
  | none => simp
  | some fault => simp

end Tool

end Toolbox
