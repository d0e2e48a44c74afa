import Toolbox.Annotation.Attribute
import Toolbox.Annotation.Outline
import Toolbox.Annotation.RenameRule

/-!
# Enumerations as parameter types

The outline of an annotated enumeration, from the options that also govern how its values are
decoded.  Unit variants give a list of names; untagged variants give the union of what they hold.
-/

namespace Toolbox

/-- What a variant holds. -/
inductive VariantShape where
  | unit
  | tuple (types : List TypeExpr)
  | record (fields : List (String × TypeExpr))

structure Variant where
  name : String
  attributes : List Attribute := []
  shape : VariantShape := .unit

/-- What a type is declared to be. -/
inductive TypeShape where
  | enumeration (variants : List Variant)
  | other

structure TypeDeclaration where
  name : String
  /-- what stands in angle brackets behind the name -/
  generics : List Token := []
  attributes : List Attribute := []
  shape : TypeShape

/-- Encoding options of a type or a variant, as far as they change what is decoded. -/
structure EncodingOptions where
  rename : Option String := none
  renameAll : Option String := none
  tag : Option String := none
  untagged : Bool := false
  /-- never decoded -/
  skipped : Bool := false
  deriving DecidableEq, Repr

/-- Why an enumeration has no outline. -/
inductive EnumerationFault where
  | notEnumeration
  | generic
  | tagged
  | unknownRule
  | needsUnitVariants
  | unsuitableUntagged
  | noVariants
  | ofAttribute (fault : AttributeFault)
  | ofType (fault : TypeFault)
  deriving DecidableEq, Repr

def EnumerationFault.message : EnumerationFault → String
  | notEnumeration =>
    "`ToolParam` can only be derived for enums; implement it by hand for other types"
  | generic => "`ToolParam` cannot be derived for generic enums"
  | tagged => "internally tagged enums are not supported by `ToolParam`"
  | unknownRule => "unknown `rename_all` rule"
  | needsUnitVariants =>
    "`ToolParam` needs unit variants, or `#[serde(untagged)]` with newtype variants"
  | unsuitableUntagged => "untagged `ToolParam` variants must be unit or newtype variants"
  | noVariants => "`ToolParam` needs at least one deserializable variant"
  | ofAttribute fault => fault.message
  | ofType fault => fault.message

namespace EncodingOptions

open AttributeReader Reader

/-- The name for decoding, from a list such as `serialize = "a", deserialize = "b"`; the last one
counts. -/
def splitName : Reader (Option String) :=
  bracketed '(' do go ((← ahead).length + 1) none
where
  /-- The last name for decoding; `found` is the one before. -/
  go : Nat → Option String → Reader (Option String)
    | 0, found => return found
    | n + 1, found => do
      let key ← key
      let name ← value text
      let found := if key == .ofWord "deserialize" then some name else found
      if ← goesOn then go n found else return found

/-- A name, either for both directions or split into one for each. -/
def name : AttributeReader String := do
  if ← seesMarks ['='] then value text
  else
    match ← splitName with
    | some name => return name
    | none => throw .missingDeserialize

/-- What stands behind a key that has no influence on what is decoded. -/
def ignored : Reader Unit := do
  if ← seesMarks ['='] then discard <| value Reader.expression
  else if ← seesMark '(' then brackets

def item (key : NamePath) (o : EncodingOptions) : AttributeReader EncodingOptions := do
  if key == .ofWord "rename" then return { o with rename := some (← name) }
  else if key == .ofWord "rename_all" then return { o with renameAll := some (← name) }
  else if key == .ofWord "tag" then return { o with tag := some (← value text) }
  else if key == .ofWord "untagged" then return { o with untagged := true }
  else if key == .ofWord "skip" || key == .ofWord "skip_deserializing" then
    return { o with skipped := true }
  else
    ignored
    return o

/-- Reads all attributes of a type or a variant, behind what has been found before. -/
def readFrom (found : EncodingOptions) :
    List Attribute → Except EnumerationFault EncodingOptions
  | [] => .ok found
  | a :: attributes =>
    if a.isNamed "serde" then
      match readAttribute item found a with
      | (found, none) => readFrom found attributes
      | (_, some fault) => .error (.ofAttribute fault)
    else readFrom found attributes

/-- Reads all attributes of a type or a variant. -/
def read (attributes : List Attribute) : Except EnumerationFault EncodingOptions :=
  readFrom {} attributes

end EncodingOptions

namespace TypeDeclaration

/-- Outlines of the variants of an untagged enumeration, less those that are skipped. -/
def untaggedMembers : List Variant → Except EnumerationFault (List Outline)
  | [] => .ok []
  | v :: vs => do
    if (← EncodingOptions.read v.attributes).skipped then untaggedMembers vs
    else
      let member ← match v.shape with
        | .unit => .ok .null
        | .tuple [t] => t.outline.mapError .ofType
        | .tuple _ | .record _ => .error .unsuitableUntagged
      return member :: (← untaggedMembers vs)

/-- Names of the variants in JSON, less those that are skipped. -/
def variantNames (rule : Option RenameRule) : List Variant → Except EnumerationFault (List String)
  | [] => .ok []
  | v :: vs => do
    let options ← EncodingOptions.read v.attributes
    if options.skipped then variantNames rule vs
    else
      match v.shape with
      | .unit =>
        let renamed := match rule with
          | some rule => String.ofList (rule.apply v.name.toList)
          | none => v.name
        return options.rename.getD renamed :: (← variantNames rule vs)
      | .tuple _ | .record _ => throw .needsUnitVariants

/-- The rule for the names of variants, if one is given. -/
def renameRule? (options : EncodingOptions) : Except EnumerationFault (Option RenameRule) :=
  match options.renameAll with
  | none => .ok none
  | some name =>
    match RenameRule.ofName? name with
    | some rule => .ok (some rule)
    | none => .error .unknownRule

def outline (d : TypeDeclaration) : Except EnumerationFault Outline :=
  match d.shape with
  | .other => .error .notEnumeration
  | .enumeration variants => do
    unless d.generics.isEmpty do throw .generic
    let options ← EncodingOptions.read d.attributes
    if options.tag.isSome then throw .tagged
    if options.untagged then
      return .union (← untaggedMembers variants)
    else
      let names ← variantNames (← renameRule? options) variants
      if names.isEmpty then throw .noVariants
      return .literal names

end TypeDeclaration

end Toolbox
