import Toolbox.Annotation.Described
import Toolbox.Annotation.Enumeration
import Toolbox.Values

/-!
# Sample types

The types that the sample tools work with.  Three are annotated enumerations; a handle and a
receipt are left unknown.
-/

namespace Toolbox

/-- The names of an annotated enumeration, paired with its values. -/
def TypeDeclaration.variants {α : Type} (d : TypeDeclaration) (values : List α) :
    List (String × α) :=
  match d.outline with
  | .ok (.literal names) => names.zip values
  | _ => []

namespace Samples

/-! ## Temperatures -/

inductive TemperatureUnit where
  | celsius
  | fahrenheit
  deriving DecidableEq, Repr

namespace TemperatureUnit

def declared : TypeDeclaration where
  name := "Unit"
  attributes := [.ofItems "serde" [.ofText "rename_all" "lowercase"]]
  shape := .enumeration [{ name := "Celsius" }, { name := "Fahrenheit" }]

def decode : Decoder TemperatureUnit := .variant (declared.variants [celsius, fahrenheit])

def toJson : TemperatureUnit → Json
  | celsius => .string "celsius"
  | fahrenheit => .string "fahrenheit"

/-- A temperature in the other unit, converted to this one. -/
def convert (value : Float) : TemperatureUnit → Float
  | celsius => (value - 32.0) * 5.0 / 9.0
  | fahrenheit => value * 9.0 / 5.0 + 32.0

end TemperatureUnit

/-! ## Limits -/

inductive Limit where
  | count (value : Int)
  | label (value : String)
  | unlimited
  deriving DecidableEq, Repr

namespace Limit

def declared : TypeDeclaration where
  name := "Limit"
  attributes := [.ofItems "serde" [.bare [.word "untagged"]]]
  shape := .enumeration [
    { name := "Count", shape := .tuple [.name (.ofWord "u32")] },
    { name := "Label", shape := .tuple [.name (.ofWord "String")] },
    { name := "Unlimited" }]

def decode : Decoder Limit :=
  .firstOf "Limit" [
    fun j => count <$> Decoder.unsigned 32 j,
    fun j => label <$> Decoder.text j,
    fun j => (fun _ => unlimited) <$> Decoder.unit j]

def describe : Limit → String
  | count value => s!"count {value}"
  | label value => s!"label {value}"
  | unlimited => "unlimited"

end Limit

/-! ## Modes -/

/-- A mode.  One is read and written under different names, one is never read. -/
inductive Mode where
  | fastTrack
  | slow
  | hidden
  deriving DecidableEq, Repr

namespace Mode

def declared : TypeDeclaration where
  name := "Mode"
  attributes := [.ofItems "serde" [.ofText "rename_all" "SCREAMING-KEBAB-CASE"]]
  shape := .enumeration [
    { name := "FastTrack" },
    { name := "Slow"
      attributes := [.ofItems "serde" [.list [.word "rename"]
        [.ofText "serialize" "slow-out", .ofText "deserialize" "slow in"]]] },
    { name := "Hidden", attributes := [.ofItems "serde" [.bare [.word "skip_deserializing"]]] }]

def decode : Decoder Mode := .variant (declared.variants [fastTrack, slow])

def toJson : Mode → Json
  | fastTrack => .string "FAST-TRACK"
  | slow => .string "slow-out"
  | hidden => .string "HIDDEN"

end Mode

/-! ## Handles -/

/-- A handle held by the host; nothing is known about its type. -/
structure Handle where
  id : Int
  deriving DecidableEq, Repr

namespace Handle

def decode : Decoder Handle := fun j =>
  Handle.mk <$> Decoder.record "struct Handle" "id" (.unsigned 32) j

/-- Diagnostic text of the receipt for a handle. -/
def receipt (h : Handle) : String := "Receipt \x7b id: " ++ toString h.id ++ " \x7d"

end Handle

/-! ## Meaning of names -/

def enumerations : List TypeDeclaration :=
  [TemperatureUnit.declared, Limit.declared, Mode.declared]

/-- The full name of a type that is declared in a module. -/
def fullName (moduleName : String) (t : TypeExpr) : String := moduleName ++ "::" ++ t.squeezed

/-- What an annotated enumeration accepts. -/
def known (moduleName : String) (path : NamePath) : Option ParamType := do
  let d ← enumerations.find? (·.name == path.name)
  let outline ← d.outline.toOption
  return outline.resolve (TypeExpr.probed (fun _ => none) (fullName moduleName))

/-- What a type accepts; unknown if it does not say. -/
def paramType (moduleName : String) : TypeExpr → ParamType :=
  TypeExpr.probed (known moduleName) (fullName moduleName)

end Samples

end Toolbox
