import Toolbox.Json.Basic

/-!
# Parameter types

What a parameter accepts, as far as its schema is concerned.
-/

namespace Toolbox

inductive Scalar where
  | text
  | integer
  | real
  | boolean
  deriving DecidableEq, Repr

/-- Description of a parameter type. -/
inductive ParamType where
  /-- null alone -/
  | null
  /-- what `inner` accepts, or null -/
  | optional (inner : ParamType)
  /-- what one of the members accepts -/
  | union (members : List ParamType)
  /-- arrays, of elements of a known type or of any -/
  | sequence (items : Option ParamType)
  /-- objects, with values of a known type or of any -/
  | mapping (values : Option ParamType)
  | scalar (kind : Scalar)
  /-- one of the listed values -/
  | literal (values : List Json)
  | any
  /-- a type nothing is known about but its name -/
  | unknown (name : String)
  deriving Repr, Inhabited

namespace ParamType

def text : ParamType := .scalar .text

def integer : ParamType := .scalar .integer

def real : ParamType := .scalar .real

def boolean : ParamType := .scalar .boolean

/-- Whether only null is accepted by declaration. -/
def isNull : ParamType → Bool
  | .null => true
  | _ => false

end ParamType

end Toolbox
