import Toolbox.Code.TypeExpr
import Toolbox.ParamType

/-!
# Types that describe themselves

What a type accepts, from the definitions of types: the standard ones are known here, others
by a table.  Types that no definition describes have none; asked for what they accept, they give
their name (`probed`).
-/

namespace Toolbox.TypeExpr

/-- What the standard types without arguments accept. -/
def ofStandardName? (name : String) : Option ParamType :=
  if name ∈ ["String", "str", "char", "PathBuf", "Path"] then some .text
  else if name ∈ ["i8", "i16", "i32", "i64", "i128", "isize", "u8", "u16", "u32", "u64", "u128",
      "usize"] then some .integer
  else if name ∈ ["f32", "f64"] then some .real
  else if name = "bool" then some .boolean
  else if name = "Value" then some .any
  else none

/-- Whether a type is called `w`, by whatever path. -/
def isNamed (w : String) : TypeExpr → Bool
  | name path => path.name == w
  | _ => false

mutual

/-- What the type accepts, where `known` tells it of the types that are not standard. -/
def paramType? (known : NamePath → Option ParamType) : TypeExpr → Option ParamType
  | name path => (ofStandardName? path.name).or (known path)
  | generic path _ args => do
    match path.name, paramTypes known args with
    | "Option", [inner] => return .optional (← inner)
    | "Box", [inner] => inner
    | "Vec", [items] | "VecDeque", [items] | "BTreeSet", [items] | "HashSet", [items]
    | "HashSet", [items, _] => return .sequence (some (← items))
    | "HashMap", [_, values] | "HashMap", [_, values, _] | "BTreeMap", [_, values] =>
      return .mapping (some (← values))
    | "Cow", [_] => if (ofArgs args).all (isNamed "str") then some .text else none
    | "Map", [_, _] =>
      match ofArgs args with
      | [key, value] =>
        if key.isNamed "String" && value.isNamed "Value" then some (.mapping (some .any)) else none
      | _ => none
    | _, _ => none
  | reference _ false referent => paramType? known referent
  | slice items => return .sequence (some (← paramType? known items))
  | array items _ => return .sequence (some (← paramType? known items))
  | unit => some .null
  | paren inner => paramType? known inner
  | group inner => paramType? known inner
  | _ => none

/-- What the types among the arguments accept. -/
def paramTypes (known : NamePath → Option ParamType) :
    List GenericArg → List (Option ParamType)
  | [] => []
  | .type t :: args => paramType? known t :: paramTypes known args
  | .lifetime _ :: args | .other _ :: args => paramTypes known args

end

/-- What the type accepts, or else its name, which `title` gives. -/
def probed (known : NamePath → Option ParamType) (title : TypeExpr → String) (t : TypeExpr) :
    ParamType :=
  (t.paramType? known).getD (.unknown (title t))

end Toolbox.TypeExpr
