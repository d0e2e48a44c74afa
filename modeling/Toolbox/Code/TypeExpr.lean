import Toolbox.Code.Token

/-!
# Type expressions

Types as they are written in source code.  A type expression is equal to another if it is written
alike; `tokens` is its written form, and what a type mentions is what occurs among its tokens.
-/

namespace Toolbox

/-- A name, perhaps inside of others: `C`, or `C` in `a::b::C`. -/
structure NamePath where
  /-- what stands before the name, with two colons at its end if there is anything -/
  scope : List Token := []
  name : String
  deriving DecidableEq, Repr

namespace NamePath

def separator : List Token := Token.marks [':', ':']

/-- The name `w` by itself. -/
def ofWord (w : String) : NamePath := { name := w }

/-- The name `w` inside of others, the outermost of which is not inside of anything. -/
def rooted (outer : List String) (w : String) : NamePath where
  scope := separator ++ outer.flatMap fun v => .word v :: separator
  name := w

def tokens (p : NamePath) : List Token := p.scope ++ [.word p.name]

end NamePath

/-- How arguments in angle brackets are written. -/
structure ArgumentStyle where
  /-- two colons stand before the brackets -/
  colons : Bool := false
  /-- a comma stands behind the last argument -/
  comma : Bool := false
  deriving DecidableEq, Repr

/-- What stands in angle brackets: lifetimes go first, with commas between all; a comma is last if
one was, or if a lifetime has been moved away from there.  Each piece tells whether it is a
lifetime. -/
def inBrackets (comma : Bool) (pieces : List (Bool × List Token)) : List Token :=
  let (lifetimes, others) := pieces.partition (·.1)
  let moved := (pieces.getLast?.any (·.1)) && !others.isEmpty
  [.mark '<'] ++ [Token.mark ','].intercalate ((lifetimes ++ others).map (·.2))
    ++ (if comma || moved then [.mark ','] else []) ++ [.mark '>']

mutual

inductive TypeExpr where
  /-- a name without arguments -/
  | name (path : NamePath)
  /-- `path<args>` -/
  | generic (path : NamePath) (style : ArgumentStyle) (args : List GenericArg)
  | reference (lifetime : Option String) (isMut : Bool) (referent : TypeExpr)
  | slice (items : TypeExpr)
  | array (items : TypeExpr) (length : List Token)
  | unit
  | paren (inner : TypeExpr)
  /-- a type that stands for a variable of a macro; what keeps it together is not written -/
  | group (inner : TypeExpr)
  /-- any type with these bounds -/
  | bounded (bounds : List Token)
  /-- a type of any other shape -/
  | other (source : List Token)

inductive GenericArg where
  | type (type : TypeExpr)
  | lifetime (name : String)
  /-- a constant or a binding -/
  | other (source : List Token)

end

instance : Inhabited TypeExpr := ⟨.unit⟩

namespace TypeExpr

mutual

def tokens : TypeExpr → List Token
  | name path => path.tokens
  | generic path style args =>
    path.tokens ++ (if style.colons then NamePath.separator else [])
      ++ inBrackets style.comma (pieces args)
  | reference lifetime isMut referent =>
    [.mark '&'] ++ (match lifetime with
      | some label => [.mark '\'' true, .word label]
      | none => [])
      ++ (if isMut then [.word "mut"] else []) ++ tokens referent
  | slice items => [.mark '['] ++ tokens items ++ [.mark ']']
  | array items length => [.mark '['] ++ tokens items ++ [.mark ';'] ++ length ++ [.mark ']']
  | unit => [.mark '(', .mark ')']
  | paren inner => [.mark '('] ++ tokens inner ++ [.mark ')']
  | group inner => tokens inner
  | bounded bounds => .word "impl" :: bounds
  | other source => source

/-- Arguments as tokens, each with whether it is a lifetime. -/
def pieces : List GenericArg → List (Bool × List Token)
  | [] => []
  | .type t :: args => (false, tokens t) :: pieces args
  | .lifetime label :: args => (true, [.mark '\'' true, .word label]) :: pieces args
  | .other source :: args => (false, source) :: pieces args

end

/-- The type as it is written, without spaces. -/
def squeezed (t : TypeExpr) : String := Token.squeezed t.tokens

/-- The types among the arguments. -/
def ofArgs : List GenericArg → List TypeExpr
  | [] => []
  | .type t :: args => t :: ofArgs args
  | .lifetime _ :: args | .other _ :: args => ofArgs args

/-- Whether the word `impl` occurs. -/
def mentionsBounds (t : TypeExpr) : Bool := t.tokens.any (·.isWord "impl")

/-- Whether a reference mark occurs. -/
def mentionsBorrow (t : TypeExpr) : Bool := t.tokens.any (·.isMark '&')

end TypeExpr

end Toolbox
