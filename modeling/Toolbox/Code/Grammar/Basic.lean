import Toolbox.Code.Reader
import Toolbox.Code.TypeExpr

/-!
# Grammar

The rules of the grammar call each other.  Each of them is given the `Grammar`, the readers of what
it may contain, and is thereby defined before them; the readers are made from the rules at the end.
-/

namespace Toolbox

/-- What an expression is, as far as it matters to what stands around it. -/
inductive ExprForm where
  /-- a text literal -/
  | text (value : String)
  | range
  | comparison
  /-- ends a statement by itself, as a block or a loop does -/
  | block
  /-- a call that is expanded; `braced` tells whether its arguments stand in braces -/
  | invocation (braced : Bool)
  /-- stays as it is written -/
  | verbatim
  | other
  deriving DecidableEq, Repr

/-- What a pattern is, as far as it matters to what stands around it. -/
inductive PatternForm where
  /-- a range that lacks an end -/
  | openRange
  /-- stays as it is written -/
  | verbatim
  | other
  deriving DecidableEq, Repr

inductive BoundForm where
  | trait
  | lifetime
  /-- a list of what is captured -/
  | captures
  deriving DecidableEq, Repr

/-- What a type is, as far as it matters to what stands around it. -/
inductive TypeForm where
  /-- a path that does not begin with a type in brackets -/
  | path
  /-- an object with a single bound, written like this without its parentheses -/
  | object (bound : List Token)
  | other
  deriving DecidableEq, Repr

structure ReadType where
  type : TypeExpr
  form : TypeForm := .other

/-- Readers of what a rule may contain. -/
structure Grammar where
  /-- a type; `plus` allows several bounds without brackets -/
  type : (plus : Bool) → Reader ReadType
  /-- a bound of a type; `captures` allows one that lists what is captured, `constant` one that asks
  for constant evaluation -/
  bound : (captures constant : Bool) → Reader BoundForm
  /-- an expression; `structs` allows one that ends in named fields -/
  expression : (structs : Bool) → Reader ExprForm
  /-- an expression without binary operators -/
  operand : (structs : Bool) → Reader ExprForm
  /-- an expression where a statement can begin -/
  statementExpression : Reader ExprForm
  pattern : Reader PatternForm
  /-- what stands in a block -/
  statements : Reader Unit
  /-- a declaration with its attributes -/
  item : Reader Unit
  /-- fields with names, in braces -/
  fields : Reader Unit
  /-- names that are brought into scope; `rooted` allows some of them to begin with two colons -/
  useTree : (rooted : Bool) → Reader Unit

namespace Grammar

open Reader Token

variable (g : Grammar)

/-! ## Paths without arguments -/

/-- Whether a token can stand in a path without arguments. -/
def isPathWord (t : Token) : Bool :=
  t.isName || t.isWord "super" || t.isWord "self" || t.isWord "Self" || t.isWord "crate"

/-- Whether a path begins here, perhaps with a type in brackets. -/
def beginsPath (ts : List Token) : Bool :=
  next isPathWord ts || startWith [':', ':'] ts || startWith ['<'] ts

/-- A path without arguments. -/
def plainPath : Reader Unit := do
  discard <| marks? [':', ':']
  go (← ahead).length true
where
  go : Nat → Bool → Reader Unit
    | 0, _ => discard identifier
    | n + 1, isFirst => do
      if ← sees (next isPathWord) then
        take
        if ← marks? [':', ':'] then go n false
      else if isFirst then discard identifier
      else refuse "expected path segment after `::`"

/-! ## Attributes -/

def seesBracket : Reader Bool := sees (next (·.closing?.isSome))

/-- The path that an attribute begins with. -/
def attributePath : Reader Unit := do
  if ← seesWord "unsafe" then take else plainPath

/-- What stands in the brackets of an attribute. -/
def attributeContent : Reader Unit := do
  attributePath
  if ← seesBracket then brackets
  else if ← seesMarks ['='] then
    marks ['=']
    if ← sees fun ts => startWith ['#'] ts && next (·.isMark '[') (skip ts) then
      refuse "unexpected attribute inside of attribute"
    discard <| g.expression true

/-- Attributes of what follows. -/
def outerAttributes : Reader Unit :=
  repeated do
    unless ← seesMarks ['#'] do return false
    marks ['#']
    bracketed '[' g.attributeContent
    return true

/-- Attributes of what they stand in. -/
def innerAttributes : Reader Unit :=
  repeated do
    unless ← sees fun ts => startWith ['#'] ts && next (·.isMark '!') (skip ts) do return false
    takeMany 2
    bracketed '[' g.attributeContent
    return true

/-! ## Calls that are expanded -/

/-- Whether a path goes on as a call that is expanded. -/
def goesOnAsInvocation (ts : List Token) : Bool := startWith ['!'] ts && !startWith ['!', '='] ts

/-- The arguments of a call that is expanded; whether they stand in braces. -/
def invocationArguments : Reader Bool := do
  unless ← seesBracket do failExpected ["delimiter"]
  let braced ← seesMark '\x7b'
  brackets
  return braced

/-- Whether something that the compiler has built in comes next. -/
def beginsBuiltIn (ts : List Token) : Bool :=
  next (·.isWord "builtin") ts && startWith ['#'] (skip ts)

/-- Something that the compiler has built in. -/
def builtIn : Reader Unit := do
  word "builtin"
  marks ['#']
  discard identifier
  unless ← seesMark '(' do failExpected ["parentheses"]
  brackets

/-! ## Small parts -/

def block : Reader Unit := bracketed '\x7b' g.statements

/-- A block that may begin with attributes of its own. -/
def attributedBlock : Reader Unit :=
  bracketed '\x7b' do
    g.innerAttributes
    g.statements

/-- Who may use what is declared, if that is written; whether it is. -/
def visibility : Reader Bool := do
  unless ← word? "pub" do return false
  match ← ahead with
  | .mark '(' _ :: .word w :: .mark ')' _ :: _ =>
    if w ∈ ["crate", "self", "super"] then takeMany 3
  | .mark '(' _ :: .word "in" :: _ =>
    bracketed '(' do
      word "in"
      plainPath
  | _ => pure ()
  return true

def nameOrUnderscore (faults : List String) : Reader Unit := do
  unless ← sees (next fun t => t.isName || t.isWord "_") do failExpected faults
  take

def beginsText : List Token → Bool
  | .text .. :: _ => true
  | _ => false

/-- Words of a convention for calls. -/
def callConvention? : Reader Unit := do
  if ← word? "extern" then
    if ← sees beginsText then take

/-- The type of a result, if there is one; whether it stands in parentheses or is missing. -/
def result (plus : Bool) : Reader Bool := do
  unless ← marks? ['-', '>'] do return true
  match (← g.type plus).type with
  | .paren _ => return true
  | _ => return false

end Grammar

end Toolbox
