import Toolbox.Code.Grammar.Basic

/-!
# Paths

Names inside of names, any of which may have arguments.  Two styles differ in whether two colons
must stand before the brackets of arguments.
-/

namespace Toolbox

/-- Where a path stands. -/
inductive PathStyle where
  /-- in a type: brackets of arguments follow a name at once -/
  | type
  /-- in an expression: two colons stand before the brackets -/
  | expression
  deriving DecidableEq, Repr

/-- A path that has been read. -/
structure ReadPath where
  path : NamePath
  /-- arguments of the innermost name -/
  args : Option (ArgumentStyle × List GenericArg)
  /-- no name has arguments -/
  isPlain : Bool
  /-- begins with a type in brackets -/
  isQualified : Bool := false

namespace Grammar

open Reader Token

variable (g : Grammar)

/-! ## Arguments -/

def constantArgument : Reader Unit := do
  if ← sees startWithLiteral then discard anyLiteral
  else if ← sees (next isName) then take
  else if ← seesMark '\x7b' then g.attributedBlock
  else failExpected ["curly braces"]

/-- Whether a type is a name by itself, perhaps with arguments. -/
def isSingleName : TypeExpr → Bool
  | .name path | .generic path .. => path.scope.isEmpty
  | _ => false

/-- Whether a constant among arguments comes next that is no name. -/
def beginsConstant (ts : List Token) : Bool := startWithLiteral ts || next (·.isMark '\x7b') ts

def genericArg : Reader GenericArg := do
  let ts ← ahead
  if startWithLifetime ts && !next (·.isMark '+') (skip ts) then
    return .lifetime (← lifetime)
  if beginsConstant ts then return .other (← noted g.constantArgument).2
  let (t, head) ← noted (return (← g.type true).type)
  unless isSingleName t do return .type t
  if ← seesMarks ['='] then
    let (_, value) ← noted do
      marks ['=']
      if ← sees beginsConstant then g.constantArgument else discard <| g.type true
    return .other (head ++ value)
  if ← seesMarks [':'] then
    let (_, bounds) ← noted do
      marks [':']
      chained '+' (fun ts => startWith [','] ts || startWith ['>'] ts)
        (discard (g.bound false true))
    return .other (head ++ bounds)
  return .type t

def genericArgs : Reader (ArgumentStyle × List GenericArg) := do
  let colons ← marks? [':', ':']
  let ((args, comma), _) ← aside do
    marks ['<']
    let args ← gathered (untilMark '>') g.genericArg
    marks ['>']
    return args
  write (inBrackets comma (TypeExpr.pieces args))
  return ({ colons, comma }, args)

/-! ## Names -/

def segment (style : PathStyle) : Reader (String × Option (ArgumentStyle × List GenericArg)) := do
  if ← sees (next fun t => t.isWord "super" || t.isWord "self" || t.isWord "crate"
      || t.isWord "try") then
    return (← anyWord, none)
  let name ← if ← seesWord "Self" then anyWord else identifier
  let hasArgs (ts : List Token) : Bool :=
    (style == .type && startWith ['<'] ts && !startWith ['<', '='] ts
        && !startWith ['<', '<', '='] ts)
      || (startWith [':', ':'] ts && startWith ['<'] (skip (skip ts)))
  if ← sees hasArgs then return (name, some (← g.genericArgs)) else return (name, none)

/-- Whether a path goes on with another name; two colons before a parenthesis belong to what is
called. -/
def seesSegment : Reader Bool :=
  sees fun ts => startWith [':', ':'] ts && !next (·.isMark '(') (skip (skip ts))

/-- Names of a path, behind what stands before them, as long as `more` says so. -/
def segments (style : PathStyle) (more : Reader Bool) (scope : List Token) : Reader ReadPath := do
  go ((← ahead).length + 1) scope true
where
  go : Nat → List Token → Bool → Reader ReadPath
    | 0, _, _ => failExpected ["identifier"]
    | n + 1, scope, isPlain => do
      let ((name, args), ts) ← noted (g.segment style)
      let isPlain := isPlain && args.isNone
      if ← more then
        marks [':', ':']
        go n (scope ++ ts ++ NamePath.separator) isPlain
      else return { path := { scope, name }, args, isPlain }

def path (style : PathStyle) : Reader ReadPath := do
  let rooted ← marks? [':', ':']
  g.segments style seesSegment (if rooted then NamePath.separator else [])

/-- A path, perhaps one that begins with a type in brackets. -/
def qualifiedPath (style : PathStyle) : Reader ReadPath := do
  unless ← seesMarks ['<'] do return ← g.path style
  let (_, scope) ← noted do
    marks ['<']
    discard <| g.type true
    if ← word? "as" then discard <| g.path .type
    marks ['>']
    marks [':', ':']
  return { ← g.segments style (seesMarks [':', ':']) scope with isQualified := true }

/-! ## Inputs -/

/-- Whether inputs in parentheses come next. -/
def seesInputs : Reader Bool :=
  sees fun ts => next (·.isMark '(') ts
    || (startWith [':', ':'] ts && next (·.isMark '(') (skip (skip ts)))

/-- Inputs in parentheses and a result; whether more names of the path may follow. -/
def inputs : Reader Bool := do
  discard <| aside (marks? [':', ':'])
  bracketed '(' (commas (discard (g.type true)))
  g.result false

/-- Whether inputs can be the arguments of the innermost name. -/
def takesInputs (p : ReadPath) : Bool := p.args.all (·.2.isEmpty)

/-- A path in a bound, perhaps with inputs. -/
def boundPath : Reader Unit := do
  let (p, ts) ← aside (g.path .type)
  if takesInputs p && (← seesInputs) then
    write p.path.tokens
    discard g.inputs
  else write ts

/-- Inputs of a name in a type, and more names behind them, perhaps with inputs again. -/
def inputsAndMore : Nat → Reader Unit
  | 0 => pure ()
  | n + 1 => do
    unless ← g.inputs do return
    unless ← seesSegment do return
    marks [':', ':']
    let (p, ts) ← aside (g.segments .type seesSegment [])
    if takesInputs p && (← seesInputs) then
      write p.path.tokens
      inputsAndMore n
    else write ts

/-- A path that is a type: the path, and the type. -/
def typePath : Reader (ReadPath × TypeExpr) := do
  let (p, ts) ← aside (g.qualifiedPath .type)
  if takesInputs p && (← seesInputs) then
    let n := (← ahead).length
    let (_, ts) ← noted do
      write p.path.tokens
      g.inputsAndMore n
    return ({ p with isPlain := false }, .other ts)
  write ts
  if p.isQualified then return (p, .other ts)
  match p.args with
  | none => return (p, .name p.path)
  | some (style, args) => return (p, .generic p.path style args)

end Grammar

end Toolbox
