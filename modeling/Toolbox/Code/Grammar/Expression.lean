import Toolbox.Code.Grammar.Pattern

/-!
# Expressions

The rules for expressions: atoms, what may follow them, operators in front of them and operators
between them, which bind by their strength.
-/

namespace Toolbox.Grammar

open Reader Token

variable (g : Grammar)

/-! ## Strength -/

/-- How strongly operators bind; weaker ones come first. -/
inductive Strength where
  | weakest | assign | range | or | and | binding | compare | bitOr | bitXor | bitAnd | shift | sum
  | product | cast
  deriving DecidableEq, Repr

namespace Strength

def rank (s : Strength) : Nat := s.ctorIdx

/-- Operators between two expressions, longer ones first. -/
def operators : List (List Char × Strength) :=
  [("+=", assign), ("-=", assign), ("*=", assign), ("/=", assign), ("%=", assign), ("^=", assign),
   ("&=", assign), ("|=", assign), ("<<=", assign), (">>=", assign), ("&&", and), ("||", or),
   ("<<", shift), (">>", shift), ("==", compare), ("<=", compare), ("!=", compare),
   (">=", compare), ("+", sum), ("-", sum), ("*", product), ("/", product), ("%", product),
   ("^", bitXor), ("&", bitAnd), ("|", bitOr), ("<", compare), (">", compare)].map
    fun (cs, s) => (cs.toList, s)

def operator? (ts : List Token) : Option (List Char × Strength) :=
  operators.find? fun (cs, _) => startWith cs ts

def assigns (ts : List Token) : Bool := startWith ['='] ts && !startWith ['=', '>'] ts

/-- Strength of what comes next. -/
def ahead (ts : List Token) : Strength :=
  match operator? ts with
  | some (_, s) => s
  | none =>
    if assigns ts then assign
    else if startWith ['.', '.'] ts then range
    else if next (·.isWord "as") ts then cast
    else weakest

end Strength

/-! ## Calls and fields -/

def expressionList : Reader Unit := bracketed '(' (commas (discard (g.expression true)))

def seesPoint : Reader Bool := sees fun ts => startWith ['.'] ts && !startWith ['.', '.'] ts

/-- Fields of fields, such as the tokens cut `0.1` as one number. -/
def fieldNumbers (source : String) : Reader Bool := do
  let parts := source.toList.splitOn '.'
  let trailing := parts.getLast? == some []
  let parts := if trailing then parts.dropLast else parts
  let numbers ← parts.mapM fun part => do
    match Literal.integer? part with
    | some (n, []) => return Token.literal s!"{n}"
    | some _ => throw (.refused "expected unsuffixed integer" false)
    | none => throw (.refused "expected integer literal" false)
  discard <| aside take
  write ([Token.mark '.'].intercalate (numbers.map ([·])) ++ if trailing then [.mark '.'] else [])
  return trailing

/-- Whether a number has a fraction or an exponent. -/
def isFraction (source : String) : Bool :=
  source.toList.head?.any Char.isDigit && (Literal.integer? source.toList).isNone

/-- What follows a point: a field, a method or a wait. -/
def afterPoint : Reader Unit := do
  if let .literal source :: _ ← ahead then
    if isFraction source then
      unless ← fieldNumbers source do return
  if ← word? "await" then return
  let isNamed ← member
  let hasArguments ← do
    if isNamed && (← seesMarks [':', ':']) then
      discard g.genericArgs
      pure true
    else pure false
  if isNamed && (hasArguments || (← seesMark '(')) then g.expressionList

/-- Calls, fields, indices and questions behind an expression. -/
def trailers (form : ExprForm) : Reader ExprForm := do
  let before := (← ahead).length
  unless form == .range do
    repeated do
      if ← seesMark '(' then g.expressionList
      else if ← seesPoint then
        marks ['.']
        g.afterPoint
      else if ← seesMark '[' then bracketed '[' (discard (g.expression true))
      else unless ← marks? ['?'] do return false
      return true
  if (← ahead).length = before then return form else return .other

/-! ## Blocks -/

/-- An expression in front of a block. -/
def subject : Reader Unit := discard (g.expression false)

/-- A condition with its block and what happens otherwise. -/
def conditional : Reader Unit :=
  repeated do
    word "if"
    g.subject
    g.block
    unless ← word? "else" do return false
    if ← seesWord "if" then return true
    else if ← seesMark '\x7b' then
      g.block
      return false
    else failExpected ["`if`", "curly braces"]

/-- A case of a choice. -/
def arm : Reader Unit := do
  g.outerAttributes
  discard g.alternatives
  if ← word? "if" then discard <| g.expression true
  marks ['=', '>']
  let form ← g.statementExpression
  let needsComma := form != ExprForm.block && !(← atEnd)
  if needsComma then marks [','] else discard <| marks? [',']

/-- A choice between cases. -/
def choice : Reader Unit := do
  word "match"
  g.subject
  bracketed '\x7b' do
    g.innerAttributes
    all g.arm

def iteration : Reader Unit := do
  if ← word? "while" then g.subject
  else if ← word? "for" then
    discard g.alternatives
    word "in"
    g.subject
  else word "loop"
  g.attributedBlock

/-- Whether a closure with parameters in angle brackets comes next. -/
def beginsBinder (ts : List Token) : Bool := next (·.isWord "for") ts && beginsParams (skip ts)

def labeled : Reader Unit := do
  discard lifetime
  marks [':']
  if ← sees (next fun t => t.isWord "while" || t.isWord "for" || t.isWord "loop") then g.iteration
  else if ← seesMark '\x7b' then g.attributedBlock
  else refuse "expected loop or block expression"

/-- An expression that ends a statement by itself, if one comes next. -/
def blockLike : Reader Bool := do
  let ts ← ahead
  let isBlock := next (·.isMark '\x7b') (skip ts)
  if next (·.isWord "if") ts then g.conditional
  else if next (·.isWord "match") ts then g.choice
  else if next (fun t => t.isWord "while" || t.isWord "loop") ts
      || (next (·.isWord "for") ts && !beginsBinder ts) then g.iteration
  else if isBlock && next (·.isWord "try") ts then
    take
    g.block
  else if next (·.isWord "unsafe") ts || (isBlock && next (·.isWord "const") ts) then
    take
    g.attributedBlock
  else if next (·.isMark '\x7b') ts then g.attributedBlock
  else if startWithLifetime ts then g.labeled
  else return false
  return true

/-! ## Closures -/

/-- An input of a closure.  A pattern that stays as it is written loses its attributes if it has no
type. -/
def closureInput : Reader Unit := do
  let (_, attributes) ← aside g.outerAttributes
  let (form, pattern) ← aside g.pattern
  unless form == .verbatim && !(← seesMarks [':']) do write attributes
  write pattern
  if ← marks? [':'] then discard <| g.type true

def closure (structs : Bool) : Reader Unit := do
  discard <| g.binder?
  for w in ["const", "static", "async", "move"] do discard <| word? w
  marks ['|']
  separated [','] (return !(← seesMarks ['|'])) g.closureInput
  marks ['|']
  if ← marks? ['-', '>'] then
    discard <| g.type true
    g.block
  else discard <| g.expression structs

def beginsClosure (ts : List Token) : Bool :=
  let behind := skip ts
  startWith ['|'] ts || next (fun t => t.isWord "move" || t.isWord "static") ts || beginsBinder ts
    || (next (·.isWord "const") ts && !next (·.isMark '\x7b') behind)
    || (next (·.isWord "async") ts && (startWith ['|'] behind || next (·.isWord "move") behind))

/-! ## Ranges and casts -/

/-- The marks of a range; whether it is closed. -/
def rangeOperator : Reader Bool := do
  if ← marks? ['.', '.', '='] then return true
  if ← seesMarks ['.', '.', '.'] then failExpected ["`..=`"]
  marks ['.', '.']
  return false

/-- Whether an open range ends at once. -/
def endsRange (structs : Bool) (ts : List Token) : Bool :=
  isEnd ts || (startWith ['.'] ts && !startWith ['.', '.'] ts)
    || (!structs && next (·.isMark '\x7b') ts) || next (·.isWord "as") ts
    || [",", ";", "?", "=>", "=", "+", "/", "%", "^", ">", "<=", "!=", "-=", "*=", "&=", "|=",
        "<<="].any fun cs => startWith cs.toList ts

/-- Refuses what cannot follow a cast. -/
def checkCast : Reader Unit := do
  let ts ← ahead
  let behind := skip ts
  let refuseBefore (what : String) : Reader Unit :=
    refuse ("casts cannot be followed by " ++ what)
  if startWith ['.'] ts && !startWith ['.', '.'] ts then
    if next (·.isWord "await") behind then refuseBefore "`.await`"
    else if next isName behind
        && (next (·.isMark '(') (skip behind) || startWith [':', ':'] (skip behind)) then
      refuseBefore "a method call"
    else refuseBefore "a field access"
  else if startWith ['?'] ts then refuseBefore "`?`"
  else if next (·.isMark '[') ts then refuseBefore "indexing"
  else if next (·.isMark '(') ts then refuseBefore "a function call"

/-! ## Operators -/

mutual

/-- Operators that bind at least as strongly as `base`, behind an expression that has been read. -/
def climb (structs : Bool) : Nat → Strength → ExprForm → Reader ExprForm
  | 0, _, form => return form
  | n + 1, base, form => do
    if form == .range then return form
    let ts ← ahead
    match Strength.operator? ts with
    | some (cs, s) =>
      if s.rank < base.rank then return form
      if s == .compare && form == .comparison then refuse "comparison operators cannot be chained"
      marks cs
      discard <| rightOperand structs n s
      climb structs n base (if s == .compare then .comparison else .other)
    | none =>
      if Strength.assign.rank ≥ base.rank && Strength.assigns ts then
        marks ['=']
        discard <| rightOperand structs n .assign
        climb structs n base .other
      else if Strength.range.rank ≥ base.rank && startWith ['.', '.'] ts then
        rangeRest structs n
        return .range
      else if Strength.cast.rank ≥ base.rank && next (·.isWord "as") ts then
        word "as"
        discard <| g.type false
        checkCast
        climb structs n base .other
      else return form

/-- An operand with all that binds to it more strongly than an operator in front of it. -/
def rightOperand (structs : Bool) : Nat → Strength → Reader ExprForm
  | 0, _ => failExpected ["an expression"]
  | n + 1, s => do grow structs n s (← g.operand structs)

/-- What binds to an operand more strongly than an operator in front of it.  Assignments bind from
the right. -/
def grow (structs : Bool) : Nat → Strength → ExprForm → Reader ExprForm
  | 0, _, form => return form
  | n + 1, s, form => do
    let ts ← ahead
    let next := Strength.ahead ts
    if next.rank > s.rank || (next == .assign && s == .assign) then
      let form ← climb structs n next form
      if (← ahead).length = ts.length then return form
      grow structs n s form
    else return form

/-- The marks of a range and its end. -/
def rangeRest (structs : Bool) : Nat → Reader Unit
  | 0 => failExpected ["an expression"]
  | n + 1 => do
    let isClosed ← rangeOperator
    unless !isClosed && (← sees (endsRange structs)) do
      discard <| rightOperand structs n .range

end

/-- As many steps as operators can take here. -/
def steps : Reader Nat := return 3 * (← ahead).length + 3

def operators (structs : Bool) (form : ExprForm) : Reader ExprForm := do
  g.climb structs (← steps) .weakest form

/-! ## Atoms -/

/-- Whether an expression can begin here. -/
def canBegin (ts : List Token) : Bool :=
  let but (c : Char) (others : List String) : Bool :=
    startWith [c] ts && !others.any fun cs => startWith cs.toList ts
  next (fun | .word w => w != "as"
            | .text .. | .literal _ => true
            | t => t.isMark '(' || t.isMark '[' || t.isMark '\x7b') ts
    || but '!' ["!="] || but '-' ["-=", "->"] || but '*' ["*="] || but '|' ["|="] || but '&' ["&="]
    || startWith ['.', '.'] ts || but '<' ["<=", "<<="] || startWith [':', ':'] ts
    || startWithLifetime ts || startWith ['#'] ts

def expression? : Reader Unit := do
  if ← sees canBegin then discard <| g.expression true

/-- A way out of a loop or a block, perhaps with a label and a value. -/
def leave (structs : Bool) : Reader Unit := do
  word "break"
  if ← sees fun ts => startWithLifetime ts && startWith [':'] (skip ts) then
    discard <| g.expression true
    throw (.refused "parentheses required" false)
  discard lifetime?
  unless !structs && (← seesMark '\x7b') do g.expression?

def fieldValue : Reader Unit := do
  g.outerAttributes
  let isNamed ← member
  if !isNamed || (← seesMarks [':']) then
    marks [':']
    discard <| g.expression true

/-- Fields with their values, and perhaps where the others come from. -/
def fieldValues : Reader Unit :=
  repeated do
    if ← atEnd then return false
    if ← marks? ['.', '.'] then
      unless ← atEnd do discard <| g.expression true
      return false
    g.fieldValue
    if ← atEnd then return false
    marks [',']
    return true

def pathExpression (structs : Bool) : Reader ExprForm := do
  let p ← g.qualifiedPath .expression
  if !p.isQualified && p.isPlain && (← sees goesOnAsInvocation) then
    marks ['!']
    return .invocation (← invocationArguments)
  if structs && (← seesMark '\x7b') then bracketed '\x7b' g.fieldValues
  return .other

/-- Expressions in square brackets: a list, or one and how often it is repeated. -/
def arrayExpression : Reader Unit :=
  bracketed '[' do
    if ← atEnd then return
    discard <| g.expression true
    if ← atEnd then return
    if ← marks? [','] then commas (discard (g.expression true))
    else if ← marks? [';'] then discard <| g.expression true
    else refuse "expected `,` or `;`"

def bindingCondition (structs : Bool) : Reader Unit := do
  word "let"
  discard g.alternatives
  marks ['=']
  let form ← g.operand structs
  discard <| g.climb structs (← steps) .compare form

/-- An expression without operators. -/
def atom (structs : Bool) : Reader ExprForm := do
  let ts ← ahead
  let behind := skip ts
  let isWord (w : String) : Bool := next (·.isWord w) ts
  let thenWord (w : String) : Bool := next (·.isWord w) behind
  let thenBlock := next (·.isMark '\x7b') behind
  if startWithLiteral ts then
    match ← anyLiteral with
    | some value => return .text value
    | none => return .other
  else if isWord "async"
      && (thenBlock || (thenWord "move" && next (·.isMark '\x7b') (skip behind))) then
    take
    discard <| word? "move"
    g.block
    return .other
  else if beginsClosure ts then
    g.closure structs
    return .other
  else if beginsBuiltIn ts then
    builtIn
    return .verbatim
  else if beginsPath ts
      || (isWord "try" && (startWith ['!'] behind || startWith [':', ':'] behind)) then
    g.pathExpression structs
  else if next (·.isMark '(') ts then
    g.expressionList
    return .other
  else if isWord "break" then
    g.leave structs
    return .other
  else if isWord "continue" then
    take
    discard lifetime?
    return .other
  else if isWord "return" || isWord "yield" then
    take
    g.expression?
    return .other
  else if isWord "become" then
    take
    discard <| g.expression true
    return .verbatim
  else if next (·.isMark '[') ts then
    g.arrayExpression
    return .other
  else if isWord "let" then
    g.bindingCondition structs
    return .other
  else if ← g.blockLike then return .block
  else if startWith ['.', '.'] ts then
    g.rangeRest structs (← steps)
    return .range
  else if isWord "_" then
    take
    return .other
  else refuse "expected an expression"

/-! ## Rules -/

/-- An expression without binary operators. -/
def operandRule (structs : Bool) : Reader ExprForm := asWrittenIf (· == .verbatim) do
  let isAttributed ← seesMarks ['#']
  g.outerAttributes
  if ← marks? ['&'] then
    if ← sees fun ts => next (·.isWord "raw") ts
        && next (fun t => t.isWord "mut" || t.isWord "const") (skip ts) then
      takeMany 2
    else discard <| word? "mut"
    discard <| g.operand structs
    return .other
  else if (← marks? ['*']) || (← marks? ['!']) || (← marks? ['-']) then
    discard <| g.operand structs
    return .other
  else
    let form ← g.trailers (← g.atom structs)
    if isAttributed && form == .range then
      throw (.refused "attributes are not allowed on range expressions starting with `..`" false)
    return form

def expressionRule (structs : Bool) : Reader ExprForm := do
  g.operators structs (← g.operand structs)

/-- An expression where a statement can begin: what ends a statement by itself is no left operand,
but it can have its fields and methods used.  What stays as it is written loses its attributes. -/
def statementExpressionRule : Reader ExprForm := do
  let (_, attributes) ← aside g.outerAttributes
  let (isBlock, ts) ← aside g.blockLike
  if isBlock then
    write (attributes ++ ts)
    if (← seesPoint) || (← seesMarks ['?']) then g.operators true (← g.trailers .block)
    else return .block
  else
    let (form, ts) ← aside (g.operand true)
    write (if form == .verbatim then ts else attributes ++ ts)
    g.operators true form

end Toolbox.Grammar
