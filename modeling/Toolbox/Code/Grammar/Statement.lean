import Toolbox.Code.Grammar.Expression

/-!
# Statements

The rules for what stands in a block: bindings, declarations and expressions.
-/

namespace Toolbox.Grammar

open Reader Token

variable (g : Grammar)

/-- What stands behind a path without arguments. -/
def afterPlainPath? (ts : List Token) : Option (List Token) :=
  go (if startWith [':', ':'] ts then ts.drop 2 else ts)
where
  go : List Token → Option (List Token)
    | t :: .mark ':' true :: .mark ':' _ :: ts => if isPathWord t then go ts else none
    | t :: ts => if isPathWord t then some ts else none
    | [] => none

/-- How a statement begins that is a call that is expanded. -/
inductive InvocationStart where
  /-- a name follows the call, so that it declares something -/
  | declaration
  /-- the arguments stand in braces, and nothing is done with what it gives -/
  | statement
  deriving DecidableEq, Repr

def invocationStart? (ts : List Token) : Option InvocationStart :=
  match afterPlainPath? ts with
  | none => none
  | some ts =>
    let behind := skip ts
    let after := skip behind
    if !startWith ['!'] ts then none
    else if next (fun t => t.isName || t.isWord "try") behind then some .declaration
    else if next (·.isMark '\x7b') behind
        && !((startWith ['.'] after && !startWith ['.', '.'] after) || startWith ['?'] after) then
      some .statement
    else none

def beginsItem (ts : List Token) : Bool :=
  let behind := skip ts
  let after := skip behind
  let word (w : String) : Bool := next (·.isWord w) ts
  let second (ws : List String) : Bool := next (fun t => ws.any (t.isWord ·)) behind
  let third (ws : List String) : Bool := next (fun t => ws.any (t.isWord ·)) after
  ["pub", "extern", "use", "fn", "mod", "type", "struct", "enum", "trait", "impl", "macro"].any word
    || (word "crate" && !startWith [':', ':'] behind)
    || (word "static" && (second ["mut"]
      || (next isName behind
        && !(second ["async"] && (third ["move"] || startWith ['|'] after)))))
    || (word "const" && !(next (·.isMark '\x7b') behind || second ["static"]
      || (second ["async"] && !third ["unsafe", "extern", "fn"]) || second ["move"]
      || startWith ['|'] behind))
    || (word "unsafe" && !next (·.isMark '\x7b') behind)
    || (word "async" && second ["unsafe", "extern", "fn"])
    || (word "union" && next isName behind) || (word "auto" && second ["trait"])
    || (word "default" && second ["unsafe", "impl"])

def binding : Reader Unit := do
  word "let"
  discard g.pattern
  if ← marks? [':'] then discard <| g.type true
  if ← marks? ['='] then
    discard <| g.expression true
    let endsInBrace := ((← get).written.head?).any (·.isMark '\x7d')
    if !endsInBrace && (← word? "else") then g.block
  marks [';']

/-- A statement; whether another one can follow it at once. -/
def statement : Reader Bool := do
  let ts ← behind g.outerAttributes
  let start := invocationStart? ts
  if start == some .statement then
    g.outerAttributes
    plainPath
    marks ['!']
    discard invocationArguments
    discard <| marks? [';']
    return true
  else if next (·.isWord "let") ts then
    g.outerAttributes
    g.binding
    return true
  else if beginsItem ts || start == some .declaration then
    g.item
    return true
  else
    let form ← g.statementExpression
    let isEnded ← marks? [';']
    return isEnded || form == .block || form == .invocation true

def statementsRule : Reader Unit :=
  repeated do
    if ← marks? [';'] then return true
    if ← atEnd then return false
    let isComplete ← g.statement
    unless isComplete || (← atEnd) do refuse "unexpected token, expected `;`"
    return true

end Toolbox.Grammar
