import Toolbox.Code.Grammar.Path

/-!
# Parameters in angle brackets

Parameters of declarations, and the constraints on them.  Empty brackets and empty lists of bounds
or constraints are not written.
-/

namespace Toolbox.Grammar

open Reader Token

variable (g : Grammar)

/-! ## Parameters -/

/-- Bounds behind a colon; without any bounds the colon is not written.  Whether there is a
colon. -/
def optionalBounds (list : Reader Unit) : Reader Bool := do
  unless ← seesMarks [':'] do return false
  let (_, colon) ← aside (marks [':'])
  let (_, bounds) ← aside list
  unless bounds.isEmpty do write (colon ++ bounds)
  return true

def lifetimeParam : Reader Unit := do
  discard lifetime
  discard <| optionalBounds
    (chained '+' (fun ts => isEnd ts || startWith [','] ts || startWith ['>'] ts)
      (discard lifetime))

def typeParam : Reader Unit := do
  discard identifier
  discard <| optionalBounds
    (chained '+' (fun ts => isEnd ts || startWith [','] ts || startWith ['>'] ts
      || startWith ['='] ts) (discard (g.bound false true)))
  if ← marks? ['='] then discard <| g.type true

def constantParam : Reader Unit := do
  word "const"
  discard identifier
  marks [':']
  discard <| g.type true
  if ← marks? ['='] then g.constantArgument

/-- A parameter in angle brackets; whether it is a lifetime. -/
def genericParam : Reader Bool := do
  g.outerAttributes
  let ts ← ahead
  if startWithLifetime ts then
    lifetimeParam
    return true
  else if next isName ts then g.typeParam
  else if next (·.isWord "const") ts then g.constantParam
  else unless ← word? "_" do failExpected ["lifetime", "identifier", "`const`"]
  return false

/-- Parameters in angle brackets, if there are any; whether there are brackets. -/
def genericParams : Reader Bool := do
  unless ← seesMarks ['<'] do return false
  let ((params, comma), _) ← aside do
    marks ['<']
    let params ← gathered (untilMark '>') (noted g.genericParam)
    marks ['>']
    return params
  unless params.isEmpty do write (inBrackets comma params)
  return true

/-- Whether what stands behind a keyword is parameters in angle brackets and not a type. -/
def beginsParams (ts : List Token) : Bool :=
  let second := ts.drop 1
  let third := skip second
  startWith ['<'] ts && (startWith ['>'] second || startWith ['#'] second
    || next (·.isWord "const") second
    || ((startWithLifetime second || next isName second)
      && (startWith ['>'] third || startWith [','] third || startWith ['='] third
        || (startWith [':'] third && !startWith [':', ':'] third))))

/-! ## Parameters of a bound -/

def binderParam : Reader Unit := do
  g.outerAttributes
  let ts ← ahead
  if next isName ts then g.typeParam
  else if startWithLifetime ts then lifetimeParam
  else if next (·.isWord "const") ts then g.constantParam
  else failExpected ["identifier", "lifetime", "`const`"]

/-- What a bound holds for. -/
def binder : Reader Unit := do
  word "for"
  marks ['<']
  separated [','] (untilMark '>') g.binderParam
  marks ['>']

/-- What a bound holds for, if that is written; whether it is. -/
def binder? : Reader Bool := do
  if ← seesWord "for" then
    g.binder
    return true
  else return false

/-! ## Constraints -/

def endsConstraints (ts : List Token) : Bool :=
  isEnd ts || next (·.isMark '\x7b') ts || startWith [','] ts || startWith [';'] ts
    || (startWith [':'] ts && !startWith [':', ':'] ts) || startWith ['='] ts

def constraint : Reader Unit := do
  if ← sees fun ts => startWithLifetime ts && startWith [':'] (skip ts) then
    discard lifetime
    marks [':']
    chained '+' (fun ts => endsConstraints ts || startWith [':'] ts) (discard lifetime)
  else
    discard <| g.binder?
    discard <| g.type true
    marks [':']
    chained '+' endsConstraints (discard (g.bound false true))

/-- Constraints, if there are any; whether the word for them is there. -/
def constraints : Reader Bool := do
  unless ← seesWord "where" do return false
  let (_, start) ← aside (word "where")
  if ← sees beginsParams then
    refuse "generic parameters on `where` clauses are reserved for future use"
  let (_, list) ← aside (chained ',' endsConstraints g.constraint)
  unless list.isEmpty do write (start ++ list)
  return true

end Toolbox.Grammar
