import Toolbox.Code.Grammar.Type

/-!
# Patterns

The rules for patterns.  A closed range is always written with `..=`.
-/

namespace Toolbox.Grammar

open Reader Token

variable (g : Grammar)

/-! ## Alternatives -/

def seesAlternative : Reader Bool :=
  sees fun ts => startWith ['|'] ts && !startWith ['|', '|'] ts && !startWith ['|', '='] ts

/-- Alternatives, perhaps after a first bar. -/
def alternatives : Reader PatternForm := do
  let isFirst ← marks? ['|']
  let form ← g.pattern
  if isFirst || (← seesAlternative) then
    repeated do
      unless ← seesAlternative do return false
      marks ['|']
      discard g.pattern
      return true
    return .other
  else return form

/-! ## Fields -/

/-- A field by its name or its number; whether it has a name.  Numbers are written in decimal. -/
def member : Reader Bool := do
  match ← ahead with
  | .literal source :: _ =>
    match integer? source.toList with
    | none => failExpected ["identifier or integer"]
    | some (n, []) =>
      if Nat.pow 2 32 ≤ n then throw (.refused "number too large to fit in target type" false)
      discard <| aside take
      write [.literal s!"{n}"]
      return false
    | some _ => throw (.refused "expected unsuffixed integer" false)
  | ts =>
    unless next isName ts do failExpected ["identifier or integer"]
    take
    return true
where
  /-- The value of a literal that is an integer. -/
  integer? (s : List Char) : Option (Nat × List Char) :=
    if s.head?.any Char.isDigit then Literal.integer? s else none

def fieldPattern : Reader Unit := do
  let isBoxed ← word? "box"
  let isRef ← word? "ref"
  let isMut ← word? "mut"
  if isBoxed || isRef || isMut then discard identifier
  else
    let isNamed ← member
    if !isNamed || (← seesMarks [':']) then
      marks [':']
      discard g.alternatives

/-- Fields of a pattern, up to two points that stand for the rest. -/
def fieldPatterns : Reader Unit :=
  repeated do
    if ← atEnd then return false
    g.outerAttributes
    if ← marks? ['.', '.'] then return false
    g.fieldPattern
    if ← atEnd then return false
    marks [',']
    return true

/-! ## Ranges -/

/-- The marks of a range; whether it is closed.  Three points are an older way of writing a closed
range. -/
def rangeMarks : Reader Bool := do
  if ← marks? ['.', '.', '='] then return true
  if ← seesMarks ['.', '.', '.'] then
    discard <| aside (marks ['.', '.', '.'])
    write (Token.marks ['.', '.', '='])
    return true
  if ← marks? ['.', '.'] then return false
  failExpected ["`..`"]

def rangeBound : Reader Unit := do
  if ← sees startWithLiteral then discard anyLiteral
  else if ← sees beginsPath then discard <| g.qualifiedPath .expression
  else if ← word? "const" then g.attributedBlock
  else
    failExpected ["literal", "identifier", "`::`", "`<`", "`self`", "`Self`", "`super`", "`crate`",
      "`const`"]

def rangeEnd : Reader Bool := do
  let isMissing (ts : List Token) : Bool :=
    isEnd ts || startWith ['|'] ts || startWith ['='] ts
      || (startWith [':'] ts && !startWith [':', ':'] ts) || startWith [','] ts
      || startWith [';'] ts || next (·.isWord "if") ts
  if ← sees isMissing then return false
  g.rangeBound
  return true

/-- The rest of a range behind its start. -/
def rangeTail : Reader PatternForm := do
  let isClosed ← rangeMarks
  let hasEnd ← g.rangeEnd
  if isClosed && !hasEnd then refuse "expected range upper bound"
  return if hasEnd then .other else .openRange

/-! ## Rules -/

def pathPattern : Reader PatternForm := do
  let p ← g.qualifiedPath .expression
  if !p.isQualified && p.isPlain && (← sees goesOnAsInvocation) then
    marks ['!']
    discard invocationArguments
    return .other
  else if ← seesMark '\x7b' then
    bracketed '\x7b' g.fieldPatterns
    return .other
  else if ← seesMark '(' then
    bracketed '(' (commas (discard g.alternatives))
    return .other
  else if ← seesMarks ['.', '.'] then g.rangeTail
  else return .other

def namePattern : Reader Unit := do
  discard <| word? "ref"
  discard <| word? "mut"
  if ← seesWord "self" then take else discard identifier
  if ← marks? ['@'] then discard g.pattern

/-- A pattern without alternatives. -/
def patternRule : Reader PatternForm := do
  let goesOnAsPath (ts : List Token) : Bool :=
    let behind := skip ts
    (next isName ts && (startWith [':', ':'] behind || startWith ['!'] behind
        || next (·.isMark '\x7b') behind || next (·.isMark '(') behind
        || startWith ['.', '.'] behind))
      || (next (·.isWord "self") ts && startWith [':', ':'] behind)
      || startWith [':', ':'] ts || startWith ['<'] ts
      || next (fun t => t.isWord "Self" || t.isWord "super" || t.isWord "crate") ts
  if ← sees goesOnAsPath then g.pathPattern
  else if ← word? "_" then return .other
  else if ← seesWord "box" then
    asWrittenIf (· == .verbatim) do
      word "box"
      discard g.pattern
      return .verbatim
  else if ← sees fun ts => startWith ['-'] ts || startWithLiteral ts || next (·.isWord "const") ts
  then
    g.rangeBound
    if ← seesMarks ['.', '.'] then g.rangeTail else return .other
  else if ← sees fun ts => next isName ts
      || next (fun t => t.isWord "ref" || t.isWord "mut" || t.isWord "self") ts then
    g.namePattern
    return .other
  else if ← marks? ['&'] then
    discard <| word? "mut"
    discard g.pattern
    return .other
  else if ← seesMark '(' then
    bracketed '(' (commas (discard g.alternatives))
    return .other
  else if ← seesMark '[' then
    bracketed '[' do
      commas do
        if (← g.alternatives) == .openRange then
          throw (.refused "range pattern is not allowed unparenthesized inside slice pattern" false)
    return .other
  else if ← sees fun ts => startWith ['.', '.'] ts && !startWith ['.', '.', '.'] ts then
    let isClosed ← rangeMarks
    let hasEnd ← g.rangeEnd
    if isClosed && !hasEnd then refuse "expected range upper bound"
    return if hasEnd then .openRange else .other
  else
    failExpected ["identifier", "`::`", "`<`", "`_`", "literal", "`const`", "`ref`", "`mut`", "`&`",
      "parentheses", "square brackets", "`..`"]

end Toolbox.Grammar
