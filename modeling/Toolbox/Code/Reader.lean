import Toolbox.Code.Token

/-!
# Reading source code

A reader takes tokens off the source ahead of it and writes them down again; most rules of a grammar
write what they take, and the few that write something else thereby say what the usual form is.
What stands in brackets is a source of its own: it ends at the closing bracket.  Whatever is left
there is skipped, but the first such place is remembered, for it is at fault if nothing else is.
-/

namespace Toolbox

/-- What is wrong with a piece of source. -/
inductive SyntaxFault where
  /-- one of these should stand here; perhaps the source ends instead -/
  | expected (what : List String) (atEnd : Bool)
  /-- these marks should stand here -/
  | expectedMarks (marks : List Char)
  /-- more stands here than what fits before the closing bracket -/
  | expectedClosing (bracket : Char)
  /-- what stands here is not allowed; perhaps the source ends instead -/
  | refused (reason : String) (atEnd : Bool)
  deriving DecidableEq, Repr

namespace SyntaxFault

/-- Wording of what should stand somewhere. -/
def listed : List String → String
  | [] => "unexpected token"
  | [what] => "expected " ++ what
  | [what, other] => "expected " ++ what ++ " or " ++ other
  | whats => "expected one of: " ++ ", ".intercalate whats

def message : SyntaxFault → String
  | expected [] true => "unexpected end of input"
  | expected whats atEnd => (if atEnd then "unexpected end of input, " else "") ++ listed whats
  | expectedMarks marks => s!"expected `{String.ofList marks}`"
  | expectedClosing bracket => s!"unexpected token, expected `{bracket}`"
  | refused reason atEnd => (if atEnd then "unexpected end of input, " else "") ++ reason

end SyntaxFault

structure Source where
  ahead : List Token
  /-- what has been written, the latest first -/
  written : List Token := []
  /-- the bracket before which something was left -/
  unread : Option Char := none

/-- Reading of source. -/
abbrev Reader := StateT Source (Except SyntaxFault)

namespace Token

/-! ## Looking ahead -/

/-- Whether the source starts with these marks, joined to each other. -/
def startWith : List Char → List Token → Bool
  | [], _ => true
  | [c], t :: _ => t.isMark c
  | c :: cs, .mark d joined :: ts => c == d && joined && startWith cs ts
  | _, _ => false

/-- Whether the first token satisfies `p`. -/
def next (p : Token → Bool) (ts : List Token) : Bool := ts.head?.any p

def startWithLifetime : List Token → Bool
  | .mark '\'' _ :: .word _ :: _ => true
  | _ => false

def startWithLiteral : List Token → Bool
  | .text .. :: _ | .literal _ :: _ | .word "true" :: _ | .word "false" :: _ => true
  | .mark '-' _ :: .literal source :: _ => source.toList.head?.any Char.isDigit
  | _ => false

/-- Whether the source ends, on the whole or at a closing bracket. -/
def isEnd : List Token → Bool
  | [] => true
  | t :: _ => t.isClosing

/-- What stands behind the bracket that closes the outermost of `depth` open ones. -/
def afterClosing (depth : Nat) : List Token → List Token
  | [] => []
  | t :: ts =>
    if t.closing?.isSome then afterClosing (depth + 1) ts
    else if !t.isClosing then afterClosing depth ts
    else if depth ≤ 1 then ts
    else afterClosing (depth - 1) ts

/-- What stands behind a token, or behind brackets with all that is in them, or behind a
lifetime. -/
def skip : List Token → List Token
  | .mark '\'' _ :: .word _ :: ts => ts
  | t :: ts => if t.isClosing then t :: ts else if t.closing?.isSome then afterClosing 1 ts else ts
  | [] => []

end Token

namespace Reader

open Token

variable {α : Type}

/-! ## The source -/

def ahead : Reader (List Token) := return (← get).ahead

/-- Whether the source ends here. -/
def atEnd : Reader Bool := return isEnd (← ahead)

/-- Whether what lies ahead satisfies `p`. -/
def sees (p : List Token → Bool) : Reader Bool := return p (← ahead)

/-- Whether the word `w` comes next. -/
def seesWord (w : String) : Reader Bool := sees (next (·.isWord w))

def seesMarks (cs : List Char) : Reader Bool := sees (startWith cs)

def seesMark (c : Char) : Reader Bool := sees (next (·.isMark c))

/-- Fails because one of these should stand here. -/
def failExpected (what : List String) : Reader α := do throw (.expected what (← atEnd))

/-- Fails because what stands here is not allowed. -/
def refuse (reason : String) : Reader α := do throw (.refused reason (← atEnd))

/-! ## Writing -/

def write (ts : List Token) : Reader Unit :=
  modify fun s => { s with written := ts.reverse ++ s.written }

/-- Reads without writing, and gives what would have been written. -/
def aside (r : Reader α) : Reader (α × List Token) := do
  let before := (← get).written
  modify ({ · with written := [] })
  let a ← r
  let after := (← get).written
  modify ({ · with written := before })
  return (a, after.reverse)

/-- Reads, and gives what has been written as well. -/
def noted (r : Reader α) : Reader (α × List Token) := do
  let (a, ts) ← aside r
  write ts
  return (a, ts)

/-- Reads; what has been read stays as it was if `p` holds of the answer. -/
def asWrittenIf (p : α → Bool) (r : Reader α) : Reader α := do
  let before ← ahead
  let (a, ts) ← aside r
  let after ← ahead
  write (if p a then before.take (before.length - after.length) else ts)
  return a

/-- What lies behind what is read here; nothing is taken. -/
def behind (r : Reader α) : Reader (List Token) := do
  let s ← get
  discard r
  let ts ← ahead
  set s
  return ts

/-- Reads if that succeeds; otherwise nothing has been taken. -/
def attempt (r : Reader α) : Reader (Option α) := fun s =>
  match r s with
  | .ok (a, s) => .ok (some a, s)
  | .error _ => .ok (none, s)

/-! ## Tokens -/

def take : Reader Unit :=
  modify fun s =>
    match s.ahead with
    | [] => s
    | t :: ts => { s with ahead := ts, written := t :: s.written }

def takeMany : Nat → Reader Unit
  | 0 => pure ()
  | n + 1 => do
    take
    takeMany n

/-- Takes marks that are joined to each other. -/
def marks (cs : List Char) : Reader Unit := do
  if ← seesMarks cs then takeMany cs.length else throw (.expectedMarks cs)

/-- Takes marks if they are there, and tells whether they are. -/
def marks? (cs : List Char) : Reader Bool := do
  if ← seesMarks cs then
    takeMany cs.length
    return true
  else return false

/-- Takes the word `w`. -/
def word (w : String) : Reader Unit := do
  if ← seesWord w then take else failExpected [s!"`{w}`"]

/-- Takes the word `w` if it is there, and tells whether it is. -/
def word? (w : String) : Reader Bool := do
  if ← seesWord w then
    take
    return true
  else return false

def anyWord : Reader String := do
  match ← ahead with
  | .word w :: _ =>
    take
    return w
  | _ => failExpected ["ident"]

def identifier : Reader String := do
  match ← ahead with
  | .word w :: _ =>
    if w ∈ keywords then refuse s!"expected identifier, found keyword `{w}`"
    take
    return w
  | _ => failExpected ["identifier"]

def lifetime : Reader String := do
  match ← ahead with
  | .mark '\'' _ :: .word label :: _ =>
    takeMany 2
    return label
  | _ => failExpected ["lifetime"]

def lifetime? : Reader (Option String) := do
  if ← sees startWithLifetime then return some (← lifetime) else return none

def text : Reader String := do
  match ← ahead with
  | .text _ value :: _ =>
    take
    return value
  | _ => failExpected ["string literal"]

def boolean : Reader Bool := do
  match ← ahead with
  | .word "true" :: _ =>
    take
    return true
  | .word "false" :: _ =>
    take
    return false
  | _ => failExpected ["boolean literal"]

/-- Takes a literal, perhaps a number with a minus sign; gives the value of a text. -/
def anyLiteral : Reader (Option String) := do
  match ← ahead with
  | .text _ value :: _ =>
    take
    return some value
  | ts =>
    unless startWithLiteral ts do failExpected ["literal"]
    takeMany (if next (·.isMark '-') ts then 2 else 1)
    return none

/-! ## Brackets -/

/-- Reads what stands in brackets that open with `c`. -/
def bracketed (c : Char) (content : Reader α) : Reader α := do
  unless ← seesMark c do
    failExpected [if c = '(' then "parentheses" else if c = '[' then "square brackets"
      else "curly braces"]
  let close := ((Token.mark c).closing?).getD c
  take
  let a ← content
  unless ← seesMark close do
    modify fun s => { s with
      ahead := .mark close :: afterClosing 1 s.ahead
      unread := s.unread.or (some close) }
  take
  return a

/-- Takes brackets with all that is in them. -/
def brackets : Reader Unit := do
  let ts ← ahead
  takeMany (ts.length - (skip ts).length)

/-! ## Repetition -/

/-- Whether a list goes on: it does up to the end. -/
def untilEnd : Reader Bool := return !(← atEnd)

/-- Whether a list goes on: it does up to the closing mark `c`. -/
def untilMark (c : Char) : Reader Bool := return !(← seesMark c)

/-- Repeats a step as long as it asks for it.  A step that asks for more has taken something, so as
many steps as there are tokens are enough. -/
def repeated (step : Reader Bool) : Reader Unit := do
  go ((← ahead).length + 1)
where
  go : Nat → Reader Unit
    | 0 => pure ()
    | n + 1 => do if ← step then go n

/-- What a step gives, as long as it gives something. -/
def collected (step : Reader (Option α)) : Reader (List α) := do
  go ((← ahead).length + 1)
where
  go : Nat → Reader (List α)
    | 0 => return []
    | n + 1 => do
      match ← step with
      | none => return []
      | some a => return a :: (← go n)

/-- Items with marks between them and perhaps behind the last one, as long as `more` says so. -/
def separated (cs : List Char) (more : Reader Bool) (item : Reader Unit) : Reader Unit :=
  repeated do
    unless ← more do return false
    item
    unless ← more do return false
    marks cs
    return true

/-- Items as long as the mark `c` follows each, but none where `ends` says that the list ends: the
mark may stand behind the last one. -/
def chained (c : Char) (ends : List Token → Bool) (item : Reader Unit) : Reader Unit :=
  repeated do
    if ← sees ends then return false
    item
    marks? [c]

/-- Items with commas between them and perhaps behind the last one, up to the end. -/
def commas (item : Reader Unit) : Reader Unit := separated [','] untilEnd item

/-- Items with commas between them as long as `more` says so, and whether a comma stands behind the
last one. -/
def gathered (more : Reader Bool) (item : Reader α) : Reader (List α × Bool) := do
  go ((← ahead).length + 1) false
where
  go : Nat → Bool → Reader (List α × Bool)
    | 0, comma => return ([], comma)
    | n + 1, comma => do
      unless ← more do return ([], comma)
      let a ← item
      unless ← more do return ([a], false)
      marks [',']
      let (rest, comma) ← go n true
      return (a :: rest, comma)

def all (item : Reader Unit) : Reader Unit :=
  repeated do
    if ← atEnd then return false
    item
    return true

/-! ## Running -/

/-- Reads all of the tokens. -/
def readAll (r : Reader α) (ts : List Token) : Except SyntaxFault α := do
  let (a, s) ← r.run { ahead := ts }
  if let some bracket := s.unread then throw (.expectedClosing bracket)
  unless s.ahead.isEmpty do throw (.expected [] false)
  return a

end Reader

end Toolbox
