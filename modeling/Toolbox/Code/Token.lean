import Toolbox.Code.Literal
import Toolbox.Text.Basic

/-!
# Tokens

Fragments of source code, cut into tokens.  Blanks and comments are dropped, but a comment that
documents becomes the attribute it stands for.  Every mark of punctuation is a token of its own,
brackets too, so that what stands inside brackets is searched like everything else; what stands
inside a literal is not.
-/

namespace Toolbox

inductive Token where
  /-- an identifier or a keyword; a raw identifier keeps its mark `r#` -/
  | word (name : String)
  /-- a character of punctuation or a bracket; `joined` to the mark that follows it at once -/
  | mark (c : Char) (joined : Bool := false)
  /-- a text literal: as written, and what it stands for -/
  | text (source value : String)
  /-- any other literal -/
  | literal (source : String)
  deriving DecidableEq, Repr

namespace Token

open Literal Text

def source : Token → String
  | word name => name
  | mark c _ => String.singleton c
  | text source _ => source
  | literal source => source

/-- The literal of a text. -/
def ofText (value : String) : Token :=
  .text (String.ofList ('"' :: escaped value.toList ++ ['"'])) value

/-- The marks of an operator. -/
def marks : List Char → List Token
  | [] => []
  | [c] => [.mark c]
  | c :: cs => .mark c true :: marks cs

/-- Tokens as written, without any spaces. -/
def squeezed (ts : List Token) : String := squeeze (String.join (ts.map source))

/-! ## Kinds -/

/-- Words that cannot be names. -/
def keywords : List String :=
  ["_", "abstract", "as", "async", "await", "become", "box", "break", "const", "continue", "crate",
   "do", "dyn", "else", "enum", "extern", "false", "final", "fn", "for", "if", "impl", "in", "let",
   "loop", "macro", "match", "mod", "move", "mut", "override", "priv", "pub", "ref", "return",
   "Self", "self", "static", "struct", "super", "trait", "true", "try", "type", "typeof", "unsafe",
   "unsized", "use", "virtual", "where", "while", "yield"]

def isMark (c : Char) : Token → Bool
  | mark d _ => c == d
  | _ => false

def isWord (w : String) : Token → Bool
  | word name => w == name
  | _ => false

/-- Whether a token is a word that can be a name. -/
def isName : Token → Bool
  | word name => name ∉ keywords
  | _ => false

/-- Whether a token is a bracket that closes. -/
def isClosing (t : Token) : Bool := t.isMark ')' || t.isMark ']' || t.isMark '\x7d'

/-- The bracket that closes what an opening one opens. -/
def closing? : Token → Option Char
  | mark '(' _ => some ')'
  | mark '[' _ => some ']'
  | mark '\x7b' _ => some '\x7d'
  | _ => none

/-! ## Cutting -/

/-- Number of characters up to the end of a comment in brackets and with it; such comments nest,
`depth` of them being open. -/
def commentLength (depth : Nat) : List Char → Nat
  | '*' :: '/' :: rest => if depth ≤ 1 then 2 else commentLength (depth - 1) rest + 2
  | '/' :: '*' :: rest => commentLength (depth + 1) rest + 2
  | _ :: rest => commentLength depth rest + 1
  | [] => 0

/-- The attribute that a documenting comment stands for; an inner one documents what it stands
in. -/
def documentation (inner : Bool) (comment : List Char) : List Token :=
  .mark '#' :: (if inner then [.mark '!'] else [])
    ++ [.mark '[', .word "doc", .mark '=', ofText (String.ofList comment), .mark ']']

/-- Tokens of a comment that goes on to the end of the line, from what follows its two slashes. -/
def ofLineComment (line : List Char) : List Token :=
  match line with
  | '/' :: '/' :: _ => []
  | '/' :: comment => documentation false (dropReturn comment)
  | '!' :: comment => documentation true (dropReturn comment)
  | _ => []

/-- Tokens of a comment in brackets, from what stands between them. -/
def ofBracketComment (body : List Char) : List Token :=
  match body with
  | [] | ['*'] | '*' :: '*' :: _ => []
  | '*' :: comment => documentation false comment
  | '!' :: comment => documentation true comment
  | _ => []

/-- The word or literal that starts with the word `name`, before `rest`; with the number of
characters it takes from `rest`. -/
def ofWord (name rest : List Char) : Token × Nat :=
  let hashes := (rest.takeWhile (· == '#')).length
  let literal (n : Nat) : Token × Nat :=
    let n := n + wordLength (rest.drop n)
    (.literal (String.ofList (name ++ rest.take n)), n)
  match rest.drop hashes with
  | '"' :: body =>
    if name == ['r'] then
      let n := rawLength hashes body
      let all := hashes + 1 + n
      let all := all + wordLength (rest.drop all)
      (.text (String.ofList (name ++ rest.take all)) (String.ofList (body.take (n - hashes - 1))),
        all)
    else if name == ['b', 'r'] || name == ['c', 'r'] then
      literal (hashes + 1 + rawLength hashes body)
    else if hashes = 0 && (name == ['b'] || name == ['c']) then literal (quotedLength '"' body + 1)
    else (.word (String.ofList name), 0)
  | '\'' :: body =>
    if hashes = 0 && name == ['b'] then literal (quotedLength '\'' body + 1)
    else (.word (String.ofList name), 0)
  | body =>
    if hashes = 1 && name == ['r'] then
      let n := wordLength body + 1
      (.word (String.ofList (name ++ rest.take n)), n)
    else (.word (String.ofList name), 0)

/-- Marks that can be joined to one before them. -/
def isPunctuation (c : Char) : Bool := "~!@#$%^&*-=+|;:,<.>/?'".toList.contains c

/-- Whether the source goes on with a mark that is joined to the one before it. -/
def goesOnWithMark : List Char → Bool
  | '/' :: '/' :: _ | '/' :: '*' :: _ => false
  | c :: _ => isPunctuation c
  | [] => false

/-- The tokens that start with the character `c`, before `rest`, with the number of characters they
take from `rest`; blanks and comments that document nothing are no tokens.  The name of a lifetime
is a token of its own. -/
def first (c : Char) (rest : List Char) : List Token × Nat :=
  if isSpace c then ([], 0)
  else if c.isDigit then
    let n := numberLength (c :: rest) - 1
    ([.literal (String.ofList (c :: rest.take n))], n)
  else if isWordChar c then
    let tail := rest.takeWhile isWordChar
    let (token, n) := ofWord (c :: tail) (rest.drop tail.length)
    ([token], tail.length + n)
  else
    match c, rest with
    | '"', _ =>
      let n := quotedLength '"' rest
      let all := n + wordLength (rest.drop n)
      ([.text (String.ofList (c :: rest.take all))
        (String.ofList (unescape (rest.take (n - 1))))], all)
    | '\'', '\\' :: _ =>
      let n := quotedLength '\'' rest
      let all := n + wordLength (rest.drop n)
      ([.literal (String.ofList (c :: rest.take all))], all)
    | '\'', d :: '\'' :: after =>
      let n := wordLength after
      ([.literal (String.ofList (c :: d :: '\'' :: after.take n))], n + 2)
    | '\'', _ => ([.mark c true], 0)
    | '/', '/' :: body =>
      let line := body.takeWhile (· != '\n')
      (ofLineComment line, line.length + 1)
    | '/', '*' :: body =>
      let n := commentLength 1 body
      (ofBracketComment (body.take (n - 2)), n + 1)
    | _, _ => ([.mark c (isPunctuation c && goesOnWithMark rest)], 0)

def cut : List Char → List Token
  | [] => []
  | c :: rest => (first c rest).1 ++ cut (rest.drop (first c rest).2)
termination_by s => s.length
decreasing_by simp only [List.length_drop, List.length_cons]; omega

/-- Tokens of a text.  A byte order mark before it is no part of it. -/
def scan (s : String) : List Token :=
  match s.toList with
  | '\ufeff' :: cs | cs => cut cs

end Token

end Toolbox
