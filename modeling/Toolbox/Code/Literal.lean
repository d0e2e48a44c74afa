import Toolbox.Text.Basic
import Toolbox.Text.Visible

/-!
# Literals

How far literals reach in source code, and what those of texts stand for.  Lengths are counted on
what is left of the source.  A literal may end in a suffix: a word that follows it at once.
-/

namespace Toolbox.Literal

open Text

/-! ## Words -/

/-- A blank of source code: white space or a mark of writing direction. -/
def isSpace (c : Char) : Bool := isBlank c || c == '\u200e' || c == '\u200f'

/-- A character of a word: a letter or digit of ASCII, an underscore, or any character beyond ASCII
that is no blank, for outside of literals and comments such characters occur in words alone. -/
def isWordChar (c : Char) : Bool := c.isAlphanum || c == '_' || (127 < c.toNat && !isSpace c)

def isWordStart (c : Char) : Bool := isWordChar c && !c.isDigit

/-- Whether these are the characters of a word. -/
def isWord : List Char → Bool
  | [] => false
  | c :: rest => isWordStart c && rest.all isWordChar

/-- Number of characters of the word at the start, if there is one. -/
def wordLength : List Char → Nat
  | [] => 0
  | c :: rest => if isWordStart c then (rest.takeWhile isWordChar).length + 1 else 0

/-! ## Texts and characters -/

/-- Number of characters up to the closing quote and with it.  A backslash protects the character
after it. -/
def quotedLength (quote : Char) : List Char → Nat
  | [] => 0
  | '\\' :: _ :: rest => quotedLength quote rest + 2
  | c :: rest => if c = quote then 1 else quotedLength quote rest + 1

/-- Number of characters up to a double quote with that many hash signs, and with them. -/
def rawLength (hashes : Nat) : List Char → Nat
  | [] => 0
  | c :: rest =>
    if c = '"' && rest.take hashes = List.replicate hashes '#' then hashes + 1
    else rawLength hashes rest + 1

/-- The character with these hexadecimal digits as its code point. -/
def ofHexDigits (digits : List Char) : Char :=
  let value (c : Char) : Nat := if c.isDigit then c.toNat - 48 else c.toLower.toNat - 87
  Char.ofNat (digits.foldl (fun n c => 16 * n + value c) 0)

/-- A blank that may be left out after a backslash at the end of a line. -/
def isIndent (c : Char) : Bool := c == ' ' || c == '\t' || c == '\n' || c == '\r'

/-- What the characters between two quotes stand for.  The end of a line is always a line feed. -/
def unescape (s : List Char) : List Char :=
  match s with
  | '\\' :: 'x' :: a :: b :: rest => ofHexDigits [a, b] :: unescape rest
  | '\\' :: 'u' :: '\x7b' :: rest =>
    ofHexDigits ((rest.takeWhile (· != '\x7d')).filter (· != '_'))
      :: unescape ((rest.dropWhile (· != '\x7d')).drop 1)
  | '\\' :: '\n' :: rest | '\\' :: '\r' :: rest => unescape (rest.dropWhile isIndent)
  | '\\' :: c :: rest =>
    (match c with
      | 'n' => '\n'
      | 'r' => '\r'
      | 't' => '\t'
      | '0' => '\x00'
      | c => c) :: unescape rest
  | '\r' :: '\n' :: rest => '\n' :: unescape rest
  | c :: rest => c :: unescape rest
  | [] => []
termination_by s.length
decreasing_by
  all_goals
    simp only [List.length_cons, List.length_drop]
    have := (List.dropWhile_suffix (l := rest) (· != '\x7d')).length_le
    have := (List.dropWhile_suffix (l := rest) isIndent).length_le
    omega

/-- Characters as they are written between two quotes.  A zero takes its long form where a digit
would otherwise seem to belong to it. -/
def escaped : List Char → List Char
  | [] => []
  | '\x00' :: c :: rest =>
    (if '0' ≤ c && c ≤ '7' then ['\\', 'x', '0', '0'] else ['\\', '0']) ++ escaped (c :: rest)
  | c :: rest => escape c ++ escaped rest

/-! ## Numbers -/

/-- A digit, or an underscore between digits. -/
def isDigitChar (c : Char) : Bool := c.isDigit || c == '_'

/-- Number of characters of an exponent behind its letter, if it has any digits; its sign comes
before them. -/
def exponentLength? (s : List Char) : Option Nat :=
  let blanks := (s.takeWhile (· == '_')).length
  let sign := match s.drop blanks with
    | '+' :: _ | '-' :: _ => 1
    | _ => 0
  let digits := (s.drop (blanks + sign)).takeWhile isDigitChar
  if digits.any Char.isDigit then some (blanks + sign + digits.length) else none

/-- Number of characters of a point and the digits behind it.  What looks like a point is none if
another point or a word comes next. -/
def fractionLength : List Char → Nat
  | '.' :: rest =>
    match rest with
    | [] => 1
    | c :: _ => if c = '.' || isWordStart c then 0 else (rest.takeWhile isDigitChar).length + 1
  | _ => 0

/-- Number of characters of the number at the start, with its suffix. -/
def numberLength (s : List Char) : Nat :=
  let whole := (s.takeWhile isDigitChar).length
  let fraction := fractionLength (s.drop whole)
  let point := whole + fraction
  let exponent := match s.drop point with
    | 'e' :: rest | 'E' :: rest => (exponentLength? rest).map (· + 1)
    | _ => none
  match exponent with
  | some n => point + n + wordLength (s.drop (point + n))
  | none =>
    if fraction = 0 then (s.takeWhile isWordChar).length
    else point + wordLength (s.drop point)

/-- The value of a decimal, hexadecimal, octal or binary integer, and its suffix; none for numbers
with a fraction or an exponent. -/
def integer? (s : List Char) : Option (Nat × List Char) :=
  let (base, digits) := match s with
    | '0' :: 'x' :: rest => (16, rest)
    | '0' :: 'o' :: rest => (8, rest)
    | '0' :: 'b' :: rest => (2, rest)
    | s => (10, s)
  let value (c : Char) : Nat := if c.isDigit then c.toNat - 48 else c.toLower.toNat - 87
  let isDigitOf (c : Char) : Bool := c == '_' || (c.isAlphanum && value c < base)
  let suffix := digits.dropWhile isDigitOf
  let whole := (digits.takeWhile isDigitOf).filter (· != '_')
  let isExponent := match suffix with
    | 'e' :: rest | 'E' :: rest => base == 10 && (exponentLength? rest).isSome
    | _ => false
  if whole.isEmpty || isExponent || suffix.any (!isWordChar ·) || suffix.head?.any Char.isDigit
  then none
  else some (whole.foldl (fun n c => base * n + value c) 0, suffix)

end Toolbox.Literal
