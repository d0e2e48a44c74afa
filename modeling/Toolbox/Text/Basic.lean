/-!
# Characters and lines

A property of characters is kept as a list of closed ranges of code points, a case mapping as a
list of runs: the code points `first, first + step, …, last`, each moved by one offset.  `isBlank`
is the property White_Space of the Unicode standard.

A line ends at a line feed; one carriage return before the feed belongs to the end as well.  Text
after the last feed is a line only if there is any.
-/

namespace Toolbox.Text

/-! ## Sets of code points -/

def inRanges (ranges : List (Nat × Nat)) (n : Nat) : Bool :=
  ranges.any fun r => r.1 ≤ n && n ≤ r.2

/-- Code points `first, first + step, …, last`, each mapped to itself plus `offset`. -/
structure Run where
  first : Nat
  last : Nat
  step : Nat
  offset : Int
  deriving Repr, DecidableEq

namespace Run

def contains (r : Run) (n : Nat) : Bool :=
  r.first ≤ n && n ≤ r.last && (n - r.first) % r.step == 0

def image (r : Run) (n : Nat) : Char := Char.ofNat (n + r.offset).toNat

/-- Image of `n` under the first run that maps it. -/
def lookup (runs : List Run) (n : Nat) : Option Char :=
  (runs.find? (·.contains n)).map (·.image n)

end Run

/-! ## White space -/

/-- Code points with the property White_Space. -/
def blankRanges : List (Nat × Nat) :=
  [(9, 0xD), (0x20, 0x20), (0x85, 0x85), (0xA0, 0xA0), (0x1680, 0x1680), (0x2000, 0x200A),
   (0x2028, 0x2029), (0x202F, 0x202F), (0x205F, 0x205F), (0x3000, 0x3000)]

def isBlank (c : Char) : Bool := inRanges blankRanges c.toNat

def trimStart (s : List Char) : List Char := s.dropWhile isBlank

def trimEnd (s : List Char) : List Char := (s.reverse.dropWhile isBlank).reverse

def trim (s : List Char) : List Char := trimEnd (trimStart s)

/-- Nothing but white space. -/
def isBlankText (s : String) : Bool := s.toList.all isBlank

/-! ## Lines -/

/-- Drops one carriage return at the end. -/
def dropReturn (line : List Char) : List Char :=
  if line.getLast? = some '\r' then line.dropLast else line

/-- Lines from the pieces between line feeds. -/
def linesOfPieces : List (List Char) → List (List Char)
  | [] => []
  | [last] => if last.isEmpty then [] else [last]
  | piece :: pieces => dropReturn piece :: linesOfPieces pieces

/-- Lines of a text, without their ends. -/
def lines (s : List Char) : List (List Char) := linesOfPieces (s.splitOn '\n')

/-- First line with something on it, trimmed. -/
def firstLine (s : List Char) : Option (List Char) :=
  ((lines s).map trim).find? (!·.isEmpty)

/-- Lines joined by single line feeds. -/
def joinLines (ls : List (List Char)) : List Char := ['\n'].intercalate ls

/-- Text before and after the first `sep`. -/
def splitOnce (sep : Char) (s : List Char) : Option (List Char × List Char) :=
  match s.dropWhile (· != sep) with
  | [] => none
  | _ :: rest => some (s.takeWhile (· != sep), rest)

/-- Drops the character `c` at the end, as often as it stands there. -/
def dropTrailing (c : Char) (s : List Char) : List Char := (s.reverse.dropWhile (· == c)).reverse

def squeeze (s : String) : String := String.ofList (s.toList.filter (· != ' '))

end Toolbox.Text
