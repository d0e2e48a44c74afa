import Toolbox.Dict
import Toolbox.Text.Basic
import Toolbox.Text.Alphabetic
import Toolbox.Text.Case

/-!
# Doc comments

The summary and the parameter descriptions found in free documentation text.  A boundary line
opens or closes a section; in a section of parameters, lines such as these are entries:

    location: City name.
    unit (text): Temperature unit.
    * `location` - City name.

The first entry for a name counts.  Whatever is not recognised is passed over.
-/

namespace Toolbox

open Text

/-- Summary and parameter descriptions of a callable. -/
structure DocComment where
  summary : Option String := none
  parameters : Dict String := ∅
  deriving DecidableEq

namespace DocComment

/-- Titles of the sections that describe parameters, in lower case. -/
def sectionLabels : List (List Char) :=
  ["args".toList, "arguments".toList, "parameters".toList, "params".toList]

/-- Whether a title, in any ASCII case, names a section of parameters. -/
def isLabel (title : List Char) : Bool := sectionLabels.contains (asciiLower title)

/-- Whether a line is a boundary, and if so whether it opens a section of parameters.  Headings
are boundaries, and so are lines ending in a colon that start in the first column or hold one of
the labels. -/
def boundary? (line : List Char) : Option Bool :=
  match trim line with
  | '#' :: heading => some (isLabel (dropTrailing ':' (trim (heading.dropWhile (· == '#')))))
  | text =>
    if text.getLast? = some ':' then
      if isLabel (trim text.dropLast) then some true
      else if (line.head?.map isBlank).getD false then none
      else some false
    else none

/-- An entry, provided it describes something. -/
def describe? (name description : List Char) : Option (String × String) :=
  if description.isEmpty then none else some (String.ofList name, String.ofList description)

/-- Name and description of a trimmed line that is an entry.  Bullets are dropped; a name stands
in back quotes, or before a colon or a type in parentheses. -/
def entry? (line : List Char) : Option (String × String) :=
  match trimStart (line.dropWhile fun c => c == '*' || c == '-' || c == '+') with
  | '\x60' :: rest => do
    let (name, tail) ← splitOnce '\x60' rest
    if isIdentifier name then
      describe? name (trim ((trimStart tail).dropWhile fun c => c == ':' || c == '-'))
    else none
  | text =>
    let name := text.takeWhile isIdentifierChar
    let rest := text.dropWhile isIdentifierChar
    if isIdentifier name && (rest.head? == some ':' || (trimStart rest).head? == some '(') then do
      let (_, description) ← splitOnce ':' rest
      describe? name (trim description)
    else none

/-- Entries of the lines; `inside` tells whether a section of parameters is open. -/
def entries (inside : Bool) : List (List Char) → List (String × String)
  | [] => []
  | line :: lines =>
    if (trim line).isEmpty then entries inside lines
    else
      match boundary? line with
      | some opening => entries opening lines
      | none =>
        match inside, entry? (trim line) with
        | true, some entry => entry :: entries inside lines
        | _, _ => entries inside lines

def parse (doc : String) : DocComment where
  summary := (firstLine doc.toList).map String.ofList
  parameters := Dict.ofList (entries false (lines doc.toList)).reverse

def param (d : DocComment) (name : String) : Option String := d.parameters.find? name

end DocComment

end Toolbox
