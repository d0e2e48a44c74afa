import Toolbox.Text.Case

/-!
# Rename rules

Rules by which the variants of an enumeration, written in `PascalCase`, are named in JSON.  Words
start at uppercase letters.
-/

namespace Toolbox

inductive RenameRule where
  | lower
  | upper
  | pascal
  | camel
  | snake
  | screamingSnake
  | kebab
  | screamingKebab
  deriving DecidableEq, Repr

namespace RenameRule

open Text

def ofName? : String → Option RenameRule
  | "lowercase" => some lower
  | "UPPERCASE" => some upper
  | "PascalCase" => some pascal
  | "camelCase" => some camel
  | "snake_case" => some snake
  | "SCREAMING_SNAKE_CASE" => some screamingSnake
  | "kebab-case" => some kebab
  | "SCREAMING-KEBAB-CASE" => some screamingKebab
  | _ => none

/-- A character in lower case, after an underscore if a word starts with it. -/
def snakeChar (c : Char) : List Char := if isUppercase c then '_' :: toLower c else toLower c

/-- Words in lower case with underscores between them; none stands before the first character. -/
def toSnake : List Char → List Char
  | [] => []
  | c :: cs => toLower c ++ cs.flatMap snakeChar

/-- Text with dashes for underscores. -/
def dashed (s : List Char) : List Char := s.map fun c => if c = '_' then '-' else c

def apply (rule : RenameRule) (variant : List Char) : List Char :=
  match rule with
  | lower => asciiLower variant
  | upper => asciiUpper variant
  | pascal => variant
  | camel =>
    match variant with
    | [] => []
    | c :: cs => toLower c ++ cs
  | snake => toSnake variant
  | screamingSnake => asciiUpper (toSnake variant)
  | kebab => dashed (toSnake variant)
  | screamingKebab => dashed (asciiUpper (toSnake variant))

end RenameRule

end Toolbox
