import Toolbox.Code.Grammar

/-!
# Attributes

An attribute is a path that stands alone, or with a value, or with a list of items in brackets.  An
item is a key that stands alone, or with a value, or with a list of further items.  How far a value
reaches depends on what is wanted for its key, so items are read from tokens, in turn, into a record
of what has been found; the first item that is at fault ends the attribute, but what was found
before it stays found.
-/

namespace Toolbox

/-- One item of an attribute, as it is written. -/
inductive AttributeItem where
  /-- `key` -/
  | bare (key : List Token)
  /-- `key = source` -/
  | value (key source : List Token)
  /-- `key(items)` -/
  | list (key : List Token) (items : List AttributeItem)

namespace AttributeItem

mutual

def tokens : AttributeItem → List Token
  | bare key => key
  | value key source => key ++ [.mark '='] ++ source
  | list key items => key ++ [.mark '('] ++ listTokens items ++ [.mark ')']

def listTokens : List AttributeItem → List Token
  | [] => []
  | [i] => tokens i
  | i :: is => tokens i ++ [.mark ','] ++ listTokens is

end

def ofText (key text : String) : AttributeItem := .value [.word key] [.ofText text]

def ofSource (key source : String) : AttributeItem := .value [.word key] (Token.scan source)

end AttributeItem

/-- An expression as it is written. -/
structure WrittenExpression where
  form : ExprForm
  tokens : List Token
  deriving DecidableEq, Repr

/-- What stands in an attribute behind its path. -/
inductive AttributeForm where
  /-- `#[path]` -/
  | bare
  /-- `#[path(items)]` -/
  | list (items : List AttributeItem)
  /-- `#[path = expression]` -/
  | value (expression : WrittenExpression)

structure Attribute where
  path : NamePath
  form : AttributeForm := .bare

namespace Attribute

/-- Whether the path of the attribute is the word `w` by itself. -/
def isNamed (w : String) (a : Attribute) : Bool := a.path == .ofWord w

theorem isNamed_iff {w : String} {a : Attribute} : a.isNamed w = true ↔ a.path = { name := w } :=
  beq_iff_eq

def ofItems (w : String) (items : List AttributeItem) : Attribute where
  path := .ofWord w
  form := .list items

/-- The attribute `#[doc = "text"]`. -/
def doc (text : String) : Attribute where
  path := .ofWord "doc"
  form := .value ⟨.text text, [.ofText text]⟩

/-- A comment: one attribute for each line, which stands behind a space unless it is empty. -/
def ofLines (comment : List String) : List Attribute :=
  comment.map fun line => doc (if line.isEmpty then "" else " " ++ line)

end Attribute

/-- What is wrong with an attribute. -/
inductive AttributeFault where
  /-- its tokens cannot be read -/
  | ofSyntax (fault : SyntaxFault)
  /-- items are wanted, but nothing stands behind the path -/
  | missingItems (path : NamePath)
  /-- items are wanted, but a value stands behind the path -/
  | missingBrackets (path : NamePath)
  | missingDeserialize
  | duplicateProperty
  | unknownToolProperty
  | unknownParamProperty
  deriving DecidableEq, Repr

def AttributeFault.message : AttributeFault → String
  | ofSyntax fault => fault.message
  | missingItems path =>
    s!"expected attribute arguments in parentheses: #[{Token.squeezed path.tokens}(...)]"
  | missingBrackets path => s!"expected parentheses: #[{Token.squeezed path.tokens}(...)]"
  | missingDeserialize => "expected `deserialize = \"...\"`"
  | duplicateProperty => "duplicate tool property"
  | unknownToolProperty =>
    "unsupported tool property; expected one of `description`, `name`, `category`, `version`, "
      ++ "`enabled`, `auto_schema`, `auto_register`, `parameters`"
  | unknownParamProperty => "unsupported param property; expected `default` or `description`"

/-- Reading of the items of an attribute. -/
abbrev AttributeReader := StateT Source (Except AttributeFault)

instance : MonadLift Reader AttributeReader :=
  ⟨fun r s => (r s).mapError .ofSyntax⟩

namespace AttributeReader

open Reader

variable {σ α : Type}

def key : Reader NamePath := do
  let (_, start) ← noted (marks? [':', ':'])
  let ts ← ahead
  unless Token.next (fun | .word _ => true
                         | _ => false) ts do
    if ← atEnd then refuse "expected nested attribute"
    else if Token.startWithLiteral ts then
      refuse "unexpected literal in nested attribute, expected ident"
    else refuse "unexpected token in nested attribute, expected ident"
  go ts.length start
where
  /-- The names of the key, behind what stands before them. -/
  go : Nat → List Token → Reader NamePath
    | 0, _ => failExpected ["ident"]
    | n + 1, scope => do
      let name ← anyWord
      if ← marks? [':', ':'] then go n (scope ++ [.word name] ++ NamePath.separator)
      else return { scope, name }

/-- A value behind its key. -/
def value (read : Reader α) : Reader α := do
  marks ['=']
  read

/-- The value of a key that may be given only once. -/
def valueOnce (found : Option α) (read : Reader α) : AttributeReader α := do
  if found.isSome then throw .duplicateProperty
  value read

/-- Whether another item follows. -/
def goesOn : Reader Bool := do
  if ← atEnd then return false
  marks [',']
  return !(← atEnd)

/-- Reads items in turn into a record; `item` reads what stands behind a key. -/
def items (item : NamePath → σ → AttributeReader σ) : Nat → σ → Source → σ × Option AttributeFault
  | 0, found, _ => (found, none)
  | n + 1, found, s =>
    let one : AttributeReader σ := do item (← key) found
    match one s with
    | .error fault => (found, some fault)
    | .ok (found, s) =>
      match goesOn s with
      | .error fault => (found, some (.ofSyntax fault))
      | .ok (true, s) => items item n found s
      | .ok (false, s) => (found, s.unread.map fun bracket => .ofSyntax (.expectedClosing bracket))

/-- Reads the items of a list into a record. -/
def read (item : NamePath → σ → AttributeReader σ) (found : σ) (list : List AttributeItem) :
    σ × Option AttributeFault :=
  let ts := AttributeItem.listTokens list
  if ts.isEmpty then (found, none) else items item (ts.length + 1) found { ahead := ts }

/-- Reads an attribute into a record; it must have a list of items. -/
def readAttribute (item : NamePath → σ → AttributeReader σ) (found : σ) (a : Attribute) :
    σ × Option AttributeFault :=
  match a.form with
  | .bare => (found, some (.missingItems a.path))
  | .value _ => (found, some (.missingBrackets a.path))
  | .list items => read item found items

end AttributeReader

end Toolbox
