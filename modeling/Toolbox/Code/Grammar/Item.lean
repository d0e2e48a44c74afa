import Toolbox.Code.Grammar.Statement

/-!
# Declarations

The rules for what can be declared in a block.  Declarations that lack a part, or that have one that
is not settled yet, stay as they are written; the rules for them tell whether that is so.
-/

namespace Toolbox.Grammar

open Reader Token

variable (g : Grammar)

/-! ## Functions -/

def receiver : Reader Unit := do
  let isBorrowed ← marks? ['&']
  if isBorrowed then discard lifetime?
  discard <| word? "mut"
  word "self"
  if !isBorrowed && (← marks? [':']) then discard <| g.type true

/-- What a parameter of a function is. -/
inductive ParamForm where
  | receiver
  | typed
  /-- any number of further parameters -/
  | rest
  deriving DecidableEq, Repr

/-- A parameter of a function.  One that is only a type gets an empty pattern. -/
def functionParam : Reader ParamForm := do
  g.outerAttributes
  if ← marks? ['.', '.', '.'] then return .rest
  if (← attempt g.receiver).isSome then return .receiver
  if ← sees fun ts => next isName ts && startWith ['<'] (skip ts) then
    write [.word "_", .mark ':']
  else
    discard g.pattern
    marks [':']
    if ← marks? ['.', '.', '.'] then return .rest
  discard <| g.type true
  return .typed

/-- Parameters of a function.  Only the first one can be a receiver, and only the last one can stand
for further ones. -/
def functionParams : Reader Unit := do
  go ((← ahead).length + 1) none
where
  go : Nat → Option ParamForm → Reader Unit
    | 0, _ => pure ()
    | n + 1, first? => do
      if ← atEnd then return
      let form ← g.functionParam
      match first?, form with
      | some .receiver, .receiver => throw (.refused "unexpected second method receiver" false)
      | some _, .receiver => throw (.refused "unexpected method receiver" false)
      | _, _ => pure ()
      if ← atEnd then return
      marks [',']
      unless form == .rest do go n (first?.or (some form))

/-- Whether a function begins here; `safe` allows it to be marked as safe. -/
def beginsFunction (safe : Bool) (ts : List Token) : Bool :=
  let without (w : String) (ts : List Token) : List Token :=
    if next (·.isWord w) ts then ts.drop 1 else ts
  let ts := without "async" (without "const" ts)
  let ts := if safe && next (·.isWord "safe") ts then ts.drop 1 else without "unsafe" ts
  let ts := match ts with
    | .word "extern" :: .text .. :: ts | .word "extern" :: ts => ts
    | ts => ts
  next (·.isWord "fn") ts

/-- All of a function but its body; whether it is marked as safe. -/
def functionHead (safe : Bool) : Reader Bool := do
  for w in ["const", "async"] do discard <| word? w
  let isUnsafe ← word? "unsafe"
  let isSafe ← if safe && !isUnsafe then word? "safe" else pure false
  callConvention?
  word "fn"
  discard identifier
  discard g.genericParams
  bracketed '(' g.functionParams
  discard <| g.result true
  discard g.constraints
  return isSafe

/-- A function; without a body it stays as it is written. -/
def function : Reader Bool := do
  discard <| g.functionHead false
  if ← marks? [';'] then return true
  g.attributedBlock
  return false

/-! ## Types -/

/-- A field with a name.  One without a name can have a type of fields in its place. -/
def namedField : Reader Unit := do
  g.outerAttributes
  discard visibility
  let isUnnamed ← seesWord "_"
  if isUnnamed then take else discard identifier
  marks [':']
  let beginsFields (ts : List Token) : Bool := next (·.isWord "struct") ts
    || (next (·.isWord "union") ts && next (·.isMark '\x7b') (skip ts))
  if isUnnamed && (← sees beginsFields) then
    asWrittenIf (fun _ => true) do
      take
      g.fields
  else discard <| g.type true

def unnamedField : Reader Unit := do
  g.outerAttributes
  discard visibility
  discard <| g.type true

/-- Fields in braces. -/
def fieldsRule : Reader Unit := bracketed '\x7b' (commas g.namedField)

/-- Fields in parentheses. -/
def unnamedFields : Reader Unit := bracketed '(' (commas g.unnamedField)

def structItem : Reader Unit := do
  word "struct"
  discard identifier
  discard g.genericParams
  let isConstrained ← g.constraints
  if !isConstrained && (← seesMark '(') then
    g.unnamedFields
    let isConstrained ← g.constraints
    unless ← marks? [';'] do failExpected ((if isConstrained then [] else ["`where`"]) ++ ["`;`"])
  else if ← seesMark '\x7b' then g.fields
  else unless ← marks? [';'] do
    failExpected
      ((if isConstrained then [] else ["`where`", "parentheses"]) ++ ["curly braces", "`;`"])

/-- A variant.  Who may use it is not written. -/
def variant : Reader Unit := do
  g.outerAttributes
  discard <| aside visibility
  discard identifier
  if ← seesMark '\x7b' then g.fields
  else if ← seesMark '(' then g.unnamedFields
  if ← marks? ['='] then discard <| g.expression true

def enumeration : Reader Unit := do
  word "enum"
  discard identifier
  discard g.genericParams
  discard g.constraints
  bracketed '\x7b' (commas g.variant)

/-- A type whose fields share their place. -/
def union : Reader Unit := do
  word "union"
  discard identifier
  discard g.genericParams
  discard g.constraints
  g.fields

/-- Where the constraints of another name for a type stand. -/
inductive ConstraintPlace where
  | beforeType
  | afterType
  | anywhere
  deriving DecidableEq, Repr

/-- Another name for a type; whether bounds are asked for, and whether there is a type. -/
def typeAlias (place : ConstraintPlace) : Reader (Bool × Bool) := do
  word "type"
  discard identifier
  discard g.genericParams
  let isBounded ← optionalBounds <| separated ['+']
    (return !(← sees fun ts =>
      next (·.isWord "where") ts || startWith ['='] ts || startWith [';'] ts))
    (discard (g.bound false true))
  let isConstrained ← if place != .afterType then g.constraints else pure false
  let hasType ← marks? ['=']
  if hasType then discard <| g.type true
  unless isConstrained || place == .beforeType do discard g.constraints
  marks [';']
  return (isBounded, hasType)

/-! ## Values -/

/-- A constant; whether it has parameters or constraints, and whether it has a value. -/
def constant (faults : List String) : Reader (Bool × Bool) := do
  word "const"
  nameOrUnderscore faults
  let isGeneric ← g.genericParams
  marks [':']
  discard <| g.type true
  let hasValue ← marks? ['=']
  if hasValue then discard <| g.expression true
  let isConstrained ← g.constraints
  marks [';']
  return (isGeneric || isConstrained, hasValue)

/-- A place that lasts; without a type or a value it stays as it is written. -/
def lasting : Reader Bool := do
  word "static"
  discard <| word? "mut"
  discard identifier
  let hasType ← marks? [':']
  if hasType then discard <| g.type true
  if hasType && (← marks? [';']) then return true
  unless hasType || (← seesMarks ['=']) do throw (.expectedMarks [':'])
  marks ['=']
  discard <| g.expression true
  marks [';']
  return !hasType

/-! ## Calls that are expanded -/

/-- Whether a call that is expanded to declarations begins here. -/
def beginsInvocation (ts : List Token) : Bool :=
  next (fun t => t.isName || t.isWord "self" || t.isWord "super" || t.isWord "crate") ts
    || startWith [':', ':'] ts

/-- What a call that is expanded to declarations can begin with. -/
def invocationStarts : List String := ["identifier", "`self`", "`super`", "`crate`", "`::`"]

/-- A call that is expanded to declarations, perhaps with the name of what it declares. -/
def itemInvocation (named : Bool) : Reader Unit := do
  plainPath
  marks ['!']
  if named && (← sees (next fun t => t.isName || t.isWord "try")) then take
  let braced ← invocationArguments
  unless braced do marks [';']

/-! ## Members -/

/-- A call that is expanded to members, if `plain`; or nothing that a member can begin with. -/
def memberInvocation (plain : Bool) (starts : List String) : Reader Bool := do
  unless plain && (← sees beginsInvocation) do
    failExpected (starts ++ if plain then invocationStarts else [])
  itemInvocation false
  return false

def members (member : Reader Bool) : Reader Unit :=
  bracketed '\x7b' do
    g.innerAttributes
    all (discard (asWrittenIf id member))

/-- A declaration of what is defined elsewhere. -/
def foreignItem : Reader Bool := do
  g.outerAttributes
  let isPublic ← visibility
  let ts ← ahead
  let isMarked (t : Token) : Bool := t.isWord "unsafe" || t.isWord "safe"
  if beginsFunction true ts then
    let isSafe ← g.functionHead true
    if ← seesMark '\x7b' then
      g.attributedBlock
      return true
    marks [';']
    return isSafe
  else if next (·.isWord "static") (if next isMarked ts then skip ts else ts) then
    if next isMarked ts then take
    word "static"
    discard <| word? "mut"
    discard identifier
    marks [':']
    discard <| g.type true
    let hasValue ← marks? ['=']
    if hasValue then discard <| g.expression true
    marks [';']
    return next isMarked ts || hasValue
  else if next (·.isWord "type") ts then
    let (isBounded, hasType) ← g.typeAlias .anywhere
    return isBounded || hasType
  else memberInvocation (!isPublic) ["`fn`", "`static`", "`type`"]

def implementedItem : Reader Bool := do
  g.outerAttributes
  let isPublic ← visibility
  let isDefault ← sees fun ts => next (·.isWord "default") ts && !startWith ['!'] (skip ts)
  if isDefault then take
  let ts ← ahead
  if beginsFunction false ts then g.function
  else if next (·.isWord "const") ts then
    let (isGeneric, hasValue) ← g.constant ["identifier", "`_`"]
    return isGeneric || !hasValue
  else if next (·.isWord "type") ts then
    let (isBounded, hasType) ← g.typeAlias .afterType
    return isBounded || !hasType
  else
    memberInvocation (!isPublic && !isDefault)
      ((if isDefault then [] else ["`default`"]) ++ ["`fn`", "`const`", "`type`"])

/-- A member of a trait. -/
def traitItem : Reader Bool := do
  g.outerAttributes
  let isPublic ← visibility
  let isDefault ← word? "default"
  let ts ← ahead
  let isVerbatim ← do
    if beginsFunction false ts then
      discard <| g.functionHead false
      if ← seesMark '\x7b' then g.attributedBlock
      else unless ← marks? [';'] do failExpected ["curly braces", "`;`"]
      pure false
    else if next (·.isWord "const") ts then
      let (isGeneric, _) ←
        g.constant ["identifier", "`_`", "`async`", "`unsafe`", "`extern`", "`fn`"]
      pure isGeneric
    else if next (·.isWord "type") ts then
      discard <| g.typeAlias .afterType
      pure false
    else memberInvocation (!isPublic && !isDefault) ["`fn`", "`const`", "`type`"]
  return isPublic || isDefault || isVerbatim

/-! ## Traits -/

/-- Bounds with a plus between them, up to where `ends` says that they end. -/
def boundsUntil (constant : Bool) (ends : List Token → Bool) : Reader Unit :=
  separated ['+'] (return !(← sees ends)) (discard (g.bound false constant))

/-- What follows the name and the parameters of a trait. -/
def traitBody : Reader Unit := do
  discard <| optionalBounds
    (g.boundsUntil true (next fun t => t.isWord "where" || t.isMark '\x7b'))
  discard g.constraints
  g.members g.traitItem

/-- The name and the parameters of a trait. -/
def traitHead : Reader Unit := do
  word "trait"
  discard identifier
  discard g.genericParams

def markedTrait : Reader Unit := do
  discard <| word? "unsafe"
  discard <| word? "auto"
  g.traitHead
  g.traitBody

def trait : Reader Unit := do
  g.traitHead
  let ts ← ahead
  if next (fun t => t.isMark '\x7b' || t.isWord "where") ts || startWith [':'] ts then g.traitBody
  else if ← marks? ['='] then
    g.boundsUntil false (fun ts => next (·.isWord "where") ts || startWith [';'] ts)
    discard g.constraints
    marks [';']
  else failExpected ["curly braces", "`:`", "`where`", "`=`"]

/-- An implementation.  It stays as it is written if it asks for constant evaluation, or if what it
implements is no path. -/
def implementation : Reader Bool := do
  discard <| word? "default"
  discard <| word? "unsafe"
  word "impl"
  if ← sees beginsParams then discard g.genericParams
  let isMaybe ← sees fun ts => startWith ['?'] ts && next (·.isWord "const") (skip ts)
  if isMaybe then take
  let isConstant ← word? "const"
  let isNegative ← sees fun ts => startWith ['!'] ts && !next (·.isMark '\x7b') (skip ts)
  if isNegative then take
  let implemented ← g.type true
  let isFor ← word? "for"
  if isFor then discard <| g.type true
  else if isNegative then throw (.refused "inherent impls cannot be negative" false)
  discard g.constraints
  g.members g.implementedItem
  return isConstant || (isFor && implemented.form != .path)

/-! ## Modules -/

/-- Names that are brought into scope. -/
def useTreeRule (rooted : Bool) : Reader Unit := do
  let isStart (t : Token) : Bool := t.isName || t.isWord "self" || t.isWord "super"
    || t.isWord "crate" || t.isWord "try"
  if ← sees (next isStart) then
    take
    if ← marks? [':', ':'] then g.useTree false
    else if ← word? "as" then
      unless ← sees (next fun t => t.isName || t.isWord "_") do
        refuse "expected identifier or underscore"
      take
  else if ← marks? ['*'] then return
  else if ← seesMark '\x7b' then
    bracketed '\x7b' do
      commas do
        let isRoot ← if rooted then marks? [':', ':'] else pure false
        g.useTree (rooted && !isRoot)
  else
    failExpected ["identifier", "`self`", "`super`", "`crate`", "`try`", "`*`", "curly braces"]

/-- A declaration that names are brought into scope. -/
def use : Reader Unit := do
  word "use"
  let isRoot ← marks? [':', ':']
  g.useTree (!isRoot)
  marks [';']

def moduleItem : Reader Unit := do
  discard <| word? "unsafe"
  word "mod"
  if ← seesWord "try" then take else discard identifier
  unless ← marks? [';'] do
    unless ← seesMark '\x7b' do failExpected ["`;`", "curly braces"]
    bracketed '\x7b' do
      g.innerAttributes
      all g.item

/-- Declarations of what is defined elsewhere. -/
def foreign : Reader Unit := do
  discard <| word? "unsafe"
  callConvention?
  g.members g.foreignItem

/-- A crate that is brought into scope. -/
def externCrate : Reader Unit := do
  word "extern"
  word "crate"
  if ← seesWord "self" then take else discard identifier
  if ← word? "as" then
    if ← seesWord "_" then take else discard identifier
  marks [';']

/-- A declaration that begins with the word for what is defined elsewhere. -/
def external (isPublic : Bool) : Reader Unit := do
  let behind := (← ahead).drop 1
  let rest := if beginsText behind then behind.drop 1 else behind
  if next (·.isWord "crate") behind then externCrate
  else if !next (·.isMark '\x7b') rest then
    let starts := if beginsText behind then [] else ["`crate`"]
    let others := if beginsText behind then [] else ["string literal"]
    throw (.expected (starts ++ ["curly braces"] ++ others) (isEnd rest))
  else if isPublic then throw (.expected ["`extern`"] false)
  else g.foreign

def expansionRules : Reader Unit := do
  take
  discard identifier
  let hasParams ← seesMark '('
  if hasParams then brackets
  unless ← seesMark '\x7b' do
    failExpected ((if hasParams then [] else ["parentheses"]) ++ ["curly braces"])
  brackets

/-! ## Rules -/

/-- What a declaration can begin with. -/
def itemStarts : List String :=
  ["`fn`", "`extern`", "`use`", "`static`", "`const`", "`unsafe`", "`mod`", "`type`", "`struct`",
   "`enum`", "`union`", "`trait`", "`auto`", "`impl`", "`default`", "`macro`"]

/-- A declaration with its attributes; whether it stays as it is written. -/
def declaration : Reader Bool := do
  g.outerAttributes
  let isPublic ← visibility
  let ts ← ahead
  let behind := skip ts
  let word (w : String) : Bool := next (·.isWord w) ts
  let second (w : String) : Bool := next (·.isWord w) behind
  let settled (r : Reader Unit) : Reader Bool := do
    r
    return false
  if beginsFunction false ts then g.function
  else if word "extern" then settled (g.external isPublic)
  else if word "use" then settled g.use
  else if word "static" then g.lasting
  else if word "const" then
    let (isGeneric, hasValue) ← g.constant ["identifier", "`_`"]
    return isGeneric || !hasValue
  else if word "unsafe" then
    if second "trait" || (second "auto" && next (·.isWord "trait") (skip behind)) then
      settled g.markedTrait
    else if second "impl" then return (← g.implementation) || isPublic
    else if second "extern" then
      if isPublic then throw (.expected ["`extern`"] false)
      settled g.foreign
    else if second "mod" then settled g.moduleItem
    else throw (.expected ["`trait`", "`auto`", "`impl`", "`extern`", "`mod`"] (isEnd behind))
  else if word "mod" then settled g.moduleItem
  else if word "type" then
    let (isBounded, hasType) ← g.typeAlias .beforeType
    return isBounded || !hasType
  else if word "struct" then settled g.structItem
  else if word "enum" then settled g.enumeration
  else if word "union" && next isName behind then settled g.union
  else if word "trait" then settled g.trait
  else if word "auto" && second "trait" then settled g.markedTrait
  else if word "impl" || (word "default" && !startWith ['!'] behind) then
    return (← g.implementation) || isPublic
  else if word "macro" then
    expansionRules
    return true
  else if !isPublic && beginsInvocation ts then settled (itemInvocation true)
  else failExpected (itemStarts ++ if isPublic then [] else invocationStarts)

/-- A declaration with its attributes. -/
def itemRule : Reader Unit := discard <| asWrittenIf id g.declaration

end Toolbox.Grammar
