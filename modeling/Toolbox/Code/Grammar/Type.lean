import Toolbox.Code.Grammar.Generics

/-!
# Types

The rules for types and their bounds.
-/

namespace Toolbox.Grammar

open Reader Token

variable (g : Grammar)

/-! ## Bounds -/

/-- Whether constant evaluation is asked for, and always so or only in a constant context. -/
def constness (constant : Bool) : Reader Bool := do
  if ← seesMark '[' then
    bracketed '[' (word "const")
    unless constant do throw (.refused "`[const]` is not allowed here" false)
    return true
  else if ← word? "const" then
    unless constant do throw (.refused "`const` is not allowed here" false)
    return true
  else return false

/-- A trait as a bound; whether it stays as it is written. -/
def traitBound (constant : Bool) : Reader Bool := do
  let isBinder ← g.binder?
  let isConstant ← constness constant
  let isMaybe ← marks? ['?']
  let isBinder ← if isMaybe && !isBinder then g.binder? else pure isBinder
  g.boundPath
  if isBinder && isMaybe then
    throw (.refused "`for<...>` binder not allowed with `?` trait polarity modifier" false)
  return isConstant

/-- A lifetime or a name that a type captures; whether it is a lifetime. -/
def captured : Reader Bool := do
  if ← sees startWithLifetime then
    discard lifetime
    return true
  else if ← sees (next fun t => t.isName || t.isWord "Self") then
    take
    return false
  else failExpected ["lifetime", "identifier", "`>`"]

/-- What a type captures. -/
def captures : Reader Unit := do
  word "use"
  let ((list, comma), _) ← aside do
    marks ['<']
    let list ← gathered (untilMark '>') (noted captured)
    marks ['>']
    return list
  write (inBrackets comma list)

def boundRule (capturing constant : Bool) : Reader BoundForm := do
  if ← sees startWithLifetime then
    discard lifetime
    return .lifetime
  else if ← seesWord "use" then
    captures
    unless capturing do
      throw (.refused "`use<...>` precise capturing syntax is not allowed here" false)
    return .captures
  else
    discard <| asWrittenIf id do
      if ← seesMark '(' then bracketed '(' (g.traitBound constant) else g.traitBound constant
    return .trait

def seesBound (constant : Bool) : Reader Bool :=
  sees fun ts => next (fun | .word _ => true
                           | t => t.isMark '(' || (constant && t.isMark '[')) ts
    || startWith [':', ':'] ts || startWith ['?'] ts || startWithLifetime ts

/-- More bounds behind a first one, each after a plus; the last plus may stand alone. -/
def moreBounds (capturing constant : Bool) : Reader (List BoundForm) :=
  collected do
    unless ← marks? ['+'] do return none
    unless ← seesBound constant do return none
    return some (← g.bound capturing constant)

/-- More bounds behind a first one, each after a plus. -/
def strictBounds : Reader Unit :=
  repeated do
    unless ← marks? ['+'] do return false
    discard <| g.bound false false
    return true

/-- Bounds, at least one of which is a trait; only the first one unless `plus` allows more. -/
def bounds (plus capturing constant : Bool) (fault : String) : Reader Unit := do
  let first ← g.bound capturing constant
  let more ← if plus then g.moreBounds capturing constant else pure []
  unless (first :: more).contains .trait do throw (.refused fault false)

/-- Wording for objects without a trait. -/
def noTraitFault : String := "at least one trait is required for an object type"

/-! ## Functions -/

/-- Whether the rest of the inputs of a function type comes next. -/
def beginsRest (ts : List Token) : Bool :=
  let rest := ['.', '.', '.']
  startWith rest ts || (next (fun t => t.isName || t.isWord "_") ts && startWith [':'] (skip ts)
    && startWith rest (skip (skip ts)))

def restOfInputs : Reader Unit := do
  if ← sees (next fun t => t.isName || t.isWord "_") then
    take
    marks [':']
  marks ['.', '.', '.']
  discard <| marks? [',']

/-- An input of a function type.  The first one can be a receiver; if that is mutable, it stays as
it is written. -/
def functionInput (isFirst : Bool) : Reader Unit := discard <| asWrittenIf id do
  let beginsReceiver (ts : List Token) : Bool :=
    isFirst && next (·.isWord "mut") ts && next (·.isWord "self") (skip ts)
  let isMut ← sees beginsReceiver
  if isMut then take
  let isNamed (ts : List Token) : Bool :=
    next (fun t => t.isName || t.isWord "_" || (isFirst && t.isWord "self")) ts
      && startWith [':'] (skip ts) && !startWith [':', ':'] (skip ts)
  let isSelf ← sees fun ts => isNamed ts && next (·.isWord "self") ts
  let isNamed ← sees isNamed
  if isNamed then
    take
    marks [':']
  if !isSelf && (← sees beginsReceiver) then
    takeMany 2
    return true
  else if isMut && !isNamed then
    word "self"
    return true
  else
    discard <| g.type true
    return isMut

def functionInputs : Reader Unit := do
  go ((← ahead).length + 1) true
where
  go : Nat → Bool → Reader Unit
    | 0, _ => pure ()
    | n + 1, isFirst => do
      if ← atEnd then return
      g.outerAttributes
      if ← sees beginsRest then restOfInputs
      else
        g.functionInput isFirst
        if ← atEnd then return
        marks [',']
        go n false

/-- Whether a function type begins here, behind what it holds for. -/
def beginsFunctionType (ts : List Token) : Bool :=
  next (fun t => t.isWord "fn" || t.isWord "unsafe" || t.isWord "extern") ts

def functionType : Reader Unit := do
  discard <| word? "unsafe"
  callConvention?
  word "fn"
  bracketed '(' g.functionInputs
  discard <| g.result false

/-! ## Rules -/

/-- A type that is only known as what has been written. -/
def otherType (r : Reader Unit) : Reader ReadType := return { type := .other (← noted r).2 }

/-- Whether bounds with a plus between them follow. -/
def seesPlus (plus : Bool) : Reader Bool := do if plus then seesMarks ['+'] else return false

/-- What stands in the parentheses of a type. -/
inductive Parenthesized where
  | nothing
  | type (inner : ReadType)
  /-- bounds of which the first is a lifetime -/
  | bounds (written : List Token)
  /-- a bound that is no type -/
  | bound (written : List Token)
  | types

/-- A type that starts with a parenthesis.  What stands in parentheses alone is a type in
parentheses, or a bound if more bounds follow. -/
def parenthesizedType (plus : Bool) : Reader ReadType := do
  let (content, ts) ← aside do
    bracketed '(' do
      if ← atEnd then return Parenthesized.nothing
      if ← sees startWithLifetime then
        return .bounds (← noted (g.bounds true false false noTraitFault)).2
      if ← seesMarks ['?'] then return .bound (← noted (g.traitBound false)).2
      let t ← g.type true
      unless ← marks? [','] do return .type t
      commas (discard (g.type true))
      return .types
  let inParens (bound : List Token) : List Token := [.mark '('] ++ bound ++ [.mark ')']
  let withMore (bound : List Token) : Reader ReadType := otherType do
    write (inParens bound)
    g.strictBounds
  let bound? : Option (List Token) := match content with
    | .type { form := .path, type } => some type.tokens
    | .type { form := .object bound, .. } => some bound
    | _ => none
  match content, bound? with
  | .bound bound, _ =>
    let isSingle := !(← seesMarks ['+'])
    return { ← withMore bound with form := if isSingle then .object bound else .other }
  | .type inner, bound? =>
    if ← seesPlus plus then
      if let some bound := bound? then return ← withMore bound
    write ts
    return { type := .paren inner.type }
  | .nothing, _ =>
    write ts
    return { type := .unit }
  | .bounds written, _ =>
    write ts
    return { type := .paren (.other written) }
  | .types, _ =>
    write ts
    return { type := .other ts }

def namedType (plus : Bool) : Reader ReadType := do
  let ((p, t), ts) ← aside g.typePath
  let written : Reader ReadType := do
    write ts
    return { type := t, form := if p.isQualified then .other else .path }
  if p.isQualified then written
  else if p.isPlain && (← sees goesOnAsInvocation) then
    otherType do
      write ts
      marks ['!']
      discard invocationArguments
  else if ← seesPlus plus then
    otherType do
      write ts
      discard <| g.moreBounds false false
  else written

/-- A type that begins with what it holds for: a function type or an object.  A call that is
expanded holds for anything, so that what it holds for is not written. -/
def boundType (plus : Bool) : Reader ReadType := do
  let (_, start) ← aside g.binder
  let ts ← ahead
  if beginsFunctionType ts then
    otherType do
      write start
      g.functionType
  else if beginsBuiltIn ts then
    otherType do
      write start
      builtIn
  else if next isPathWord ts then
    let ((p, _), ts) ← aside g.typePath
    if p.isPlain && (← sees goesOnAsInvocation) then
      otherType do
        write ts
        marks ['!']
        discard invocationArguments
    else if ← seesPlus plus then
      otherType do
        write (start ++ ts)
        discard <| g.moreBounds false false
    else
      return { ← otherType (write (start ++ ts)) with form := .object (start ++ ts) }
  else
    failExpected ["identifier", "`fn`", "`unsafe`", "`extern`", "`super`", "`self`", "`Self`",
      "`crate`"]

def typeStarts : List String :=
  ["`for`", "parentheses", "`fn`", "`unsafe`", "`extern`", "identifier", "`::`", "`<`", "`dyn`",
   "square brackets", "`*`", "`&`", "`!`", "`impl`", "`_`", "lifetime"]

def typeRule (plus : Bool) : Reader ReadType := do
  let ts ← ahead
  let isWord (w : String) : Bool := next (·.isWord w) ts
  if isWord "for" then g.boundType plus
  else if next (·.isMark '(') ts then g.parenthesizedType plus
  else if beginsFunctionType ts then otherType g.functionType
  else if beginsBuiltIn ts then otherType builtIn
  else if beginsPath ts then g.namedType plus
  else if isWord "dyn" then
    otherType <| discard <| asWrittenIf id do
      word "dyn"
      let isBoxed ← marks? ['*']
      g.bounds plus false false noTraitFault
      return isBoxed
  else if next (·.isMark '[') ts then
    bracketed '[' do
      let items := (← g.type true).type
      if ← marks? [';'] then
        return { type := .array items (← noted (g.expression true)).2 }
      else return { type := .slice items }
  else if startWith ['*'] ts then
    otherType do
      marks ['*']
      unless (← word? "const") || (← word? "mut") do failExpected ["`const`", "`mut`"]
      discard <| g.type false
  else if ← marks? ['&'] then
    let lifetime ← lifetime?
    let isMut ← word? "mut"
    return { type := .reference lifetime isMut (← g.type false).type }
  else if startWith ['!'] ts then otherType (marks ['!'])
  else if ← word? "impl" then
    let (_, bounds) ← noted (g.bounds plus true true "at least one trait must be specified")
    return { type := .bounded bounds }
  else if isWord "_" then otherType (word "_")
  else if startWithLifetime ts then otherType (g.bounds true false false noTraitFault)
  else failExpected typeStarts

end Toolbox.Grammar
