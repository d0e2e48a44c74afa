import Toolbox.Code.TypeExpr
import Toolbox.ParamType

/-!
# Outlines of parameter types

How much of what a parameter accepts can be seen in the way its type is written.  References,
options, collections, maps and smart pointers are unwrapped; what is inside them is probed, that
is, left to whoever knows the definitions of types.  So a type nothing is known about spoils only
the element that it describes.

A parameter may borrow, as `&T` or `Option<&T>`, if `T` borrows nothing; it is then decoded as the
owned form of `T`.
-/

namespace Toolbox

/-- A parameter type with places that are still to be looked up. -/
inductive Outline where
  | null
  | optional (inner : Outline)
  | sequence (items : Outline)
  | mapping (values : Outline)
  | union (members : List Outline)
  /-- one of the listed names -/
  | literal (names : List String)
  /-- what the type itself says -/
  | probe (type : TypeExpr)

namespace Outline

mutual

/-- The parameter type, where `probe` tells what a type says. -/
def resolve (probe : TypeExpr → ParamType) : Outline → ParamType
  | null => .null
  | optional inner => .optional (resolve probe inner)
  | sequence items => .sequence (some (resolve probe items))
  | mapping values => .mapping (some (resolve probe values))
  | union members => .union (resolveMembers probe members)
  | literal names => .literal (names.map .string)
  | .probe type => probe type

/-- Parameter types of union members. -/
def resolveMembers (probe : TypeExpr → ParamType) : List Outline → List ParamType
  | [] => []
  | o :: os => resolve probe o :: resolveMembers probe os

end

end Outline

/-! ## Borrowing -/

/-- Why a type cannot be the type of a parameter. -/
inductive TypeFault where
  /-- known only by its bounds -/
  | bounded
  /-- borrows in order to change -/
  | mutableBorrow
  /-- borrows inside, or in another way than as `&T` or `Option<&T>` -/
  | innerBorrow
  deriving DecidableEq, Repr

def TypeFault.message : TypeFault → String
  | bounded => "tool parameters cannot use `impl Trait`"
  | mutableBorrow => "tool parameters cannot be `&mut` references"
  | innerBorrow =>
    "tool parameters may borrow only as `&T` or `Option<&T>`; "
      ++ "use owned element types such as `Vec<String>`"

/-- Types that are unwrapped. -/
inductive Wrapper where
  | option
  | sequence
  | mapping
  /-- stands for what is inside -/
  | transparent
  deriving DecidableEq, Repr

def Wrapper.ofName? (name : String) : Option Wrapper :=
  if name = "Option" then some option
  else if name ∈ ["Vec", "VecDeque", "HashSet", "BTreeSet", "LinkedList", "BinaryHeap"] then
    some sequence
  else if name ∈ ["HashMap", "BTreeMap", "IndexMap"] then some mapping
  else if name ∈ ["Box", "Rc", "Arc", "Cow"] then some transparent
  else none

namespace TypeExpr

/-- The wrapper that a name in a path is. -/
def wrapper? (path : NamePath) : Option Wrapper := Wrapper.ofName? path.name

/-- The reference in `Option<&T>`: whether it is mutable, and `T`. -/
def optionalReferent? : TypeExpr → Option (Bool × TypeExpr)
  | generic path _ args =>
    match wrapper? path, ofArgs args with
    | some .option, [reference _ isMut referent] => some (isMut, referent)
    | _, _ => none
  | _ => none

/-- The reference in `&T` or `Option<&T>`: whether it is mutable, and `T`. -/
def referent? : TypeExpr → Option (Bool × TypeExpr)
  | reference _ isMut referent => some (isMut, referent)
  | t => t.optionalReferent?

/-- Why the type is unsuitable for a parameter, if it is. -/
def fault? (t : TypeExpr) : Option TypeFault :=
  if t.mentionsBounds then some .bounded
  else
    match t.referent? with
    | some (true, _) => some .mutableBorrow
    | some (false, referent) => if referent.mentionsBorrow then some .innerBorrow else none
    | none => if t.mentionsBorrow then some .innerBorrow else none

/-- Owned form of a borrowed type, as tokens. -/
def ownedForm (referent : TypeExpr) : List Token :=
  [.mark '<'] ++ referent.tokens ++ [.word "as"]
    ++ (NamePath.rooted ["std", "borrow"] "ToOwned").tokens ++ [.mark '>'] ++ NamePath.separator
    ++ [.word "Owned"]

/-- The type that a parameter is decoded as, in tokens. -/
def owned (t : TypeExpr) : List Token :=
  match t with
  | reference _ _ referent => referent.ownedForm
  | t =>
    match t.optionalReferent? with
    | some (_, referent) =>
      (NamePath.rooted ["core", "option"] "Option").tokens ++ [.mark '<'] ++ referent.ownedForm
        ++ [.mark '>']
    | none => t.tokens

/-! ## Outlines -/

/-- An outline, provided the type is suitable. -/
def checked (t : TypeExpr) (o : Except TypeFault Outline) : Except TypeFault Outline :=
  match t.fault? with
  | some fault => .error fault
  | none => o

/-- Outline of a wrapper with the outlines of the types in it; none if their number does not fit. -/
def unwrap? (path : NamePath) (args : List (Except TypeFault Outline)) :
    Option (Except TypeFault Outline) :=
  match wrapper? path, args with
  | some .option, [inner] => some (inner.map .optional)
  | some .sequence, [items] => some (items.map .sequence)
  | some .mapping, _ :: values :: _ => some (values.map .mapping)
  | some .transparent, [inner] => some inner
  | _, _ => none

mutual

def outline : TypeExpr → Except TypeFault Outline
  | t@(reference _ _ referent) => t.checked (outline referent)
  | t@(paren inner) => t.checked (outline inner)
  | t@(group inner) => t.checked (outline inner)
  | t@unit => t.checked (.ok .null)
  | t@(slice items) => t.checked ((outline items).map .sequence)
  | t@(array items _) => t.checked ((outline items).map .sequence)
  | t@(generic path _ args) => t.checked ((unwrap? path (outlines args)).getD (.ok (.probe t)))
  | t => t.checked (.ok (.probe t))

def outlines : List GenericArg → List (Except TypeFault Outline)
  | [] => []
  | .type t :: args => outline t :: outlines args
  | .lifetime _ :: args | .other _ :: args => outlines args

end

end TypeExpr

end Toolbox
