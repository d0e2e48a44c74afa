import Mathlib.Data.List.Forall2
import Toolbox.Annotation.Expansion
import Toolbox.Proofs.Signature.Refusal
import Toolbox.Proofs.Text.Characters

/-!
# The parts of an expansion stay aligned

An expansion speaks of the parameters of a function in four places: in its signature, in the steps
that decode arguments, in the call and in the function that is kept.  Parameters are checked in turn
(`accepts_of_argumentsOf`), and each place lists what became of them in the same order, so the
entries at one position belong together (`Aligned`).  For parameters with distinct names the
signature is valid, and what it binds has an entry for each step to take (`Feeds`).
-/

namespace Toolbox

/-! ## Identifiers -/

/-- A character of a word is no white space. -/
theorem Literal.isBlank_of_isWordChar {c : Char} (h : isWordChar c = true) :
    Text.isBlank c = false := by
  cases hblank : Text.isBlank c with
  | false => rfl
  | true =>
    have hcode := Text.toNat_of_isBlank hblank
    -- beyond ASCII the characters of words are no white space by definition
    simp only [isWordChar, isSpace, hblank, Bool.true_or, Bool.not_true, Bool.and_false,
      Bool.or_false, Bool.or_eq_true, beq_iff_eq] at h
    rcases h with h | rfl
    · have hletter := Text.toNat_of_isAlphanum h
      omega
    · exact absurd hcode (by decide)

/-- How identifiers are written: apart from the mark of raw identifiers, as a word.  Source code has
no identifiers of another form. -/
def isIdentifier (identifier : String) : Bool :=
  match (unmarked identifier).toList with
  | [] => false
  | c :: rest => Literal.isWordStart c && rest.all Literal.isWordChar

theorem not_isBlankText_of_isIdentifier {identifier : String}
    (h : isIdentifier identifier = true) : ¬ Text.IsBlankText (unmarked identifier) := by
  unfold isIdentifier at h
  rw [← Text.isBlankText_eq_false_iff, Text.isBlankText]
  split at h
  next => cases h
  next c rest hlist =>
    have hstart : Literal.isWordStart c = true := (Bool.and_eq_true_iff.mp h).1
    have hword : Literal.isWordChar c = true := (Bool.and_eq_true_iff.mp hstart).1
    rw [hlist, List.all_cons, Literal.isBlank_of_isWordChar hword, Bool.false_and]

/-- The name that an identifier stands for: the identifier itself, or what follows the mark of a raw
one. -/
def StandsFor (identifier name : String) : Prop :=
  identifier = "r#" ++ name ∨ identifier = name ∧ ∀ rest, identifier ≠ "r#" ++ rest

theorem standsFor_unmarked (identifier : String) : StandsFor identifier (unmarked identifier) := by
  unfold unmarked
  split
  next rest hlist =>
    left
    apply String.toList_injective
    simp [hlist]
  next hplain =>
    refine Or.inr ⟨rfl, ?_⟩
    rintro rest rfl
    exact hplain rest.toList (by simp)

/-- Whether a parameter is written as an identifier, perhaps `mut`. -/
def DeclaredParam.Binds (p : DeclaredParam) (identifier : String) : Prop :=
  p.pattern = [.word identifier] ∨ p.pattern = [.word "mut", .word identifier]

theorem DeclaredParam.binds_of_identifier? {p : DeclaredParam} {identifier : String}
    (h : p.identifier? = some identifier) : p.Binds identifier := by
  unfold identifier? at h
  split at h
  next w hpattern =>
    split at h
    next => cases h
    next =>
      cases h
      exact Or.inl hpattern
  next w hpattern =>
    split at h
    next => cases h
    next =>
      cases h
      exact Or.inr hpattern
  next => cases h

/-! ## Types -/

/-- Whether a reference mark stands among tokens. -/
def Token.Borrowing (ts : List Token) : Prop := ∃ joined, Token.mark '&' joined ∈ ts

theorem Token.borrowing_iff (ts : List Token) :
    Borrowing ts ↔ ts.any (·.isMark '&') = true := by
  rw [List.any_eq_true]
  constructor
  · rintro ⟨joined, hmem⟩
    exact ⟨_, hmem, beq_self_eq_true '&'⟩
  · rintro ⟨token, hmem, hmark⟩
    cases token with
    | mark c joined =>
      have hc : '&' = c := beq_iff_eq.mp hmark
      subst hc
      exact ⟨joined, hmem⟩
    | word | text | literal => cases hmark

theorem TypeExpr.mentionsBorrow_iff (t : TypeExpr) :
    t.mentionsBorrow = true ↔ Token.Borrowing t.tokens :=
  (Token.borrowing_iff t.tokens).symm

/-- Two colons, and then the next name of a path. -/
def inside (name : String) : List Token := [.mark ':' true, .mark ':', .word name]

/-- `<T as ::std::borrow::ToOwned>::Owned`, where `T` is given in tokens. -/
def ownedOf (t : List Token) : List Token :=
  [.mark '<'] ++ t ++ [.word "as"] ++ inside "std" ++ inside "borrow" ++ inside "ToOwned"
    ++ [.mark '>'] ++ inside "Owned"

/-- `<<T as ::std::borrow::ToOwned>::Owned as ::std::borrow::Borrow<T>>::borrow`. -/
def borrowAs (t : List Token) : List Token :=
  [.mark '<'] ++ ownedOf t ++ [.word "as"] ++ inside "std" ++ inside "borrow" ++ inside "Borrow"
    ++ [.mark '<'] ++ t ++ [.mark '>', .mark '>'] ++ inside "borrow"

/-- `(&x)`. -/
def refTo (x : String) : List Token := [.mark '(', .mark '&', .word x, .mark ')']

/-- How a parameter `x` of a type is decoded, as a type in tokens, and how it is then passed on, as
an expression in tokens.  Only references and options of references are borrowed, and they borrow
nothing inside. -/
inductive Carried (x : String) : TypeExpr → List Token → List Token → Prop
  /-- `&T` is decoded as the owned type of `T`, and what is decoded is borrowed as `T` -/
  | reference (lifetime : Option String) (referent : TypeExpr)
      (h : ¬ Token.Borrowing referent.tokens) :
      Carried x (.reference lifetime false referent) (ownedOf referent.tokens)
        (borrowAs referent.tokens ++ refTo x)
  /-- `Option<&T>` is decoded as an option of the owned type of `T`, which is borrowed inside -/
  | optional (path : NamePath) (style : ArgumentStyle) (args : List GenericArg)
      (lifetime : Option String) (referent : TypeExpr) (hpath : path.name = "Option")
      (hargs : TypeExpr.ofArgs args = [.reference lifetime false referent])
      (h : ¬ Token.Borrowing referent.tokens) :
      Carried x (.generic path style args)
        (inside "core" ++ inside "option" ++ inside "Option" ++ [.mark '<']
          ++ ownedOf referent.tokens ++ [.mark '>'])
        (inside "core" ++ inside "option" ++ inside "Option" ++ inside "as_ref" ++ refTo x
          ++ [.mark '.', .word "map", .mark '('] ++ borrowAs referent.tokens ++ [.mark ')'])
  /-- any other type is decoded and passed on as it is -/
  | owned (type : TypeExpr) (h : ¬ Token.Borrowing type.tokens) :
      Carried x type type.tokens [.word x]

namespace TypeExpr

theorem ownedForm_eq (referent : TypeExpr) : referent.ownedForm = ownedOf referent.tokens := by
  simp [ownedForm, ownedOf, inside, NamePath.rooted, NamePath.tokens, NamePath.separator,
    Token.marks]

/-- Whatever a type is like, it is checked first. -/
theorem exists_outline_eq_checked (t : TypeExpr) : ∃ inner, t.outline = t.checked inner := by
  cases t <;> exact ⟨_, rfl⟩

theorem fault?_of_outline {t : TypeExpr} {o : Outline} (h : t.outline = .ok o) :
    t.fault? = none := by
  obtain ⟨inner, hinner⟩ := t.exists_outline_eq_checked
  rw [hinner, checked] at h
  cases hfault : t.fault? with
  | none => rfl
  | some fault =>
    rw [hfault] at h
    cases h

theorem wrapper?_eq_option {path : NamePath} (h : wrapper? path = some .option) :
    path.name = "Option" := by
  unfold wrapper? Wrapper.ofName? at h
  split at h
  next hname => exact hname
  next =>
    split at h
    next => cases h
    next =>
      split at h
      next => cases h
      next =>
        split at h
        next => cases h
        next => cases h

/-- The shape of an option of a reference. -/
theorem optionalReferent?_eq_some {t : TypeExpr} {isMut : Bool} {referent : TypeExpr}
    (h : t.optionalReferent? = some (isMut, referent)) :
    ∃ path style args lifetime, t = .generic path style args ∧ path.name = "Option" ∧
      ofArgs args = [.reference lifetime isMut referent] := by
  unfold optionalReferent? at h
  split at h
  next path style args =>
    split at h
    next lifetime isMut' referent' hwrapper hargs =>
      cases h
      exact ⟨path, style, args, lifetime, rfl, wrapper?_eq_option hwrapper, hargs⟩
    next => cases h
  next => cases h

/-- A type without faults borrows nothing but what it refers to, and does not change that. -/
theorem mentionsBorrow_of_fault? {t : TypeExpr} (h : t.fault? = none) :
    match t.referent? with
    | some (isMut, referent) => isMut = false ∧ ¬ Token.Borrowing referent.tokens
    | none => ¬ Token.Borrowing t.tokens := by
  have hplain : ∀ s : TypeExpr, ¬ s.mentionsBorrow = true → ¬ Token.Borrowing s.tokens :=
    fun s => mt s.mentionsBorrow_iff.mpr
  unfold fault? at h
  split at h
  next => cases h
  next =>
    split at h
    next => cases h
    next referent hreferent =>
      rw [hreferent]
      split at h
      next => cases h
      next hborrow => exact ⟨rfl, hplain referent hborrow⟩
    next hreferent =>
      rw [hreferent]
      split at h
      next => cases h
      next hborrow => exact hplain t hborrow

end TypeExpr

theorem Argument.borrow_eq (referent : TypeExpr) : borrow referent = borrowAs referent.tokens := by
  simp [borrow, borrowAs, TypeExpr.ownedForm_eq, inside, NamePath.rooted, NamePath.tokens,
    NamePath.separator, Token.marks]

theorem NamePath.tokens_option :
    (NamePath.rooted ["core", "option"] "Option").tokens =
      inside "core" ++ inside "option" ++ inside "Option" := rfl

theorem NamePath.tokens_asRef :
    (NamePath.rooted ["core", "option", "Option"] "as_ref").tokens =
      inside "core" ++ inside "option" ++ inside "Option" ++ inside "as_ref" := rfl

/-- An argument of a type without faults is decoded and passed on as that type is carried. -/
theorem Argument.carried {a : Argument} (h : a.type.fault? = none) :
    Carried a.identifier a.type a.type.owned a.passed := by
  obtain ⟨identifier, t, outline, options⟩ := a
  have hborrow := TypeExpr.mentionsBorrow_of_fault? h
  unfold passed
  cases hoption : t.optionalReferent? with
  | some found =>
    obtain ⟨isMut, referent⟩ := found
    obtain ⟨path, style, args, lifetime, rfl, hpath, hargs⟩ :=
      TypeExpr.optionalReferent?_eq_some hoption
    simp only [TypeExpr.referent?, hoption] at hborrow
    obtain ⟨rfl, hinner⟩ := hborrow
    simp only [TypeExpr.owned, hoption, TypeExpr.ownedForm_eq, borrow_eq, NamePath.tokens_option,
      NamePath.tokens_asRef]
    exact .optional path style args lifetime referent hpath hargs hinner
  | none =>
    cases t with
    | reference lifetime isMut referent =>
      obtain ⟨rfl, hinner⟩ := hborrow
      simp only [TypeExpr.owned, TypeExpr.ownedForm_eq, borrow_eq]
      exact .reference lifetime referent hinner
    | generic path style args =>
      simp only [TypeExpr.referent?, hoption] at hborrow
      simp only [TypeExpr.owned, hoption]
      exact .owned _ hborrow
    | name | slice | array | unit | paren | group | bounded | other => exact .owned _ hborrow

/-! ## Parameters in turn -/

section Except
variable {ε ε' α β : Type}

/-- A chain that succeeds has succeeded at its first link. -/
theorem exists_of_bind_eq_ok {x : Except ε α} {f : α → Except ε β} {b : β}
    (h : x >>= f = .ok b) : ∃ a, x = .ok a ∧ f a = .ok b := by
  cases x with
  | error e => cases h
  | ok a => exact ⟨a, rfl, h⟩

theorem eq_ok_of_mapError {x : Except ε α} {f : ε → ε'} {a : α} (h : x.mapError f = .ok a) :
    x = .ok a := by
  cases x with
  | error e => cases h
  | ok a' =>
    cases h
    rfl

theorem exists_of_isSome_toOption {x : Except ε α} (h : x.toOption.isSome = true) :
    ∃ a, x = .ok a := by
  cases x with
  | error e => cases h
  | ok a => exact ⟨a, rfl⟩

end Except

namespace DeclaredFunction

/-- What an accepted parameter becomes has its identifier, its type and its own options. -/
structure Accepts (p : DeclaredParam) (a : Argument) : Prop where
  identifier : p.identifier? = some a.identifier
  type : a.type = p.type
  outline : p.type.outline = .ok a.outline
  options : ParamOptions.read p.attributes = .ok a.options

theorem accepts_of_argument {p : DeclaredParam} {a : Argument} (h : argument p = .ok a) :
    Accepts p a := by
  cases hreceiver : p.isReceiver with
  | true =>
    simp only [argument, hreceiver, if_true] at h
    cases h
  | false =>
    simp only [argument, hreceiver, Bool.false_eq_true, if_false] at h
    obtain ⟨options, hoptions, h⟩ := exists_of_bind_eq_ok h
    cases hidentifier : p.identifier? with
    | none =>
      rw [hidentifier] at h
      cases h
    | some identifier =>
      rw [hidentifier] at h
      obtain ⟨outline, houtline, h⟩ := exists_of_bind_eq_ok h
      cases h
      exact ⟨hidentifier, rfl, eq_ok_of_mapError houtline, eq_ok_of_mapError hoptions⟩

/-- Parameters are checked in turn: each becomes the argument at its place. -/
theorem accepts_of_argumentsOf {ps : List DeclaredParam} {as : List Argument}
    (h : argumentsOf ps = .ok as) : List.Forall₂ Accepts ps as := by
  induction ps generalizing as with
  | nil =>
    cases h
    exact .nil
  | cons p ps ih =>
    obtain ⟨a, hargument, h⟩ := exists_of_bind_eq_ok h
    obtain ⟨rest, hrest, h⟩ := exists_of_bind_eq_ok h
    cases h
    exact .cons (accepts_of_argument hargument) (ih hrest)

/-- What an accepted function becomes has its name, its parameters and what is kept of it. -/
theorem expand_eq_ok {f : DeclaredFunction} {attributes : ToolAttributes} {e : Expansion}
    (h : f.expand attributes = .ok e) :
    List.Forall₂ Accepts f.params e.arguments ∧
      e.function = { f with params := f.params.map (·.stripped) } ∧
      e.functionName = unmarked f.name := by
  cases hfault : f.fault? with
  | some fault =>
    simp only [expand, hfault] at h
    cases h
  | none =>
    simp only [expand, hfault] at h
    obtain ⟨as, harguments, h⟩ := exists_of_bind_eq_ok h
    split at h
    next => cases h
    next =>
      split at h
      next =>
        cases h
        exact ⟨accepts_of_argumentsOf harguments, rfl, rfl⟩
      next => cases h

end DeclaredFunction

/-! ## One entry for each parameter -/

/-- A scope in which no name stands for anything in particular. -/
def Scope.blank : Scope where
  file := ""
  line := 0
  modulePath := ""
  paramType _ := .any
  value _ := .json .null
  schema _ := .permissive

/-- What a written default stands for: a text for itself, anything else for its value. -/
def WrittenExpression.defaultValue (scope : Scope) (e : WrittenExpression) : DefaultValue :=
  match e.form with
  | .text value => .json (.string value)
  | _ => scope.value e.tokens

/-- The signature, the decoding steps and the call have one entry for each parameter, at its place,
made from its name, its type and its own options. -/
structure Aligned (f : DeclaredFunction) (e : Expansion) (scope : Scope) : Prop where
  name : StandsFor f.name (e.signature scope).name
  called : e.call.function = f.name
  params_length : (e.signature scope).params.length = f.params.length
  bindings_length : e.bindings.length = f.params.length
  arguments_length : e.call.arguments.length = f.params.length
  entries : ∀ (i : Nat) (p : DeclaredParam), f.params[i]? = some p →
    ∃ identifier name outline options owned passed,
      p.Binds identifier ∧ StandsFor identifier name ∧ p.type.outline = .ok outline ∧
      ParamOptions.read p.attributes = .ok options ∧ Carried identifier p.type owned passed ∧
      (e.signature scope).params[i]? = some {
        name, type := outline.resolve scope.paramType
        default := options.default.map (·.defaultValue scope)
        description := options.description } ∧
      e.bindings[i]? = some {
        identifier, source := "__args", argument := name, type := owned } ∧
      e.call.arguments[i]? = some passed

/-- The attributes that are left when those named `param` are removed. -/
inductive Kept : List Attribute → List Attribute → Prop
  | nil : Kept [] []
  | param {as bs : List Attribute} (form : AttributeForm) (h : Kept as bs) :
    Kept ({ path := { name := "param" }, form } :: as) bs
  | other {a : Attribute} {as bs : List Attribute} (ha : a.path ≠ { name := "param" })
      (h : Kept as bs) :
    Kept (a :: as) (a :: bs)

theorem DeclaredParam.kept_stripped (p : DeclaredParam) :
    Kept p.attributes p.stripped.attributes := by
  unfold stripped
  induction p.attributes with
  | nil => exact .nil
  | cons a as ih =>
    cases ha : a.isNamed "param" with
    | true =>
      obtain ⟨path, form⟩ := a
      obtain rfl : path = { name := "param" } := Attribute.isNamed_iff.mp ha
      rw [List.filter_cons_of_neg (by simp [ha])]
      exact .param form ih
    | false =>
      rw [List.filter_cons_of_pos (by simp [ha])]
      refine .other (fun hpath => ?_) ih
      rw [Attribute.isNamed_iff.mpr hpath] at ha
      cases ha

/-- What is kept of a function differs from it in the options of its parameters alone. -/
structure KeepsFunction (f kept : DeclaredFunction) : Prop where
  rest : kept = { f with params := kept.params }
  params : List.Forall₂
    (fun p q => q = { p with attributes := q.attributes } ∧ Kept p.attributes q.attributes)
    f.params kept.params

theorem Argument.param_param (a : Argument) (scope : Scope) :
    a.param.param scope = {
      name := a.name, type := a.outline.resolve scope.paramType
      default := a.options.default.map (·.defaultValue scope)
      description := a.options.description } := by
  unfold param ExpandedParam.param defaultSource?
  simp only [Option.map_map]
  congr 2
  funext e
  simp only [Function.comp, WrittenExpression.defaultValue]
  cases e.form <;> rfl

namespace DeclaredFunction

variable {f : DeclaredFunction} {attributes : ToolAttributes} {e : Expansion}

theorem aligned_of_expand (h : f.expand attributes = .ok e) (scope : Scope) : Aligned f e scope := by
  obtain ⟨haccepts, hfunction, hname⟩ := expand_eq_ok h
  have hlength := haccepts.length_eq
  refine
    { name := by rw [Expansion.signature, hname]; exact standsFor_unmarked f.name
      called := by rw [Expansion.call, hfunction]
      params_length := by simp [Expansion.signature, Expansion.params, hlength]
      bindings_length := by simp [Expansion.bindings, hlength]
      arguments_length := by simp [Expansion.call, hlength]
      entries := ?_ }
  intro i p hp
  obtain ⟨a, hat, ha⟩ : ∃ a, e.arguments[i]? = some a ∧ Accepts p a := by
    obtain ⟨hi, rfl⟩ := List.getElem?_eq_some_iff.mp hp
    exact ⟨_, List.getElem?_eq_getElem (hlength ▸ hi), haccepts.get hi (hlength ▸ hi)⟩
  have hcarried : Carried a.identifier p.type a.type.owned a.passed := by
    rw [← ha.type]
    exact Argument.carried (ha.type ▸ TypeExpr.fault?_of_outline ha.outline)
  refine ⟨a.identifier, a.name, a.outline, a.options, a.type.owned, a.passed,
    p.binds_of_identifier? ha.identifier, standsFor_unmarked a.identifier, ha.outline, ha.options,
    hcarried, ?_, ?_, ?_⟩
  · simp [Expansion.signature, Expansion.params, hat, Argument.param_param]
  · simp [Expansion.bindings, hat, Argument.binding, Argument.mapName]
  · simp [Expansion.call, hat]

theorem keepsFunction_of_expand (h : f.expand attributes = .ok e) : KeepsFunction f e.function := by
  obtain ⟨-, hfunction, -⟩ := expand_eq_ok h
  rw [hfunction]
  refine ⟨rfl, ?_⟩
  rw [List.forall₂_map_right_iff, List.forall₂_same]
  intro p _
  exact ⟨rfl, p.kept_stripped⟩

end DeclaredFunction

/-! ## What the steps take -/

/-- What is left of a map when steps have taken their arguments out of it. -/
def remaining (bound : Dict Json) (steps : List Binding) : Dict Json :=
  steps.foldl (fun rest b => rest.erase b.argument) bound

theorem find?_remaining (bound : Dict Json) (steps : List Binding) (key : String) :
    (remaining bound steps).find? key =
      if key ∈ steps.map (·.argument) then none else bound.find? key := by
  induction steps generalizing bound with
  | nil => rfl
  | cons b steps ih =>
    rw [remaining, List.foldl_cons, ← remaining, ih, Dict.find?_erase]
    by_cases hkey : key = b.argument
    · simp [hkey]
    · simp [hkey]

/-- A signature is valid, and what it binds has an entry for each step when its turn comes, and no
others. -/
structure Feeds (s : Signature) (steps : List Binding) : Prop where
  valid : s.validate = .ok ()
  entry : ∀ args bound, s.bind args = .ok bound → ∀ before b after, steps = before ++ b :: after →
    ∃ value, bound.find? b.argument = some value ∧
      (remaining bound before).find? b.argument = some value
  noOther : ∀ args bound, s.bind args = .ok bound → remaining bound steps = ∅

theorem feeds_of_names {s : Signature} {steps : List Binding} (hvalid : s.WellFormed)
    (hreceiver : ∀ p ∈ s.params, p.receiver = false)
    (hnames : paramNames s.params = steps.map (·.argument)) : Feeds s steps := by
  have harguments : s.arguments = s.params := by
    rw [Signature.arguments, List.filter_eq_self]
    intro p hp
    rw [hreceiver p hp]
    rfl
  have hkeys : ∀ args bound, s.bind args = .ok bound → ∀ key,
      (∃ value, bound.find? key = some value) ↔ key ∈ steps.map (·.argument) := by
    intro args bound hbind key
    rw [← hnames, ← harguments, ← (Signature.bind_eq_ok hvalid.arguments_distinct hbind).2.2 key,
      Dict.mem_keys, Dict.contains_iff]
  refine ⟨s.validate_eq_ok_iff.mpr hvalid, ?_, ?_⟩
  · rintro args bound hbind before b after rfl
    have hdistinct := hvalid.distinct
    rw [hnames, List.map_append, List.map_cons, List.nodup_append] at hdistinct
    -- no earlier step has taken the entry, for its argument has another name
    have hbefore : b.argument ∉ before.map (·.argument) := fun hmem =>
      hdistinct.2.2 _ hmem _ List.mem_cons_self rfl
    obtain ⟨value, hvalue⟩ := (hkeys args bound hbind b.argument).mpr (by simp)
    refine ⟨value, hvalue, ?_⟩
    rw [find?_remaining, if_neg hbefore, hvalue]
  · intro args bound hbind
    apply Dict.ext_find?
    intro key
    rw [find?_remaining, Dict.find?_empty]
    split
    next => rfl
    next hkey =>
      cases hfind : bound.find? key with
      | none => rfl
      | some value => exact absurd ((hkeys args bound hbind key).mp ⟨value, hfind⟩) hkey

namespace DeclaredFunction

/-- Names of the parameters, without the mark of raw identifiers. -/
def argumentNames (f : DeclaredFunction) : List String :=
  f.params.filterMap fun p => p.identifier?.map unmarked

theorem argumentNames_of_accepts {ps : List DeclaredParam} {as : List Argument}
    (h : List.Forall₂ Accepts ps as) :
    (ps.filterMap fun p => p.identifier?.map unmarked) = as.map (·.name) := by
  induction h with
  | nil => rfl
  | cons ha _ ih =>
    rw [List.filterMap_cons, ha.identifier, Option.map_some, List.map_cons, ih]
    rfl

variable {f : DeclaredFunction} {attributes : ToolAttributes} {e : Expansion}

theorem nonblank_argumentNames
    (hidentifiers : ∀ p ∈ f.params, p.identifier?.all isIdentifier = true) :
    ∀ name ∈ f.argumentNames, ¬ Text.IsBlankText name := by
  intro name hname
  obtain ⟨p, hp, hname⟩ := List.mem_filterMap.mp hname
  obtain ⟨identifier, hidentifier, rfl⟩ := Option.map_eq_some_iff.mp hname
  have hall := hidentifiers p hp
  rw [hidentifier] at hall
  exact not_isBlankText_of_isIdentifier hall

theorem feeds_of_expand (h : f.expand attributes = .ok e)
    (hidentifiers : ∀ p ∈ f.params, p.identifier?.all isIdentifier = true)
    (hdistinct : f.argumentNames.Nodup) (scope : Scope) : Feeds (e.signature scope) e.bindings := by
  have harguments : f.argumentNames = e.arguments.map (·.name) :=
    argumentNames_of_accepts (expand_eq_ok h).1
  have hnames : paramNames (e.signature scope).params = f.argumentNames := by
    rw [harguments]
    simp [paramNames, Expansion.signature, Expansion.params, ExpandedParam.param, Argument.param]
  have hreceiver : ∀ p ∈ (e.signature scope).params, p.receiver = false := by
    simp [Expansion.signature, Expansion.params, ExpandedParam.param]
  refine feeds_of_names ⟨?_, ?_, ?_⟩ hreceiver ?_
  · intro p hp
    apply nonblank_argumentNames hidentifiers
    rw [← hnames]
    exact List.mem_map_of_mem hp
  · rw [hnames]
    exact hdistinct
  · exact fun p hp => hreceiver p (List.mem_of_mem_tail hp)
  · rw [hnames, harguments, Expansion.bindings, List.map_map]
    rfl

/-- Whatever function a tool is made of, its expansion speaks of each parameter once in the
signature, in the steps that decode arguments and in the call, at the same place and under the same
name, and keeps the function but for the options of its parameters.  So if the names of the
parameters are distinct, the signature is valid, and what it binds has the entries that the steps
take. -/
theorem expand_aligned (h : f.expand attributes = .ok e) :
    (∀ scope, Aligned f e scope) ∧ KeepsFunction f e.function ∧
      ((∀ p ∈ f.params, p.identifier?.all isIdentifier = true) → f.argumentNames.Nodup →
        ∀ scope, Feeds (e.signature scope) e.bindings) :=
  ⟨aligned_of_expand h, keepsFunction_of_expand h, feeds_of_expand h⟩

/-- A function with a raw identifier, a mutable parameter, borrowed types, options and other
attributes. -/
def lookUp : DeclaredFunction :=
  let str : TypeExpr := .reference none false (.name (.ofWord "str"))
  { name := "look_up"
    attributes := [.doc " Looks a text up."]
    isConst := true
    params := [
      { pattern := [.word "r#type"]
        type := str
        attributes := [{ path := { name := "allow" } },
          .ofItems "param" [.value [.word "description"] [.text "\"What it is.\"" "What it is."]],
          { path := { name := "expect" } }] },
      { pattern := [.word "mut", .word "scope"]
        type := .generic (.ofWord "Option") {} [.type str]
        attributes := [.ofItems "param" [.value [.word "default"] [.text "\"all\"" "all"]]] }] }

theorem lookUp_expand_aligned :
    ∃ e, lookUp.expand {} = .ok e ∧
      e.bindings.map (fun b => (b.identifier, b.argument, Token.squeezed b.type)) =
        [("r#type", "type", "<stras::std::borrow::ToOwned>::Owned"),
          ("scope", "scope", "::core::option::Option<<stras::std::borrow::ToOwned>::Owned>")] ∧
      e.call.arguments[0]? = some (borrowAs [.word "str"] ++ refTo "r#type") ∧
      e.function.params.map (·.attributes.map (·.path.name)) = [["allow", "expect"], []] ∧
      e.function.isConst = true ∧ ∀ scope, (e.signature scope).validate = .ok () := by
  obtain ⟨e, he⟩ := exists_of_isSome_toOption (x := lookUp.expand {}) (by decide +kernel)
  obtain ⟨haligned, hkeeps, hfeeds⟩ := expand_aligned he
  have hparts : (lookUp.expand {}).toOption.map (fun e =>
      (e.bindings.map (fun b => (b.identifier, b.argument, Token.squeezed b.type)),
        e.function.params.map (·.attributes.map (·.path.name)))) =
      some ([("r#type", "type", "<stras::std::borrow::ToOwned>::Owned"),
        ("scope", "scope", "::core::option::Option<<stras::std::borrow::ToOwned>::Owned>")],
        [["allow", "expect"], []]) := by decide +kernel
  rw [he] at hparts
  obtain ⟨hbindings, hattributes⟩ := Prod.mk.inj (Option.some.inj hparts)
  refine ⟨e, he, hbindings, ?_, hattributes, ?_, fun scope => ?_⟩
  · obtain ⟨identifier, _, _, _, _, passed, hbinds, -, -, -, hcarried, -, -, hargument⟩ :=
      (haligned .blank).entries 0 _ rfl
    rw [hargument]
    rcases hbinds with hpattern | hpattern
    · cases hpattern
      cases hcarried with
      | reference => rfl
      | owned _ h => exact absurd ⟨false, List.mem_cons_self⟩ h
    · exact absurd (congrArg List.length hpattern) (by simp)
  · rw [hkeeps.rest]
    rfl
  · exact (hfeeds (by decide +kernel) (by decide +kernel) scope).valid

end DeclaredFunction

end Toolbox
