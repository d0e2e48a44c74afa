import Toolbox.Annotation.Described
import Toolbox.Annotation.Outline

/-!
# What is seen of a type agrees with what it says

The outline of a type is made from the way the type is written; what a type says of itself comes
from definitions.  Both are compared with the structure of the type (`TypeExpr.Structural`), which
takes a type apart down to its names.  An outline gives that structure once its names are looked up
(`structural_of_outline`), a type that says what it accepts gives the same one
(`structural_of_paramType?`), and there is only one (`Structural.unique`).
-/

namespace Toolbox

theorem Except.exists_of_map_eq_ok {ε α β : Type} {x : Except ε α} {f : α → β} {b : β}
    (h : x.map f = .ok b) : ∃ a, x = .ok a ∧ b = f a := by
  cases x with
  | error e => cases h
  | ok a =>
    cases h
    exact ⟨a, rfl, rfl⟩

namespace TypeExpr

/-! ## Structure -/

/-- What the standard types without arguments accept. -/
inductive Standard (name : String) : ParamType → Prop
  | text (h : name ∈ ["String", "str", "char", "Path", "PathBuf"]) : Standard name (.scalar .text)
  | integer (h : name ∈ ["i8", "i16", "i32", "i64", "i128", "isize", "u8", "u16", "u32", "u64",
      "u128", "usize"]) : Standard name (.scalar .integer)
  | real (h : name ∈ ["f32", "f64"]) : Standard name (.scalar .real)
  | boolean (h : name = "bool") : Standard name (.scalar .boolean)
  | any (h : name = "Value") : Standard name .any

/-- A standard type with arguments that is described through one of them: how the description of
that one is wrapped, and which one it is.  Keys of maps are always texts, so they do not count. -/
inductive Wraps (name : String) : List TypeExpr → (ParamType → ParamType) → TypeExpr → Prop
  | option (inner : TypeExpr) (hname : name = "Option") : Wraps name [inner] .optional inner
  | sequence (items : TypeExpr) (hname : name ∈ ["Vec", "VecDeque", "BTreeSet", "HashSet"]) :
    Wraps name [items] (fun p => .sequence (some p)) items
  | mapping (key values : TypeExpr) (rest : List TypeExpr)
      (hname : name ∈ ["HashMap", "BTreeMap"]) :
      Wraps name (key :: values :: rest) (fun p => .mapping (some p)) values
  | pointer (inner : TypeExpr) (hname : name ∈ ["Box", "Cow"]) : Wraps name [inner] id inner

/-- Whether a type with arguments is a map from names to JSON values. -/
structure JsonMap (name : String) (args : List TypeExpr) : Prop where
  name : name = "Map"
  args : ∃ key value : NamePath,
    args = [.name key, .name value] ∧ key.name = "String" ∧ value.name = "Value"

/-- Types made of names and the unit type with standard types around them, to any depth. -/
inductive Ordinary : TypeExpr → Prop
  | name (path : NamePath) : Ordinary (.name path)
  | unit : Ordinary .unit
  | jsonMap {path : NamePath} {args : List GenericArg} (style : ArgumentStyle)
      (h : JsonMap path.name (ofArgs args)) : Ordinary (.generic path style args)
  | wrapped {path : NamePath} {args : List GenericArg} {wrap : ParamType → ParamType}
      {inner : TypeExpr} (style : ArgumentStyle) (h : Wraps path.name (ofArgs args) wrap inner)
      (hinner : Ordinary inner) : Ordinary (.generic path style args)
  | reference {referent : TypeExpr} (lifetime : Option String) (isMut : Bool)
      (h : Ordinary referent) : Ordinary (.reference lifetime isMut referent)
  | slice {items : TypeExpr} (h : Ordinary items) : Ordinary (.slice items)
  | array {items : TypeExpr} (length : List Token) (h : Ordinary items) :
    Ordinary (.array items length)
  | paren {inner : TypeExpr} (h : Ordinary inner) : Ordinary (.paren inner)

/-- What a type accepts by its structure.  A name is a standard one or one that `known` describes;
only a name that is neither is unknown, and then by what `title` calls it. -/
inductive Structural (known : NamePath → Option ParamType) (title : TypeExpr → String) :
    TypeExpr → ParamType → Prop
  | standard {path : NamePath} {p : ParamType} (h : Standard path.name p) :
    Structural known title (.name path) p
  | described {path : NamePath} {p : ParamType} (hname : ∀ q, ¬ Standard path.name q)
      (h : known path = some p) : Structural known title (.name path) p
  | unknown {path : NamePath} (hname : ∀ q, ¬ Standard path.name q) (h : known path = none) :
    Structural known title (.name path) (.unknown (title (.name path)))
  | unit : Structural known title .unit .null
  | jsonMap {path : NamePath} {args : List GenericArg} (style : ArgumentStyle)
      (h : JsonMap path.name (ofArgs args)) :
      Structural known title (.generic path style args) (.mapping (some .any))
  | wrapped {path : NamePath} {args : List GenericArg} {wrap : ParamType → ParamType}
      {inner : TypeExpr} {p : ParamType} (style : ArgumentStyle)
      (h : Wraps path.name (ofArgs args) wrap inner) (hinner : Structural known title inner p) :
      Structural known title (.generic path style args) (wrap p)
  | reference {referent : TypeExpr} {p : ParamType} (lifetime : Option String) (isMut : Bool)
      (h : Structural known title referent p) :
      Structural known title (.reference lifetime isMut referent) p
  | slice {items : TypeExpr} {p : ParamType} (h : Structural known title items p) :
    Structural known title (.slice items) (.sequence (some p))
  | array {items : TypeExpr} {p : ParamType} (length : List Token)
      (h : Structural known title items p) :
      Structural known title (.array items length) (.sequence (some p))
  | paren {inner : TypeExpr} {p : ParamType} (h : Structural known title inner p) :
    Structural known title (.paren inner) p

theorem ofStandardName?_eq_some_iff {name : String} {p : ParamType} :
    ofStandardName? name = some p ↔ Standard name p := by
  constructor
  · intro h
    unfold ofStandardName? at h
    split at h
    next htext =>
      cases h
      exact .text (by simpa [or_comm] using htext)
    next =>
      split at h
      next hinteger =>
        cases h
        exact .integer hinteger
      next =>
        split at h
        next hreal =>
          cases h
          exact .real hreal
        next =>
          split at h
          next hboolean =>
            cases h
            exact .boolean hboolean
          next =>
            split at h
            next hany =>
              cases h
              exact .any hany
            next => cases h
  · intro h
    cases h with
    | text h | integer h | real h =>
      simp only [List.mem_cons, List.not_mem_nil, or_false] at h
      rcases h with rfl | rfl | rfl | rfl | rfl | rfl | rfl | rfl | rfl | rfl | rfl | rfl <;> rfl
    | boolean h | any h =>
      subst h
      rfl

theorem ofStandardName?_eq_none_iff {name : String} :
    ofStandardName? name = none ↔ ∀ p, ¬ Standard name p := by
  rw [Option.eq_none_iff_forall_ne_some]
  exact forall_congr' fun p => not_congr ofStandardName?_eq_some_iff

theorem Standard.unique {name : String} {p q : ParamType} (hp : Standard name p)
    (hq : Standard name q) : p = q :=
  Option.some.inj ((ofStandardName?_eq_some_iff.mpr hp).symm.trans
    (ofStandardName?_eq_some_iff.mpr hq))

theorem Wraps.ne_map {name : String} {args : List TypeExpr} {wrap : ParamType → ParamType}
    {inner : TypeExpr} (h : Wraps name args wrap inner) : name ≠ "Map" := by
  rintro rfl
  cases h with
  | option _ hname | sequence _ hname | mapping _ _ _ hname | pointer _ hname =>
    exact absurd hname (by decide)

/-- A type is described through one argument and in one way. -/
theorem Wraps.unique {name : String} {args : List TypeExpr} {wrap wrap' : ParamType → ParamType}
    {inner inner' : TypeExpr} (h : Wraps name args wrap inner) (h' : Wraps name args wrap' inner') :
    wrap = wrap' ∧ inner = inner' := by
  cases h with
  | option _ hname =>
    subst hname
    cases h' with
    | option => exact ⟨rfl, rfl⟩
    | sequence _ hname | pointer _ hname => exact absurd hname (by decide)
  | sequence _ hname =>
    cases h' with
    | sequence => exact ⟨rfl, rfl⟩
    | option _ hname' =>
      subst hname'
      exact absurd hname (by decide)
    | pointer _ hname' =>
      simp only [List.mem_cons, List.not_mem_nil, or_false] at hname'
      rcases hname' with rfl | rfl <;> exact absurd hname (by decide)
  | mapping => cases h' with | mapping => exact ⟨rfl, rfl⟩
  | pointer _ hname =>
    cases h' with
    | pointer => exact ⟨rfl, rfl⟩
    | option _ hname' =>
      subst hname'
      exact absurd hname (by decide)
    | sequence _ hname' =>
      simp only [List.mem_cons, List.not_mem_nil, or_false] at hname
      rcases hname with rfl | rfl <;> exact absurd hname' (by decide)

variable {known : NamePath → Option ParamType} {title : TypeExpr → String}

theorem Structural.unique {t : TypeExpr} {p q : ParamType} (hp : Structural known title t p)
    (hq : Structural known title t q) : p = q := by
  induction hp generalizing q with
  | standard h =>
    cases hq with
    | standard h' => exact h.unique h'
    | described hname | unknown hname => exact absurd h (hname _)
  | described hname h =>
    cases hq with
    | standard h' => exact absurd h' (hname _)
    | described _ h' => exact Option.some.inj (h.symm.trans h')
    | unknown _ h' =>
      rw [h] at h'
      cases h'
  | unknown hname h =>
    cases hq with
    | standard h' => exact absurd h' (hname _)
    | described _ h' =>
      rw [h] at h'
      cases h'
    | unknown => rfl
  | unit => cases hq with | unit => rfl
  | jsonMap _ h =>
    cases hq with
    | jsonMap => rfl
    | wrapped _ h' => exact absurd h.name h'.ne_map
  | wrapped _ h _ ih =>
    cases hq with
    | jsonMap _ h' => exact absurd h'.name h.ne_map
    | wrapped _ h' hinner' =>
      obtain ⟨rfl, rfl⟩ := h.unique h'
      rw [ih hinner']
  | reference _ _ _ ih => cases hq with | reference _ _ h' => exact ih h'
  | slice _ ih => cases hq with | slice h' => rw [ih h']
  | array _ _ ih => cases hq with | array _ h' => rw [ih h']
  | paren _ ih => cases hq with | paren h' => exact ih h'

/-! ## Outlines -/

theorem outlines_eq_map (args : List GenericArg) : outlines args = (ofArgs args).map outline := by
  induction args with
  | nil => rfl
  | cons arg args ih =>
    cases arg with
    | type t => rw [outlines, ofArgs, List.map_cons, ih]
    | lifetime label => rw [outlines, ofArgs, ih]
    | other source => rw [outlines, ofArgs, ih]

theorem eq_ok_of_checked {t : TypeExpr} {x : Except TypeFault Outline} {o : Outline}
    (h : t.checked x = .ok o) : x = .ok o := by
  unfold checked at h
  split at h
  next => cases h
  next => exact h

/-- A type is unwrapped to the argument that describes it. -/
theorem Wraps.unwrap? {path : NamePath} {args : List GenericArg} {wrap : ParamType → ParamType}
    {inner : TypeExpr} (h : Wraps path.name (ofArgs args) wrap inner) :
    ∃ wrapOutline : Outline → Outline,
      TypeExpr.unwrap? path (outlines args) = some ((outline inner).map wrapOutline) ∧
      ∀ probe o, (wrapOutline o).resolve probe = wrap (o.resolve probe) := by
  rw [outlines_eq_map]
  unfold TypeExpr.unwrap? wrapper?
  generalize path.name = name at h
  generalize ofArgs args = types at h
  cases h with
  | option _ hname =>
    subst hname
    exact ⟨.optional, rfl, fun _ _ => rfl⟩
  | sequence _ hname =>
    have hwrapper : Wrapper.ofName? name = some .sequence := by
      revert name
      decide
    rw [hwrapper]
    exact ⟨.sequence, rfl, fun _ _ => rfl⟩
  | mapping _ _ _ hname =>
    have hwrapper : Wrapper.ofName? name = some .mapping := by
      revert name
      decide
    rw [hwrapper]
    exact ⟨.mapping, rfl, fun _ _ => rfl⟩
  | pointer inner hname =>
    have hwrapper : Wrapper.ofName? name = some .transparent := by
      revert name
      decide
    rw [hwrapper]
    refine ⟨id, ?_, fun _ _ => rfl⟩
    show some (outline inner) = some ((outline inner).map id)
    cases outline inner <;> rfl

theorem JsonMap.unwrap? {path : NamePath} {args : List GenericArg}
    (h : JsonMap path.name (ofArgs args)) : TypeExpr.unwrap? path (outlines args) = none := by
  unfold TypeExpr.unwrap? wrapper?
  rw [h.name]
  rfl

/-! ## Types that describe themselves -/

theorem paramTypes_eq_map (args : List GenericArg) :
    paramTypes known args = (ofArgs args).map (paramType? known) := by
  induction args with
  | nil => rfl
  | cons arg args ih =>
    cases arg with
    | type t => rw [paramTypes, ofArgs, List.map_cons, ih]
    | lifetime label => rw [paramTypes, ofArgs, ih]
    | other source => rw [paramTypes, ofArgs, ih]

theorem JsonMap.paramType? {path : NamePath} {args : List GenericArg}
    (h : JsonMap path.name (ofArgs args)) (style : ArgumentStyle) :
    (TypeExpr.generic path style args).paramType? known = some (.mapping (some .any)) := by
  obtain ⟨key, value, hargs, hkey, hvalue⟩ := h.args
  rw [TypeExpr.paramType?, paramTypes_eq_map, h.name, hargs]
  simp [isNamed, hkey, hvalue]

theorem paramType?_of_isNamed_str {t : TypeExpr} (h : t.isNamed "str" = true) :
    t.paramType? known = some .text := by
  cases t with
  | name path =>
    have hname : path.name = "str" := beq_iff_eq.mp h
    rw [paramType?, hname]
    rfl
  | generic | reference | slice | array | unit | paren | group | bounded | other => cases h

/-- A type that is described through an argument says what it accepts only if the argument does. -/
theorem Wraps.exists_of_paramType? {path : NamePath} {args : List GenericArg}
    {wrap : ParamType → ParamType} {inner : TypeExpr}
    (h : Wraps path.name (ofArgs args) wrap inner) {style : ArgumentStyle} {p : ParamType}
    (hp : (TypeExpr.generic path style args).paramType? known = some p) :
    ∃ q, inner.paramType? known = some q ∧ p = wrap q := by
  rw [paramType?, paramTypes_eq_map] at hp
  generalize path.name = name at h hp
  generalize ofArgs args = types at h hp
  cases h with
  | option _ hname =>
    subst hname
    obtain ⟨q, hq, hp⟩ := Option.bind_eq_some_iff.mp hp
    exact ⟨q, hq, (Option.some.inj hp).symm⟩
  | sequence _ hname =>
    simp only [List.mem_cons, List.not_mem_nil, or_false] at hname
    rcases hname with rfl | rfl | rfl | rfl
    all_goals
      obtain ⟨q, hq, hp⟩ := Option.bind_eq_some_iff.mp hp
      exact ⟨q, hq, (Option.some.inj hp).symm⟩
  | mapping _ _ rest hname =>
    simp only [List.mem_cons, List.not_mem_nil, or_false] at hname
    -- with more types than it has parameters a map does not describe itself
    rcases hname with rfl | rfl
    · match rest with
      | [] | [_] =>
        obtain ⟨q, hq, hp⟩ := Option.bind_eq_some_iff.mp hp
        exact ⟨q, hq, (Option.some.inj hp).symm⟩
      | _ :: _ :: _ => cases hp
    · match rest with
      | [] =>
        obtain ⟨q, hq, hp⟩ := Option.bind_eq_some_iff.mp hp
        exact ⟨q, hq, (Option.some.inj hp).symm⟩
      | _ :: _ => cases hp
  | pointer inner hname =>
    simp only [List.mem_cons, List.not_mem_nil, or_false] at hname
    rcases hname with rfl | rfl
    · exact ⟨p, hp, rfl⟩
    · change (if [inner].all (isNamed "str") then some ParamType.text else none) = some p at hp
      split at hp
      next hstr =>
        cases hp
        rw [List.all_cons, List.all_nil, Bool.and_true] at hstr
        exact ⟨.text, paramType?_of_isNamed_str hstr, rfl⟩
      next => cases hp

/-! ## Agreement -/

/-- An outline gives the structure of a type, with its names looked up. -/
theorem structural_of_outline {t : TypeExpr} (h : Ordinary t) {o : Outline}
    (ho : t.outline = .ok o) : Structural known title t (o.resolve (probed known title)) := by
  induction h generalizing o with
  | name path =>
    cases eq_ok_of_checked ho
    show Structural known title (.name path)
      (((ofStandardName? path.name).or (known path)).getD (.unknown (title (.name path))))
    cases hname : ofStandardName? path.name with
    | some p => exact .standard (ofStandardName?_eq_some_iff.mp hname)
    | none =>
      have hname := ofStandardName?_eq_none_iff.mp hname
      cases hknown : known path with
      | some p => exact .described hname hknown
      | none => exact .unknown hname hknown
  | unit =>
    cases eq_ok_of_checked ho
    exact .unit
  | jsonMap style h =>
    rw [outline, h.unwrap?] at ho
    cases eq_ok_of_checked ho
    rw [Outline.resolve, probed, h.paramType?]
    exact .jsonMap style h
  | wrapped style h _ ih =>
    obtain ⟨wrapOutline, hunwrap, hresolve⟩ := h.unwrap?
    rw [outline, hunwrap] at ho
    obtain ⟨inner, hinner, rfl⟩ := Except.exists_of_map_eq_ok (eq_ok_of_checked ho)
    rw [hresolve]
    exact .wrapped style h (ih hinner)
  | reference lifetime isMut _ ih =>
    rw [outline] at ho
    exact .reference lifetime isMut (ih (eq_ok_of_checked ho))
  | slice _ ih =>
    rw [outline] at ho
    obtain ⟨items, hitems, rfl⟩ := Except.exists_of_map_eq_ok (eq_ok_of_checked ho)
    exact .slice (ih hitems)
  | array length _ ih =>
    rw [outline] at ho
    obtain ⟨items, hitems, rfl⟩ := Except.exists_of_map_eq_ok (eq_ok_of_checked ho)
    exact .array length (ih hitems)
  | paren _ ih =>
    rw [outline] at ho
    exact .paren (ih (eq_ok_of_checked ho))

/-- What a type says of itself is its structure. -/
theorem structural_of_paramType? {t : TypeExpr} (h : Ordinary t) {p : ParamType}
    (hp : t.paramType? known = some p) : Structural known title t p := by
  induction h generalizing p with
  | name path =>
    rw [paramType?, Option.or_eq_some_iff] at hp
    rcases hp with hp | ⟨hname, hp⟩
    · exact .standard (ofStandardName?_eq_some_iff.mp hp)
    · exact .described (ofStandardName?_eq_none_iff.mp hname) hp
  | unit =>
    cases hp
    exact .unit
  | jsonMap style h =>
    rw [h.paramType?] at hp
    cases hp
    exact .jsonMap style h
  | wrapped style h _ ih =>
    obtain ⟨q, hq, rfl⟩ := h.exists_of_paramType? hp
    exact .wrapped style h (ih hq)
  | reference lifetime isMut _ ih =>
    cases isMut with
    | true => cases hp
    | false => exact .reference lifetime false (ih hp)
  | slice _ ih =>
    obtain ⟨q, hq, hp⟩ := Option.bind_eq_some_iff.mp hp
    cases hp
    exact .slice (ih hq)
  | array length _ ih =>
    obtain ⟨q, hq, hp⟩ := Option.bind_eq_some_iff.mp hp
    cases hp
    exact .array length (ih hq)
  | paren _ ih => exact .paren (ih hp)

/-- A type that is suited for a parameter has the structure that its outline gives when its names
are looked up, and no other.  A type that says what it accepts says just that. -/
theorem resolve_outline {t : TypeExpr} (h : Ordinary t) {o : Outline} (ho : t.outline = .ok o)
    (known : NamePath → Option ParamType) (title : TypeExpr → String) :
    (∀ p, Structural known title t p ↔ p = o.resolve (probed known title)) ∧
      ∀ p, t.paramType? known = some p → o.resolve (probed known title) = p := by
  have hstructural : Structural known title t (o.resolve (probed known title)) :=
    structural_of_outline h ho
  refine ⟨fun p => ⟨fun hp => hp.unique hstructural, ?_⟩, fun p hp => ?_⟩
  · rintro rfl
    exact hstructural
  · exact hstructural.unique (structural_of_paramType? h hp)

/-- `Option<&[HashMap<Key, V>]>`, where `V` is a standard type of each kind or one that nothing is
known about, and then where that one is described. -/
theorem resolve_outline_optional_reference :
    let values (name : String) : TypeExpr :=
      .generic (.ofWord "HashMap") {} [.type (.name (.ofWord "Key")), .type (.name (.ofWord name))]
    let t (name : String) : TypeExpr :=
      .generic (.ofWord "Option") {} [.type (.reference none false (.slice (values name)))]
    let described : NamePath → Option ParamType := fun path =>
      if path.name = "Shape" then some (.literal [.string "disc"]) else none
    (∀ entry ∈ [("String", ParamType.scalar .text), ("u16", .scalar .integer),
        ("f32", .scalar .real), ("bool", .scalar .boolean), ("Value", .any),
        ("Shape", .unknown "Shape")],
      ∃ o, (t entry.1).outline = .ok o ∧ o.resolve (probed (fun _ => none) squeezed) =
        .optional (.sequence (some (.mapping (some entry.2))))) ∧
      ∃ o, (t "Shape").outline = .ok o ∧
        (t "Shape").paramType? described =
          some (.optional (.sequence (some (.mapping (some (.literal [.string "disc"])))))) ∧
        o.resolve (probed described squeezed) =
          .optional (.sequence (some (.mapping (some (.literal [.string "disc"]))))) := by
  intro values t described
  have hwraps (name : String) : Wraps "HashMap" [.name (.ofWord "Key"), .name (.ofWord name)]
      (fun p => .mapping (some p)) (.name (.ofWord name)) := .mapping _ _ [] (by decide)
  have ht (name : String) : Ordinary (t name) :=
    .wrapped {} (.option _ rfl) (.reference none false (.slice (.wrapped {} (hwraps name) (.name _))))
  have hresolves (name : String) (p : ParamType) (haccepted : (t name).outline.toOption.isSome = true)
      (hp : Structural (fun _ => none) squeezed (.name (.ofWord name)) p) :
      ∃ o, (t name).outline = .ok o ∧ o.resolve (probed (fun _ => none) squeezed) =
        .optional (.sequence (some (.mapping (some p)))) := by
    cases ho : (t name).outline with
    | error fault =>
      rw [ho] at haccepted
      cases haccepted
    | ok o =>
      refine ⟨o, rfl, (((resolve_outline (ht name) ho (fun _ => none) squeezed).1 _).mp ?_).symm⟩
      have hvalues : Structural (fun _ => none) squeezed (values name) (.mapping (some p)) :=
        @Structural.wrapped _ _ (.ofWord "HashMap") _ (fun p => .mapping (some p)) _ _ {}
          (hwraps name) hp
      exact .wrapped {} (.option _ rfl) (.reference none false (.slice hvalues))
  have hunknown : ∀ q, ¬ Standard "Shape" q := ofStandardName?_eq_none_iff.mp rfl
  refine ⟨?_, ?_⟩
  · simp only [List.forall_mem_cons, List.not_mem_nil, false_imp_iff, implies_true, and_true]
    exact ⟨hresolves _ _ (by decide +kernel) (.standard (.text (by decide))),
      hresolves _ _ (by decide +kernel) (.standard (.integer (by decide))),
      hresolves _ _ (by decide +kernel) (.standard (.real (by decide))),
      hresolves _ _ (by decide +kernel) (.standard (.boolean rfl)),
      hresolves _ _ (by decide +kernel) (.standard (.any rfl)),
      hresolves _ _ (by decide +kernel) (.unknown hunknown rfl)⟩
  · obtain ⟨o, ho, -⟩ := hresolves "Shape" _ (by decide +kernel) (.unknown hunknown rfl)
    have hself : (t "Shape").paramType? described =
        some (.optional (.sequence (some (.mapping (some (.literal [.string "disc"])))))) := rfl
    exact ⟨o, ho, hself, (resolve_outline (ht "Shape") ho described squeezed).2 _ hself⟩

end TypeExpr

end Toolbox
