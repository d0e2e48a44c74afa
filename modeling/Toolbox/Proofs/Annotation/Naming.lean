import Toolbox.Annotation.Function
import Toolbox.Proofs.Annotation.Options
import Toolbox.Proofs.Annotation.RenameRule

/-!
# The literals of an enumeration are the names it is decoded by

A decoder names a variant by the name that is given for it, or by its identifier, less the mark of a
raw one, as the rule of the enumeration spells it.  What is listed for an enumeration of unit
variants takes the identifier as it is written.  Both agree exactly where no variant that is decoded
by its identifier has a raw one (`outline_decoded_iff`), since no rule drops the mark.
-/

namespace Toolbox

/-- A unit variant with the attributes that name it. -/
structure UnitVariant where
  identifier : String
  attributes : List NamingAttribute := []

namespace UnitVariant

def declared (v : UnitVariant) : Variant :=
  { name := v.identifier, attributes := v.attributes.map (·.written) }

def options (v : UnitVariant) : List NamingOption := v.attributes.flatMap (·.options)

/-- Whether all names that are given for the variant are ones for decoding as well. -/
def isLegible (v : UnitVariant) : Bool := v.options.all NamingOption.isLegible

/-- Whether a variant is never decoded. -/
def isSkipped (v : UnitVariant) : Bool := v.options.any NamingOption.skips

/-- The name that is given for the variant. -/
def rename? (v : UnitVariant) : Option String :=
  (v.options.filterMap NamingOption.name?).getLast?

end UnitVariant

/-- An identifier as a rule spells it. -/
def spelledBy (rule : Option RenameRule) (identifier : String) : String :=
  match rule with
  | some rule => String.ofList (RenameRule.spelled identifier.toList rule)
  | none => identifier

def ruleNames : List (String × RenameRule) :=
  [("lowercase", .lower), ("UPPERCASE", .upper), ("PascalCase", .pascal), ("camelCase", .camel),
   ("snake_case", .snake), ("SCREAMING_SNAKE_CASE", .screamingSnake), ("kebab-case", .kebab),
   ("SCREAMING-KEBAB-CASE", .screamingKebab)]

/-- An enumeration of unit variants with the attributes that name them. -/
structure UnitEnumeration where
  identifier : String
  attributes : List NamingAttribute := []
  variants : List UnitVariant

namespace UnitEnumeration

def declared (e : UnitEnumeration) : TypeDeclaration where
  name := e.identifier
  attributes := e.attributes.map (·.written)
  shape := .enumeration (e.variants.map UnitVariant.declared)

def options (e : UnitEnumeration) : List NamingOption := e.attributes.flatMap (·.options)

/-- The name of the rule that is given for the variants; the last one counts. -/
def ruleName? (e : UnitEnumeration) : Option String :=
  (e.options.filterMap NamingOption.rule?).getLast?

/-- The rule for the variants. -/
def rule? (e : UnitEnumeration) : Option RenameRule :=
  e.ruleName?.bind fun name => ruleNames.lookup name

/-- The variants that are decoded. -/
def decoded (e : UnitEnumeration) : List UnitVariant := e.variants.filter (!·.isSkipped)

/-- The name that a variant is decoded by. -/
def decodedName (e : UnitEnumeration) (v : UnitVariant) : String :=
  v.rename?.getD (spelledBy e.rule? (unmarked v.identifier))

/-- The name that is listed for a variant. -/
def listedName (e : UnitEnumeration) (v : UnitVariant) : String :=
  v.rename?.getD (spelledBy e.rule? v.identifier)

/-- Whether all characters of identifiers are of ASCII. -/
def IsAscii (e : UnitEnumeration) : Prop :=
  ∀ v ∈ e.variants, ∀ c ∈ v.identifier.toList, c.toNat < 128

instance (e : UnitEnumeration) : Decidable e.IsAscii :=
  decidable_of_iff (e.variants.all fun v => v.identifier.toList.all fun c => c.toNat < 128) (by
    simp only [IsAscii, List.all_eq_true, decide_eq_true_eq])

/-- Whether the rule that is given for the variants, if any, is one that is known. -/
def isRuleKnown (e : UnitEnumeration) : Bool :=
  e.ruleName?.all fun name => (ruleNames.lookup name).isSome

/-- Whether an enumeration has names to list. -/
def hasNames (e : UnitEnumeration) : Bool :=
  e.options.all NamingOption.isLegible && e.isRuleKnown &&
    e.variants.all UnitVariant.isLegible && !e.decoded.isEmpty

end UnitEnumeration

/-! ## Spelling -/

/-- What is made of an identifier is how the rule spells it. -/
theorem renamed_eq_spelledBy (rule : Option RenameRule) {identifier : String}
    (h : ∀ c ∈ identifier.toList, c.toNat < 128) :
    (match rule with
      | some rule => String.ofList (rule.apply identifier.toList)
      | none => identifier) = spelledBy rule identifier := by
  cases rule with
  | none => rfl
  | some rule =>
    show String.ofList _ = String.ofList _
    rw [RenameRule.apply_eq_spelled h]

/-- A spelling is that of the name alone only if there is no mark to drop. -/
theorem spelledBy_unmarked_iff (rule : Option RenameRule) (identifier : String) :
    spelledBy rule identifier = spelledBy rule (unmarked identifier) ↔
      unmarked identifier = identifier := by
  constructor
  · intro h
    cases rule with
    | none => exact h.symm
    | some rule =>
      unfold unmarked at h ⊢
      split at h
      next rest hraw =>
        have hlists := congrArg String.toList h
        rw [spelledBy, spelledBy, String.toList_ofList, String.toList_ofList, String.toList_ofList,
          hraw] at hlists
        have hlengths := congrArg List.length hlists
        have hlonger := RenameRule.length_spelled_raw rest rule
        omega
      next => rfl
  · intro h
    rw [h]

theorem ofName?_eq_lookup (name : String) : RenameRule.ofName? name = ruleNames.lookup name := by
  unfold RenameRule.ofName? ruleNames
  split
  case h_9 =>
    symm
    rw [List.lookup_eq_none_iff]
    simp_all
  all_goals rfl

/-! ## Reading of enumerations -/

theorem toOption_bind {ε α β : Type} (x : Except ε α) (f : α → Except ε β) :
    (x >>= f).toOption = x.toOption.bind fun a => (f a).toOption := by
  cases x <;> rfl

theorem toOption_eq_some_iff {ε α : Type} {x : Except ε α} {a : α} :
    x.toOption = some a ↔ x = .ok a := by
  cases x <;> simp [Except.toOption]

namespace UnitVariant

theorem toOption_read (v : UnitVariant) :
    (EncodingOptions.read v.declared.attributes).toOption =
      if v.isLegible then some (NamingOption.summary v.options) else none :=
  NamingOption.toOption_read v.attributes

end UnitVariant

open TypeDeclaration

theorem variantNames_cons (rule : Option RenameRule) (v : UnitVariant) (vs : List Variant) :
    variantNames rule (v.declared :: vs) = (do
      let options ← EncodingOptions.read v.declared.attributes
      if options.skipped then variantNames rule vs
      else
        let renamed := match rule with
          | some rule => String.ofList (rule.apply v.identifier.toList)
          | none => v.identifier
        return options.rename.getD renamed :: (← variantNames rule vs)) := rfl

/-- Variants with legible options are named in order, less those that are skipped. -/
theorem toOption_variantNames (rule : Option RenameRule) {vs : List UnitVariant}
    (hascii : ∀ v ∈ vs, ∀ c ∈ v.identifier.toList, c.toNat < 128) :
    (variantNames rule (vs.map UnitVariant.declared)).toOption =
      if vs.all UnitVariant.isLegible then
        some ((vs.filter (!·.isSkipped)).map fun v => v.rename?.getD (spelledBy rule v.identifier))
      else none := by
  induction vs with
  | nil => rfl
  | cons v vs ih =>
    obtain ⟨hv, hvs⟩ := List.forall_mem_cons.mp hascii
    have ih := ih hvs
    have hskipped : (NamingOption.summary v.options).skipped = v.isSkipped := rfl
    have hrename : (NamingOption.summary v.options).rename = v.rename? := rfl
    rw [List.map_cons, variantNames_cons, toOption_bind, v.toOption_read, List.all_cons]
    cases hlegible : v.isLegible with
    | false => rfl
    | true =>
      rw [if_pos rfl, Option.bind_some, Bool.true_and, hskipped, hrename,
        renamed_eq_spelledBy rule hv]
      cases hskip : v.isSkipped with
      | true =>
        rw [if_pos rfl, List.filter_cons_of_neg (by simp [hskip])]
        exact ih
      | false =>
        rw [if_neg Bool.false_ne_true, List.filter_cons_of_pos (by simp [hskip]), toOption_bind, ih]
        split <;> rfl

namespace UnitEnumeration

variable {e : UnitEnumeration}

theorem toOption_read (e : UnitEnumeration) :
    (EncodingOptions.read e.declared.attributes).toOption =
      if e.options.all NamingOption.isLegible then some (NamingOption.summary e.options)
      else none :=
  NamingOption.toOption_read e.attributes

/-- What is listed for variants, with the options of the enumeration read. -/
def listing (options : EncodingOptions) (variants : List Variant) :
    Except EnumerationFault Outline := do
  let names ← variantNames (← renameRule? options) variants
  if names.isEmpty then throw .noVariants
  return .literal names

theorem toOption_renameRule? (e : UnitEnumeration) :
    (renameRule? (NamingOption.summary e.options)).toOption =
      if e.isRuleKnown then some e.rule? else none := by
  have hname : (NamingOption.summary e.options).renameAll = e.ruleName? := rfl
  unfold renameRule? isRuleKnown rule?
  rw [hname]
  cases e.ruleName? with
  | none => rfl
  | some name =>
    simp only [Option.all_some, Option.bind_some, ofName?_eq_lookup]
    cases ruleNames.lookup name <;> rfl

theorem toOption_listing (hascii : e.IsAscii) :
    (listing (NamingOption.summary e.options)
      (e.variants.map UnitVariant.declared)).toOption =
      if e.isRuleKnown && e.variants.all UnitVariant.isLegible && !e.decoded.isEmpty then
        some (.literal (e.decoded.map e.listedName))
      else none := by
  rw [listing, toOption_bind, e.toOption_renameRule?]
  cases e.isRuleKnown with
  | false => rfl
  | true =>
    rw [if_pos rfl, Option.bind_some, toOption_bind, toOption_variantNames _ hascii, Bool.true_and]
    cases e.variants.all UnitVariant.isLegible with
    | false => rfl
    | true =>
      rw [if_pos rfl, Option.bind_some, Bool.true_and]
      unfold listedName decoded
      cases e.variants.filter (!·.isSkipped) <;> rfl

/-- An enumeration has an outline if its options are legible and name a known rule, unless nothing
of it is decoded; the outline lists names that keep the identifiers as they are written. -/
theorem toOption_outline (hascii : e.IsAscii) :
    e.declared.outline.toOption =
      if e.hasNames then some (.literal (e.decoded.map e.listedName)) else none := by
  have houtline : e.declared.outline = (do
    let options ← EncodingOptions.read e.declared.attributes
    if options.tag.isSome then throw .tagged
    if options.untagged then
      return .union (← untaggedMembers (e.variants.map UnitVariant.declared))
    else listing options (e.variants.map UnitVariant.declared)) := rfl
  rw [houtline, toOption_bind, e.toOption_read, hasNames]
  cases e.options.all NamingOption.isLegible with
  | false => rfl
  | true =>
    rw [if_pos rfl, Option.bind_some, Bool.true_and, ← toOption_listing hascii]
    rfl

theorem outline_eq_ok_iff (hascii : e.IsAscii) {o : Outline} :
    e.declared.outline = .ok o ↔
      e.hasNames = true ∧ o = .literal (e.decoded.map e.listedName) := by
  rw [← toOption_eq_some_iff, toOption_outline hascii, Option.ite_none_right_eq_some,
    Option.some.injEq]
  exact and_congr_right fun _ => eq_comm

/-- Whatever enumeration of unit variants has an outline lists, in order, the variants that are
decoded: by the names given for them, or else by their identifiers, spelled as they are written.
These are the names they are decoded by exactly if no variant that goes by its identifier has a raw
one. -/
theorem outline_decoded_iff (hascii : e.IsAscii) :
    ((∃ o, e.declared.outline = .ok o) ↔ e.hasNames = true) ∧
      ∀ o, e.declared.outline = .ok o →
        o = .literal (e.decoded.map e.listedName) ∧
          (o = .literal (e.decoded.map e.decodedName) ↔
            ∀ v ∈ e.decoded, v.rename? = none → unmarked v.identifier = v.identifier) := by
  constructor
  · constructor
    · rintro ⟨o, ho⟩
      exact ((outline_eq_ok_iff hascii).mp ho).1
    · intro hnames
      exact ⟨_, (outline_eq_ok_iff hascii).mpr ⟨hnames, rfl⟩⟩
  · intro o ho
    obtain ⟨-, rfl⟩ := (outline_eq_ok_iff hascii).mp ho
    refine ⟨rfl, ?_⟩
    rw [Outline.literal.injEq, List.map_inj_left]
    refine forall_congr' fun v => forall_congr' fun hv => ?_
    unfold listedName decodedName
    cases v.rename? with
    | none => simp [spelledBy_unmarked_iff]
    | some name => simp

/-- An enumeration with attributes of several kinds. -/
def weather : UnitEnumeration where
  identifier := "Weather"
  attributes := [.other { path := { name := "non_exhaustive" } } (by decide),
    .naming [.renameAll (.split [(.serialize, ⟨"\"UPPERCASE\"", "UPPERCASE"⟩),
      (.deserialize, ⟨"\"kebab-case\"", "kebab-case"⟩)])]]
  variants :=
    [{ identifier := "LightRain" },
     { identifier := "r#Hail", attributes := [.naming [.rename (.plain ⟨"\"ice\"", "ice"⟩)]] },
     { identifier := "Fog", attributes := [.naming [.skip]] },
     { identifier := "HTTPError" }]

theorem outline_weather :
    weather.declared.outline = .ok (.literal ["light-rain", "ice", "h-t-t-p-error"]) := by
  have hascii : weather.IsAscii := by decide +kernel
  obtain ⟨haccepted, hlisted⟩ := outline_decoded_iff hascii
  obtain ⟨o, ho⟩ := haccepted.mpr (by decide +kernel)
  have hdecoded := (hlisted o ho).2.mpr (by decide +kernel)
  have hnames : weather.decoded.map weather.decodedName =
      ["light-rain", "ice", "h-t-t-p-error"] := by decide +kernel
  rw [ho, hdecoded, hnames]

/-- An enumeration whose only variant has a raw identifier. -/
def keyword : UnitEnumeration := { identifier := "E", variants := [{ identifier := "r#type" }] }

/-- The variant is decoded by `type`, but it is listed as its identifier is written. -/
theorem outline_keyword :
    keyword.IsAscii ∧ keyword.declared.outline = .ok (.literal ["r#type"]) ∧
      keyword.decoded.map keyword.decodedName = ["type"] :=
  ⟨by decide +kernel, rfl, by decide +kernel⟩

end UnitEnumeration

end Toolbox
