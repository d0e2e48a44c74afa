import Toolbox.Proofs.Annotation.Acceptance
import Toolbox.Proofs.Text.Ascii

/-!
# Names of companions

The name of a companion joins the parts between the underscores of the function's name, each with a
capital, and ends in `Tool`.  All its characters are letters and digits, and it starts as the first
part does that is not empty (`pascalCase_cons`).  So it is an identifier unless that part starts with
a digit, as a part can behind an underscore (`companionName_plain_iff`).
-/

namespace Toolbox

/-- A character of a plain identifier. -/
def isPlainChar (c : Char) : Bool := c.isAlphanum || c == '_'

/-- A plain identifier: a letter or underscore, and then letters, digits and underscores, all of
ASCII. -/
def isPlain : List Char → Bool
  | [] => false
  | c :: rest => (c.isAlpha || c == '_') && rest.all isPlainChar

theorem isPlainChar_of_isPlain {s : List Char} (h : isPlain s = true) :
    ∀ c ∈ s, isPlainChar c = true := by
  cases s with
  | nil =>
    intro c hc
    cases hc
  | cons c rest =>
    obtain ⟨hfirst, hrest⟩ := Bool.and_eq_true_iff.mp h
    rw [List.forall_mem_cons]
    refine ⟨?_, List.all_eq_true.mp hrest⟩
    rcases Bool.or_eq_true_iff.mp hfirst with hletter | hunderscore
    · simp [isPlainChar, Char.isAlphanum, hletter]
    · simp [isPlainChar, hunderscore]

/-- A word of letters and digits is a plain identifier, and a word at all, unless it starts with a
digit. -/
theorem isPlain_cons_of_isAlphanum {c : Char} {rest : List Char}
    (h : ∀ d ∈ c :: rest, d.isAlphanum = true) :
    isPlain (c :: rest) = !c.isDigit ∧ Literal.isWord (c :: rest) = !c.isDigit := by
  obtain ⟨hc, hrest⟩ := List.forall_mem_cons.mp h
  have hplain : rest.all isPlainChar = true := by
    rw [List.all_eq_true]
    intro d hd
    rw [isPlainChar, hrest d hd, Bool.true_or]
  have hword : rest.all Literal.isWordChar = true := by
    rw [List.all_eq_true]
    intro d hd
    rw [Literal.isWordChar, hrest d hd, Bool.true_or, Bool.true_or]
  have hletter : (c.isAlpha || c == '_') = !c.isDigit :=
    Text.of_ascii (P := fun c => c.isAlphanum = true → (c.isAlpha || c == '_') = !c.isDigit)
      (by decide +kernel) (Text.ascii_of_isAlphanum hc) hc
  constructor
  · rw [isPlain, hplain, Bool.and_true, hletter]
  · rw [Literal.isWord, hword, Bool.and_true, Literal.isWordStart, Literal.isWordChar, hc,
      Bool.true_or, Bool.true_or, Bool.true_and]

namespace DeclaredFunction

/-! ## Camel case -/

theorem pascalCase_underscore (s : List Char) : pascalCase ('_' :: s) = pascalCase s := by
  unfold pascalCase
  rw [List.splitOn_cons_eq_if_modifyHead, beq_self_eq_true, if_pos rfl]
  rfl

/-- Leading underscores leave no trace. -/
theorem pascalCase_dropWhile (s : List Char) : pascalCase (s.dropWhile (· == '_')) = pascalCase s := by
  induction s with
  | nil => rfl
  | cons c s ih =>
    by_cases hc : c = '_'
    · subst hc
      rw [List.dropWhile_cons_of_pos rfl, ih, pascalCase_underscore]
    · rw [List.dropWhile_cons_of_neg (by simp [hc])]

theorem pascalCase_cons {c : Char} (hc : c ≠ '_') (s : List Char) :
    ∃ rest, pascalCase (c :: s) = Text.toUpper c ++ rest := by
  obtain ⟨part, parts, hparts⟩ := List.exists_cons_of_ne_nil (List.splitOn_ne_nil '_' s)
  refine ⟨part ++ parts.flatMap Text.capitalize, ?_⟩
  unfold pascalCase
  rw [List.splitOn_cons_eq_if_modifyHead, if_neg (by simp [hc]), hparts]
  simp [Text.capitalize]

/-- The parts between underscores hold none. -/
theorem mem_part {s part : List Char} (h : part ∈ s.splitOn '_') :
    ∀ c ∈ part, c ∈ s ∧ c ≠ '_' := by
  induction s generalizing part with
  | nil =>
    rw [List.splitOn_nil, List.mem_singleton] at h
    subst h
    intro c hc
    cases hc
  | cons d s ih =>
    obtain ⟨first, parts, hparts⟩ := List.exists_cons_of_ne_nil (List.splitOn_ne_nil '_' s)
    rw [hparts] at ih
    rw [List.splitOn_cons_eq_if_modifyHead, hparts] at h
    by_cases hd : d = '_'
    · subst hd
      rw [beq_self_eq_true, if_pos rfl] at h
      intro c hc
      rcases List.mem_cons.mp h with rfl | h
      · cases hc
      · obtain ⟨hmem, hne⟩ := ih h c hc
        exact ⟨List.mem_cons_of_mem _ hmem, hne⟩
    · rw [if_neg (by simp [hd]), List.modifyHead_cons] at h
      intro c hc
      rcases List.mem_cons.mp h with rfl | h
      · rcases List.mem_cons.mp hc with rfl | hc
        · exact ⟨List.mem_cons_self, hd⟩
        · obtain ⟨hmem, hne⟩ := ih List.mem_cons_self c hc
          exact ⟨List.mem_cons_of_mem _ hmem, hne⟩
      · obtain ⟨hmem, hne⟩ := ih (List.mem_cons_of_mem _ h) c hc
        exact ⟨List.mem_cons_of_mem _ hmem, hne⟩

theorem isAlphanum_capitalize {part : List Char} (h : ∀ c ∈ part, c.isAlphanum = true) :
    ∀ c ∈ Text.capitalize part, c.isAlphanum = true := by
  cases part with
  | nil => exact h
  | cons d part =>
    obtain ⟨hd, hpart⟩ := List.forall_mem_cons.mp h
    rw [Text.capitalize, Text.toUpper_of_ascii (Text.ascii_of_isAlphanum hd), List.singleton_append,
      List.forall_mem_cons]
    exact ⟨(Text.isAlphanum_toUpper hd).1, hpart⟩

theorem isAlphanum_pascalCase {s : List Char} (h : ∀ c ∈ s, isPlainChar c = true) :
    ∀ c ∈ pascalCase s, c.isAlphanum = true := by
  intro c hc
  obtain ⟨part, hpart, hc⟩ := List.mem_flatMap.mp hc
  refine isAlphanum_capitalize (fun d hd => ?_) c hc
  obtain ⟨hmem, hne⟩ := mem_part hpart d hd
  rcases Bool.or_eq_true_iff.mp (h d hmem) with halnum | hunderscore
  · exact halnum
  · exact absurd (beq_iff_eq.mp hunderscore) hne

/-! ## The name of the companion -/

/-- The first character of a name behind its leading underscores. -/
def leading? (name : String) : Option Char := (name.toList.dropWhile (· == '_')).head?

variable {f : DeclaredFunction} {attributes : ToolAttributes}

theorem toList_companionName (f : DeclaredFunction) :
    f.companionName.toList =
      pascalCase ((unmarked f.name).toList.dropWhile (· == '_')) ++ "Tool".toList := by
  rw [companionName, String.toList_append, String.toList_ofList, pascalCase_dropWhile]

/-- Of a companion's name, the first character decides whether it is legal. -/
theorem companionName_legal (h : isPlain (unmarked f.name).toList = true) :
    isPlain f.companionName.toList = !(leading? (unmarked f.name)).any Char.isDigit ∧
      Literal.isWord f.companionName.toList = isPlain f.companionName.toList := by
  have hplain := isPlainChar_of_isPlain h
  have halnum : ∀ c ∈ f.companionName.toList, c.isAlphanum = true := by
    have htool : ∀ c ∈ "Tool".toList, c.isAlphanum = true := List.all_eq_true.mp (by decide)
    rw [toList_companionName, pascalCase_dropWhile]
    intro c hc
    rcases List.mem_append.mp hc with hc | hc
    · exact isAlphanum_pascalCase hplain c hc
    · exact htool c hc
  unfold leading?
  rw [toList_companionName] at halnum ⊢
  cases hname : (unmarked f.name).toList.dropWhile (· == '_') with
  | nil => exact ⟨by decide, by decide⟩
  | cons c rest =>
    have hmem : c ∈ (unmarked f.name).toList :=
      (List.dropWhile_suffix _).subset (hname ▸ List.mem_cons_self)
    have hc : c ≠ '_' := by
      intro heq
      have hhead := List.head?_dropWhile_not (· == '_') (unmarked f.name).toList
      rw [hname, List.head?_cons] at hhead
      simp [heq] at hhead
    have hcalnum : c.isAlphanum = true := by
      rcases Bool.or_eq_true_iff.mp (hplain c hmem) with halnum | hunderscore
      · exact halnum
      · exact absurd (beq_iff_eq.mp hunderscore) hc
    obtain ⟨tail, htail⟩ := pascalCase_cons hc rest
    rw [hname, htail, Text.toUpper_of_ascii (Text.ascii_of_isAlphanum hcalnum)] at halnum
    rw [htail, Text.toUpper_of_ascii (Text.ascii_of_isAlphanum hcalnum)]
    obtain ⟨hlegal, hword⟩ := isPlain_cons_of_isAlphanum halnum
    rw [(Text.isAlphanum_toUpper hcalnum).2.2] at hlegal hword
    exact ⟨hlegal, hword.trans hlegal.symm⟩

/-- For a function with a plain name, raw or not, the name of the companion is a plain identifier
exactly if no digit stands first behind the underscores at the start.  Nothing but a digit there
keeps a function from expanding that is described and passes the checks. -/
theorem companionName_plain_iff (hname : isPlain (unmarked f.name).toList = true) :
    (isPlain f.companionName.toList = true ↔
        ∀ c, leading? (unmarked f.name) = some c → c.isDigit = false) ∧
      ∀ attributes, f.Admissible → (f.description? attributes).isSome = true →
        ((∃ e, f.expand attributes = .ok e ∧ e.companion.name = f.companionName) ↔
            isPlain f.companionName.toList = true) ∧
          (f.expand attributes = .error [.illegalCompanion f.companionName] ↔
            isPlain f.companionName.toList = false) := by
  obtain ⟨hlegal, hword⟩ := companionName_legal hname
  constructor
  · rw [hlegal]
    cases leading? (unmarked f.name) with
    | none => simp
    | some c => simp
  · intro attributes hadmissible hdescribed
    obtain ⟨as, -, houtcome⟩ := expand_of_admissible hadmissible attributes
    obtain ⟨description, hdescription⟩ := Option.isSome_iff_exists.mp hdescribed
    simp only [hdescription, hword] at houtcome
    rw [houtcome]
    cases hplain : isPlain f.companionName.toList with
    | true =>
      rw [if_pos rfl]
      refine ⟨⟨fun _ => rfl, fun _ => ⟨_, rfl, rfl⟩⟩, ⟨fun h => ?_, fun h => ?_⟩⟩
      · cases h
      · cases h
    | false =>
      rw [if_neg Bool.false_ne_true]
      refine ⟨⟨?_, fun h => ?_⟩, ⟨fun _ => rfl, fun _ => rfl⟩⟩
      · rintro ⟨e, h, -⟩
        cases h
      · cases h

/-- A documented function of this name, without parameters. -/
def documented (name : String) : DeclaredFunction := { name, attributes := [.doc " Does it."] }

theorem admissible_documented (name : String) : (documented name).Admissible where
  function := rfl
  params := by
    intro p hp
    cases hp

theorem companionName_plain_underscores :
    isPlain (documented "r#_get__weather_2").companionName.toList = true ∧
      ∃ e, (documented "r#_get__weather_2").expand {} = .ok e ∧
        e.companion.name = "GetWeather2Tool" := by
  have hname : (documented "r#_get__weather_2").companionName = "GetWeather2Tool" := by
    decide +kernel
  obtain ⟨hplain, hexpands⟩ :=
    companionName_plain_iff (f := documented "r#_get__weather_2") (by decide +kernel)
  have hletter : leading? (unmarked (documented "r#_get__weather_2").name) = some 'g' := by
    decide +kernel
  have hlegal := hplain.mpr (by
    rw [hletter]
    rintro c ⟨⟩
    rfl)
  have hexpands := (hexpands {} (admissible_documented _) (by decide +kernel)).1.mpr hlegal
  rw [hname] at hexpands
  exact ⟨hlegal, hexpands⟩

/-- Behind an underscore, a digit comes to stand first in the name of the companion. -/
theorem companionName_digit :
    isPlain "_1".toList = true ∧ (documented "_1").companionName = "1Tool" ∧
      isPlain "1Tool".toList = false ∧
      (documented "_1").expand {} = .error [.illegalCompanion "1Tool"] := by
  refine ⟨by decide, by decide +kernel, by decide, ?_⟩
  obtain ⟨as, -, houtcome⟩ := expand_of_admissible (admissible_documented "_1") {}
  rw [houtcome]
  rfl

end DeclaredFunction

end Toolbox
