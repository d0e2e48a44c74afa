import Toolbox.Proofs.Annotation.Acceptance
import Toolbox.Proofs.Cut

/-!
# What the names in an expanded body stand for

The expanded body binds the parameters one after the other, under the names they have in the
function, and the items around it have names of their own.  So a name that the expansion relies on
may be taken: that of the map from which every step takes its argument, or that of the function
itself.  A body is well scoped exactly if that does not happen (`expand_wellScoped_iff`).
-/

namespace Toolbox

/-- What a name stands for. -/
inductive Referent where
  /-- the annotated function -/
  | function
  /-- an item that stands around the expanded body -/
  | item
  /-- the map of arguments -/
  | map
  /-- the value of an argument -/
  | value (argument : String)
  deriving DecidableEq, Repr

/-- Identifiers with what they stand for, the innermost first. -/
abbrev Names := List (String × Referent)

namespace Names

/-- What an identifier stands for.  The mark of a raw identifier is no part of its name. -/
def referent? (names : Names) (identifier : String) : Option Referent :=
  (names.find? fun entry => unmarked entry.1 == unmarked identifier).map (·.2)

/-- Names behind a step. -/
def enter (names : Names) (b : Binding) : Names := (b.identifier, .value b.argument) :: names

def enterAll (names : Names) (steps : List Binding) : Names := steps.foldl enter names

variable {names : Names} {identifier : String}

theorem referent?_cons (name : String) (referent : Referent) :
    referent? ((name, referent) :: names) identifier =
      if unmarked name = unmarked identifier then some referent else names.referent? identifier := by
  unfold referent?
  by_cases h : unmarked name = unmarked identifier
  · simp [h]
  · simp [h]

theorem referent?_map_append (identifiers : List String) (referent : Referent) :
    referent? (identifiers.map (fun name => (name, referent)) ++ names) identifier =
      if unmarked identifier ∈ identifiers.map unmarked then some referent
      else names.referent? identifier := by
  induction identifiers with
  | nil => rfl
  | cons name identifiers ih =>
    rw [List.map_cons, List.cons_append, referent?_cons, ih, List.map_cons]
    by_cases h : unmarked name = unmarked identifier
    · rw [if_pos h, if_pos (h ▸ List.mem_cons_self)]
    · have hne : ¬unmarked identifier = unmarked name := fun heq => h heq.symm
      simp only [List.mem_cons, hne, false_or, if_neg h]

/-- A name that no step binds stands for what it stood for before. -/
theorem referent?_enterAll_of_not_mem {steps : List Binding}
    (h : unmarked identifier ∉ steps.map fun b => unmarked b.identifier) :
    (names.enterAll steps).referent? identifier = names.referent? identifier := by
  induction steps generalizing names with
  | nil => rfl
  | cons b steps ih =>
    rw [List.map_cons, List.mem_cons, not_or] at h
    have hne : ¬unmarked b.identifier = unmarked identifier := fun heq => h.1 heq.symm
    rw [enterAll, List.foldl_cons, ← enterAll, ih h.2, enter, referent?_cons, if_neg hne]

/-- A name that some step binds stands for the value of an argument. -/
theorem referent?_enterAll_of_mem {steps : List Binding}
    (h : unmarked identifier ∈ steps.map fun b => unmarked b.identifier) :
    ∃ argument, (names.enterAll steps).referent? identifier = some (.value argument) := by
  induction steps generalizing names with
  | nil => cases h
  | cons b steps ih =>
    rw [enterAll, List.foldl_cons, ← enterAll]
    by_cases hlater : unmarked identifier ∈ steps.map fun b => unmarked b.identifier
    · exact ih hlater
    · have hfirst : unmarked b.identifier = unmarked identifier := by
        rcases List.mem_cons.mp h with heq | hmem
        · exact heq.symm
        · exact absurd hmem hlater
      refine ⟨b.argument, ?_⟩
      rw [referent?_enterAll_of_not_mem hlater, enter, referent?_cons, if_pos hfirst]

/-- What a name stood for that is not the value of an argument, it stands for behind steps exactly if
none of them binds it. -/
theorem referent?_enterAll_iff {steps : List Binding} {referent : Referent}
    (hreferent : ∀ argument, referent ≠ .value argument) :
    (names.enterAll steps).referent? identifier = some referent ↔
      unmarked identifier ∉ (steps.map fun b => unmarked b.identifier) ∧
        names.referent? identifier = some referent := by
  by_cases h : unmarked identifier ∈ steps.map fun b => unmarked b.identifier
  · obtain ⟨argument, hvalue⟩ : ∃ argument,
        (names.enterAll steps).referent? identifier = some (.value argument) :=
      referent?_enterAll_of_mem h
    rw [hvalue]
    constructor
    · intro heq
      exact absurd (Option.some.inj heq).symm (hreferent argument)
    · intro hnot
      exact absurd h hnot.1
  · rw [referent?_enterAll_of_not_mem h]
    exact ⟨fun heq => ⟨h, heq⟩, fun hboth => hboth.2⟩

end Names

namespace Expansion

/-- Names of the items that stand around an expanded body. -/
def itemNames : List String := ["__TOOL_NAME", "__signature", "__invoke", "__DECLARATION"]

/-- Names that an expansion uses itself. -/
def ownNames : List String := Argument.mapName :: itemNames

/-- Names in front of the first step: that of the function lies outermost. -/
def outerNames (e : Expansion) : Names :=
  (Argument.mapName, .map) :: itemNames.map (fun name => (name, Referent.item))
    ++ [(e.function.name, .function)]

/-- In front of each step the name of the map stands for the map, and behind all of them that of the
function for the function. -/
structure WellScoped (e : Expansion) : Prop where
  steps : ∀ before b after, e.bindings = before ++ b :: after →
    (e.outerNames.enterAll before).referent? b.source = some .map
  call : (e.outerNames.enterAll e.bindings).referent? e.call.function = some .function

theorem referent?_outerNames_mapName (e : Expansion) :
    e.outerNames.referent? Argument.mapName = some .map := by
  rw [outerNames, List.cons_append, Names.referent?_cons, if_pos rfl]

/-- The function can be called by its name from inside unless that is a name of the expansion. -/
theorem referent?_outerNames_function (e : Expansion) :
    e.outerNames.referent? e.function.name = some .function ↔ unmarked e.function.name ∉ ownNames := by
  have hown : ownNames = [Argument.mapName].map unmarked ++ itemNames.map unmarked := by decide +kernel
  have hinnermost : e.outerNames = [Argument.mapName].map (fun name => (name, Referent.map)) ++
      (itemNames.map (fun name => (name, Referent.item)) ++ [(e.function.name, .function)]) := rfl
  rw [hown, List.mem_append, not_or, hinnermost, Names.referent?_map_append,
    Names.referent?_map_append, Names.referent?_cons, if_pos rfl]
  by_cases hmap : unmarked e.function.name ∈ [Argument.mapName].map unmarked
  · rw [if_pos hmap]
    constructor
    · intro heq
      cases heq
    · intro hnot
      exact absurd hmap hnot.1
  · rw [if_neg hmap]
    by_cases hitem : unmarked e.function.name ∈ itemNames.map unmarked
    · rw [if_pos hitem]
      constructor
      · intro heq
        cases heq
      · intro hnot
        exact absurd hitem hnot.2
    · rw [if_neg hitem]
      exact ⟨fun _ => ⟨hmap, hitem⟩, fun _ => rfl⟩

end Expansion

namespace DeclaredFunction

variable {f : DeclaredFunction} {attributes : ToolAttributes} {e : Expansion}

/-- Whatever function a tool is made of, in its expanded body every step reads the map of arguments
and the call goes to the function exactly if the name of the function is neither used by the
expansion itself nor the name of a parameter, and no parameter but the last is named like the
map. -/
theorem expand_wellScoped_iff (h : f.expand attributes = .ok e) :
    e.WellScoped ↔
      unmarked f.name ∉ Expansion.ownNames ∧ unmarked f.name ∉ f.argumentNames ∧
        Argument.mapName ∉ f.argumentNames.dropLast := by
  obtain ⟨haccepts, hfunction, -⟩ := expand_eq_ok h
  have hname : e.function.name = f.name := by rw [hfunction]
  have hcall : e.call.function = e.function.name := rfl
  have hmark : unmarked Argument.mapName = Argument.mapName := by decide +kernel
  have harguments : (e.bindings.map fun b => unmarked b.identifier) = f.argumentNames := by
    rw [argumentNames, argumentNames_of_accepts haccepts, Expansion.bindings, List.map_map]
    rfl
  have hsource : ∀ b ∈ e.bindings, b.source = Argument.mapName := by
    intro b hb
    obtain ⟨a, -, rfl⟩ := List.mem_map.mp hb
    rfl
  -- a step reads the map unless one before it is named like the map
  have hsteps : (∀ before b after, e.bindings = before ++ b :: after →
      (e.outerNames.enterAll before).referent? b.source = some .map) ↔
        Argument.mapName ∉ f.argumentNames.dropLast := by
    rw [← harguments, ← forall_not_mem_before_iff]
    refine forall_congr' fun before => forall_congr' fun b => forall_congr' fun after =>
      forall_congr' fun hsplit => ?_
    have hb : b ∈ e.bindings := by
      rw [hsplit]
      exact List.mem_append_right _ List.mem_cons_self
    rw [hsource b hb, Names.referent?_enterAll_iff (by simp), hmark]
    exact and_iff_left e.referent?_outerNames_mapName
  have hfunction : (e.outerNames.enterAll e.bindings).referent? e.call.function = some .function ↔
      unmarked f.name ∉ f.argumentNames ∧ unmarked f.name ∉ Expansion.ownNames := by
    rw [hcall, Names.referent?_enterAll_iff (by simp), Expansion.referent?_outerNames_function,
      harguments, hname]
  constructor
  · rintro ⟨hmap, hto⟩
    obtain ⟨hargument, hown⟩ := hfunction.mp hto
    exact ⟨hown, hargument, hsteps.mp hmap⟩
  · rintro ⟨hown, hargument, hmap⟩
    exact ⟨hsteps.mpr hmap, hfunction.mpr ⟨hargument, hown⟩⟩

theorem lookUp_expand_wellScoped : ∃ e, lookUp.expand {} = .ok e ∧ e.WellScoped := by
  obtain ⟨e, he⟩ := exists_of_isSome_toOption (x := lookUp.expand {}) (by decide +kernel)
  exact ⟨e, he, (expand_wellScoped_iff he).mpr (by decide +kernel)⟩

/-- A documented function of this name whose parameters of these names are texts. -/
def taking (name : String) (params : List String) : DeclaredFunction :=
  { name
    attributes := [.doc " Does it."]
    params := params.map fun param =>
      { pattern := [.word param], type := .name (.ofWord "String") } }

/-- A parameter that is named like its function takes the place of the function in the call, and one
that is named like the map takes that of the map in the step behind it.  Both functions expand. -/
theorem expand_captures :
    (∃ e, (taking "search" ["search"]).expand {} = .ok e ∧ e.call.function = "search" ∧
        (e.outerNames.enterAll e.bindings).referent? "search" = some (.value "search") ∧
        ¬e.WellScoped) ∧
      ∃ e before b, (taking "store" ["__args", "key"]).expand {} = .ok e ∧
        e.bindings = before ++ [b] ∧ b.source = "__args" ∧
        (e.outerNames.enterAll before).referent? "__args" = some (.value "__args") ∧
        ¬e.WellScoped := by
  constructor
  · obtain ⟨e, he⟩ :=
      exists_of_isSome_toOption (x := (taking "search" ["search"]).expand {}) (by decide +kernel)
    have hbody : ((taking "search" ["search"]).expand {}).toOption.map (fun e =>
        (e.call.function, (e.outerNames.enterAll e.bindings).referent? "search")) =
          some ("search", some (.value "search")) := by decide +kernel
    rw [he] at hbody
    obtain ⟨hfunction, hreferent⟩ := Prod.mk.inj (Option.some.inj hbody)
    refine ⟨e, he, hfunction, hreferent, fun hscoped => ?_⟩
    have hcall := hscoped.call
    rw [hfunction, hreferent] at hcall
    cases hcall
  · obtain ⟨e, he⟩ :=
      exists_of_isSome_toOption (x := (taking "store" ["__args", "key"]).expand {}) (by decide +kernel)
    let step (name : String) : Binding :=
      { identifier := name, source := "__args", argument := name, type := [.word "String"] }
    have hbody : ((taking "store" ["__args", "key"]).expand {}).toOption.map (fun e =>
        (e.bindings, (e.outerNames.enterAll [step "__args"]).referent? "__args")) =
          some ([step "__args", step "key"], some (.value "__args")) := by decide +kernel
    rw [he] at hbody
    obtain ⟨hbindings, hreferent⟩ := Prod.mk.inj (Option.some.inj hbody)
    refine ⟨e, [step "__args"], step "key", he, hbindings, rfl, hreferent, fun hscoped => ?_⟩
    have hstep := hscoped.steps [step "__args"] (step "key") [] hbindings
    rw [show (step "key").source = "__args" from rfl, hreferent] at hstep
    cases hstep

end DeclaredFunction

end Toolbox
