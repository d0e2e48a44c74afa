import Toolbox.Proofs.Annotation.Agreement
import Toolbox.Proofs.Annotation.Alignment

/-!
# What parameters borrow

An outline checks the whole type and then, on its way down, every type that it unwraps.  The tokens
of what is inside a type are among those of the type (`tokens_subset_of_mem_ofArgs` and its
siblings), so whatever the first check finds free of borrows and bounds is free of them all the way
down (`exists_outline_of_plain`).  The only borrow that passes the first check is taken off in one
step or two, and so no later check finds fault where the first one did not
(`outline_eq_error_iff`).
-/

namespace Toolbox

namespace TypeExpr

open Token

/-- Whether a type is a reference to another one, mutable or not, or an option of such a reference.
The name of the option may stand inside of others, and lifetimes and constants may stand beside the
reference, but no other type. -/
inductive Refers : TypeExpr → Bool → TypeExpr → Prop
  | reference (lifetime : Option String) (isMut : Bool) (referent : TypeExpr) :
    Refers (.reference lifetime isMut referent) isMut referent
  | option {path : NamePath} {args : List GenericArg} {isMut : Bool} (style : ArgumentStyle)
      (lifetime : Option String) (referent : TypeExpr) (hname : path.name = "Option")
      (hargs : ofArgs args = [.reference lifetime isMut referent]) :
    Refers (.generic path style args) isMut referent

theorem mentionsBounds_iff (t : TypeExpr) : t.mentionsBounds = true ↔ .word "impl" ∈ t.tokens := by
  unfold mentionsBounds
  rw [List.any_eq_true]
  constructor
  · rintro ⟨token, hmem, hword⟩
    cases token with
    | word name =>
      have hname : "impl" = name := beq_iff_eq.mp hword
      rwa [hname]
    | mark | text | literal => cases hword
  · intro hmem
    exact ⟨_, hmem, beq_self_eq_true "impl"⟩

/-! ## What is inside of a type -/

theorem mem_intercalate {α : Type} (mark : α) {a : α} {as : List α} {parts : List (List α)}
    (hpart : as ∈ parts) (ha : a ∈ as) : a ∈ [mark].intercalate parts := by
  induction parts with
  | nil => cases hpart
  | cons part parts ih =>
    cases parts with
    | nil =>
      rw [List.mem_singleton.mp hpart] at ha
      rwa [List.intercalate_singleton]
    | cons next parts =>
      rw [List.intercalate_cons_cons, List.mem_append, List.mem_append]
      rcases List.mem_cons.mp hpart with rfl | hpart
      · exact Or.inl (Or.inl ha)
      · exact Or.inr (ih hpart)

theorem subset_inBrackets (comma : Bool) {pieces : List (Bool × List Token)}
    {piece : Bool × List Token} (h : piece ∈ pieces) : piece.2 ⊆ inBrackets comma pieces := by
  intro token htoken
  -- lifetimes go first, but nothing is dropped
  have hpiece : piece ∈ (pieces.partition (·.1)).1 ++ (pieces.partition (·.1)).2 := by
    rw [List.partition_eq_filter_filter, List.mem_append, List.mem_filter, List.mem_filter]
    cases hlifetime : piece.1 <;> simp [h, hlifetime]
  have hparts := mem_intercalate (.mark ',') (List.mem_map_of_mem (f := (·.2)) hpiece) htoken
  unfold inBrackets
  exact List.mem_append_left _ (List.mem_append_left _ (List.mem_append_right _ hparts))

theorem mem_pieces {args : List GenericArg} {t : TypeExpr} (h : t ∈ ofArgs args) :
    (false, t.tokens) ∈ pieces args := by
  induction args with
  | nil => cases h
  | cons arg args ih =>
    cases arg with
    | type s =>
      rcases List.mem_cons.mp h with rfl | h
      · exact List.mem_cons_self
      · exact List.mem_cons_of_mem _ (ih h)
    | lifetime | other => exact List.mem_cons_of_mem _ (ih h)

theorem tokens_subset_of_mem_ofArgs {args : List GenericArg} {t : TypeExpr} (h : t ∈ ofArgs args)
    (path : NamePath) (style : ArgumentStyle) : t.tokens ⊆ (generic path style args).tokens :=
  fun _ ht => List.mem_append_right _ (subset_inBrackets style.comma (mem_pieces h) ht)

theorem tokens_subset_reference (lifetime : Option String) (isMut : Bool) (t : TypeExpr) :
    t.tokens ⊆ (reference lifetime isMut t).tokens :=
  fun _ ht => List.mem_append_right _ ht

theorem tokens_subset_slice (t : TypeExpr) : t.tokens ⊆ (slice t).tokens :=
  fun _ ht => List.mem_append_left _ (List.mem_append_right _ ht)

theorem tokens_subset_array (t : TypeExpr) (length : List Token) :
    t.tokens ⊆ (array t length).tokens := fun _ ht =>
  List.mem_append_left _ (List.mem_append_left _ (List.mem_append_left _
    (List.mem_append_right _ ht)))

theorem tokens_subset_paren (t : TypeExpr) : t.tokens ⊆ (paren t).tokens :=
  fun _ ht => List.mem_append_left _ (List.mem_append_right _ ht)

/-- Induction over types, with a hypothesis for each type among the arguments. -/
@[elab_as_elim]
theorem induction {P : TypeExpr → Prop} (name : ∀ path, P (.name path))
    (generic : ∀ path style args, (∀ t ∈ ofArgs args, P t) → P (.generic path style args))
    (reference : ∀ lifetime isMut t, P t → P (.reference lifetime isMut t))
    (slice : ∀ t, P t → P (.slice t)) (array : ∀ t length, P t → P (.array t length))
    (unit : P .unit) (paren : ∀ t, P t → P (.paren t)) (group : ∀ t, P t → P (.group t))
    (bounded : ∀ bounds, P (.bounded bounds)) (other : ∀ source, P (.other source))
    (t : TypeExpr) : P t := by
  refine TypeExpr.rec (motive_1 := P) (motive_2 := fun arg => ∀ t ∈ ofArgs [arg], P t)
    (motive_3 := fun args => ∀ t ∈ ofArgs args, P t) name generic reference slice array unit paren
    group bounded other ?_ ?_ ?_ ?_ ?_ t
  · intro s hs t ht
    rwa [List.mem_singleton.mp ht]
  · intro label t ht
    cases ht
  · intro source t ht
    cases ht
  · intro t ht
    cases ht
  · intro arg args harg hargs t ht
    cases arg with
    | type s =>
      rcases List.mem_cons.mp ht with rfl | ht
      · exact harg t List.mem_cons_self
      · exact hargs t ht
    | lifetime | other => exact hargs t ht

/-! ## Checks -/

/-- Whether a type neither borrows nor is known by bounds, at any depth. -/
def Plain (t : TypeExpr) : Prop := .word "impl" ∉ t.tokens ∧ ¬ Borrowing t.tokens

theorem Plain.of_subset {t s : TypeExpr} (h : t.Plain) (hsubset : s.tokens ⊆ t.tokens) :
    s.Plain :=
  ⟨fun hmem => h.1 (hsubset hmem), fun ⟨joined, hmem⟩ => h.2 ⟨joined, hsubset hmem⟩⟩

section
variable {t referent : TypeExpr} {isMut : Bool}

theorem Refers.exists_reference (h : t.Refers isMut referent) :
    ∃ lifetime, (TypeExpr.reference lifetime isMut referent).tokens ⊆ t.tokens := by
  cases h with
  | reference lifetime => exact ⟨lifetime, List.Subset.refl _⟩
  | @option path args _ style lifetime _ _ hargs =>
    have hmem : TypeExpr.reference lifetime isMut referent ∈ ofArgs args := by simp [hargs]
    exact ⟨lifetime, tokens_subset_of_mem_ofArgs hmem path style⟩

theorem Refers.tokens_subset (h : t.Refers isMut referent) : referent.tokens ⊆ t.tokens := by
  obtain ⟨lifetime, hreference⟩ := h.exists_reference
  exact List.Subset.trans (tokens_subset_reference lifetime isMut referent) hreference

theorem Refers.borrowing (h : t.Refers isMut referent) : Borrowing t.tokens := by
  obtain ⟨_, hreference⟩ := h.exists_reference
  exact ⟨false, hreference List.mem_cons_self⟩

theorem referent?_eq_some_iff : t.referent? = some (isMut, referent) ↔ t.Refers isMut referent := by
  constructor
  · intro h
    cases t with
    | reference lifetime isMut' inner =>
      cases h
      exact .reference lifetime isMut referent
    | generic path style args =>
      have hoption : (generic path style args).optionalReferent? = some (isMut, referent) := h
      obtain ⟨_, _, _, lifetime, heq, hname, hargs⟩ := optionalReferent?_eq_some hoption
      cases heq
      exact .option style lifetime referent hname hargs
    | name | slice | array | unit | paren | group | bounded | other => cases h
  · intro h
    cases h with
    | reference => rfl
    | option style lifetime _ hname hargs =>
      simp [referent?, optionalReferent?, wrapper?, Wrapper.ofName?, hname, hargs]

end

/-- What a parameter type is like: nothing in it is known by bounds alone, and if it borrows then
only as a shared reference, perhaps in an option, to something that does not. -/
structure Suitable (t : TypeExpr) : Prop where
  bounds : .word "impl" ∉ t.tokens
  borrows : ¬ Borrowing t.tokens ∨ ∃ referent, t.Refers false referent ∧ ¬ Borrowing referent.tokens

variable {t : TypeExpr}

theorem Plain.suitable (h : t.Plain) : t.Suitable := ⟨h.1, Or.inl h.2⟩

/-- What a suitable type refers to is plain. -/
theorem Suitable.plain_referent {referent : TypeExpr} (h : t.Suitable)
    (hrefers : t.Refers false referent) (hinner : ¬ Borrowing referent.tokens) : referent.Plain :=
  ⟨fun hmem => h.bounds (hrefers.tokens_subset hmem), hinner⟩

theorem fault?_eq_none_iff (t : TypeExpr) : t.fault? = none ↔ t.Suitable := by
  have hbounds := t.mentionsBounds_iff
  have hborrow := t.mentionsBorrow_iff
  unfold fault?
  constructor
  · intro h
    split at h
    next => cases h
    next hnone =>
      refine ⟨fun hmem => hnone (hbounds.mpr hmem), ?_⟩
      split at h
      next => cases h
      next referent hreferent =>
        split at h
        next => cases h
        next hinner =>
          exact Or.inr ⟨referent, referent?_eq_some_iff.mp hreferent, fun hmem =>
            hinner (referent.mentionsBorrow_iff.mpr hmem)⟩
      next =>
        split at h
        next => cases h
        next hplain => exact Or.inl fun hmem => hplain (hborrow.mpr hmem)
  · intro h
    rw [if_neg fun hmem => h.bounds (hbounds.mp hmem)]
    rcases h.borrows with hplain | ⟨referent, hrefers, hinner⟩
    · have hreferent : t.referent? = none := by
        rw [Option.eq_none_iff_forall_ne_some]
        rintro ⟨isMut, referent⟩ hreferent
        exact hplain (referent?_eq_some_iff.mp hreferent).borrowing
      rw [hreferent]
      exact if_neg fun hmem => hplain (hborrow.mp hmem)
    · rw [referent?_eq_some_iff.mpr hrefers]
      exact if_neg fun hmem => hinner (referent.mentionsBorrow_iff.mp hmem)

/-! ## Outlines -/

theorem checked_of_suitable (h : t.Suitable) (o : Except TypeFault Outline) : t.checked o = o := by
  rw [checked, t.fault?_eq_none_iff.mpr h]

/-- What is unwrapped has an outline if everything inside has one. -/
theorem exists_of_unwrap? {path : NamePath} {results : List (Except TypeFault Outline)}
    {result : Except TypeFault Outline} (hresults : ∀ r ∈ results, ∃ o, r = .ok o)
    (h : TypeExpr.unwrap? path results = some result) : ∃ o, result = .ok o := by
  have hmap : ∀ r ∈ results, ∀ f : Outline → Outline, ∃ o, r.map f = .ok o := by
    intro r hr f
    obtain ⟨o, rfl⟩ := hresults r hr
    exact ⟨f o, rfl⟩
  unfold TypeExpr.unwrap? at h
  split at h
  next inner _ =>
    cases h
    exact hmap inner (by simp) _
  next items _ =>
    cases h
    exact hmap items (by simp) _
  next values _ _ =>
    cases h
    exact hmap values (by simp) _
  next =>
    cases h
    exact hresults _ List.mem_cons_self
  next => cases h

theorem exists_outline_generic {path : NamePath} {style : ArgumentStyle} {args : List GenericArg}
    (h : (generic path style args).Suitable) (hargs : ∀ t ∈ ofArgs args, ∃ o, t.outline = .ok o) :
    ∃ o, (generic path style args).outline = .ok o := by
  rw [outline, checked_of_suitable h]
  cases hunwrap : TypeExpr.unwrap? path (outlines args) with
  | none => exact ⟨_, rfl⟩
  | some result =>
    refine exists_of_unwrap? (fun r hr => ?_) hunwrap
    rw [outlines_eq_map, List.mem_map] at hr
    obtain ⟨t, ht, rfl⟩ := hr
    exact hargs t ht

/-- Without borrows and bounds no check on the way down finds fault. -/
theorem exists_outline_of_plain (h : t.Plain) : ∃ o, t.outline = .ok o := by
  induction t using TypeExpr.induction with
  | generic path style args ih =>
    refine exists_outline_generic h.suitable fun t ht => ih t ht ?_
    exact h.of_subset (tokens_subset_of_mem_ofArgs ht path style)
  | reference lifetime isMut t ih =>
    rw [outline, checked_of_suitable h.suitable]
    exact ih (h.of_subset (tokens_subset_reference lifetime isMut t))
  | slice t ih =>
    obtain ⟨o, ho⟩ := ih (h.of_subset (tokens_subset_slice t))
    rw [outline, checked_of_suitable h.suitable, ho]
    exact ⟨_, rfl⟩
  | array t length ih =>
    obtain ⟨o, ho⟩ := ih (h.of_subset (tokens_subset_array t length))
    rw [outline, checked_of_suitable h.suitable, ho]
    exact ⟨_, rfl⟩
  | paren t ih =>
    rw [outline, checked_of_suitable h.suitable]
    exact ih (h.of_subset (tokens_subset_paren t))
  | group t ih =>
    rw [outline, checked_of_suitable h.suitable]
    exact ih h
  | name | unit | bounded | other => exact ⟨_, checked_of_suitable h.suitable _⟩

/-- A reference is taken off in one step, an option of one in two; nothing borrows behind that. -/
theorem exists_outline_of_suitable (h : t.Suitable) : ∃ o, t.outline = .ok o := by
  rcases h.borrows with hplain | ⟨referent, hrefers, hinner⟩
  · exact exists_outline_of_plain ⟨h.bounds, hplain⟩
  · obtain ⟨o, ho⟩ := exists_outline_of_plain (h.plain_referent hrefers hinner)
    have hreference : ∀ lifetime, (TypeExpr.reference lifetime false referent).Suitable →
        (TypeExpr.reference lifetime false referent).outline = .ok o := by
      intro lifetime hsuitable
      rw [outline, checked_of_suitable hsuitable, ho]
    cases hrefers with
    | reference lifetime => exact ⟨o, hreference lifetime h⟩
    | @option path args _ style lifetime _ hname hargs =>
      refine exists_outline_generic h fun t ht => ?_
      have hbounds : .word "impl" ∉ t.tokens := fun hmem =>
        h.bounds (tokens_subset_of_mem_ofArgs ht path style hmem)
      rw [hargs, List.mem_singleton] at ht
      subst ht
      exact ⟨o, hreference lifetime ⟨hbounds, Or.inr ⟨referent, .reference _ _ _, hinner⟩⟩⟩

theorem outline_eq_error_iff {fault : TypeFault} :
    t.outline = .error fault ↔ t.fault? = some fault := by
  constructor
  · intro h
    cases hfault : t.fault? with
    | none =>
      obtain ⟨o, ho⟩ := exists_outline_of_suitable (t.fault?_eq_none_iff.mp hfault)
      rw [ho] at h
      cases h
    | some first =>
      obtain ⟨inner, hinner⟩ := t.exists_outline_eq_checked
      rw [hinner, checked, hfault] at h
      cases h
      rfl
  · intro h
    obtain ⟨inner, hinner⟩ := t.exists_outline_eq_checked
    rw [hinner, checked, h]

end TypeExpr

/-! ## Decoding -/

open TypeExpr

theorem borrowing_ownedOf (ts : List Token) :
    Token.Borrowing (ownedOf ts) ↔ Token.Borrowing ts := by
  simp [Token.borrowing_iff, ownedOf, inside, Token.isMark]

/-- Nothing is decoded as a type that borrows. -/
theorem Carried.not_borrowing {x : String} {t : TypeExpr} {owned passed : List Token}
    (h : Carried x t owned passed) : ¬ Token.Borrowing owned := by
  cases h with
  | reference _ referent hinner =>
    rw [borrowing_ownedOf]
    exact hinner
  | optional _ _ _ _ referent _ _ hinner =>
    have hform := (not_congr (borrowing_ownedOf referent.tokens)).mpr hinner
    rw [Token.borrowing_iff] at hform ⊢
    simpa [inside, Token.isMark] using hform
  | owned _ hborrow => exact hborrow

namespace TypeExpr

theorem Suitable.not_borrowing_owned {t : TypeExpr} (h : t.Suitable) :
    ¬ Token.Borrowing t.owned := by
  obtain ⟨o, -⟩ := exists_outline_of_suitable h
  let a : Argument := { identifier := "", type := t, outline := o, options := {} }
  exact (Argument.carried (a := a) (t.fault?_eq_none_iff.mpr h)).not_borrowing

/-- A parameter type has an outline exactly if it is suitable, and the error that it has otherwise
is that of the first check: the checks on the way down find no fault where that one has found none.
A suitable type is decoded as one without borrows, and so is the argument of every parameter, in the
step at its place. -/
theorem outline_suitable_iff :
    (∀ t : TypeExpr, ((∃ o, t.outline = .ok o) ↔ t.Suitable) ∧
        (∀ fault, t.outline = .error fault ↔ t.fault? = some fault) ∧
        (t.Suitable → ¬ Token.Borrowing t.owned)) ∧
      ∀ (f : DeclaredFunction) attributes e, f.expand attributes = .ok e →
        List.Forall₂ (fun p b => b.type = p.type.owned ∧ ¬ Token.Borrowing b.type) f.params
          e.bindings := by
  have hsuitable : ∀ {t : TypeExpr} {o}, t.outline = .ok o → t.Suitable := fun {t _} ho =>
    t.fault?_eq_none_iff.mp (fault?_of_outline ho)
  constructor
  · intro t
    refine ⟨⟨?_, exists_outline_of_suitable⟩, fun _ => outline_eq_error_iff, ?_⟩
    · rintro ⟨o, ho⟩
      exact hsuitable ho
    · exact Suitable.not_borrowing_owned
  · intro f attributes e he
    obtain ⟨haccepts, -, -⟩ := DeclaredFunction.expand_eq_ok he
    refine List.forall₂_map_right_iff.mpr (haccepts.imp fun p a ha => ?_)
    have htype : a.binding.type = p.type.owned := congrArg owned ha.type
    refine ⟨htype, ?_⟩
    rw [htype]
    exact (hsuitable ha.outline).not_borrowing_owned

/-- `Option<'a, &[u8; N]>` under a longer path. -/
theorem outline_suitable_iff_optional :
    let bytes : TypeExpr := .array (.name (.ofWord "u8")) [.word "N"]
    let t : TypeExpr := .generic (.rooted ["std", "option"] "Option") {}
      [.lifetime "a", .type (.reference none false bytes)]
    t.Suitable ∧ (∃ o, t.outline = .ok o) ∧ ¬ Token.Borrowing t.owned := by
  intro bytes t
  have hbytes : ¬ Token.Borrowing bytes.tokens := by
    rw [Token.borrowing_iff]
    decide
  have hrefers : t.Refers false bytes := .option {} none bytes rfl rfl
  have ht : t.Suitable := ⟨by decide, Or.inr ⟨bytes, hrefers, hbytes⟩⟩
  obtain ⟨houtline, -, howned⟩ := outline_suitable_iff.1 t
  exact ⟨ht, houtline.mpr ht, howned ht⟩

end TypeExpr

end Toolbox
