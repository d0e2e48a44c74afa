import Toolbox.Annotation.Attribute

/-!
# What readers take

A reader takes tokens off the source and leaves the rest to whatever reads next.  What it does
depends on the tokens ahead alone, not on what has been written before, so readers in turn take what
each of them takes (`Takes.bind`), and fail where the first of them fails (`Yields.after`).
-/

namespace Toolbox

section
variable {ε α β : Type}

/-- The reader takes the tokens `ts` in front of `rest` and gives `a`; no bracket is left unread. -/
def Takes (r : StateT Source (Except ε) α) (ts rest : List Token) (a : α) : Prop :=
  ∀ written unread, ∃ written',
    r { ahead := ts ++ rest, written, unread } = .ok (a, { ahead := rest, written := written', unread })

/-- The reader fails in front of the tokens `ts`. -/
def Refuses (r : StateT Source (Except ε) α) (ts : List Token) : Prop :=
  ∀ written unread, ∃ fault, r { ahead := ts, written, unread } = .error fault

variable {r : StateT Source (Except ε) α} {k : α → StateT Source (Except ε) β}
  {ts us rest : List Token} {a : α} {b : β}

theorem Takes.pure (a : α) (rest : List Token) :
    Takes (pure a : StateT Source (Except ε) α) [] rest a :=
  fun written _ => ⟨written, rfl⟩

theorem Takes.bind (hr : Takes r ts (us ++ rest) a) (hk : Takes (k a) us rest b) :
    Takes (r >>= k) (ts ++ us) rest b := by
  intro written unread
  obtain ⟨between, hr⟩ := hr written unread
  obtain ⟨written', hk⟩ := hk between unread
  refine ⟨written', ?_⟩
  rw [List.append_assoc]
  show (r _ >>= fun p => k p.1 p.2) = _
  rw [hr]
  exact hk

/-- A reader that only looks ahead takes nothing. -/
theorem Takes.bind_look (hr : Takes r [] (ts ++ rest) a) (hk : Takes (k a) ts rest b) :
    Takes (r >>= k) ts rest b := hr.bind hk

/-- What follows the last of the tokens takes nothing. -/
theorem Takes.bind_last (hr : Takes r ts rest a) (hk : Takes (k a) [] rest b) :
    Takes (r >>= k) ts rest b := by
  have hbind : Takes (r >>= k) (ts ++ []) rest b := Takes.bind hr hk
  rwa [List.append_nil] at hbind

theorem Refuses.bind (hr : Refuses r ts) : Refuses (r >>= k) ts := by
  intro written unread
  obtain ⟨fault, hr⟩ := hr written unread
  refine ⟨fault, ?_⟩
  show (r _ >>= fun p => k p.1 p.2) = _
  rw [hr]
  rfl

theorem Takes.bind_refuses (hr : Takes r ts rest a) (hk : Refuses (k a) rest) :
    Refuses (r >>= k) (ts ++ rest) := by
  intro written unread
  obtain ⟨between, hr⟩ := hr written unread
  obtain ⟨fault, hk⟩ := hk between unread
  refine ⟨fault, ?_⟩
  show (r _ >>= fun p => k p.1 p.2) = _
  rw [hr]
  exact hk

theorem Takes.bind_look_refuses (hr : Takes r [] ts a) (hk : Refuses (k a) ts) :
    Refuses (r >>= k) ts := hr.bind_refuses hk

/-- The reader takes the tokens `ts` in front of `rest` and gives what is there to give, or fails if
there is nothing. -/
def Yields (r : StateT Source (Except ε) α) (ts rest : List Token) : Option α → Prop
  | some a => Takes r ts rest a
  | none => Refuses r (ts ++ rest)

theorem Yields.map {a? : Option α} {f : α → β} (h : Yields r ts rest a?)
    (hk : ∀ a, k a = pure (f a)) : Yields (r >>= k) ts rest (a?.map f) := by
  cases a? with
  | none => exact Refuses.bind h
  | some a =>
    have hpure : Takes (k a) [] rest (f a) := by
      rw [hk a]
      exact Takes.pure (f a) rest
    exact Takes.bind_last h hpure

/-- Whether a reader gives something is up to its last part if what comes before takes its tokens. -/
theorem Yields.after {b? : Option β} (hr : Takes r ts (us ++ rest) a)
    (hk : Yields (k a) us rest b?) : Yields (r >>= k) (ts ++ us) rest b? := by
  cases b? with
  | some b => exact hr.bind hk
  | none =>
    show Refuses (r >>= k) (ts ++ us ++ rest)
    rw [List.append_assoc]
    exact hr.bind_refuses hk

end

section
variable {α : Type} {r : Reader α} {ts rest : List Token} {a : α}

theorem Takes.lift (hr : Takes r ts rest a) : Takes (liftM r : AttributeReader α) ts rest a := by
  intro written unread
  obtain ⟨written', hr⟩ := hr written unread
  refine ⟨written', ?_⟩
  show (r _).mapError _ = _
  rw [hr]
  rfl

theorem Refuses.lift (hr : Refuses r ts) : Refuses (liftM r : AttributeReader α) ts := by
  intro written unread
  obtain ⟨fault, hr⟩ := hr written unread
  refine ⟨.ofSyntax fault, ?_⟩
  show (r _).mapError _ = _
  rw [hr]
  rfl

end

namespace Reader

/-! ## Single tokens -/

theorem takes_ahead (rest : List Token) : Takes ahead [] rest rest :=
  fun written _ => ⟨written, rfl⟩

theorem takes_sees (p : List Token → Bool) (rest : List Token) : Takes (sees p) [] rest (p rest) :=
  fun written _ => ⟨written, rfl⟩

theorem takes_atEnd (rest : List Token) : Takes atEnd [] rest (Token.isEnd rest) :=
  fun written _ => ⟨written, rfl⟩

theorem takes_take (t : Token) (rest : List Token) : Takes take [t] rest () :=
  fun written _ => ⟨t :: written, rfl⟩

theorem takes_mark (c : Char) (joined : Bool) (rest : List Token) :
    Takes (marks [c]) [.mark c joined] rest () := by
  have hsees : Token.startWith [c] ([.mark c joined] ++ rest) = true := by
    simp [Token.startWith, Token.isMark]
  refine (takes_sees (Token.startWith [c]) _).bind_look ?_
  rw [hsees, if_pos rfl]
  exact (takes_take _ rest).bind (Takes.pure () rest)

theorem takes_text (source value : String) (rest : List Token) :
    Takes text [.text source value] rest value :=
  fun written _ => ⟨.text source value :: written, rfl⟩

theorem takes_anyWord (w : String) (rest : List Token) : Takes anyWord [.word w] rest w :=
  fun written _ => ⟨.word w :: written, rfl⟩

/-- Marks that are not ahead are not taken. -/
theorem marks?_of_not_ahead {cs : List Char} {s : Source}
    (h : Token.startWith cs s.ahead = false) : marks? cs s = .ok (false, s) := by
  show (if Token.startWith cs s.ahead = true then _ else _ : Reader Bool) s = _
  rw [h]
  rfl

theorem takes_noMarks {cs : List Char} {rest : List Token} (h : Token.startWith cs rest = false) :
    Takes (marks? cs) [] rest false :=
  fun written _ => ⟨written, marks?_of_not_ahead h⟩

/-! ## Several tokens -/

section
variable {α : Type} {r : Reader α} {ts rest : List Token} {a : α}

theorem takes_noted (h : ∀ s : Source, s.ahead = rest → r s = .ok (a, s)) :
    Takes (noted r) [] rest (a, []) := by
  intro written unread
  refine ⟨written, ?_⟩
  have haside : aside r { ahead := rest, written, unread } =
      .ok ((a, []), { ahead := rest, written, unread }) := by
    show (r { ahead := rest, unread } >>= fun p =>
      Except.ok ((p.1, p.2.written.reverse), { p.2 with written })) = _
    rw [h _ rfl]
    rfl
  show (aside r { ahead := rest, written, unread } >>= fun p =>
    Except.ok ((p.1.1, p.1.2), { p.2 with written := p.1.2.reverse ++ p.2.written })) = _
  rw [haside]
  rfl

/-- What stands in brackets is read up to the closing one. -/
theorem takes_bracketed (h : Takes r ts (.mark ')' :: rest) a) :
    Takes (bracketed '(' r) (.mark '(' :: ts ++ [.mark ')']) rest a := by
  intro written unread
  obtain ⟨written', h⟩ := h (.mark '(' :: written) unread
  refine ⟨.mark ')' :: written', ?_⟩
  rw [List.append_assoc, List.cons_append, List.singleton_append]
  show (r { ahead := ts ++ .mark ')' :: rest, written := .mark '(' :: written, unread } >>=
    fun p => _) = _
  rw [h]
  rfl

theorem refuses_bracketed (h : Refuses r ts) : Refuses (bracketed '(' r) (.mark '(' :: ts) := by
  intro written unread
  obtain ⟨fault, h⟩ := h (.mark '(' :: written) unread
  refine ⟨fault, ?_⟩
  show (r { ahead := ts, written := .mark '(' :: written, unread } >>= fun p => _) = _
  rw [h]
  rfl

end

end Reader

namespace AttributeReader

open Reader

/-! ## Items of attributes -/

variable {rest : List Token}

/-- A word is a key unless a path goes on behind it. -/
theorem takes_key {w : String} (h : Token.startWith [':', ':'] rest = false) :
    Takes key [.word w] rest (.ofWord w) := by
  have hstart : Token.startWith [':', ':'] (.word w :: rest) = false := rfl
  refine (takes_noted fun s hs => marks?_of_not_ahead (hs ▸ hstart)).bind_look ?_
  refine (takes_ahead _).bind_look ?_
  have hgo : Takes (key.go (rest.length + 1) []) [.word w] rest (.ofWord w) := by
    refine (takes_anyWord w rest).bind_last ?_
    refine (takes_noMarks h).bind_look ?_
    rw [if_neg Bool.false_ne_true]
    exact Takes.pure _ rest
  exact hgo

theorem refuses_key (rest : List Token) : Refuses key (.mark ')' :: rest) :=
  fun _ _ => ⟨_, rfl⟩

theorem takes_value (source value : String) (rest : List Token) :
    Takes (AttributeReader.value text) [.mark '=', .text source value] rest value :=
  (takes_mark '=' false _).bind (takes_text source value rest)

theorem takes_goesOn_end (h : Token.isEnd rest = true) : Takes goesOn [] rest false := by
  refine (takes_atEnd rest).bind_look ?_
  rw [h, if_pos rfl]
  exact Takes.pure false rest

theorem takes_goesOn_comma (h : Token.isEnd rest = false) :
    Takes goesOn [.mark ','] rest true := by
  refine (takes_atEnd (.mark ',' :: rest)).bind_look ?_
  refine (takes_mark ',' false rest).bind_last ?_
  refine (takes_atEnd rest).bind_look ?_
  rw [h]
  exact Takes.pure true rest

end AttributeReader

end Toolbox
