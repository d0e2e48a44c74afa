import Toolbox.Annotation.Enumeration
import Toolbox.Proofs.Code.Reading

/-!
# Options that name variants

The options by which a decoder names variants are read one after the other, each into what the ones
before it gave (`NamingOption.enter`).  A split name is legible if it has a name for decoding; one
illegible option spoils the attributes, and otherwise the last option of each kind counts
(`NamingOption.toOption_read`).
-/

namespace Toolbox

/-! ## Options as they are written -/

/-- A text literal: as written, and what it stands for. -/
structure WrittenText where
  source : String
  value : String

def WrittenText.token (t : WrittenText) : Token := .text t.source t.value

inductive Direction where
  | serialize
  | deserialize
  deriving DecidableEq, Repr

/-- The key of a name for one direction. -/
def Direction.key : Direction → String
  | serialize => "serialize"
  | deserialize => "deserialize"

/-- A name as an option gives it. -/
inductive GivenName where
  /-- `key = "name"` -/
  | plain (name : WrittenText)
  /-- `key(serialize = "name", deserialize = "name")` -/
  | split (names : List (Direction × WrittenText))

/-- The name for decoding in an entry of a split name. -/
def decodedFrom? : Direction × WrittenText → Option String
  | (.serialize, _) => none
  | (.deserialize, name) => some name.value

/-- The name for decoding. -/
def GivenName.decoded? : GivenName → Option String
  | plain name => some name.value
  | split names => (names.filterMap decodedFrom?).getLast?

/-- An entry of a split name as an item. -/
def entryItem (entry : Direction × WrittenText) : AttributeItem :=
  .value [.word entry.1.key] [entry.2.token]

/-- An option that gives a name as an item. -/
def GivenName.item (key : String) : GivenName → AttributeItem
  | plain name => .value [.word key] [name.token]
  | split names => .list [.word key] (names.map entryItem)

/-- An option by which a decoder names variants. -/
inductive NamingOption where
  | rename (name : GivenName)
  | renameAll (name : GivenName)
  | skip
  | skipDeserializing

namespace NamingOption

/-- An option as an item of an attribute. -/
def item : NamingOption → AttributeItem
  | rename name => name.item "rename"
  | renameAll name => name.item "rename_all"
  | skip => .bare [.word "skip"]
  | skipDeserializing => .bare [.word "skip_deserializing"]

/-- The name that an option gives for decoding. -/
def name? : NamingOption → Option String
  | rename name => name.decoded?
  | _ => none

/-- The rule that an option names for decoding. -/
def rule? : NamingOption → Option String
  | renameAll name => name.decoded?
  | _ => none

/-- Whether an option keeps what it stands on from being decoded. -/
def skips : NamingOption → Bool
  | rename _ | renameAll _ => false
  | skip | skipDeserializing => true

/-- Whether a name that an option gives is one for decoding as well. -/
def isLegible : NamingOption → Bool
  | rename name | renameAll name => name.decoded?.isSome
  | skip | skipDeserializing => true

/-- What options say together: the last one of each kind counts. -/
def summary (os : List NamingOption) : EncodingOptions where
  rename := (os.filterMap name?).getLast?
  renameAll := (os.filterMap rule?).getLast?
  skipped := os.any skips

/-- What has been found, with one more option; an illegible one gives nothing. -/
def enter (found : EncodingOptions) : NamingOption → Option EncodingOptions
  | rename name => name.decoded?.map fun name => { found with rename := some name }
  | renameAll name => name.decoded?.map fun name => { found with renameAll := some name }
  | skip | skipDeserializing => some { found with skipped := true }

end NamingOption

/-- An attribute of an enumeration or a variant: one with options that name variants, or one that
the decoder does not look at. -/
inductive NamingAttribute where
  | naming (options : List NamingOption)
  | other (a : Attribute) (h : a.path ≠ { name := "serde" })

namespace NamingAttribute

def written : NamingAttribute → Attribute
  | naming options => { path := { name := "serde" }, form := .list (options.map NamingOption.item) }
  | other a _ => a

def options : NamingAttribute → List NamingOption
  | naming options => options
  | other .. => []

end NamingAttribute

/-! ## Reading of names -/

namespace GivenName

/-- What stands behind the key. -/
def tailTokens : GivenName → List Token
  | plain name => [.mark '=', name.token]
  | split names => .mark '(' :: AttributeItem.listTokens (names.map entryItem) ++ [.mark ')']

theorem tokens_item (key : String) (given : GivenName) :
    (given.item key).tokens = .word key :: given.tailTokens := by
  cases given with
  | plain name => rfl
  | split names =>
    show AttributeItem.tokens (.list _ _) = _
    rw [AttributeItem.tokens]
    rfl

/-- What stands behind the key does not make it a path. -/
theorem tailTokens_not_path (given : GivenName) (rest : List Token) :
    Token.startWith [':', ':'] (given.tailTokens ++ rest) = false := by
  cases given <;> rfl

end GivenName

/-- An option starts with its key. -/
theorem NamingOption.exists_word (o : NamingOption) : ∃ w more, o.item.tokens = .word w :: more := by
  cases o with
  | rename given => exact ⟨_, _, given.tokens_item _⟩
  | renameAll given => exact ⟨_, _, given.tokens_item _⟩
  | skip => exact ⟨_, _, rfl⟩
  | skipDeserializing => exact ⟨_, _, rfl⟩

namespace AttributeItem

theorem listTokens_cons_cons (i j : AttributeItem) (is : List AttributeItem) :
    listTokens (i :: j :: is) = i.tokens ++ ([.mark ','] ++ listTokens (j :: is)) := by
  rw [listTokens, List.append_assoc]
  intro h
  cases h

/-- Items that start with a word are not at an end. -/
theorem listTokens_cons_word {i : AttributeItem} {w : String} {more : List Token}
    (h : i.tokens = .word w :: more) (is : List AttributeItem) (rest : List Token) :
    Token.isEnd (listTokens (i :: is) ++ rest) = false := by
  cases is with
  | nil => rw [listTokens, h]; rfl
  | cons j is => rw [listTokens_cons_cons, h]; rfl

/-- There are not many more items than tokens, for each item but the last has a comma. -/
theorem length_le_listTokens (is : List AttributeItem) :
    is.length ≤ (listTokens is).length + 1 := by
  induction is with
  | nil => simp
  | cons i is ih =>
    cases is with
    | nil => simp
    | cons j is =>
      rw [listTokens_cons_cons]
      simp only [List.length_append, List.length_cons] at ih ⊢
      omega

end AttributeItem

/-- The last one found, if the first of a list comes behind what has been found before. -/
theorem getLast?_filterMap_cons {α β : Type} (f : α → Option β) (a : α) (as : List α)
    (found : Option β) :
    ((a :: as).filterMap f).getLast?.or found = (as.filterMap f).getLast?.or ((f a).or found) := by
  cases ha : f a with
  | none => rw [List.filterMap_cons_none ha, Option.none_or]
  | some b =>
    rw [List.filterMap_cons_some ha, List.getLast?_cons]
    cases (as.filterMap f).getLast? <;> rfl

namespace EncodingOptions

open AttributeReader Reader AttributeItem

theorem takes_splitName_go {names : List (Direction × WrittenText)} (hnames : names ≠ [])
    {n : Nat} (hn : names.length ≤ n) (found : Option String) (rest : List Token) :
    Takes (splitName.go n found) (listTokens (names.map entryItem)) (.mark ')' :: rest)
      ((names.filterMap decodedFrom?).getLast?.or found) := by
  induction names generalizing n found with
  | nil => exact absurd rfl hnames
  | cons entry names ih =>
    obtain ⟨direction, name⟩ := entry
    obtain ⟨n, rfl⟩ : ∃ m, n = m + 1 := Nat.exists_eq_add_one.mpr (Nat.lt_of_lt_of_le (by simp) hn)
    have hfound : (if NamePath.ofWord direction.key == .ofWord "deserialize" then some name.value
        else found) = (decodedFrom? (direction, name)).or found := by
      cases direction <;> rfl
    have htokens : (entryItem (direction, name)).tokens =
        [.word direction.key] ++ [.mark '=', name.token] := rfl
    rw [getLast?_filterMap_cons, ← hfound]
    cases names with
    | nil =>
      show Takes _ ([.word direction.key] ++ [.mark '=', name.token]) _ _
      refine (takes_key rfl).bind ((takes_value name.source name.value _).bind_last ?_)
      refine (takes_goesOn_end rfl).bind_look ?_
      rw [if_neg Bool.false_ne_true]
      exact Takes.pure _ _
    | cons next names =>
      rw [List.map_cons, List.map_cons, listTokens_cons_cons, htokens, List.append_assoc,
        ← List.map_cons]
      refine (takes_key rfl).bind ((takes_value name.source name.value _).bind ?_)
      refine (takes_goesOn_comma (listTokens_cons_word rfl _ _)).bind ?_
      rw [if_pos rfl]
      exact ih (List.cons_ne_nil _ _) (by simpa using hn) _

/-- A split name is read into its last name for decoding. -/
theorem takes_splitName {names : List (Direction × WrittenText)} (hnames : names ≠ [])
    (rest : List Token) :
    Takes splitName (.mark '(' :: listTokens (names.map entryItem) ++ [.mark ')']) rest
      (names.filterMap decodedFrom?).getLast? := by
  refine takes_bracketed ((takes_ahead _).bind_look ?_)
  have henough : names.length ≤
      (listTokens (names.map entryItem) ++ .mark ')' :: rest).length + 1 := by
    have hlength := length_le_listTokens (names.map entryItem)
    rw [List.length_map] at hlength
    rw [List.length_append]
    omega
  have hgo := takes_splitName_go hnames henough none rest
  rwa [Option.or_none] at hgo

theorem refuses_splitName (rest : List Token) :
    Refuses splitName (.mark '(' :: .mark ')' :: rest) := by
  have hgo : Refuses (splitName.go ((Token.mark ')' :: rest).length + 1) none) (.mark ')' :: rest) :=
    (refuses_key rest).bind
  exact refuses_bracketed ((takes_ahead (.mark ')' :: rest)).bind_refuses hgo)

/-- A name is read behind its key unless it has none for decoding. -/
theorem yields_name (given : GivenName) (rest : List Token) :
    Yields name given.tailTokens rest given.decoded? := by
  have hsees := Takes.lift (takes_sees (Token.startWith ['=']) (given.tailTokens ++ rest))
  cases given with
  | plain t =>
    refine Takes.bind_look hsees ?_
    exact Takes.lift (takes_value t.source t.value rest)
  | split names =>
    by_cases hnames : names = []
    · subst hnames
      refine Takes.bind_look_refuses hsees ?_
      exact Refuses.bind (Refuses.lift (refuses_splitName rest))
    · have hsplit := Takes.lift (takes_splitName hnames rest)
      have hdecoded : (GivenName.split names).decoded? = (names.filterMap decodedFrom?).getLast? :=
        rfl
      rw [hdecoded]
      cases hlast : (names.filterMap decodedFrom?).getLast? with
      | none =>
        rw [hlast] at hsplit
        refine Takes.bind_look_refuses hsees (Takes.bind_refuses hsplit ?_)
        exact fun _ _ => ⟨_, rfl⟩
      | some decoded =>
        rw [hlast] at hsplit
        refine Takes.bind_look hsees (hsplit.bind_last ?_)
        exact Takes.pure _ _

/-! ## Reading of options -/

/-- Reading of one option, with its key. -/
def keyedItem (found : EncodingOptions) : AttributeReader EncodingOptions := do item (← key) found

theorem yields_keyedItem (o : NamingOption) (found : EncodingOptions) {rest : List Token}
    (hrest : Token.startWith [':', ':'] rest = false) :
    Yields (keyedItem found) o.item.tokens rest (o.enter found) := by
  cases o with
  | rename given =>
    rw [NamingOption.item, given.tokens_item, ← List.singleton_append]
    refine Yields.after (Takes.lift (takes_key (given.tailTokens_not_path rest))) ?_
    exact (yields_name given rest).map fun _ => rfl
  | renameAll given =>
    rw [NamingOption.item, given.tokens_item, ← List.singleton_append]
    refine Yields.after (Takes.lift (takes_key (given.tailTokens_not_path rest))) ?_
    exact (yields_name given rest).map fun _ => rfl
  | skip => exact (Takes.lift (takes_key hrest)).bind_last (Takes.pure _ _)
  | skipDeserializing => exact (Takes.lift (takes_key hrest)).bind_last (Takes.pure _ _)

/-- An attribute is read into what is there to give, or it is at fault if there is nothing. -/
def Gives {σ : Type} (outcome : σ × Option AttributeFault) : Option σ → Prop
  | some a => outcome = (a, none)
  | none => outcome.2.isSome = true

theorem items_error {found : EncodingOptions} {s : Source} {fault : AttributeFault}
    (h : keyedItem found s = .error fault) (n : Nat) :
    items item (n + 1) found s = (found, some fault) := by
  have hone : (do item (← key) found : AttributeReader EncodingOptions) s = .error fault := h
  rw [items]
  simp only [hone]

theorem items_ok {found found' : EncodingOptions} {s s' s'' : Source} {more : Bool}
    (h : keyedItem found s = .ok (found', s')) (hmore : goesOn s' = .ok (more, s'')) (n : Nat) :
    items item (n + 1) found s =
      if more then items item n found' s''
      else (found', s''.unread.map fun bracket => .ofSyntax (.expectedClosing bracket)) := by
  have hone : (do item (← key) found : AttributeReader EncodingOptions) s = .ok (found', s') := h
  rw [items]
  simp only [hone, hmore]
  cases more <;> rfl

/-- One option, and then what the attribute goes on with. -/
theorem gives_items_cons {o : NamingOption} {found : EncodingOptions} {n : Nat}
    {ts rest written : List Token} {more : Bool} {next : EncodingOptions → Option EncodingOptions}
    (hpath : Token.startWith [':', ':'] (ts ++ rest) = false) (hmore : Takes goesOn ts rest more)
    (hnext : ∀ found written,
      Gives (if more then items item n found { ahead := rest, written } else (found, none))
        (next found)) :
    Gives (items item (n + 1) found { ahead := o.item.tokens ++ (ts ++ rest), written })
      ((o.enter found).bind next) := by
  have hone := yields_keyedItem o found hpath
  cases henter : o.enter found with
  | none =>
    rw [henter] at hone
    obtain ⟨fault, hfault⟩ := hone written none
    rw [items_error hfault]
    rfl
  | some found' =>
    rw [henter] at hone
    obtain ⟨between, hok⟩ := hone written none
    obtain ⟨written', hgoesOn⟩ := hmore between none
    rw [items_ok hok hgoesOn]
    exact hnext found' written'

theorem gives_items {os : List NamingOption} (hos : os ≠ []) {n : Nat} (hn : os.length ≤ n)
    (found : EncodingOptions) (written : List Token) :
    Gives (items item n found { ahead := listTokens (os.map NamingOption.item), written })
      (os.foldlM NamingOption.enter found) := by
  induction os generalizing n found written with
  | nil => exact absurd rfl hos
  | cons o os ih =>
    obtain ⟨n, rfl⟩ : ∃ m, n = m + 1 := Nat.exists_eq_add_one.mpr (Nat.lt_of_lt_of_le (by simp) hn)
    cases os with
    | nil =>
      have hend : Takes goesOn [] [] false := takes_goesOn_end rfl
      have hlast : ∀ (found : EncodingOptions) (written : List Token),
          Gives (if false then items item n found { ahead := [], written } else (found, none))
            (some found) := fun _ _ => rfl
      have hcons : Gives (items item (n + 1) found { ahead := o.item.tokens ++ ([] ++ []), written })
          ((o.enter found).bind some) := gives_items_cons rfl hend hlast
      simpa [listTokens] using hcons
    | cons next os =>
      rw [List.map_cons, List.map_cons, listTokens_cons_cons, ← List.map_cons]
      obtain ⟨w, more, hword⟩ := next.exists_word
      have hend := listTokens_cons_word hword (os.map NamingOption.item) []
      rw [List.append_nil] at hend
      exact gives_items_cons rfl (takes_goesOn_comma hend) fun found written =>
        ih (List.cons_ne_nil _ _) (by simpa using hn) found written

/-- The options of one attribute, in turn. -/
theorem gives_read (os : List NamingOption) (found : EncodingOptions) :
    Gives (AttributeReader.read item found (os.map NamingOption.item))
      (os.foldlM NamingOption.enter found) := by
  cases os with
  | nil => rfl
  | cons o os =>
    have henough := length_le_listTokens ((o :: os).map NamingOption.item)
    rw [List.length_map] at henough
    have hitems := gives_items (List.cons_ne_nil o os) henough found []
    have hsome : (listTokens ((o :: os).map NamingOption.item)).isEmpty = false := by
      obtain ⟨w, more, hword⟩ := o.exists_word
      have hend := listTokens_cons_word hword (os.map NamingOption.item) []
      rw [List.append_nil, ← List.map_cons] at hend
      cases htokens : listTokens ((o :: os).map NamingOption.item) with
      | nil =>
        rw [htokens] at hend
        cases hend
      | cons t ts => rfl
    unfold AttributeReader.read
    simp only [hsome]
    exact hitems

theorem readFrom_other {a : Attribute} (h : a.path ≠ { name := "serde" })
    (found : EncodingOptions) (as : List Attribute) :
    readFrom found (a :: as) = readFrom found as := by
  rw [readFrom, if_neg fun hsource => h (Attribute.isNamed_iff.mp hsource)]

theorem readFrom_naming (os : List NamingOption) (found : EncodingOptions) (as : List Attribute) :
    readFrom found ((NamingAttribute.naming os).written :: as) =
      match AttributeReader.read item found (os.map NamingOption.item) with
      | (found, none) => readFrom found as
      | (_, some fault) => .error (.ofAttribute fault) := by
  rw [readFrom, if_pos (Attribute.isNamed_iff.mpr rfl)]
  rfl

theorem toOption_readFrom (as : List NamingAttribute) (found : EncodingOptions) :
    (readFrom found (as.map (·.written))).toOption =
      (as.flatMap (·.options)).foldlM NamingOption.enter found := by
  induction as generalizing found with
  | nil => rfl
  | cons a as ih =>
    rw [List.map_cons, List.flatMap_cons, List.foldlM_append]
    cases a with
    | other a h => exact (congrArg Except.toOption (readFrom_other h found _)).trans (ih found)
    | naming os =>
      have hread := gives_read os found
      rw [readFrom_naming, NamingAttribute.options]
      cases henter : os.foldlM NamingOption.enter found with
      | none =>
        rw [henter] at hread
        obtain ⟨fault, hfault⟩ := Option.isSome_iff_exists.mp hread
        have houtcome : AttributeReader.read item found (os.map NamingOption.item) =
            ((AttributeReader.read item found (os.map NamingOption.item)).1, some fault) :=
          Prod.ext rfl hfault
        rw [houtcome]
        rfl
      | some found' =>
        rw [henter] at hread
        have houtcome : AttributeReader.read item found (os.map NamingOption.item) =
            (found', none) := hread
        rw [houtcome]
        exact ih found'

end EncodingOptions

namespace NamingOption

theorem foldlM_enter (os : List NamingOption) (found : EncodingOptions) :
    os.foldlM enter found =
      if os.all isLegible then
        some { found with
          rename := (os.filterMap name?).getLast?.or found.rename
          renameAll := (os.filterMap rule?).getLast?.or found.renameAll
          skipped := os.any skips || found.skipped }
      else none := by
  induction os generalizing found with
  | nil => rfl
  | cons o os ih =>
    rw [List.foldlM_cons, getLast?_filterMap_cons, getLast?_filterMap_cons, List.all_cons,
      List.any_cons]
    cases o with
    | rename given =>
      cases hdecoded : given.decoded? with
      | none => simp [enter, isLegible, hdecoded]
      | some decoded => simp [enter, isLegible, name?, rule?, skips, hdecoded, ih]
    | renameAll given =>
      cases hdecoded : given.decoded? with
      | none => simp [enter, isLegible, hdecoded]
      | some decoded => simp [enter, isLegible, name?, rule?, skips, hdecoded, ih]
    | skip => simp [enter, isLegible, name?, rule?, skips, ih]
    | skipDeserializing => simp [enter, isLegible, name?, rule?, skips, ih]

/-- Attributes are read into what their options say together, or they are at fault if an option is
illegible. -/
theorem toOption_read (as : List NamingAttribute) :
    (EncodingOptions.read (as.map (·.written))).toOption =
      if (as.flatMap (·.options)).all isLegible then some (summary (as.flatMap (·.options)))
      else none := by
  rw [EncodingOptions.read, EncodingOptions.toOption_readFrom, foldlM_enter]
  simp only [Option.or_none, Bool.or_false]
  rfl

end NamingOption

end Toolbox
