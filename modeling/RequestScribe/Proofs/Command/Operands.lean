import RequestScribe.Proofs.Command.Address

/-!
# Operands

Behind two dashes every word is an operand; in front of them those words are that are neither
options nor taken by an option as its argument.  Where no option gives an address, the first
operand that can be one is the address, and every other operand is warned of.
-/

namespace RequestScribe

namespace Command

/-- Whether a word is read as options: a dash and something behind it. -/
def isOptionWord (word : String) : Bool :=
  match word.toList with
  | '-' :: _ :: _ => true
  | _ => false

def operands : List String → List String
  | [] => []
  | word :: rest =>
      if word = "--" then rest
      else if isOptionWord word then
        match (Reading.ofWord word).waiting?, rest with
        | some _, _ :: rest => operands rest
        | _, rest => operands rest
      else word :: operands rest

namespace Item

def operand? : Item → Option String
  | .operand word => some word
  | _ => none

end Item

namespace Reading

/-! ## Operands among words and among items -/

theorem operands_ofLong (spec : String) : (ofLong spec).items.filterMap Item.operand? = [] := by
  unfold ofLong
  dsimp only
  split
  · rfl
  · split
    · split <;> rfl
    · rfl

theorem operands_ofLetters (letters : List Char) :
    (ofLetters letters).items.filterMap Item.operand? = [] := by
  induction letters with
  | nil => rfl
  | cons c rest ih =>
      unfold ofLetters
      split
      · rfl
      · split
        · split <;> rfl
        · exact ih

theorem operands_ofWord {word : String} (option : isOptionWord word = true) :
    (ofWord word).items.filterMap Item.operand? = [] := by
  unfold ofWord
  split
  · exact operands_ofLong _
  · exact operands_ofLetters _
  · next noLong noShort =>
      unfold isOptionWord at option
      split at option
      · next c rest text => exact absurd text (noShort c rest)
      · exact absurd option (by decide)

theorem ofWord_operand {word : String} (plain : isOptionWord word = false) :
    ofWord word = ⟨[.operand word], none⟩ := by
  unfold isOptionWord at plain
  unfold ofWord
  split
  · next text => simp [text] at plain
  · next text => simp [text] at plain
  · rfl

end Reading

/-- The items of some words are operands where the words are. -/
theorem operands_ofWords (words : List String) :
    (Item.ofWords words).filterMap Item.operand? = operands words := by
  fun_induction operands words with
  | case1 => rfl
  | case2 rest =>
      have read : Item.ofWords ("--" :: rest) = rest.map .operand := by
        simp [Item.ofWords, Item.readOnto]
      rw [read, List.filterMap_map]
      exact List.filterMap_some
  | case3 word separate option flag value rest waiting ih =>
      have reading : Reading.ofWord word = ⟨(Reading.ofWord word).items, some flag⟩ := by
        rw [← waiting]
      rw [Item.ofWords_waiting reading, List.filterMap_append, Reading.operands_ofWord option,
        List.nil_append, List.filterMap_cons]
      exact ih
  | case4 word separate option rest last ih =>
      have reading : Reading.ofWord word =
          ⟨(Reading.ofWord word).items, (Reading.ofWord word).waiting?⟩ := rfl
      rw [Item.ofWords_cons separate reading, List.filterMap_append,
        Reading.operands_ofWord option, List.nil_append, ← ih]
      -- An option that waits for its argument is the last word here.
      cases waiting : (Reading.ofWord word).waiting? with
      | none => rfl
      | some flag =>
          cases rest with
          | nil => rfl
          | cons value rest => exact absurd rfl (last flag value rest waiting)
  | case5 word rest separate plain ih =>
      have reading := Reading.ofWord_operand (Bool.eq_false_iff.2 plain)
      rw [Item.ofWords_complete separate reading, List.singleton_append, List.filterMap_cons, ih]
      rfl

/-! ## Warnings about operands -/

namespace Warning

/-- The word of a warning about an operand that is left over. -/
def extra? : Warning → Option String
  | .extraArgument word => some word
  | _ => none

end Warning

namespace Draft

def extras (d : Draft) : List String :=
  d.warnings.filterMap Warning.extra?

theorem extras_warn (d : Draft) {w : Warning} (other : w.extra? = none) :
    (d.warn w).extras = d.extras := by
  rw [extras, warn, List.filterMap_cons, other]
  rfl

theorem extras_addCookies (d : Draft) (raw : String) : (d.addCookies raw).extras = d.extras := by
  unfold addCookies
  split
  · rfl
  · exact extras_warn d rfl

theorem extras_setHeader (d : Draft) (name value : String) :
    (d.setHeader name value).extras = d.extras := by
  unfold setHeader
  dsimp only
  split
  · rfl
  · split
    · exact extras_addCookies d value
    · rfl

theorem extras_removeHeader (d : Draft) (name : String) :
    (d.removeHeader name).extras = d.extras := by
  unfold removeHeader
  dsimp only
  split <;> rfl

theorem extras_addHeader (d : Draft) (raw : String) : (d.addHeader raw).extras = d.extras := by
  unfold addHeader
  split
  · next name value _ =>
      dsimp only
      split
      · exact extras_warn d rfl
      · split
        · exact extras_removeHeader d _
        · exact extras_setHeader d _ _
  · split
    · exact extras_setHeader d _ _
    · exact extras_warn d rfl

theorem extras_addField (d : Draft) (raw : String) (allowFiles : Bool) :
    (d.addField raw allowFiles).extras = d.extras := by
  unfold addField
  split
  · exact extras_warn d rfl
  · split
    · rfl
    · exact extras_warn d rfl
    · rfl

theorem extras_setUrl (d : Draft) (value : String) : (d.setUrl value).extras = d.extras := by
  unfold setUrl
  dsimp only
  split <;> rfl

theorem extras_applyOption (d : Draft) (flag : Flag) (value : String) :
    (d.applyOption flag value).extras = d.extras := by
  cases flag with
  | url => exact extras_setUrl d value
  | header => exact extras_addHeader d value
  | cookie => exact extras_addCookies d value
  | userAgent | referer => exact extras_setHeader d _ value
  | form => exact extras_addField d value true
  | formString => exact extras_addField d value false
  | method | maxRedirs | maxTime | connectTimeout =>
      simp only [applyOption]
      split
      · rfl
      · exact extras_warn d rfl
  | _ => rfl

/-- An operand that cannot be the address is left over; options leave no operand over. -/
theorem extras_apply {item : Item} (left : ∀ word, item = .operand word → ¬ Url.isRecognized word)
    (d : Draft) : (d.apply item).extras = item.operand?.toList ++ d.extras := by
  cases item with
  | option flag value => exact extras_applyOption d flag value
  | unknownLong name => exact extras_warn d rfl
  | unknownLetter letter => exact extras_warn d rfl
  | operand word =>
      have unrecognized := left word rfl
      rw [apply, if_neg (by simp [unrecognized])]
      rfl

theorem extras_foldl_apply {items : List Item}
    (left : ∀ item ∈ items, ∀ word, item = .operand word → ¬ Url.isRecognized word) (d : Draft) :
    (items.foldl apply d).extras = (items.filterMap Item.operand?).reverse ++ d.extras := by
  induction items generalizing d with
  | nil => rfl
  | cons item rest ih =>
      obtain ⟨here, later⟩ := List.forall_mem_cons.1 left
      rw [List.foldl_cons, ih later, extras_apply here, List.filterMap_cons]
      cases item.operand? <;> simp

theorem extras_payload (d : Draft) : d.payload.warnings.filterMap Warning.extra? = [] := by
  unfold payload
  split
  · split <;> rfl
  · split
    · rfl
    · split
      · rfl
      · split
        · rfl
        · dsimp only
          split <;> rfl

theorem extras_authorizationWarnings (d : Draft) :
    d.authorizationWarnings.filterMap Warning.extra? = [] := by
  unfold authorizationWarnings
  split
  · cases d.transport.authScheme? <;> cases d.headerAuthorization?.isSome <;> rfl
  · rfl

/-- What is noticed when a draft is completed is not about operands. -/
theorem extras_finish {d : Draft} {outcome : Outcome} (h : d.finish = .ok outcome) :
    outcome.warnings.filterMap Warning.extra? = d.extras.reverse := by
  obtain ⟨raw, -, -, rfl⟩ := finish_eq_ok_iff.1 h
  simp only [completed, List.filterMap_append, extras_payload, extras_authorizationWarnings,
    List.append_nil, List.filterMap_reverse]
  rfl

end Draft

/-! ## The operand that is the address -/

namespace Item

/-- An item that is neither an option for the address nor an operand that can be one gives none. -/
theorem address?_eq_none {item : Item} (noOption : ∀ value, item ≠ .option .url value)
    (left : ∀ word, item = .operand word → ¬ Url.isRecognized word) : item.address? = none := by
  cases item with
  | option flag value =>
      cases flag with
      | url => exact absurd rfl (noOption value)
      | _ => rfl
  | unknownLong name => rfl
  | unknownLetter letter => rfl
  | operand word => exact if_neg (left word rfl)

/-- The word of an operand that can be the address. -/
def candidate? (item : Item) : Option String :=
  item.operand?.filter Url.isRecognized

theorem candidate?_eq_some_iff {item : Item} {word : String} :
    item.candidate? = some word ↔ item = .operand word ∧ Url.isRecognized word = true := by
  cases item <;> simp [candidate?, operand?, Option.filter_eq_some_iff]

theorem not_recognized_of_candidate? {item : Item} (h : item.candidate? = none) :
    ∀ word, item = .operand word → ¬ Url.isRecognized word := by
  intro word operand recognized
  rw [candidate?_eq_some_iff.2 ⟨operand, recognized⟩] at h
  exact absurd h (by simp)

theorem filterMap_candidate? (words : List String) :
    (ofWords words).filterMap candidate? = (operands words).filter Url.isRecognized := by
  rw [← operands_ofWords, List.filter_filterMap]
  rfl

end Item

/-- Where no operand can be the address, all of them are left over. -/
theorem Item.leftOver_of_no_candidate {items : List Item}
    (none : ∀ item ∈ items, item.candidate? = none) :
    (items.filterMap operand?).filter (fun word => !Url.isRecognized word) =
      items.filterMap operand? := by
  refine List.filter_eq_self.2 fun word mem => ?_
  obtain ⟨item, inside, gives⟩ := List.mem_filterMap.1 mem
  have operand : item = .operand word := by
    cases item <;> simp_all [operand?]
  simpa using not_recognized_of_candidate? (none item inside) word operand

/-- Of the operands of items all are left over but the one that is the address. -/
theorem Draft.extras_ofItems {before after : List Item} {word : String}
    (first : ∀ item ∈ before, item.address? = none)
    (earlier : ∀ item ∈ before, item.candidate? = none)
    (recognized : Url.isRecognized word = true)
    (later : ∀ item ∈ after, item.candidate? = none) :
    (ofItems (before ++ .operand word :: after)).extras.reverse =
      ((before ++ .operand word :: after).filterMap Item.operand?).filter
        fun other => !Url.isRecognized other := by
  have unset : (ofItems before).url? = none := by
    rw [url?_ofItems, Item.firstAddress?, List.findSome?_eq_none_iff.2 first]
    rfl
  have here : ((ofItems before).apply (.operand word)).extras = (ofItems before).extras := by
    rw [apply, if_pos (by simp [unset, recognized])]
    exact extras_setUrl _ word
  have run : (ofItems (before ++ .operand word :: after)).extras =
      (after.filterMap Item.operand?).reverse ++ (before.filterMap Item.operand?).reverse := by
    have start : (ofItems before).extras = (before.filterMap Item.operand?).reverse ++ [] :=
      extras_foldl_apply
        (fun item mem => Item.not_recognized_of_candidate? (earlier item mem)) {}
    rw [ofItems, List.foldl_append, List.foldl_cons,
      extras_foldl_apply fun item mem => Item.not_recognized_of_candidate? (later item mem)]
    rw [List.append_nil] at start
    exact congrArg _ (here.trans start)
  rw [run, List.filterMap_append, List.filterMap_cons, Item.operand?, List.filter_append,
    List.filter_cons, Item.leftOver_of_no_candidate earlier, Item.leftOver_of_no_candidate later]
  simp [recognized]

/--
A command without an address option.  If just one of its operands can be the address it makes a
request with that address, wherever the operand stands, and is warned of each other operand once,
in order.  If none can be, there is no address.
-/
theorem ofWords_operands {words : List String}
    (noOption : ∀ value, .option .url value ∉ Item.ofWords words) :
    (∀ word, (operands words).filter Url.isRecognized = [word] →
      ∃ outcome, ofWords words = .ok outcome ∧
        outcome.request.url = (Url.splitQuery (Url.withScheme word)).1 ∧
        outcome.request.url ≠ "" ∧
        outcome.request.query =
          Ordered.enter (· == ·) (Url.splitQuery (Url.withScheme word)).2
            (Item.addedPairs (Item.ofWords words)) ∧
        outcome.warnings.filterMap Warning.extra? =
          (operands words).filter fun other => !Url.isRecognized other) ∧
    ((operands words).filter Url.isRecognized = [] → ofWords words = .error .missingUrl) := by
  have silent {items : List Item} (among : items ⊆ Item.ofWords words)
      (left : ∀ item ∈ items, item.candidate? = none) : ∀ item ∈ items, item.address? = none := by
    intro item mem
    refine Item.address?_eq_none (fun value same => noOption value (among (same ▸ mem))) ?_
    exact Item.not_recognized_of_candidate? (left item mem)
  rw [← Item.filterMap_candidate?]
  constructor
  · intro word single
    obtain ⟨before, item, after, items, earlier, gives, later⟩ :=
      List.filterMap_eq_cons_iff.1 single
    rw [List.filterMap_eq_nil_iff] at later
    obtain ⟨rfl, recognized⟩ := Item.candidate?_eq_some_iff.1 gives
    have first := silent (fun i mem => by rw [items]; exact List.mem_append_left _ mem) earlier
    have nonempty := Url.splitQuery_withScheme_ne recognized
    have known : (Draft.ofItems (Item.ofWords words)).url? = some (Url.withScheme word) := by
      rw [url?_ofItems, items, Item.firstAddress?_operand first recognized]
      rfl
    obtain ⟨outcome, ok⟩ := Draft.finish_of_url known nonempty
    obtain ⟨raw, known', url, query⟩ := Draft.finish_eq_ok ok
    obtain rfl := Option.some.inj (known.symm.trans known')
    rw [queryPairs_ofItems] at query
    refine ⟨outcome, ok, url, url ▸ nonempty, query, ?_⟩
    rw [Draft.extras_finish ok, ← operands_ofWords, items]
    exact Draft.extras_ofItems first earlier recognized later
  · intro noCandidate
    have none := silent (List.Subset.refl _) (List.filterMap_eq_nil_iff.1 noCandidate)
    have unset : (Draft.ofItems (Item.ofWords words)).url? = Option.none := by
      rw [url?_ofItems, Item.firstAddress?, List.findSome?_eq_none_iff.2 none]
      rfl
    rw [ofWords, Draft.finish, unset]

/-- An argument that looks like an address, and operands before and behind the two dashes. -/
theorem ofWords_operands_separated :
    let words :=
      ["stray", "-o", "https://y.test", "-sd", "a=1", "x.test/?q=1", "-G", "--", "-k", "z"]
    operands words = ["stray", "x.test/?q=1", "-k", "z"] ∧
      ∃ outcome, ofWords words = .ok outcome ∧
        outcome.request.url = "https://x.test/" ∧ outcome.request.url ≠ "" ∧
        outcome.request.query = [("q", "1"), ("a", "1")] ∧
        outcome.warnings.filterMap Warning.extra? = ["stray", "-k", "z"] := by
  intro words
  have output : Reading.ofWord "-o" = ⟨[], some .ignoredWithArgument⟩ := by decide
  have data : Reading.ofWord "-sd" = ⟨[.option .ignored ""], some .data⟩ := by decide
  have get : Reading.ofWord "-G" = ⟨[.option .get ""], none⟩ := by decide
  have separated : Item.ofWords ["--", "-k", "z"] = [.operand "-k", .operand "z"] := by
    simp [Item.ofWords, Item.readOnto]
  have items : Item.ofWords words =
      [.operand "stray", .option .ignoredWithArgument "https://y.test", .option .ignored "",
        .option .data "a=1", .operand "x.test/?q=1", .option .get "", .operand "-k",
        .operand "z"] := by
    rw [Item.ofWords_operand (by decide), Item.ofWords_option output, Item.ofWords_waiting data,
      Item.ofWords_operand (by decide), Item.ofWords_complete (by decide) get, separated]
    rfl
  have noOption : ∀ value, Item.option .url value ∉ Item.ofWords words := by
    simp [items]
  have single : (operands words).filter Url.isRecognized = ["x.test/?q=1"] := by decide
  obtain ⟨outcome, ok, url, nonempty, query, extras⟩ := (ofWords_operands noOption).1 _ single
  rw [items] at query
  exact ⟨by decide, outcome, ok, url.trans (by decide), nonempty, query.trans (by decide),
    extras.trans (by decide)⟩

end Command

end RequestScribe
