import RequestScribe.Program.Extraction
import RequestScribe.Proofs.Command.Family
import RequestScribe.Proofs.Command.Headers
import RequestScribe.Proofs.Command.Insertion
import RequestScribe.Proofs.Program.SentHeaders

/-!
# The header that the cookies make

A cookie is taken out of a list of pairs, without the blanks around its name and its value.  So
neither has a semicolon in it and the name has no equals sign, which is why cookies that are
written behind one another can be read again.

Cookies that no header of the request gives are sent in a Cookie header of their own, behind all
others.  Its value is a list that a cookie option takes: what is sent says neither more nor less
than the cookies of the request, in their order.
-/

namespace RequestScribe

/-! ## Cookies of a draft -/

namespace Ordered

variable {κ α : Type} [BEq κ] [LawfulBEq κ]

theorem mem_of_mem_set {entries : List (κ × α)} {key : κ} {value : α} {entry : κ × α}
    (mem : entry ∈ set (· == ·) key value entries) : entry = (key, value) ∨ entry ∈ entries := by
  induction entries with
  | nil => exact .inl (List.mem_singleton.1 mem)
  | cons first rest ih =>
      obtain ⟨k, v⟩ := first
      rw [set] at mem
      split at mem
      · next here =>
          rcases List.mem_cons.1 mem with rfl | later
          · exact .inl (by rw [eq_of_beq here])
          · exact .inr (List.mem_cons_of_mem _ later)
      · rcases List.mem_cons.1 mem with rfl | later
        · exact .inr List.mem_cons_self
        · exact (ih later).imp_right (List.mem_cons_of_mem _)

theorem mem_of_mem_enter {entries pairs : List (κ × α)} {entry : κ × α}
    (mem : entry ∈ enter (· == ·) entries pairs) : entry ∈ pairs ∨ entry ∈ entries := by
  induction pairs generalizing entries with
  | nil => exact .inr mem
  | cons pair rest ih =>
      rcases ih mem with later | here
      · exact .inl (List.mem_cons_of_mem pair later)
      · refine (mem_of_mem_set here).imp_left ?_
        rintro rfl
        exact List.mem_cons_self

/-- Collapsing makes no new pairs. -/
theorem mem_of_mem_ofPairs {pairs : List (κ × α)} {entry : κ × α}
    (mem : entry ∈ ofPairs (· == ·) pairs) : entry ∈ pairs :=
  (mem_of_mem_enter mem).resolve_right List.not_mem_nil

end Ordered

namespace Command

/-- Name and value of a cookie. -/
structure IsCookie (pair : String × String) : Prop where
  named : pair.1 ≠ ""
  nameTrimmed : Text.trim pair.1 = pair.1
  nameWhole : ∀ c ∈ pair.1.toList, c ≠ '=' ∧ c ≠ ';'
  valueTrimmed : Text.trim pair.2 = pair.2
  valueWhole : ';' ∉ pair.2.toList

def cookie? (piece : String) : Option (String × String) :=
  match Text.cut? '=' (Text.trim piece) with
  | some (name, value) => if name.isEmpty then none else some (Text.trim name, Text.trim value)
  | none => none

theorem Draft.cookiePairs_eq (raw : String) :
    cookiePairs raw = (Text.splitOn ';' raw).filterMap cookie? := by
  refine List.filterMap_congr fun piece _ => ?_
  unfold cookie?
  rcases Text.cut? '=' (Text.trim piece) with _ | ⟨name, value⟩ <;> rfl

theorem isCookie_of_cookie? {piece : String} {pair : String × String}
    (whole : ';' ∉ piece.toList) (read : cookie? piece = some pair) : IsCookie pair := by
  unfold cookie? at read
  split at read
  · next name value cut =>
      obtain ⟨text, separate⟩ := Text.cut?_eq_some_iff.1 cut
      rw [Text.trim, String.toList_ofList] at text
      have inside : ∀ c ∈ name.toList ++ '=' :: value.toList, c ∈ piece.toList := by
        rw [← text]
        exact fun c => Chars.mem_of_mem_trim
      have part {s : String} {c : Char} (mem : c ∈ (Text.trim s).toList) : c ∈ s.toList := by
        rw [Text.trim, String.toList_ofList] at mem
        exact Chars.mem_of_mem_trim mem
      split at read
      · cases read
      · next some =>
          obtain rfl := Option.some.inj read
          refine ⟨fun blank => ?_, Text.trim_trim name, fun c mem => ⟨?_, ?_⟩,
            Text.trim_trim value, fun mem => ?_⟩
          -- The piece is trimmed, so what it begins with is no blank.
          · have nonempty : name.toList ≠ [] := by simpa using some
            obtain ⟨c, rest, first⟩ := List.exists_cons_of_ne_nil nonempty
            have visible := Chars.visible_head?_trim piece.toList c (by rw [text, first]; rfl)
            have all := List.all_eq_true.1 (Text.trim_eq_empty_iff.1 blank)
            exact Bool.false_ne_true (visible.symm.trans (all c (first ▸ List.mem_cons_self)))
          · rintro rfl
            exact separate (part mem)
          · rintro rfl
            exact whole (inside _ (List.mem_append_left _ (part mem)))
          · exact whole (inside _ (List.mem_append_right _ (List.mem_cons_of_mem _ (part mem))))
  · cases read

theorem isCookie_of_mem_cookiePairs {raw : String} {pair : String × String}
    (mem : pair ∈ Draft.cookiePairs raw) : IsCookie pair := by
  rw [Draft.cookiePairs_eq] at mem
  obtain ⟨piece, given, read⟩ := List.mem_filterMap.1 mem
  obtain ⟨cs, inside, rfl⟩ := List.mem_map.1 given
  refine isCookie_of_cookie? ?_ read
  rw [String.toList_ofList]
  exact Chars.not_mem_of_mem_splitOn inside

/-- All cookies that an item gives are proper ones. -/
theorem isCookie_of_mem_cookies {item : Item} {pair : String × String}
    (mem : pair ∈ item.cookies) : IsCookie pair := by
  unfold Item.cookies at mem
  split at mem
  · exact isCookie_of_mem_cookiePairs mem
  · obtain ⟨edit, -, given⟩ := List.mem_flatMap.1 mem
    cases edit with
    | set name value =>
        rw [HeaderEdit.cookies] at given
        split at given
        · exact isCookie_of_mem_cookiePairs given
        · exact absurd given List.not_mem_nil
    | remove name => exact absurd given List.not_mem_nil

/-- The cookies of a request are proper ones with different names. -/
theorem cookies_of_ok {words : List String} {outcome : Outcome}
    (parsed : ofWords words = .ok outcome) :
    (∀ pair ∈ outcome.request.cookies, IsCookie pair) ∧
      (outcome.request.cookies.map Prod.fst).Nodup := by
  rw [(Draft.finish_heading parsed).2, Draft.cookies_ofItems]
  refine ⟨fun pair mem => ?_, Ordered.nodup_ofPairs _⟩
  obtain ⟨item, -, given⟩ := List.mem_flatMap.1 (Ordered.mem_of_mem_ofPairs mem)
  exact isCookie_of_mem_cookies given

/-! ## Cookies behind one another -/

def cookieText (pair : String × String) : List Char :=
  pair.1.toList ++ '=' :: pair.2.toList

namespace IsCookie

variable {pair : String × String} (h : IsCookie pair)

include h

theorem semicolon_not_mem : ';' ∉ cookieText pair := by
  rw [cookieText, List.mem_append, List.mem_cons, not_or, not_or]
  exact ⟨fun mem => (h.nameWhole ';' mem).2 rfl, by decide, h.valueWhole⟩

theorem trim_cookieText : Chars.trim (cookieText pair) = cookieText pair := by
  have trimmed {s : String} (same : Text.trim s = s) : Chars.trim s.toList = s.toList := by
    rw [Text.trim, ← String.toList_inj, String.toList_ofList] at same
    exact same
  have nonempty : pair.1.toList ≠ [] := by simpa using h.named
  obtain ⟨c, rest, first⟩ := List.exists_cons_of_ne_nil nonempty
  refine Chars.trim_of_visible_ends (fun d start => ?_) (fun d last => ?_)
  · rw [cookieText, first] at start
    obtain rfl := Option.some.inj start
    have visible := Chars.visible_head?_trim pair.1.toList
    rw [trimmed h.nameTrimmed, first] at visible
    exact visible c rfl
  · have visible := Chars.visible_of_trim_eq (trimmed h.valueTrimmed)
    rw [cookieText, List.getLast?_append, List.getLast?_cons, Option.some_or] at last
    cases ending : pair.2.toList.getLast? with
    | none =>
        rw [ending] at last
        obtain rfl := Option.some.inj last
        decide
    | some e =>
        rw [ending] at last
        obtain rfl := Option.some.inj last
        exact visible e ending

/-- A cookie is read again, also with a blank in front of it. -/
theorem cookie?_cookieText {piece : List Char}
    (text : piece = cookieText pair ∨ piece = ' ' :: cookieText pair) :
    cookie? (String.ofList piece) = some pair := by
  have trimmed : Text.trim (String.ofList piece) = String.ofList (cookieText pair) := by
    rw [Text.trim, String.toList_ofList]
    rcases text with rfl | rfl
    · rw [h.trim_cookieText]
    · rw [Chars.trim_cons_blank (by decide), h.trim_cookieText]
  have separate : '=' ∉ pair.1.toList := fun mem => (h.nameWhole '=' mem).1 rfl
  have cut : Text.cut? '=' (String.ofList (cookieText pair)) = some pair :=
    Text.cut?_append separate String.toList_ofList
  have named : ¬ pair.1.isEmpty = true := by simpa using h.named
  unfold cookie?
  simp only [trimmed, cut, if_neg named, h.nameTrimmed, h.valueTrimmed]

end IsCookie

theorem splitOn_cookieValue {first : String × String} {rest : List (String × String)}
    (proper : ∀ pair ∈ first :: rest, IsCookie pair) :
    (Extraction.cookieValue (first :: rest)).toList.splitOn ';' =
      cookieText first :: rest.map fun pair => ' ' :: cookieText pair := by
  have written (pair : String × String) :
      (pair.1 ++ "=" ++ pair.2).toList = cookieText pair := by
    simp [cookieText]
  induction rest generalizing first with
  | nil =>
      have text : (Extraction.cookieValue [first]).toList = cookieText first := by
        simp [Extraction.cookieValue, written]
      rw [text, List.splitOn_eq_singleton (proper first List.mem_cons_self).semicolon_not_mem]
      rfl
  | cons second rest ih =>
      obtain ⟨here, later⟩ := List.forall_mem_cons.1 proper
      have text : (Extraction.cookieValue (first :: second :: rest)).toList =
          cookieText first ++ ';' :: ' ' :: (Extraction.cookieValue (second :: rest)).toList := by
        simp [Extraction.cookieValue, written]
      rw [text, List.splitOn_append_cons_self_of_not_mem here.semicolon_not_mem,
        List.splitOn_cons_eq_if_modifyHead, if_neg (by decide), ih later]
      rfl

/-- Cookies that are written behind one another are read again, in the same order. -/
theorem cookiePairs_cookieValue {cookies : List (String × String)} (some : cookies ≠ [])
    (proper : ∀ pair ∈ cookies, IsCookie pair) :
    Draft.cookiePairs (Extraction.cookieValue cookies) = cookies := by
  obtain ⟨first, rest, rfl⟩ := List.exists_cons_of_ne_nil some
  obtain ⟨here, later⟩ := List.forall_mem_cons.1 proper
  have head : cookie? (String.ofList (cookieText first)) = .some first :=
    here.cookie?_cookieText (.inl rfl)
  have each : ∀ pair ∈ rest, cookie? (String.ofList (' ' :: cookieText pair)) = .some pair :=
    fun pair mem => (later pair mem).cookie?_cookieText (.inr rfl)
  have tail : rest.filterMap (fun pair => cookie? (String.ofList (' ' :: cookieText pair))) =
      rest := by
    rw [List.filterMap_congr each, List.filterMap_some]
  rw [Draft.cookiePairs_eq, Text.splitOn, splitOn_cookieValue proper, List.map_cons,
    List.filterMap_cons, head, List.map_map, List.filterMap_map]
  simp only [Function.comp_def, tail]

/-! ## A cookie option among other items -/

namespace Draft

def withCookies (d : Draft) (cookies : List (String × String)) : Draft :=
  { d with cookies }

end Draft

/-- A step of another family brings no cookies and does not look at them. -/
theorem Confined.withCookies {f : Family} {step : Draft → Draft} (h : Confined f step)
    (other : f ≠ .headers) (d : Draft) (cookies : List (String × String)) :
    step (d.withCookies cookies) = (step d).withCookies cookies := by
  obtain ⟨change, notes, spec⟩ := h
  let put : Family.State .headers → Family.State .headers := fun x => (x.1, x.2.1, cookies)
  have exchange (d : Draft) : d.withCookies cookies = d.modify .headers put := rfl
  rw [spec, spec, exchange, exchange, Draft.modify_comm d other.symm, Draft.modify_note]

namespace Draft

variable (d : Draft) (cookies : List (String × String))

theorem addCookies_withCookies {raw : String} (none : cookiePairs raw = []) :
    (d.withCookies cookies).addCookies raw = (d.addCookies raw).withCookies cookies := by
  simp only [addCookies, none]
  split <;> rfl

theorem setHeader_withCookies {name value : String}
    (none : (HeaderEdit.set name value).cookies = []) :
    (d.withCookies cookies).setHeader name value =
      (d.setHeader name value).withCookies cookies := by
  unfold setHeader
  by_cases authorization : Text.sameIgnoringCase name "Authorization" = true
  · simp only [if_pos authorization, withCookies]
  · simp only [if_neg authorization]
    by_cases cookie : Text.sameIgnoringCase name "Cookie" = true
    · have empty : cookiePairs value = [] := by rwa [HeaderEdit.cookies, if_pos cookie] at none
      simp only [if_pos cookie]
      rw [addCookies_withCookies d cookies empty]
      simp only [withCookies]
    · simp only [if_neg cookie, withCookies]

theorem removeHeader_withCookies (name : String) :
    (d.withCookies cookies).removeHeader name = (d.removeHeader name).withCookies cookies := by
  unfold removeHeader
  dsimp only
  split <;> rfl

theorem addHeader_withCookies {raw : String}
    (none : (HeaderEdit.ofLine? raw).toList.flatMap HeaderEdit.cookies = []) :
    (d.withCookies cookies).addHeader raw = (d.addHeader raw).withCookies cookies := by
  rw [addHeader_eq, addHeader_eq]
  cases line : HeaderEdit.ofLine? raw with
  | none => rfl
  | some edit =>
      rw [line, Option.toList_some, List.flatMap_singleton] at none
      cases edit with
      | set name value => exact setHeader_withCookies d cookies none
      | remove name => exact removeHeader_withCookies d cookies name

/-- An item without cookies does not look at those that there are. -/
theorem apply_withCookies {item : Item} (none : item.cookies = []) :
    (d.withCookies cookies).apply item = (d.apply item).withCookies cookies := by
  cases item with
  | unknownLong name => rfl
  | unknownLetter letter => rfl
  | operand word =>
      have address : (d.withCookies cookies).url? = d.url? := rfl
      rw [apply, apply, address]
      split
      · exact (confined_setUrl word).withCookies (by decide) d cookies
      · rfl
  | option flag value =>
      have elsewhere {f : Family} (family : flag.family? = some f) (other : f ≠ .headers) :=
        (confined_applyOption family value).withCookies other d cookies
      cases flag with
      | basic | ignored | ignoredWithArgument => rfl
      | cookie => exact addCookies_withCookies d cookies none
      | userAgent | referer => exact setHeader_withCookies d cookies (by rfl)
      | header => exact addHeader_withCookies d cookies none
      | _ => exact elsewhere rfl (by decide)

theorem foldl_apply_withCookies {items : List Item} (none : items.flatMap Item.cookies = []) :
    items.foldl apply (d.withCookies cookies) = (items.foldl apply d).withCookies cookies := by
  induction items generalizing d with
  | nil => rfl
  | cons item rest ih =>
      rw [List.flatMap_cons, List.append_eq_nil_iff] at none
      rw [List.foldl_cons, List.foldl_cons, apply_withCookies d cookies none.1, ih _ none.2]

/-- Among items without cookies an option makes the cookies, and nothing else. -/
theorem ofItems_cookie_between {before after : List Item}
    (none : (before ++ after).flatMap Item.cookies = []) {value : String}
    (pairs : Text.hasChar '=' value = true) :
    ofItems (before ++ .option .cookie value :: after) =
      (ofItems (before ++ after)).withCookies (Ordered.ofPairs (· == ·) (cookiePairs value)) := by
  rw [List.flatMap_append, List.append_eq_nil_iff] at none
  have empty : (ofItems before).cookies = [] := by
    rw [cookies_ofItems, none.1]
    rfl
  have entered : (before.foldl apply {}).apply (.option .cookie value) =
      (ofItems before).withCookies (Ordered.ofPairs (· == ·) (cookiePairs value)) := by
    show (ofItems before).apply (.option .cookie value) = _
    rw [apply, applyOption, addCookies, if_pos pairs, empty]
    rfl
  rw [ofItems, List.foldl_append, List.foldl_cons, entered, foldl_apply_withCookies _ _ none.2,
    ofItems, ofItems, List.foldl_append]

end Draft

end Command

/-! ## The header -/

namespace Extraction

/-- Without a Cookie header the cookies come last, and in no other header. -/
theorem exists_cookie_last {extract : Bool} {r : Request}
    (distinct : Ordered.Distinct Text.sameIgnoringCase r.headers) (some : r.cookies ≠ [])
    (noHeader : r.hasHeader "Cookie" = false) :
    ∃ front, (ofRequest extract r).headers =
        front ++ [("Cookie", Fragment.literal (cookieValue r.cookies))] ∧
      ∀ header ∈ front, Text.sameIgnoringCase header.1 "Cookie" = false := by
  have last : ∃ front, (ofRequest extract r).headers =
      front ++ [("Cookie", Fragment.literal (cookieValue r.cookies))] := by
    have sent : ¬(r.cookies.isEmpty || r.hasHeader "Cookie") = true := by simp [some, noHeader]
    let waiting := (Pass.last extract r).pending?.map fun fragment => ("Authorization", fragment)
    refine ⟨(Pass.last extract r).headers ++ waiting.toList, ?_⟩
    show (Pass.last extract r).headers ++ closing r (Pass.last extract r) = _
    rw [closing, if_neg sent, List.append_assoc]
  obtain ⟨front, headers⟩ := last
  have apart := distinct_ofRequest extract distinct
  rw [headers] at apart
  refine ⟨front, headers, fun header mem => ?_⟩
  exact (List.pairwise_append.1 apart).2.2 header mem ("Cookie", .literal (cookieValue r.cookies))
    List.mem_cons_self

theorem hasChar_cookieValue {cookies : List (String × String)} (some : cookies ≠ []) :
    Text.hasChar '=' (cookieValue cookies) = true := by
  obtain ⟨first, rest, rfl⟩ := List.exists_cons_of_ne_nil some
  simp [Text.hasChar, cookieValue]

end Extraction

namespace Command

/-- A cookie option among words without cookies makes its cookies, and nothing else. -/
theorem ofWords_cookie {before : List String} (complete : Item.isComplete before = true)
    {after : List String} (none : (Item.ofWords (before ++ after)).flatMap Item.cookies = [])
    {option : List String} {cookies : List (String × String)} (some : cookies ≠ [])
    (proper : ∀ pair ∈ cookies, IsCookie pair) (distinct : (cookies.map Prod.fst).Nodup)
    (written : Item.Writes option .cookie (Extraction.cookieValue cookies)) {other : Outcome}
    (parsed : ofWords (before ++ after) = .ok other) :
    ofWords (before ++ option ++ after) =
      .ok { other with request := { other.request with cookies } } := by
  rw [Item.ofWords_append complete] at none
  rw [ofWords, Item.ofWords_append complete] at parsed
  obtain ⟨raw, known, nonempty, rfl⟩ := Draft.finish_eq_ok_iff.1 parsed
  rw [ofWords, written.between complete,
    Draft.ofItems_cookie_between none (Extraction.hasChar_cookieValue some),
    cookiePairs_cookieValue some proper, Ordered.ofPairs_eq_self_iff.2 distinct]
  exact Draft.finish_eq_ok_iff.2 ⟨raw, known, nonempty, rfl⟩

/--
The cookies of a request without a Cookie header are sent in one header, the last.  A command with
an option that has its value, and without other cookies, has exactly these cookies.
-/
theorem ofWords_cookieHeader {words : List String} {outcome : Outcome}
    (parsed : ofWords words = .ok outcome) (some : outcome.request.cookies ≠ [])
    (noHeader : outcome.request.hasHeader "Cookie" = false) (settings : Settings) :
    ∃ front value,
      (Brief.ofRequest settings outcome.request).headers =
          front ++ [("Cookie", Fragment.literal value)] ∧
        (∀ header ∈ front, Text.sameIgnoringCase header.1 "Cookie" = false) ∧
        ∀ before option after other, Item.isComplete before = true →
          Item.Writes option .cookie value → ofWords (before ++ after) = .ok other →
          (Item.ofWords (before ++ after)).flatMap Item.cookies = [] →
          ofWords (before ++ option ++ after) =
            .ok { other with
              request := { other.request with cookies := outcome.request.cookies } } := by
  obtain ⟨proper, distinct⟩ := cookies_of_ok parsed
  obtain ⟨front, headers, apart⟩ :=
    Extraction.exists_cookie_last (ofWords_headers parsed).2 some noHeader
  refine ⟨front, Extraction.cookieValue outcome.request.cookies, headers, apart, ?_⟩
  intro before option after other complete written without none
  exact ofWords_cookie complete none some proper distinct written without

/-- A list with blanks, a name that is repeated, and pieces that are no cookies. -/
theorem ofWords_cookieHeader_untidy :
    let words := ["-b", " a = 1 ;b=x=y;; c;=d;a=", "-u", "me", "https://x.test"]
    let cookies := [("a", ""), ("b", "x=y")]
    let r : Request :=
      { method := .get
        url := "https://x.test"
        headers := []
        body? := none
        rawBody? := none
        authorization? := some (.basic "me" "")
        cookies
        files := []
        query := []
        transport := { userAgent? := some "curl/8.5.0" } }
    ofWords words = .ok ⟨r, []⟩ ∧
      (Brief.ofRequest {} r).headers = [("Cookie", .literal "a=; b=x=y")] ∧
      ∃ outcome, ofWords ["-b", "a=; b=x=y", "https://y.test"] = .ok outcome ∧
        outcome.request.cookies = cookies := by
  intro words cookies r
  have parsed : ofWords words = .ok ⟨r, []⟩ := by decide +kernel
  have sent : (Brief.ofRequest {} r).headers = [("Cookie", .literal "a=; b=x=y")] := by
    decide +kernel
  let plain : Request :=
    { method := .get
      url := "https://y.test"
      headers := []
      body? := none
      rawBody? := none
      authorization? := none
      cookies := []
      files := []
      query := []
      transport := { userAgent? := some "curl/8.5.0" } }
  have parsedPlain : ofWords ["https://y.test"] = .ok ⟨plain, []⟩ := by decide +kernel
  obtain ⟨front, value, headers, -, again⟩ :=
    ofWords_cookieHeader parsed (by decide) (by decide) {}
  obtain rfl : value = "a=; b=x=y" := by
    have last := congrArg List.getLast? (headers.symm.trans sent)
    simpa using last
  have written : Item.Writes ["-b", "a=; b=x=y"] .cookie "a=; b=x=y" :=
    @Item.Writes.letterApart 'b' .cookie (by decide) rfl "a=; b=x=y"
  exact ⟨parsed, sent, _, again [] _ ["https://y.test"] _ rfl written parsedPlain
    (by decide +kernel), rfl⟩

end Command

end RequestScribe
