import RequestScribe.Proofs.Command.Content
import RequestScribe.Proofs.Command.Item

/-!
# What becomes of the address

The first address among the items is the address of the request.  It is given a
scheme unless it contains `://`, and its query is joined by the data that are
put into the query.  Of several pairs with one key only the last value stays.
-/

namespace RequestScribe

namespace Command

namespace Draft

/-- The data join the query if that was asked for and no form takes precedence. -/
theorem queryPairs_payload (d : Draft) :
    d.payload.queryPairs =
      if d.get && d.form.fields.isEmpty then Form.decode d.joinedData else [] := by
  unfold payload
  cases form : d.form.fields.isEmpty with
  | false => simp
  | true =>
      cases data : d.data.isEmpty with
      | true =>
          have empty : d.joinedData = "" := by
            rw [joinedData, List.isEmpty_iff.1 data]
            rfl
          have none : Form.decode "" = [] := by decide
          simp [empty, none]
      | false =>
          cases d.get with
          | true => simp
          | false => cases d.dataFile? <;> simp

/-- A request has the address without its query, and the query joined by the data. -/
theorem finish_eq_ok {d : Draft} {outcome : Outcome} (h : d.finish = .ok outcome) :
    ∃ raw, d.url? = some raw ∧ outcome.request.url = (Url.splitQuery raw).1 ∧
      outcome.request.query =
        Ordered.enter (· == ·) (Url.splitQuery raw).2 d.payload.queryPairs := by
  obtain ⟨raw, known, -, rfl⟩ := finish_eq_ok_iff.1 h
  exact ⟨raw, known, rfl, rfl⟩

theorem finish_of_url {d : Draft} {raw : String} (known : d.url? = some raw)
    (nonempty : (Url.splitQuery raw).1 ≠ "") : ∃ outcome, d.finish = .ok outcome :=
  ⟨d.completed raw, finish_eq_ok_iff.2 ⟨raw, known, nonempty, rfl⟩⟩

end Draft

def Item.firstAddress? (items : List Item) : Option String :=
  items.findSome? Item.address?

/-- The pairs that items add to the query: their data, unless a form takes precedence. -/
def Item.addedPairs (items : List Item) : List (String × String) :=
  if items.any Item.asksGet && (items.filterMap Item.formPart?).isEmpty then
    Form.decode ("&".intercalate ((items.filterMap Item.dataPart?).map DataPart.encoded))
  else []

theorem queryPairs_ofItems (items : List Item) :
    (Draft.ofItems items).payload.queryPairs = Item.addedPairs items := by
  have content := Draft.content_ofItems items
  simp only [Draft.content, Content.mk.injEq] at content
  obtain ⟨-, data, form, get⟩ := content
  rw [Draft.queryPairs_payload, Draft.joinedData, data, form, get, List.reverse_reverse,
    (Multipart.isOf_ofParts _).isEmpty_fields]
  rfl

theorem url?_ofItems (items : List Item) :
    (Draft.ofItems items).url? = (Item.firstAddress? items).map Url.withScheme :=
  congrArg Content.url? (Draft.content_ofItems items)

/-- What a command that is read says of address and query. -/
theorem ofWords_eq_ok {words : List String} {outcome : Outcome}
    (ok : ofWords words = .ok outcome) :
    ∃ address, Item.firstAddress? (Item.ofWords words) = some address ∧
      outcome.request.url = (Url.splitQuery (Url.withScheme address)).1 ∧
      outcome.request.query =
        Ordered.ofPairs (· == ·)
          (Form.decode (Url.queryText address) ++ Item.addedPairs (Item.ofWords words)) := by
  obtain ⟨raw, known, url, query⟩ := Draft.finish_eq_ok ok
  rw [url?_ofItems] at known
  obtain ⟨address, first, rfl⟩ := Option.map_eq_some_iff.1 known
  refine ⟨address, first, url, ?_⟩
  rw [query, queryPairs_ofItems, Url.splitQuery_snd, Url.queryText_withScheme]
  simp only [Ordered.ofPairs, Ordered.enter, List.foldl_append]

theorem trimmed?_of_recognized {word : String} (recognized : Url.isRecognized word = true) :
    trimmed? word = some word := by
  obtain ⟨⟨c, rest, text, -⟩, solid⟩ := Url.isRecognized_spec recognized
  have nonempty : ¬ word.isEmpty = true := by simp [← String.toList_inj, text]
  simp only [trimmed?, Text.trim_of_no_blank solid, if_neg nonempty]

theorem Item.firstAddress?_operand {before after : List Item} {word : String}
    (first : ∀ item ∈ before, item.address? = none)
    (recognized : Url.isRecognized word = true) :
    Item.firstAddress? (before ++ .operand word :: after) = some word := by
  rw [Item.firstAddress?, List.findSome?_append, List.findSome?_eq_none_iff.2 first,
    Option.none_or, List.findSome?_cons]
  simp only [Item.address?, recognized, if_true, trimmed?_of_recognized recognized]

theorem exists_ofWords_eq_ok {words : List String} {address : String}
    (first : Item.firstAddress? (Item.ofWords words) = some address)
    (nonempty : (Url.splitQuery (Url.withScheme address)).1 ≠ "") :
    ∃ outcome, ofWords words = .ok outcome := by
  have known : (Draft.ofItems (Item.ofWords words)).url? = some (Url.withScheme address) := by
    rw [url?_ofItems, first, Option.map_some]
  exact Draft.finish_of_url known nonempty

theorem ofWords_operand {words : List String} {before after : List Item} {word : String}
    (items : Item.ofWords words = before ++ .operand word :: after)
    (first : ∀ item ∈ before, item.address? = none)
    (recognized : Url.isRecognized word = true) :
    ∃ outcome, ofWords words = .ok outcome ∧
      outcome.request.url = (Url.splitQuery (Url.withScheme word)).1 ∧
      outcome.request.query =
        Ordered.ofPairs (· == ·)
          (Form.decode (Url.queryText word) ++ Item.addedPairs (Item.ofWords words)) := by
  have address : Item.firstAddress? (Item.ofWords words) = some word := by
    rw [items, Item.firstAddress?_operand first recognized]
  obtain ⟨outcome, ok⟩ := exists_ofWords_eq_ok address (Url.splitQuery_withScheme_ne recognized)
  obtain ⟨word', first', url, query⟩ := ofWords_eq_ok ok
  obtain rfl : word = word' := Option.some.inj (address.symm.trans first')
  exact ⟨outcome, ok, url, query⟩

/-! ## The scheme -/

/--
A recognized word that is the first address makes a request.  Its address has a
scheme just if the word is absolute or contains no `://`: a bare host with
`://` in its path, query or fragment is left without one.
-/
theorem ofWords_hasScheme_iff {words : List String} {before after : List Item} {word : String}
    (items : Item.ofWords words = before ++ .operand word :: after)
    (first : ∀ item ∈ before, item.address? = none)
    (recognized : Url.isRecognized word = true) :
    ∃ outcome, ofWords words = .ok outcome ∧
      (Url.HasScheme outcome.request.url ↔
        Url.IsAbsolute word ∨ Text.contains "://" word = false) := by
  obtain ⟨outcome, ok, url, -⟩ := ofWords_operand items first recognized
  refine ⟨outcome, ok, ?_⟩
  rw [url, Url.hasScheme_splitQuery_iff, Url.hasScheme_withScheme_iff,
    Url.hasScheme_iff_isAbsolute recognized]

theorem ofWords_hasScheme_iff_port :
    ∃ outcome, ofWords ["-A", "me", "localhost:8080/?q=1"] = .ok outcome ∧
      (Url.HasScheme outcome.request.url ↔
        Url.IsAbsolute "localhost:8080/?q=1" ∨
          Text.contains "://" "localhost:8080/?q=1" = false) := by
  have agent : Reading.ofWord "-A" = ⟨[], some .userAgent⟩ := by decide
  have items : Item.ofWords ["-A", "me", "localhost:8080/?q=1"] =
      [.option .userAgent "me"] ++ .operand "localhost:8080/?q=1" :: Item.ofWords [] := by
    rw [Item.ofWords_option agent, Item.ofWords_operand (by decide)]
    rfl
  exact ofWords_hasScheme_iff items (by decide) (by decide)

/-- A bare host that is not promoted, because an address stands in its query. -/
theorem ofWords_address_in_query :
    ∃ outcome, ofWords ["x.test/go?to=http://y.test"] = .ok outcome ∧
      Url.isRecognized "x.test/go?to=http://y.test" = true ∧
      outcome.request.url = "x.test/go" ∧ ¬ Url.HasScheme outcome.request.url := by
  have recognized : Url.isRecognized "x.test/go?to=http://y.test" = true := by decide
  have items : Item.ofWords ["x.test/go?to=http://y.test"] =
      [] ++ .operand "x.test/go?to=http://y.test" :: Item.ofWords [] :=
    Item.ofWords_operand (by decide) []
  obtain ⟨outcome, ok, url, -⟩ := ofWords_operand items (by decide) recognized
  refine ⟨outcome, ok, recognized, url.trans (by decide), ?_⟩
  rw [url, Url.hasScheme_splitQuery_iff, Url.hasScheme_withScheme_iff,
    Url.hasScheme_iff_isAbsolute recognized, ← Url.isAbsolute_iff]
  decide

/-! ## The query -/

/--
The query of a request is what the pairs of the address, followed by those of
the data that are put into the query, come to: every key once, in the place of
its first pair and with the value of its last.  It is just these pairs if no key
is repeated.
-/
theorem ofWords_query {words : List String} {outcome : Outcome}
    (ok : ofWords words = .ok outcome) :
    ∃ address, Item.firstAddress? (Item.ofWords words) = some address ∧
      let pairs := Form.decode (Url.queryText address) ++ Item.addedPairs (Item.ofWords words)
      let sent := Form.decode (Url.queryText outcome.request.fullUrl)
      Ordered.Collapses pairs sent ∧ (sent = pairs ↔ (pairs.map Prod.fst).Nodup) := by
  obtain ⟨address, first, url, query⟩ := ofWords_eq_ok ok
  refine ⟨address, first, ?_⟩
  have base : ∀ c ∈ outcome.request.url.toList, Url.isBaseCharacter c = true := by
    rw [url]
    exact Url.isBaseCharacter_of_mem_splitQuery
  have sent := Url.decode_queryText_join base outcome.request.query
  dsimp only
  rw [Request.fullUrl, sent, query]
  exact ⟨Ordered.collapses_ofPairs _, Ordered.ofPairs_eq_self_iff⟩

theorem ofWords_query_get :
    ∃ outcome, ofWords ["-d", "b=2", "-G", "x.test/?a=1"] = .ok outcome ∧
    ∃ address, Item.firstAddress? (Item.ofWords ["-d", "b=2", "-G", "x.test/?a=1"]) = some address ∧
      let pairs := Form.decode (Url.queryText address) ++
        Item.addedPairs (Item.ofWords ["-d", "b=2", "-G", "x.test/?a=1"])
      let sent := Form.decode (Url.queryText outcome.request.fullUrl)
      Ordered.Collapses pairs sent ∧ (sent = pairs ↔ (pairs.map Prod.fst).Nodup) := by
  have data : Reading.ofWord "-d" = ⟨[], some .data⟩ := by decide
  have get : Reading.ofWord "-G" = ⟨[.option .get ""], none⟩ := by decide
  have items : Item.ofWords ["-d", "b=2", "-G", "x.test/?a=1"] =
      [.option .data "b=2", .option .get ""] ++ .operand "x.test/?a=1" :: Item.ofWords [] := by
    rw [Item.ofWords_option data, Item.ofWords_complete (by decide) get,
      Item.ofWords_operand (by decide)]
    rfl
  obtain ⟨outcome, ok, -⟩ := ofWords_operand items (by decide) (by decide)
  exact ⟨outcome, ok, ofWords_query ok⟩

/-- Of two pairs with one key in an address the first is lost. -/
theorem ofWords_repeated_key :
    ∃ outcome, ofWords ["https://x.test/?a=1&a=2"] = .ok outcome ∧
      Item.firstAddress? (Item.ofWords ["https://x.test/?a=1&a=2"]) =
        some "https://x.test/?a=1&a=2" ∧
      Form.decode (Url.queryText "https://x.test/?a=1&a=2") = [("a", "1"), ("a", "2")] ∧
      Form.decode (Url.queryText outcome.request.fullUrl) = [("a", "2")] := by
  have items : Item.ofWords ["https://x.test/?a=1&a=2"] =
      [] ++ .operand "https://x.test/?a=1&a=2" :: Item.ofWords [] :=
    Item.ofWords_operand (by decide) []
  obtain ⟨outcome, ok, url, query⟩ := ofWords_operand items (by decide) (by decide)
  have nothing : Item.ofWords [] = [] := by simp [Item.ofWords, Item.readOnto]
  refine ⟨outcome, ok, ?_, by decide, ?_⟩
  · rw [items]
    exact Item.firstAddress?_operand (by decide) (by decide)
  · rw [items, nothing] at query
    rw [Request.fullUrl, url, query]
    decide

/--
The address of a request has neither query nor fragment.  Its full address falls
apart into both again, and so would the address with any other query.
-/
theorem ofWords_splitQuery_fullUrl {words : List String} {outcome : Outcome}
    (ok : ofWords words = .ok outcome) :
    '?' ∉ outcome.request.url.toList ∧ '#' ∉ outcome.request.url.toList ∧
      Url.splitQuery outcome.request.fullUrl = (outcome.request.url, outcome.request.query) ∧
      ∀ query : List (String × String), (query.map Prod.fst).Nodup →
        Url.splitQuery (Url.join outcome.request.url query) = (outcome.request.url, query) := by
  obtain ⟨address, -, url, query⟩ := ofWords_eq_ok ok
  have base : ∀ c ∈ outcome.request.url.toList, Url.isBaseCharacter c = true := by
    rw [url]
    exact Url.isBaseCharacter_of_mem_splitQuery
  have distinct : (outcome.request.query.map Prod.fst).Nodup := by
    rw [query]
    exact Ordered.nodup_ofPairs _
  have absent := Url.not_mem_of_base base
  exact ⟨absent.2, absent.1, Url.splitQuery_join base distinct,
    fun _ distinct => Url.splitQuery_join base distinct⟩

/-- Empty keys and values and escaped bytes, in the address and in data that join its query. -/
theorem ofWords_splitQuery_fullUrl_get :
    let words := ["-G", "-d", "=&\u00fc=%F0%9F%98%80+", "-d", "a=%", "https://x.test/?a=1&b#c"]
    let r : Request :=
      { method := .get
        url := "https://x.test/"
        headers := []
        body? := none
        rawBody? := none
        authorization? := none
        cookies := []
        files := []
        query := [("a", "%"), ("b", ""), ("", ""), ("\u00fc", "😀 ")]
        transport := { userAgent? := some "curl/8.5.0" } }
    ofWords words = .ok ⟨r, []⟩ ∧
      r.fullUrl = "https://x.test/?a=%25&b=&=&%C3%BC=%F0%9F%98%80+" ∧
      Url.splitQuery r.fullUrl = (r.url, r.query) := by
  intro words r
  have parsed : ofWords words = .ok ⟨r, []⟩ := by decide +kernel
  exact ⟨parsed, by decide +kernel, (ofWords_splitQuery_fullUrl parsed).2.2.1⟩

end Command

end RequestScribe
