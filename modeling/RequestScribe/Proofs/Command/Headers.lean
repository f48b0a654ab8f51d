import RequestScribe.Proofs.Command.Address
import RequestScribe.Proofs.Command.HeaderTable

/-!
# What becomes of the headers

The header options of a command edit a table of headers, one after the other.
The headers of a request are the edited table, with the defaults of JSON and of
the body behind it.  Cookies are collected on the way: from cookie options, and
from edits that set a Cookie header.
-/

namespace RequestScribe

namespace Command

namespace Item

/-- The edit of a header option, or of one that sets a header of its own. -/
def headerEdit? : Item → Option HeaderEdit
  | .option .header raw => HeaderEdit.ofLine? raw
  | .option .userAgent value => some (.set "User-Agent" value)
  | .option .referer value => some (.set "Referer" value)
  | _ => none

def asksJson : Item → Bool
  | .option .json _ => true
  | _ => false

def headerEdits (items : List Item) : List HeaderEdit :=
  items.filterMap headerEdit?

end Item

/-! ## Headers and cookies of a draft -/

/-- The cookies that come with an edit: those of a Cookie header that is set. -/
def HeaderEdit.cookies : HeaderEdit → List (String × String)
  | .set name value => if Text.sameIgnoringCase name "Cookie" then Draft.cookiePairs value else []
  | .remove _ => []

def Item.cookies : Item → List (String × String)
  | .option .cookie raw => Draft.cookiePairs raw
  | item => item.headerEdit?.toList.flatMap HeaderEdit.cookies

/-- What a draft knows of headers and cookies. -/
structure Heading where
  headers : Headers := []
  cookies : List (String × String) := []
  json : Bool := false
  deriving DecidableEq, Repr

namespace Heading

def edit (h : Heading) (e : HeaderEdit) : Heading :=
  { h with
    headers :=
      match e with
      | .set name value => h.headers.set name value
      | .remove name => h.headers.erase name
    cookies := Ordered.enter (· == ·) h.cookies e.cookies }

def take (h : Heading) (item : Item) : Heading where
  headers := (item.headerEdit?.toList.foldl edit h).headers
  cookies := Ordered.enter (· == ·) h.cookies item.cookies
  json := h.json || item.asksJson

theorem take_of_edit (h : Heading) {item : Item} {e : HeaderEdit}
    (edits : item.headerEdit? = some e) (other : ∀ raw, item ≠ .option .cookie raw)
    (plain : item.asksJson = false) : h.take item = h.edit e := by
  have cookies : item.cookies = e.cookies := by
    unfold Item.cookies
    split
    · next raw => exact absurd rfl (other raw)
    · rw [edits]
      simp
  simp [take, edits, cookies, plain, edit]

theorem take_of_quiet (h : Heading) {item : Item} (edits : item.headerEdit? = none)
    (cookies : item.cookies = []) (plain : item.asksJson = false) : h.take item = h := by
  simp [take, edits, cookies, plain, Ordered.enter]

end Heading

/-- Without an equals sign there is no cookie. -/
theorem Draft.cookiePairs_eq_nil {raw : String} (absent : '=' ∉ raw.toList) :
    cookiePairs raw = [] := by
  rw [cookiePairs, List.filterMap_eq_nil_iff]
  intro piece mem
  obtain ⟨cs, inside, rfl⟩ := List.mem_map.1 mem
  have plain : '=' ∉ Chars.trim cs := fun h =>
    absent (Chars.mem_of_mem_splitOn inside (Chars.mem_of_mem_trim h))
  simp [Text.cut?, Text.trim, Chars.cut?_eq_none plain]

namespace Draft

def heading (d : Draft) : Heading :=
  ⟨d.headers, d.cookies, d.json⟩

theorem heading_addCookies (d : Draft) (raw : String) :
    (d.addCookies raw).heading =
      { d.heading with cookies := Ordered.enter (· == ·) d.cookies (cookiePairs raw) } := by
  unfold addCookies
  split
  · rfl
  · next absent =>
      have none : cookiePairs raw = [] := cookiePairs_eq_nil (by simpa [Text.hasChar] using absent)
      rw [none]
      rfl

theorem heading_setHeader (d : Draft) (name value : String) :
    (d.setHeader name value).heading = d.heading.edit (.set name value) := by
  unfold setHeader
  by_cases cookie : Text.sameIgnoringCase name "Cookie" = true
  · have other : Text.sameIgnoringCase name "Authorization" = false := by
      have names : Text.lower "Cookie" ≠ Text.lower "Authorization" := by decide
      rw [Text.sameIgnoringCase_iff] at cookie
      rw [Text.sameIgnoringCase, cookie]
      exact beq_false_of_ne names
    have added := heading_addCookies d value
    simp only [heading, Heading.mk.injEq] at added
    simp [cookie, other, heading, Heading.edit, HeaderEdit.cookies, added]
  · simp only [cookie, heading, Heading.edit, HeaderEdit.cookies]
    split <;> simp [Ordered.enter]

theorem heading_removeHeader (d : Draft) (name : String) :
    (d.removeHeader name).heading = d.heading.edit (.remove name) := by
  unfold removeHeader
  dsimp only
  split <;> rfl

/-- A header option makes the edit that its line says. -/
theorem addHeader_eq (d : Draft) (raw : String) :
    d.addHeader raw =
      match HeaderEdit.ofLine? raw with
      | some (.set name value) => d.setHeader name value
      | some (.remove name) => d.removeHeader name
      | none => d.warn (.malformedHeader raw) := by
  unfold addHeader HeaderEdit.ofLine?
  cases Text.cut? ':' raw with
  | none => cases Text.before? ";" raw <;> rfl
  | some parts =>
      simp only [String.isEmpty_iff]
      split
      · rfl
      · split <;> rfl

theorem heading_addHeader (d : Draft) (raw : String) :
    (d.addHeader raw).heading = (HeaderEdit.ofLine? raw).toList.foldl Heading.edit d.heading := by
  rw [addHeader_eq]
  rcases HeaderEdit.ofLine? raw with _ | ⟨name, value⟩ | name
  · rfl
  · exact heading_setHeader d name value
  · exact heading_removeHeader d name

theorem heading_addField (d : Draft) (raw : String) (allowFiles : Bool) :
    (d.addField raw allowFiles).heading = d.heading := by
  unfold addField
  split
  · rfl
  · split <;> rfl

theorem heading_setUrl (d : Draft) (value : String) : (d.setUrl value).heading = d.heading := by
  unfold setUrl
  dsimp only
  split <;> rfl

theorem heading_applyOption (d : Draft) (flag : Flag) (value : String) :
    (d.applyOption flag value).heading = d.heading.take (.option flag value) := by
  have quiet {d' : Draft} (same : d'.heading = d.heading)
      (none : (Item.option flag value).headerEdit? = none)
      (empty : (Item.option flag value).cookies = [])
      (plain : (Item.option flag value).asksJson = false) :
      d'.heading = d.heading.take (.option flag value) := by
    rw [Heading.take_of_quiet _ none empty plain, same]
  cases flag with
  | header =>
      cases edits : HeaderEdit.ofLine? value with
      | none =>
          refine quiet ?_ edits (by simp [Item.cookies, Item.headerEdit?, edits]) rfl
          rw [applyOption, heading_addHeader, edits]
          rfl
      | some e =>
          rw [applyOption, heading_addHeader, edits]
          have edits : (Item.option .header value).headerEdit? = some e := edits
          exact (Heading.take_of_edit _ edits (by simp) rfl).symm
  | userAgent | referer =>
      rw [applyOption, heading_setHeader]
      exact (Heading.take_of_edit _ rfl (by simp) rfl).symm
  | cookie =>
      rw [applyOption, heading_addCookies]
      simp [Heading.take, Item.headerEdit?, Item.cookies, Item.asksJson, heading]
  | json =>
      simp [applyOption, addData, Heading.take, Item.headerEdit?, Item.cookies, Item.asksJson,
        heading, Ordered.enter]
  | url => exact quiet (heading_setUrl d value) rfl rfl rfl
  | form => exact quiet (heading_addField d value true) rfl rfl rfl
  | formString => exact quiet (heading_addField d value false) rfl rfl rfl
  | method | maxRedirs | maxTime | connectTimeout =>
      refine quiet ?_ rfl rfl rfl
      simp only [applyOption]
      split <;> rfl
  | _ => exact quiet rfl rfl rfl rfl

theorem heading_apply (d : Draft) (item : Item) : (d.apply item).heading = d.heading.take item := by
  cases item with
  | option flag value => exact heading_applyOption d flag value
  | unknownLong name => exact (Heading.take_of_quiet _ rfl rfl rfl).symm
  | unknownLetter letter => exact (Heading.take_of_quiet _ rfl rfl rfl).symm
  | operand word =>
      rw [Heading.take_of_quiet _ rfl rfl rfl, apply]
      split
      · exact heading_setUrl d word
      · rfl

end Draft

/-- The headers of items are those of the table that their edits make. -/
theorem Heading.headers_foldl_take {h : Heading} {t : HeaderTable} (start : h.headers = t.entries)
    (items : List Item) :
    (items.foldl take h).headers =
      ((Item.headerEdits items).foldl HeaderTable.edit t).entries := by
  induction items generalizing h t with
  | nil => exact start
  | cons item rest ih =>
      rw [List.foldl_cons, Item.headerEdits, List.filterMap_cons]
      cases edits : item.headerEdit? with
      | none =>
          refine ih ?_
          simp [take, edits, start]
      | some e =>
          refine ih ?_
          cases e with
          | set name value =>
              simp [take, edits, edit, start, HeaderTable.edit, HeaderTable.entries_set]
          | remove name =>
              simp [take, edits, edit, start, HeaderTable.edit, HeaderTable.entries_remove]

theorem Heading.foldl_take (items : List Item) (h : Heading) :
    (items.foldl take h).cookies =
        Ordered.enter (· == ·) h.cookies (items.flatMap Item.cookies) ∧
      (items.foldl take h).json = (h.json || items.any Item.asksJson) := by
  induction items generalizing h with
  | nil => simp [Ordered.enter]
  | cons item rest ih =>
      obtain ⟨cookies, json⟩ := ih (h.take item)
      rw [List.foldl_cons, cookies, json, List.flatMap_cons, List.any_cons, ← Bool.or_assoc]
      simp [take, Ordered.enter, List.foldl_append]

namespace Draft

theorem heading_ofItems (items : List Item) :
    (ofItems items).heading = items.foldl Heading.take {} := by
  have run (d : Draft) : (items.foldl apply d).heading = items.foldl Heading.take d.heading := by
    induction items generalizing d with
    | nil => rfl
    | cons item rest ih => rw [List.foldl_cons, List.foldl_cons, ih, heading_apply]
  exact run {}

theorem headers_ofItems (items : List Item) :
    (ofItems items).headers = (HeaderTable.ofEdits (Item.headerEdits items)).entries :=
  (congrArg Heading.headers (heading_ofItems items)).trans (Heading.headers_foldl_take rfl items)

theorem cookies_ofItems (items : List Item) :
    (ofItems items).cookies = Ordered.ofPairs (· == ·) (items.flatMap Item.cookies) :=
  (congrArg Heading.cookies (heading_ofItems items)).trans (Heading.foldl_take items {}).1

theorem json_ofItems (items : List Item) : (ofItems items).json = items.any Item.asksJson :=
  (congrArg Heading.json (heading_ofItems items)).trans (Heading.foldl_take items {}).2

/-- A request has the headers and cookies of its draft. -/
theorem finish_heading {d : Draft} {outcome : Outcome} (h : d.finish = .ok outcome) :
    outcome.request.headers = d.finalHeaders outcome.request.body? ∧
      outcome.request.cookies = d.cookies := by
  obtain ⟨raw, -, -, rfl⟩ := finish_eq_ok_iff.1 h
  exact ⟨rfl, rfl⟩

end Draft

/-! ## Headers of a request -/

namespace HeaderTable

/-- The defaults: what JSON is answered with, and the content type that a body implies. -/
def withDefaults (t : HeaderTable) (json : Bool) (body? : Option Body) : HeaderTable :=
  let accepting := if json then t.setDefault "Accept" "application/json" else t
  match body?.bind (fun body => body.dataType.impliedContentType?) with
  | some type => accepting.setDefault "Content-Type" type
  | none => accepting

def ofItems (items : List Item) (body? : Option Body) : HeaderTable :=
  (ofEdits (Item.headerEdits items)).withDefaults (items.any Item.asksJson) body?

/-- The defaults bring no names but their own. -/
theorem has_ofItems {items : List Item} {body? : Option Body} {name : String}
    (accept : Text.sameIgnoringCase "Accept" name = false)
    (contentType : Text.sameIgnoringCase "Content-Type" name = false) :
    (ofItems items body?).has name = (ofEdits (Item.headerEdits items)).has name := by
  have accepting (json : Bool) (t : HeaderTable) :
      (if json then t.setDefault "Accept" "application/json" else t).has name = t.has name := by
    split
    · rw [has_setDefault, accept, Bool.or_false]
    · rfl
  unfold ofItems withDefaults
  cases body?.bind (fun body => body.dataType.impliedContentType?) with
  | none => exact accepting _ _
  | some type =>
      dsimp only
      rw [has_setDefault, contentType, Bool.or_false, accepting]

theorem finalHeaders_eq {d : Draft} {t : HeaderTable} (same : d.headers = t.entries)
    (body? : Option Body) : d.finalHeaders body? = (t.withDefaults d.json body?).entries := by
  have accepting :
      (if d.json then d.headers.setDefault "Accept" "application/json" else d.headers) =
        (if d.json then t.setDefault "Accept" "application/json" else t).entries := by
    split
    · rw [entries_setDefault, same]
    · exact same
  unfold Draft.finalHeaders withDefaults
  dsimp only
  rw [accepting]
  cases body?.bind (fun body => body.dataType.impliedContentType?) with
  | none => rfl
  | some type => exact (entries_setDefault _ _ _).symm

end HeaderTable

theorem headers_of_ok {words : List String} {outcome : Outcome}
    (ok : ofWords words = .ok outcome) :
    outcome.request.headers =
      (HeaderTable.ofItems (Item.ofWords words) outcome.request.body?).entries := by
  have edited := Draft.headers_ofItems (Item.ofWords words)
  rw [(Draft.finish_heading ok).1, HeaderTable.finalHeaders_eq edited, Draft.json_ofItems]
  rfl

/--
The headers of a request are those of the table that its header options make,
with the defaults behind them.  No two have the same name, whatever its case.
-/
theorem ofWords_headers {words : List String} {outcome : Outcome}
    (ok : ofWords words = .ok outcome) :
    outcome.request.headers =
        (HeaderTable.ofItems (Item.ofWords words) outcome.request.body?).entries ∧
      Ordered.Distinct Text.sameIgnoringCase outcome.request.headers := by
  refine ⟨headers_of_ok ok, ?_⟩
  rw [headers_of_ok ok]
  exact HeaderTable.distinct _

theorem ofWords_headers_reset :
    ∃ outcome, ofWords ["-H", "A: b", "-e", "r", "-H", "a: c", "https://x.test"] = .ok outcome ∧
      outcome.request.headers =
        (HeaderTable.ofItems
          (Item.ofWords ["-H", "A: b", "-e", "r", "-H", "a: c", "https://x.test"])
          outcome.request.body?).entries ∧
      Ordered.Distinct Text.sameIgnoringCase outcome.request.headers := by
  have header : Reading.ofWord "-H" = ⟨[], some .header⟩ := by decide
  have referer : Reading.ofWord "-e" = ⟨[], some .referer⟩ := by decide
  have items : Item.ofWords ["-H", "A: b", "-e", "r", "-H", "a: c", "https://x.test"] =
      [.option .header "A: b", .option .referer "r", .option .header "a: c"] ++
        .operand "https://x.test" :: Item.ofWords [] := by
    rw [Item.ofWords_option header, Item.ofWords_option referer, Item.ofWords_option header,
      Item.ofWords_operand (by decide)]
    rfl
  obtain ⟨outcome, ok, -⟩ := ofWords_operand items (by decide) (by decide)
  exact ⟨outcome, ok, ofWords_headers ok⟩

end Command

end RequestScribe
