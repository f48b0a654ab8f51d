import Mathlib.Data.Bool.AllAny
import RequestScribe.Program.Generated
import RequestScribe.Proofs.Command.Address
import RequestScribe.Proofs.Program.CommandBrief

/-!
# Comments that stay on their lines

The head of a program holds line comments with text from the command: the
summary with the address, and notes, of which some quote the proxy.  A word that
is recognized as an address has no blanks, and a query is encoded, so neither
breaks a line.  The value of an address option and a proxy that cannot be read
are taken as they are.

A line comment ends at a line break, of which a language may have several kinds.
Comments that have none of them are no code.
-/

namespace RequestScribe

open Lexis

namespace Text

def IsOneLine (s : String) : Prop :=
  '\n' ∉ s.toList ∧ '\r' ∉ s.toList

instance (s : String) : Decidable (IsOneLine s) :=
  inferInstanceAs (Decidable ('\n' ∉ s.toList ∧ '\r' ∉ s.toList))

theorem isOneLine_append_iff {a b : String} :
    IsOneLine (a ++ b) ↔ IsOneLine a ∧ IsOneLine b := by
  simp only [IsOneLine, String.toList_append, List.mem_append, not_or]
  grind

theorem isOneLine_ofList {cs : List Char} (h : cs.all (fun c => c != '\n' && c != '\r') = true) :
    IsOneLine (String.ofList cs) := by
  rw [List.all_eq_true] at h
  rw [IsOneLine, String.toList_ofList]
  exact ⟨fun mem => absurd (h '\n' mem) (by decide), fun mem => absurd (h '\r' mem) (by decide)⟩

theorem isOneLine_of_not_blank {s : String} (solid : ∀ c ∈ s.toList, Chars.isBlank c = false) :
    IsOneLine s := by
  constructor
  · exact fun mem => absurd (solid '\n' mem) (by decide)
  · exact fun mem => absurd (solid '\r' mem) (by decide)

end Text

open Text

theorem Form.isOneLine_encode (pairs : List (String × String)) : IsOneLine (encode pairs) := by
  constructor
  · exact fun mem => absurd (mem_encode mem) (by decide)
  · exact fun mem => absurd (mem_encode mem) (by decide)

theorem Method.isOneLine_verb (m : Method) : IsOneLine m.verb := by
  cases m <;> decide

theorem Url.isOneLine_join_iff (url : String) (query : List (String × String)) :
    IsOneLine (join url query) ↔ IsOneLine url := by
  have mark : IsOneLine "?" := by decide
  unfold join
  split
  · rfl
  · rw [isOneLine_append_iff, isOneLine_append_iff]
    simp only [mark, Form.isOneLine_encode, and_true]

/-- Promotion to https breaks no line. -/
theorem Url.isOneLine_splitQuery_withScheme_iff (address : String) :
    IsOneLine (splitQuery (withScheme address)).1 ↔ IsOneLine (splitQuery address).1 := by
  obtain ⟨added, removed, rest, result, rfl, addedOf, removedOf⟩ :=
    exists_parts_withScheme address
  have base {start : List Char} (h : ∀ c ∈ start, c ∈ "https://".toList) :
      (splitQuery (String.ofList (start ++ rest))).1.toList =
        start ++ rest.takeWhile isBaseCharacter := by
    rw [splitQuery_fst, String.toList_ofList,
      List.takeWhile_append_of_pos fun c hc => isBaseCharacter_of_mem_https (h c hc)]
  have absent {start : List Char} (h : ∀ c ∈ start, c ∈ "https://".toList) :
      '\n' ∉ start ∧ '\r' ∉ start :=
    ⟨fun mem => absurd (h '\n' mem) (by decide), fun mem => absurd (h '\r' mem) (by decide)⟩
  rw [result]
  simp only [IsOneLine, base addedOf, base removedOf, List.mem_append, absent addedOf,
    absent removedOf, false_or]

namespace Brief

variable {b : Brief}

theorem isOneLine_summary_iff : IsOneLine b.summary ↔ IsOneLine b.url := by
  have space : IsOneLine " " := by decide
  rw [summary, fullUrl, isOneLine_append_iff, isOneLine_append_iff, Url.isOneLine_join_iff]
  simp only [Method.isOneLine_verb, space, true_and]

end Brief

/-! ## Notes -/

def Proxy.unreadNote (proxy : String) : String :=
  "could not parse proxy '" ++ proxy ++ "'; it was dropped"

theorem Proxy.isOneLine_unreadNote_iff (proxy : String) :
    IsOneLine (unreadNote proxy) ↔ IsOneLine proxy := by
  have lead : IsOneLine "could not parse proxy '" := isOneLine_ofList (by decide)
  have trail : IsOneLine "'; it was dropped" := isOneLine_ofList (by decide)
  constructor
  · intro whole
    exact (isOneLine_append_iff.1 (isOneLine_append_iff.1 whole).1).2
  · intro quoted
    exact isOneLine_append_iff.2 ⟨isOneLine_append_iff.2 ⟨lead, quoted⟩, trail⟩

def Transport.unreadProxy? (t : Transport) : Option String :=
  t.proxy?.filter fun proxy => (Proxy.read? proxy).isNone

section Notes

variable {b : Brief} {note : String}

theorem isOneLine_of_mem_ite {condition : Prop} [Decidable condition] {text : String}
    (h : IsOneLine text) (mem : note ∈ if condition then [text] else []) : IsOneLine note := by
  split at mem
  · exact List.mem_singleton.1 mem ▸ h
  · exact absurd mem List.not_mem_nil

theorem isOneLine_of_mem_ite_not {condition : Prop} [Decidable condition] {text : String}
    (h : IsOneLine text) (mem : note ∈ if condition then [] else [text]) : IsOneLine note := by
  split at mem
  · exact absurd mem List.not_mem_nil
  · exact List.mem_singleton.1 mem ▸ h

/-- The notes about a proxy, in the targets that have some. -/
def Transport.proxyNotes (t : Transport) : List String :=
  t.unreadProxy?.toList.map Proxy.unreadNote

theorem Transport.proxyNotes_eq (t : Transport) :
    t.proxyNotes =
      match t.proxy? with
      | some proxy =>
          if (Proxy.read? proxy).isNone then
            ["could not parse proxy '" ++ proxy ++ "'; it was dropped"]
          else []
      | none => [] := by
  unfold proxyNotes unreadProxy?
  cases t.proxy? with
  | none => rfl
  | some proxy =>
      dsimp only
      cases unread : (Proxy.read? proxy).isNone with
      | true => simp only [Option.filter, unread, if_true]; rfl
      | false => simp only [Option.filter, unread, Bool.false_eq_true, if_false]; rfl

theorem Script.notes_axios (typed : Bool) :
    Script.notes ⟨typed, .axios⟩ b = b.transport.proxyNotes :=
  b.transport.proxyNotes_eq.symm

theorem Script.isOneLine_of_mem_notes_fetch (typed : Bool)
    (h : note ∈ Script.notes ⟨typed, .fetch⟩ b) : IsOneLine note := by
  simp only [Script.notes, List.mem_append] at h
  rcases h with ((insecure | proxy) | certificates) | redirects
  · exact isOneLine_of_mem_ite (isOneLine_ofList (by decide)) insecure
  · exact isOneLine_of_mem_ite (isOneLine_ofList (by decide)) proxy
  · exact isOneLine_of_mem_ite (isOneLine_ofList (by decide)) certificates
  · exact isOneLine_of_mem_ite (isOneLine_ofList (by decide)) redirects

theorem Python.isOneLine_of_mem_notes {client : PythonClient} (h : note ∈ Python.notes client b) :
    IsOneLine note := by
  rcases List.mem_append.1 h with h | key
  · cases client with
    | requests =>
        rcases List.mem_append.1 h with blocking | redirects
        · exact isOneLine_of_mem_ite_not (isOneLine_ofList (by decide)) blocking
        · exact isOneLine_of_mem_ite (isOneLine_ofList (by decide)) redirects
    | httpx => exact absurd h List.not_mem_nil
  · exact isOneLine_of_mem_ite (isOneLine_ofList (by decide)) key

theorem Go.isOneLine_of_mem_notes (h : note ∈ Go.notes b) : IsOneLine note := by
  simp only [Go.notes, List.mem_append] at h
  rcases h with (blocking | authority) | certificate
  · exact isOneLine_of_mem_ite_not (isOneLine_ofList (by decide)) blocking
  · exact isOneLine_of_mem_ite (isOneLine_ofList (by decide)) authority
  · exact isOneLine_of_mem_ite (isOneLine_ofList (by decide)) certificate

theorem Ruby.mem_notes (h : note ∈ Ruby.notes b) :
    IsOneLine note ∨ note ∈ b.transport.proxyNotes := by
  rw [Transport.proxyNotes_eq]
  simp only [Ruby.notes, List.mem_append] at h
  rcases h with ((redirects | blocking) | certificate) | proxy
  · exact .inl (isOneLine_of_mem_ite (isOneLine_ofList (by decide)) redirects)
  · exact .inl (isOneLine_of_mem_ite_not (isOneLine_ofList (by decide)) blocking)
  · exact .inl (isOneLine_of_mem_ite (isOneLine_ofList (by decide)) certificate)
  · exact .inr proxy

namespace Target

def quotesProxy : Target → Bool
  | .javaScript .axios => true
  | .typeScript .axios => true
  | .ruby => true
  | _ => false

/-- A note is a text of one line, unless it quotes the proxy. -/
theorem mem_notes {t : Target} (h : note ∈ t.notes b) :
    IsOneLine note ∨ t.quotesProxy = true ∧ note ∈ b.transport.proxyNotes := by
  cases t with
  | javaScript client =>
      cases client with
      | fetch => exact .inl (Script.isOneLine_of_mem_notes_fetch false h)
      | axios => exact .inr ⟨rfl, by rwa [notes, Script.notes_axios] at h⟩
  | typeScript client =>
      cases client with
      | fetch => exact .inl (Script.isOneLine_of_mem_notes_fetch true h)
      | axios => exact .inr ⟨rfl, by rwa [notes, Script.notes_axios] at h⟩
  | python client => exact .inl (Python.isOneLine_of_mem_notes h)
  | go => exact .inl (Go.isOneLine_of_mem_notes h)
  | rust => exact .inl (isOneLine_of_mem_ite (isOneLine_ofList (by decide)) h)
  | php => exact .inl (isOneLine_of_mem_ite_not (isOneLine_ofList (by decide)) h)
  | ruby => exact (Ruby.mem_notes h).imp_right fun proxy => ⟨rfl, proxy⟩

theorem mem_notes_of_quotesProxy {t : Target} (quotes : t.quotesProxy = true)
    (h : note ∈ b.transport.proxyNotes) : note ∈ t.notes b := by
  cases t with
  | javaScript client | typeScript client =>
      cases client with
      | fetch => exact absurd quotes (by decide)
      | axios => rwa [notes, Script.notes_axios]
  | ruby =>
      rw [Transport.proxyNotes_eq] at h
      exact List.mem_append_right _ h
  | python | go | rust | php => exact absurd quotes Bool.false_ne_true

/-- The notes are of one line each just if no proxy is quoted that is not. -/
theorem isOneLine_notes_iff (t : Target) (b : Brief) :
    (∀ note ∈ t.notes b, IsOneLine note) ↔
      (t.quotesProxy = true → ∀ proxy, b.transport.unreadProxy? = some proxy → IsOneLine proxy) := by
  constructor
  · intro all quotes proxy unread
    have quoted : Proxy.unreadNote proxy ∈ b.transport.proxyNotes := by
      rw [Transport.proxyNotes, unread]
      exact List.mem_singleton.2 rfl
    exact (Proxy.isOneLine_unreadNote_iff proxy).1 (all _ (mem_notes_of_quotesProxy quotes quoted))
  · intro proxies note h
    rcases mem_notes h with fixed | ⟨quotes, quoted⟩
    · exact fixed
    · obtain ⟨proxy, unread, rfl⟩ := List.mem_map.1 quoted
      exact (Proxy.isOneLine_unreadNote_iff proxy).2
        (proxies quotes proxy (Option.mem_toList.1 unread))

end Target

end Notes

/-! ## Commands -/

namespace Command

/-- Without an address option the address is a word without blanks. -/
theorem Item.isOneLine_firstAddress? {items : List Item} {address : String}
    (first : firstAddress? items = some address)
    (operands : ∀ value, Item.option .url value ∉ items) : IsOneLine address := by
  obtain ⟨item, mem, gives⟩ := List.exists_of_findSome?_eq_some first
  cases item with
  | option flag value =>
      cases flag with
      | url => exact absurd mem (operands value)
      | _ => exact absurd gives (by simp [Item.address?])
  | unknownLong name => exact absurd gives (by simp [Item.address?])
  | unknownLetter letter => exact absurd gives (by simp [Item.address?])
  | operand word =>
      simp only [Item.address?] at gives
      split at gives
      · next recognized =>
          rw [trimmed?_of_recognized recognized] at gives
          obtain rfl := Option.some.inj gives
          exact isOneLine_of_not_blank (Url.isRecognized_spec recognized).2
      · exact absurd gives (by simp)

/--
Whether text from a command stays on its line in the head of a program.  The
summary does unless what stands before the query of the address has a line
break, which takes an address option.  The notes do unless one quotes a proxy
that cannot be read and has a line break.
-/
theorem ofWords_comments_isOneLine_iff {words : List String} {outcome : Outcome}
    (ok : ofWords words = .ok outcome) (settings : Settings) (t : Target) :
    let b := Brief.ofRequest settings outcome.request
    ∃ address, Item.firstAddress? (Item.ofWords words) = some address ∧
      (IsOneLine b.summary ↔ IsOneLine (Url.splitQuery address).1) ∧
      ((∀ value, Item.option .url value ∉ Item.ofWords words) → IsOneLine b.summary) ∧
      ((∀ note ∈ t.notes b, IsOneLine note) ↔
        (t.quotesProxy = true →
          ∀ proxy, outcome.request.transport.unreadProxy? = some proxy → IsOneLine proxy)) := by
  intro b
  obtain ⟨address, first, url, -⟩ := ofWords_eq_ok ok
  have summary : IsOneLine b.summary ↔ IsOneLine (Url.splitQuery address).1 := by
    have same : b.url = outcome.request.url := rfl
    rw [Brief.isOneLine_summary_iff, same, url, Url.isOneLine_splitQuery_withScheme_iff]
  refine ⟨address, first, summary, ?_, Target.isOneLine_notes_iff t b⟩
  intro operands
  have whole := Item.isOneLine_firstAddress? first operands
  rw [summary, IsOneLine, Url.splitQuery_fst]
  exact ⟨fun mem => whole.1 (List.takeWhile_subset _ mem),
    fun mem => whole.2 (List.takeWhile_subset _ mem)⟩

theorem ofWords_comments_isOneLine_iff_proxy :
    ∃ outcome, ofWords ["-x", "p.test", "x.test/a"] = .ok outcome ∧
      let b := Brief.ofRequest {} outcome.request
      ∃ address, Item.firstAddress? (Item.ofWords ["-x", "p.test", "x.test/a"]) = some address ∧
        (IsOneLine b.summary ↔ IsOneLine (Url.splitQuery address).1) ∧
        ((∀ value, Item.option .url value ∉ Item.ofWords ["-x", "p.test", "x.test/a"]) →
          IsOneLine b.summary) ∧
        ((∀ note ∈ Target.ruby.notes b, IsOneLine note) ↔
          (Target.ruby.quotesProxy = true →
            ∀ proxy, outcome.request.transport.unreadProxy? = some proxy → IsOneLine proxy)) := by
  have proxy : Reading.ofWord "-x" = ⟨[], some .proxy⟩ := by decide
  have items : Item.ofWords ["-x", "p.test", "x.test/a"] =
      [.option .proxy "p.test"] ++ .operand "x.test/a" :: Item.ofWords [] := by
    rw [Item.ofWords_option proxy, Item.ofWords_operand (by decide)]
    rfl
  obtain ⟨outcome, ok, -⟩ := ofWords_operand items (by decide) (by decide)
  exact ⟨outcome, ok, ofWords_comments_isOneLine_iff ok {} .ruby⟩

/-- The value of an address option may break the line of the summary. -/
theorem ofWords_summary_broken :
    ∃ outcome, ofWords ["--url", "https://x.test/a\nb"] = .ok outcome ∧
      ∀ settings, ¬ IsOneLine (Brief.ofRequest settings outcome.request).summary := by
  have option : Reading.ofWord "--url" = ⟨[], some .url⟩ := by decide
  have items : Item.ofWords ["--url", "https://x.test/a\nb"] =
      .option .url "https://x.test/a\nb" :: Item.ofWords [] := Item.ofWords_option option _ []
  have first : Item.firstAddress? (Item.ofWords ["--url", "https://x.test/a\nb"]) =
      some "https://x.test/a\nb" := by
    rw [items, Item.firstAddress?, List.findSome?_cons]
    decide
  obtain ⟨outcome, ok⟩ := exists_ofWords_eq_ok first (by decide)
  obtain ⟨address, first', url, -⟩ := ofWords_eq_ok ok
  obtain rfl := Option.some.inj (first.symm.trans first')
  refine ⟨outcome, ok, fun settings => ?_⟩
  have same : (Brief.ofRequest settings outcome.request).url = outcome.request.url := rfl
  rw [Brief.isOneLine_summary_iff, same, url]
  decide

end Command

/-! ## Comments that are no code -/

/-- The characters at which a line ends in one language or another. -/
def lineBreaks : List Char :=
  ['\n', '\r', '\u2028', '\u2029']

/-- Whether a text is one line in every language. -/
def IsUnbroken (s : String) : Prop :=
  ∀ c ∈ s.toList, c ∉ lineBreaks

instance (s : String) : Decidable (IsUnbroken s) :=
  List.decidableBAll (· ∉ lineBreaks) s.toList

theorem isUnbroken_append_iff {a b : String} :
    IsUnbroken (a ++ b) ↔ IsUnbroken a ∧ IsUnbroken b := by
  rw [IsUnbroken, String.toList_append, List.forall_mem_append]
  rfl

theorem isUnbroken_ofList {cs : List Char} (h : cs.all (fun c => !lineBreaks.contains c) = true) :
    IsUnbroken (String.ofList cs) := by
  intro c mem
  rw [String.toList_ofList] at mem
  simpa using List.all_eq_true.1 h c mem

theorem isUnbroken_name {name : String} (letters : ∀ c ∈ name.toList, isNameCharacter c = true) :
    IsUnbroken name := by
  intro c mem breaks
  have none : ∀ c ∈ lineBreaks, isNameCharacter c = false :=
      List.all_iff_forall_prop.1 (by decide)
  exact absurd (letters c mem) (by simp [none c breaks])

namespace Brief

variable {b : Brief} {c : Char}

/-- Every line break in the summary is one in the address. -/
theorem mem_summary_iff (breaks : c ∈ lineBreaks) : c ∈ b.summary.toList ↔ c ∈ b.url.toList := by
  have encoded : c ∉ (Form.encode b.query).toList := by
    intro mem
    have none : ∀ c ∈ lineBreaks, ¬(Form.isEncoded c = true ∨ c = '=' ∨ c = '&') :=
      List.all_iff_forall_prop.1 (by decide)
    exact none c breaks (Form.mem_encode mem)
  have verb : c ∉ b.method.verb.toList := by
    have none (m : Method) : ∀ c ∈ lineBreaks, c ∉ m.verb.toList :=
      List.all_iff_forall_prop.1 (by cases m <;> decide)
    exact none b.method c breaks
  have marks : c ≠ ' ' ∧ c ≠ '?' := by
    have none : ∀ c ∈ lineBreaks, c ≠ ' ' ∧ c ≠ '?' :=
      List.all_iff_forall_prop.1 (by decide)
    exact none c breaks
  rw [summary, fullUrl, Url.join]
  split
  · simp [verb, marks]
  · simp [verb, marks, encoded]

theorem isUnbroken_retryLines : ∀ text ∈ b.retryLines, IsUnbroken text := by
  unfold retryLines
  split
  · have first : IsUnbroken "Retry policy: up to " := isUnbroken_ofList (by decide)
    have last : IsUnbroken " attempts with exponential backoff." := isUnbroken_ofList (by decide)
    have number := isUnbroken_name (Fresh.isName_toString (max b.settings.retryAttempts 1)).letters
    refine List.forall_mem_cons.2 ⟨?_, List.forall_mem_singleton.2 (isUnbroken_ofList (by decide))⟩
    exact isUnbroken_append_iff.2 ⟨isUnbroken_append_iff.2 ⟨first, number⟩, last⟩
  · simp

end Brief

namespace Step.Reads

variable {l : Lexis} {marker : String}

theorem comment (opens : Reader.run l {} marker.toList = { place := .remark }) :
    Reads l [.line (Code.remark marker)] [] := by
  have alone : Reads l [Step.remark marker ""] [] := .remark opens (by simp)
  rwa [Step.remark, String.append_empty] at alone

theorem remarks (opens : Reader.run l {} marker.toList = { place := .remark })
    (known : ∀ c ∈ l.breaks, c ∈ lineBreaks) {texts : List String}
    (whole : ∀ text ∈ texts, IsUnbroken text) : Reads l (texts.map (Step.remark marker)) [] := by
  induction texts with
  | nil => exact .nil
  | cons text rest ih =>
      obtain ⟨here, later⟩ := List.forall_mem_cons.1 whole
      have feed : '\n' ∈ lineBreaks := by decide
      have first : Reads l [Step.remark marker text] [] := .remark opens fun c mem =>
        ⟨fun same => here c mem (same ▸ feed), fun breaks => here c mem (known c breaks)⟩
      exact first.append (ih later)

end Step.Reads

end RequestScribe
