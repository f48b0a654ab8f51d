import RequestScribe.Proofs.Command.Headers

/-!
# The names of headers

A name is taken from the option that sets it first, without the blanks around it; the defaults
have names of their own.  A line with a colon has to have a name in front of it.  A line that ends
in a semicolon does not, and so there may be one header without a name.
-/

namespace RequestScribe

theorem Text.sameIgnoringCase_empty_iff {name : String} :
    sameIgnoringCase name "" = true ↔ name = "" := by
  have lowered : lower "" = "" := by decide
  rw [sameIgnoringCase_iff, lowered, lower, String.ofList_eq_empty_iff, Chars.lower,
    List.map_eq_nil_iff, String.toList_eq_nil_iff]

namespace Command

/-! ## Where a name comes from -/

namespace HeaderTable

variable {t : HeaderTable} {entry : String × String}

theorem name_of_mem_append {name value : String} {absent : t.has name = false}
    (mem : entry ∈ (t.append name value absent).entries) :
    entry.1 = name ∨ entry.1 ∈ t.entries.map Prod.fst := by
  rcases List.mem_append.1 mem with old | last
  · exact .inr (List.mem_map_of_mem old)
  · exact .inl (congrArg Prod.fst (List.mem_singleton.1 last))

theorem name_of_mem_set {name value : String} (mem : entry ∈ (t.set name value).entries) :
    entry.1 = name ∨ entry.1 ∈ t.entries.map Prod.fst := by
  unfold set at mem
  split at mem
  · exact name_of_mem_append mem
  · obtain ⟨old, inside, rfl⟩ := List.mem_map.1 mem
    refine .inr (List.mem_map.2 ⟨old, inside, ?_⟩)
    split <;> rfl

theorem name_of_mem_setDefault {name value : String}
    (mem : entry ∈ (t.setDefault name value).entries) :
    entry.1 = name ∨ entry.1 ∈ t.entries.map Prod.fst := by
  unfold setDefault at mem
  split at mem
  · exact name_of_mem_append mem
  · exact .inr (List.mem_map_of_mem mem)

/-- An edit brings no name but its own. -/
theorem name_of_mem_edit {e : HeaderEdit} (mem : entry ∈ (t.edit e).entries) :
    e.isSet = true ∧ entry.1 = e.name ∨ entry.1 ∈ t.entries.map Prod.fst := by
  cases e with
  | set name value => exact (name_of_mem_set mem).imp_left fun same => ⟨rfl, same⟩
  | remove name => exact .inr (List.mem_map_of_mem (List.mem_of_mem_filter mem))

/-- Every name was set by an edit. -/
theorem name_of_mem_ofEdits {edits : List HeaderEdit} (mem : entry ∈ (ofEdits edits).entries) :
    ∃ e ∈ edits, e.isSet = true ∧ entry.1 = e.name := by
  induction edits using List.reverseRecOn generalizing entry with
  | nil => exact absurd mem List.not_mem_nil
  | append_singleton edits e ih =>
      rw [ofEdits_concat] at mem
      rcases name_of_mem_edit mem with last | earlier
      · exact ⟨e, List.mem_append_right edits List.mem_cons_self, last⟩
      · obtain ⟨old, inside, same⟩ := List.mem_map.1 earlier
        obtain ⟨e', before, sets⟩ := ih inside
        exact ⟨e', List.mem_append_left [e] before, same ▸ sets⟩

/-- Every name was set by an edit, or is that of a default. -/
theorem name_of_mem_ofItems {items : List Item} {body? : Option Body}
    (mem : entry ∈ (ofItems items body?).entries) :
    (entry.1 = "Accept" ∨ entry.1 = "Content-Type") ∨
      ∃ e ∈ Item.headerEdits items, e.isSet = true ∧ entry.1 = e.name := by
  have accepting {json : Bool} {entry : String × String}
      (mem : entry ∈ (if json then
        (ofEdits (Item.headerEdits items)).setDefault "Accept" "application/json"
        else ofEdits (Item.headerEdits items)).entries) :
      (entry.1 = "Accept" ∨ entry.1 = "Content-Type") ∨
        ∃ e ∈ Item.headerEdits items, e.isSet = true ∧ entry.1 = e.name := by
    split at mem
    · rcases name_of_mem_setDefault mem with default | own
      · exact .inl (.inl default)
      · obtain ⟨old, inside, same⟩ := List.mem_map.1 own
        exact .inr (same ▸ name_of_mem_ofEdits inside)
    · exact .inr (name_of_mem_ofEdits mem)
  unfold ofItems withDefaults at mem
  dsimp only at mem
  split at mem
  · rcases name_of_mem_setDefault mem with default | own
    · exact .inl (.inr default)
    · obtain ⟨old, inside, same⟩ := List.mem_map.1 own
      exact same ▸ accepting inside
  · exact accepting mem

end HeaderTable

/-! ## What a name looks like -/

namespace HeaderEdit

theorem trim_name_of_ofLine? {raw : String} {e : HeaderEdit} (read : ofLine? raw = some e) :
    Text.trim e.name = e.name := by
  unfold ofLine? at read
  split at read
  · split at read
    · cases read
    · split at read
      · obtain rfl := Option.some.inj read
        exact Text.trim_trim _
      · obtain rfl := Option.some.inj read
        exact Text.trim_trim _
  · obtain ⟨name, -, rfl⟩ := Option.map_eq_some_iff.1 read
    exact Text.trim_trim name

theorem of_last? {edits : List HeaderEdit} {name : String} {e : HeaderEdit}
    (last : last? edits name = some e) :
    e ∈ edits ∧ Text.sameIgnoringCase e.name name = true := by
  have concerns := List.find?_some last
  exact ⟨List.mem_reverse.1 (List.mem_of_find?_eq_some last), concerns⟩

/-- Only a semicolon with nothing but blanks before it makes an edit without a name. -/
theorem nameless_ofLine?_iff {raw : String} {e : HeaderEdit} :
    ofLine? raw = some e ∧ e.name = "" ↔
      e = .set "" "" ∧ ∃ blank, Text.isBlank blank = true ∧ raw = blank ++ ";" := by
  constructor
  · rintro ⟨read, nameless⟩
    unfold ofLine? at read
    split at read
    · split at read
      · cases read
      · next named =>
          split at read <;> obtain rfl := Option.some.inj read <;> exact absurd nameless named
    · obtain ⟨name, ended, rfl⟩ := Option.map_eq_some_iff.1 read
      have trimmed : Text.trim name = "" := nameless
      rw [trimmed]
      exact ⟨rfl, name, Text.trim_eq_empty_iff.1 trimmed, (Text.before?_eq_some_iff.1 ended).symm⟩
  · rintro ⟨rfl, blank, nothing, rfl⟩
    have noColon : ':' ∉ (blank ++ ";").toList := by
      rw [String.toList_append, List.mem_append, not_or]
      refine ⟨fun mem => ?_, by decide⟩
      exact absurd (List.all_eq_true.1 nothing ':' mem) (by decide)
    have ended : Text.before? ";" (blank ++ ";") = some blank := Text.before?_eq_some_iff.2 rfl
    have trimmed : Text.trim blank = "" := Text.trim_eq_empty_iff.2 nothing
    refine ⟨?_, rfl⟩
    rw [ofLine?, Text.cut?_eq_none_iff.2 noColon, ended, Option.map_some, trimmed]

end HeaderEdit

namespace Item

theorem mem_headerEdits_iff {items : List Item} {e : HeaderEdit} :
    e ∈ headerEdits items ↔
      (∃ raw, .option .header raw ∈ items ∧ HeaderEdit.ofLine? raw = some e) ∨
        (∃ value, .option .userAgent value ∈ items ∧ e = .set "User-Agent" value) ∨
          ∃ value, .option .referer value ∈ items ∧ e = .set "Referer" value := by
  rw [headerEdits, List.mem_filterMap]
  constructor
  · rintro ⟨item, mem, edits⟩
    unfold headerEdit? at edits
    split at edits
    · next raw => exact .inl ⟨raw, mem, edits⟩
    · next value => exact .inr (.inl ⟨value, mem, (Option.some.inj edits).symm⟩)
    · next value => exact .inr (.inr ⟨value, mem, (Option.some.inj edits).symm⟩)
    · cases edits
  · rintro (⟨raw, mem, edits⟩ | ⟨value, mem, rfl⟩ | ⟨value, mem, rfl⟩)
    · exact ⟨_, mem, edits⟩
    · exact ⟨_, mem, rfl⟩
    · exact ⟨_, mem, rfl⟩

theorem trim_name_of_mem_headerEdits {items : List Item} {e : HeaderEdit}
    (mem : e ∈ headerEdits items) : Text.trim e.name = e.name := by
  rcases mem_headerEdits_iff.1 mem with ⟨raw, -, read⟩ | ⟨value, -, rfl⟩ | ⟨value, -, rfl⟩
  · exact HeaderEdit.trim_name_of_ofLine? read
  · exact (by decide : Text.trim "User-Agent" = "User-Agent")
  · exact (by decide : Text.trim "Referer" = "Referer")

/-- Edits without a name come from header options, and they set the header. -/
theorem nameless_mem_headerEdits_iff {items : List Item} {e : HeaderEdit} :
    e ∈ headerEdits items ∧ e.name = "" ↔
      e = .set "" "" ∧
        ∃ blank, Text.isBlank blank = true ∧ .option .header (blank ++ ";") ∈ items := by
  constructor
  · rintro ⟨mem, nameless⟩
    rcases mem_headerEdits_iff.1 mem with ⟨raw, given, read⟩ | ⟨value, -, rfl⟩ | ⟨value, -, rfl⟩
    · obtain ⟨sets, blank, nothing, rfl⟩ := HeaderEdit.nameless_ofLine?_iff.1 ⟨read, nameless⟩
      exact ⟨sets, blank, nothing, given⟩
    · exact absurd nameless (by decide : "User-Agent" ≠ "")
    · exact absurd nameless (by decide : "Referer" ≠ "")
  · rintro ⟨rfl, blank, nothing, given⟩
    obtain ⟨read, -⟩ := HeaderEdit.nameless_ofLine?_iff.2 ⟨rfl, blank, nothing, rfl⟩
    exact ⟨mem_headerEdits_iff.2 (.inl ⟨_, given, read⟩), rfl⟩

end Item

/-- There is a header without a name if and only if an edit has none. -/
theorem HeaderTable.has_nameless_iff {items : List Item} {body? : Option Body} :
    (ofItems items body?).has "" = true ↔ ∃ e ∈ Item.headerEdits items, e.name = "" := by
  rw [has_ofItems (by decide) (by decide), has_ofEdits]
  constructor
  · intro sets
    cases last : HeaderEdit.last? (Item.headerEdits items) "" with
    | none =>
        rw [last] at sets
        cases sets
    | some e =>
        obtain ⟨mem, same⟩ := HeaderEdit.of_last? last
        exact ⟨e, mem, Text.sameIgnoringCase_empty_iff.1 same⟩
  · rintro ⟨e, mem, nameless⟩
    have some : (HeaderEdit.last? (Item.headerEdits items) "").isSome = true := by
      rw [HeaderEdit.last?, List.find?_isSome]
      exact ⟨e, List.mem_reverse.2 mem, Text.sameIgnoringCase_empty_iff.2 nameless⟩
    obtain ⟨last, found⟩ := Option.isSome_iff_exists.1 some
    obtain ⟨inside, same⟩ := HeaderEdit.of_last? found
    have nameless := Text.sameIgnoringCase_empty_iff.1 same
    obtain ⟨rfl, -⟩ := Item.nameless_mem_headerEdits_iff.1 ⟨inside, nameless⟩
    rw [found]
    rfl

/--
No name of a header has blanks around it.  One of them is empty if a header option gives a
semicolon with nothing but blanks before it, and otherwise none is.
-/
theorem ofWords_headerNames {words : List String} {outcome : Outcome}
    (parsed : ofWords words = .ok outcome) :
    (∀ header ∈ outcome.request.headers, Text.trim header.1 = header.1) ∧
      ((∃ header ∈ outcome.request.headers, header.1 = "") ↔
        ∃ blank, Text.isBlank blank = true ∧
          .option .header (blank ++ ";") ∈ Item.ofWords words) := by
  rw [headers_of_ok parsed]
  refine ⟨fun header mem => ?_, ?_⟩
  · rcases HeaderTable.name_of_mem_ofItems mem with (name | name) | ⟨e, inside, -, name⟩
    · rw [name]
      decide
    · rw [name]
      decide
    · rw [name]
      exact Item.trim_name_of_mem_headerEdits inside
  · have has : (∃ header ∈ (HeaderTable.ofItems (Item.ofWords words) outcome.request.body?).entries,
        header.1 = "") ↔
          (HeaderTable.ofItems (Item.ofWords words) outcome.request.body?).has "" = true := by
      simp only [HeaderTable.has, List.any_eq_true, Text.sameIgnoringCase_empty_iff]
    rw [has, HeaderTable.has_nameless_iff]
    constructor
    · rintro ⟨e, nameless⟩
      exact (Item.nameless_mem_headerEdits_iff.1 nameless).2
    · intro given
      exact ⟨_, Item.nameless_mem_headerEdits_iff.2 ⟨rfl, given⟩⟩

/-- Names with blanks around them, in front of a colon and of a semicolon. -/
theorem ofWords_headerNames_blanks :
    let words := ["-H", " A\t: b ", "-H", "c ;", "-A", " me ", "-d", "x", "https://x.test"]
    let r : Request :=
      { method := .post
        url := "https://x.test"
        headers :=
          [("A", "b"), ("c", ""), ("User-Agent", " me "), ("Content-Type", "text/plain")]
        body? := some (.raw "x")
        rawBody? := some "x"
        authorization? := none
        cookies := []
        files := []
        query := []
        transport := { userAgent? := some " me " } }
    ofWords words = .ok ⟨r, []⟩ ∧ ∀ header ∈ r.headers, Text.trim header.1 = header.1 := by
  intro words r
  have parsed : ofWords words = .ok ⟨r, []⟩ := by decide +kernel
  exact ⟨parsed, (ofWords_headerNames parsed).1⟩

/-- A semicolon alone sets a header without a name. -/
theorem not_forall_headerNames :
    ¬∀ (words : List String) (outcome : Outcome), ofWords words = .ok outcome →
      ∀ header ∈ outcome.request.headers, header.1 ≠ "" ∧ Text.trim header.1 = header.1 := by
  intro always
  let r : Request :=
    { method := .get
      url := "https://x.test"
      headers := [("", "")]
      body? := none
      rawBody? := none
      authorization? := none
      cookies := []
      files := []
      query := []
      transport := { userAgent? := some "curl/8.5.0" } }
  have parsed : ofWords ["-H", ";", "https://x.test"] = .ok ⟨r, []⟩ := by decide +kernel
  exact (always _ _ parsed ("", "") List.mem_cons_self).1 rfl

end Command

end RequestScribe
