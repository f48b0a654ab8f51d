import RequestScribe.Proofs.Capture.Reading
import RequestScribe.Proofs.Command.Address

/-!
# Forms in captured requests

The parameters of a captured request are given as form options, in which a value
behind `@` names a file.  So the files are read back as they were captured, and
so are the texts, except for those that begin with `@` themselves.
-/

namespace RequestScribe

namespace Command

namespace Draft

/-- The form of a draft is that of the form options among its items. -/
theorem form_ofItems (items : List Item) :
    (ofItems items).form = .ofParts (items.filterMap Item.formPart?) :=
  congrArg Content.form (content_ofItems items)

theorem isOf_form_ofItems (items : List Item) :
    (ofItems items).form.IsOf (items.filterMap Item.formPart?) := by
  rw [form_ofItems]
  exact Multipart.isOf_ofParts _

/-- A form is the body of a request, whatever data there are. -/
theorem body?_of_form {d : Draft} {outcome : Outcome} (h : d.finish = .ok outcome)
    (given : d.form.fields ≠ []) :
    outcome.request.body? = some (.multipart d.form.fields.reverse) := by
  have form : d.payload.body? = some (.multipart d.form.fields.reverse) := by
    simp [payload, given]
  obtain ⟨raw, -, -, rfl⟩ := finish_eq_ok_iff.1 h
  exact form

theorem files_of_finish {d : Draft} {outcome : Outcome} (h : d.finish = .ok outcome) :
    outcome.request.files = d.form.files.reverse := by
  obtain ⟨raw, -, -, rfl⟩ := finish_eq_ok_iff.1 h
  rfl

theorem uploadOf_path (name : String) {path : String} (whole : ';' ∉ path.toList) :
    uploadOf name path = ⟨name, path, none⟩ := by
  have pieces : Text.splitOn ';' path = [path] := by
    simp [Text.splitOn, List.splitOn_eq_singleton whole]
  simp [uploadOf, pieces]

/-- A content type without blanks around it is read as it is, even if it is empty. -/
theorem uploadOf_typed (name : String) {path type : String} (whole : ';' ∉ path.toList)
    (wholeType : ';' ∉ type.toList) (trimmed : Text.trim type = type) :
    uploadOf name (path ++ ";type=" ++ type) = ⟨name, path, some type⟩ := by
  have text : (path ++ ";type=" ++ type).toList =
      path.toList ++ ';' :: ("type=".toList ++ type.toList) := by simp
  have typeWhole : ';' ∉ "type=".toList ++ type.toList := by simp [wholeType]
  have pieces : Text.splitOn ';' (path ++ ";type=" ++ type) = [path, "type=" ++ type] := by
    rw [Text.splitOn, text, List.splitOn_append_cons_self, List.splitOn_eq_singleton whole,
      List.splitOn_eq_singleton typeWhole]
    simp [← String.toList_inj]
  have visible : ∀ c ∈ ("type=".toList ++ type.toList).getLast?, Chars.isBlank c = false := by
    have within : Text.trim type = type → Chars.trim type.toList = type.toList := by
      simp [Text.trim, ← String.toList_inj]
    have last := Chars.visible_of_trim_eq (within trimmed)
    rw [List.getLast?_append]
    cases ends : type.toList.getLast? with
    | none => simp; decide
    | some c => simpa [ends] using last
  have kept : Text.trim ("type=" ++ type) = "type=" ++ type := by
    rw [Text.trim, String.toList_append, Chars.trim_of_visible_ends (by simp; decide) visible]
    simp [← String.toList_inj]
  have found : Text.after? "type=" ("type=" ++ type) = some type := by
    have cut : List.isPrefixOf? "type=".toList ("type=" ++ type).toList = some type.toList := by
      rw [List.isPrefixOf?_eq_some_iff_append_eq, String.toList_append]
    rw [Text.after?, cut, Option.map_some, String.ofList_toList]
  simp [uploadOf, pieces, kept, found]

end Draft

end Command

open Command (Item FormPart Draft)

namespace PostedParam

def text (p : PostedParam) : String :=
  p.value?.getD ""

/-- The field that a parameter stands for: a file if it has a file name, and else its value. -/
def captured (p : PostedParam) : FormPart :=
  match p.fileName? with
  | some file => .file ⟨p.name, file, p.contentType?⟩
  | none => .text p.name p.text

/-- The field that is read from a parameter: a value that begins with `@` names a file, too. -/
def recovered (p : PostedParam) : FormPart :=
  match p.fileName?, p.text.toList with
  | none, '@' :: spec => .file (Draft.uploadOf p.name (String.ofList spec))
  | _, _ => p.captured

/-- Whether a value, not a file, begins with the mark of a file. -/
def isTakenForFile (p : PostedParam) : Bool :=
  p.fileName?.isNone && Text.startsWith "@" p.text

/-- A parameter whose name, file name and content type have no part that means something else. -/
structure IsSeparable (p : PostedParam) : Prop where
  name : '=' ∉ p.name.toList
  fileName : ∀ file ∈ p.fileName?, ';' ∉ file.toList
  contentType : p.fileName?.isSome → ∀ type ∈ p.contentType?,
    ';' ∉ type.toList ∧ Text.trim type = type

instance (p : PostedParam) : Decidable p.IsSeparable :=
  decidable_of_iff
    ('=' ∉ p.name.toList ∧ (∀ file ∈ p.fileName?, ';' ∉ file.toList) ∧
      (p.fileName?.isSome → ∀ type ∈ p.contentType?, ';' ∉ type.toList ∧ Text.trim type = type))
    ⟨fun ⟨h₁, h₂, h₃⟩ => ⟨h₁, h₂, h₃⟩, fun ⟨h₁, h₂, h₃⟩ => ⟨h₁, h₂, h₃⟩⟩

theorem recovered_eq_captured_iff (p : PostedParam) :
    p.recovered = p.captured ↔ p.isTakenForFile = false := by
  unfold recovered isTakenForFile Text.startsWith
  cases hfile : p.fileName? with
  | some file => simp
  | none =>
      cases p.text.toList with
      | nil => simp
      | cons c rest =>
          by_cases marked : c = '@'
          · subst marked
            simp [captured, hfile]
          · simp [List.isPrefixOf, marked, Ne.symm marked]

theorem IsSeparable.fieldPart?_spec {p : PostedParam} (h : p.IsSeparable) :
    Command.fieldPart? p.spec true = some p.recovered := by
  have cut (value : String) : Text.cut? '=' (p.name ++ "=" ++ value) = some (p.name, value) :=
    Text.cut?_append h.name (by simp)
  unfold Command.fieldPart? recovered captured
  cases hfile : p.fileName? with
  | none =>
      have value : p.spec = p.name ++ "=" ++ p.text := by simp [spec, hfile, text]
      rw [value, cut, Option.map_some]
      dsimp only
      cases p.text.toList with
      | nil => rfl
      | cons c rest => by_cases marked : c = '@' <;> simp [marked]
  | some file =>
      have whole := h.fileName file hfile
      cases htype : p.contentType? with
      | none =>
          have value : p.spec = p.name ++ "=" ++ ("@" ++ file) := by simp [spec, hfile, htype]
          have path := Draft.uploadOf_path p.name whole
          simp [value, cut, path]
      | some type =>
          obtain ⟨wholeType, trimmed⟩ := h.contentType (by simp [hfile]) type htype
          have value : p.spec = p.name ++ "=" ++ ("@" ++ (file ++ ";type=" ++ type)) := by
            simp [spec, hfile, htype, String.append_assoc]
          have path := Draft.uploadOf_typed p.name whole wholeType trimmed
          have text : ("@" ++ (file ++ ";type=" ++ type)).toList =
              '@' :: (file ++ ";type=" ++ type).toList := by simp
          rw [value, cut, Option.map_some]
          simp only [text, String.ofList_toList, path]

end PostedParam

namespace CapturedRequest

variable {r : CapturedRequest}

def formItems (r : CapturedRequest) : List Item :=
  r.methodItems ++ (r.keptHeaders.map Item.header ++
    r.formParams.map fun p => .option .form p.spec)

theorem ofWords_words_of_form (absolute : Url.IsAbsolute r.url) (form : r.formParams ≠ []) :
    Item.ofWords (r.words.map CommandWord.value).tail = r.formItems ++ [.operand r.url] := by
  have body : r.bodyWords = r.formParams.flatMap fun p => CommandWord.option "-F" p.spec := by
    rw [bodyWords_eq]
    split
    · next none _ => exact absurd none form
    · rfl
  have fields (params : List PostedParam) (rest : List String) :
      Item.ofWords ((params.flatMap fun p => CommandWord.option "-F" p.spec).map
        CommandWord.value ++ rest) =
      params.map (fun p => Item.option .form p.spec) ++ Item.ofWords rest := by
    induction params with
    | nil => rfl
    | cons p params ih =>
        have waiting : Command.Reading.ofWord "-F" = ⟨[], some .form⟩ := by decide
        have first := Item.ofWords_option waiting p.spec
          ((params.flatMap fun p => CommandWord.option "-F" p.spec).map CommandWord.value ++ rest)
        exact first.trans (congrArg (Item.option .form p.spec :: ·) ih)
  have address : Item.ofWords [r.url] = [.operand r.url] :=
    Item.ofWords_operand absolute.head?_ne []
  rw [words, body]
  simp only [List.cons_append, List.map_cons, List.map_append, List.tail_cons, List.append_assoc,
    List.map_nil]
  rw [ofWords_methodWords, ofWords_headerWords, fields, address, formItems]
  simp only [List.append_assoc]

/-- Only the options of the form contribute, and in front of the address there is no other. -/
theorem formItems_contribute (separable : ∀ p ∈ r.formParams, p.IsSeparable) :
    r.formItems.filterMap Item.formPart? = r.formParams.map PostedParam.recovered ∧
      ∀ item ∈ r.formItems, item.address? = none := by
  have method : r.methodItems.filterMap Item.formPart? = [] ∧
      ∀ item ∈ r.methodItems, item.address? = none := by
    unfold methodItems
    split <;> simp [Item.formPart?, Item.address?]
  have headers : (r.keptHeaders.map Item.header).filterMap Item.formPart? = [] ∧
      ∀ item ∈ r.keptHeaders.map Item.header, item.address? = none := by
    constructor
    · simp [List.filterMap_map, Item.header, Item.formPart?, Function.comp_def]
    · exact List.forall_mem_map.2 fun header _ => rfl
  have fields : (r.formParams.map fun p => Item.option .form p.spec).filterMap Item.formPart? =
      r.formParams.map PostedParam.recovered := by
    rw [List.filterMap_map, ← List.filterMap_eq_map]
    exact List.filterMap_congr fun p mem => (separable p mem).fieldPart?_spec
  unfold formItems
  simp only [List.filterMap_append, List.forall_mem_append]
  rw [method.1, headers.1, fields]
  exact ⟨rfl, method.2, headers.2, by simp [Item.address?]⟩

/-- A captured request with a form, of which every part can be told from the others. -/
structure HasForm (r : CapturedRequest) : Prop where
  absolute : Url.IsAbsolute r.url
  nonempty : r.formParams ≠ []
  separable : ∀ p ∈ r.formParams, p.IsSeparable
  joined : r.IsJoined

/-- The body that is read from the command consists of what the parameters are recovered as. -/
theorem HasForm.parse_command (h : r.HasForm) {m : Method} (verb : Text.upper r.method = m.verb) :
    let form := Command.Multipart.ofParts (r.formParams.map PostedParam.recovered)
    ∃ outcome, Command.parse r.command = .ok outcome ∧
      outcome.request.body? = some (.multipart form.fields.reverse) ∧
      outcome.request.files = form.files.reverse := by
  intro form
  obtain ⟨contributed, quiet⟩ := formItems_contribute h.separable
  have items := ofWords_words_of_form h.absolute h.nonempty
  obtain ⟨outcome, made, -⟩ := Command.ofWords_operand items quiet h.absolute.isRecognized
  have parsed : Command.parse r.command = .ok outcome := by
    unfold Command.parse
    rw [h.joined.arguments_command verb]
    exact made
  have finished : (Draft.ofItems (r.formItems ++ [.operand r.url])).finish = .ok outcome := by
    rw [← made, Command.ofWords, items]
  have operand : [Item.operand r.url].filterMap Item.formPart? = [] := rfl
  have made : (Draft.ofItems (r.formItems ++ [.operand r.url])).form = form := by
    rw [Draft.form_ofItems, List.filterMap_append, contributed, operand, List.append_nil]
  have given : (Draft.ofItems (r.formItems ++ [.operand r.url])).form.fields ≠ [] := by
    rw [made, ne_eq, ← List.isEmpty_iff, (Command.Multipart.isOf_ofParts _).isEmpty_fields]
    simp [h.nonempty]
  have body := Draft.body?_of_form finished given
  have files := Draft.files_of_finish finished
  rw [made] at body files
  exact ⟨outcome, parsed, body, files⟩

/--
The form of a captured request is read back field by field, and each field is
the one that was captured just if no text is taken for the name of a file.
-/
theorem command_recovers_form (h : r.HasForm) {m : Method}
    (verb : Text.upper r.method = m.verb) :
    ∃ outcome fields, Command.parse r.command = .ok outcome ∧
      outcome.request.body? = some (.multipart fields) ∧
      fields.map (Command.partOf? outcome.request.files) =
        r.formParams.map (fun p => some p.recovered) ∧
      (fields.map (Command.partOf? outcome.request.files) =
          r.formParams.map (fun p => some p.captured) ↔
        ∀ p ∈ r.formParams, p.isTakenForFile = false) := by
  obtain ⟨outcome, parsed, body, files⟩ := h.parse_command verb
  have read := (Command.Multipart.isOf_ofParts (r.formParams.map PostedParam.recovered)).fields
  rw [List.map_map, ← files] at read
  refine ⟨outcome, _, parsed, body, read, ?_⟩
  rw [read, List.map_inj_left]
  simp only [Function.comp_apply, Option.some.injEq, PostedParam.recovered_eq_captured_iff]

/-- Equals signs, semicolons, a path behind `<`, quotes and blanks in values, and files. -/
theorem command_recovers_form_marked :
    let r : CapturedRequest :=
      { method := "put"
        url := "https://api.test/it's?q=2"
        headers := [("Content-Type", "multipart/form-data; boundary=x"), ("Cookie", "a=1")]
        posted? := some
          { mimeType := "Multipart/Form-Data"
            text? := some "--x"
            params? := some
              [{ name := "a;b", value? := some "<it's=1;type=x" },
                { name := "up", fileName? := some "my 'file'.png", contentType? := some "image/png" },
                { name := "", value? := some " @x" },
                { name := "plain", value? := some "@left out", fileName? := some "" }] } }
    r.HasForm ∧ Text.upper r.method = Method.put.verb ∧
      ∃ outcome fields, Command.parse r.command = .ok outcome ∧
        outcome.request.body? = some (.multipart fields) ∧
        fields.map (Command.partOf? outcome.request.files) =
          [some (.text "a;b" "<it's=1;type=x"),
            some (.file ⟨"up", "my 'file'.png", some "image/png"⟩), some (.text "" " @x"),
            some (.file ⟨"plain", "", none⟩)] := by
  intro r
  have absolute : Url.IsAbsolute r.url :=
    .of_parts 'h' "ttps" "api.test/it's?q=2" (by decide) (by decide) (by decide) (by decide)
      (by decide)
  have params : r.formParams =
      [{ name := "a;b", value? := some "<it's=1;type=x" },
        { name := "up", fileName? := some "my 'file'.png", contentType? := some "image/png" },
        { name := "", value? := some " @x" },
        { name := "plain", value? := some "@left out", fileName? := some "" }] := by decide
  have joined : r.IsJoined := isJoined_of_not_mem (by decide)
  have form : r.HasForm :=
    { absolute
      nonempty := by rw [params]; simp
      separable := by rw [params]; decide
      joined }
  have verb : Text.upper r.method = Method.put.verb := by decide
  obtain ⟨outcome, fields, parsed, body, read, -⟩ := command_recovers_form form verb
  rw [params] at read
  exact ⟨form, verb, outcome, fields, parsed, body, read⟩

/-- A text that begins with the mark of a file is read as a file. -/
theorem command_recovers_form_mistaken :
    let r : CapturedRequest :=
      { method := "POST"
        url := "https://x.test"
        posted? := some { params? := some [{ name := "a", value? := some "@x" }] } }
    r.HasForm ∧ r.formParams.map PostedParam.captured = [.text "a" "@x"] ∧
      ∃ outcome, Command.parse r.command = .ok outcome ∧
        outcome.request.body? = some (.multipart [.file 0]) ∧
        outcome.request.files = [⟨"a", "x", none⟩] := by
  intro r
  have absolute : Url.IsAbsolute r.url :=
    .of_parts 'h' "ttps" "x.test" (by decide) (by decide) (by decide) (by decide) (by decide)
  have joined : r.IsJoined := isJoined_of_not_mem (by decide)
  have form : r.HasForm := ⟨absolute, by decide, by decide, joined⟩
  exact ⟨form, by decide, form.parse_command (m := .post) (by decide)⟩

end CapturedRequest

end RequestScribe
