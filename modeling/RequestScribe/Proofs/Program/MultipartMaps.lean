import RequestScribe.Proofs.Code.MapLiteral
import RequestScribe.Proofs.Code.StringDenotation
import RequestScribe.Proofs.Command.Uploads
import RequestScribe.Proofs.Program.PythonProgram

/-!
# Multipart bodies as maps

The parts of a form may have the same name.  Programs in Python have a dictionary for
the texts and another one for the uploads, programs in PHP an array for all of them.
Every part is written into its map, in the order of the form, under its name as it
is.  A map keeps one value under a key, so parts are lost just if names are repeated.
-/

namespace RequestScribe

open Step MapGrammar

namespace Command

namespace FormPart

def text? : FormPart → Option (String × String)
  | .text name value => some (name, value)
  | .file _ => none

end FormPart

/-- What is made of the fields that are parts is made of the parts. -/
theorem filterMap_fields {ι : Type} {files : List FileUpload} {fields : List MultipartField}
    {parts : List FormPart} (same : fields.map (partOf? files) = parts.map some)
    {ofField : MultipartField → Option ι} {ofPart : FormPart → Option ι}
    (each : ∀ field, ofField field = (partOf? files field).bind ofPart) :
    fields.filterMap ofField = parts.filterMap ofPart := by
  have resolved : fields.filterMap ofField =
      (fields.map (partOf? files)).filterMap (Option.bind · ofPart) := by
    rw [List.filterMap_map]
    exact List.filterMap_congr fun field _ => each field
  rw [resolved, same, List.filterMap_map]
  rfl

/-- A multipart body and its files stand for the parts of a form. -/
theorem exists_parts {words : List String} {outcome : Outcome}
    (parsed : ofWords words = .ok outcome) {fields : List MultipartField}
    (multipart : outcome.request.body? = some (.multipart fields)) :
    ∃ parts : List FormPart, fields.map (partOf? outcome.request.files) = parts.map some ∧
      FormPart.files parts = outcome.request.files := by
  have form := Draft.isOf_form_ofItems (Item.ofWords words)
  rw [Draft.fields_of_finish parsed multipart, Draft.files_of_finish parsed]
  exact ⟨_, form.fields, form.files.symm⟩

end Command

open Command (FormPart partOf?)

/-! ## Python -/

namespace Python

def textItem (field : String × String) : String × List Token :=
  (field.1, python.stringTokens field.2)

/-- The name of the file, its bytes, and its type if there is one. -/
def uploadItem (f : FileUpload) : String × List Token :=
  (f.fieldName,
    plainTokens "(" ++ python.stringTokens f.fileName ++ plainTokens ", Path(" ++
      python.stringTokens f.fileName ++ plainTokens ").read_bytes()" ++
      (f.contentType?.elim [] fun type => plainTokens ", " ++ python.stringTokens type) ++
      plainTokens ")")

def uploadTuple (f : FileUpload) : Code :=
  let type : Code := match f.contentType? with
    | some contentType => ", " ++ string contentType
    | none => Code.empty
  "(" ++ string f.fileName ++ ", Path(" ++ string f.fileName ++ ").read_bytes()" ++ type ++ ")"

theorem writes (s : String) : python.strings.Writes (string s).text s := by
  rw [string, Code.text_quoted]
  exact StringGrammar.hasCEscapes_python.writes s

theorem yields_uploadTuple (f : FileUpload) :
    python.Yields (uploadTuple f).text.toList (uploadItem f).2 := by
  have name := Yields.string (writes f.fileName)
  have path : python.Yields ", Path(".toList (plainTokens ", Path(") := .plainTokens (by decide)
  have read : python.Yields ").read_bytes()".toList (plainTokens ").read_bytes()") :=
    .plainTokens (by decide)
  have opens : python.Yields "(".toList (plainTokens "(") := .plainTokens (by decide)
  have closes : python.Yields ")".toList (plainTokens ")") := .plainTokens (by decide)
  have bytes := ((((opens.append name).append path).append name).append read)
  unfold uploadTuple uploadItem
  cases f.contentType? with
  | none =>
      have nothing : Code.empty.text = "" := rfl
      simpa [nothing] using (bytes.append .nil).append closes
  | some type =>
      have comma : python.Yields ", ".toList (plainTokens ", ") := .plainTokens (by decide)
      simpa using (bytes.append (comma.append (.string (writes type)))).append closes

theorem isFlat_uploadItem (f : FileUpload) : IsFlat (uploadItem f).2 := by
  unfold uploadItem
  cases f.contentType? with
  | none => rfl
  | some type => rfl

variable {b : Brief}

theorem holds_steps (client : PythonClient) {inner : List Step} (held : Holds inner (body b)) :
    Holds inner (steps client b) := by
  have request : Holds inner [scope (signature client b) (summary b ++ preamble b ++ [blank] ++
      call client b)] :=
    .scope _ ((((held.behind _).behind _).andThen _).andThen _)
  exact (request.behind _).andThen _

def textLine (field : String × String) : Code :=
  string field.1 ++ ": " ++ string field.2 ++ ","

def uploadLine (f : FileUpload) : Code :=
  string f.fieldName ++ ": " ++ uploadTuple f ++ ","

/-- The texts and the uploads of a form stand in two blocks. -/
theorem body_multipart {parts : List FormPart} {fields : List MultipartField}
    (multipart : b.body? = some (.multipart fields))
    (same : fields.map (partOf? b.files) = parts.map some) :
    body b =
      [block "payload = \x7b" "\x7d"
        (((parts.filterMap FormPart.text?).map textLine).map .line)] ++
      [block "files = \x7b" "\x7d" ((b.files.map uploadLine).map .line)] := by
  have each (field : MultipartField) : textEntry field = (partOf? b.files field).bind
      fun part => part.text?.map fun text => .line (textLine text) := by
    cases field with
    | text name value => rfl
    | file index =>
        cases listed : b.files[index]? <;> simp [textEntry, partOf?, listed, FormPart.text?]
  have texts : fields.filterMap textEntry =
      ((parts.filterMap FormPart.text?).map textLine).map .line := by
    rw [Command.filterMap_fields same each, List.map_map, List.map_filterMap]
    rfl
  have uploads : b.files.map uploadEntry = (b.files.map uploadLine).map .line := by
    rw [List.map_map]
    rfl
  rw [← texts, ← uploads, body, multipart]
  rfl

/-- A program for a form has its texts and its uploads as dictionaries. -/
theorem represents {parts : List FormPart} {fields : List MultipartField}
    (multipart : b.body? = some (.multipart fields))
    (same : fields.map (partOf? b.files) = parts.map some) (client : PythonClient) :
    python.Represents (layOut b.unit (steps client b)) "payload = \x7b" "\x7d"
        ((parts.filterMap FormPart.text?).map textItem) ∧
      python.Represents (layOut b.unit (steps client b)) "files = \x7b" "\x7d"
        (b.files.map uploadItem) := by
  have blocks := body_multipart multipart same
  have payload := holds_steps client (blocks ▸ Holds.andThen _ .refl)
  have files := holds_steps client (blocks ▸ Holds.behind _ .refl)
  have blank := b.settings.isBlankUnit_indentUnit
  have ends : ∃ shown c, "\x7d".toList = shown ++ [c] ∧ Chars.isBlank c = false :=
    ⟨[], '\x7d', rfl, by decide⟩
  constructor
  · refine represents_of_holds payload (fun text _ => ?_) (by decide) ends blank
    exact MapGrammar.writesLine (writes text.1) (.string (writes text.2))
      (List.cons_ne_nil _ _) rfl
  · refine represents_of_holds files (fun f _ => ?_) (by decide) ends blank
    exact MapGrammar.writesLine (writes f.fieldName) (yields_uploadTuple f)
      (by simp [plainTokens]) (isFlat_uploadItem f)

/-- Where blocks can be indented there is such a program. -/
theorem exists_represents {settings : Settings} {r : Request} {parts : List FormPart}
    {fields : List MultipartField} (indented : settings.indentUnit ≠ "")
    (multipart : r.body? = some (.multipart fields))
    (same : fields.map (partOf? r.files) = parts.map some) (client : PythonClient) :
    ∃ made, Generated.ofRequest (.python client) settings r = .ok made ∧
      python.Represents made.code "payload = \x7b" "\x7d"
        ((parts.filterMap FormPart.text?).map textItem) ∧
      python.Represents made.code "files = \x7b" "\x7d" (r.files.map uploadItem) := by
  have given : (Brief.ofRequest settings r).unit ≠ "" := indented
  obtain ⟨p, program, whole, -⟩ := @exists_program client _ (by simpa using given)
  have maps := represents (b := .ofRequest settings r) multipart same client
  rw [← whole] at maps
  exact ⟨_, Generated.ofRequest_eq_ok program, maps⟩

end Python

/-! ## PHP -/

namespace Php

/-- The value of a text, or the file that stands for one. -/
def partItem : FormPart → String × List Token
  | .text name value => (name, php.stringTokens value)
  | .file f =>
      (f.fieldName,
        plainTokens "new CURLFile(" ++ php.stringTokens f.fileName ++ plainTokens ", " ++
          php.stringTokens (f.contentType?.getD "") ++ plainTokens ", " ++
          php.stringTokens f.fileName ++ plainTokens ")")

def partLine : FormPart → Code
  | .text name value => string name ++ " => " ++ string value ++ ","
  | .file f =>
      string f.fieldName ++ " => new CURLFile(" ++ string f.fileName ++ ", " ++
        string (f.contentType?.getD "") ++ ", " ++ string f.fileName ++ "),"

theorem writes (s : String) : php.strings.Writes (string s).text s := by
  rw [string, Code.text_quoted]
  exact StringGrammar.writes_singlePlain s

theorem writesLine_partLine (part : FormPart) : php.WritesLine (partLine part) (partItem part) := by
  cases part with
  | text name value =>
      exact writesLine (writes name) (.string (writes value)) (List.cons_ne_nil _ _) rfl
  | file f =>
      have file := Yields.string (writes f.fileName)
      have type := Yields.string (writes (f.contentType?.getD ""))
      have opens : php.Yields "new CURLFile(".toList (plainTokens "new CURLFile(") :=
        .plainTokens (by decide)
      have comma : php.Yields ", ".toList (plainTokens ", ") := .plainTokens (by decide)
      have closes : php.Yields ")".toList (plainTokens ")") := .plainTokens (by decide)
      have value := (((((opens.append file).append comma).append type).append comma).append
        file).append closes
      refine ⟨_, ?_, writesEntry (writes f.fieldName) value (by simp [plainTokens]) rfl⟩
      simp [partLine, php]

variable {b : Brief}

theorem holds_program {inner : List Step} (held : Holds inner (body b)) :
    Holds inner (program b).steps := by
  have request : Holds inner (makeRequest b) :=
    .behind [line "function makeRequest()"] (.block _ _ (((((((held.behind _).andThen _).andThen
      _).andThen _).andThen _).andThen _).andThen _))
  exact (request.behind _).andThen _

/-- A program for a form has its parts as one array. -/
theorem represents {parts : List FormPart} {fields : List MultipartField}
    (multipart : b.body? = some (.multipart fields))
    (same : fields.map (partOf? b.files) = parts.map some) :
    php.Represents (layOut b.unit (program b).steps) "$payload = [" "];" (parts.map partItem) := by
  have each (field : MultipartField) : fieldStep b field =
      (partOf? b.files field).bind fun part => some (.line (partLine part)) := by
    cases field with
    | text name value => rfl
    | file index =>
        cases listed : b.files[index]? <;>
          simp [fieldStep, partOf?, listed, Brief.upload?, uploadStep, partLine]
  have fieldSteps : fields.filterMap (fieldStep b) = (parts.map partLine).map .line := by
    rw [Command.filterMap_fields same each, List.map_map, List.filterMap_eq_map']
    rfl
  have blocks : body b = [block "$payload = [" "];" ((parts.map partLine).map .line)] := by
    rw [← fieldSteps, body, multipart]
  have payload := holds_program (b := b) .refl
  rw [blocks] at payload
  have ends : ∃ shown c, "];".toList = shown ++ [c] ∧ Chars.isBlank c = false :=
    ⟨[']'], ';', rfl, by decide⟩
  exact represents_of_holds payload (fun part _ => writesLine_partLine part) (by decide) ends
    b.settings.isBlankUnit_indentUnit

end Php

/-! ## Both languages -/

/--
Every part of a multipart body is an entry of the map that it is written into, in the
order of the form, so a program loses none just if no two parts of a map have the same
name; of those with the same name the last one is left.
-/
theorem Command.ofWords_multipartMaps {words : List String} {outcome : Outcome}
    (parsed : ofWords words = .ok outcome) {fields : List MultipartField}
    (multipart : outcome.request.body? = some (.multipart fields)) (settings : Settings) :
    ∃ parts : List FormPart, fields.map (partOf? outcome.request.files) = parts.map some ∧
      (∀ client, settings.indentUnit ≠ "" → ∃ made,
        Generated.ofRequest (.python client) settings outcome.request = .ok made ∧
          python.Represents made.code "payload = \x7b" "\x7d"
            ((parts.filterMap FormPart.text?).map Python.textItem) ∧
          python.Represents made.code "files = \x7b" "\x7d"
            ((FormPart.files parts).map Python.uploadItem)) ∧
      ∃ made, Generated.ofRequest .php settings outcome.request = .ok made ∧
        php.Represents made.code "$payload = [" "];" (parts.map Php.partItem) := by
  obtain ⟨parts, same, files⟩ := exists_parts parsed multipart
  refine ⟨parts, same, fun client indented => ?_, ?_⟩
  · rw [files]
    exact Python.exists_represents indented multipart same client
  · exact ⟨_, Generated.ofRequest_eq_ok rfl, Php.represents multipart same⟩

/-- A text and an upload. -/
theorem Command.ofWords_multipartMaps_upload :
    let words := ["-F", "a=1", "-F", "f=@x.png;type=image/png", "https://x.test"]
    let file : FileUpload := ⟨"f", "x.png", some "image/png"⟩
    let r : Request :=
      { method := .post
        url := "https://x.test"
        headers := []
        body? := some (.multipart [.text "a" "1", .file 0])
        rawBody? := none
        authorization? := none
        cookies := []
        files := [file]
        query := []
        transport := { userAgent? := some "curl/8.5.0" } }
    ofWords words = .ok ⟨r, []⟩ ∧ r.body? = some (.multipart [.text "a" "1", .file 0]) ∧
      ({} : Settings).indentUnit ≠ "" ∧
      (∃ made, Generated.ofRequest (.python .requests) {} r = .ok made ∧
        python.Represents made.code "payload = \x7b" "\x7d" [("a", python.stringTokens "1")] ∧
        python.Represents made.code "files = \x7b" "\x7d" [Python.uploadItem file]) ∧
      ∃ made, Generated.ofRequest .php {} r = .ok made ∧
        php.Represents made.code "$payload = [" "];"
          [("a", php.stringTokens "1"), Php.partItem (.file file)] := by
  intro words file r
  have parsed : ofWords words = .ok ⟨r, []⟩ := by decide +kernel
  have indented : ({} : Settings).indentUnit ≠ "" := by decide
  obtain ⟨parts, same, inPython, inPhp⟩ := ofWords_multipartMaps parsed rfl {}
  have whole : parts = [.text "a" "1", .file file] :=
    (List.map_inj_right fun _ _ => Option.some.inj).1 same.symm
  subst whole
  exact ⟨parsed, rfl, indented, inPython .requests indented, inPhp⟩

/-- Two texts with the same name: the key is repeated, and the first text is lost. -/
theorem Command.ofWords_multipartMaps_repeated :
    let words := ["-F", "a=1", "-F", "a=2", "https://x.test"]
    let r : Request :=
      { method := .post
        url := "https://x.test"
        headers := []
        body? := some (.multipart [.text "a" "1", .text "a" "2"])
        rawBody? := none
        authorization? := none
        cookies := []
        files := []
        query := []
        transport := { userAgent? := some "curl/8.5.0" } }
    ofWords words = .ok ⟨r, []⟩ ∧
      (∃ made inside entries, Generated.ofRequest (.python .requests) {} r = .ok made ∧
        "payload = \x7b".toList ++ inside ++ "\x7d".toList <:+: made.code.toList ∧
        python.entries? inside = some entries ∧ ¬(entries.map Prod.fst).Nodup ∧
        lastUnder? entries (python.units "a") = some (python.stringTokens "2")) ∧
      ∃ made inside entries, Generated.ofRequest .php {} r = .ok made ∧
        "$payload = [".toList ++ inside ++ "];".toList <:+: made.code.toList ∧
        php.entries? inside = some entries ∧ ¬(entries.map Prod.fst).Nodup ∧
        lastUnder? entries (php.units "a") = some (php.stringTokens "2") := by
  intro words r
  have parsed : ofWords words = .ok ⟨r, []⟩ := by decide +kernel
  have multipart : r.body? = some (.multipart [.text "a" "1", .text "a" "2"]) := rfl
  have same : [MultipartField.text "a" "1", .text "a" "2"].map (partOf? r.files) =
      [FormPart.text "a" "1", .text "a" "2"].map some := rfl
  have indented : ({} : Settings).indentUnit ≠ "" := by decide
  have repeats : ¬["a", "a"].Nodup := by decide
  obtain ⟨made, program, ⟨inside, entries, within, read, -, keys, last⟩, -⟩ :=
    Python.exists_represents indented multipart same .requests
  obtain ⟨inside', entries', within', read', -, keys', last'⟩ :=
    Php.represents (b := .ofRequest {} r) multipart same
  exact ⟨parsed, ⟨made, inside, entries, program, within, read, mt keys.1 repeats, last "a"⟩,
    _, inside', entries', Generated.ofRequest_eq_ok rfl, within', read', mt keys'.1 repeats,
    last' "a"⟩

end RequestScribe
