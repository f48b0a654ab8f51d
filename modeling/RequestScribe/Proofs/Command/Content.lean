import RequestScribe.Command.Parse
import RequestScribe.Proofs.Command.Draft
import RequestScribe.Proofs.Request.Scheme

/-!
# What the items of a command contribute

Address, data, form fields and the wish to put the data into the query are
collected item by item: the first address counts, and all data and all form
fields, in order.  Every other item leaves these alone.

Fields and files of a form are two lists that grow together, and together they
tell the form options that they were made of.
-/

namespace RequestScribe

def MultipartField.index? : MultipartField → Option Nat
  | .text _ _ => none
  | .file index => some index

namespace Command

/-! ## Forms -/

namespace FormPart

def upload? : FormPart → Option FileUpload
  | .text .. => none
  | .file upload => some upload

def files (parts : List FormPart) : List FileUpload :=
  parts.filterMap upload?

end FormPart

/-- The form option that a field comes from, with the files that the fields refer to. -/
def partOf? (files : List FileUpload) : MultipartField → Option FormPart
  | .text name value => some (.text name value)
  | .file index => files[index]?.map .file

/-- Files behind the others do not change what the fields refer to. -/
theorem partOf?_append {files : List FileUpload} {field : MultipartField} {part : FormPart}
    (h : partOf? files field = some part) (more : List FileUpload) :
    partOf? (files ++ more) field = some part := by
  cases field with
  | text name value => exact h
  | file index =>
      obtain ⟨upload, found, rfl⟩ := Option.map_eq_some_iff.1 h
      obtain ⟨inside, -⟩ := List.getElem?_eq_some_iff.1 found
      simp [partOf?, List.getElem?_append_left inside, found]

namespace Multipart

/-- A form that was made of these parts. -/
structure IsOf (m : Multipart) (parts : List FormPart) : Prop where
  fields : m.fields.reverse.map (partOf? m.files.reverse) = parts.map some
  files : m.files.reverse = FormPart.files parts
  /-- The fields refer to all files, to each one once and in order. -/
  indexes : m.fields.reverse.filterMap MultipartField.index? = List.range m.files.length

variable {m : Multipart} {parts : List FormPart}

theorem IsOf.add (h : m.IsOf parts) (part : FormPart) : (m.add part).IsOf (parts ++ [part]) := by
  cases part with
  | text name value =>
      refine ⟨?_, ?_, ?_⟩
      · simpa [Multipart.add, partOf?] using h.fields
      · simp [Multipart.add, FormPart.files, FormPart.upload?, h.files]
      · simp [Multipart.add, List.filterMap_cons, MultipartField.index?, ← h.indexes]
  | file upload =>
      have known : m.fields.reverse.map (partOf? (m.files.reverse ++ [upload])) =
          parts.map some := by
        rw [← h.fields, List.map_inj_left]
        intro field mem
        obtain ⟨part, -, told⟩ := List.mem_map.1 (h.fields ▸ List.mem_map_of_mem mem)
        rw [← told]
        exact partOf?_append told.symm [upload]
      have last : partOf? (m.files.reverse ++ [upload]) (.file m.files.length) =
          some (.file upload) := by
        simp [partOf?]
      refine ⟨?_, ?_, ?_⟩
      · simp only [Multipart.add, List.reverse_cons, List.map_append, List.map_cons, List.map_nil,
          known, last]
      · simp [Multipart.add, FormPart.files, FormPart.upload?, h.files]
      · simp [Multipart.add, MultipartField.index?, h.indexes, List.range_succ]

theorem IsOf.foldl (h : m.IsOf parts) (more : List FormPart) :
    (more.foldl Multipart.add m).IsOf (parts ++ more) := by
  induction more generalizing m parts with
  | nil => simpa using h
  | cons part rest ih => simpa using ih (h.add part)

def ofParts (parts : List FormPart) : Multipart :=
  parts.foldl add {}

theorem isOf_ofParts (parts : List FormPart) : (ofParts parts).IsOf parts := by
  have none : IsOf {} [] := ⟨rfl, rfl, rfl⟩
  exact none.foldl parts

theorem IsOf.isEmpty_fields (h : m.IsOf parts) : m.fields.isEmpty = parts.isEmpty := by
  have lengths := congrArg List.length h.fields
  simp only [List.length_map, List.length_reverse] at lengths
  rw [Bool.eq_iff_iff, List.isEmpty_iff_length_eq_zero, List.isEmpty_iff_length_eq_zero, lengths]

/-- If there are files, then a field refers to one. -/
theorem IsOf.exists_file (h : m.IsOf parts) (some : m.files ≠ []) :
    ∃ index upload, .file index ∈ m.fields.reverse ∧ m.files.reverse[index]? = .some upload := by
  have first : 0 < m.files.length := List.length_pos_iff.2 some
  have referred : 0 ∈ m.fields.reverse.filterMap MultipartField.index? := by
    rw [h.indexes]
    exact List.mem_range.2 first
  obtain ⟨field, mem, refers⟩ := List.mem_filterMap.1 referred
  cases field with
  | text name value => cases refers
  | file index =>
      obtain rfl : index = 0 := Option.some.inj refers
      exact ⟨0, _, mem, List.getElem?_eq_getElem (by simpa using first)⟩

end Multipart

/-! ## Items -/

/-- A text without the blanks around it, if anything else is in it. -/
def trimmed? (value : String) : Option String :=
  let value := Text.trim value
  if value.isEmpty then none else some value

/-- The part that a form field makes; without an equals sign it makes none. -/
def fieldPart? (raw : String) (allowFiles : Bool) : Option FormPart :=
  (Text.cut? '=' raw).map fun (name, value) =>
    match allowFiles, value.toList with
    | true, '@' :: spec => .file (Draft.uploadOf name (String.ofList spec))
    | _, _ => .text name value

namespace Item

def address? : Item → Option String
  | .option .url value => trimmed? value
  | .operand word => if Url.isRecognized word then trimmed? word else none
  | _ => none

def dataPart? : Item → Option DataPart
  | .option .data value => some ⟨.plain, value⟩
  | .option .json value => some ⟨.plain, value⟩
  | .option .dataRaw value => some ⟨.raw, value⟩
  | .option .dataBinary value => some ⟨.binary, value⟩
  | .option .dataUrlencode value => some ⟨.urlEncode, value⟩
  | _ => none

def formPart? : Item → Option FormPart
  | .option .form value => fieldPart? value true
  | .option .formString value => fieldPart? value false
  | _ => none

def asksGet : Item → Bool
  | .option .get _ => true
  | _ => false

end Item

/-- What a draft knows of address, query and body. -/
structure Content where
  url? : Option String := none
  data : List DataPart := []
  form : Multipart := {}
  get : Bool := false
  deriving DecidableEq, Repr

namespace Content

def take (c : Content) (item : Item) : Content where
  url? := c.url?.or (item.address?.map Url.withScheme)
  data := item.dataPart?.toList ++ c.data
  form := item.formPart?.toList.foldl Multipart.add c.form
  get := c.get || item.asksGet

theorem take_address (c : Content) {item : Item}
    (only : item.dataPart? = none ∧ item.formPart? = none ∧ item.asksGet = false) :
    c.take item = { c with url? := c.url?.or (item.address?.map Url.withScheme) } := by
  obtain ⟨data, field, get⟩ := only
  simp [take, data, field, get]

theorem foldl_take (items : List Item) (c : Content) :
    items.foldl take c =
      { url? := c.url?.or ((items.findSome? Item.address?).map Url.withScheme)
        data := (items.filterMap Item.dataPart?).reverse ++ c.data
        form := (items.filterMap Item.formPart?).foldl Multipart.add c.form
        get := c.get || items.any Item.asksGet } := by
  induction items generalizing c with
  | nil => simp
  | cons item rest ih =>
      rw [List.foldl_cons, ih, take]
      congr 1
      · rw [List.findSome?_cons, Option.or_assoc]
        cases item.address? <;> simp
      · rw [List.filterMap_cons]
        cases item.dataPart? <;> simp
      · rw [List.filterMap_cons]
        cases item.formPart? <;> simp
      · rw [List.any_cons, Bool.or_assoc]

end Content

namespace Draft

def content (d : Draft) : Content :=
  ⟨d.url?, d.data, d.form, d.get⟩

@[simp] theorem content_warn (d : Draft) (w : Warning) : (d.warn w).content = d.content := rfl

@[simp] theorem content_addCookies (d : Draft) (raw : String) :
    (d.addCookies raw).content = d.content := by
  unfold addCookies
  split <;> rfl

@[simp] theorem content_setHeader (d : Draft) (name value : String) :
    (d.setHeader name value).content = d.content := by
  obtain ⟨headerAuthorization?, cookies, warnings, set⟩ := setHeader_eq d name value
  rw [set]
  rfl

@[simp] theorem content_removeHeader (d : Draft) (name : String) :
    (d.removeHeader name).content = d.content := by
  unfold removeHeader
  dsimp only
  split <;> rfl

@[simp] theorem content_addHeader (d : Draft) (raw : String) :
    (d.addHeader raw).content = d.content := by
  unfold addHeader
  split
  · next name value _ =>
      dsimp only
      split
      · exact content_warn d _
      · split
        · exact content_removeHeader d _
        · exact content_setHeader d _ _
  · split
    · exact content_setHeader d _ _
    · exact content_warn d _

theorem content_setUrl (d : Draft) (value : String) :
    (d.setUrl value).content =
      { d.content with url? := d.url?.or ((trimmed? value).map Url.withScheme) } := by
  unfold setUrl trimmed?
  cases known : d.url? <;> cases blank : (Text.trim value).isEmpty <;> simp [content, known, blank]

theorem content_addField (d : Draft) (raw : String) (allowFiles : Bool) :
    (d.addField raw allowFiles).content =
      { d.content with
        form := (fieldPart? raw allowFiles).toList.foldl Multipart.add d.form } := by
  unfold addField fieldPart?
  cases Text.cut? '=' raw with
  | none => rfl
  | some field =>
      obtain ⟨name, value⟩ := field
      simp only [Option.map_some]
      split
      · next spec text => rw [text]; rfl
      · next path text => rw [text]; rfl
      · next noUpload _ =>
          split
          · next text _ => exact absurd text (noUpload _ rfl)
          · rfl

/-- A step that changes nothing of this kind agrees with an item that contributes nothing. -/
theorem content_take_of_quiet {d d' : Draft} {item : Item} (same : d'.content = d.content)
    (quiet : item.address? = none ∧ item.dataPart? = none ∧ item.formPart? = none ∧
      item.asksGet = false) : d'.content = d.content.take item := by
  rw [Content.take_address _ quiet.2, quiet.1, Option.map_none, Option.or_none, same]

theorem content_applyOption (d : Draft) (flag : Flag) (value : String) :
    (d.applyOption flag value).content = d.content.take (.option flag value) := by
  -- After the four kinds of options that contribute, all others leave the content alone.
  cases flag with
  | url =>
      rw [Content.take_address _ ⟨rfl, rfl, rfl⟩]
      exact content_setUrl d value
  | data | dataRaw | dataBinary | dataUrlencode | json =>
      simp [applyOption, addData, content, Content.take, Item.address?, Item.dataPart?,
        Item.formPart?, Item.asksGet]
  | form | formString =>
      rw [applyOption, content_addField]
      simp [Content.take, Item.address?, Item.dataPart?, Item.formPart?, Item.asksGet, content]
  | get =>
      simp [applyOption, content, Content.take, Item.address?, Item.dataPart?, Item.formPart?,
        Item.asksGet]
  | method | maxRedirs | maxTime | connectTimeout =>
      refine content_take_of_quiet ?_ ⟨rfl, rfl, rfl, rfl⟩
      simp only [applyOption]
      split <;> rfl
  | header => exact content_take_of_quiet (content_addHeader d value) ⟨rfl, rfl, rfl, rfl⟩
  | cookie => exact content_take_of_quiet (content_addCookies d value) ⟨rfl, rfl, rfl, rfl⟩
  | userAgent | referer =>
      exact content_take_of_quiet (content_setHeader d _ value) ⟨rfl, rfl, rfl, rfl⟩
  | _ => exact content_take_of_quiet rfl ⟨rfl, rfl, rfl, rfl⟩

theorem content_apply (d : Draft) (item : Item) : (d.apply item).content = d.content.take item := by
  cases item with
  | option flag value => exact content_applyOption d flag value
  | unknownLong name => exact content_take_of_quiet rfl ⟨rfl, rfl, rfl, rfl⟩
  | unknownLetter letter => exact content_take_of_quiet rfl ⟨rfl, rfl, rfl, rfl⟩
  | operand word =>
      rw [Content.take_address _ ⟨rfl, rfl, rfl⟩]
      simp only [apply, Item.address?]
      cases recognized : Url.isRecognized word with
      | false =>
          rw [Bool.and_false, if_neg Bool.false_ne_true, if_neg Bool.false_ne_true, content_warn,
            Option.map_none, Option.or_none]
      | true =>
          rw [Bool.and_true, if_pos rfl]
          cases known : d.url? with
          | none =>
              rw [Option.isNone_none, if_pos rfl, content_setUrl, known]
              simp [content, known]
          | some url =>
              rw [Option.isNone_some, if_neg Bool.false_ne_true, content_warn]
              simp [content, known]

theorem content_foldl_apply (items : List Item) (d : Draft) :
    (items.foldl apply d).content = items.foldl Content.take d.content := by
  induction items generalizing d with
  | nil => rfl
  | cons item rest ih => rw [List.foldl_cons, List.foldl_cons, ih, content_apply]

theorem content_ofItems (items : List Item) :
    (ofItems items).content =
      { url? := (items.findSome? Item.address?).map Url.withScheme
        data := (items.filterMap Item.dataPart?).reverse
        form := .ofParts (items.filterMap Item.formPart?)
        get := items.any Item.asksGet } := by
  have run := (content_foldl_apply items {}).trans (Content.foldl_take items _)
  have start : ({} : Draft).content = {} := rfl
  rw [start] at run
  simpa [ofItems, Multipart.ofParts] using run

end Draft

end Command

end RequestScribe
