import RequestScribe.Proofs.Command.Address
import RequestScribe.Proofs.Encoding.Form

/-!
# The body that the data make

All data are joined to one text, which is the body unless it goes into the query.  Names and
contents that are given for encoding come out of it as the form they were put in as.  A part that
names a file is looked at only if it is the whole body; next to other data, or in the query, it
is text like any other.
-/

namespace RequestScribe

namespace Command

namespace Draft

variable {d : Draft}

theorem payload_of_finish {outcome : Outcome} (h : d.finish = .ok outcome) :
    outcome.request.body? = d.payload.body? ∧ outcome.request.rawBody? = d.payload.rawBody? ∧
      outcome.warnings = d.warnings.reverse ++ d.payload.warnings ++ d.authorizationWarnings := by
  obtain ⟨raw, -, -, rfl⟩ := finish_eq_ok_iff.1 h
  exact ⟨rfl, rfl, rfl⟩

theorem payload_of_get (noForm : d.form.fields = []) (given : d.data ≠ []) (get : d.get = true) :
    d.payload = { queryPairs := Form.decode d.joinedData } := by
  simp [payload, noForm, given, get]

theorem payload_of_dataFile (noForm : d.form.fields = []) (given : d.data ≠ []) (noGet : d.get = false)
    {path : String} (file : d.dataFile? = some path) :
    d.payload =
      { body? := some (.file path)
        rawBody? := some d.joinedData
        warnings := [.bodyFromFile path] } := by
  simp [payload, noForm, given, noGet, file]

theorem payload_of_data (noForm : d.form.fields = []) (given : d.data ≠ []) (noGet : d.get = false)
    (noFile : d.dataFile? = none) :
    let body := Body.classify d.joinedData (d.data.any fun part => part.kind == .binary)
    d.payload =
      { body? := some body
        rawBody? := some d.joinedData
        warnings := if d.json && !isJson body then [.invalidJson] else [] } := by
  simp [payload, noForm, given, noGet, noFile]

end Draft

/-! ## Names and contents -/

/-- A name that is not empty and is the same when it is encoded. -/
def IsPlainName (name : String) : Prop :=
  name ≠ "" ∧ ∀ c ∈ name.toList, Percent.isPlain c = true

instance (name : String) : Decidable (IsPlainName name) :=
  have : Decidable (∀ c ∈ name.toList, Percent.isPlain c = true) :=
    List.decidableBAll (Percent.isPlain · = true) name.toList
  inferInstanceAs (Decidable (_ ∧ _))

namespace DataPart

/-- A content that is to be encoded, with its name. -/
def named (pair : String × String) : DataPart :=
  ⟨.urlEncode, pair.1 ++ "=" ++ pair.2⟩

theorem encoded_named {pair : String × String} (plain : IsPlainName pair.1) :
    (named pair).encoded = pair.1 ++ "=" ++ percentEncoded pair.2 := by
  obtain ⟨nonempty, plain⟩ := plain
  have absent : '=' ∉ pair.1.toList := fun mem => absurd (plain '=' mem) (by decide)
  have text : (pair.1 ++ "=" ++ pair.2).toList = pair.1.toList ++ '=' :: pair.2.toList := by simp
  have something : ¬pair.1.isEmpty = true := by simpa using nonempty
  simp only [encoded, named, Text.cut?_append absent text, if_neg something]

def segment (pair : String × String) : List Char :=
  pair.1.toList ++ '=' :: Percent.encode pair.2.toList

theorem not_mem_segment {c : Char} (other : Percent.isWritten c = false) (apart : c ≠ '=')
    {pair : String × String} (plain : IsPlainName pair.1) : c ∉ segment pair := by
  rw [segment, List.mem_append, List.mem_cons, not_or, not_or]
  refine ⟨fun mem => ?_, apart, fun mem => ?_⟩
  · exact absurd other (by simp [Percent.isWritten, plain.2 c mem])
  · exact absurd other (by simp [Percent.isWritten_encode _ c mem])

/-- The text of all segments starts with a character of the first name. -/
theorem exists_text_cons {pairs : List (String × String)} (given : pairs ≠ [])
    (plain : ∀ pair ∈ pairs, IsPlainName pair.1) :
    ∃ c rest, ['&'].intercalate (pairs.map segment) = c :: rest ∧ Percent.isPlain c = true := by
  obtain ⟨pair, others, rfl⟩ := List.exists_cons_of_ne_nil given
  obtain ⟨nonempty, characters⟩ := plain pair List.mem_cons_self
  obtain ⟨c, more, name⟩ := List.exists_cons_of_ne_nil (mt String.toList_eq_nil_iff.1 nonempty)
  have first : Percent.isPlain c = true := characters c (by rw [name]; exact List.mem_cons_self)
  obtain ⟨rest, text⟩ := Chars.exists_intercalate_cons ['&'] (segment pair) (others.map segment)
  refine ⟨c, more ++ '=' :: Percent.encode pair.2.toList ++ rest, ?_, first⟩
  rw [List.map_cons, text, segment, name]
  rfl

end DataPart

end Command

namespace Body

theorem isPlainKeyCharacter_of_plain {c : Char} (plain : Percent.isPlain c = true) :
    isPlainKeyCharacter c = true := by
  have ascii : ∀ n < 0x80, Percent.isPlain (Char.ofNat n) = true →
      isPlainKeyCharacter (Char.ofNat n) = true := by decide +kernel
  have small := Percent.toNat_lt_of_isWritten (Bool.or_eq_true_iff.2 (.inl plain))
  have known := ascii c.toNat small
  rw [Char.ofNat_toNat] at known
  exact known plain

/-- A text that starts with the character of a plain key is no JSON. -/
theorem sniffJson?_of_plain {text : String} {c : Char} {rest : List Char}
    (start : text.toList = c :: rest) (plain : isPlainKeyCharacter c = true) :
    sniffJson? text = none := by
  rw [isPlainKeyCharacter, Bool.and_eq_true, Bool.not_eq_true', Bool.not_eq_true'] at plain
  obtain ⟨visible, other⟩ := plain
  have kept : Chars.trimStart text.toList = c :: rest := by
    rw [start, Chars.trimStart, List.dropWhile_cons, visible, if_neg Bool.false_ne_true]
  unfold sniffJson?
  rw [kept]
  split
  · next same =>
      obtain rfl := (List.cons.inj same).1
      exact absurd other (by decide)
  · next same =>
      obtain rfl := (List.cons.inj same).1
      exact absurd other (by decide)
  · rfl

open Command in
theorem isFormSegment_segment {pair : String × String} (plain : IsPlainName pair.1) :
    isFormSegment (DataPart.segment pair) = true := by
  obtain ⟨nonempty, characters⟩ := plain
  have absent : '=' ∉ pair.1.toList := fun mem => absurd (characters '=' mem) (by decide)
  have something : pair.1.toList.isEmpty = false := by simpa using nonempty
  have key : pair.1.toList.all isPlainKeyCharacter = true :=
    List.all_eq_true.2 fun c mem => isPlainKeyCharacter_of_plain (characters c mem)
  unfold isFormSegment
  rw [DataPart.segment, Chars.cut?_append absent]
  simp [something, key]

open Command in
/-- Plain names and encoded contents are seen to be a form, which is read as what they are. -/
theorem classify_segments {pairs : List (String × String)} (given : pairs ≠ [])
    (plain : ∀ pair ∈ pairs, IsPlainName pair.1) (binary : Bool) :
    classify (String.ofList (['&'].intercalate (pairs.map DataPart.segment))) binary =
      .form pairs := by
  obtain ⟨c, rest, start, first⟩ := DataPart.exists_text_cons given plain
  have noJson := sniffJson?_of_plain ((String.toList_ofList).trans start)
    (isPlainKeyCharacter_of_plain first)
  have apart : ∀ segment ∈ pairs.map DataPart.segment, '&' ∉ segment := by
    intro segment hsegment
    obtain ⟨pair, mem, rfl⟩ := List.mem_map.1 hsegment
    exact DataPart.not_mem_segment (by decide) (by decide) (plain pair mem)
  have isForm : ((['&'].intercalate (pairs.map DataPart.segment)).splitOn '&').all
      isFormSegment = true := by
    rw [List.splitOn_intercalate '&' apart (by simpa using given), List.all_map,
      List.all_eq_true]
    exact fun pair mem => isFormSegment_segment (plain pair mem)
  have written : pairs.map DataPart.segment =
      pairs.map fun pair => Percent.encode pair.1.toList ++ '=' :: Percent.encode pair.2.toList := by
    refine List.map_congr_left fun pair mem => ?_
    rw [DataPart.segment, Percent.encode_of_plain (plain pair mem).2]
  have read : Form.decode (String.ofList (['&'].intercalate (pairs.map DataPart.segment))) =
      pairs := by
    rw [written]
    exact Form.isReadable_percent.decode_pairs pairs
  have sniffed : sniffForm? (String.ofList (['&'].intercalate (pairs.map DataPart.segment))) =
      some pairs := by
    rw [sniffForm?, String.toList_ofList, if_pos isForm, read]
  unfold classify
  rw [noJson, sniffed]

end Body

namespace Command

/-- The text of encoded contents with their names. -/
theorem intercalate_encoded_named {pairs : List (String × String)}
    (plain : ∀ pair ∈ pairs, IsPlainName pair.1) :
    "&".intercalate ((pairs.map DataPart.named).map DataPart.encoded) =
        "&".intercalate (pairs.map fun pair =>
          pair.1 ++ "=" ++ DataPart.percentEncoded pair.2) ∧
      "&".intercalate (pairs.map fun pair => pair.1 ++ "=" ++ DataPart.percentEncoded pair.2) =
        String.ofList (['&'].intercalate (pairs.map DataPart.segment)) := by
  constructor
  · rw [List.map_map]
    exact congrArg _ (List.map_congr_left fun pair mem => DataPart.encoded_named (plain pair mem))
  · have segments : (fun pair : String × String =>
        (pair.1 ++ "=" ++ DataPart.percentEncoded pair.2).toList) = DataPart.segment := by
      funext pair
      simp [DataPart.segment, DataPart.percentEncoded]
    rw [← String.toList_inj, String.toList_intercalate, List.map_map]
    exact (congrArg (fun segment => ['&'].intercalate (pairs.map segment)) segments).trans
      String.toList_ofList.symm

/--
A command whose data are contents to be encoded, each with a plain name, sends a form of exactly
these names and contents, in order, whatever the contents are.  The text of the form has the names
as they are and the contents encoded.
-/
theorem ofWords_named_contents {words : List String} {address : String}
    {pairs : List (String × String)} (given : pairs ≠ [])
    (plain : ∀ pair ∈ pairs, IsPlainName pair.1)
    (data : (Item.ofWords words).filterMap Item.dataPart? = pairs.map DataPart.named)
    (noForm : (Item.ofWords words).filterMap Item.formPart? = [])
    (noGet : (Item.ofWords words).any Item.asksGet = false)
    (first : Item.firstAddress? (Item.ofWords words) = some address)
    (nonempty : (Url.splitQuery (Url.withScheme address)).1 ≠ "") :
    ∃ outcome, ofWords words = .ok outcome ∧ outcome.request.body? = some (.form pairs) ∧
      outcome.request.rawBody? = some ("&".intercalate
        (pairs.map fun pair => pair.1 ++ "=" ++ DataPart.percentEncoded pair.2)) := by
  obtain ⟨outcome, parsed⟩ := exists_ofWords_eq_ok first nonempty
  obtain ⟨body, rawBody, -⟩ := Draft.payload_of_finish parsed
  have content := Draft.content_ofItems (Item.ofWords words)
  simp only [Draft.content, Content.mk.injEq, data, noForm, noGet] at content
  generalize Draft.ofItems (Item.ofWords words) = d at content body rawBody
  obtain ⟨-, data, form, noGet⟩ := content
  have noForm : d.form.fields = [] := congrArg Multipart.fields form
  have something : d.data ≠ [] := by simpa [data] using given
  have noFile : d.dataFile? = none := by
    unfold Draft.dataFile?
    split
    · next part lone =>
        have mem : part ∈ (pairs.map DataPart.named).reverse := by simp [← data, lone]
        obtain ⟨pair, -, rfl⟩ := List.mem_map.1 (List.mem_reverse.1 mem)
        rfl
    · rfl
  obtain ⟨encoded, text⟩ := intercalate_encoded_named plain
  have joined : d.joinedData = "&".intercalate
      (pairs.map fun pair => pair.1 ++ "=" ++ DataPart.percentEncoded pair.2) := by
    rw [Draft.joinedData, data, List.reverse_reverse, encoded]
  rw [Draft.payload_of_data noForm something noGet noFile] at body rawBody
  refine ⟨outcome, parsed, ?_, ?_⟩
  · rw [body, joined, text]
    exact congrArg some (Body.classify_segments given plain _)
  · rw [rawBody, joined]

/-- Contents with separators, with what looks like encoded text, and with what looks like JSON. -/
theorem ofWords_named_contents_marks :
    let words := ["--data-urlencode", "a=x&y=1+2 %41", "--data-urlencode", "b.c=\x7b[ü",
      "--data-urlencode=~=", "https://x.test"]
    let pairs := [("a", "x&y=1+2 %41"), ("b.c", "\x7b[ü"), ("~", "")]
    ∃ outcome, ofWords words = .ok outcome ∧ outcome.request.body? = some (.form pairs) ∧
      outcome.request.rawBody? = some "a=x%26y%3D1%2B2%20%2541&b.c=%7B%5B%C3%BC&~=" := by
  intro words pairs
  have items : Item.ofWords words = [.option .dataUrlencode "a=x&y=1+2 %41",
      .option .dataUrlencode "b.c=\x7b[ü", .option .dataUrlencode "~=",
      .operand "https://x.test"] := by
    decide +kernel
  obtain ⟨outcome, parsed, body, rawBody⟩ :=
    @ofWords_named_contents words "https://x.test" pairs (by decide) (by decide +kernel)
      (by rw [items]; rfl) (by rw [items]; rfl) (by rw [items]; rfl)
      (by rw [items]; decide +kernel) (by decide +kernel)
  refine ⟨outcome, parsed, body, rawBody.trans ?_⟩
  decide +kernel

end Command

end RequestScribe
