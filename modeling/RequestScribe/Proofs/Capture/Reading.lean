import RequestScribe.Capture.Command
import RequestScribe.Command.Parse
import RequestScribe.Proofs.Command.Draft
import RequestScribe.Proofs.Command.Item
import RequestScribe.Proofs.Ordered
import RequestScribe.Proofs.Request.Url
import RequestScribe.Proofs.Shell.Quoting
import RequestScribe.Proofs.Text.Chars

/-!
# Reading the command of a captured request

A line of command words is cut into the values of the words, as long as the words without quotes
need none and no value continues the line.  A capture becomes such a line for its first request
unless one of the words in its text names the program.  In that case the text stays as it is, which
is never that line: a command is no document.

The command of a captured request without form parameters names the method
where it has to, then every header, then the text of the body, and last the
address.  It is read as items in this order, and the items make a draft with
just these parts.
-/

namespace RequestScribe

/-! ## Lines of command words -/

namespace CommandWord

/-- A word that is quoted or needs no quotes, and whose value continues no line. -/
structure IsSafe (w : CommandWord) : Prop where
  readable : w.quoted = true ∨ Shell.IsPlain w.value.toList
  joined : ¬Shell.HasContinuation w.value.toList

theorem IsSafe.reads {w : CommandWord} (safe : w.IsSafe) :
    Shell.Scan.Reads w.text.toList w.value.toList := by
  unfold text
  cases hquoted : w.quoted with
  | true => exact Shell.Scan.reads_quote w.value
  | false =>
      have plain : Shell.IsPlain w.value.toList := by simpa [hquoted] using safe.readable
      exact Shell.Scan.reads_plain plain

theorem IsSafe.not_hasContinuation_text {w : CommandWord} (safe : w.IsSafe) :
    ¬Shell.HasContinuation w.text.toList := by
  unfold text
  cases w.quoted with
  | true => exact Shell.not_hasContinuation_quote safe.joined
  | false => exact safe.joined

theorem isSafe_bare {value : String} (plain : Shell.IsPlain value.toList) :
    (bare value).IsSafe :=
  ⟨.inr plain, Shell.not_hasContinuation_of_plain plain⟩

theorem isSafe_option {flag argument : String} (plain : Shell.IsPlain flag.toList)
    (joined : ¬Shell.HasContinuation argument.toList) :
    ∀ w ∈ option flag argument, w.IsSafe := by
  intro w hw
  rcases List.mem_cons.1 hw with rfl | hw
  · exact isSafe_bare plain
  · obtain rfl := List.mem_singleton.1 hw
    exact ⟨.inl rfl, joined⟩

/-- A line of words that continue no line is cut where the scan cuts it. -/
theorem tokenize_line_eq_ok_iff {ws : List CommandWord}
    (joined : ∀ w ∈ ws, ¬Shell.HasContinuation w.text.toList) :
    Shell.tokenize (" ".intercalate (ws.map text)) = .ok (ws.map value) ↔
      Shell.scanWords (List.intercalate [' '] (ws.map fun w => w.text.toList)) =
        .ok (ws.map fun w => w.value.toList) := by
  have line : (" ".intercalate (ws.map text)).toList =
      List.intercalate [' '] (ws.map fun w => w.text.toList) := by
    rw [String.toList_intercalate, List.map_map]
    rfl
  have unbroken : ¬Shell.HasContinuation
      (List.intercalate [' '] (ws.map fun w => w.text.toList)) :=
    Shell.not_hasContinuation_intercalate (List.forall_mem_map.2 joined)
  rw [Shell.tokenize_eq_ok_iff, line, Shell.joinContinuations_of_not unbroken, List.map_map]
  rfl

theorem tokenize_line {ws : List CommandWord} (safe : ∀ w ∈ ws, w.IsSafe) :
    Shell.tokenize (" ".intercalate (ws.map text)) = .ok (ws.map value) := by
  have empty : Shell.IsGap [] := fun c hc => absurd hc List.not_mem_nil
  have cut := Shell.scanWords_written empty (Shell.written_intercalate _ ws)
    (fun w hw => (safe w hw).reads) empty
  rw [List.nil_append, List.append_nil] at cut
  exact (tokenize_line_eq_ok_iff fun w hw => (safe w hw).not_hasContinuation_text).2 cut

end CommandWord

theorem CapturedRequest.exists_command_cons (r : CapturedRequest) :
    ∃ rest, r.command.toList = 'c' :: rest := by
  have program : (CommandWord.bare "curl").text.toList = 'c' :: "url".toList := by decide
  have line : r.words = .bare "curl" ::
      (r.methodWords ++ headerWords r.keptHeaders ++ r.bodyWords ++ [⟨r.url, true⟩]) := by
    simp [words]
  rw [command, line, List.map_cons, String.toList_intercalate, List.map_cons, program]
  generalize (List.map String.toList _) = rest
  cases rest with
  | nil => exact ⟨"url".toList, by simp⟩
  | cons word rest => exact ⟨_, by rw [List.intercalate_cons_cons, List.cons_append]; rfl⟩

/-! ## Which texts become commands -/

namespace Chars

/-- A text that begins visibly keeps its first character when it is trimmed. -/
theorem exists_trim_cons {c : Char} (visible : isBlank c = false) (rest : List Char) :
    ∃ kept, trim (c :: rest) = c :: kept := by
  have start : trimStart (c :: rest) = c :: rest := by simp [trimStart, visible]
  have shown : (rest.reverse ++ [c]).dropWhile isBlank = rest.reverse.dropWhile isBlank ++ [c] := by
    rw [List.dropWhile_append]
    split
    · next blank => simp [List.isEmpty_iff.1 blank, visible]
    · rfl
  refine ⟨(rest.reverse.dropWhile isBlank).reverse, ?_⟩
  rw [trim, start, trimEnd, List.reverse_cons, shown, List.reverse_append]
  rfl

end Chars

/-- No document begins with a character that begins no value. -/
theorem Json.read?_of_refused {α : Type} {b : Builder α} {limit : Option Nat} {text : String}
    {c : Char} {rest : List Char} (begins : text.toList = c :: rest)
    (refused : Reader.step b limit {} c = none) : read? b limit text = none := by
  rw [read?, begins, Reader.run, refused]
  rfl

namespace Capture

theorem read?_command (r : CapturedRequest) : read? (Text.trim r.command) = none := by
  obtain ⟨rest, begins⟩ := r.exists_command_cons
  obtain ⟨kept, trimmed⟩ := Chars.exists_trim_cons (by decide : Chars.isBlank 'c' = false) rest
  have text : (Text.trim r.command).toList = 'c' :: kept := by
    rw [Text.trim, String.toList_ofList, begins, trimmed]
  have refused : Json.Reader.step Json.Node.builder none {} 'c' = none := by decide
  rw [read?, Json.Node.read?, Json.read?_of_refused text refused, Option.bind_none]

variable {text : String} {c : Capture} {first : CapturedRequest} {rest : List CapturedRequest}

/--
A text that is a capture with a request, and shows the marks of one, becomes the
command of the first request just if no word of it names the program; otherwise
it stays as it is.
-/
theorem normalize_capture (read : read? (Text.trim text) = some c)
    (requests : c.requests = first :: rest) (suspected : isSuspected text = true) :
    normalize text =
        .ok (if (Text.words text).any Shell.isProgramName then text else first.command) ∧
      (normalize text = .ok first.command ↔
        ∀ word ∈ Text.words text, Shell.isProgramName word = false) := by
  have command : command? text = some first.command := by
    unfold command?
    rw [read, Option.map_some, requests]
  have differs : text ≠ first.command := by
    intro same
    rw [same, read?_command] at read
    cases read
  have outcome : normalize text =
      .ok (if (Text.words text).any Shell.isProgramName then text else first.command) := by
    unfold normalize
    split
    · rfl
    · simp [command]
  refine ⟨outcome, ?_⟩
  rw [outcome, Except.ok.injEq]
  split
  · next named =>
      obtain ⟨word, mem, names⟩ := List.any_eq_true.1 named
      refine ⟨fun same => absurd same differs, fun none => ?_⟩
      rw [none word mem] at names
      cases names
  · next unnamed => simpa using unnamed

/-- A word that only begins like the name of the program is no obstacle. -/
theorem normalize_capture_similar :
    let text := " \x7b\"log\":\x7b\"entries\":[\x7b\"request\":" ++
      "\x7b\"method\":\"GET\",\"url\":\"x.test/?q=my curl8 7\"\x7d\x7d]\x7d\x7d\n"
    let request : CapturedRequest := { method := "GET", url := "x.test/?q=my curl8 7" }
    read? (Text.trim text) = some { logged? := some [request] } ∧ isSuspected text = true ∧
      normalize text = .ok "curl 'x.test/?q=my curl8 7'" := by
  intro text request
  have letters : text.toList = _ ++ _ := String.toList_append
  rw [String.toList_ofList, String.toList_ofList] at letters
  have read : read? (Text.trim text) = some { logged? := some [request] } := by
    rw [read?, Json.Node.read?, Json.read?, Text.trim, String.toList_ofList, letters]
    decide +kernel
  have suspected : isSuspected text = true := by
    simp only [isSuspected, Text.contains, letters]
    decide +kernel
  have unnamed : ∀ word ∈ Text.words text, Shell.isProgramName word = false := by
    rw [Text.words, letters, List.forall_mem_map]
    simp only [Shell.isProgramName, String.toList_ofList]
    decide +kernel
  have converted := (normalize_capture read rfl suspected).2.2 unnamed
  have command : request.command = "curl 'x.test/?q=my curl8 7'" := by decide
  rw [command] at converted
  exact ⟨read, suspected, converted⟩

/-- A word of an address names the program, and the capture is not converted. -/
theorem normalize_capture_named :
    let text := "\x7b\"entries\":[\x7b\"request\":" ++
      "\x7b\"method\":\"GET\",\"url\":\"x.test/?q=my curl 8\"\x7d\x7d]\x7d"
    let request : CapturedRequest := { method := "GET", url := "x.test/?q=my curl 8" }
    read? (Text.trim text) = some { listed := [request] } ∧ isSuspected text = true ∧
      normalize text = .ok text ∧ text ≠ request.command := by
  intro text request
  have letters : text.toList = _ ++ _ := String.toList_append
  rw [String.toList_ofList, String.toList_ofList] at letters
  have read : read? (Text.trim text) = some { listed := [request] } := by
    rw [read?, Json.Node.read?, Json.read?, Text.trim, String.toList_ofList, letters]
    decide +kernel
  have suspected : isSuspected text = true := by
    simp only [isSuspected, Text.contains, letters]
    decide +kernel
  have named : (Text.words text).any Shell.isProgramName = true := by
    rw [Text.words, letters, List.any_map, Function.comp_def]
    simp only [Shell.isProgramName, String.toList_ofList]
    decide +kernel
  have kept : normalize text = .ok text := by rw [normalize, if_pos named]
  exact ⟨read, suspected, kept, by decide +kernel⟩

end Capture

/-! ## Words and items -/

namespace Method

/-- A verb needs no quotes. -/
theorem isPlain_verb (m : Method) : Shell.IsPlain m.verb.toList := by
  cases m <;> decide

theorem ofVerb?_verb (m : Method) : ofVerb? m.verb = some m := by
  cases m <;> decide

end Method

def PostedParam.strings (p : PostedParam) : List String :=
  p.name :: (p.value?.toList ++ p.fileName?.toList ++ p.contentType?.toList)

def PostedData.strings (d : PostedData) : List String :=
  d.mimeType :: (d.text?.toList ++ (d.params?.getD []).flatMap PostedParam.strings)

namespace CapturedRequest

def strings (r : CapturedRequest) : List String :=
  r.method :: r.url :: (r.headers.flatMap fun header => [header.1, header.2]) ++
    r.posted?.toList.flatMap PostedData.strings

/-- No string of the request holds a backslash directly before a line break. -/
def IsJoined (r : CapturedRequest) : Prop :=
  ∀ s ∈ r.strings, ¬Shell.HasContinuation s.toList

/-- A captured request that its command describes in full. -/
structure IsDescribable (r : CapturedRequest) : Prop where
  absolute : Url.IsAbsolute r.url
  clean : ∀ header ∈ r.headers, Command.IsCleanHeader header
  distinct : Ordered.Distinct Text.sameIgnoringCase r.headers
  mimeTrimmed : ∀ d ∈ r.posted?, Text.trim d.mimeType = d.mimeType
  withoutParams : ∀ d ∈ r.posted?, d.params?.getD [] = []
  joined : ∀ s ∈ r.strings, ¬Shell.HasContinuation s.toList

/-- The content type of a body that has text, where no header gives one. -/
def bodyHeader (r : CapturedRequest) : List (String × String) :=
  match r.posted?, r.bodyText? with
  | some d, some _ => r.impliedHeader d
  | _, _ => []

def givenHeaders (r : CapturedRequest) : List (String × String) :=
  r.keptHeaders ++ r.bodyHeader

theorem formParams_eq_nil {r : CapturedRequest}
    (withoutParams : ∀ d ∈ r.posted?, d.params?.getD [] = []) : r.formParams = [] := by
  unfold formParams
  cases hposted : r.posted? with
  | none => rfl
  | some d =>
      have none := withoutParams d hposted
      simp [PostedData.formParams, none]

/-- The body is given by its parameters, or else by its text behind the content type. -/
theorem bodyWords_eq (r : CapturedRequest) :
    r.bodyWords = match r.formParams, r.bodyText? with
      | [], some text => headerWords r.bodyHeader ++ CommandWord.option "--data-raw" text
      | params, _ => params.flatMap fun p => CommandWord.option "-F" p.spec := by
  unfold bodyWords bodyHeader formParams bodyText?
  cases r.posted? with
  | none => rfl
  | some d =>
      simp only [Option.map_some, Option.getD_some, Option.bind_some]
      cases d.formParams with
      | cons p params => rfl
      | nil => cases d.bodyText? <;> rfl

/-- Without form parameters the body is given by its text, after all headers. -/
theorem words_eq {r : CapturedRequest}
    (withoutParams : ∀ d ∈ r.posted?, d.params?.getD [] = []) :
    r.words = .bare "curl" :: (r.methodWords ++ headerWords r.givenHeaders ++
      r.bodyText?.toList.flatMap (CommandWord.option "--data-raw") ++ [⟨r.url, true⟩]) := by
  have body : r.bodyWords = headerWords r.bodyHeader ++
      r.bodyText?.toList.flatMap (CommandWord.option "--data-raw") := by
    rw [bodyWords_eq, formParams_eq_nil withoutParams]
    cases htext : r.bodyText? with
    | none => simp [bodyHeader, htext, headerWords]
    | some text => simp
  have headers : headerWords r.givenHeaders =
      headerWords r.keptHeaders ++ headerWords r.bodyHeader := by
    simp [headerWords, givenHeaders]
  rw [words, body, headers]
  simp [List.append_assoc]

def methodItems (r : CapturedRequest) : List Command.Item :=
  if r.namesMethod then [.option .method (Text.upper r.method)] else []

def items (r : CapturedRequest) : List Command.Item :=
  r.methodItems ++ (r.givenHeaders.map Command.Item.header ++
    (r.bodyText?.toList.map (Command.Item.option .dataRaw) ++ [.operand r.url]))

open Command (Item)

theorem ofWords_methodWords (r : CapturedRequest) (rest : List String) :
    Item.ofWords (r.methodWords.map CommandWord.value ++ rest) =
      r.methodItems ++ Item.ofWords rest := by
  unfold methodWords methodItems
  cases r.namesMethod with
  | true => exact Item.ofWords_option (by decide) (Text.upper r.method) rest
  | false => rfl

theorem ofWords_headerWords (headers : List (String × String)) (rest : List String) :
    Item.ofWords ((headerWords headers).map CommandWord.value ++ rest) =
      headers.map Item.header ++ Item.ofWords rest := by
  induction headers with
  | nil => rfl
  | cons header headers ih =>
      have waiting : Command.Reading.ofWord "-H" = ⟨[], some .header⟩ := by decide
      have first := Item.ofWords_option waiting (header.1 ++ ": " ++ header.2)
        ((headerWords headers).map CommandWord.value ++ rest)
      exact first.trans (congrArg (Item.header header :: ·) ih)

theorem ofWords_words {r : CapturedRequest} (absolute : Url.IsAbsolute r.url)
    (withoutParams : ∀ d ∈ r.posted?, d.params?.getD [] = []) :
    Item.ofWords (r.words.map CommandWord.value).tail = r.items := by
  have text (rest : List String) :
      Item.ofWords ((r.bodyText?.toList.flatMap (CommandWord.option "--data-raw")).map
        CommandWord.value ++ rest) =
      r.bodyText?.toList.map (Item.option .dataRaw) ++ Item.ofWords rest := by
    cases r.bodyText? with
    | none => rfl
    | some text =>
        have waiting : Command.Reading.ofWord "--data-raw" = ⟨[], some .dataRaw⟩ := by decide
        exact Item.ofWords_option waiting text rest
  have address : Item.ofWords [r.url] = [.operand r.url] :=
    Item.ofWords_operand absolute.head?_ne []
  rw [words_eq withoutParams]
  simp only [List.map_cons, List.map_append, List.tail_cons, List.append_assoc, List.map_nil]
  rw [ofWords_methodWords, ofWords_headerWords, text, address]
  rfl

theorem joined_headerLine {name value : String} (hname : ¬Shell.HasContinuation name.toList)
    (hvalue : ¬Shell.HasContinuation value.toList) :
    ¬Shell.HasContinuation (name ++ ": " ++ value).toList := by
  have text : (name ++ ": " ++ value).toList = name.toList ++ (':' :: ' ' :: value.toList) := by
    simp
  have within : Shell.StartsInLine (':' :: ' ' :: value.toList) := by
    intro c hc
    obtain rfl : ':' = c := by simpa using hc
    decide
  rw [text, Shell.hasContinuation_append within, Shell.hasContinuation_cons,
    Shell.hasContinuation_cons]
  simp [hname, hvalue]

theorem bodyText?_eq (r : CapturedRequest) :
    r.bodyText? = (r.posted?.bind PostedData.text?).filter fun text => !text.isEmpty := by
  unfold bodyText? PostedData.bodyText?
  cases r.posted? with
  | none => rfl
  | some d =>
      simp only [Option.bind_some]
      cases d.text? with
      | none => rfl
      | some text => cases h : text.isEmpty <;> simp [Option.filter, h]

theorem mem_givenHeaders {r : CapturedRequest} {header : String × String}
    (mem : header ∈ r.givenHeaders) :
    header ∈ r.headers ∨
      ∃ d, r.posted? = some d ∧ d.mimeType ≠ "" ∧ header = ("Content-Type", d.mimeType) := by
  rcases List.mem_append.1 mem with kept | added
  · exact .inl (List.mem_filter.1 kept).1
  · right
    unfold bodyHeader impliedHeader at added
    split at added
    · next d text hd htext =>
        split at added
        · next conditions =>
            have given : d.mimeType ≠ "" := by simpa using (Bool.and_eq_true_iff.1 conditions).2
            exact ⟨d, hd, given, List.mem_singleton.1 added⟩
        · exact absurd added List.not_mem_nil
    · exact absurd added List.not_mem_nil

theorem isJoined_of_not_mem {r : CapturedRequest} (h : ∀ s ∈ r.strings, '\\' ∉ s.toList) :
    r.IsJoined :=
  fun s hs => Shell.not_hasContinuation_of_not_mem (h s hs)

namespace IsJoined

variable {r : CapturedRequest}

theorem method (h : r.IsJoined) : ¬Shell.HasContinuation r.method.toList :=
  h r.method (by simp [strings])

theorem url (h : r.IsJoined) : ¬Shell.HasContinuation r.url.toList :=
  h r.url (by simp [strings])

theorem header (h : r.IsJoined) {header : String × String} (mem : header ∈ r.headers) :
    ¬Shell.HasContinuation header.1.toList ∧ ¬Shell.HasContinuation header.2.toList := by
  obtain ⟨name, value⟩ := header
  have strings : name ∈ r.strings ∧ value ∈ r.strings := by
    simp only [CapturedRequest.strings, List.cons_append, List.mem_cons, List.mem_append,
      List.mem_flatMap]
    exact ⟨.inr (.inr (.inl ⟨_, mem, by simp⟩)), .inr (.inr (.inl ⟨_, mem, by simp⟩))⟩
  exact ⟨h name strings.1, h value strings.2⟩

theorem posted (h : r.IsJoined) {d : PostedData} (hd : r.posted? = some d) {s : String}
    (mem : s ∈ d.strings) : ¬Shell.HasContinuation s.toList := by
  apply h
  simp [strings, hd, mem]

theorem text (h : r.IsJoined) {text : String} (htext : r.bodyText? = some text) :
    ¬Shell.HasContinuation text.toList := by
  rw [bodyText?_eq, Option.filter_eq_some_iff] at htext
  obtain ⟨d, hposted, hd⟩ := Option.bind_eq_some_iff.1 htext.1
  exact h.posted hposted (by simp [PostedData.strings, hd])

theorem givenHeaders (h : r.IsJoined) :
    ∀ header ∈ r.givenHeaders, ¬Shell.HasContinuation (header.1 ++ ": " ++ header.2).toList := by
  intro header mem
  rcases mem_givenHeaders mem with captured | ⟨d, hd, given, rfl⟩
  · have parts := h.header captured
    exact joined_headerLine parts.1 parts.2
  · have name : Shell.IsPlain "Content-Type".toList := by decide
    have value := h.posted hd (List.mem_cons_self : d.mimeType ∈ d.strings)
    exact joined_headerLine (Shell.not_hasContinuation_of_plain name) value

theorem isSafe_headerWords {headers : List (String × String)}
    (h : r.IsJoined) (given : ∀ header ∈ headers, header ∈ r.givenHeaders) :
    ∀ w ∈ headerWords headers, w.IsSafe := by
  unfold headerWords
  rw [List.forall_mem_flatMap]
  intro header mem
  exact CommandWord.isSafe_option (by decide) (h.givenHeaders header (given header mem))

theorem spec (h : r.IsJoined) {p : PostedParam} (mem : p ∈ r.formParams) :
    ¬Shell.HasContinuation p.spec.toList := by
  obtain ⟨d, hd, within⟩ : ∃ d, r.posted? = some d ∧ p ∈ d.params?.getD [] := by
    unfold formParams PostedData.formParams at mem
    cases hposted : r.posted? with
    | none => simp [hposted] at mem
    | some d =>
        refine ⟨d, rfl, ?_⟩
        by_cases uses : d.usesParams = true
        · simpa [hposted, uses] using mem
        · simp [hposted, uses] at mem
  have joined (s : String) (hs : s ∈ p.strings) : ¬Shell.HasContinuation s.toList := by
    apply h.posted hd
    unfold PostedData.strings
    exact List.mem_cons_of_mem _ (List.mem_append_right _ (List.mem_flatMap.2 ⟨p, within, hs⟩))
  have value (v : String) (hv : ¬Shell.HasContinuation v.toList) :
      ¬Shell.HasContinuation (p.name ++ "=" ++ v).toList := by
    have text : (p.name ++ "=" ++ v).toList = p.name.toList ++ '=' :: v.toList := by simp
    rw [text]
    exact Shell.not_hasContinuation_separated (by decide)
      (joined p.name List.mem_cons_self) hv
  apply value
  cases hfile : p.fileName? with
  | none =>
      cases hvalue : p.value? with
      | none => exact Shell.not_hasContinuation_nil
      | some v => exact joined v (by simp [PostedParam.strings, hvalue])
  | some file =>
      have named : ¬Shell.HasContinuation ('@' :: file.toList) := by
        have := joined file (by simp [PostedParam.strings, hfile])
        simpa [Shell.hasContinuation_cons] using this
      cases htype : p.contentType? with
      | none => simpa [htype] using named
      | some type =>
          have typed := joined type (by simp [PostedParam.strings, htype])
          have text : ("@" ++ file ++ ";type=" ++ type).toList =
              ('@' :: file.toList) ++ ';' :: ("type=".toList ++ type.toList) := by simp
          simp only [text]
          apply Shell.not_hasContinuation_separated (by decide) named
          simpa [Shell.hasContinuation_cons] using typed

/-- The body of a command holds no word that has to be quoted and is not. -/
theorem isSafe_bodyWords (h : r.IsJoined) : ∀ w ∈ r.bodyWords, w.IsSafe := by
  have params : ∀ w ∈ r.formParams.flatMap fun p => CommandWord.option "-F" p.spec, w.IsSafe := by
    rw [List.forall_mem_flatMap]
    intro p mem
    exact CommandWord.isSafe_option (by decide) (h.spec mem)
  rw [bodyWords_eq]
  split
  · next text _ htext =>
      rw [List.forall_mem_append]
      have added : ∀ header ∈ r.bodyHeader, header ∈ r.givenHeaders := fun header mem =>
        List.mem_append_right r.keptHeaders mem
      exact ⟨h.isSafe_headerWords added, CommandWord.isSafe_option (by decide) (h.text htext)⟩
  · exact params

/-- Behind the method every word is safe. -/
theorem isSafe_afterMethod (h : r.IsJoined) :
    ∀ w ∈ headerWords r.keptHeaders ++ r.bodyWords ++ [⟨r.url, true⟩], w.IsSafe := by
  have kept : ∀ header ∈ r.keptHeaders, header ∈ r.givenHeaders := fun header mem =>
    List.mem_append_left r.bodyHeader mem
  have address : (⟨r.url, true⟩ : CommandWord).IsSafe := ⟨.inl rfl, h.url⟩
  rw [List.forall_mem_append, List.forall_mem_append]
  exact ⟨⟨h.isSafe_headerWords kept, h.isSafe_bodyWords⟩, by simpa using address⟩

/-- If the method is a verb, every word of the command is safe. -/
theorem isSafe_words (h : r.IsJoined) {m : Method} (verb : Text.upper r.method = m.verb) :
    ∀ w ∈ r.words, w.IsSafe := by
  have program : (CommandWord.bare "curl").IsSafe := CommandWord.isSafe_bare (by decide)
  have method : ∀ w ∈ r.methodWords, w.IsSafe := by
    unfold methodWords
    cases r.namesMethod with
    | false => simp
    | true =>
        have option : (CommandWord.bare "-X").IsSafe := CommandWord.isSafe_bare (by decide)
        have named : (CommandWord.bare (Text.upper r.method)).IsSafe := by
          rw [verb]
          exact CommandWord.isSafe_bare m.isPlain_verb
        simp [option, named]
  have line : r.words = .bare "curl" ::
      (r.methodWords ++ (headerWords r.keptHeaders ++ r.bodyWords ++ [⟨r.url, true⟩])) := by
    simp [words]
  rw [line, List.forall_mem_cons, List.forall_mem_append]
  exact ⟨program, method, h.isSafe_afterMethod⟩

theorem arguments_command (h : r.IsJoined) {m : Method} (verb : Text.upper r.method = m.verb) :
    Shell.arguments r.command = .ok (r.words.map CommandWord.value).tail := by
  have read := CommandWord.tokenize_line (h.isSafe_words verb)
  have solid : Text.isBlank r.command = false := by
    obtain ⟨rest, begins⟩ := r.exists_command_cons
    have visible : Chars.isBlank 'c' = false := by decide
    rw [Text.isBlank, begins, List.all_cons, visible, Bool.false_and]
  have program : Shell.isProgramName "curl" = true := by decide
  unfold Shell.arguments
  rw [solid, if_neg Bool.false_ne_true, command, read, words]
  simp only [List.cons_append, List.map_cons, CommandWord.bare, program, if_true, List.tail_cons]

end IsJoined

namespace IsDescribable

variable {r : CapturedRequest}

theorem isJoined (h : r.IsDescribable) : r.IsJoined := h.joined

theorem clean_givenHeaders (h : r.IsDescribable) :
    ∀ header ∈ r.givenHeaders, Command.IsCleanHeader header := by
  intro header mem
  rcases mem_givenHeaders mem with captured | ⟨d, hd, given, rfl⟩
  · exact h.clean header captured
  · have named : "Content-Type" ≠ "" := by decide
    have nameTrimmed : Text.trim "Content-Type" = "Content-Type" := by decide
    have nameWithoutColon : ':' ∉ "Content-Type".toList := by decide
    exact ⟨named, nameTrimmed, nameWithoutColon, given, h.mimeTrimmed d hd⟩

end IsDescribable

end CapturedRequest

end RequestScribe
