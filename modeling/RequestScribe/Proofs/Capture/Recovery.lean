import RequestScribe.Proofs.Capture.Reading
import RequestScribe.Proofs.Command.Credentials

/-!
# Recovering a captured request from its command

The command of a captured request reads as a request with the same method,
address and body text.  The headers are the captured ones without length and
host; a content type is added to them where the body asks for one.
-/

namespace RequestScribe

namespace CapturedRequest

open Command (Item Draft)

variable {r : CapturedRequest}

def ownHeaders (r : CapturedRequest) : List (String × String) :=
  r.headers.filter fun header =>
    !(Text.sameIgnoringCase header.1 "content-length" || Text.sameIgnoringCase header.1 "host")

/-- The content type that comes after the captured headers: that of the capture, or of the text. -/
def addedContentType? (r : CapturedRequest) : Option String :=
  match r.header? "content-type", r.posted?, r.bodyText? with
  | none, some d, some text =>
      if d.mimeType = "" then (Body.classify text false).dataType.impliedContentType?
      else some d.mimeType
  | _, _, _ => none

def contentTypeHeader (type? : Option String) : List (String × String) :=
  type?.toList.map fun type => ("Content-Type", type)

theorem keptHeaders_eq (h : r.IsDescribable) : r.keptHeaders = r.ownHeaders := by
  have keeps : ∀ header ∈ r.headers, r.keepsHeader header.1 =
      !(Text.sameIgnoringCase header.1 "content-length" ||
        Text.sameIgnoringCase header.1 "host") := by
    intro header mem
    have noPseudo : Text.startsWith ":" header.1 = false := by
      have absent := (h.clean header mem).nameWithoutColon
      unfold Text.startsWith
      cases text : header.1.toList with
      | nil => rfl
      | cons c rest =>
          have differs : ':' ≠ c := by
            rintro rfl
            exact absent (text ▸ List.mem_cons_self)
          simp [List.isPrefixOf, differs]
    simp [keepsHeader, formParams_eq_nil h.withoutParams, noPseudo]
  exact List.filter_congr keeps

theorem same_contentType (name : String) :
    Text.sameIgnoringCase name "Content-Type" = Text.sameIgnoringCase name "content-type" := by
  have lower : Text.lower "Content-Type" = Text.lower "content-type" := by decide
  rw [Text.sameIgnoringCase, Text.sameIgnoringCase, lower]

theorem distinct_givenHeaders (h : r.IsDescribable) :
    Ordered.Distinct Text.sameIgnoringCase r.givenHeaders := by
  have kept : Ordered.Distinct Text.sameIgnoringCase r.keptHeaders := h.distinct.filter _
  unfold givenHeaders bodyHeader
  split
  · next d text hd htext =>
      unfold impliedHeader
      split
      · next conditions =>
          have unset := Option.isNone_iff_eq_none.1 (Bool.and_eq_true_iff.1 conditions).1
          have absent : Ordered.Absent Text.sameIgnoringCase "content-type" r.headers :=
            Ordered.absent_iff_find?.2 unset
          refine List.pairwise_append.2 ⟨kept, List.pairwise_singleton _ _, ?_⟩
          intro header mem added hadded
          obtain rfl := List.mem_singleton.1 hadded
          exact (same_contentType header.1).trans (absent header (List.mem_filter.1 mem).1)
      · rwa [List.append_nil]
  · rwa [List.append_nil]

def draft (r : CapturedRequest) (m : Method) (cookies : List (String × String))
    (warnings : List Command.Warning) : Draft :=
  { method? := if r.namesMethod then some m else none
    url? := some r.url
    headers := r.givenHeaders
    headerAuthorization? :=
      (Headers.find? r.givenHeaders "Authorization").bind Authorization.ofHeader?
    data := r.bodyText?.toList.map (Command.DataPart.mk .raw)
    cookies
    warnings }

theorem ofItems_items (h : r.IsDescribable) {m : Method} (verb : Text.upper r.method = m.verb) :
    ∃ cookies warnings, Draft.ofItems r.items = r.draft m cookies warnings := by
  have method : r.methodItems.foldl Draft.apply {} =
      { method? := if r.namesMethod then some m else none } := by
    unfold methodItems
    cases r.namesMethod with
    | false => rfl
    | true =>
        rw [verb]
        exact Draft.apply_method m.ofVerb?_verb {}
  obtain ⟨headerAuthorization?, cookies, warnings, headers⟩ :=
    Draft.foldl_header h.clean_givenHeaders
    { method? := if r.namesMethod then some m else none }
  have entered : Ordered.enter Text.sameIgnoringCase [] r.givenHeaders = r.givenHeaders :=
    Ordered.enter_of_distinct (distinct_givenHeaders h)
  have text (d : Draft) : (r.bodyText?.toList.map (Item.option .dataRaw)).foldl Draft.apply d =
      { d with data := r.bodyText?.toList.map (Command.DataPart.mk .raw) ++ d.data } := by
    cases r.bodyText? <;> rfl
  have made : Draft.ofItems r.items =
      { r.draft m cookies warnings with headerAuthorization? } := by
    unfold Draft.ofItems items
    rw [List.foldl_append, List.foldl_append, List.foldl_append, method, headers, entered, text,
      List.foldl_cons, List.foldl_nil, Draft.apply_absolute rfl h.absolute, List.append_nil]
    rfl
  have read : headerAuthorization? =
      (Headers.find? r.givenHeaders "Authorization").bind Authorization.ofHeader? := by
    have kept := Draft.hasRead_ofItems r.items
    rw [made] at kept
    exact kept
  refine ⟨cookies, warnings, ?_⟩
  rw [made, read]
  rfl

section Finish

variable (m : Method) (cookies : List (String × String)) (warnings : List Command.Warning)

theorem payload_draft : (r.draft m cookies warnings).payload =
    { body? := r.bodyText?.map fun text => Body.classify text false, rawBody? := r.bodyText? } := by
  unfold draft
  cases r.bodyText? with
  | none => rfl
  | some text =>
      have textual : (Command.DataKind.raw == Command.DataKind.binary) = false := by decide
      simp [Draft.payload, Draft.dataFile?, Draft.joinedData, Command.DataPart.filePath?,
        Command.DataPart.encoded, textual]

theorem method_draft (verb : Text.upper r.method = m.verb) :
    (r.draft m cookies warnings).method
      (r.bodyText?.map fun text => Body.classify text false) = m := by
  unfold draft Draft.method
  cases named : r.namesMethod with
  | true => rfl
  | false =>
      -- Only a GET without a body goes without its method.
      simp only [namesMethod, verb, Bool.or_eq_false_iff, bne_eq_false_iff_eq] at named
      obtain ⟨⟨get, -⟩, text⟩ := named
      have bodyless : r.bodyText? = none := by simpa using text
      rw [bodyless]
      cases m with
      | get => rfl
      | _ => exact absurd get (by decide)

theorem find?_ownHeaders (r : CapturedRequest) :
    Headers.find? r.ownHeaders "Content-Type" = r.header? "content-type" := by
  have own : Ordered.find? Text.sameIgnoringCase "content-type" r.ownHeaders =
      r.header? "content-type" := by
    apply Ordered.find?_filter
    intro header mem same
    have name : Text.lower header.1 = "content-type" :=
      (eq_of_beq same).trans (by decide)
    rw [Text.sameIgnoringCase, Text.sameIgnoringCase, name]
    decide
  exact (Ordered.find?_congr same_contentType r.ownHeaders).trans own

/-- The content type is captured as a header, follows from the text, or comes with the text. -/
theorem addedContentType?_cases (r : CapturedRequest) :
    (∃ type, r.header? "content-type" = some type ∧ r.bodyHeader = [] ∧
      r.addedContentType? = none) ∨
    (r.header? "content-type" = none ∧ r.bodyHeader = [] ∧
      r.addedContentType? = r.bodyText?.bind fun text =>
        (Body.classify text false).dataType.impliedContentType?) ∨
    ∃ type, r.header? "content-type" = none ∧ r.bodyHeader = [("Content-Type", type)] ∧
      r.addedContentType? = some type := by
  unfold addedContentType? bodyHeader impliedHeader
  cases header : r.header? "content-type" with
  | some type =>
      refine .inl ⟨type, rfl, ?_, rfl⟩
      cases r.posted? <;> cases r.bodyText? <;> rfl
  | none =>
      right
      cases hposted : r.posted? with
      | none =>
          have text : r.bodyText? = none := by rw [bodyText?, hposted]; rfl
          exact .inl ⟨rfl, rfl, by rw [text]; rfl⟩
      | some d =>
          cases r.bodyText? with
          | none => exact .inl ⟨rfl, rfl, rfl⟩
          | some text =>
              by_cases given : d.mimeType = ""
              · exact .inl ⟨rfl, by simp [given], by simp [given]⟩
              · exact .inr ⟨d.mimeType, rfl, by simp [given], by simp [given]⟩

theorem finalHeaders_draft (h : r.IsDescribable) :
    (r.draft m cookies warnings).finalHeaders
      (r.bodyText?.map fun text => Body.classify text false) =
      r.ownHeaders ++ contentTypeHeader r.addedContentType? := by
  let d := r.draft m cookies warnings
  have plain : d.json = false := rfl
  have given : d.headers = r.ownHeaders ++ r.bodyHeader := by
    rw [← keptHeaders_eq h]
    rfl
  have find : d.headers.find? "Content-Type" =
      (r.header? "content-type").or (Headers.find? r.bodyHeader "Content-Type") := by
    rw [given, ← r.find?_ownHeaders]
    exact Ordered.find?_append "Content-Type" r.ownHeaders r.bodyHeader
  rcases r.addedContentType?_cases with
    ⟨type, header, body, added⟩ | ⟨header, body, added⟩ | ⟨type, header, body, added⟩
  · have found : d.headers.find? "Content-Type" = some type := by rw [find, header]; rfl
    rw [Draft.finalHeaders_of_found plain found, given, body, added]
    rfl
  · have absent : d.headers.find? "Content-Type" = none := by rw [find, header, body]; rfl
    rw [Draft.finalHeaders_of_absent plain absent, given, body, added, Option.bind_map,
      List.append_nil]
    rfl
  · have found : d.headers.find? "Content-Type" = some type := by rw [find, header, body]; rfl
    rw [Draft.finalHeaders_of_found plain found, given, body, added]
    rfl

end Finish

/-- What a request that is read from a command has in common with the captured one. -/
structure Recovers (r : CapturedRequest) (m : Method) (q : Request) : Prop where
  method : q.method = m
  address : (q.url, q.query) = Url.splitQuery r.url
  /-- The text exactly as it was captured, unless it is empty. -/
  rawBody : q.rawBody? = (r.posted?.bind PostedData.text?).filter fun text => !text.isEmpty
  body : q.body? = r.bodyText?.map fun text => Body.classify text false
  headers : q.headers = r.ownHeaders ++ contentTypeHeader r.addedContentType?

/-- A captured request is recovered from its command. -/
theorem command_recovers (h : r.IsDescribable) {m : Method} (verb : Text.upper r.method = m.verb) :
    ∃ outcome, Command.parse r.command = .ok outcome ∧ r.Recovers m outcome.request := by
  obtain ⟨cookies, warnings, hdraft⟩ := ofItems_items h verb
  have read : Command.parse r.command = (r.draft m cookies warnings).finish := by
    unfold Command.parse Command.ofWords
    rw [h.isJoined.arguments_command verb]
    simp only [ofWords_words h.absolute h.withoutParams, hdraft]
  have nonempty : (Url.splitQuery r.url).1.isEmpty = false := by
    simpa using h.absolute.splitQuery_ne
  have address : (r.draft m cookies warnings).url? = some r.url := rfl
  rw [read]
  unfold Draft.finish
  rw [address]
  simp only [nonempty, payload_draft, method_draft m cookies warnings verb,
    finalHeaders_draft m cookies warnings h]
  exact ⟨_, rfl, rfl, rfl, r.bodyText?_eq, rfl, rfl⟩

/-- Quotes, dashes and an at sign in every place, and headers that are left out. -/
theorem command_recovers_quoted :
    let r : CapturedRequest :=
      { method := "get"
        url := "https://api.test/it's/@me?q='--'&q=2#-H"
        headers := [("HOST", "api.test"), ("-H", "--data 'a'"), ("cookie", "id='7'"),
          ("Content-Length", "9")]
        posted? := some { mimeType := "text/'plain'", text? := some "@it's -- $(x)\n" } }
    r.IsDescribable ∧ Text.upper r.method = Method.get.verb ∧
      ∃ outcome, Command.parse r.command = .ok outcome ∧ r.Recovers .get outcome.request := by
  intro r
  have absolute : Url.IsAbsolute r.url := by
    let rest := "api.test/it's/@me?q='--'&q=2#-H".toList
    have scheme : "ttps".toList.all Url.isSchemeCharacter = true := by decide
    have solid : rest.all (fun c => !Chars.isBlank c) = true := by decide
    refine ⟨'h', "ttps".toList, rest, by decide, by decide, List.all_eq_true.1 scheme,
      by decide, ?_⟩
    intro c hc
    simpa using List.all_eq_true.1 solid c hc
  have describable : r.IsDescribable :=
    { absolute
      clean := by decide
      distinct := by unfold Ordered.Distinct; decide
      mimeTrimmed := by decide
      withoutParams := by decide
      joined := by
        have noSlash : ∀ s ∈ r.strings, '\\' ∉ s.toList := by decide
        exact fun s hs => Shell.not_hasContinuation_of_not_mem (noSlash s hs) }
  have verb : Text.upper r.method = Method.get.verb := by decide
  exact ⟨describable, verb, command_recovers describable verb⟩

end CapturedRequest

end RequestScribe
