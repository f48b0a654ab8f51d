import RequestScribe.Proofs.Command.Notices

/-!
# Data that are read from a file

Data that name a file are looked at when the command is complete.  If they are all the data there
are, and form the body, then the body refers to the file and a warning says so.  Next to other data,
and in the query, the reference is sent as the text that it is, and no warning mentions it.
-/

namespace RequestScribe

namespace Command

/-- Warnings about a file that is the body come with the body. -/
theorem Draft.bodyFromFile_mem_iff {items : List Item} {outcome : Outcome}
    (h : (ofItems items).finish = .ok outcome) (path : String) :
    .bodyFromFile path ∈ outcome.warnings ↔
      .bodyFromFile path ∈ (ofItems items).payload.warnings := by
  have late : .bodyFromFile path ∉ (ofItems items).authorizationWarnings := by
    unfold authorizationWarnings
    split
    · cases (ofItems items).transport.authScheme? <;>
        cases (ofItems items).headerAuthorization?.isSome <;> simp
    · exact List.not_mem_nil
  exact (mem_warnings_of_finish h _).trans (or_iff_left late)

/-- What a part with a file's path is: that path behind the sign, as it is sent. -/
theorem DataPart.spec_of_filePath? {part : DataPart} {path : String}
    (reference : part.filePath? = some path) :
    part.value = "@" ++ path ∧ part.encoded = "@" ++ path := by
  have value : part.value = "@" ++ path := by
    unfold filePath? at reference
    split at reference
    · next c more _ text =>
        obtain rfl := Option.some.inj reference
        rw [← String.toList_inj, text]
        simp
    · next c more _ text =>
        obtain rfl := Option.some.inj reference
        rw [← String.toList_inj, text]
        simp
    · cases reference
  refine ⟨value, ?_⟩
  have sent : part.encoded = part.value := by
    unfold encoded
    split
    · next kind =>
        unfold filePath? at reference
        rw [kind] at reference
        cases reference
    · rfl
  rw [sent, value]

/-- The message about a file that is the body contains the file's path. -/
theorem Warning.path_infix_message (path : String) :
    path.toList <:+: (Warning.bodyFromFile path).message.toList := by
  have text : (Warning.bodyFromFile path).message =
      "Body is read from file '" ++ path ++ "'; its contents are not inlined" := rfl
  rw [text, String.toList_append, String.toList_append]
  exact List.infix_append _ _ _

/--
A reference to a file, in a command without form fields.  If it is all the data and they are not
put into the query, the body is the file and a warning mentions its path.  Next to other data it
is part of the text that is the body, and in the query it is part of the text that joins the
query; in neither case does a warning say that the body is read from a file.
-/
theorem ofWords_fileReference {words : List String} {outcome : Outcome} {part : DataPart}
    {path : String} (parsed : ofWords words = .ok outcome)
    (noForm : (Item.ofWords words).filterMap Item.formPart? = [])
    (given : part ∈ (Item.ofWords words).filterMap Item.dataPart?)
    (reference : part.filePath? = some path) :
    let data := (Item.ofWords words).filterMap Item.dataPart?
    let text := "&".intercalate (data.map DataPart.encoded)
    let get := (Item.ofWords words).any Item.asksGet
    (get = false → data = [part] →
      outcome.request.body? = some (.file path) ∧
        outcome.request.rawBody? = some ("@" ++ path) ∧
        ∃ w ∈ outcome.warnings, path.toList <:+: w.message.toList) ∧
    (get = false → data ≠ [part] →
      outcome.request.body? =
          some (Body.classify text (data.any fun part => part.kind == .binary)) ∧
        outcome.request.rawBody? = some text ∧
        ∀ file, .bodyFromFile file ∉ outcome.warnings) ∧
    (get = true →
      outcome.request.body? = none ∧ outcome.request.rawBody? = none ∧
        Item.addedPairs (Item.ofWords words) = Form.decode text ∧
        ∀ file, .bodyFromFile file ∉ outcome.warnings) := by
  intro data text get
  obtain ⟨body, rawBody, -⟩ := Draft.payload_of_finish parsed
  have noticed := Draft.bodyFromFile_mem_iff parsed
  have content := Draft.content_ofItems (Item.ofWords words)
  simp only [Draft.content, Content.mk.injEq, noForm] at content
  have added : Item.addedPairs (Item.ofWords words) =
      if get then Form.decode text else [] := by
    simp [Item.addedPairs, noForm, get, text, data]
  generalize Draft.ofItems (Item.ofWords words) = d at content body rawBody noticed
  obtain ⟨-, hdata, form, hget⟩ := content
  have noParts : d.form.fields = [] := congrArg Multipart.fields form
  have something : d.data ≠ [] := by
    rw [hdata]
    exact mt List.reverse_eq_nil_iff.1 (List.ne_nil_of_mem given)
  have joined : d.joinedData = text := by
    rw [Draft.joinedData, hdata, List.reverse_reverse]
  refine ⟨fun noGet lone => ?_, fun noGet other => ?_, fun asked => ?_⟩
  · have file : d.dataFile? = some path := by
      have only : d.data = [part] := hdata.trans (congrArg List.reverse lone)
      rw [Draft.dataFile?, only]
      exact reference
    have sent : text = "@" ++ path := by
      simp only [text, lone]
      exact (DataPart.spec_of_filePath? reference).2
    have payload := Draft.payload_of_dataFile noParts something (hget.trans noGet) file
    rw [payload, joined, sent] at rawBody
    rw [payload] at body noticed
    exact ⟨body, rawBody, _, (noticed path).2 (List.mem_singleton.2 rfl),
      Warning.path_infix_message path⟩
  · have noFile : d.dataFile? = none := by
      unfold Draft.dataFile?
      split
      · next only single =>
          have whole : data = [only] := by
            rw [← List.reverse_reverse data, ← hdata, single]
            rfl
          have same : part = only := List.mem_singleton.1 (whole ▸ given)
          exact absurd (same ▸ whole) other
      · rfl
    have binary : (d.data.any fun part => part.kind == .binary) =
        data.any fun part => part.kind == .binary := by
      rw [hdata, List.any_reverse]
    have payload := Draft.payload_of_data noParts something (hget.trans noGet) noFile
    rw [payload, joined, binary] at body
    rw [payload, joined] at rawBody
    refine ⟨body, rawBody, fun file mem => ?_⟩
    have late := (noticed file).1 mem
    rw [payload] at late
    dsimp only at late
    split at late
    · exact absurd (List.mem_singleton.1 late) (by simp)
    · exact absurd late List.not_mem_nil
  · have payload := Draft.payload_of_get noParts something (hget.trans asked)
    rw [payload] at body rawBody
    refine ⟨body, rawBody, by rw [added, if_pos asked], fun file mem => ?_⟩
    have late := (noticed file).1 mem
    rw [payload] at late
    exact absurd late List.not_mem_nil

/-- A reference that is the body, and one in the query. -/
theorem ofWords_fileReference_alone :
    let words := ["--data-binary", "@a b", "https://x.test"]
    let sent : Request :=
      { method := .post
        url := "https://x.test"
        headers := [("Content-Type", "application/octet-stream")]
        body? := some (.file "a b")
        rawBody? := some "@a b"
        authorization? := none
        cookies := []
        files := []
        query := []
        transport := { userAgent? := some "curl/8.5.0" } }
    let asked : Request :=
      { method := .get
        url := "https://x.test"
        headers := []
        body? := none
        rawBody? := none
        authorization? := none
        cookies := []
        files := []
        query := [("@a b", "")]
        transport := { userAgent? := some "curl/8.5.0" } }
    ofWords words = .ok ⟨sent, [.bodyFromFile "a b"]⟩ ∧ sent.body? = some (.file "a b") ∧
      ofWords ("-G" :: words) = .ok ⟨asked, []⟩ ∧
      Item.addedPairs (Item.ofWords ("-G" :: words)) = Form.decode "@a b" := by
  intro words sent asked
  have parsed : ofWords words = .ok ⟨sent, [.bodyFromFile "a b"]⟩ := by decide +kernel
  have parsedGet : ofWords ("-G" :: words) = .ok ⟨asked, []⟩ := by decide +kernel
  have items : Item.ofWords words = [.option .dataBinary "@a b", .operand "https://x.test"] := by
    decide +kernel
  have itemsGet : Item.ofWords ("-G" :: words) = .option .get "" :: Item.ofWords words := by
    rw [items]
    decide +kernel
  have alone := @ofWords_fileReference words _ ⟨.binary, "@a b"⟩ "a b" parsed
    (by rw [items]; rfl) (by rw [items]; decide) (by decide)
  have inQuery := @ofWords_fileReference ("-G" :: words) _ ⟨.binary, "@a b"⟩ "a b" parsedGet
    (by rw [itemsGet, items]; rfl) (by rw [itemsGet, items]; decide) (by decide)
  obtain ⟨body, -⟩ := alone.1 (by rw [items]; rfl) (by rw [items]; rfl)
  obtain ⟨-, -, added, -⟩ := inQuery.2.2 (by rw [itemsGet, items]; rfl)
  have text : "&".intercalate (((Item.ofWords ("-G" :: words)).filterMap Item.dataPart?).map
      DataPart.encoded) = "@a b" := by
    rw [itemsGet, items]
    decide
  exact ⟨parsed, body, parsedGet, added.trans (congrArg Form.decode text)⟩

/-- Next to other data a reference is sent as text, and nothing mentions it. -/
theorem not_forall_fileReference :
    ¬∀ (words : List String) (outcome : Outcome) (part : DataPart) (path : String),
      ofWords words = .ok outcome →
      (Item.ofWords words).filterMap Item.formPart? = [] →
      part ∈ (Item.ofWords words).filterMap Item.dataPart? →
      part.filePath? = some path →
      outcome.request.body? = some (.file path) ∨
        ∃ w ∈ outcome.warnings, path.toList <:+: w.message.toList := by
  intro always
  let r : Request :=
    { method := .post
      url := "https://x.test"
      headers := [("Content-Type", "text/plain")]
      body? := some (.raw "@a&b=1")
      rawBody? := some "@a&b=1"
      authorization? := none
      cookies := []
      files := []
      query := []
      transport := { userAgent? := some "curl/8.5.0" } }
  have parsed : ofWords ["-d", "@a", "-d", "b=1", "https://x.test"] = .ok ⟨r, []⟩ := by
    decide +kernel
  rcases always _ _ ⟨.plain, "@a"⟩ "a" parsed (by decide +kernel) (by decide +kernel) (by decide)
    with body | ⟨w, mem, -⟩
  · exact absurd body (by decide)
  · exact absurd mem List.not_mem_nil

end Command

end RequestScribe
