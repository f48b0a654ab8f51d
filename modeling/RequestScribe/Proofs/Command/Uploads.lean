import RequestScribe.Proofs.Capture.Form

/-!
# Uploads and the fields that refer to them

A multipart body refers to files by their places in the request's list of
uploads.  The places are given out while the form options are read, so the fields
that refer to files, read in order, count the uploads from the first to the last.
-/

namespace RequestScribe

namespace Command

namespace Draft

variable {d : Draft}

/-- Data never make a multipart body. -/
theorem classify_ne_multipart (text : String) (binary : Bool) (fields : List MultipartField) :
    Body.classify text binary ≠ .multipart fields := by
  unfold Body.classify
  split
  · simp
  · split
    · simp
    · split <;> simp

/-- A multipart body comes from form options. -/
theorem fields_of_payload {fields : List MultipartField}
    (given : d.payload.body? = some (.multipart fields)) :
    fields = d.form.fields.reverse := by
  unfold payload at given
  split at given
  · injection given with body
    injection body with same
    exact same.symm
  · split at given
    · cases given
    · split at given
      · cases given
      · split at given
        · injection given with body
          cases body
        · exact absurd (Option.some.inj given) (classify_ne_multipart _ _ fields)

theorem fields_of_finish {outcome : Outcome} (h : d.finish = .ok outcome)
    {fields : List MultipartField} (given : outcome.request.body? = some (.multipart fields)) :
    fields = d.form.fields.reverse := by
  obtain ⟨raw, -, -, rfl⟩ := finish_eq_ok_iff.1 h
  exact fields_of_payload given

end Draft

/--
Uploads belong to a multipart body, and its fields refer to all of them, to each
one once and in order.
-/
theorem ofWords_uploads {words : List String} {outcome : Outcome}
    (parsed : ofWords words = .ok outcome) :
    (outcome.request.files ≠ [] → ∃ fields, outcome.request.body? = some (.multipart fields)) ∧
      ∀ fields, outcome.request.body? = some (.multipart fields) →
        fields.filterMap MultipartField.index? = List.range outcome.request.files.length ∧
          fields.filterMap (fun field => field.index?.map (outcome.request.files[·]?)) =
            outcome.request.files.map some := by
  have form := Draft.isOf_form_ofItems (Item.ofWords words)
  have files := Draft.files_of_finish parsed
  refine ⟨fun uploads => ?_, fun fields multipart => ?_⟩
  · rw [files, ne_eq, List.reverse_eq_nil_iff] at uploads
    obtain ⟨index, upload, mem, -⟩ := form.exists_file uploads
    exact ⟨_, Draft.body?_of_form parsed (List.ne_nil_of_mem (List.mem_reverse.1 mem))⟩
  · have counted : fields.filterMap MultipartField.index? =
        List.range outcome.request.files.length := by
      rw [Draft.fields_of_finish parsed multipart, files, List.length_reverse]
      exact form.indexes
    refine ⟨counted, ?_⟩
    have resolved : fields.filterMap (fun field => field.index?.map (outcome.request.files[·]?)) =
        (fields.filterMap MultipartField.index?).map (outcome.request.files[·]?) := by
      rw [List.map_filterMap]
    rw [resolved, counted]
    refine List.ext_getElem (by simp) fun i _ inside => ?_
    simp at inside
    simp [inside]

/-- Two uploads with a text between them. -/
theorem ofWords_uploads_between :
    let words := ["-F", "a=@x.txt", "-F", "b=1", "-F", "c=@y.txt", "https://x.test"]
    let fields : List MultipartField := [.file 0, .text "b" "1", .file 1]
    let r : Request :=
      { method := .post
        url := "https://x.test"
        headers := []
        body? := some (.multipart fields)
        rawBody? := none
        authorization? := none
        cookies := []
        files := [⟨"a", "x.txt", none⟩, ⟨"c", "y.txt", none⟩]
        query := []
        transport := { userAgent? := some "curl/8.5.0" } }
    ofWords words = .ok ⟨r, []⟩ ∧ r.body? = some (.multipart fields) ∧
      fields.filterMap MultipartField.index? = List.range 2 := by
  intro words fields r
  have parsed : ofWords words = .ok ⟨r, []⟩ := by decide +kernel
  have uploads := ofWords_uploads parsed
  exact ⟨parsed, rfl, (uploads.2 fields rfl).1⟩

end Command

end RequestScribe
