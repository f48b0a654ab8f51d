import RequestScribe.Command.Draft
import RequestScribe.Proofs.Ordered
import RequestScribe.Proofs.Request.Url

/-!
# Steps of a draft

A header with a clean name and value is set as it was written down, and setting
headers one after the other leaves everything else that shapes the request
alone, apart from cookies.  The first absolute address is taken as it stands.
-/

namespace RequestScribe

namespace Command

/-- A name without colons and a value; neither is empty or has blanks around it. -/
structure IsCleanHeader (header : String × String) : Prop where
  named : header.1 ≠ ""
  nameTrimmed : Text.trim header.1 = header.1
  nameWithoutColon : ':' ∉ header.1.toList
  valued : header.2 ≠ ""
  valueTrimmed : Text.trim header.2 = header.2

instance (header : String × String) : Decidable (IsCleanHeader header) :=
  decidable_of_iff
    (header.1 ≠ "" ∧ Text.trim header.1 = header.1 ∧ ':' ∉ header.1.toList ∧ header.2 ≠ "" ∧
      Text.trim header.2 = header.2)
    ⟨fun ⟨h₁, h₂, h₃, h₄, h₅⟩ => ⟨h₁, h₂, h₃, h₄, h₅⟩,
      fun ⟨h₁, h₂, h₃, h₄, h₅⟩ => ⟨h₁, h₂, h₃, h₄, h₅⟩⟩

def Item.header (header : String × String) : Item :=
  .option .header (header.1 ++ ": " ++ header.2)

namespace Draft

def completed (d : Draft) (raw : String) : Outcome where
  request :=
    { method := d.method d.payload.body?
      url := (Url.splitQuery raw).1
      headers := d.finalHeaders d.payload.body?
      body? := d.payload.body?
      rawBody? := d.payload.rawBody?
      authorization? := d.authorization?
      cookies := d.cookies
      files := d.form.files.reverse
      query := Ordered.enter (· == ·) (Url.splitQuery raw).2 d.payload.queryPairs
      transport :=
        { d.transport with
          userAgent? :=
            some (((d.finalHeaders d.payload.body?).find? "User-Agent").getD defaultUserAgent) } }
  warnings := d.warnings.reverse ++ d.payload.warnings ++ d.authorizationWarnings

/-- A draft is completed if it has an address that is not a query only. -/
theorem finish_eq_ok_iff {d : Draft} {outcome : Outcome} :
    d.finish = .ok outcome ↔
      ∃ raw, d.url? = some raw ∧ (Url.splitQuery raw).1 ≠ "" ∧ outcome = d.completed raw := by
  unfold finish
  cases d.url? with
  | none => simp
  | some raw =>
      by_cases empty : (Url.splitQuery raw).1 = ""
      · simp [empty]
      · simp only [String.isEmpty_iff, empty, if_false, Except.ok.injEq, Option.some.injEq,
          exists_eq_left', ne_eq, not_false_eq_true, true_and]
        exact eq_comm

/-- Setting a header touches only headers, what is read in them, and warnings. -/
theorem setHeader_eq (d : Draft) (name value : String) :
    ∃ headerAuthorization? cookies warnings, d.setHeader name value =
      { d with
        headers := d.headers.set name value
        headerAuthorization?
        cookies
        warnings } := by
  unfold setHeader
  by_cases authorization : Text.sameIgnoringCase name "Authorization" = true
  · rw [if_pos authorization]
    exact ⟨_, d.cookies, d.warnings, rfl⟩
  · rw [if_neg authorization]
    by_cases cookie : Text.sameIgnoringCase name "Cookie" = true
    · rw [if_pos cookie, addCookies]
      split
      · exact ⟨d.headerAuthorization?, _, d.warnings, rfl⟩
      · exact ⟨d.headerAuthorization?, d.cookies, _, rfl⟩
    · rw [if_neg cookie]
      exact ⟨d.headerAuthorization?, d.cookies, d.warnings, rfl⟩

theorem addHeader_of_clean {name value : String} (clean : IsCleanHeader (name, value))
    (d : Draft) : d.addHeader (name ++ ": " ++ value) = d.setHeader name value := by
  have line : (name ++ ": " ++ value).toList = name.toList ++ ':' :: (" " ++ value).toList := by
    simp
  have cut := Text.cut?_append clean.nameWithoutColon line
  have hname : Text.trim name = name := clean.nameTrimmed
  have hvalue : Text.trim (" " ++ value) = value := by
    rw [Text.trim_space_append]
    exact clean.valueTrimmed
  have named : name.isEmpty = false := by simpa using clean.named
  have valued : value.isEmpty = false := by simpa using clean.valued
  simp [addHeader, cut, hname, hvalue, named, valued]

theorem foldl_header {headers : List (String × String)}
    (clean : ∀ header ∈ headers, IsCleanHeader header) (d : Draft) :
    ∃ headerAuthorization? cookies warnings, (headers.map Item.header).foldl apply d =
      { d with
        headers := Ordered.enter Text.sameIgnoringCase d.headers headers
        headerAuthorization?
        cookies
        warnings } := by
  induction headers generalizing d with
  | nil => exact ⟨d.headerAuthorization?, d.cookies, d.warnings, rfl⟩
  | cons header rest ih =>
      obtain ⟨name, value⟩ := header
      have here : d.apply (Item.header (name, value)) = d.setHeader name value :=
        addHeader_of_clean (clean (name, value) List.mem_cons_self) d
      obtain ⟨headerAuthorization?, cookies, warnings, set⟩ := setHeader_eq d name value
      obtain ⟨read, cookies', warnings', later⟩ :=
        ih (fun h hh => clean h (List.mem_cons_of_mem (name, value) hh))
          { d with
            headers := d.headers.set name value
            headerAuthorization?
            cookies
            warnings }
      refine ⟨read, cookies', warnings', ?_⟩
      rw [List.map_cons, List.foldl_cons, here, set, later]
      rfl

theorem apply_method {value : String} {m : Method} (known : Method.ofVerb? value = some m)
    (d : Draft) : d.apply (.option .method value) = { d with method? := some m } := by
  simp only [apply, applyOption, known]

/-- The first absolute address becomes the address of the request. -/
theorem apply_absolute {d : Draft} (unset : d.url? = none) {url : String}
    (absolute : Url.IsAbsolute url) : d.apply (.operand url) = { d with url? := some url } := by
  have nonempty : url.isEmpty = false := by
    obtain ⟨first, scheme, rest, text, -⟩ := absolute
    simp [← String.toList_inj, text]
  have set : d.setUrl url = { d with url? := some url } := by
    simp [setUrl, absolute.trim, absolute.withScheme, unset, nonempty]
  simp [apply, absolute.isRecognized, unset, set]

theorem finalHeaders_of_found {d : Draft} (plain : d.json = false) {type : String}
    (found : d.headers.find? "Content-Type" = some type) (body? : Option Body) :
    d.finalHeaders body? = d.headers := by
  unfold finalHeaders
  simp only [plain, Bool.false_eq_true, if_false]
  split
  · next implied _ => exact Ordered.setDefault_of_found found implied
  · rfl

theorem finalHeaders_of_absent {d : Draft} (plain : d.json = false)
    (absent : d.headers.find? "Content-Type" = none) (body? : Option Body) :
    d.finalHeaders body? = d.headers ++
      (body?.bind fun body => body.dataType.impliedContentType?).toList.map
        fun type => ("Content-Type", type) := by
  unfold finalHeaders
  simp only [plain, Bool.false_eq_true, if_false]
  split
  · next implied himplied =>
      rw [himplied]
      exact Ordered.setDefault_of_absent absent implied
  · next himplied =>
      rw [himplied]
      exact (List.append_nil d.headers).symm

end Draft

end Command

end RequestScribe
