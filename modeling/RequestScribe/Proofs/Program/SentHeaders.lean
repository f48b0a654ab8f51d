import RequestScribe.Proofs.Program.Removal

/-!
# The headers that are sent

The names that a program sends are those of the request, less the ones that are left out,
with Authorization and Cookie at the end where the request has credentials and cookies but no
header to put them in.  One value waits for an Authorization header, and the first such header
takes it: as no two headers of a request have the same name, none is sent twice.
-/

namespace RequestScribe

namespace Extraction

def needsHeader (r : Request) : Bool :=
  match r.authorization? with
  | some (.basic _ _) => false
  | some _ => true
  | none => false

/-- Whether a header of the request is sent, depending on whether a value waits for one. -/
def keeps (r : Request) (waiting : Bool) (name : String) : Bool :=
  !isLeftOut r (Text.lower name) &&
    (Text.lower name != "authorization" || r.authorization?.isNone || waiting)

theorem isSome_header?_credentials (extract : Bool) (r : Request) :
    (credentials extract r).header?.isSome = needsHeader r := by
  unfold credentials needsHeader
  rcases r.authorization? with _ | _ | _ | _ | _ <;> rfl

theorem isSome_basicAuth?_credentials (extract : Bool) (r : Request) :
    (credentials extract r).basicAuth?.isSome = true ↔
      ∃ username password, r.authorization? = some (.basic username password) := by
  unfold credentials
  rcases r.authorization? with _ | _ | _ | _ | _ <;> simp

theorem needsHeader_iff {r : Request} :
    needsHeader r = true ↔
      r.authorization? ≠ none ∧
        ∀ username password, r.authorization? ≠ some (.basic username password) := by
  unfold needsHeader
  rcases r.authorization? with _ | _ | _ | _ | _ <;> simp

namespace Pass

variable {extract : Bool} {r : Request}

def names (p : Pass) : List String :=
  p.headers.map Prod.fst

theorem names_add (p : Pass) (name : String) (value : Fragment) :
    (p.add name value).names = p.names ++ [name] := by
  simp [names, add]

/-- One header adds its name if it is kept. -/
theorem names_step (p : Pass) (name value : String) :
    (p.step extract r (name, value)).names =
      p.names ++ [name].filter (keeps r p.pending?.isSome) := by
  cases left : isLeftOut r (Text.lower name) with
  | true =>
      have dropped : keeps r p.pending?.isSome name = false := by simp [keeps, left]
      rw [step_of_leftOut left, List.filter_singleton, dropped]
      exact (List.append_nil _).symm
  | false =>
      by_cases auth : Text.lower name = "authorization"
      · cases given : r.authorization? with
        | none =>
            have kept : keeps r p.pending?.isSome name = true := by simp [keeps, left, given]
            rw [step_of_no_credentials left auth given, names_add, List.filter_singleton, kept]
            rfl
        | some credentials =>
            have waits : keeps r p.pending?.isSome name = p.pending?.isSome := by
              rw [keeps, left, given, auth]
              rfl
            rw [step_of_credentials left auth (by rw [given]; rfl), List.filter_singleton, waits]
            cases p.pending? with
            | none => exact (List.append_nil _).symm
            | some fragment => exact names_add p name fragment
      · have kept : keeps r p.pending?.isSome name = true := by simp [keeps, left, auth]
        rw [List.filter_singleton, kept]
        cases secret : isSecretHeader name with
        | true =>
            rw [step_of_secret left auth secret]
            exact names_add p name _
        | false =>
            rw [step_of_plain left auth secret]
            exact names_add p name _

theorem names_foldl_step {headers : Headers}
    (distinct : Ordered.Distinct Text.sameIgnoringCase headers) (p : Pass) :
    (headers.foldl (step extract r) p).names =
      p.names ++ (headers.map Prod.fst).filter (keeps r p.pending?.isSome) := by
  induction headers generalizing p with
  | nil => exact (List.append_nil _).symm
  | cons header rest ih =>
      obtain ⟨name, value⟩ := header
      obtain ⟨apart, later⟩ := List.pairwise_cons.1 distinct
      -- What follows an Authorization header has no further one that could want its value.
      have unchanged : (rest.map Prod.fst).filter
          (keeps r (p.step extract r (name, value)).pending?.isSome) =
            (rest.map Prod.fst).filter (keeps r p.pending?.isSome) := by
        rw [pending?_step]
        split
        · next taken =>
            refine List.filter_congr fun other mem => ?_
            obtain ⟨entry, inside, rfl⟩ := List.mem_map.1 mem
            have differs : Text.lower entry.1 ≠ "authorization" := fun same =>
              Bool.false_ne_true ((apart entry inside).symm.trans
                (Text.sameIgnoringCase_iff.2 (taken.1.trans same.symm)))
            rw [keeps, keeps, bne_iff_ne.2 differs]
            rfl
        · rfl
      rw [List.foldl_cons, ih later, names_step, unchanged, List.append_assoc,
        ← List.filter_append]
      rfl

theorem pending?_foldl_step (headers : Headers) (p : Pass) :
    (headers.foldl (step extract r) p).pending? =
      if (headers.any fun header => Text.sameIgnoringCase header.1 "Authorization") = true ∧
        r.authorization?.isSome = true then none
      else p.pending? := by
  have lowered : Text.lower "Authorization" = "authorization" := by decide
  induction headers generalizing p with
  | nil => simp
  | cons header rest ih =>
      obtain ⟨name, value⟩ := header
      rw [List.foldl_cons, ih, pending?_step, List.any_cons]
      by_cases auth : Text.lower name = "authorization"
      · by_cases given : r.authorization?.isSome = true
        · have here : Text.sameIgnoringCase name "Authorization" = true :=
            Text.sameIgnoringCase_iff.2 (auth.trans lowered.symm)
          simp only [here, auth, given, Bool.true_or, and_self, if_true, ite_self]
        · simp [given]
      · have other : Text.sameIgnoringCase name "Authorization" = false := by
          rw [Text.sameIgnoringCase, lowered]
          exact beq_false_of_ne auth
        rw [if_neg (c := Text.lower name = "authorization" ∧ _) fun both => auth both.1, other,
          Bool.false_or]

end Pass

/-- The headers at the end: credentials and cookies that no header of the request gives. -/
def closingNames (r : Request) : List String :=
  (if needsHeader r && !r.hasHeader "Authorization" then ["Authorization"] else []) ++
    if r.cookies.isEmpty || r.hasHeader "Cookie" then [] else ["Cookie"]

theorem hasHeader_eq_any (r : Request) (name : String) :
    r.hasHeader name = r.headers.any fun header => Text.sameIgnoringCase header.1 name := by
  rw [Bool.eq_iff_iff, Request.hasHeader, Request.header?, Headers.find?,
    Option.isSome_iff_ne_none, Ne, ← Ordered.absent_iff_find?, List.any_eq_true]
  simp [Ordered.Absent]

theorem names_closing (r : Request) (p : Pass) :
    (closing r p).map Prod.fst =
      (if p.pending?.isSome then ["Authorization"] else []) ++
        if r.cookies.isEmpty || r.hasHeader "Cookie" then [] else ["Cookie"] := by
  rw [closing, List.map_append]
  congr 1
  · cases p.pending? <;> rfl
  · split <;> rfl

def Pass.start (extract : Bool) (r : Request) : Pass :=
  { pending? := (credentials extract r).header?, envVars := (credentials extract r).envVars }

def Pass.last (extract : Bool) (r : Request) : Pass :=
  r.headers.foldl (Pass.step extract r) (.start extract r)

theorem isSome_pending?_last (extract : Bool) (r : Request) :
    (Pass.last extract r).pending?.isSome = (needsHeader r && !r.hasHeader "Authorization") := by
  rw [Pass.last, Pass.pending?_foldl_step, ← hasHeader_eq_any]
  cases needed : needsHeader r with
  | true =>
      have given : r.authorization?.isSome = true :=
        Option.isSome_iff_ne_none.2 (needsHeader_iff.1 needed).1
      have start := (isSome_header?_credentials extract r).trans needed
      cases r.hasHeader "Authorization" <;> simp [given, Pass.start, start]
  | false =>
      split
      · rfl
      · exact (isSome_header?_credentials extract r).trans needed

/-- The names of the headers that are sent, in order. -/
theorem names_ofRequest (extract : Bool) {r : Request}
    (distinct : Ordered.Distinct Text.sameIgnoringCase r.headers) :
    (ofRequest extract r).headers.map Prod.fst =
      (r.headers.map Prod.fst).filter (keeps r (needsHeader r)) ++ closingNames r := by
  have own : (Pass.last extract r).headers.map Prod.fst =
      (r.headers.map Prod.fst).filter (keeps r (needsHeader r)) := by
    rw [← isSome_header?_credentials extract r]
    exact Pass.names_foldl_step distinct (.start extract r)
  calc (ofRequest extract r).headers.map Prod.fst
      = (Pass.last extract r).headers.map Prod.fst ++
          (closing r (Pass.last extract r)).map Prod.fst := List.map_append
    _ = _ := by rw [own, names_closing, isSome_pending?_last, closingNames]

/-! ## What the names are -/

section Names

variable {extract : Bool} {r : Request} {name : String}

theorem mem_names_iff (distinct : Ordered.Distinct Text.sameIgnoringCase r.headers) :
    name ∈ (ofRequest extract r).headers.map Prod.fst ↔
      (∃ header ∈ r.headers, header.1 = name ∧ keeps r (needsHeader r) name = true) ∨
        name ∈ closingNames r := by
  rw [names_ofRequest extract distinct, List.mem_append, List.mem_filter, List.mem_map]
  simp only [← and_assoc, exists_and_right]

/-- The headers at the end are none of the request's own. -/
theorem mem_closingNames (mem : name ∈ closingNames r) :
    (name = "Authorization" ∧ needsHeader r = true ∨ name = "Cookie") ∧
      r.hasHeader name = false := by
  rcases List.mem_append.1 mem with auth | cookie
  · split at auth
    · next free =>
        obtain rfl := List.mem_singleton.1 auth
        rw [Bool.and_eq_true, Bool.not_eq_true'] at free
        exact ⟨.inl ⟨rfl, free.1⟩, free.2⟩
    · exact absurd auth List.not_mem_nil
  · split at cookie
    · exact absurd cookie List.not_mem_nil
    · next free =>
        obtain rfl := List.mem_singleton.1 cookie
        rw [Bool.or_eq_true, not_or, Bool.not_eq_true, Bool.not_eq_true] at free
        exact ⟨.inr rfl, free.2⟩

theorem distinct_ofRequest (extract : Bool)
    (distinct : Ordered.Distinct Text.sameIgnoringCase r.headers) :
    Ordered.Distinct Text.sameIgnoringCase (ofRequest extract r).headers := by
  have own : (r.headers.map Prod.fst).Pairwise fun a b => Text.sameIgnoringCase a b = false :=
    List.pairwise_map.2 distinct
  have added : (closingNames r).Pairwise fun a b => Text.sameIgnoringCase a b = false := by
    have apart : Text.sameIgnoringCase "Authorization" "Cookie" = false := by decide
    unfold closingNames
    split <;> split <;> simp [apart]
  rw [Ordered.Distinct, ← List.pairwise_map (R := fun a b => Text.sameIgnoringCase a b = false),
    names_ofRequest extract distinct, List.pairwise_append]
  refine ⟨own.filter _, added, fun name mem other later => ?_⟩
  obtain ⟨header, inside, rfl⟩ := List.mem_map.1 (List.mem_filter.1 mem).1
  have absent := (mem_closingNames later).2
  rw [hasHeader_eq_any, List.any_eq_false] at absent
  exact Bool.not_eq_true _ ▸ absent header inside

theorem isLeftOut_of_mem (distinct : Ordered.Distinct Text.sameIgnoringCase r.headers)
    (mem : name ∈ (ofRequest extract r).headers.map Prod.fst) :
    isLeftOut r (Text.lower name) = false := by
  rcases (mem_names_iff distinct).1 mem with ⟨header, -, -, kept⟩ | added
  · rw [keeps, Bool.and_eq_true, Bool.not_eq_true'] at kept
    exact kept.1
  · rcases (mem_closingNames added).1 with ⟨rfl, -⟩ | rfl
    · exact isLeftOut_of_ne (by decide) (by decide)
    · exact isLeftOut_of_ne (by decide) (by decide)

/-- An Authorization header is sent for credentials that need one, or for want of credentials. -/
theorem exists_authorization_iff (distinct : Ordered.Distinct Text.sameIgnoringCase r.headers) :
    (∃ name ∈ (ofRequest extract r).headers.map Prod.fst,
        Text.sameIgnoringCase name "Authorization" = true) ↔
      needsHeader r = true ∨
        r.authorization? = none ∧ r.hasHeader "Authorization" = true := by
  have lowered : Text.lower "Authorization" = "authorization" := by decide
  have free : isLeftOut r "authorization" = false := isLeftOut_of_ne (by decide) (by decide)
  have kept_iff {name : String} (auth : Text.lower name = "authorization") :
      keeps r (needsHeader r) name = true ↔ needsHeader r = true ∨ r.authorization? = none := by
    simp [keeps, auth, free, or_comm]
  constructor
  · rintro ⟨name, mem, same⟩
    rcases (mem_names_iff distinct).1 mem with ⟨header, inside, rfl, kept⟩ | added
    · have auth := (Text.sameIgnoringCase_iff.1 same).trans lowered
      refine ((kept_iff auth).1 kept).imp_right fun absent => ⟨absent, ?_⟩
      rw [hasHeader_eq_any, List.any_eq_true]
      exact ⟨header, inside, same⟩
    · rcases (mem_closingNames added).1 with ⟨-, needed⟩ | rfl
      · exact .inl needed
      · exact absurd same (by decide)
  · intro sent
    cases given : r.hasHeader "Authorization" with
    | true =>
        have kept : needsHeader r = true ∨ r.authorization? = none := sent.imp_right And.left
        rw [hasHeader_eq_any, List.any_eq_true] at given
        obtain ⟨header, inside, same⟩ := given
        have auth := (Text.sameIgnoringCase_iff.1 same).trans lowered
        exact ⟨header.1, (mem_names_iff distinct).2
          (.inl ⟨header, inside, rfl, (kept_iff auth).2 kept⟩), same⟩
    | false =>
        have needed : needsHeader r = true := by simpa [given] using sent
        refine ⟨"Authorization", (mem_names_iff distinct).2 (.inr ?_), beq_self_eq_true _⟩
        simp [closingNames, needed, given]

end Names

end Extraction

namespace Ordered

variable {κ α : Type} {same : κ → κ → Bool}

/-- Of entries with different keys one at most has the key that is looked for. -/
theorem count_eq_one_iff
    (joins : ∀ a b key, same a key = true → same b key = true → same a b = true)
    {entries : List (κ × α)} (distinct : Distinct same entries) {key : κ} :
    (entries.countP fun entry => same entry.1 key) = 1 ↔
      ∃ entry ∈ entries, same entry.1 key = true := by
  induction entries with
  | nil => simp
  | cons entry rest ih =>
      obtain ⟨apart, later⟩ := List.pairwise_cons.1 distinct
      cases found : same entry.1 key with
      | true =>
          have none : (rest.countP fun other => same other.1 key) = 0 := by
            refine List.countP_eq_zero.2 fun other mem also => ?_
            exact Bool.false_ne_true ((apart other mem).symm.trans (joins _ _ key found also))
          rw [List.countP_cons, none, if_pos found]
          exact iff_of_true rfl ⟨entry, List.mem_cons_self, found⟩
      | false =>
          rw [List.countP_cons, if_neg (by simp [found]), Nat.add_zero, ih later]
          simp [found]

end Ordered

namespace Brief

variable {settings : Settings} {r : Request} {name : String}

theorem sends_iff_exists :
    (ofRequest settings r).sends name = true ↔
      ∃ own ∈ (Extraction.ofRequest settings.extractEnvVars r).headers.map Prod.fst,
        Text.sameIgnoringCase own name = true := by
  have names : (ofRequest settings r).sends name =
      ((Extraction.ofRequest settings.extractEnvVars r).headers.map Prod.fst).any fun own =>
        Text.sameIgnoringCase own name := by
    rw [List.any_map]
    rfl
  rw [names, List.any_eq_true]

theorem sends_of_leftOut (distinct : Ordered.Distinct Text.sameIgnoringCase r.headers)
    (left : Extraction.isLeftOut r (Text.lower name) = true) :
    (ofRequest settings r).sends name = false := by
  rw [← Bool.not_eq_true, sends_iff_exists]
  rintro ⟨own, mem, same⟩
  have kept := Extraction.isLeftOut_of_mem distinct mem
  rw [Text.sameIgnoringCase_iff.1 same, left] at kept
  exact Bool.noConfusion kept

end Brief

namespace Command

/--
No two headers that are sent have the same name, whatever its case.  The length of the content is
not among them, nor the type of a multipart body.  Credentials are sent in an Authorization header,
and in one only, unless they are a user and a password, for which there is none.
-/
theorem ofWords_sends {words : List String} {outcome : Outcome}
    (parsed : ofWords words = .ok outcome) (settings : Settings) :
    let b := Brief.ofRequest settings outcome.request
    Ordered.Distinct Text.sameIgnoringCase b.headers ∧
      b.sends "Content-Length" = false ∧
      (outcome.request.isMultipart = true → b.sends "Content-Type" = false) ∧
      (b.basicAuth?.isSome = true → b.sends "Authorization" = false) ∧
      ((∃ credentials, outcome.request.authorization? = some credentials ∧
          ∀ username password, credentials ≠ .basic username password) →
        (b.headers.countP fun header => Text.sameIgnoringCase header.1 "Authorization") = 1) := by
  intro b
  have distinct := (ofWords_headers parsed).2
  have sent : Ordered.Distinct Text.sameIgnoringCase b.headers :=
    Extraction.distinct_ofRequest _ distinct
  refine ⟨sent, ?_, fun multipart => ?_, fun native => ?_, fun shown => ?_⟩
  · exact Brief.sends_of_leftOut distinct (by simp [Extraction.isLeftOut, show
      Text.lower "Content-Length" = "content-length" by decide])
  · exact Brief.sends_of_leftOut distinct (by simp [Extraction.isLeftOut, multipart, show
      Text.lower "Content-Type" = "content-type" by decide])
  · obtain ⟨username, password, basic⟩ :=
      (Extraction.isSome_basicAuth?_credentials settings.extractEnvVars _).1 native
    rw [← Bool.not_eq_true, Brief.sends_iff_exists, Extraction.exists_authorization_iff distinct]
    rintro (needed | ⟨absent, -⟩)
    · exact (Extraction.needsHeader_iff.1 needed).2 username password basic
    · exact absurd (absent.symm.trans basic) (by simp)
  · obtain ⟨credentials, given, other⟩ := shown
    have needed : Extraction.needsHeader outcome.request = true := by
      refine Extraction.needsHeader_iff.2 ⟨by simp [given], fun username password basic => ?_⟩
      exact other username password (Option.some.inj (given.symm.trans basic))
    rw [Ordered.count_eq_one_iff Text.sameIgnoringCase_joins sent, ← List.any_eq_true]
    exact Brief.sends_iff_exists.2 ((Extraction.exists_authorization_iff distinct).2 (.inl needed))

/-- A form of its own type and length, with a token. -/
theorem ofWords_sends_form :
    let words := ["-H", "authorization: Bearer t", "-H", "Content-Type: x", "-H",
      "content-length: 3", "-F", "a=b", "https://x.test"]
    let r : Request :=
      { method := .post
        url := "https://x.test"
        headers := [("authorization", "Bearer t"), ("Content-Type", "x"), ("content-length", "3")]
        body? := some (.multipart [.text "a" "b"])
        rawBody? := none
        authorization? := some (.bearer "t")
        cookies := []
        files := []
        query := []
        transport := { userAgent? := some "curl/8.5.0" } }
    let b := Brief.ofRequest {} r
    ofWords words = .ok ⟨r, []⟩ ∧ b.sends "Content-Length" = false ∧
      b.sends "Content-Type" = false ∧
      (b.headers.countP fun header => Text.sameIgnoringCase header.1 "Authorization") = 1 := by
  intro words r b
  have parsed : ofWords words = .ok ⟨r, []⟩ := by decide +kernel
  obtain ⟨-, length, type, -, auth⟩ := ofWords_sends parsed {}
  exact ⟨parsed, length, type rfl, auth ⟨.bearer "t", rfl, by simp⟩⟩

end Command

end RequestScribe
