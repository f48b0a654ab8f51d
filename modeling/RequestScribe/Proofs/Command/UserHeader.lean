import RequestScribe.Proofs.Command.Credentials
import RequestScribe.Proofs.Command.Insertion
import RequestScribe.Proofs.Program.BareHeaders
import RequestScribe.Proofs.Request.BasicHeader

/-!
# A user, as an option and as a header

User and password may be given by an option of their own or by an Authorization header.  Among
items that say nothing else of what lets the request in, the two requests differ in that header
only, and nothing else is noticed.  So both commands are converted to the same program with the
same warnings.
-/

namespace RequestScribe

namespace Command

/-- Whether an item says anything of what lets the request in. -/
def Item.grants : Item → Bool
  | .option .user _ | .option .bearer _ | .option .digest _ | .option .ntlm _ => true
  | item => item.headerEdit?.any fun edit => Text.sameIgnoringCase edit.name "Authorization"

/-- What lets a request in, as far as its draft knows. -/
structure Access where
  user? : Option String := none
  bearer? : Option String := none
  header? : Option Authorization := none
  challenge? : Option AuthScheme := none

namespace Draft

/-- The draft without user and Authorization header. -/
def bare (d : Draft) : Draft :=
  { d with headers := d.headers.bare, user? := none, headerAuthorization? := none }

def access (d : Draft) : Access :=
  ⟨d.user?, d.bearer?, d.headerAuthorization?, d.transport.authScheme?⟩

/-- A step that says nothing of what lets the request in, and does not look at it. -/
structure Unrelated (step : Draft → Draft) : Prop where
  bare : ∀ d, (step d).bare = step d.bare
  access : ∀ d, (step d).access = d.access

theorem Unrelated.warn (w : Warning) : Unrelated fun d => d.warn w :=
  ⟨fun _ => rfl, fun _ => rfl⟩

theorem Unrelated.of_confined {f : Family} {step : Draft → Draft} (h : Confined f step)
    (apart : f ∉ [.user, .bearer, .headers, .transport .challenge]) : Unrelated step := by
  obtain ⟨change, notes, spec⟩ := h
  constructor
  · intro d
    rw [spec, spec]
    cases f <;> first | rfl | simp at apart
  · intro d
    rw [spec]
    cases f with
    | transport setting => cases setting <;> first | rfl | simp at apart
    | _ => first | rfl | simp at apart

theorem unrelated_addCookies (raw : String) : Unrelated fun d => d.addCookies raw := by
  constructor <;>
  · intro d
    unfold addCookies
    split <;> rfl

section Header

variable {name : String} (other : Text.sameIgnoringCase name "Authorization" = false)

include other

theorem unrelated_setHeader (value : String) : Unrelated fun d => d.setHeader name value := by
  have set (d : Draft) : ({ d with headers := d.headers.set name value } : Draft).bare =
      { d.bare with headers := d.bare.headers.set name value } := by
    have kept : (d.headers.set name value).bare = d.headers.bare.set name value := by
      rw [Headers.bare_set, other, if_neg (by simp)]
    simp only [bare, kept]
  have cookies := unrelated_addCookies value
  constructor
  · intro d
    simp only [setHeader, other, Bool.false_eq_true, if_false]
    split
    · rw [set, cookies.bare]
    · rw [set]
  · intro d
    simp only [setHeader, other, Bool.false_eq_true, if_false]
    split
    · exact cookies.access d
    · rfl

theorem unrelated_removeHeader : Unrelated fun d => d.removeHeader name := by
  constructor
  · intro d
    simp only [removeHeader, other, Bool.false_eq_true, if_false, bare,
      Headers.bare_erase other]
  · intro d
    simp only [removeHeader, other, Bool.false_eq_true, if_false]
    rfl

end Header

theorem unrelated_addHeader {raw : String}
    (other : ∀ edit, HeaderEdit.ofLine? raw = some edit →
      Text.sameIgnoringCase edit.name "Authorization" = false) :
    Unrelated fun d => d.addHeader raw := by
  simp only [addHeader_eq]
  cases line : HeaderEdit.ofLine? raw with
  | none => exact .warn (.malformedHeader raw)
  | some edit =>
      have apart := other edit line
      cases edit with
      | set name value => exact unrelated_setHeader apart value
      | remove name => exact unrelated_removeHeader apart

theorem unrelated_applyOption {flag : Flag} {value : String}
    (silent : (Item.option flag value).grants = false) :
    Unrelated fun d => d.applyOption flag value := by
  cases flag with
  | user | bearer | digest | ntlm => exact absurd silent (by simp [Item.grants])
  | header =>
      refine unrelated_addHeader fun edit line => ?_
      have none : (HeaderEdit.ofLine? value).any
          (fun edit => Text.sameIgnoringCase edit.name "Authorization") = false := silent
      rwa [line] at none
  | userAgent => exact unrelated_setHeader (by decide) value
  | referer => exact unrelated_setHeader (by decide) value
  | cookie => exact unrelated_addCookies value
  | basic | ignored | ignoredWithArgument => exact ⟨fun _ => rfl, fun _ => rfl⟩
  | _ => exact .of_confined (confined_applyOption rfl value) (by simp)

theorem unrelated_apply {item : Item} (silent : item.grants = false) :
    Unrelated fun d => d.apply item := by
  cases item with
  | option flag value => exact unrelated_applyOption silent
  | unknownLong name => exact .warn (.unknownLong name)
  | unknownLetter letter => exact .warn (.unknownLetter letter)
  | operand word =>
      have set := Unrelated.of_confined (confined_setUrl word) (by simp)
      constructor
      · intro d
        have address : d.bare.url? = d.url? := rfl
        simp only [apply, address]
        split
        · exact set.bare d
        · rfl
      · intro d
        simp only [apply]
        split
        · exact set.access d
        · rfl

theorem unrelated_foldl_apply {items : List Item}
    (silent : ∀ item ∈ items, item.grants = false) : Unrelated (items.foldl apply) := by
  induction items with
  | nil => exact ⟨fun _ => rfl, fun _ => rfl⟩
  | cons item rest ih =>
      obtain ⟨here, later⟩ := List.forall_mem_cons.1 silent
      have first := unrelated_apply here
      have others := ih later
      constructor
      · intro d
        rw [List.foldl_cons, List.foldl_cons, others.bare, first.bare]
      · intro d
        rw [List.foldl_cons, others.access, first.access]

/-! ## The completed draft -/

theorem bare_finalHeaders (d : Draft) (body? : Option Body) :
    (d.finalHeaders body?).bare = d.bare.finalHeaders body? := by
  have accept (headers : Headers) : (headers.setDefault "Accept" "application/json").bare =
      headers.bare.setDefault "Accept" "application/json" :=
    Headers.bare_setDefault (by decide) headers _
  have type (headers : Headers) (value : String) : (headers.setDefault "Content-Type" value).bare =
      headers.bare.setDefault "Content-Type" value :=
    Headers.bare_setDefault (by decide) headers value
  have json : d.bare.json = d.json := rfl
  have headers : d.bare.headers = d.headers.bare := rfl
  unfold finalHeaders
  dsimp only
  rw [json, headers]
  split
  · rw [type]
    split
    · rw [accept]
    · rfl
  · split
    · rw [accept]
    · rfl

end Draft

def Outcome.granted (o : Outcome) (authorization? : Option Authorization) : Outcome :=
  { o with request := { o.request with authorization? } }

/-- What is completed without user and header lacks nothing but these. -/
theorem Draft.finish_bare {d : Draft} (silent : d.authorizationWarnings = []) :
    d.finish.map Outcome.bare = d.bare.finish.map fun o => o.granted d.authorization? := by
  have silent' : d.bare.authorizationWarnings = [] := rfl
  have address : d.bare.url? = d.url? := rfl
  have payload : d.bare.payload = d.payload := rfl
  have agent : (d.bare.finalHeaders d.payload.body?).find? "User-Agent" =
      (d.finalHeaders d.payload.body?).find? "User-Agent" := by
    rw [← bare_finalHeaders, Headers.find?_bare (by decide)]
  unfold finish
  rw [address, payload]
  cases d.url? with
  | none => rfl
  | some raw =>
      dsimp only
      split
      · rfl
      · simp only [Except.map, Outcome.bare, Outcome.granted, Request.bare, bare_finalHeaders,
          silent, silent', agent]
        rfl

/-! ## One item among others -/

namespace Draft

section Between

variable {before after : List Item}
  (silent : ∀ item ∈ before ++ after, item.grants = false)

include silent

/-- An item that only grants something, among others that do not. -/
theorem bare_between {item : Item} (blind : ∀ d : Draft, (d.apply item).bare = d.bare) :
    (ofItems (before ++ item :: after)).bare = (ofItems (before ++ after)).bare := by
  have later := unrelated_foldl_apply fun i mem => silent i (List.mem_append_right before mem)
  rw [ofItems, ofItems, List.foldl_append, List.foldl_append, List.foldl_cons, later.bare,
    later.bare, blind]

theorem access_between (item : Item) :
    (ofItems (before ++ item :: after)).access = ((ofItems before).apply item).access := by
  have later := unrelated_foldl_apply fun i mem => silent i (List.mem_append_right before mem)
  rw [ofItems, List.foldl_append, List.foldl_cons, later.access]
  rfl

theorem access_before : (ofItems before).access = {} := by
  have earlier := unrelated_foldl_apply fun i mem => silent i (List.mem_append_left after mem)
  exact earlier.access {}

end Between

theorem granted_of_user {d : Draft} {user : String} (h : d.access = { user? := some user }) :
    d.authorization? = some (.ofUser user) ∧ d.authorizationWarnings = [] := by
  obtain ⟨given, bearer, read, challenge⟩ := Access.mk.inj h
  simp [authorization?, authorizationWarnings, given, read, challenge]

theorem granted_of_header {d : Draft} {a : Authorization} (h : d.access = { header? := some a }) :
    d.authorization? = some a ∧ d.authorizationWarnings = [] := by
  obtain ⟨user, bearer, read, -⟩ := Access.mk.inj h
  simp [authorization?, authorizationWarnings, user, bearer, read]

/-- A header line with user and password is read as these. -/
theorem addHeader_basic (d : Draft) {username : String} (noColon : ':' ∉ username.toList)
    (password : String) :
    d.addHeader ("Authorization: " ++ Authorization.basicHeader username password) =
      { d with
        headers := d.headers.set "Authorization" (Authorization.basicHeader username password)
        headerAuthorization? := some (.basic username password) } := by
  have cut : Text.cut? ':' ("Authorization: " ++ Authorization.basicHeader username password) =
      some ("Authorization", " " ++ Authorization.basicHeader username password) := by
    refine Text.cut?_append (by decide) ?_
    rw [String.toList_append, String.toList_append, String.toList_ofList, String.toList_ofList,
      String.toList_ofList]
    rfl
  have value : Text.trim (" " ++ Authorization.basicHeader username password) =
      Authorization.basicHeader username password := by
    rw [Text.trim_space_append, Authorization.trim_basicHeader]
  have name : Text.trim "Authorization" = "Authorization" := by decide
  have named : "Authorization".isEmpty = false := by decide
  have nonempty : (Authorization.basicHeader username password).isEmpty = false := by
    rw [← Bool.not_eq_true, String.isEmpty_iff, ← String.toList_inj,
      Authorization.toList_basicHeader]
    simp
  have own : Text.sameIgnoringCase "Authorization" "Authorization" = true := by decide
  simp only [addHeader, cut, value, name, nonempty, named, setHeader, own, if_true,
    Authorization.ofHeader?_basicHeader noColon, Bool.false_eq_true, if_false]

/--
User and password by an option of their own and by a header: the same outcome but for that header,
with the same credentials.
-/
theorem finish_user_or_header {before after : List Item}
    (silent : ∀ item ∈ before ++ after, item.grants = false) {username : String}
    (noColon : ':' ∉ username.toList) (password : String) :
    let byUser := ofItems (before ++ .option .user (username ++ ":" ++ password) :: after)
    let byHeader := ofItems (before ++
      .option .header ("Authorization: " ++ Authorization.basicHeader username password) :: after)
    byUser.finish.map Outcome.bare = byHeader.finish.map Outcome.bare ∧
      byUser.authorization? = some (.basic username password) ∧
      byHeader.authorization? = some (.basic username password) := by
  intro byUser byHeader
  have header (d : Draft) := d.addHeader_basic noColon password
  have alike : byUser.bare = byHeader.bare := by
    have viaUser : byUser.bare = (ofItems (before ++ after)).bare :=
      bare_between silent fun _ => rfl
    have viaHeader : byHeader.bare = (ofItems (before ++ after)).bare := by
      refine bare_between silent fun d => ?_
      rw [apply, applyOption, header d, bare, Headers.bare_set, if_pos (by decide)]
      rfl
    rw [viaUser, viaHeader]
  have accessUser : byUser.access = { user? := some (username ++ ":" ++ password) } := by
    have given : ((ofItems before).apply (.option .user (username ++ ":" ++ password))).access =
        { (ofItems before).access with user? := some (username ++ ":" ++ password) } := rfl
    rw [access_between silent, given, access_before silent]
  have accessHeader : byHeader.access = { header? := some (.basic username password) } := by
    have given : ((ofItems before).addHeader _).access =
        { (ofItems before).access with header? := some (.basic username password) } :=
      congrArg access (header (ofItems before))
    rw [access_between silent, apply, applyOption, given, access_before silent]
  obtain ⟨grantedUser, silentUser⟩ := granted_of_user accessUser
  obtain ⟨grantedHeader, silentHeader⟩ := granted_of_header accessHeader
  rw [Authorization.ofUser_colon noColon] at grantedUser
  refine ⟨?_, grantedUser, grantedHeader⟩
  rw [finish_bare silentUser, finish_bare silentHeader, alike, grantedUser, grantedHeader]

end Draft

end Command

/-! ## Conversion -/

namespace Conversion

/-- The check looks at the text of a command only to see whether it names the program. -/
theorem validate_congr {command command' : String} (written : Text.isBlank command = false)
    (written' : Text.isBlank command' = false)
    (named : Text.contains "curl" (Text.lower command) =
      Text.contains "curl" (Text.lower command')) (settings : Settings) :
    validate command settings = validate command' settings := by
  simp only [validate, written, written', named]

/-- What is generated depends on the request without its Authorization header. -/
theorem generate_congr {o o' : Command.Outcome} (same : o.bare = o'.bare)
    {username password : String}
    (basic : o.request.authorization? = some (.basic username password))
    (basic' : o'.request.authorization? = some (.basic username password)) (settings : Settings) :
    (generate settings o).code? = (generate settings o').code? ∧
      (generate settings o).failure? = (generate settings o').failure? ∧
      (generate settings o).notices = (generate settings o').notices := by
  obtain ⟨code, failure, notices⟩ := generate_bare basic settings
  obtain ⟨code', failure', notices'⟩ := generate_bare basic' settings
  rw [← code, ← failure, ← notices, same]
  exact ⟨code', failure', notices'⟩

end Conversion

/-- Results that agree after a function are the same failure, or values that agree. -/
theorem exists_of_map_eq {ε α β : Type} {f : α → β} {e e' : Except ε α}
    (same : e.map f = e'.map f) :
    (∃ failure, e = .error failure ∧ e' = .error failure) ∨
      ∃ a a', e = .ok a ∧ e' = .ok a' ∧ f a = f a' := by
  cases e with
  | error failure =>
      cases e' with
      | error failure' => exact .inl ⟨failure, rfl, congrArg _ (Except.error.inj same).symm⟩
      | ok a' => exact absurd same (by simp [Except.map])
  | ok a =>
      cases e' with
      | error failure' => exact absurd same (by simp [Except.map])
      | ok a' => exact .inr ⟨a, a', rfl, rfl, Except.ok.inj same⟩

theorem Shell.isBlank_of_arguments {command : String} {words : List String}
    (read : arguments command = .ok words) : Text.isBlank command = false := by
  by_contra blank
  rw [Bool.not_eq_false] at blank
  rw [arguments, if_pos blank] at read
  exact absurd read (by simp)

/--
Between words that say nothing else of what lets the request in, user and password may be given
by an option or by an Authorization header: both commands are converted to the same program, with
its environment variables and its documentation, and with the same warnings, or both fail alike.
Of the texts themselves only the name of the program matters, which both have or both lack.
-/
theorem convert_user_or_header {before after : List String}
    (complete : Command.Item.isComplete before = true)
    (silent : ∀ item ∈ Command.Item.ofWords before ++ Command.Item.ofWords after,
      item.grants = false)
    {username : String} (noColon : ':' ∉ username.toList) (password : String)
    {user header : List String}
    (asUser : Command.Item.Writes user .user (username ++ ":" ++ password))
    (asHeader : Command.Item.Writes header .header
      ("Authorization: " ++ Authorization.basicHeader username password))
    {byUser byHeader : String}
    (userWords : Shell.arguments byUser = .ok (before ++ user ++ after))
    (headerWords : Shell.arguments byHeader = .ok (before ++ header ++ after))
    (named : Text.contains "curl" (Text.lower byUser) =
      Text.contains "curl" (Text.lower byHeader)) (settings : Settings) :
    (convert byUser settings).code? = (convert byHeader settings).code? ∧
      (convert byUser settings).failure? = (convert byHeader settings).failure? ∧
      (convert byUser settings).warnings = (convert byHeader settings).warnings := by
  have checked := Conversion.validate_congr (Shell.isBlank_of_arguments userWords)
    (Shell.isBlank_of_arguments headerWords) named settings
  have parsedUser : Command.parse byUser = Command.ofWords (before ++ user ++ after) := by
    rw [Command.parse, userWords]
  have parsedHeader : Command.parse byHeader = Command.ofWords (before ++ header ++ after) := by
    rw [Command.parse, headerWords]
  have finished := Command.Draft.finish_user_or_header silent noColon password
  rw [← asUser.between complete, ← asHeader.between complete] at finished
  obtain ⟨same, grantedUser, grantedHeader⟩ := finished
  change (Command.ofWords _).map _ = (Command.ofWords _).map _ at same
  unfold convert Conversion.read Conversion.warnings
  rw [checked, parsedUser, parsedHeader]
  cases Conversion.validate byHeader settings with
  | error failure => exact ⟨rfl, rfl, rfl⟩
  | ok _ =>
      dsimp only
      rcases exists_of_map_eq same with
        ⟨failure, readUser, readHeader⟩ | ⟨o, o', readUser, readHeader, bare⟩
      · rw [readUser, readHeader]
        exact ⟨rfl, rfl, rfl⟩
      · have basic := (Command.Draft.finish_authorization readUser).trans grantedUser
        have basic' := (Command.Draft.finish_authorization readHeader).trans grantedHeader
        obtain ⟨code, failure, notices⟩ := Conversion.generate_congr bare basic basic' settings
        rw [readUser, readHeader]
        exact ⟨code, failure, congrArg _ notices⟩

/-- A letter and a long name, each with its value attached, between an option and the address. -/
theorem convert_user_or_header_attached :
    let byUser := convert "curl -L -uann:s3cret https://x.test" {}
    let byHeader := convert
      "curl -L '--header=Authorization: Basic YW5uOnMzY3JldA==' https://x.test" {}
    byUser.succeeded = true ∧ byUser.code? = byHeader.code? ∧
      byUser.failure? = byHeader.failure? ∧ byUser.warnings = byHeader.warnings := by
  have location : Command.Item.ofWords ["-L"] = [.option .location ""] := by
    decide +kernel
  have operand : Command.Item.ofWords ["https://x.test"] = [.operand "https://x.test"] := by
    decide +kernel
  have silent : ∀ item ∈ Command.Item.ofWords ["-L"] ++ Command.Item.ofWords ["https://x.test"],
      item.grants = false := by
    rw [location, operand]
    decide
  have line : "Authorization: " ++ Authorization.basicHeader "ann" "s3cret" =
      "Authorization: Basic YW5uOnMzY3JldA==" := by decide
  have asUser : Command.Item.Writes ["-uann:s3cret"] .user ("ann" ++ ":" ++ "s3cret") :=
    @Command.Item.Writes.letterAttached 'u' .user (by decide) rfl "ann:s3cret" (by decide)
  have asHeader : Command.Item.Writes ["--header=Authorization: Basic YW5uOnMzY3JldA=="] .header
      ("Authorization: " ++ Authorization.basicHeader "ann" "s3cret") := by
    rw [line]
    exact @Command.Item.Writes.longAttached "header" .header (by decide) rfl
      "Authorization: Basic YW5uOnMzY3JldA=="
  let userLine := "curl -L -uann:s3cret https://x.test"
  let headerLine := "curl -L '--header=Authorization: Basic YW5uOnMzY3JldA==' https://x.test"
  have userLetters : userLine.toList = _ := String.toList_ofList
  have headerLetters : headerLine.toList = _ := String.toList_ofList
  have userWords : Shell.arguments userLine = .ok ["-L", "-uann:s3cret", "https://x.test"] := by
    rw [Shell.arguments, Text.isBlank, Shell.tokenize, userLetters]
    decide +kernel
  have headerWords : Shell.arguments headerLine =
      .ok ["-L", "--header=Authorization: Basic YW5uOnMzY3JldA==", "https://x.test"] := by
    rw [Shell.arguments, Text.isBlank, Shell.tokenize, headerLetters]
    decide +kernel
  have named : Text.contains "curl" (Text.lower userLine) =
      Text.contains "curl" (Text.lower headerLine) := by
    simp only [Text.contains, Text.lower, userLetters, headerLetters, String.toList_ofList]
    decide +kernel
  exact ⟨by decide +kernel, convert_user_or_header (by decide) silent (by decide) "s3cret" asUser
    asHeader userWords headerWords named {}⟩

end RequestScribe
