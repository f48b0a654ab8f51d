import RequestScribe.Proofs.Command.Family
import RequestScribe.Proofs.Command.Headers

/-!
# What lets a request in

A draft keeps what the Authorization header says beside the headers.  Whatever is set, emptied
or removed, this is what the header there is at the end says.  The last user takes precedence
over the last bearer token, and that over the header.
-/

namespace RequestScribe

/-- User and password of a user option: separated by the first colon, if there is one. -/
def Authorization.IsSplit (user name password : String) : Prop :=
  ':' ∉ name.toList ∧ (user = name ++ ":" ++ password ∨ user = name ∧ password = "")

theorem Authorization.exists_ofUser (user : String) :
    ∃ name password, ofUser user = .basic name password ∧ IsSplit user name password := by
  by_cases colon : ':' ∈ user.toList
  · obtain ⟨name, password, text, first⟩ := List.eq_append_cons_of_mem colon
    have line : user.toList =
        (String.ofList name).toList ++ ':' :: (String.ofList password).toList := by
      simpa using text
    have first : ':' ∉ (String.ofList name).toList := by simpa using first
    refine ⟨String.ofList name, String.ofList password, ?_, first, .inl ?_⟩
    · simp only [ofUser, Text.cut?_append first line]
    · rw [← String.toList_inj, line]
      simp
  · have whole : Text.cut? ':' user = none := by simp [Text.cut?, Chars.cut?_eq_none colon]
    exact ⟨user, "", by simp only [ofUser, whole], colon, .inr ⟨rfl, rfl⟩⟩

namespace Command

namespace Item

def argument? (flag : Flag) : Item → Option String
  | .option flag' value => if flag' = flag then some value else none
  | _ => none

def last? (flag : Flag) (items : List Item) : Option String :=
  (items.filterMap (argument? flag)).getLast?

end Item

namespace Draft

/-! ## Users and tokens -/

section Last

variable {look : Draft → Option String} {flag : Flag} {f : Family}
  (unnoted : ∀ d notes, look (d.note notes) = look d)
  (elsewhere : ∀ d g, g ≠ f → ∀ change, look (d.modify g change) = look d)
  (family : flag.family? = some f)
  (only : ∀ item : Item, item.family? = some f → ∃ value, item = .option flag value)
  (written : ∀ d value, look (applyOption d flag value) = some value)

include unnoted elsewhere family only written

theorem look_apply (d : Draft) (item : Item) :
    look (d.apply item) = (item.argument? flag).or (look d) := by
  by_cases own : item.family? = some f
  · obtain ⟨value, rfl⟩ := only item own
    rw [Item.argument?, if_pos rfl, Option.some_or]
    exact written d value
  · have silent : item.argument? flag = none := by
      cases item with
      | option flag' value =>
          have other : flag' ≠ flag := by
            rintro rfl
            exact own family
          exact if_neg other
      | _ => rfl
    rw [silent, Option.none_or]
    exact apply_frame unnoted elsewhere own d

/-- What only one option overwrites is what its last argument says. -/
theorem look_foldl_apply (items : List Item) (d : Draft) :
    look (items.foldl apply d) = (Item.last? flag items).or (look d) := by
  have step := look_apply unnoted elsewhere family only written
  induction items generalizing d with
  | nil => rfl
  | cons item rest ih =>
      rw [List.foldl_cons, ih, step, ← Option.or_assoc, Item.last?, Item.last?, List.filterMap_cons]
      cases item.argument? flag with
      | none => simp
      | some value =>
          rw [List.getLast?_cons]
          cases (rest.filterMap (Item.argument? flag)).getLast? <;> rfl

end Last

theorem user?_ofItems (items : List Item) : (ofItems items).user? = Item.last? .user items := by
  have elsewhere (d : Draft) (g : Family) (apart : g ≠ .user) (change : g.State → g.State) :
      (d.modify g change).user? = d.user? := by
    cases g <;> first | rfl | exact absurd rfl apart
  have only (item : Item) (own : item.family? = some .user) :
      ∃ value, item = .option .user value := by
    cases item with
    | option flag value => exact ⟨value, by cases flag <;> first | rfl | cases own⟩
    | _ => cases own
  have last := look_foldl_apply (fun _ _ => rfl) elsewhere rfl only (fun _ _ => rfl) items {}
  exact last.trans Option.or_none

theorem bearer?_ofItems (items : List Item) :
    (ofItems items).bearer? = Item.last? .bearer items := by
  have elsewhere (d : Draft) (g : Family) (apart : g ≠ .bearer) (change : g.State → g.State) :
      (d.modify g change).bearer? = d.bearer? := by
    cases g <;> first | rfl | exact absurd rfl apart
  have only (item : Item) (own : item.family? = some .bearer) :
      ∃ value, item = .option .bearer value := by
    cases item with
    | option flag value => exact ⟨value, by cases flag <;> first | rfl | cases own⟩
    | _ => cases own
  have last := look_foldl_apply (fun _ _ => rfl) elsewhere rfl only (fun _ _ => rfl) items {}
  exact last.trans Option.or_none

/-! ## The Authorization header -/

/-- Whether a draft knows what its Authorization header says. -/
def HasRead (d : Draft) : Prop :=
  d.headerAuthorization? = (d.headers.find? "Authorization").bind Authorization.ofHeader?

theorem addCookies_eq (d : Draft) (raw : String) :
    ∃ cookies warnings, d.addCookies raw = { d with cookies, warnings } := by
  unfold addCookies
  split
  · exact ⟨_, d.warnings, rfl⟩
  · exact ⟨d.cookies, _, rfl⟩

theorem HasRead.addCookies {d : Draft} (h : d.HasRead) (raw : String) :
    (d.addCookies raw).HasRead := by
  obtain ⟨cookies, warnings, added⟩ := d.addCookies_eq raw
  rw [added]
  exact h

theorem HasRead.setHeader {d : Draft} (h : d.HasRead) (name value : String) :
    (d.setHeader name value).HasRead := by
  unfold HasRead at h ⊢
  by_cases own : Text.sameIgnoringCase name "Authorization" = true
  · simp only [Draft.setHeader, if_pos own, Headers.find?_set, Option.bind_some]
  · have headers : (d.setHeader name value).headers = d.headers.set name value := by
      obtain ⟨_, _, _, set⟩ := d.setHeader_eq name value
      rw [set]
    have kept : (d.setHeader name value).headerAuthorization? = d.headerAuthorization? := by
      obtain ⟨cookies, warnings, added⟩ := d.addCookies_eq value
      simp only [Draft.setHeader, if_neg own]
      split
      · rw [added]
      · rfl
    rw [kept, headers, Headers.find?_set, if_neg own, h]

theorem HasRead.removeHeader {d : Draft} (h : d.HasRead)
    (distinct : Ordered.Distinct Text.sameIgnoringCase d.headers) (name : String) :
    (d.removeHeader name).HasRead := by
  unfold HasRead at h ⊢
  by_cases own : Text.sameIgnoringCase name "Authorization" = true
  · simp only [Draft.removeHeader, if_pos own, Headers.find?_erase distinct, Option.bind_none]
  · simp only [Draft.removeHeader, if_neg own, Headers.find?_erase distinct, h]

theorem HasRead.addHeader {d : Draft} (h : d.HasRead)
    (distinct : Ordered.Distinct Text.sameIgnoringCase d.headers) (raw : String) :
    (d.addHeader raw).HasRead := by
  unfold Draft.addHeader
  split
  · next name value _ =>
      dsimp only
      split
      · exact h
      · split
        · exact h.removeHeader distinct (Text.trim name)
        · exact h.setHeader (Text.trim name) (Text.trim value)
  · split
    · next name _ => exact h.setHeader (Text.trim name) ""
    · exact h

theorem HasRead.apply {d : Draft} (h : d.HasRead)
    (distinct : Ordered.Distinct Text.sameIgnoringCase d.headers) (item : Item) :
    (d.apply item).HasRead := by
  -- Only options that edit headers touch either side.
  have frame {item : Item} (other : item.family? ≠ some .headers) : (d.apply item).HasRead := by
    have same : HasRead (d.apply item) = HasRead d := by
      refine apply_frame (fun _ _ => rfl) (fun d g apart change => ?_) other d
      cases g <;> first | rfl | exact absurd rfl apart
    exact same ▸ h
  cases item with
  | option flag value =>
      cases flag with
      | header => exact h.addHeader distinct value
      | cookie => exact h.addCookies value
      | userAgent => exact h.setHeader "User-Agent" value
      | referer => exact h.setHeader "Referer" value
      | _ => exact frame (by simp [Item.family?, Flag.family?])
  | _ => exact frame (by simp [Item.family?])

theorem distinct_ofItems (items : List Item) :
    Ordered.Distinct Text.sameIgnoringCase (ofItems items).headers := by
  rw [headers_ofItems]
  exact HeaderTable.distinct _

theorem hasRead_ofItems (items : List Item) : (ofItems items).HasRead := by
  induction items using List.reverseRecOn with
  | nil => rfl
  | append_singleton items item ih =>
      have last : ofItems (items ++ [item]) = (ofItems items).apply item := by
        rw [ofItems, List.foldl_append]
        rfl
      rw [last]
      exact ih.apply (distinct_ofItems items) item

/-- The defaults leave the Authorization header alone. -/
theorem find?_finalHeaders (d : Draft) (body? : Option Body) :
    (d.finalHeaders body?).find? "Authorization" = d.headers.find? "Authorization" := by
  have accept : Text.sameIgnoringCase "Accept" "Authorization" = false := by decide
  have type : Text.sameIgnoringCase "Content-Type" "Authorization" = false := by decide
  unfold finalHeaders
  dsimp only
  split
  · rw [Headers.find?_setDefault type]
    split
    · rw [Headers.find?_setDefault accept]
    · rfl
  · split
    · rw [Headers.find?_setDefault accept]
    · rfl

theorem finish_authorization {d : Draft} {outcome : Outcome} (h : d.finish = .ok outcome) :
    outcome.request.authorization? = d.authorization? := by
  obtain ⟨raw, -, -, rfl⟩ := finish_eq_ok_iff.1 h
  rfl

end Draft

/--
What lets a request in: the last user, split at its first colon; without one the last bearer
token; without either what its Authorization header says.
-/
theorem ofWords_authorization {words : List String} {outcome : Outcome}
    (ok : ofWords words = .ok outcome) :
    match Item.last? .user (Item.ofWords words), Item.last? .bearer (Item.ofWords words) with
    | some user, _ => ∃ name password,
        outcome.request.authorization? = some (.basic name password) ∧
          Authorization.IsSplit user name password
    | none, some token => outcome.request.authorization? = some (.bearer token)
    | none, none => outcome.request.authorization? =
        (outcome.request.header? "Authorization").bind Authorization.ofHeader? := by
  let d := Draft.ofItems (Item.ofWords words)
  have granted : outcome.request.authorization? = d.authorization? := Draft.finish_authorization ok
  have header : outcome.request.header? "Authorization" = d.headers.find? "Authorization" := by
    rw [Request.header?, (Draft.finish_heading ok).1]
    exact d.find?_finalHeaders _
  have read : d.HasRead := Draft.hasRead_ofItems _
  rw [granted, header, ← read, ← Draft.user?_ofItems, ← Draft.bearer?_ofItems]
  show match d.user?, d.bearer? with
    | some user, _ => ∃ name password, d.authorization? = some (.basic name password) ∧
        Authorization.IsSplit user name password
    | none, some token => d.authorization? = some (.bearer token)
    | none, none => d.authorization? = d.headerAuthorization?
  unfold Draft.authorization?
  cases d.user? with
  | some user =>
      obtain ⟨name, password, basic, split⟩ := Authorization.exists_ofUser user
      exact ⟨name, password, congrArg some basic, split⟩
  | none => cases d.bearer? <;> rfl

/-- A header that is set, emptied, removed and set again; and a user beside a bearer token. -/
theorem ofWords_authorization_reset :
    (∃ outcome, ofWords ["-H", "authorization: Bearer a", "-H", "AUTHORIZATION;", "-H",
        "Authorization:", "-H", "Authorization: Bearer b", "https://x.test"] = .ok outcome ∧
      outcome.request.authorization? =
        (outcome.request.header? "Authorization").bind Authorization.ofHeader?) ∧
    ∃ outcome, ofWords ["-u", "a:b:c", "--oauth2-bearer", "t", "https://x.test"] = .ok outcome ∧
      ∃ name password, outcome.request.authorization? = some (.basic name password) ∧
        Authorization.IsSplit "a:b:c" name password := by
  have header : Reading.ofWord "-H" = ⟨[], some .header⟩ := by decide
  have user : Reading.ofWord "-u" = ⟨[], some .user⟩ := by decide
  have bearer : Reading.ofWord "--oauth2-bearer" = ⟨[], some .bearer⟩ := by decide
  constructor
  · have items : Item.ofWords ["-H", "authorization: Bearer a", "-H", "AUTHORIZATION;", "-H",
        "Authorization:", "-H", "Authorization: Bearer b", "https://x.test"] =
        [.option .header "authorization: Bearer a", .option .header "AUTHORIZATION;",
          .option .header "Authorization:", .option .header "Authorization: Bearer b"] ++
          .operand "https://x.test" :: Item.ofWords [] := by
      rw [Item.ofWords_option header, Item.ofWords_option header, Item.ofWords_option header,
        Item.ofWords_option header, Item.ofWords_operand (by decide)]
      rfl
    obtain ⟨outcome, ok, -⟩ := ofWords_operand items (by decide) (by decide)
    have granted := ofWords_authorization ok
    rw [items] at granted
    exact ⟨outcome, ok, granted⟩
  · have items : Item.ofWords ["-u", "a:b:c", "--oauth2-bearer", "t", "https://x.test"] =
        [.option .user "a:b:c", .option .bearer "t"] ++
          .operand "https://x.test" :: Item.ofWords [] := by
      rw [Item.ofWords_option user, Item.ofWords_option bearer, Item.ofWords_operand (by decide)]
      rfl
    obtain ⟨outcome, ok, -⟩ := ofWords_operand items (by decide) (by decide)
    have granted := ofWords_authorization ok
    rw [items] at granted
    exact ⟨outcome, ok, granted⟩

end Command

end RequestScribe
