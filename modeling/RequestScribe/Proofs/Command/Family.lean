import RequestScribe.Command.Draft
import RequestScribe.Command.Parse

/-!
# Families of options

The options of a family change one part of a draft, and every part belongs to one family.
What an option makes of its part depends on that part alone, and what it notices does not
depend on the draft at all.  So steps of different families may change places, except that
their warnings do so too.  What is noticed early comes out in front of what is noticed later,
and changes nothing else.
-/

namespace RequestScribe

inductive Transport.Setting where
  | challenge
  | redirects
  | redirectLimit
  | time
  | connectTime
  | insecure
  | compressed
  | proxy
  | cert
  | key
  | cacert
  | version
  deriving DecidableEq, Repr

namespace Transport

def Setting.State : Setting → Type
  | .challenge => Option AuthScheme
  | .redirectLimit => Option Nat
  | .time | .connectTime => Option Binary64
  | .proxy | .cert | .key | .cacert => Option String
  | .version => Option HttpVersion
  | .redirects | .insecure | .compressed => Bool

def modify (t : Transport) : (s : Setting) → (s.State → s.State) → Transport
  | .challenge, change => { t with authScheme? := change t.authScheme? }
  | .redirects, change => { t with followRedirects := change t.followRedirects }
  | .redirectLimit, change => { t with maxRedirects? := change t.maxRedirects? }
  | .time, change => { t with timeout? := change t.timeout? }
  | .connectTime, change => { t with connectTimeout? := change t.connectTimeout? }
  | .insecure, change => { t with insecure := change t.insecure }
  | .compressed, change => { t with compressed := change t.compressed }
  | .proxy, change => { t with proxy? := change t.proxy? }
  | .cert, change => { t with cert? := change t.cert? }
  | .key, change => { t with key? := change t.key? }
  | .cacert, change => { t with cacert? := change t.cacert? }
  | .version, change => { t with httpVersion? := change t.httpVersion? }

theorem modify_id (t : Transport) (s : Setting) : t.modify s id = t := by
  cases s <;> rfl

theorem modify_modify (t : Transport) (s : Setting) (change change' : s.State → s.State) :
    (t.modify s change).modify s change' = t.modify s (change' ∘ change) := by
  cases s <;> rfl

theorem modify_comm (t : Transport) {s s' : Setting} (apart : s ≠ s')
    (change : s.State → s.State) (change' : s'.State → s'.State) :
    (t.modify s change).modify s' change' = (t.modify s' change').modify s change := by
  cases s <;> cases s' <;> first | rfl | exact absurd rfl apart

end Transport

namespace Command

inductive Family where
  | address
  | method
  | head
  | get
  | headers
  | data
  | form
  | user
  | bearer
  | transport (setting : Transport.Setting)
  deriving DecidableEq, Repr

def Family.State : Family → Type
  | .method => Option Method
  | .headers => Headers × Option Authorization × List (String × String)
  | .data => List DataPart × Bool
  | .form => Multipart
  | .address | .user | .bearer => Option String
  | .head | .get => Bool
  | .transport setting => setting.State

end Command

def Flag.family? : Flag → Option Command.Family
  | .url => some .address
  | .method => some .method
  | .head => some .head
  | .get => some .get
  | .header | .userAgent | .referer | .cookie => some .headers
  | .data | .dataRaw | .dataBinary | .dataUrlencode | .json => some .data
  | .form | .formString => some .form
  | .user => some .user
  | .bearer => some .bearer
  | .digest | .ntlm => some (.transport .challenge)
  | .location | .locationTrusted => some (.transport .redirects)
  | .maxRedirs => some (.transport .redirectLimit)
  | .maxTime => some (.transport .time)
  | .connectTimeout => some (.transport .connectTime)
  | .insecure => some (.transport .insecure)
  | .compressed => some (.transport .compressed)
  | .proxy => some (.transport .proxy)
  | .cert => some (.transport .cert)
  | .key => some (.transport .key)
  | .cacert => some (.transport .cacert)
  | .http10 | .http11 | .http2 | .http3 => some (.transport .version)
  | .basic | .ignored | .ignoredWithArgument => none

namespace Command

namespace Draft

/-! ## Changes of one part -/

def modify (d : Draft) : (f : Family) → (f.State → f.State) → Draft
  | .address, change => { d with url? := change d.url? }
  | .method, change => { d with method? := change d.method? }
  | .head, change => { d with head := change d.head }
  | .get, change => { d with get := change d.get }
  | .headers, change =>
      let x := change (d.headers, d.headerAuthorization?, d.cookies)
      { d with headers := x.1, headerAuthorization? := x.2.1, cookies := x.2.2 }
  | .data, change =>
      let x := change (d.data, d.json)
      { d with data := x.1, json := x.2 }
  | .form, change => { d with form := change d.form }
  | .user, change => { d with user? := change d.user? }
  | .bearer, change => { d with bearer? := change d.bearer? }
  | .transport setting, change => d.mapTransport fun t => t.modify setting change

/-- The draft with more warnings, the latest first. -/
def note (d : Draft) (notes : List Warning) : Draft :=
  { d with warnings := notes ++ d.warnings }

theorem modify_id (d : Draft) (f : Family) : d.modify f id = d := by
  cases f with
  | transport setting =>
      exact congrArg (fun t => { d with transport := t }) (d.transport.modify_id setting)
  | _ => rfl

theorem modify_modify (d : Draft) (f : Family) (change change' : f.State → f.State) :
    (d.modify f change).modify f change' = d.modify f (change' ∘ change) := by
  cases f with
  | transport setting =>
      exact congrArg (fun t => { d with transport := t })
        (d.transport.modify_modify setting change change')
  | _ => rfl

theorem modify_comm (d : Draft) {f g : Family} (apart : f ≠ g) (change : f.State → f.State)
    (change' : g.State → g.State) :
    (d.modify f change).modify g change' = (d.modify g change').modify f change := by
  cases f with
  | transport setting =>
      cases g with
      | transport setting' =>
          have settings : setting ≠ setting' := fun same => apart (congrArg _ same)
          exact congrArg (fun t => { d with transport := t })
            (d.transport.modify_comm settings change change')
      | _ => rfl
  | _ => cases g <;> first | rfl | exact absurd rfl apart

theorem modify_note (d : Draft) (f : Family) (change : f.State → f.State) (notes : List Warning) :
    (d.note notes).modify f change = (d.modify f change).note notes := by
  cases f <;> rfl

end Draft

/-! ## What an option does -/

/-- A step that changes the part of a family by what is in it, and always notes the same. -/
def Confined (f : Family) (step : Draft → Draft) : Prop :=
  ∃ (change : f.State → f.State) (notes : List Warning),
    ∀ d, step d = (d.modify f change).note notes

namespace Confined

variable {f g : Family} {step step' : Draft → Draft}

theorem congr (h : Confined f step) (same : ∀ d, step' d = step d) : Confined f step' := by
  obtain ⟨change, notes, spec⟩ := h
  exact ⟨change, notes, fun d => (same d).trans (spec d)⟩

theorem warn (f : Family) (w : Warning) : Confined f fun d => d.warn w :=
  ⟨id, [w], fun d => by rw [d.modify_id f]; rfl⟩

theorem andThen (h : Confined f step) (h' : Confined f step') :
    Confined f fun d => step' (step d) := by
  obtain ⟨change, notes, spec⟩ := h
  obtain ⟨change', notes', spec'⟩ := h'
  refine ⟨change' ∘ change, notes' ++ notes, fun d => ?_⟩
  show step' (step d) = _
  rw [spec', spec, Draft.modify_note, Draft.modify_modify]
  simp only [Draft.note, List.append_assoc]

/-- A step that enters what it can read, and warns otherwise. -/
theorem reads {α : Type} (a? : Option α) (enter : α → f.State) (w : Warning)
    (entered : ∀ a, a? = some a → ∀ d, step d = d.modify f fun _ => enter a)
    (refused : a? = none → ∀ d, step d = d.warn w) : Confined f step := by
  cases h : a? with
  | none => exact (Confined.warn f w).congr (refused h)
  | some a => exact ⟨fun _ => enter a, [], entered a h⟩

end Confined

namespace Draft

theorem confined_setUrl (value : String) : Confined .address fun d => d.setUrl value := by
  let entered (url? : Option String) : Option String :=
    if url?.isSome || (Text.trim value).isEmpty then url?
    else some (Url.withScheme (Text.trim value))
  refine ⟨entered, [], fun d => ?_⟩
  show d.setUrl value = { d with url? := entered d.url? }
  unfold setUrl
  dsimp only [entered]
  split <;> rfl

theorem confined_addCookies (raw : String) : Confined .headers fun d => d.addCookies raw := by
  by_cases pairs : Text.hasChar '=' raw = true
  · refine ⟨fun x => (x.1, x.2.1, Ordered.enter (· == ·) x.2.2 (cookiePairs raw)), [], fun d => ?_⟩
    show d.addCookies raw = _
    rw [addCookies, if_pos pairs]
    rfl
  · refine (Confined.warn .headers (.cookieJar raw)).congr fun d => ?_
    show d.addCookies raw = _
    rw [addCookies, if_neg pairs]

theorem confined_headers (change : Headers → Headers) :
    Confined .headers fun d => { d with headers := change d.headers } :=
  ⟨fun x => (change x.1, x.2), [], fun _ => rfl⟩

theorem confined_headerAuthorization (read? : Option Authorization) :
    Confined .headers fun d => { d with headerAuthorization? := read? } :=
  ⟨fun x => (x.1, read?, x.2.2), [], fun _ => rfl⟩

theorem confined_setHeader (name value : String) :
    Confined .headers fun d => d.setHeader name value := by
  have set := confined_headers fun headers => headers.set name value
  by_cases authorization : Text.sameIgnoringCase name "Authorization" = true
  · have read := confined_headerAuthorization (Authorization.ofHeader? value)
    refine (read.andThen set).congr fun d => ?_
    simp only [setHeader, if_pos authorization]
  · by_cases cookie : Text.sameIgnoringCase name "Cookie" = true
    · refine ((confined_addCookies value).andThen set).congr fun d => ?_
      simp only [setHeader, if_neg authorization, if_pos cookie]
    · refine set.congr fun d => ?_
      simp only [setHeader, if_neg authorization, if_neg cookie]

theorem confined_removeHeader (name : String) : Confined .headers fun d => d.removeHeader name := by
  have erase := confined_headers fun headers => headers.erase name
  by_cases authorization : Text.sameIgnoringCase name "Authorization" = true
  · refine ((confined_headerAuthorization none).andThen erase).congr fun d => ?_
    simp only [removeHeader, if_pos authorization]
  · refine erase.congr fun d => ?_
    simp only [removeHeader, if_neg authorization]

theorem confined_addHeader (raw : String) : Confined .headers fun d => d.addHeader raw := by
  unfold addHeader
  cases Text.cut? ':' raw with
  | none =>
      cases Text.before? ";" raw with
      | none => exact Confined.warn .headers (.malformedHeader raw)
      | some name => exact confined_setHeader (Text.trim name) ""
  | some parts =>
      obtain ⟨name, value⟩ := parts
      dsimp only
      cases (Text.trim name).isEmpty with
      | true => exact Confined.warn .headers (.malformedHeader raw)
      | false =>
          cases (Text.trim value).isEmpty with
          | true => exact confined_removeHeader (Text.trim name)
          | false => exact confined_setHeader (Text.trim name) (Text.trim value)

theorem confined_addField (raw : String) (allowFiles : Bool) :
    Confined .form fun d => d.addField raw allowFiles := by
  have add (part : FormPart) : Confined .form fun d => d.addPart part :=
    ⟨fun form => form.add part, [], fun _ => rfl⟩
  unfold addField
  cases Text.cut? '=' raw with
  | none => exact Confined.warn .form (.malformedFormField raw)
  | some field =>
      obtain ⟨name, value⟩ := field
      dsimp only
      split
      · next spec _ => exact add (.file (uploadOf name (String.ofList spec)))
      · next path _ =>
          have warned := Confined.warn .form (.fieldFromFile name (String.ofList path))
          exact warned.andThen (add (.text name value))
      · exact add (.text name value)

/-- An option changes the part of its family only. -/
theorem confined_applyOption {flag : Flag} {f : Family} (family : flag.family? = some f)
    (value : String) : Confined f fun d => d.applyOption flag value := by
  cases flag with
  | basic | ignored | ignoredWithArgument => cases family
  | url => cases family; exact confined_setUrl value
  | header => cases family; exact confined_addHeader value
  | userAgent => cases family; exact confined_setHeader "User-Agent" value
  | referer => cases family; exact confined_setHeader "Referer" value
  | cookie => cases family; exact confined_addCookies value
  | form => cases family; exact confined_addField value true
  | formString => cases family; exact confined_addField value false
  | data => cases family; exact ⟨fun x => (⟨.plain, value⟩ :: x.1, x.2), [], fun _ => rfl⟩
  | dataRaw => cases family; exact ⟨fun x => (⟨.raw, value⟩ :: x.1, x.2), [], fun _ => rfl⟩
  | dataBinary => cases family; exact ⟨fun x => (⟨.binary, value⟩ :: x.1, x.2), [], fun _ => rfl⟩
  | dataUrlencode =>
      cases family; exact ⟨fun x => (⟨.urlEncode, value⟩ :: x.1, x.2), [], fun _ => rfl⟩
  | json => cases family; exact ⟨fun x => (⟨.plain, value⟩ :: x.1, true), [], fun _ => rfl⟩
  | head | get | location | locationTrusted | insecure | compressed =>
      cases family; exact ⟨fun _ => true, [], fun _ => rfl⟩
  | user | bearer | proxy | cert | key | cacert =>
      cases family; exact ⟨fun _ => some value, [], fun _ => rfl⟩
  | digest => cases family; exact ⟨fun _ => some .digest, [], fun _ => rfl⟩
  | ntlm => cases family; exact ⟨fun _ => some .ntlm, [], fun _ => rfl⟩
  | http10 => cases family; exact ⟨fun _ => some .v1_0, [], fun _ => rfl⟩
  | http11 => cases family; exact ⟨fun _ => some .v1_1, [], fun _ => rfl⟩
  | http2 => cases family; exact ⟨fun _ => some .v2, [], fun _ => rfl⟩
  | http3 => cases family; exact ⟨fun _ => some .v3, [], fun _ => rfl⟩
  | method =>
      cases family
      refine .reads (Method.ofVerb? value) some (.unknownMethod value)
        (fun x read d => ?_) (fun none d => ?_)
      · simp only [applyOption, read]
        rfl
      · simp only [applyOption, none]
  | maxRedirs =>
      cases family
      refine .reads (int64? value) redirectLimit (.invalidMaxRedirs value)
        (fun x read d => ?_) (fun none d => ?_)
      · simp only [applyOption, read]
        rfl
      · simp only [applyOption, none]
  | maxTime =>
      cases family
      refine .reads (seconds? value) some (.invalidMaxTime value)
        (fun x read d => ?_) (fun none d => ?_)
      · simp only [applyOption, read]
        rfl
      · simp only [applyOption, none]
  | connectTimeout =>
      cases family
      refine .reads (seconds? value) some (.invalidConnectTimeout value)
        (fun x read d => ?_) (fun none d => ?_)
      · simp only [applyOption, read]
        rfl
      · simp only [applyOption, none]

/-- An option without a family does nothing. -/
theorem applyOption_of_no_family {flag : Flag} (idle : flag.family? = none) (d : Draft)
    (value : String) : d.applyOption flag value = d := by
  cases flag with
  | basic | ignored | ignoredWithArgument => rfl
  | _ => cases idle

end Draft

/-! ## What an item leaves alone -/

def Item.family? : Item → Option Family
  | .option flag _ => flag.family?
  | .operand _ => some .address
  | .unknownLong _ | .unknownLetter _ => none

section Frame

variable {α : Type} {look : Draft → α} {f : Family}
  (unnoted : ∀ d notes, look (d.note notes) = look d)
  (elsewhere : ∀ d g, g ≠ f → ∀ change, look (d.modify g change) = look d)

include unnoted elsewhere

theorem Confined.frame {g : Family} {step : Draft → Draft} (h : Confined g step) (other : g ≠ f)
    (d : Draft) : look (step d) = look d := by
  obtain ⟨change, notes, spec⟩ := h
  rw [spec, unnoted, elsewhere d g other]

/-- What shows one part only is left alone by the items of all other families. -/
theorem Draft.apply_frame {item : Item} (other : item.family? ≠ some f) (d : Draft) :
    look (d.apply item) = look d := by
  have warn (w : Warning) : look (d.warn w) = look d := unnoted d [w]
  cases item with
  | option flag value =>
      cases family : flag.family? with
      | none => exact congrArg look (d.applyOption_of_no_family family value)
      | some g =>
          have apart : g ≠ f := fun same => other (family.trans (congrArg some same))
          exact (Draft.confined_applyOption family value).frame unnoted elsewhere apart d
  | unknownLong name => exact warn (.unknownLong name)
  | unknownLetter letter => exact warn (.unknownLetter letter)
  | operand word =>
      have apart : Family.address ≠ f := fun same => other (congrArg some same)
      rw [Draft.apply]
      split
      · exact (Draft.confined_setUrl word).frame unnoted elsewhere apart d
      · exact warn (.extraArgument word)

end Frame

end Command

/-! ## What was noticed before -/

namespace Command

def Outcome.preceded (outcome : Outcome) (earlier : List Warning) : Outcome :=
  { outcome with warnings := earlier ++ outcome.warnings }

namespace Draft

def preceded (d : Draft) (earlier : List Warning) : Draft :=
  { d with warnings := d.warnings ++ earlier }

theorem modify_preceded (d : Draft) (f : Family) (change : f.State → f.State)
    (earlier : List Warning) :
    (d.preceded earlier).modify f change = (d.modify f change).preceded earlier := by
  cases f <;> rfl

end Draft

theorem Confined.preceded {f : Family} {step : Draft → Draft} (h : Confined f step) (d : Draft)
    (earlier : List Warning) : step (d.preceded earlier) = (step d).preceded earlier := by
  obtain ⟨change, notes, spec⟩ := h
  rw [spec, spec, Draft.modify_preceded]
  simp only [Draft.note, Draft.preceded, List.append_assoc]

namespace Draft

theorem apply_preceded (d : Draft) (earlier : List Warning) (item : Item) :
    (d.preceded earlier).apply item = (d.apply item).preceded earlier := by
  cases item with
  | option flag value =>
      cases family : flag.family? with
      | none =>
          show (d.preceded earlier).applyOption flag value = (d.applyOption flag value).preceded _
          rw [applyOption_of_no_family family, applyOption_of_no_family family]
      | some f => exact (confined_applyOption family value).preceded d earlier
  | unknownLong name => rfl
  | unknownLetter letter => rfl
  | operand word =>
      have address : (d.preceded earlier).url? = d.url? := rfl
      simp only [apply, address]
      split
      · exact (confined_setUrl word).preceded d earlier
      · rfl

theorem foldl_apply_preceded (items : List Item) (d : Draft) (earlier : List Warning) :
    items.foldl apply (d.preceded earlier) = (items.foldl apply d).preceded earlier := by
  induction items generalizing d with
  | nil => rfl
  | cons item rest ih => rw [List.foldl_cons, List.foldl_cons, apply_preceded, ih]

theorem finish_preceded (d : Draft) (earlier : List Warning) :
    (d.preceded earlier).finish =
      d.finish.map fun outcome => outcome.preceded earlier.reverse := by
  have address : (d.preceded earlier).url? = d.url? := rfl
  unfold finish
  rw [address]
  cases d.url? with
  | none => rfl
  | some raw =>
      dsimp only
      split
      · rfl
      · simp only [Except.map, Outcome.preceded, preceded, List.reverse_append, List.append_assoc]
        rfl

theorem finish_foldl_preceded (items : List Item) (d : Draft) (earlier : List Warning) :
    (items.foldl apply (d.preceded earlier)).finish =
      (items.foldl apply d).finish.map fun outcome => outcome.preceded earlier.reverse := by
  rw [foldl_apply_preceded, finish_preceded]

end Draft

end Command

end RequestScribe
