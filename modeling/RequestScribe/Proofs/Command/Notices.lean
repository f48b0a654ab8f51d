import RequestScribe.Proofs.Command.DataBody
import RequestScribe.Proofs.Command.Headers
import RequestScribe.Proofs.Command.Insertion

/-!
# What is noticed

A warning is about one item, or about what all items together make.  The former are those that
the items give rise to, each by itself and at its place; nothing that was noticed is forgotten.
The latter come with the completed draft.
-/

namespace RequestScribe

namespace Command

/-- Whether a warning is about one item, not about what all items together make. -/
def Warning.isAboutItem : Warning → Bool
  | .dataAndForm | .bodyFromFile _ | .invalidJson | .renderedAsBasic _ | .userAndHeader => false
  | _ => true

/-- The warnings that an item may give rise to. -/
inductive Item.Notices : Item → Warning → Prop
  | rejected {flag : Flag} {value : String} {w : Warning} (h : Rejects flag value w) :
      Notices (.option flag value) w
  /-- A Cookie header without a cookie. -/
  | cookieHeader {raw name value : String} (sets : HeaderEdit.ofLine? raw = some (.set name value))
      (cookie : Text.sameIgnoringCase name "Cookie" = true) (noEquals : '=' ∉ value.toList) :
      Notices (.option .header raw) (.cookieJar value)
  | fieldFromFile {name path : String} (separate : '=' ∉ name.toList) :
      Notices (.option .form (name ++ "=<" ++ path)) (.fieldFromFile name path)
  | unknownLong (name : String) : Notices (.unknownLong name) (.unknownLong name)
  | unknownLetter (letter : Char) : Notices (.unknownLetter letter) (.unknownLetter letter)
  | extraArgument (word : String) : Notices (.operand word) (.extraArgument word)

theorem Item.Notices.isAboutItem {item : Item} {w : Warning} (h : item.Notices w) :
    w.isAboutItem = true := by
  cases h with
  | rejected h => cases h <;> rfl
  | _ => rfl

namespace Draft

variable {d : Draft} {w : Warning}

/-! ## What one item adds -/

theorem noticed_of_warn {w' : Warning} (mem : w ∈ (d.warn w').warnings) :
    w ∈ d.warnings ∨ w = w' :=
  (List.mem_cons.1 mem).symm

theorem noticed_of_addCookies {raw : String} (mem : w ∈ (d.addCookies raw).warnings) :
    w ∈ d.warnings ∨ w = .cookieJar raw ∧ '=' ∉ raw.toList := by
  unfold addCookies at mem
  split at mem
  · exact .inl mem
  · next absent =>
      have noEquals : '=' ∉ raw.toList := by simpa [Text.hasChar] using absent
      exact (noticed_of_warn mem).imp_right fun same => ⟨same, noEquals⟩

theorem noticed_of_setHeader {name value : String} (mem : w ∈ (d.setHeader name value).warnings) :
    w ∈ d.warnings ∨
      w = .cookieJar value ∧ Text.sameIgnoringCase name "Cookie" = true ∧ '=' ∉ value.toList := by
  unfold setHeader at mem
  dsimp only at mem
  split at mem
  · exact .inl mem
  · split at mem
    · next cookie =>
        exact (noticed_of_addCookies mem).imp_right fun ⟨same, noEquals⟩ => ⟨same, cookie, noEquals⟩
    · exact .inl mem

theorem noticed_of_setHeader_other {name value : String}
    (other : Text.sameIgnoringCase name "Cookie" = false)
    (mem : w ∈ (d.setHeader name value).warnings) : w ∈ d.warnings :=
  (noticed_of_setHeader mem).resolve_right fun ⟨_, cookie, _⟩ =>
    Bool.false_ne_true (other.symm.trans cookie)

theorem warnings_removeHeader (d : Draft) (name : String) :
    (d.removeHeader name).warnings = d.warnings := by
  unfold removeHeader
  dsimp only
  split <;> rfl

theorem warnings_setUrl (d : Draft) (value : String) : (d.setUrl value).warnings = d.warnings := by
  unfold setUrl
  dsimp only
  split <;> rfl

theorem noticed_of_addHeader {raw : String} (mem : w ∈ (d.addHeader raw).warnings) :
    w ∈ d.warnings ∨ (Item.option .header raw).Notices w := by
  have byEdit {name value : String} (sets : HeaderEdit.ofLine? raw = some (.set name value))
      (mem : w ∈ (d.setHeader name value).warnings) :
      w ∈ d.warnings ∨ (Item.option .header raw).Notices w := by
    refine (noticed_of_setHeader mem).imp_right ?_
    rintro ⟨rfl, cookie, noEquals⟩
    exact .cookieHeader sets cookie noEquals
  unfold addHeader at mem
  cases cut : Text.cut? ':' raw with
  | some parts =>
      obtain ⟨name, value⟩ := parts
      obtain ⟨text, -⟩ := Text.cut?_eq_some_iff.1 cut
      have whole : raw = name ++ ":" ++ value := by simp [← String.toList_inj, text]
      simp only [cut, String.isEmpty_iff] at mem
      split at mem
      · next nameless =>
          refine (noticed_of_warn mem).imp_right ?_
          rintro rfl
          rw [whole]
          exact .rejected (.nameless (Text.trim_eq_empty_iff.1 nameless))
      · next named =>
          split at mem
          · rw [warnings_removeHeader] at mem
            exact .inl mem
          · next valued => exact byEdit (by simp [HeaderEdit.ofLine?, cut, named, valued]) mem
  | none =>
      have noColon := Text.cut?_eq_none_iff.1 cut
      simp only [cut] at mem
      split at mem
      · next name ended => exact byEdit (by simp [HeaderEdit.ofLine?, cut, ended]) mem
      · next unended =>
          have noSemicolon : raw.toList.getLast? ≠ some ';' := by
            intro last
            obtain ⟨front, text⟩ := List.getLast?_eq_some_iff.1 last
            have ended : Text.before? ";" raw = some (String.ofList front) :=
              Text.before?_eq_some_iff.2 (by simp [← String.toList_inj, text])
            exact absurd (unended.symm.trans ended) (by simp)
          refine (noticed_of_warn mem).imp_right ?_
          rintro rfl
          exact .rejected (.header noColon noSemicolon)

theorem noticed_of_addField {raw : String} {allowFiles : Bool}
    (mem : w ∈ (d.addField raw allowFiles).warnings) :
    w ∈ d.warnings ∨ w = .malformedFormField raw ∧ '=' ∉ raw.toList ∨
      allowFiles = true ∧ (Item.option .form raw).Notices w := by
  unfold addField at mem
  cases cut : Text.cut? '=' raw with
  | none =>
      simp only [cut] at mem
      have noEquals := Text.cut?_eq_none_iff.1 cut
      exact (noticed_of_warn mem).imp_right fun same => .inl ⟨same, noEquals⟩
  | some field =>
      obtain ⟨name, value⟩ := field
      obtain ⟨text, separate⟩ := Text.cut?_eq_some_iff.1 cut
      simp only [cut] at mem
      split at mem
      · exact .inl mem
      · next path file =>
          have whole : raw = name ++ "=<" ++ String.ofList path := by
            simp [← String.toList_inj, text, file]
          refine (@noticed_of_warn _ _ (.fieldFromFile name (String.ofList path)) mem).imp_right ?_
          rintro rfl
          rw [whole]
          exact .inr ⟨rfl, .fieldFromFile separate⟩
      · exact .inl mem

theorem noticed_of_applyOption {flag : Flag} {value : String}
    (mem : w ∈ (d.applyOption flag value).warnings) :
    w ∈ d.warnings ∨ (Item.option flag value).Notices w := by
  -- An option that enters its value, or rejects it.
  have reads {α : Type} (a? : Option α) {w' : Warning}
      (entered : ∀ a, a? = some a → (d.applyOption flag value).warnings = d.warnings)
      (rejects : a? = none → Rejects flag value w') :
      w ∈ d.warnings ∨ (Item.option flag value).Notices w := by
    cases read : a? with
    | some a => exact .inl (entered a read ▸ mem)
    | none =>
        rw [(rejects read).applyOption] at mem
        refine (noticed_of_warn mem).imp_right ?_
        rintro rfl
        exact .rejected (rejects read)
  cases flag with
  | url => exact .inl (warnings_setUrl d value ▸ mem)
  | header => exact noticed_of_addHeader mem
  | cookie =>
      refine (noticed_of_addCookies mem).imp_right ?_
      rintro ⟨rfl, noEquals⟩
      exact .rejected (.cookie noEquals)
  | userAgent => exact .inl (noticed_of_setHeader_other (by decide) mem)
  | referer => exact .inl (noticed_of_setHeader_other (by decide) mem)
  | form =>
      rcases noticed_of_addField mem with before | ⟨rfl, noEquals⟩ | ⟨-, noticed⟩
      · exact .inl before
      · exact .inr (.rejected (.form noEquals))
      · exact .inr noticed
  | formString =>
      rcases noticed_of_addField mem with before | ⟨rfl, noEquals⟩ | ⟨never, -⟩
      · exact .inl before
      · exact .inr (.rejected (.formString noEquals))
      · exact absurd never Bool.false_ne_true
  | method =>
      refine reads (Method.ofVerb? value) (fun m read => ?_) (fun none => .method fun m => ?_)
      · simp only [applyOption, read]
      · have every : m ∈ Method.all := by cases m <;> decide
        simpa using List.find?_eq_none.1 none m every
  | maxRedirs =>
      refine reads (int64? value) (fun n read => ?_) (fun none => .maxRedirs ?_)
      · simp only [applyOption, read]
        rfl
      · rw [← isSome_int64?, none]
        exact Bool.false_ne_true
  | maxTime =>
      refine reads (seconds? value) (fun x read => ?_) (fun none => .maxTime ?_)
      · simp only [applyOption, read]
        rfl
      · rw [← isSome_seconds?, none]
        exact Bool.false_ne_true
  | connectTimeout =>
      refine reads (seconds? value) (fun x read => ?_) (fun none => .connectTimeout ?_)
      · simp only [applyOption, read]
        rfl
      · rw [← isSome_seconds?, none]
        exact Bool.false_ne_true
  | _ => exact .inl mem

/-- What is noticed after an item was noticed before it, or the item gives rise to it. -/
theorem noticed_of_apply {item : Item} (mem : w ∈ (d.apply item).warnings) :
    w ∈ d.warnings ∨ item.Notices w := by
  cases item with
  | option flag value => exact noticed_of_applyOption mem
  | unknownLong name =>
      refine (@noticed_of_warn _ _ (.unknownLong name) mem).imp_right ?_
      rintro rfl
      exact .unknownLong name
  | unknownLetter letter =>
      refine (@noticed_of_warn _ _ (.unknownLetter letter) mem).imp_right ?_
      rintro rfl
      exact .unknownLetter letter
  | operand word =>
      rw [apply] at mem
      split at mem
      · exact .inl (warnings_setUrl d word ▸ mem)
      · refine (noticed_of_warn mem).imp_right ?_
        rintro rfl
        exact .extraArgument word

theorem noticed_of_foldl_apply {items : List Item} (mem : w ∈ (items.foldl apply d).warnings) :
    w ∈ d.warnings ∨ ∃ item ∈ items, item.Notices w := by
  induction items generalizing d with
  | nil => exact .inl mem
  | cons item rest ih =>
      rcases ih mem with first | ⟨later, inside, noticed⟩
      · exact (noticed_of_apply first).imp_right fun noticed => ⟨item, List.mem_cons_self, noticed⟩
      · exact .inr ⟨later, List.mem_cons_of_mem item inside, noticed⟩

theorem noticed_of_ofItems {items : List Item} (mem : w ∈ (ofItems items).warnings) :
    ∃ item ∈ items, item.Notices w :=
  (noticed_of_foldl_apply mem).resolve_left List.not_mem_nil

/-! ## What stays noticed -/

/-- Nothing is forgotten. -/
theorem mem_warnings_foldl_apply (mem : w ∈ d.warnings) (items : List Item) :
    w ∈ (items.foldl apply d).warnings := by
  have split : d = { d with warnings := [] }.preceded d.warnings := rfl
  rw [split, foldl_apply_preceded]
  exact List.mem_append_right _ mem

/-- A value that is not accepted is noticed, whatever stands around it. -/
theorem mem_warnings_of_rejects {items : List Item} {flag : Flag} {value : String}
    (given : .option flag value ∈ items) (h : Rejects flag value w) :
    w ∈ (ofItems items).warnings := by
  obtain ⟨front, rest, rfl⟩ := List.append_of_mem given
  rw [ofItems, List.foldl_append, List.foldl_cons, apply, h.applyOption]
  exact mem_warnings_foldl_apply List.mem_cons_self rest

/-! ## What comes with the completed draft -/

theorem isAboutItem_of_mem_payload (mem : w ∈ d.payload.warnings) : w.isAboutItem = false := by
  unfold payload at mem
  split at mem
  · dsimp only at mem
    split at mem
    · exact absurd mem List.not_mem_nil
    · exact List.mem_singleton.1 mem ▸ rfl
  · split at mem
    · exact absurd mem List.not_mem_nil
    · split at mem
      · exact absurd mem List.not_mem_nil
      · split at mem
        · exact List.mem_singleton.1 mem ▸ rfl
        · dsimp only at mem
          split at mem
          · exact List.mem_singleton.1 mem ▸ rfl
          · exact absurd mem List.not_mem_nil

theorem isAboutItem_of_mem_authorizationWarnings (mem : w ∈ d.authorizationWarnings) :
    w.isAboutItem = false := by
  unfold authorizationWarnings at mem
  split at mem
  · rcases List.mem_append.1 mem with scheme | header
    · obtain ⟨named, -, rfl⟩ := Option.map_eq_some_iff.1 (Option.mem_toList.1 scheme)
      rfl
    · split at header
      · exact List.mem_singleton.1 header ▸ rfl
      · exact absurd header List.not_mem_nil
  · exact absurd mem List.not_mem_nil

/-- Warnings about items are noticed with the items, all others when the draft is completed. -/
theorem mem_warnings_of_finish {items : List Item} {outcome : Outcome}
    (h : (ofItems items).finish = .ok outcome) (w : Warning) :
    w ∈ outcome.warnings ↔
      if w.isAboutItem then w ∈ (ofItems items).warnings
      else w ∈ (ofItems items).payload.warnings ∨ w ∈ (ofItems items).authorizationWarnings := by
  obtain ⟨-, -, warnings⟩ := payload_of_finish h
  rw [warnings, List.append_assoc, List.mem_append, List.mem_append, List.mem_reverse]
  split
  · next about =>
      refine or_iff_left ?_
      rintro (late | late)
      · exact Bool.noConfusion (about.symm.trans (isAboutItem_of_mem_payload late))
      · exact Bool.noConfusion (about.symm.trans (isAboutItem_of_mem_authorizationWarnings late))
  · next about =>
      refine or_iff_right fun early => about ?_
      obtain ⟨item, -, noticed⟩ := noticed_of_ofItems early
      exact noticed.isAboutItem

end Draft

end Command

end RequestScribe
