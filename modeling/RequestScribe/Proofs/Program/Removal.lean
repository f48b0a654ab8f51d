import RequestScribe.Program.Brief
import RequestScribe.Proofs.Command.Headers
import RequestScribe.Proofs.Program.HeaderStep

/-!
# Headers that were removed

What a program sends is what the request has, with an Authorization header and a
Cookie header where the request has credentials and cookies but no header for
them.  So a header that an option removes, and that no later option sets, is not
sent.  Cookies are the exception: they outlive the header that they came with.
-/

namespace RequestScribe

def Brief.sends (b : Brief) (name : String) : Bool :=
  b.headers.any fun header => Text.sameIgnoringCase header.1 name

namespace Extraction

/-- One header brings at most its own name. -/
theorem Pass.name_of_mem_step {extract : Bool} {r : Request} {p : Pass} {header : String × String}
    {sent : String × Fragment} (mem : sent ∈ (p.step extract r header).headers) :
    sent ∈ p.headers ∨ sent.1 = header.1 := by
  obtain ⟨name, value⟩ := header
  have added {p' : Pass} {fragment : Fragment}
      (added : p'.headers = p.headers ++ [(name, fragment)]) (mem : sent ∈ p'.headers) :
      sent ∈ p.headers ∨ sent.1 = name := by
    rw [added] at mem
    rcases List.mem_append.1 mem with earlier | last
    · exact .inl earlier
    · obtain rfl := List.mem_singleton.1 last
      exact .inr rfl
  cases left : isLeftOut r (Text.lower name) with
  | true =>
      rw [step_of_leftOut left] at mem
      exact .inl mem
  | false =>
      by_cases auth : Text.lower name = "authorization"
      · cases given : r.authorization? with
        | none =>
            rw [step_of_no_credentials left auth given] at mem
            exact added rfl mem
        | some credentials =>
            rw [step_of_credentials left auth (by rw [given]; rfl)] at mem
            cases waiting : p.pending? with
            | none =>
                rw [waiting] at mem
                exact .inl mem
            | some fragment =>
                rw [waiting] at mem
                exact added rfl mem
      · cases secret : isSecretHeader name with
        | true =>
            rw [step_of_secret left auth secret] at mem
            exact added rfl mem
        | false =>
            rw [step_of_plain left auth secret] at mem
            exact added rfl mem

theorem Pass.name_of_mem_foldl_step {extract : Bool} {r : Request} {sent : String × Fragment}
    (headers : Headers) {p : Pass}
    (mem : sent ∈ (headers.foldl (Pass.step extract r) p).headers) :
    sent ∈ p.headers ∨ ∃ header ∈ headers, sent.1 = header.1 := by
  induction headers generalizing p with
  | nil => exact .inl mem
  | cons header rest ih =>
      rcases ih mem with first | ⟨other, inside, same⟩
      · exact (name_of_mem_step first).imp_right fun same => ⟨header, List.mem_cons_self, same⟩
      · exact .inr ⟨other, List.mem_cons_of_mem header inside, same⟩

variable {r : Request} {name : String}

/-- A name that no header has is sent for credentials and for cookies only. -/
theorem sends_iff (settings : Settings) (other : Text.sameIgnoringCase "Authorization" name = false)
    (absent : ∀ header ∈ r.headers, Text.sameIgnoringCase header.1 name = false) :
    (Brief.ofRequest settings r).sends name = true ↔
      Text.sameIgnoringCase "Cookie" name = true ∧ r.cookies ≠ [] := by
  have fresh (sent : String × Fragment)
      (mem : sent ∈ (r.headers.foldl (Pass.step settings.extractEnvVars r)
        { pending? := (credentials settings.extractEnvVars r).header?
          envVars := (credentials settings.extractEnvVars r).envVars }).headers) :
      Text.sameIgnoringCase sent.1 name = false := by
    rcases Pass.name_of_mem_foldl_step r.headers mem with start | ⟨header, inside, same⟩
    · exact absurd start List.not_mem_nil
    · rw [same]
      exact absent header inside
  have noCookieHeader (cookie : Text.sameIgnoringCase "Cookie" name = true) :
      r.hasHeader "Cookie" = false := by
    have without : Ordered.Absent Text.sameIgnoringCase "Cookie" r.headers := by
      intro header mem
      have apart := absent header mem
      rw [Text.sameIgnoringCase_iff] at cookie
      rwa [Text.sameIgnoringCase, ← cookie] at apart
    have unknown : r.header? "Cookie" = none := Ordered.absent_iff_find?.1 without
    rw [Request.hasHeader, unknown]
    rfl
  rw [Brief.sends, List.any_eq_true]
  constructor
  · rintro ⟨sent, mem, same⟩
    rcases List.mem_append.1 mem with early | late
    · exact absurd same (by simp [fresh sent early])
    · rcases List.mem_append.1 late with auth | cookie
      · obtain ⟨fragment, -, rfl⟩ := Option.map_eq_some_iff.1 (Option.mem_toList.1 auth)
        exact absurd same (by simp [other])
      · split at cookie
        · exact absurd cookie List.not_mem_nil
        · next left =>
            obtain rfl := List.mem_singleton.1 cookie
            refine ⟨same, fun none => left ?_⟩
            simp [none]
  · rintro ⟨cookie, some⟩
    refine ⟨("Cookie", .literal (cookieValue r.cookies)), ?_, cookie⟩
    refine List.mem_append_right _ (List.mem_append_right _ ?_)
    rw [if_neg]
    · exact List.mem_singleton_self _
    · simp [some, noCookieHeader cookie]

end Extraction

namespace Command

/-- Without cookie options, cookies come from header edits only. -/
theorem Item.flatMap_cookies {items : List Item} (plain : ∀ raw, .option .cookie raw ∉ items) :
    items.flatMap cookies = (headerEdits items).flatMap HeaderEdit.cookies := by
  induction items with
  | nil => rfl
  | cons item rest ih =>
      have own : item.cookies = item.headerEdit?.toList.flatMap HeaderEdit.cookies := by
        unfold cookies
        split
        · next raw => exact absurd List.mem_cons_self (plain raw)
        · rfl
      have later := ih fun raw mem => plain raw (List.mem_cons_of_mem item mem)
      rw [List.flatMap_cons, own, later, headerEdits, headerEdits, List.filterMap_cons]
      cases item.headerEdit? <;> simp

/-- The headers that a program may send without an option that sets them. -/
def impliedHeaders : List String :=
  ["Accept", "Content-Type", "User-Agent", "Referer", "Authorization"]

/--
A header that is removed by the last option naming it is not sent, unless it is
the Cookie header and a header that was set before gave cookies.
-/
theorem ofWords_removed {words : List String} {outcome : Outcome}
    (ok : ofWords words = .ok outcome) {name : String}
    (other : ∀ implied ∈ impliedHeaders, Text.sameIgnoringCase implied name = false)
    (plain : ∀ raw, .option .cookie raw ∉ Item.ofWords words)
    (removed : ∃ own,
      HeaderEdit.last? (Item.headerEdits (Item.ofWords words)) name = some (.remove own))
    (settings : Settings) :
    (Brief.ofRequest settings outcome.request).sends name = true ↔
      Text.sameIgnoringCase "Cookie" name = true ∧
        ∃ edit ∈ Item.headerEdits (Item.ofWords words), edit.cookies ≠ [] := by
  obtain ⟨own, last⟩ := removed
  have gone : (HeaderTable.ofItems (Item.ofWords words) outcome.request.body?).has name = false := by
    rw [HeaderTable.has_ofItems (other _ (by decide)) (other _ (by decide)),
      HeaderTable.has_ofEdits, last]
    rfl
  have absent : ∀ header ∈ outcome.request.headers,
      Text.sameIgnoringCase header.1 name = false := by
    rw [(headers_of_ok ok)]
    exact HeaderTable.has_eq_false_iff.1 gone
  have cookies : outcome.request.cookies = [] ↔
      ∀ edit ∈ Item.headerEdits (Item.ofWords words), edit.cookies = [] := by
    rw [(Draft.finish_heading ok).2, Draft.cookies_ofItems, Ordered.ofPairs,
      Ordered.enter_eq_nil_iff, Item.flatMap_cookies plain]
    simp
  rw [Extraction.sends_iff settings (other _ (by decide)) absent, Ne, cookies]
  simp only [not_forall, exists_prop]

theorem ofWords_removed_other_case :
    ∃ outcome, ofWords ["-H", "X-A: 1", "-H", "x-a:", "https://x.test"] = .ok outcome ∧
      ∀ settings, (Brief.ofRequest settings outcome.request).sends "X-A" = true ↔
        Text.sameIgnoringCase "Cookie" "X-A" = true ∧
          ∃ edit ∈ Item.headerEdits
              (Item.ofWords ["-H", "X-A: 1", "-H", "x-a:", "https://x.test"]),
            edit.cookies ≠ [] := by
  have header : Reading.ofWord "-H" = ⟨[], some .header⟩ := by decide
  have items : Item.ofWords ["-H", "X-A: 1", "-H", "x-a:", "https://x.test"] =
      [.option .header "X-A: 1", .option .header "x-a:"] ++
        .operand "https://x.test" :: Item.ofWords [] := by
    rw [Item.ofWords_option header, Item.ofWords_option header, Item.ofWords_operand (by decide)]
    rfl
  have nothing : Item.ofWords [] = [] := by simp [Item.ofWords, Item.readOnto]
  obtain ⟨outcome, ok, -⟩ := ofWords_operand items (by decide) (by decide)
  rw [nothing] at items
  refine ⟨outcome, ok, fun settings => ofWords_removed ok (by decide) ?_ ⟨"x-a", ?_⟩ settings⟩
  · rw [items]
    simp
  · rw [items]
    decide

/-- The cookies of a header that was removed are sent. -/
theorem ofWords_removed_cookie :
    ∃ outcome, ofWords ["-H", "Cookie: a=b", "-H", "Cookie:", "https://x.test"] = .ok outcome ∧
      Item.ofWords ["-H", "Cookie: a=b", "-H", "Cookie:", "https://x.test"] =
        [.option .header "Cookie: a=b", .option .header "Cookie:", .operand "https://x.test"] ∧
      HeaderEdit.last? (Item.headerEdits
          (Item.ofWords ["-H", "Cookie: a=b", "-H", "Cookie:", "https://x.test"])) "Cookie" =
        some (.remove "Cookie") ∧
      (Brief.ofRequest {} outcome.request).headers = [("Cookie", .literal "a=b")] := by
  have header : Reading.ofWord "-H" = ⟨[], some .header⟩ := by decide
  have nothing : Item.ofWords [] = [] := by simp [Item.ofWords, Item.readOnto]
  have items : Item.ofWords ["-H", "Cookie: a=b", "-H", "Cookie:", "https://x.test"] =
      [.option .header "Cookie: a=b", .option .header "Cookie:", .operand "https://x.test"] := by
    rw [Item.ofWords_option header, Item.ofWords_option header, Item.ofWords_operand (by decide),
      nothing]
  rw [ofWords, items]
  exact ⟨_, rfl, rfl, by decide, by decide⟩

end Command

end RequestScribe
