import RequestScribe.Proofs.Command.Notices

/-!
# The limit on redirects

The last limit that is accepted counts.  An integer of 64 bits is accepted, but only what fits into
32 bits without a sign is entered: a greater limit is no limit at all, and nothing is noticed.
-/

namespace RequestScribe

namespace Command

def Item.redirectLimit? : Item → Option String
  | .option .maxRedirs value => some value
  | _ => none

theorem Item.mem_filterMap_redirectLimit? {items : List Item} {value : String} :
    value ∈ items.filterMap redirectLimit? ↔ .option .maxRedirs value ∈ items := by
  rw [List.mem_filterMap]
  constructor
  · rintro ⟨item, mem, gives⟩
    unfold redirectLimit? at gives
    split at gives
    · obtain rfl := Option.some.inj gives
      exact mem
    · cases gives
  · intro mem
    exact ⟨_, mem, rfl⟩

namespace Draft

/-- An item enters the limit that it gives, if that is an integer of 64 bits. -/
theorem maxRedirects?_apply (d : Draft) (item : Item) :
    (d.apply item).transport.maxRedirects? =
      ((item.redirectLimit?.bind int64?).map redirectLimit).getD d.transport.maxRedirects? := by
  by_cases limits : ∃ value, item = .option .maxRedirs value
  · obtain ⟨value, rfl⟩ := limits
    cases read : int64? value with
    | none => simp [apply, applyOption, Item.redirectLimit?, read, warn]
    | some n => simp [apply, applyOption, Item.redirectLimit?, read, mapTransport]
  · have silent : item.redirectLimit? = none := by
      unfold Item.redirectLimit?
      split
      · next value => exact absurd ⟨value, rfl⟩ limits
      · rfl
    have other : item.family? ≠ some (.transport .redirectLimit) := by
      intro same
      cases item with
      | option flag value =>
          cases flag with
          | maxRedirs => exact limits ⟨value, rfl⟩
          | _ => cases same
      | _ => cases same
    let look (d : Draft) := d.transport.maxRedirects?
    have elsewhere (d : Draft) (g : Family) (apart : g ≠ .transport .redirectLimit)
        (change : g.State → g.State) : look (d.modify g change) = look d := by
      cases g with
      | transport setting =>
          cases setting with
          | redirectLimit => exact absurd rfl apart
          | _ => rfl
      | _ => rfl
    have same : look (d.apply item) = look d :=
      apply_frame (fun d notes => rfl) elsewhere other d
    rw [silent]
    exact same

/-- The last limit that is an integer of 64 bits counts. -/
theorem maxRedirects?_ofItems (items : List Item) :
    (ofItems items).transport.maxRedirects? =
      ((items.filterMap Item.redirectLimit?).filter fun value =>
        (int64? value).isSome).getLast?.bind fun value => (int64? value).bind redirectLimit := by
  induction items using List.reverseRecOn with
  | nil => rfl
  | append_singleton items item ih =>
      have run : ofItems (items ++ [item]) = (ofItems items).apply item := by
        rw [ofItems, List.foldl_append]
        rfl
      rw [run, maxRedirects?_apply, ih, List.filterMap_append, List.filter_append]
      cases gives : item.redirectLimit? with
      | none => simp [gives]
      | some value => cases read : int64? value <;> simp [gives, read]

end Draft

/-- Of a limit it is noticed if it is no integer of 64 bits, and only then. -/
theorem ofWords_invalidMaxRedirs {words : List String} {outcome : Outcome}
    (parsed : ofWords words = .ok outcome) (value : String) :
    .invalidMaxRedirs value ∈ outcome.warnings ↔
      .option .maxRedirs value ∈ Item.ofWords words ∧ ¬ IsInt64 value := by
  refine (Draft.mem_warnings_of_finish parsed _).trans ?_
  constructor
  · intro early
    obtain ⟨item, mem, noticed⟩ := Draft.noticed_of_ofItems early
    cases noticed with
    | rejected h =>
        cases h with
        | maxRedirs other => exact ⟨mem, other⟩
  · rintro ⟨mem, other⟩
    exact Draft.mem_warnings_of_rejects mem (.maxRedirs other)

/-- The limits that some items give and that are not among what was noticed. -/
def Item.acceptedLimits (items : List Item) (warnings : List Warning) : List String :=
  (items.filterMap redirectLimit?).filter fun value => .invalidMaxRedirs value ∉ warnings

/--
The last limit that is not warned of is an integer of 64 bits, and the limit of the request if
it is not negative and fits into 32 bits.  If it does not fit, then the request has no limit, and
neither has it if no limit is accepted.
-/
theorem ofWords_redirectLimit {words : List String} {outcome : Outcome}
    (parsed : ofWords words = .ok outcome) :
    let accepted := Item.acceptedLimits (Item.ofWords words) outcome.warnings
    (∀ value, value ∈ accepted ↔ .option .maxRedirs value ∈ Item.ofWords words ∧ IsInt64 value) ∧
      (accepted = [] → outcome.request.transport.maxRedirects? = none) ∧
      ∀ value n, accepted.getLast? = some value → Chars.WritesInt value.toList n →
        outcome.request.transport.maxRedirects? =
          if 0 ≤ n ∧ n < UInt32.size then some n.toNat else none := by
  intro accepted
  have noticed := ofWords_invalidMaxRedirs parsed
  have mem_iff (value : String) :
      value ∈ accepted ↔ .option .maxRedirs value ∈ Item.ofWords words ∧ IsInt64 value := by
    simp only [accepted, Item.acceptedLimits, List.mem_filter, Item.mem_filterMap_redirectLimit?,
      decide_eq_true_eq, noticed]
    grind
  have same : accepted = ((Item.ofWords words).filterMap Item.redirectLimit?).filter fun value =>
      (Draft.int64? value).isSome := by
    refine List.filter_congr fun value given => ?_
    rw [Bool.eq_iff_iff, decide_eq_true_eq, Draft.isSome_int64?, noticed,
      ← Item.mem_filterMap_redirectLimit?]
    grind
  have limit : outcome.request.transport.maxRedirects? =
      accepted.getLast?.bind fun value => (Draft.int64? value).bind Draft.redirectLimit := by
    obtain ⟨raw, -, -, rfl⟩ := Draft.finish_eq_ok_iff.1 parsed
    rw [same]
    exact Draft.maxRedirects?_ofItems (Item.ofWords words)
  refine ⟨mem_iff, fun none => by rw [limit, none]; rfl, fun value n last written => ?_⟩
  obtain ⟨-, integer⟩ := (mem_iff value).1 (List.mem_of_getLast? last)
  have read : Draft.int64? value = some n := by
    obtain ⟨m, writtenToo, bounds⟩ := integer
    have same : some m = some n :=
      (Chars.readInt?_eq_some_iff.2 writtenToo).symm.trans (Chars.readInt?_eq_some_iff.2 written)
    exact Draft.int64?_eq_some_iff.2 ⟨written, Option.some.inj same ▸ bounds⟩
  rw [limit, last, Option.bind_some, read, Option.bind_some]
  rfl

/-- A limit behind a negative one and in front of one that is not accepted. -/
theorem ofWords_redirectLimit_signed :
    let words := ["--max-redirs", "5", "--max-redirs=-1", "--max-redirs", "+07", "--max-redirs",
      "many", "https://x.test"]
    let r : Request :=
      { method := .get
        url := "https://x.test"
        headers := []
        body? := none
        rawBody? := none
        authorization? := none
        cookies := []
        files := []
        query := []
        transport := { maxRedirects? := some 7, userAgent? := some "curl/8.5.0" } }
    ofWords words = .ok ⟨r, [.invalidMaxRedirs "many"]⟩ ∧
      Chars.WritesInt "+07".toList 7 ∧ r.transport.maxRedirects? = some 7 := by
  intro words r
  have parsed : ofWords words = .ok ⟨r, [.invalidMaxRedirs "many"]⟩ := by decide +kernel
  have written : Chars.WritesInt "+07".toList 7 := Chars.readInt?_eq_some_iff.1 (by decide)
  obtain ⟨-, -, limit⟩ := ofWords_redirectLimit parsed
  exact ⟨parsed, written, limit "+07" 7 (by decide +kernel) written⟩

/-- The least number that does not fit into 32 bits is accepted, and there is no limit. -/
theorem not_forall_redirectLimit :
    ¬∀ (words : List String) (outcome : Outcome) (value : String) (n : Nat),
      ofWords words = .ok outcome →
      (Item.acceptedLimits (Item.ofWords words) outcome.warnings).getLast? = some value →
      Chars.WritesInt value.toList n →
      outcome.request.transport.maxRedirects? = some n := by
  intro always
  let r : Request :=
    { method := .get
      url := "https://x.test"
      headers := []
      body? := none
      rawBody? := none
      authorization? := none
      cookies := []
      files := []
      query := []
      transport := { userAgent? := some "curl/8.5.0" } }
  have parsed : ofWords ["--max-redirs", "4294967296", "https://x.test"] = .ok ⟨r, []⟩ := by
    decide +kernel
  have written : Chars.WritesInt "4294967296".toList (4294967296 : Nat) :=
    Chars.readInt?_eq_some_iff.1 (by decide)
  exact absurd (always _ _ _ _ parsed (by decide +kernel) written) (by decide)

end Command

end RequestScribe
