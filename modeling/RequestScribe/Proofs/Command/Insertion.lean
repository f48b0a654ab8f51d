import RequestScribe.Proofs.Command.Item
import RequestScribe.Proofs.Command.Spelling
import RequestScribe.Proofs.Command.Family
import RequestScribe.Proofs.Decimal.Grammar

/-!
# Options that may be left out

An option whose value is not accepted only adds a warning, at its place among the others.  An
option without effect does not even do that, whatever its argument is.
-/

namespace RequestScribe

namespace Command

/-! ## Values that are not accepted -/

def IsInt64 (value : String) : Prop :=
  ∃ n, Chars.WritesInt value.toList n ∧ Int64.minValue.toInt ≤ n ∧ n ≤ Int64.maxValue.toInt

def IsSeconds (value : String) : Prop :=
  ∃ n x, Numeral.Writes value.toList n ∧ n.toBinary = .finite x ∧
    (x.negative = true → x.mantissa = 0)

/-- The values that an option does not accept, and what is noticed instead. -/
inductive Rejects : Flag → String → Warning → Prop
  | method {value : String} (unknown : ∀ m : Method, m.verb ≠ Text.upper value) :
      Rejects .method value (.unknownMethod value)
  | header {value : String} (noColon : ':' ∉ value.toList)
      (noSemicolon : value.toList.getLast? ≠ some ';') :
      Rejects .header value (.malformedHeader value)
  | nameless {name rest : String} (blank : Text.isBlank name = true) :
      Rejects .header (name ++ ":" ++ rest) (.malformedHeader (name ++ ":" ++ rest))
  | cookie {value : String} (noEquals : '=' ∉ value.toList) :
      Rejects .cookie value (.cookieJar value)
  | form {value : String} (noEquals : '=' ∉ value.toList) :
      Rejects .form value (.malformedFormField value)
  | formString {value : String} (noEquals : '=' ∉ value.toList) :
      Rejects .formString value (.malformedFormField value)
  | maxRedirs {value : String} (other : ¬ IsInt64 value) :
      Rejects .maxRedirs value (.invalidMaxRedirs value)
  | maxTime {value : String} (other : ¬ IsSeconds value) :
      Rejects .maxTime value (.invalidMaxTime value)
  | connectTimeout {value : String} (other : ¬ IsSeconds value) :
      Rejects .connectTimeout value (.invalidConnectTimeout value)

namespace Draft

theorem int64?_eq_some_iff {value : String} {n : Int} :
    int64? value = some n ↔
      Chars.WritesInt value.toList n ∧ Int64.minValue.toInt ≤ n ∧ n ≤ Int64.maxValue.toInt := by
  have beyond : ((Nat.pow 2 63 : Nat) : Int) = Int64.maxValue.toInt + 1 := by decide
  have least : -(Int64.maxValue.toInt + 1) = Int64.minValue.toInt := by decide
  simp only [int64?, Option.filter_eq_some_iff, decide_eq_true_eq, Chars.readInt?_eq_some_iff,
    beyond, least, Int.lt_add_one_iff]

theorem isSome_int64? {value : String} : (int64? value).isSome = true ↔ IsInt64 value := by
  simp only [Option.isSome_iff_exists, int64?_eq_some_iff, IsInt64]

theorem seconds?_eq_some_iff {value : String} {x : Binary64} :
    seconds? value = some x ↔
      Numeral.read? value.toList = some (.finite x) ∧ (x.negative = true → x.mantissa = 0) := by
  unfold seconds?
  split
  · next y read =>
      rw [read]
      by_cases below : y.negative = true ∧ y.mantissa ≠ 0
      · have guard : (y.negative && y.mantissa != 0) = true := by simpa using below
        rw [if_pos guard]
        constructor
        · intro none
          exact absurd none (by simp)
        · rintro ⟨same, zero⟩
          obtain rfl := Numeral.Reading.finite.inj (Option.some.inj same)
          exact absurd (zero below.1) below.2
      · have guard : ¬ (y.negative && y.mantissa != 0) = true := by simpa using below
        rw [if_neg guard]
        constructor
        · intro same
          obtain rfl := Option.some.inj same
          exact ⟨rfl, fun negative => by_contra fun nonzero => below ⟨negative, nonzero⟩⟩
        · rintro ⟨same, -⟩
          rw [Numeral.Reading.finite.inj (Option.some.inj same)]
  · next other =>
      constructor
      · intro none
        exact absurd none (by simp)
      · rintro ⟨read, -⟩
        exact absurd read (other x)

theorem isSome_seconds? {value : String} : (seconds? value).isSome = true ↔ IsSeconds value := by
  simp only [Option.isSome_iff_exists, seconds?_eq_some_iff, Numeral.read?_eq_finite_iff, IsSeconds]
  constructor
  · rintro ⟨x, ⟨n, written, finite⟩, positive⟩
    exact ⟨n, x, written, finite, positive⟩
  · rintro ⟨n, x, written, finite, positive⟩
    exact ⟨x, ⟨n, written, finite⟩, positive⟩

end Draft

instance (value : String) : Decidable (IsInt64 value) :=
  decidable_of_iff _ Draft.isSome_int64?

instance (value : String) : Decidable (IsSeconds value) :=
  decidable_of_iff _ Draft.isSome_seconds?

theorem Rejects.applyOption {flag : Flag} {value : String} {w : Warning} (h : Rejects flag value w)
    (d : Draft) : d.applyOption flag value = d.warn w := by
  have addField {raw : String} (noEquals : '=' ∉ raw.toList) (files : Bool) :
      d.addField raw files = d.warn (.malformedFormField raw) := by
    simp [Draft.addField, Text.cut?, Chars.cut?_eq_none noEquals]
  cases h with
  | method unknown =>
      have missing : Method.ofVerb? value = none := by
        rw [Method.ofVerb?, List.find?_eq_none]
        intro m _
        simpa using unknown m
      simp only [Draft.applyOption, missing]
  | header noColon noSemicolon =>
      have whole : Text.cut? ':' value = none := by simp [Text.cut?, Chars.cut?_eq_none noColon]
      have unended : Text.before? ";" value = none := by
        have semicolon : ";" = String.singleton ';' := rfl
        rw [semicolon]
        exact Text.before?_eq_none noSemicolon
      simp only [Draft.applyOption, Draft.addHeader, whole, unended]
  | @nameless name rest blank =>
      have absent : ':' ∉ name.toList := by
        intro mem
        have colon := List.all_eq_true.1 blank ':' mem
        exact absurd colon (by decide)
      have cut : Text.cut? ':' (name ++ ":" ++ rest) = some (name, rest) :=
        Text.cut?_append absent (by simp)
      have empty : (Text.trim name).isEmpty = true := by rw [Text.trim_of_blank blank]; rfl
      simp only [Draft.applyOption, Draft.addHeader, cut, empty, if_true]
  | cookie noEquals =>
      have absent : Text.hasChar '=' value = false := by simpa [Text.hasChar] using noEquals
      simp [Draft.applyOption, Draft.addCookies, absent]
  | form noEquals => exact addField noEquals true
  | formString noEquals => exact addField noEquals false
  | maxRedirs other =>
      have missing : Draft.int64? value = none := by
        rwa [← Draft.isSome_int64?, Option.not_isSome_iff_eq_none] at other
      simp only [Draft.applyOption, missing]
  | maxTime other =>
      have missing : Draft.seconds? value = none := by
        rwa [← Draft.isSome_seconds?, Option.not_isSome_iff_eq_none] at other
      simp only [Draft.applyOption, missing]
  | connectTimeout other =>
      have missing : Draft.seconds? value = none := by
        rwa [← Draft.isSome_seconds?, Option.not_isSome_iff_eq_none] at other
      simp only [Draft.applyOption, missing]

/-! ## One warning more -/

/-- The same failure, or the same request with one more warning behind those that are `earlier`. -/
inductive Outcome.Adds (earlier : List Warning) (w : Warning) :
    Except Failure Outcome → Except Failure Outcome → Prop
  | failed (failure : Failure) : Adds earlier w (.error failure) (.error failure)
  | made (request : Request) (later : List Warning) :
      Adds earlier w (.ok ⟨request, earlier ++ later⟩) (.ok ⟨request, earlier ++ w :: later⟩)

theorem Outcome.adds_preceded (result : Except Failure Outcome) (earlier : List Warning)
    (w : Warning) :
    Adds earlier w (result.map fun outcome => outcome.preceded earlier)
      (result.map fun outcome => outcome.preceded (earlier ++ [w])) := by
  cases result with
  | error failure => exact .failed failure
  | ok outcome =>
      have more : earlier ++ [w] ++ outcome.warnings = earlier ++ w :: outcome.warnings := by
        rw [List.append_assoc, List.singleton_append]
      simp only [Except.map, Outcome.preceded, more]
      exact .made outcome.request outcome.warnings

theorem Item.Writes.between {before : List String} (complete : isComplete before = true)
    {option : List String} {flag : Flag} {value : String} (written : Writes option flag value)
    (after : List String) :
    ofWords (before ++ option ++ after) =
      ofWords before ++ .option flag value :: ofWords after := by
  rw [List.append_assoc, ofWords_append complete, written.items]

def Item.noticed (items : List Item) : List Warning :=
  (Draft.ofItems items).warnings.reverse

theorem Draft.adds_rejected {flag : Flag} {value : String} {w : Warning}
    (h : Rejects flag value w) (before after : List Item) :
    Outcome.Adds (Item.noticed before) w (ofItems (before ++ after)).finish
      (ofItems (before ++ .option flag value :: after)).finish := by
  -- The draft before, as what it says and what was noticed.
  let base : Draft := { ofItems before with warnings := [] }
  have without : ofItems (before ++ after) =
      after.foldl apply (base.preceded (ofItems before).warnings) := by
    rw [ofItems, List.foldl_append]
    rfl
  have inserted : ofItems (before ++ .option flag value :: after) =
      after.foldl apply (base.preceded (w :: (ofItems before).warnings)) := by
    rw [ofItems, List.foldl_append, List.foldl_cons, apply, h.applyOption]
    rfl
  rw [without, inserted, finish_foldl_preceded, finish_foldl_preceded, List.reverse_cons]
  exact Outcome.adds_preceded _ _ w

/--
An option with a value that it does not accept adds one warning, behind those of the words in
front of it, and nothing else.
-/
theorem ofWords_rejected {before : List String} (complete : Item.isComplete before = true)
    (after : List String) {flag : Flag} {value : String} {w : Warning}
    (rejected : Rejects flag value w) {option : List String}
    (written : Item.Writes option flag value) :
    Outcome.Adds (Item.noticed (Item.ofWords before)) w (ofWords (before ++ after))
      (ofWords (before ++ option ++ after)) := by
  rw [ofWords, ofWords, written.between complete, Item.ofWords_append complete]
  exact Draft.adds_rejected rejected _ _

/-- A timeout that is not finite, between a header and a cookie that are not accepted either. -/
theorem ofWords_rejected_timeout :
    Outcome.Adds [.malformedHeader "x"] (.invalidMaxTime "inf")
      (ofWords ["-o", "--", "-Hx", "-b", "jar", "x.test"])
      (ofWords ["-o", "--", "-Hx", "-minf", "-b", "jar", "x.test"]) := by
  have complete : Item.isComplete ["-o", "--", "-Hx"] = true := by decide
  have noticed : Item.noticed (Item.ofWords ["-o", "--", "-Hx"]) = [.malformedHeader "x"] := by
    decide +kernel
  have unbounded : ¬ IsSeconds "inf" := by decide
  have written : Item.Writes ["-minf"] .maxTime "inf" :=
    @Item.Writes.letterAttached 'm' .maxTime (by decide) rfl "inf" (by decide)
  have adds := ofWords_rejected complete ["-b", "jar", "x.test"] (.maxTime unbounded) written
  rw [noticed] at adds
  exact adds

/-! ## Options without effect -/

/-- An option without effect may be left out, with its argument, whatever this looks like. -/
theorem ofWords_idle {before : List String} (complete : Item.isComplete before = true)
    (after : List String) {flag : Flag} (idle : flag = .ignored ∨ flag = .ignoredWithArgument)
    {value : String} {option : List String} (written : Item.Writes option flag value) :
    ofWords (before ++ option ++ after) = ofWords (before ++ after) := by
  have nothing (d : Draft) : d.apply (.option flag value) = d := by
    rcases idle with rfl | rfl <;> rfl
  rw [ofWords, ofWords, written.between complete, Item.ofWords_append complete]
  rw [Draft.ofItems, Draft.ofItems, List.foldl_append, List.foldl_append, List.foldl_cons, nothing]

/-- Arguments that look like an address and like the end of the options. -/
theorem ofWords_idle_output :
    ofWords ["-d", "a", "-o", "https://y.test", "x.test"] = ofWords ["-d", "a", "x.test"] ∧
      ofWords ["-d", "a", "--output", "--", "x.test"] = ofWords ["-d", "a", "x.test"] ∧
      ofWords ["-d", "a", "-s", "x.test"] = ofWords ["-d", "a", "x.test"] := by
  have complete : Item.isComplete ["-d", "a"] = true := by decide
  have idle {flag : Flag} := @ofWords_idle ["-d", "a"] complete ["x.test"] flag
  refine ⟨?_, ?_, ?_⟩
  · exact idle (.inr rfl)
      (@Item.Writes.letterApart 'o' .ignoredWithArgument (by decide) rfl "https://y.test")
  · exact idle (.inr rfl)
      (@Item.Writes.longApart "output" .ignoredWithArgument (by decide) rfl "--")
  · exact idle (.inl rfl) (@Item.Writes.letter 's' .ignored (by decide) rfl)

end Command

end RequestScribe
