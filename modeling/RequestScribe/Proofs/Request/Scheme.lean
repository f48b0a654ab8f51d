import RequestScribe.Proofs.Request.Url

/-!
# Which addresses have a scheme

A word that is recognized as an address is absolute or begins with a bare host.
A bare host is given a scheme, unless `://` stands somewhere in the word: then
the word stays as it is, although what stands before `://` need not be a scheme.
-/

namespace RequestScribe

namespace Chars

theorem isAlphanumeric_of_hexValue? {c : Char} (h : (hexValue? c).isSome = true) :
    isAlphanumeric c = true := by
  rw [isAlphanumeric_iff]
  unfold hexValue? at h
  simp only [Char.le_def, UInt32.le_iff_toNat_le, Bool.and_eq_true, decide_eq_true_eq] at h
  have bounds : '0'.toNat = 0x30 ∧ '9'.toNat = 0x39 ∧ 'a'.toNat = 0x61 ∧ 'f'.toNat = 0x66 ∧
      'A'.toNat = 0x41 ∧ 'F'.toNat = 0x46 := by decide
  simp only [Char.toNat] at bounds ⊢
  split at h
  · omega
  · split at h
    · omega
    · split at h
      · omega
      · exact absurd h (by decide)

/-- No block of decimal digits meets the blanks. -/
theorem not_blank_of_decimalDigit {c : Char} (h : isDecimalDigit c = true) :
    isBlank c = false := by
  have apart : ∀ first ∈ decimalZeros, 0x20 < first ∧ (first + 9 < 0x85 ∨ 0x85 < first) ∧
      (first + 9 < 0xA0 ∨ 0xA0 < first) ∧ (first + 9 < 0x1680 ∨ 0x1680 < first) ∧
      (first + 9 < 0x2000 ∨ 0x205F < first) ∧ (first + 9 < 0x3000 ∨ 0x3000 < first) := by
    decide
  obtain ⟨first, mem, block⟩ := List.any_eq_true.1 h
  obtain ⟨h₁, h₂, h₃, h₄, h₅, h₆⟩ := apart first mem
  simp only [Bool.and_eq_true, decide_eq_true_eq] at block
  simp only [isBlank, Bool.or_eq_false_iff, Bool.and_eq_false_iff, decide_eq_false_iff_not,
    beq_eq_false_iff_ne]
  omega

end Chars

namespace Url

/-- A letter, then letters, digits, plus signs, points and hyphens, then `://`. -/
def HasScheme (url : String) : Prop :=
  ∃ (first : Char) (scheme rest : List Char),
    url.toList = first :: (scheme ++ ':' :: '/' :: '/' :: rest) ∧
    Chars.isLetter first = true ∧ ∀ c ∈ scheme, isSchemeCharacter c = true

theorem IsAbsolute.hasScheme {url : String} (h : IsAbsolute url) : HasScheme url := by
  obtain ⟨first, scheme, rest, text, letter, schemeCharacters, -⟩ := h
  exact ⟨first, scheme, rest, text, letter, schemeCharacters⟩

/-! ## Words that are recognized -/

theorem isHostCharacter_of_schemeCharacter {c : Char} (h : isSchemeCharacter c = true)
    (other : c ≠ '+') : isHostCharacter c = true := by
  simp only [isSchemeCharacter, isHostCharacter, Bool.or_eq_true, beq_iff_eq] at h ⊢
  grind

theorem isSchemeCharacter_of_hostCharacter {c : Char} (h : isHostCharacter c = true) :
    isSchemeCharacter c = true := by
  simp only [isSchemeCharacter, isHostCharacter, Bool.or_eq_true, beq_iff_eq] at h ⊢
  grind

theorem isBaseCharacter_of_schemeCharacter {c : Char} (h : isSchemeCharacter c = true) :
    isBaseCharacter c = true := by
  simp only [isBaseCharacter, Bool.and_eq_true, bne_iff_ne]
  constructor
  · rintro rfl
    exact absurd h (by decide)
  · rintro rfl
    exact absurd h (by decide)

def isHostPart (c : Char) : Bool :=
  isSchemeCharacter c || "[:]".toList.contains c

theorem not_blank_of_hostPart {c : Char} (h : isHostPart c = true) : Chars.isBlank c = false := by
  rcases Bool.or_eq_true_iff.1 h with plain | sign
  · exact not_blank_of_schemeCharacter plain
  · have all : "[:]".toList.all (fun d => !Chars.isBlank d) = true := by decide
    have solid := List.all_eq_true.1 all c (List.contains_iff_mem.1 sign)
    simpa using solid

theorem isBaseCharacter_of_hostPart {c : Char} (h : isHostPart c = true) :
    isBaseCharacter c = true := by
  rcases Bool.or_eq_true_iff.1 h with plain | sign
  · exact isBaseCharacter_of_schemeCharacter plain
  · have all : "[:]".toList.all isBaseCharacter = true := by decide
    exact List.all_eq_true.1 all c (List.contains_iff_mem.1 sign)

/-- What follows the host follows a part that is not empty and has only characters of hosts. -/
theorem afterHost?_eq_some {cs tail : List Char} (h : afterHost? cs = some tail) :
    ∃ host, cs = host ++ tail ∧ host ≠ [] ∧ ∀ c ∈ host, isHostPart c = true := by
  unfold afterHost? at h
  split at h
  · next rest =>
      simp only [List.span_eq_takeWhile_dropWhile] at h
      split at h
      · next c inner tail' parts =>
          obtain rfl := Option.some.inj h
          obtain ⟨taken, left⟩ := Prod.mk.inj parts
          have whole := List.takeWhile_append_dropWhile
            (p := fun c => (Chars.hexValue? c).isSome || c == ':') (l := rest)
          have digits : ∀ d ∈ c :: inner, isHostPart d = true := by
            intro d hd
            rw [← taken] at hd
            have digit := List.mem_takeWhile_imp
              (p := fun c => (Chars.hexValue? c).isSome || c == ':') hd
            rcases Bool.or_eq_true_iff.1 digit with hex | colon
            · simp [isHostPart, isSchemeCharacter, Chars.isAlphanumeric_of_hexValue? hex]
            · rw [beq_iff_eq.1 colon]
              decide
          refine ⟨'[' :: (c :: inner) ++ [']'], ?_, by simp, ?_⟩
          · rw [← whole, taken, left]
            simp
          · have brackets : isHostPart '[' = true ∧ isHostPart ']' = true := by decide
            simp only [List.forall_mem_append, List.forall_mem_cons] at digits ⊢
            exact ⟨⟨brackets.1, digits⟩, brackets.2, by simp⟩
      · exact absurd h (by simp)
  · simp only [List.span_eq_takeWhile_dropWhile] at h
    split at h
    · next named =>
        obtain rfl := Option.some.inj h
        refine ⟨cs.takeWhile isHostCharacter, List.takeWhile_append_dropWhile.symm, ?_, ?_⟩
        · intro empty
          rw [empty] at named
          exact absurd named (by decide)
        · intro c hc
          have host := List.mem_takeWhile_imp (p := isHostCharacter) hc
          simp [isHostPart, isSchemeCharacter_of_hostCharacter host]
    · exact absurd h (by simp)

theorem afterPort?_eq_some {cs tail : List Char} (h : afterPort? cs = some tail) :
    ∃ port, cs = port ++ tail ∧ ∀ c ∈ port, Chars.isBlank c = false := by
  unfold afterPort? at h
  split at h
  · next rest =>
      simp only [List.span_eq_takeWhile_dropWhile] at h
      split at h
      · next c digits tail' parts =>
          obtain rfl := Option.some.inj h
          obtain ⟨-, left⟩ := Prod.mk.inj parts
          refine ⟨':' :: rest.takeWhile Chars.isDecimalDigit, ?_, ?_⟩
          · rw [← left, List.cons_append, List.takeWhile_append_dropWhile]
          · refine List.forall_mem_cons.2 ⟨by decide, ?_⟩
            intro d hd
            exact Chars.not_blank_of_decimalDigit
              (List.mem_takeWhile_imp (p := Chars.isDecimalDigit) hd)
      · exact absurd h (by simp)
  · obtain rfl := Option.some.inj h
    exact ⟨[], rfl, by simp⟩

theorem not_blank_of_isTail {cs : List Char} (h : isTail cs = true) :
    ∀ c ∈ cs, Chars.isBlank c = false := by
  unfold isTail at h
  split at h
  · simp
  · next c rest =>
      simp only [Bool.and_eq_true, Bool.or_eq_true, beq_iff_eq, List.all_eq_true,
        Bool.not_eq_true'] at h
      refine List.forall_mem_cons.2 ⟨?_, h.2⟩
      obtain ((rfl | rfl) | rfl) := h.1 <;> decide

theorem isBareHost_spec {cs : List Char} (h : isBareHost cs = true) :
    (∃ c rest, cs = c :: rest ∧ isBaseCharacter c = true) ∧ ∀ c ∈ cs, Chars.isBlank c = false := by
  unfold isBareHost at h
  split at h
  · next tail found =>
      obtain ⟨afterHost, host?, port?⟩ := Option.bind_eq_some_iff.1 found
      obtain ⟨host, rfl, nonempty, hostParts⟩ := afterHost?_eq_some host?
      obtain ⟨port, rfl, portSolid⟩ := afterPort?_eq_some port?
      constructor
      · cases host with
        | nil => exact absurd rfl nonempty
        | cons c rest =>
            exact ⟨c, rest ++ (port ++ tail), rfl,
              isBaseCharacter_of_hostPart (hostParts c List.mem_cons_self)⟩
      · simp only [List.forall_mem_append]
        exact ⟨fun c hc => not_blank_of_hostPart (hostParts c hc), portSolid,
          not_blank_of_isTail h⟩
  · exact absurd h (by simp)

theorem isAbsolute_iff {url : String} : isAbsolute url.toList = true ↔ IsAbsolute url := by
  constructor
  · intro h
    unfold isAbsolute at h
    simp only [List.span_eq_takeWhile_dropWhile] at h
    split at h
    · next first scheme c tail taken left =>
        simp only [Bool.and_eq_true, List.all_eq_true, Bool.not_eq_true'] at h
        have whole := List.takeWhile_append_dropWhile (p := isSchemeCharacter) (l := url.toList)
        refine ⟨first, scheme, c :: tail, ?_, h.1, ?_, List.cons_ne_nil c tail, h.2⟩
        · rw [← whole, taken, left, List.cons_append]
        · intro d hd
          have mem : d ∈ url.toList.takeWhile isSchemeCharacter :=
            taken ▸ List.mem_cons_of_mem first hd
          exact List.mem_takeWhile_imp (p := isSchemeCharacter) mem
    · exact absurd h (by simp)
  · exact IsAbsolute.isAbsolute

/-- A word that is recognized has no blanks and begins with neither of the two signs. -/
theorem isRecognized_spec {word : String} (h : isRecognized word = true) :
    (∃ c rest, word.toList = c :: rest ∧ isBaseCharacter c = true) ∧
      ∀ c ∈ word.toList, Chars.isBlank c = false := by
  rcases Bool.or_eq_true_iff.1 h with absolute | bare
  · have absolute : IsAbsolute word := isAbsolute_iff.1 absolute
    refine ⟨?_, absolute.not_blank⟩
    obtain ⟨first, scheme, rest, text, letter, -⟩ := absolute
    exact ⟨first, scheme ++ ':' :: '/' :: '/' :: rest, text,
      isBaseCharacter_of_schemeCharacter (isSchemeCharacter_of_letter letter)⟩
  · exact isBareHost_spec bare

/-! ## Words with a scheme -/

/-- A host ends in front of a plus sign or together with the scheme. -/
theorem dropWhile_isHostCharacter {scheme : List Char}
    (schemeCharacters : ∀ c ∈ scheme, isSchemeCharacter c = true) (rest : List Char) :
    (∃ more, (scheme ++ ':' :: rest).dropWhile isHostCharacter = '+' :: more) ∨
      (scheme ++ ':' :: rest).dropWhile isHostCharacter = ':' :: rest := by
  induction scheme with
  | nil => exact .inr rfl
  | cons c scheme ih =>
      obtain ⟨here, later⟩ := List.forall_mem_cons.1 schemeCharacters
      cases host : isHostCharacter c with
      | true =>
          rw [List.cons_append, List.dropWhile_cons_of_pos host]
          exact ih later
      | false =>
          have plus : c = '+' := by
            by_contra other
            rw [isHostCharacter_of_schemeCharacter here other] at host
            exact absurd host (by decide)
          subst plus
          exact .inl ⟨scheme ++ ':' :: rest, rfl⟩

/-- A bare host has no scheme: two slashes are no port, and a plus sign begins no path. -/
theorem not_isBareHost_of_hasScheme {url : String} (h : HasScheme url) :
    isBareHost url.toList = false := by
  obtain ⟨first, scheme, rest, text, letter, schemeCharacters⟩ := h
  -- The host ends before the scheme does or with it; then a plus sign or `://` follows.
  have noBracket : first ≠ '[' := by
    rintro rfl
    exact absurd letter (by decide)
  have all : ∀ c ∈ first :: scheme, isSchemeCharacter c = true :=
    List.forall_mem_cons.2 ⟨isSchemeCharacter_of_letter letter, schemeCharacters⟩
  have after : afterHost? url.toList =
      if isHostName (url.toList.takeWhile isHostCharacter) then
        some (url.toList.dropWhile isHostCharacter) else none := by
    rw [text]
    unfold afterHost?
    split
    · next same => exact absurd (List.cons.inj same).1 noBracket
    · simp only [List.span_eq_takeWhile_dropWhile]
  unfold isBareHost
  rw [after]
  split
  · next tail found =>
      split at found
      · rw [Option.bind_some, text, ← List.cons_append] at found
        rcases dropWhile_isHostCharacter all ('/' :: '/' :: rest) with ⟨more, plus⟩ | colon
        · rw [plus] at found
          obtain rfl : '+' :: more = tail := Option.some.inj found
          rfl
        · rw [colon] at found
          have digit : Chars.isDecimalDigit '/' = false := by decide
          exact absurd found (by simp [afterPort?, List.span_eq_takeWhile_dropWhile, digit])
      · exact absurd found (by simp)
  · rfl

/-- Of the words that are recognized, those with a scheme are the absolute ones. -/
theorem hasScheme_iff_isAbsolute {word : String} (recognized : isRecognized word = true) :
    HasScheme word ↔ IsAbsolute word := by
  refine ⟨fun scheme => ?_, IsAbsolute.hasScheme⟩
  rw [isRecognized, not_isBareHost_of_hasScheme scheme, Bool.or_false] at recognized
  exact isAbsolute_iff.1 recognized

/-- An address gets a scheme unless it contains `://`; then it has one only if it had. -/
theorem hasScheme_withScheme_iff (url : String) :
    HasScheme (withScheme url) ↔ HasScheme url ∨ Text.contains "://" url = false := by
  unfold withScheme
  cases found : Text.contains "://" url with
  | true => simp
  | false =>
      have added : HasScheme ("https://" ++ String.ofList (url.toList.dropWhile (· == '/'))) :=
        ⟨'h', "ttps".toList, url.toList.dropWhile (· == '/'), by simp, by decide,
          List.all_eq_true.1 (by decide)⟩
      simpa using added

/-- The scheme belongs to what is left of an address without query and fragment. -/
theorem hasScheme_splitQuery_iff (url : String) : HasScheme (splitQuery url).1 ↔ HasScheme url := by
  constructor
  · rintro ⟨first, scheme, rest, text, letter, schemeCharacters⟩
    have whole := List.takeWhile_append_dropWhile (p := isBaseCharacter) (l := url.toList)
    rw [← splitQuery_fst, text] at whole
    refine ⟨first, scheme, rest ++ url.toList.dropWhile isBaseCharacter, ?_, letter,
      schemeCharacters⟩
    exact whole.symm.trans (by simp)
  · rintro ⟨first, scheme, rest, text, letter, schemeCharacters⟩
    have base : ∀ c ∈ first :: (scheme ++ [':', '/', '/']), isBaseCharacter c = true := by
      have signs : ∀ c ∈ [':', '/', '/'], isBaseCharacter c = true :=
        List.all_eq_true.1 (by decide)
      simp only [List.forall_mem_cons, List.forall_mem_append] at signs ⊢
      exact ⟨isBaseCharacter_of_schemeCharacter (isSchemeCharacter_of_letter letter),
        fun c hc => isBaseCharacter_of_schemeCharacter (schemeCharacters c hc), signs⟩
    refine ⟨first, scheme, rest.takeWhile isBaseCharacter, ?_, letter, schemeCharacters⟩
    have parts : url.toList = first :: (scheme ++ [':', '/', '/']) ++ rest := by simp [text]
    rw [splitQuery_fst, parts, List.takeWhile_append_of_pos base]
    simp

/-- Something is left of a recognized word without query and fragment. -/
theorem splitQuery_withScheme_ne {word : String} (recognized : isRecognized word = true) :
    (splitQuery (withScheme word)).1 ≠ "" := by
  obtain ⟨⟨first, rest, text, base⟩, -⟩ := isRecognized_spec recognized
  have begins : ∃ c more, (withScheme word).toList = c :: more ∧ isBaseCharacter c = true := by
    unfold withScheme
    split
    · exact ⟨first, rest, text, base⟩
    · exact ⟨'h', "ttps://".toList ++ word.toList.dropWhile (· == '/'), by simp, by decide⟩
  obtain ⟨c, more, text, base⟩ := begins
  rw [← String.toList_inj.ne, splitQuery_fst, text, List.takeWhile_cons_of_pos base]
  simp

end Url

end RequestScribe
