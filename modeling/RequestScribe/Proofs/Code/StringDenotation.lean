import RequestScribe.Program.Go
import RequestScribe.Program.Php
import RequestScribe.Program.Python
import RequestScribe.Program.Ruby
import RequestScribe.Program.Rust
import RequestScribe.Program.Script
import RequestScribe.Proofs.Code.Literal
import RequestScribe.Proofs.Code.MaskedLiteral
import RequestScribe.Proofs.Code.StringGrammar
import RequestScribe.Proofs.Code.StringLiteral
import RequestScribe.Proofs.Text.Chars

/-!
# Strings in programs

What each language's writer puts between quotes is a literal of the language for
the text that was given.  Three languages share the C-style escapes, and all they
have to agree about is what those escapes denote.
-/

namespace RequestScribe

namespace StringGrammar

variable {g : StringGrammar}

/-! ## C-style escapes -/

/-- The characters that may stand behind a backslash, and what they denote there. -/
def escapedLetters (quote : Char) : List (Char × Char) :=
  [('\\', '\\'), (quote, quote), ('n', '\n'), ('r', '\r'), ('t', '\t')]

theorem mem_escapedLetters {quote e c : Char} (h : StringLiteral.escaped? quote e = some c) :
    (e, c) ∈ escapedLetters quote := by
  unfold StringLiteral.escaped? at h
  split at h
  · next itself =>
      obtain rfl := Option.some.inj h
      rcases itself with rfl | rfl <;> simp [escapedLetters]
  · split at h
    · cases h
      simp [escapedLetters]
    · cases h
      simp [escapedLetters]
    · cases h
      simp [escapedLetters]
    · cases h

structure HasCEscapes (g : StringGrammar) : Prop where
  known : g.quote = '\'' ∨ g.quote = '"'
  lines : ∀ c ∈ g.breaks, c = '\n' ∨ c = '\r'
  letter : ∀ p ∈ escapedLetters g.quote, ∀ rest, g.escape? (p.1 :: rest) = some (g.units p.2, 1)
  codePoint : ∀ {x y z t c : Char}, Json.hex4? x y z t = some c.toNat →
    ∀ rest, g.escape? ('u' :: x :: y :: z :: t :: rest) = some (g.units c, 5)

namespace HasCEscapes

theorem slash (h : g.HasCEscapes) : '\\' ≠ g.quote := by
  rcases h.known with quote | quote <;> rw [quote] <;> decide

theorem reads (h : g.HasCEscapes) (c : Char) :
    g.Reads (StringLiteral.escapeCharacter g.quote c) (g.units c) := by
  rcases StringLiteral.escapeCharacter_cases h.known c with ⟨written, other, inLine, unescaped⟩ |
    ⟨e, written, value, -, -⟩ | ⟨x, y, z, t, written, value, -⟩
  · rw [written]
    exact .plain other unescaped fun mem => inLine (h.lines c mem)
  · rw [written]
    exact .escaped h.slash (h.letter (e, c) (mem_escapedLetters value))
  · rw [written]
    exact .escaped h.slash (h.codePoint value)

theorem writes (h : g.HasCEscapes) (s : String) :
    g.Writes (StringLiteral.enclose g.quote (StringLiteral.escape g.quote s)) s := by
  have inside : (StringLiteral.escape g.quote s).toList =
      s.toList.flatMap (StringLiteral.escapeCharacter g.quote) := String.toList_ofList
  apply Reads.writes
  · rw [inside]
    exact .flatMap fun c _ => h.reads c
  · rw [inside]
    exact .flatMap (Lexis.kept_escapeCharacter h.known) s.toList

end HasCEscapes

theorem hexAt?_of_hex4? {x y z t : Char} {n : Nat} (h : Json.hex4? x y z t = some n)
    (rest : List Char) : hexAt? 4 (x :: y :: z :: t :: rest) = some n ∧ n < 0x10000 := by
  unfold Json.hex4? at h
  split at h
  · next a b c d first second third fourth =>
      have := (Chars.hexValue?_small first).1
      have := (Chars.hexValue?_small second).1
      have := (Chars.hexValue?_small third).1
      have := (Chars.hexValue?_small fourth).1
      have value := Option.some.inj h
      refine ⟨?_, by omega⟩
      simp [hexAt?, hexNumber?, first, second, third, fourth]
      omega
  · cases h

theorem utf8?_toNat (c : Char) : Units.utf8? c.toNat = some (Units.utf8 c) := by
  have valid : c.toNat.isValidChar := c.valid
  rw [Units.utf8?, if_pos valid, StringLiteral.ofCodePoint_toNat]

theorem hasCEscapes_javaScript : javaScript.HasCEscapes where
  known := .inl rfl
  lines := by simp [javaScript]
  letter := List.forall_iff_forall_mem.1
    ⟨fun _ => rfl, fun _ => rfl, fun _ => rfl, fun _ => rfl, fun _ => rfl⟩
  codePoint {x y z t c} h rest := by
    obtain ⟨value, small⟩ := hexAt?_of_hex4? h rest
    have digit : x ≠ '\x7b' := by
      rintro rfl
      cases h
    show javaScriptEscape? ('u' :: x :: y :: z :: t :: rest) = some (Units.utf16 c.toNat, 5)
    rw [javaScriptEscape?, value, Units.utf16, if_pos small]
    · rfl
    · simp [digit]

theorem hasCEscapes_python : python.HasCEscapes where
  known := .inr rfl
  lines := by simp [python]
  letter := List.forall_iff_forall_mem.1
    ⟨fun _ => rfl, fun _ => rfl, fun _ => rfl, fun _ => rfl, fun _ => rfl⟩
  codePoint {x y z t c} h rest := by
    show pythonEscape? ('u' :: x :: y :: z :: t :: rest) = some (Units.codePoint c, 5)
    rw [pythonEscape?, (hexAt?_of_hex4? h rest).1]
    rfl

theorem hasCEscapes_go : go.HasCEscapes where
  known := .inr rfl
  lines := by simp [go]
  letter := List.forall_iff_forall_mem.1
    ⟨fun _ => rfl, fun _ => rfl, fun _ => rfl, fun _ => rfl, fun _ => rfl⟩
  codePoint {x y z t c} h rest := by
    show goEscape? ('u' :: x :: y :: z :: t :: rest) = some (Units.utf8 c, 5)
    rw [goEscape?, (hexAt?_of_hex4? h rest).1, Option.bind_some, utf8?_toNat]
    rfl

/-! ## Braces and single quotes -/

/-- A control character in the digits of its code point. -/
theorem rustEscape?_braced {n : Nat} (small : n < 0xa0) (rest : List Char) :
    rustEscape? ('u' :: '\x7b' :: (Nat.toDigits 16 n ++ '\x7d' :: rest)) =
      (Units.utf8? n).map fun bytes => (bytes, (Nat.toDigits 16 n).length + 3) := by
  have digits : ∀ n < 0xa0, let digits := Nat.toDigits 16 n
      '\x7d' ∉ digits ∧ digits.filter (· != '_') = digits ∧
        (digits.isEmpty || 6 < digits.length || digits.head? == some '_') = false ∧
        hexNumber? digits = some n := by
    decide +kernel
  obtain ⟨unclosed, plain, written, value⟩ := digits n small
  rw [rustEscape?, Chars.cut?_append unclosed]
  simp only [Option.bind_some, plain, written, value, Bool.false_eq_true, if_false]

theorem reads_bracedCharacter (c : Char) :
    rust.Reads (StringLiteral.bracedCharacter c) (Units.utf8 c) := by
  have slash : '\\' ≠ rust.quote := by decide
  unfold StringLiteral.bracedCharacter
  split_ifs with backslash own feed carriage tab control
  · rw [backslash]
    exact .escaped slash fun _ => rfl
  · rw [own]
    exact .escaped slash fun _ => rfl
  · rw [feed]
    exact .escaped slash fun _ => rfl
  · rw [carriage]
    exact .escaped slash fun _ => rfl
  · rw [tab]
    exact .escaped slash fun _ => rfl
  · refine .escaped slash fun rest => ?_
    have read := rustEscape?_braced (Lexis.lt_of_isControl control) rest
    rw [utf8?_toNat] at read
    simpa [rust] using read
  · exact .plain own backslash (by simpa [rust] using carriage)

theorem writes_doubleBraced (s : String) : rust.Writes (StringLiteral.doubleBraced s) s := by
  apply Reads.writes
  · rw [String.toList_ofList]
    exact .flatMap fun c _ => reads_bracedCharacter c
  · rw [String.toList_ofList]
    exact .flatMap Lexis.kept_bracedCharacter s.toList

theorem reads_plainCharacter (c : Char) :
    singlePlain.Reads (StringLiteral.plainCharacter c) (Units.utf8 c) := by
  have slash : '\\' ≠ singlePlain.quote := by decide
  rcases StringLiteral.plainCharacter_cases c with ⟨rfl | rfl, written⟩ |
    ⟨⟨unescaped, other⟩, written⟩
  · rw [written]
    exact .escaped slash fun _ => rfl
  · rw [written]
    exact .escaped slash fun _ => rfl
  · rw [written]
    exact .plain other unescaped List.not_mem_nil

theorem kept_plainCharacter (c : Char) : Lexis.Kept '\'' (StringLiteral.plainCharacter c) := by
  rcases StringLiteral.plainCharacter_cases c with ⟨-, written⟩ | ⟨⟨unescaped, other⟩, written⟩
  · rw [written]
    exact .escaped c .nil
  · rw [written]
    exact .plain other unescaped .nil

theorem writes_singlePlain (s : String) : singlePlain.Writes (StringLiteral.singlePlain s) s := by
  apply Reads.writes
  · rw [String.toList_ofList]
    exact .flatMap fun c _ => reads_plainCharacter c
  · rw [String.toList_ofList]
    exact .flatMap kept_plainCharacter s.toList

/-! ## All languages -/

/--
A text that a generator writes as a string is a literal of the target language
for exactly this text, and only its last quote can end it.
-/
theorem writes_string (s : String) :
    javaScript.Writes (Script.string s).text s ∧ python.Writes (Python.string s).text s ∧
      go.Writes (Go.string s).text s ∧ rust.Writes (Rust.string s).text s ∧
      singlePlain.Writes (Php.string s).text s ∧ singlePlain.Writes (Ruby.string s).text s := by
  unfold Script.string Python.string Go.string Rust.string Php.string Ruby.string
  simp only [Code.text_quoted]
  exact ⟨hasCEscapes_javaScript.writes s, hasCEscapes_python.writes s, hasCEscapes_go.writes s,
    writes_doubleBraced s, writes_singlePlain s, writes_singlePlain s⟩

end StringGrammar

end RequestScribe
