import RequestScribe.Proofs.Code.Level
import RequestScribe.Proofs.Json.Lexeme

/-!
# Reading literals with C-style escapes

A reader takes the inside of a literal up to the quote that ends it and gives
its text and what comes after.  It knows a backslash, the quote, the letters n,
r and t and four hexadecimal digits after a backslash, and no other escapes; a
line break ends no literal, so it refuses one.  Every text comes back from the
literal that is written for it, and the literal stands on one line.
-/

namespace RequestScribe

namespace StringLiteral

/-- The character that a backslash and a letter stand for. -/
def escaped? (quote e : Char) : Option Char :=
  if e = '\\' ∨ e = quote then some e
  else
    match e with
    | 'n' => some '\n'
    | 'r' => some '\r'
    | 't' => some '\t'
    | _ => none

/-- The text of a literal up to its closing quote, and what follows the quote. -/
def readEscaped (quote : Char) : List Char → Option (List Char × List Char)
  | [] => none
  | c :: rest =>
      if c = quote then some ([], rest)
      else if c = '\n' ∨ c = '\r' then none
      else if c = '\\' then
        match rest with
        | [] => none
        | 'u' :: x :: y :: z :: t :: after =>
            match Json.hex4? x y z t, readEscaped quote after with
            | some n, some (text, rest) =>
                if n.isValidChar then some (Chars.ofCodePoint n :: text, rest) else none
            | _, _ => none
        | e :: after =>
            match escaped? quote e, readEscaped quote after with
            | some d, some (text, rest) => some (d :: text, rest)
            | _, _ => none
      else
        match readEscaped quote rest with
        | some (text, rest) => some (c :: text, rest)
        | none => none

variable {quote : Char}

theorem escapeCharacter_cases (known : quote = '\'' ∨ quote = '"') (c : Char) :
    (escapeCharacter quote c = [c] ∧ c ≠ quote ∧ ¬ (c = '\n' ∨ c = '\r') ∧ c ≠ '\\') ∨
      (∃ e, escapeCharacter quote c = ['\\', e] ∧ escaped? quote e = some c ∧ e ≠ 'u' ∧
        0x20 ≤ e.toNat) ∨
      ∃ x y z t, escapeCharacter quote c = ['\\', 'u', x, y, z, t] ∧
        Json.hex4? x y z t = some c.toNat ∧ ∀ d ∈ [x, y, z, t], 0x20 ≤ d.toNat := by
  obtain ⟨n, r, t⟩ : 'n' ≠ quote ∧ 'r' ≠ quote ∧ 't' ≠ quote := by
    rcases known with rfl | rfl <;> decide
  by_cases backslash : c = '\\'
  · subst backslash
    exact .inr (.inl ⟨'\\', rfl, by simp [escaped?], by decide⟩)
  by_cases feed : c = '\n'
  · subst feed
    exact .inr (.inl ⟨'n', rfl, by simp [escaped?, n], by decide⟩)
  by_cases carriage : c = '\r'
  · subst carriage
    exact .inr (.inl ⟨'r', rfl, by simp [escaped?, r], by decide⟩)
  by_cases tab : c = '\t'
  · subst tab
    exact .inr (.inl ⟨'t', rfl, by simp [escaped?, t], by decide⟩)
  have text : escapeCharacter quote c =
      if c = quote then ['\\', c]
      else if Chars.isControl c then '\\' :: 'u' :: Chars.lowerHex 4 c.toNat else [c] := by
    rw [escapeCharacter, if_neg backslash, if_neg feed, if_neg carriage, if_neg tab]
  by_cases own : c = quote
  · have plain : c ≠ 'u' ∧ 0x20 ≤ c.toNat := by
      subst own
      rcases known with rfl | rfl <;> decide
    rw [if_pos own] at text
    exact .inr (.inl ⟨c, text, by simp [escaped?, own], plain⟩)
  by_cases control : Chars.isControl c = true
  · have small : c.toNat < 0xa0 := by
      simp only [Chars.isControl, Bool.or_eq_true, Bool.and_eq_true, decide_eq_true_eq] at control
      omega
    obtain ⟨x, y, z, t, digits, value, plain⟩ := Json.hex4?_lowerHex small
    rw [if_neg own, if_pos control, digits] at text
    exact .inr (.inr ⟨x, y, z, t, text, value, fun d mem => (plain d mem).1⟩)
  · rw [if_neg own, if_neg control] at text
    exact .inl ⟨text, own, not_or.2 ⟨feed, carriage⟩, backslash⟩

theorem inLine_escapeCharacter (known : quote = '\'' ∨ quote = '"') (c : Char) :
    Chars.InLine (escapeCharacter quote c) := by
  have printable {d : Char} (h : 0x20 ≤ d.toNat) : d ≠ '\n' ∧ d ≠ '\r' := by
    constructor
    · rintro rfl
      exact absurd h (by decide)
    · rintro rfl
      exact absurd h (by decide)
  rcases escapeCharacter_cases known c with ⟨written, -, inLine, -⟩ | ⟨e, written, -, -, plain⟩ |
    ⟨x, y, z, t, written, -, digits⟩
  · rw [written]
    exact List.forall_mem_singleton.2 (not_or.1 inLine)
  · rw [written]
    exact List.forall_mem_cons.2 ⟨by decide, List.forall_mem_singleton.2 (printable plain)⟩
  · rw [written]
    exact List.forall_mem_cons.2 ⟨by decide, List.forall_mem_cons.2
      ⟨by decide, fun d mem => printable (digits d mem)⟩⟩

theorem toList_enclose (quote : Char) (s : String) :
    (enclose quote (escape quote s)).toList =
      quote :: (s.toList.flatMap (escapeCharacter quote) ++ [quote]) := by
  simp [enclose, escape]

theorem inLine_enclose (known : quote = '\'' ∨ quote = '"') (s : String) :
    Chars.InLine (enclose quote (escape quote s)).toList := by
  have own : quote ≠ '\n' ∧ quote ≠ '\r' := by
    rcases known with rfl | rfl <;> decide
  have inside : ∀ d ∈ s.toList.flatMap (escapeCharacter quote), d ≠ '\n' ∧ d ≠ '\r' := by
    intro d mem
    obtain ⟨c, -, mem⟩ := List.mem_flatMap.1 mem
    exact inLine_escapeCharacter known c d mem
  rw [toList_enclose]
  exact List.forall_mem_cons.2 ⟨own,
    List.forall_mem_append.2 ⟨inside, List.forall_mem_singleton.2 own⟩⟩

theorem ofCodePoint_toNat (c : Char) : Chars.ofCodePoint c.toNat = c :=
  dif_pos c.valid

theorem readEscaped_escapeCharacter (known : quote = '\'' ∨ quote = '"') (c : Char)
    {rest text after : List Char} (h : readEscaped quote rest = some (text, after)) :
    readEscaped quote (escapeCharacter quote c ++ rest) = some (c :: text, after) := by
  have slash : '\\' ≠ quote := by
    rcases known with rfl | rfl <;> decide
  rcases escapeCharacter_cases known c with ⟨written, plain, inLine, backslash⟩ |
    ⟨e, written, value, letter, -⟩ | ⟨x, y, z, t, written, value, -⟩
  · rw [written, List.singleton_append, readEscaped.eq_def]
    simp [plain, inLine, backslash, h]
  · rw [written, readEscaped.eq_def]
    simp [slash, value, letter, h]
  · have valid : c.toNat.isValidChar := c.valid
    have inLine : ¬ ('\\' = '\n' ∨ '\\' = '\r') := by decide
    rw [written, readEscaped.eq_def]
    simp only [List.cons_append, List.nil_append, if_neg slash, if_neg inLine, if_true]
    rw [value, h]
    simp only [if_pos valid, ofCodePoint_toNat]

/-- What is written for a text is read as the text, up to the closing quote. -/
theorem readEscaped_escape (known : quote = '\'' ∨ quote = '"') (cs after : List Char) :
    readEscaped quote (cs.flatMap (escapeCharacter quote) ++ quote :: after) =
      some (cs, after) := by
  induction cs with
  | nil => rw [List.flatMap_nil, List.nil_append, readEscaped.eq_def]; simp
  | cons c rest ih =>
      rw [List.flatMap_cons, List.append_assoc]
      exact readEscaped_escapeCharacter known c ih

end StringLiteral

end RequestScribe
