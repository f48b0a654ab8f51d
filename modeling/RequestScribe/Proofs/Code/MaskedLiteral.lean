import RequestScribe.Proofs.Code.EscapedLiteral
import RequestScribe.Proofs.Code.Masked

/-!
# The literals of the languages

Every string literal that a generator writes is read as one literal, whatever
text it stands for: escapes keep the quote from ending it.
-/

namespace RequestScribe

namespace Lexis

variable {l : Lexis}

/-! ## Escapes -/

theorem kept_lowerHex {n : Nat} (small : n < 0xa0) {quote : Char}
    (known : quote = '\'' ∨ quote = '"') : Kept quote (Chars.lowerHex 4 n) := by
  have digits : ∀ n < 0xa0,
      (Chars.lowerHex 4 n).all (fun d => d != '\'' && d != '"' && d != '\\') := by
    decide +kernel
  refine .of_forall fun d mem => ?_
  have plain := List.all_eq_true.1 (digits n small) d mem
  simp only [Bool.and_eq_true, bne_iff_ne] at plain
  exact ⟨by rcases known with rfl | rfl <;> simp [plain], plain.2⟩

theorem kept_hex {n : Nat} (small : n < 0xa0) : Kept '"' (Nat.toDigits 16 n) := by
  have digits : ∀ n < 0xa0, (Nat.toDigits 16 n).all (fun d => d != '"' && d != '\\') := by
    decide +kernel
  refine .of_forall fun d mem => ?_
  simpa using List.all_eq_true.1 (digits n small) d mem

theorem lt_of_isControl {c : Char} (control : Chars.isControl c = true) : c.toNat < 0xa0 := by
  simp only [Chars.isControl, Bool.or_eq_true, Bool.and_eq_true, decide_eq_true_eq] at control
  omega

theorem kept_escapeCharacter {quote : Char} (known : quote = '\'' ∨ quote = '"') (c : Char) :
    Kept quote (StringLiteral.escapeCharacter quote c) := by
  unfold StringLiteral.escapeCharacter
  split_ifs with backslash _ _ _ own control
  · exact .escaped _ .nil
  · exact .escaped _ .nil
  · exact .escaped _ .nil
  · exact .escaped _ .nil
  · exact .escaped _ .nil
  · exact .escaped _ (kept_lowerHex (lt_of_isControl control) known)
  · exact .plain own backslash .nil

theorem kept_bracedCharacter (c : Char) : Kept '"' (StringLiteral.bracedCharacter c) := by
  unfold StringLiteral.bracedCharacter
  split_ifs with backslash own _ _ _ control
  · exact .escaped _ .nil
  · exact .escaped _ .nil
  · exact .escaped _ .nil
  · exact .escaped _ .nil
  · exact .escaped _ .nil
  · have braced := (kept_hex (lt_of_isControl control)).append
      (.plain (c := '\x7d') (by decide) (by decide) .nil)
    exact .escaped _ (.plain (by decide) (by decide) braced)
  · exact .plain own backslash .nil

theorem kept_jsonCharacter (c : Char) : Kept '"' (Json.escapeCharacter c) := by
  rcases Json.escapeCharacter_cases c with ⟨text, -, own, backslash⟩ | ⟨e, text, -⟩ |
    ⟨a, b, x, y, text, -, digits⟩
  · rw [text]
    exact .plain own backslash .nil
  · rw [text]
    exact .escaped e .nil
  · rw [text]
    exact .escaped 'u' (.of_forall fun d mem => (digits d mem).2)

/-! ## Literals -/

theorem isLiteral_enclose {quote : Char} (known : quote = '\'' ∨ quote = '"')
    (escaping : quote ∈ l.escaping) (s : String) :
    l.IsLiteral (StringLiteral.enclose quote (StringLiteral.escape quote s)).toList := by
  have apart : isQuote quote = true := by rcases known with rfl | rfl <;> decide
  rw [StringLiteral.toList_enclose]
  exact isLiteral_escaping escaping apart (.flatMap (kept_escapeCharacter known) s.toList)

theorem isLiteral_doubleBraced (escaping : '"' ∈ l.escaping) (s : String) :
    l.IsLiteral (StringLiteral.doubleBraced s).toList := by
  have text : (StringLiteral.doubleBraced s).toList =
      '"' :: (s.toList.flatMap StringLiteral.bracedCharacter ++ ['"']) := by
    simp [StringLiteral.doubleBraced, StringLiteral.enclose]
  rw [text]
  exact isLiteral_escaping escaping (by decide) (.flatMap kept_bracedCharacter s.toList)

theorem isLiteral_jsonQuoted (escaping : '"' ∈ l.escaping) (s : String) :
    l.IsLiteral (Json.quoted s).toList := by
  have text : (Json.quoted s).toList =
      '"' :: (s.toList.flatMap Json.escapeCharacter ++ ['"']) := by simp [Json.quoted]
  rw [text]
  exact isLiteral_escaping escaping (by decide) (.flatMap kept_jsonCharacter s.toList)

theorem isLiteral_name (escaping : '"' ∈ l.escaping) {name : String} (h : IsName name) :
    l.IsLiteral ("\"" ++ name ++ "\"").toList := by
  have text : ("\"" ++ name ++ "\"").toList = '"' :: (name.toList ++ ['"']) := by simp
  have kept : Kept '"' name.toList := by
    refine .of_forall fun c mem => ?_
    have letter := h.letters c mem
    constructor
    · rintro rfl
      exact absurd letter (by decide)
    · rintro rfl
      exact absurd letter (by decide)
  rw [text]
  exact isLiteral_escaping escaping (by decide) kept

end Lexis

end RequestScribe
