import Mathlib.Algebra.Group.Nat.Defs
import Mathlib.Data.List.Chain
import RequestScribe.Proofs.Shell.Spelling
import RequestScribe.Proofs.Text.Chars

/-!
# Dollar-quoted strings

The content of a string that opens with a dollar sign and a quote, part by part: characters
that stand for themselves, escapes of one letter, and code points in hexadecimal digits.  How
many digits belong to a code point is seen only at the character after the last of them.  If there
are any, that character is read once more, as the first of the next part.  If there are none, it
is lost.
-/

namespace RequestScribe

namespace Shell

def letterEscapes : List (Char × Char) :=
  [ ('n', '\n'), ('t', '\t'), ('r', '\r'), ('0', '\x00'), ('e', '\x1b'), ('E', '\x1b'),
    ('\\', '\\'), ('\'', '\''), ('"', '"'), ('?', '?') ]

inductive CodeEscape where
  | byte
  | unit
  deriving DecidableEq, Repr

namespace CodeEscape

def letter : CodeEscape → Char
  | .byte => 'x'
  | .unit => 'u'

def width : CodeEscape → Nat
  | .byte => 2
  | .unit => 4

end CodeEscape

def isHex (c : Char) : Bool :=
  (Chars.hexValue? c).isSome

def hexOnto (value : Nat) (digits : List Char) : Nat :=
  digits.foldl (fun n digit => n * 16 + (Chars.hexValue? digit).getD 0) value

/-- The character of a code point; surrogates have none. -/
def characterOf (n : Nat) : Char :=
  if 0xD800 ≤ n ∧ n ≤ 0xDFFF then '\ufffd' else Char.ofNat n

inductive AnsiPart where
  | raw (c : Char) (plain : c ≠ '\\' ∧ c ≠ '\'')
  | escape (letter value : Char) (known : (letter, value) ∈ letterEscapes)
  | code (kind : CodeEscape) (digits : List Char) (hex : digits.all isHex = true)
      (fits : digits.length ≤ kind.width)
  deriving Repr

namespace AnsiPart

def text : AnsiPart → List Char
  | .raw c _ => [c]
  | .escape letter _ _ => ['\\', letter]
  | .code kind digits _ _ => '\\' :: kind.letter :: digits

/-- What a part stands for; without digits the escape of a code point is kept as written. -/
def value : AnsiPart → List Char
  | .raw c _ => [c]
  | .escape _ value _ => [value]
  | .code kind digits _ _ =>
      if digits.isEmpty then ['\\', kind.letter] else [characterOf (hexOnto 0 digits)]

theorem exists_text_eq (p : AnsiPart) : ∃ c rest, p.text = c :: rest := by
  cases p with
  | raw c plain => exact ⟨c, [], rfl⟩
  | escape letter value known => exact ⟨'\\', [letter], rfl⟩
  | code kind digits hex fits => exact ⟨'\\', kind.letter :: digits, rfl⟩

/-- Whether a further digit would belong to the part. -/
def isOpen : AnsiPart → Bool
  | .code kind digits _ _ => digits.length < kind.width
  | _ => false

def isBlank : AnsiPart → Bool
  | .code _ digits _ _ => digits.isEmpty
  | _ => false

end AnsiPart

/-- Parts that can be told apart: no digit follows a code point that could have another one. -/
def AreApart (parts : List AnsiPart) : Prop :=
  parts.IsChain fun p q => p.isOpen = true → q.text.head?.any isHex = false

instance : DecidablePred AreApart := fun parts =>
  inferInstanceAs (Decidable (parts.IsChain fun p q =>
    p.isOpen = true → q.text.head?.any isHex = false))

def ansiText (parts : List AnsiPart) : List Char :=
  '$' :: '\'' :: (parts.flatMap AnsiPart.text ++ ['\''])

/-! ## Code points -/

theorem hexOnto_cons (value : Nat) {d : Char} {n : Nat} (digit : Chars.hexValue? d = some n)
    (digits : List Char) : hexOnto value (d :: digits) = hexOnto (value * 16 + n) digits := by
  simp [hexOnto, digit]

theorem hexOnto_lt {digits : List Char} (hex : digits.all isHex = true) (value : Nat) :
    hexOnto value digits < (value + 1) * 16 ^ digits.length := by
  induction digits generalizing value with
  | nil => simp [hexOnto]
  | cons d digits ih =>
      rw [List.all_cons, Bool.and_eq_true] at hex
      obtain ⟨first, later⟩ := hex
      obtain ⟨n, digit⟩ := Option.isSome_iff_exists.1 first
      have small := (Chars.hexValue?_small digit).1
      calc hexOnto value (d :: digits)
          = hexOnto (value * 16 + n) digits := hexOnto_cons value digit digits
        _ < (value * 16 + n + 1) * 16 ^ digits.length := ih later _
        _ ≤ (value + 1) * 16 * 16 ^ digits.length := Nat.mul_le_mul_right _ (by omega)
        _ = (value + 1) * 16 ^ (d :: digits).length := by
            rw [List.length_cons, Nat.pow_succ, Nat.mul_assoc, Nat.mul_comm 16]

/-- Four digits make a character, or a surrogate. -/
theorem ofCodePoint_eq {n : Nat} (small : n < 0x10000) : Chars.ofCodePoint n = characterOf n := by
  unfold Chars.ofCodePoint characterOf
  by_cases surrogate : 0xD800 ≤ n ∧ n ≤ 0xDFFF
  · have none : ¬n.isValidChar := by
      unfold Nat.isValidChar
      omega
    rw [dif_neg none, if_pos surrogate]
  · have valid : n.isValidChar := by
      unfold Nat.isValidChar
      omega
    rw [dif_pos valid, if_neg surrogate, Char.ofNat, dif_pos valid]

namespace Scan

/-- A character that is looked at again is read as if what came before it had ended. -/
theorem feed_replay {kind : Char} {left read value : Nat} (some : read ≠ 0) {c : Char}
    (other : isHex c = false) (next : Option Char) (done : List (List Char)) (word : List Char) :
    feed ⟨.ansiHex kind left read value, done, word, true⟩ c next =
      feed ⟨.ansi, done, Chars.ofCodePoint value :: word, true⟩ c next := by
  have none : Chars.hexValue? c = none := by simpa [isHex] using other
  have once : steps .ansi c next = [step .ansi c next] := by
    by_cases quote : c = '\''
    · subst quote
      rfl
    · by_cases slash : c = '\\'
      · subst slash
        rfl
      · simp [steps, step, quote, slash]
  have again : steps (.ansiHex kind left read value) c next =
      [(.ansi, .replay (Chars.ofCodePoint value)), step .ansi c next] := by
    simp [steps, step, none, some]
  rw [feed, feed, once, again]
  rfl

/--
Digits are read up to the width of the escape, or up to a character that is
none.  The induction is on the digits, for any number of them that is left.
-/
theorem run_digits (kind : Char) {digits : List Char} (hex : digits.all isHex = true)
    {left read : Nat} (value : Nat) (room : digits.length ≤ left) (positive : 0 < left)
    (some : read + digits.length ≠ 0) {c : Char} (stop : digits.length < left → isHex c = false)
    (done : List (List Char)) (word rest : List Char) :
    run ⟨.ansiHex kind left read value, done, word, true⟩ (digits ++ c :: rest) =
      run ⟨.ansi, done, Chars.ofCodePoint (hexOnto value digits) :: word, true⟩ (c :: rest) := by
  induction digits generalizing left read value with
  | nil =>
      rw [List.nil_append, run, feed_replay (by simpa using some) (stop positive)]
      rfl
  | cons d digits ih =>
      rw [List.all_cons, Bool.and_eq_true] at hex
      obtain ⟨first, later⟩ := hex
      obtain ⟨n, digit⟩ := Option.isSome_iff_exists.1 first
      rw [List.length_cons] at room some stop
      rw [hexOnto_cons value digit, List.cons_append, run]
      by_cases last : left = 1
      · have none : digits = [] := List.eq_nil_of_length_eq_zero (by omega)
        subst none
        simp [feed, steps, step, digit, last, record, push, hexOnto]
      · have fed (next : Option Char) :
            feed ⟨.ansiHex kind left read value, done, word, true⟩ d next =
              ⟨.ansiHex kind (left - 1) (read + 1) (value * 16 + n), done, word, true⟩ := by
          simp [feed, steps, step, digit, last, record]
        rw [fed]
        exact ih later _ (by omega) (by omega) (by omega) fun fewer => stop (by omega)

theorem run_part {p : AnsiPart} (read : p.isBlank = false) {c : Char}
    (stop : p.isOpen = true → isHex c = false) (done : List (List Char)) (word rest : List Char) :
    run ⟨.ansi, done, word, true⟩ (p.text ++ c :: rest) =
      run ⟨.ansi, done, p.value.reverse ++ word, true⟩ (c :: rest) := by
  cases p with
  | raw d plain =>
      simp [AnsiPart.text, AnsiPart.value, run, feed, steps, step, record, push, plain]
  | escape letter value known =>
      have taken (next : Option Char) : steps .ansiEscaped letter next = [(.ansi, .push value)] := by
        simp only [letterEscapes, List.mem_cons, Prod.mk.injEq, List.not_mem_nil, or_false] at known
        rcases known with ⟨rfl, rfl⟩ | ⟨rfl, rfl⟩ | ⟨rfl, rfl⟩ | ⟨rfl, rfl⟩ | ⟨rfl, rfl⟩ |
          ⟨rfl, rfl⟩ | ⟨rfl, rfl⟩ | ⟨rfl, rfl⟩ | ⟨rfl, rfl⟩ | ⟨rfl, rfl⟩ <;> rfl
      have opened : run ⟨.ansi, done, word, true⟩ ('\\' :: letter :: c :: rest) =
          run (feed ⟨.ansiEscaped, done, word, true⟩ letter (some c)) (c :: rest) := rfl
      have fed : feed ⟨.ansiEscaped, done, word, true⟩ letter (some c) =
          ⟨.ansi, done, value :: word, true⟩ := by
        simp [feed, taken, record, push]
      rw [AnsiPart.text, List.cons_append, List.cons_append, List.nil_append, opened, fed]
      rfl
  | code kind digits hex fits =>
      have some : digits ≠ [] := by simpa [AnsiPart.isBlank] using read
      have opened : run ⟨.ansi, done, word, true⟩
          ('\\' :: kind.letter :: (digits ++ c :: rest)) =
          run ⟨.ansiHex kind.letter kind.width 0 0, done, word, true⟩ (digits ++ c :: rest) := by
        cases kind <;> rfl
      have wide : 0 < kind.width := by cases kind <;> decide
      have small : hexOnto 0 digits < 0x10000 := by
        have bound := hexOnto_lt hex 0
        have four : digits.length ≤ 4 := fits.trans (by cases kind <;> decide)
        have power : 16 ^ digits.length ≤ 16 ^ 4 := Nat.pow_le_pow_right (by decide) four
        omega
      have open_iff : digits.length < kind.width → isHex c = false := fun fewer =>
        stop (by simpa [AnsiPart.isOpen] using fewer)
      rw [AnsiPart.text, List.cons_append, List.cons_append, opened,
        run_digits kind.letter hex 0 fits wide (by simpa using some) open_iff,
        ofCodePoint_eq small, AnsiPart.value, if_neg (by simpa using some)]
      rfl

theorem run_parts {parts : List AnsiPart} (apart : AreApart parts)
    (read : parts.any AnsiPart.isBlank = false) {c : Char} (stop : isHex c = false)
    (done : List (List Char)) (word rest : List Char) :
    run ⟨.ansi, done, word, true⟩ (parts.flatMap AnsiPart.text ++ c :: rest) =
      run ⟨.ansi, done, (parts.flatMap AnsiPart.value).reverse ++ word, true⟩ (c :: rest) := by
  induction parts generalizing word with
  | nil => rfl
  | cons p parts ih =>
      rw [List.any_cons, Bool.or_eq_false_iff] at read
      obtain ⟨first, later⟩ := read
      have tail := ih (List.IsChain.tail apart) later
      -- The character after the part begins the next part, or is the one behind all of them.
      obtain ⟨next, more, split, ends⟩ : ∃ next more,
          parts.flatMap AnsiPart.text ++ c :: rest = next :: more ∧
            (p.isOpen = true → isHex next = false) := by
        cases parts with
        | nil => exact ⟨c, rest, rfl, fun _ => stop⟩
        | cons q parts =>
            obtain ⟨next, more, text⟩ := q.exists_text_eq
            refine ⟨next, more ++ (parts.flatMap AnsiPart.text ++ c :: rest), ?_, fun fewer => ?_⟩
            · rw [List.flatMap_cons, text, List.append_assoc, List.cons_append]
            · simpa [text] using (List.isChain_cons_cons.1 apart).1 fewer
      rw [List.flatMap_cons, List.append_assoc, split, run_part first ends, ← split, tail,
        List.flatMap_cons, List.reverse_append, List.append_assoc]

/-- The character after an escape without digits is lost. -/
theorem run_blank (kind : CodeEscape) {c : Char} (stop : isHex c = false) (done : List (List Char))
    (word rest : List Char) :
    run ⟨.ansi, done, word, true⟩ ('\\' :: kind.letter :: c :: rest) =
      run ⟨.ansi, done, kind.letter :: '\\' :: word, true⟩ rest := by
  have none : Chars.hexValue? c = none := by simpa [isHex] using stop
  cases kind <;>
    simp [run, feed, steps, step, none, record, push, CodeEscape.letter]

end Scan

/-- A string by itself is scanned from its first part on. -/
theorem scanWords_ansi (content : List Char) :
    scanWords ('$' :: '\'' :: content) = (Scan.run ⟨.ansi, [], [], true⟩ content).finish :=
  rfl

theorem joinContinuations_ansi {content : List Char} (joined : ¬HasContinuation content) :
    joinContinuations (String.ofList ('$' :: '\'' :: content)).toList = '$' :: '\'' :: content := by
  rw [String.toList_ofList]
  refine joinContinuations_of_not ?_
  rw [hasContinuation_cons, hasContinuation_cons]
  simpa using joined

/-- The closing quote adds no continuation. -/
theorem hasContinuation_closed (content : List Char) :
    HasContinuation (content ++ ['\'']) ↔ HasContinuation content := by
  rw [hasContinuation_append (by simp [StartsInLine])]
  exact or_iff_left (by decide)

/-- After an escape without digits there is a character that is none. -/
theorem exists_head_of_blank {p : AnsiPart} (blank : p.isBlank = true) {after : List AnsiPart}
    (apart : AreApart (p :: after)) :
    ∃ c rest, after.flatMap AnsiPart.text ++ ['\''] = c :: rest ∧ isHex c = false := by
  have fewer : p.isOpen = true := by
    cases p with
    | raw c plain => exact Bool.noConfusion blank
    | escape letter value known => exact Bool.noConfusion blank
    | code kind digits hex fits =>
        have none : digits = [] := by simpa [AnsiPart.isBlank] using blank
        subst none
        cases kind <;> rfl
  cases after with
  | nil => exact ⟨'\'', [], rfl, by decide⟩
  | cons q after =>
      obtain ⟨c, rest, text⟩ := q.exists_text_eq
      refine ⟨c, rest ++ (after.flatMap AnsiPart.text ++ ['\'']), ?_, ?_⟩
      · rw [List.flatMap_cons, text, List.append_assoc, List.cons_append]
      · simpa [text] using (List.isChain_cons_cons.1 apart).1 fewer

/--
A string is decoded part by part if all of its code points have digits.  Otherwise the first
escape without digits is read as a backslash and a letter, and the character after it, be it
the closing quote, is not read at all.
-/
theorem tokenize_ansi {parts : List AnsiPart} (apart : AreApart parts)
    (joined : ¬HasContinuation (parts.flatMap AnsiPart.text)) :
    (parts.any AnsiPart.isBlank = false →
        tokenize (String.ofList (ansiText parts)) =
          .ok [String.ofList (parts.flatMap AnsiPart.value)]) ∧
      ∀ before kind hex fits after, parts = before ++ .code kind [] hex fits :: after →
        before.any AnsiPart.isBlank = false →
        tokenize (String.ofList (ansiText parts)) =
          tokenize (String.ofList ('$' :: '\'' :: (before.flatMap AnsiPart.text ++
            '\\' :: '\\' :: kind.letter :: (after.flatMap AnsiPart.text ++ ['\'']).tail))) := by
  have closed := (hasContinuation_closed _).not.2 joined
  refine ⟨fun read => ?_, ?_⟩
  · rw [tokenize_eq_ok_iff, ansiText, joinContinuations_ansi closed, scanWords_ansi,
      Scan.run_parts apart read (by decide)]
    simp [Scan.run, Scan.feed, steps, step, Scan.record, Scan.finish, Scan.split]
  · rintro before kind hex fits after rfl read
    obtain ⟨earlier, own, -⟩ := List.isChain_append.1 apart
    obtain ⟨c, rest, split, stop⟩ := exists_head_of_blank rfl own
    have content : (before ++ .code kind [] hex fits :: after).flatMap AnsiPart.text ++ ['\''] =
        before.flatMap AnsiPart.text ++ '\\' :: kind.letter :: c :: rest := by
      rw [List.flatMap_append, List.flatMap_cons, List.append_assoc, List.append_assoc, split]
      rfl
    rw [content] at closed
    have shorter : ¬HasContinuation (before.flatMap AnsiPart.text ++
        '\\' :: '\\' :: kind.letter :: rest) := by
      rw [hasContinuation_append (by simp [StartsInLine])] at closed ⊢
      simp only [hasContinuation_cons, startsBreak_cons] at closed ⊢
      cases kind <;> simp_all [CodeEscape.letter]
    have kept (done : List (List Char)) (word : List Char) :
        Scan.run ⟨.ansi, done, word, true⟩ ('\\' :: '\\' :: kind.letter :: rest) =
          Scan.run ⟨.ansi, done, kind.letter :: '\\' :: word, true⟩ rest := by
      cases kind <;> rfl
    have same : scanWords ('$' :: '\'' :: (before.flatMap AnsiPart.text ++
          '\\' :: kind.letter :: c :: rest)) =
        scanWords ('$' :: '\'' :: (before.flatMap AnsiPart.text ++
          '\\' :: '\\' :: kind.letter :: rest)) := by
      rw [scanWords_ansi, scanWords_ansi, Scan.run_parts earlier read (by decide),
        Scan.run_parts earlier read (by decide), Scan.run_blank kind stop, kept]
    rw [ansiText, content, split, List.tail_cons, tokenize, tokenize,
      joinContinuations_ansi closed, joinContinuations_ansi shorter, same]

/-- Short, full and doubled code points, one of them a surrogate, between other parts. -/
theorem tokenize_ansi_mixed :
    let parts : List AnsiPart :=
      [ .code .byte ['4'] (by decide) (by decide), .raw 'g' (by decide),
        .code .unit ['d', '8', '0', '0'] (by decide) (by decide), .raw '1' (by decide),
        .code .byte ['4', '1'] (by decide) (by decide), .escape 'E' '\x1b' (by decide),
        .code .unit ['a'] (by decide) (by decide) ]
    AreApart parts ∧ ¬HasContinuation (parts.flatMap AnsiPart.text) ∧
      tokenize (String.ofList (ansiText parts)) = .ok ["\x04g\ufffd1A\x1b\n"] := by
  intro parts
  have apart : AreApart parts := by decide
  have joined : ¬HasContinuation (parts.flatMap AnsiPart.text) := by decide
  exact ⟨apart, joined, (tokenize_ansi apart joined).1 (by decide)⟩

/-- A letter and a line break that are lost. -/
theorem tokenize_ansi_lost :
    AreApart [.code .byte [] (by decide) (by decide), .raw 'g' (by decide)] ∧
      ansiText [.code .byte [] (by decide) (by decide), .raw 'g' (by decide)] =
        "$'\\xg'".toList ∧
      tokenize "$'\\xg'" = .ok ["\\x"] ∧
      AreApart [.escape '\\' '\\' (by decide), .raw '\n' (by decide)] ∧
      ansiText [.escape '\\' '\\' (by decide), .raw '\n' (by decide)] = "$'\\\\\n'".toList ∧
      tokenize "$'\\\\\n'" = .ok ["\\ "] := by
  decide

end Shell

end RequestScribe
