import RequestScribe.Json.Lexeme
import RequestScribe.Proofs.Code.Masked
import RequestScribe.Proofs.Text.Utf8

/-!
# String literals of the target languages

A literal is read up to the first quote that no backslash hides.  What a language
adds is the quote, the characters that cannot stand in a literal as they are, the
meaning of what follows a backslash, and what its strings consist of: code units
of UTF-16 in JavaScript, code points in Python, bytes of UTF-8 elsewhere.  Every
escape of a language is read, those included that no writer of this library uses.
What a compiler does to a whole file before it reads literals, to its line ends or
to a byte order mark, is not among the rules of a literal.
-/

namespace RequestScribe

/-! ## Units -/

namespace Units

def utf16 (n : Nat) : List Nat :=
  if n < 0x10000 then [n]
  else [0xD800 + (n - 0x10000) / 0x400, 0xDC00 + (n - 0x10000) % 0x400]

def codePoint (c : Char) : List Nat := [c.toNat]

def utf8 (c : Char) : List Nat :=
  (Utf8.encode [c]).map UInt8.toNat

/-- The bytes of the character with a given code point, if there is one. -/
def utf8? (n : Nat) : Option (List Nat) :=
  if n.isValidChar then some (utf8 (Chars.ofCodePoint n)) else none

theorem flatMap_codePoint (cs : List Char) : cs.flatMap codePoint = cs.map Char.toNat :=
  List.map_eq_flatMap.symm

theorem codePoint_faithful {a b : List Char} (same : a.flatMap codePoint = b.flatMap codePoint) :
    a = b := by
  rw [flatMap_codePoint, flatMap_codePoint] at same
  exact (List.map_inj_right fun c d => Char.toNat_inj.1).1 same

theorem flatMap_utf8 (cs : List Char) :
    cs.flatMap utf8 = (Utf8.encode cs).map UInt8.toNat := by
  induction cs with
  | nil => rfl
  | cons c rest ih => rw [List.flatMap_cons, ih, Utf8.encode_cons, List.map_append, utf8]

theorem utf8_faithful {a b : List Char} (same : a.flatMap utf8 = b.flatMap utf8) : a = b := by
  rw [flatMap_utf8, flatMap_utf8] at same
  have bytes : Utf8.encode a = Utf8.encode b :=
    (List.map_inj_right fun x y => UInt8.toNat_inj.1).1 same
  have texts := congrArg Utf8.decode? bytes
  rw [Utf8.decode?_encode, Utf8.decode?_encode] at texts
  exact Option.some.inj texts

/-- A character is told from its first code units, whatever follows. -/
theorem utf16_cons {c d : Char} {x y : List Nat} (same : utf16 c.toNat ++ x = utf16 d.toNat ++ y) :
    c = d ∧ x = y := by
  have scalar (c : Char) : c.toNat < 0xD800 ∨ 0xDFFF < c.toNat ∧ c.toNat < 0x110000 := c.valid
  have first := scalar c
  have second := scalar d
  -- A unit of a pair is a surrogate, which no single unit is.
  unfold utf16 at same
  split at same
  · split at same
    · obtain ⟨unit, rest⟩ := List.cons.inj same
      exact ⟨Char.toNat_inj.1 unit, rest⟩
    · obtain ⟨unit, -⟩ := List.cons.inj same
      omega
  · split at same
    · obtain ⟨unit, -⟩ := List.cons.inj same
      omega
    · obtain ⟨high, later⟩ := List.cons.inj same
      obtain ⟨low, rest⟩ := List.cons.inj later
      exact ⟨Char.toNat_inj.1 (by omega), rest⟩

theorem utf16_faithful {a b : List Char}
    (same : a.flatMap (fun c => utf16 c.toNat) = b.flatMap fun c => utf16 c.toNat) : a = b := by
  have nonempty (n : Nat) : utf16 n ≠ [] := by
    unfold utf16
    split <;> exact List.cons_ne_nil _ _
  induction a generalizing b with
  | nil =>
      cases b with
      | nil => rfl
      | cons d rest => exact absurd same.symm (by simp [nonempty])
  | cons c rest ih =>
      cases b with
      | nil => exact absurd same (by simp [nonempty])
      | cons d others =>
          rw [List.flatMap_cons, List.flatMap_cons] at same
          obtain ⟨first, later⟩ := utf16_cons same
          rw [first, ih later]

end Units

/-! ## Grammars -/

structure StringGrammar where
  quote : Char
  /-- The characters that cannot stand in a literal as they are. -/
  breaks : List Char
  /-- What a character is in the language's strings. -/
  units : Char → List Nat
  /-- The units that the text behind a backslash denotes, and how many characters denote them. -/
  escape? : List Char → Option (List Nat × Nat)
  /-- Different texts are different strings. -/
  faithful : ∀ {a b : List Char}, a.flatMap units = b.flatMap units → a = b

namespace StringGrammar

def hexNumber? (digits : List Char) : Option Nat :=
  digits.foldlM (fun n d => (Chars.hexValue? d).map (16 * n + ·)) 0

def hexAt? (width : Nat) (cs : List Char) : Option Nat :=
  if width ≤ cs.length then hexNumber? (cs.take width) else none

def isOctal (c : Char) : Bool :=
  '0' ≤ c && c ≤ '7'

def octalNumber (digits : List Char) : Nat :=
  digits.foldl (fun n d => 8 * n + (d.toNat - '0'.toNat)) 0

/-- The letters that stand for control characters in C, without the one for the bell. -/
def controlLetters : List (Char × Char) :=
  [('b', '\x08'), ('f', '\x0c'), ('n', '\n'), ('r', '\r'), ('t', '\t'), ('v', '\x0b')]

/-- Strict mode: of the digits only a zero that no digit follows may be escaped. -/
def javaScriptEscape? : List Char → Option (List Nat × Nat)
  | [] => none
  | 'x' :: rest => (hexAt? 2 rest).map fun n => ([n], 3)
  | 'u' :: '\x7b' :: rest =>
      (Chars.cut? '\x7d' rest).bind fun (digits, _) =>
        if digits.isEmpty then none
        else
          (hexNumber? digits).bind fun n =>
            if n < 0x110000 then some (Units.utf16 n, digits.length + 3) else none
  | 'u' :: rest => (hexAt? 4 rest).map fun n => ([n], 5)
  | '\r' :: '\n' :: _ => some ([], 2)
  | c :: rest =>
      if ['\n', '\r', '\u2028', '\u2029'].contains c then some ([], 1)
      else if Chars.isDigit c then
        if c = '0' && !rest.head?.any Chars.isDigit then some ([0], 1) else none
      else some (Units.utf16 ((controlLetters.lookup c).getD c).toNat, 1)

/-- A backslash that starts no escape stands for itself; characters by name are not known here. -/
def pythonEscape? : List Char → Option (List Nat × Nat)
  | [] => none
  | 'x' :: rest => (hexAt? 2 rest).map fun n => ([n], 3)
  | 'u' :: rest => (hexAt? 4 rest).map fun n => ([n], 5)
  | 'U' :: rest => (hexAt? 8 rest).bind fun n => if n < 0x110000 then some ([n], 9) else none
  | 'N' :: _ => none
  | '\r' :: '\n' :: _ => some ([], 2)
  | c :: rest =>
      if c = '\n' || c = '\r' then some ([], 1)
      else if isOctal c then
        let digits := c :: (rest.takeWhile isOctal).take 2
        some ([octalNumber digits], digits.length)
      else
        match (('\\', '\\') :: ('\'', '\'') :: ('"', '"') :: ('a', '\x07') ::
            controlLetters).lookup c with
        | some d => some (Units.codePoint d, 1)
        | none => some (Units.codePoint '\\', 0)

/-- Interpreted literals; numbers of bytes need not be parts of a character. -/
def goEscape? : List Char → Option (List Nat × Nat)
  | [] => none
  | 'x' :: rest => (hexAt? 2 rest).map fun n => ([n], 3)
  | 'u' :: rest => ((hexAt? 4 rest).bind Units.utf8?).map fun bytes => (bytes, 5)
  | 'U' :: rest => ((hexAt? 8 rest).bind Units.utf8?).map fun bytes => (bytes, 9)
  | c :: rest =>
      if isOctal c then
        let digits := c :: rest.take 2
        if digits.length = 3 && digits.all isOctal && octalNumber digits < 0x100 then
          some ([octalNumber digits], 3)
        else none
      else
        ((('\\', '\\') :: ('"', '"') :: ('a', '\x07') :: controlLetters).lookup c).map fun d =>
          (Units.utf8 d, 1)

/-- What is skipped after a backslash at the end of a line. -/
def isContinuation (c : Char) : Bool :=
  c == ' ' || c == '\t' || c == '\n' || c == '\r'

def rustEscape? : List Char → Option (List Nat × Nat)
  | [] => none
  | 'x' :: rest => (hexAt? 2 rest).bind fun n => if n < 0x80 then some ([n], 3) else none
  | 'u' :: '\x7b' :: rest =>
      (Chars.cut? '\x7d' rest).bind fun (inside, _) =>
        let digits := inside.filter (· != '_')
        if digits.isEmpty || 6 < digits.length || inside.head? == some '_' then none
        else ((hexNumber? digits).bind Units.utf8?).map fun bytes => (bytes, inside.length + 3)
  | '\n' :: rest => some ([], (rest.takeWhile isContinuation).length + 1)
  | c :: _ =>
      ([('n', '\n'), ('r', '\r'), ('t', '\t'), ('\\', '\\'), ('0', '\x00'), ('\'', '\''),
        ('"', '"')].lookup c).map fun d => (Units.utf8 d, 1)

/-- Only a backslash and the quote are escaped; any other backslash stands for itself. -/
def plainEscape? : List Char → Option (List Nat × Nat)
  | [] => none
  | c :: _ =>
      if c = '\\' || c = '\'' then some (Units.utf8 c, 1) else some (Units.utf8 '\\', 0)

def javaScript : StringGrammar :=
  ⟨'\'', ['\n', '\r'], fun c => Units.utf16 c.toNat, javaScriptEscape?, Units.utf16_faithful⟩

def python : StringGrammar :=
  ⟨'"', ['\n', '\r'], Units.codePoint, pythonEscape?, Units.codePoint_faithful⟩

def go : StringGrammar :=
  ⟨'"', ['\n'], Units.utf8, goEscape?, Units.utf8_faithful⟩

/-- Strings of Rust, which may go over several lines. -/
def rust : StringGrammar :=
  ⟨'"', ['\r'], Units.utf8, rustEscape?, Units.utf8_faithful⟩

def singlePlain : StringGrammar :=
  ⟨'\'', [], Units.utf8, plainEscape?, Units.utf8_faithful⟩

/-! ## Reading -/

variable (g : StringGrammar)

/--
The units of a literal up to its closing quote, and what follows the quote.  The
first `skip` characters have been read already, as part of an escape.
-/
def readFrom (skip : Nat) : List Char → Option (List Nat × List Char)
  | [] => none
  | c :: rest =>
      match skip with
      | skip + 1 => readFrom skip rest
      | 0 =>
          if c = g.quote then some ([], rest)
          else if c = '\\' then
            (g.escape? rest).bind fun (here, taken) =>
              (readFrom taken rest).map fun (later, after) => (here ++ later, after)
          else if g.breaks.contains c then none
          else (readFrom 0 rest).map fun (later, after) => (g.units c ++ later, after)

def read? : List Char → Option (List Nat × List Char)
  | [] => none
  | c :: rest => if c = g.quote then g.readFrom 0 rest else none

/-- The units of a text that stands between two quotes, if they make it a literal. -/
def value? (inside : List Char) : Option (List Nat) :=
  match g.readFrom 0 (inside ++ [g.quote]) with
  | some (units, []) => some units
  | _ => none

/--
A literal for a text: no quote is free between its two quotes, and it is read as
the text, whatever stands behind it.
-/
structure Writes (written s : String) : Prop where
  closed : ∃ inside, written.toList = g.quote :: (inside ++ [g.quote]) ∧ Lexis.Kept g.quote inside
  read : ∀ after, g.read? (written.toList ++ after) = some (s.toList.flatMap g.units, after)

variable {g}

/-- What is written is the literal of one text only. -/
theorem Writes.eq {written s t : String} (first : g.Writes written s) (second : g.Writes written t) :
    s = t := by
  have read := (first.read []).symm.trans (second.read [])
  exact String.toList_inj.1 (g.faithful (congrArg Prod.fst (Option.some.inj read)))

/-- What a reader does first: it closes the literal, reads an escape, or a character as it is. -/
theorem readFrom_cases {c : Char} {rest after : List Char} {units : List Nat}
    (h : g.readFrom 0 (c :: rest) = some (units, after)) :
    (c = g.quote ∧ units = []) ∨
      (c = '\\' ∧ ∃ here taken later, g.escape? rest = some (here, taken) ∧
        g.readFrom taken rest = some (later, after) ∧ units = here ++ later) ∨
      (c ≠ g.quote ∧ c ≠ '\\' ∧ c ∉ g.breaks ∧ ∃ later,
        g.readFrom 0 rest = some (later, after) ∧ units = g.units c ++ later) := by
  rw [readFrom] at h
  simp only at h
  split at h
  · next quote => exact .inl ⟨quote, (Prod.mk.inj (Option.some.inj h)).1.symm⟩
  · next other =>
      split at h
      · next backslash =>
          obtain ⟨⟨here, taken⟩, escape, h⟩ := Option.bind_eq_some_iff.1 h
          obtain ⟨⟨later, last⟩, read, same⟩ := Option.map_eq_some_iff.1 h
          obtain ⟨rfl, rfl⟩ := Prod.mk.inj same
          exact .inr (.inl ⟨backslash, here, taken, later, escape, read, rfl⟩)
      · next unescaped =>
          split at h
          · cases h
          · next whole =>
              obtain ⟨⟨later, last⟩, read, same⟩ := Option.map_eq_some_iff.1 h
              obtain ⟨rfl, rfl⟩ := Prod.mk.inj same
              exact .inr (.inr ⟨other, unescaped, by simpa using whole, later, read, rfl⟩)

theorem readFrom_append (taken rest : List Char) :
    g.readFrom taken.length (taken ++ rest) = g.readFrom 0 rest := by
  induction taken with
  | nil => rfl
  | cons c taken ih => exact ih

/-- Inside of a literal, `written` denotes some units, whatever follows. -/
def Reads (g : StringGrammar) (written : List Char) (units : List Nat) : Prop :=
  ∀ rest, g.readFrom 0 (written ++ rest) =
    (g.readFrom 0 rest).map fun (later, after) => (units ++ later, after)

namespace Reads

variable {a b : List Char} {x y : List Nat}

theorem nil : g.Reads [] [] := fun rest => by simp

theorem append (first : g.Reads a x) (second : g.Reads b y) : g.Reads (a ++ b) (x ++ y) := by
  intro rest
  rw [List.append_assoc, first, second, Option.map_map]
  simp [Function.comp_def]

theorem flatMap {f : Char → List Char} {cs : List Char}
    (each : ∀ c ∈ cs, g.Reads (f c) (g.units c)) : g.Reads (cs.flatMap f) (cs.flatMap g.units) := by
  induction cs with
  | nil => exact nil
  | cons c rest ih =>
      have here := each c List.mem_cons_self
      exact here.append (ih fun d mem => each d (List.mem_cons_of_mem c mem))

theorem plain {c : Char} (other : c ≠ g.quote) (unescaped : c ≠ '\\') (whole : c ∉ g.breaks) :
    g.Reads [c] (g.units c) := by
  intro rest
  have stays : ¬ g.breaks.contains c = true := by simpa using whole
  rw [List.singleton_append, readFrom]
  simp only [if_neg other, if_neg unescaped, if_neg stays]

theorem escaped (other : '\\' ≠ g.quote)
    (denotes : ∀ rest, g.escape? (a ++ rest) = some (x, a.length)) : g.Reads ('\\' :: a) x := by
  intro rest
  rw [List.cons_append, readFrom]
  simp only [if_neg other, if_true, denotes rest, Option.bind_some, readFrom_append]

theorem closed (h : g.Reads a x) (after : List Char) :
    g.readFrom 0 (a ++ g.quote :: after) = some (x, after) := by
  have quote : g.readFrom 0 (g.quote :: after) = some ([], after) := by
    rw [readFrom]
    simp only [if_true]
  exact (h (g.quote :: after)).trans (by simp only [quote, Option.map_some, List.append_nil])

theorem value? (h : g.Reads a x) : g.value? a = some x := by
  rw [StringGrammar.value?, h.closed []]

theorem writes {inside s : String} (h : g.Reads inside.toList (s.toList.flatMap g.units))
    (kept : Lexis.Kept g.quote inside.toList) : g.Writes (StringLiteral.enclose g.quote inside) s := by
  have text : (StringLiteral.enclose g.quote inside).toList =
      g.quote :: (inside.toList ++ [g.quote]) := by
    simp [StringLiteral.enclose]
  refine ⟨⟨inside.toList, text, kept⟩, fun after => ?_⟩
  have closes := h.closed after
  rw [text, List.cons_append, List.append_assoc, List.singleton_append, read?, if_pos rfl, closes]

end Reads

end StringGrammar

end RequestScribe
