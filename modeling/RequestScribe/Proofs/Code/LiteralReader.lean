import RequestScribe.Json.Reader
import RequestScribe.Proofs.Code.EscapedLiteral
import RequestScribe.Proofs.Json.Reading

/-!
# Reading literals of JSON values

The part of JavaScript and Python in which JSON values are written: three words,
numbers, strings in quotes, arrays and objects with string keys.  Blanks and line
breaks between tokens do not matter, and one comma may follow the last element.
Fields keep their order, and integers are read exactly.
-/

namespace RequestScribe

namespace StringLiteral

/-- What follows a literal is shorter than the literal was with it. -/
theorem length_readEscaped_lt {quote : Char} {cs text rest : List Char}
    (h : readEscaped quote cs = some (text, rest)) : rest.length < cs.length := by
  fun_induction readEscaped quote cs generalizing text rest
  case case2 =>
    obtain ⟨-, rfl⟩ := Prod.mk.inj (Option.some.inj h)
    exact Nat.lt_succ_self _
  case case5 found _ _ _ _ ih =>
    obtain ⟨-, rfl⟩ := Prod.mk.inj (Option.some.inj h)
    have shorter := ih found
    simp only [List.length_cons]
    omega
  case case8 found _ _ _ ih =>
    obtain ⟨-, rfl⟩ := Prod.mk.inj (Option.some.inj h)
    have shorter := ih found
    simp only [List.length_cons]
    omega
  case case10 found ih =>
    obtain ⟨-, rfl⟩ := Prod.mk.inj (Option.some.inj h)
    exact Nat.lt_succ_of_lt (ih found)
  all_goals exact absurd h (by simp)

end StringLiteral

structure LiteralGrammar where
  quote : Char
  null : List Char
  truthy : List Char
  falsy : List Char

namespace LiteralGrammar

def javaScript : LiteralGrammar :=
  ⟨'\'', "null".toList, "true".toList, "false".toList⟩

def python : LiteralGrammar :=
  ⟨'"', "None".toList, "True".toList, "False".toList⟩

/-! ## Tokens -/

inductive Token where
  /-- A bracket, a comma or a colon. -/
  | mark (c : Char)
  | string (text : List Char)
  /-- A word or a number. -/
  | bare (text : List Char)
  deriving DecidableEq, Repr

def isMark (c : Char) : Bool :=
  "[]\x7b\x7d,:".toList.contains c

def isBare (c : Char) : Bool :=
  c.isAlphanum || "+-.".toList.contains c

/-- The first token, unless a blank stands there, and what follows. -/
def next? (g : LiteralGrammar) : List Char → Option (List Token × List Char)
  | [] => none
  | c :: rest =>
      if Json.Reader.isSpace c then some ([], rest)
      else if isMark c then some ([.mark c], rest)
      else if c = g.quote then
        (StringLiteral.readEscaped g.quote rest).map fun (text, after) => ([.string text], after)
      else if isBare c then
        some ([.bare (c :: rest.takeWhile isBare)], rest.dropWhile isBare)
      else none

theorem length_next?_lt {g : LiteralGrammar} {cs rest : List Char} {ts : List Token}
    (h : g.next? cs = some (ts, rest)) : rest.length < cs.length := by
  cases cs with
  | nil => exact absurd h (by simp [next?])
  | cons c cs =>
      have shorter {us : List Token} {after : List Char} (le : after.length ≤ cs.length)
          (h : some (us, after) = some (ts, rest)) : rest.length < (c :: cs).length := by
        obtain ⟨-, rfl⟩ := Prod.mk.inj (Option.some.inj h)
        exact Nat.lt_succ_of_le le
      rw [next?] at h
      split at h
      · exact shorter (Nat.le_refl _) h
      · split at h
        · exact shorter (Nat.le_refl _) h
        · split at h
          · obtain ⟨⟨text, after⟩, found, same⟩ := Option.map_eq_some_iff.1 h
            have less := StringLiteral.length_readEscaped_lt found
            exact shorter (Nat.le_of_lt less) (congrArg some same)
          · split at h
            · exact shorter (List.dropWhile_suffix isBare).length_le h
            · exact absurd h (by simp)

def tokens? (g : LiteralGrammar) (cs : List Char) : Option (List Token) :=
  if cs.isEmpty then some []
  else
    match _next : g.next? cs with
    | none => none
    | some (ts, rest) => (tokens? g rest).map (ts ++ ·)
termination_by cs.length
decreasing_by exact length_next?_lt _next

theorem tokens?_of_next? {g : LiteralGrammar} {cs rest : List Char} {ts : List Token}
    (h : g.next? cs = some (ts, rest)) : g.tokens? cs = (g.tokens? rest).map (ts ++ ·) := by
  have nonempty : ¬ cs.isEmpty = true := by
    cases cs with
    | nil => exact absurd h (by simp [next?])
    | cons c cs => simp
  rw [tokens?, if_neg nonempty]
  split
  · next none => exact absurd h (by simp [none])
  · next ts' rest' found =>
      obtain ⟨rfl, rfl⟩ := Prod.mk.inj (Option.some.inj (found.symm.trans h))
      rfl

/-! ## Values -/

inductive Frame where
  | array (done : List Json.Value)
  /-- `key` belongs to the value that comes next. -/
  | object (done : List (String × Json.Value)) (key : String)

inductive Mode where
  | value
  /-- In an array: a value or the end. -/
  | item
  /-- In an object: a key or the end. -/
  | key
  | colon
  /-- After a value: a comma or the end. -/
  | after
  | finished (v : Json.Value)

structure Reader where
  stack : List Frame := []
  mode : Mode := .value

/-- The number that a numeral denotes; an integer of any size is exact. -/
def number? (text : List Char) : Option Json.Number :=
  (Json.numberText? text).bind fun t =>
    if t.isInteger then
      let n := Chars.natValue t.numeral.whole
      some (.integer (if t.numeral.negative then -(n : Int) else n))
    else
      match t.numeral.toBinary with
      | .finite x => some (.float x)
      | _ => none

def scalar? (g : LiteralGrammar) (text : List Char) : Option Json.Value :=
  if text = g.null then some .null
  else if text = g.truthy then some (.bool true)
  else if text = g.falsy then some (.bool false)
  else (number? text).map .number

namespace Reader

def complete (stack : List Frame) (v : Json.Value) : Reader :=
  match stack with
  | [] => ⟨[], .finished v⟩
  | .array done :: outer => ⟨.array (v :: done) :: outer, .after⟩
  | .object done key :: outer => ⟨.object ((key, v) :: done) "" :: outer, .after⟩

def start (g : LiteralGrammar) (stack : List Frame) : Token → Option Reader
  | .mark '[' => some ⟨.array [] :: stack, .item⟩
  | .mark '\x7b' => some ⟨.object [] "" :: stack, .key⟩
  | .mark _ => none
  | .string text => some (complete stack (.string (String.ofList text)))
  | .bare text => (g.scalar? text).map (complete stack)

def close (stack : List Frame) (bracket : Char) : Option Reader :=
  match stack, bracket with
  | .array done :: outer, ']' => some (complete outer (.array done.reverse))
  | .object done _ :: outer, '\x7d' => some (complete outer (.object done.reverse))
  | _, _ => none

def step (g : LiteralGrammar) (r : Reader) (t : Token) : Option Reader :=
  match r.mode with
  | .value => start g r.stack t
  | .item => if t = .mark ']' then close r.stack ']' else start g r.stack t
  | .key =>
      match r.stack, t with
      | .object done _ :: outer, .string text =>
          some ⟨.object done (String.ofList text) :: outer, .colon⟩
      | stack, .mark c => close stack c
      | _, _ => none
  | .colon => if t = .mark ':' then some ⟨r.stack, .value⟩ else none
  | .after =>
      match r.stack, t with
      | .array _ :: _, .mark ',' => some ⟨r.stack, .item⟩
      | .object _ _ :: _, .mark ',' => some ⟨r.stack, .key⟩
      | stack, .mark c => close stack c
      | _, _ => none
  | .finished _ => none

def run (g : LiteralGrammar) (r : Reader) : List Token → Option Reader
  | [] => some r
  | t :: rest => (step g r t).bind fun next => run g next rest

def finish? (r : Reader) : Option Json.Value :=
  match r.mode with
  | .finished v => some v
  | _ => none

end Reader

def read? (g : LiteralGrammar) (text : List Char) : Option Json.Value :=
  (g.tokens? text).bind fun ts => (Reader.run g {} ts).bind Reader.finish?

end LiteralGrammar

/-! ## What the reader of literals takes in

The reader takes a text piece by piece: what it makes of a piece does not depend
on what comes after, except that a word or a number must be over.
-/

namespace LiteralGrammar

variable {g : LiteralGrammar} {r r' r'' : Reader} {a b : List Char}

def readFrom (g : LiteralGrammar) (r : Reader) (cs : List Char) : Option Reader :=
  (g.tokens? cs).bind (r.run g)

/-- A piece of text takes the reader from one place to another. -/
def Takes (g : LiteralGrammar) (cs : List Char) (r r' : Reader) : Prop :=
  ∀ rest, g.readFrom r (cs ++ rest) = g.readFrom r' rest

def TakesWord (g : LiteralGrammar) (cs : List Char) (r r' : Reader) : Prop :=
  ∀ rest, (∀ c ∈ rest.head?, isBare c = false) → g.readFrom r (cs ++ rest) = g.readFrom r' rest

theorem readFrom_nil (r : Reader) : g.readFrom r [] = some r := by
  rw [readFrom, tokens?, if_pos List.isEmpty_nil, Option.bind_some, Reader.run]

theorem Takes.word (h : g.Takes a r r') : g.TakesWord a r r' :=
  fun rest _ => h rest

theorem Takes.append (first : g.Takes a r r') (then' : g.Takes b r' r'') :
    g.Takes (a ++ b) r r'' := by
  intro rest
  rw [List.append_assoc, first, then']

theorem Takes.append_word (first : g.Takes a r r') (word : g.TakesWord b r' r'') :
    g.TakesWord (a ++ b) r r'' := by
  intro rest ended
  rw [List.append_assoc, first, word rest ended]

theorem TakesWord.append {c : Char} (word : g.TakesWord a r r') (ended : isBare c = false)
    (then' : g.Takes (c :: b) r' r'') : g.Takes (a ++ c :: b) r r'' := by
  intro rest
  rw [List.append_assoc, word, then']
  intro d mem
  obtain rfl : c = d := Option.some.inj mem
  exact ended

theorem readFrom_of_next? {t : Token} {cs rest : List Char} (next : g.next? cs = some ([t], rest))
    (taken : r.step g t = some r') : g.readFrom r cs = g.readFrom r' rest := by
  rw [readFrom, readFrom, tokens?_of_next? next]
  cases g.tokens? rest with
  | none => rfl
  | some ts => simp [Reader.run, taken]

/-! ### Tokens -/

theorem takes_space {c : Char} (space : Json.Reader.isSpace c = true) : g.Takes [c] r r := by
  intro rest
  have next : g.next? (c :: rest) = some ([], rest) := by rw [next?, if_pos space]
  rw [List.singleton_append, readFrom, readFrom, tokens?_of_next? next]
  simp

theorem takes_spaces {cs : List Char} (spaces : ∀ c ∈ cs, Json.Reader.isSpace c = true) :
    g.Takes cs r r := by
  induction cs with
  | nil => exact fun rest => rfl
  | cons c rest ih =>
      obtain ⟨first, later⟩ := List.forall_mem_cons.1 spaces
      exact (takes_space first).append (ih later)

theorem takes_indent {unit : String} (blank : Writer.IsBlankUnit unit) (level : Nat) :
    g.Takes (Text.times level unit).toList r r :=
  takes_spaces (Json.Value.isSpace_of_mem_times blank level)

theorem takes_mark {c : Char} (mark : isMark c = true) (taken : r.step g (.mark c) = some r') :
    g.Takes [c] r r' := by
  intro rest
  have solid : ¬ Json.Reader.isSpace c = true := by
    intro space
    simp only [Json.Reader.isSpace, Bool.or_eq_true, beq_iff_eq] at space
    rcases space with ((rfl | rfl) | rfl) | rfl <;> exact absurd mark (by decide)
  have next : g.next? (c :: rest) = some ([.mark c], rest) := by
    rw [next?, if_neg solid, if_pos mark]
  exact readFrom_of_next? next taken

theorem takes_string (known : g.quote = '\'' ∨ g.quote = '"') {s : String}
    (taken : r.step g (.string s.toList) = some r') :
    g.Takes (StringLiteral.enclose g.quote (StringLiteral.escape g.quote s)).toList r r' := by
  intro rest
  have solid : ¬ Json.Reader.isSpace g.quote = true ∧ ¬ isMark g.quote = true := by
    rcases known with same | same <;> rw [same] <;> decide
  have read := StringLiteral.readEscaped_escape known s.toList rest
  rw [StringLiteral.toList_enclose, List.cons_append, List.append_assoc, List.singleton_append]
  refine readFrom_of_next? ?_ taken
  rw [next?, if_neg solid.1, if_neg solid.2, if_pos rfl, read]
  rfl

/-- What words and numbers consist of has no other use. -/
theorem isBare_spec (known : g.quote = '\'' ∨ g.quote = '"') {c : Char} (bare : isBare c = true) :
    ¬ Json.Reader.isSpace c = true ∧ ¬ isMark c = true ∧ c ≠ g.quote := by
  refine ⟨fun space => ?_, fun mark => ?_, fun quote => ?_⟩
  · simp only [Json.Reader.isSpace, Bool.or_eq_true, beq_iff_eq] at space
    rcases space with ((rfl | rfl) | rfl) | rfl <;> exact absurd bare (by decide)
  · have one : c = '[' ∨ c = ']' ∨ c = '\x7b' ∨ c = '\x7d' ∨ c = ',' ∨ c = ':' := by
      simpa [isMark] using mark
    rcases one with rfl | rfl | rfl | rfl | rfl | rfl <;> exact absurd bare (by decide)
  · rw [quote] at bare
    rcases known with same | same <;> rw [same] at bare <;> exact absurd bare (by decide)

theorem takesWord_bare (known : g.quote = '\'' ∨ g.quote = '"') {text : List Char}
    (nonempty : text ≠ []) (bare : ∀ c ∈ text, isBare c = true)
    (taken : r.step g (.bare text) = some r') : g.TakesWord text r r' := by
  intro rest ended
  obtain ⟨c, cs, rfl⟩ := List.exists_cons_of_ne_nil nonempty
  obtain ⟨first, later⟩ := List.forall_mem_cons.1 bare
  obtain ⟨solid, plain, unquoted⟩ := isBare_spec known first
  have parts := Chars.span_append later ended
  rw [List.span_eq_takeWhile_dropWhile, Prod.mk.injEq] at parts
  have next : g.next? (c :: (cs ++ rest)) = some ([.bare (c :: cs)], rest) := by
    rw [next?, if_neg solid, if_neg plain, if_neg unquoted, if_pos first, parts.1, parts.2]
  exact readFrom_of_next? next taken

/-! ### Containers -/

/-- What is in front of a value in a container does not matter. -/
theorem step_start {stack : List Frame} {mode : Mode} (opens : mode = .value ∨ mode = .item)
    {t : Token} (inside : t ≠ .mark ']') : Reader.step g ⟨stack, mode⟩ t = Reader.start g stack t := by
  rcases opens with rfl | rfl
  · rfl
  · exact if_neg inside

section Container

variable {β γ : Type} {stack : List Frame} {frame : List β → Frame} {next : Mode}
  {part : γ → List Char} {held : γ → β}

/-- The lines of a container, each with its comma, are taken if its parts are. -/
theorem takes_lines
    (comma : ∀ done, Reader.step g ⟨frame done :: stack, .after⟩ (.mark ',') =
      some ⟨frame done :: stack, next⟩) {items : List γ} (nonempty : items ≠ [])
    (parts : ∀ a ∈ items, ∀ done,
      g.TakesWord (part a) ⟨frame done :: stack, next⟩ ⟨frame (held a :: done) :: stack, .after⟩)
    (done : List β) :
    g.Takes ((",\n".toList.intercalate (items.map part)) ++ [','])
      ⟨frame done :: stack, next⟩ ⟨frame ((items.map held).reverse ++ done) :: stack, next⟩ := by
  have ended : isBare ',' = false := by decide
  have separated (done : List β) :
      g.Takes [','] ⟨frame done :: stack, .after⟩ ⟨frame done :: stack, next⟩ :=
    takes_mark (by decide) (comma done)
  induction items generalizing done with
  | nil => exact absurd rfl nonempty
  | cons a rest ih =>
      obtain ⟨first, later⟩ := List.forall_mem_cons.1 parts
      cases rest with
      | nil => simpa using (first done).append ended (separated (held a :: done))
      | cons b more =>
          have feed : g.Takes ['\n'] ⟨frame (held a :: done) :: stack, next⟩
            ⟨frame (held a :: done) :: stack, next⟩ := takes_space (by decide)
          have others := ih (List.cons_ne_nil b more) later (held a :: done)
          have whole := (first done).append ended ((separated _).append (feed.append others))
          simpa [List.intercalate_cons_cons] using whole

theorem takes_enclosed {opening closing unit : String} {first last : Char}
    (brackets : opening.toList = [first] ∧ closing.toList = [last])
    (marks : isMark first = true ∧ isMark last = true) (blank : Writer.IsBlankUnit unit)
    {r r' : Reader} (opens : r.step g (.mark first) = some ⟨frame [] :: stack, next⟩)
    (comma : ∀ done, Reader.step g ⟨frame done :: stack, .after⟩ (.mark ',') =
      some ⟨frame done :: stack, next⟩) {items : List γ} (nonempty : items ≠ [])
    {line : γ → Code}
    (parts : ∀ a ∈ items, ∀ done, g.TakesWord (line a).text.toList ⟨frame done :: stack, next⟩
      ⟨frame (held a :: done) :: stack, .after⟩)
    (closes : Reader.step g ⟨frame (items.map held).reverse :: stack, next⟩ (.mark last) =
      some r')
    (level : Nat) :
    g.Takes (Literal.enclosed opening closing "," unit level (items.map line)).text.toList r r' := by
  have head : g.Takes [first] r ⟨frame [] :: stack, next⟩ := takes_mark marks.1 opens
  have feed {r : Reader} : g.Takes ['\n'] r r := takes_space (by decide)
  have inner := takes_lines comma nonempty parts []
  rw [List.append_nil] at inner
  have foot := (takes_indent blank level).append (takes_mark marks.2 closes)
  have whole := head.append (feed.append (inner.append (feed.append foot)))
  have text : (Literal.enclosed opening closing "," unit level (items.map line)).text.toList =
      [first] ++ (['\n'] ++ ((",\n".toList.intercalate (items.map fun a => (line a).text.toList) ++
        [',']) ++ (['\n'] ++ ((Text.times level unit).toList ++ [last])))) := by
    simp [Literal.text_enclosed, Code.toList_intercalate, brackets.1, brackets.2,
      Function.comp_def]
  rw [text]
  exact whole

end Container

end LiteralGrammar

end RequestScribe
