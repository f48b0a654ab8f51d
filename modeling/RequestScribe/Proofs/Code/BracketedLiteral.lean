import RequestScribe.Proofs.Code.Denotation
import RequestScribe.Proofs.Code.StringDenotation

/-!
# Literals with one kind of brackets

A notation that has the same brackets for objects and for arrays tells a value from
its literal but for what is empty: an object without fields is written like an array
without elements.  What is shown is that the literal of one value, with anything
behind it, is the beginning of no other text of this form; the keys of a container
tell an object from an array, and numbers and words are over where a comma or a line
break stands.
-/

namespace RequestScribe

namespace Json.Value

/-! ## Values without empty objects -/

mutual

/-- The value with empty arrays for its empty objects, at any depth. -/
def bracketed : Value → Value
  | .array items => .array (bracketedItems items)
  | .object [] => .array []
  | .object (field :: fields) => .object (bracketedFields (field :: fields))
  | v => v

def bracketedItems : List Value → List Value
  | [] => []
  | item :: rest => bracketed item :: bracketedItems rest

def bracketedFields : List (String × Value) → List (String × Value)
  | [] => []
  | (key, value) :: rest => (key, bracketed value) :: bracketedFields rest

end

theorem bracketed_array (items : List Value) :
    (array items).bracketed = .array (items.map bracketed) := by
  rw [bracketed]
  congr 1
  induction items with
  | nil => rfl
  | cons item rest ih => rw [bracketedItems, ih, List.map_cons]

theorem bracketed_object {fields : List (String × Value)} (nonempty : fields ≠ []) :
    (object fields).bracketed = .object (fields.map (Prod.map id bracketed)) := by
  have each (fields : List (String × Value)) :
      bracketedFields fields = fields.map (Prod.map id bracketed) := by
    induction fields with
    | nil => rfl
    | cons field rest ih => rw [bracketedFields, ih, List.map_cons, Prod.map, id]
  obtain ⟨field, rest, rfl⟩ := List.exists_cons_of_ne_nil nonempty
  rw [bracketed, each]

def isContainer : Value → Bool
  | .array _ => true
  | .object _ => true
  | _ => false

/-- The parts of a container, each with its key if it has one. -/
def parts : Value → List (Option String × Value)
  | .array items => items.map (none, ·)
  | .object fields => fields.map (Prod.map some id)
  | _ => []

theorem isCanonical_of_mem_parts {v : Value} (canonical : v.IsCanonical)
    {part : Option String × Value} (mem : part ∈ v.parts) : part.2.IsCanonical := by
  cases v with
  | array items =>
      obtain ⟨item, inside, rfl⟩ := List.mem_map.1 mem
      exact isCanonical_array.1 canonical item inside
  | object fields =>
      obtain ⟨field, inside, rfl⟩ := List.mem_map.1 mem
      exact isCanonical_object.1 canonical field inside
  | _ => exact absurd mem List.not_mem_nil

def ofParts : List (Option String × Value) → Value
  | [] => .array []
  | (none, v) :: rest => .array (v :: rest.map Prod.snd)
  | (some key, v) :: rest => .object ((key, v) :: rest.map (Prod.map (·.getD "") id))

theorem bracketed_eq_ofParts {v : Value} (container : v.isContainer = true) :
    v.bracketed = ofParts (v.parts.map (Prod.map id bracketed)) := by
  cases v with
  | array items =>
      rw [bracketed_array, parts]
      cases items with
      | nil => rfl
      | cons item rest => simp [ofParts, Function.comp_def]
  | object fields =>
      rw [parts]
      cases fields with
      | nil => rfl
      | cons field rest =>
          rw [bracketed_object (List.cons_ne_nil field rest)]
          simp [ofParts, Function.comp_def, Prod.map]
  | _ => cases container

end Json.Value

namespace Literal

open Json (Value)
open LiteralGrammar (isBare)

variable {unit : String}

/-! ## Literals by their characters -/

def named : Option String → List Char
  | none => []
  | some key => (StringLiteral.singlePlain key).toList ++ " => ".toList

def partText (unit : String) (level : Nat) (part : Option String × Value) : List Char :=
  named part.1 ++ ((code .php unit level part.2).text.toList ++ ",\n".toList)

/-- The lines of a container with all that stands behind its first bracket. -/
def inside (unit : String) (level : Nat) (parts : List (Option String × Value)) : List Char :=
  if parts = [] then [']']
  else
    '\n' :: (parts.flatMap (fun part => (Text.times (level + 1) unit).toList ++
      partText unit (level + 1) part) ++ ((Text.times level unit).toList ++ [']']))

theorem toList_enclosed_php {γ : Type} {items : List γ} (nonempty : items ≠ []) (level : Nat)
    (line : γ → Code) :
    (enclosed "[" "]" "," unit level (items.map line)).text.toList =
      '[' :: '\n' :: (items.flatMap (fun a => (line a).text.toList ++ ",\n".toList) ++
        ((Text.times level unit).toList ++ [']'])) := by
  have some : items.map (fun a => (line a).text.toList) ≠ [] := by simpa using nonempty
  have lines := Chars.intercalate_append ",\n".toList some
  rw [List.flatMap_map] at lines
  rw [← lines, text_enclosed]
  simp [Code.toList_intercalate, Function.comp_def]

theorem code_container {v : Value} (container : v.isContainer = true) (level : Nat) :
    (code .php unit level v).text.toList = '[' :: inside unit level v.parts := by
  cases v with
  | array items =>
      by_cases empty : items = []
      · subst empty
        simp [code, inside, Value.parts, LiteralStyle.php]
      · rw [code_array level empty, inside, if_neg (by simpa [Value.parts] using empty)]
        refine (toList_enclosed_php empty level _).trans ?_
        simp [Value.parts, List.flatMap_map, partText, named]
  | object fields =>
      by_cases empty : fields = []
      · subst empty
        simp [code, inside, Value.parts, LiteralStyle.php]
      · rw [code_object level empty, inside, if_neg (by simpa [Value.parts] using empty)]
        refine (toList_enclosed_php empty level _).trans ?_
        simp [Value.parts, List.flatMap_map, partText, named, entry, LiteralStyle.php]
  | _ => cases container

theorem code_string (level : Nat) (s : String) :
    (code .php unit level (.string s)).text = StringLiteral.singlePlain s := by
  rw [code, Code.text_quoted]
  rfl

/-- A text that is a word or a number, and the value that it stands for. -/
structure IsBareText (v : Value) (text : List Char) : Prop where
  nonempty : text ≠ []
  bare : ∀ c ∈ text, isBare c = true
  value : LiteralGrammar.javaScript.scalar? text = some v
  same : v.bracketed = v

inductive Form (unit : String) (level : Nat) : Value → List Char → Prop where
  | bare {v : Value} {text : List Char} : IsBareText v text → Form unit level v text
  | string (s : String) : Form unit level (.string s) (StringLiteral.singlePlain s).toList
  | container {v : Value} :
      v.isContainer = true → Form unit level v ('[' :: inside unit level v.parts)

theorem isBareText_null (level : Nat) :
    IsBareText .null (code .php unit level .null).text.toList := by
  rw [code, Code.text_plain]
  exact ⟨by decide, List.all_eq_true.1 (by decide),
    (LiteralGrammar.scalar?_word LiteralGrammar.describes_javaScript).1, rfl⟩

theorem isBareText_bool (level : Nat) (b : Bool) :
    IsBareText (.bool b) (code .php unit level (.bool b)).text.toList := by
  have value := (LiteralGrammar.scalar?_word LiteralGrammar.describes_javaScript).2 b
  rw [code, Code.text_plain]
  cases b with
  | true => exact ⟨by decide, List.all_eq_true.1 (by decide), value, rfl⟩
  | false => exact ⟨by decide, List.all_eq_true.1 (by decide), value, rfl⟩

theorem isBareText_number (level : Nat) {n : Json.Number} (canonical : n.IsCanonical) :
    IsBareText (.number n) (code .php unit level (.number n)).text.toList := by
  rw [code, Code.text_plain]
  exact ⟨n.text_ne, LiteralGrammar.isBare_of_mem_text,
    LiteralGrammar.scalar?_number LiteralGrammar.describes_javaScript canonical, rfl⟩

theorem form_code (unit : String) {v : Value} (canonical : v.IsCanonical) (level : Nat) :
    Form unit level v (code .php unit level v).text.toList := by
  cases v with
  | null => exact .bare (isBareText_null level)
  | bool b => exact .bare (isBareText_bool level b)
  | number n => exact .bare (isBareText_number level (canonical n (by simp [Value.numbers])))
  | string s =>
      rw [code_string]
      exact .string s
  | array items =>
      rw [code_container rfl]
      exact .container rfl
  | object fields =>
      rw [code_container rfl]
      exact .container rfl

/-! ## Telling values from their literals -/

/-- Whether no word or number goes on at the beginning of a text. -/
def Over (rest : List Char) : Prop :=
  ∀ c ∈ rest.head?, isBare c = false

/-- Whether another literal begins as that of a value does only if it is of the same value. -/
def IsTold (unit : String) (v : Value) : Prop :=
  ∀ (level : Nat) (w : Value) (r s : List Char), w.IsCanonical → Over r → Over s →
    (code .php unit level v).text.toList ++ r = (code .php unit level w).text.toList ++ s →
      v.bracketed = w.bracketed ∧ r = s

theorem forall_head?_cons {p : Char → Bool} {c : Char} (other : p c = false) (rest : List Char) :
    ∀ d ∈ (c :: rest).head?, p d = false := by
  intro d mem
  obtain rfl : c = d := Option.some.inj mem
  exact other

/-- A text in which a class of characters is followed by others is taken apart in one way. -/
theorem append_inj_of_class {p : Char → Bool} {a b r s : List Char} (first : ∀ c ∈ a, p c = true)
    (second : ∀ c ∈ b, p c = true) (ends : ∀ c ∈ r.head?, p c = false)
    (ends' : ∀ c ∈ s.head?, p c = false) (same : a ++ r = b ++ s) : a = b ∧ r = s := by
  have parts := (Chars.span_append first ends).symm.trans
    ((congrArg (List.span p) same).trans (Chars.span_append second ends'))
  exact Prod.mk.inj parts

theorem singlePlain_append_inj {k l : String} {r s : List Char}
    (same : (StringLiteral.singlePlain k).toList ++ r = (StringLiteral.singlePlain l).toList ++ s) :
    k = l ∧ r = s := by
  have read := ((StringGrammar.writes_singlePlain k).read r).symm.trans
    ((congrArg StringGrammar.singlePlain.read? same).trans
      ((StringGrammar.writes_singlePlain l).read s))
  obtain ⟨units, rest⟩ := Prod.mk.inj (Option.some.inj read)
  exact ⟨String.toList_inj.1 (StringGrammar.singlePlain.faithful units), rest⟩

theorem exists_singlePlain (s : String) :
    ∃ rest, (StringLiteral.singlePlain s).toList = '\'' :: rest := by
  obtain ⟨inside, text, -⟩ := (StringGrammar.writes_singlePlain s).closed
  exact ⟨_, text⟩

theorem IsBareText.head_ne {v : Value} {text r : List Char} (h : IsBareText v text) {c : Char}
    (other : isBare c = false) (rest : List Char) : text ++ r ≠ c :: rest := by
  obtain ⟨d, ds, rfl⟩ := List.exists_cons_of_ne_nil h.nonempty
  intro same
  obtain ⟨rfl, -⟩ := List.cons.inj same
  exact absurd (h.bare d List.mem_cons_self) (by simp [other])

theorem isTold_bare {v : Value}
    (bare : ∀ level, IsBareText v (code .php unit level v).text.toList) : IsTold unit v := by
  intro level w r s canonical ends ends' same
  have text := bare level
  have form := form_code unit canonical level
  generalize (code .php unit level w).text.toList = other at form same
  cases form with
  | bare second =>
      obtain ⟨written, rest⟩ := append_inj_of_class text.bare second.bare ends ends' same
      have value := text.value.symm.trans ((congrArg _ written).trans second.value)
      exact ⟨congrArg Value.bracketed (Option.some.inj value), rest⟩
  | string t =>
      obtain ⟨rest, quoted⟩ := exists_singlePlain t
      rw [quoted] at same
      exact absurd same (text.head_ne (by decide) _)
  | container => exact absurd same (text.head_ne (by decide) _)

theorem isTold_string (s : String) : IsTold unit (.string s) := by
  intro level w r t canonical _ _ same
  obtain ⟨rest, quoted⟩ := exists_singlePlain s
  have form := form_code unit canonical level
  rw [code_string] at same
  generalize (code .php unit level w).text.toList = text at form same
  cases form with
  | bare bare =>
      rw [quoted] at same
      exact absurd same.symm (bare.head_ne (by decide) _)
  | string other =>
      obtain ⟨rfl, rest⟩ := singlePlain_append_inj same
      exact ⟨rfl, rest⟩
  | container =>
      rw [quoted] at same
      exact absurd (List.cons.inj same).1 (by decide)

/-! ## Containers -/

/-- A part begins with a character that is no blank and ends no container. -/
theorem exists_partText (unit : String) {p : Option String × Value} (canonical : p.2.IsCanonical)
    (level : Nat) :
    ∃ c rest, partText unit level p = c :: rest ∧ Json.Reader.isSpace c = false ∧ c ≠ ']' := by
  obtain ⟨key, v⟩ := p
  cases key with
  | some key =>
      obtain ⟨rest, quoted⟩ := exists_singlePlain key
      rw [partText, named, quoted]
      exact ⟨_, _, rfl, by decide, by decide⟩
  | none =>
      have form := form_code unit canonical level
      rw [partText, named, List.nil_append]
      generalize (code .php unit level v).text.toList = text at form
      cases form with
      | bare bare =>
          obtain ⟨c, cs, rfl⟩ := List.exists_cons_of_ne_nil bare.nonempty
          have first := bare.bare c List.mem_cons_self
          have spec := LiteralGrammar.isBare_spec (g := .javaScript) (.inl rfl) first
          refine ⟨c, _, rfl, by simpa using spec.1, ?_⟩
          rintro rfl
          exact absurd first (by decide)
      | string s =>
          obtain ⟨rest, quoted⟩ := exists_singlePlain s
          rw [quoted]
          exact ⟨_, _, rfl, by decide, by decide⟩
      | container => exact ⟨_, _, rfl, by decide, by decide⟩

/-- A part is told from any other: its key, its value and what stands behind it. -/
theorem partText_append_inj {p q : Option String × Value} (told : IsTold unit p.2)
    (canonical : q.2.IsCanonical) {level : Nat} {x y : List Char}
    (same : partText unit level p ++ x = partText unit level q ++ y) :
    Prod.map id Value.bracketed p = Prod.map id Value.bracketed q ∧ x = y := by
  have comma (rest : List Char) : Over (",\n".toList ++ rest) := forall_head?_cons (by decide) _
  have arrow (rest : List Char) : Over (" => ".toList ++ rest) := forall_head?_cons (by decide) _
  have written (k : String) :
      (code .php unit level (.string k)).text = StringLiteral.singlePlain k := code_string level k
  obtain ⟨key, v⟩ := p
  obtain ⟨key', w⟩ := q
  simp only [partText, List.append_assoc] at same
  cases key with
  | none =>
      cases key' with
      | none =>
          obtain ⟨value, rest⟩ := told level w _ _ canonical (comma x) (comma y) same
          exact ⟨Prod.ext rfl value, List.append_cancel_left rest⟩
      | some k =>
          -- The value would be a string, with a comma behind it instead of an arrow.
          simp only [named, List.nil_append, List.append_assoc] at same
          rw [← written k] at same
          have rest := (told level (.string k) _ _ (List.forall_mem_nil _) (comma x) (arrow _) same).2
          exact absurd (List.cons.inj rest).1 (by decide)
  | some k =>
      cases key' with
      | none =>
          simp only [named, List.nil_append, List.append_assoc] at same
          rw [← written k] at same
          have rest := (isTold_string k level _ _ _ canonical (arrow _) (comma y) same).2
          exact absurd (List.cons.inj rest).1 (by decide)
      | some l =>
          simp only [named, List.append_assoc] at same
          obtain ⟨rfl, after⟩ := singlePlain_append_inj same
          obtain ⟨value, rest⟩ := told level w _ _ canonical (comma x) (comma y)
            (List.append_cancel_left after)
          exact ⟨Prod.ext rfl value, List.append_cancel_left rest⟩

theorem lines_append_inj (blank : Writer.IsBlankUnit unit) {level : Nat}
    {ps qs : List (Option String × Value)} (told : ∀ p ∈ ps, IsTold unit p.2)
    (first : ∀ p ∈ ps, p.2.IsCanonical) (second : ∀ q ∈ qs, q.2.IsCanonical) {r s : List Char}
    (same : ps.flatMap (fun p => (Text.times (level + 1) unit).toList ++
        partText unit (level + 1) p) ++ ((Text.times level unit).toList ++ ']' :: r) =
      qs.flatMap (fun q => (Text.times (level + 1) unit).toList ++
        partText unit (level + 1) q) ++ ((Text.times level unit).toList ++ ']' :: s)) :
    ps.map (Prod.map id Value.bracketed) = qs.map (Prod.map id Value.bracketed) ∧ r = s := by
  -- Where one container ends, the other does: behind its blanks a part begins otherwise.
  have ended {p : Option String × Value} (canonical : p.2.IsCanonical) (x y : List Char) :
      (Text.times level unit).toList ++ ']' :: x ≠
        (Text.times (level + 1) unit).toList ++ (partText unit (level + 1) p ++ y) := by
    obtain ⟨c, rest, text, solid, other⟩ := exists_partText unit canonical (level + 1)
    rw [text]
    intro same
    have spaces := Json.Value.isSpace_of_mem_times blank
    have rests := (append_inj_of_class (spaces level) (spaces (level + 1))
      (forall_head?_cons (by decide) _) (forall_head?_cons solid _) same).2
    exact other (List.cons.inj rests).1.symm
  induction ps generalizing qs with
  | nil =>
      cases qs with
      | nil => exact ⟨rfl, (List.cons.inj (List.append_cancel_left same)).2⟩
      | cons q qs =>
          simp only [List.flatMap_nil, List.nil_append, List.flatMap_cons, List.append_assoc] at same
          exact absurd same (ended (second q List.mem_cons_self) _ _)
  | cons p ps ih =>
      obtain ⟨here, later⟩ := List.forall_mem_cons.1 told
      obtain ⟨canonical, others⟩ := List.forall_mem_cons.1 first
      cases qs with
      | nil =>
          simp only [List.flatMap_nil, List.nil_append, List.flatMap_cons, List.append_assoc] at same
          exact absurd same.symm (ended canonical _ _)
      | cons q qs =>
          obtain ⟨canonical', others'⟩ := List.forall_mem_cons.1 second
          simp only [List.flatMap_cons, List.append_assoc] at same
          obtain ⟨part, rest⟩ := partText_append_inj here canonical' (List.append_cancel_left same)
          obtain ⟨parts, after⟩ := ih later others others' rest
          exact ⟨by rw [List.map_cons, List.map_cons, part, parts], after⟩

theorem inside_append_inj (blank : Writer.IsBlankUnit unit) {level : Nat}
    {ps qs : List (Option String × Value)} (told : ∀ p ∈ ps, IsTold unit p.2)
    (first : ∀ p ∈ ps, p.2.IsCanonical) (second : ∀ q ∈ qs, q.2.IsCanonical) {r s : List Char}
    (same : inside unit level ps ++ r = inside unit level qs ++ s) :
    ps.map (Prod.map id Value.bracketed) = qs.map (Prod.map id Value.bracketed) ∧ r = s := by
  unfold inside at same
  split at same
  · next none =>
      split at same
      · next none' => exact ⟨by rw [none, none'], (List.cons.inj same).2⟩
      · exact absurd (List.cons.inj same).1 (by decide)
  · split at same
    · exact absurd (List.cons.inj same).1 (by decide)
    · rw [List.cons_append, List.cons_append] at same
      have lines := (List.cons.inj same).2
      simp only [List.append_assoc, List.singleton_append] at lines
      exact lines_append_inj blank told first second lines

theorem isTold_container (blank : Writer.IsBlankUnit unit) {v : Value}
    (container : v.isContainer = true) (canonical : v.IsCanonical)
    (told : ∀ p ∈ v.parts, IsTold unit p.2) : IsTold unit v := by
  intro level w r s canonical' _ _ same
  have form := form_code unit canonical' level
  rw [code_container container] at same
  generalize (code .php unit level w).text.toList = text at form same
  cases form with
  | bare bare => exact absurd same.symm (bare.head_ne (by decide) _)
  | string t =>
      obtain ⟨rest, quoted⟩ := exists_singlePlain t
      rw [quoted] at same
      exact absurd (List.cons.inj same).1 (by decide)
  | container container' =>
      obtain ⟨parts, rest⟩ := inside_append_inj blank told
        (fun p mem => Value.isCanonical_of_mem_parts canonical mem)
        (fun q mem => Value.isCanonical_of_mem_parts canonical' mem) (List.cons.inj same).2
      rw [Value.bracketed_eq_ofParts container, Value.bracketed_eq_ofParts container', parts]
      exact ⟨rfl, rest⟩

theorem isTold (blank : Writer.IsBlankUnit unit) {v : Value} (canonical : v.IsCanonical) :
    IsTold unit v := by
  induction v using Value.induction with
  | null => exact isTold_bare isBareText_null
  | bool b => exact isTold_bare fun level => isBareText_bool level b
  | number n =>
      exact isTold_bare fun level => isBareText_number level (canonical n (by simp [Value.numbers]))
  | string s => exact isTold_string s
  | array items ih =>
      refine isTold_container blank rfl canonical fun p mem => ?_
      obtain ⟨item, inside, rfl⟩ := List.mem_map.1 mem
      exact ih item inside (Value.isCanonical_array.1 canonical item inside)
  | object fields ih =>
      refine isTold_container blank rfl canonical fun p mem => ?_
      obtain ⟨field, inside, rfl⟩ := List.mem_map.1 mem
      exact ih field inside (Value.isCanonical_object.1 canonical field inside)

/-! ## What the literal does not tell -/

/-- Empty objects may as well be empty arrays. -/
theorem code_bracketed (v : Value) (level : Nat) :
    code .php unit level v.bracketed = code .php unit level v := by
  induction v using Value.induction generalizing level with
  | array items ih =>
      rw [Value.bracketed_array]
      by_cases empty : items = []
      · rw [empty, List.map_nil]
      · rw [code_array level empty, code_array level (by simpa using empty), List.map_map]
        congr 1
        exact List.map_congr_left fun item mem => by rw [Function.comp_apply, ih item mem]
  | object fields ih =>
      by_cases empty : fields = []
      · rw [empty]
        rfl
      · rw [Value.bracketed_object empty, code_object level empty,
          code_object level (by simpa using empty), List.map_map]
        congr 1
        refine List.map_congr_left fun field mem => ?_
        rw [Function.comp_apply, Prod.map_fst, Prod.map_snd, ih field mem, id]
  | _ => rfl

/--
Two values have the same literal in PHP, at any level, just if they are the same value
once their empty objects are made empty arrays.  The numbers of a document are all
such as there are: `Json.Value.isCanonical_of_read?`.
-/
theorem code_php_eq_iff (blank : Writer.IsBlankUnit unit) (level : Nat) {v w : Value}
    (first : v.IsCanonical) (second : w.IsCanonical) :
    (code .php unit level v).text = (code .php unit level w).text ↔
      v.bracketed = w.bracketed := by
  constructor
  · intro same
    have nothing : Over [] := fun c mem => by cases mem
    exact (isTold blank first level w [] [] second nothing nothing (by rw [same])).1
  · intro same
    rw [← code_bracketed v, same, code_bracketed w]

/-- The order of keys, the quotes of a string and the absence of keys are seen in the literal. -/
theorem code_php_eq_iff_nested :
    let one : Value := .number (.integer 1)
    let v : Value := .object [("a", one), ("b", .array [.null])]
    ∀ w ∈ [Value.object [("b", .array [.null]), ("a", one)],
        .object [("a", .string "1"), ("b", .array [.null])], .array [one, .array [.null]]],
      (code .php "\t" 2 v).text ≠ (code .php "\t" 2 w).text := by
  intro one v w mem same
  have canonical : ∀ w ∈ [Value.object [("b", .array [.null]), ("a", one)],
      .object [("a", .string "1"), ("b", .array [.null])], .array [one, .array [.null]]],
      w.IsCanonical ∧ v.bracketed ≠ w.bracketed := by decide
  obtain ⟨given, apart⟩ := canonical w mem
  exact apart ((code_php_eq_iff (by decide) 2 (by decide) given).1 same)

theorem code_php_empty :
    (code .php "  " 0 (.object [])).text = (code .php "  " 0 (.array [])).text ∧
      Value.object [] ≠ Value.array [] :=
  ⟨rfl, by decide⟩

end Literal

end RequestScribe
