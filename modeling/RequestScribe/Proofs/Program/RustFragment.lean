import RequestScribe.Proofs.Code.StringDenotation
import RequestScribe.Proofs.Program.CommandBrief

/-!
# Values in Rust programs

A value that is read from a variable behind a lead is written as a string with a place for
the variable's value, in which the braces of the lead are doubled.  Between the quotes of the
string some characters have escapes with braces of their own.  Reading goes the other way: first
the escapes of the literal, then the braces of the text that it stands for.
-/

namespace RequestScribe

/-- The text of a fragment, given what looking up a variable gives. -/
def Fragment.valueFrom? (look? : String → Option String) : Fragment → Option String
  | .literal text => some text
  | .env var lead => (look? var).map (lead ++ ·)

namespace Rust

/-! ## Reading expressions -/

/-- The text of the string literal at the start of an expression, and what follows it. -/
def literal? (text : List Char) : Option (List Char × List Char) :=
  (StringGrammar.rust.read? text).bind fun (bytes, after) =>
    (Utf8.decode? (bytes.map UInt8.ofNat)).map fun cs => (cs, after)

/--
What is made of a text with places for arguments: two braces of one kind are one brace, an
opening and a closing one are the place of the next argument, and every argument has a place.
Places with names or with rules for the form of an argument are not known here.
-/
def formatted? : List (List Char) → List Char → Option (List Char)
  | args, '\x7b' :: '\x7b' :: rest => (formatted? args rest).map ('\x7b' :: ·)
  | args, '\x7d' :: '\x7d' :: rest => (formatted? args rest).map ('\x7d' :: ·)
  | arg :: args, '\x7b' :: '\x7d' :: rest => (formatted? args rest).map (arg ++ ·)
  | args, c :: rest =>
      if c = '\x7b' ∨ c = '\x7d' then none else (formatted? args rest).map (c :: ·)
  | [], [] => some []
  | _ :: _, [] => none

/--
The value of a whole expression that looks up a variable; if there is none, the
function returns.
-/
def lookup? (vars : EnvVars) (text : List Char) : Option String :=
  (List.isPrefixOf? "std::env::var(".toList text).bind fun rest =>
    (literal? rest).bind fun (name, after) =>
      if after = ")?".toList then vars.lookup (String.ofList name) else none

/--
The value of an expression: a string, a string that is formatted with the value of an
argument, or any other expression, of which `other?` gives the value.
-/
def evaluate? (other? : List Char → Option String) (text : List Char) : Option String :=
  match List.isPrefixOf? "format!(".toList text with
  | some inside =>
      (literal? inside).bind fun (form, after) =>
        (List.isPrefixOf? ", ".toList after).bind fun rest =>
          if rest.getLast? = some ')' then
            (other? rest.dropLast).bind fun arg =>
              (formatted? [arg.toList] form).map String.ofList
          else none
  | none =>
      if text.head? = some '"' then
        (literal? text).bind fun (cs, after) => if after = [] then some (String.ofList cs) else none
      else other? text

theorem literal?_append {written s : String} (writes : StringGrammar.rust.Writes written s)
    (after : List Char) : literal? (written.toList ++ after) = some (s.toList, after) := by
  have bytes : ((s.toList.flatMap Units.utf8).map UInt8.ofNat) = Utf8.encode s.toList := by
    rw [Units.flatMap_utf8, List.map_map]
    exact List.map_id'' (fun b => UInt8.ofNat_toNat) _
  have read : StringGrammar.rust.read? (written.toList ++ after) =
      some (s.toList.flatMap Units.utf8, after) := writes.read after
  rw [literal?, read, Option.bind_some]
  dsimp only
  rw [bytes, Utf8.decode?_encode, Option.map_some]

/-! ## Doubled braces -/

/-- One character of a lead in a text with places for arguments. -/
def doubled (c : Char) : List Char :=
  if c = '\x7b' ∨ c = '\x7d' then [c, c] else [c]

theorem toList_template (lead : String) :
    (template lead).toList = lead.toList.flatMap doubled ++ ['\x7b', '\x7d'] := by
  have each (c : Char) : (if c = '\x7b' then "\x7b\x7b".toList else [c]).flatMap
      (fun d => if d = '\x7d' then "\x7d\x7d".toList else [d]) = doubled c := by
    unfold doubled
    by_cases opens : c = '\x7b'
    · subst opens
      rfl
    · by_cases closes : c = '\x7d'
      · subst closes
        rfl
      · simp [opens, closes]
  simp only [template, Text.replaceChar, String.toList_append, String.toList_ofList,
    List.flatMap_assoc, each]
  rfl

theorem formatted?_doubled (args : List (List Char)) (c : Char) (rest : List Char) :
    formatted? args (doubled c ++ rest) = (formatted? args rest).map (c :: ·) := by
  unfold doubled
  by_cases opens : c = '\x7b'
  · subst opens
    simp [formatted?]
  · by_cases closes : c = '\x7d'
    · subst closes
      simp [formatted?]
    · simp [formatted?, opens, closes]

/-- A lead with its braces doubled and a place behind it comes to the lead and the argument. -/
theorem formatted?_template (lead : String) (arg : List Char) :
    formatted? [arg] (template lead).toList = some (lead.toList ++ arg) := by
  rw [toList_template]
  induction lead.toList with
  | nil => simp [formatted?]
  | cons c rest ih =>
      rw [List.flatMap_cons, List.append_assoc, formatted?_doubled, ih]
      rfl

/-! ## Values -/

theorem writes (s : String) : StringGrammar.rust.Writes (string s).text s := by
  rw [string, Code.text_quoted]
  exact StringGrammar.writes_doubleBraced s

theorem toList_envLookup (var : String) :
    (envLookup var).text.toList =
      "std::env::var(".toList ++ ('"' :: (var.toList ++ '"' :: ")?".toList)) := by
  simp [envLookup]

theorem evaluate?_string (other? : List Char → Option String) (s : String) :
    evaluate? other? (string s).text.toList = some s := by
  obtain ⟨inside, text, -⟩ := (writes s).closed
  have quote : (string s).text.toList = '"' :: (inside ++ ['"']) := text
  have read := literal?_append (writes s) []
  rw [List.append_nil] at read
  have plain : List.isPrefixOf? "format!(".toList (string s).text.toList = none := by
    rw [quote]
    rfl
  have opens : (string s).text.toList.head? = some '"' := by rw [quote]; rfl
  rw [evaluate?, plain]
  dsimp only
  rw [if_pos opens, read, Option.bind_some]
  simp

theorem evaluate?_envLookup (other? : List Char → Option String) (var : String) :
    evaluate? other? (envLookup var).text.toList = other? (envLookup var).text.toList := by
  rw [evaluate?, toList_envLookup]
  rfl

theorem evaluate?_joined (other? : List Char → Option String) (lead var : String) :
    evaluate? other? (fragments.joined lead var).text.toList =
      (other? (envLookup var).text.toList).map (lead ++ ·) := by
  have text : (fragments.joined lead var).text.toList = "format!(".toList ++
      ((string (template lead)).text.toList ++
        (", ".toList ++ ((envLookup var).text.toList ++ [')']))) := by
    simp [fragments]
  have opens (rest : List Char) :
      List.isPrefixOf? "format!(".toList ("format!(".toList ++ rest) = some rest :=
    List.isPrefixOf?_eq_some_iff_append_eq.2 rfl
  have comma (rest : List Char) : List.isPrefixOf? ", ".toList (", ".toList ++ rest) = some rest :=
    List.isPrefixOf?_eq_some_iff_append_eq.2 rfl
  rw [text, evaluate?, opens]
  dsimp only
  rw [literal?_append (writes _), Option.bind_some]
  dsimp only
  rw [comma, Option.bind_some, List.getLast?_concat, if_pos rfl, List.dropLast_concat]
  cases other? (envLookup var).text.toList with
  | none => rfl
  | some arg =>
      rw [Option.bind_some, formatted?_template, Option.map_some, Option.map_some,
        ← String.toList_append, String.ofList_toList]

theorem bracedCharacter_of_name {c : Char} (letter : Lexis.isNameCharacter c = true) :
    StringLiteral.bracedCharacter c = [c] := by
  have other (d : Char) (mark : Lexis.isNameCharacter d = false) : c ≠ d := by
    rintro rfl
    exact absurd letter (by simp [mark])
  have shown : Chars.isControl c = false := by
    have ranges : (0x61 ≤ c.toNat ∧ c.toNat ≤ 0x7A) ∨ (0x41 ≤ c.toNat ∧ c.toNat ≤ 0x5A) ∨
        (0x30 ≤ c.toNat ∧ c.toNat ≤ 0x39) ∨ c.toNat = 0x5F ∨ c.toNat = 0x24 := by
      simp only [Lexis.isNameCharacter, Bool.or_eq_true, beq_iff_eq, Chars.isAlphanumeric_iff]
        at letter
      rcases letter with (range | rfl) | rfl
      · grind
      · decide
      · decide
    simp only [Chars.isControl, Bool.or_eq_false_iff, decide_eq_false_iff_not,
      Bool.and_eq_false_iff]
    omega
  rw [StringLiteral.bracedCharacter, if_neg (other '\\' rfl), if_neg (other '"' rfl),
    if_neg (other '\n' rfl), if_neg (other '\r' rfl), if_neg (other '\t' rfl), shown]
  rfl

/-- A name between two quotes is the literal of the name. -/
theorem toList_string_of_name {var : String} (named : Lexis.IsName var) :
    (string var).text.toList = '"' :: (var.toList ++ ['"']) := by
  have same : var.toList.flatMap StringLiteral.bracedCharacter = var.toList := by
    refine (List.flatMap_congr fun c mem => bracedCharacter_of_name (named.letters c mem)).trans ?_
    exact List.flatMap_singleton' _
  rw [string, Code.text_quoted, StringLiteral.doubleBraced, same]
  simp [StringLiteral.enclose]

/-- The look-up of a variable has the value of the variable. -/
theorem lookup?_envLookup (vars : EnvVars) {var : String} (named : Lexis.IsName var) :
    lookup? vars (envLookup var).text.toList = vars.lookup var := by
  have text : (envLookup var).text.toList =
      "std::env::var(".toList ++ ((string var).text.toList ++ ")?".toList) := by
    rw [toList_envLookup, toList_string_of_name named]
    simp
  have opens (rest : List Char) :
      List.isPrefixOf? "std::env::var(".toList ("std::env::var(".toList ++ rest) = some rest :=
    List.isPrefixOf?_eq_some_iff_append_eq.2 rfl
  rw [text, lookup?, opens, Option.bind_some, literal?_append (writes var), Option.bind_some]
  dsimp only
  rw [if_pos rfl, String.ofList_toList]

/-- An expression for a value has the value, given what look-ups have. -/
theorem evaluate?_value_eq (other? : List Char → Option String) (f : Fragment) :
    evaluate? other? (value f).text.toList =
      f.valueFrom? fun var => other? (envLookup var).text.toList := by
  cases f with
  | literal text => exact evaluate?_string other? text
  | env var lead =>
      unfold value FragmentSyntax.code Fragment.valueFrom?
      dsimp only
      split
      · next none =>
          obtain rfl : lead = "" := by simpa using none
          refine (evaluate?_envLookup other? var).trans ?_
          cases other? (envLookup var).text.toList <;> simp
      · exact evaluate?_joined other? lead var

/--
What is written for a value evaluates to the value: a text to itself, and the look-up of a
variable to its lead and what the look-up gives, whatever characters the lead has.  The
look-ups of a program are read as well, so its values are those of its fragments.
-/
theorem evaluate?_value :
    (∀ (other? : List Char → Option String) (f : Fragment),
      evaluate? other? (value f).text.toList =
        f.valueFrom? fun var => other? (envLookup var).text.toList) ∧
      ∀ (settings : Settings) (r : Request) (vars : EnvVars),
        ∀ f ∈ (Brief.ofRequest settings r).fragments,
          evaluate? (lookup? vars) (value f).text.toList = f.value? vars := by
  refine ⟨evaluate?_value_eq, fun settings r vars f held => ?_⟩
  rw [evaluate?_value_eq]
  cases f with
  | literal text => rfl
  | env var lead =>
      have named : Lexis.IsName var := by
        refine Extraction.isNamed_ofRequest settings.extractEnvVars r var ?_
        exact (Extraction.mem_envVars_iff settings.extractEnvVars r var).2 ⟨_, held, rfl⟩
      rw [Fragment.valueFrom?, lookup?_envLookup vars named, Fragment.value?]

/-- A lead with braces, a quote and a control character. -/
theorem evaluate?_value_braces :
    let lead := "\x7b\x7d\x7d\"\x07 "
    let r : Request :=
      { method := .get
        url := "https://x.test"
        headers := []
        body? := none
        rawBody? := none
        authorization? := some (.apiKey "\x7b\x7d\x7d\"\x07" "k")
        cookies := []
        files := []
        query := []
        transport := {} }
    .env "API_KEY" lead ∈ (Brief.ofRequest {} r).fragments ∧
      (value (.env "API_KEY" lead)).text =
        "format!(\"\x7b\x7b\x7d\x7d\x7d\x7d\\\"\\u\x7b7\x7d \x7b\x7d\", std::env::var(\"API_KEY\")?)" ∧
      evaluate? (lookup? [("API_KEY", "k")]) (value (.env "API_KEY" lead)).text.toList =
        some (lead ++ "k") := by
  intro lead r
  have held : .env "API_KEY" lead ∈ (Brief.ofRequest {} r).fragments := by decide
  exact ⟨held, by decide, evaluate?_value.2 {} r [("API_KEY", "k")] _ held⟩

end Rust

end RequestScribe
