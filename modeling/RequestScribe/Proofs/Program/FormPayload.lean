import RequestScribe.Proofs.Encoding.Form
import RequestScribe.Proofs.Ordered
import RequestScribe.Proofs.Program.MultipartMaps

/-!
# Form bodies with repeated names

A form may have several values under one name, and a map has one.  Programs in Python have
a dictionary in which such a name has the list of its values.  Programs in PHP have an array
only for names that are different, and otherwise the form as it is sent.  Neither loses a pair.
-/

namespace RequestScribe

open Step MapGrammar

/-! ## Python -/

namespace Python

def listTokens (values : List String) : List Token :=
  plainTokens "[" ++ (plainTokens ", ").intercalate (values.map python.stringTokens) ++
    plainTokens "]"

/-- The values of a name: a string if there is one, and else a list. -/
def valueTokens : List String → List Token
  | [only] => python.stringTokens only
  | values => listTokens values

theorem yields_intercalate (values : List String) :
    python.Yields (Code.intercalate ", " (values.map string)).text.toList
      ((plainTokens ", ").intercalate (values.map python.stringTokens)) := by
  have comma : python.Yields ", ".toList (plainTokens ", ") := .plainTokens (by decide)
  match values with
  | [] => exact .nil
  | [only] => simpa [Code.intercalate, Code.join] using Yields.string (writes only)
  | first :: second :: rest =>
      have later := yields_intercalate (second :: rest)
      have whole := ((Yields.string (writes first)).append comma).append later
      simpa [List.intercalate_cons_cons, Code.intercalate_cons_cons] using whole

theorem yields_formValue (values : List String) :
    python.Yields (formValue values).text.toList (valueTokens values) := by
  have opens : python.Yields "[".toList (plainTokens "[") := .plainTokens (by decide)
  have closes : python.Yields "]".toList (plainTokens "]") := .plainTokens (by decide)
  have list := (opens.append (yields_intercalate values)).append closes
  unfold formValue valueTokens
  split
  · exact .string (writes _)
  · simpa [listTokens] using list

/-- Inside of a bracket, commas between strings leave the bracket open. -/
theorem foldlM_depth?_intercalate (values : List String) :
    ((plainTokens ", ").intercalate (values.map python.stringTokens)).foldlM Token.depth? 1 =
      some 1 := by
  match values with
  | [] => rfl
  | [_] => rfl
  | first :: second :: rest =>
      have later := foldlM_depth?_intercalate (second :: rest)
      have here : (python.stringTokens first ++ plainTokens ", ").foldlM Token.depth? 1 = some 1 :=
        rfl
      rw [List.map_cons, List.map_cons, List.intercalate_cons_cons, ← List.map_cons,
        List.foldlM_append, here]
      exact later

theorem isFlat_valueTokens (values : List String) : IsFlat (valueTokens values) := by
  unfold valueTokens
  split
  · rfl
  · have opens : (plainTokens "[").foldlM Token.depth? 0 = some 1 := rfl
    have closes : (plainTokens "]").foldlM Token.depth? 1 = some 0 := rfl
    rw [IsFlat, listTokens, List.foldlM_append, List.foldlM_append, opens]
    simp [foldlM_depth?_intercalate, closes]

theorem valueTokens_ne_nil (values : List String) : valueTokens values ≠ [] := by
  unfold valueTokens
  split <;> simp [listTokens, stringTokens, plainTokens]

variable {b : Brief} {pairs : List (String × String)}

def formLine (pairs : List (String × String)) (key : String) : Code :=
  string key ++ ": " ++ formValue (Ordered.valuesUnder key pairs) ++ ","

/-- A program for a form has a dictionary with all values of a name under it. -/
theorem represents_form (form : b.body? = some (.form pairs)) (client : PythonClient) :
    python.Represents (layOut b.unit (steps client b)) "payload = \x7b" "\x7d"
      ((pairs.map Prod.fst).eraseDups.map fun key =>
        (key, valueTokens (Ordered.valuesUnder key pairs))) := by
  have block : body b = [block "payload = \x7b" "\x7d"
      (((pairs.map Prod.fst).eraseDups.map (formLine pairs)).map .line)] := by
    rw [body, form]
    dsimp only
    rw [Ordered.group_eq, List.map_map, List.map_map]
    rfl
  have payload := holds_steps client (b := b) .refl
  rw [block] at payload
  have ends : ∃ shown c, "\x7d".toList = shown ++ [c] ∧ Chars.isBlank c = false :=
    ⟨[], '\x7d', rfl, by decide⟩
  refine represents_of_holds payload (fun key _ => ?_) (by decide) ends
    b.settings.isBlankUnit_indentUnit
  exact writesLine (writes key) (yields_formValue _) (valueTokens_ne_nil _) (isFlat_valueTokens _)

end Python

/-! ## PHP -/

namespace Php

variable {b : Brief} {pairs : List (String × String)}

theorem body_form (form : b.body? = some (.form pairs)) : body b = [Php.form pairs] := by
  rw [body, form]

/-- If no name is repeated, a program has an array with the pairs. -/
theorem represents_form (form : b.body? = some (.form pairs))
    (distinct : (pairs.map Prod.fst).Nodup) :
    php.Represents (layOut b.unit (program b).steps) "$payload = http_build_query([" "]);"
      (pairs.map fun pair => (pair.1, php.stringTokens pair.2)) := by
  have payload := holds_program (b := b) .refl
  have block : body b = [block "$payload = http_build_query([" "]);"
      ((pairs.map fun pair => string pair.1 ++ " => " ++ string pair.2 ++ ",").map .line)] := by
    rw [body_form form, Php.form, if_pos (Ordered.length_eraseDups_eq_iff.2 distinct), List.map_map]
    rfl
  rw [block] at payload
  have ends : ∃ shown c, "]);".toList = shown ++ [c] ∧ Chars.isBlank c = false :=
    ⟨[']', ')'], ';', rfl, by decide⟩
  refine represents_of_holds payload (fun pair _ => ?_) (by decide) ends
    b.settings.isBlankUnit_indentUnit
  exact writesLine (writes pair.1) (.string (writes pair.2)) (List.cons_ne_nil _ _) rfl

/-- If a name is repeated, all that declares the body is a string, which is the encoded form. -/
theorem exists_encoded (form : b.body? = some (.form pairs))
    (repeats : ¬(pairs.map Prod.fst).Nodup) :
    ∃ encoded, body b = [.line ("$payload = " ++ string encoded ++ ";")] ∧
      "$payload = ".toList ++ (string encoded).text.toList ++ ";".toList <:+:
        (layOut b.unit (program b).steps).toList ∧
      StringGrammar.singlePlain.Writes (string encoded).text encoded ∧
      Form.decode encoded = pairs := by
  have line : body b = [.line ("$payload = " ++ string (Form.encode pairs) ++ ";")] := by
    rw [body_form form, Php.form, if_neg (mt Ordered.length_eraseDups_eq_iff.1 repeats)]
  have payload := holds_program (b := b) .refl
  rw [line] at payload
  have text : "$payload = ".toList ++ (string (Form.encode pairs)).text.toList ++ [';'] <:+:
      ("$payload = " ++ string (Form.encode pairs) ++ ";" : Code).text.toList := by
    simp
  exact ⟨Form.encode pairs, line, infix_layOut_of_holds payload text (by decide), writes _,
    Form.decode_encode pairs⟩

end Php

/-! ## Both languages -/

/--
Programs for a form have all of its pairs.  In Python every name is once in a dictionary, in
the order of the first pairs with the names, and has its values in their order, in a list unless
there is one.  In PHP the pairs are an array just if no name is repeated, and else a string that
is read as the pairs.
-/
theorem Generated.ofRequest_formPayload {r : Request} {pairs : List (String × String)}
    (form : r.body? = some (.form pairs)) (settings : Settings) :
    let names := pairs.map Prod.fst
    names.eraseDups.Nodup ∧
      (∀ client, settings.indentUnit ≠ "" → ∃ made,
        ofRequest (.python client) settings r = .ok made ∧
          python.Represents made.code "payload = \x7b" "\x7d" (names.eraseDups.map fun name =>
            (name, Python.valueTokens (Ordered.valuesUnder name pairs)))) ∧
      ∃ made, ofRequest .php settings r = .ok made ∧
        if names.Nodup then
          php.Represents made.code "$payload = http_build_query([" "]);"
            (pairs.map fun pair => (pair.1, php.stringTokens pair.2))
        else
          ∃ encoded, Php.body (.ofRequest settings r) =
              [.line ("$payload = " ++ Php.string encoded ++ ";")] ∧
            "$payload = ".toList ++ (Php.string encoded).text.toList ++ ";".toList <:+:
              made.code.toList ∧
            StringGrammar.singlePlain.Writes (Php.string encoded).text encoded ∧
            Form.decode encoded = pairs := by
  intro names
  refine ⟨Ordered.nodup_eraseDups names, fun client indented => ?_, _, ofRequest_eq_ok rfl, ?_⟩
  · have given : (Brief.ofRequest settings r).unit ≠ "" := indented
    obtain ⟨p, program, whole, -⟩ := @Python.exists_program client _ (by simpa using given)
    have payload := Python.represents_form (b := .ofRequest settings r) form client
    rw [← whole] at payload
    exact ⟨_, ofRequest_eq_ok program, payload⟩
  · split
    · next distinct => exact Php.represents_form (b := .ofRequest settings r) form distinct
    · next repeats => exact Php.exists_encoded (b := .ofRequest settings r) form repeats

/-- Two values of one name: a list of both in Python, and no array in PHP. -/
theorem Generated.ofRequest_formPayload_repeated :
    let pairs := [("b", "1"), ("a", "2"), ("b", "3")]
    let r : Request :=
      { method := .post
        url := "https://x.test"
        headers := []
        body? := some (.form pairs)
        rawBody? := none
        authorization? := none
        cookies := []
        files := []
        query := []
        transport := {} }
    r.body? = some (.form pairs) ∧ ({} : Settings).indentUnit ≠ "" ∧
      ¬(pairs.map Prod.fst).Nodup ∧
      (∃ made, ofRequest (.python .requests) {} r = .ok made ∧
        python.Represents made.code "payload = \x7b" "\x7d"
          [("b", Python.listTokens ["1", "3"]), ("a", python.stringTokens "2")]) ∧
      ∃ made encoded, ofRequest .php {} r = .ok made ∧
        "$payload = ".toList ++ (Php.string encoded).text.toList ++ ";".toList <:+:
          made.code.toList ∧
        Form.decode encoded = pairs := by
  intro pairs r
  have form : r.body? = some (.form pairs) := rfl
  have indented : ({} : Settings).indentUnit ≠ "" := by decide
  have repeats : ¬(pairs.map Prod.fst).Nodup := by decide
  obtain ⟨-, inPython, made, program, body⟩ := ofRequest_formPayload form {}
  rw [if_neg repeats] at body
  obtain ⟨encoded, -, within, -, read⟩ := body
  exact ⟨form, indented, repeats, inPython .requests indented, made, encoded, program, within, read⟩

end RequestScribe
