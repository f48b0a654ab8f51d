import RequestScribe.Program.Generated
import RequestScribe.Proofs.Program.GoPayload
import RequestScribe.Proofs.Shape.RelaidTypes

/-!
# Programs with other indents

The settings of indentation are only layout.  A generator uses the unit for the texts of several
lines that it lays out, the JSON literals and the type declarations.  Beyond that only Python looks
at it, to see that there is one.
-/

namespace RequestScribe

open Step

def Settings.indentedBy (s : Settings) (type : IndentType) (size : Nat) : Settings :=
  { s with indentType := type, indentSize := size }

theorem Settings.isBlankUnit_indentUnit (s : Settings) : Writer.IsBlankUnit s.indentUnit := by
  intro c mem
  unfold indentUnit at mem
  cases type : s.indentType with
  | tabs =>
      rw [type] at mem
      exact .inr (by simpa using mem)
  | spaces =>
      rw [type] at mem
      exact .inl (by simpa using Literal.mem_times mem)

theorem Settings.isIndentUnit_indentUnit {s : Settings} (some : s.indentUnit ≠ "") :
    Writer.IsIndentUnit s.indentUnit :=
  ⟨s.isBlankUnit_indentUnit, some⟩

namespace Brief

def indentedBy (b : Brief) (type : IndentType) (size : Nat) : Brief :=
  { b with settings := b.settings.indentedBy type size }

variable {b : Brief} {type : IndentType} {size : Nat}

theorem body?_indentedBy : (b.indentedBy type size).body? = b.body? := rfl

theorem typeSets_indentedBy : (b.indentedBy type size).typeSets = b.typeSets := rfl

end Brief

section Programs

-- A program is the steps in front of its literals and types, these, and the steps behind them.  The
-- other steps do not have the unit, so they are the same for both briefs.
variable {b : Brief} {type : IndentType} {size : Nat} (hu : Writer.IsIndentUnit b.unit)
  (hu' : Writer.IsIndentUnit (b.indentedBy type size).unit)

include hu hu'

theorem Brief.relaid_typeSteps (dialect : Dialect) :
    Relaid (b.typeSteps dialect) ((b.indentedBy type size).typeSteps dialect) := by
  unfold typeSteps types?
  rw [typeSets_indentedBy]
  cases b.typeSets.isEmpty with
  | true => exact .nil
  | false => exact .lines (TypeSet.relaid_writeBlocks hu hu' dialect b.typeBlocks) (.refl _)

/-! ## JavaScript and TypeScript -/

theorem Script.relaid_body (s : Script) :
    Relaid (s.body b) (s.body (b.indentedBy type size)) := by
  unfold body
  rw [Brief.body?_indentedBy]
  split
  · next v _ => exact .lines (Literal.relaid_between hu hu' .javaScript v _ _) .nil
  all_goals exact .refl _

theorem Script.relaid_program (s : Script) :
    Relaid (s.program b).steps (s.program (b.indentedBy type size)).steps := by
  have types : Relaid (if s.typed then b.typeSteps .typeScript else [])
      (if s.typed then (b.indentedBy type size).typeSteps .typeScript else []) := by
    split
    · exact b.relaid_typeSteps hu hu' .typeScript
    · exact .nil
  have preamble := (s.relaid_body hu hu').behind (s.address b ++ s.headers b)
  have request : Relaid [s.makeRequest b] [s.makeRequest (b.indentedBy type size)] :=
    .block _ _ ((preamble.andThen _).andThen _) .nil
  exact ((types.behind _).append request).andThen _

/-! ## Python -/

theorem Python.relaid_body : Relaid (body b) (body (b.indentedBy type size)) := by
  unfold body
  rw [Brief.body?_indentedBy]
  split
  · next v _ =>
      exact .lines (Code.relaid_append (.refl _) (Literal.relaid_code hu hu' .python v 0)) .nil
  all_goals exact .refl _

theorem Python.exists_relaid_program (client : PythonClient) :
    ∃ p p', program client b = .ok p ∧ program client (b.indentedBy type size) = .ok p' ∧
      Relaid p.steps p'.steps := by
  have preamble : Relaid (preamble b) (preamble (b.indentedBy type size)) :=
    (relaid_body hu hu').behind _
  have request : Relaid [makeRequest client b] [makeRequest client (b.indentedBy type size)] :=
    .scope _ (((preamble.behind _).andThen _).andThen _) .nil
  have some : b.unit.isEmpty = false := by simpa using hu.nonempty
  have some' : (b.indentedBy type size).unit.isEmpty = false := by simpa using hu'.nonempty
  unfold program
  rw [some, some']
  exact ⟨_, _, rfl, rfl, (request.behind _).andThen _⟩

/-! ## Go -/

/-- Between backticks the document is laid out again; a string literal would escape its indents. -/
theorem Go.relaid_jsonPayload {v : Json.Value} (whole : '\x60' ∉ (v.pretty b.unit).toList) :
    Chars.Relaid (jsonPayload b v).text.toList
      (jsonPayload (b.indentedBy type size) v).text.toList := by
  have document : Chars.Relaid (v.pretty b.unit).toList
      (v.pretty (b.indentedBy type size).unit).toList := Literal.relaid_code hu hu' .json v 0
  have whole' : '\x60' ∉ (v.pretty (b.indentedBy type size).unit).toList := by
    rwa [← document.mem_iff (by decide)]
  have raw : Text.hasChar '\x60' (v.pretty b.unit) = false := by
    simpa [Text.hasChar] using whole
  have raw' : Text.hasChar '\x60' (v.pretty (b.indentedBy type size).unit) = false := by
    simpa [Text.hasChar] using whole'
  have literal := ((Chars.Relaid.refl ['\x60']).append document).append (.refl ['\x60'])
  rw [toList_jsonPayload, toList_jsonPayload, jsonLiteral, jsonLiteral, raw, raw']
  exact (Chars.Relaid.refl _).append (.append (by simpa using literal) (.refl _))

theorem Go.relaid_body (whole : ∀ v, b.body? = some (.json v) → '\x60' ∉ (v.pretty b.unit).toList) :
    Relaid (body b) (body (b.indentedBy type size)) := by
  unfold body
  rw [Brief.body?_indentedBy]
  split
  · next v json => exact .lines (relaid_jsonPayload hu hu' (whole v json)) .nil
  all_goals exact .refl _

theorem Go.relaid_program
    (whole : ∀ v, b.body? = some (.json v) → '\x60' ∉ (v.pretty b.unit).toList) :
    Relaid (program b).steps (program (b.indentedBy type size)).steps := by
  have prepared := (relaid_body hu hu' whole).behind (address b ++ [blank])
  have request : Relaid [makeRequest b, blank] [makeRequest (b.indentedBy type size), blank] :=
    .block _ _ ((((((((prepared.andThen _).andThen _).andThen _).andThen _).andThen _).andThen
      _).andThen _).andThen _) (.refl _)
  exact ((((b.relaid_typeSteps hu hu' .go).behind _).andThen _).append request |>.andThen
    _).andThen _

/-! ## Rust -/

theorem Rust.relaid_jsonStep (v : Json.Value) :
    Relaid [jsonStep b v] [jsonStep (b.indentedBy type size) v] := by
  have typed : (b.indentedBy type size).typedBody = b.typedBody := rfl
  unfold jsonStep
  rw [typed]
  split
  · exact .lines (Literal.relaid_between hu hu' .json v _ _) .nil
  · exact .lines (Literal.relaid_between hu hu' .json v _ _) .nil

theorem Rust.relaid_body : Relaid (body b) (body (b.indentedBy type size)) := by
  unfold body
  rw [Brief.body?_indentedBy]
  split
  · next v _ => exact relaid_jsonStep hu hu' v
  all_goals exact .refl _

theorem Rust.relaid_program :
    Relaid (program b).steps (program (b.indentedBy type size)).steps := by
  have prepared := (relaid_body hu hu').behind (client b)
  have request : Relaid [makeRequest b, blank] [makeRequest (b.indentedBy type size), blank] :=
    .block _ _ ((((prepared.andThen _).andThen _).andThen _).andThen _) (.refl _)
  exact ((((b.relaid_typeSteps hu hu' .rust).behind _).append request).andThen _).andThen _

/-! ## PHP and Ruby -/

theorem Php.relaid_body : Relaid (body b) (body (b.indentedBy type size)) := by
  unfold body
  rw [Brief.body?_indentedBy]
  split
  · next v _ => exact .lines (Literal.relaid_between hu hu' .php v _ _) .nil
  all_goals exact .refl _

theorem Php.relaid_program :
    Relaid (program b).steps (program (b.indentedBy type size)).steps := by
  have prepared := (relaid_body hu hu').behind (address b ++ headers b)
  have request : Relaid (makeRequest b) (makeRequest (b.indentedBy type size)) :=
    .cons _ (.block _ _ ((((((prepared.andThen _).andThen _).andThen _).andThen _).andThen
      _).andThen _) .nil)
  exact (request.behind _).andThen _

theorem Ruby.relaid_body : Relaid (body b) (body (b.indentedBy type size)) := by
  unfold body
  rw [Brief.body?_indentedBy]
  split
  · next v _ => exact .lines (Literal.relaid_between hu hu' .ruby v _ _) .nil
  all_goals exact .refl _

theorem Ruby.relaid_program :
    Relaid (program b).steps (program (b.indentedBy type size)).steps := by
  have prepared := (relaid_body hu hu').behind
    (address b ++ [blank, line (newRequest b)] ++ headers b)
  have request : Relaid [makeRequest b] [makeRequest (b.indentedBy type size)] :=
    .block _ _ ((((prepared.andThen _).andThen _).andThen _).andThen _) .nil
  exact (request.behind _).andThen _

/-! ## All targets -/

/-- The programs of a target are made of the same steps, but for the texts that have the unit. -/
theorem Target.exists_relaid_program (t : Target)
    (whole : t = .go → ∀ v, b.body? = some (.json v) → '\x60' ∉ (v.pretty b.unit).toList) :
    ∃ p p', t.program b = .ok p ∧ t.program (b.indentedBy type size) = .ok p' ∧
      Relaid p.steps p'.steps := by
  cases t with
  | javaScript client => exact ⟨_, _, rfl, rfl, Script.relaid_program hu hu' _⟩
  | typeScript client => exact ⟨_, _, rfl, rfl, Script.relaid_program hu hu' _⟩
  | python client => exact Python.exists_relaid_program hu hu' client
  | go => exact ⟨_, _, rfl, rfl, Go.relaid_program hu hu' (whole rfl)⟩
  | rust => exact ⟨_, _, rfl, rfl, Rust.relaid_program hu hu'⟩
  | php => exact ⟨_, _, rfl, rfl, Php.relaid_program hu hu'⟩
  | ruby => exact ⟨_, _, rfl, rfl, Ruby.relaid_program hu hu'⟩

end Programs

namespace Generated

theorem ofRequest_eq_ok {t : Target} {settings : Settings} {r : Request} {p : Program}
    (made : t.program (Brief.ofRequest settings r) = .ok p) :
    ofRequest t settings r =
      .ok (ofProgram t (Brief.ofRequest settings r) (Brief.extraction settings r).envVars p) := by
  unfold ofRequest
  rw [Brief.ofRequest] at made
  simp only [made]
  rfl

theorem exists_program {t : Target} {settings : Settings} {r : Request} {g : Generated}
    (ok : ofRequest t settings r = .ok g) :
    ∃ p, t.program (Brief.ofRequest settings r) = .ok p ∧
      g = ofProgram t (Brief.ofRequest settings r) (Brief.extraction settings r).envVars p := by
  cases made : t.program (Brief.ofRequest settings r) with
  | ok p => exact ⟨p, rfl, Except.ok.inj (ok.symm.trans (ofRequest_eq_ok made))⟩
  | error failure =>
      unfold ofRequest at ok
      rw [Brief.ofRequest] at made
      simp only [made] at ok
      cases ok

/--
With any two settings of indentation, neither of them empty, the code for a request has the same
lines but for the spaces and tabs that they begin with.  A Go program holds the JSON body as it is
laid out, unless there is a backtick in it: then the indents stand in a string literal.
-/
theorem ofRequest_indentedBy (t : Target) (settings : Settings) (r : Request)
    (type type' : IndentType) (size size' : Nat)
    (unit : (settings.indentedBy type size).indentUnit ≠ "")
    (unit' : (settings.indentedBy type' size').indentUnit ≠ "")
    (whole : t = .go → ∀ v, r.body? = some (.json v) →
      '\x60' ∉ (v.pretty (settings.indentedBy type size).indentUnit).toList) :
    ∃ g g', ofRequest t (settings.indentedBy type size) r = .ok g ∧
      ofRequest t (settings.indentedBy type' size') r = .ok g' ∧
      Chars.outdentedLines g.code.toList = Chars.outdentedLines g'.code.toList := by
  let b := Brief.ofRequest (settings.indentedBy type size) r
  have hu : Writer.IsIndentUnit b.unit := Settings.isIndentUnit_indentUnit unit
  have hu' : Writer.IsIndentUnit (b.indentedBy type' size').unit :=
    Settings.isIndentUnit_indentUnit unit'
  obtain ⟨p, p', made, made', relaid⟩ := t.exists_relaid_program hu hu' whole
  exact ⟨_, _, ofRequest_eq_ok made, ofRequest_eq_ok made', relaid.outdentedLines_layOut hu hu'⟩

/-- A Go program with a JSON body and its type, indented with tabs and with spaces. -/
theorem ofRequest_indentedBy_tabs :
    let v : Json.Value := .object [("name", .string "a"), ("tags", .array [.string "b", .null])]
    let r : Request :=
      { method := .post
        url := "https://api.test/items"
        headers := [("Content-Type", "application/json")]
        body? := some (.json v)
        rawBody? := some "\x7b\"name\":\"a\",\"tags\":[\"b\",null]\x7d"
        authorization? := none
        cookies := []
        files := []
        query := []
        transport := {} }
    let settings : Settings := {}
    let tabs := settings.indentedBy .tabs 0
    let spaces := settings.indentedBy .spaces 3
    tabs.indentUnit ≠ "" ∧ spaces.indentUnit ≠ "" ∧ '\x60' ∉ (v.pretty tabs.indentUnit).toList ∧
      ∃ g g', ofRequest .go tabs r = .ok g ∧ ofRequest .go spaces r = .ok g' ∧
        Chars.outdentedLines g.code.toList = Chars.outdentedLines g'.code.toList := by
  intro v r settings tabs spaces
  have unit : tabs.indentUnit ≠ "" := by decide
  have unit' : spaces.indentUnit ≠ "" := by decide
  have whole : '\x60' ∉ (v.pretty tabs.indentUnit).toList := by decide +kernel
  have json (w : Json.Value) (h : r.body? = some (.json w)) : w = v := by
    injection h with h
    injection h with h
    exact h.symm
  refine ⟨unit, unit', whole, ?_⟩
  exact ofRequest_indentedBy .go settings r .tabs .spaces 0 3 unit unit'
    fun _ w h => json w h ▸ whole

end Generated

end RequestScribe
