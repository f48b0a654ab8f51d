import RequestScribe.Program.Go
import RequestScribe.Proofs.Code.EscapedLiteral
import RequestScribe.Proofs.Json.Reading

/-!
# JSON in programs

The lines that a writer lays out for a JSON value are a document that gives the
value back.  A Go program holds the document in a string literal, whose text is
again a document for the value: between backticks the writer indents the lines
of the document, and in an interpreted literal there are no lines to indent.
-/

namespace RequestScribe

namespace Go

/-- The text of a string literal and what follows it; a raw literal drops carriage returns. -/
def readLiteral : List Char → Option (List Char × List Char)
  | '\x60' :: rest =>
      (Chars.cut? '\x60' rest).map fun (text, after) => (text.filter (· != '\r'), after)
  | '"' :: rest => StringLiteral.readEscaped '"' rest
  | _ => none

theorem readLiteral_raw {text : List Char} (whole : '\x60' ∉ text) (plain : '\r' ∉ text)
    (after : List Char) :
    readLiteral ('\x60' :: (text ++ '\x60' :: after)) = some (text, after) := by
  have kept : text.filter (· != '\r') = text := by
    refine List.filter_eq_self.2 fun c mem => bne_iff_ne.2 ?_
    exact fun same => plain (same ▸ mem)
  rw [readLiteral, Chars.cut?_append whole]
  simp [kept]

theorem readLiteral_escaped (s : String) (after : List Char) :
    readLiteral ((StringLiteral.doubleEscaped s).toList ++ after) = some (s.toList, after) := by
  have known : '"' = '\'' ∨ '"' = '"' := .inr rfl
  have read := StringLiteral.readEscaped_escape known s.toList after
  rw [StringLiteral.doubleEscaped, StringLiteral.toList_enclose]
  simpa [readLiteral] using read

/-- The literal of a document: raw just if the document has no backtick. -/
def jsonLiteral (json : String) : String :=
  if Text.hasChar '\x60' json then StringLiteral.doubleEscaped json else "`" ++ json ++ "`"

theorem toList_jsonPayload (b : Brief) (v : Json.Value) :
    (jsonPayload b v).text.toList =
      "payload := []byte(".toList ++ ((jsonLiteral (v.pretty b.unit)).toList ++ [')']) := by
  unfold jsonPayload jsonLiteral
  by_cases tick : Text.hasChar '\x60' (v.pretty b.unit) = true
  · simp [tick, string]
  · simp [tick]

end Go

namespace Writer

variable {w : Writer} {v : Json.Value}

/-- What the payload's line is, if the literal moves. -/
theorem lines_jsonPayload {b : Brief} {moved : List Char}
    (h : Chars.Moves w.indentation (Go.jsonLiteral (v.pretty b.unit)).toList moved) :
    (w.lines (Go.jsonPayload b v).text).written =
      (w.indentation ++ "payload := []byte(".toList ++ moved ++ ")\n".toList).reverse ++
        w.written := by
  have written := Go.toList_jsonPayload b v
  have call : Chars.InLine "payload := []byte(".toList := by decide
  have close : Chars.InLine [')'] := by decide
  have whole := call.moves.append (h.append close.moves)
  have first := (call.startsInLine (by decide)).append
    ((Go.jsonLiteral (v.pretty b.unit)).toList ++ [')'])
  rw [← written] at whole first
  have last : (Go.jsonPayload b v).text.toList.getLast? ≠ some '\n' := by
    rw [written, ← List.append_assoc, List.getLast?_append]
    simp
  rw [w.lines_of_moves whole first last]
  simp

section Document

variable (blank : IsBlankUnit w.unit) (readable : v.isReadable = true)
  (fits : v.depth ≤ Json.Value.depthLimit)

include blank readable fits

theorem read?_pretty : Json.Value.read? (v.pretty w.unit) = some v := by
  have read := Json.Value.read?_code blank readable fits 0 (List.forall_mem_nil _)
    (List.forall_mem_nil _)
  simpa [Json.Value.pretty] using read

/-- Indented or not, the literal of a document stands for a document with the same value. -/
theorem exists_moves_jsonLiteral :
    ∃ moved json, Chars.Moves w.indentation (Go.jsonLiteral (v.pretty w.unit)).toList moved ∧
      Go.readLiteral moved = some (json, []) ∧
      moved.head? = some (if Text.hasChar '\x60' (v.pretty w.unit) then '"' else '\x60') ∧
      Json.Value.read? (String.ofList json) = some v := by
  unfold Go.jsonLiteral
  -- With a backtick everything stands on one line; without one the writer moves the lines.
  cases tick : Text.hasChar '\x60' (v.pretty w.unit) with
  | true =>
      have inLine : Chars.InLine (StringLiteral.doubleEscaped (v.pretty w.unit)).toList :=
        StringLiteral.inLine_enclose (.inr rfl) _
      have read := Go.readLiteral_escaped (v.pretty w.unit) []
      rw [List.append_nil] at read
      refine ⟨_, (v.pretty w.unit).toList, inLine.moves, read, ?_, ?_⟩
      · simp [StringLiteral.doubleEscaped, StringLiteral.toList_enclose]
      · rw [String.ofList_toList]
        exact read?_pretty blank readable fits
  | false =>
      let json := (Literal.code .json w.unit w.level v).text.toList
      have moves : Chars.Moves w.indentation (v.pretty w.unit).toList json :=
        Literal.moves_code Json.isOneLine_json blank w.level v 0
      have marks : Chars.InLine ['\x60'] := by decide
      have whole : '\x60' ∉ json := by
        have same : Chars.reindent w.indentation (v.pretty w.unit).toList = json := by
          simpa [Chars.reindent] using moves []
        intro mem
        rw [← same] at mem
        rcases Chars.mem_reindent mem with inside | inIndent
        · exact absurd tick (by simpa [Text.hasChar] using inside)
        · exact not_mem_indentation blank (by decide) inIndent
      have plain : '\r' ∉ json := by
        have texts : ∀ text ∈ w.unit :: LiteralStyle.json.texts, ∀ c ∈ text.toList, c ≠ '\r' := by
          refine List.forall_mem_cons.2 ⟨fun c mem => ?_, fun text mem c hc => ?_⟩
          · rcases blank c mem with rfl | rfl <;> decide
          · exact (Json.isOneLine_json.texts text mem c hc).2
        have number (n : Json.Number) : ∀ c ∈ n.text.toList, c ≠ '\r' :=
          fun c mem => ((Json.isOneLine_json.edge (.number n)).1 c mem).2
        have other : ∀ c ∈ json, c ≠ '\r' :=
          Literal.forall_mem_code (by decide) (by decide) texts number
            (fun s c mem => (Json.inLine_quoted s c mem).2) v w.level
        exact fun mem => other '\r' mem rfl
      have read := Go.readLiteral_raw whole plain []
      refine ⟨'\x60' :: (json ++ ['\x60']), json, ?_, read, rfl, ?_⟩
      · have literal := marks.moves.append (moves.append marks.moves)
        simpa using literal
      · have document := Json.Value.read?_code blank readable fits w.level (List.forall_mem_nil _)
          (List.forall_mem_nil _)
        rwa [List.nil_append, List.append_nil] at document

end Document

/--
The lines of a JSON value are a document for the value, and so is what the
string literal of a Go payload stands for, whichever kind of literal it is.
-/
theorem lines_pretty_read_back (w : Writer) (blank : IsBlankUnit w.unit) (v : Json.Value)
    (readable : v.isReadable = true) (fits : v.depth ≤ Json.Value.depthLimit) :
    (∃ text, (w.lines (v.pretty w.unit)).written = text.reverse ++ w.written ∧
      Json.Value.read? (String.ofList text) = some v) ∧
    ∀ b : Brief, b.unit = w.unit →
      ∃ literal json,
        (w.lines (Go.jsonPayload b v).text).written =
            (w.indentation ++ "payload := []byte(".toList ++ literal ++ ")\n".toList).reverse ++
              w.written ∧
          Go.readLiteral literal = some (json, []) ∧
          literal.head? = some (if Text.hasChar '\x60' (v.pretty w.unit) then '"' else '\x60') ∧
          Json.Value.read? (String.ofList json) = some v := by
  constructor
  · have written := lines_code Json.isOneLine_json w blank v
    have indent : ∀ c ∈ w.indentation, Json.Reader.isSpace c = true :=
      Json.Value.isSpace_of_mem_times blank w.level
    refine ⟨w.indentation ++ (Literal.code .json w.unit w.level v).text.toList ++ ['\n'], ?_, ?_⟩
    · exact congrArg Writer.written written
    · exact Json.Value.read?_code blank readable fits w.level indent
        (List.forall_mem_singleton.2 rfl)
  · intro b same
    obtain ⟨literal, json, moves, read, kind, document⟩ :=
      exists_moves_jsonLiteral blank readable fits
    rw [← same] at moves
    exact ⟨literal, json, lines_jsonPayload moves, read, kind, document⟩

theorem lines_pretty_read_back_backtick :
    let w : Writer := ⟨"  ", 1, []⟩
    let v : Json.Value := .object
      [("a\x60",
          .array [.number (.integer (-1)), .number (.float ⟨false, 6755399441055744, 1022⟩)]),
        ("b", .string "x\ny")]
    let b : Brief :=
      { settings := {}, method := .post, url := "https://x.test", query := [],
        body? := some (.json v), files := [], transport := {}, acceptsJson := true, headers := [],
        basicAuth? := none, envNames := [] }
    (∃ text, (w.lines (v.pretty w.unit)).written = text.reverse ++ w.written ∧
      Json.Value.read? (String.ofList text) = some v) ∧
    ∃ literal json,
      (w.lines (Go.jsonPayload b v).text).written =
          (w.indentation ++ "payload := []byte(".toList ++ literal ++ ")\n".toList).reverse ++
            w.written ∧
        Go.readLiteral literal = some (json, []) ∧ literal.head? = some '"' ∧
        Json.Value.read? (String.ofList json) = some v := by
  intro w v b
  have same : b.unit = w.unit := by decide
  obtain ⟨document, payload⟩ := lines_pretty_read_back w (by decide) v (by decide +kernel) (by decide)
  obtain ⟨literal, json, written, read, kind, inside⟩ := payload b same
  refine ⟨document, literal, json, written, read, ?_, inside⟩
  rw [kind]
  decide +kernel

end Writer

end RequestScribe
