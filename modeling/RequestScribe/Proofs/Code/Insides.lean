import RequestScribe.Proofs.Code.Level
import RequestScribe.Proofs.Code.MaskedLiteral

/-!
# Literals as they are written

A reader goes through program text with one kind of quote and collects what
stands between the quotes of each literal, escapes included, without asking what
it means.  A backslash hides the character after it.
-/

namespace RequestScribe

namespace StringLiteral

/-- The literals from a place on, as they are written between their quotes. -/
def insidesFrom (quote : Char) : Place → List Char → List (List Char)
  | _, [] => []
  | .outside, c :: rest =>
      if c = quote then insidesFrom quote (.inside []) rest else insidesFrom quote .outside rest
  | .inside latest, c :: rest =>
      if c = quote then latest.reverse :: insidesFrom quote .outside rest
      else if c = '\\' then insidesFrom quote (.escaped latest) rest
      else insidesFrom quote (.inside (c :: latest)) rest
  | .escaped latest, c :: rest => insidesFrom quote (.inside (c :: '\\' :: latest)) rest

def insides (quote : Char) (text : List Char) : List (List Char) :=
  insidesFrom quote .outside text

/-- A text with these literals, all of which are closed in it. -/
def Encloses (quote : Char) (text : List Char) (literals : List (List Char)) : Prop :=
  ∀ rest, insides quote (text ++ rest) = literals ++ insides quote rest

variable {quote : Char} {a b : List Char} {x y : List (List Char)}

/-- A literal ends at the first quote that no backslash hides. -/
theorem insidesFrom_kept (slash : '\\' ≠ quote) (kept : Lexis.Kept quote a)
    (latest rest : List Char) :
    insidesFrom quote (.inside latest) (a ++ quote :: rest) =
      (latest.reverse ++ a) :: insides quote rest := by
  induction kept generalizing latest with
  | nil => rw [List.nil_append, insidesFrom, if_pos rfl, List.append_nil, insides]
  | @plain c a other unescaped _ ih =>
      rw [List.cons_append, insidesFrom, if_neg other, if_neg unescaped, ih]
      simp
  | escaped c _ ih =>
      rw [List.cons_append, List.cons_append, insidesFrom, if_neg slash, if_pos rfl, insidesFrom, ih]
      simp

namespace Encloses

theorem insides_eq (h : Encloses quote a x) : insides quote a = x := by
  have whole := h []
  have none : insides quote [] = [] := rfl
  rwa [List.append_nil, none, List.append_nil] at whole

theorem plain (absent : quote ∉ a) : Encloses quote a [] := by
  intro rest
  induction a with
  | nil => rfl
  | cons c a ih =>
      rw [List.mem_cons, not_or] at absent
      rw [List.cons_append, insides, insidesFrom, if_neg (Ne.symm absent.1)]
      exact ih absent.2

theorem text (absent : quote ∉ a) : Encloses quote (String.ofList a).toList [] := by
  rw [String.toList_ofList]
  exact .plain absent

theorem literal (slash : '\\' ≠ quote) (kept : Lexis.Kept quote a) :
    Encloses quote (quote :: (a ++ [quote])) [a] := by
  intro rest
  have read := insidesFrom_kept slash kept [] rest
  rw [List.cons_append, List.append_assoc, List.singleton_append, insides, insidesFrom, if_pos rfl,
    read]
  rfl

theorem append (first : Encloses quote a x) (second : Encloses quote b y) :
    Encloses quote (a ++ b) (x ++ y) := by
  intro rest
  rw [List.append_assoc, first, second, List.append_assoc]

theorem flatMap {α : Type} {text : α → List Char} {literals : α → List (List Char)} :
    ∀ {items : List α}, (∀ a ∈ items, Encloses quote (text a) (literals a)) →
      Encloses quote (items.flatMap text) (items.flatMap literals)
  | [], _ => plain List.not_mem_nil
  | a :: rest, each => by
      obtain ⟨here, later⟩ := List.forall_mem_cons.1 each
      exact here.append (flatMap later)

theorem intercalate {α : Type} {part : α → Code} {literals : α → List (List Char)}
    {separator : Code} (silent : quote ∉ separator.text.toList) : ∀ {items : List α},
    (∀ a ∈ items, Encloses quote (part a).text.toList (literals a)) →
      Encloses quote (Code.intercalate separator (items.map part)).text.toList
        (items.flatMap literals)
  | [], _ => plain List.not_mem_nil
  | [a], each => by
      have one := each a List.mem_cons_self
      simpa [Code.intercalate, Code.join] using one
  | a :: b :: rest, each => by
      obtain ⟨here, later⟩ := List.forall_mem_cons.1 each
      have whole := here.append ((plain silent).append (intercalate silent later))
      simpa [Code.intercalate_cons_cons] using whole

end Encloses

end StringLiteral

/-! ## JSON -/

namespace Json

theorem encloses_quoted (s : String) : StringLiteral.Encloses '"' (quoted s).toList
    [s.toList.flatMap escapeCharacter] := by
  have text : (quoted s).toList = '"' :: (s.toList.flatMap escapeCharacter ++ ['"']) := by
    simp [quoted]
  rw [text]
  exact .literal (by decide) (.flatMap Lexis.kept_jsonCharacter s.toList)

end Json

namespace Literal

open StringLiteral

variable {unit : String} (silent : '"' ∉ unit.toList)

include silent

theorem encloses_enclosed {opening closing : String} (opens : '"' ∉ opening.toList)
    (closes : '"' ∉ closing.toList) (level : Nat) {lines : List Code} {x : List (List Char)}
    (h : Encloses '"' (Code.intercalate ",\n" lines).text.toList x) :
    Encloses '"' (enclosed opening closing "" unit level lines).text.toList x := by
  have feed : Encloses '"' ['\n'] [] := .plain (by decide)
  have bottom : Encloses '"' (Text.times level unit).toList [] :=
    .plain fun mem => silent (mem_times mem)
  have whole := ((Encloses.plain opens).append feed).append
    (h.append (feed.append (bottom.append (.plain closes))))
  simpa [text_enclosed] using whole

/-- The literals of a value are its keys and its strings, in the escapes of JSON. -/
theorem encloses_code (v : Json.Value) (level : Nat) :
    Encloses '"' (code .json unit level v).text.toList
      (v.strings.map fun s => s.toList.flatMap Json.escapeCharacter) := by
  have indent (level : Nat) : Encloses '"' (Text.times level unit).toList [] :=
    .plain fun mem => silent (mem_times mem)
  induction v using Json.Value.induction generalizing level with
  | null =>
      rw [code]
      exact .plain (by decide)
  | bool b =>
      rw [code]
      cases b <;> exact .plain (by decide)
  | number n =>
      rw [code, Code.text_plain]
      refine .plain fun mem => ?_
      exact absurd (Json.isNumberCharacter_of_mem_text n '"' mem) (by decide)
  | string s =>
      rw [code, Code.text_quoted]
      exact Json.encloses_quoted s
  | array items ih =>
      by_cases empty : items = []
      · subst empty
        rw [code]
        exact .plain (by decide)
      · rw [code_array level empty, Json.Value.strings, Json.Value.itemStrings_eq, List.map_flatMap]
        refine encloses_enclosed silent (by decide) (by decide) level
          (.intercalate (by decide) fun v mem => ?_)
        have line := (indent (level + 1)).append (ih v mem (level + 1))
        simpa using line
  | object fields ih =>
      by_cases empty : fields = []
      · subst empty
        rw [code]
        exact .plain (by decide)
      · rw [code_object level empty, Json.Value.strings, Json.Value.fieldStrings_eq,
          List.map_flatMap]
        refine encloses_enclosed silent (by decide) (by decide) level
          (.intercalate (by decide) fun field mem => ?_)
        have separator : Encloses '"' [':', ' '] [] := .plain (by decide)
        have line := (indent (level + 1)).append
          ((Json.encloses_quoted field.1).append (separator.append (ih field mem (level + 1))))
        simpa [entry, LiteralStyle.json, LiteralStyle.relaxedJson] using line

end Literal

end RequestScribe
