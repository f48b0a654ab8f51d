import RequestScribe.Proofs.Code.Literal
import RequestScribe.Proofs.Json.Lexeme
import RequestScribe.Shape.Dialect

/-!
# Reading declarations

What a text declares at its top level is read without knowing how the text was
written: string literals and everything between braces are passed over, what is
left is cut into identifiers, and the one after a keyword is declared.

A text is read part by part.  Between braces, a part without marks adds nothing,
and neither does a string that is written with its escapes.
-/

namespace RequestScribe

def Dialect.keywords : Dialect → List String
  | .typeScript => ["interface", "type"]
  | .go => ["type"]
  | .rust => ["struct", "type"]

namespace Outline

/-- Where a character stands: outside of strings, between double quotes, or in a raw string. -/
inductive Place where
  | code
  | string (escaped : Bool)
  | raw
  deriving DecidableEq, Repr

structure Position where
  /-- The number of open braces. -/
  depth : Nat := 0
  place : Place := .code
  deriving DecidableEq, Repr

namespace Position

def isTop (p : Position) : Bool :=
  p.depth == 0 && p.place == .code

def step (p : Position) (c : Char) : Position :=
  match p.place with
  | .code =>
      if c = '\x7b' then { p with depth := p.depth + 1 }
      else if c = '\x7d' then { p with depth := p.depth - 1 }
      else if c = '"' then { p with place := .string false }
      else if c = '\x60' then { p with place := .raw }
      else p
  | .string true => { p with place := .string false }
  | .string false =>
      if c = '"' then { p with place := .code }
      else if c = '\\' then { p with place := .string true }
      else p
  | .raw => if c = '\x60' then { p with place := .code } else p

end Position

/-- The characters of a text that stand outside of strings and braces. -/
def top (p : Position) : List Char → List Char
  | [] => []
  | c :: rest => if p.isTop then c :: top (p.step c) rest else top (p.step c) rest

def isNameCharacter (c : Char) : Bool :=
  Chars.isAlphanumeric c || c == '_'

def identifiers (text : List Char) : List String :=
  ((text.splitOnP fun c => !isNameCharacter c).filter fun word => !word.isEmpty).map String.ofList

def named (keywords : List String) : List String → List String
  | word :: name :: rest =>
      if keywords.contains word then name :: named keywords (name :: rest)
      else named keywords (name :: rest)
  | _ => []

/-- The names that a text declares at its top level, in order. -/
def declaredNames (dialect : Dialect) (text : String) : List String :=
  named dialect.keywords (identifiers (top {} text.toList))

/-! ## Parts of a text -/

theorem top_append (p : Position) (a b : List Char) :
    top p (a ++ b) = top p a ++ top (a.foldl Position.step p) b := by
  induction a generalizing p with
  | nil => rfl
  | cons c a ih =>
      rw [List.cons_append, top, top, List.foldl_cons, ih]
      split <;> rfl

def isMark (c : Char) : Bool :=
  c == '\x7b' || c == '\x7d' || c == '"' || c == '\x60'

def IsUnmarked (text : List Char) : Prop :=
  ∀ c ∈ text, isMark c = false

instance : DecidablePred IsUnmarked := fun text =>
  decidable_of_iff ((text.all fun c => !isMark c) = true) (by simp [IsUnmarked])

namespace IsUnmarked

variable {c : Char} {a b : List Char}

theorem nil : IsUnmarked [] := fun _ hc => absurd hc List.not_mem_nil

theorem cons (h : IsUnmarked a) (hc : isMark c = false) : IsUnmarked (c :: a) :=
  List.forall_mem_cons.2 ⟨hc, h⟩

theorem append (ha : IsUnmarked a) (hb : IsUnmarked b) : IsUnmarked (a ++ b) :=
  List.forall_mem_append.2 ⟨ha, hb⟩

theorem of_class {p : Char → Bool}
    (free : ['\x7b', '\x7d', '"', '\x60'].all (fun d => !p d) = true)
    (h : ∀ c ∈ a, p c = true) : IsUnmarked a := by
  intro c hc
  cases mark : isMark c with
  | false => rfl
  | true =>
      have listed : c ∈ ['\x7b', '\x7d', '"', '\x60'] := by simpa [isMark, or_assoc] using mark
      have other := List.all_eq_true.1 free c listed
      rw [h c hc] at other
      cases other

end IsUnmarked

theorem step_code {c : Char} (plain : isMark c = false) (depth : Nat) :
    Position.step ⟨depth, .code⟩ c = ⟨depth, .code⟩ := by
  simp only [isMark, Bool.or_eq_false_iff, beq_eq_false_iff_ne] at plain
  simp [Position.step, plain]

theorem foldl_step_code {text : List Char} (plain : IsUnmarked text) (depth : Nat) :
    text.foldl Position.step ⟨depth, .code⟩ = ⟨depth, .code⟩ := by
  induction text with
  | nil => rfl
  | cons c text ih =>
      obtain ⟨first, later⟩ := List.forall_mem_cons.1 plain
      rw [List.foldl_cons, step_code first, ih later]

theorem top_code {text : List Char} (plain : IsUnmarked text) : top {} text = text := by
  induction text with
  | nil => rfl
  | cons c text ih =>
      obtain ⟨first, later⟩ := List.forall_mem_cons.1 plain
      have stays : Position.step {} c = {} := step_code first 0
      have isTop : Position.isTop {} = true := rfl
      rw [top, if_pos isTop, stays, ih later]

/-- A part of a text that leads from one position to another, with nothing of it at the top. -/
structure Passes (p q : Position) (text : List Char) : Prop where
  leads : text.foldl Position.step p = q
  nothing : top p text = []

/-- A part of what stands between braces, from outside of strings to outside of strings. -/
abbrev IsPassed (text : List Char) : Prop :=
  Passes ⟨1, .code⟩ ⟨1, .code⟩ text

namespace Passes

variable {p q r : Position} {a b : List Char}

theorem nil : Passes p p [] := ⟨rfl, rfl⟩

theorem append (ha : Passes p q a) (hb : Passes q r b) : Passes p r (a ++ b) where
  leads := by rw [List.foldl_append, ha.leads, hb.leads]
  nothing := by rw [top_append, ha.nothing, ha.leads, hb.nothing, List.append_nil]

theorem single (inside : p.isTop = false) {c : Char} (step : p.step c = q) : Passes p q [c] :=
  ⟨step, by simp [top, inside]⟩

/-- Parts each of which comes back to where it began. -/
theorem flatMap {α : Type} {part : α → List Char} {items : List α}
    (h : ∀ a ∈ items, Passes p p (part a)) : Passes p p (items.flatMap part) := by
  induction items with
  | nil => exact nil
  | cons a items ih =>
      obtain ⟨first, later⟩ := List.forall_mem_cons.1 h
      exact first.append (ih later)

theorem staying (inside : p.isTop = false) (stays : ∀ c ∈ a, p.step c = p) : Passes p p a := by
  have single : Passes p p (a.flatMap fun c => [c]) :=
    flatMap fun c hc => single inside (stays c hc)
  rwa [List.flatMap_singleton'] at single

theorem plain (plain : IsUnmarked a) : IsPassed a :=
  staying rfl fun c hc => step_code (plain c hc) 1

theorem raw (whole : '\x60' ∉ a) : IsPassed ('\x60' :: (a ++ ['\x60'])) := by
  have opened : Passes ⟨1, .code⟩ ⟨1, .raw⟩ ['\x60'] := single rfl rfl
  have inside : Passes ⟨1, .raw⟩ ⟨1, .raw⟩ a := staying rfl fun c hc => by
    have other : c ≠ '\x60' := fun mark => whole (mark ▸ hc)
    simp [Position.step, other]
  have closed : Passes ⟨1, .raw⟩ ⟨1, .code⟩ ['\x60'] := single rfl rfl
  exact opened.append (inside.append closed)

/-- A character in a string is written so that it does not end the string. -/
theorem escaped (c : Char) :
    Passes ⟨1, .string false⟩ ⟨1, .string false⟩ (Json.escapeCharacter c) := by
  have pair (d : Char) : Passes ⟨1, .string false⟩ ⟨1, .string false⟩ ['\\', d] :=
    (single (q := ⟨1, .string true⟩) rfl rfl).append (single rfl rfl)
  rcases Json.escapeCharacter_cases c with ⟨text, -, quote, slash⟩ | ⟨e, text, -⟩ |
    ⟨a, b, x, y, text, -, digits⟩
  · rw [text]
    exact single rfl (by simp [Position.step, quote, slash])
  · rw [text]
    exact pair e
  · have code : Passes ⟨1, .string false⟩ ⟨1, .string false⟩ [a, b, x, y] :=
      staying rfl fun d hd => by simp [Position.step, digits d hd]
    rw [text]
    exact (pair 'u').append code

theorem quoted (s : String) : IsPassed (Json.quoted s).toList := by
  have opened : Passes ⟨1, .code⟩ ⟨1, .string false⟩ ['"'] := single rfl rfl
  have inside := flatMap fun c (_ : c ∈ s.toList) => escaped c
  have closed : Passes ⟨1, .string false⟩ ⟨1, .code⟩ ['"'] := single rfl rfl
  have text : (Json.quoted s).toList =
      ['"'] ++ (s.toList.flatMap Json.escapeCharacter ++ ['"']) := by simp [Json.quoted]
  rw [text]
  exact opened.append (inside.append closed)

end Passes

/-! ## Identifiers -/

theorem identifiers_nil : identifiers [] = [] := by
  simp [identifiers]

theorem identifiers_append_cons {c : Char} (between : isNameCharacter c = false)
    (a b : List Char) : identifiers (a ++ c :: b) = identifiers a ++ identifiers b := by
  have separator : (!isNameCharacter c) = true := by rw [between]; rfl
  simp only [identifiers]
  rw [List.splitOnP_append_cons a b separator, List.filter_append, List.map_append]

theorem identifiers_cons {c : Char} (between : isNameCharacter c = false) (text : List Char) :
    identifiers (c :: text) = identifiers text := by
  have apart := identifiers_append_cons between [] text
  rwa [List.nil_append, identifiers_nil, List.nil_append] at apart

theorem identifiers_name {name : String} (characters : ∀ c ∈ name.toList, isNameCharacter c = true)
    (nonempty : name.toList ≠ []) : identifiers name.toList = [name] := by
  have whole : (name.toList.splitOnP fun c => !isNameCharacter c) = [name.toList] := by
    apply List.splitOnP_eq_singleton
    intro c hc
    rw [characters c hc]
    rfl
  have kept : [name.toList].filter (fun word => !word.isEmpty) = [name.toList] := by
    simpa using nonempty
  rw [identifiers, whole, kept, List.map_singleton, String.ofList_toList]

theorem named_append {keywords before : List String} (none : ∀ w ∈ before, w ∉ keywords)
    (rest : List String) : named keywords (before ++ rest) = named keywords rest := by
  induction before with
  | nil => rfl
  | cons w before ih =>
      obtain ⟨first, later⟩ := List.forall_mem_cons.1 none
      rw [List.cons_append, ← ih later]
      cases before ++ rest with
      | nil => rfl
      | cons name rest => simp [named, first]

structure IsInert (dialect : Dialect) (text : List Char) : Prop where
  plain : IsUnmarked text
  unreserved : ∀ w ∈ identifiers text, w ∉ dialect.keywords

instance (dialect : Dialect) (text : List Char) : Decidable (IsInert dialect text) :=
  decidable_of_iff
    (IsUnmarked text ∧ ∀ w ∈ identifiers text, w ∉ dialect.keywords)
    ⟨fun ⟨h₁, h₂⟩ => ⟨h₁, h₂⟩, fun ⟨h₁, h₂⟩ => ⟨h₁, h₂⟩⟩

namespace IsInert

variable {dialect : Dialect} {a b : List Char}

theorem nil : IsInert dialect [] := ⟨.nil, by simp [identifiers_nil]⟩

/-- Inert texts side by side, with a character between them that belongs to no name. -/
theorem around (ha : IsInert dialect a) (hb : IsInert dialect b) {c : Char}
    (between : isNameCharacter c = false ∧ isMark c = false) : IsInert dialect (a ++ c :: b) where
  plain := ha.plain.append (hb.plain.cons between.2)
  unreserved := by
    rw [identifiers_append_cons between.1]
    exact List.forall_mem_append.2 ⟨ha.unreserved, hb.unreserved⟩

theorem after (hb : IsInert dialect b) {c : Char}
    (between : isNameCharacter c = false ∧ isMark c = false) : IsInert dialect (c :: b) :=
  around nil hb between

end IsInert

/-! ## Declarations side by side -/

structure Declares (dialect : Dialect) (name : String) (text : List Char) : Prop where
  /-- All braces and strings are closed at the end. -/
  closed : text.foldl Position.step {} = {}
  identified : ∃ before keyword after,
    identifiers (top {} text) = before ++ keyword :: name :: after ∧ keyword ∈ dialect.keywords ∧
      (∀ w ∈ before, w ∉ dialect.keywords) ∧ ∀ w ∈ name :: after, w ∉ dialect.keywords

theorem Declares.named_append {dialect : Dialect} {name : String} {text : List Char}
    (h : Declares dialect name text) (rest : List String) :
    named dialect.keywords (identifiers (top {} text) ++ rest) =
      name :: named dialect.keywords rest := by
  obtain ⟨before, keyword, after, read, reserved, none, none'⟩ := h.identified
  have declared : named dialect.keywords (keyword :: name :: (after ++ rest)) =
      name :: named dialect.keywords (name :: (after ++ rest)) := by
    simp [named, reserved]
  rw [read, List.append_assoc, Outline.named_append none, List.cons_append, List.cons_append,
    declared, ← List.cons_append, Outline.named_append none']

namespace Declares

variable {dialect : Dialect} {name : String} {text : List Char}

theorem of_head {keyword : String} (reserved : keyword ∈ dialect.keywords)
    (alone : identifiers name.toList = [name]) (hname : IsInert dialect name.toList)
    {tail : List Char} (htail : IsInert dialect tail) :
    Declares dialect name (keyword.toList ++ ' ' :: (name.toList ++ ' ' :: tail)) := by
  have words : ∀ word ∈ dialect.keywords, identifiers word.toList = [word] ∧
      IsUnmarked word.toList := by
    cases dialect <;> decide
  obtain ⟨single, plain⟩ := words keyword reserved
  have space : isNameCharacter ' ' = false := by decide
  have unmarked : IsUnmarked (keyword.toList ++ ' ' :: (name.toList ++ ' ' :: tail)) := by
    have later := hname.around htail (c := ' ') (by decide)
    exact plain.append (later.plain.cons (by decide))
  refine ⟨foldl_step_code unmarked 0, [], keyword, identifiers tail, ?_, reserved, by simp, ?_⟩
  · rw [top_code unmarked, identifiers_append_cons space, identifiers_append_cons space, single,
      alone]
    rfl
  · have free := hname.unreserved
    rw [alone] at free
    exact List.forall_mem_cons.2 ⟨free name List.mem_cons_self, htail.unreserved⟩

theorem behind (h : Declares dialect name text) {lead : List Char} (hlead : IsInert dialect lead)
    {c : Char} (between : isNameCharacter c = false ∧ isMark c = false) :
    Declares dialect name (lead ++ c :: text) := by
  have unmarked : IsUnmarked (lead ++ [c]) :=
    hlead.plain.append (.cons .nil between.2)
  have start : (lead ++ [c]).foldl Position.step {} = {} := foldl_step_code unmarked 0
  have line : lead ++ c :: text = (lead ++ [c]) ++ text := by simp
  obtain ⟨before, keyword, after, read, reserved, none, none'⟩ := h.identified
  refine ⟨?_, identifiers lead ++ before, keyword, after, ?_, reserved, ?_, none'⟩
  · rw [line, List.foldl_append, start, h.closed]
  · rw [line, top_append, start, top_code unmarked, List.append_assoc, List.singleton_append,
      identifiers_append_cons between.1, read, List.append_assoc]
  · exact List.forall_mem_append.2 ⟨hlead.unreserved, none⟩

/-- A declaration with something in braces at its end. -/
theorem braced (h : Declares dialect name text) {body : List Char}
    (passed : IsPassed body) :
    Declares dialect name (text ++ '\x7b' :: (body ++ ['\x7d'])) := by
  have opened : Position.step {} '\x7b' = ⟨1, .code⟩ := rfl
  have closes : Passes ⟨1, .code⟩ {} ['\x7d'] := .single rfl rfl
  have inside := passed.append closes
  have kept : top {} (text ++ '\x7b' :: (body ++ ['\x7d'])) = top {} text ++ '\x7b' :: [] := by
    have isTop : Position.isTop {} = true := rfl
    rw [top_append, h.closed, top, if_pos isTop, opened, inside.nothing]
  obtain ⟨before, keyword, after, read, reserved, none, none'⟩ := h.identified
  refine ⟨?_, before, keyword, after, ?_, reserved, none, none'⟩
  · rw [List.foldl_append, h.closed, List.foldl_cons, opened, inside.leads]
  · have brace : isNameCharacter '\x7b' = false := by decide
    rw [kept, identifiers_append_cons brace, identifiers_nil, List.append_nil, read]

end Declares

/-- Declarations with blank lines between them are read one by one. -/
theorem declaredNames_intercalate {α : Type} {dialect : Dialect} {name : α → String}
    {part : α → Code} {items : List α}
    (h : ∀ a ∈ items, Declares dialect (name a) (part a).text.toList) :
    declaredNames dialect (Code.intercalate "\n\n" (items.map part)).text = items.map name := by
  rw [declaredNames]
  induction items with
  | nil => rfl
  | cons a items ih =>
      obtain ⟨first, later⟩ := List.forall_mem_cons.1 h
      cases items with
      | nil =>
          have alone := first.named_append []
          rw [List.append_nil] at alone
          simpa [Code.intercalate, Code.join, named] using alone
      | cons b items =>
          -- The line breaks stay at the top and keep the identifiers on both sides apart.
          have feed : isNameCharacter '\n' = false := by decide
          let rest := (Code.intercalate "\n\n" ((b :: items).map part)).text.toList
          have text : (Code.intercalate "\n\n" ((a :: b :: items).map part)).text.toList =
              (part a).text.toList ++ '\n' :: '\n' :: rest := by
            simp [Code.intercalate_cons_cons, rest]
          have blank : top {} ('\n' :: '\n' :: rest) = '\n' :: '\n' :: top {} rest := rfl
          rw [text, top_append, first.closed, blank, identifiers_append_cons feed,
            identifiers_cons feed, first.named_append, ih later]
          rfl

end Outline

end RequestScribe
