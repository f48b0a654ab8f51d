import RequestScribe.Proofs.Code.LiteralMentions

/-!
# How names are used

A line may declare a name, name it by itself, look something up in it or call it.  What is asked
about the steps of a program is which of some names they use in which of these ways.  The answer
is put together from the answers for the parts, and for a line whose mask is known it is found by
evaluation.
-/

namespace RequestScribe

open Lexis

inductive Use where
  | declared
  | named
  /-- Something is looked up in it, behind a dot. -/
  | opened
  | called
  deriving DecidableEq, Repr

/-- How a language declares names, and the mark behind a name that makes it a label. -/
structure Naming where
  declared : List Lexeme → List String
  label : Char

namespace Naming

def ask (n : Naming) : Use → List Lexeme → List String
  | .declared => n.declared
  | .named => Lexeme.bare n.label
  | .opened => Lexeme.before ['.']
  | .called => Lexeme.before ['(']

def uses (n : Naming) (line : List Lexeme) : List (Use × String) :=
  [Use.declared, .named, .opened, .called].flatMap fun use => (n.ask use line).map (use, ·)

variable {n : Naming}

theorem mem_uses_iff {line : List Lexeme} {y : Use × String} :
    y ∈ n.uses line ↔ y.2 ∈ n.ask y.1 line := by
  obtain ⟨use, name⟩ := y
  cases use <;> simp [uses, ask]

/-- Lines that can be cut at a mark without a change to what they declare. -/
structure Splits (n : Naming) (c : Char) : Prop where
  named : ∀ line, ∀ name ∈ n.declared line, Lexeme.name name ∈ line
  splits : ∀ first rest name, name ∈ n.declared (first ++ .mark c :: rest) ↔
    name ∈ n.declared (first ++ [.mark c]) ∨ name ∈ n.declared rest

end Naming

namespace Lexeme

theorem before_single_append_mark (d c : Char) (first rest : List Lexeme) :
    before [d] (first ++ mark c :: rest) = before [d] (first ++ [mark c]) ++ before [d] rest := by
  induction first with
  | nil => rfl
  | cons x first ih =>
      cases x with
      | mark e => exact ih
      | literal => exact ih
      | name text =>
          have begins : [Lexeme.mark d].isPrefixOf (first ++ mark c :: rest) =
              [Lexeme.mark d].isPrefixOf (first ++ [mark c]) := by
            cases first <;> simp [List.isPrefixOf]
          simp only [List.cons_append, before, List.map_cons, List.map_nil, begins, ih]
          split <;> rfl

end Lexeme

theorem Naming.splits_before (d label c : Char) : Splits ⟨Lexeme.before [d], label⟩ c where
  named _ _ mem := (Lexeme.mem_of_mem_before mem).1
  splits first rest name := by
    change name ∈ Lexeme.before [d] _ ↔ _
    rw [Lexeme.before_single_append_mark d c first rest]
    exact List.mem_append

theorem Naming.splits_after (keyword : String) (label c : Char) :
    Splits ⟨Lexeme.after keyword, label⟩ c where
  named _ _ mem := Lexeme.mem_of_mem_after mem
  splits first rest name := by
    change name ∈ Lexeme.after keyword _ ↔ _
    rw [Lexeme.after_append_mark keyword c first rest]
    exact List.mem_append

theorem Naming.Splits.isAsked {n : Naming} {c : Char} (h : n.Splits c) (dot : c ≠ '.') :
    Step.IsAsked n.uses Prod.snd c := by
  refine ⟨fun line y mem => ?_, fun first rest y => ?_⟩
  · have asked := mem_uses_iff.1 mem
    obtain ⟨use, name⟩ := y
    cases use with
    | declared => exact h.named line name asked
    | named => exact Lexeme.mem_of_mem_bareFrom asked
    | opened => exact (Lexeme.mem_of_mem_before asked).1
    | called => exact (Lexeme.mem_of_mem_before asked).1
  · rw [mem_uses_iff, mem_uses_iff, mem_uses_iff]
    obtain ⟨use, name⟩ := y
    cases use with
    | declared => exact h.splits first rest name
    | named =>
        change name ∈ Lexeme.bareFrom n.label false _ ↔ _
        rw [Lexeme.bareFrom_append_mark n.label dot first rest]
        exact List.mem_append
    | opened =>
        change name ∈ Lexeme.before ['.'] _ ↔ _
        rw [Lexeme.before_single_append_mark '.' c first rest]
        exact List.mem_append
    | called =>
        change name ∈ Lexeme.before ['('] _ ↔ _
        rw [Lexeme.before_single_append_mark '(' c first rest]
        exact List.mem_append

/-! ## Uses in masks -/

theorem Naming.uses_nil {n : Naming} {c : Char} (h : n.Splits c) : n.uses [] = [] := by
  refine List.eq_nil_iff_forall_not_mem.2 fun y mem => ?_
  have asked := mem_uses_iff.1 mem
  obtain ⟨use, name⟩ := y
  cases use with
  | declared => exact absurd (h.named [] name asked) List.not_mem_nil
  | named | opened | called => exact absurd asked List.not_mem_nil

namespace Mask

variable {l : Lexis} {n : Naming} {known found found' : List (Use × String)} {m p : Mask}

/-- The known ones of the uses in a mask, unless a mark opens something. -/
def used (l : Lexis) (n : Naming) (known : List (Use × String)) (m : Mask) :
    Option (List (Use × String)) :=
  (m.answers l n.uses).map fun names => names.filter known.contains

structure Finds (l : Lexis) (n : Naming) (known : List (Use × String)) (m : Mask)
    (found : List (Use × String)) : Prop where
  opens : m.IsPlain l
  uses : ∀ y ∈ known, y ∈ m.lines.flatMap n.uses ↔ y ∈ found

namespace Finds

theorem of_used (kept : m.used l n known = some found) : Finds l n known m found := by
  obtain ⟨names, answers, rfl⟩ := Option.map_eq_some_iff.1 kept
  obtain ⟨opens, rfl⟩ := Mask.of_answers answers
  exact ⟨opens, fun y mem => by simp [mem]⟩

/-- Words of some kind that none of the known names is of. -/
theorem of_calm {P : String → Prop} {c : Char} (splits : n.Splits c) (dot : c ≠ '.')
    (calm : Calm l P m) (foreign : ∀ y ∈ known, ¬P y.2) : Finds l n known m [] := by
  refine ⟨calm.opens, fun y mem => iff_of_false (fun held => ?_) List.not_mem_nil⟩
  obtain ⟨line, inside, used⟩ := List.mem_flatMap.1 held
  obtain ⟨w, word, -, same⟩ := exists_word inside ((splits.isAsked dot).named line y used)
  exact foreign y mem (same ▸ calm.spells w word)

/-- A line can be read in two parts, the first of which ends with a mark. -/
theorem cut {c : Char} (splits : n.Splits c) (dot : c ≠ '.') (ends : p.Ends c)
    (first : Finds l n known p found) (second : Finds l n known m found') :
    Finds l n known (p ++ m) (found ++ found') := by
  obtain ⟨before, ended, last⟩ := ends
  refine ⟨fun d mem => (List.mem_append.1 mem).elim (first.opens d) (second.opens d), ?_⟩
  intro y mem
  have line : (Reading.run {} p).line.reverse = before.reverse ++ [Lexeme.mark c] := by
    rw [last, List.reverse_cons]
  have parts : Splits n.uses (Reading.run {} p).line.reverse := by
    intro rest y
    rw [line, List.append_assoc, List.singleton_append]
    exact (splits.isAsked dot).splits _ _ _
  rw [mem_answers_append (Naming.uses_nil splits) ended parts, first.uses y mem,
    second.uses y mem, List.mem_append]

/-- A number behind some code that ends with a mark. -/
theorem number {c : Char} (splits : n.Splits c) (dot : c ≠ '.')
    (opens : ∀ d ∈ ['+', '-', '.'], isPlain l d = true)
    (foreign : ∀ y ∈ known, y.2.toList.all Json.isNumberCharacter = false)
    {text ending : List Char} (kept : p.used l n known = some found) (ends : p.Ends c)
    (digits : ∀ d ∈ text, Json.isNumberCharacter d = true)
    (gaps : ∀ d ∈ ending, isGap l (.char d) = true) :
    Finds l n known (p ++ (text.map Glyph.char ++ ending.map Glyph.char)) found := by
  have empty : ∀ d ∈ "".toList, Json.isNumberCharacter d = true := by simp
  have calm : Calm l (fun w => ∀ d ∈ w.toList, Json.isNumberCharacter d = true)
      (text.map Glyph.char ++ ending.map Glyph.char) := by
    have first := calm_number opens digits
    have gap : ∀ g ∈ ending.map Glyph.char, isGap l g = true := List.forall_mem_map.2 gaps
    rcases Decidable.em (ending.map Glyph.char = []) with none | some
    · rwa [none, List.append_nil]
    · have apart := first.apart empty some gap (.nil empty)
      rwa [List.append_nil] at apart
  have others : ∀ y ∈ known, ¬∀ d ∈ y.2.toList, Json.isNumberCharacter d = true :=
    fun y mem all => absurd (List.all_eq_true.2 all) (by simp [foreign y mem])
  have whole := cut splits dot ends (.of_used kept) (of_calm splits dot calm others)
  rwa [List.append_nil] at whole

end Finds

end Mask

namespace Code

/-- A part of a list that makes some uses, in front of a comma and at the end of the list. -/
def IsPart (l : Lexis) (n : Naming) (known : List (Use × String)) (tail : Mask) (part : Code)
    (found : List (Use × String)) : Prop :=
  ∃ m, part.HasMask l m ∧ (m ++ Mask.text ", ").Finds l n known found ∧
    (m ++ tail).Finds l n known found

variable {l : Lexis} {n : Naming} {known found : List (Use × String)} {tail : Mask}

theorem IsPart.of_used {part : Code} {m : Mask} (mask : part.HasMask l m)
    (between : (m ++ Mask.text ", ").used l n known = some found)
    (last : (m ++ tail).used l n known = some found) : IsPart l n known tail part found :=
  ⟨m, mask, .of_used between, .of_used last⟩

theorem exists_mask_intercalate (splits : n.Splits ',') (closes : tail.Finds l n known [])
    {parts : List Code} {founds : List (List (Use × String))}
    (each : List.Forall₂ (IsPart l n known tail) parts founds) :
    ∃ m, (Code.intercalate ", " parts).HasMask l m ∧ (m ++ tail).Finds l n known founds.flatten := by
  induction each with
  | nil => exact ⟨[], .nil, closes⟩
  | @cons part found parts founds here later ih =>
      obtain ⟨m, mask, between, last⟩ := here
      cases later with
      | nil =>
          rw [Code.intercalate_singleton, List.flatten_singleton]
          exact ⟨m, mask, last⟩
      | cons next rest =>
          obtain ⟨m', mask', finds⟩ := ih
          rw [Code.intercalate_cons_cons, List.flatten_cons]
          have ends : (m ++ Mask.text ", ").Ends ',' := by
            have pieces : Mask.text ", " = [Glyph.char ','] ++ [Glyph.char ' '] := rfl
            rw [pieces, ← List.append_assoc]
            exact (Mask.ends_mark m (by decide)).blank
          refine ⟨m ++ (Mask.text ", " ++ m'),
            mask.append ((hasMask_text _).append mask'), ?_⟩
          have whole := between.cut splits (by decide) ends finds
          simpa only [List.append_assoc] using whole

end Code

/-- Steps that make some of the known uses, and no other ones of them. -/
def Step.Uses (l : Lexis) (n : Naming) (known : List (Use × String)) (steps : List Step)
    (found : List (Use × String)) : Prop :=
  Mentions l n.uses (Subtype.val : { y // y ∈ known } → Use × String) steps fun y => y.1 ∈ found

namespace Step.Uses

variable {l : Lexis} {n : Naming} {known : List (Use × String)} {a b : List Step}
  {found found' found'' : List (Use × String)}

/-- What a laid-out program uses is what its steps use. -/
theorem mem_iff {unit : String} (h : Uses l n known a found) (blank : Writer.IsBlankUnit unit)
    {use : Use} {name : String} (mem : (use, name) ∈ known) :
    name ∈ (l.lines (layOut unit a).toList).flatMap (n.ask use) ↔ (use, name) ∈ found := by
  rw [← Mentions.layOut h blank ⟨(use, name), mem⟩]
  simp [Naming.mem_uses_iff]

theorem reads (h : Uses l n known a found) : ∃ added, Reads l a added :=
  h.imp fun _ reads => reads.1

theorem of_same (h : Uses l n known a found) (same : ∀ y ∈ known, y ∈ found ↔ y ∈ found') :
    Uses l n known a found' :=
  Mentions.iff h fun y => same y.1 y.2

theorem congr (same : ∀ w : Writer, w.runAll a = w.runAll b) (h : Uses l n known b found) :
    Uses l n known a found :=
  Mentions.congr same h

theorem silent (reads : Reads l a []) : Uses l n known a [] :=
  (Mentions.silent reads).iff fun _ => by simp

theorem nil : Uses l n known [] [] := silent .nil

theorem blank : Uses l n known [.blank] [] := silent .blank

theorem append (first : Uses l n known a found) (second : Uses l n known b found') :
    Uses l n known (a ++ b) (found ++ found') :=
  (Mentions.append first second).iff fun _ => List.mem_append.symm

theorem cons {step : Step} (first : Uses l n known [step] found)
    (second : Uses l n known b found') : Uses l n known (step :: b) (found ++ found') :=
  first.append second

theorem scope {opening : Code} {body : List Step} (head : Uses l n known [.line opening] found)
    (inner : Uses l n known body found') :
    Uses l n known [.scope opening body] (found ++ found') :=
  (Mentions.scope head inner).iff fun _ => List.mem_append.symm

theorem block {opening closing : Code} {body : List Step}
    (head : Uses l n known [.line opening] found) (inner : Uses l n known body found')
    (foot : Uses l n known [.line closing] found'') :
    Uses l n known [.block opening closing body] (found ++ (found' ++ found'')) :=
  (Mentions.block head inner foot).iff fun _ => by simp

theorem ended {opening closing ending : Code} {body : List Step} (some : closing.text ≠ "")
    (h : Uses l n known (a ++ [Step.block opening (closing ++ ending) body, Step.dedent]) found) :
    Uses l n known (a ++ [Step.block opening closing body, Step.dedent, Step.terminate ending])
      found := by
  refine h.congr fun w => ?_
  rw [runAll_append, runAll_append, runAll_block_terminate _ some]

theorem when {condition : Bool} (h : Uses l n known a found) :
    Uses l n known (Step.when condition a) (if condition then found else []) := by
  cases condition with
  | false => exact nil
  | true => exact h

theorem map {ι : Type} {items : List ι} {step : ι → Step} {found : ι → List (Use × String)}
    (each : ∀ item ∈ items, Uses l n known [step item] (found item)) :
    Uses l n known (items.map step) (items.flatMap found) :=
  (Mentions.map each).iff fun _ => List.mem_flatMap.symm

theorem map_const {ι : Type} {items : List ι} {step : ι → Step}
    (each : ∀ item ∈ items, Uses l n known [step item] found) :
    Uses l n known (items.map step) (if items.isEmpty then [] else found) :=
  (map each).of_same fun y _ => by cases items <;> simp

theorem map_nil {ι : Type} {items : List ι} {step : ι → Step}
    (each : ∀ item ∈ items, Uses l n known [step item] []) : Uses l n known (items.map step) [] :=
  (map_const each).of_same fun y _ => by simp

theorem filterMap {ι : Type} {items : List ι} {step? : ι → Option Step}
    {found : ι → List (Use × String)}
    (each : ∀ item ∈ items, Uses l n known (step? item).toList (found item)) :
    Uses l n known (items.filterMap step?) (items.flatMap found) := by
  rw [List.filterMap_eq_flatMap_toList]
  exact (Mentions.flatMap each).iff fun _ => List.mem_flatMap.symm

/-! ## Lines -/

theorem of_finds {c : Code} {m : Mask} (mask : c.HasMask l m) (finds : m.Finds l n known found) :
    Uses l n known [.line c] found :=
  (Mentions.ofLine mask finds.opens).iff fun y => finds.uses y.1 y.2

theorem of_text {c d : Code} (same : c.text = d.text) (h : Uses l n known [.line d] found) :
    Uses l n known [.line c] found :=
  h.congr fun w => by simp only [Writer.runAll, Writer.run, same]

theorem line {c : Code} {m : Mask} (mask : c.HasMask l m) (kept : m.used l n known = some found) :
    Uses l n known [.line c] found :=
  of_finds mask (.of_used kept)

theorem text {cs : List Char} (kept : Mask.used l n known (cs.map Glyph.char) = some found) :
    Uses l n known [.line (Code.plain (String.ofList cs))] found :=
  line (Code.hasMask_text cs) kept

/-- A line with two parts of which only the kind is known, and with marks in front of both. -/
theorem line_of_two {c d : Char} (splits : ∀ c, n.Splits c) (dots : c ≠ '.' ∧ d ≠ '.')
    {line opening first between second ending : Code} {m₁ m₂ m₃ m₄ m₅ : Mask}
    (parts : line.text = (opening ++ first ++ between ++ second ++ ending).text)
    (mask₁ : opening.HasMask l m₁) (mask₂ : first.HasMask l m₂) (mask₃ : between.HasMask l m₃)
    (mask₄ : second.HasMask l m₄) (mask₅ : ending.HasMask l m₅)
    (kept : m₁.used l n known = some found) (ends : m₁.Ends c)
    (kept' : (m₂ ++ m₃).used l n known = some found') (ends' : (m₂ ++ m₃).Ends d)
    (kept'' : (m₄ ++ m₅).used l n known = some found'') :
    Uses l n known [.line line] (found ++ (found' ++ found'')) := by
  have mask : line.HasMask l (m₁ ++ ((m₂ ++ m₃) ++ (m₄ ++ m₅))) := by
    have whole := (((mask₁.append mask₂).append mask₃).append mask₄).append mask₅
    rw [Code.HasMask, ← parts] at whole
    simpa only [Code.HasMask, List.append_assoc] using whole
  have later := Mask.Finds.cut (splits d) dots.2 ends' (.of_used kept') (.of_used kept'')
  exact of_finds mask (.cut (splits c) dots.1 ends (.of_used kept) later)

/-- A list behind some code that ends with a mark. -/
theorem list {c : Char} (splits : ∀ c, n.Splits c) (dot : c ≠ '.') {opening : Code} {p : Mask}
    {tail : List Char} {parts : List Code} {founds : List (List (Use × String))}
    (mask : opening.HasMask l p) (kept : p.used l n known = some found) (ends : p.Ends c)
    (closes : Mask.used l n known (tail.map Glyph.char) = some [])
    (each : List.Forall₂ (Code.IsPart l n known (tail.map Glyph.char)) parts founds) :
    Uses l n known
      [.line (opening ++ Code.intercalate ", " parts ++ Code.plain (String.ofList tail))]
      (found ++ founds.flatten) := by
  obtain ⟨m, inner, finds⟩ := Code.exists_mask_intercalate (splits ',') (.of_used closes) each
  have whole := (mask.append inner).append (Code.hasMask_text tail)
  rw [List.append_assoc] at whole
  exact of_finds whole (.cut (splits c) dot ends (.of_used kept) finds)

theorem number {c : Char} (splits : n.Splits c) (dot : c ≠ '.')
    (opens : ∀ d ∈ ['+', '-', '.'], Mask.isPlain l d = true)
    (foreign : ∀ y ∈ known, y.2.toList.all Json.isNumberCharacter = false)
    {line : Code} {p : Mask} {text ending : List Char}
    (mask : line.HasMask l (p ++ (text.map Glyph.char ++ ending.map Glyph.char)))
    (kept : p.used l n known = some found) (ends : p.Ends c)
    (digits : ∀ d ∈ text, Json.isNumberCharacter d = true)
    (gaps : ∀ d ∈ ending, Mask.isGap l (.char d) = true) : Uses l n known [.line line] found :=
  of_finds mask (.number splits dot opens foreign kept ends digits gaps)

theorem literal {c : Char} (splits : n.Splits c) (dot : c ≠ '.') {style : LiteralStyle}
    (fits : style.FitsIn l) {unit : String} (blank : Writer.IsBlankUnit unit)
    (foreign : ∀ y ∈ known, ¬style.IsWord y.2) {opening : Code} {p : Mask}
    (mask : opening.HasMask l p) (kept : p.used l n known = some found) (ends : p.Ends c)
    {ending : List Char} (gaps : ∀ d ∈ ending, Mask.isGap l (.char d) = true) (v : Json.Value) :
    Uses l n known
      [.lines (opening ++ Literal.code style unit 0 v ++ Code.plain (String.ofList ending))]
      found := by
  obtain ⟨names, answers, rfl⟩ := Option.map_eq_some_iff.1 kept
  have others (y : { y // y ∈ known }) : ¬style.IsWord (Prod.snd y.1) := foreign y.1 y.2
  have whole := Mentions.literal (splits.isAsked dot) fits blank others mask answers ends gaps v
  exact whole.iff fun y => by simp [y.2]

end Step.Uses

/-! ## Parts of a request -/

/-- The names that hold the parts of a request, in one language or another. -/
def requestNames : List String :=
  ["params", "headers", "body", "payload", "files", "auth"]

/-- Whether a part is named in the expression of the address. -/
def Naming.NamesInAddress (n : Naming) (declarations : List (List Lexeme)) (part : String) : Prop :=
  ∃ line ∈ declarations, "url" ∈ n.declared line ∧ part ∈ Lexeme.bare n.label line

/--
Whether what follows some declarations names just the parts of a request that are declared.  The
parameters of the query may be named in the address instead.
-/
def Naming.NamesDeclared (n : Naming) (declarations following : List (List Lexeme)) : Prop :=
  ∀ part ∈ requestNames, part ∈ declarations.flatMap n.declared ↔
    part ∈ following.flatMap (Lexeme.bare n.label) ∨
      part = "params" ∧ n.NamesInAddress declarations part

theorem Step.Uses.namesDeclared {l : Lexis} {n : Naming} {unit : String}
    (blank : Writer.IsBlankUnit unit) {known known' found found' : List (Use × String)}
    {a b : List Step} (declares : Uses l n known a found) (refers : Uses l n known' b found')
    (asked : ∀ part ∈ requestNames, (.declared, part) ∈ known ∧ (.named, part) ∈ known')
    (address : (.named, "params") ∈ known)
    (within : ∀ part ∈ requestNames, (.named, part) ∈ found' → (.declared, part) ∈ found)
    (parameters : (.named, "params") ∈ found → (.declared, "params") ∈ found)
    (all : ∀ part ∈ requestNames, (.declared, part) ∈ found → (.named, part) ∈ found' ∨
      part = "params" ∧ n.NamesInAddress (l.lines (layOut unit a).toList) part) :
    n.NamesDeclared (l.lines (layOut unit a).toList) (l.lines (layOut unit b).toList) := by
  intro part mem
  have declared := declares.mem_iff blank (asked part mem).1
  have named := refers.mem_iff blank (asked part mem).2
  simp only [Naming.ask] at declared named
  rw [declared, named]
  constructor
  · exact all part mem
  · rintro (follows | ⟨rfl, line, held, -, inAddress⟩)
    · exact within part mem follows
    · refine parameters ((declares.mem_iff blank address).1 ?_)
      exact List.mem_flatMap.2 ⟨line, held, inAddress⟩

end RequestScribe
