import Mathlib.Data.List.Infix
import Mathlib.Data.List.Nodup
import RequestScribe.Proofs.Code.Placement
import RequestScribe.Proofs.Code.StringGrammar

/-!
# Maps in programs

A map is read from the text between its brackets: it is cut at the commas outside of
inner brackets, and every piece has a key, which is a string, the arrow of the
language and a value.  Strings are read by what they denote, all else in a value by
its characters.  Comments and strings of other kinds are not read, so a text that is
read is a map of the language, with these entries in this order.
-/

namespace RequestScribe

/-- What a map is made of besides strings: characters that begin no comment and no string. -/
def isMapCharacter (c : Char) : Bool :=
  Chars.isAlphanumeric c || " \t\n_()[]\x7b\x7d,.:=>".toList.contains c

namespace MapGrammar

inductive Token where
  /-- A string, by what it denotes. -/
  | string (units : List Nat)
  | char (c : Char)
  deriving DecidableEq, Repr

namespace Token

def isBlank : Token → Bool
  | .string _ => false
  | .char c => Chars.isBlank c

/-- How many brackets are open after a token; none if it is a comma or an end outside of them. -/
def depth? (depth : Nat) : Token → Option Nat
  | .string _ => some depth
  | .char c =>
      if "([\x7b".toList.contains c then some (depth + 1)
      else if ")]\x7d".toList.contains c then if depth = 0 then none else some (depth - 1)
      else if c = ',' ∧ depth = 0 then none
      else some depth

end Token

def plainTokens (text : String) : List Token :=
  text.toList.map .char

/-- Whether a text has no comma outside of brackets and closes all that it opens. -/
def IsFlat (ts : List Token) : Prop :=
  ts.foldlM Token.depth? 0 = some 0

instance (ts : List Token) : Decidable (IsFlat ts) :=
  inferInstanceAs (Decidable (_ = _))

end MapGrammar

structure MapGrammar where
  strings : StringGrammar
  /-- What stands between a key and its value. -/
  arrow : String
  apart : isMapCharacter strings.quote = false
  plain : arrow.toList.all isMapCharacter = true
  flat : MapGrammar.IsFlat (MapGrammar.plainTokens arrow)

namespace MapGrammar

def python : MapGrammar :=
  ⟨.python, ": ", by decide, by decide, by decide⟩

/-- Arrays of PHP that have keys. -/
def php : MapGrammar :=
  ⟨.singlePlain, " => ", by decide, by decide, by decide⟩

variable (g : MapGrammar)

def units (s : String) : List Nat :=
  s.toList.flatMap g.strings.units

def stringTokens (s : String) : List Token :=
  [.string (g.units s)]

/-- The tokens of a text.  The first `skip` characters belong to a string that has been read. -/
def tokens? : Nat → List Char → Option (List Token)
  | _, [] => some []
  | skip + 1, _ :: rest => tokens? skip rest
  | 0, c :: rest =>
      if c = g.strings.quote then
        (g.strings.readFrom 0 rest).bind fun (units, after) =>
          (tokens? (rest.length - after.length) rest).map (Token.string units :: ·)
      else if isMapCharacter c then (tokens? 0 rest).map (Token.char c :: ·)
      else none

/-- The pieces between the commas outside of brackets. -/
def split? (depth : Nat) (piece : List Token) : List Token → Option (List (List Token))
  | [] => if depth = 0 then some [piece.reverse] else none
  | t :: rest =>
      if depth = 0 ∧ t = .char ',' then (split? 0 [] rest).map (piece.reverse :: ·)
      else (t.depth? depth).bind fun inner => split? inner (t :: piece) rest

def keyed? (piece : List Token) : Option (List Nat × List Token) :=
  match piece.dropWhile Token.isBlank with
  | .string key :: rest =>
      ((plainTokens g.arrow).isPrefixOf? rest).bind fun value =>
        if value.isEmpty then none else some (key, value)
  | _ => none

/-- The entries of the map in whose brackets a text stands; one comma may follow the last one. -/
def entries? (inside : List Char) : Option (List (List Nat × List Token)) :=
  (g.tokens? 0 inside).bind fun ts => (split? 0 [] ts).bind fun pieces =>
    (if pieces.getLast?.any (List.all · Token.isBlank) then pieces.dropLast else pieces).mapM
      g.keyed?

variable {g}

theorem units_injective : Function.Injective g.units :=
  fun _ _ same => String.toList_inj.1 (g.strings.faithful same)

/-! ## Tokens -/

theorem tokens?_append (taken rest : List Char) :
    g.tokens? taken.length (taken ++ rest) = g.tokens? 0 rest := by
  induction taken with
  | nil => rfl
  | cons c taken ih => exact ih

/-- A text has some tokens, whatever follows. -/
def Yields (g : MapGrammar) (cs : List Char) (ts : List Token) : Prop :=
  ∀ rest, g.tokens? 0 (cs ++ rest) = (g.tokens? 0 rest).map (ts ++ ·)

namespace Yields

variable {a b : List Char} {x y : List Token}

theorem nil : g.Yields [] [] := fun rest => by simp

theorem append (first : g.Yields a x) (second : g.Yields b y) : g.Yields (a ++ b) (x ++ y) := by
  intro rest
  rw [List.append_assoc, first, second, Option.map_map]
  simp [Function.comp_def]

theorem plain {cs : List Char} (plain : ∀ c ∈ cs, isMapCharacter c = true) :
    g.Yields cs (cs.map .char) := by
  induction cs with
  | nil => exact nil
  | cons c cs ih =>
      obtain ⟨here, later⟩ := List.forall_mem_cons.1 plain
      have other : c ≠ g.strings.quote := by
        rintro rfl
        exact absurd g.apart (by simp [here])
      have one : g.Yields [c] [.char c] := by
        intro rest
        rw [List.singleton_append, tokens?, if_neg other, if_pos here]
        rfl
      exact one.append (ih later)

theorem plainTokens {text : String} (known : text.toList.all isMapCharacter = true) :
    g.Yields text.toList (plainTokens text) :=
  .plain (List.all_eq_true.1 known)

theorem string {written s : String} (writes : g.strings.Writes written s) :
    g.Yields written.toList (g.stringTokens s) := by
  obtain ⟨inside, text, -⟩ := writes.closed
  intro rest
  have read := writes.read rest
  rw [text, List.cons_append, StringGrammar.read?, if_pos rfl] at read
  have taken : ((inside ++ [g.strings.quote]) ++ rest).length - rest.length =
      (inside ++ [g.strings.quote]).length := by
    rw [List.length_append, Nat.add_sub_cancel]
  rw [text, List.cons_append, tokens?, if_pos rfl, read, Option.bind_some]
  dsimp only
  rw [taken, tokens?_append]
  rfl

theorem flatMap {ι : Type} {items : List ι} {text : ι → List Char} {tokens : ι → List Token}
    (each : ∀ i ∈ items, g.Yields (text i) (tokens i)) :
    g.Yields (items.flatMap text) (items.flatMap tokens) := by
  induction items with
  | nil => exact nil
  | cons i rest ih =>
      obtain ⟨here, later⟩ := List.forall_mem_cons.1 each
      exact here.append (ih later)

theorem tokens? (h : g.Yields a x) : g.tokens? 0 a = some x := by
  have whole := h []
  rw [List.append_nil] at whole
  rw [whole, MapGrammar.tokens?, Option.map_some, List.append_nil]

end Yields

/-! ## Pieces -/

/-- Tokens without a comma outside of brackets go to the piece that is read. -/
theorem split?_append {ts : List Token} {depth inner : Nat}
    (moves : ts.foldlM Token.depth? depth = some inner) (piece rest : List Token) :
    split? depth piece (ts ++ rest) = split? inner (ts.reverse ++ piece) rest := by
  induction ts generalizing depth piece with
  | nil =>
      obtain rfl := Option.some.inj moves
      rfl
  | cons t ts ih =>
      rw [List.foldlM_cons] at moves
      obtain ⟨next, here, later⟩ := Option.bind_eq_some_iff.1 moves
      have inside : ¬(depth = 0 ∧ t = .char ',') := by
        rintro ⟨rfl, rfl⟩
        cases here
      rw [List.cons_append, split?, if_neg inside, here, Option.bind_some, ih later,
        List.reverse_cons, List.append_assoc, List.singleton_append]

theorem split?_pieces {pieces : List (List Token)} {last : List Token}
    (flat : ∀ piece ∈ pieces, IsFlat piece) (flatLast : IsFlat last) :
    split? 0 [] (pieces.flatMap (· ++ [.char ',']) ++ last) = some (pieces ++ [last]) := by
  induction pieces with
  | nil =>
      have whole := split?_append flatLast [] []
      rw [List.append_nil, List.append_nil] at whole
      rw [List.flatMap_nil, List.nil_append, whole, split?, if_pos rfl, List.reverse_reverse]
      rfl
  | cons piece rest ih =>
      obtain ⟨here, later⟩ := List.forall_mem_cons.1 flat
      rw [List.flatMap_cons, List.append_assoc, List.append_assoc, split?_append here,
        List.singleton_append, split?, if_pos ⟨rfl, rfl⟩, ih later, List.append_nil,
        List.reverse_reverse]
      rfl

/-! ## Entries -/

theorem IsFlat.append {a b : List Token} (first : IsFlat a) (second : IsFlat b) :
    IsFlat (a ++ b) := by
  unfold IsFlat at *
  rw [List.foldlM_append, first]
  exact second

/-- A text is an entry of a map, with its key and its value. -/
structure WritesEntry (g : MapGrammar) (text : List Char) (entry : List Nat × List Token) :
    Prop where
  yields : g.Yields text (.string entry.1 :: (plainTokens g.arrow ++ entry.2))
  filled : entry.2 ≠ []
  flat : IsFlat entry.2

theorem writesEntry {written key : String} {text : List Char} {value : List Token}
    (named : g.strings.Writes written key) (yields : g.Yields text value) (filled : value ≠ [])
    (flat : IsFlat value) :
    g.WritesEntry (written.toList ++ (g.arrow.toList ++ text)) (g.units key, value) :=
  ⟨(Yields.string named).append ((Yields.plainTokens g.plain).append yields), filled, flat⟩

theorem keyed?_indented {blanks : List Token} (blank : ∀ t ∈ blanks, t.isBlank = true)
    {entry : List Nat × List Token} (filled : entry.2 ≠ []) :
    g.keyed? (blanks ++ .string entry.1 :: (plainTokens g.arrow ++ entry.2)) = some entry := by
  obtain ⟨key, value⟩ := entry
  have arrow : (plainTokens g.arrow).isPrefixOf? (plainTokens g.arrow ++ value) =
      some value := List.isPrefixOf?_eq_some_iff_append_eq.2 rfl
  rw [keyed?, List.dropWhile_append_of_pos blank,
    List.dropWhile_cons_of_neg (by simp [Token.isBlank])]
  simp [arrow, show value ≠ [] from filled]

/-! ## Maps over several lines -/

def newLine (indent : List Char) : List Token :=
  ('\n' :: indent).map .char

structure IsLayout (t : Token) : Prop where
  blank : t.isBlank = true
  flat : t.depth? 0 = some 0

theorem isLayout_of_mem_newLine {indent : List Char} (spaces : ∀ c ∈ indent, c = ' ' ∨ c = '\t') :
    ∀ t ∈ newLine indent, IsLayout t := by
  refine List.forall_mem_map.2 (List.forall_mem_cons.2 ⟨⟨by decide, by decide⟩, fun c mem => ?_⟩)
  rcases spaces c mem with rfl | rfl
  · exact ⟨by decide, by decide⟩
  · exact ⟨by decide, by decide⟩

theorem Yields.newLine {indent : List Char} (spaces : ∀ c ∈ indent, c = ' ' ∨ c = '\t') :
    g.Yields ('\n' :: indent) (newLine indent) := by
  refine .plain (List.forall_mem_cons.2 ⟨by decide, fun c mem => ?_⟩)
  rcases spaces c mem with rfl | rfl <;> decide

theorem flat_of_isLayout {ts : List Token} (layout : ∀ t ∈ ts, IsLayout t) : IsFlat ts := by
  induction ts with
  | nil => rfl
  | cons t ts ih =>
      obtain ⟨here, later⟩ := List.forall_mem_cons.1 layout
      rw [IsFlat, List.foldlM_cons, here.flat]
      exact ih later

section Lines

variable {ι : Type} {items : List ι} {text : ι → List Char} {entry : ι → List Nat × List Token}
  {indent outer : List Char}

theorem mapM_keyed?_indented (writes : ∀ i ∈ items, g.WritesEntry (text i) (entry i))
    {blanks : List Token} (blank : ∀ t ∈ blanks, t.isBlank = true) :
    (items.map fun i => blanks ++ .string (entry i).1 :: (plainTokens g.arrow ++ (entry i).2)).mapM
      g.keyed? = some (items.map entry) := by
  induction items with
  | nil => rfl
  | cons i rest ih =>
      obtain ⟨here, later⟩ := List.forall_mem_cons.1 writes
      rw [List.map_cons, List.mapM_cons, keyed?_indented blank here.filled, ih later]
      rfl

/-- A map with every entry on a line of its own, each with a comma, is read entry by entry. -/
theorem entries?_lines (writes : ∀ i ∈ items, g.WritesEntry (text i) (entry i))
    (spaces : ∀ c ∈ indent, c = ' ' ∨ c = '\t') (outside : ∀ c ∈ outer, c = ' ' ∨ c = '\t') :
    g.entries? (items.flatMap (fun i => '\n' :: (indent ++ text i ++ [','])) ++ '\n' :: outer) =
      some (items.map entry) := by
  let piece (i : ι) : List Token :=
    newLine indent ++ .string (entry i).1 :: (plainTokens g.arrow ++ (entry i).2)
  have layout := isLayout_of_mem_newLine spaces
  have layoutOutside := isLayout_of_mem_newLine outside
  have comma : g.Yields [','] [.char ','] := .plain (List.forall_mem_singleton.2 (by decide))
  have each : ∀ i ∈ items,
      g.Yields ('\n' :: (indent ++ text i ++ [','])) (piece i ++ [.char ',']) := fun i mem =>
    ((Yields.newLine spaces).append (writes i mem).yields).append comma
  have tokens := ((Yields.flatMap each).append (Yields.newLine outside)).tokens?
  have flat : ∀ p ∈ items.map piece, IsFlat p := by
    refine List.forall_mem_map.2 fun i mem => (flat_of_isLayout layout).append ?_
    exact g.flat.append (writes i mem).flat
  have pieces := split?_pieces flat (flat_of_isLayout layoutOutside)
  rw [List.flatMap_map] at pieces
  have last : ((items.map piece ++ [newLine outer]).getLast?.any (List.all · Token.isBlank)) =
      true := by
    rw [List.getLast?_concat, Option.any_some, List.all_eq_true]
    exact fun t mem => (layoutOutside t mem).blank
  rw [entries?, tokens, Option.bind_some, pieces, Option.bind_some, if_pos last,
    List.dropLast_concat]
  exact mapM_keyed?_indented writes fun t mem => (layout t mem).blank

end Lines

/-! ## Maps in programs -/

/-- What a map has under a key: an entry takes the place of those before it with the same key. -/
def lastUnder? {κ ν : Type} [BEq κ] (entries : List (κ × ν)) (key : κ) : Option ν :=
  entries.reverse.lookup key

/--
Between two brackets a program has a map with one entry for each of some items, in
their order.  Its keys are repeated just if their names are, and then it has what is
last of those with the same name.
-/
def Represents (g : MapGrammar) (code opening closing : String)
    (items : List (String × List Token)) : Prop :=
  ∃ inside entries, opening.toList ++ inside ++ closing.toList <:+: code.toList ∧
    g.entries? inside = some entries ∧
    entries = items.map (Prod.map g.units id) ∧
    ((entries.map Prod.fst).Nodup ↔ (items.map Prod.fst).Nodup) ∧
    ∀ name, lastUnder? entries (g.units name) = lastUnder? items name

theorem lastUnder?_units (items : List (String × List Token)) (name : String) :
    lastUnder? (items.map (Prod.map g.units id)) (g.units name) = lastUnder? items name := by
  unfold lastUnder?
  rw [← List.map_reverse]
  induction items.reverse with
  | nil => rfl
  | cons item rest ih =>
      have same : (g.units name == g.units item.1) = (name == item.1) := by
        rw [Bool.eq_iff_iff, beq_iff_eq, beq_iff_eq, units_injective.eq_iff]
      rw [List.map_cons, List.lookup_cons, List.lookup_cons, Prod.map_fst, same, ih]
      rfl

/-- A line of code is an entry of a map with a comma behind it. -/
def WritesLine (g : MapGrammar) (code : Code) (item : String × List Token) : Prop :=
  ∃ text, code.text.toList = text ++ [','] ∧ g.WritesEntry text (Prod.map g.units id item)

theorem writesLine {name value : Code} {key : String} {tokens : List Token}
    (named : g.strings.Writes name.text key) (yields : g.Yields value.text.toList tokens)
    (filled : tokens ≠ []) (flat : IsFlat tokens) :
    g.WritesLine (name ++ g.arrow ++ value ++ ",") (key, tokens) :=
  ⟨_, by simp, writesEntry named yields filled flat⟩

open Step in
/-- A block of entries stands in a program as a map. -/
theorem represents_of_holds {ι : Type} {items : List ι} {code : ι → Code}
    {item : ι → String × List Token} {unit opening closing : String} {steps : List Step}
    (held : Holds [.block opening closing ((items.map code).map .line)] steps)
    (writes : ∀ i ∈ items, g.WritesLine (code i) (item i)) (opens : opening ≠ "")
    (ends : ∃ shown c, closing.toList = shown ++ [c] ∧ Chars.isBlank c = false)
    (blank : Writer.IsBlankUnit unit) :
    g.Represents (layOut unit steps) opening closing (items.map item) := by
  let text (i : ι) : List Char := (code i).text.toList.dropLast
  have written : ∀ i ∈ items, (code i).text.toList = text i ++ [','] ∧
      g.WritesEntry (text i) (Prod.map g.units id (item i)) := by
    intro i mem
    obtain ⟨own, spelled, entry⟩ := writes i mem
    have same : text i = own := (congrArg List.dropLast spelled).trans List.dropLast_concat
    exact ⟨same ▸ spelled, same ▸ entry⟩
  have filled : ∀ line ∈ items.map code, line.text ≠ "" := by
    refine List.forall_mem_map.2 fun i mem none => ?_
    have comma := (written i mem).1
    rw [none] at comma
    exact absurd comma.symm (by simp)
  obtain ⟨level, within⟩ := exists_blockText_infix held opens filled ends
  have indent (n : Nat) : ∀ c ∈ (Text.times n unit).toList, c = ' ' ∨ c = '\t' :=
    fun c mem => blank c (Literal.mem_times mem)
  have lines : (items.map code).flatMap (fun line =>
      '\n' :: ((Text.times (level + 1) unit).toList ++ line.text.toList)) =
        items.flatMap fun i =>
          '\n' :: ((Text.times (level + 1) unit).toList ++ text i ++ [',']) := by
    rw [List.flatMap_map]
    exact List.flatMap_congr fun i mem => by rw [(written i mem).1, List.append_assoc]
  have pairs : (items.map fun i => Prod.map g.units id (item i)) =
      (items.map item).map (Prod.map g.units id) := by
    rw [List.map_map]
    rfl
  have keys : ((items.map item).map (Prod.map g.units id)).map Prod.fst =
      ((items.map item).map Prod.fst).map g.units := by
    simp only [List.map_map]
    rfl
  have read := entries?_lines (fun i mem => (written i mem).2) (indent (level + 1)) (indent level)
  rw [← lines, pairs] at read
  refine ⟨_, _, within, read, rfl, ?_, lastUnder?_units _⟩
  rw [keys, List.nodup_map_iff units_injective]

end MapGrammar

end RequestScribe
