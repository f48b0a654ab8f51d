import RequestScribe.Json.Reader
import RequestScribe.Proofs.Decimal.Numeral
import RequestScribe.Proofs.Ordered

/-!
# What holds of all parts of a document

A property that a builder gives to whatever it makes, if the parts have it, holds
for every value that the reader has in hand or has put into an open container.
So it holds for the document.  A numeral is read as one of the binary numbers there
are, so these are also the floating-point numbers in the value of a document.
-/

namespace RequestScribe

namespace Json

/-- Every value that is built has a property if the values it is built from have it. -/
structure Builder.Keeps {α : Type} (b : Builder α) (p : α → Prop) : Prop where
  null : p b.null
  bool : ∀ flag, p (b.bool flag)
  number : ∀ t, ∀ v ∈ b.number t, p v
  string : ∀ units, ∀ v ∈ b.string units, p v
  array : ∀ items, (∀ v ∈ items, p v) → p (b.array items)
  object : ∀ fields, (∀ field ∈ fields, p field.2) → ∀ v ∈ b.object fields, p v

namespace Reader

variable {α : Type} {b : Builder α} {p : α → Prop} {limit : Option Nat}

def HoldsIn (p : α → Prop) : Frame α → Prop
  | .array done => ∀ v ∈ done, p v
  | .object done _ => ∀ field ∈ done, p field.2

def HoldsAt (p : α → Prop) : Mode α → Prop
  | .word _ v | .finished v => p v
  | _ => True

structure HoldsFor (p : α → Prop) (reader : Reader α) : Prop where
  stack : ∀ frame ∈ reader.stack, HoldsIn p frame
  mode : HoldsAt p reader.mode

section Step

variable {stack : List (Frame α)} {next : Reader α} {c : Char}

theorem holdsFor_complete (frames : ∀ frame ∈ stack, HoldsIn p frame) {v : α} (value : p v) :
    HoldsFor p (complete stack v) := by
  match stack with
  | [] => exact ⟨frames, value⟩
  | .array done :: outer =>
      obtain ⟨inner, others⟩ := List.forall_mem_cons.1 frames
      have held : HoldsIn p (.array (v :: done)) := List.forall_mem_cons.2 ⟨value, inner⟩
      exact ⟨List.forall_mem_cons.2 ⟨held, others⟩, trivial⟩
  | .object done key :: outer =>
      obtain ⟨inner, others⟩ := List.forall_mem_cons.1 frames
      have held : HoldsIn p (.object ((key, v) :: done) []) :=
        List.forall_mem_cons.2 ⟨value, inner⟩
      exact ⟨List.forall_mem_cons.2 ⟨held, others⟩, trivial⟩

theorem holdsFor_openFrame (frames : ∀ frame ∈ stack, HoldsIn p frame) {frame : Frame α}
    {mode : Mode α} (h : openFrame limit stack frame mode = some next) (empty : HoldsIn p frame)
    (value : HoldsAt p mode) : HoldsFor p next := by
  have opened : HoldsFor p ⟨frame :: stack, mode⟩ :=
    ⟨List.forall_mem_cons.2 ⟨empty, frames⟩, value⟩
  unfold openFrame at h
  split at h
  · split at h
    · exact Option.some.inj h ▸ opened
    · exact absurd h (by simp)
  · exact Option.some.inj h ▸ opened

theorem holdsFor_start (keeps : b.Keeps p) (frames : ∀ frame ∈ stack, HoldsIn p frame)
    (h : start b limit stack c = some next) : HoldsFor p next := by
  have moved {mode : Mode α} (h : some (Reader.mk stack mode) = some next)
      (value : HoldsAt p mode) : HoldsFor p next :=
    Option.some.inj h ▸ ⟨frames, value⟩
  unfold start at h
  split at h
  · exact holdsFor_openFrame frames h (List.forall_mem_nil _) trivial
  · exact holdsFor_openFrame frames h (List.forall_mem_nil _) trivial
  · exact moved h trivial
  · exact moved h keeps.null
  · exact moved h (keeps.bool true)
  · exact moved h (keeps.bool false)
  · split at h
    · exact moved h trivial
    · exact absurd h (by simp)

theorem holdsFor_closeArray (keeps : b.Keeps p) (frames : ∀ frame ∈ stack, HoldsIn p frame)
    (h : closeArray b stack = some next) : HoldsFor p next := by
  unfold closeArray at h
  split at h
  · next done outer =>
      obtain ⟨inner, others⟩ := List.forall_mem_cons.1 frames
      have value : p (b.array done.reverse) :=
        keeps.array done.reverse fun v mem => inner v (List.mem_reverse.1 mem)
      exact Option.some.inj h ▸ holdsFor_complete others value
  · exact absurd h (by simp)

theorem holdsFor_closeObject (keeps : b.Keeps p) (frames : ∀ frame ∈ stack, HoldsIn p frame)
    (h : closeObject b stack = some next) : HoldsFor p next := by
  unfold closeObject at h
  split at h
  · next done key outer =>
      obtain ⟨inner, others⟩ := List.forall_mem_cons.1 frames
      obtain ⟨v, built, rfl⟩ := Option.map_eq_some_iff.1 h
      have value : p v :=
        keeps.object done.reverse (fun field mem => inner field (List.mem_reverse.1 mem)) v built
      exact holdsFor_complete others value
  · exact absurd h (by simp)

theorem holdsFor_follow (keeps : b.Keeps p) {reader : Reader α} (held : HoldsFor p reader)
    (h : follow b reader c = some next) : HoldsFor p next := by
  unfold follow at h
  split at h
  · exact Option.some.inj h ▸ held
  · split at h
    · exact Option.some.inj h ▸ ⟨held.stack, trivial⟩
    · exact Option.some.inj h ▸ ⟨held.stack, trivial⟩
    · exact holdsFor_closeArray keeps held.stack h
    · exact holdsFor_closeObject keeps held.stack h
    · exact absurd h (by simp)

theorem holdsFor_closeString (keeps : b.Keeps p) (frames : ∀ frame ∈ stack, HoldsIn p frame)
    {isKey : Bool} {written : List Char} (h : closeString b stack isKey written = some next) :
    HoldsFor p next := by
  unfold closeString at h
  split at h
  · exact absurd h (by simp)
  · next units _ =>
      split at h
      · split at h
        · next done _ outer =>
            obtain rfl := Option.some.inj h
            obtain ⟨inner, others⟩ := List.forall_mem_cons.1 frames
            exact ⟨List.forall_mem_cons.2 ⟨inner, others⟩, trivial⟩
        · exact absurd h (by simp)
      · obtain ⟨v, built, rfl⟩ := Option.map_eq_some_iff.1 h
        exact holdsFor_complete frames (keeps.string units v built)

theorem holds_number? (keeps : b.Keeps p) {written : List Char} {v : α}
    (h : number? b written = some v) : p v := by
  obtain ⟨t, -, built⟩ := Option.bind_eq_some_iff.1 h
  exact keeps.number t v built

theorem holdsFor_step (keeps : b.Keeps p) {reader : Reader α} (held : HoldsFor p reader)
    (h : step b limit reader c = some next) : HoldsFor p next := by
  obtain ⟨stack, mode⟩ := reader
  obtain ⟨frames, value⟩ := held
  have moved {mode : Mode α} (h : some (Reader.mk stack mode) = some next)
      (value : HoldsAt p mode) : HoldsFor p next :=
    Option.some.inj h ▸ ⟨frames, value⟩
  cases mode with
  | value =>
      simp only [step] at h
      split at h
      · exact moved h trivial
      · exact holdsFor_start keeps frames h
  | arrayStart =>
      simp only [step] at h
      split at h
      · exact moved h trivial
      · split at h
        · exact holdsFor_closeArray keeps frames h
        · exact holdsFor_start keeps frames h
  | objectStart =>
      simp only [step] at h
      split at h
      · exact moved h trivial
      · split at h
        · exact holdsFor_closeObject keeps frames h
        · split at h
          · exact moved h trivial
          · exact absurd h (by simp)
  | key =>
      simp only [step] at h
      split at h
      · exact moved h trivial
      · split at h
        · exact moved h trivial
        · exact absurd h (by simp)
  | colon =>
      simp only [step] at h
      split at h
      · exact moved h trivial
      · split at h
        · exact moved h trivial
        · exact absurd h (by simp)
  | after => exact holdsFor_follow keeps ⟨frames, value⟩ h
  | word rest v =>
      cases rest with
      | nil => exact absurd h (by simp [step])
      | cons d rest =>
          simp only [step] at h
          split at h
          · obtain rfl := Option.some.inj h
            split
            · exact holdsFor_complete frames value
            · exact ⟨frames, value⟩
          · exact absurd h (by simp)
  | string isKey escaped written =>
      simp only [step] at h
      split at h
      · exact absurd h (by simp)
      · split at h
        · exact moved h trivial
        · split at h
          · exact holdsFor_closeString keeps frames h
          · exact moved h trivial
  | number written =>
      simp only [step] at h
      split at h
      · exact moved h trivial
      · split at h
        · next v read =>
            exact holdsFor_follow keeps (holdsFor_complete frames (holds_number? keeps read)) h
        · exact absurd h (by simp)
  | finished v =>
      simp only [step] at h
      split at h
      · exact moved h value
      · exact absurd h (by simp)

theorem holdsFor_run (keeps : b.Keeps p) {cs : List Char} {reader : Reader α}
    (held : HoldsFor p reader) (h : run b limit reader cs = some next) : HoldsFor p next := by
  induction cs generalizing reader with
  | nil => exact Option.some.inj h ▸ held
  | cons c rest ih =>
      rw [run] at h
      split at h
      · next taken => exact ih (holdsFor_step keeps held taken) h
      · exact absurd h (by simp)

end Step

end Reader

/-- A value that is read has every property that its builder keeps. -/
theorem Builder.Keeps.holds_of_read? {α : Type} {b : Builder α} {p : α → Prop}
    (keeps : b.Keeps p) {limit : Option Nat} {text : String} {v : α}
    (h : Json.read? b limit text = some v) : p v := by
  obtain ⟨reader, taken, read⟩ := Option.bind_eq_some_iff.1 h
  have start : Reader.HoldsFor p ({} : Reader α) := ⟨List.forall_mem_nil _, trivial⟩
  have held := Reader.holdsFor_run keeps start taken
  unfold Reader.finish at read
  split at read
  · next mode =>
      have value := held.mode
      rw [mode] at value
      exact Option.some.inj read ▸ value
  · exact Reader.holds_number? keeps read
  · exact absurd read (by simp)

end Json

/-! ## Numbers of values -/

namespace Json

namespace Number

/-- A floating-point number has the form that numbers of 64 bits have. -/
def IsCanonical : Number → Prop
  | .integer _ => True
  | .float x => x.IsCanonical

instance : DecidablePred IsCanonical
  | .integer _ => inferInstanceAs (Decidable True)
  | .float x => inferInstanceAs (Decidable x.IsCanonical)

end Number

namespace Value

mutual

def numbers : Value → List Number
  | .number n => [n]
  | .array items => itemNumbers items
  | .object fields => fieldNumbers fields
  | _ => []

def itemNumbers : List Value → List Number
  | [] => []
  | item :: rest => numbers item ++ itemNumbers rest

def fieldNumbers : List (String × Value) → List Number
  | [] => []
  | (_, value) :: rest => numbers value ++ fieldNumbers rest

end

theorem numbers_array (items : List Value) : (array items).numbers = items.flatMap numbers := by
  rw [numbers]
  induction items with
  | nil => rfl
  | cons item rest ih => rw [itemNumbers, ih, List.flatMap_cons]

theorem numbers_object (fields : List (String × Value)) :
    (object fields).numbers = fields.flatMap fun field => field.2.numbers := by
  rw [numbers]
  induction fields with
  | nil => rfl
  | cons field rest ih => rw [fieldNumbers, ih, List.flatMap_cons]

theorem forall_numbers_array {q : Number → Prop} {items : List Value} :
    (∀ n ∈ (array items).numbers, q n) ↔ ∀ v ∈ items, ∀ n ∈ v.numbers, q n := by
  rw [numbers_array]
  exact List.forall_mem_flatMap

theorem forall_numbers_object {q : Number → Prop} {fields : List (String × Value)} :
    (∀ n ∈ (object fields).numbers, q n) ↔ ∀ field ∈ fields, ∀ n ∈ field.2.numbers, q n := by
  rw [numbers_object]
  exact List.forall_mem_flatMap

/-- The numbers of a value are such as there are. -/
def IsCanonical (v : Value) : Prop :=
  ∀ n ∈ v.numbers, n.IsCanonical

instance : DecidablePred IsCanonical :=
  fun v => inferInstanceAs (Decidable (∀ n ∈ v.numbers, n.IsCanonical))

theorem isCanonical_array {items : List Value} :
    (array items).IsCanonical ↔ ∀ v ∈ items, v.IsCanonical :=
  forall_numbers_array

theorem isCanonical_object {fields : List (String × Value)} :
    (object fields).IsCanonical ↔ ∀ field ∈ fields, field.2.IsCanonical :=
  forall_numbers_object

/-- What holds of every number that a numeral stands for holds of all numbers of a value. -/
theorem keeps_numbers {q : Number → Prop} (held : ∀ t n, NumberText.value? t = some n → q n) :
    builder.Keeps fun v => ∀ n ∈ v.numbers, q n where
  null := List.forall_mem_nil _
  bool _ := List.forall_mem_nil _
  number t v mem := by
    obtain ⟨n, value, rfl⟩ := Option.map_eq_some_iff.1 mem
    exact List.forall_mem_singleton.2 (held t n value)
  string units v mem := by
    obtain ⟨s, -, rfl⟩ := Option.map_eq_some_iff.1 mem
    exact List.forall_mem_nil _
  array _ each := forall_numbers_array.2 each
  object fields each v mem := by
    obtain ⟨entries, keys, rfl⟩ := Option.map_eq_some_iff.1 mem
    have held : ∀ entry ∈ entries, ∀ n ∈ entry.2.numbers, q n := by
      clear mem
      induction fields generalizing entries with
      | nil =>
          obtain rfl : [] = entries := Option.some.inj keys
          exact List.forall_mem_nil _
      | cons field rest ih =>
          obtain ⟨here, later⟩ := List.forall_mem_cons.1 each
          simp only [List.mapM_cons, Option.bind_eq_bind, Option.bind_eq_some_iff,
            Option.map_eq_some_iff, Option.pure_def, Option.some.injEq] at keys
          obtain ⟨entry, ⟨key, -, rfl⟩, others, taken, rfl⟩ := keys
          exact List.forall_mem_cons.2 ⟨here, ih later others taken⟩
    refine forall_numbers_object.2 ?_
    exact Ordered.forall_mem_enter (p := fun value : Value => ∀ n ∈ value.numbers, q n)
      (List.forall_mem_nil _) held

/-- Scaling rounds, so what it gives is a number that there is. -/
theorem isCanonical_of_scale? {x y : Binary64} {e : Int} (canonical : x.IsCanonical)
    (h : scale? x e = some y) : y.IsCanonical := by
  cases e with
  | ofNat e =>
      unfold scale? at h
      dsimp only at h
      split at h
      · obtain ⟨power, -, product⟩ := Option.bind_eq_some_iff.1 h
        exact Binary64.isCanonical_of_ofRatio? product
      · split at h
        · exact Option.some.inj h ▸ canonical
        · cases h
  | negSucc e =>
      obtain ⟨z, -, h⟩ := Option.bind_eq_some_iff.1 h
      obtain ⟨power, -, quotient⟩ := Option.bind_eq_some_iff.1 h
      exact Binary64.isCanonical_of_ofRatio? quotient

theorem isCanonical_of_float? {t : Numeral} {y : Binary64} (h : float? t = some y) :
    y.IsCanonical := by
  obtain ⟨x, rounded, h⟩ := Option.bind_eq_some_iff.1 h
  obtain ⟨z, scaled, h⟩ := Option.bind_eq_some_iff.1 h
  obtain rfl := Option.some.inj h
  have held := isCanonical_of_scale? (Binary64.isCanonical_of_ofRatio? rounded) scaled
  exact ⟨held.lt, held.normal, held.le⟩

theorem keeps_isCanonical : builder.Keeps IsCanonical :=
  keeps_numbers fun t n value => by
    unfold NumberText.value? at value
    split at value
    · exact Option.some.inj value ▸ trivial
    · obtain ⟨x, binary, rfl⟩ := Option.map_eq_some_iff.1 value
      exact isCanonical_of_float? binary

/-- The numbers of a document that is read are such as there are. -/
theorem isCanonical_of_read? {text : String} {v : Value} (h : read? text = some v) :
    v.IsCanonical :=
  keeps_isCanonical.holds_of_read? h

end Value

end Json

end RequestScribe
