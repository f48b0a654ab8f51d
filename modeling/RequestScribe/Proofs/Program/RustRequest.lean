import RequestScribe.Proofs.Code.LiteralMentions
import RequestScribe.Proofs.Program.FragmentMask
import RequestScribe.Proofs.Program.Indentation
import RequestScribe.Proofs.Shape.RustTypes

/-!
# Crates that a Rust request refers to

A Rust program refers to a crate by a path that begins with its name.  What is said here of the
parts that make up a request, its client, body and headers, is read from their text.
-/

namespace RequestScribe

open Lexis

namespace Rust

open Step Code

inductive Crate where
  | reqwest
  | tokio
  | serde
  | serdeJson
  deriving DecidableEq, Repr

def Crate.name : Crate → String
  | .reqwest => "reqwest"
  | .tokio => "tokio"
  | .serde => "serde"
  | .serdeJson => "serde_json"

abbrev Refers (steps : List Step) (P : Crate → Prop) : Prop :=
  Mentions .rust roots Crate.name steps P

/-- Steps that refer to no crate but the client. -/
abbrev RefersToClient (steps : List Step) : Prop :=
  MentionsOnly .rust roots Crate.name steps (· = .reqwest)

abbrev answers (m : Mask) : Option (List String) :=
  m.answers .rust roots

theorem hasMask_string (s : String) : (string s).HasMask .rust [Glyph.literal] :=
  hasMask_quoted (isLiteral_doubleBraced (by decide) s)

def lookupMask : Mask :=
  Mask.text "std::env::var(" ++ [Glyph.literal] ++ Mask.text ")?"

/-- A value is written out, looked up, or put into a text. -/
def valueMasks : List Mask :=
  [ [Glyph.literal], lookupMask,
    Mask.text "format!(" ++ [Glyph.literal] ++ Mask.text ", " ++ lookupMask ++ Mask.text ")" ]

theorem exists_mask_value {f : Fragment} (named : ∀ var, f.var? = some var → IsName var) :
    ∃ m ∈ valueMasks, (value f).HasMask .rust m := by
  cases f with
  | literal text => exact ⟨_, .head _, hasMask_string text⟩
  | env var lead =>
      have look : (envLookup var).HasMask .rust lookupMask :=
        ((hasMask_text _).append (hasMask_quoted (isLiteral_name (by decide) (named var rfl)))).append
          (hasMask_text _)
      unfold value FragmentSyntax.code
      dsimp only
      split
      · exact ⟨_, .tail _ (.head _), look⟩
      · refine ⟨_, .tail _ (.tail _ (.head _)), ?_⟩
        exact ((((hasMask_text _).append (hasMask_string _)).append (hasMask_text _)).append
          look).append (hasMask_text _)

/-- Whether a path that begins with a name is in no crate but the client's. -/
def isClients (root : String) : Bool :=
  !(["tokio", "serde", "serde_json"].contains root)

/-- Whether a text is read to its end and no path in it is in a crate but the client's. -/
def namesOnlyClient (m : Mask) : Bool :=
  (answers m).any (·.all isClients)

theorem client_of_line {c : Code} {m : Mask} (mask : c.HasMask .rust m)
    (known : namesOnlyClient m = true) : RefersToClient [.line c] := by
  obtain ⟨names, answered, all⟩ := (Option.any_eq_true _ _).1 known
  refine (Mentions.line mask answered).only fun crate mem => ?_
  have foreign := List.all_eq_true.1 all crate.name mem
  cases crate with
  | reqwest => rfl
  | tokio | serde | serdeJson => exact absurd foreign (by decide)

theorem client_of_text {cs : List Char} (known : namesOnlyClient (cs.map Glyph.char) = true) :
    RefersToClient [.line (Code.plain (String.ofList cs))] :=
  client_of_line (hasMask_text cs) known

section

variable {b : Brief}

/-! ## The client -/

theorem client_of_durationCall {name : String} {cs : List Char} (same : name = String.ofList cs)
    {ms? : Option Nat} (known : ∀ word : String, namesOnlyClient (Mask.text "." ++
      cs.map Glyph.char ++ Mask.text "(Duration::from_millis(" ++ [Glyph.word word] ++
        Mask.text "))") = true) :
    RefersToClient ((durationCall name ms?).map Step.line) := by
  cases ms? with
  | none => exact .of_silent .nil
  | some ms =>
      rw [same]
      exact client_of_line (hasMask_plain_append (hasMask_plain_append (hasMask_plain_append
        (hasMask_plain_append (hasMask_text _) (hasMask_text cs)) (hasMask_text _))
          (hasMask_word (Fresh.isName_toString ms))) (hasMask_text _)) (known _)

theorem client_of_redirectCall (t : Transport) :
    RefersToClient ((redirectCall t).map Step.line) := by
  unfold redirectCall
  split
  · split
    · next limit _ =>
        refine client_of_line (hasMask_plain_append (hasMask_plain_append (hasMask_text _)
          (hasMask_word (Fresh.isName_toString limit))) (hasMask_text _)) ?_
        -- The digits of the limit are not looked at.
        generalize toString limit = word
        cbv
    · exact .of_silent .nil
  · exact client_of_text rfl

theorem client_of_builderCalls : RefersToClient ((builderCalls b).map Step.line) := by
  unfold builderCalls
  dsimp only
  simp only [List.map_append]
  refine ((((((MentionsOnly.append ?timeout ?connect).append ?insecure).append ?authority).append
    ?proxy).append (client_of_redirectCall b.transport)).append ?compressed)
  case timeout => exact client_of_durationCall rfl fun _ => by cbv
  case connect => exact client_of_durationCall rfl fun _ => by cbv
  case insecure =>
    split
    · exact client_of_text rfl
    · exact .of_silent .nil
  case authority =>
    split
    · next path _ =>
        exact client_of_line (((hasMask_text _).append (hasMask_string path)).append
          (hasMask_text _)) rfl
    · exact .of_silent .nil
  case proxy =>
    split
    · next proxy _ =>
        exact client_of_line (((hasMask_text _).append (hasMask_string proxy)).append
          (hasMask_text _)) rfl
    · exact .of_silent .nil
  case compressed =>
    split
    · exact client_of_text rfl
    · exact .of_silent .nil

/-- A line with the path of the client's module in it. -/
theorem refers_clientPath {before after : List Char} {names names' : List String}
    (awaiting : answers (before.map Glyph.char ++ Mask.text "reqwest::" ++
      after.map Glyph.char) = some names)
    (blocking : answers (before.map Glyph.char ++ Mask.text "reqwest::blocking::" ++
      after.map Glyph.char) = some names')
    (known : names.head? = some "reqwest" ∧ names.all isClients = true)
    (known' : names'.head? = some "reqwest" ∧ names'.all isClients = true) :
    Refers [.line (Code.plain (String.ofList before ++ clientPath b ++ String.ofList after))]
      (· = .reqwest) := by
  have only {names : List String}
      (known : names.head? = some "reqwest" ∧ names.all isClients = true) (crate : Crate) :
      crate.name ∈ names ↔ crate = .reqwest := by
    constructor
    · intro mem
      have foreign := List.all_eq_true.1 known.2 crate.name mem
      cases crate with
      | reqwest => rfl
      | tokio | serde | serdeJson => exact absurd foreign (by decide)
    · rintro rfl
      exact List.mem_of_mem_head? known.1
  unfold clientPath
  split
  · exact (Mentions.line (hasMask_plain_append (hasMask_plain_append (hasMask_text _)
      (hasMask_text _)) (hasMask_text _)) awaiting).iff (only known)
  · exact (Mentions.line (hasMask_plain_append (hasMask_plain_append (hasMask_text _)
      (hasMask_text _)) (hasMask_text _)) blocking).iff (only known')

theorem refers_client : Refers (client b) (· = .reqwest) := by
  unfold client
  dsimp only
  split
  · exact refers_clientPath rfl rfl ⟨rfl, rfl⟩ ⟨rfl, rfl⟩
  · have opening : Refers [.line (Code.plain ("let client = " ++ clientPath b ++
        "Client::builder()"))] (· = .reqwest) := refers_clientPath rfl rfl ⟨rfl, rfl⟩ ⟨rfl, rfl⟩
    have last : RefersToClient [.line ".build()?;"] := client_of_text rfl
    obtain ⟨Q, inner, within⟩ := (client_of_builderCalls (b := b)).append last
    refine (opening.scope inner).iff fun crate => ?_
    exact ⟨fun either => either.elim id (within crate), Or.inl⟩

/-! ## The body -/

/-- A line of a form, whether another one follows or not. -/
structure IsFormLine (c : Code) : Prop where
  nonempty : c.text ≠ ""
  open_ : RefersToClient [.line c]
  closed : RefersToClient [.line (c ++ ";")]

theorem IsFormLine.ofMask {c : Code} {m : Mask} (nonempty : c.text ≠ "") (mask : c.HasMask .rust m)
    (known : namesOnlyClient m = true)
    (ended : namesOnlyClient (m ++ Mask.text ";") = true) : IsFormLine c :=
  ⟨nonempty, client_of_line mask known, client_of_line (mask.append (hasMask_text _)) ended⟩

def multipartMasks : List Mask :=
  [ Mask.text "reqwest::" ++ Mask.text "multipart",
    Mask.text "reqwest::blocking::" ++ Mask.text "multipart" ]

theorem exists_mask_multipart (b : Brief) :
    ∃ m ∈ multipartMasks, (Code.plain (clientPath b ++ "multipart")).HasMask .rust m := by
  unfold clientPath
  split
  · exact ⟨_, .head _, hasMask_plain_append (hasMask_text _) (hasMask_text _)⟩
  · exact ⟨_, .tail _ (.head _), hasMask_plain_append (hasMask_text _) (hasMask_text _)⟩

theorem hasMask_fileContents (path : String) : (fileContents path).HasMask .rust
    (Mask.text "std::fs::read(" ++ [Glyph.literal] ++ Mask.text ")?") :=
  ((hasMask_text _).append (hasMask_string path)).append (hasMask_text _)

/-- The mask of an upload in front of its type, given that of the path to the module. -/
def uploadMask (path : Mask) : Mask :=
  Mask.text ".part(" ++ [Glyph.literal] ++ (Mask.text ", " ++ path ++ Mask.text "::Part::bytes(") ++
    (Mask.text "std::fs::read(" ++ [Glyph.literal] ++ Mask.text ")?") ++
    Mask.text ").file_name(" ++ [Glyph.literal] ++ Mask.text ")"

theorem hasMask_upload {multipart : String} {m : Mask}
    (path : (Code.plain multipart).HasMask .rust m) (f : FileUpload) :
    (".part(" ++ string f.fieldName ++ (", " ++ multipart ++ "::Part::bytes(") ++
      fileContents f.fileName ++ ").file_name(" ++ string f.fileName ++ ")" : Code).HasMask .rust
        (uploadMask m) := by
  exact ((((((hasMask_text _).append (hasMask_string _)).append
    (((hasMask_text _).append path).append (hasMask_text _))).append
    (hasMask_fileContents _)).append (hasMask_text _)).append (hasMask_string _)).append
      (hasMask_text _)

theorem exists_upload {multipart : String} {m : Mask} (known : m ∈ multipartMasks)
    (path : (Code.plain multipart).HasMask .rust m) (f : FileUpload) :
    ∃ c, uploadStep multipart f = .line c ∧ IsFormLine c := by
  have file := hasMask_upload path f
  refine ⟨_, rfl, ?_⟩
  split
  · next type _ =>
      have typed : (".mime_str(" ++ string type ++ ")?" : Code).HasMask .rust _ :=
        ((hasMask_text _).append (hasMask_string type)).append (hasMask_text _)
      have whole := (file.append typed).append (hasMask_text [')'])
      rcases List.mem_pair.1 known with rfl | rfl
      · exact .ofMask (by simp [Code.text_append]) whole (by decide +kernel) (by decide +kernel)
      · exact .ofMask (by simp [Code.text_append]) whole (by decide +kernel) (by decide +kernel)
  · have none : Code.empty.HasMask .rust [] := .nil
    have whole := (file.append none).append (hasMask_text [')'])
    rcases List.mem_pair.1 known with rfl | rfl
    · exact .ofMask (by simp [Code.text_append]) whole (by decide +kernel) (by decide +kernel)
    · exact .ofMask (by simp [Code.text_append]) whole (by decide +kernel) (by decide +kernel)

theorem exists_field {multipart : String} {m : Mask} (known : m ∈ multipartMasks)
    (path : (Code.plain multipart).HasMask .rust m) {field : MultipartField} {step : Step}
    (made : fieldStep b multipart field = some step) : ∃ c, step = .line c ∧ IsFormLine c := by
  cases field with
  | text name value =>
      obtain rfl := Option.some.inj made
      have whole : (".text(" ++ string name ++ ", " ++ string value ++ ")" : Code).HasMask .rust _ :=
        ((((hasMask_text _).append (hasMask_string name)).append (hasMask_text _)).append
          (hasMask_string value)).append (hasMask_text _)
      exact ⟨_, rfl, .ofMask (by simp [Code.text_append]) whole rfl rfl⟩
  | file index =>
      obtain ⟨f, -, rfl⟩ := Option.map_eq_some_iff.1 made
      exact exists_upload known path f

/-- A form with its fields, one on each line, and a semicolon behind the last of them. -/
theorem refers_formSteps {first : Code} {codes : List Code} (nonempty : first.text ≠ "")
    (alone : Refers [.line first] (· = .reqwest))
    (ended : Refers [.line (first ++ ";")] (· = .reqwest))
    (each : ∀ c ∈ codes, IsFormLine c) :
    Refers ([Step.line first, Step.indent] ++ codes.map Step.line ++ [Step.terminate ";", Step.dedent])
      (· = .reqwest) := by
  have indent : Refers [.indent] fun _ => False := .silent .indent
  have dedent : Refers [.dedent] fun _ => False := .silent .dedent
  rcases List.eq_nil_or_concat codes with rfl | ⟨before, last, rfl⟩
  · have same (w : Writer) : w.runAll [.line first, .indent, .terminate ";", .dedent] =
        w.runAll [.line (first ++ ";"), .indent, .dedent] := by
      simp [Writer.runAll, Writer.run, Writer.line, Writer.terminate, Writer.push, Writer.indent,
        Writer.dedent, nonempty, Code.text_append]
    exact (Mentions.congr same (ended.cons (indent.cons dedent))).iff fun crate => by simp
  · have known : IsFormLine last := each last (by simp)
    have same (w : Writer) :
        w.runAll ([Step.line first, Step.indent] ++ (before.concat last).map Step.line ++
          [Step.terminate ";", Step.dedent]) =
        w.runAll ([Step.line first, Step.indent] ++ before.map Step.line ++
          [Step.line (last ++ ";")] ++ [Step.dedent]) := by
      have split : [Step.line first, Step.indent] ++ (before.concat last).map Step.line ++
          [Step.terminate ";", Step.dedent] =
            ([Step.line first, Step.indent] ++ before.map Step.line) ++
              ([Step.line last, Step.terminate ";"] ++ [Step.dedent]) := by simp
      rw [split, runAll_append, runAll_append, runAll_line_terminate _ known.nonempty,
        ← runAll_append, ← runAll_append, ← List.append_assoc]
    have fields : RefersToClient (before.map Step.line) :=
      .map fun c mem => (each c (by simp [mem])).open_
    obtain ⟨Q, inner, within⟩ := fields.append known.closed
    have whole := ((alone.cons indent).append inner).append dedent
    rw [← List.append_assoc] at whole
    refine (Mentions.congr same whole).iff fun crate => ?_
    simp only [or_false]
    exact or_iff_left_of_imp (within crate)

def bodyCrates (b : Brief) : List Crate :=
  match b.body? with
  | some (.json _) => [.serdeJson]
  | some (.multipart _) => [.reqwest]
  | _ => []

theorem foreign (crate : Crate) : ¬LiteralStyle.json.IsWord crate.name := by
  cases crate <;> exact LiteralStyle.not_isWord (by decide) (by decide)

theorem refers_jsonStep (v : Json.Value) : Refers [jsonStep b v] (· = .serdeJson) := by
  unfold jsonStep
  dsimp only
  split
  · have line : Refers [.lines ("let body: RequestBody = serde_json::from_value(serde_json::json!(" ++
        Literal.code .json b.unit 0 v ++ "))?;")] fun crate =>
        crate.name ∈ ["serde_json", "serde_json"] :=
      .literal (isAsked_before (by decide)) LiteralStyle.json_fitsIn
        b.settings.isBlankUnit_indentUnit foreign (hasMask_text _) rfl ⟨_, rfl, rfl⟩
          (List.all_eq_true.1 (by decide)) v
    exact line.iff fun crate => by cases crate <;> simp [Crate.name]
  · have line : Refers [.lines ("let body = serde_json::json!(" ++
        Literal.code .json b.unit 0 v ++ ");")] fun crate => crate.name ∈ ["serde_json"] :=
      .literal (isAsked_before (by decide)) LiteralStyle.json_fitsIn
        b.settings.isBlankUnit_indentUnit foreign (hasMask_text _) rfl ⟨_, rfl, rfl⟩
          (List.all_eq_true.1 (by decide)) v
    exact line.iff fun crate => by cases crate <;> simp [Crate.name]

theorem refers_formLine {m : Mask} (known : m ∈ multipartMasks) {path : String}
    (mask : (Code.plain path).HasMask .rust m) :
    Refers [.line (Code.plain ("let form = " ++ path ++ "::Form::new()"))] (· = .reqwest) ∧
      Refers [.line (Code.plain ("let form = " ++ path ++ "::Form::new()") ++ ";")]
        (· = .reqwest) := by
  have first : (Code.plain ("let form = " ++ path ++ "::Form::new()")).HasMask .rust _ :=
    hasMask_plain_append (hasMask_plain_append (hasMask_text _) mask) (hasMask_text _)
  have ended := first.append (hasMask_text [';'])
  rcases List.mem_pair.1 known with rfl | rfl
  · constructor
    · exact (Mentions.line first (show _ = some ["reqwest", "multipart", "Form"] from rfl)).iff
        fun crate => by cases crate <;> simp [Crate.name]
    · exact (Mentions.line ended (show _ = some ["reqwest", "multipart", "Form"] from rfl)).iff
        fun crate => by cases crate <;> simp [Crate.name]
  · constructor
    · exact (Mentions.line first
        (show _ = some ["reqwest", "blocking", "multipart", "Form"] from rfl)).iff
          fun crate => by cases crate <;> simp [Crate.name]
    · exact (Mentions.line ended
        (show _ = some ["reqwest", "blocking", "multipart", "Form"] from rfl)).iff
          fun crate => by cases crate <;> simp [Crate.name]

theorem exists_fields {multipart : String} {m : Mask} (known : m ∈ multipartMasks)
    (path : (Code.plain multipart).HasMask .rust m) (fields : List MultipartField) :
    ∃ codes : List Code, fields.filterMap (fieldStep b multipart) = codes.map Step.line ∧
      ∀ c ∈ codes, IsFormLine c := by
  induction fields with
  | nil => exact ⟨[], rfl, by simp⟩
  | cons field rest ih =>
      obtain ⟨codes, made, each⟩ := ih
      cases own : fieldStep b multipart field with
      | none => exact ⟨codes, by rw [List.filterMap_cons_none own, made], each⟩
      | some step =>
          obtain ⟨c, rfl, line⟩ := exists_field known path own
          exact ⟨c :: codes, by rw [List.filterMap_cons_some own, made]; rfl,
            List.forall_mem_cons.2 ⟨line, each⟩⟩

theorem refers_body : Refers (body b) fun crate => crate ∈ bodyCrates b := by
  unfold body bodyCrates
  cases given : b.body? with
  | none => exact Mentions.nil.iff fun crate => by simp
  | some sent =>
      cases sent with
      | json v => exact (refers_jsonStep v).iff fun crate => by simp
      | multipart fields =>
          obtain ⟨m, known, path⟩ := exists_mask_multipart b
          obtain ⟨codes, made, each⟩ := exists_fields (b := b) known path fields
          obtain ⟨alone, ended⟩ := refers_formLine known path
          dsimp only
          rw [made]
          exact (refers_formSteps (by simp) alone ended each).iff fun crate => by simp
      | form | raw | binary | file => exact Mentions.nil.iff fun crate => by simp

/-! ## The request -/

theorem client_of_methodCall : RefersToClient [.line (methodCall b)] := by
  have own : IsName b.method.lowerVerb := isName_of_all (by cases b.method <;> decide)
    (by cases b.method <;> decide)
  have verb : IsName b.method.verb := isName_of_all (by cases b.method <;> decide)
    (by cases b.method <;> decide)
  unfold methodCall
  split
  · exact client_of_line (((((hasMask_text _).append (hasMask_word own)).append
      (hasMask_text _)).append (hasMask_string b.url)).append (hasMask_text _)) rfl
  · exact client_of_line (((((hasMask_text _).append (hasMask_word verb)).append
      (hasMask_text _)).append (hasMask_string b.url)).append (hasMask_text _)) (by cbv)

def isCallCharacter (c : Char) : Bool :=
  Lexis.isNameCharacter c || ['.', '(', ')', '&', '[', ']', ',', ' '].contains c

/-- A call without colons has no path in it. -/
theorem client_of_call {c : Code} (h : c.IsMadeOf .rust isCallCharacter) :
    RefersToClient [.line c] := by
  have opens : c.mask.IsPlain .rust := by
    intro d mem mark
    have word : Lexis.isNameCharacter d = false := by
      simp only [Mask.isMark, Bool.and_eq_true, Bool.not_eq_true'] at mark
      exact mark.1
    have known : d ∈ ['.', '(', ')', '&', '[', ']', ',', ' '] := by
      simpa [isCallCharacter, word] using h.characters d mem
    exact List.all_eq_true.1 (show _ = true by decide) d known
  refine .of_silent ((Mentions.ofLine h.read.hasMask opens).iff fun crate =>
    iff_false_intro fun mem => ?_)
  obtain ⟨line, held, before⟩ := List.mem_flatMap.1 mem
  have colon := (Lexeme.mem_of_mem_before before).2 ':' List.mem_cons_self
  exact absurd (h.characters ':' (Mask.mem_of_mark held colon)) (by decide)

theorem isMadeOf_pairs (entries : List (String × String)) :
    (pairs entries).IsMadeOf .rust isCallCharacter := by
  have text {text : String} (h : text.toList.all isCallCharacter = true) :
      (Code.plain text).IsMadeOf .rust isCallCharacter := .plain (List.all_eq_true.1 h)
  have literal (s : String) : (string s).IsMadeOf .rust isCallCharacter :=
    .quoted (isLiteral_doubleBraced (by decide) s)
  refine ((text (by decide)).append ((text (by decide)).intercalate ?_)).append (text (by decide))
  refine List.forall_mem_map.2 fun entry _ => ?_
  exact ((((text (by decide)).append (literal entry.1)).append (text (by decide))).append
    (literal entry.2)).append (text (by decide))

theorem client_of_pairs {opening : String} (h : opening.toList.all isCallCharacter = true)
    (entries : List (String × String)) :
    RefersToClient [.line (Code.plain opening ++ pairs entries ++ ")")] := by
  have closing : Code.IsMadeOf .rust isCallCharacter ")" := .plain (List.all_eq_true.1 (by decide))
  exact client_of_call
    (((Code.IsMadeOf.plain (List.all_eq_true.1 h)).append (isMadeOf_pairs entries)).append closing)

theorem client_of_attachment : RefersToClient ((attachment b).map Step.line) := by
  unfold attachment
  split
  · exact client_of_text rfl
  · exact client_of_pairs (by decide) _
  · exact client_of_text rfl
  · next text _ =>
    exact client_of_line (((hasMask_text _).append (hasMask_string text)).append (hasMask_text _))
      rfl
  · next text _ =>
    exact client_of_line (((hasMask_text _).append (hasMask_string text)).append (hasMask_text _))
      rfl
  · next path _ =>
    exact client_of_line (((hasMask_text _).append (hasMask_fileContents path)).append
      (hasMask_text _)) rfl
  · exact .of_silent .nil

theorem client_of_header {name : String} {f : Fragment}
    (named : ∀ var, f.var? = some var → IsName var) :
    RefersToClient [.line (".header(" ++ string name ++ ", " ++ value f ++ ")")] := by
  obtain ⟨m, known, mask⟩ := exists_mask_value named
  have whole : (".header(" ++ string name ++ ", " ++ value f ++ ")" : Code).HasMask .rust _ :=
    ((((hasMask_text _).append (hasMask_string name)).append (hasMask_text _)).append mask).append
      (hasMask_text _)
  simp only [valueMasks, List.mem_cons, List.not_mem_nil, or_false] at known
  rcases known with rfl | rfl | rfl <;> exact client_of_line whole (by decide +kernel)

theorem client_of_basicAuth {user password : Fragment}
    (named : ∀ var, user.var? = some var ∨ password.var? = some var → IsName var) :
    RefersToClient
      [.line (".basic_auth(" ++ value user ++ ", Some(" ++ value password ++ "))")] := by
  obtain ⟨m, known, mask⟩ := exists_mask_value fun var reads => named var (.inl reads)
  obtain ⟨m', known', mask'⟩ := exists_mask_value fun var reads => named var (.inr reads)
  have whole : (".basic_auth(" ++ value user ++ ", Some(" ++ value password ++ "))" :
      Code).HasMask .rust _ :=
    ((((hasMask_text _).append mask).append (hasMask_text _)).append mask').append (hasMask_text _)
  simp only [valueMasks, List.mem_cons, List.not_mem_nil, or_false] at known known'
  rcases known with rfl | rfl | rfl <;> rcases known' with rfl | rfl | rfl <;>
    exact client_of_line whole (by decide +kernel)

theorem client_of_requestCalls (sound : b.IsSound) :
    RefersToClient ((requestCalls b).map Step.line) := by
  unfold requestCalls
  dsimp only
  simp only [List.map_append, List.map_map]
  refine (((client_of_methodCall.append ?query).append ?headers).append ?credentials).append
    client_of_attachment
  case query =>
    split
    · exact client_of_pairs (by decide) b.query
    · exact .of_silent .nil
  case headers =>
    exact .map fun header mem => client_of_header fun var reads => sound.named_header mem reads
  case credentials =>
    split
    · next given =>
      exact client_of_basicAuth fun var reads => sound.named_basicAuth given reads
    · exact .of_silent .nil

theorem client_of_send (sound : b.IsSound) : RefersToClient (send b) := by
  have opening : RefersToClient [.line "let response = client", .indent] :=
    (client_of_text rfl).append (.of_silent (.silent .indent))
  have closing : RefersToClient [.dedent, .blank] :=
    .of_silent (.silent (Reads.dedent.append .blank))
  have sent : RefersToClient
      [.line ".send()", if isAsync b then .line ".await?;" else .terminate "?;"] := by
    split
    · exact (client_of_text rfl).append (client_of_text rfl)
    · have same (w : Writer) : w.runAll [.line ".send()", .terminate "?;"] =
          w.runAll [.line (".send()" ++ "?;")] := runAll_line_terminate w (by decide) _
      exact .congr same (client_of_line ((hasMask_text _).append (hasMask_text _)) rfl)
  have whole := ((opening.append (client_of_requestCalls sound)).append sent).append closing
  simpa [send] using whole

end

end Rust

end RequestScribe
