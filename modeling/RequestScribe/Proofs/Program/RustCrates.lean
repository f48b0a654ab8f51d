import RequestScribe.Proofs.Program.DeclaredTypes
import RequestScribe.Proofs.Program.Comments
import RequestScribe.Proofs.Program.RustRequest
import RequestScribe.Proofs.Text.Chars

/-!
# Crates of Rust programs

Read without knowing how it was written, a Rust program refers to the crates that it lists as
dependencies, and to `serde_json` as well where its types hold a value of which the shape is not
known.
-/

namespace RequestScribe

open Lexis

namespace Rust

open Step Code

variable {b : Brief}

/-! ## Functions -/

/-- Steps that refer to the client at most, next to others that do. -/
theorem Refers.append_client {first rest : List Step} {P : Crate → Prop} (refers : Refers first P)
    (known : P .reqwest) (later : RefersToClient rest) : Refers (first ++ rest) P := by
  obtain ⟨Q, mentions, within⟩ := later
  refine (refers.append mentions).iff fun crate => or_iff_left_of_imp fun held => ?_
  exact within crate held ▸ known

theorem client_of_statusCheck : RefersToClient (statusCheck b) := by
  have opening : RefersToClient [.line "if !response.status().is_success() \x7b"] :=
    client_of_text rfl
  have failed : RefersToClient [.line ("return Err(format!(" ++
      string "Request failed with status \x7b\x7d" ++ ", response.status()).into());")] :=
    client_of_line (((hasMask_text _).append (hasMask_string _)).append (hasMask_text _)) rfl
  have closing : RefersToClient [.line "\x7d"] := client_of_text rfl
  exact .when _ fun _ => (opening.block failed closing).cons (.of_silent .blank)

theorem client_of_decode : RefersToClient [decode b] := by
  unfold decode awaited
  dsimp only
  split <;> split <;>
    exact client_of_line (hasMask_plain_append (hasMask_plain_append (hasMask_plain_append
      (hasMask_text _) (hasMask_text _)) (hasMask_text _)) (hasMask_text _)) rfl

theorem client_of_signature : RefersToClient
    [.line (Code.plain (asyncKeyword b ++ "fn make_request() -> Result<" ++ responseType b ++
      ", Box<dyn std::error::Error>> \x7b"))] := by
  unfold asyncKeyword responseType
  split <;> split <;>
    exact client_of_line (hasMask_plain_append (hasMask_plain_append (hasMask_plain_append
      (hasMask_text _) (hasMask_text _)) (hasMask_text _)) (hasMask_text _)) rfl

/-- The function that sends the request refers to the client, and to what the body refers to. -/
theorem refers_makeRequest (sound : b.IsSound) :
    Refers [makeRequest b] fun crate => crate = .reqwest ∨ crate ∈ bodyCrates b := by
  have last : RefersToClient [decode b, .line "Ok(data)"] :=
    client_of_decode.append (client_of_text rfl)
  have prepared : Refers (client b ++ body b) fun crate =>
      crate = .reqwest ∨ crate ∈ bodyCrates b := refers_client.append refers_body
  have sent := prepared.append_client (.inl rfl)
    ((MentionsOnly.of_silent .blank).append (client_of_send sound))
  have inner := sent.append_client (.inl rfl) ((client_of_statusCheck (b := b)).append last)
  have same : client b ++ body b ++ ([Step.blank] ++ send b) ++
      (statusCheck b ++ [decode b, Step.line "Ok(data)"]) =
        client b ++ body b ++ [Step.blank] ++ send b ++ statusCheck b ++
          [decode b, Step.line "Ok(data)"] := by simp
  rw [same] at inner
  obtain ⟨P, opening, within⟩ := client_of_signature (b := b)
  have closing : Refers [.line "\x7d"] fun crate => crate.name ∈ [] := .text rfl
  refine (opening.block inner closing).iff fun crate => ?_
  simp only [List.not_mem_nil, or_false]
  exact or_iff_right_of_imp fun opened => .inl (within crate opened)

theorem client_of_printed : RefersToClient [.line ("Ok(data) => " ++ printed b ++ ",")] ∧
    RefersToClient [.line (printed b ++ ";")] := by
  have mask : (printed b).HasMask .rust _ :=
    ((hasMask_text _).append (hasMask_string _)).append (hasMask_text _)
  exact ⟨client_of_line (((hasMask_text _).append mask).append (hasMask_text _)) rfl,
    client_of_line (mask.append (hasMask_text _)) rfl⟩

theorem client_of_main : RefersToClient
    [ if b.guarded then
        block (Code.plain (asyncKeyword b ++ "fn main()" ++ " \x7b")) "\x7d"
          [ block (Code.plain ("match " ++ ("make_request()" ++ awaited b) ++ " \x7b")) "\x7d"
              [ line ("Ok(data) => " ++ printed b ++ ","),
                block "Err(err) => \x7b" "\x7d"
                  [ line ("eprintln!(" ++ string "Request failed: \x7b\x7d" ++ ", err);"),
                    line "std::process::exit(1);" ] ] ]
      else
        block (Code.plain (asyncKeyword b ++ "fn main()" ++
            " -> Result<(), Box<dyn std::error::Error>> \x7b")) "\x7d"
          [ line (Code.plain ("let data = " ++ ("make_request()" ++ awaited b) ++ "?;")),
            line (printed b ++ ";"),
            line "Ok(())" ] ] := by
  have closing : RefersToClient [.line "\x7d"] := client_of_text rfl
  obtain ⟨shown, ended⟩ := client_of_printed (b := b)
  split
  · have opening : RefersToClient [.line (Code.plain (asyncKeyword b ++ "fn main()" ++ " \x7b"))] := by
      unfold asyncKeyword
      split <;>
        exact client_of_line (hasMask_plain_append (hasMask_plain_append (hasMask_text _)
          (hasMask_text _)) (hasMask_text _)) rfl
    have called : RefersToClient
        [.line (Code.plain ("match " ++ ("make_request()" ++ awaited b) ++ " \x7b"))] := by
      unfold awaited
      split <;>
        exact client_of_line (hasMask_plain_append (hasMask_plain_append (hasMask_text _)
          (hasMask_plain_append (hasMask_text _) (hasMask_text _))) (hasMask_text _)) rfl
    have failed : RefersToClient [.line "Err(err) => \x7b"] := client_of_text rfl
    have message : RefersToClient
        [.line ("eprintln!(" ++ string "Request failed: \x7b\x7d" ++ ", err);")] :=
      client_of_line (((hasMask_text _).append (hasMask_string _)).append (hasMask_text _)) rfl
    have exit : RefersToClient [.line "std::process::exit(1);"] := client_of_text rfl
    exact opening.block (called.block
      (shown.cons (failed.block (message.cons exit) closing)) closing) closing
  · have opening : RefersToClient [.line (Code.plain (asyncKeyword b ++ "fn main()" ++
        " -> Result<(), Box<dyn std::error::Error>> \x7b"))] := by
      unfold asyncKeyword
      split <;>
        exact client_of_line (hasMask_plain_append (hasMask_plain_append (hasMask_text _)
          (hasMask_text _)) (hasMask_text _)) rfl
    have called : RefersToClient
        [.line (Code.plain ("let data = " ++ ("make_request()" ++ awaited b) ++ "?;"))] := by
      unfold awaited
      split <;>
        exact client_of_line (hasMask_plain_append (hasMask_plain_append (hasMask_text _)
          (hasMask_plain_append (hasMask_text _) (hasMask_text _))) (hasMask_text _)) rfl
    have done : RefersToClient [.line "Ok(())"] := client_of_text rfl
    exact opening.block (called.cons (ended.cons done)) closing

theorem refers_attribute : Refers (Step.when (isAsync b) [.line "#[tokio::main]"]) fun crate =>
    isAsync b = true ∧ crate = .tokio := by
  have marked : Refers [.line "#[tokio::main]"] fun crate => crate.name ∈ ["tokio"] := .text rfl
  exact (marked.when _).iff fun crate => by cases crate <;> simp [Crate.name]

/-! ## Declarations -/

theorem refers_imports : Refers (Step.plainLines (imports b)) fun crate =>
    declaresTypes b = true ∧ crate = .serde := by
  have derived : Refers [.line "use serde::\x7bDeserialize, Serialize\x7d;"] fun crate =>
      crate.name ∈ ["serde"] := .text rfl
  have timed : Refers [.line "use std::time::Duration;"] fun crate =>
      crate.name ∈ ["std", "time"] := .text rfl
  have both := (derived.when (declaresTypes b)).append
    (timed.when (b.timeout?.isSome || b.connectTimeout?.isSome))
  refine (Mentions.congr (fun w => congrArg w.runAll ?_) both).iff fun crate => ?_
  · unfold Step.plainLines imports Step.when
    split <;> split <;> rfl
  · cases crate <;> simp [Crate.name]

/-- The types refer to `serde_json` where the shape of a value is not known. -/
theorem refers_typeSteps : Refers (b.typeSteps .rust) fun crate =>
    crate = .serdeJson ∧ (b.typeBlocks.any TypeBlock.isOpen) = true := by
  have told : Tells .rust roots Crate.name
      (TypeSet.writeBlocks .rust b.unit b.typeBlocks).text.toList fun crate =>
        crate.name ∈ openRoots (b.typeBlocks.any TypeBlock.isOpen) :=
    TypeBlock.tells_writeBlocks b.settings.isBlankUnit_indentUnit Brief.isTypeName_typeBlocks
  unfold Brief.typeSteps Brief.types?
  split
  · next given =>
      split at given
      · cases given
      · cases given
        refine (told.mentions.cons .blank).iff fun crate => ?_
        unfold openRoots
        split
        · next known => cases crate <;> simp [Crate.name, known]
        · next known => simp [known]
  · next given =>
      split at given
      · next none =>
        have empty : b.typeBlocks = [] := by
          rw [Brief.typeBlocks, List.isEmpty_iff.1 none, List.flatMap_nil]
        exact Mentions.nil.iff fun crate => by simp [empty]
      · cases given

/-! ## Comments -/

theorem isUnbroken_manifestLines : ∀ text ∈ manifestLines b, IsUnbroken text := by
  have entry : IsUnbroken (reqwestEntry b) := by
    unfold reqwestEntry
    dsimp only
    split
    · exact isUnbroken_ofList (by decide)
    · have known : ∀ f ∈ features b, f ∈ ["json", "multipart", "blocking", "gzip"] := by
        unfold features
        simp only [List.forall_mem_append]
        refine ⟨⟨⟨?_, ?_⟩, ?_⟩, ?_⟩ <;> split <;> simp
      have listed : IsUnbroken (", ".intercalate ((features b).map fun f => "\"" ++ f ++ "\"")) := by
        intro c mem
        rw [String.toList_intercalate] at mem
        refine Chars.forall_mem_intercalate (P := (· ∉ lineBreaks)) (List.all_iff_forall_prop.1
          (by decide)) (fun part held => ?_) c mem
        obtain ⟨quoted, inside, rfl⟩ := List.mem_map.1 held
        obtain ⟨f, feature, rfl⟩ := List.mem_map.1 inside
        have quote : IsUnbroken "\"" := isUnbroken_ofList (by decide)
        have plain : IsUnbroken f := by
          have names := known f feature
          simp only [List.mem_cons, List.not_mem_nil, or_false] at names
          rcases names with rfl | rfl | rfl | rfl <;> exact isUnbroken_ofList (by decide)
        exact isUnbroken_append_iff.2 ⟨isUnbroken_append_iff.2 ⟨quote, plain⟩, quote⟩
      exact isUnbroken_append_iff.2 ⟨isUnbroken_append_iff.2
        ⟨isUnbroken_ofList (by decide), listed⟩, isUnbroken_ofList (by decide)⟩
  unfold manifestLines
  simp only [List.forall_mem_append, List.forall_mem_cons]
  refine ⟨⟨⟨⟨isUnbroken_ofList (by decide), entry, List.forall_mem_nil _⟩, ?_⟩, ?_⟩, ?_⟩ <;> split
  all_goals first
    | exact List.forall_mem_singleton.2 (isUnbroken_ofList (by decide))
    | exact List.forall_mem_nil _

/-- The comments at the head are no code as long as the address is one line. -/
theorem reads_headComments (whole : b.comments = true → '\n' ∉ b.url.toList) :
    Reads .rust (headComments b) [] := by
  have opens : Reader.run .rust {} "// ".toList = { place := .remark } := by decide
  have empty : Reader.run .rust {} "//".toList = { place := .remark } := by decide
  have known : ∀ c ∈ rust.breaks, c ∈ lineBreaks := List.forall_mem_nil _
  have retry : Reads .rust (b.retryLines.map (Step.remark "// ")) [] :=
    .remarks opens known Brief.isUnbroken_retryLines
  have dropped : ∀ text ∈ (notes b).map ("Note: " ++ ·), IsUnbroken text := by
    unfold notes
    split
    · exact List.forall_mem_singleton.2
        (isUnbroken_append_iff.2 ⟨isUnbroken_ofList (by decide), isUnbroken_ofList (by decide)⟩)
    · exact List.forall_mem_nil _
  unfold headComments
  cases commented : b.comments with
  | false => exact retry
  | true =>
      have feed : '\n' ∈ lineBreaks := by decide
      have summary : Reads .rust [Step.remark "// " b.summary] [] := .remark opens fun c mem =>
        ⟨fun same => whole commented ((Brief.mem_summary_iff feed).1 (same ▸ mem)),
          List.not_mem_nil⟩
      have ruled : Reads .rust [.line (Code.remark "//")] [] := .comment empty
      have entries : Reads .rust ((manifestLines b).map (Step.remark "// ")) [] :=
        .remarks opens known isUnbroken_manifestLines
      have left : Reads .rust ((notes b).map fun note => Step.remark "// " ("Note: " ++ note)) [] := by
        have reads := Reads.remarks opens known dropped
        rwa [List.map_map] at reads
      exact (((summary.append ruled).append entries).append left).append retry

/-! ## Programs -/

theorem name_mem_dependencies_iff {crate : Crate} : crate.name ∈ dependencies b ↔
    crate = .reqwest ∨ isAsync b = true ∧ crate = .tokio ∨
      b.jsonBody?.isSome = true ∧ crate = .serdeJson ∨ declaresTypes b = true ∧ crate = .serde := by
  have listed {condition : Bool} {name : String} : crate.name ∈ (if condition then [name] else []) ↔
      condition = true ∧ crate.name = name := by
    cases condition <;> simp
  unfold dependencies
  simp only [List.mem_append, List.mem_singleton, listed, or_assoc]
  cases crate <;> simp [Crate.name]

/-- The body refers to `serde_json` for JSON, and otherwise to the client at most. -/
theorem or_mem_bodyCrates_iff {crate : Crate} : crate = .reqwest ∨ crate ∈ bodyCrates b ↔
    crate = .reqwest ∨ b.jsonBody?.isSome = true ∧ crate = .serdeJson := by
  unfold bodyCrates Brief.jsonBody?
  cases b.body? with
  | none => simp
  | some sent => cases sent <;> simp

/-- The steps of a program refer to its dependencies, and to what its types refer to. -/
theorem refers_program (sound : b.IsSound) (whole : b.comments = true → '\n' ∉ b.url.toList) :
    Refers (program b).steps fun crate => crate.name ∈ dependencies b ∨
      crate = .serdeJson ∧ (b.typeBlocks.any TypeBlock.isOpen) = true := by
  have head : Refers (headComments b) fun _ => False := .silent (reads_headComments whole)
  have usage : Refers (Step.when b.comments [line (Code.remark "// Example usage")])
      fun crate => b.comments = true ∧ False :=
    .when _ (.silent (.comment (by decide)))
  obtain ⟨P, main, within⟩ := client_of_main (b := b)
  have parts := ((((((head.append .blank).append (refers_imports (b := b))).append .blank).append
    (refers_typeSteps (b := b))).append ((refers_makeRequest sound).cons .blank)).append
      usage).append ((refers_attribute (b := b)).append main)
  refine parts.iff fun crate => ?_
  rw [or_mem_bodyCrates_iff, name_mem_dependencies_iff]
  simp only [false_or, or_false, and_false]
  constructor
  · rintro (((serde | types) | client | json) | runtime | main)
    · exact .inl (.inr (.inr (.inr serde)))
    · exact .inr types
    · exact .inl (.inl client)
    · exact .inl (.inr (.inr (.inl json)))
    · exact .inl (.inr (.inl runtime))
    · exact .inl (.inl (within crate main))
  · rintro ((client | runtime | json | serde) | types)
    · exact .inl (.inr (.inl client))
    · exact .inr (.inl runtime)
    · exact .inl (.inr (.inr json))
    · exact .inl (.inl (.inl serde))
    · exact .inl (.inl (.inr types))

end Rust

namespace Generated

/--
The crates that a Rust program refers to are those that it lists as
dependencies, and `serde_json` as well where its types hold a value of which the
shape is not known.  In comments the address has to be one line.
-/
theorem ofRequest_crates {command : String} {outcome : Command.Outcome} {settings : Settings}
    (parsed : Command.parse command = .ok outcome)
    (whole : settings.includeComments = true → '\n' ∉ outcome.request.url.toList) :
    ∃ g, ofRequest .rust settings outcome.request = .ok g ∧
      ∀ crate : Rust.Crate, crate.name ∈ (Lexis.rust.lines g.code.toList).flatMap Rust.roots ↔
        crate.name ∈ g.dependencies ∨ crate = .serdeJson ∧
          ((Brief.ofRequest settings outcome.request).typeBlocks.any TypeBlock.isOpen) = true := by
  have sound := Brief.isSound_ofRequest parsed settings
  refine ⟨_, ofRequest_eq_ok rfl, fun crate => ?_⟩
  exact (Rust.refers_program sound whole).layOut
    (Brief.ofRequest settings outcome.request).settings.isBlankUnit_indentUnit crate

/-- A Rust program that waits for its response and sends a JSON body. -/
theorem ofRequest_crates_blocking :
    let command := "curl -d '\x7b\"id\":1\x7d' https://x.test"
    let r : Request :=
      { method := .post
        url := "https://x.test"
        headers := [("Content-Type", "application/json")]
        body? := some (.json (.object [("id", .number (.integer 1))]))
        rawBody? := some "\x7b\"id\":1\x7d"
        authorization? := none
        cookies := []
        files := []
        query := []
        transport := { userAgent? := some "curl/8.5.0" } }
    let settings : Settings := { awaiting := false }
    Command.parse command = .ok ⟨r, []⟩ ∧ (settings.includeComments = true → '\n' ∉ r.url.toList) ∧
      ∃ g, ofRequest .rust settings r = .ok g ∧ g.dependencies = ["reqwest", "serde_json", "serde"] ∧
        ∀ crate : Rust.Crate,
          crate.name ∈ (Lexis.rust.lines g.code.toList).flatMap Rust.roots ↔ crate ≠ .tokio := by
  intro command r settings
  have letters : command.toList = _ := String.toList_ofList
  have words : Shell.arguments command = .ok ["-d", "\x7b\"id\":1\x7d", "https://x.test"] := by
    rw [Shell.arguments, Text.isBlank, Shell.tokenize, letters]
    decide +kernel
  have parsed : Command.parse command = .ok ⟨r, []⟩ := by
    rw [Command.parse, words]
    decide +kernel
  have whole : settings.includeComments = true → '\n' ∉ r.url.toList := fun _ => by decide
  obtain ⟨g, made, crates⟩ := ofRequest_crates parsed whole
  have listed : g.dependencies = ["reqwest", "serde_json", "serde"] := by
    have same := made.symm.trans (ofRequest_eq_ok (t := .rust) rfl)
    rw [Except.ok.inj same]
    rfl
  have closed : ((Brief.ofRequest settings r).typeBlocks.any TypeBlock.isOpen) = false := rfl
  refine ⟨parsed, whole, g, made, listed, fun crate => (crates crate).trans ?_⟩
  rw [listed, closed]
  cases crate <;> decide

/-- The shape of null is not known, and no dependency comes with it. -/
theorem ofRequest_crates_unlisted :
    let command := "curl https://x.test"
    let r : Request :=
      { method := .get
        url := "https://x.test"
        headers := []
        body? := none
        rawBody? := none
        authorization? := none
        cookies := []
        files := []
        query := []
        transport := { userAgent? := some "curl/8.5.0" } }
    let settings : Settings := { sampleResponse? := some (.object [("a", .null)]) }
    Command.parse command = .ok ⟨r, []⟩ ∧
      ∃ g, ofRequest .rust settings r = .ok g ∧ g.dependencies = ["reqwest", "tokio", "serde"] ∧
        "serde_json" ∈ (Lexis.rust.lines g.code.toList).flatMap Rust.roots := by
  intro command r settings
  have parsed : Command.parse command = .ok ⟨r, []⟩ := by decide +kernel
  have sound := Brief.isSound_ofRequest parsed settings
  have refers := Rust.refers_program sound fun _ => by decide
  refine ⟨parsed, _, ofRequest_eq_ok rfl, rfl, ?_⟩
  exact (refers.layOut settings.isBlankUnit_indentUnit .serdeJson).2 (.inr ⟨rfl, rfl⟩)

end Generated

end RequestScribe
