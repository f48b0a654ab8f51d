import RequestScribe.Program.Script
import RequestScribe.Proofs.Code.Uses
import RequestScribe.Proofs.Program.FragmentMask
import RequestScribe.Proofs.Program.Indentation

/-!
# What the parts of a script use

A script holds the parts of its request in constants, which are declared before the call, and it
refers to a module by the module's name with a dot after it.  What is said here of the
declarations and of the call is read from their text.
-/

namespace RequestScribe

open Lexis

namespace Script

open Step Code

def naming : Naming :=
  ⟨Lexeme.after "const", ':'⟩

theorem splits_naming (c : Char) : naming.Splits c :=
  Naming.splits_after "const" ':' c

def modules : List (Use × String) :=
  [(.opened, "axios"), (.opened, "fs"), (.opened, "https")]

/-- What is asked of declarations; the address may name the parameters of the query. -/
def declarable : List (Use × String) :=
  (.named, "params") :: (requestNames.map (Use.declared, ·) ++ modules)

/-- What is asked of a call. -/
def nameable : List (Use × String) :=
  requestNames.map (Use.named, ·) ++ modules

/-- What steps declare of a request, and the modules that they use. -/
abbrev Declares (steps : List Step) (found : List (Use × String)) : Prop :=
  Uses .script naming declarable steps found

/-- What steps refer to of a request, and the modules that they use. -/
abbrev Refers (steps : List Step) (found : List (Use × String)) : Prop :=
  Uses .script naming nameable steps found

theorem hasMask_string (s : String) : (string s).HasMask .script [Glyph.literal] :=
  hasMask_quoted (isLiteral_enclose (.inl rfl) (by decide) s)

theorem hasMask_fileContents (path : String) : (fileContents path).HasMask .script
    (Mask.text "fs.readFileSync(" ++ [Glyph.literal] ++ Mask.text ")") :=
  ((hasMask_text _).append (hasMask_string path)).append (hasMask_text _)

def lookupMask (typed : Bool) (var : String) : Mask :=
  if typed then
    Mask.text "(process.env." ++ [Glyph.word var] ++ Mask.text " ?? " ++ [Glyph.literal] ++
      Mask.text ")"
  else Mask.text "process.env." ++ [Glyph.word var]

theorem joins_fragments (typed : Bool) : (fragments typed).Joins .script (lookupMask typed) where
  string := hasMask_string
  env var named := by
    cases typed with
    | true =>
        exact ((((hasMask_text _).append (hasMask_word named)).append (hasMask_text _)).append
          (hasMask_string _)).append (hasMask_text _)
    | false => exact (hasMask_text _).append (hasMask_word named)
  joined _ _ := rfl

variable {s : Script}

theorem hasMask_value {f : Fragment} (named : ∀ var, f.var? = some var → IsName var) :
    (s.value f).HasMask .script (f.mask (lookupMask s.typed)) :=
  (joins_fragments s.typed).hasMask_code named

/-- A value is a literal or a look-up, which is one of two kinds and may have a lead. -/
theorem forall_mask {P : Mask → Prop} (literal : P [Glyph.literal])
    (plain : ∀ var, P (lookupMask false var)) (typed : ∀ var, P (lookupMask true var))
    (led : ∀ var, P (Glyph.literal :: (Mask.text " + " ++ lookupMask false var)))
    (typedLed : ∀ var, P (Glyph.literal :: (Mask.text " + " ++ lookupMask true var)))
    (f : Fragment) : P (f.mask (lookupMask s.typed)) := by
  rcases f.mask_cases (lookupMask s.typed) with ⟨-, mask⟩ | ⟨-, var, mask | mask⟩
  · rwa [mask]
  · rw [mask]
    cases s.typed with
    | false => exact plain var
    | true => exact typed var
  · rw [mask]
    cases s.typed with
    | false => exact led var
    | true => exact typedLed var

theorem uses_of_values {known found : List (Use × String)} {user password : Fragment}
    (named : ∀ var, user.var? = some var ∨ password.var? = some var → IsName var)
    {line opening between ending : Code} {m₁ m₂ m₃ : Mask} {c d : Char}
    (parts : line.text =
      (opening ++ s.value user ++ between ++ s.value password ++ ending).text)
    (mask₁ : opening.HasMask .script m₁) (mask₂ : between.HasMask .script m₂)
    (mask₃ : ending.HasMask .script m₃) (kept : m₁.used .script naming known = some found)
    (ends : m₁.Ends c) (ends' : ∀ m : Mask, (m ++ m₂).Ends d) (dots : c ≠ '.' ∧ d ≠ '.')
    (first : ∀ f : Fragment,
      (f.mask (lookupMask s.typed) ++ m₂).used .script naming known = some [])
    (second : ∀ f : Fragment,
      (f.mask (lookupMask s.typed) ++ m₃).used .script naming known = some []) :
    Uses .script naming known [.line line] found := by
  have hasUser := hasMask_value (s := s) fun var reads => named var (.inl reads)
  have hasPassword := hasMask_value (s := s) fun var reads => named var (.inr reads)
  have whole := Uses.line_of_two splits_naming dots parts mask₁ hasUser mask₂ hasPassword mask₃
    kept ends (first user) (ends' _) (second password)
  rwa [List.append_nil, List.append_nil] at whole

section

variable {b : Brief}

/-! ## Declarations -/

theorem declares_property (name text : String) : Declares [property name (string text)] [] :=
  .line ((((hasMask_string name).append (hasMask_text _)).append (hasMask_string text)).append
    (hasMask_text _)) rfl

theorem declares_header {name : String} {f : Fragment}
    (named : ∀ var, f.var? = some var → IsName var) : Declares [property name (s.value f)] [] := by
  refine .line ((((hasMask_string name).append (hasMask_text _)).append (hasMask_value named)).append
    (hasMask_text _)) ?_
  refine forall_mask (P := fun m => Mask.used .script naming _ (_ ++ m ++ _) = some [])
    rfl ?_ ?_ ?_ ?_ f
  all_goals
    intro var
    cbv

/-- The address comes with a declaration of the query's parameters, if there are any. -/
theorem declares_address :
    Declares (s.address b)
      (if b.hasQuery then [(.declared, "params"), (.named, "params")] else []) := by
  have parameters : Declares (b.query.map fun pair => property pair.1 (string pair.2)) [] :=
    .map_nil fun pair _ => declares_property pair.1 pair.2
  have plain : Declares [.line ("const url = " ++ string b.url ++ ";")] [] :=
    .line (((hasMask_text _).append (hasMask_string _)).append (hasMask_text _)) rfl
  unfold address
  dsimp only
  split
  · split
    · have opening : Declares [.line "const params = new URLSearchParams(\x7b"]
          [(.declared, "params"), (.named, "params")] := .text rfl
      have closing : Declares [.line "\x7d);"] [] := .text rfl
      have url : Declares [.line ("const url = " ++ string (b.url ++ "?") ++
          " + params.toString();")] [(.named, "params")] :=
        .line (((hasMask_text _).append (hasMask_string _)).append (hasMask_text _)) rfl
      exact ((opening.block parameters closing).cons url).of_same (by simp)
    · have opening : Declares [.line "const params = \x7b"]
          [(.declared, "params"), (.named, "params")] := .text rfl
      have closing : Declares [.line "\x7d;"] [] := .text rfl
      exact plain.cons (opening.block parameters closing)
  · exact plain

def hasHeaders (s : Script) (b : Brief) : Bool :=
  !b.headers.isEmpty || s.encodesCredentials b

/-- Credentials are put into the table of headers. -/
theorem declares_credentials {user password : Fragment}
    (named : ∀ var, user.var? = some var ∨ password.var? = some var → IsName var) :
    Declares [s.credentialsHeader user password] [] := by
  have opening : ("headers[" ++ string "Authorization" ++ "] = " ++ string "Basic " ++
      " + btoa(" : Code).HasMask .script _ :=
    ((((hasMask_text _).append (hasMask_string _)).append (hasMask_text _)).append
      (hasMask_string _)).append (hasMask_text _)
  have between : (" + " ++ string ":" ++ " + " : Code).HasMask .script
      (Mask.text " + " ++ [Glyph.literal] ++ [Glyph.char ' '] ++ [Glyph.char '+'] ++
        [Glyph.char ' ']) :=
    ((hasMask_text _).append (hasMask_string _)).append (hasMask_text _)
  refine uses_of_values (s := s) (c := '(') (d := '+') named ?_ opening between
    (hasMask_text [')', ';']) rfl ⟨_, rfl, rfl⟩ (fun m => ?_) (by decide) ?_ ?_
  · simp only [Code.text_append, String.append_assoc]
  · rw [← List.append_assoc, ← List.append_assoc]
    exact (Mask.ends_mark _ (by decide)).blank
  · refine forall_mask (P := fun m => Mask.used .script naming _ (m ++ _) = some []) rfl ?_ ?_ ?_ ?_
    all_goals
      intro var
      cbv
  · refine forall_mask (P := fun m => Mask.used .script naming _ (m ++ _) = some []) rfl ?_ ?_ ?_ ?_
    all_goals
      intro var
      cbv

/-- With `fetch` credentials follow the table. -/
theorem declares_basicAuth (sound : b.IsSound) :
    Declares (match s.client, b.basicAuth? with
      | .fetch, some (user, password) => [s.credentialsHeader user password]
      | _, _ => []) [] := by
  split
  · next user password _ given =>
    exact declares_credentials fun _ reads => sound.named_basicAuth given reads
  · exact .nil

/-- A table of headers is declared if there are headers or credentials to put into it. -/
theorem declares_headers (sound : b.IsSound) :
    Declares (s.headers b) (if s.hasHeaders b then [(.declared, "headers")] else []) := by
  have closing : Declares [.line "\x7d;"] [] := .text rfl
  have empty : Declares [.line (Code.plain ("const headers" ++
      (if s.typed then ": Record<string, string>" else "") ++ " = \x7b\x7d;"))]
      [(.declared, "headers")] := by
    split <;> exact .line (hasMask_plain_append (hasMask_plain_append (hasMask_text _)
      (hasMask_text _)) (hasMask_text _)) rfl
  have opening : Declares [.line (Code.plain ("const headers" ++
      (if s.typed then ": Record<string, string>" else "") ++ " = \x7b"))]
      [(.declared, "headers")] := by
    split <;> exact .line (hasMask_plain_append (hasMask_plain_append (hasMask_text _)
      (hasMask_text _)) (hasMask_text _)) rfl
  have entries : Declares (b.headers.map fun header => property header.1 (s.value header.2)) [] :=
    .map_nil fun header mem => declares_header fun _ reads => sound.named_header mem reads
  have table : Declares (if b.headers.isEmpty then
        Step.when (s.encodesCredentials b) [line (Code.plain ("const headers" ++
          (if s.typed then ": Record<string, string>" else "") ++ " = \x7b\x7d;"))]
      else
        [block (Code.plain ("const headers" ++
          (if s.typed then ": Record<string, string>" else "") ++ " = \x7b")) "\x7d;"
          (b.headers.map fun header => property header.1 (s.value header.2))])
      (if s.hasHeaders b then [(.declared, "headers")] else []) := by
    unfold hasHeaders
    cases b.headers.isEmpty with
    | true => simpa using empty.when
    | false => simpa using opening.block entries closing
  have both := table.append (declares_basicAuth (s := s) sound)
  rwa [List.append_nil] at both

/-! ## The body -/

theorem declares_appended (name text : String) : Declares [appended name (string text)] [] :=
  .line (((((hasMask_text _).append (hasMask_string name)).append (hasMask_text _)).append
    (hasMask_string text)).append (hasMask_text _)) rfl

theorem declares_upload (f : FileUpload) : Declares [uploadStep f] [(.opened, "fs")] := by
  have contents := hasMask_fileContents f.fileName
  unfold uploadStep
  dsimp only
  split
  · next type _ =>
    have typed : (", \x7b type: " ++ string type ++ " \x7d" : Code).HasMask .script _ :=
      ((hasMask_text _).append (hasMask_string _)).append (hasMask_text _)
    exact .line ((((hasMask_text _).append (hasMask_string _)).append (hasMask_text _)).append
      (((((hasMask_text _).append contents).append (hasMask_text _)).append typed).append
        (hasMask_text _) |>.append (hasMask_string _)) |>.append (hasMask_text _)) rfl
  · have none : Code.empty.HasMask .script [] := .nil
    exact .line ((((hasMask_text _).append (hasMask_string _)).append (hasMask_text _)).append
      (((((hasMask_text _).append contents).append (hasMask_text _)).append none).append
        (hasMask_text _) |>.append (hasMask_string _)) |>.append (hasMask_text _)) rfl

theorem declares_field (field : MultipartField) :
    Declares (multipartStep b field).toList (if b.isUpload field then [(.opened, "fs")] else []) := by
  cases field with
  | text name value => exact declares_appended name value
  | file index =>
      rw [multipartStep, Brief.isUpload]
      cases b.upload? index with
      | none => exact .nil
      | some f => exact declares_upload f

/-- A body is declared if there is one, and `fs` is for the files in it. -/
theorem declares_body (sound : b.IsSound) :
    Declares (s.body b) ((if b.body?.isSome then [(Use.declared, "body")] else []) ++
      if b.sendsFiles then [(Use.opened, "fs")] else []) := by
  have text (text : String) : Declares [line ("const body = " ++ string text ++ ";")]
      [(.declared, "body")] :=
    .line (((hasMask_text _).append (hasMask_string text)).append (hasMask_text _)) rfl
  have uploads : b.isMultipart = false → b.files = [] := sound.files_eq_nil
  have foreign : ∀ y ∈ declarable,
      ¬LiteralStyle.javaScript.IsWord y.2 := by
    have others : ∀ y ∈ declarable,
        y.2 ∉ ["null", "true", "false"] ∧ y.2.toList.all Json.isNumberCharacter = false := by
      decide
    exact fun y mem => LiteralStyle.not_isWord (others y mem).1 (others y mem).2
  have gaps : ∀ d ∈ [';'], Mask.isGap .script (.char d) = true :=
    List.all_eq_true.1 (by decide)
  unfold body Brief.sendsFiles Brief.bodyFile?
  cases given : b.body? with
  | none =>
      have none := uploads (by simp [Brief.isMultipart, given])
      simpa [none] using Uses.nil
  | some sent =>
      cases sent with
      | json v =>
          have none := uploads (by simp [Brief.isMultipart, given])
          have literal : Declares [lines ("const body" ++
              (if s.typed && b.typedBody then ": RequestBody" else "") ++ " = " ++
                Literal.code .javaScript b.unit 0 v ++ ";")] [(.declared, "body")] := by
            split <;> exact Uses.literal (splits_naming '=') (by decide)
              LiteralStyle.javaScript_fitsIn b.settings.isBlankUnit_indentUnit foreign
              (((hasMask_text _).append (hasMask_text _)).append (hasMask_text _)) rfl ⟨_, rfl, rfl⟩
              gaps v
          simpa [none, Body.filePath?] using literal
      | form pairs =>
          have none := uploads (by simp [Brief.isMultipart, given])
          have opening : Declares [line "const body = new URLSearchParams();"]
              [(.declared, "body")] := .text rfl
          have added : Declares (pairs.map fun pair => appended pair.1 (string pair.2)) [] :=
            .map_nil fun pair _ => declares_appended pair.1 pair.2
          simpa [none, Body.filePath?] using opening.cons added
      | multipart fields =>
          have opening : Declares [line "const body = new FormData();"] [(.declared, "body")] :=
            .text rfl
          have added : Declares (fields.filterMap (multipartStep b)) _ :=
            .filterMap fun field _ => declares_field field
          refine (opening.cons added).of_same fun y _ => ?_
          have read := sound.exists_isUpload_iff given
          have some : (!b.files.isEmpty) = true ↔ b.files ≠ [] := by simp
          have file : (Body.multipart fields).filePath? = none := rfl
          simp only [Option.isSome_some, Option.bind_some, file, Option.isSome_none, Bool.or_false,
            some, ← read]
          simp [← and_assoc]
      | raw value | binary value =>
          have none := uploads (by simp [Brief.isMultipart, given])
          simpa [none, Body.filePath?] using text value
      | file path =>
          have read : Declares [line ("const body = " ++ fileContents path ++ ";")]
              [(.declared, "body"), (.opened, "fs")] :=
            .line (((hasMask_text _).append (hasMask_fileContents path)).append (hasMask_text _)) rfl
          simpa [Body.filePath?] using read

def preambleUses (s : Script) (b : Brief) : List (Use × String) :=
  (if b.hasQuery then [(Use.declared, "params"), (Use.named, "params")] else []) ++
    (if s.hasHeaders b then [(Use.declared, "headers")] else []) ++
    ((if b.body?.isSome then [(Use.declared, "body")] else []) ++
      if b.sendsFiles then [(Use.opened, "fs")] else [])

theorem declares_preamble (sound : b.IsSound) : Declares (s.preamble b) (s.preambleUses b) :=
  (declares_address.append (declares_headers sound)).append (declares_body sound)

end

end Script

end RequestScribe
