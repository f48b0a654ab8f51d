import RequestScribe.Program.Python
import RequestScribe.Proofs.Code.Uses
import RequestScribe.Proofs.Program.FragmentMask
import RequestScribe.Proofs.Program.Indentation

/-!
# What the declarations of a Python program use

A Python program assigns the parts of its request to names.  Values are read from the environment
and files by their paths, with modules that have to be imported.
-/

namespace RequestScribe

open Lexis

namespace Python

open Step Code

def naming : Naming :=
  ⟨Lexeme.before ['='], '='⟩

theorem splits_naming (c : Char) : naming.Splits c :=
  Naming.splits_before '=' '=' c

/-- Modules are looked into, and a path is made by a call. -/
def modules : List (Use × String) :=
  [(.opened, "os"), (.opened, "asyncio"), (.called, "Path")]

/-- What is asked of declarations; the address may name the parameters of the query. -/
def declarable : List (Use × String) :=
  (.named, "params") :: (requestNames.map (Use.declared, ·) ++ modules)

/-- What steps declare of a request, and the modules that they use. -/
abbrev Declares (steps : List Step) (found : List (Use × String)) : Prop :=
  Uses .python naming declarable steps found

theorem hasMask_string (s : String) : (string s).HasMask .python [Glyph.literal] :=
  hasMask_quoted (isLiteral_enclose (.inr rfl) (by decide) s)

def lookupMask : Mask :=
  Mask.text "os.environ[" ++ [Glyph.literal] ++ Mask.text "]"

theorem joins_fragments : fragments.Joins .python fun _ => lookupMask where
  string := hasMask_string
  env _ named := ((hasMask_text _).append
    (hasMask_quoted (isLiteral_name (by decide) named))).append (hasMask_text _)
  joined _ _ := rfl

def valueUses (f : Fragment) : List (Use × String) :=
  if f.var?.isSome then [(.opened, "os")] else []

/-- A value is a literal or a look-up, which may have a lead. -/
theorem forall_value {P : Mask → List (Use × String) → Prop} (literal : P [Glyph.literal] [])
    (look : P lookupMask [(.opened, "os")])
    (led : P (Glyph.literal :: (Mask.text " + " ++ lookupMask)) [(.opened, "os")])
    (f : Fragment) : P (f.mask fun _ => lookupMask) (valueUses f) := by
  unfold valueUses
  rcases f.mask_cases_const lookupMask with ⟨reads, mask⟩ | ⟨reads, mask⟩ | ⟨reads, mask⟩
  · rwa [mask, reads, if_neg Bool.false_ne_true]
  · rwa [mask, if_pos reads]
  · rwa [mask, if_pos reads]

variable {b : Brief}

theorem declares_entry (name text : String) : Declares [entry name (string text)] [] :=
  .line ((((hasMask_string name).append (hasMask_text _)).append (hasMask_string text)).append
    (hasMask_text _)) rfl

theorem declares_header {name : String} {f : Fragment}
    (named : ∀ var, f.var? = some var → IsName var) :
    Declares [entry name (value f)] (valueUses f) := by
  have mask : (value f).HasMask .python (f.mask fun _ => lookupMask) :=
    joins_fragments.hasMask_code named
  refine .line ((((hasMask_string name).append (hasMask_text _)).append mask).append
    (hasMask_text _)) ?_
  exact forall_value (P := fun m found => Mask.used .python naming _ (_ ++ m ++ _) = some found)
    rfl rfl rfl f

theorem declares_credentials {user password : Fragment}
    (named : ∀ var, user.var? = some var ∨ password.var? = some var → IsName var) :
    Declares [line ("auth = (" ++ value user ++ ", " ++ value password ++ ")")]
      ((.declared, "auth") :: (valueUses user ++ valueUses password)) := by
  have hasUser : (value user).HasMask .python (user.mask fun _ => lookupMask) :=
    joins_fragments.hasMask_code fun var reads => named var (.inl reads)
  have hasPassword : (value password).HasMask .python (password.mask fun _ => lookupMask) :=
    joins_fragments.hasMask_code fun var reads => named var (.inr reads)
  have opening : ("auth = (" : Code).HasMask .python _ := hasMask_text _
  refine .line ((((opening.append hasUser).append (hasMask_text _)).append hasPassword).append
    (hasMask_text _)) ?_
  refine forall_value (P := fun m found => Mask.used .python naming _
    (_ ++ m ++ _ ++ password.mask (fun _ => lookupMask) ++ _) =
      some ((.declared, "auth") :: (found ++ valueUses password))) ?_ ?_ ?_ user
  all_goals
    refine forall_value (P := fun m found => Mask.used .python naming _ (_ ++ m ++ _) =
      some ((.declared, "auth") :: (_ ++ found))) ?_ ?_ ?_ password
    all_goals rfl

/-! ## The body -/

/-- Several values of one form field are a list. -/
theorem declares_formEntry (name : String) (values : List String) :
    Declares [entry name (formValue values)] [] := by
  unfold formValue
  split
  · exact declares_entry name _
  · have parts : List.Forall₂ (IsPart .python naming declarable (Mask.text "],"))
        (values.map string) (values.map fun _ => []) := by
      rw [List.forall₂_map_left_iff, List.forall₂_map_right_iff]
      exact List.forall₂_same.2 fun value _ => .of_used (hasMask_string value) rfl rfl
    have listed : Declares [line (string name ++ ": " ++ "[" ++ Code.intercalate ", "
        (values.map string) ++ "],")] ([] ++ (values.map fun _ => []).flatten) :=
      .list splits_naming (by decide)
        (((hasMask_string name).append (hasMask_text _)).append (hasMask_text _)) rfl ⟨_, rfl, rfl⟩
        rfl parts
    have same : (string name ++ ": " ++ ("[" ++ Code.intercalate ", " (values.map string) ++ "]") ++
        "," : Code).text = (string name ++ ": " ++ "[" ++ Code.intercalate ", "
          (values.map string) ++ "]," : Code).text := by
      have tail : "]," = "]" ++ "," := rfl
      simp only [Code.text_append, Code.text_plain, tail, String.append_assoc]
    exact (Uses.of_text same listed).of_same (by simp)

theorem declares_upload (f : FileUpload) : Declares [uploadEntry f] [(.called, "Path")] := by
  unfold uploadEntry
  dsimp only
  split
  · next type _ =>
    have typed : (", " ++ string type : Code).HasMask .python _ :=
      (hasMask_text _).append (hasMask_string type)
    exact .line ((((hasMask_string _).append (hasMask_text _)).append ((((((hasMask_text _).append
      (hasMask_string _)).append (hasMask_text _)).append (hasMask_string _)).append
        (hasMask_text _)).append typed |>.append (hasMask_text _))).append (hasMask_text _)) rfl
  · have none : Code.empty.HasMask .python [] := .nil
    exact .line ((((hasMask_string _).append (hasMask_text _)).append ((((((hasMask_text _).append
      (hasMask_string _)).append (hasMask_text _)).append (hasMask_string _)).append
        (hasMask_text _)).append none |>.append (hasMask_text _))).append (hasMask_text _)) rfl

theorem declares_json (v : Json.Value) :
    Declares [lines ("payload = " ++ Literal.code .python b.unit 0 v)]
      [(.declared, "payload")] := by
  have foreign : ∀ y ∈ declarable, ¬LiteralStyle.python.IsWord y.2 := by
    have others : ∀ y ∈ declarable, y.2 ∉ ["None", "True", "False"] ∧
        y.2.toList.all Json.isNumberCharacter = false := by decide
    exact fun y mem => LiteralStyle.not_isWord (others y mem).1 (others y mem).2
  have literal : Declares [lines ("payload = " ++ Literal.code .python b.unit 0 v ++
      Code.plain (String.ofList []))] [(.declared, "payload")] :=
    .literal (splits_naming '=') (by decide) LiteralStyle.python_fitsIn
      b.settings.isBlankUnit_indentUnit foreign (hasMask_text _) rfl ⟨_, rfl, rfl⟩
      (List.forall_mem_nil _) v
  refine literal.congr fun w => ?_
  simp [Writer.runAll, Writer.run, Code.text_append]

/-- A payload is declared if there is a body, and files are declared with a form of parts. -/
theorem declares_body (sound : b.IsSound) :
    Declares (body b) ((if b.body?.isSome then [(Use.declared, "payload")] else []) ++
      (if b.isMultipart then [(Use.declared, "files")] else []) ++
        if b.sendsFiles then [(Use.called, "Path")] else []) := by
  have closing : Declares [.line "\x7d"] [] := .text rfl
  have opening : Declares [.line "payload = \x7b"] [(.declared, "payload")] := .text rfl
  have text (text : String) : Declares [line ("payload = " ++ string text)]
      [(.declared, "payload")] := .line ((hasMask_text _).append (hasMask_string text)) rfl
  have uploads : b.isMultipart = false → b.files = [] := sound.files_eq_nil
  unfold body Brief.sendsFiles Brief.bodyFile? Brief.isMultipart at *
  cases given : b.body? with
  | none =>
      have none := uploads (by simp [given])
      simpa [none] using Uses.nil
  | some sent =>
      cases sent with
      | json v =>
          have none := uploads (by simp [given])
          simpa [none, Body.filePath?] using declares_json v
      | form pairs =>
          have none := uploads (by simp [given])
          have entries : Declares ((Ordered.group (· == ·) pairs).map fun pair =>
              entry pair.1 (formValue pair.2)) [] :=
            .map_nil fun pair _ => declares_formEntry pair.1 pair.2
          simpa [none, Body.filePath?] using opening.block entries closing
      | multipart fields =>
          have texts : Declares (fields.filterMap textEntry) (fields.flatMap fun _ => []) := by
            refine .filterMap fun field _ => ?_
            cases field with
            | text name value => exact declares_entry name value
            | file index => exact .nil
          have filesOpening : Declares [.line "files = \x7b"] [(.declared, "files")] := .text rfl
          have files : Declares (b.files.map uploadEntry) _ :=
            .map_const fun f _ => declares_upload f
          have both := (opening.block texts closing).cons (filesOpening.block files closing)
          refine both.of_same fun y _ => ?_
          cases b.files <;> simp [Body.filePath?]
      | raw value | binary value =>
          have none := uploads (by simp [given])
          simpa [none, Body.filePath?] using text value
      | file path =>
          have read : Declares [line ("payload = Path(" ++ string path ++ ").read_bytes()")]
              [(.declared, "payload"), (.called, "Path")] :=
            .line (((hasMask_text _).append (hasMask_string path)).append (hasMask_text _)) rfl
          simpa [Body.filePath?] using read

def preambleUses (b : Brief) : List (Use × String) :=
  (if b.hasQuery then [(Use.declared, "params")] else []) ++
    (if b.headers.isEmpty then [] else [(Use.declared, "headers")]) ++
    b.headers.flatMap (fun header => valueUses header.2) ++
    (match b.basicAuth? with
      | some (user, password) => (Use.declared, "auth") :: (valueUses user ++ valueUses password)
      | none => []) ++
    ((if b.body?.isSome then [(Use.declared, "payload")] else []) ++
      (if b.isMultipart then [(Use.declared, "files")] else []) ++
        if b.sendsFiles then [(Use.called, "Path")] else [])

theorem declares_basicAuth (sound : b.IsSound) : Declares (match b.basicAuth? with
    | some (user, password) =>
        [line ("auth = (" ++ value user ++ ", " ++ value password ++ ")")]
    | none => [])
    (match b.basicAuth? with
      | some (user, password) => (.declared, "auth") :: (valueUses user ++ valueUses password)
      | none => []) := by
  cases given : b.basicAuth? with
  | none => exact .nil
  | some pair => exact declares_credentials fun _ reads => sound.named_basicAuth given reads

theorem declares_preamble (sound : b.IsSound) : Declares (preamble b) (preambleUses b) := by
  have closing : Declares [.line "\x7d"] [] := .text rfl
  have url : Declares [line ("url = " ++ string b.url)] [] :=
    .line ((hasMask_text _).append (hasMask_string b.url)) rfl
  have query : Declares (Step.when b.hasQuery [block "params = \x7b" "\x7d"
      (b.query.map fun pair => entry pair.1 (string pair.2))])
      (if b.hasQuery then [(.declared, "params")] else []) := by
    have opening : Declares [.line "params = \x7b"] [(.declared, "params")] := .text rfl
    have entries : Declares (b.query.map fun pair => entry pair.1 (string pair.2)) [] :=
      .map_nil fun pair _ => declares_entry pair.1 pair.2
    exact (opening.block entries closing).when
  have headers : Declares (Step.when (!b.headers.isEmpty) [block "headers = \x7b" "\x7d"
      (b.headers.map fun header => entry header.1 (value header.2))])
      ((if b.headers.isEmpty then [] else [(Use.declared, "headers")]) ++
        b.headers.flatMap fun header => valueUses header.2) := by
    have opening : Declares [.line "headers = \x7b"] [(.declared, "headers")] := .text rfl
    have entries : Declares (b.headers.map fun header => entry header.1 (value header.2))
        (b.headers.flatMap fun header => valueUses header.2) :=
      .map fun header mem => declares_header fun _ reads => sound.named_header mem reads
    refine (opening.block entries closing).when.of_same fun y _ => ?_
    cases b.headers <;> simp
  exact ((((url.append query).append headers).append (declares_basicAuth sound)).append
    (declares_body sound)).of_same (by simp [preambleUses])

end Python

end RequestScribe
