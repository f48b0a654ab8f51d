import RequestScribe.Program.Go
import RequestScribe.Proofs.Program.FragmentMask

/-!
# Packages that a Go request refers to

A Go program refers to a package by the last part of its path with a dot after
it.  What is said here of the parts that make up a request, its address, body
and headers, is read from their text.
-/

namespace RequestScribe

open Lexis

namespace Go

open Step Code

/-- The name by which a program refers to a package. -/
def Package.qualifier : Package → String
  | .bytes => "bytes"
  | .cryptoTls => "tls"
  | .encodingJson => "json"
  | .fmt => "fmt"
  | .io => "io"
  | .mimeMultipart => "multipart"
  | .netHttp => "http"
  | .netUrl => "url"
  | .os => "os"
  | .strings => "strings"
  | .time => "time"

abbrev Refers (steps : List Step) (P : Package → Prop) : Prop :=
  Mentions .go (Lexeme.before ['.']) Package.qualifier steps P

abbrev answers (m : Mask) : Option (List String) :=
  m.answers .go (Lexeme.before ['.'])

theorem hasMask_string (s : String) : (string s).HasMask .go [Glyph.literal] :=
  hasMask_quoted (isLiteral_enclose (.inr rfl) (by decide) s)

def lookupMask : Mask :=
  Mask.text "os.Getenv(" ++ [Glyph.literal] ++ Mask.text ")"

theorem joins_fragments : fragments.Joins .go fun _ => lookupMask where
  string := hasMask_string
  env _ named := (hasMask_text _).append (hasMask_quoted (isLiteral_name (by decide) named))
    |>.append (hasMask_text _)
  joined _ _ := rfl

theorem hasMask_value {f : Fragment} (named : ∀ var, f.var? = some var → IsName var) :
    (value f).HasMask .go (f.mask fun _ => lookupMask) :=
  joins_fragments.hasMask_code named

def valueNames (reads : Bool) (rest : List String) : List String :=
  if reads then "os" :: rest else rest

section

variable {b : Brief}

/-! ## Calls -/

theorem refers_checkError (what? : Option String) :
    Refers [checkError what?] fun p => what?.isSome = true ∧ p = .fmt := by
  have opening : Refers [.line "if err != nil \x7b"] fun p => p.qualifier ∈ [] := .text rfl
  have closing : Refers [.line "\x7d"] fun p => p.qualifier ∈ [] := .text rfl
  cases what? with
  | none =>
      have inner : Refers [.line "return nil, err"] fun p => p.qualifier ∈ [] := .text rfl
      exact (opening.block inner closing).iff fun p => by simp
  | some what =>
      have inner : Refers [.line ("return nil, fmt.Errorf(" ++ string (what ++ ": %w") ++ ", err)")]
          fun p => p.qualifier ∈ ["fmt"] :=
        .line (((hasMask_text _).append (hasMask_string _)).append (hasMask_text _)) rfl
      exact (opening.block inner closing).iff fun p => by
        cases p <;> simp [Package.qualifier]

/-- A call whose value goes to a variable, by its two masks. -/
theorem refers_assign {target : String} {call : Code} {t m : Mask} {names : List String}
    (left : (Code.plain target).HasMask .go t) (right : call.HasMask .go m)
    (one : answers (t ++ Mask.text ", err := " ++ m) = some names)
    (two : answers (t ++ Mask.text ", _ := " ++ m) = some names)
    (what? : Option String) :
    Refers (assign b target call what?) fun p =>
      p.qualifier ∈ names ∨ b.guarded = true ∧ what?.isSome = true ∧ p = .fmt := by
  unfold assign
  split
  · next guarded =>
      have line : Refers [.line (target ++ ", err := " ++ call)] fun p => p.qualifier ∈ names :=
        .line ((left.append (hasMask_text _)).append right) one
      exact (line.cons (refers_checkError what?)).iff fun p => by simp [guarded]
  · next guarded =>
      have line : Refers [.line (target ++ ", _ := " ++ call)] fun p => p.qualifier ∈ names :=
        .line ((left.append (hasMask_text _)).append right) two
      exact line.iff fun p => by simp [guarded]

/-- A call whose failure has no text of its own. -/
theorem refers_take {target : String} {call : Code} {t m : Mask} {names : List String}
    (left : (Code.plain target).HasMask .go t) (right : call.HasMask .go m)
    (one : answers (t ++ Mask.text ", err := " ++ m) = some names)
    (two : answers (t ++ Mask.text ", _ := " ++ m) = some names) :
    Refers (assign b target call none) fun p => p.qualifier ∈ names :=
  (refers_assign left right one two none).iff fun p => by simp

theorem refers_check {call : Code} {m : Mask} {names : List String} (mask : call.HasMask .go m)
    (one : answers (Mask.text "if err := " ++ m ++ Mask.text "; err != nil \x7b") = some names)
    (two : answers m = some names) : Refers [check b call] fun p => p.qualifier ∈ names := by
  unfold check
  split
  · have opening : Refers [.line ("if err := " ++ call ++ "; err != nil \x7b")]
        fun p => p.qualifier ∈ names :=
      .line (((hasMask_text _).append mask).append (hasMask_text _)) one
    have inner : Refers [.line "return nil, err"] fun p => p.qualifier ∈ [] := .text rfl
    have closing : Refers [.line "\x7d"] fun p => p.qualifier ∈ [] := .text rfl
    exact (opening.block inner closing).iff fun p => by simp
  · exact .line mask two

/-! ## The address -/

theorem refers_address : Refers (address b) fun p => b.hasQuery = true ∧ p = .netUrl := by
  unfold address
  split
  · next query =>
      have opening : Refers [.line "params := url.Values\x7b\x7d"] fun p =>
          p.qualifier ∈ ["url"] := .text rfl
      have added : Refers (b.query.map fun pair =>
          .line ("params.Add(" ++ string pair.1 ++ ", " ++ string pair.2 ++ ")")) fun p =>
          ∃ pair ∈ b.query, p.qualifier ∈ ["params"] := .map fun pair _ =>
        .line (((((hasMask_text _).append (hasMask_string pair.1)).append (hasMask_text _)).append
          (hasMask_string pair.2)).append (hasMask_text _)) rfl
      have closing : Refers [.line ("reqURL := " ++ string (b.url ++ "?") ++ " + params.Encode()")]
          fun p => p.qualifier ∈ ["params"] :=
        .line (((hasMask_text _).append (hasMask_string _)).append (hasMask_text _)) rfl
      exact ((opening.cons added).append closing).iff fun p => by
        cases p <;> simp [Package.qualifier, query]
  · next query =>
      have line : Refers [.line ("reqURL := " ++ string b.url)] fun p => p.qualifier ∈ [] :=
        .line ((hasMask_text _).append (hasMask_string _)) rfl
      exact line.iff fun p => by simp [query]

/-! ## Headers -/

theorem refers_header {name : String} {f : Fragment}
    (named : ∀ var, f.var? = some var → IsName var) :
    Refers [.line ("req.Header.Set(" ++ string name ++ ", " ++ value f ++ ")")] fun p =>
      f.var?.isSome = true ∧ p = .os := by
  have line : Refers [.line ("req.Header.Set(" ++ string name ++ ", " ++ value f ++ ")")] fun p =>
      p.qualifier ∈ "req" :: "Header" :: valueNames f.var?.isSome [] := by
    refine .line (((((hasMask_text _).append (hasMask_string name)).append
      (hasMask_text _)).append (hasMask_value named)).append (hasMask_text _)) ?_
    rcases f.mask_cases_const lookupMask with ⟨reads, mask⟩ | ⟨reads, mask⟩ | ⟨reads, mask⟩ <;>
      (rw [mask, reads]; rfl)
  exact line.iff fun p => by
    unfold valueNames
    cases f <;> cases p <;> simp [Package.qualifier, Fragment.var?]

theorem refers_basicAuth {user password : Fragment}
    (named : ∀ var, user.var? = some var ∨ password.var? = some var → IsName var) :
    Refers [.line ("req.SetBasicAuth(" ++ value user ++ ", " ++ value password ++ ")")] fun p =>
      (user.var?.isSome = true ∨ password.var?.isSome = true) ∧ p = .os := by
  have hasUser := hasMask_value fun var reads => named var (.inl reads)
  have hasPassword := hasMask_value fun var reads => named var (.inr reads)
  have line : Refers [.line ("req.SetBasicAuth(" ++ value user ++ ", " ++ value password ++ ")")]
      fun p => p.qualifier ∈ "req" ::
        valueNames user.var?.isSome (valueNames password.var?.isSome []) := by
    refine .line (((((hasMask_text _).append hasUser).append (hasMask_text _)).append
      hasPassword).append (hasMask_text _)) ?_
    rcases user.mask_cases_const lookupMask with ⟨reads, mask⟩ | ⟨reads, mask⟩ | ⟨reads, mask⟩ <;>
      rcases password.mask_cases_const lookupMask with ⟨reads', mask'⟩ | ⟨reads', mask'⟩ |
        ⟨reads', mask'⟩ <;> (rw [mask, mask', reads, reads']; rfl)
  exact line.iff fun p => by
    unfold valueNames
    cases user <;> cases password <;> cases p <;> simp [Package.qualifier, Fragment.var?]

theorem refers_headers (sound : b.IsSound) :
    Refers (headers b) fun p => b.envNames ≠ [] ∧ p = .os := by
  have sent : Refers (b.headers.map fun header =>
      .line ("req.Header.Set(" ++ string header.1 ++ ", " ++ value header.2 ++ ")")) fun p =>
      ∃ header ∈ b.headers, header.2.var?.isSome = true ∧ p = .os := .map fun header mem =>
    refers_header fun var reads => sound.named_header mem reads
  have boundary : Refers [.line ("req.Header.Set(" ++ string "Content-Type" ++
      ", writer.FormDataContentType())")] fun p => p.qualifier ∈ ["req", "Header", "writer"] :=
    .line (((hasMask_text _).append (hasMask_string _)).append (hasMask_text _)) rfl
  have chosen := boundary.when b.isMultipart
  unfold headers
  cases given : b.basicAuth? with
  | none =>
      refine ((sent.append chosen).append .nil).iff fun p => ?_
      rw [sound.envNames_ne_nil_iff, given]
      cases p <;> simp [Package.qualifier]
  | some pair =>
      obtain ⟨user, password⟩ := pair
      have line := refers_basicAuth fun var reads => sound.named_basicAuth given reads
      refine ((sent.append chosen).append line).iff fun p => ?_
      rw [sound.envNames_ne_nil_iff, given]
      cases p <;> simp [Package.qualifier]

/-! ## The body -/

theorem refers_jsonPayload (v : Json.Value) :
    Refers [.lines (jsonPayload b v)] fun _ => False := by
  have literal : ∃ written, Lexis.go.IsLiteral written.toList ∧
      jsonPayload b v = "payload := []byte(" ++ Code.quoted written ++ ")" := by
    unfold jsonPayload
    dsimp only
    split
    · exact ⟨_, isLiteral_enclose (.inr rfl) (by decide) (v.pretty b.unit), rfl⟩
    · next absent =>
        refine ⟨_, ?_, rfl⟩
        have text : ("\x60" ++ v.pretty b.unit ++ "\x60").toList =
            '\x60' :: ((v.pretty b.unit).toList ++ ['\x60']) := by simp
        rw [text]
        refine isLiteral_raw (by decide) (by decide) (by decide) fun mem => absent ?_
        simpa [Text.hasChar] using mem
  obtain ⟨written, read, same⟩ := literal
  have text : Refers [.lines ("payload := []byte(" ++ Code.quoted written ++ ")")]
      fun p => p.qualifier ∈ [] :=
    .lines (((hasMask_text _).append (hasMask_quoted read)).append (hasMask_text _))
      rfl
  rw [same]
  exact text.iff fun p => by simp

/-- The variables of an upload have names, be it with a number or without one. -/
theorem isName_numbered {lead : String} (h : IsName lead) (index : Nat) :
    IsName (lead ++ if b.files.length > 1 then toString (index + 1) else "") := by
  split
  · exact h.append (Fresh.isName_toString (index + 1)).letters
  · exact h.append fun c mem => absurd mem List.not_mem_nil

/-- A variable for a part is no package. -/
theorem qualifier_ne_part (p : Package) (number : String) : p.qualifier ≠ "part" ++ number := by
  intro same
  have first : p.qualifier.toList.head? = some 'p' := by
    rw [same, String.toList_append, String.toList_ofList]
    rfl
  cases p <;> exact absurd first (by decide)

/-- An upload is read from its file. -/
theorem refers_uploadSteps (index : Nat) (f : FileUpload) :
    Refers (uploadSteps b index f) fun p => p = .os := by
  have data : IsName ("file" ++ if b.files.length > 1 then toString (index + 1) else "") :=
    isName_numbered (isName_of_all (by decide) (by decide)) index
  have part : IsName ("part" ++ if b.files.length > 1 then toString (index + 1) else "") :=
    isName_numbered (isName_of_all (by decide) (by decide)) index
  unfold uploadSteps
  dsimp only
  generalize (if b.files.length > 1 then toString (index + 1) else "") = number at data part ⊢
  have read : Refers (assign b ("file" ++ number) ("os.ReadFile(" ++ string f.fileName ++ ")") none)
      fun p => p.qualifier ∈ ["os"] := by
    refine refers_take (hasMask_word data)
      (((hasMask_text _).append (hasMask_string _)).append (hasMask_text _)) ?_ ?_
    all_goals rfl
  have made : Refers (assign b ("part" ++ number) ("writer.CreateFormFile(" ++ string f.fieldName ++
      ", " ++ string f.fileName ++ ")") none)
      fun p => p.qualifier ∈ ["writer"] := by
    refine refers_take (hasMask_word part)
      (((((hasMask_text _).append (hasMask_string _)).append (hasMask_text _)).append
        (hasMask_string _)).append (hasMask_text _)) ?_ ?_
    all_goals rfl
  have written : Refers [if b.guarded then
      check b (Code.plain ("writeAll(" ++ ("part" ++ number) ++ ", " ++ ("file" ++ number) ++ ")"))
      else line (Code.plain ("part" ++ number ++ ".Write(" ++ ("file" ++ number) ++ ")"))]
      fun _ => False := by
    split
    · have call : Refers [check b (Code.plain ("writeAll(" ++ ("part" ++ number) ++ ", " ++
          ("file" ++ number) ++ ")"))] fun p => p.qualifier ∈ [] := by
        refine refers_check (hasMask_plain_append (hasMask_plain_append (hasMask_plain_append
          (hasMask_plain_append (hasMask_text _) (hasMask_word part)) (hasMask_text _))
            (hasMask_word data)) (hasMask_text _)) ?_ ?_
        all_goals rfl
      exact call.iff fun p => by simp
    · have line : Refers [.line (Code.plain ("part" ++ number ++ ".Write(" ++ ("file" ++ number) ++
          ")"))] fun p => p.qualifier ∈ ["part" ++ number] := by
        refine .line (hasMask_plain_append (hasMask_plain_append (hasMask_plain_append
          (hasMask_word part) (hasMask_text _)) (hasMask_word data)) (hasMask_text _)) ?_
        rfl
      exact line.iff fun p =>
        ⟨fun mem => qualifier_ne_part p _ (List.mem_singleton.1 mem), False.elim⟩
  exact ((read.append made).append written).iff fun p => by
    cases p <;> simp [Package.qualifier]

theorem refers_fieldSteps (field : MultipartField) :
    Refers (fieldSteps b field) fun p => p = .os ∧ b.isUpload field = true := by
  cases field with
  | text name value =>
      have call : Refers [check b ("writer.WriteField(" ++ string name ++ ", " ++ string value ++
          ")")] fun p => p.qualifier ∈ ["writer"] :=
        refers_check (((((hasMask_text _).append (hasMask_string _)).append (hasMask_text _)).append
          (hasMask_string _)).append (hasMask_text _)) rfl rfl
      exact call.iff fun p => by cases p <;> simp [Package.qualifier, Brief.isUpload]
  | file index =>
      rw [fieldSteps, Brief.isUpload]
      cases b.upload? index with
      | none => exact Mentions.nil.iff fun p => by simp
      | some f => exact (refers_uploadSteps index f).iff fun p => by simp

def bodyPackages (b : Brief) : List Package :=
  match b.body? with
  | some (.form _) => [.netUrl]
  | some (.multipart _) => [.bytes, .mimeMultipart]
  | some (.file _) => [.os]
  | _ => []

theorem refers_body (sound : b.IsSound) :
    Refers (body b) fun p => p ∈ bodyPackages b ∨ p = .os ∧ b.files ≠ [] := by
  have uploads : b.isMultipart = false → b.files = [] := sound.files_eq_nil
  have payload (text : String) : Refers [.line ("payload := " ++ string text)] fun _ => False := by
    have line : Refers [.line ("payload := " ++ string text)] fun p => p.qualifier ∈ [] :=
      .line ((hasMask_text _).append (hasMask_string text)) rfl
    exact line.iff fun p => by simp
  unfold body bodyPackages
  cases given : b.body? with
  | none => exact Mentions.nil.iff fun p => by simp [uploads (by simp [Brief.isMultipart, given])]
  | some sent =>
      cases sent with
      | json v =>
          exact (refers_jsonPayload v).iff fun p => by
            simp [uploads (by simp [Brief.isMultipart, given])]
      | raw text | binary text =>
          exact (payload text).iff fun p => by
            simp [uploads (by simp [Brief.isMultipart, given])]
      | form pairs =>
          have opening : Refers [.line "form := url.Values\x7b\x7d"] fun p =>
              p.qualifier ∈ ["url"] := .text rfl
          have added : Refers (pairs.map fun pair =>
              .line ("form.Add(" ++ string pair.1 ++ ", " ++ string pair.2 ++ ")")) fun p =>
              ∃ pair ∈ pairs, p.qualifier ∈ ["form"] := .map fun pair _ =>
            .line (((((hasMask_text _).append (hasMask_string pair.1)).append
              (hasMask_text _)).append (hasMask_string pair.2)).append (hasMask_text _))
                rfl
          exact (opening.cons added).iff fun p => by
            cases p <;> simp [Package.qualifier, uploads (by simp [Brief.isMultipart, given])]
      | multipart fields =>
          have buffer : Refers [.line "var buf bytes.Buffer"] fun p => p.qualifier ∈ ["bytes"] :=
            .text rfl
          have writer : Refers [.line "writer := multipart.NewWriter(&buf)"] fun p =>
              p.qualifier ∈ ["multipart"] := .text rfl
          have closing : Refers [check b "writer.Close()"] fun p => p.qualifier ∈ ["writer"] :=
            refers_check (hasMask_text _) rfl rfl
          have inner := Mentions.flatMap fun field (_ : field ∈ fields) =>
            refers_fieldSteps (b := b) field
          refine (((buffer.cons writer).append inner).append closing).iff fun p => ?_
          have os : (∃ field ∈ fields, p = .os ∧ b.isUpload field = true) ↔
              p = .os ∧ b.files ≠ [] := by
            rw [← sound.exists_isUpload_iff given]
            grind
          rw [os]
          cases p <;> simp [Package.qualifier]
      | file path =>
          have call : Refers (assign b "payload" ("os.ReadFile(" ++ string path ++ ")") none)
              fun p => p.qualifier ∈ ["os"] :=
            refers_take (hasMask_text _) (((hasMask_text _).append (hasMask_string path)).append
              (hasMask_text _)) rfl rfl
          exact call.iff fun p => by
            cases p <;> simp [Package.qualifier, uploads (by simp [Brief.isMultipart, given])]

/-! ## The request -/

def readerPackages (b : Brief) : List Package :=
  match b.body? with
  | some (.json _) | some (.file _) => [.bytes]
  | some (.form _) | some (.raw _) | some (.binary _) => [.strings]
  | _ => []

theorem refers_request_of {cs : List Char} {names : List String}
    (same : reader b = String.ofList cs)
    (one : answers (Mask.text "req" ++ Mask.text ", err := " ++ (Mask.text "http.NewRequest(" ++
      [Glyph.literal] ++ (Mask.text ", reqURL, " ++ cs.map Glyph.char ++ Mask.text ")"))) =
        some names)
    (two : answers (Mask.text "req" ++ Mask.text ", _ := " ++ (Mask.text "http.NewRequest(" ++
      [Glyph.literal] ++ (Mask.text ", reqURL, " ++ cs.map Glyph.char ++ Mask.text ")"))) =
        some names) :
    Refers (assign b "req"
      ("http.NewRequest(" ++ string b.method.verb ++ (", reqURL, " ++ reader b ++ ")")) none)
      fun p => p.qualifier ∈ names := by
  rw [same]
  exact refers_take (hasMask_text _) (((hasMask_text _).append (hasMask_string _)).append
    (((hasMask_text _).append (hasMask_text cs)).append (hasMask_text _))) one two

theorem refers_request :
    Refers (assign b "req"
      ("http.NewRequest(" ++ string b.method.verb ++ (", reqURL, " ++ reader b ++ ")")) none)
      fun p => p = .netHttp ∨ p ∈ readerPackages b := by
  have bytes (same : reader b = "bytes.NewReader(payload)") :=
    refers_request_of same (show _ = some ["http", "bytes"] from rfl) rfl
  have strings (same : reader b = "strings.NewReader(payload)") :=
    refers_request_of same (show _ = some ["http", "strings"] from rfl)
      rfl
  unfold readerPackages
  cases given : b.body? with
  | none =>
      have same : reader b = "nil" := by rw [reader, given]
      have line : Refers _ fun p => p.qualifier ∈ ["http"] :=
        refers_request_of same rfl rfl
      exact line.iff fun p => by cases p <;> simp [Package.qualifier]
  | some sent =>
      cases sent with
      | json | file =>
          exact (bytes (by rw [reader, given])).iff fun p => by
            cases p <;> simp [Package.qualifier]
      | raw | binary =>
          exact (strings (by rw [reader, given])).iff fun p => by
            cases p <;> simp [Package.qualifier]
      | form =>
          have same : reader b = "strings.NewReader(form.Encode())" := by rw [reader, given]
          have line : Refers _ fun p => p.qualifier ∈ ["http", "strings", "form"] :=
            refers_request_of same rfl rfl
          exact line.iff fun p => by cases p <;> simp [Package.qualifier]
      | multipart =>
          have same : reader b = "&buf" := by rw [reader, given]
          have line : Refers _ fun p => p.qualifier ∈ ["http"] :=
            refers_request_of same rfl rfl
          exact line.iff fun p => by cases p <;> simp [Package.qualifier]

end

end Go

end RequestScribe
