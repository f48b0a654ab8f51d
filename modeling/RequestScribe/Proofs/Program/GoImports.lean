import Mathlib.Data.Bool.AllAny
import RequestScribe.Proofs.Code.Placement
import RequestScribe.Proofs.Program.DeclaredTypes
import RequestScribe.Proofs.Program.GoRequest
import RequestScribe.Proofs.Program.Indentation
import RequestScribe.Proofs.Shape.TypeText

/-!
# Imports of Go programs

Read without knowing how it was written, a Go program refers to just the packages
that it imports.
-/

namespace RequestScribe

open Lexis

namespace Go

open Step Code

section

variable {b : Brief}

/-! ## The client -/

def configuresTls (t : Transport) : Bool :=
  t.insecure || (clientCertificate? t).isSome

/-- The line that configures the connection, by what it sets. -/
theorem refers_tlsLine {entries : String} {cs : List Char} {names : List String}
    (same : entries = String.ofList cs)
    (answered : answers (Mask.text "TLSClientConfig: &tls.Config\x7b" ++ cs.map Glyph.char ++
      Mask.text "\x7d,") = some names) :
    Refers (Step.plainLines ["TLSClientConfig: &tls.Config\x7b" ++ entries ++ "\x7d,"])
      fun p => p.qualifier ∈ names := by
  rw [same]
  exact .line (hasMask_plain_append (hasMask_plain_append (hasMask_text _) (hasMask_text cs))
    (hasMask_text _)) answered

theorem refers_tlsEntries (t : Transport) :
    Refers (Step.plainLines (if (tlsEntries t).isEmpty then []
      else ["TLSClientConfig: &tls.Config\x7b" ++ ", ".intercalate (tlsEntries t) ++ "\x7d,"]))
      fun p => configuresTls t = true ∧ p = .cryptoTls := by
  unfold tlsEntries configuresTls
  cases t.insecure <;> cases (clientCertificate? t).isSome
  · exact Mentions.nil.iff fun p => by simp
  · have same : ", ".intercalate ["Certificates: []tls.Certificate\x7bclientCert\x7d"] =
        "Certificates: []tls.Certificate\x7bclientCert\x7d" := rfl
    have line : Refers _ fun p => p.qualifier ∈ ["tls", "tls"] :=
      refers_tlsLine same rfl
    exact line.iff fun p => by cases p <;> simp [Package.qualifier]
  · have same : ", ".intercalate ["InsecureSkipVerify: true"] = "InsecureSkipVerify: true" := rfl
    have line : Refers _ fun p => p.qualifier ∈ ["tls"] := refers_tlsLine same rfl
    exact line.iff fun p => by cases p <;> simp [Package.qualifier]
  · have same : ", ".intercalate
        ["InsecureSkipVerify: true", "Certificates: []tls.Certificate\x7bclientCert\x7d"] =
        "InsecureSkipVerify: true, Certificates: []tls.Certificate\x7bclientCert\x7d" := by
      decide +kernel
    have line : Refers _ fun p => p.qualifier ∈ ["tls", "tls"] :=
      refers_tlsLine same rfl
    exact line.iff fun p => by cases p <;> simp [Package.qualifier]

theorem refers_transportEntries (t : Transport) :
    Refers (Step.plainLines (transportEntries t)) fun p =>
      t.proxy?.isSome = true ∧ p = .netHttp ∨ configuresTls t = true ∧ p = .cryptoTls := by
  have proxies : Refers
      (Step.plainLines (if t.proxy?.isSome then ["Proxy: http.ProxyURL(proxyURL),"] else []))
      fun p => t.proxy?.isSome = true ∧ p = .netHttp := by
    have line : Refers [.line "Proxy: http.ProxyURL(proxyURL),"] fun p => p.qualifier ∈ ["http"] :=
      .text rfl
    split
    · next given => exact line.iff fun p => by cases p <;> simp [Package.qualifier, given]
    · next absent => exact Mentions.nil.iff fun p => by simp [absent]
  have both := proxies.append (refers_tlsEntries t)
  rw [Step.plainLines, Step.plainLines, ← List.map_append] at both
  exact both

theorem refers_redirectSteps (t : Transport) :
    Refers (redirectSteps t) fun p => (redirectLimit? t).isSome = true ∧ p = .netHttp := by
  have opening : Refers [.line (Code.plain
      "CheckRedirect: func(req *http.Request, via []*http.Request) error \x7b")]
      fun p => p.qualifier ∈ ["http", "http"] := .text rfl
  have closing : Refers [.line "\x7d,"] fun p => p.qualifier ∈ [] := .text rfl
  have stop : Refers [.line "return http.ErrUseLastResponse"] fun p => p.qualifier ∈ ["http"] :=
    .text rfl
  unfold redirectSteps
  dsimp only
  split
  · next unlimited => exact Mentions.nil.iff fun p => by simp [unlimited]
  · next never =>
      exact (opening.block stop closing).iff fun p => by
        cases p <;> simp [Package.qualifier, never]
  · next limit _ given =>
      have guard : Refers [.line (Code.plain ("if len(via) >= " ++ toString limit ++ " \x7b"))]
          fun p => p.qualifier ∈ [] :=
        .line (hasMask_plain_append (hasMask_plain_append (hasMask_text _)
          (hasMask_word (Fresh.isName_toString limit))) (hasMask_text _)) rfl
      have close : Refers [.line "\x7d"] fun p => p.qualifier ∈ [] := .text rfl
      have last : Refers [.line "return nil"] fun p => p.qualifier ∈ [] :=
        .text rfl
      have inner := (guard.block stop close).cons last
      exact (opening.block inner closing).iff fun p => by
        cases p <;> simp [Package.qualifier, given]

theorem refers_transport (t : Transport) :
    Refers (Step.when (!(transportEntries t).isEmpty)
      [block "Transport: &http.Transport\x7b" "\x7d," (Step.plainLines (transportEntries t))])
      fun p => (transportEntries t).isEmpty = false ∧ p = .netHttp ∨
        configuresTls t = true ∧ p = .cryptoTls := by
  have opening : Refers [.line "Transport: &http.Transport\x7b"] fun p =>
      p.qualifier ∈ ["http"] := .text rfl
  have closing : Refers [.line "\x7d,"] fun p => p.qualifier ∈ [] := .text rfl
  have entries := refers_transportEntries t
  refine ((opening.block entries closing).when _).iff fun p => ?_
  cases empty : (transportEntries t).isEmpty with
  | false => cases p <;> simp [Package.qualifier]
  | true =>
      rw [Step.plainLines, List.isEmpty_iff.1 empty, List.map_nil] at entries
      have none := entries.not_of_nil .cryptoTls
      cases p <;> simp_all

theorem refers_settings {settings : List Step} {P : Package → Prop} (inner : Refers settings P) :
    Refers (if settings.isEmpty then [line "client := &http.Client\x7b\x7d"]
      else [block "client := &http.Client\x7b" "\x7d" settings]) fun p =>
      p = .netHttp ∨ P p := by
  split
  · next empty =>
      have line : Refers [.line "client := &http.Client\x7b\x7d"] fun p =>
          p.qualifier ∈ ["http"] := .text rfl
      rw [List.isEmpty_iff.1 empty] at inner
      refine line.iff fun p => ?_
      have none := inner.not_of_nil p
      cases p <;> simp_all [Package.qualifier]
  · have opening : Refers [.line "client := &http.Client\x7b"] fun p =>
        p.qualifier ∈ ["http"] := .text rfl
    have closing : Refers [.line "\x7d"] fun p => p.qualifier ∈ [] := .text rfl
    exact (opening.block inner closing).iff fun p => by
      cases p <;> simp [Package.qualifier]

def clientPackages (b : Brief) : List Package :=
  (if b.transport.proxy?.isSome then [Package.netUrl] else []) ++
    (if configuresTls b.transport then [Package.cryptoTls] else []) ++
    (if b.timeout?.isSome then [Package.time] else [])

theorem refers_client : Refers (client b) fun p => p = .netHttp ∨ p ∈ clientPackages b := by
  have configured : (clientCertificate? b.transport).isSome = true →
      configuresTls b.transport = true := fun given => by simp [configuresTls, given]
  unfold client
  dsimp only
  refine Mentions.iff ((Mentions.append
    (P := fun p => b.transport.proxy?.isSome = true ∧ p = .netUrl)
    (Q := fun p => (clientCertificate? b.transport).isSome = true ∧ p = .cryptoTls)
    ?proxy ?certificate).append (refers_settings ((Mentions.append
      (P := fun p => b.timeout?.isSome = true ∧ p = .time) ?timeout
        (refers_transport b.transport)).append (refers_redirectSteps b.transport)))) ?_
  case proxy =>
    split
    · next proxy given =>
        have call : Refers (assign b "proxyURL" ("url.Parse(" ++ string proxy ++ ")") none)
            fun p => p.qualifier ∈ ["url"] :=
          refers_take (hasMask_text _) (((hasMask_text _).append (hasMask_string proxy)).append
            (hasMask_text _)) rfl rfl
        exact call.iff fun p => by cases p <;> simp [Package.qualifier, given]
    · next absent => exact Mentions.nil.iff fun p => by simp [absent]
  case certificate =>
    split
    · next cert key given =>
        have call : Refers (assign b "clientCert"
            ("tls.LoadX509KeyPair(" ++ string cert ++ ", " ++ string key ++ ")") none)
            fun p => p.qualifier ∈ ["tls"] :=
          refers_take (hasMask_text _) (((((hasMask_text _).append (hasMask_string cert)).append
            (hasMask_text _)).append (hasMask_string key)).append (hasMask_text _))
              rfl rfl
        exact call.iff fun p => by cases p <;> simp [Package.qualifier, given]
    · next absent => exact Mentions.nil.iff fun p => by simp [absent]
  case timeout =>
    split
    · next ms given =>
        have line : Refers [.line (Code.plain ("Timeout: " ++ toString ms ++
            " * time.Millisecond,"))] fun p => p.qualifier ∈ ["time"] :=
          .line (hasMask_plain_append (hasMask_plain_append (hasMask_text _)
            (hasMask_word (Fresh.isName_toString ms))) (hasMask_text _)) rfl
        exact line.iff fun p => by cases p <;> simp [Package.qualifier, given]
    · next absent => exact Mentions.nil.iff fun p => by simp [absent]
  intro p
  unfold clientPackages
  cases p <;> simp
  exact configured

/-! ## The program -/

theorem refers_statusCheck : Refers (statusCheck b) fun p => b.checksStatus = true ∧ p = .fmt := by
  have opening : Refers [.line "if resp.StatusCode < 200 || resp.StatusCode >= 300 \x7b"] fun p =>
      p.qualifier ∈ ["resp", "resp"] := .text rfl
  have inner : Refers [.line ("return nil, fmt.Errorf(" ++ string "unexpected status: %s" ++
      ", resp.Status)")] fun p => p.qualifier ∈ ["fmt", "resp"] :=
    .line (((hasMask_text _).append (hasMask_string _)).append (hasMask_text _)) rfl
  have closing : Refers [.line "\x7d"] fun p => p.qualifier ∈ [] := .text rfl
  exact ((opening.block inner closing).when b.checksStatus).iff fun p => by
    cases p <;> simp [Package.qualifier]

def requestPackages (b : Brief) : List Package :=
  (if b.hasQuery then [Package.netUrl] else []) ++ bodyPackages b ++ readerPackages b ++
    clientPackages b ++
    (if b.envNames ≠ [] ∨ b.files ≠ [] then [Package.os] else []) ++
    (if b.guarded || b.checksStatus then [Package.fmt] else []) ++ [Package.netHttp, Package.io]

theorem refers_makeRequest (sound : b.IsSound) :
    Refers [makeRequest b] (· ∈ requestPackages b) := by
  have opening : Refers [.line "func makeRequest() ([]byte, error) \x7b"] fun p =>
      p.qualifier ∈ [] := .text rfl
  have sending : Refers (assign b "resp" "client.Do(req)" (some "request failed")) fun p =>
      p.qualifier ∈ ["client"] ∨ b.guarded = true ∧
        (some "request failed").isSome = true ∧ p = .fmt :=
    refers_assign (hasMask_text _) (hasMask_text _) rfl rfl _
  have deferred : Refers [.line "defer resp.Body.Close()"] fun p =>
      p.qualifier ∈ ["resp", "Body"] := .text rfl
  have last : Refers [.line "return io.ReadAll(resp.Body)"] fun p =>
      p.qualifier ∈ ["io", "resp"] := .text rfl
  have closing : Refers [.line "\x7d"] fun p => p.qualifier ∈ [] := .text rfl
  have steps := ((((((((((refers_address (b := b)).append .blank).append
    (refers_body sound)).append (refers_request (b := b))).append (refers_headers sound)).append
      .blank).append (refers_client (b := b))).append sending).append (deferred.cons .blank)).append
        (refers_statusCheck (b := b))).append last
  refine (opening.block steps closing).iff fun p => ?_
  unfold requestPackages
  cases p <;> simp [Package.qualifier, or_assoc, or_comm, or_left_comm]

theorem refers_report (what : String) :
    Refers (report what) fun p => p = .fmt ∨ p = .os := by
  have said : Refers [.line ("fmt.Fprintln(os.Stderr, " ++ string what ++ ", err)")] fun p =>
      p.qualifier ∈ ["fmt", "os"] :=
    .line (((hasMask_text _).append (hasMask_string what)).append (hasMask_text _))
      rfl
  have left : Refers [.line "os.Exit(1)"] fun p => p.qualifier ∈ ["os"] := .text rfl
  exact (said.cons left).iff fun p => by cases p <;> simp [Package.qualifier]

theorem refers_decode : Refers (decode b) fun p =>
    p = .encodingJson ∨ p = .fmt ∨ b.guarded = true ∧ p = .os := by
  have declared : Refers [.line "var data ResponseData"] fun p => p.qualifier ∈ [] :=
    .text rfl
  have printed : Refers [.line ("fmt.Printf(" ++ string "%+v\n" ++ ", data)")] fun p =>
      p.qualifier ∈ ["fmt"] :=
    .line (((hasMask_text _).append (hasMask_string _)).append (hasMask_text _)) rfl
  unfold decode
  split
  · next guarded =>
      have opening : Refers [.line "if err := json.Unmarshal(body, &data); err != nil \x7b"]
          fun p => p.qualifier ∈ ["json"] := .text rfl
      have closing : Refers [.line "\x7d"] fun p => p.qualifier ∈ [] := .text rfl
      have read := opening.block (refers_report "Invalid response:") closing
      exact ((declared.cons read).append printed).iff fun p => by
        cases p <;> simp [Package.qualifier, guarded]
  · next guarded =>
      have read : Refers [.line "json.Unmarshal(body, &data)"] fun p => p.qualifier ∈ ["json"] :=
        .text rfl
      exact ((declared.cons read).append printed).iff fun p => by
        cases p <;> simp [Package.qualifier, guarded]

theorem refers_mainFunction : Refers [mainFunction b] fun p =>
    p = .fmt ∨ b.guarded = true ∧ p = .os ∨ b.typedResponse = true ∧ p = .encodingJson := by
  have opening : Refers [.line "func main() \x7b"] fun p => p.qualifier ∈ [] :=
    .text rfl
  have closing : Refers [.line "\x7d"] fun p => p.qualifier ∈ [] := .text rfl
  have called : Refers (if b.guarded then
        [ line "body, err := makeRequest()",
          block "if err != nil \x7b" "\x7d" (report "Request failed:") ]
      else [line "body, _ := makeRequest()"]) fun p =>
      b.guarded = true ∧ (p = .fmt ∨ p = .os) := by
    split
    · next guarded =>
        have call : Refers [.line "body, err := makeRequest()"] fun p => p.qualifier ∈ [] :=
          .text rfl
        have failed : Refers [.line "if err != nil \x7b"] fun p => p.qualifier ∈ [] :=
          .text rfl
        exact (call.cons (failed.block (refers_report _) closing)).iff fun p => by simp [guarded]
    · next guarded =>
        have call : Refers [.line "body, _ := makeRequest()"] fun p => p.qualifier ∈ [] :=
          .text rfl
        exact call.iff fun p => by simp [guarded]
  have shown : Refers (if b.typedResponse then decode b else [line "fmt.Println(string(body))"])
      fun p => p = .fmt ∨ b.typedResponse = true ∧
        (p = .encodingJson ∨ b.guarded = true ∧ p = .os) := by
    split
    · next typed =>
        exact refers_decode.iff fun p => by cases p <;> simp [typed]
    · next typed =>
        have line : Refers [.line "fmt.Println(string(body))"] fun p => p.qualifier ∈ ["fmt"] :=
          .text rfl
        exact line.iff fun p => by cases p <;> simp [Package.qualifier, typed]
  refine (opening.block (called.append shown) closing).iff fun p => ?_
  cases p <;> simp

theorem refers_writeAll : Refers (writeAll b) fun p =>
    (b.isMultipart && b.guarded) = true ∧ p = .io := by
  have opening : Refers [.line "func writeAll(w io.Writer, data []byte) error \x7b"] fun p =>
      p.qualifier ∈ ["io"] := .text rfl
  have first : Refers [.line "_, err := w.Write(data)"] fun p => p.qualifier ∈ ["w"] :=
    .text rfl
  have second : Refers [.line "return err"] fun p => p.qualifier ∈ [] := .text rfl
  have closing : Refers [.line "\x7d"] fun p => p.qualifier ∈ [] := .text rfl
  have defined := (opening.block (first.cons second) closing).cons .blank
  exact (defined.when _).iff fun p => by cases p <;> simp [Package.qualifier]

/-- Paths stand in string literals. -/
theorem refers_imports : Refers
    [block "import (" ")" ((imports b).map fun path => line (Code.quoted path))]
    fun _ => False := by
  have opening : Refers [.line "import ("] fun p => p.qualifier ∈ [] := .text rfl
  have closing : Refers [.line ")"] fun p => p.qualifier ∈ [] := .text rfl
  have literal (p : Package) : Lexis.go.IsLiteral ("\"" ++ p.path ++ "\"").toList := by
    have text : ("\"" ++ p.path ++ "\"").toList = '"' :: (p.path.toList ++ ['"']) := by simp
    have plain : ∀ c ∈ p.path.toList, c ≠ '"' ∧ c ≠ '\\' :=
      List.all_iff_forall_prop.1 (by cases p <;> decide)
    rw [text]
    exact isLiteral_escaping (by decide) (by decide) (.of_forall plain)
  have listed : Refers ((imports b).map fun path => line (Code.quoted path)) fun p =>
      ∃ path ∈ imports b, p.qualifier ∈ [] := by
    refine Mentions.map fun path mem => ?_
    obtain ⟨package, -, rfl⟩ := List.mem_map.1 mem
    exact .line (hasMask_quoted (literal package)) rfl
  exact (opening.block listed closing).iff fun p => by simp

/-- The comments on retries refer to no package, even if they are taken for code. -/
theorem refers_retryLines : Refers (b.retryLines.map (Step.remark "// ")) fun _ => False := by
  unfold Brief.retryLines
  split
  · have first : Refers [Step.remark "// " ("Retry policy: up to " ++
        toString (max b.settings.retryAttempts 1) ++ " attempts with exponential backoff.")]
        fun p => p.qualifier ∈ ["backoff"] :=
      .line (hasMask_remark (hasMask_plain_append (hasMask_text _) (hasMask_plain_append
        (hasMask_plain_append (hasMask_text _) (hasMask_word (Fresh.isName_toString _)))
          (hasMask_text _)))) rfl
    have second : Refers [Step.remark "// "
        "Wrap the request below in a loop and wait 2^attempt * 100 ms between failed attempts."]
        fun p => p.qualifier ∈ ["attempts"] :=
      .line (hasMask_remark (hasMask_plain_append (hasMask_text _) (hasMask_text _)))
        rfl
    exact (first.cons second).iff fun p => by cases p <;> simp [Package.qualifier]
  · exact .nil

/-- Types have no dots outside of literals. -/
theorem refers_typeSteps
    (whole : ∀ block ∈ b.typeBlocks, ∀ key ∈ block.keys, '\x60' ∉ key.toList) :
    Refers (b.typeSteps .go) fun _ => False := by
  have types : (TypeSet.writeBlocks .go b.unit b.typeBlocks).IsTypeCode .go := by
    have feeds : (Code.plain "\n\n").IsTypeCode .go := isTypeCode_plain (by decide)
    refine feeds.intercalate (List.forall_mem_map.2 fun block mem => ?_)
    obtain ⟨name, refers⟩ := Brief.isTypeName_typeBlocks block mem
    exact block.isTypeCode_go b.settings.isBlankUnit_indentUnit name refers (whole block mem)
  unfold Brief.typeSteps Brief.types?
  split
  · next given =>
      split at given
      · cases given
      · cases given
        exact ((types.mentions (List.all_eq_true.1 (by decide))).cons .blank).iff fun p => by simp
  · exact .nil

/-! ## Imports -/

theorem mem_imports_iff {p : Package} :
    "\"" ++ p.path ++ "\"" ∈ imports b ↔ uses b p = true := by
  have known : p ∈ Package.all := by cases p <;> decide
  have injective {p q : Package} (same : "\"" ++ p.path ++ "\"" = "\"" ++ q.path ++ "\"") :
      p = q := by
    have lists := congrArg String.toList same
    simp only [String.toList_append, List.append_cancel_left_eq, List.append_cancel_right_eq,
      String.toList_inj] at lists
    cases p <;> cases q <;> first | rfl | exact absurd lists (by decide)
  unfold imports
  rw [List.mem_map]
  constructor
  · rintro ⟨q, mem, same⟩
    rw [← injective same]
    exact (List.mem_filter.1 mem).2
  · exact fun used => ⟨p, List.mem_filter.2 ⟨known, used⟩, rfl⟩

/-- The packages that the functions of a program refer to are those that it uses. -/
theorem uses_iff {p : Package} : uses b p = true ↔
    b.guarded = true ∧ p = .os ∨ p ∈ requestPackages b ∨ p = .fmt ∨
      b.typedResponse = true ∧ p = .encodingJson := by
  have direct : p ∈ requestPackages b ↔
      b.hasQuery = true ∧ p = .netUrl ∨ p ∈ bodyPackages b ∨ p ∈ readerPackages b ∨
        p ∈ clientPackages b ∨ (b.envNames ≠ [] ∨ b.files ≠ []) ∧ p = .os ∨
        (b.guarded || b.checksStatus) = true ∧ p = .fmt ∨ p = .netHttp ∨ p = .io := by
    cases p <;> simp [requestPackages]
  have connected : p ∈ clientPackages b ↔
      b.transport.proxy?.isSome = true ∧ p = .netUrl ∨
        (b.transport.insecure || (clientCertificate? b.transport).isSome) = true ∧
          p = .cryptoTls ∨ b.timeout?.isSome = true ∧ p = .time := by
    cases p <;> simp [clientPackages, configuresTls]
  rw [direct, connected, bodyPackages, readerPackages]
  rcases given : b.body? with _ | body
  · cases p <;> simp [uses, Brief.isMultipart, Brief.bodyFile?, given, or_assoc]
  · cases body <;> cases p <;>
      simp [uses, Brief.isMultipart, Brief.bodyFile?, given, Body.dataType, Body.filePath?,
        or_assoc]

/-- The steps of a program refer to the packages that it uses. -/
theorem refers_program (sound : b.IsSound) (quiet : b.comments = false)
    (whole : ∀ block ∈ b.typeBlocks, ∀ key ∈ block.keys, '\x60' ∉ key.toList) :
    Refers (program b).steps fun p => uses b p = true := by
  have package : Refers [.line "package main"] fun p => p.qualifier ∈ [] :=
    .text rfl
  have head : Refers (b.headComments "// " (notes b)) fun _ => False := by
    unfold Brief.headComments
    rw [quiet]
    exact refers_retryLines
  have usage : Refers (Step.when b.comments [line (Code.remark "// Example usage")])
      fun _ => False := by
    rw [quiet]
    exact .nil
  have parts := ((((((((package.cons (.cons .blank ((refers_imports (b := b)).cons .blank))).append
    head).append .blank).append (refers_typeSteps whole)).append (refers_writeAll (b := b))).append
      ((refers_makeRequest sound).cons .blank)).append usage).append
        (refers_mainFunction (b := b)))
  refine parts.iff fun p => ?_
  rw [uses_iff]
  cases p <;> simp [requestPackages, or_comm]

/-- A program begins with the declaration of its imports. -/
theorem prefix_program : ("package main\n\nimport (\n" ++
    String.join ((imports b).map fun path => b.unit ++ path ++ "\n") ++ ")").toList <+:
      (layOut b.unit (program b).steps).toList := by
  have listed (w : Writer) (nested : w.level = 1) :
      w.runAll ((imports b).map fun path => line (Code.quoted path)) =
        { w with
          written := ((imports b).flatMap fun path =>
            w.unit.toList ++ path.toList ++ ['\n']).reverse ++ w.written } := by
    have visible : ∀ path ∈ imports b, Chars.indented w.indentation path.toList =
        w.unit.toList ++ path.toList ++ ['\n'] := by
      intro path mem
      obtain ⟨package, -, rfl⟩ := List.mem_map.1 mem
      have once : w.indentation = w.unit.toList := by
        simp [Writer.indentation, nested, Text.times]
      rw [once]
      simp [Chars.indented]
    have written (text : String) : (Code.quoted text).text = text := by simp
    rw [Writer.runAll_map_line w written, Writer.foldl_line_eq, List.flatMap_congr visible]
  have writes : (Writer.runAll { unit := b.unit }
      [ line "package main", blank,
        block "import (" ")" ((imports b).map fun path => line (Code.quoted path)) ]).written =
      ['\n'] ++ ')' :: ("package main\n\nimport (\n".toList ++ (imports b).flatMap fun path =>
        b.unit.toList ++ path.toList ++ ['\n']).reverse := by
    have package : (({ unit := b.unit } : Writer).line "package main").blank =
        { unit := b.unit, level := 0, written := "package main\n\n".toList.reverse } := by
      simp [Writer.line, Writer.push, Writer.blank, Text.times]
    have opening : (Writer.mk b.unit 0 "package main\n\n".toList.reverse).line "import (" =
        { unit := b.unit, level := 0, written := "package main\n\nimport (\n".toList.reverse } := by
      simp [Writer.line, Writer.push, Text.times]
    simp only [Writer.runAll, Writer.run, Code.text_plain]
    rw [package, opening, listed _ rfl]
    simp [Writer.line, Writer.push, Writer.indent, Writer.dedent, Text.times]
  have shown := prefix_layOut writes (by decide) ([blank] ++ b.headComments "// " (notes b) ++
    [blank] ++ b.typeSteps .go ++ writeAll b ++ [makeRequest b, blank] ++
    Step.when b.comments [line (Code.remark "// Example usage")] ++ [mainFunction b])
  have text : ("package main\n\nimport (\n" ++
      String.join ((imports b).map fun path => b.unit ++ path ++ "\n") ++ ")").toList =
      ("package main\n\nimport (\n".toList ++ (imports b).flatMap fun path =>
        b.unit.toList ++ path.toList ++ ['\n']) ++ [')'] := by
    simp [String.toList_append, List.flatMap, Function.comp_def]
  rw [text]
  simpa [program] using shown

theorem nodup_imports : (imports b).Nodup := by
  have all : (Package.all.map fun package => "\"" ++ package.path ++ "\"").Nodup := by
    decide +kernel
  exact all.sublist (List.filter_sublist.map _)

end

end Go

namespace Brief

variable {settings : Settings} {r : Request}

/-- The keys in the types of a brief are keys of the body or of the sample response. -/
theorem exists_value_of_mem_keys {block : TypeBlock}
    (mem : block ∈ (ofRequest settings r).typeBlocks) {key : String} (held : key ∈ block.keys) :
    ∃ v, (r.body? = some (.json v) ∨ settings.sampleResponse? = some v) ∧ key ∈ v.keys := by
  obtain ⟨set, given, inside⟩ := List.mem_flatMap.1 mem
  unfold typeSets at given
  split at given
  · rcases List.mem_append.1 given with given | given
    · obtain ⟨v, json, rfl⟩ := Option.map_eq_some_iff.1 (Option.mem_toList.1 given)
      refine ⟨v, .inl ?_, TypeSet.keys_blocks _ v block inside held⟩
      unfold jsonBody? at json
      split at json
      · next body =>
        cases json
        exact body
      · cases json
    · obtain ⟨v, sample, rfl⟩ := Option.map_eq_some_iff.1 (Option.mem_toList.1 given)
      exact ⟨v, .inr sample, TypeSet.keys_blocks _ v block inside held⟩
  · cases given

end Brief

namespace Generated

/--
A Go program without comments begins with the declaration of its imports, each
of them once, and they are the packages that the rest of it refers to.  A key
with a backtick would end the tag that it stands in.
-/
theorem ofRequest_imports {command : String} {outcome : Command.Outcome} {settings : Settings}
    (parsed : Command.parse command = .ok outcome) (quiet : settings.includeComments = false)
    (whole : ∀ v, outcome.request.body? = some (.json v) ∨ settings.sampleResponse? = some v →
      ∀ key ∈ v.keys, '\x60' ∉ key.toList) :
    ∃ g, ofRequest .go settings outcome.request = .ok g ∧
      ("package main\n\nimport (\n" ++ String.join (g.imports.map fun path =>
        settings.indentUnit ++ path ++ "\n") ++ ")").toList <+: g.code.toList ∧
      g.imports.Nodup ∧ (∀ path ∈ g.imports, ∃ p : Go.Package, path = "\"" ++ p.path ++ "\"") ∧
      ∀ p : Go.Package, "\"" ++ p.path ++ "\"" ∈ g.imports ↔
        p.qualifier ∈ (Lexis.go.lines g.code.toList).flatMap (Lexeme.before ['.']) := by
  obtain ⟨b, brief⟩ : ∃ b, b = Brief.ofRequest settings outcome.request := ⟨_, rfl⟩
  have unit : settings.indentUnit = b.unit := by rw [brief]; rfl
  have sound : b.IsSound := brief ▸ Brief.isSound_ofRequest parsed settings
  have refers : Go.Refers (Go.program b).steps fun p => Go.uses b p = true := by
    refine Go.refers_program sound (by rw [brief]; exact quiet) fun block mem key held => ?_
    obtain ⟨v, given, inside⟩ := Brief.exists_value_of_mem_keys (brief ▸ mem) held
    exact whole v given key inside
  obtain ⟨g, made, code, listed⟩ : ∃ g, ofRequest .go settings outcome.request = .ok g ∧
      g.code = Step.layOut b.unit (Go.program b).steps ∧ g.imports = Go.imports b := by
    rw [brief]
    exact ⟨_, ofRequest_eq_ok rfl, rfl, rfl⟩
  rw [unit]
  refine ⟨g, made, ?_, listed ▸ Go.nodup_imports, fun path mem => ?_, fun p => ?_⟩
  · rw [code, listed]
    exact Go.prefix_program
  · rw [listed] at mem
    obtain ⟨p, -, rfl⟩ := List.mem_map.1 mem
    exact ⟨p, rfl⟩
  · rw [code, listed]
    exact Go.mem_imports_iff.trans (refers.layOut b.settings.isBlankUnit_indentUnit p).symm

/-- A Go program that sends a JSON body and does not check certificates. -/
theorem ofRequest_imports_insecure :
    let command := "curl -k -d '\x7b\"id\":1\x7d' https://x.test"
    let body : Json.Value := .object [("id", .number (.integer 1))]
    let r : Request :=
      { method := .post
        url := "https://x.test"
        headers := [("Content-Type", "application/json")]
        body? := some (.json body)
        rawBody? := some "\x7b\"id\":1\x7d"
        authorization? := none
        cookies := []
        files := []
        query := []
        transport := { insecure := true, userAgent? := some "curl/8.5.0" } }
    let settings : Settings := { includeComments := false }
    Command.parse command = .ok ⟨r, []⟩ ∧ settings.includeComments = false ∧
      (∀ v, r.body? = some (.json v) ∨ settings.sampleResponse? = some v →
        ∀ key ∈ v.keys, '\x60' ∉ key.toList) ∧
      ∃ g, ofRequest .go settings r = .ok g ∧
        g.imports = ["\"bytes\"", "\"crypto/tls\"", "\"fmt\"", "\"io\"", "\"net/http\"", "\"os\""] ∧
        "tls" ∈ (Lexis.go.lines g.code.toList).flatMap (Lexeme.before ['.']) ∧
        "json" ∉ (Lexis.go.lines g.code.toList).flatMap (Lexeme.before ['.']) := by
  intro command body r settings
  have letters : command.toList = _ := String.toList_ofList
  have words : Shell.arguments command =
      .ok ["-k", "-d", "\x7b\"id\":1\x7d", "https://x.test"] := by
    rw [Shell.arguments, Text.isBlank, Shell.tokenize, letters]
    decide +kernel
  have parsed : Command.parse command = .ok ⟨r, []⟩ := by
    rw [Command.parse, words]
    decide +kernel
  have quiet : settings.includeComments = false := rfl
  have whole : ∀ v, r.body? = some (.json v) ∨ settings.sampleResponse? = some v →
      ∀ key ∈ v.keys, '\x60' ∉ key.toList := by
    rintro v (given | given)
    · cases given
      decide
    · cases given
  obtain ⟨g, made, -, -, -, imports⟩ := ofRequest_imports parsed quiet whole
  have listed : g.imports =
      ["\"bytes\"", "\"crypto/tls\"", "\"fmt\"", "\"io\"", "\"net/http\"", "\"os\""] := by
    have same := made.symm.trans (ofRequest_eq_ok (t := .go) rfl)
    rw [Except.ok.inj same]
    decide +kernel
  refine ⟨parsed, quiet, whole, g, made, listed, (imports .cryptoTls).1 ?_, fun mem => ?_⟩
  · rw [listed]
    decide
  · have absent := (imports .encodingJson).2 mem
    rw [listed] at absent
    exact absurd absent (by decide)

end Generated

end RequestScribe
