import RequestScribe.Proofs.Program.Comments
import RequestScribe.Proofs.Program.ScriptUses

/-!
# What the call of a script refers to

The call names the parts of the request that the constants in front of it hold.  With axios it
also says how the connection is made, for which it may need an agent and files.
-/

namespace RequestScribe

open Lexis

namespace Script

open Step Code

variable {s : Script} {b : Brief}

theorem refers_given {condition : Bool} {entry : Code} {found : List (Use × String)}
    (refers : Refers [.line entry] found) :
    Refers ((if condition then [entry] else []).map Step.line) (if condition then found else []) := by
  cases condition with
  | false => exact .nil
  | true => exact refers

theorem refers_number {line : Code} {p : Mask} {c : Char} {n : Nat} {ending : List Char}
    {found : List (Use × String)}
    (mask : line.HasMask .script (p ++ (toString n).toList.map Glyph.char ++ ending.map Glyph.char))
    (kept : p.used .script naming nameable = some found)
    (ends : p.Ends c) (dot : c ≠ '.')
    (gaps : ending.all (fun d => Mask.isGap .script (.char d)) = true) :
    Refers [.line line] found := by
  have foreign : ∀ y ∈ nameable, y.2.toList.all Json.isNumberCharacter = false := by decide
  have digits : ∀ d ∈ (toString n).toList, Json.isNumberCharacter d = true := fun d mem => by
    rw [Nat.toString_eq_ofList_toDigits, String.toList_ofList] at mem
    exact Json.isNumberCharacter_of_mem_toDigits d mem
  rw [List.append_assoc] at mask
  exact .number (splits_naming c) dot (List.all_eq_true.1 (by decide)) foreign mask kept ends
    digits (List.all_eq_true.1 gaps)

theorem refers_method (verb : String) : Refers [.line ("method: " ++ string verb ++ ",")] [] :=
  .line (((hasMask_text _).append (hasMask_string verb)).append (hasMask_text _)) rfl

/-! ## Options of `fetch` -/

theorem refers_bodyOption : Refers ((match b.body? with
    | some (.json _) => ["body: JSON.stringify(body),"]
    | some _ => ["body,"]
    | none => [] : List Code).map Step.line) (if b.body?.isSome then [(.named, "body")] else []) := by
  have encoded : Refers [.line "body: JSON.stringify(body),"] [(.named, "body")] := .text rfl
  have plain : Refers [.line "body,"] [(.named, "body")] := .text rfl
  cases b.body? with
  | none => exact .nil
  | some sent =>
      cases sent with
      | json v => exact encoded
      | _ => exact plain

theorem refers_timeoutSignal : Refers ((match b.timeout? with
    | some ms => [Code.plain ("signal: AbortSignal.timeout(" ++ toString ms ++ "),")]
    | none => [] : List Code).map Step.line) [] := by
  split
  · next ms _ =>
    exact refers_number (hasMask_plain_append (hasMask_plain_append (hasMask_text _)
      (hasMask_plain (toString ms))) (hasMask_text _)) rfl ⟨_, rfl, rfl⟩ (by decide) (by decide)
  · exact .nil

theorem refers_fetchOptions : Refers ((fetchOptions b).map Step.line)
    ((if !b.headers.isEmpty || b.basicAuth?.isSome then [(Use.named, "headers")] else []) ++
      if b.body?.isSome then [(Use.named, "body")] else []) := by
  have headers : Refers ((if b.headers.isEmpty && b.basicAuth?.isNone then []
      else ["headers,"] : List Code).map Step.line)
      (if !b.headers.isEmpty || b.basicAuth?.isSome then [(.named, "headers")] else []) := by
    have line : Refers [.line "headers,"] [(.named, "headers")] := .text rfl
    cases b.headers.isEmpty with
    | false => exact line
    | true =>
        cases b.basicAuth? with
        | none => exact .nil
        | some _ => exact line
  have redirect : Refers [.line ("redirect: " ++
      string (if b.transport.followRedirects then "follow" else "manual") ++ ",")] [] :=
    .line (((hasMask_text _).append (hasMask_string _)).append (hasMask_text _)) rfl
  unfold fetchOptions
  simp only [List.map_append]
  exact .of_same (((((refers_method _).append headers).append refers_bodyOption).append
    redirect).append refers_timeoutSignal) (by simp)

/-! ## Options of axios -/

/-- The tail of the list of an agent's entries. -/
abbrev IsAgentPart : Code → List (Use × String) → Prop :=
  IsPart .script naming nameable (Mask.text " \x7d),")

theorem isAgentPart_fileEntry {name : String} (known : name ∈ ["cert", "key", "ca"])
    (path? : Option String) : List.Forall₂ IsAgentPart (fileEntry name path?)
      (if path?.isSome then [[(.opened, "fs")]] else []) := by
  cases path? with
  | none => exact .nil
  | some path =>
      refine .cons ?_ .nil
      simp only [List.mem_cons, List.not_mem_nil, or_false] at known
      rcases known with rfl | rfl | rfl <;>
        exact .of_used (((hasMask_text _).append (hasMask_text _)).append
          (hasMask_fileContents path)) rfl rfl

theorem isAgentPart_insecure (condition : Bool) : List.Forall₂ IsAgentPart
    (if condition then [Code.plain "rejectUnauthorized: false"] else [])
    (if condition then [[]] else []) := by
  cases condition with
  | false => exact .nil
  | true => exact .cons (.of_used (hasMask_text _) rfl rfl) .nil

def agentEntryUses (t : Transport) : List (List (Use × String)) :=
  (if t.insecure then [[]] else []) ++ (if t.cert?.isSome then [[(Use.opened, "fs")]] else []) ++
    (if t.key?.isSome then [[(Use.opened, "fs")]] else []) ++
    if t.cacert?.isSome then [[(Use.opened, "fs")]] else []

theorem isAgentPart_agentEntries (t : Transport) :
    List.Forall₂ IsAgentPart (agentEntries t) (agentEntryUses t) :=
  List.rel_append (List.rel_append (List.rel_append (isAgentPart_insecure t.insecure)
    (isAgentPart_fileEntry (by simp) t.cert?)) (isAgentPart_fileEntry (by simp) t.key?))
    (isAgentPart_fileEntry (by simp) t.cacert?)

/-- An agent comes from `https`, and its certificates from files. -/
def agentUses (s : Script) (b : Brief) : List (Use × String) :=
  if s.needsAgent b then
    (.opened, "https") :: if hasCertificates b.transport then [(.opened, "fs")] else []
  else []

theorem refers_agent : Refers ((if s.needsAgent b then
      ["httpsAgent: new https.Agent(\x7b " ++ Code.intercalate ", " (agentEntries b.transport) ++
        " \x7d),"]
    else []).map Step.line) (s.agentUses b) := by
  unfold agentUses
  cases s.needsAgent b with
  | false => exact .nil
  | true =>
      have line : Refers [.line ("httpsAgent: new https.Agent(\x7b " ++
          Code.intercalate ", " (agentEntries b.transport) ++ " \x7d),")]
          ([(Use.opened, "https")] ++ (agentEntryUses b.transport).flatten) :=
        .list splits_naming (by decide) (hasMask_text _) rfl ⟨_, rfl, rfl⟩ rfl
          (isAgentPart_agentEntries b.transport)
      refine line.of_same fun y _ => ?_
      unfold agentEntryUses hasCertificates
      cases b.transport.insecure <;> cases b.transport.cert?.isSome <;>
        cases b.transport.key?.isSome <;> cases b.transport.cacert?.isSome <;> simp

theorem refers_credentials {user password : Fragment}
    (named : ∀ var, user.var? = some var ∨ password.var? = some var → IsName var) :
    Refers [.line ("auth: \x7b username: " ++ s.value user ++ ", password: " ++ s.value password ++
      " \x7d,")] [] := by
  refine uses_of_values (s := s) (c := ':') (d := ':') named rfl (hasMask_text _)
    (hasMask_plain ", password: ") (hasMask_text _)
    rfl ⟨_, rfl, rfl⟩ (fun m => ?_) (by decide) ?_ ?_
  · have pieces : Mask.text ", password: " =
        Mask.text ", password" ++ [Glyph.char ':'] ++ [Glyph.char ' '] := rfl
    rw [pieces, ← List.append_assoc, ← List.append_assoc]
    exact (Mask.ends_mark _ (by decide)).blank
  · refine forall_mask (P := fun m => Mask.used .script naming _ (m ++ _) = some []) rfl ?_ ?_ ?_ ?_
    all_goals
      intro var
      cbv
  · refine forall_mask (P := fun m => Mask.used .script naming _ (m ++ _) = some []) rfl ?_ ?_ ?_ ?_
    all_goals
      intro var
      cbv

theorem refers_redirectEntry (t : Transport) : Refers ((redirectEntry t).map Step.line) [] := by
  unfold redirectEntry
  split
  · exact .text rfl
  · split
    · exact refers_number (hasMask_plain_append (hasMask_plain_append (hasMask_text _)
        (hasMask_plain _)) (hasMask_text _)) rfl ⟨_, rfl, rfl⟩ (by decide) (by decide)
    · exact .nil

theorem refers_proxyEntry (t : Transport) : Refers ((proxyEntry t).map Step.line) [] := by
  unfold proxyEntry
  split
  · next proxy _ =>
    have before : ("proxy: \x7b protocol: " ++ string proxy.scheme ++ ", host: " ++
        string proxy.host ++ ", port: " : Code).HasMask .script _ :=
      ((((hasMask_text _).append (hasMask_string proxy.scheme)).append (hasMask_text _)).append
        (hasMask_string proxy.host)).append (hasMask_text _)
    have whole := before.append ((hasMask_plain (toString proxy.port)).append
      (hasMask_text [' ', '\x7d', ',']))
    rw [← List.append_assoc] at whole
    exact refers_number whole rfl ⟨_, rfl, rfl⟩ (by decide) (by decide)
  · exact .nil

def axiosUses (s : Script) (b : Brief) : List (Use × String) :=
  (if b.hasQuery then [(Use.named, "params")] else []) ++
    (if !b.headers.isEmpty then [(Use.named, "headers")] else []) ++
    (if b.body?.isSome then [(Use.named, "body")] else []) ++ s.agentUses b

theorem refers_basicAuthOption (sound : b.IsSound) : Refers ((match b.basicAuth? with
    | some (user, password) => ["auth: \x7b username: " ++ s.value user ++ ", password: " ++
        s.value password ++ " \x7d,"]
    | none => [] : List Code).map Step.line) [] := by
  split
  · next user password given =>
    exact refers_credentials fun var reads => sound.named_basicAuth given reads
  · exact .nil

theorem refers_timeoutOption : Refers ((match b.timeout? with
    | some ms => [Code.plain ("timeout: " ++ toString ms ++ ",")]
    | none => [] : List Code).map Step.line) [] := by
  split
  · exact refers_number (hasMask_plain_append (hasMask_plain_append (hasMask_text _)
      (hasMask_plain _)) (hasMask_text _)) rfl ⟨_, rfl, rfl⟩ (by decide) (by decide)
  · exact .nil

theorem refers_axiosOptions (sound : b.IsSound) :
    Refers ((s.axiosOptions b).map Step.line) (s.axiosUses b) := by
  have method : Refers (["method: " ++ string b.method.lowerVerb ++ ",", "url,"].map Step.line)
      ([] ++ []) := (refers_method _).cons (.text rfl)
  have params : Refers ((if b.hasQuery then ["params,"] else [] : List Code).map Step.line)
      (if b.hasQuery then [(.named, "params")] else []) := refers_given (.text rfl)
  have headers : Refers ((if !b.headers.isEmpty then ["headers,"] else [] : List Code).map Step.line)
      (if !b.headers.isEmpty then [(.named, "headers")] else []) := refers_given (.text rfl)
  have body : Refers ((if b.body?.isSome then ["data: body,"] else [] : List Code).map Step.line)
      (if b.body?.isSome then [(.named, "body")] else []) := refers_given (.text rfl)
  have checked : Refers ((if b.checksStatus then ["validateStatus: () => true,"] else [] :
      List Code).map Step.line) (if b.checksStatus then [] else []) := refers_given (.text rfl)
  have sent := ((method.append params).append headers).append body
  have user := refers_basicAuthOption (s := s) sound
  have connected := ((refers_timeoutOption (b := b)).append
    (refers_redirectEntry b.transport)).append (refers_proxyEntry b.transport)
  have secured := connected.append (refers_agent (s := s) (b := b))
  have whole := ((sent.append user).append secured).append checked
  unfold axiosOptions
  simp only [List.map_append, List.append_assoc] at whole ⊢
  exact whole.of_same (by simp [axiosUses])

/-! ## The call -/

def callUses (s : Script) (b : Brief) : List (Use × String) :=
  match s.client with
  | .fetch => (if s.hasHeaders b then [(Use.named, "headers")] else []) ++
      if b.body?.isSome then [(Use.named, "body")] else []
  | .axios => (Use.opened, "axios") :: s.axiosUses b

theorem refers_call (sound : b.IsSound) {start : String} {closing : Code}
    (known : start ∈ ["const response = await ", "return "]) (closes : Refers [.line closing] []) :
    Refers [block (Code.plain (start ++ s.call b)) closing ((s.options b).map Step.line)]
      (s.callUses b) := by
  simp only [List.mem_cons, List.not_mem_nil, or_false] at known
  unfold call options callUses hasHeaders encodesCredentials
  cases s.client with
  | fetch =>
      have opening : Refers [.line (Code.plain (start ++ "fetch(url, \x7b"))] [] := by
        rcases known with rfl | rfl <;>
          exact .line (hasMask_plain_append (hasMask_text _) (hasMask_text _)) rfl
      have whole := opening.block (refers_fetchOptions (b := b)) closes
      rwa [List.append_nil] at whole
  | axios =>
      have opening : Refers [.line (Code.plain (start ++ ("axios.request" ++
          (if s.typed && b.typedResponse then "<ResponseData>" else "") ++ "(\x7b")))]
          [(.opened, "axios")] := by
        rcases known with rfl | rfl <;> split <;>
          exact .line (hasMask_plain_append (hasMask_text _) (hasMask_plain_append
            (hasMask_plain_append (hasMask_text _) (hasMask_text _)) (hasMask_text _))) rfl
      have whole := opening.block (refers_axiosOptions (s := s) sound) closes
      rwa [List.append_nil] at whole

theorem refers_statusCheck : Refers (s.statusCheck b) [] := by
  have failed : Refers [.line ("if (" ++ (match s.client with
      | .fetch => "!response.ok"
      | .axios => "response.status < 200 || response.status >= 300" : Code) ++ ") \x7b")] [] := by
    split <;> exact .line (((hasMask_text _).append (hasMask_text _)).append (hasMask_text _)) rfl
  -- A template is one literal, of which the pieces are no literals by themselves.
  have literal : Lexis.script.IsLiteral
      ("\x60Request failed with status $\x7b" ++ "response.status" ++ "\x7d\x60").toList := by
    rw [String.toList_append, String.toList_append, String.toList_ofList, String.toList_ofList,
      String.toList_ofList]
    exact isLiteral_of_isEnclosed '\x60' (by decide) (by decide) (by decide)
  have thrown : Refers [.line ("throw new Error(" ++ Code.quoted
      "\x60Request failed with status $\x7b" ++ "response.status" ++ Code.quoted "\x7d\x60" ++
        ");")] [] := by
    have whole : ("throw new Error(" ++ Code.quoted ("\x60Request failed with status $\x7b" ++
        "response.status" ++ "\x7d\x60") ++ ");" : Code).HasMask .script _ :=
      ((hasMask_text _).append (hasMask_quoted literal)).append (hasMask_text _)
    have same : ("throw new Error(" ++ Code.quoted "\x60Request failed with status $\x7b" ++
        "response.status" ++ Code.quoted "\x7d\x60" ++ ");" : Code).text =
        ("throw new Error(" ++ Code.quoted ("\x60Request failed with status $\x7b" ++
          "response.status" ++ "\x7d\x60") ++ ");" : Code).text := by
      simp only [Code.text_append, Code.text_plain, Code.text_quoted, String.append_assoc]
    rw [Code.HasMask, ← same] at whole
    exact .line whole rfl
  have closing : Refers [.line "\x7d"] [] := .text rfl
  exact (failed.block thrown closing).when.of_same (by simp)

theorem refers_decoded (awaited : Bool) :
    Refers [line (Code.plain ("const data = " ++ s.decoded b awaited ++ ";"))] [] ∧
      Refers [line (Code.plain ("return " ++ s.decoded b awaited ++ ";"))] [] := by
  have both {text : String} {m : Mask} (mask : (Code.plain text).HasMask .script m)
      (kept : Mask.used .script naming nameable
        (Mask.text "const data = " ++ m ++ Mask.text ";") = some [])
      (returned : Mask.used .script naming nameable
        (Mask.text "return " ++ m ++ Mask.text ";") = some []) :
      Refers [line (Code.plain ("const data = " ++ text ++ ";"))] [] ∧
        Refers [line (Code.plain ("return " ++ text ++ ";"))] [] :=
    ⟨.line (hasMask_plain_append (hasMask_plain_append (hasMask_text _) mask) (hasMask_text _)) kept,
      .line (hasMask_plain_append (hasMask_plain_append (hasMask_text _) mask) (hasMask_text _))
        returned⟩
  unfold decoded
  dsimp only
  cases awaited with
  | false =>
      cases s.typed && b.typedResponse && b.expectsJson with
      | false => cases b.expectsJson <;> exact both (hasMask_text _) rfl rfl
      | true =>
          cases b.expectsJson <;>
            exact both (hasMask_plain_append (hasMask_text _) (hasMask_text _)) rfl rfl
  | true =>
      cases s.typed && b.typedResponse && b.expectsJson with
      | false =>
          cases b.expectsJson <;>
            exact both (hasMask_plain_append (hasMask_text _) (hasMask_text _)) rfl rfl
      | true =>
          cases b.expectsJson <;>
            exact both (hasMask_plain_append (hasMask_plain_append (hasMask_text _)
              (hasMask_text _)) (hasMask_text _)) rfl rfl

theorem refers_awaitingCall (sound : b.IsSound) : Refers (s.awaitingCall b) (s.callUses b) := by
  have closing : Refers [.line "\x7d);"] [] := .text rfl
  have called : Refers [block (Code.plain ("const response = await " ++ s.call b)) "\x7d);"
      ((s.options b).map Step.line)] (s.callUses b) := refers_call sound (by simp) closing
  have result : Refers (match s.client with
      | .fetch => [line (Code.plain ("const data = " ++ s.decoded b true ++ ";")), line "return data;"]
      | .axios => [line "return response.data;"]) [] := by
    have data : Refers [.line "return data;"] [] := .text rfl
    have field : Refers [.line "return response.data;"] [] := .text rfl
    split
    · exact (refers_decoded true).1.cons data
    · exact field
  have whole := called.cons ((refers_statusCheck (s := s) (b := b)).append result)
  rw [List.append_nil, List.append_nil] at whole
  exact whole

theorem refers_report : Refers
    [line ("console.error(" ++ string "Request failed:" ++ ", error);"), line "throw error;"] [] := by
  have shown : Refers [line ("console.error(" ++ string "Request failed:" ++ ", error);")] [] :=
    .line (((hasMask_text _).append (hasMask_string _)).append (hasMask_text _)) rfl
  have thrown : Refers [line "throw error;"] [] := .text rfl
  exact shown.cons thrown

theorem refers_guardedCall (sound : b.IsSound) : Refers (s.guardedCall b) (s.callUses b) := by
  have opening : Refers [.line "try \x7b"] [] := .text rfl
  have caught : Refers [.line "\x7d catch (error) \x7b"] [] := .text rfl
  have closing : Refers [.line "\x7d"] [] := .text rfl
  have indented : Refers [.indent] [] := .silent .indent
  have dedented : Refers [.dedent] [] := .silent .dedent
  have tried := opening.block (refers_awaitingCall (s := s) sound) caught
  unfold guardedCall
  split
  · have whole := tried.cons (indented.cons (refers_report.append (dedented.cons closing)))
    exact whole.of_same (by simp)
  · exact refers_awaitingCall sound

/-- A chain of calls, of which the last line ends the statement. -/
theorem refers_chainedCall (sound : b.IsSound) : Refers (s.chainedCall b) (s.callUses b) := by
  have closing : Refers [.line "\x7d)"] [] := .text rfl
  have ended : Refers [.line (("\x7d)" : Code) ++ ";")] [] :=
    .line ((hasMask_text _).append (hasMask_text _)) rfl
  have indented : Refers [.indent] [] := .silent .indent
  have dedented : Refers [.dedent] [] := .silent .dedent
  have called : Refers [block (Code.plain ("return " ++ s.call b)) "\x7d)"
      ((s.options b).map Step.line)] (s.callUses b) := refers_call sound (by simp) closing
  have result : Refers [match s.client with
      | .fetch => line (Code.plain ("return " ++ s.decoded b false ++ ";"))
      | .axios => line "return response.data;"] [] := by
    split
    · exact (refers_decoded false).2
    · exact .text rfl
  have opening : Refers [.line ".then((response) => \x7b"] [] := .text rfl
  have handled := (refers_statusCheck (s := s) (b := b)).append result
  have caught : Refers [.line ".catch((error) => \x7b"] [] := .text rfl
  have some : (Code.plain "\x7d)").text ≠ "" := by simp
  unfold chainedCall
  dsimp only
  cases b.guarded with
  | false =>
      have whole := (called.cons indented).append ((opening.block handled ended).cons dedented)
      exact (Uses.ended some whole).of_same (by simp)
  | true =>
      have whole := (called.cons (indented.cons (opening.block handled closing))).append
        ((caught.block refers_report ended).cons dedented)
      exact (Uses.ended some whole).of_same (by simp)

theorem refers_usage : Refers (usage b) [] := by
  have title : Refers [line (Code.remark "// Example usage")] [] := .silent (.comment (by decide))
  have kept : Refers [line "const data = await makeRequest();"] [] := .text rfl
  have shown : Refers [line "console.log(data);"] [] := .text rfl
  have chained : Refers [line "makeRequest().then((data) => console.log(data));"] [] := .text rfl
  have called : Refers (if b.settings.awaiting then
        [line "const data = await makeRequest();", line "console.log(data);"]
      else [line "makeRequest().then((data) => console.log(data));"]) [] := by
    split
    · exact kept.cons shown
    · exact chained
  exact ((Uses.blank.cons title).append called).when.of_same (by simp)

theorem refers_sending (sound : b.IsSound) :
    Refers (if b.settings.awaiting then s.guardedCall b else s.chainedCall b) (s.callUses b) := by
  split
  · exact refers_guardedCall sound
  · exact refers_chainedCall sound

def closing (s : Script) (b : Brief) : List Step :=
  (if b.settings.awaiting then s.guardedCall b else s.chainedCall b) ++ [line "\x7d"] ++ usage b

theorem refers_brace : Refers [line "\x7d"] [] := .text rfl

theorem refers_closing (sound : b.IsSound) : Refers (s.closing b) (s.callUses b) :=
  (((refers_sending sound).append refers_brace).append refers_usage).of_same (by simp)

end Script

end RequestScribe
