import RequestScribe.Proofs.Program.Comments
import RequestScribe.Proofs.Program.PythonUses

/-!
# What the call of a Python program refers to

The call names the parts of the request that have been assigned.  How the connection is made is
told by arguments of the call or of the client, none of which refers to anything.
-/

namespace RequestScribe

open Lexis

namespace Python

open Step Code

variable {client : PythonClient} {b : Brief}

/-- What is asked of a call. -/
def nameable : List (Use × String) :=
  requestNames.map (Use.named, ·) ++ modules

/-- What steps refer to of a request, and the modules that they use. -/
abbrev Refers (steps : List Step) (found : List (Use × String)) : Prop :=
  Uses .python naming nameable steps found

/-! ## Arguments -/

/-- An argument that refers to nothing, wherever it stands among others. -/
def IsSilent (argument : Code) : Prop :=
  ∃ m, argument.HasMask .python m ∧
    ∀ d ∈ [',', ')'], (m ++ [Glyph.char d]).Finds .python naming nameable []

theorem IsSilent.of_used {argument : Code} {m : Mask} (mask : argument.HasMask .python m)
    (comma : (m ++ [Glyph.char ',']).used .python naming nameable = some [])
    (bracket : (m ++ [Glyph.char ')']).used .python naming nameable = some []) :
    IsSilent argument := by
  refine ⟨m, mask, fun d mem => ?_⟩
  rcases List.mem_pair.1 mem with rfl | rfl
  · exact .of_used comma
  · exact .of_used bracket

theorem IsSilent.refers {argument : Code} (silent : IsSilent argument) :
    Refers [line (argument ++ ",")] [] := by
  obtain ⟨m, mask, finds⟩ := silent
  exact .of_finds (mask.append (hasMask_text [','])) (finds ',' (by simp))

theorem IsSilent.isPart {argument : Code} (silent : IsSilent argument) :
    IsPart .python naming nameable (Mask.text ") as client:") argument [] := by
  obtain ⟨m, mask, finds⟩ := silent
  have behind {d : Char} {rest : Mask} (mem : d ∈ [',', ')']) (solid : Mask.isMark d = true)
      (quiet : rest.used .python naming nameable = some []) :
      (m ++ Glyph.char d :: rest).Finds .python naming nameable [] := by
    have dot : d ≠ '.' := by
      rintro rfl
      exact absurd mem (by decide)
    have whole := (finds d mem).cut (splits_naming d) dot (Mask.ends_mark m solid) (.of_used quiet)
    rwa [List.append_assoc] at whole
  exact ⟨m, mask, behind (d := ',') (by simp) (by decide) rfl,
    behind (d := ')') (by simp) (by decide) rfl⟩

theorem IsSilent.of_number {argument : Code} {p : Mask} {text : List Char}
    (mask : argument.HasMask .python (p ++ text.map Glyph.char))
    (kept : p.used .python naming nameable = some []) (ends : p.Ends '=')
    (digits : ∀ d ∈ text, Json.isNumberCharacter d = true) : IsSilent argument := by
  have foreign : ∀ y ∈ nameable, y.2.toList.all Json.isNumberCharacter = false := by decide
  refine ⟨_, mask, fun d mem => ?_⟩
  have gaps : ∀ c ∈ [d], Mask.isGap .python (.char c) = true := by
    rcases List.mem_pair.1 mem with rfl | rfl <;> exact List.all_eq_true.1 (by decide)
  rw [List.append_assoc]
  exact .number (splits_naming '=') (by decide) (List.all_eq_true.1 (by decide)) foreign kept ends
    digits gaps

theorem isNumberCharacter_of_mem_toString (n : Nat) :
    ∀ d ∈ (toString n).toList, Json.isNumberCharacter d = true := fun d mem => by
  rw [Nat.toString_eq_ofList_toDigits, String.toList_ofList] at mem
  exact Json.isNumberCharacter_of_mem_toDigits d mem

theorem isNumberCharacter_of_mem_pointedText (x : Binary64) :
    ∀ d ∈ (pointedText x).toList, Json.isNumberCharacter d = true := by
  have digits := Json.isNumberCharacter_of_mem_positional (Decimal.shortest .up x)
  rw [pointedText]
  split
  · rw [String.toList_append, List.forall_mem_append]
    exact ⟨isNumberCharacter_of_mem_toString _, List.all_eq_true.1 (by decide)⟩
  · generalize (Decimal.shortest .up x).positional = parts at digits
    rw [String.toList_ofList, List.forall_mem_append, List.forall_mem_cons]
    exact ⟨digits.1, by decide, digits.2⟩

theorem isNumberCharacter_of_mem_secondsLiteral (ms : Nat) :
    ∀ d ∈ (secondsLiteral ms).toList, Json.isNumberCharacter d = true := by
  unfold secondsLiteral
  extract_lets seconds?
  cases seconds? with
  | none => exact List.all_eq_true.1 (by decide)
  | some x => exact isNumberCharacter_of_mem_pointedText x

theorem isSilent_redirectArguments (t : Transport) :
    ∀ argument ∈ redirectArguments client t, IsSilent argument := by
  unfold redirectArguments
  split
  · refine List.forall_mem_singleton.2 ?_
    split <;> exact .of_used (hasMask_text _) rfl rfl
  · refine List.forall_mem_append.2 ⟨?_, ?_⟩
    · split
      · exact List.forall_mem_singleton.2 (.of_used (hasMask_text _) rfl rfl)
      · exact List.forall_mem_nil _
    · split
      · exact List.forall_mem_singleton.2 (.of_number (hasMask_plain_append (hasMask_text _)
          (hasMask_plain _)) rfl ⟨_, rfl, rfl⟩ (isNumberCharacter_of_mem_toString _))
      · exact List.forall_mem_nil _

theorem isSilent_verifyArgument (t : Transport) :
    ∀ argument ∈ verifyArgument t, IsSilent argument := by
  unfold verifyArgument
  split
  · exact List.forall_mem_singleton.2 (.of_used (hasMask_text _) rfl rfl)
  · split
    · exact List.forall_mem_singleton.2
        (.of_used ((hasMask_text _).append (hasMask_string _)) rfl rfl)
    · exact List.forall_mem_nil _

theorem isSilent_proxyArgument (t : Transport) :
    ∀ argument ∈ proxyArgument client t, IsSilent argument := by
  unfold proxyArgument
  split
  · exact List.forall_mem_nil _
  · exact List.forall_mem_singleton.2 (.of_used ((((((((hasMask_text _).append
      (hasMask_string _)).append (hasMask_text _)).append (hasMask_string _)).append
        (hasMask_text _)).append (hasMask_string _)).append (hasMask_text _)).append
          (hasMask_string _) |>.append (hasMask_text _)) rfl rfl)
  · exact List.forall_mem_singleton.2
      (.of_used ((hasMask_text _).append (hasMask_string _)) rfl rfl)

theorem isSilent_certificateArgument (t : Transport) :
    ∀ argument ∈ certificateArgument t, IsSilent argument := by
  unfold certificateArgument
  split
  · exact List.forall_mem_singleton.2 (.of_used (((((hasMask_text _).append
      (hasMask_string _)).append (hasMask_text _)).append (hasMask_string _)).append
        (hasMask_text _)) rfl rfl)
  · exact List.forall_mem_singleton.2
      (.of_used ((hasMask_text _).append (hasMask_string _)) rfl rfl)
  · exact List.forall_mem_nil _

theorem isSilent_timeoutArgument : ∀ argument ∈ (match b.timeout? with
    | some ms => [Code.plain ("timeout=" ++ secondsLiteral ms)]
    | none => []), IsSilent argument := by
  split
  · exact List.forall_mem_singleton.2 (.of_number (hasMask_plain_append (hasMask_text _)
      (hasMask_plain _)) rfl ⟨_, rfl, rfl⟩ (isNumberCharacter_of_mem_secondsLiteral _))
  · exact List.forall_mem_nil _

theorem isSilent_transportArguments :
    ∀ argument ∈ transportArguments client b, IsSilent argument := by
  unfold transportArguments
  simp only [List.forall_mem_append]
  exact ⟨⟨⟨⟨isSilent_timeoutArgument, isSilent_redirectArguments _⟩, isSilent_verifyArgument _⟩,
    isSilent_proxyArgument _⟩, isSilent_certificateArgument _⟩

/-! ## The call -/

def callUses (b : Brief) : List (Use × String) :=
  (if b.hasQuery then [(Use.named, "params")] else []) ++
    (if b.headers.isEmpty then [] else [(Use.named, "headers")]) ++
    (if b.body?.isSome then [(Use.named, "payload")] else []) ++
    (if b.isMultipart then [(Use.named, "files")] else []) ++
    if b.basicAuth?.isSome then [(Use.named, "auth")] else []

theorem refers_given {condition : Bool} {argument : String} {found : List (Use × String)}
    (refers : Refers [line (Code.plain argument ++ ",")] found) :
    Refers ((if condition then [Code.plain argument] else []).map fun argument =>
      line (argument ++ ",")) (if condition then found else []) := by
  cases condition with
  | false => exact .nil
  | true => exact refers

/-- The payload is given whatever the keyword for it is. -/
theorem refers_bodyArgument (sent : Body) :
    Refers [line (Code.plain (bodyKeyword client sent ++ "=payload") ++ ",")]
      [(.named, "payload")] := by
  unfold bodyKeyword
  split <;> exact .line ((hasMask_plain_append (hasMask_text _) (hasMask_text _)).append
    (hasMask_text _)) rfl

theorem refers_payloadArgument : Refers ((match b.body? with
    | some sent => [Code.plain (bodyKeyword client sent ++ "=payload")]
    | none => []).map fun argument => line (argument ++ ","))
    (if b.body?.isSome then [(.named, "payload")] else []) := by
  cases b.body? with
  | none => exact .nil
  | some sent => exact refers_bodyArgument sent

theorem refers_transportArguments : Refers ((match client with
    | .requests => transportArguments client b
    | .httpx => []).map fun argument => line (argument ++ ",")) [] := by
  split
  · exact .map_nil fun argument mem => (isSilent_transportArguments argument mem).refers
  · exact .nil

theorem refers_callArguments : Refers ((callArguments client b).map fun argument =>
    line (argument ++ ",")) (callUses b) := by
  have keyword {text : List Char} {found : List (Use × String)}
      (kept : Mask.used .python naming nameable (text.map Glyph.char ++ Mask.text ",") =
        some found) : Refers [line (Code.plain (String.ofList text) ++ ",")] found :=
    .line ((hasMask_text text).append (hasMask_text _)) kept
  have url : Refers [line (Code.plain "url" ++ ",")] [] := keyword rfl
  have params : Refers [line (Code.plain "params=params" ++ ",")] [(.named, "params")] :=
    keyword rfl
  have headers : Refers [line (Code.plain "headers=headers" ++ ",")] [(.named, "headers")] :=
    keyword rfl
  have files : Refers [line (Code.plain "files=files" ++ ",")] [(.named, "files")] := keyword rfl
  have auth : Refers [line (Code.plain "auth=auth" ++ ",")] [(.named, "auth")] := keyword rfl
  unfold callArguments
  dsimp only
  simp only [List.map_append]
  refine .of_same ((((((url.append (refers_given params)).append (refers_given headers)).append
    refers_payloadArgument).append (refers_given files)).append (refers_given auth)).append
      refers_transportArguments) fun y _ => ?_
  unfold callUses
  cases b.headers <;> simp

/-- The opening of a call by the library or by a client. -/
theorem refers_opening {start receiver : String}
    (starts : start ∈ ["response = await ", "response = "])
    (known : receiver ∈ ["requests", "client"]) :
    Refers [line (start ++ callHead client b receiver)] [] := by
  have own (m : Method) :
      Refers [line (start ++ Code.plain (receiver ++ "." ++ m.lowerVerb ++ "("))] [] := by
    rcases List.mem_pair.1 starts with rfl | rfl <;> rcases List.mem_pair.1 known with rfl | rfl <;>
      cases m <;> exact .line ((hasMask_text _).append (hasMask_plain_append (hasMask_plain_append
        (hasMask_plain_append (hasMask_text _) (hasMask_text _)) (hasMask_text _))
          (hasMask_text _))) rfl
  have other : Refers [line (start ++ (receiver ++ ".request(" ++ string b.method.verb ++ ","))]
      [] := by
    rcases List.mem_pair.1 starts with rfl | rfl <;> rcases List.mem_pair.1 known with rfl | rfl <;>
      exact .line ((hasMask_text _).append ((((hasMask_text _).append (hasMask_text _)).append
        (hasMask_string _)).append (hasMask_text _))) rfl
  unfold callHead
  split
  · exact own b.method
  · exact other

/-- Fixed text between quotes, by its characters. -/
theorem hasMask_fixed {cs : List Char} (enclosed : isEnclosed '"' cs = true) :
    (Code.quoted (String.ofList cs)).HasMask .python [Glyph.literal] := by
  refine hasMask_quoted ?_
  rw [String.toList_ofList]
  exact isLiteral_of_isEnclosed '"' (by decide) (by decide) enclosed

theorem refers_failureTest : Refers [.line (match client with
    | .requests => "if not response.ok:"
    | .httpx => "if response.is_error:" : Code)] [] := by
  cases client <;> exact .text rfl

theorem refers_statusCheck : Refers (statusCheck client b) [] := by
  have raised : Refers [line ("raise RuntimeError(f" ++ Code.quoted
      "\"Request failed with status \x7bresponse.status_code\x7d\"" ++ ")")] [] :=
    .line (((hasMask_text _).append (hasMask_fixed rfl)).append (hasMask_text _)) rfl
  exact (refers_failureTest.scope raised).when.of_same (by simp)

theorem refers_send {receiver : String} (known : receiver ∈ ["requests", "client"]) :
    Refers (send client b receiver) (callUses b) := by
  have closing : Refers [.line ")"] [] := .text rfl
  have json : Refers [line "return response.json()"] [] := .text rfl
  have text : Refers [line "return response.text"] [] := .text rfl
  have returned : Refers [line (Code.plain (if b.expectsJson then "return response.json()"
      else "return response.text"))] [] := by
    split
    · exact json
    · exact text
  have started : (if isAsync client b then "response = await " else "response = ") ∈
      ["response = await ", "response = "] := by
    split <;> simp
  have opening : Refers [line ((if isAsync client b then "response = await " else "response = ") ++
      callHead client b receiver)] [] := refers_opening started known
  have arguments : Refers ((callArguments client b).map fun argument => line (argument ++ ","))
      (callUses b) := refers_callArguments
  have checked : Refers (statusCheck client b) [] := refers_statusCheck
  exact (((opening.block arguments closing).cons checked).append returned).of_same (by simp)

/-- A guarded call reports what has been raised. -/
theorem refers_guardedSend {receiver : String} (known : receiver ∈ ["requests", "client"]) :
    Refers (guardedSend client b receiver) (callUses b) := by
  have tried : Refers [.line "try:"] [] := .text rfl
  have caught : Refers [.line (Code.plain ("except " ++ exception client ++ " as exc:"))] [] := by
    cases client <;> exact .line (hasMask_plain_append (hasMask_plain_append (hasMask_text _)
      (hasMask_text _)) (hasMask_text _)) rfl
  have shown : Refers [line ("print(f" ++ Code.quoted "\"Request failed: \x7bexc\x7d\"" ++ ")")]
      [] :=
    .line (((hasMask_text _).append (hasMask_fixed rfl)).append (hasMask_text _)) rfl
  have raised : Refers [line "raise"] [] := .text rfl
  have sent : Refers (send client b receiver) (callUses b) := refers_send known
  unfold guardedSend
  split
  · have whole := (tried.scope sent).cons (caught.scope (shown.cons raised))
    exact whole.of_same (by simp)
  · exact sent

theorem refers_call : Refers (call client b) (callUses b) := by
  unfold call
  split
  · exact refers_guardedSend (by simp)
  · have silent : List.Forall₂ (IsPart .python naming nameable (Mask.text ") as client:"))
        (transportArguments .httpx b) ((transportArguments .httpx b).map fun _ => []) := by
      rw [List.forall₂_map_right_iff]
      exact List.forall₂_same.2 fun argument mem => (isSilent_transportArguments argument mem).isPart
    have opening : Refers [line ((if isAsync .httpx b then "async with httpx.AsyncClient(" else
        "with httpx.Client(") ++ Code.intercalate ", " (transportArguments .httpx b) ++
          ") as client:")] ([] ++ ((transportArguments .httpx b).map fun _ => []).flatten) := by
      split <;> exact .list splits_naming (by decide) (hasMask_text _) rfl ⟨_, rfl, rfl⟩ rfl silent
    exact (opening.scope (refers_guardedSend (by simp))).of_same (by simp)

/-! ## Behind the call -/

/-- An asynchronous program is run by `asyncio`. -/
def usageUses (client : PythonClient) (b : Brief) : List (Use × String) :=
  if b.comments && isAsync client b then [(.opened, "asyncio")] else []

theorem refers_usage : Refers (usage client b) (usageUses client b) := by
  have title : Refers [line (Code.remark "# Example usage")] [] := .silent (.comment (by decide))
  have main : Refers [.line ("if __name__ == " ++ string "__main__" ++ ":")] [] :=
    .line (((hasMask_text _).append (hasMask_string _)).append (hasMask_text _)) rfl
  have run : Refers [line "print(asyncio.run(make_request()))"] [(.opened, "asyncio")] := .text rfl
  have called : Refers [line "print(make_request())"] [] := .text rfl
  have shown : Refers [line (Code.plain (if isAsync client b then
        "print(asyncio.run(make_request()))" else "print(make_request())"))]
      (if isAsync client b then [(.opened, "asyncio")] else []) := by
    split
    · exact run
    · exact called
  refine ((Uses.blank.cons title).append (main.scope shown)).when.of_same fun y _ => ?_
  unfold usageUses
  cases b.comments <;> simp

def closing (client : PythonClient) (b : Brief) : List Step :=
  call client b ++ usage client b

theorem refers_closing : Refers (closing client b) (callUses b ++ usageUses client b) :=
  refers_call.append refers_usage

end Python

end RequestScribe
