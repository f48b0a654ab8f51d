import RequestScribe.Proofs.Program.Comments
import RequestScribe.Proofs.Program.Documentation
import RequestScribe.Proofs.Program.MultipartMaps

/-!
# Variables that a program looks up

Every value that a program needs stands on one of its lines, alone or behind a text, and
with it the look-up of the variable that it is read from.  The variables are those of the
values, so none is missing from the program.  They are listed in a section of the documentation.
-/

namespace RequestScribe

/-! ## Parts of lines -/

def Code.HasPart (c part : Code) : Prop :=
  part.pieces <:+: c.pieces

namespace Code.HasPart

variable {c part : Code}

theorem refl (c : Code) : c.HasPart c := List.infix_rfl

theorem behind (before : Code) (h : c.HasPart part) : (before ++ c).HasPart part :=
  List.IsInfix.trans h (List.suffix_append _ _).isInfix

theorem andThen (after : Code) (h : c.HasPart part) : (c ++ after).HasPart part :=
  List.IsInfix.trans h (List.prefix_append _ _).isInfix

theorem pair (lead first between second tail : Code) :
    (lead ++ first ++ between ++ second ++ tail).HasPart first ∧
      (lead ++ first ++ between ++ second ++ tail).HasPart second :=
  ⟨.andThen _ (.andThen _ (.andThen _ (.behind _ (.refl _)))), .andThen _ (.behind _ (.refl _))⟩

theorem text (h : c.HasPart part) : part.text.toList <:+: c.text.toList := by
  obtain ⟨before, after, whole⟩ := h
  have same : c = ⟨before⟩ ++ part ++ ⟨after⟩ := congrArg Code.mk whole.symm
  rw [same, Code.text_append, Code.text_append, String.toList_append, String.toList_append]
  exact List.infix_append _ _ _

end Code.HasPart

namespace Step

variable {steps inner outer : List Step} {part : Code}

/-- Whether a line among some steps, at any depth, has a part. -/
inductive Shows (part : Code) : List Step → Prop where
  | line {steps : List Step} {text : Code} :
      .line text ∈ steps → text.HasPart part → Shows part steps
  | block {steps body : List Step} {opening closing : Code} :
      .block opening closing body ∈ steps → Shows part body → Shows part steps
  | scope {steps body : List Step} {opening : Code} :
      .scope opening body ∈ steps → Shows part body → Shows part steps

namespace Shows

theorem mono (shown : Shows part inner) (within : inner ⊆ outer) : Shows part outer := by
  cases shown with
  | line mem has => exact .line (within mem) has
  | block mem body => exact .block (within mem) body
  | scope mem body => exact .scope (within mem) body

theorem of_hasPart {whole : Code} (shown : Shows whole steps) (has : whole.HasPart part) :
    Shows part steps := by
  induction shown with
  | line mem more => exact .line mem (List.IsInfix.trans has more)
  | block mem _ ih => exact .block mem ih
  | scope mem _ ih => exact .scope mem ih

theorem exists_holds (shown : Shows part steps) :
    ∃ line : Code, line.HasPart part ∧ Holds [.line line] steps := by
  have among {inner : List Step} {step : Step} {steps : List Step} (mem : step ∈ steps)
      (held : Holds inner [step]) : Holds inner steps := by
    obtain ⟨before, after, rfl⟩ := List.append_of_mem mem
    exact (held.andThen after).behind before
  induction shown with
  | line mem has => exact ⟨_, has, among mem .refl⟩
  | block mem _ ih =>
      obtain ⟨line, has, held⟩ := ih
      exact ⟨line, has, among mem (.block _ _ held)⟩
  | scope mem _ ih =>
      obtain ⟨line, has, held⟩ := ih
      exact ⟨line, has, among mem (.scope _ held)⟩

/-- A part that ends with what can be seen stands in the text of the program. -/
theorem infix_layOut (shown : Shows part steps)
    (ends : ∃ front c, part.text.toList = front ++ [c] ∧ Chars.isBlank c = false) (unit : String) :
    part.text.toList <:+: (layOut unit steps).toList := by
  obtain ⟨line, has, held⟩ := shown.exists_holds
  obtain ⟨front, c, text, visible⟩ := ends
  have within := has.text
  rw [text] at within ⊢
  exact infix_layOut_of_holds held within visible

end Shows

end Step

/-! ## Look-ups -/

namespace Fragment

theorem after_empty (f : Fragment) : f.after "" = f := by
  cases f <;> simp [after]

theorem var?_after (lead : String) (f : Fragment) : (f.after lead).var? = f.var? := by
  cases f <;> rfl

end Fragment

namespace Target

def fragments : Target → FragmentSyntax
  | .javaScript _ => Script.fragments false
  | .typeScript _ => Script.fragments true
  | .python _ => Python.fragments
  | .go => Go.fragments
  | .rust => Rust.fragments
  | .php => Php.fragments
  | .ruby => Ruby.fragments

/-- What stands in front of the name of a variable and behind it where a program reads it. -/
def lookupEnds : Target → String × String
  | .javaScript _ => ("process.env.", "")
  | .typeScript _ => ("(process.env.", " ?? '')")
  | .python _ => ("os.environ[\"", "\"]")
  | .go => ("os.Getenv(\"", "\")")
  | .rust => ("std::env::var(\"", "\")?")
  | .php => ("getenv('", "')")
  | .ruby => ("ENV.fetch('", "')")

def lookupText (t : Target) (var : String) : String :=
  t.lookupEnds.1 ++ var ++ t.lookupEnds.2

theorem text_env (t : Target) (var : String) : (t.fragments.env var).text = t.lookupText var := by
  rw [← String.toList_inj]
  cases t with
  | javaScript => simp [fragments, lookupText, lookupEnds, Script.fragments, Script.envLookup]
  | typeScript =>
      have nothing : (StringLiteral.singleEscaped "").toList = ['\'', '\''] := rfl
      simp [fragments, lookupText, lookupEnds, Script.fragments, Script.envLookup, Script.string,
        nothing]
  | python => simp [fragments, lookupText, lookupEnds, Python.fragments, Python.envLookup]
  | go => simp [fragments, lookupText, lookupEnds, Go.fragments, Go.envLookup]
  | rust => simp [fragments, lookupText, lookupEnds, Rust.fragments, Rust.envLookup]
  | php => simp [fragments, lookupText, lookupEnds, Php.fragments, Php.envLookup]
  | ruby => simp [fragments, lookupText, lookupEnds, Ruby.fragments, Ruby.envLookup]

/-- A value that is read from a variable has the look-up as a part. -/
theorem hasPart_code (t : Target) {f : Fragment} {var : String} (reads : f.var? = some var) :
    (t.fragments.code f).HasPart (t.fragments.env var) := by
  have joined (lead : String) : (t.fragments.joined lead var).HasPart (t.fragments.env var) := by
    cases t with
    | rust => exact ((Code.HasPart.refl _).behind _).andThen _
    | _ => exact (Code.HasPart.refl _).behind _
  cases f with
  | literal text => exact absurd reads (by simp [Fragment.var?])
  | env other lead =>
      obtain rfl := Option.some.inj reads
      unfold FragmentSyntax.code
      dsimp only
      split
      · exact .refl _
      · exact joined lead

theorem exists_last_lookupText (t : Target) {var : String} (named : Lexis.IsName var) :
    ∃ front c, (t.lookupText var).toList = front ++ [c] ∧ Chars.isBlank c = false := by
  have closed {front : List Char} {c : Char} (tail : t.lookupEnds.2.toList = front ++ [c])
      (visible : Chars.isBlank c = false) :
      ∃ front c, (t.lookupText var).toList = front ++ [c] ∧ Chars.isBlank c = false :=
    ⟨t.lookupEnds.1.toList ++ var.toList ++ front, c, by simp [lookupText, tail], visible⟩
  cases t with
  | javaScript =>
      obtain ⟨front, c, text⟩ := (List.eq_nil_or_concat var.toList).resolve_left
        (by simpa using named.nonempty)
      have letter := named.letters c (by rw [text]; simp)
      refine ⟨"process.env.".toList ++ front, c, by simp [lookupText, lookupEnds, text], ?_⟩
      cases blank : Chars.isBlank c with
      | false => rfl
      | true => exact absurd letter (by simp [Lexis.Reader.isNameCharacter_of_isBlank blank])
  | typeScript => exact @closed " ?? ''".toList ')' (by simp [lookupEnds]) (by decide)
  | python => exact @closed ['"'] ']' (by simp [lookupEnds]) (by decide)
  | go => exact @closed ['"'] ')' rfl (by decide)
  | rust => exact @closed ['"', ')'] '?' rfl (by decide)
  | php | ruby => exact @closed ['\''] ')' rfl (by decide)

end Target

/-! ## Values of a brief -/

open Step (Shows)

namespace Brief

variable {b : Brief} {value : Fragment → Code} {steps : List Step}

/-- Whether the lines of a program have all values; there may be a text in front of one. -/
def HasValues (b : Brief) (value : Fragment → Code) (steps : List Step) : Prop :=
  ∀ f ∈ b.fragments, ∃ lead, Shows (value (f.after lead)) steps

theorem hasValues_of
    (credentials : ∀ user password, b.basicAuth? = some (user, password) →
      Shows (value user) steps ∧ Shows (value password) steps)
    (headers : ∀ header ∈ b.headers, ∃ lead, Shows (value (header.2.after lead)) steps) :
    b.HasValues value steps := by
  intro f mem
  rcases List.mem_append.1 mem with mem | mem
  · cases given : b.basicAuth? with
    | none => simp [given] at mem
    | some pair =>
        obtain ⟨user, password⟩ := pair
        obtain ⟨first, second⟩ := credentials user password given
        have both : f = user ∨ f = password := by simpa [given] using mem
        rcases both with rfl | rfl
        · exact ⟨"", by rwa [Fragment.after_empty]⟩
        · exact ⟨"", by rwa [Fragment.after_empty]⟩
  · obtain ⟨header, held, rfl⟩ := List.mem_map.1 mem
    exact headers header held

/-- If the values of headers stand in the program as they are. -/
theorem hasValues_of_plain
    (credentials : ∀ user password, b.basicAuth? = some (user, password) →
      Shows (value user) steps ∧ Shows (value password) steps)
    (headers : ∀ header ∈ b.headers, Shows (value header.2) steps) : b.HasValues value steps := by
  refine hasValues_of credentials fun header held => ⟨"", ?_⟩
  rw [Fragment.after_empty]
  exact headers header held

/-- A program that has the values looks up the variables that they are read from. -/
theorem HasValues.lookup {t : Target} (values : b.HasValues t.fragments.code steps) {var : String}
    (used : ∃ f ∈ b.fragments, f.var? = some var) : Shows (t.fragments.env var) steps := by
  obtain ⟨f, mem, reads⟩ := used
  obtain ⟨lead, shown⟩ := values f mem
  exact shown.of_hasPart (t.hasPart_code ((f.var?_after lead).trans reads))

end Brief

open Code.HasPart (behind andThen)

namespace Go

variable {b : Brief}

theorem hasValues : b.HasValues value (program b).steps := by
  have inside : makeRequest b ∈ (program b).steps := by simp [program]
  have within {part : Code} (shown : Shows part (headers b)) : Shows part (program b).steps :=
    .block inside (shown.mono fun step mem => by simp [mem])
  refine Brief.hasValues_of_plain (fun user password given => ?_) fun header held => within ?_
  · have call : .line ("req.SetBasicAuth(" ++ value user ++ ", " ++ value password ++ ")") ∈
        headers b := by simp [headers, given]
    exact (Code.HasPart.pair _ _ _ _ _).imp (within <| .line call ·) (within <| .line call ·)
  · refine .line (List.mem_append_left _ (List.mem_append_left _ (List.mem_map_of_mem held))) ?_
    exact .andThen _ (.behind _ (.refl _))

end Go

namespace Ruby

variable {b : Brief}

theorem hasValues : b.HasValues value (program b).steps := by
  have inside : makeRequest b ∈ (program b).steps := by simp [program]
  have within {part : Code} (shown : Shows part (headers b)) : Shows part (program b).steps :=
    .block inside (shown.mono fun step mem => by simp [mem])
  refine Brief.hasValues_of_plain (fun user password given => ?_) fun header held => within ?_
  · have call : .line ("request.basic_auth(" ++ value user ++ ", " ++ value password ++ ")") ∈
        headers b := by simp [headers, given]
    exact (Code.HasPart.pair _ _ _ _ _).imp (within <| .line call ·) (within <| .line call ·)
  · exact .line (List.mem_append_left _ (List.mem_map_of_mem held)) (.behind _ (.refl _))

end Ruby

namespace Rust

variable {b : Brief}

theorem hasValues : b.HasValues value (program b).steps := by
  have inside : makeRequest b ∈ (program b).steps := by simp [program]
  have within {call part : Code} (mem : call ∈ requestCalls b) (has : call.HasPart part) :
      Shows part (program b).steps := by
    have sent : .line call ∈ send b := by simp [send, mem]
    have shown : Shows part (send b) := .line sent has
    exact .block inside (shown.mono fun step mem => by simp [mem])
  refine Brief.hasValues_of_plain (fun user password given => ?_) fun header held => ?_
  · have call : ".basic_auth(" ++ value user ++ ", Some(" ++ value password ++ "))" ∈
        requestCalls b := by simp [requestCalls, given]
    exact (Code.HasPart.pair _ _ _ _ _).imp (within call) (within call)
  · have call : ".header(" ++ string header.1 ++ ", " ++ value header.2 ++ ")" ∈ requestCalls b := by
      simp only [requestCalls, List.mem_append]
      exact .inl (.inl (.inr (List.mem_map_of_mem held)))
    exact within call (.andThen _ (.behind _ (.refl _)))

end Rust

namespace Php

variable {b : Brief}

/-- The name of a header stands in front of its value. -/
theorem hasValues : b.HasValues value (program b).steps := by
  obtain ⟨body, same, contained, transfer⟩ : ∃ body, makeRequest b =
      [.line "function makeRequest()", .block "\x7b" "\x7d" body] ∧ headers b ⊆ body ∧
      .block "curl_setopt_array($ch, [" "]);"
        ((transferOptions b).map fun option => .line (option ++ ",")) ∈ body :=
    ⟨_, rfl, fun step mem => by simp [mem], by simp⟩
  have inside : .block "\x7b" "\x7d" body ∈ (program b).steps := by simp [program, same]
  refine Brief.hasValues_of (fun user password given => ?_) fun header held => ⟨header.1 ++ ": ", ?_⟩
  · have option : "CURLOPT_USERPWD" ++ " => " ++
        (value user ++ " . " ++ string ":" ++ " . " ++ value password) ∈ transferOptions b := by
      unfold transferOptions
      simp [Php.option, given]
    have credentials {part : Code} (has : Code.HasPart (value user ++ " . " ++ string ":" ++ " . " ++
        value password) part) : Shows part (program b).steps := by
      refine .block inside (.block transfer (.line (List.mem_map_of_mem option) ?_))
      exact .andThen _ (.behind _ has)
    exact ⟨credentials (.andThen _ (.andThen _ (.andThen _ (.andThen _ (.refl _))))),
      credentials (.behind _ (.refl _))⟩
  · have some : b.headers.isEmpty = false := by simpa using List.ne_nil_of_mem held
    have table : headers b = [.block "$headers = [" "];" (b.headers.map fun header =>
        .line (value (header.2.after (header.1 ++ ": ")) ++ ","))] := by
      rw [headers, some]
      rfl
    have lines : Shows (value (header.2.after (header.1 ++ ": "))) (headers b) := by
      rw [table]
      exact .block List.mem_cons_self
        (.line (List.mem_map_of_mem held) (.andThen _ (.refl _)))
    exact .block inside (lines.mono contained)

end Php

namespace Python

variable {b : Brief}

theorem program_eq_ok {client : PythonClient} {p : Program} (made : program client b = .ok p) :
    p.dependencies = [moduleName client] ∧ p.steps = steps client b := by
  unfold program at made
  split at made
  · cases made
  · obtain rfl := Except.ok.inj made
    exact ⟨rfl, rfl⟩

theorem hasValues (client : PythonClient) : b.HasValues value (steps client b) := by
  have within {part : Code} (shown : Shows part (preamble b)) : Shows part (steps client b) := by
    have inside : .scope (signature client b) (summary b ++ preamble b ++ [.blank] ++
        call client b) ∈ steps client b := by simp [steps]
    exact .scope inside (shown.mono fun step mem => by simp [mem])
  refine Brief.hasValues_of_plain (fun user password given => ?_) fun header held => within ?_
  · have auth : .line ("auth = (" ++ value user ++ ", " ++ value password ++ ")") ∈
        preamble b := by simp [preamble, given]
    exact (Code.HasPart.pair _ _ _ _ _).imp (within <| .line auth ·) (within <| .line auth ·)
  · have some : b.headers.isEmpty = false := by simpa using List.ne_nil_of_mem held
    have table : .block "headers = \x7b" "\x7d"
        (b.headers.map fun header => entry header.1 (value header.2)) ∈ preamble b := by
      simp [preamble, Step.when, some]
    exact .block table (.line (List.mem_map_of_mem held) (.andThen _ (.behind _ (.refl _))))

end Python

namespace Script

variable {s : Script} {b : Brief}

theorem shows_preamble {part : Code} (shown : Shows part (s.preamble b)) :
    Shows part (s.program b).steps := by
  have inside : s.makeRequest b ∈ (s.program b).steps := by simp [program]
  exact .block inside (shown.mono fun step mem => by simp [mem])

/-- The options of the call stand in a block, however the call is written. -/
theorem shows_option {option part : Code} (mem : option ∈ s.options b)
    (has : option.HasPart part) : Shows part (s.program b).steps := by
  have inside : s.makeRequest b ∈ (s.program b).steps := by simp [program]
  have shown : Shows part ((s.options b).map Step.line) := .line (List.mem_map_of_mem mem) has
  have sent : Shows part (if b.settings.awaiting then s.guardedCall b else s.chainedCall b) := by
    split
    · have awaited : Shows part (s.awaitingCall b) := .block List.mem_cons_self shown
      unfold guardedCall
      split
      · exact .block List.mem_cons_self awaited
      · exact awaited
    · exact .block List.mem_cons_self shown
  exact .block inside (sent.mono fun step mem => by simp [mem])

theorem hasValues : b.HasValues s.value (s.program b).steps := by
  refine Brief.hasValues_of_plain (fun user password given => ?_) fun header held => ?_
  · cases client : s.client with
    | fetch =>
        have line : s.credentialsHeader user password ∈ s.preamble b := by
          simp [preamble, headers, client, given]
        exact ⟨shows_preamble (.line line (.andThen _ (.andThen _ (.andThen _ (.andThen _
            (.andThen _ (.behind _ (.refl _)))))))),
          shows_preamble (.line line (.andThen _ (.behind _ (.refl _))))⟩
    | axios =>
        have auth : "auth: \x7b username: " ++ s.value user ++ ", password: " ++
            s.value password ++ " \x7d," ∈ s.options b := by
          simp [options, client, axiosOptions, given]
        exact (Code.HasPart.pair _ _ _ _ _).imp (shows_option auth) (shows_option auth)
  · have some : b.headers.isEmpty = false := by simpa using List.ne_nil_of_mem held
    have table : Shows (s.value header.2) (s.headers b) := by
      unfold headers
      rw [some]
      exact .block (List.mem_append_left _ List.mem_cons_self)
        (.line (List.mem_map_of_mem held) (.andThen _ (.behind _ (.refl _))))
    exact shows_preamble (table.mono fun step mem => by simp [preamble, mem])

end Script

/-! ## Every target -/

namespace Target

variable {t : Target} {b : Brief} {p : Program}

theorem hasValues (made : t.program b = .ok p) : b.HasValues t.fragments.code p.steps := by
  cases t with
  | javaScript client =>
      obtain rfl := Except.ok.inj made
      exact @Script.hasValues ⟨false, client⟩ b
  | typeScript client =>
      obtain rfl := Except.ok.inj made
      exact @Script.hasValues ⟨true, client⟩ b
  | python client =>
      obtain ⟨-, same⟩ := Python.program_eq_ok made
      exact same ▸ Python.hasValues client
  | go =>
      obtain rfl := Except.ok.inj made
      exact Go.hasValues
  | rust =>
      obtain rfl := Except.ok.inj made
      exact Rust.hasValues
  | php =>
      obtain rfl := Except.ok.inj made
      exact Php.hasValues
  | ruby =>
      obtain rfl := Except.ok.inj made
      exact Ruby.hasValues

def libraries : List String :=
  ["axios", "typescript", "@types/node", "requests", "httpx", "reqwest", "tokio", "serde_json",
    "serde", "ext-curl"]

theorem mem_libraries (made : t.program b = .ok p) : ∀ name ∈ p.dependencies, name ∈ libraries := by
  have script : ∀ s : Script, ∀ name ∈ s.dependencies, name ∈ libraries := by
    rintro ⟨_ | _, _ | _⟩ <;> decide
  cases t with
  | javaScript | typeScript =>
      obtain rfl := Except.ok.inj made
      exact script _
  | python client =>
      rw [(Python.program_eq_ok made).1]
      cases client <;> decide
  | go | ruby =>
      obtain rfl := Except.ok.inj made
      exact List.forall_mem_nil _
  | php =>
      obtain rfl := Except.ok.inj made
      exact List.forall_mem_singleton.2 (by decide)
  | rust =>
      obtain rfl := Except.ok.inj made
      intro name mem
      have cases : name = "reqwest" ∨ name = "tokio" ∨ name = "serde_json" ∨ name = "serde" := by
        simp only [Rust.program, Rust.dependencies, List.mem_append, List.mem_singleton,
          List.mem_ite_nil_right] at mem
        grind
      rcases cases with rfl | rfl | rfl | rfl <;> decide

end Target

/--
A program looks up each of the variables that stand for secrets on one of its lines, in the way
of its language, and the documentation lists just these variables, in their order.  It begins with
the address, so it is read as a whole if that has no line feed, and else from behind it.
-/
theorem Generated.ofRequest_lookups {t : Target} {settings : Settings} {r : Request}
    {made : Generated} (ok : ofRequest t settings r = .ok made) :
    let b := Brief.ofRequest settings r
    let vars := made.envVars.map Prod.fst
    let listed := if vars.isEmpty then [] else [some vars]
    (∃ p, t.program b = .ok p ∧ made.code = Step.layOut b.unit p.steps ∧
      ∀ var ∈ vars, Shows (t.fragments.env var) p.steps) ∧
    (∀ var ∈ vars, (t.lookupText var).toList <:+: made.code.toList) ∧
    (∃ body, made.documentation = "# " ++ b.summary ++ "\n\n" ++ body ∧
      Documentation.listed body = listed) ∧
    ('\n' ∉ r.url.toList → Documentation.listed made.documentation = listed) := by
  intro b vars listed
  obtain ⟨p, program, rfl⟩ := exists_program ok
  have named : ∀ var ∈ vars, Lexis.IsName var :=
    Extraction.isNamed_ofRequest settings.extractEnvVars r
  have shown : ∀ var ∈ vars, Shows (t.fragments.env var) p.steps := fun var mem =>
    (Target.hasValues program).lookup ((Extraction.mem_envVars_iff _ r var).1 mem)
  have wholeNames : ∀ var ∈ vars, '\n' ∉ var.toList := fun var mem feed =>
    absurd ((named var mem).letters '\n' feed) (by decide)
  have wholeLibraries : ∀ name ∈ p.dependencies, '\n' ∉ name.toList := by
    have known : ∀ name ∈ Target.libraries, '\n' ∉ name.toList := by decide
    exact fun name mem => known name (Target.mem_libraries program name mem)
  have documented := Documentation.listed_text t (b := b) wholeNames wholeLibraries
  refine ⟨⟨p, program, rfl, shown⟩, fun var mem => ?_, documented.1, fun whole => ?_⟩
  · have ends := t.exists_last_lookupText (named var mem)
    rw [← t.text_env var] at ends ⊢
    exact (shown var mem).infix_layOut ends _
  · exact documented.2 (mt (Brief.mem_summary_iff (by decide)).1 whole)

/-- Credentials for the library and a key in a header. -/
theorem Generated.ofRequest_lookups_key :
    let r : Request :=
      { method := .get
        url := "https://x.test"
        headers := [("X-Api-Key", "k")]
        body? := none
        rawBody? := none
        authorization? := some (.basic "u" "p")
        cookies := []
        files := []
        query := []
        transport := {} }
    let vars := ["BASIC_AUTH_USERNAME", "BASIC_AUTH_PASSWORD", "X_API_KEY"]
    ∃ made, ofRequest .rust {} r = .ok made ∧ made.envVars.map Prod.fst = vars ∧
      (∀ var ∈ vars, (Target.lookupText .rust var).toList <:+: made.code.toList) ∧
      Documentation.listed made.documentation = [some vars] := by
  intro r vars
  obtain ⟨made, ok⟩ : ∃ made, ofRequest .rust {} r = .ok made := ⟨_, rfl⟩
  have extracted : (Brief.extraction {} r).envVars.map Prod.fst = vars := by decide
  have names : made.envVars.map Prod.fst = vars := by
    obtain ⟨p, -, rfl⟩ := exists_program ok
    exact extracted
  obtain ⟨-, code, -, documentation⟩ := ofRequest_lookups ok
  rw [names] at code documentation
  exact ⟨made, ok, names, code, documentation (by decide)⟩

end RequestScribe
