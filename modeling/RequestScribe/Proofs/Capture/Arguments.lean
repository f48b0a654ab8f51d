import RequestScribe.Proofs.Capture.Reading
import RequestScribe.Proofs.Shell.BareWord

/-!
# The arguments of a captured request's command

Every value that a captured request puts into its command is one argument of
it, whatever the value contains, for all of them are quoted.  The method alone is
written as it is: where it is named, the command is cut into its arguments just
if the method stands alone.
-/

namespace RequestScribe

namespace CommandWord

/-! ## A text without quotes between safe words -/

variable {ws : List CommandWord}

/-- Safe words before a blank each are all done, and no word is under construction. -/
theorem run_words (safe : ∀ w ∈ ws, w.IsSafe) (done : List (List Char)) (rest : List Char) :
    Shell.Scan.run ⟨.unquoted, done, [], false⟩
        (ws.flatMap (fun w => w.text.toList ++ [' ']) ++ rest) =
      Shell.Scan.run ⟨.unquoted, (ws.map fun w => w.value.toList).reverse ++ done, [], false⟩
        rest := by
  induction ws generalizing done with
  | nil => rfl
  | cons w ws ih =>
      obtain ⟨first, later⟩ := List.forall_mem_cons.1 safe
      have space : Shell.IsGap [' '] := by decide
      rw [List.flatMap_cons, List.append_assoc, List.append_assoc, first.reads,
        Shell.Scan.run_gap_after_word space (by simp), ih later]
      simp

/-- Safe words behind a blank each come after the words so far. -/
theorem finish_run_words (safe : ∀ w ∈ ws, w.IsSafe) (done : List (List Char))
    (word : List Char) :
    (Shell.Scan.run ⟨.unquoted, done, word, true⟩
        (ws.flatMap fun w => ' ' :: w.text.toList)).finish =
      .ok (done.reverse ++ word.reverse :: ws.map fun w => w.value.toList) := by
  induction ws generalizing done word with
  | nil => simp [Shell.Scan.run, Shell.Scan.finish, Shell.Scan.split]
  | cons w ws ih =>
      obtain ⟨first, later⟩ := List.forall_mem_cons.1 safe
      have ended : Shell.Scan.run ⟨.unquoted, done, word, true⟩
          (' ' :: (w.text.toList ++ ws.flatMap fun w => ' ' :: w.text.toList)) =
          Shell.Scan.run ⟨.unquoted, word.reverse :: done, [], false⟩
            (w.text.toList ++ ws.flatMap fun w => ' ' :: w.text.toList) := rfl
      rw [List.flatMap_cons, List.cons_append, ended, first.reads, ih later]
      simp

/-- A safe word that comes back as the last one has been entered outside of all quotes. -/
theorem IsSafe.finish_of_text {w : CommandWord} (safe : w.IsSafe) {scan : Shell.Scan}
    {front : List (List Char)}
    (read : (scan.run (' ' :: w.text.toList)).finish = .ok (front ++ [w.value.toList])) :
    scan.state = .unquoted ∧ scan.finish = .ok front := by
  unfold text at read
  cases hquoted : w.quoted with
  | true =>
      rw [hquoted, if_pos rfl, Shell.toList_quote] at read
      exact Shell.Scan.finish_of_quoted read
  | false =>
      rw [hquoted, if_neg Bool.false_ne_true] at read
      have plain : Shell.IsPlain w.value.toList := by simpa [hquoted] using safe.readable
      exact Shell.Scan.finish_of_plain plain read

/-- If safe words come back at the end, the text in front of them is complete. -/
theorem finish_of_words (safe : ∀ w ∈ ws, w.IsSafe) (nonempty : ws ≠ []) {scan : Shell.Scan}
    {front : List (List Char)}
    (read : (scan.run (ws.flatMap fun w => ' ' :: w.text.toList)).finish =
      .ok (front ++ ws.map fun w => w.value.toList)) :
    scan.state = .unquoted ∧ scan.finish = .ok front := by
  induction ws generalizing scan front with
  | nil => exact absurd rfl nonempty
  | cons w ws ih =>
      obtain ⟨first, later⟩ := List.forall_mem_cons.1 safe
      cases ws with
      | nil => exact first.finish_of_text (by simpa using read)
      | cons next rest =>
          have inLine : ((next :: rest).flatMap fun w => ' ' :: w.text.toList).head? ≠ some '\'' := by
            simp
          rw [List.flatMap_cons, Shell.Scan.run_append inLine] at read
          have complete : (scan.run (' ' :: w.text.toList)).finish =
              .ok (front ++ [w.value.toList]) := (ih later (by simp) (by simpa using read)).2
          exact first.finish_of_text complete

theorem intercalate_around {α : Type} (sep : List α) (before after : List (List α))
    (word : List α) :
    List.intercalate sep (before ++ word :: after) =
      before.flatMap (· ++ sep) ++ (word ++ after.flatMap (sep ++ ·)) := by
  have behind (word : List α) : List.intercalate sep (word :: after) =
      word ++ after.flatMap (sep ++ ·) := by
    induction after generalizing word with
    | nil => simp
    | cons next after ih =>
        rw [List.intercalate_cons_cons, ih, List.flatMap_cons]
        simp only [List.append_assoc]
  induction before with
  | nil => exact behind word
  | cons first before ih =>
      have more : before ++ word :: after ≠ [] := by simp
      rw [List.cons_append, List.intercalate_cons_of_ne_nil more, ih, List.flatMap_cons]
      simp only [List.append_assoc]

/--
A bare word between words that are done and safe ones is read as it stands just
if it stands alone.
-/
theorem finish_around_iff {after : List CommandWord} (safe : ∀ w ∈ after, w.IsSafe)
    (behind : after ≠ []) (front : List (List Char)) (word : List Char) :
    ((Shell.Scan.run ⟨.unquoted, front.reverse, [], false⟩ word).run
        (after.flatMap fun w => ' ' :: w.text.toList)).finish =
        .ok (front ++ word :: after.map fun w => w.value.toList) ↔
      Shell.StandsAlone word := by
  constructor
  · intro read
    rw [← List.singleton_append, ← List.append_assoc] at read
    obtain ⟨closed, complete⟩ := finish_of_words safe behind read
    have literal : ∀ c ∈ word, Shell.IsLiteral c := by
      by_cases literal : ∀ c ∈ word, Shell.IsLiteral c
      · exact literal
      · have small := Shell.Scan.size_run_lt literal front.reverse [] false closed
        have whole := Shell.Scan.size_of_finish closed complete
        simp only [List.length_flatten, List.map_append, List.map_reverse, List.sum_append,
          List.sum_reverse, List.map_cons, List.map_nil, List.sum_cons, List.sum_nil,
          List.length_nil] at small whole
        omega
    refine ⟨?_, literal⟩
    rintro rfl
    simp [Shell.Scan.run, Shell.Scan.finish, Shell.Scan.split] at complete
  · rintro ⟨nonempty, literal⟩
    have started : (false || !word.isEmpty) = true := by simpa using nonempty
    rw [Shell.Scan.run_literal literal, started, finish_run_words safe]
    simp

/--
A line of safe words with one bare word between them, but not at its end, is cut
into what the words stand for just if the bare one stands alone.
-/
theorem tokenize_line_iff {before after : List CommandWord} {word : String}
    (safe : ∀ w ∈ before, w.IsSafe) (safe' : ∀ w ∈ after, w.IsSafe) (behind : after ≠ [])
    (joined : ¬Shell.HasContinuation word.toList) :
    Shell.tokenize (" ".intercalate ((before ++ bare word :: after).map text)) =
        .ok ((before ++ bare word :: after).map value) ↔
      Shell.StandsAlone word.toList := by
  let front := before.map fun w => w.value.toList
  have unbroken : ∀ w ∈ before ++ bare word :: after, ¬Shell.HasContinuation w.text.toList :=
    List.forall_mem_append.2 ⟨fun w hw => (safe w hw).not_hasContinuation_text,
      List.forall_mem_cons.2 ⟨joined, fun w hw => (safe' w hw).not_hasContinuation_text⟩⟩
  -- The scan comes to the bare word with the values before it done.
  have cut : Shell.scanWords
        (List.intercalate [' '] ((before ++ bare word :: after).map fun w => w.text.toList)) =
      ((Shell.Scan.run ⟨.unquoted, front.reverse, [], false⟩ word.toList).run
        (after.flatMap fun w => ' ' :: w.text.toList)).finish := by
    have inLine : (after.flatMap fun w => ' ' :: w.text.toList).head? ≠ some '\'' := by
      cases after with
      | nil => exact absurd rfl behind
      | cons w after => simp
    have read := run_words safe [] (word.toList ++ after.flatMap fun w => ' ' :: w.text.toList)
    rw [List.append_nil, Shell.Scan.run_append inLine] at read
    rw [List.map_append, List.map_cons, intercalate_around, Shell.scanWords,
      ← congrArg Shell.Scan.finish read]
    simp [List.flatMap_map, bare, text]
  rw [tokenize_line_eq_ok_iff unbroken, cut, ← finish_around_iff safe' behind front word.toList]
  simp [front, bare]

end CommandWord

namespace CapturedRequest

variable {r : CapturedRequest}

/-! ## The arguments of a command -/

def headerArguments (headers : List (String × String)) : List String :=
  headers.flatMap fun header => ["-H", header.1 ++ ": " ++ header.2]

/-- The parameters that count, or else the text behind the content type it implies. -/
def bodyArguments (r : CapturedRequest) : List String :=
  match r.formParams, r.bodyText? with
  | [], some text => headerArguments r.bodyHeader ++ ["--data-raw", text]
  | params, _ => params.flatMap fun p => ["-F", p.spec]

def arguments (r : CapturedRequest) : List String :=
  "curl" :: ((if r.namesMethod then ["-X", Text.upper r.method] else []) ++
    headerArguments r.keptHeaders ++ r.bodyArguments ++ [r.url])

theorem map_value_headerWords (headers : List (String × String)) :
    (headerWords headers).map CommandWord.value = headerArguments headers := by
  simp [headerWords, headerArguments, List.map_flatMap, CommandWord.option, CommandWord.bare]

theorem map_value_bodyWords (r : CapturedRequest) :
    r.bodyWords.map CommandWord.value = r.bodyArguments := by
  have params (ps : List PostedParam) :
      (ps.flatMap fun p => CommandWord.option "-F" p.spec).map CommandWord.value =
        ps.flatMap fun p => ["-F", p.spec] := by
    simp [List.map_flatMap, CommandWord.option, CommandWord.bare]
  rw [bodyWords_eq, bodyArguments]
  cases r.formParams with
  | cons p ps => exact params (p :: ps)
  | nil =>
      cases r.bodyText? with
      | none => exact params []
      | some text => simp [map_value_headerWords, CommandWord.option, CommandWord.bare]

theorem map_value_words (r : CapturedRequest) :
    r.words.map CommandWord.value = r.arguments := by
  have method : r.methodWords.map CommandWord.value =
      if r.namesMethod then ["-X", Text.upper r.method] else [] := by
    unfold methodWords
    split <;> rfl
  simp [words, arguments, method, map_value_headerWords, map_value_bodyWords, CommandWord.bare]

theorem IsJoined.upper_method (h : r.IsJoined) :
    ¬Shell.HasContinuation (Text.upper r.method).toList := by
  have keeps (c : Char) (special : c.toUpper = '\\' ∨ c.toUpper = '\n' ∨ c.toUpper = '\r') :
      c.toUpper = c := by
    apply Chars.toUpper_eq_self
    rcases special with eq | eq | eq <;> rw [eq] <;> decide
  rw [Text.upper, String.toList_ofList]
  exact fun upper => h.method (upper.of_map keeps)

/--
The command of a captured request without continuations is cut into its
arguments, whatever they contain, just if the method, where it is named, stands
alone.
-/
theorem tokenize_command_iff (joined : r.IsJoined) :
    Shell.tokenize r.command = .ok r.arguments ↔
      (r.namesMethod = true → Shell.StandsAlone (Text.upper r.method).toList) := by
  have program : (CommandWord.bare "curl").IsSafe := CommandWord.isSafe_bare (by decide)
  have option : (CommandWord.bare "-X").IsSafe := CommandWord.isSafe_bare (by decide)
  let after := headerWords r.keptHeaders ++ r.bodyWords ++ [⟨r.url, true⟩]
  rw [← map_value_words, command]
  cases named : r.namesMethod with
  | false =>
      have line : r.words = .bare "curl" :: after := by
        simp [words, methodWords, named, after]
      have safe : ∀ w ∈ r.words, w.IsSafe := by
        rw [line, List.forall_mem_cons]
        exact ⟨program, joined.isSafe_afterMethod⟩
      simpa using CommandWord.tokenize_line safe
  | true =>
      have line : r.words = [.bare "curl", .bare "-X"] ++ .bare (Text.upper r.method) :: after := by
        simp [words, methodWords, named, after]
      have before : ∀ w ∈ [CommandWord.bare "curl", .bare "-X"], w.IsSafe := by
        simp [program, option]
      have behind : after ≠ [] := by simp [after]
      rw [line, CommandWord.tokenize_line_iff before joined.isSafe_afterMethod behind
        joined.upper_method]
      simp

/-- Quotes, options and dollar signs in every value, also in the method. -/
theorem tokenize_command_quoted :
    let r : CapturedRequest :=
      { method := "$get"
        url := "https://api.test/ -d 'x'"
        headers := [("-H", "$'-' -X"), (":path", "/"), ("a", "\"\n")]
        posted? := some { text? := some "-d '--'", mimeType := "text/plain; $(x)" } }
    r.IsJoined ∧ Shell.StandsAlone (Text.upper r.method).toList ∧
      Shell.tokenize r.command = .ok
        ["curl", "-X", "$GET", "-H", "-H: $'-' -X", "-H", "a: \"\n",
          "-H", "Content-Type: text/plain; $(x)", "--data-raw", "-d '--'",
          "https://api.test/ -d 'x'"] := by
  intro r
  have joined : r.IsJoined := isJoined_of_not_mem (by decide)
  have alone : Shell.StandsAlone (Text.upper r.method).toList := by decide
  have arguments : r.arguments =
      ["curl", "-X", "$GET", "-H", "-H: $'-' -X", "-H", "a: \"\n",
        "-H", "Content-Type: text/plain; $(x)", "--data-raw", "-d '--'",
        "https://api.test/ -d 'x'"] := by decide
  have read := (tokenize_command_iff joined).2 fun _ => alone
  rw [arguments] at read
  exact ⟨joined, alone, read⟩

/-- A method with a blank is cut in two, and what follows the blank is an option of its own. -/
theorem tokenize_command_blank :
    let r : CapturedRequest := { method := "get -l", url := "https://api.test" }
    r.IsJoined ∧ r.arguments = ["curl", "-X", "GET -L", "https://api.test"] ∧
      Shell.tokenize r.command = .ok ["curl", "-X", "GET", "-L", "https://api.test"] := by
  intro r
  have joined : r.IsJoined := isJoined_of_not_mem (by decide)
  exact ⟨joined, by decide, by decide⟩

end CapturedRequest

end RequestScribe
