import RequestScribe.Program.Generated
import RequestScribe.Proofs.Text.Chars

/-!
# Variables in the documentation

A documentation is read line by line.  The lines under a title, up to the next title, are
its section, and in the section about environment variables every line that is not empty
is an item of a list.  No other line of a documentation has the title of that section, so its
items are the variables that were written.
-/

namespace RequestScribe

namespace Documentation

def joined (lines : List String) : String :=
  String.join (lines.map (· ++ "\n"))

theorem joined_append (a b : List String) : joined (a ++ b) = joined a ++ joined b := by
  rw [joined, List.map_append, String.join_append]
  rfl

theorem splitOn_joined {lines : List String} (whole : ∀ line ∈ lines, '\n' ∉ line.toList) :
    Text.splitOn '\n' (joined lines) = lines ++ [""] := by
  induction lines with
  | nil => rfl
  | cons line rest ih =>
      obtain ⟨here, later⟩ := List.forall_mem_cons.1 whole
      have text : (joined (line :: rest)).toList = line.toList ++ '\n' :: (joined rest).toList := by
        simp [joined, String.join_cons]
      rw [Text.splitOn, text, List.splitOn_append_cons_self, List.splitOn_eq_singleton here,
        List.singleton_append, List.map_cons, String.ofList_toList, List.cons_append, ← ih later]
      rfl

/-! ## Reading -/

def isTitle (line : String) : Bool :=
  Text.startsWith "#" line

/-- The lines under a title, each time up to the next title. -/
def sections (title : String) : List String → List (List String)
  | [] => []
  | line :: rest =>
      if line = title then rest.takeWhile (fun line => !isTitle line) :: sections title rest
      else sections title rest

/-- What is between the backticks of an item. -/
def item? (line : String) : Option String :=
  (Text.after? "- `" line).bind (Text.before? "`")

def variablesTitle : String := "## Environment variables"

/-- The items of every section about environment variables; none of a section with other lines. -/
def listed (text : String) : List (Option (List String)) :=
  (sections variablesTitle (Text.splitOn '\n' text)).map fun lines =>
    (lines.filter fun line => !line.isEmpty).mapM item?

theorem sections_append {title : String} {before : List String} (absent : title ∉ before)
    (lines : List String) : sections title (before ++ lines) = sections title lines := by
  induction before with
  | nil => rfl
  | cons line rest ih =>
      obtain ⟨here, later⟩ : title ≠ line ∧ title ∉ rest := by simpa using absent
      rw [List.cons_append, sections, if_neg (Ne.symm here), ih later]

theorem sections_of_not_mem {title : String} {lines : List String} (absent : title ∉ lines) :
    sections title lines = [] := by
  have none := sections_append absent []
  rwa [List.append_nil] at none

def item (name : String) : String := "- `" ++ name ++ "`"

theorem item?_item (name : String) : item? (item name) = some name := by
  have after : Text.after? "- `" (item name) = some (name ++ "`") := by
    rw [Text.after?, Option.map_eq_some_iff]
    refine ⟨(name ++ "`").toList, ?_, String.ofList_toList⟩
    simp [List.isPrefixOf?_eq_some_iff_append_eq, item]
  rw [item?, after, Option.bind_some, Text.before?_eq_some_iff]

theorem isTitle_item (name : String) : isTitle (item name) = false := by
  simp [isTitle, item, Text.startsWith, List.isPrefixOf]

theorem mapM_item? (names : List String) : (names.map item).mapM item? = some names := by
  induction names with
  | nil => rfl
  | cons name rest ih =>
      rw [List.map_cons, List.mapM_cons, item?_item, ih]
      rfl

/-! ## Writing -/

def variableLines (names : List String) : List String :=
  if names.isEmpty then [] else ["", variablesTitle, ""] ++ names.map item

def dependencyLines (install? : Option String) (dependencies : List String) : List String :=
  if dependencies.isEmpty then []
  else
    ["", "## Dependencies", ""] ++
      match install? with
      | some install => ["```sh", install ++ " " ++ " ".intercalate dependencies, "```"]
      | none => dependencies.map fun name => "- " ++ name

def usageLines (l : Language) : List String :=
  ["", "## Usage", "", "Save as `" ++ l.fileName ++ "` and run it."]

def bodyLines (t : Target) (names dependencies : List String) : List String :=
  [t.language.displayName ++ " client using " ++ t.framework ++ "."] ++ variableLines names ++
    (dependencyLines t.language.install? dependencies ++ usageLines t.language)

theorem envSection_eq (names : List String) : envSection names = joined (variableLines names) := by
  unfold envSection variableLines
  split
  · rfl
  · have head : "\n## Environment variables\n\n" = joined ["", variablesTitle, ""] := by decide
    have items : names.map (fun name => "- `" ++ name ++ "`\n") =
        (names.map item).map (· ++ "\n") := by
      rw [List.map_map]
      refine List.map_congr_left fun name _ => ?_
      rw [Function.comp_apply, item, ← String.toList_inj]
      simp
    rw [joined_append, ← head, items]
    rfl

theorem dependencySection_eq (install? : Option String) (dependencies : List String) :
    dependencySection install? dependencies = joined (dependencyLines install? dependencies) := by
  unfold dependencySection dependencyLines
  split
  · rfl
  · have head : "\n## Dependencies\n\n" = joined ["", "## Dependencies", ""] := by decide
    rw [joined_append, ← head]
    cases install? with
    | none =>
        have items : dependencies.map (fun name => "- " ++ name ++ "\n") =
            (dependencies.map fun name => "- " ++ name).map (· ++ "\n") := by
          rw [List.map_map]
          rfl
        dsimp only
        rw [items]
        rfl
    | some install =>
        rw [← String.toList_inj]
        simp [joined, String.join_cons]

theorem text_eq (t : Target) (b : Brief) (dependencies : List String) :
    text t b dependencies =
      "# " ++ b.summary ++ "\n\n" ++ joined (bodyLines t b.envNames dependencies) := by
  delta text
  dsimp only
  rw [bodyLines, joined_append, joined_append, joined_append, envSection_eq, dependencySection_eq,
    ← String.toList_inj]
  simp [joined, String.join_cons, usageLines]

/-! ## Reading what is written -/

def IsOther (line : String) : Prop :=
  '\n' ∉ line.toList ∧ line ≠ variablesTitle

instance (line : String) : Decidable (IsOther line) :=
  inferInstanceAs (Decidable (_ ∧ _))

theorem isOther_append {lead rest : String}
    (known : lead ≠ "" ∧ isTitle lead = false ∧ '\n' ∉ lead.toList) (whole : '\n' ∉ rest.toList) :
    IsOther (lead ++ rest) := by
  obtain ⟨some, plain, wholeLead⟩ := known
  constructor
  · simp [wholeLead, whole]
  · intro same
    have title : isTitle (lead ++ rest) = true := by
      rw [same]
      decide
    obtain ⟨c, cs, text⟩ := List.exists_cons_of_ne_nil (l := lead.toList) (by simpa using some)
    simp only [isTitle, Text.startsWith, String.toList_append, text] at title plain
    simp [List.isPrefixOf] at title plain
    exact plain title

theorem isOther_bodyLine (t : Target) :
    IsOther (t.language.displayName ++ " client using " ++ t.framework ++ ".") := by
  have language (l : Language) : l.displayName ≠ "" ∧ isTitle l.displayName = false ∧
      '\n' ∉ l.displayName.toList := by
    cases l <;> decide
  have framework : '\n' ∉ t.framework.toList := by
    rcases t with (_ | _) | (_ | _) | (_ | _) | _ | _ | _ | _ <;> decide
  have rest : '\n' ∉ (" client using " ++ (t.framework ++ ".")).toList := by simp [framework]
  rw [String.append_assoc, String.append_assoc]
  exact isOther_append (language t.language) rest

theorem isOther_usageLines (l : Language) : ∀ line ∈ usageLines l, IsOther line := by
  have file : '\n' ∉ l.fileName.toList := by cases l <;> decide
  have save : IsOther ("Save as `" ++ l.fileName ++ "` and run it.") := by
    rw [String.append_assoc]
    exact isOther_append (by decide) (by simp [file])
  have fixed : ∀ line ∈ ["", "## Usage", ""], IsOther line := by decide
  exact List.forall_mem_append.2 ⟨fixed, List.forall_mem_singleton.2 save⟩

theorem isOther_dependencyLines (l : Language) {dependencies : List String}
    (whole : ∀ name ∈ dependencies, '\n' ∉ name.toList) :
    ∀ line ∈ dependencyLines l.install? dependencies, IsOther line := by
  have fixed : ∀ line ∈ ["", "## Dependencies", ""], IsOther line := by decide
  have fences : ∀ line ∈ ["```sh", "```"], IsOther line := by decide
  unfold dependencyLines
  split
  · simp
  · refine List.forall_mem_append.2 ⟨fixed, ?_⟩
    cases given : l.install? with
    | none => exact List.forall_mem_map.2 fun name mem => isOther_append (by decide) (whole name mem)
    | some install =>
        have command : install ≠ "" ∧ isTitle install = false ∧ '\n' ∉ install.toList := by
          cases l <;> first | (obtain rfl := Option.some.inj given; decide) | cases given
        have list : '\n' ∉ (" " ++ " ".intercalate dependencies).toList := by
          intro mem
          have space : " ".toList = [' '] := rfl
          have other : ∀ c ∈ [' '], c ≠ '\n' := List.forall_mem_singleton.2 (by decide)
          rw [String.toList_append, String.toList_intercalate, space] at mem
          refine (List.mem_append.1 mem).elim (other _ · rfl) fun inside => ?_
          refine Chars.forall_mem_intercalate other (List.forall_mem_map.2 fun name given => ?_) _
            inside rfl
          exact fun c held same => whole name given (same ▸ held)
        simp only [List.forall_mem_cons] at fences ⊢
        exact ⟨fences.1, String.append_assoc ▸ isOther_append command list, fences.2⟩

def followingLines (l : Language) (dependencies : List String) : List String :=
  dependencyLines l.install? dependencies ++ usageLines l ++ [""]

theorem exists_title (l : Language) (dependencies : List String) :
    ∃ title more, followingLines l dependencies = "" :: title :: more ∧ isTitle title = true := by
  unfold followingLines dependencyLines
  split
  · exact ⟨_, _, rfl, by decide⟩
  · exact ⟨_, _, rfl, by decide⟩

theorem takeWhile_items (names : List String) (l : Language) (dependencies : List String) :
    (("" :: names.map item) ++ followingLines l dependencies).takeWhile (fun line => !isTitle line) =
      ("" :: names.map item) ++ [""] := by
  obtain ⟨title, more, follow, titled⟩ := exists_title l dependencies
  have items : ∀ line ∈ "" :: names.map item, (!isTitle line) = true := by
    refine List.forall_mem_cons.2 ⟨by decide, List.forall_mem_map.2 fun name _ => ?_⟩
    rw [isTitle_item]
    rfl
  have blank : isTitle "" = false := by decide
  rw [List.takeWhile_append_of_pos items, follow]
  simp [titled, blank]

theorem sections_lines {before names dependencies : List String} (l : Language)
    (others : ∀ line ∈ before, IsOther line)
    (follow : ∀ line ∈ followingLines l dependencies, IsOther line) :
    sections variablesTitle (before ++ variableLines names ++ followingLines l dependencies) =
      if names.isEmpty then [] else [("" :: names.map item) ++ [""]] := by
  have absent {lines : List String} (others : ∀ line ∈ lines, IsOther line) :
      variablesTitle ∉ lines := fun mem => (others _ mem).2 rfl
  rw [List.append_assoc, sections_append (absent others)]
  unfold variableLines
  split
  · exact sections_of_not_mem (absent follow)
  · have shape : ["", variablesTitle, ""] ++ names.map item ++ followingLines l dependencies =
        [""] ++ variablesTitle :: (("" :: names.map item) ++ followingLines l dependencies) := rfl
    have later : variablesTitle ∉ ("" :: names.map item) ++ followingLines l dependencies := by
      intro mem
      rcases List.mem_append.1 mem with mem | mem
      · rcases List.mem_cons.1 mem with blank | mem
        · exact absurd blank (by decide)
        · obtain ⟨name, -, same⟩ := List.mem_map.1 mem
          have title := isTitle_item name
          rw [same] at title
          exact absurd title (by decide)
      · exact absent follow mem
    rw [shape, sections_append (by decide), sections, if_pos rfl, takeWhile_items,
      sections_of_not_mem later]

theorem mapM_item?_section (names : List String) :
    ((("" :: names.map item) ++ [""]).filter fun line => !line.isEmpty).mapM item? = some names := by
  have filled : ((names.map item).filter fun line => !line.isEmpty) = names.map item :=
    List.filter_eq_self.2 (List.forall_mem_map.2 fun name _ => by simp [item])
  have kept : ((("" :: names.map item) ++ [""]).filter fun line => !line.isEmpty) =
      names.map item := by
    rw [List.cons_append, List.filter_cons_of_neg (by decide), List.filter_append, filled]
    exact List.append_nil _
  rw [kept, mapM_item?]

/-- The variables are listed in one section if there are any, and else there is no section. -/
theorem listed_joined {before names dependencies : List String} (t : Target)
    (others : ∀ line ∈ before, IsOther line) (named : ∀ name ∈ names, '\n' ∉ name.toList)
    (whole : ∀ name ∈ dependencies, '\n' ∉ name.toList) :
    listed (joined (before ++ bodyLines t names dependencies)) =
      if names.isEmpty then [] else [some names] := by
  let l := t.language
  let start := before ++ [l.displayName ++ " client using " ++ t.framework ++ "."]
  have starts : ∀ line ∈ start, IsOther line :=
    List.forall_mem_append.2 ⟨others, List.forall_mem_singleton.2 (isOther_bodyLine t)⟩
  have follow : ∀ line ∈ followingLines l dependencies, IsOther line :=
    List.forall_mem_append.2 ⟨List.forall_mem_append.2
      ⟨isOther_dependencyLines l whole, isOther_usageLines l⟩, by decide⟩
  have items : ∀ line ∈ variableLines names, '\n' ∉ line.toList := by
    unfold variableLines
    split
    · simp
    · refine List.forall_mem_append.2 ⟨by decide, List.forall_mem_map.2 fun name mem => ?_⟩
      simp [item, named name mem]
  have lines : Text.splitOn '\n' (joined (before ++ bodyLines t names dependencies)) =
      start ++ variableLines names ++ followingLines l dependencies := by
    have shape : before ++ bodyLines t names dependencies ++ [""] =
        start ++ variableLines names ++ followingLines l dependencies := by
      simp [bodyLines, start, followingLines, l]
    rw [splitOn_joined ?_, shape]
    intro line mem
    have inside : line ∈ before ++ bodyLines t names dependencies ++ [""] :=
      List.mem_append_left _ mem
    rw [shape] at inside
    rcases List.mem_append.1 inside with mem | mem
    · exact (List.mem_append.1 mem).elim (starts line · |>.1) (items line)
    · exact (follow line mem).1
  rw [listed, lines, sections_lines l starts follow]
  split
  · rfl
  · rw [List.map_singleton, mapM_item?_section]

theorem text_eq_joined (t : Target) (b : Brief) (dependencies : List String) :
    text t b dependencies =
      joined (["# " ++ b.summary, ""] ++ bodyLines t b.envNames dependencies) := by
  have title : joined ["# " ++ b.summary, ""] = "# " ++ b.summary ++ "\n\n" := by
    rw [← String.toList_inj]
    simp [joined, String.join_cons]
  rw [text_eq, joined_append, title]

theorem isOther_title {summary : String} (whole : '\n' ∉ summary.toList) :
    IsOther ("# " ++ summary) := by
  refine ⟨by simp [whole], fun same => ?_⟩
  have second : ("# " ++ summary).toList[1]? = variablesTitle.toList[1]? := by rw [same]
  simp [variablesTitle] at second

/-- All the documentation lists under the title, and all that it lists if the title is one line. -/
theorem listed_text (t : Target) {b : Brief} {dependencies : List String}
    (named : ∀ name ∈ b.envNames, '\n' ∉ name.toList)
    (whole : ∀ name ∈ dependencies, '\n' ∉ name.toList) :
    let sections := if b.envNames.isEmpty then [] else [some b.envNames]
    (∃ body, text t b dependencies = "# " ++ b.summary ++ "\n\n" ++ body ∧
      listed body = sections) ∧
    ('\n' ∉ b.summary.toList → listed (text t b dependencies) = sections) := by
  refine ⟨⟨_, text_eq t b dependencies, ?_⟩, fun title => ?_⟩
  · exact @listed_joined [] _ _ t (List.forall_mem_nil _) named whole
  · rw [text_eq_joined]
    refine listed_joined t ?_ named whole
    exact List.forall_mem_cons.2 ⟨isOther_title title, List.forall_mem_singleton.2 (by decide)⟩

end Documentation

end RequestScribe
