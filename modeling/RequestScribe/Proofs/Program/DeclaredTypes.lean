import Mathlib.Data.List.Nodup
import RequestScribe.Command.Parse
import RequestScribe.Proofs.Program.Indentation
import RequestScribe.Proofs.Shape.Declared

/-!
# The types of a program

A program in a language with static types comes with the types of its JSON body
and of the sample response.  All their names are different: those of one sample
are told apart when they are inferred, and those of the two samples by how they
begin.  Read as a text, the types declare just these names, except that in Go a
backtick in a key ends the string that the key stands in.
-/

namespace RequestScribe

namespace TypeSet

/-- Only an object at the root is declared under the name of the set. -/
theorem root_eq_of_declared {name : String} {sample : Json.Value}
    (declared : name ∈ (ofSample name sample).declarations.map Declaration.name) :
    (ofSample name sample).root = .ref name := by
  cases sample with
  | object fields =>
      have own : Fresh.name [] name (Fresh.plain name) = name := by simp [Fresh.name]
      exact congrArg Shape.ref own
  | array items =>
      -- What is declared for the items has a name that goes on after `Item`.
      obtain ⟨variants, new, -, hnew, grown⟩ :=
        Shape.inferItems_growsFrom [] (name ++ "Item") none [] [] (by simp) (by simp) items
      obtain ⟨d, hd, same⟩ := List.mem_map.1 declared
      have there : d ∈ new := by simpa [ofSample, Shape.infer, hnew] using hd
      have longer := (grown.named d there).length_le
      rw [same, String.toList_append, List.length_append] at longer
      have item : "Item".toList.length = 4 := rfl
      omega
  | null | bool | string => exact absurd declared List.not_mem_nil
  | number n => cases n <;> exact absurd declared List.not_mem_nil

/-- The blocks of a set have different names, that of the set and others that begin with it. -/
theorem names_blocks (name : String) (sample : Json.Value) :
    ((ofSample name sample).blocks.map TypeBlock.name).Nodup ∧
      name ∈ (ofSample name sample).blocks.map TypeBlock.name ∧
      ∀ n ∈ (ofSample name sample).blocks.map TypeBlock.name, name.toList <+: n.toList := by
  have grown := Shape.infer_growsFrom [] name sample
  have fresh := Shape.infer_fresh [] name sample
  have records : ((ofSample name sample).declarations.map TypeBlock.record).map TypeBlock.name =
      (ofSample name sample).declarations.map Declaration.name := by
    rw [List.map_map]
    rfl
  have begins : ∀ n ∈ (ofSample name sample).declarations.map Declaration.name,
      name.toList <+: n.toList := List.forall_mem_map.2 grown.named
  unfold blocks
  dsimp only
  split
  · next root =>
      have itself : name ∈ (ofSample name sample).declarations.map Declaration.name := by
        apply grown.mem_names
        have refers : name ∈ (ofSample name sample).root.references := by
          rw [root]
          exact List.mem_singleton_self name
        exact refers
      rw [records]
      exact ⟨fresh.distinct, itself, begins⟩
  · next other =>
      -- The alias of the root is a block of its own, so its name must not be declared again.
      have absent : name ∉ (ofSample name sample).declarations.map Declaration.name :=
        fun declared => other (root_eq_of_declared declared)
      rw [List.map_cons, records]
      exact ⟨List.nodup_cons.2 ⟨absent, fresh.distinct⟩, List.mem_cons_self,
        List.forall_mem_cons.2 ⟨List.prefix_rfl, begins⟩⟩

/-- All names in the blocks of a set are names of types. -/
theorem isTypeName_blocks {name : String} (h : IsTypeName name) (sample : Json.Value) :
    ∀ block ∈ (ofSample name sample).blocks,
      IsTypeName block.name ∧ ∀ n ∈ block.references, IsTypeName n := by
  have declared := Shape.infer_isTypeName [] h sample
  have grown := Shape.infer_growsFrom [] name sample
  have known : ∀ n ∈ (ofSample name sample).references, IsTypeName n := by
    intro n mem
    obtain ⟨d, hd, rfl⟩ := List.mem_map.1 (grown.once.subset mem)
    exact declared d hd
  have records : ∀ block ∈ (ofSample name sample).declarations.map TypeBlock.record,
      IsTypeName block.name ∧ ∀ n ∈ block.references, IsTypeName n := by
    refine List.forall_mem_map.2 fun d hd => ⟨declared d hd, fun n mem => known n ?_⟩
    exact List.mem_append_right _ (List.mem_flatMap.2 ⟨d, hd, mem⟩)
  unfold blocks
  dsimp only
  split
  · exact records
  · exact List.forall_mem_cons.2
      ⟨⟨h, fun n mem => known n (List.mem_append_left _ mem)⟩, records⟩

end TypeSet

namespace Brief

variable {b : Brief} {body : Json.Value}

theorem jsonBody?_eq_some (json : b.body? = some (.json body)) : b.jsonBody? = some body := by
  rw [jsonBody?, json]

theorem typeSets_eq (included : b.settings.includeTypes = true) (json : b.jsonBody? = some body) :
    b.typeSets = TypeSet.ofSample "RequestBody" body ::
      (b.settings.sampleResponse?.map (TypeSet.ofSample "ResponseData")).toList := by
  rw [typeSets, if_pos included, json]
  rfl

/-- The types of a JSON body have different names, each of the two roots its own. -/
theorem names_typeBlocks (included : b.settings.includeTypes = true)
    (json : b.jsonBody? = some body) :
    (b.typeBlocks.map TypeBlock.name).Nodup ∧
      (b.typeBlocks.map TypeBlock.name).count "RequestBody" = 1 ∧
      (b.typeBlocks.map TypeBlock.name).count "ResponseData" =
        if b.settings.sampleResponse?.isSome then 1 else 0 := by
  obtain ⟨distinct, root, begins⟩ := TypeSet.names_blocks "RequestBody" body
  -- No name begins with both roots: they differ in their third letter.
  have apart {n : String} (request : "RequestBody".toList <+: n.toList)
      (response : "ResponseData".toList <+: n.toList) : False := by
    have third := (List.prefix_iff_getElem?.1 request 2 (by decide)).symm.trans
      (List.prefix_iff_getElem?.1 response 2 (by decide))
    exact absurd third (by decide)
  obtain ⟨responses, names, distinct', begins', root'⟩ : ∃ responses,
      b.typeBlocks.map TypeBlock.name =
        (TypeSet.ofSample "RequestBody" body).blocks.map TypeBlock.name ++ responses ∧
      responses.Nodup ∧ (∀ n ∈ responses, "ResponseData".toList <+: n.toList) ∧
      responses.count "ResponseData" = if b.settings.sampleResponse?.isSome then 1 else 0 := by
    rw [typeBlocks, typeSets_eq included json]
    cases b.settings.sampleResponse? with
    | none => exact ⟨[], by simp, List.nodup_nil, by simp, rfl⟩
    | some sample =>
        obtain ⟨distinct', root', begins'⟩ := TypeSet.names_blocks "ResponseData" sample
        exact ⟨_, by simp, distinct', begins', List.count_eq_one_of_mem distinct' root'⟩
  rw [names]
  refine ⟨?_, ?_, ?_⟩
  · refine List.nodup_append.2 ⟨distinct, distinct', fun n hn m hm same => ?_⟩
    exact apart (begins n hn) (same ▸ begins' m hm)
  · have absent : "RequestBody" ∉ responses := fun mem => apart List.prefix_rfl (begins' _ mem)
    rw [List.count_append, List.count_eq_one_of_mem distinct root, List.count_eq_zero.2 absent]
  · have absent : "ResponseData" ∉
        (TypeSet.ofSample "RequestBody" body).blocks.map TypeBlock.name :=
      fun mem => apart (begins _ mem) List.prefix_rfl
    rw [List.count_append, List.count_eq_zero.2 absent, Nat.zero_add, root']

/-- Every block has the name of a type and refers to such names only. -/
theorem isTypeName_typeBlocks : ∀ block ∈ b.typeBlocks,
    IsTypeName block.name ∧ ∀ n ∈ block.references, IsTypeName n := by
  have request : IsTypeName "RequestBody" :=
    ⟨'R', "equestBody".toList, rfl, rfl, List.all_eq_true.1 (by decide)⟩
  have response : IsTypeName "ResponseData" :=
    ⟨'R', "esponseData".toList, rfl, rfl, List.all_eq_true.1 (by decide)⟩
  have sets : ∀ set ∈ b.typeSets, ∀ block ∈ set.blocks,
      IsTypeName block.name ∧ ∀ n ∈ block.references, IsTypeName n := by
    unfold typeSets
    split
    · intro set mem
      rcases List.mem_append.1 mem with mem | mem
      · obtain ⟨sample, -, rfl⟩ := Option.map_eq_some_iff.1 (Option.mem_toList.1 mem)
        exact TypeSet.isTypeName_blocks request sample
      · obtain ⟨sample, -, rfl⟩ := Option.map_eq_some_iff.1 (Option.mem_toList.1 mem)
        exact TypeSet.isTypeName_blocks response sample
    · simp
  exact List.forall_mem_flatMap.2 sets

/-- The types of a brief are read as its blocks, unless a key in Go has a backtick. -/
theorem declaredNames_writeBlocks (dialect : Dialect)
    (whole : dialect = .go → ∀ block ∈ b.typeBlocks, ∀ key ∈ block.keys, '\x60' ∉ key.toList) :
    Outline.declaredNames dialect (TypeSet.writeBlocks dialect b.unit b.typeBlocks).text =
      b.typeBlocks.map TypeBlock.name := by
  refine Outline.declaredNames_intercalate fun block mem => ?_
  obtain ⟨name, refers⟩ := isTypeName_typeBlocks block mem
  exact block.declares b.settings.isBlankUnit_indentUnit dialect name refers
    fun go key hkey => whole go block mem key hkey

end Brief

/-- The notation of the types that a program in a target comes with. -/
def Target.dialect? : Target → Option Dialect
  | .typeScript _ => some .typeScript
  | .go => some .go
  | .rust => some .rust
  | _ => none

theorem Target.exists_typed_program {t : Target} {dialect : Dialect}
    (typed : t.dialect? = some dialect) (b : Brief) :
    ∃ p, t.program b = .ok p ∧ p.types? = b.types? dialect := by
  cases t with
  | typeScript client | go | rust =>
      cases typed
      exact ⟨_, rfl, rfl⟩
  | _ => cases typed

namespace Generated

variable {t : Target} {dialect : Dialect} {settings : Settings} {r : Request} {body : Json.Value}

/-- A program in a language with static types comes with the types of its JSON body. -/
theorem exists_ofRequest_types (typed : t.dialect? = some dialect)
    (included : settings.includeTypes = true) (json : r.body? = some (.json body)) :
    ∃ g, ofRequest t settings r = .ok g ∧
      g.types? = some (TypeSet.writeBlocks dialect settings.indentUnit
        (Brief.ofRequest settings r).typeBlocks).text := by
  obtain ⟨p, made, types⟩ := Target.exists_typed_program typed (Brief.ofRequest settings r)
  refine ⟨_, ofRequest_eq_ok made, ?_⟩
  have jsonBody : (Brief.ofRequest settings r).jsonBody? = some body :=
    Brief.jsonBody?_eq_some json
  have nonempty : (Brief.ofRequest settings r).typeSets.isEmpty = false := by
    rw [Brief.typeSets_eq included jsonBody]
    rfl
  change p.types?.map Code.text = _
  rw [types, Brief.types?, nonempty, if_neg Bool.false_ne_true, Option.map_some]
  rfl

/--
The types that come with a program for a JSON body have different names, one of
them that of the body and, where there is a sample response, one that of the
response.  The text declares just these names at its top level, unless it is Go
and a key has a backtick.
-/
theorem ofRequest_declares (typed : t.dialect? = some dialect)
    (included : settings.includeTypes = true) (json : r.body? = some (.json body)) :
    let blocks := (Brief.ofRequest settings r).typeBlocks
    let names := blocks.map TypeBlock.name
    names.Nodup ∧ names.count "RequestBody" = 1 ∧
      names.count "ResponseData" = (if settings.sampleResponse?.isSome then 1 else 0) ∧
      ∃ g text, ofRequest t settings r = .ok g ∧ g.types? = some text ∧
        text = (TypeSet.writeBlocks dialect settings.indentUnit blocks).text ∧
        ((dialect = .go → ∀ block ∈ blocks, ∀ key ∈ block.keys, '\x60' ∉ key.toList) →
          Outline.declaredNames dialect text = names) := by
  intro blocks names
  have jsonBody : (Brief.ofRequest settings r).jsonBody? = some body :=
    Brief.jsonBody?_eq_some json
  obtain ⟨distinct, request, response⟩ :=
    Brief.names_typeBlocks (b := Brief.ofRequest settings r) included jsonBody
  obtain ⟨g, made, types⟩ := exists_ofRequest_types typed included json
  exact ⟨distinct, request, response, g, _, made, types, rfl,
    Brief.declaredNames_writeBlocks dialect⟩

/-- A Go program for a nested body, with a sample response that is a list. -/
theorem ofRequest_declares_list :
    let body : Json.Value := .object [("owner", .object [("id", .bool true)])]
    let sample : Json.Value := .array [.object [("x\"y", .string "")]]
    let settings : Settings := { sampleResponse? := some sample }
    let r : Request :=
      { method := .post
        url := "https://x.test"
        headers := [("Content-Type", "application/json")]
        body? := some (.json body)
        rawBody? := some body.compact
        authorization? := none
        cookies := []
        files := []
        query := []
        transport := {} }
    Target.go.dialect? = some .go ∧ settings.includeTypes = true ∧ r.body? = some (.json body) ∧
      ∃ g text, ofRequest .go settings r = .ok g ∧ g.types? = some text ∧
        Outline.declaredNames .go text =
          ["RequestBody", "RequestBodyOwner", "ResponseData", "ResponseDataItem"] := by
  intro body sample settings r
  have typed : Target.go.dialect? = some .go := rfl
  have included : settings.includeTypes = true := rfl
  have json : r.body? = some (.json body) := rfl
  obtain ⟨-, -, -, g, text, made, types, -, read⟩ := ofRequest_declares typed included json
  exact ⟨typed, included, json, g, text, made, types,
    (read (by decide +kernel)).trans (by decide +kernel)⟩

/-- A key of a Go struct that closes the struct and declares the type again. -/
theorem ofRequest_declares_twice :
    let key := "\x60\n\x7d\n\ntype RequestBody struct \x7b\n\tX string \x60json:x"
    let data := "\x7b\"\x60\\n\x7d\\n\\ntype RequestBody struct \x7b\\n\\tX string \x60json:x\":true\x7d"
    let settings : Settings := {}
    ∃ o g text, Command.parse ("curl -d '" ++ data ++ "' https://x.test") = .ok o ∧
      o.request.body? = some (.json (.object [(key, .bool true)])) ∧
      ofRequest .go settings o.request = .ok g ∧ g.types? = some text ∧
      Outline.declaredNames .go text = ["RequestBody", "RequestBody"] := by
  intro key data settings
  let r : Request :=
    { method := .post
      url := "https://x.test"
      headers := [("Content-Type", "application/json")]
      body? := some (.json (.object [(key, .bool true)]))
      rawBody? := some data
      authorization? := none
      cookies := []
      files := []
      query := []
      transport := { userAgent? := some "curl/8.5.0" } }
  have letters : data.toList = _ := String.toList_ofList
  have line : ("curl -d '" ++ data ++ "' https://x.test").toList =
      "curl -d '".toList ++ data.toList ++ "' https://x.test".toList := by
    rw [String.toList_append, String.toList_append]
  rw [String.toList_ofList, letters, String.toList_ofList] at line
  have words : Shell.arguments ("curl -d '" ++ data ++ "' https://x.test") =
      .ok ["-d", data, "https://x.test"] := by
    rw [Shell.arguments, Text.isBlank, Shell.tokenize, line]
    decide +kernel
  let draft : Command.Draft := { url? := some "https://x.test", data := [⟨.plain, data⟩] }
  have items : Command.Draft.ofItems (Command.Item.ofWords ["-d", data, "https://x.test"]) =
      draft := by
    decide +kernel
  have read : Body.sniffJson? draft.joinedData = some (.object [(key, .bool true)]) := by
    have joined : draft.joinedData = data := String.intercalate_singleton
    rw [joined, Body.sniffJson?, Json.Value.read?, Json.read?, letters]
    decide +kernel
  have whole : draft.dataFile? = none := by
    unfold draft Command.Draft.dataFile? Command.DataPart.filePath?
    simp only [letters]
    rfl
  have payload : draft.payload =
      { body? := some (.json (.object [(key, .bool true)])), rawBody? := some data } := by
    unfold Command.Draft.payload
    rw [whole, Body.classify, read]
    rfl
  have parsed : Command.parse ("curl -d '" ++ data ++ "' https://x.test") = .ok ⟨r, []⟩ := by
    rw [Command.parse, words]
    dsimp only
    rw [Command.ofWords, items, Command.Draft.finish, payload]
    decide +kernel
  have typed : Target.go.dialect? = some .go := rfl
  have included : settings.includeTypes = true := rfl
  have json : r.body? = some (.json (.object [(key, .bool true)])) := rfl
  obtain ⟨g, made, types⟩ := exists_ofRequest_types typed included json
  have text : (TypeSet.writeBlocks .go settings.indentUnit
      (Brief.ofRequest settings r).typeBlocks).text =
        "type RequestBody struct \x7b\n  typeRequestBodyStructxStringjsonx bool \x60json:\"\x60" ++
          "\n\x7d\n\ntype RequestBody struct \x7b\n\tX string \x60json:x\"\x60\n\x7d" := by
    decide +kernel
  refine ⟨_, g, _, parsed, json, made, types, ?_⟩
  rw [text, Outline.declaredNames, String.toList_append, String.toList_ofList, String.toList_ofList]
  decide +kernel

end Generated

end RequestScribe
