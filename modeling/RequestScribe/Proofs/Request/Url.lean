import Mathlib.Data.List.TakeWhile
import RequestScribe.Proofs.Encoding.Form
import RequestScribe.Proofs.Ordered
import RequestScribe.Proofs.Text.Chars
import RequestScribe.Request.Basic
import RequestScribe.Request.Url

/-!
# Addresses and their queries

An absolute address begins with a letter and has no blanks.  It is recognized,
keeps its scheme, and something is left of it when the query is taken off.

A query stands between the first question mark and the fragment.  Taking it off
leaves an address without either sign, and a query that is attached to such an
address is found there again.
-/

namespace RequestScribe

/-! ## Absolute addresses -/

namespace Url

/-- A scheme, which begins with a letter, `://` and something without blanks. -/
def IsAbsolute (url : String) : Prop :=
  ∃ (first : Char) (scheme rest : List Char),
    url.toList = first :: (scheme ++ ':' :: '/' :: '/' :: rest) ∧
    Chars.isLetter first = true ∧ (∀ c ∈ scheme, isSchemeCharacter c = true) ∧
    rest ≠ [] ∧ ∀ c ∈ rest, Chars.isBlank c = false

theorem isSchemeCharacter_of_letter {c : Char} (h : Chars.isLetter c = true) :
    isSchemeCharacter c = true := by
  simp [isSchemeCharacter, Chars.isAlphanumeric, h]

theorem not_blank_of_schemeCharacter {c : Char} (h : isSchemeCharacter c = true) :
    Chars.isBlank c = false := by
  simp only [isSchemeCharacter, Bool.or_eq_true, beq_iff_eq] at h
  rcases h with ((letter | rfl) | rfl) | rfl
  · exact Chars.not_blank_of_isAlphanumeric letter
  all_goals decide

variable {url : String}

/-- A given address is checked part by part. -/
theorem IsAbsolute.of_parts (first : Char) (scheme rest : String)
    (text : url.toList = first :: (scheme.toList ++ ':' :: '/' :: '/' :: rest.toList))
    (letter : Chars.isLetter first = true) (named : scheme.toList.all isSchemeCharacter = true)
    (nonempty : rest.toList ≠ []) (solid : rest.toList.any Chars.isBlank = false) :
    IsAbsolute url :=
  ⟨first, scheme.toList, rest.toList, text, letter, List.all_eq_true.1 named, nonempty,
    fun c hc => by simpa using List.any_eq_false.1 solid c hc⟩

theorem IsAbsolute.isAbsolute (h : IsAbsolute url) : isAbsolute url.toList = true := by
  obtain ⟨first, scheme, rest, text, letter, schemeCharacters, nonempty, solid⟩ := h
  have before : ∀ c ∈ first :: scheme, isSchemeCharacter c = true :=
    List.forall_mem_cons.2 ⟨isSchemeCharacter_of_letter letter, schemeCharacters⟩
  have colon : isSchemeCharacter ':' = false := by decide
  have cut : url.toList.span isSchemeCharacter = (first :: scheme, ':' :: '/' :: '/' :: rest) := by
    rw [text, ← List.cons_append, List.span_eq_takeWhile_dropWhile,
      List.takeWhile_append_of_pos before, List.dropWhile_append_of_pos before]
    simp [colon]
  cases rest with
  | nil => exact absurd rfl nonempty
  | cons c tail =>
      have solidTail : (c :: tail).all (fun c => !Chars.isBlank c) = true := by
        rw [List.all_eq_true]
        intro d hd
        rw [solid d hd, Bool.not_false]
      rw [Url.isAbsolute, cut]
      simp only [letter, solidTail, Bool.and_self]

theorem IsAbsolute.isRecognized (h : IsAbsolute url) : isRecognized url = true := by
  rw [Url.isRecognized, h.isAbsolute, Bool.true_or]

theorem IsAbsolute.head?_ne (h : IsAbsolute url) : url.toList.head? ≠ some '-' := by
  obtain ⟨first, scheme, rest, text, letter, -⟩ := h
  rw [text, List.head?_cons]
  rintro ⟨⟩
  exact absurd letter (by decide)

theorem IsAbsolute.not_blank (h : IsAbsolute url) :
    ∀ c ∈ url.toList, Chars.isBlank c = false := by
  obtain ⟨first, scheme, rest, text, letter, schemeCharacters, -, solid⟩ := h
  have slash : Chars.isBlank ':' = false ∧ Chars.isBlank '/' = false := by decide
  have firstSolid := not_blank_of_schemeCharacter (isSchemeCharacter_of_letter letter)
  have schemeSolid : ∀ c ∈ scheme, Chars.isBlank c = false := fun c hc =>
    not_blank_of_schemeCharacter (schemeCharacters c hc)
  rw [text]
  simp only [List.forall_mem_cons, List.forall_mem_append]
  exact ⟨firstSolid, schemeSolid, slash.1, slash.2, slash.2, solid⟩

theorem IsAbsolute.trim (h : IsAbsolute url) : Text.trim url = url :=
  Text.trim_of_no_blank h.not_blank

theorem IsAbsolute.withScheme (h : IsAbsolute url) : withScheme url = url := by
  obtain ⟨first, scheme, rest, text, -⟩ := h
  have part : [':', '/', '/'] <:+: url.toList := by
    rw [text]
    exact ⟨first :: scheme, rest, by simp⟩
  have found : Text.contains "://" url = true := Chars.hasPart_iff.2 part
  rw [Url.withScheme, found, if_pos rfl]

/-- The first letter belongs to what is left of the address without query and fragment. -/
theorem IsAbsolute.splitQuery_ne (h : IsAbsolute url) : (splitQuery url).1 ≠ "" := by
  obtain ⟨first, scheme, rest, text, letter, -⟩ := h
  have noHash : first ≠ '#' := by rintro rfl; exact absurd letter (by decide)
  have noMark : first ≠ '?' := by rintro rfl; exact absurd letter (by decide)
  unfold splitQuery
  rw [text, List.takeWhile_cons_of_pos (by simpa using noHash)]
  generalize (scheme ++ ':' :: '/' :: '/' :: rest).takeWhile (· != '#') = tail
  simp only [Chars.cut?_cons, if_neg noMark]
  cases Chars.cut? '?' tail with
  | none => simp [← String.toList_inj]
  | some parts => simp [← String.toList_inj]

end Url

/-! ## The query of an address -/

namespace Url

/-- Whether a character belongs to what stands before query and fragment. -/
def isBaseCharacter (c : Char) : Bool :=
  c != '#' && c != '?'

/-- The text of the query of an address, which is empty if there is none. -/
def queryText (url : String) : String :=
  match Chars.cut? '?' (url.toList.takeWhile (· != '#')) with
  | some (_, query) => String.ofList query
  | none => ""

theorem splitQuery_fst (url : String) :
    (splitQuery url).1.toList = url.toList.takeWhile isBaseCharacter := by
  have both : url.toList.takeWhile isBaseCharacter =
      (url.toList.takeWhile (· != '#')).takeWhile (· != '?') := by
    rw [List.takeWhile_takeWhile]
    congr 1
    funext c
    rw [Bool.decide_and, Bool.decide_eq_true, Bool.decide_eq_true, isBaseCharacter, Bool.and_comm]
  rw [both, ← Chars.getD_cut?, splitQuery]
  cases Chars.cut? '?' (url.toList.takeWhile (· != '#')) <;> simp

theorem splitQuery_snd (url : String) :
    (splitQuery url).2 = Ordered.ofPairs (· == ·) (Form.decode (queryText url)) := by
  have empty : Ordered.ofPairs (· == ·) (Form.decode "") = [] := by decide
  simp only [splitQuery, queryText]
  cases Chars.cut? '?' (url.toList.takeWhile (· != '#')) with
  | none => exact empty.symm
  | some parts => rfl

theorem isBaseCharacter_of_mem_splitQuery {url : String} :
    ∀ c ∈ (splitQuery url).1.toList, isBaseCharacter c = true := by
  rw [splitQuery_fst]
  exact fun c hc => List.mem_takeWhile_imp hc

theorem not_mem_of_base {cs : List Char} (base : ∀ c ∈ cs, isBaseCharacter c = true) :
    '#' ∉ cs ∧ '?' ∉ cs :=
  ⟨fun mem => absurd (base '#' mem) (by decide), fun mem => absurd (base '?' mem) (by decide)⟩

/-- The query does not depend on how the address begins. -/
theorem queryText_append {start : List Char} (base : ∀ c ∈ start, isBaseCharacter c = true)
    (rest : List Char) :
    queryText (String.ofList (start ++ rest)) = queryText (String.ofList rest) := by
  have absent := not_mem_of_base base
  have noHash : ∀ c ∈ start, (c != '#') = true := fun c hc =>
    bne_iff_ne.2 fun same => absent.1 (same ▸ hc)
  simp only [queryText, String.toList_ofList]
  rw [List.takeWhile_append_of_pos noHash, Chars.cut?_append_of_not_mem absent.2]
  cases Chars.cut? '?' (rest.takeWhile (· != '#')) <;> rfl

/-- A scheme may be put in front, and slashes taken away for it; the rest stays. -/
theorem exists_parts_withScheme (url : String) :
    ∃ added removed rest : List Char,
      withScheme url = String.ofList (added ++ rest) ∧ url = String.ofList (removed ++ rest) ∧
        (∀ c ∈ added, c ∈ "https://".toList) ∧ ∀ c ∈ removed, c ∈ "https://".toList := by
  unfold withScheme
  split
  · exact ⟨[], [], url.toList, by simp, by simp, by simp, by simp⟩
  · refine ⟨"https://".toList, url.toList.takeWhile (· == '/'), url.toList.dropWhile (· == '/'),
      ?_, ?_, fun c hc => hc, ?_⟩
    · rw [String.ofList_append, String.ofList_toList]
    · rw [List.takeWhile_append_dropWhile, String.ofList_toList]
    · intro c hc
      have slash : (c == '/') = true := List.mem_takeWhile_imp (p := (· == '/')) hc
      rw [beq_iff_eq.1 slash]
      decide

theorem isBaseCharacter_of_mem_https {c : Char} (h : c ∈ "https://".toList) :
    isBaseCharacter c = true := by
  have all : "https://".toList.all isBaseCharacter = true := by decide
  exact List.all_eq_true.1 all c h

theorem queryText_withScheme (url : String) : queryText (withScheme url) = queryText url := by
  obtain ⟨added, removed, rest, result, rfl, addedOf, removedOf⟩ := exists_parts_withScheme url
  rw [result, queryText_append fun c hc => isBaseCharacter_of_mem_https (addedOf c hc),
    queryText_append fun c hc => isBaseCharacter_of_mem_https (removedOf c hc)]

/-- A query that is attached is read again as it was. -/
theorem decode_queryText_join {url : String}
    (base : ∀ c ∈ url.toList, isBaseCharacter c = true) (query : List (String × String)) :
    Form.decode (queryText (join url query)) = query := by
  have absent := not_mem_of_base base
  have noHash : ∀ c ∈ url.toList, (c != '#') = true := fun c hc =>
    bne_iff_ne.2 fun same => absent.1 (same ▸ hc)
  cases query with
  | nil =>
      have text : queryText url = "" := by
        rw [queryText, List.takeWhile_eq_self_iff.2 noHash, Chars.cut?_eq_none absent.2]
      rw [join, List.isEmpty_nil, if_pos rfl, text]
      decide
  | cons pair rest =>
      let encoded := Form.encode (pair :: rest)
      -- The fragment would begin at a number sign, which encoded pairs do not have.
      have noHash' : ∀ c ∈ '?' :: encoded.toList, (c != '#') = true := by
        refine List.forall_mem_cons.2 ⟨by decide, ?_⟩
        intro c hc
        refine bne_iff_ne.2 ?_
        rintro rfl
        exact absurd (Form.mem_encode hc) (by decide)
      have text : queryText (join url (pair :: rest)) = encoded := by
        have parts : (join url (pair :: rest)).toList = url.toList ++ '?' :: encoded.toList := by
          simp [join, encoded]
        have whole : ∀ c ∈ url.toList ++ '?' :: encoded.toList, (c != '#') = true :=
          List.forall_mem_append.2 ⟨noHash, noHash'⟩
        simp only [queryText, parts, List.takeWhile_eq_self_iff.2 whole,
          Chars.cut?_append absent.2, String.ofList_toList]
      rw [text, Form.decode_encode]

/-- What stands in front of a query that is attached is the address. -/
theorem splitQuery_join_fst {url : String} (base : ∀ c ∈ url.toList, isBaseCharacter c = true)
    (query : List (String × String)) : (splitQuery (join url query)).1 = url := by
  rw [← String.toList_inj, splitQuery_fst]
  cases query with
  | nil =>
      rw [join, List.isEmpty_nil, if_pos rfl]
      exact List.takeWhile_eq_self_iff.2 base
  | cons pair rest =>
      have parts : (join url (pair :: rest)).toList =
          url.toList ++ '?' :: (Form.encode (pair :: rest)).toList := by simp [join]
      have mark : isBaseCharacter '?' = false := by decide
      rw [parts, List.takeWhile_append_of_pos base, List.takeWhile_cons, mark]
      simp

theorem splitQuery_join {url : String} (base : ∀ c ∈ url.toList, isBaseCharacter c = true)
    {query : List (String × String)} (distinct : (query.map Prod.fst).Nodup) :
    splitQuery (join url query) = (url, query) := by
  refine Prod.ext (splitQuery_join_fst base query) ?_
  rw [splitQuery_snd, decode_queryText_join base]
  exact Ordered.ofPairs_eq_self_iff.2 distinct

end Url

end RequestScribe
