import Mathlib.Data.List.Forall2
import RequestScribe.Proofs.Encoding.Form
import RequestScribe.Request.Body

/-!
# Bodies that are read as forms

A form stands for pairs of bytes: a plus sign for a space, three characters for any byte, and every
other character for its own bytes.  Every segment of a form body makes one pair, in order.  The
pair has the bytes of the segment's name and value if these are UTF-8.  Other bytes are lost: the
body is read as a form all the same, with a replacement character for what is no text, and what is
sent then is another form.
-/

namespace RequestScribe

/-! ## The bytes of a text -/

namespace Utf8

/-- Bytes that are the bytes of a text. -/
def IsText (bytes : List UInt8) : Prop :=
  ∃ cs, encode cs = bytes

/-- The bytes of a text come through decoding, and no others do. -/
theorem encode_decodeLossy_iff {bytes : List UInt8} :
    encode (decodeLossy bytes) = bytes ↔ IsText bytes := by
  constructor
  · intro kept
    exact ⟨_, kept⟩
  · rintro ⟨cs, rfl⟩
    rw [decodeLossy_encode]

end Utf8

/-! ## Escapes in a text -/

namespace Percent

theorem hexValue?_of_ascii {c : Char} (ascii : c.toNat < 0x80) :
    hexValue? (UInt8.ofNat c.toNat) = Chars.hexValue? c := by
  have byte : (UInt8.ofNat c.toNat).toNat = c.toNat := by
    simp only [UInt8.toNat_ofNat']
    omega
  rw [hexValue?, byte, Char.ofNat_toNat]

/-- Whether a byte is a digit shows at the first byte of a character. -/
theorem hexValue?_first {c : Char} {rest : List Char} {b : UInt8} {bytes : List UInt8}
    (first : Utf8.encode (c :: rest) = b :: bytes) : hexValue? b = Chars.hexValue? c := by
  by_cases ascii : c.toNat < 0x80
  · rw [Utf8.encode_cons, Utf8.encode_of_ascii ascii] at first
    rw [← (List.cons.inj first).1, hexValue?_of_ascii ascii]
  · have none : Chars.hexValue? c = none := by
      rw [← Option.not_isSome_iff_eq_none]
      intro digit
      obtain ⟨n, digit⟩ := Option.isSome_iff_exists.1 digit
      exact ascii (Chars.hexValue?_small digit).2
    have own : b ∈ String.utf8EncodeChar c := by
      have split : Utf8.encode (c :: rest) = String.utf8EncodeChar c ++ Utf8.encode rest := rfl
      have some : String.utf8EncodeChar c ≠ [] := List.ne_nil_of_length_pos (by
        rw [String.length_utf8EncodeChar]
        exact Char.utf8Size_pos c)
      obtain ⟨d, more, whole⟩ := List.exists_cons_of_ne_nil some
      rw [split, whole, List.cons_append] at first
      rw [whole, (List.cons.inj first).1]
      exact List.mem_cons_self
    have wide := Utf8.le_of_mem_utf8EncodeChar (Nat.not_lt.1 ascii) own
    rw [none, hexValue?, ← Option.not_isSome_iff_eq_none]
    intro digit
    obtain ⟨n, digit⟩ := Option.isSome_iff_exists.1 digit
    have small := (Chars.hexValue?_small digit).2
    rw [Form.toNat_ofNat] at small
    omega

end Percent

namespace Form

theorem hexValue?_space_of_plus (b : UInt8) :
    Percent.hexValue? (if b = 0x2B then 0x20 else b) = Percent.hexValue? b := by
  split
  · next plus =>
      rw [plus]
      decide
  · rfl

theorem decodeBytes_escape {high low : Char} {h l : Nat} (hHigh : Chars.hexValue? high = some h)
    (hLow : Chars.hexValue? low = some l) (rest : List Char) :
    decodeBytes (Utf8.encode ('%' :: high :: low :: rest)) =
      UInt8.ofNat (h * 16 + l) :: decodeBytes (Utf8.encode rest) := by
  have sign : Utf8.encode ['%'] = [0x25] := by decide
  have asciiHigh := (Chars.hexValue?_small hHigh).2
  have asciiLow := (Chars.hexValue?_small hLow).2
  have bytes : Utf8.encode ('%' :: high :: low :: rest) =
      0x25 :: UInt8.ofNat high.toNat :: UInt8.ofNat low.toNat :: Utf8.encode rest := by
    rw [Utf8.encode_cons '%', Utf8.encode_cons high, Utf8.encode_cons low, sign,
      Utf8.encode_of_ascii asciiHigh, Utf8.encode_of_ascii asciiLow]
    rfl
  rw [bytes, decodeBytes, List.map_cons, List.map_cons, List.map_cons, if_neg (by decide),
    Percent.decode, Percent.decodeOnto, hexValue?_space_of_plus, hexValue?_space_of_plus,
    Percent.hexValue?_of_ascii asciiHigh, Percent.hexValue?_of_ascii asciiLow, hHigh, hLow]
  dsimp only
  rw [Percent.decodeOnto_eq]
  rfl

/-- A percent sign without two digits behind it stands for itself. -/
theorem decodeBytes_sign {bytes : List UInt8}
    (noEscape : ∀ high low tail, bytes = high :: low :: tail →
      Percent.hexValue? high = none ∨ Percent.hexValue? low = none) :
    decodeBytes (0x25 :: bytes) = 0x25 :: decodeBytes bytes := by
  match bytes with
  | [] => rfl
  | [b] => simp [decodeBytes, Percent.decode, Percent.decodeOnto]
  | high :: low :: tail =>
      have apart : ¬((0x25 : UInt8) = 0x2B) := by decide
      rw [decodeBytes, decodeBytes, List.map_cons, List.map_cons, List.map_cons, if_neg apart,
        Percent.decode, Percent.decodeOnto, hexValue?_space_of_plus, hexValue?_space_of_plus]
      split
      · next h l hHigh hLow =>
          rcases noEscape high low tail rfl with none | none
          · exact absurd (none.symm.trans hHigh) (by simp)
          · exact absurd (none.symm.trans hLow) (by simp)
      · rw [Percent.decodeOnto_eq]
        rfl

theorem decodeBytes_sign_encode {rest : List Char}
    (noEscape : ∀ high low tail, rest = high :: low :: tail →
      Chars.hexValue? high = none ∨ Chars.hexValue? low = none) :
    decodeBytes (Utf8.encode ('%' :: rest)) = 0x25 :: decodeBytes (Utf8.encode rest) := by
  have sign : Utf8.encode ('%' :: rest) = 0x25 :: Utf8.encode rest := rfl
  rw [sign, decodeBytes_sign]
  intro b b' tail bytes
  cases rest with
  | nil => cases bytes
  | cons high more =>
      rw [Percent.hexValue?_first bytes]
      cases hHigh : Chars.hexValue? high with
      | none => exact .inl rfl
      | some h =>
          -- A digit is one byte, so the next byte begins the next character.
          have ascii := (Chars.hexValue?_small hHigh).2
          rw [Utf8.encode_cons, Utf8.encode_of_ascii ascii] at bytes
          have later : Utf8.encode more = b' :: tail := (List.cons.inj bytes).2
          cases more with
          | nil => cases later
          | cons low rest =>
              rw [Percent.hexValue?_first later]
              have none := (noEscape high low rest rfl).resolve_left (by simp [hHigh])
              exact .inr none

theorem decodeBytes_append_of_plain {bytes : List UInt8}
    (plain : (0x25 : UInt8) ∉ bytes ∧ (0x2B : UInt8) ∉ bytes) (rest : List UInt8) :
    decodeBytes (bytes ++ rest) = bytes ++ decodeBytes rest := by
  induction bytes with
  | nil => rfl
  | cons b more ih =>
      simp only [List.mem_cons, not_or] at plain
      obtain ⟨⟨sign, noSign⟩, plus, noPlus⟩ := plain
      rw [List.cons_append, decodeBytes_cons (Ne.symm sign) (Ne.symm plus), ih ⟨noSign, noPlus⟩]
      rfl

/-! ## Names and values -/

/-- The bytes that a name or a value stands for; an escape that is not one stays. -/
def bytesOf : List Char → List UInt8
  | [] => []
  | '+' :: rest => 0x20 :: bytesOf rest
  | '%' :: high :: low :: rest =>
      match Chars.hexValue? high, Chars.hexValue? low with
      | some h, some l => UInt8.ofNat (h * 16 + l) :: bytesOf rest
      | _, _ => 0x25 :: bytesOf (high :: low :: rest)
  | c :: rest => Utf8.encode [c] ++ bytesOf rest

/-- Reading the bytes of a text is reading its characters. -/
theorem decodeBytes_encode_eq (cs : List Char) : decodeBytes (Utf8.encode cs) = bytesOf cs := by
  fun_induction bytesOf cs with
  | case1 => rfl
  | case2 rest ih =>
      have plus : Utf8.encode ('+' :: rest) = 0x2B :: Utf8.encode rest := rfl
      rw [plus, decodeBytes_plus, ih]
  | case3 high low rest h l hLow hHigh ih => rw [decodeBytes_escape hHigh hLow, ih]
  | case4 high low rest notHex ih =>
      rw [decodeBytes_sign_encode, ih]
      intro high' low' tail same
      simp only [List.cons.injEq] at same
      obtain ⟨rfl, rfl, rfl⟩ := same
      by_contra digits
      obtain ⟨someHigh, someLow⟩ := not_or.1 digits
      obtain ⟨h, hHigh⟩ := Option.ne_none_iff_exists'.1 someHigh
      obtain ⟨l, hLow⟩ := Option.ne_none_iff_exists'.1 someLow
      exact notHex h l hHigh hLow
  | case5 c rest noPlus noEscape ih =>
      by_cases sign : c = '%'
      · subst sign
        have one : Utf8.encode ['%'] = [0x25] := by decide
        rw [decodeBytes_sign_encode, ih, one]
        · rfl
        · intro high low tail same
          exact (noEscape high low tail rfl same).elim
      · have plain : (0x25 : UInt8) ∉ Utf8.encode [c] ∧ (0x2B : UInt8) ∉ Utf8.encode [c] := by
          have noSign : '%' ∉ [c] := by simpa using Ne.symm sign
          have noPlus : '+' ∉ [c] := by simpa using Ne.symm noPlus
          exact ⟨mt (Utf8.mem_encode_iff (d := '%') (by decide)).1 noSign,
            mt (Utf8.mem_encode_iff (d := '+') (by decide)).1 noPlus⟩
        rw [Utf8.encode_cons, decodeBytes_append_of_plain plain, ih]

theorem decodeText_encode (cs : List Char) :
    decodeText (Utf8.encode cs) = String.ofList (Utf8.decodeLossy (bytesOf cs)) := by
  rw [decodeText, decodeBytes_encode_eq]

theorem bytesOf_encodeText (cs : List Char) : bytesOf (encodeText cs) = Utf8.encode cs := by
  rw [← decodeBytes_encode_eq, decodeBytes_encodeText]

/-! ## Whole forms -/

def segmentBytes (segment : List Char) : List UInt8 × List UInt8 :=
  match Chars.cut? '=' segment with
  | some (name, value) => (bytesOf name, bytesOf value)
  | none => (bytesOf segment, [])

/-- What a form says: the bytes of its segments, in order. -/
def meaning (form : String) : List (List UInt8 × List UInt8) :=
  (form.toList.splitOn '&').map segmentBytes

def pairBytes (pair : String × String) : List UInt8 × List UInt8 :=
  (Utf8.encode pair.1.toList, Utf8.encode pair.2.toList)

theorem not_mem_encodePair (pair : String × String) : '&' ∉ encodePair pair := by
  have apart : isEncoded '&' = false := by decide
  have absent (cs : List Char) : '&' ∉ encodeText cs := fun mem =>
    Bool.false_ne_true (apart.symm.trans (isEncoded_encodeText cs _ mem))
  rw [encodePair, List.mem_append, List.mem_cons, not_or, not_or]
  exact ⟨absent _, by decide, absent _⟩

theorem segmentBytes_encodePair (pair : String × String) :
    segmentBytes (encodePair pair) = pairBytes pair := by
  have apart : isEncoded '=' = false := by decide
  have absent : '=' ∉ encodeText pair.1.toList := fun mem =>
    Bool.false_ne_true (apart.symm.trans (isEncoded_encodeText _ _ mem))
  rw [segmentBytes, encodePair, Chars.cut?_append absent]
  dsimp only
  rw [bytesOf_encodeText, bytesOf_encodeText]
  rfl

/-- Pairs that are encoded say their own bytes. -/
theorem meaning_encode {pairs : List (String × String)} (some : pairs ≠ []) :
    meaning (encode pairs) = pairs.map pairBytes := by
  have whole : ∀ segment ∈ pairs.map encodePair, '&' ∉ segment := by
    intro segment mem
    obtain ⟨pair, -, rfl⟩ := List.mem_map.1 mem
    exact not_mem_encodePair pair
  rw [meaning, encode, String.toList_ofList,
    List.splitOn_intercalate '&' whole (by simpa using some), List.map_map]
  refine List.map_congr_left fun pair _ => ?_
  rw [Function.comp_apply, segmentBytes_encodePair]

/-- Segments that are not empty are read one by one. -/
theorem decode_eq_map {form : String} (nonempty : ∀ segment ∈ form.toList.splitOn '&', segment ≠ []) :
    decode form = (form.toList.splitOn '&').map fun segment =>
      decodeSegment (Utf8.encode segment) := by
  have whole : String.ofList (['&'].intercalate (form.toList.splitOn '&')) = form := by
    rw [List.intercalate_splitOn, String.ofList_toList]
  have apart : ∀ segment ∈ form.toList.splitOn '&',
      segment ≠ [] ∧ (0x26 : UInt8) ∉ Utf8.encode segment := by
    intro segment mem
    refine ⟨nonempty segment mem, ?_⟩
    exact mt (Utf8.mem_encode_iff (d := '&') (by decide)).1 (Chars.not_mem_of_mem_splitOn mem)
  have read := decode_intercalate (List.splitOn_ne_nil '&' form.toList) apart
  rwa [whole] at read

theorem decodeSegment_encode {name : List Char} (whole : '=' ∉ name) (value : List Char) :
    decodeSegment (Utf8.encode (name ++ '=' :: value)) =
      (String.ofList (Utf8.decodeLossy (bytesOf name)),
        String.ofList (Utf8.decodeLossy (bytesOf value))) := by
  have absent : (0x3D : UInt8) ∉ Utf8.encode name :=
    mt (Utf8.mem_encode_iff (d := '=') (by decide)).1 whole
  rw [encode_equals, decodeSegment_append absent, decodeText_encode, decodeText_encode]

end Form

/-! ## The bodies -/

namespace Body

theorem exists_of_isFormSegment {segment : List Char} (form : isFormSegment segment = true) :
    ∃ name value, segment = name ++ '=' :: value ∧ '=' ∉ name := by
  unfold isFormSegment at form
  split at form
  · next name value cut => exact ⟨name, value, Chars.cut?_eq_some_iff.1 cut⟩
  · cases form

theorem sniffForm?_eq_some {text : String} {pairs : List (String × String)}
    (form : sniffForm? text = some pairs) :
    (∀ segment ∈ text.toList.splitOn '&', isFormSegment segment = true) ∧
      Form.decode text = pairs := by
  unfold sniffForm? at form
  split at form
  · next all => exact ⟨List.all_eq_true.1 all, Option.some.inj form⟩
  · cases form

theorem sniffForm?_of_classify {text : String} {binary : Bool} {pairs : List (String × String)}
    (form : classify text binary = .form pairs) : sniffForm? text = some pairs := by
  unfold classify at form
  split at form
  · cases form
  · split at form
    · next own sniffed => rw [sniffed, Body.form.inj form]
    · split at form <;> cases form

/-- A pair that is read in a segment: each part has the segment's bytes, if a text has them. -/
def ReadsSegment (segment : List Char) (pair : String × String) : Prop :=
  ∃ name value, segment = name ++ '=' :: value ∧ '=' ∉ name ∧
    (Utf8.encode pair.1.toList = Form.bytesOf name ↔ Utf8.IsText (Form.bytesOf name)) ∧
    (Utf8.encode pair.2.toList = Form.bytesOf value ↔ Utf8.IsText (Form.bytesOf value))

section Segment

variable {segment : List Char} (form : isFormSegment segment = true)

include form

theorem readsSegment_decodeSegment :
    ReadsSegment segment (Form.decodeSegment (Utf8.encode segment)) := by
  obtain ⟨name, value, rfl, whole⟩ := exists_of_isFormSegment form
  refine ⟨name, value, rfl, whole, ?_⟩
  rw [Form.decodeSegment_encode whole, String.toList_ofList, String.toList_ofList]
  exact ⟨Utf8.encode_decodeLossy_iff, Utf8.encode_decodeLossy_iff⟩

/-- The bytes of a segment are kept if and only if they are UTF-8. -/
theorem pairBytes_decodeSegment_iff :
    Form.pairBytes (Form.decodeSegment (Utf8.encode segment)) = Form.segmentBytes segment ↔
      Utf8.IsText (Form.segmentBytes segment).1 ∧ Utf8.IsText (Form.segmentBytes segment).2 := by
  obtain ⟨name, value, rfl, whole⟩ := exists_of_isFormSegment form
  have bytes : Form.segmentBytes (name ++ '=' :: value) =
      (Form.bytesOf name, Form.bytesOf value) := by
    rw [Form.segmentBytes, Chars.cut?_append whole]
  rw [bytes, Form.decodeSegment_encode whole, Form.pairBytes, String.toList_ofList,
    String.toList_ofList, Prod.mk.injEq, Utf8.encode_decodeLossy_iff, Utf8.encode_decodeLossy_iff]

end Segment

/--
A body that is read as a form has one pair for each segment, in order, which keeps the bytes of
the segment's name and value if they are UTF-8.  Encoded again the pairs say what the body says
if all of its bytes are.
-/
theorem classify_eq_form {text : String} {binary : Bool} {pairs : List (String × String)}
    (form : classify text binary = .form pairs) :
    List.Forall₂ ReadsSegment (text.toList.splitOn '&') pairs ∧
      (Form.meaning (Form.encode pairs) = Form.meaning text ↔
        ∀ part ∈ Form.meaning text, Utf8.IsText part.1 ∧ Utf8.IsText part.2) := by
  obtain ⟨segments, read⟩ := sniffForm?_eq_some (sniffForm?_of_classify form)
  have nonempty : ∀ segment ∈ text.toList.splitOn '&', segment ≠ [] := by
    intro segment mem
    obtain ⟨name, value, rfl, -⟩ := exists_of_isFormSegment (segments segment mem)
    simp
  rw [Form.decode_eq_map nonempty] at read
  have some : pairs ≠ [] := by simp [← read, List.splitOn_ne_nil]
  constructor
  · rw [← read, List.forall₂_map_right_iff, List.forall₂_same]
    exact fun segment mem => readsSegment_decodeSegment (segments segment mem)
  · rw [Form.meaning_encode some, ← read, Form.meaning, List.map_map, List.map_inj_left,
      List.forall_mem_map]
    exact forall₂_congr fun segment mem => pairBytes_decodeSegment_iff (segments segment mem)

/-- Escapes that are none, a name that is repeated, and bytes of a character in escapes. -/
theorem classify_eq_form_escapes :
    let text := "a=%2&a=%2526+b%&%C3%a9=é="
    let pairs := [("a", "%2"), ("a", "%26 b%"), ("é", "é=")]
    classify text false = .form pairs ∧
      List.Forall₂ ReadsSegment (text.toList.splitOn '&') pairs ∧
      Form.meaning (Form.encode pairs) = Form.meaning text := by
  intro text pairs
  have form : classify text false = .form pairs := by decide +kernel
  obtain ⟨reads, kept⟩ := classify_eq_form form
  have texts : ∀ part ∈ Form.meaning text, Utf8.IsText part.1 ∧ Utf8.IsText part.2 := by
    have parts : Form.meaning text =
        [(Utf8.encode "a".toList, Utf8.encode "%2".toList),
          (Utf8.encode "a".toList, Utf8.encode "%26 b%".toList),
          (Utf8.encode "é".toList, Utf8.encode "é=".toList)] := by decide +kernel
    rw [parts]
    simp only [List.forall_mem_cons]
    exact ⟨⟨⟨_, rfl⟩, _, rfl⟩, ⟨⟨_, rfl⟩, _, rfl⟩, ⟨⟨_, rfl⟩, _, rfl⟩, by simp⟩
  exact ⟨form, reads, kept.2 texts⟩

/-- A byte that is no text is lost. -/
theorem not_forall_classify_eq_form :
    ¬∀ (text : String) (binary : Bool) (pairs : List (String × String)),
      classify text binary = .form pairs →
      List.Forall₂ (fun segment pair => Form.pairBytes pair = Form.segmentBytes segment)
        (text.toList.splitOn '&') pairs := by
  intro always
  have form : classify "a=%FF" false = .form [("a", "\ufffd")] := by decide +kernel
  have segments : "a=%FF".toList.splitOn '&' = ["a=%FF".toList] := by decide
  have kept := always "a=%FF" false _ form
  rw [segments] at kept
  cases kept with
  | cons same _ => exact absurd same (by decide +kernel)

end Body

end RequestScribe
