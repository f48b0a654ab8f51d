import RequestScribe.Encoding.Form
import RequestScribe.Encoding.Percent
import RequestScribe.Proofs.Text.Chars
import RequestScribe.Proofs.Text.Utf8

/-!
# Form encoding is undone by reading it

Read byte by byte, a byte other than the percent sign stands for itself, and the three characters
that write a byte are read as that byte, whatever follows.  An encoded name or value is made of a
few ASCII characters, among which there is neither of the two separators.  So encoded pairs fall
apart where they were put together, and each part is read as the text it was made from.
-/

namespace RequestScribe

/-! ## Percent-encoded bytes -/

namespace Percent

/-- What has been decoded stays in front of what is still to come. -/
theorem decodeOnto_append (done older bytes : List UInt8) :
    decodeOnto (done ++ older) bytes = older.reverse ++ decodeOnto done bytes := by
  fun_induction decodeOnto done bytes with
  | case1 done => simp [decodeOnto]
  | case2 done high low tail h l hHigh hLow ih =>
      rw [decodeOnto, hHigh, hLow]
      exact ih
  | case3 done high low tail notHex ih =>
      rw [decodeOnto]
      split
      · next h l hHigh hLow => exact absurd hLow (notHex h l hHigh)
      · exact ih
  | case4 done b rest noEscape ih =>
      rw [decodeOnto]
      · exact ih
      · exact noEscape

theorem decodeOnto_eq (done bytes : List UInt8) :
    decodeOnto done bytes = done.reverse ++ decode bytes :=
  decodeOnto_append [] done bytes

theorem decode_cons {b : UInt8} (h : b ≠ 0x25) (rest : List UInt8) :
    decode (b :: rest) = b :: decode rest := by
  have step : decodeOnto [] (b :: rest) = decodeOnto [b] rest := by
    rw [decodeOnto]
    intro _ _ _ sign
    exact absurd sign h
  rw [decode, step, decodeOnto_eq]
  rfl

theorem hexValue?_upperHexDigit {n : Nat} (h : n < 16) :
    hexValue? (UInt8.ofNat (Chars.upperHexDigit n).toNat) = some n := by
  have all : ∀ n < 16, hexValue? (UInt8.ofNat (Chars.upperHexDigit n).toNat) = some n := by decide
  exact all n h

theorem upperHexDigit_lt {n : Nat} (h : n < 16) : (Chars.upperHexDigit n).toNat < 0x80 := by
  have all : ∀ n < 16, (Chars.upperHexDigit n).toNat < 0x80 := by decide
  exact all n h

/-- The bytes of the characters that write a byte. -/
theorem encode_escape (b : UInt8) :
    Utf8.encode (escape b) =
      [0x25, UInt8.ofNat (Chars.upperHexDigit (b.toNat / 16)).toNat,
        UInt8.ofNat (Chars.upperHexDigit (b.toNat % 16)).toNat] := by
  have small : b.toNat < 256 := b.toNat_lt
  have sign : Utf8.encode ['%'] = [0x25] := by decide
  have high := Utf8.encode_of_ascii (upperHexDigit_lt (n := b.toNat / 16) (by omega))
  have low := Utf8.encode_of_ascii (upperHexDigit_lt (n := b.toNat % 16) (by omega))
  rw [escape, Utf8.encode_cons '%', Utf8.encode_cons (Chars.upperHexDigit (b.toNat / 16)), sign,
    high, low]
  rfl

theorem decode_escape (b : UInt8) (rest : List UInt8) :
    decode (Utf8.encode (escape b) ++ rest) = b :: decode rest := by
  have small : b.toNat < 256 := b.toNat_lt
  have value : UInt8.ofNat (b.toNat / 16 * 16 + b.toNat % 16) = b := by
    rw [Nat.div_add_mod', UInt8.ofNat_toNat]
  rw [encode_escape, decode]
  simp only [List.cons_append, List.nil_append]
  rw [decodeOnto, hexValue?_upperHexDigit (by omega), hexValue?_upperHexDigit (by omega)]
  simp only [value]
  rw [decodeOnto_eq]
  rfl

end Percent

/-! ## Encoded names and values -/

namespace Form

def isEncoded (c : Char) : Bool :=
  Chars.isAlphanumeric c || "*-._+%".toList.contains c

theorem toNat_lt_of_isEncoded {c : Char} (h : isEncoded c = true) : c.toNat < 0x80 := by
  rcases Bool.or_eq_true_iff.1 h with plain | special
  · have range := Chars.isAlphanumeric_iff.1 plain
    omega
  · have all : "*-._+%".toList.all (fun d => d.toNat < 0x80) = true := by decide
    exact of_decide_eq_true (List.all_eq_true.1 all c (List.contains_iff_mem.1 special))

theorem toNat_ofNat (b : UInt8) : (Char.ofNat b.toNat).toNat = b.toNat := by
  have small : b.toNat < 256 := b.toNat_lt
  have valid : b.toNat.isValidChar := Or.inl (by omega)
  rw [Char.ofNat, dif_pos valid]
  rfl

theorem isEncoded_of_isPlain {b : UInt8} (h : isPlain b = true) :
    isEncoded (Char.ofNat b.toNat) = true := by
  unfold isPlain at h
  unfold isEncoded
  generalize Char.ofNat b.toNat = c at h ⊢
  cases plain : Chars.isAlphanumeric c with
  | true => rfl
  | false =>
      simp only [plain, Bool.false_or, Bool.or_eq_true, beq_iff_eq] at h
      obtain ((rfl | rfl) | rfl) | rfl := h <;> decide

theorem ne_of_isPlain {b : UInt8} (h : isPlain b = true) : b ≠ 0x25 ∧ b ≠ 0x2B := by
  constructor
  · rintro rfl
    exact absurd h (by decide)
  · rintro rfl
    exact absurd h (by decide)

theorem isEncoded_upperHexDigit {n : Nat} (h : n < 16) :
    isEncoded (Chars.upperHexDigit n) = true := by
  have all : ∀ n < 16, isEncoded (Chars.upperHexDigit n) = true := by decide
  exact all n h

theorem isEncoded_escape (b : UInt8) : ∀ c ∈ Percent.escape b, isEncoded c = true := by
  have small : b.toNat < 256 := b.toNat_lt
  simp only [Percent.escape, List.forall_mem_cons]
  exact ⟨by decide, isEncoded_upperHexDigit (by omega), isEncoded_upperHexDigit (by omega), by simp⟩

theorem isEncoded_encodeByte (b : UInt8) : ∀ c ∈ encodeByte b, isEncoded c = true := by
  unfold encodeByte
  split
  · next plain =>
      have one := isEncoded_of_isPlain plain
      simpa using one
  · split
    · exact List.forall_mem_singleton.2 (by decide)
    · exact isEncoded_escape b

theorem isEncoded_encodeText (cs : List Char) : ∀ c ∈ encodeText cs, isEncoded c = true := by
  intro c hc
  obtain ⟨b, -, hb⟩ := List.mem_flatMap.1 hc
  exact isEncoded_encodeByte b c hb

/-! ## Bytes -/

theorem decodeBytes_cons {b : UInt8} (sign : b ≠ 0x25) (plus : b ≠ 0x2B) (rest : List UInt8) :
    decodeBytes (b :: rest) = b :: decodeBytes rest := by
  rw [decodeBytes, List.map_cons, if_neg plus, Percent.decode_cons sign]
  rfl

theorem decodeBytes_plus (rest : List UInt8) :
    decodeBytes (0x2B :: rest) = 0x20 :: decodeBytes rest := by
  rw [decodeBytes, List.map_cons, if_pos rfl, Percent.decode_cons (by decide)]
  rfl

/-- An escape holds no plus sign, which would become a space. -/
theorem map_escape (b : UInt8) :
    (Utf8.encode (Percent.escape b)).map (fun b => if b = 0x2B then 0x20 else b) =
      Utf8.encode (Percent.escape b) := by
  have small : b.toNat < 256 := b.toNat_lt
  have digits : ∀ n < 16, '+' ≠ Chars.upperHexDigit n := by decide
  have absent : '+' ∉ Percent.escape b := by
    simp only [Percent.escape, List.mem_cons, List.not_mem_nil, or_false, not_or]
    exact ⟨by decide, digits _ (by omega), digits _ (by omega)⟩
  have noPlus : (0x2B : UInt8) ∉ Utf8.encode (Percent.escape b) :=
    mt (Utf8.mem_encode_iff (d := '+') (by decide)).1 absent
  have unchanged : ∀ c ∈ Utf8.encode (Percent.escape b), (if c = 0x2B then 0x20 else c) = id c := by
    intro c hc
    have other : c ≠ 0x2B := fun plus => noPlus (plus ▸ hc)
    rw [if_neg other, id_eq]
  rw [List.map_congr_left unchanged, List.map_id]

/-- What is written for a byte is read as that byte. -/
theorem decodeBytes_encodeByte (b : UInt8) (rest : List UInt8) :
    decodeBytes (Utf8.encode (encodeByte b) ++ rest) = b :: decodeBytes rest := by
  unfold encodeByte
  split
  · next plain =>
      have ascii := toNat_lt_of_isEncoded (isEncoded_of_isPlain plain)
      have others := ne_of_isPlain plain
      rw [Utf8.encode_of_ascii ascii, toNat_ofNat, UInt8.ofNat_toNat]
      exact decodeBytes_cons others.1 others.2 rest
  · split
    · next space =>
        have plus : Utf8.encode ['+'] = [0x2B] := by decide
        rw [plus, space, List.cons_append, List.nil_append, decodeBytes_plus]
    · rw [decodeBytes, List.map_append, map_escape, Percent.decode_escape]
      rfl

theorem decodeBytes_encodeText (cs : List Char) :
    decodeBytes (Utf8.encode (encodeText cs)) = Utf8.encode cs := by
  unfold encodeText
  generalize Utf8.encode cs = bytes
  induction bytes with
  | nil => rfl
  | cons b rest ih => rw [List.flatMap_cons, Utf8.encode_append, decodeBytes_encodeByte, ih]

theorem decodeText_encodeText (s : String) :
    decodeText (Utf8.encode (encodeText s.toList)) = s := by
  rw [decodeText, decodeBytes_encodeText, Utf8.decodeLossy_encode, String.ofList_toList]

/-- The bytes of an encoded name or value contain no separator. -/
theorem not_mem_encodeText {d : Char} (small : d.toNat < 0x80) (other : isEncoded d = false)
    (cs : List Char) : UInt8.ofNat d.toNat ∉ Utf8.encode (encodeText cs) := by
  rw [Utf8.mem_encode_iff small]
  intro mem
  exact absurd (isEncoded_encodeText cs d mem) (by simp [other])

/-! ## Pairs -/

/-- A way to write names and values without separators, undone by reading. -/
structure IsReadable (write : List Char → List Char) : Prop where
  equals : ∀ cs, (0x3D : UInt8) ∉ Utf8.encode (write cs)
  ampersand : ∀ cs, (0x26 : UInt8) ∉ Utf8.encode (write cs)
  read : ∀ s : String, decodeText (Utf8.encode (write s.toList)) = s

theorem isReadable_encodeText : IsReadable encodeText where
  equals := not_mem_encodeText (d := '=') (by decide) (by decide)
  ampersand := not_mem_encodeText (d := '&') (by decide) (by decide)
  read := decodeText_encodeText

theorem encode_equals (name value : List Char) :
    Utf8.encode (name ++ '=' :: value) = Utf8.encode name ++ 0x3D :: Utf8.encode value := by
  have equals : Utf8.encode ['='] = [0x3D] := by decide
  rw [Utf8.encode_append, Utf8.encode_cons '=', equals]
  rfl

/-- A segment is cut at its first equals sign. -/
theorem decodeSegment_append {name : List UInt8} (absent : (0x3D : UInt8) ∉ name)
    (value : List UInt8) :
    decodeSegment (name ++ 0x3D :: value) = (decodeText name, decodeText value) := by
  have before : ∀ b ∈ name, (b != 0x3D) = true := by
    intro b hb
    exact bne_iff_ne.2 fun same => absent (same ▸ hb)
  have cut : (name ++ 0x3D :: value).span (· != 0x3D) = (name, 0x3D :: value) := by
    rw [List.span_eq_takeWhile_dropWhile, List.takeWhile_append_of_pos before,
      List.dropWhile_append_of_pos before]
    simp
  unfold decodeSegment
  rw [cut]

theorem encode_intercalate (texts : List (List Char)) :
    Utf8.encode (['&'].intercalate texts) = [0x26].intercalate (texts.map Utf8.encode) := by
  have ampersand : Utf8.encode ['&'] = [0x26] := by decide
  match texts with
  | [] => rfl
  | [text] => simp
  | text :: next :: rest =>
      have later := encode_intercalate (next :: rest)
      rw [List.intercalate_cons_cons, Utf8.encode_append, Utf8.encode_append, ampersand, later]
      simp

/-- Encoded pairs are made of encoded names and values and the two separators. -/
theorem mem_encode {pairs : List (String × String)} {c : Char} (h : c ∈ (encode pairs).toList) :
    isEncoded c = true ∨ c = '=' ∨ c = '&' := by
  let P (c : Char) : Prop := isEncoded c = true ∨ c = '=' ∨ c = '&'
  have separator : ∀ d ∈ ['&'], P d := List.forall_mem_singleton.2 (.inr (.inr rfl))
  have parts : ∀ part ∈ pairs.map encodePair, ∀ d ∈ part, P d := by
    intro part hpart d hd
    obtain ⟨pair, -, rfl⟩ := List.mem_map.1 hpart
    rcases List.mem_append.1 hd with name | rest
    · exact .inl (isEncoded_encodeText _ d name)
    · rcases List.mem_cons.1 rest with equals | value
      · exact .inr (.inl equals)
      · exact .inl (isEncoded_encodeText _ d value)
  rw [encode, String.toList_ofList] at h
  exact Chars.forall_mem_intercalate separator parts c h

/-- Segments that are put together with the separator are read one by one. -/
theorem decode_intercalate {segments : List (List Char)} (given : segments ≠ [])
    (whole : ∀ segment ∈ segments, segment ≠ [] ∧ (0x26 : UInt8) ∉ Utf8.encode segment) :
    decode (String.ofList (['&'].intercalate segments)) =
      segments.map fun segment => decodeSegment (Utf8.encode segment) := by
  have apart : ∀ bytes ∈ segments.map Utf8.encode, (0x26 : UInt8) ∉ bytes := by
    intro bytes hbytes
    obtain ⟨segment, hsegment, rfl⟩ := List.mem_map.1 hbytes
    exact (whole segment hsegment).2
  have nonempty : ∀ bytes ∈ segments.map Utf8.encode, (!bytes.isEmpty) = true := by
    intro bytes hbytes
    obtain ⟨segment, hsegment, rfl⟩ := List.mem_map.1 hbytes
    have something := (whole segment hsegment).1
    have read := Utf8.decodeLossy_encode segment
    cases empty : Utf8.encode segment with
    | nil =>
        rw [empty] at read
        exact absurd read.symm something
    | cons b rest => rfl
  have some : segments.map Utf8.encode ≠ [] := by simpa using given
  rw [decode, String.toList_ofList, encode_intercalate, List.splitOn_intercalate 0x26 apart some,
    List.filter_eq_self.2 nonempty, List.map_map]
  rfl

/-- Pairs that are written so are read back, in order. -/
theorem IsReadable.decode_pairs {write : List Char → List Char} (readable : IsReadable write)
    (pairs : List (String × String)) :
    decode (String.ofList (['&'].intercalate
      (pairs.map fun pair => write pair.1.toList ++ '=' :: write pair.2.toList))) = pairs := by
  cases pairs with
  | nil => exact (by decide : decode "" = [])
  | cons pair rest =>
      have whole : ∀ segment ∈ (pair :: rest).map
            (fun pair => write pair.1.toList ++ '=' :: write pair.2.toList),
          segment ≠ [] ∧ (0x26 : UInt8) ∉ Utf8.encode segment := by
        intro segment hsegment
        obtain ⟨pair, -, rfl⟩ := List.mem_map.1 hsegment
        refine ⟨by simp, ?_⟩
        rw [encode_equals, List.mem_append, List.mem_cons, not_or, not_or]
        exact ⟨readable.ampersand _, by decide, readable.ampersand _⟩
      have read (pair : String × String) :
          decodeSegment (Utf8.encode (write pair.1.toList ++ '=' :: write pair.2.toList)) =
            pair := by
        rw [encode_equals, decodeSegment_append (readable.equals _), readable.read, readable.read]
      rw [decode_intercalate (by simp) whole, List.map_map]
      exact List.map_id'' read (pair :: rest)

/-- Reading the encoded form of pairs gives the pairs back, in order. -/
theorem decode_encode (pairs : List (String × String)) : decode (encode pairs) = pairs :=
  isReadable_encodeText.decode_pairs pairs

end Form

/-! ## Percent-encoded text inside a form

Percent-encoding leaves other characters as they are than the encoding of forms does, and it
writes a space as any other byte.  A form that is put together from percent-encoded names and
values is read back all the same: there is no plus sign in it that would be read as a space, and
no separator but those between the names and the values.
-/

namespace Percent

def isPlain (c : Char) : Bool :=
  Chars.isAlphanumeric c || "-_.~".toList.contains c

def isWritten (c : Char) : Bool :=
  isPlain c || c == '%'

theorem toNat_lt_of_isWritten {c : Char} (h : isWritten c = true) : c.toNat < 0x80 := by
  rcases Bool.or_eq_true_iff.1 h with plain | sign
  · rcases Bool.or_eq_true_iff.1 plain with letter | mark
    · have range := Chars.isAlphanumeric_iff.1 letter
      omega
    · have all : "-_.~".toList.all (fun d => d.toNat < 0x80) = true := by decide
      exact of_decide_eq_true (List.all_eq_true.1 all c (List.contains_iff_mem.1 mark))
  · obtain rfl := beq_iff_eq.1 sign
    decide

theorem isUnreserved_iff (b : UInt8) :
    isUnreserved b = true ↔ isPlain (Char.ofNat b.toNat) = true := by
  simp only [isUnreserved, isPlain, Bool.or_eq_true, beq_iff_eq, List.contains_iff_mem]
  have marks (c : Char) : c ∈ "-_.~".toList ↔ c = '-' ∨ c = '_' ∨ c = '.' ∨ c = '~' := by
    have list : "-_.~".toList = ['-', '_', '.', '~'] := by decide
    simp [list]
  rw [marks]
  simp only [or_assoc]

theorem isWritten_escape (b : UInt8) : ∀ c ∈ escape b, isWritten c = true := by
  have digits : ∀ n < 16, isWritten (Chars.upperHexDigit n) = true := by decide
  have small : b.toNat < 256 := b.toNat_lt
  simp only [escape, List.forall_mem_cons]
  exact ⟨by decide, digits _ (by omega), digits _ (by omega), by simp⟩

theorem isWritten_encodeByte (b : UInt8) : ∀ c ∈ encodeByte b, isWritten c = true := by
  unfold encodeByte
  split
  · next plain =>
      have one : isWritten (Char.ofNat b.toNat) = true :=
        Bool.or_eq_true_iff.2 (.inl ((isUnreserved_iff b).1 plain))
      simpa using one
  · exact isWritten_escape b

theorem isWritten_encode (cs : List Char) : ∀ c ∈ encode cs, isWritten c = true := by
  intro c hc
  obtain ⟨b, -, hb⟩ := List.mem_flatMap.1 hc
  exact isWritten_encodeByte b c hb

/-- The bytes of a percent-encoded text contain no other character. -/
theorem not_mem_encode {d : Char} (small : d.toNat < 0x80) (other : isWritten d = false)
    (cs : List Char) : UInt8.ofNat d.toNat ∉ Utf8.encode (encode cs) := by
  rw [Utf8.mem_encode_iff small]
  intro mem
  exact absurd (isWritten_encode cs d mem) (by simp [other])

theorem encode_of_plain {cs : List Char} (plain : ∀ c ∈ cs, isPlain c = true) :
    encode cs = cs := by
  induction cs with
  | nil => rfl
  | cons c rest ih =>
      rw [List.forall_mem_cons] at plain
      obtain ⟨first, later⟩ := plain
      have small : c.toNat < 0x80 :=
        toNat_lt_of_isWritten (Bool.or_eq_true_iff.2 (.inl first))
      have back : Char.ofNat (UInt8.ofNat c.toNat).toNat = c := by
        have byte : c.toNat < UInt8.size := Nat.lt_of_lt_of_le small (by decide)
        rw [UInt8.toNat_ofNat_of_lt' byte, Char.ofNat_toNat]
      have one : encodeByte (UInt8.ofNat c.toNat) = [c] := by
        rw [encodeByte, if_pos ((isUnreserved_iff _).2 (by rw [back]; exact first)), back]
      have split : encode (c :: rest) = encodeByte (UInt8.ofNat c.toNat) ++ encode rest := by
        rw [encode, Utf8.encode_cons, Utf8.encode_of_ascii small, List.flatMap_append,
          List.flatMap_singleton]
        rfl
      rw [split, one, ih later]
      rfl

end Percent

namespace Form

/-- What percent-encoding writes for a byte is read as that byte. -/
theorem decodeBytes_percent (b : UInt8) (rest : List UInt8) :
    decodeBytes (Utf8.encode (Percent.encodeByte b) ++ rest) = b :: decodeBytes rest := by
  unfold Percent.encodeByte
  split
  · next plain =>
      have written : Percent.isWritten (Char.ofNat b.toNat) = true :=
        Bool.or_eq_true_iff.2 (.inl ((Percent.isUnreserved_iff b).1 plain))
      have sign : b ≠ 0x25 := by
        rintro rfl
        exact absurd plain (by decide)
      have plus : b ≠ 0x2B := by
        rintro rfl
        exact absurd plain (by decide)
      rw [Utf8.encode_of_ascii (Percent.toNat_lt_of_isWritten written), toNat_ofNat,
        UInt8.ofNat_toNat]
      exact decodeBytes_cons sign plus rest
  · rw [decodeBytes, List.map_append, map_escape, Percent.decode_escape]
    rfl

theorem decodeBytes_encode (cs : List Char) :
    decodeBytes (Utf8.encode (Percent.encode cs)) = Utf8.encode cs := by
  unfold Percent.encode
  generalize Utf8.encode cs = bytes
  induction bytes with
  | nil => rfl
  | cons b rest ih => rw [List.flatMap_cons, Utf8.encode_append, decodeBytes_percent, ih]

theorem decodeText_percent (s : String) :
    decodeText (Utf8.encode (Percent.encode s.toList)) = s := by
  rw [decodeText, decodeBytes_encode, Utf8.decodeLossy_encode, String.ofList_toList]

theorem isReadable_percent : IsReadable Percent.encode where
  equals := Percent.not_mem_encode (d := '=') (by decide) (by decide)
  ampersand := Percent.not_mem_encode (d := '&') (by decide) (by decide)
  read := decodeText_percent

end Form

end RequestScribe
