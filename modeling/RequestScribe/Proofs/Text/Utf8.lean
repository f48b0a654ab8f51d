import RequestScribe.Text.Utf8

/-!
# Text survives UTF-8

The bytes of a character take the decoder from the start of a character to the
start of the next one, with that character added.  So decoding the bytes of a
text gives the text back, without undecodable places.
-/

namespace RequestScribe

namespace Utf8

namespace Decoder

/-- Between two characters, a byte starts the next one. -/
theorem feed_start (done : List (Option Char)) (b : UInt8) :
    feed { done } b = begin done b.toNat := rfl

theorem feed_ascii (done : List (Option Char)) {b : UInt8} (h : b.toNat < 0x80) :
    feed { done } b = { done := some (Char.ofNat b.toNat) :: done } := by
  have valid : b.toNat.isValidChar := Or.inl (by omega)
  have same : Char.ofNat b.toNat = Char.ofNatAux b.toNat valid := by
    rw [Char.ofNat, dif_pos valid]
  rw [feed_start, begin, dif_pos h, same]

/-- A byte that starts a character of several bytes. -/
theorem feed_lead (done : List (Option Char)) {b : UInt8} (high : 0x80 ≤ b.toNat) {state : State}
    (h : lead? b.toNat = some state) : feed { done } b = { state, done } := by
  rw [feed_start, begin, dif_neg (Nat.not_lt.2 high), h]

/-- A byte that continues a character without finishing it. -/
theorem feed_more (done : List (Option Char)) {b : UInt8} {missing low high value : Nat}
    (inRange : low ≤ b.toNat ∧ b.toNat ≤ high) (more : missing ≠ 1) :
    feed { state := .within missing low high value, done } b =
      { state := .within (missing - 1) 0x80 0xBF (value * 64 + (b.toNat - 0x80)), done } := by
  simp only [feed, if_pos inRange, if_neg more]

theorem feed_last (done : List (Option Char)) {b : UInt8} {low high value : Nat}
    (inRange : low ≤ b.toNat ∧ b.toNat ≤ high) :
    feed { state := .within 1 low high value, done } b =
      { done := some (Char.ofNat (value * 64 + (b.toNat - 0x80))) :: done } := by
  simp only [feed, if_pos inRange, if_true]

end Decoder

/-- A continuation byte holds six bits. -/
theorem toNat_tail (n : Nat) : (UInt8.ofNat (n % 0x40 + 0x80)).toNat = n % 0x40 + 0x80 := by
  simp only [UInt8.toNat_ofNat']
  omega

/-- After the first of three bytes the second one is in the range that is asked for. -/
theorem lead?_three {n : Nat} (least : 0x800 ≤ n) (most : n ≤ 0xFFFF)
    (valid : n < 0xD800 ∨ 0xDFFF < n) :
    ∃ low high, lead? (n / 4096 + 0xE0) = some (.within 2 low high (n / 4096)) ∧
      low ≤ n / 64 % 0x40 + 0x80 ∧ n / 64 % 0x40 + 0x80 ≤ high := by
  unfold lead?
  by_cases first : n / 4096 = 0
  · exact ⟨0xA0, 0xBF, by simp [first], by omega, by omega⟩
  · by_cases surrogate : n / 4096 = 0xD
    · exact ⟨0x80, 0x9F, by simp [surrogate], by omega, by omega⟩
    · refine ⟨0x80, 0xBF, ?_, by omega, by omega⟩
      rw [if_neg (by omega), if_neg (by omega), if_neg (by omega), if_pos (by omega)]
      simp

/-- After the first of four bytes the second one is in the range that is asked for. -/
theorem lead?_four {n : Nat} (least : 0x10000 ≤ n) (most : n < 0x110000) :
    ∃ low high, lead? (n / 262144 + 0xF0) = some (.within 3 low high (n / 262144)) ∧
      low ≤ n / 4096 % 0x40 + 0x80 ∧ n / 4096 % 0x40 + 0x80 ≤ high := by
  unfold lead?
  by_cases first : n / 262144 = 0
  · exact ⟨0x90, 0xBF, by simp [first], by omega, by omega⟩
  · by_cases last : n / 262144 = 4
    · exact ⟨0x80, 0x8F, by simp [last], by omega, by omega⟩
    · refine ⟨0x80, 0xBF, ?_, by omega, by omega⟩
      rw [if_neg (by omega), if_neg (by omega), if_neg (by omega), if_neg (by omega),
        if_neg (by omega), if_pos (by omega)]
      simp

namespace Decoder

/-! ## The bytes of one character, by their number -/

theorem foldl_feed_two (done : List (Option Char)) {n : Nat} (least : 0x80 ≤ n) (most : n ≤ 0x7FF) :
    [UInt8.ofNat (n / 64 % 0x20 + 0xC0), UInt8.ofNat (n % 0x40 + 0x80)].foldl feed { done } =
      { done := some (Char.ofNat n) :: done } := by
  have first : (UInt8.ofNat (n / 64 % 0x20 + 0xC0)).toNat = n / 64 + 0xC0 := by
    simp only [UInt8.toNat_ofNat']
    omega
  have lead : lead? (n / 64 + 0xC0) = some (.within 1 0x80 0xBF (n / 64)) := by
    unfold lead?
    rw [if_pos (by omega)]
    simp
  have second := toNat_tail n
  have value : n / 64 * 64 + (n % 0x40 + 0x80 - 0x80) = n := by omega
  rw [List.foldl_cons, feed_lead done (by omega) (first ▸ lead), List.foldl_cons,
    feed_last done (by omega), second, value]
  rfl

theorem foldl_feed_three (done : List (Option Char)) {n : Nat} (least : 0x800 ≤ n)
    (most : n ≤ 0xFFFF) (valid : n < 0xD800 ∨ 0xDFFF < n) :
    [UInt8.ofNat (n / 4096 % 0x10 + 0xE0), UInt8.ofNat (n / 64 % 0x40 + 0x80),
      UInt8.ofNat (n % 0x40 + 0x80)].foldl feed { done } =
      { done := some (Char.ofNat n) :: done } := by
  have first : (UInt8.ofNat (n / 4096 % 0x10 + 0xE0)).toNat = n / 4096 + 0xE0 := by
    simp only [UInt8.toNat_ofNat']
    omega
  have second := toNat_tail (n / 64)
  have third := toNat_tail n
  have value : (n / 4096 * 64 + (n / 64 % 0x40 + 0x80 - 0x80)) * 64 + (n % 0x40 + 0x80 - 0x80) =
      n := by
    omega
  obtain ⟨low, high, lead, inRange⟩ := lead?_three least most valid
  rw [List.foldl_cons, feed_lead done (by omega) (first ▸ lead), List.foldl_cons,
    feed_more done (by omega) (by omega), List.foldl_cons, feed_last done (by omega), second, third,
    value]
  rfl

theorem foldl_feed_four (done : List (Option Char)) {n : Nat} (least : 0x10000 ≤ n)
    (most : n < 0x110000) :
    [UInt8.ofNat (n / 262144 % 0x08 + 0xF0), UInt8.ofNat (n / 4096 % 0x40 + 0x80),
      UInt8.ofNat (n / 64 % 0x40 + 0x80), UInt8.ofNat (n % 0x40 + 0x80)].foldl feed { done } =
      { done := some (Char.ofNat n) :: done } := by
  have first : (UInt8.ofNat (n / 262144 % 0x08 + 0xF0)).toNat = n / 262144 + 0xF0 := by
    simp only [UInt8.toNat_ofNat']
    omega
  have second := toNat_tail (n / 4096)
  have third := toNat_tail (n / 64)
  have fourth := toNat_tail n
  have value : ((n / 262144 * 64 + (n / 4096 % 0x40 + 0x80 - 0x80)) * 64 +
      (n / 64 % 0x40 + 0x80 - 0x80)) * 64 + (n % 0x40 + 0x80 - 0x80) = n := by
    omega
  obtain ⟨low, high, lead, inRange⟩ := lead?_four least most
  rw [List.foldl_cons, feed_lead done (by omega) (first ▸ lead), List.foldl_cons,
    feed_more done (by omega) (by omega), List.foldl_cons, feed_more done (by omega) (by omega),
    List.foldl_cons, feed_last done (by omega), second, third, fourth, value]
  rfl

end Decoder

/-- The bytes of a character are read as that character. -/
theorem foldl_feed_utf8EncodeChar (done : List (Option Char)) (c : Char) :
    (String.utf8EncodeChar c).foldl Decoder.feed { done } = { done := some c :: done } := by
  have valid : c.val.toNat < 0xD800 ∨ (0xDFFF < c.val.toNat ∧ c.val.toNat < 0x110000) := c.valid
  have same : Char.ofNat c.val.toNat = c := Char.ofNat_toNat c
  unfold String.utf8EncodeChar
  dsimp only
  split
  · next one =>
      have byte : (UInt8.ofNat c.val.toNat).toNat = c.val.toNat := by
        simp only [UInt8.toNat_ofNat']
        omega
      rw [List.foldl_cons, Decoder.feed_ascii done (by omega), byte, same]
      rfl
  · split
    · rw [Decoder.foldl_feed_two done (by omega) (by omega), same]
    · split
      · rw [Decoder.foldl_feed_three done (by omega) (by omega) (by omega), same]
      · rw [Decoder.foldl_feed_four done (by omega) (by omega), same]

/-- An ASCII character is one byte. -/
theorem encode_of_ascii {c : Char} (h : c.toNat < 0x80) : encode [c] = [UInt8.ofNat c.toNat] := by
  have least : c.val.toNat ≤ 0x7F := Nat.le_of_lt_succ h
  simp only [encode, List.flatMap_cons, List.flatMap_nil, List.append_nil, String.utf8EncodeChar,
    if_pos least]
  rfl

theorem encode_append (a b : List Char) : encode (a ++ b) = encode a ++ encode b :=
  List.flatMap_append

theorem encode_cons (c : Char) (rest : List Char) : encode (c :: rest) = encode [c] ++ encode rest :=
  encode_append [c] rest

/-- The bytes of all other characters are beyond ASCII. -/
theorem le_of_mem_utf8EncodeChar {c : Char} (wide : 0x80 ≤ c.toNat) {b : UInt8}
    (mem : b ∈ String.utf8EncodeChar c) : 0x80 ≤ b.toNat := by
  have value : c.val.toNat = c.toNat := rfl
  have more : ¬ c.val.toNat ≤ 0x7F := by omega
  unfold String.utf8EncodeChar at mem
  simp only [if_neg more] at mem
  split at mem
  · simp only [List.mem_cons, List.not_mem_nil, or_false] at mem
    rcases mem with rfl | rfl <;> simp only [UInt8.toNat_ofNat'] <;> omega
  · split at mem
    · simp only [List.mem_cons, List.not_mem_nil, or_false] at mem
      rcases mem with rfl | rfl | rfl <;> simp only [UInt8.toNat_ofNat'] <;> omega
    · simp only [List.mem_cons, List.not_mem_nil, or_false] at mem
      rcases mem with rfl | rfl | rfl | rfl <;> simp only [UInt8.toNat_ofNat'] <;> omega

/-- A string is its bytes, and they are looked at faster than its characters. -/
theorem encode_toList (s : String) : encode s.toList = s.toByteArray.data.toList := by
  rw [← String.utf8Encode_toList, List.utf8Encode, List.data_toByteArray]
  rfl

/-- An ASCII character is among the bytes of a text if it is in the text. -/
theorem mem_encode_iff {d : Char} (small : d.toNat < 0x80) {cs : List Char} :
    UInt8.ofNat d.toNat ∈ encode cs ↔ d ∈ cs := by
  have one {c : Char} (ascii : c.toNat < 0x80) :
      String.utf8EncodeChar c = [UInt8.ofNat c.toNat] := by
    simpa [encode] using encode_of_ascii ascii
  have byte : (UInt8.ofNat d.toNat).toNat = d.toNat := by
    simp only [UInt8.toNat_ofNat']
    omega
  constructor
  · intro mem
    obtain ⟨c, inside, own⟩ := List.mem_flatMap.1 mem
    by_cases ascii : c.toNat < 0x80
    · rw [one ascii, List.mem_singleton, ← UInt8.toNat_inj, byte, UInt8.toNat_ofNat'] at own
      have same : d.toNat = c.toNat := by omega
      exact Char.toNat_inj.1 same ▸ inside
    · have wide := le_of_mem_utf8EncodeChar (Nat.not_lt.1 ascii) own
      omega
  · intro inside
    refine List.mem_flatMap.2 ⟨d, inside, ?_⟩
    rw [one small]
    exact List.mem_singleton.2 rfl

theorem foldl_feed_encode (done : List (Option Char)) (cs : List Char) :
    (encode cs).foldl Decoder.feed { done } = { done := (cs.map some).reverse ++ done } := by
  induction cs generalizing done with
  | nil => rfl
  | cons c rest ih =>
      have first : encode [c] = String.utf8EncodeChar c := List.append_nil _
      rw [encode_cons, first, List.foldl_append, foldl_feed_utf8EncodeChar, ih]
      simp

/-- The bytes of a text are decoded to that text. -/
theorem decode_encode (cs : List Char) : decode (encode cs) = cs.map some := by
  rw [decode, foldl_feed_encode]
  simp [Decoder.finish]

theorem decode?_encode (cs : List Char) : decode? (encode cs) = some cs := by
  simp [decode?, decode_encode]

theorem decodeLossy_encode (cs : List Char) : decodeLossy (encode cs) = cs := by
  rw [decodeLossy, decode_encode, List.map_map]
  exact List.map_id cs

end Utf8

end RequestScribe
