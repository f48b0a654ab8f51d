import RequestScribe.Encoding.Base64
import RequestScribe.Proofs.Text.Chars
import RequestScribe.Proofs.Text.Utf8
import RequestScribe.Request.Authorization

/-!
# User and password as a header

The value of an Authorization header that carries user and password is read as these, if the
user has no colon, and so is a user option with a colon between them.  The header holds the
canonical form of their bytes in Base64: four letters for three bytes, with zero bits and padding
at the end, from which any bytes are read back.
-/

namespace RequestScribe

namespace Base64

def letter (n : Nat) : Char :=
  if n < 26 then Char.ofNat ('A'.toNat + n)
  else if n < 52 then Char.ofNat ('a'.toNat + (n - 26))
  else if n < 62 then Char.ofNat ('0'.toNat + (n - 52))
  else if n = 62 then '+'
  else '/'

def letters : List UInt8 → List Char
  | [] => []
  | [a] => [letter (a.toNat / 4), letter (a.toNat % 4 * 16), '=', '=']
  | [a, b] =>
      [letter (a.toNat / 4), letter (a.toNat % 4 * 16 + b.toNat / 16), letter (b.toNat % 16 * 4),
        '=']
  | a :: b :: c :: rest =>
      letter (a.toNat / 4) :: letter (a.toNat % 4 * 16 + b.toNat / 16) ::
        letter (b.toNat % 16 * 4 + c.toNat / 64) :: letter (c.toNat % 64) :: letters rest

def encode (bytes : List UInt8) : String :=
  String.ofList (letters bytes)

/-! ## Letters -/

theorem value?_letter {n : Nat} (h : n < 64) : value? (letter n) = some n := by
  have all : ∀ n < 64, value? (letter n) = some n := by decide
  exact all n h

/-- A letter is no padding, and no blank. -/
theorem letter_visible {n : Nat} (h : n < 64) :
    letter n ≠ '=' ∧ Chars.isBlank (letter n) = false := by
  have all : ∀ n < 64, letter n ≠ '=' ∧ Chars.isBlank (letter n) = false := by decide
  exact all n h

theorem isBlank_of_mem_letters {bytes : List UInt8} {c : Char} (mem : c ∈ letters bytes) :
    Chars.isBlank c = false := by
  have visible {n : Nat} (h : n < 64) := (letter_visible h).2
  have sign : Chars.isBlank '=' = false := by decide
  fun_induction letters bytes with
  | case1 => exact absurd mem List.not_mem_nil
  | case2 a =>
      have := a.toNat_lt
      simp only [List.mem_cons, List.not_mem_nil, or_false] at mem
      rcases mem with rfl | rfl | rfl | rfl
      · exact visible (by omega)
      · exact visible (by omega)
      · exact sign
      · exact sign
  | case3 a b =>
      have := a.toNat_lt
      have := b.toNat_lt
      simp only [List.mem_cons, List.not_mem_nil, or_false] at mem
      rcases mem with rfl | rfl | rfl | rfl
      · exact visible (by omega)
      · exact visible (by omega)
      · exact visible (by omega)
      · exact sign
  | case4 a b c rest ih =>
      have := a.toNat_lt
      have := b.toNat_lt
      have := c.toNat_lt
      simp only [List.mem_cons] at mem
      rcases mem with rfl | rfl | rfl | rfl | later
      · exact visible (by omega)
      · exact visible (by omega)
      · exact visible (by omega)
      · exact visible (by omega)
      · exact ih later

theorem letters_ne_nil {bytes : List UInt8} (h : bytes ≠ []) : letters bytes ≠ [] := by
  unfold letters
  split <;> first | exact absurd rfl h | simp

/-! ## Groups of letters -/

theorem ofNat_toNat_of_eq {n : Nat} {byte : UInt8} (h : n = byte.toNat) : UInt8.ofNat n = byte := by
  rw [h, UInt8.ofNat_toNat]

theorem oneByte?_letters (a : UInt8) :
    oneByte? (letter (a.toNat / 4)) (letter (a.toNat % 4 * 16)) = some [a] := by
  have := a.toNat_lt
  have zero : a.toNat % 4 * 16 % 16 = 0 := by omega
  have first : a.toNat / 4 * 4 + a.toNat % 4 * 16 / 16 = a.toNat := by omega
  rw [oneByte?, value?_letter (by omega), value?_letter (by omega)]
  dsimp only
  rw [if_pos zero, ofNat_toNat_of_eq first]

theorem twoBytes?_letters (a b : UInt8) :
    twoBytes? (letter (a.toNat / 4)) (letter (a.toNat % 4 * 16 + b.toNat / 16))
      (letter (b.toNat % 16 * 4)) = some [a, b] := by
  have := a.toNat_lt
  have := b.toNat_lt
  have zero : b.toNat % 16 * 4 % 4 = 0 := by omega
  have first : a.toNat / 4 * 4 + (a.toNat % 4 * 16 + b.toNat / 16) / 16 = a.toNat := by omega
  have second : (a.toNat % 4 * 16 + b.toNat / 16) % 16 * 16 + b.toNat % 16 * 4 / 4 = b.toNat := by
    omega
  rw [twoBytes?, value?_letter (by omega), value?_letter (by omega), value?_letter (by omega)]
  dsimp only
  rw [if_pos zero, ofNat_toNat_of_eq first, ofNat_toNat_of_eq second]

theorem threeBytes?_letters (a b c : UInt8) :
    threeBytes? (letter (a.toNat / 4)) (letter (a.toNat % 4 * 16 + b.toNat / 16))
      (letter (b.toNat % 16 * 4 + c.toNat / 64)) (letter (c.toNat % 64)) = some [a, b, c] := by
  have := a.toNat_lt
  have := b.toNat_lt
  have := c.toNat_lt
  have first : a.toNat / 4 * 4 + (a.toNat % 4 * 16 + b.toNat / 16) / 16 = a.toNat := by omega
  have second : (a.toNat % 4 * 16 + b.toNat / 16) % 16 * 16 +
      (b.toNat % 16 * 4 + c.toNat / 64) / 4 = b.toNat := by omega
  have third : (b.toNat % 16 * 4 + c.toNat / 64) % 4 * 64 + c.toNat % 64 = c.toNat := by omega
  rw [threeBytes?, value?_letter (by omega), value?_letter (by omega), value?_letter (by omega),
    value?_letter (by omega)]
  dsimp only
  rw [ofNat_toNat_of_eq first, ofNat_toNat_of_eq second, ofNat_toNat_of_eq third]

/-! ## Whole texts -/

theorem decodeOnto?_group {a b c d : Char} {bytes : List UInt8} (unpadded : d ≠ '=')
    (read : threeBytes? a b c d = some bytes) (done : List UInt8) (rest : List Char) :
    decodeOnto? done (a :: b :: c :: d :: rest) = decodeOnto? (bytes.reverse ++ done) rest := by
  rw [decodeOnto?, read]
  · rintro rfl rfl
    exact absurd rfl unpadded
  · rintro rfl
    exact absurd rfl unpadded

theorem decodeOnto?_letters (bytes done : List UInt8) :
    decodeOnto? done (letters bytes) = some (done.reverse ++ bytes) := by
  fun_induction letters bytes generalizing done with
  | case1 => simp [decodeOnto?]
  | case2 a => rw [decodeOnto?, oneByte?_letters, Option.map_some]
  | case3 a b =>
      have := b.toNat_lt
      have unpadded := (letter_visible (n := b.toNat % 16 * 4) (by omega)).1
      rw [decodeOnto?, twoBytes?_letters, Option.map_some]
      exact fun sign => absurd sign unpadded
  | case4 a b c rest ih =>
      have unpadded := (letter_visible (n := c.toNat % 64) (by omega)).1
      rw [decodeOnto?_group unpadded (threeBytes?_letters a b c), ih]
      simp

theorem decode?_encode (bytes : List UInt8) : decode? (encode bytes) = some bytes := by
  rw [decode?, encode, String.toList_ofList, decodeOnto?_letters]
  rfl

end Base64

/-! ## The value of the header -/

namespace Authorization

/-- User and password with a colon between them, in Base64. -/
def encodedPair (username password : String) : String :=
  Base64.encode (Utf8.encode (username ++ ":" ++ password).toList)

def basicHeader (username password : String) : String :=
  "Basic " ++ encodedPair username password

section

variable {username : String} (noColon : ':' ∉ username.toList) (password : String)

include noColon

theorem ofUser_colon : ofUser (username ++ ":" ++ password) = .basic username password := by
  have cut : Text.cut? ':' (username ++ ":" ++ password) = some (username, password) :=
    Text.cut?_append noColon (by simp)
  rw [ofUser, cut]

theorem decodeBasic?_encodedPair :
    decodeBasic? (encodedPair username password) = some (username, password) := by
  have text : (username ++ ":" ++ password).toList = username.toList ++ ':' :: password.toList := by
    simp
  simp [decodeBasic?, encodedPair, Base64.decode?_encode, Utf8.decode?_encode, text,
    Chars.cut?_append noColon]

end

/-! ## The characters of the header -/

theorem isBlank_of_mem_encodedPair {username password : String} {c : Char}
    (mem : c ∈ (encodedPair username password).toList) : Chars.isBlank c = false := by
  rw [encodedPair, Base64.encode, String.toList_ofList] at mem
  exact Base64.isBlank_of_mem_letters mem

theorem encodedPair_ne_nil (username password : String) :
    (encodedPair username password).toList ≠ [] := by
  have bytes : Utf8.encode (username ++ ":" ++ password).toList ≠ [] := by
    have colon : Utf8.encode ":".toList ≠ [] := by decide
    rw [String.toList_append, String.toList_append, Utf8.encode_append, Utf8.encode_append]
    simp only [ne_eq, List.append_eq_nil_iff, colon, and_false, false_and, not_false_eq_true]
  rw [encodedPair, Base64.encode, String.toList_ofList]
  exact Base64.letters_ne_nil bytes

theorem toList_basicHeader (username password : String) :
    (basicHeader username password).toList =
      'B' :: 'a' :: 's' :: 'i' :: 'c' :: ' ' :: (encodedPair username password).toList := by
  rw [basicHeader, String.toList_append]
  rfl

theorem trim_basicHeader (username password : String) :
    Text.trim (basicHeader username password) = basicHeader username password := by
  have ends : Chars.trim (basicHeader username password).toList =
      (basicHeader username password).toList := by
    rw [toList_basicHeader]
    refine Chars.trim_of_visible_ends (fun c first => ?_) fun c last => ?_
    · obtain rfl := Option.some.inj first
      decide
    · obtain ⟨d, rest, pair⟩ := List.exists_cons_of_ne_nil (encodedPair_ne_nil username password)
      simp only [pair, List.getLast?_cons_cons] at last
      exact isBlank_of_mem_encodedPair (pair ▸ List.mem_of_getLast? last)
  rw [Text.trim, ends, String.ofList_toList]

theorem cutWhere?_basicHeader (username password : String) :
    Text.cutWhere? Chars.isBlank (basicHeader username password) =
      some ("Basic", encodedPair username password) := by
  have scheme : ∀ c ∈ "Basic".toList, (!Chars.isBlank c) = true := List.all_eq_true.1 (by decide)
  have stop : ∀ c ∈ (' ' :: (encodedPair username password).toList).head?,
      (!Chars.isBlank c) = false := by
    intro c first
    obtain rfl := Option.some.inj first
    decide
  have split := Chars.span_append scheme stop
  have text : (basicHeader username password).toList =
      "Basic".toList ++ ' ' :: (encodedPair username password).toList := toList_basicHeader ..
  rw [Text.cutWhere?, Chars.cutWhere?, text, split]
  simp

theorem ofHeader?_basicHeader {username : String} (noColon : ':' ∉ username.toList)
    (password : String) :
    ofHeader? (basicHeader username password) = some (.basic username password) := by
  have nonempty : (basicHeader username password).isEmpty = false := by
    rw [← Bool.not_eq_true, String.isEmpty_iff, ← String.toList_inj, toList_basicHeader]
    simp
  have solid : Text.trim (encodedPair username password) = encodedPair username password :=
    Text.trim_of_no_blank fun c => isBlank_of_mem_encodedPair
  have word : Text.lower "Basic" = "basic" := by decide
  have other : "basic" ≠ "bearer" := by decide
  rw [ofHeader?, trim_basicHeader]
  simp only [nonempty, cutWhere?_basicHeader, solid, ofScheme, word, if_neg other, if_true,
    decodeBasic?_encodedPair noColon]
  rfl

end Authorization

end RequestScribe
