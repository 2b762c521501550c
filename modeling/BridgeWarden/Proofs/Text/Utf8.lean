import BridgeWarden.Text.Utf8

/-!
Text written as bytes and read back.

A character takes one to four bytes. The first of them says how many follow and bears the upper
bits, each further one bears six bits (`readTail_further`). The bounds on the second byte hold by
themselves, as no character is written longer than it needs to be and none is a surrogate
(`readChar_utf8EncodeChar`).
-/

namespace BridgeWarden.Text

/-- A first byte told by its number. -/
theorem readChar_ofNat {n : Nat} (byte : n < 256) (bytes : Bytes) :
    readChar (UInt8.ofNat n) bytes =
      if n < 0x80 then (some (Char.ofNat n), bytes)
      else if 0xC2 ≤ n ∧ n ≤ 0xDF then readTail (n - 0xC0) 1 0x80 0xBF bytes
      else if n = 0xE0 then readTail 0 2 0xA0 0xBF bytes
      else if n = 0xED then readTail 0xD 2 0x80 0x9F bytes
      else if 0xE1 ≤ n ∧ n ≤ 0xEF then readTail (n - 0xE0) 2 0x80 0xBF bytes
      else if n = 0xF0 then readTail 0 3 0x90 0xBF bytes
      else if 0xF1 ≤ n ∧ n ≤ 0xF3 then readTail (n - 0xF0) 3 0x80 0xBF bytes
      else if n = 0xF4 then readTail 4 3 0x80 0x8F bytes
      else (none, bytes) := by
  have number : (UInt8.ofNat n).toNat = n := UInt8.toNat_ofNat_of_lt' byte
  simp only [readChar, UInt8.lt_iff_toNat_lt, UInt8.le_iff_toNat_le, ← UInt8.toNat_inj, number]
  rfl

/-- A further byte adds its six bits, if it lies within the bounds. -/
theorem readTail_further {lo hi : UInt8} {n : Nat} (low : lo.toNat ≤ n % 64 + 128)
    (high : n % 64 + 128 ≤ hi.toNat) (acc more : Nat) (rest : Bytes) :
    readTail acc (more + 1) lo hi (UInt8.ofNat (n % 64 + 128) :: rest) =
      readTail (acc * 64 + n % 64) more 0x80 0xBF rest := by
  have number : (UInt8.ofNat (n % 64 + 128)).toNat = n % 64 + 128 :=
    UInt8.toNat_ofNat_of_lt' (by simp only [UInt8.size]; omega)
  have within : lo ≤ UInt8.ofNat (n % 64 + 128) ∧ UInt8.ofNat (n % 64 + 128) ≤ hi := by
    rw [UInt8.le_iff_toNat_le, UInt8.le_iff_toNat_le, number]
    exact ⟨low, high⟩
  rw [readTail, if_pos within, number, Nat.add_sub_cancel]

theorem readTail_later (acc more n : Nat) (rest : Bytes) :
    readTail acc (more + 1) 0x80 0xBF (UInt8.ofNat (n % 64 + 128) :: rest) =
      readTail (acc * 64 + n % 64) more 0x80 0xBF rest := by
  apply readTail_further
  all_goals
    simp only [UInt8.reduceToNat]
    omega

variable {c : Char}

theorem readTail_done {acc : Nat} (same : acc = c.toNat) (lo hi : UInt8) (rest : Bytes) :
    readTail acc 0 lo hi rest = (some c, rest) := by
  rw [same, readTail, Char.ofNat_toNat]

theorem readChar_two (low : 127 < c.toNat) (high : c.toNat ≤ 2047) (rest : Bytes) :
    readChar (UInt8.ofNat (c.toNat / 64 % 32 + 192)) (UInt8.ofNat (c.toNat % 64 + 128) :: rest) =
      (some c, rest) := by
  rw [readChar_ofNat (by omega), if_neg (by omega), if_pos (by omega), readTail_later]
  exact readTail_done (by omega) ..

/-- The shortest characters of three bytes, and those before the surrogates, have bounds of their
own on the second byte. -/
theorem readChar_three (low : 2047 < c.toNat) (high : c.toNat ≤ 65535)
    (valid : c.toNat < 0xD800 ∨ 0xDFFF < c.toNat) (rest : Bytes) :
    readChar (UInt8.ofNat (c.toNat / 4096 % 16 + 224))
        (UInt8.ofNat (c.toNat / 64 % 64 + 128) :: UInt8.ofNat (c.toNat % 64 + 128) :: rest) =
      (some c, rest) := by
  rw [readChar_ofNat (by omega), if_neg (by omega), if_neg (by omega)]
  by_cases shortest : c.toNat < 0x1000
  · rw [if_pos (by omega), readTail_further, readTail_later]
    · exact readTail_done (by omega) ..
    all_goals
      simp only [UInt8.reduceToNat]
      omega
  rw [if_neg (by omega)]
  by_cases near : 0xD000 ≤ c.toNat ∧ c.toNat < 0xE000
  · rw [if_pos (by omega), readTail_further, readTail_later]
    · exact readTail_done (by omega) ..
    all_goals
      simp only [UInt8.reduceToNat]
      omega
  · rw [if_neg (by omega), if_pos (by omega), readTail_later, readTail_later]
    exact readTail_done (by omega) ..

/-- So do the shortest characters of four bytes and the last ones. -/
theorem readChar_four (low : 65535 < c.toNat) (high : c.toNat < 0x110000) (rest : Bytes) :
    readChar (UInt8.ofNat (c.toNat / 262144 % 8 + 240)) (UInt8.ofNat (c.toNat / 4096 % 64 + 128) ::
        UInt8.ofNat (c.toNat / 64 % 64 + 128) :: UInt8.ofNat (c.toNat % 64 + 128) :: rest) =
      (some c, rest) := by
  rw [readChar_ofNat (by omega), if_neg (by omega), if_neg (by omega), if_neg (by omega),
    if_neg (by omega), if_neg (by omega)]
  by_cases shortest : c.toNat < 0x40000
  · rw [if_pos (by omega), readTail_further, readTail_later, readTail_later]
    · exact readTail_done (by omega) ..
    all_goals
      simp only [UInt8.reduceToNat]
      omega
  rw [if_neg (by omega)]
  by_cases within : c.toNat < 0x100000
  · rw [if_pos (by omega), readTail_later, readTail_later, readTail_later]
    exact readTail_done (by omega) ..
  · rw [if_neg (by omega), if_pos (by omega), readTail_further, readTail_later, readTail_later]
    · exact readTail_done (by omega) ..
    all_goals
      simp only [UInt8.reduceToNat]
      omega

/-- A character is read from the bytes that are written of it, and nothing after them. -/
theorem readChar_utf8EncodeChar (c : Char) (rest : Bytes) :
    ∃ b bytes, String.utf8EncodeChar c ++ rest = b :: bytes ∧
      readChar b bytes = (some c, rest) := by
  have valid : c.toNat < 0xD800 ∨ 0xDFFF < c.toNat ∧ c.toNat < 0x110000 := c.valid
  rw [String.utf8EncodeChar, show c.val.toNat = c.toNat from rfl]
  by_cases one : c.toNat ≤ 127
  · rw [if_pos one]
    refine ⟨_, _, rfl, ?_⟩
    rw [readChar_ofNat (by omega), if_pos (by omega), Char.ofNat_toNat]
    rfl
  rw [if_neg one]
  by_cases two : c.toNat ≤ 2047
  · rw [if_pos two]
    exact ⟨_, _, rfl, readChar_two (by omega) two rest⟩
  rw [if_neg two]
  by_cases three : c.toNat ≤ 65535
  · rw [if_pos three]
    exact ⟨_, _, rfl, readChar_three (by omega) three (by omega) rest⟩
  · rw [if_neg three]
    exact ⟨_, _, rfl, readChar_four (by omega) (by omega) rest⟩

theorem pieces_encode (s : List Char) : pieces (encode s) = s.map some := by
  induction s with
  | nil => rw [encode, List.flatMap_nil, pieces, List.map_nil]
  | cons c s ih =>
      obtain ⟨b, bytes, same, reads⟩ := readChar_utf8EncodeChar c (encode s)
      rw [encode, List.flatMap_cons, ← encode, same, pieces, reads, ih, List.map_cons]

theorem decode?_encode (s : List Char) : decode? (encode s) = some s := by
  rw [decode?, pieces_encode]
  induction s with
  | nil => rfl
  | cons c s ih => rw [List.map_cons, List.mapM_cons, ih]; rfl

end BridgeWarden.Text
