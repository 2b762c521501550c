import BridgeWarden.Text.Blank
import BridgeWarden.Text.Decimal

/-!
Digits and the numbers that they write.

A hexadecimal digit is known by its place in one of two rows of sixteen characters, and reading one
gives that place (`hexValue?_eq_some_iff`). What is written of a byte in two such digits, or of a
number in decimal ones, is read back, and decimal digits without a zero too many are what is written
of the number (`decimal_ofDigitChars`).
-/

namespace BridgeWarden.Text

variable {c : Char} {s : List Char} {value : Nat}

/-! ### Hexadecimal digits -/

/-- A hexadecimal digit, its letters in either case, and the number that it stands for. -/
def IsHexDigit (c : Char) (value : Nat) : Prop :=
  "0123456789abcdef".toList[value]? = some c ∨ "0123456789ABCDEF".toList[value]? = some c

instance (c : Char) (value : Nat) : Decidable (IsHexDigit c value) :=
  inferInstanceAs (Decidable (_ ∨ _))

theorem IsHexDigit.lt (digit : IsHexDigit c value) : value < 16 := by
  rcases digit with lower | upper
  · exact (List.getElem?_eq_some_iff.mp lower).1
  · exact (List.getElem?_eq_some_iff.mp upper).1

theorem hexValue?_of_lower :
    ∀ value < 16, "0123456789abcdef".toList[value]?.bind hexValue? = some value := by
  decide

theorem hexValue?_of_upper :
    ∀ value < 16, "0123456789ABCDEF".toList[value]?.bind hexValue? = some value := by
  decide

/-- No digit stands beyond the letter f. -/
theorem toNat_lt_of_hexValue? (read : hexValue? c = some value) : c.toNat < 103 := by
  unfold hexValue? at read
  have below : ∀ {high : Char}, c ≤ high → high.toNat < 103 → c.toNat < 103 :=
    fun within small => Nat.lt_of_le_of_lt (UInt32.le_iff_toNat_le.mp within) small
  split at read
  · next within => exact below within.2 (by decide)
  split at read
  · next within => exact below within.2 (by decide)
  split at read
  · next within => exact below within.2 (by decide)
  cases read

theorem isHexDigit_of_hexValue? :
    ∀ n < 103, ∀ value ∈ hexValue? (Char.ofNat n), IsHexDigit (Char.ofNat n) value := by
  decide

theorem hexValue?_eq_some_iff : hexValue? c = some value ↔ IsHexDigit c value := by
  constructor
  · intro read
    have all := isHexDigit_of_hexValue? c.toNat (toNat_lt_of_hexValue? read) value
    rw [Char.ofNat_toNat] at all
    exact all read
  · intro digit
    have small := digit.lt
    rcases digit with lower | upper
    · have read := hexValue?_of_lower value small
      rwa [lower, Option.bind_some] at read
    · have read := hexValue?_of_upper value small
      rwa [upper, Option.bind_some] at read

theorem not_isBlank_of_isHexDigit (digit : IsHexDigit c value) : isBlank c = false := by
  have lower : "0123456789abcdef".toList.all fun c => !isBlank c := by decide
  have upper : "0123456789ABCDEF".toList.all fun c => !isBlank c := by decide
  have among : ∀ {row : List Char}, row[value]? = some c → (row.all fun c => !isBlank c) →
      isBlank c = false := by
    intro row here all
    simpa using List.all_eq_true.mp all c (List.mem_of_getElem? here)
  exact digit.elim (among · lower) (among · upper)

theorem hexValue?_hexDigit : ∀ n < 16, hexValue? (hexDigit n) = some n := by
  decide

theorem readHexByte?_hexByte (b : UInt8) : readHexByte? (hexByte b) = some b := by
  have small := b.toNat_lt
  have whole : 16 * (b.toNat / 16) + b.toNat % 16 = b.toNat := by omega
  simp only [hexByte, readHexByte?, hexValue?_hexDigit (b.toNat / 16) (by omega),
    hexValue?_hexDigit (b.toNat % 16) (by omega), Option.bind_eq_bind, Option.bind_some,
    Option.pure_def, whole, UInt8.ofNat_toNat]

/-! ### Decimal digits -/

theorem toNat_of_isDigit (digit : c.isDigit = true) : 48 ≤ c.toNat ∧ c.toNat < 58 := by
  simp only [Char.isDigit, Bool.and_eq_true, decide_eq_true_eq] at digit
  exact ⟨UInt32.le_iff_toNat_le.mp digit.1, Nat.lt_succ_of_le (UInt32.le_iff_toNat_le.mp digit.2)⟩

theorem not_isBlank_of_isDigit (digit : c.isDigit = true) : isBlank c = false := by
  have all : ∀ n < 58, 48 ≤ n → isBlank (Char.ofNat n) = false := by decide
  have within := toNat_of_isDigit digit
  have unblank := all c.toNat within.2 within.1
  rwa [Char.ofNat_toNat] at unblank

theorem decimal_ne_nil (n : Nat) : decimal n ≠ [] := Nat.toDigits_ne_nil

theorem isDigit_of_mem_decimal {n : Nat} (member : c ∈ decimal n) : c.isDigit = true :=
  Nat.isDigit_of_mem_toDigits (by decide) (by decide) member

/-- Only zero is written with a zero at the start. -/
theorem eq_zero_of_head?_decimal {n : Nat} (zero : (decimal n).head? = some '0') : n = 0 := by
  have digit : ∀ d < 10, d.digitChar = '0' → d = 0 := by decide
  induction n using Nat.strongRecOn with
  | ind n ih =>
      by_cases single : n < 10
      · rw [decimal, Nat.toDigits_of_lt_base single] at zero
        exact digit n single (Option.some.inj zero)
      · obtain ⟨d, ds, same⟩ := List.exists_cons_of_ne_nil (decimal_ne_nil (n / 10))
        rw [decimal, Nat.toDigits_of_base_le (by decide) (by omega), ← decimal, same] at zero
        have none : n / 10 = 0 := ih (n / 10) (by omega) (same ▸ zero)
        omega

theorem readDigits?_decimal (n : Nat) : readDigits? (decimal n) = some n := by
  have digits : decimal n ≠ [] ∧ (decimal n).all Char.isDigit :=
    ⟨decimal_ne_nil n, List.all_eq_true.mpr fun _ => isDigit_of_mem_decimal⟩
  rw [readDigits?, if_pos digits, decimal, Nat.ofDigitChars_toDigits (by decide) (by decide)]

/-- A digit is that of its distance from zero. -/
theorem digitChar_of_isDigit (digit : c.isDigit = true) :
    c.toNat - '0'.toNat < 10 ∧ (c.toNat - '0'.toNat).digitChar = c := by
  have shown : ∀ n < 58, 48 ≤ n → n - 48 < 10 ∧ (n - 48).digitChar = Char.ofNat n := by decide
  have within := toNat_of_isDigit digit
  have same := shown c.toNat within.2 within.1
  rwa [Char.ofNat_toNat] at same

/-- Digits written after a number that is not zero. -/
theorem decimal_ofDigitChars_of_pos {n : Nat} (positive : 0 < n)
    (digits : ∀ c ∈ s, c.isDigit = true) :
    decimal (Nat.ofDigitChars 10 s n) = decimal n ++ s := by
  induction s generalizing n with
  | nil => rw [Nat.ofDigitChars_nil, List.append_nil]
  | cons c rest ih =>
      rw [List.forall_mem_cons] at digits
      obtain ⟨small, shown⟩ := digitChar_of_isDigit digits.1
      have longer : decimal (10 * n + (c.toNat - '0'.toNat)) = decimal n ++ [c] := by
        rw [decimal, Nat.toDigits_of_base_le (by decide) (by omega), Nat.mul_add_mod,
          Nat.mod_eq_of_lt small, shown, Nat.mul_add_div (by decide), Nat.div_eq_of_lt small]
        rfl
      rw [Nat.ofDigitChars_cons, ih (by omega) digits.2, longer, List.append_assoc]
      rfl

/-- Digits without a zero too many at the start are what is written of their value. -/
theorem decimal_ofDigitChars (written : s ≠ []) (digits : ∀ c ∈ s, c.isDigit = true)
    (unpadded : s.head? = some '0' → s = ['0']) : decimal (Nat.ofDigitChars 10 s 0) = s := by
  cases s with
  | nil => exact (written rfl).elim
  | cons c rest =>
      by_cases zero : c = '0'
      · rw [unpadded (by rw [zero]; rfl)]
        rfl
      · rw [List.forall_mem_cons] at digits
        obtain ⟨small, shown⟩ := digitChar_of_isDigit digits.1
        have positive : 0 < c.toNat - '0'.toNat := by
          refine Nat.pos_of_ne_zero fun none => zero ?_
          rw [← shown, none]
          rfl
        rw [Nat.ofDigitChars_cons, Nat.mul_zero, Nat.zero_add,
          decimal_ofDigitChars_of_pos positive digits.2, decimal, Nat.toDigits_of_lt_base small,
          shown]
        rfl

end BridgeWarden.Text
