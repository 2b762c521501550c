import BridgeWarden.Address.Ipv4
import BridgeWarden.Proofs.Text.Cuts
import BridgeWarden.Proofs.Text.Digits

/-!
Internet addresses in dotted form.

`Ipv4.Dotted` is the grammar: the four octets in decimal, a dot between neighbours, and nothing
else. An octet has ASCII digits only and no zero too many at its start, so there is one way to write
it (`octet_iff`). Reading agrees with the grammar in both directions, on every text, and what is
shown of an address is in dotted form.
-/

namespace BridgeWarden.Ipv4

variable {digits s : List Char} {octets : List UInt8} {octet : UInt8} {a : Ipv4}

/-! ### The grammar -/

/-- ASCII digits, and the octet that they write in base 10. Only zero begins with a zero. -/
structure Octet (digits : List Char) (octet : UInt8) : Prop where
  written : digits ≠ []
  digit : ∀ c ∈ digits, c.isDigit = true
  unpadded : digits.head? = some '0' → digits = ['0']
  value : octet.toNat = Nat.ofDigitChars 10 digits 0

/-- What stands between two octets. -/
def Separator (c : Char) : Prop := c = '.'

/-- The text is the dotted form of the address. -/
def Dotted (s : List Char) (a : Ipv4) : Prop := Text.Joined Octet Separator s a.octets

/-! ### Octets -/

theorem octet_decimal (octet : UInt8) : Octet (Text.decimal octet.toNat) octet where
  written := Text.decimal_ne_nil _
  digit _ := Text.isDigit_of_mem_decimal
  unpadded zero := by
    rw [Text.eq_zero_of_head?_decimal zero]
    rfl
  value := (Nat.ofDigitChars_toDigits (by decide) (by decide)).symm

theorem octet_iff : Octet digits octet ↔ digits = Text.decimal octet.toNat := by
  constructor
  · rintro ⟨written, digit, unpadded, value⟩
    rw [value, Text.decimal_ofDigitChars written digit unpadded]
  · rintro rfl
    exact octet_decimal octet

/-- An octet is written in at most three digits. -/
theorem Octet.short (written : Octet digits octet) : digits.length ≤ 3 := by
  have byte : octet.toNat < 256 := octet.toNat_lt
  rw [octet_iff.mp written]
  exact (Nat.length_toDigits_le_iff (by decide) (by decide)).mpr (by omega)

theorem readOctet?_decimal (octet : UInt8) :
    readOctet? (Text.decimal octet.toNat) = some octet := by
  have byte : octet.toNat < 256 := octet.toNat_lt
  have written := octet_decimal octet
  rw [readOctet?, if_pos ⟨written.short, written.unpadded⟩, Text.readDigits?_decimal,
    Option.filter_some, if_pos (by simpa using byte), Option.map_some, UInt8.ofNat_toNat]

theorem octet_of_readOctet? (read : readOctet? digits = some octet) : Octet digits octet := by
  simp only [readOctet?, Text.readDigits?, Option.ite_none_right_eq_some, Option.map_eq_some_iff,
    Option.filter_eq_some_iff, Option.some.injEq, decide_eq_true_eq, List.all_eq_true] at read
  obtain ⟨⟨-, unpadded⟩, n, ⟨⟨⟨written, digit⟩, rfl⟩, small⟩, rfl⟩ := read
  exact ⟨written, digit, unpadded, UInt8.toNat_ofNat_of_lt' small⟩

theorem readOctet?_eq_some_iff : readOctet? digits = some octet ↔ Octet digits octet := by
  constructor
  · exact octet_of_readOctet?
  · intro written
    rw [octet_iff.mp written, readOctet?_decimal]

theorem Octet.uncut (octet : Octet digits octet) : ∀ c ∈ digits, (c == '.') = false := by
  intro c member
  rw [beq_eq_false_iff_ne]
  rintro rfl
  exact absurd (octet.digit _ member) (by decide)

theorem Octet.unblank (octet : Octet digits octet) : ∀ c ∈ digits, Text.isBlank c = false :=
  fun c member => Text.not_isBlank_of_isDigit (octet.digit c member)

/-! ### Whole addresses -/

theorem ofOctets?_eq_some_iff : ofOctets? octets = some a ↔ octets = a.octets := by
  constructor
  · intro whole
    unfold ofOctets? at whole
    split at whole
    · cases whole
      rfl
    · cases whole
  · rintro rfl
    rfl

theorem parse?_eq_some_iff : parse? s = some a ↔ Dotted s a := by
  have pieces : ∀ {octets}, (Text.splitOn (· == '.') s).mapM readOctet? = some octets ↔
      Text.Joined Octet Separator s octets :=
    Text.mapM_splitOn_eq_some_iff readOctet?_eq_some_iff beq_iff_eq Octet.uncut
  simp only [parse?, Dotted, Option.bind_eq_some_iff, pieces, ofOctets?_eq_some_iff,
    exists_eq_right]

/-- What is shown of an address is in dotted form. -/
theorem dotted_render (a : Ipv4) : Dotted a.render a := by
  have dot : Separator '.' := rfl
  exact Text.joined_intercalate dot octet_decimal a.octets (by simp [octets])

theorem parse?_render (a : Ipv4) : parse? a.render = some a :=
  parse?_eq_some_iff.mpr a.dotted_render

/-- No blank stands in an address. -/
theorem Dotted.unblank (dotted : Dotted s a) : ∀ c ∈ s, Text.isBlank c = false :=
  Text.Joined.avoids dotted Octet.unblank (by rintro c rfl; rfl)

theorem Dotted.ne_nil (dotted : Dotted s a) : s ≠ [] := by
  unfold Dotted octets at dotted
  cases dotted with
  | more stands => simp

end BridgeWarden.Ipv4
