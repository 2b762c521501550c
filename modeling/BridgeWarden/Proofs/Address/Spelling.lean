import BridgeWarden.AccessPoint.Stations
import BridgeWarden.Proofs.Text.Cuts
import BridgeWarden.Proofs.Text.Digits

/-!
How hardware addresses are spelled, and which of them a list of stations names.

`Mac.Spelled` is the grammar: six groups of two hexadecimal digits, a colon or a dash between
neighbours, and blanks around the whole. It says nothing of how a text is cut or trimmed. Reading
agrees with it in both directions, on every text, and what is shown of an address is one of its
spellings. `Listed` says in the same way what a text of several lines lists: line after line, an
address in any spelling or anything else (`addresses_read_as_spelled`).
-/

namespace BridgeWarden

namespace Mac

variable {octet : UInt8} {octets : List UInt8} {digits text s : List Char} {m : Mac}

/-! ### The grammar -/

/-- Two hexadecimal digits, and the octet that they write in base 16. -/
inductive Group : List Char → UInt8 → Prop where
  | mk {high low : Char} {first second : Nat} {octet : UInt8}
      (leads : Text.IsHexDigit high first) (follows : Text.IsHexDigit low second)
      (value : octet.toNat = 16 * first + second) : Group [high, low] octet

/-- What stands between two groups. -/
def Separator (c : Char) : Prop := c = ':' ∨ c = '-'

/-- A spelling of an address: the groups of its six octets, with blanks around them or without. -/
def Spelled (s : List Char) (m : Mac) : Prop :=
  ∃ text, Text.IsTrimOf text s ∧ Text.Joined Group Separator text m.octets

/-! ### Groups -/

theorem group_iff : Group digits octet ↔ Text.readHexByte? digits = some octet := by
  constructor
  · rintro ⟨leads, follows, value⟩
    simp only [Text.readHexByte?, Text.hexValue?_eq_some_iff.mpr leads,
      Text.hexValue?_eq_some_iff.mpr follows, Option.bind_eq_bind, Option.bind_some,
      Option.pure_def, ← value, UInt8.ofNat_toNat]
  · intro read
    unfold Text.readHexByte? at read
    split at read
    · simp only [Option.bind_eq_bind, Option.bind_eq_some_iff, Option.pure_def,
        Option.some.injEq] at read
      obtain ⟨first, leads, second, follows, rfl⟩ := read
      have leads := Text.hexValue?_eq_some_iff.mp leads
      have follows := Text.hexValue?_eq_some_iff.mp follows
      refine ⟨leads, follows, ?_⟩
      have highSmall := leads.lt
      have lowSmall := follows.lt
      rw [UInt8.toNat_ofNat']
      omega
    · cases read

theorem isSeparator_iff {c : Char} : isSeparator c = true ↔ Separator c := by
  simp [isSeparator, Separator]

theorem not_isSeparator_of_isHexDigit {c : Char} {value : Nat}
    (digit : Text.IsHexDigit c value) : isSeparator c = false := by
  have read := Text.hexValue?_eq_some_iff.mpr digit
  rw [Bool.eq_false_iff, ne_eq, isSeparator_iff, Separator]
  rintro (rfl | rfl) <;> cases read

theorem Group.unblank (group : Group digits octet) : ∀ c ∈ digits, Text.isBlank c = false := by
  cases group with
  | mk leads follows value =>
      simp [Text.not_isBlank_of_isHexDigit leads, Text.not_isBlank_of_isHexDigit follows]

theorem Group.uncut (group : Group digits octet) : ∀ c ∈ digits, isSeparator c = false := by
  cases group with
  | mk leads follows value =>
      simp [not_isSeparator_of_isHexDigit leads, not_isSeparator_of_isHexDigit follows]

/-! ### Whole addresses -/

theorem ofOctets?_eq_some_iff : ofOctets? octets = some m ↔ octets = m.octets := by
  constructor
  · intro whole
    unfold ofOctets? at whole
    split at whole
    · cases whole
      rfl
    · cases whole
  · rintro rfl
    rfl

theorem parse?_eq_some_iff : parse? s = some m ↔ Spelled s m := by
  have groups : ∀ {text octets}, (Text.splitOn isSeparator text).mapM Text.readHexByte? =
      some octets ↔ Text.Joined Group Separator text octets :=
    Text.mapM_splitOn_eq_some_iff group_iff.symm isSeparator_iff Group.uncut
  simp only [parse?, Spelled, Option.bind_eq_some_iff, groups, ofOctets?_eq_some_iff]
  constructor
  · rintro ⟨octets, joined, rfl⟩
    exact ⟨Text.trim s, Text.isTrimOf_trim s, joined⟩
  · rintro ⟨text, trims, joined⟩
    rw [trims.trim_eq]
    exact ⟨m.octets, joined, rfl⟩

/-- What is shown of an address is one of its spellings. -/
theorem spelled_render (m : Mac) : Spelled m.render m := by
  have joined : Text.Joined Group Separator m.render m.octets :=
    Text.joined_intercalate (Or.inl rfl)
      (fun octet => group_iff.mpr (Text.readHexByte?_hexByte octet)) m.octets (by simp [octets])
  refine ⟨m.render, Text.isTrimOf_self (joined.avoids Group.unblank ?_), joined⟩
  rintro c (rfl | rfl) <;> rfl

theorem parse?_render (m : Mac) : parse? m.render = some m :=
  parse?_eq_some_iff.mpr m.spelled_render

theorem parse?_trim (s : List Char) : parse? (Text.trim s) = parse? s := by
  unfold parse?
  rw [Text.trim_trim]

/-- The carriage return at the end of a line does not change what it spells. -/
theorem parse?_dropReturn (line : List Char) : parse? (Text.dropReturn line) = parse? line := by
  rw [← parse?_trim, Text.trim_dropReturn, parse?_trim]

end Mac

/-! ### Lists of stations -/

namespace AccessPoint

/-- What a line says: an address in one of its spellings, or nothing. -/
inductive Tells (line : List Char) : Option Mac → Prop where
  | address {m : Mac} (spelled : m.Spelled line) : Tells line (some m)
  | other (unspelled : ∀ m : Mac, ¬ m.Spelled line) : Tells line none

/-- How a line ends. -/
def IsLineEnd (ending : List Char) : Prop := ending = ['\n'] ∨ ending = ['\r', '\n']

/-- What a text of lines lists, in its order. The last line need not end. -/
inductive Listed : List Char → List Mac → Prop where
  | last {line : List Char} {said : Option Mac} (whole : '\n' ∉ line) (tells : Tells line said) :
      Listed line said.toList
  | line {line ending rest : List Char} {said : Option Mac} {others : List Mac}
      (whole : '\n' ∉ line) (tells : Tells line said) (ends : IsLineEnd ending)
      (more : Listed rest others) : Listed (line ++ ending ++ rest) (said.toList ++ others)

variable {line text rest : List Char} {macs : List Mac}

theorem tells_iff {said : Option Mac} : Tells line said ↔ Mac.parse? line = said := by
  constructor
  · rintro (⟨spelled⟩ | ⟨unspelled⟩)
    · exact Mac.parse?_eq_some_iff.mpr spelled
    · rw [Option.eq_none_iff_forall_ne_some]
      exact fun m read => unspelled m (Mac.parse?_eq_some_iff.mp read)
  · rintro rfl
    cases read : Mac.parse? line with
    | some m => exact .address (Mac.parse?_eq_some_iff.mp read)
    | none =>
        refine .other fun m spelled => ?_
        rw [Mac.parse?_eq_some_iff.mpr spelled] at read
        cases read

theorem stations_lineFeed (whole : '\n' ∉ line) (rest : List Char) :
    stations (line ++ '\n' :: rest) = (Mac.parse? line).toList ++ stations rest := by
  unfold stations
  rw [Text.lines_lineFeed whole, List.filterMap_cons, Mac.parse?_trim, Mac.parse?_dropReturn]
  cases Mac.parse? line <;> rfl

theorem stations_of_whole (whole : '\n' ∉ line) : stations line = (Mac.parse? line).toList := by
  unfold stations
  rw [Text.lines_of_whole whole]
  cases line with
  | nil => rfl
  | cons c rest =>
      simp only [List.isEmpty_cons, Bool.false_eq_true, if_false, List.filterMap_cons,
        Mac.parse?_trim, List.filterMap_nil]
      cases Mac.parse? (c :: rest) <;> rfl

theorem stations_line (whole : '\n' ∉ line) {ending : List Char} (ends : IsLineEnd ending)
    (rest : List Char) :
    stations (line ++ ending ++ rest) = (Mac.parse? line).toList ++ stations rest := by
  rcases ends with rfl | rfl
  · rw [List.append_assoc]
    exact stations_lineFeed whole rest
  · have further : '\n' ∉ line ++ ['\r'] := by simp [whole]
    have same : Mac.parse? (line ++ ['\r']) = Mac.parse? line := by
      rw [← Mac.parse?_trim, Text.trim_append (by simp [Text.isBlank]), Mac.parse?_trim]
    rw [← same, ← stations_lineFeed further]
    simp

theorem stations_of_listed (listed : Listed text macs) : stations text = macs := by
  induction listed with
  | last whole tells => rw [stations_of_whole whole, tells_iff.mp tells]
  | line whole tells ends _ ih => rw [stations_line whole ends, tells_iff.mp tells, ih]

theorem listed_stations (text : List Char) : Listed text (stations text) := by
  induction text using Text.linewise with
  | last line whole =>
      rw [stations_of_whole whole]
      exact .last whole (tells_iff.mpr rfl)
  | line line rest whole ih =>
      have listed := Listed.line whole (tells_iff.mpr rfl) (Or.inl rfl) ih
      rw [List.append_assoc] at listed
      rw [stations_lineFeed whole]
      exact listed

/-- A text is read as an address exactly if it spells one, and then as that one. What is shown of an
address is read as it, so whatever is read is read again from what is shown of it. A list of
stations gives just the addresses that its lines spell, in their order. -/
theorem addresses_read_as_spelled :
    (∀ s m, Mac.parse? s = some m ↔ m.Spelled s) ∧
    (∀ m : Mac, Mac.parse? m.render = some m) ∧
    (∀ s, (Mac.parse? s).bind (fun m => Mac.parse? m.render) = Mac.parse? s) ∧
    (∀ text macs, stations text = macs ↔ Listed text macs) := by
  refine ⟨fun s m => Mac.parse?_eq_some_iff, Mac.parse?_render, fun s => ?_, fun text macs => ?_⟩
  · cases Mac.parse? s with
    | none => rfl
    | some m => exact m.parse?_render
  · constructor
    · rintro rfl
      exact listed_stations text
    · exact stations_of_listed

end AccessPoint

end BridgeWarden
