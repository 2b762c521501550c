import BridgeWarden.Json.Printer
import BridgeWarden.Json.Reader
import BridgeWarden.Proofs.Text.Digits

/-!
JSON text of a value read back as the same value.

Nothing is lost of a value without floating-point numbers whose integers fit 64 bits (`lossless`).
Its text shows where it ends by itself, apart from a number, which needs something after it that
cannot belong to it (`Follows`). Each call of the reader spends one piece of fuel, and each takes
at least one character of the text with it, so the length of the text is fuel enough. That is proved
of values, items and fields at once, by induction on the fuel (`ReadsBack`).
-/

namespace BridgeWarden.Json

mutual

/-- Whether the text of the value says everything about it. -/
def lossless : Json → Bool
  | .int n => -(UInt64.size / 2 : Nat) ≤ n && n < (UInt64.size : Nat)
  | .arr items => losslessItems items
  | .obj fields => losslessFields fields
  | .real _ => false
  | .unreadable => false
  | _ => true

def losslessItems : List Json → Bool
  | [] => true
  | j :: rest => j.lossless && losslessItems rest

def losslessFields : List (String × Json) → Bool
  | [] => true
  | (_, j) :: rest => j.lossless && losslessFields rest

end

variable {c : Char} {fuel : Nat} {rest done : List Char}

/-! ### Strings -/

theorem readString?_named (fuel : Nat) (done rest : List Char) :
    ∀ c ∈ ['"', '\\', '\x08', '\x0c', '\n', '\r', '\t'],
      readString? (fuel + 1) done true (escape c ++ rest) =
        readString? fuel (c :: done) true rest := by
  simp only [List.forall_mem_cons]
  exact ⟨rfl, rfl, rfl, rfl, rfl, rfl, rfl, by simp⟩

theorem readEscape?_control (control : c.toNat < 0x20) (rest : List Char) :
    readEscape? ('u' :: '0' :: '0' :: Text.hexDigit (c.toNat / 16) ::
      Text.hexDigit (c.toNat % 16) :: rest) = some (some c, rest) := by
  have zero : Text.hexValue? '0' = some 0 := by decide
  have whole : c.toNat / 16 * 16 + c.toNat % 16 = c.toNat := by omega
  have low : isLowHalf c.toNat = false := by simp [isLowHalf]; omega
  have high : isHighHalf c.toNat = false := by simp [isHighHalf]; omega
  simp [readEscape?, readHex4?, zero, Text.hexValue?_hexDigit (c.toNat / 16) (by omega),
    Text.hexValue?_hexDigit (c.toNat % 16) (by omega), whole, low, high]

/-- Each character is read from what is shown of it. -/
theorem readString?_escape (c : Char) (fuel : Nat) (done rest : List Char) :
    readString? (fuel + 1) done true (escape c ++ rest) =
      readString? fuel (c :: done) true rest := by
  by_cases named : c ∈ ['"', '\\', '\x08', '\x0c', '\n', '\r', '\t']
  · exact readString?_named fuel done rest c named
  simp only [List.mem_cons, List.not_mem_nil, or_false, not_or] at named
  by_cases control : c.toNat < 0x20
  · have shown : escape c ++ rest = '\\' :: 'u' :: '0' :: '0' :: Text.hexDigit (c.toNat / 16) ::
        Text.hexDigit (c.toNat % 16) :: rest := by
      simp [escape, named, control]
    rw [shown, readString?, if_neg (by decide), if_pos rfl, readEscape?_control control]
  · have shown : escape c ++ rest = c :: rest := by
      simp [escape, named, control]
    rw [shown, readString?, if_neg named.1, if_neg named.2.1, if_neg control]

theorem readString?_renderString (s rest : List Char) :
    ∀ fuel done, s.length < fuel → readString? fuel done true (s.flatMap escape ++ '"' :: rest) =
      some (some (done.reverse ++ s), rest) := by
  induction s with
  | nil =>
      intro fuel done enough
      obtain ⟨fuel, rfl⟩ := Nat.exists_eq_add_one.mpr enough
      simp [readString?]
  | cons c s ih =>
      intro fuel done enough
      obtain ⟨fuel, rfl⟩ := Nat.exists_eq_add_one.mpr (Nat.zero_lt_of_lt enough)
      rw [List.flatMap_cons, List.append_assoc, readString?_escape,
        ih fuel (c :: done) (Nat.lt_of_succ_lt_succ enough), List.reverse_cons, List.append_assoc,
        List.singleton_append]

theorem length_le_flatMap_escape (s : List Char) : s.length ≤ (s.flatMap escape).length := by
  have one : ∀ c, 1 ≤ (escape c).length := by
    intro c
    unfold escape
    repeat' split
    all_goals exact Nat.succ_le_succ (Nat.zero_le _)
  induction s with
  | nil => exact Nat.le_refl 0
  | cons c s ih =>
      rw [List.flatMap_cons, List.length_append, List.length_cons, Nat.add_comm]
      exact Nat.add_le_add (one c) ih

theorem renderString_append (s rest : List Char) :
    renderString s ++ rest = '"' :: (s.flatMap escape ++ '"' :: rest) := by
  simp [renderString]

/-- A string with the fuel that it is given wherever one is read. -/
theorem readString?_whole (s rest : List Char) :
    readString? ((s.flatMap escape ++ '"' :: rest).length + 1) [] true
      (s.flatMap escape ++ '"' :: rest) = some (some s, rest) := by
  refine readString?_renderString s rest _ [] ?_
  have short := length_le_flatMap_escape s
  rw [List.length_append]
  omega

/-! ### Numbers -/

/-- Nothing in the text continues a number that stands before it. -/
def Follows (rest : List Char) : Prop :=
  ∀ c ∈ rest.head?, c.isDigit = false ∧ c ≠ '.' ∧ c ≠ 'e' ∧ c ≠ 'E'

theorem takeDigits_decimal (n : Nat) (follows : Follows rest) :
    takeDigits (Text.decimal n ++ rest) = (Text.decimal n, rest) := by
  have digits : ∀ c ∈ Text.decimal n, c.isDigit = true := fun _ => Text.isDigit_of_mem_decimal
  have none : rest.takeWhile Char.isDigit = [] ∧ rest.dropWhile Char.isDigit = rest := by
    cases rest with
    | nil => exact ⟨rfl, rfl⟩
    | cons c rest =>
        have stops := (follows c rfl).1
        exact ⟨List.takeWhile_cons_of_neg (by simp [stops]),
          List.dropWhile_cons_of_neg (by simp [stops])⟩
  rw [takeDigits, List.takeWhile_append_of_pos digits, List.dropWhile_append_of_pos digits, none.1,
    none.2, List.append_nil]

theorem readFraction?_of_follows (follows : Follows rest) :
    readFraction? rest = some ([], rest) := by
  unfold readFraction?
  split
  · exact ((follows _ rfl).2.1 rfl).elim
  · rfl

theorem readExponent?_of_follows (follows : Follows rest) :
    readExponent? rest = some (none, rest) := by
  cases rest with
  | nil => rfl
  | cons c rest =>
      have stops : ¬ (c = 'e' ∨ c = 'E') := not_or.mpr (follows c rfl).2.2
      unfold readExponent?
      exact if_neg stops

/-- The digits of a number have no zero at the start that they do not need. -/
theorem unpadded_decimal (n : Nat) :
    ¬ ((Text.decimal n).isEmpty = true ∨
      (Text.decimal n).head? = some '0' ∧ Text.decimal n ≠ ['0']) := by
  rintro (empty | ⟨zero, padded⟩)
  · exact Text.decimal_ne_nil n (List.isEmpty_iff.mp empty)
  · exact padded (Text.eq_zero_of_head?_decimal zero ▸ rfl)

theorem numberValue_decimal {n : Nat} (small : n < UInt64.size) :
    numberValue false (Text.decimal n) [] none = .int n := by
  have back : Nat.ofDigitChars 10 (Text.decimal n) 0 = n :=
    Nat.ofDigitChars_toDigits (by decide) (by decide)
  simp [numberValue, back, small]

theorem numberValue_minus_decimal {n : Nat} (positive : 0 < n) (small : n ≤ UInt64.size / 2) :
    numberValue true (Text.decimal n) [] none = .int (-n) := by
  have back : Nat.ofDigitChars 10 (Text.decimal n) 0 = n :=
    Nat.ofDigitChars_toDigits (by decide) (by decide)
  simp [numberValue, back, positive, small]

theorem readNumber?_renderInt {n : Int} (low : -(UInt64.size / 2 : Nat) ≤ n)
    (high : n < UInt64.size) (follows : Follows rest) :
    readNumber? (renderInt n ++ rest) = some (.int n, rest) := by
  cases n with
  | ofNat k =>
      have unsigned : (renderInt (Int.ofNat k) ++ rest).head? ≠ some '-' := by
        obtain ⟨d, ds, same⟩ := List.exists_cons_of_ne_nil (Text.decimal_ne_nil k)
        have digit : d.isDigit = true := Text.isDigit_of_mem_decimal (same ▸ List.mem_cons_self)
        rw [renderInt, same]
        rintro ⟨⟩
        exact absurd digit (by decide)
      unfold readNumber?
      split
      next negative tail s signed =>
        split at signed
        · next starts => exact (unsigned (congrArg List.head? starts)).elim
        cases signed
        simp only [renderInt, takeDigits_decimal _ follows, if_neg (unpadded_decimal _),
          readFraction?_of_follows follows, readExponent?_of_follows follows, Option.bind_eq_bind,
          Option.bind_some, Option.pure_def, numberValue_decimal (Int.ofNat_lt.mp high)]
        rfl
  | negSucc k =>
      have small : k + 1 ≤ UInt64.size / 2 := by omega
      rw [renderInt, List.cons_append, readNumber?]
      simp only [takeDigits_decimal _ follows, if_neg (unpadded_decimal _),
        readFraction?_of_follows follows, readExponent?_of_follows follows, Option.bind_eq_bind,
        Option.bind_some, Option.pure_def, numberValue_minus_decimal k.succ_pos small]
      rfl

/-! ### Values -/

theorem skipSpace_cons (solid : isSpace c = false) (rest : List Char) :
    skipSpace (c :: rest) = c :: rest :=
  List.dropWhile_cons_of_neg (by simp [solid])

theorem renderInt_head (n : Int) :
    ∃ c tail, renderInt n = c :: tail ∧ (c = '-' ∨ c.isDigit = true) := by
  cases n with
  | ofNat k =>
      obtain ⟨d, ds, same⟩ := List.exists_cons_of_ne_nil (Text.decimal_ne_nil k)
      exact ⟨d, ds, same, Or.inr (Text.isDigit_of_mem_decimal (same ▸ List.mem_cons_self))⟩
  | negSucc k => exact ⟨_, _, rfl, Or.inl rfl⟩

/-- A number begins neither with a blank nor with a character that begins or ends something else. -/
theorem apart_of_number (begins : c = '-' ∨ c.isDigit = true) :
    isSpace c = false ∧ c ≠ '"' ∧ c ≠ '[' ∧ c ≠ '\x7b' ∧ c ≠ ']' := by
  have other : ∀ d, d ≠ '-' → d.isDigit = false → c ≠ d := by
    rintro d sign digit rfl
    rcases begins with minus | digits
    · exact sign minus
    · exact absurd digits (by simp [digit])
  have solid : isSpace c = false := by
    simp only [isSpace, Bool.or_eq_false_iff, decide_eq_false_iff_not]
    exact ⟨⟨⟨other _ (by decide) rfl, other _ (by decide) rfl⟩, other _ (by decide) rfl⟩,
      other _ (by decide) rfl⟩
  exact ⟨solid, other _ (by decide) rfl, other _ (by decide) rfl, other _ (by decide) rfl,
    other _ (by decide) rfl⟩

theorem readValue?_number (begins : c = '-' ∨ c.isDigit = true) (fuel : Nat) (tail : List Char) :
    readValue? (fuel + 1) (c :: tail) = readNumber? (c :: tail) := by
  obtain ⟨solid, quotation, bracket, brace, -⟩ := apart_of_number begins
  rw [readValue?, skipSpace_cons solid]
  split
  · next same => cases same; contradiction
  · next same => cases same; contradiction
  · next same => cases same; contradiction
  · next same => cases same; exact if_pos begins
  · next same => cases same

theorem render_head {j : Json} (lossless : j.lossless = true) :
    ∃ c tail, render j = c :: tail ∧ isSpace c = false ∧ c ≠ ']' := by
  cases j with
  | null => exact ⟨_, _, rfl, rfl, by decide⟩
  | bool b => cases b <;> exact ⟨_, _, rfl, rfl, by decide⟩
  | int n =>
      obtain ⟨c, tail, same, begins⟩ := renderInt_head n
      obtain ⟨solid, -, -, -, bracket⟩ := apart_of_number begins
      exact ⟨c, tail, same, solid, bracket⟩
  | real x => cases lossless
  | str s => exact ⟨_, _, rfl, rfl, by decide⟩
  | arr items => exact ⟨_, _, rfl, rfl, by decide⟩
  | obj fields => exact ⟨_, _, rfl, rfl, by decide⟩
  | unreadable => cases lossless

theorem follows_of_mark {c : Char} (mark : c = ',' ∨ c = ']' ∨ c = '\x7d') (rest : List Char) :
    Follows (c :: rest) := by
  rintro d ⟨⟩
  rcases mark with rfl | rfl | rfl <;> decide

theorem length_render_pos {j : Json} (lossless : j.lossless = true) : 0 < (render j).length := by
  obtain ⟨c, tail, same, -⟩ := render_head lossless
  rw [same]
  exact Nat.succ_pos _

theorem objectOf_whole (fields : List (String × Json)) :
    objectOf (fields.map fun f => (some f.1.toList, f.2)) = .obj fields := by
  have whole : (fields.map fun f => (some f.1.toList, f.2)).mapM
      (fun f => f.1.map fun k => (String.ofList k, f.2)) = some fields := by
    induction fields with
    | nil => rfl
    | cons f fields ih =>
        rw [List.map_cons, List.mapM_cons, ih, Option.map_some, String.ofList_toList]
        rfl
  rw [objectOf, whole]

theorem readValue?_string (s rest : List Char) (fuel : Nat) :
    readValue? (fuel + 1) (renderString s ++ rest) = some (.str (String.ofList s), rest) := by
  rw [renderString_append, readValue?, skipSpace_cons rfl]
  simp only [readString?_whole, Option.bind_eq_bind, Option.bind_some, Option.pure_def]

theorem readValue?_items {text : List Char} {items : List Json} (begins : ∃ tail, text = c :: tail)
    (solid : isSpace c = false) (more : c ≠ ']')
    (reads : readItems? fuel text = some (items, rest)) :
    readValue? (fuel + 1) ('[' :: text) = some (.arr items, rest) := by
  obtain ⟨tail, rfl⟩ := begins
  rw [readValue?, skipSpace_cons rfl]
  simp only [skipSpace_cons solid]
  split
  · next same => cases same; contradiction
  · rw [reads]
    rfl

theorem readValue?_fields {text : List Char} {fields : List (String × Json)}
    (begins : ∃ tail, text = '"' :: tail)
    (reads : readFields? fuel text = some (fields.map fun f => (some f.1.toList, f.2), rest)) :
    readValue? (fuel + 1) ('\x7b' :: text) = some (.obj fields, rest) := by
  obtain ⟨tail, rfl⟩ := begins
  rw [readValue?, skipSpace_cons rfl]
  simp only [skipSpace_cons (c := '"') rfl, reads, Option.bind_eq_bind, Option.bind_some,
    Option.pure_def, objectOf_whole]
  rfl

/-! The texts of arrays and objects by what comes after each part. -/

theorem render_arr_append (items : List Json) (rest : List Char) :
    render (.arr items) ++ rest = '[' :: (renderItems items ++ ']' :: rest) := by
  simp [render]

theorem render_obj_append (fields : List (String × Json)) (rest : List Char) :
    render (.obj fields) ++ rest = '\x7b' :: (renderFields fields ++ '\x7d' :: rest) := by
  simp [render]

theorem length_render_arr (items : List Json) :
    (render (.arr items)).length = (renderItems items).length + 2 := by
  simp [render]

theorem length_render_obj (fields : List (String × Json)) :
    (render (.obj fields)).length = (renderFields fields).length + 2 := by
  simp [render]

theorem renderItems_cons (item : Json) (items : List Json) (rest : List Char) :
    renderItems (item :: items) ++ rest =
      render item ++ match items with
        | [] => rest
        | next :: items => ',' :: (renderItems (next :: items) ++ rest) := by
  cases items with
  | nil => rw [renderItems]
  | cons next items => simp [renderItems]

theorem renderFields_cons (k : String) (j : Json) (fields : List (String × Json))
    (rest : List Char) :
    renderFields ((k, j) :: fields) ++ rest =
      renderString k.toList ++ ':' :: (render j ++ match fields with
        | [] => rest
        | next :: fields => ',' :: (renderFields (next :: fields) ++ rest)) := by
  cases fields with
  | nil => rw [renderFields, List.append_assoc, List.cons_append]
  | cons next fields => simp [renderFields]

/-! ### Induction on the fuel -/

/-- With so much fuel, values, items and fields are read from texts that are no longer. -/
structure ReadsBack (fuel : Nat) : Prop where
  value : ∀ j rest, j.lossless = true → Follows rest → (render j).length ≤ fuel →
    readValue? fuel (render j ++ rest) = some (j, rest)
  items : ∀ item items rest, losslessItems (item :: items) = true →
    (renderItems (item :: items)).length < fuel →
    readItems? fuel (renderItems (item :: items) ++ ']' :: rest) = some (item :: items, rest)
  fields : ∀ k j fields rest, losslessFields ((k, j) :: fields) = true →
    (renderFields ((k, j) :: fields)).length < fuel →
    readFields? fuel (renderFields ((k, j) :: fields) ++ '\x7d' :: rest) =
      some (((k, j) :: fields).map fun f => (some f.1.toList, f.2), rest)

namespace ReadsBack

theorem value_succ (reads : ReadsBack fuel) (j : Json) (rest : List Char)
    (lossless : j.lossless = true) (follows : Follows rest)
    (enough : (render j).length ≤ fuel + 1) :
    readValue? (fuel + 1) (render j ++ rest) = some (j, rest) := by
  cases j with
  | null => rfl
  | bool b => cases b <;> rfl
  | int n =>
      obtain ⟨c, tail, same, begins⟩ := renderInt_head n
      have number := readValue?_number begins fuel (tail ++ rest)
      simp only [Json.lossless, Bool.and_eq_true, decide_eq_true_eq] at lossless
      rw [← List.cons_append, ← same, readNumber?_renderInt lossless.1 lossless.2 follows] at number
      exact number
  | real x => cases lossless
  | str s =>
      have read := readValue?_string s.toList rest fuel
      rwa [String.ofList_toList] at read
  | arr items =>
      cases items with
      | nil => rfl
      | cons item items =>
          rw [length_render_arr] at enough
          have read := reads.items item items rest lossless (by omega)
          -- The first item does not look like the end of an empty array.
          have first : item.lossless = true := (Bool.and_eq_true _ _ ▸ lossless).1
          obtain ⟨c, tail, same, solid, more⟩ := render_head first
          rw [render_arr_append]
          exact readValue?_items ⟨_, by rw [renderItems_cons, same, List.cons_append]⟩ solid more
            read
  | obj fields =>
      cases fields with
      | nil => rfl
      | cons field fields =>
          obtain ⟨k, j⟩ := field
          rw [length_render_obj] at enough
          have read := reads.fields k j fields rest lossless (by omega)
          rw [render_obj_append]
          exact readValue?_fields ⟨_, by rw [renderFields_cons, renderString_append]⟩ read
  | unreadable => cases lossless

theorem items_succ (reads : ReadsBack fuel) (item : Json) (items : List Json) (rest : List Char)
    (lossless : losslessItems (item :: items) = true)
    (enough : (renderItems (item :: items)).length < fuel + 1) :
    readItems? (fuel + 1) (renderItems (item :: items) ++ ']' :: rest) =
      some (item :: items, rest) := by
  rw [losslessItems, Bool.and_eq_true] at lossless
  have length := congrArg List.length (renderItems_cons item items [])
  rw [List.append_nil, List.length_append] at length
  -- A comma or the bracket stands after the item, so it may be a number.
  have first := fun mark rest follows =>
    reads.value item (mark :: rest) lossless.1 (follows_of_mark follows rest) (by omega)
  rw [renderItems_cons, readItems?]
  cases items with
  | nil =>
      rw [first _ _ (by simp)]
      rfl
  | cons next items =>
      simp only [List.append_nil, List.length_cons] at length
      have later := reads.items next items rest lossless.2 (by omega)
      rw [first _ _ (by simp)]
      simp only [Option.bind_eq_bind, Option.bind_some, skipSpace_cons (c := ',') rfl, later,
        Option.pure_def]

theorem fields_succ (reads : ReadsBack fuel) (k : String) (j : Json)
    (fields : List (String × Json)) (rest : List Char)
    (lossless : losslessFields ((k, j) :: fields) = true)
    (enough : (renderFields ((k, j) :: fields)).length < fuel + 1) :
    readFields? (fuel + 1) (renderFields ((k, j) :: fields) ++ '\x7d' :: rest) =
      some (((k, j) :: fields).map fun f => (some f.1.toList, f.2), rest) := by
  rw [losslessFields, Bool.and_eq_true] at lossless
  have length := congrArg List.length (renderFields_cons k j fields [])
  rw [List.append_nil, List.length_append, List.length_cons, List.length_append] at length
  have value := fun mark rest follows =>
    reads.value j (mark :: rest) lossless.1 (follows_of_mark follows rest) (by omega)
  rw [renderFields_cons, renderString_append, readFields?, skipSpace_cons rfl]
  simp only [readString?_whole, Option.bind_eq_bind, Option.bind_some,
    skipSpace_cons (c := ':') rfl]
  cases fields with
  | nil =>
      rw [value _ _ (by simp)]
      rfl
  | cons next fields =>
      obtain ⟨k', j'⟩ := next
      simp only [List.append_nil, List.length_cons] at length
      have later := reads.fields k' j' fields rest lossless.2 (by omega)
      rw [value _ _ (by simp)]
      simp only [Option.bind_some, skipSpace_cons (c := ',') rfl, later, Option.pure_def,
        List.map_cons]

theorem all (fuel : Nat) : ReadsBack fuel := by
  induction fuel with
  | zero =>
      refine ⟨fun j rest lossless _ enough => ?_, fun _ _ _ _ enough => ?_,
        fun _ _ _ _ _ enough => ?_⟩
      · exact absurd (length_render_pos lossless) (Nat.not_lt.mpr enough)
      · exact absurd enough (Nat.not_lt_zero _)
      · exact absurd enough (Nat.not_lt_zero _)
  | succ fuel ih => exact ⟨ih.value_succ, ih.items_succ, ih.fields_succ⟩

end ReadsBack

theorem parse?_render {j : Json} (lossless : j.lossless = true) : parse? (render j) = some j := by
  have read := (ReadsBack.all (2 * (render j).length + 2)).value j [] lossless (by simp [Follows])
    (by omega)
  rw [List.append_nil] at read
  rw [parse?, read]
  rfl

theorem parse?_compact {j : Json} (lossless : j.lossless = true) :
    parse? j.compact.toList = some j := by
  rw [compact, String.toList_ofList, parse?_render lossless]

end BridgeWarden.Json
