import TapeMachine.Text.Integer
import TapeMachine.Text.Numeral

/-! Hexadecimal numerals read back as the numbers that they were written for, and have no more zeros
in front than their width asks for. -/

namespace TapeMachine

/-- The bytes of two texts one behind the other. -/
theorem utf8_append (first second : String) :
    utf8 (first ++ second) = utf8 first ++ utf8 second := by
  simp [utf8]

/-- The value of a hexadecimal digit. -/
def hexValue? (digit : UInt8) : Option Nat := (digitValue? digit).filter fun value => value < 16

/-- Goes on reading a hexadecimal numeral of which the first digits have a value. -/
def readHexFrom? (value : Nat) (digits : Bytes) : Option Nat :=
  digits.foldlM (fun value digit => (hexValue? digit).map fun last => 16 * value + last) value

/-- Reads a hexadecimal numeral. -/
def readHex? (digits : Bytes) : Option Nat := readHexFrom? 0 digits

/-- A text is the lower-case hexadecimal numeral of a number, with zeros in front up to a width and
no further. -/
structure HexNumeral (width n : Nat) (text : Bytes) : Prop where
  value : readHex? text = some n
  lower : ∀ digit ∈ text, digit ∈ utf8 "0123456789abcdef"
  wide : width ≤ text.length
  tight : width < text.length → text.head? ≠ some (ascii '0')

/-- The byte of a hexadecimal digit. -/
def hexByteOf (value : Nat) : UInt8 := ascii (hexDigit value)

/-- Each of the sixteen digits has its own value, is one byte, and is no space. -/
theorem hexByteOf_digit {value : Nat} (small : value < 16) :
    hexValue? (hexByteOf value) = some value ∧
      String.utf8EncodeChar (hexDigit value) = [hexByteOf value] ∧
      hexByteOf value ≠ ascii ' ' := by
  have each : ∀ value : Fin 16, hexValue? (hexByteOf value) = some value.val ∧
      String.utf8EncodeChar (hexDigit value) = [hexByteOf value] ∧
      hexByteOf value ≠ ascii ' ' := by decide +kernel
  exact each ⟨value, small⟩

/-- The sixteen digits are in lower case, and the zero is the first of them. -/
theorem hexByteOf_lower {value : Nat} (small : value < 16) :
    hexByteOf value ∈ utf8 "0123456789abcdef" ∧ (hexByteOf value = ascii '0' → value = 0) := by
  have each : ∀ value : Fin 16, hexByteOf value ∈ utf8 "0123456789abcdef" ∧
      (hexByteOf value = ascii '0' → value.val = 0) := by decide +kernel
  exact each ⟨value, small⟩

/-- The bytes of digits with the given values. -/
theorem utf8_hexDigits {values : List Nat} (small : ∀ value ∈ values, value < 16) :
    utf8 (String.ofList (values.map hexDigit)) = values.map hexByteOf := by
  induction values with
  | nil => rfl
  | cons value rest ih =>
    have first := (hexByteOf_digit (small value (by simp))).2.1
    have later := ih fun other member => small other (by simp [member])
    simp only [utf8, String.toList_ofList] at later ⊢
    rw [List.map_cons, List.flatMap_cons, first, later]
    rfl

/-- A numeral is read from its first digit to its last. -/
theorem readHexFrom?_append (value : Nat) (digits more : Bytes) :
    readHexFrom? value (digits ++ more) =
      (readHexFrom? value digits).bind fun value => readHexFrom? value more := by
  simp only [readHexFrom?, List.foldlM_append]
  rfl

/-- One more digit is one more place. -/
theorem readHexFrom?_digit (value : Nat) {last : Nat} (small : last < 16) :
    readHexFrom? value [hexByteOf last] = some (16 * value + last) := by
  simp [readHexFrom?, (hexByteOf_digit small).1]

/-- Zeros in front of a numeral do not change its value. -/
theorem readHex?_zeros (count : Nat) (digits : Bytes) :
    readHex? (List.replicate count (hexByteOf 0) ++ digits) = readHex? digits := by
  induction count with
  | zero => rfl
  | succ count ih =>
    rw [List.replicate_succ, List.cons_append, ← List.singleton_append, readHex?,
      readHexFrom?_append, readHexFrom?_digit 0 (by omega)]
    exact ih

/-- A number is written with digits that give its value, without a zero in front. -/
theorem exists_hexDigits (n : Nat) :
    ∃ values : List Nat, hexDigits n = values.map hexDigit ∧ (∀ value ∈ values, value < 16) ∧
      readHex? (values.map hexByteOf) = some n ∧ (0 < n → values.head? ≠ some 0) := by
  -- The last digit is the remainder, and the digits in front of it are those of the quotient.
  induction n using Nat.strongRecOn with
  | ind n ih =>
    rcases Nat.lt_or_ge n 16 with small | large
    · refine ⟨[n], Nat.toDigits_of_lt_base small, by simpa using small, ?_, fun positive => ?_⟩
      · simpa [readHex?] using readHexFrom?_digit 0 small
      · simpa using Nat.ne_of_gt positive
    · obtain ⟨values, written, digits, read, first⟩ := ih (n / 16) (by omega)
      have last : n % 16 < 16 := by omega
      refine ⟨values ++ [n % 16], ?_, ?_, ?_, fun _ => ?_⟩
      · rw [hexDigits, Nat.toDigits_of_base_le (by omega) large, List.map_append]
        exact congrArg (· ++ _) written
      · intro value member
        rcases List.mem_append.mp member with member | member
        · exact digits value member
        · rw [List.mem_singleton.mp member]
          exact last
      · rw [List.map_append, readHex?, readHexFrom?_append]
        rw [readHex?] at read
        rw [read, Option.bind_some, List.map_singleton, readHexFrom?_digit _ last,
          Nat.div_add_mod]
      · -- The quotient is not zero, so that it has a first digit, which is not zero either.
        cases values with
        | nil =>
          have zero : 0 = n / 16 := Option.some.inj read
          omega
        | cons value rest => exact first (by omega)

/-- Eight digits and more are a numeral of width eight. -/
theorem hexNumeral_hex8 (n : Nat) : HexNumeral 8 n (utf8 (hex8 n)) := by
  obtain ⟨values, written, small, read, first⟩ := exists_hexDigits n
  have nonnegative : ¬ (n : Int) < 0 := by omega
  -- The zeros in front are digits, too.
  have padded : zeroPad 8 (hexDigits n) =
      (List.replicate (8 - values.length) 0 ++ values).map hexDigit := by
    rw [zeroPad, written, List.map_append, List.map_replicate, List.length_map]
    rfl
  have digits : ∀ value ∈ List.replicate (8 - values.length) 0 ++ values, value < 16 := by
    intro value member
    rcases List.mem_append.mp member with member | member
    · rw [List.eq_of_mem_replicate member]
      omega
    · exact small value member
  rw [hex8, if_neg nonnegative, Int.natAbs_natCast, padded, utf8_hexDigits digits]
  constructor
  case value =>
    rw [List.map_append, List.map_replicate, readHex?_zeros]
    exact read
  case lower =>
    intro digit member
    obtain ⟨value, known, rfl⟩ := List.mem_map.mp member
    exact (hexByteOf_lower (digits value known)).1
  case wide =>
    rw [List.length_map, List.length_append, List.length_replicate]
    omega
  case tight =>
    intro longer
    rw [List.length_map, List.length_append, List.length_replicate] at longer
    -- There are no zeros in front of more than eight digits.
    rw [Nat.sub_eq_zero_of_le (by omega), List.replicate_zero, List.nil_append]
    cases values with
    | nil => simp at longer
    | cons value rest =>
      intro zero
      have same : value = 0 :=
        (hexByteOf_lower (small value (by simp))).2 (Option.some.inj zero)
      refine first (Nat.pos_of_ne_zero fun none => ?_) (congrArg some same)
      -- The numeral of zero has a single digit.
      have short := congrArg List.length written
      rw [none, List.length_map] at short
      have single : (hexDigits 0).length = 1 := by decide
      omega

/-- A byte is written with two digits, the higher one first. -/
theorem utf8_hexByte (b : UInt8) :
    utf8 (hexByte b) = [hexByteOf (b.toNat / 16), hexByteOf (b.toNat % 16)] := by
  have bound : b.toNat < 256 := b.toNat_lt
  have digits : zeroPad 2 (hexDigits b.toNat) =
      [b.toNat / 16, b.toNat % 16].map hexDigit := by
    rcases Nat.lt_or_ge b.toNat 16 with small | large
    · -- A lone digit gets a zero in front.
      rw [hexDigits, Nat.toDigits_of_lt_base small, Nat.div_eq_of_lt small, Nat.mod_eq_of_lt small]
      rfl
    · rw [hexDigits, Nat.toDigits_of_base_le (by omega) large,
        Nat.toDigits_of_lt_base (show b.toNat / 16 < 16 by omega)]
      rfl
  rw [hexByte, digits, utf8_hexDigits]
  · rfl
  · simp only [List.mem_cons, List.not_mem_nil, or_false]
    rintro value (rfl | rfl) <;> omega

/-- A byte reads back from its two digits. -/
theorem readHex?_halves (b : UInt8) :
    readHex? [hexByteOf (b.toNat / 16), hexByteOf (b.toNat % 16)] = some b.toNat := by
  have bound : b.toNat < 256 := b.toNat_lt
  rw [← List.singleton_append, readHex?, readHexFrom?_append, readHexFrom?_digit 0 (by omega),
    Option.bind_some, readHexFrom?_digit _ (by omega)]
  -- Quotient and remainder give the byte back.
  congr 1
  omega

end TapeMachine
