import Mathlib.Tactic
import Slapstic.Text.Numeral

/-!
# Proofs/Text/Numeral — numbers can be read off their digits

A word in hexadecimal reads back by the place values of its digits, to which the leading zeros that
were dropped add nothing (`hexValue_hexWord`).  The digits of a number are alphanumeric, so no blank
and no mark of punctuation stands among them.  A row of characters is read as a number exactly if
there are some and all are ASCII digits, and the number is that of their place values
(`ofDecimal?_eq_some_iff`).
-/

namespace Slapstic.Text

/-! ## Hexadecimal -/

/-- The value of an upper-case hexadecimal digit. -/
def hexDigitValue (c : Char) : Nat :=
  if c ≤ '9' then c.toNat - '0'.toNat else c.toNat - 'A'.toNat + 10

/-- The number that a row of hexadecimal digits denotes after the digits read so far. -/
def hexValueFrom (value : Nat) (digits : List Char) : Nat :=
  digits.foldl (fun value c => 16 * value + hexDigitValue c) value

/-- **The word that a row of hexadecimal digits denotes.** -/
def hexValue (digits : List Char) : UInt32 := UInt32.ofNat (hexValueFrom 0 digits)

theorem hexDigitValue_hexDigit {value : Nat} (lt : value < 16) :
    hexDigitValue (hexDigit value) = value := by
  interval_cases value <;> rfl

theorem isAlphanum_hexDigit {value : Nat} (lt : value < 16) :
    (hexDigit value).isAlphanum = true := by
  interval_cases value <;> rfl

/-- Leading zeros count for nothing. -/
theorem hexValueFrom_dropZeros (count : Nat) (digits : List Char) :
    hexValueFrom 0 (dropZeros count digits) = hexValueFrom 0 digits := by
  fun_induction dropZeros count digits with
  | case1 count rest ih => exact ih
  | case2 => rfl

theorem dropZeros_suffix (count : Nat) (digits : List Char) :
    dropZeros count digits <:+ digits := by
  fun_induction dropZeros count digits with
  | case1 count rest ih => exact ih.trans (List.suffix_cons _ _)
  | case2 => exact List.suffix_rfl

/-- Each digit takes the value down by four places. -/
theorem hexValueFrom_cons {high low : Nat} (four : high = low + 4) (n : Nat) (rest : List Char) :
    hexValueFrom (n >>> high) (hexDigit (n >>> low % 16) :: rest) =
      hexValueFrom (n >>> low) rest := by
  have lt : n >>> low % 16 < 16 := Nat.mod_lt _ (Nat.zero_lt_succ 15)
  have value : 16 * (n >>> high) + n >>> low % 16 = n >>> low := by
    rw [four, Nat.shiftRight_add, Nat.shiftRight_eq_div_pow (n >>> low) 4]
    exact Nat.div_add_mod _ 16
  rw [hexValueFrom, List.foldl_cons, hexDigitValue_hexDigit lt, value, hexValueFrom]

/-- The eight digits of a word add up to it. -/
theorem hexValueFrom_hexDigits (word : UInt32) : hexValueFrom 0 (hexDigits word) = word.toNat := by
  have none_above : 0 = word.toNat >>> 32 := by
    rw [Nat.shiftRight_eq_div_pow, Nat.div_eq_of_lt word.toNat_lt]
  rw [none_above, hexDigits]
  simp only [List.map_cons, hexValueFrom_cons, Nat.reduceAdd]
  rfl

/-- **A word reads back from its text.** -/
theorem hexValue_hexWord (word : UInt32) : hexValue (hexWord word).toList = word := by
  rw [hexValue, hexWord, String.toList_ofList, hexValueFrom_dropZeros, hexValueFrom_hexDigits,
    UInt32.ofNat_toNat]

theorem hexWord_injective : Function.Injective hexWord := by
  intro first second eq
  rw [← hexValue_hexWord first, eq, hexValue_hexWord]

/-- No blank and no punctuation stands among the digits of a word. -/
theorem notMem_hexWord {c : Char} (mark : c.isAlphanum = false) (word : UInt32) :
    c ∉ (hexWord word).toList := by
  intro mem
  rw [hexWord, String.toList_ofList] at mem
  obtain ⟨shift, -, rfl⟩ := List.mem_map.mp ((dropZeros_suffix _ _).subset mem)
  have digit := isAlphanum_hexDigit (Nat.mod_lt (word.toNat >>> shift) (Nat.zero_lt_succ 15))
  exact Bool.false_ne_true (mark.symm.trans digit)

/-! ## Reading decimals -/

theorem digitValue?_eq (c : Char) :
    digitValue? c = if c.isDigit then some (c.toNat - '0'.toNat) else none := by
  simp only [digitValue?, Char.isDigit, Char.le_def, ge_iff_le, Bool.and_eq_true, decide_eq_true_eq]

/-- Digits to come count on from the digits read so far. -/
theorem decimalFrom?_eq_some_iff {value n : Nat} {digits : List Char} :
    decimalFrom? value digits = some n ↔
      (∀ c ∈ digits, c.isDigit = true) ∧ Nat.ofDigitChars 10 digits value = n := by
  induction digits generalizing value with
  | nil => simp [decimalFrom?]
  | cons c rest ih =>
    rw [decimalFrom?, digitValue?_eq, Nat.ofDigitChars_cons, List.forall_mem_cons]
    cases digit : c.isDigit with
    | false => simp
    | true => simpa using ih

/-- **Digits denote the number of their place values**, and nothing but digits denotes one. -/
theorem ofDecimal?_eq_some_iff {n : Nat} {digits : List Char} :
    ofDecimal? digits = some n ↔
      digits ≠ [] ∧ (∀ c ∈ digits, c.isDigit = true) ∧ Nat.ofDigitChars 10 digits 0 = n := by
  cases digits with
  | nil => simp [ofDecimal?]
  | cons c rest => simp [ofDecimal?, decimalFrom?_eq_some_iff]

/-! ## Writing decimals -/

theorem decimal_injective : Function.Injective decimal := by
  intro m n eq
  have digits : Nat.toDigits 10 m = Nat.toDigits 10 n := String.ofList_injective eq
  have values := congrArg (Nat.ofDigitChars 10 · 0) digits
  simpa only [Nat.ofDigitChars_ten_toDigits] using values

theorem notMem_decimal {c : Char} (mark : c.isAlphanum = false) (n : Nat) :
    c ∉ (decimal n).toList := by
  intro mem
  rw [decimal, String.toList_ofList] at mem
  have digit : c.isDigit = true := Nat.isDigit_of_mem_toDigits (by decide) (by decide) mem
  rw [Char.isAlphanum, digit, Bool.or_true] at mark
  exact Bool.false_ne_true mark.symm

end Slapstic.Text
