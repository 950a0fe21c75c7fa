/-!
# Text/Numeral — numbers as digits

Numbers are read in decimal and written in decimal or hexadecimal:

* `ofDecimal?` reads a row of ASCII digits of any length, leading zeros included, as the number it
  denotes, however large;
* `decimal` writes a number with no leading zero;
* `hexWord` writes a 32-bit word in upper-case hexadecimal with at least four digits.
-/

namespace Slapstic.Text

/-! ## Reading -/

/-- The value of an ASCII digit. -/
def digitValue? (c : Char) : Option Nat :=
  if '0' ≤ c ∧ c ≤ '9' then some (c.toNat - '0'.toNat) else none

/-- The number that the digits read so far and the digits to come denote together. -/
def decimalFrom? (value : Nat) : List Char → Option Nat
  | [] => some value
  | c :: rest => (digitValue? c).bind fun digit => decimalFrom? (10 * value + digit) rest

/-- **The number a row of decimal digits denotes**; an empty row denotes none. -/
def ofDecimal? : List Char → Option Nat
  | [] => none
  | c :: rest => decimalFrom? 0 (c :: rest)

/-! ## Writing -/

/-- A number in decimal. -/
def decimal (n : Nat) : String := String.ofList (Nat.toDigits 10 n)

/-- The upper-case hexadecimal digit of a value below sixteen. -/
def hexDigit (value : Nat) : Char :=
  if value < 10 then Char.ofNat ('0'.toNat + value) else Char.ofNat ('A'.toNat + (value - 10))

/-- The eight hexadecimal digits of a word, the highest first. -/
def hexDigits (word : UInt32) : List Char :=
  [28, 24, 20, 16, 12, 8, 4, 0].map fun shift => hexDigit (word.toNat >>> shift % 16)

/-- The digits without their leading zeros, of which at most `count` are dropped. -/
def dropZeros : Nat → List Char → List Char
  | count + 1, '0' :: rest => dropZeros count rest
  | _, digits => digits

/-- **A word in upper-case hexadecimal**, four digits wide or as wide as it needs. -/
def hexWord (word : UInt32) : String := String.ofList (dropZeros 4 (hexDigits word))

end Slapstic.Text
