import Slapstic.Part.Number
import Slapstic.Text.Blank

/-!
# Part/Label — part numbers as people write them

A label is the part number with or without the package's series in front, with a plus sign or
leading zeros if its writer liked them, and with blanks around it: `104`, `137412-104`, ` +0104 `.
Anything else is malformed, and the error keeps the text as it came, blanks included.
-/

namespace Slapstic.PartNumber

/-- The digits of a label: without the blanks around it, the series and one plus sign. -/
def labelDigits (label : List Char) : List Char :=
  let trimmed := Text.trim label
  let unsigned := (packageSeries.toList.isPrefixOf? trimmed).getD trimmed
  match unsigned with
  | '+' :: digits => digits
  | digits => digits

/-- The number a label gives, if it gives one that sixteen bits hold. -/
def labelNumber? (label : List Char) : Option UInt16 :=
  match Text.ofDecimal? (labelDigits label) with
  | some n => if n < 65536 then some (UInt16.ofNat n) else none
  | none => none

/-- **The part a label names.** -/
def ofLabel (label : String) : Except PartError PartNumber :=
  match labelNumber? label.toList with
  | some number => ofNumber number
  | none => .error (.malformed label)

end Slapstic.PartNumber
