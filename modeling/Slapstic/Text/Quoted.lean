import Slapstic.Text.Extender
import Slapstic.Text.Numeral
import Slapstic.Text.Unprintable

/-!
# Text/Quoted — a text between quotes, every character visible

A quoted text stands between double quotes.  Inside, a quote and a backslash follow a backslash; the
tab, the line ends and the null character have letters of their own; any other character that shows
nothing, or that would combine with its neighbour, is given by its code point in braces.
-/

namespace Slapstic.Text

/-- The letter that stands, after a backslash, for a character that has one. -/
def escapeLetter? (c : Char) : Option Char :=
  if c = '\x00' then some '0'
  else if c = '\t' then some 't'
  else if c = '\r' then some 'r'
  else if c = '\n' then some 'n'
  else if c = '\\' ∨ c = '"' then some c
  else none

/-- **A character as it stands between the quotes.** -/
def quotedChar (c : Char) : List Char :=
  match escapeLetter? c with
  | some letter => ['\\', letter]
  | none =>
    if isExtender c || isUnprintable c then
      ['\\', 'u', '\x7b'] ++ Nat.toDigits 16 c.toNat ++ ['\x7d']
    else [c]

/-- **The quoted text.** -/
def quoted (text : String) : String :=
  String.ofList (['"'] ++ text.toList.flatMap quotedChar ++ ['"'])

end Slapstic.Text
