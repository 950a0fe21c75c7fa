/-!
# Text/Utf8 — text from bytes that may have been cut short

A writer that fills up keeps the bytes that fitted, so what it holds need not end, or even go on,
with whole characters.  `Utf8.decode` reads the whole characters as themselves and puts one
replacement character for each row of bytes that started a character and was cut off, and for each
byte that starts none.
-/

namespace Slapstic.Text.Utf8

/-- A character whose first bytes have been read: how many bytes it still needs, the range the next
of them lies in, and the code point so far. -/
structure Pending where
  owed : Nat
  low : UInt8
  high : UInt8
  scalar : Nat

/-- What stands for bytes that spell no character. -/
def replacement : Char := '\ufffd'

/-- The character a byte above the ASCII range starts, if it may start one.  The range of the second
byte keeps out the long spellings, the surrogates and the code points past the last plane. -/
def Pending.ofLead? (byte : UInt8) : Option Pending :=
  let b := byte.toNat
  if 0xC2 ≤ b ∧ b ≤ 0xDF then some ⟨1, 0x80, 0xBF, b - 0xC0⟩
  else if b = 0xE0 then some ⟨2, 0xA0, 0xBF, 0⟩
  else if b = 0xED then some ⟨2, 0x80, 0x9F, 0xD⟩
  else if 0xE1 ≤ b ∧ b ≤ 0xEF then some ⟨2, 0x80, 0xBF, b - 0xE0⟩
  else if b = 0xF0 then some ⟨3, 0x90, 0xBF, 0⟩
  else if 0xF1 ≤ b ∧ b ≤ 0xF3 then some ⟨3, 0x80, 0xBF, b - 0xF0⟩
  else if b = 0xF4 then some ⟨3, 0x80, 0x8F, 4⟩
  else none

/-- A byte where a character may start: the characters it completes by itself, and the one it
starts. -/
def start (byte : UInt8) : List Char × Option Pending :=
  if byte < 0x80 then ([Char.ofNat byte.toNat], none)
  else match Pending.ofLead? byte with
    | some pending => ([], some pending)
    | none => ([replacement], none)

/-- The text of the bytes to come, after the first bytes of a character or between characters. -/
def decodeFrom : Option Pending → List UInt8 → List Char
  | none, [] => []
  | some _, [] => [replacement]
  | none, byte :: rest => (start byte).1 ++ decodeFrom (start byte).2 rest
  | some pending, byte :: rest =>
    if pending.low ≤ byte ∧ byte ≤ pending.high then
      let scalar := 64 * pending.scalar + byte.toNat % 64
      if pending.owed ≤ 1 then Char.ofNat scalar :: decodeFrom none rest
      else decodeFrom (some ⟨pending.owed - 1, 0x80, 0xBF, scalar⟩) rest
    else replacement :: ((start byte).1 ++ decodeFrom (start byte).2 rest)

/-- **The text of a row of bytes**, with a replacement character for what spells none. -/
def decode (bytes : List UInt8) : String := String.ofList (decodeFrom none bytes)

/-- The bytes of a text. -/
def encode (text : String) : List UInt8 := text.toUTF8.data.toList

end Slapstic.Text.Utf8
