import Slapstic.Chip.Basic

/-!
# Chip/TraceLine — one access in a line of text

A trace line shows an address, the bank the access read from, and the phase it led to:
`3D14 B=3 ALTERNATE2`.
-/

namespace Slapstic

/-- **The chip as it stands after an access.** -/
structure TraceLine extends Latch where
  address : UInt32
  deriving DecidableEq

namespace TraceLine

/-- The text of a trace line. -/
def text (line : TraceLine) : String :=
  Text.hexWord line.address ++ " B=" ++ Text.decimal line.bank.toNat ++ " " ++ line.phase.name

end TraceLine

/-- The trace line of an access that has just been made. -/
def Chip.traceLine (chip : Chip) (address : UInt32) : TraceLine := { chip.toLatch with address }

end Slapstic
