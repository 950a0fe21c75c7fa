import Slapstic.Chip.Basic

/-!
# Board/Setup — which slapstic a board carries, and what drives it
-/

namespace Slapstic

/-- **The slapstic of a board**: its part and its host, a 68000 if none is named. -/
structure Setup where
  part : PartNumber
  host : Host := default
  deriving DecidableEq

namespace Setup

/-- The part of Marble Madness, the first board of its system. -/
def marbleMadness : PartNumber := Catalog.part103.part

/-- The setup of Marble Madness. -/
instance : Inhabited Setup := ⟨{ part := marbleMadness, host := .m68010 }⟩

/-- The setup with the part of a given number. -/
def ofNumber (number : UInt16) (host : Host) : Except PartError Setup :=
  (PartNumber.ofNumber number).map fun part => { part, host }

/-- **The chip of a setup**, at power-up. -/
def chip (setup : Setup) : Chip := Chip.powerUp setup.part setup.host

end Setup

end Slapstic
