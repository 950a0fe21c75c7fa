import Slapstic.Chip.SaveState

/-!
# Chip/Survey — which addresses move a chip, and where to

A survey puts a chip back into the same latch before each address of an interval and notes what an
access to the address does.  Addresses that change nothing are left out, and neighbours that do the
same are one **stretch**.
-/

namespace Slapstic

/-- Neighbouring addresses, from the first to the last, that all lead to one latch. -/
structure Stretch where
  first : Nat
  last : Nat
  latch : Latch
  deriving DecidableEq

namespace Stretch

/-- The stretches, the latest in front, with one address more: it lengthens the latest stretch if it
is its neighbour and leads to the same latch. -/
def insert (stretches : List Stretch) (address : Nat) (latch : Latch) : List Stretch :=
  match stretches with
  | stretch :: earlier =>
    if stretch.last + 1 = address ∧ stretch.latch = latch then
      { stretch with last := address } :: earlier
    else ⟨address, address, latch⟩ :: stretch :: earlier
  | [] => [⟨address, address, latch⟩]

end Stretch

namespace Chip

/-- **The stretches of an interval of addresses** that move the chip as it stands, in order. -/
def survey (chip : Chip) (view : View) (first last : UInt32) : List Stretch :=
  let addresses := List.range' first.toNat (last.toNat + 1 - first.toNat)
  let stretches := addresses.foldl (fun stretches address =>
    let next := (chip.access ⟨UInt32.ofNat address, view⟩).toLatch
    if next = chip.toLatch then stretches else Stretch.insert stretches address next) []
  stretches.reverse

/-- **The survey of a chip in a given latch**, which is checked like a save state, unless the
interval is empty. -/
def surveyFrom (chip : Chip) (latch : Latch) (view : View) (first last : UInt32) :
    Except Flaw (List Stretch) :=
  if last < first then .ok []
  else (chip.restore { latch with part := chip.part }).map (·.survey view first last)

end Chip

end Slapstic
