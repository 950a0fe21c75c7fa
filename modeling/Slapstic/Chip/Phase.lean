/-!
# Chip/Phase — where a chip stands in its protocols

A chip is idle (`disabled`), waits for a protocol to begin (`enabled`), or stands at a step of one
of them.  The steps that gather a new bank hold it as **pending** until the protocol ends; a `Latch`
is such a phase with the bank that is selected meanwhile.

Banks and toggles are bytes here, since a phase may come from outside; `Latch.WellFormed` says what
a chip's own phases look like: banks below four, a toggle that is 0 or 3.
-/

namespace Slapstic

/-- **A step of a protocol.** -/
inductive Phase where
  /-- Deaf to everything but address zero. -/
  | disabled
  /-- Waiting for the first access of a protocol. -/
  | enabled
  /-- The first address of the alternate sequence came. -/
  | alternate1
  /-- The second address came. -/
  | alternate2
  /-- The third address came and gave the bank. -/
  | alternate3 (bank : UInt8)
  /-- Waiting for a bank select that begins the twiddling. -/
  | bitwise1
  /-- Twiddling; the toggle swaps the meanings of the two lowest address bits. -/
  | bitwise2 (bank toggle : UInt8)
  /-- Done twiddling, waiting for a bank select that ends the protocol. -/
  | bitwise3 (bank : UInt8)
  /-- Armed for addition, waiting for the confirmation. -/
  | additive1
  /-- Adding. -/
  | additive2 (bank : UInt8)
  /-- Done adding, waiting for a bank select that ends the protocol. -/
  | additive3 (bank : UInt8)
  deriving DecidableEq, Repr, Inhabited

namespace Phase

/-- The name of a phase in the chip's messages. -/
def name : Phase → String
  | disabled => "DISABLED"
  | enabled => "ENABLED"
  | alternate1 => "ALTERNATE1"
  | alternate2 => "ALTERNATE2"
  | alternate3 _ => "ALTERNATE3"
  | bitwise1 => "BITWISE1"
  | bitwise2 _ _ => "BITWISE2"
  | bitwise3 _ => "BITWISE3"
  | additive1 => "ADDITIVE1"
  | additive2 _ => "ADDITIVE2"
  | additive3 _ => "ADDITIVE3"

/-- **The bank a phase holds back**, if it gathers one. -/
def pending? : Phase → Option UInt8
  | alternate3 bank => some bank
  | bitwise2 bank _ => some bank
  | bitwise3 bank => some bank
  | additive2 bank => some bank
  | additive3 bank => some bank
  | disabled | enabled | alternate1 | alternate2 | bitwise1 | additive1 => none

/-- The toggle of a phase that twiddles. -/
def toggle? : Phase → Option UInt8
  | bitwise2 _ toggle => some toggle
  | _ => none

end Phase

/-- **What a chip remembers**: its phase and the bank it selects. -/
structure Latch where
  phase : Phase
  bank : UInt8
  deriving DecidableEq, Repr, Inhabited

/-- A latch that a chip can be in: no bank past the last, no toggle but 0 and 3. -/
structure Latch.WellFormed (latch : Latch) : Prop where
  bank_le : latch.bank ≤ 3
  pending_le : ∀ bank, latch.phase.pending? = some bank → bank ≤ 3
  toggle_eq : ∀ toggle, latch.phase.toggle? = some toggle → toggle = 0 ∨ toggle = 3

theorem Latch.wellFormed_iff {latch : Latch} : latch.WellFormed ↔ latch.bank ≤ 3 ∧
    (∀ bank, latch.phase.pending? = some bank → bank ≤ 3) ∧
      ∀ toggle, latch.phase.toggle? = some toggle → toggle = 0 ∨ toggle = 3 :=
  ⟨fun h => ⟨h.bank_le, h.pending_le, h.toggle_eq⟩, fun h => ⟨h.1, h.2.1, h.2.2⟩⟩

/-- Whether a latch is well formed can be decided. -/
instance (latch : Latch) : Decidable latch.WellFormed :=
  decidable_of_iff
    (latch.bank ≤ 3 ∧ latch.phase.pending?.all (· ≤ 3) = true ∧
      latch.phase.toggle?.all (fun toggle => toggle = 0 ∨ toggle = 3) = true)
    (by simp [Latch.wellFormed_iff, Option.all_eq_true])

end Slapstic
