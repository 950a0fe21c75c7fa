import Slapstic.Chip.Basic

/-!
# Chip/SaveState — putting a chip away and bringing it back

A save state is a chip's latch with the number of its part; the host is no part of it.  It is
brought back into a chip of the same part, and since it may come from anywhere it is checked first:
the part, the selected bank, the pending bank and the toggle, in this order.  The first **flaw**
found refuses it and leaves the chip as it was.

* `SaveState.flaw?_eq_none_iff` — the states without a flaw are those of the same part with a
  well-formed latch.
-/

namespace Slapstic

/-- **A saved chip.** -/
structure SaveState extends Latch where
  part : PartNumber
  deriving DecidableEq

/-- **What is wrong with a save state.** -/
inductive Flaw where
  /-- It was taken from another part. -/
  | wrongPart (expected found : PartNumber)
  /-- A bank is past the last. -/
  | bankOutOfRange (bank : UInt8)
  /-- The toggle is neither of its two values. -/
  | badToggle (toggle : UInt8)
  deriving DecidableEq

/-- The wording of a flaw. -/
def Flaw.message : Flaw → String
  | wrongPart expected found =>
    "snapshot is for slapstic " ++ found.name ++ ", chip is " ++ expected.name
  | bankOutOfRange bank => "bank " ++ Text.decimal bank.toNat ++ " out of range"
  | badToggle toggle => "bitwise toggle " ++ Text.decimal toggle.toNat ++ " is not 0 or 3"

namespace SaveState

/-- The flaw of a bank, if it has one. -/
def bankFlaw? (bank : UInt8) : Option Flaw := if 3 < bank then some (.bankOutOfRange bank) else none

/-- The flaw of a toggle, if it has one. -/
def toggleFlaw? (toggle : UInt8) : Option Flaw :=
  if toggle = 0 ∨ toggle = 3 then none else some (.badToggle toggle)

/-- **The first flaw that keeps a save state out of a part.** -/
def flaw? (state : SaveState) (part : PartNumber) : Option Flaw :=
  (if state.part = part then none else some (.wrongPart part state.part))
    |>.or (bankFlaw? state.bank)
    |>.or (state.phase.pending?.bind bankFlaw?)
    |>.or (state.phase.toggle?.bind toggleFlaw?)

theorem bankFlaw?_eq_none_iff {bank : UInt8} : bankFlaw? bank = none ↔ bank ≤ 3 := by
  simp [bankFlaw?, UInt8.not_lt]

theorem toggleFlaw?_eq_none_iff {toggle : UInt8} :
    toggleFlaw? toggle = none ↔ toggle = 0 ∨ toggle = 3 := by
  simp [toggleFlaw?, Decidable.or_iff_not_imp_left]

/-- **A save state has no flaw** exactly if it is the part's own and its latch is well formed. -/
theorem flaw?_eq_none_iff {state : SaveState} {part : PartNumber} :
    state.flaw? part = none ↔ state.part = part ∧ state.toLatch.WellFormed := by
  rw [Latch.wellFormed_iff]
  simp only [flaw?, Option.or_eq_none_iff, ite_eq_left_iff, reduceCtorEq, imp_false,
    Decidable.not_not, Option.bind_eq_none_iff, bankFlaw?_eq_none_iff, toggleFlaw?_eq_none_iff,
    and_assoc]

end SaveState

namespace Chip

/-- **The state of a chip**, to bring back later. -/
def save (chip : Chip) : SaveState := { chip.toLatch with part := chip.part }

/-- **The chip with a save state brought back**, or the first flaw of the state. -/
def restore (chip : Chip) (state : SaveState) : Except Flaw Chip :=
  match state.flaw? chip.part with
  | some flaw => .error flaw
  | none => .ok { state.toLatch with part := chip.part, host := chip.host }

theorem restore_eq_error_iff {chip : Chip} {state : SaveState} {flaw : Flaw} :
    chip.restore state = .error flaw ↔ state.flaw? chip.part = some flaw := by
  cases h : state.flaw? chip.part <;> simp [restore, h]

/-- **A chip takes back a save state** exactly if it is the part's own and its latch is well formed;
the chip is then as the state says. -/
theorem restore_eq_ok_iff {chip next : Chip} {state : SaveState} :
    chip.restore state = .ok next ↔ state.part = chip.part ∧ state.toLatch.WellFormed ∧
      next = { state.toLatch with part := chip.part, host := chip.host } := by
  rw [← and_assoc, ← SaveState.flaw?_eq_none_iff]
  cases h : state.flaw? chip.part <;> simp [restore, h, eq_comm]

theorem exists_restore_eq_ok_iff {chip : Chip} {state : SaveState} :
    (∃ next, chip.restore state = .ok next) ↔
      state.part = chip.part ∧ state.toLatch.WellFormed := by
  simp only [restore_eq_ok_iff, exists_and_left, exists_eq, and_true]

end Chip

end Slapstic
