import Slapstic.Chip.Move

/-!
# Chip/Basic — the chip on its board

A `Chip` is a part, the host that drives it, and a latch.  Every access to its window clocks it, and
the bank that the latch then selects is the one the access itself reads from.

* `Chip.run` — the chip after a list of accesses, and `Chip.latches` — its latch after each of them;
* `Chip.run_append`, `Chip.latches_append` — a list of accesses may be cut anywhere.
-/

namespace Slapstic

/-- **A slapstic**: its part, its host, and what it remembers. -/
structure Chip extends Latch where
  part : PartNumber
  host : Host
  deriving DecidableEq

/-- The latch of a part at power-up: disabled, in its starting bank. -/
def PartNumber.initialLatch (part : PartNumber) : Latch := ⟨.disabled, part.startingBank⟩

namespace Chip

/-- **A chip at power-up.** -/
def powerUp (part : PartNumber) (host : Host) : Chip := { part.initialLatch with part, host }

/-- The chip at power-up whose part has a given number. -/
def ofNumber (number : UInt16) (host : Host) : Except PartError Chip :=
  (PartNumber.ofNumber number).map (powerUp · host)

/-- The chip at power-up again. -/
def reset (chip : Chip) : Chip := powerUp chip.part chip.host

/-- **The chip after an access.** -/
def access (chip : Chip) (a : Access) : Chip :=
  { chip.part.patterns.step chip.host chip.toLatch a with part := chip.part, host := chip.host }

@[simp] theorem part_access (chip : Chip) (a : Access) : (chip.access a).part = chip.part := rfl

@[simp] theorem host_access (chip : Chip) (a : Access) : (chip.access a).host = chip.host := rfl

@[simp] theorem toLatch_access (chip : Chip) (a : Access) :
    (chip.access a).toLatch = chip.part.patterns.step chip.host chip.toLatch a := rfl

/-! ## Runs -/

/-- **The chip after a run of accesses.** -/
def run (chip : Chip) (accesses : List Access) : Chip := accesses.foldl access chip

/-- **The latch after each access of a run.**  Its bank is the one the access reads from. -/
def latches (chip : Chip) : List Access → List Latch
  | [] => []
  | a :: rest => (chip.access a).toLatch :: (chip.access a).latches rest

@[simp] theorem run_nil (chip : Chip) : chip.run [] = chip := rfl

@[simp] theorem run_cons (chip : Chip) (a : Access) (rest : List Access) :
    chip.run (a :: rest) = (chip.access a).run rest := rfl

theorem run_append (chip : Chip) (first second : List Access) :
    chip.run (first ++ second) = (chip.run first).run second :=
  List.foldl_append

theorem latches_append (chip : Chip) (first second : List Access) :
    chip.latches (first ++ second) = chip.latches first ++ (chip.run first).latches second := by
  induction first generalizing chip with
  | nil => rfl
  | cons a rest ih => simp [latches, ih]

end Chip

end Slapstic
