import Slapstic.Proofs.Chip.WellFormed

/-!
# Proofs/Chip/Alike — all that an access depends on

The part, the latch, and whether the host is inspected are all that an access depends on.  Two chips
that agree on them are `Alike`, stay so under every access (`Alike.access`), and show the same
latches from then on (`Alike.latches`).
-/

namespace Slapstic

/-- **Of the host only this matters**: whether its instructions run sequences off the bus. -/
theorem AlternatePatterns.resolve_congr (steps : AlternatePatterns) {host other : Host}
    (same : host.inspected = other.inspected) (view : View) :
    steps.resolve host view = steps.resolve other view := by
  rw [resolve, resolve, same]

theorem Patterns.step_congr (patterns : Patterns) {host other : Host}
    (same : host.inspected = other.inspected) (latch : Latch) (a : Access) :
    patterns.step host latch a = patterns.step other latch a := by
  simp only [step, move, moveEnabled, patterns.alternate.resolve_congr same]

namespace Chip

/-- **Chips that act alike**: the same part, in the same latch, on hosts of one kind. -/
structure Alike (chip other : Chip) : Prop where
  part_eq : chip.part = other.part
  inspected_eq : chip.host.inspected = other.host.inspected
  toLatch_eq : chip.toLatch = other.toLatch

variable {chip other : Chip}

/-- **Of an access only this matters**: its address on the chip's lines, and the view. -/
theorem access_congr {a b : Access} (pins : a.pins = b.pins) (view : a.view = b.view) :
    chip.access a = chip.access b := by
  have step : chip.part.patterns.step chip.host chip.toLatch a =
      chip.part.patterns.step chip.host chip.toLatch b := by
    change chip.toLatch.after (chip.part.patterns.move chip.host chip.toLatch a.pins a.view) = _
    rw [pins, view]
    rfl
  rw [access, access, step]

/-- **An access keeps them alike.** -/
theorem Alike.access (alike : chip.Alike other) (a : Access) :
    (chip.access a).Alike (other.access a) where
  part_eq := alike.part_eq
  inspected_eq := alike.inspected_eq
  toLatch_eq := by
    rw [toLatch_access, toLatch_access, alike.part_eq, alike.toLatch_eq,
      Patterns.step_congr _ alike.inspected_eq]

theorem Alike.run (alike : chip.Alike other) (accesses : List Access) :
    (chip.run accesses).Alike (other.run accesses) := by
  induction accesses generalizing chip other with
  | nil => exact alike
  | cons a rest ih => exact ih (alike.access a)

/-- **Chips alike show the same latches**, access by access. -/
theorem Alike.latches (alike : chip.Alike other) (accesses : List Access) :
    chip.latches accesses = other.latches accesses := by
  induction accesses generalizing chip other with
  | nil => rfl
  | cons a rest ih =>
    have next := alike.access a
    rw [Chip.latches, Chip.latches, next.toLatch_eq, ih next]

end Chip

end Slapstic
