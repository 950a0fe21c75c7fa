import Slapstic.Proofs.Chip.WellFormed

/-!
# Proofs/Chip/Attainable — the phases that a part has on a host

Of the phases, a chip on its board knows some only in part: each revision has one further protocol,
part 101 has no first step of the alternate sequence, and on an inspected host it has no sequence at
all.  No access leads from a phase that is **offered** to one that is not (`Transition.offered`), so
a chip from power-up stays among the **attainable** latches (`attainable_run`).
-/

namespace Slapstic

/-- **The phases offered** to a part on a host. -/
def Phase.Offered (part : PartNumber) (host : Host) : Phase → Prop
  | disabled | enabled => True
  | alternate1 => part.number ≠ 101
  | alternate2 | alternate3 _ => ¬ (part.number = 101 ∧ host.inspected = true)
  | bitwise1 | bitwise2 _ _ | bitwise3 _ => part.patterns.scheme.revision = 1
  | additive1 | additive2 _ | additive3 _ => part.patterns.scheme.revision = 2

/-- A move to a phase offered, or a commit. -/
def Move.Offered (part : PartNumber) (host : Host) : Move → Prop
  | go phase => phase.Offered part host
  | commit _ => True

/-- **An attainable latch**: well formed, in a phase that the part has on its host. -/
structure Latch.Attainable (part : PartNumber) (host : Host) (latch : Latch) : Prop where
  wellFormed : latch.WellFormed
  offered : latch.phase.Offered part host

namespace PartNumber

/-- **The first step is unknown on part 101 alone.** -/
theorem first_eq_none_iff : ∀ part : PartNumber,
    part.patterns.alternate.first = none ↔ part.number = 101 := by
  decide +kernel

/-- Nothing hits an unknown first step. -/
theorem firstHits_of_number {part : PartNumber} (number : part.number = 101) (address : UInt32) :
    part.patterns.alternate.firstHits address = false := by
  rw [AlternatePatterns.firstHits, part.first_eq_none_iff.mpr number]
  rfl

/-- …and so no instruction vouches for it. -/
theorem recover?_of_number {part : PartNumber} (number : part.number = 101) (view : View) :
    part.patterns.alternate.recover? view = none := by
  rw [AlternatePatterns.recover?, firstHits_of_number number]
  rfl

end PartNumber

variable {part : PartNumber} {host : Host}

/-! ## One access -/

/-- **Moves lead to phases that are offered.** -/
theorem Transition.offered {bank : UInt8} {address : UInt32} {view : View} {phase : Phase}
    {move : Move} (listed : Transition part.patterns host bank address view phase move)
    (offered : phase.Offered part host) : move.Offered part host := by
  cases listed with
  | armBitwise scheme =>
    rw [Move.Offered, Phase.Offered, scheme]
    rfl
  | armAdditive scheme =>
    rw [Move.Offered, Phase.Offered, scheme]
    rfl
  | first _ first =>
    intro number
    rw [PartNumber.firstHits_of_number number] at first
    cases first
  | headless _ _ _ bus =>
    rintro ⟨-, inspected⟩
    rw [bus] at inspected
    cases inspected
  | recover _ _ _ _ found =>
    rintro ⟨number, -⟩
    rw [PartNumber.recover?_of_number number] at found
    cases found
  | second =>
    rintro ⟨number, -⟩
    exact offered number
  -- The other moves end a protocol, or stay within the phases of one.
  | deaf | refuse | select | pass | noSecond | noThird | fourth | selectTwiddled | noConfirm
  | selectAdded => trivial
  | _ => exact offered

/-- **An access keeps a latch attainable.** -/
theorem Latch.Attainable.step {latch : Latch} (attainable : latch.Attainable part host)
    (a : Access) : (part.patterns.step host latch a).Attainable part host where
  wellFormed := attainable.wellFormed.step part.patterns host a
  offered := by
    by_cases zero : a.pins = 0
    · rw [Patterns.step_of_pins_eq_zero zero]
      trivial
    · obtain ⟨move, listed, eq⟩ := part.patterns.exists_transition_step host latch zero
      rw [eq]
      have offered := listed.offered attainable.offered
      cases move with
      | go phase => exact offered
      | commit bank => trivial

/-! ## Runs -/

/-- **A run from power-up stays among the attainable latches.** -/
theorem Chip.attainable_run (part : PartNumber) (host : Host) (accesses : List Access) :
    ((powerUp part host).run accesses).toLatch.Attainable part host := by
  induction accesses using List.reverseRecOn with
  | nil => exact ⟨part.wellFormed_initialLatch, trivial⟩
  | append_singleton before a ih =>
    rw [toLatch_run_concat]
    exact ih.step a

/-! ## No protocol of another revision -/

/-- A phase of the first revision is offered to parts with twiddles. -/
theorem Scheme.exists_bitwise_of_revision {scheme : Scheme} (revision : scheme.revision = 1) :
    ∃ bits, scheme = .bitwise bits := by
  cases scheme with
  | bitwise bits => exact ⟨bits, rfl⟩
  | additive => cases revision

/-- …and one of the second to parts with additions. -/
theorem Scheme.exists_additive_of_revision {scheme : Scheme} (revision : scheme.revision = 2) :
    ∃ adds, scheme = .additive adds := by
  cases scheme with
  | bitwise => cases revision
  | additive adds => exact ⟨adds, rfl⟩

end Slapstic
