import Slapstic.Proofs.Chip.Attainable
import Slapstic.Proofs.Chip.Drive

/-!
# Proofs/Chip/Reachable — every attainable latch is reached

A latch is **reachable** if some run from power-up ends in it.  Reachable latches are closed under
accesses (`Reachable.step`), so one is reached from another by an address that makes a listed move
(`Reachable.drive`).  From power-up this leads to every bank, and from there through each protocol
to every phase that the part has: the reachable latches are the attainable ones
(`reachable_iff`).
-/

namespace Slapstic

/-- **A latch is reachable** if a run from power-up ends in it. -/
def Reachable (part : PartNumber) (host : Host) (latch : Latch) : Prop :=
  ∃ accesses, ((Chip.powerUp part host).run accesses).toLatch = latch

variable {part : PartNumber} {host : Host} {bank pending toggle : UInt8}

/-! ## One access more -/

namespace Reachable

theorem start : Reachable part host part.initialLatch := ⟨[], rfl⟩

/-- **An access leads on.** -/
theorem step {latch : Latch} (reachable : Reachable part host latch) (a : Access) :
    Reachable part host (part.patterns.step host latch a) := by
  obtain ⟨accesses, rfl⟩ := reachable
  exact ⟨accesses ++ [a], Chip.toLatch_run_concat _ accesses a⟩

/-- From everywhere the chip can be enabled. -/
theorem enable {latch : Latch} (reachable : Reachable part host latch) :
    Reachable part host ⟨.enabled, latch.bank⟩ := by
  have zero : (⟨0, .silent⟩ : Access).pins = 0 := rfl
  rw [← Patterns.step_of_pins_eq_zero zero]
  exact reachable.step ⟨0, .silent⟩

/-- **An address that makes a move leads to where the move goes.** -/
theorem drive {phase : Phase} {address : UInt32} {move : Move}
    (reachable : Reachable part host ⟨phase, bank⟩) (wired : Wired address)
    (listed : Transition part.patterns host bank address .silent phase move) :
    Reachable part host (Latch.after ⟨phase, bank⟩ move) := by
  have pins_eq : (⟨address, .silent⟩ : Access).pins = address := wired.2
  have next := reachable.step ⟨address, .silent⟩
  rwa [Patterns.step_eq_of_transition (pins_eq.symm ▸ wired.1) (pins_eq.symm ▸ listed)] at next

end Reachable

/-! ## Idle phases -/

/-- A bank select reaches its bank. -/
theorem reachable_disabled (le : bank ≤ 3) : Reachable part host ⟨.disabled, bank⟩ := by
  obtain ⟨i, rfl⟩ := exists_bank_of_le le
  obtain ⟨wired, arm, first, second, select⟩ := part.drivable.1.select i
  exact Reachable.start.enable.drive wired (.select arm first second select)

theorem reachable_enabled (le : bank ≤ 3) : Reachable part host ⟨.enabled, bank⟩ :=
  (reachable_disabled le).enable

/-! ## The alternate sequence -/

theorem reachable_alternate1 (known : part.number ≠ 101) (le : bank ≤ 3) :
    Reachable part host ⟨.alternate1, bank⟩ := by
  obtain ⟨first, eq⟩ := Option.ne_none_iff_exists'.mp (mt part.first_eq_none_iff.mp known)
  obtain ⟨wired, arm⟩ := part.drivable.1.first first eq
  have hit : part.patterns.alternate.firstHits first.value.toUInt32 = true := by
    rw [AlternatePatterns.firstHits, eq]
    exact first.hits_value
  exact (reachable_enabled le).drive wired (.first arm hit)

/-- The second step is reached by the first, or without it off the bus. -/
theorem reachable_alternate2 (seen : ¬ (part.number = 101 ∧ host.inspected = true))
    (le : bank ≤ 3) : Reachable part host ⟨.alternate2, bank⟩ := by
  obtain ⟨wired, arm⟩ := part.drivable.1.second
  have second := part.patterns.alternate.second.hits_value
  by_cases number : part.number = 101
  · have bus : host.inspected = false := by
      rw [← Bool.not_eq_true]
      exact fun inspected => seen ⟨number, inspected⟩
    have first := PartNumber.firstHits_of_number number
    exact (reachable_enabled le).drive wired (.headless arm (first _) second bus)
  · exact (reachable_alternate1 number le).drive wired (.second second)

theorem reachable_alternate3 (seen : ¬ (part.number = 101 ∧ host.inspected = true))
    (le : bank ≤ 3) (pending_le : pending ≤ 3) :
    Reachable part host ⟨.alternate3 pending, bank⟩ := by
  obtain ⟨i, rfl⟩ := exists_bank_of_le pending_le
  obtain ⟨wired, third, bankOf_eq⟩ := part.drivable.1.third i
  have next := (reachable_alternate2 seen le).drive wired (.third third)
  rwa [bankOf_eq] at next

/-! ## Bit twiddling -/

section Bitwise

variable {bits : BitwisePatterns} (scheme : part.patterns.scheme = .bitwise bits)

include scheme

theorem reachable_bitwise1 (le : bank ≤ 3) : Reachable part host ⟨.bitwise1, bank⟩ := by
  have drivable := PartNumber.drivable_bitwise scheme
  exact (reachable_enabled le).drive drivable.arm (.armBitwise scheme bits.arm.hits_value)

/-- **Under either toggle every twiddle can be made.** -/
theorem Reachable.twiddle (reachable : Reachable part host ⟨.bitwise2 pending toggle, bank⟩)
    (known : toggle = 0 ∨ toggle = 3) (twiddle : Twiddle) :
    Reachable part host ⟨.bitwise2 (twiddle.apply pending) (toggle ^^^ 3), bank⟩ := by
  have drivable := PartNumber.drivable_bitwise scheme
  obtain ⟨wired, hit⟩ := drivable.twiddle toggle known twiddle
  exact reachable.drive wired (.twiddle scheme hit)

/-- Two twiddles reach every pending bank, and a third one the other toggle. -/
theorem reachable_bitwise2 (le : bank ≤ 3) (pending_le : pending ≤ 3)
    (known : toggle = 0 ∨ toggle = 3) :
    Reachable part host ⟨.bitwise2 pending toggle, bank⟩ := by
  obtain ⟨wired, -, -, -, select⟩ := part.drivable.1.select 0
  have begun : Reachable part host ⟨.bitwise2 bank 0, bank⟩ := by
    refine (reachable_bitwise1 scheme le).drive wired (.beginTwiddling ?_)
    rw [Patterns.selects, select]
    rfl
  -- A twiddle flips the toggle, so it takes two to get the pending bank and the toggle right.
  have even : Reachable part host ⟨.bitwise2 pending 0, bank⟩ := by
    have low := begun.twiddle scheme (.inl rfl) (.low pending)
    have high := low.twiddle scheme (.inr rfl) (.high pending)
    rwa [Twiddle.apply_high_low pending_le le] at high
  rcases known with rfl | rfl
  · exact even
  · have odd := even.twiddle scheme (.inl rfl) (.low pending)
    rwa [Twiddle.apply_low_self pending_le] at odd

theorem reachable_bitwise3 (le : bank ≤ 3) (pending_le : pending ≤ 3) :
    Reachable part host ⟨.bitwise3 pending, bank⟩ := by
  have drivable := PartNumber.drivable_bitwise scheme
  have block := BitwisePatterns.inBlock_of_scheme scheme
  have escape := bits.escape.hits_value
  have miss : bits.arm.hits bits.escape.value.toUInt32 = false :=
    block.escape_apart.symm.not_hits escape
  have twiddling : Reachable part host ⟨.bitwise2 pending (BitwisePatterns.flip 0), bank⟩ :=
    reachable_bitwise2 scheme le pending_le (.inl rfl)
  exact twiddling.drive drivable.escape (.endTwiddling scheme
    (block.twiddle?_flip_eq_none_iff.mpr miss) escape)

end Bitwise

/-! ## Addition -/

section Additive

variable {adds : AdditivePatterns} (scheme : part.patterns.scheme = .additive adds)

include scheme

theorem reachable_additive1 (le : bank ≤ 3) : Reachable part host ⟨.additive1, bank⟩ := by
  have drivable := PartNumber.drivable_additive scheme
  exact (reachable_enabled le).drive drivable.arm (.armAdditive scheme adds.arm.hits_value)

/-- The addition that does not escape can be made again and again. -/
theorem Reachable.iterate_plus1 (reachable : Reachable part host ⟨.additive2 pending, bank⟩)
    (n : Nat) :
    Reachable part host ⟨.additive2 ((adds.add · adds.plus1.filled)^[n] pending), bank⟩ := by
  obtain ⟨wired, escape⟩ := (PartNumber.drivable_additive scheme).plus1
  induction n with
  | zero => exact reachable
  | succ n ih =>
    rw [Function.iterate_succ_apply']
    exact ih.drive wired (.keepAdding scheme escape)

/-- **Additions reach every pending bank.** -/
theorem reachable_additive2 (le : bank ≤ 3) (pending_le : pending ≤ 3) :
    Reachable part host ⟨.additive2 pending, bank⟩ := by
  have drivable := PartNumber.drivable_additive scheme
  have confirm := adds.confirm.hits_value
  have begun : Reachable part host ⟨.additive2 bank, bank⟩ :=
    (reachable_additive1 scheme le).drive drivable.confirm (.confirm scheme confirm)
  obtain ⟨i, rfl⟩ := exists_bank_of_le le
  obtain ⟨j, rfl⟩ := exists_bank_of_le pending_le
  obtain ⟨n, orbit⟩ := drivable.orbit i j
  have next := begun.iterate_plus1 scheme n
  rwa [orbit] at next

theorem reachable_additive3 (le : bank ≤ 3) (pending_le : pending ≤ 3) :
    Reachable part host ⟨.additive3 pending, bank⟩ := by
  have drivable := PartNumber.drivable_additive scheme
  obtain ⟨i, rfl⟩ := exists_bank_of_le pending_le
  obtain ⟨j, add_eq⟩ := drivable.ends i
  have adding : Reachable part host ⟨.additive2 (UInt8.ofNat j), bank⟩ :=
    reachable_additive2 scheme le (bank_ofNat_le j)
  have next := adding.drive drivable.escape (.endAdding scheme adds.escape.hits_value)
  rwa [add_eq] at next

end Additive

/-! ## The exact set -/

/-- **Every attainable latch is reached.** -/
theorem Latch.Attainable.reachable {latch : Latch} (attainable : latch.Attainable part host) :
    Reachable part host latch := by
  obtain ⟨phase, bank⟩ := latch
  obtain ⟨⟨le, pending_le, toggle_eq⟩, offered⟩ := attainable
  cases phase with
  | disabled => exact reachable_disabled le
  | enabled => exact reachable_enabled le
  | alternate1 => exact reachable_alternate1 offered le
  | alternate2 => exact reachable_alternate2 offered le
  | alternate3 pending => exact reachable_alternate3 offered le (pending_le pending rfl)
  | bitwise1 =>
    obtain ⟨bits, scheme⟩ := Scheme.exists_bitwise_of_revision offered
    exact reachable_bitwise1 scheme le
  | bitwise2 pending toggle =>
    obtain ⟨bits, scheme⟩ := Scheme.exists_bitwise_of_revision offered
    exact reachable_bitwise2 scheme le (pending_le pending rfl) (toggle_eq toggle rfl)
  | bitwise3 pending =>
    obtain ⟨bits, scheme⟩ := Scheme.exists_bitwise_of_revision offered
    exact reachable_bitwise3 scheme le (pending_le pending rfl)
  | additive1 =>
    obtain ⟨adds, scheme⟩ := Scheme.exists_additive_of_revision offered
    exact reachable_additive1 scheme le
  | additive2 pending =>
    obtain ⟨adds, scheme⟩ := Scheme.exists_additive_of_revision offered
    exact reachable_additive2 scheme le (pending_le pending rfl)
  | additive3 pending =>
    obtain ⟨adds, scheme⟩ := Scheme.exists_additive_of_revision offered
    exact reachable_additive3 scheme le (pending_le pending rfl)

/-- **The reachable latches are the attainable ones.** -/
theorem reachable_iff {latch : Latch} :
    Reachable part host latch ↔ latch.Attainable part host := by
  refine ⟨?_, Latch.Attainable.reachable⟩
  rintro ⟨accesses, rfl⟩
  exact Chip.attainable_run part host accesses

end Slapstic
