import Slapstic.Chip.SaveState
import Slapstic.Proofs.Chip.Transition
import Slapstic.Proofs.Part.Encoding

/-!
# Proofs/Chip/WellFormed — a chip never leaves its four banks

Well-formedness is kept by every access (`WellFormed.step`), holds at power-up, and is what a restore
checks; so a chip that began at power-up takes back its own save state at any moment
(`restore_save`).
-/

namespace Slapstic

/-! ## One move -/

/-- **A phase in range**: its pending bank is one of four, its toggle one of two. -/
def Phase.InRange (phase : Phase) : Prop :=
  (∀ bank, phase.pending? = some bank → bank ≤ 3) ∧
    ∀ toggle, phase.toggle? = some toggle → toggle = 0 ∨ toggle = 3

theorem Latch.wellFormed_iff_inRange {latch : Latch} :
    latch.WellFormed ↔ latch.bank ≤ 3 ∧ latch.phase.InRange :=
  Latch.wellFormed_iff

/-- A move to a phase in range, or to one of the four banks. -/
def Move.InRange : Move → Prop
  | go phase => phase.InRange
  | commit bank => bank ≤ 3

/-- The bank of an alternate sequence is cut down to two bits. -/
theorem AlternatePatterns.bankOf_le (steps : AlternatePatterns) (address : UInt32) :
    steps.bankOf address ≤ 3 := by
  have le : ((address >>> steps.shift.toUInt32) &&& 3).toNat ≤ 3 := by
    rw [UInt32.toNat_and]
    exact Nat.and_le_right
  rw [UInt8.le_iff_toNat_le, bankOf, UInt32.toNat_toUInt8]
  exact (Nat.mod_le _ _).trans le

theorem AlternatePatterns.recover?_le {steps : AlternatePatterns} {view : View} {bank : UInt8}
    (found : steps.recover? view = some bank) : bank ≤ 3 := by
  unfold recover? at found
  split at found
  · dsimp only at found
    split at found
    · obtain rfl := Option.some.inj found
      exact steps.bankOf_le _
    · cases found
  · cases found

theorem AdditivePatterns.add_le {adds : AdditivePatterns} {bank : UInt8} (le : bank ≤ 3)
    (address : UInt32) : adds.add bank address ≤ 3 := by
  rw [UInt8.le_iff_toNat_le, AdditivePatterns.toNat_add le]
  simp only [UInt8.reduceToNat]
  omega

/-- The number of a bank select is a bank. -/
theorem bank_ofNat_le (i : Fin 4) : UInt8.ofNat i ≤ 3 := by
  revert i
  decide

/-- **Moves stay in range.** -/
theorem Transition.inRange {patterns : Patterns} {host : Host} {bank : UInt8} {address : UInt32}
    {view : View} {phase : Phase} {move : Move}
    (listed : Transition patterns host bank address view phase move) (le : bank ≤ 3)
    (inRange : phase.InRange) : move.InRange := by
  cases listed with
  | recover _ _ _ _ found =>
    exact ⟨by simpa [Phase.pending?] using AlternatePatterns.recover?_le found,
      by simp [Phase.toggle?]⟩
  | select => exact bank_ofNat_le _
  | third =>
    exact ⟨by simpa [Phase.pending?] using AlternatePatterns.bankOf_le _ _, by simp [Phase.toggle?]⟩
  | @twiddle _ pending toggle twiddle =>
    obtain ⟨pending_le, toggle_eq⟩ := inRange
    refine ⟨?_, ?_⟩
    · simpa [Phase.pending?] using twiddle.apply_le (pending_le pending rfl)
    · rcases toggle_eq toggle rfl with rfl | rfl <;> simp [Phase.toggle?]
  | endAdding =>
    exact ⟨by simpa [Phase.pending?] using AdditivePatterns.add_le (inRange.1 _ rfl) _,
      by simp [Phase.toggle?]⟩
  | keepAdding =>
    exact ⟨by simpa [Phase.pending?] using AdditivePatterns.add_le (inRange.1 _ rfl) _,
      by simp [Phase.toggle?]⟩
  | _ => simp_all [Move.InRange, Phase.InRange, Phase.pending?, Phase.toggle?]

theorem Latch.WellFormed.after {latch : Latch} (wellFormed : latch.WellFormed) {move : Move}
    (inRange : move.InRange) : (latch.after move).WellFormed := by
  rw [wellFormed_iff_inRange]
  cases move with
  | go phase => exact ⟨wellFormed.bank_le, inRange⟩
  | commit bank => exact ⟨inRange, by simp [Phase.InRange, Phase.pending?, Phase.toggle?]⟩

theorem Latch.WellFormed.enabled {bank : UInt8} (le : bank ≤ 3) :
    Latch.WellFormed ⟨.enabled, bank⟩ :=
  Latch.wellFormed_iff_inRange.mpr
    ⟨le, by simp [Phase.InRange, Phase.pending?, Phase.toggle?]⟩

/-- **An access keeps a latch well formed.** -/
theorem Latch.WellFormed.step {latch : Latch} (wellFormed : latch.WellFormed)
    (patterns : Patterns) (host : Host) (a : Access) : (patterns.step host latch a).WellFormed := by
  by_cases zero : a.pins = 0
  · rw [Patterns.step_of_pins_eq_zero zero]
    exact .enabled wellFormed.bank_le
  · obtain ⟨move, listed, eq⟩ := patterns.exists_transition_step host latch zero
    rw [eq]
    exact wellFormed.after
      (listed.inRange wellFormed.bank_le (wellFormed_iff_inRange.mp wellFormed).2)

/-! ## Runs -/

theorem Scheme.startingBank_le (scheme : Scheme) : scheme.startingBank ≤ 3 := by
  cases scheme with
  | bitwise => exact UInt8.le_refl 3
  | additive => exact UInt8.zero_le

/-- A part powers up well formed. -/
theorem PartNumber.wellFormed_initialLatch (part : PartNumber) :
    part.initialLatch.WellFormed :=
  Latch.wellFormed_iff_inRange.mpr ⟨part.patterns.scheme.startingBank_le,
    by simp [initialLatch, Phase.InRange, Phase.pending?, Phase.toggle?]⟩

namespace Chip

theorem part_run (chip : Chip) (accesses : List Access) : (chip.run accesses).part = chip.part := by
  induction accesses generalizing chip with
  | nil => rfl
  | cons a rest ih => rw [run_cons, ih, part_access]

theorem host_run (chip : Chip) (accesses : List Access) : (chip.run accesses).host = chip.host := by
  induction accesses generalizing chip with
  | nil => rfl
  | cons a rest ih => rw [run_cons, ih, host_access]

theorem run_concat (chip : Chip) (accesses : List Access) (a : Access) :
    chip.run (accesses ++ [a]) = (chip.run accesses).access a := by
  rw [run_append, run_cons, run_nil]

/-- The latch after one access more. -/
theorem toLatch_run_concat (chip : Chip) (accesses : List Access) (a : Access) :
    (chip.run (accesses ++ [a])).toLatch =
      chip.part.patterns.step chip.host (chip.run accesses).toLatch a := by
  rw [run_concat, toLatch_access, part_run, host_run]

/-- **A run keeps a chip well formed.** -/
theorem wellFormed_run {chip : Chip} (wellFormed : chip.toLatch.WellFormed)
    (accesses : List Access) : (chip.run accesses).toLatch.WellFormed := by
  induction accesses generalizing chip with
  | nil => exact wellFormed
  | cons a rest ih => exact ih (wellFormed.step chip.part.patterns chip.host a)

/-- …and so is its latch after each access. -/
theorem wellFormed_of_mem_latches {chip : Chip} (wellFormed : chip.toLatch.WellFormed)
    {accesses : List Access} {latch : Latch} (mem : latch ∈ chip.latches accesses) :
    latch.WellFormed := by
  induction accesses generalizing chip with
  | nil => cases mem
  | cons a rest ih =>
    have next := wellFormed.step chip.part.patterns chip.host a
    rcases List.mem_cons.mp mem with rfl | later
    · exact next
    · exact ih next later

/-- **A well-formed chip's own save state goes into every chip of its part.** -/
theorem restore_save {chip other : Chip} (wellFormed : chip.toLatch.WellFormed)
    (same : other.part = chip.part) :
    other.restore chip.save = .ok { chip.toLatch with part := chip.part, host := other.host } :=
  restore_eq_ok_iff.mpr ⟨same.symm, wellFormed, by rw [same]; rfl⟩

end Chip

end Slapstic
