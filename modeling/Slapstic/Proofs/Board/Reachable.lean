import Slapstic.Proofs.Board.Effect
import Slapstic.Proofs.Chip.Reachable

/-!
# Proofs/Board/Reachable — the exact set of latches on a board

A board that never brings back a state leaves its chip among the latches that accesses alone reach:
a reset adds none, and neither do reads or looks (`inReach_performAll`).  These are the attainable
latches, all of them and no others; among them no chip twiddles or adds without the patterns for it
(`reachable_exact`).
-/

namespace Slapstic

/-- **A chip in reach**: some run from power-up makes it what it is. -/
def Chip.InReach (chip : Chip) : Prop := Reachable chip.part chip.host chip.toLatch

namespace Chip.InReach

theorem powerUp (part : PartNumber) (host : Host) : (Chip.powerUp part host).InReach := ⟨[], rfl⟩

/-- A run leads on from a chip in reach. -/
theorem run {chip : Chip} (inReach : chip.InReach) (accesses : List Access) :
    (chip.run accesses).InReach := by
  rw [InReach, part_run, host_run]
  induction accesses using List.reverseRecOn with
  | nil => exact inReach
  | append_singleton before a ih =>
    rw [toLatch_run_concat]
    exact ih.step a

end Chip.InReach

/-- **Only bringing back a state takes a chip out of reach.** -/
theorem Effect.inReach {chip next : Chip} {command : Command} (effect : Effect chip command next)
    (loads : command.loads = false) (inReach : chip.InReach) : next.InReach := by
  cases effect with
  | runs accesses => exact inReach.run accesses
  | resets => exact .powerUp chip.part chip.host
  | loads loads' => exact absurd (loads.symm.trans loads') Bool.false_ne_true
  | swaps setup => exact .powerUp setup.part setup.host

namespace Board

/-- **Commands that bring back no state leave the chip in reach.** -/
theorem inReach_performAll {board : Board} {commands : List Command} (inReach : board.chip.InReach)
    (loads : ∀ command ∈ commands, command.loads = false) :
    (board.performAll commands).1.chip.InReach :=
  performAll_induction inReach fun command mem _ _ effect => effect.inReach (loads command mem)

/-- **The exact set of latches.**  What accesses reach from power-up are the attainable latches;
resets, and all commands but those that bring back a state or swap the chip, add none; and a chip
that twiddles or adds is of a revision with the patterns for it. -/
theorem reachable_exact (part : PartNumber) (host : Host) :
    (∀ latch, Reachable part host latch ↔ latch.Attainable part host) ∧
      (∀ (rom : Option Image) (commands : List Command),
        (∀ command ∈ commands, command.loads = false ∧ command.swaps = false) →
          Reachable part host ((ofSetup ⟨part, host⟩ rom).performAll commands).1.chip.toLatch) ∧
      ∀ latch, Reachable part host latch →
        (∀ pending toggle, latch.phase = .bitwise2 pending toggle →
          ∃ bits, part.patterns.scheme = .bitwise bits) ∧
        ∀ pending, latch.phase = .additive2 pending →
          ∃ adds, part.patterns.scheme = .additive adds := by
  refine ⟨fun latch => reachable_iff, ?_, ?_⟩
  · intro rom commands quiet
    let board := ofSetup ⟨part, host⟩ rom
    have start : board.chip.InReach := .powerUp part host
    have inReach := inReach_performAll start fun command mem => (quiet command mem).1
    obtain ⟨part_eq, host_eq⟩ := board.part_host_performAll fun command mem =>
      (quiet command mem).2
    rwa [Chip.InReach, part_eq, host_eq] at inReach
  · intro latch reachable
    have offered := (reachable_iff.mp reachable).offered
    refine ⟨?_, ?_⟩
    · intro pending toggle phase
      rw [phase] at offered
      exact Scheme.exists_bitwise_of_revision offered
    · intro pending phase
      rw [phase] at offered
      exact Scheme.exists_additive_of_revision offered

end Board

end Slapstic
