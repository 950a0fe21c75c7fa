import Slapstic.Board.Command
import Slapstic.Proofs.Chip.WellFormed

/-!
# Proofs/Board/Effect — what becomes of the chip on a board

A board's commands are many and their effects on the chip are few: it makes accesses, goes back to
power-up, takes back a checked latch, or is swapped for another.  `Effect` lists them and
`effect_perform` says that the list is complete, so what they all keep, every list of commands
keeps (`performAll_induction`).

A reply shows the chip only as it is after the command, or on the way (`mem_shown`).
-/

namespace Slapstic

namespace Command

/-- A command brings back a state. -/
def loads : Command → Bool
  | .recall _ | .restore _ => true
  | _ => false

/-- A command puts in a new chip. -/
def swaps : Command → Bool
  | .swap _ => true
  | _ => false

end Command

/-- **What a command can do to the chip.** -/
inductive Effect (chip : Chip) (command : Command) : Chip → Prop where
  /-- It makes accesses, or none. -/
  | runs (accesses : List Access) : Effect chip command (chip.run accesses)
  | resets : Effect chip command chip.reset
  | loads {latch : Latch} (loads : command.loads = true) (wellFormed : latch.WellFormed) :
      Effect chip command { latch with part := chip.part, host := chip.host }
  | swaps (setup : Setup) (swaps : command.swaps = true) : Effect chip command setup.chip

namespace Effect

variable {chip next : Chip} {command : Command}

/-- The chip may stay as it is. -/
theorem stays : Effect chip command chip := runs []

theorem access (a : Access) : Effect chip command (chip.access a) := runs [a]

/-- **Only a swap takes the chip out of its socket.** -/
theorem part_host_eq (effect : Effect chip command next) (kept : command.swaps = false) :
    next.part = chip.part ∧ next.host = chip.host := by
  cases effect with
  | runs accesses => exact ⟨chip.part_run accesses, chip.host_run accesses⟩
  | resets => exact ⟨rfl, rfl⟩
  | loads => exact ⟨rfl, rfl⟩
  | swaps setup swaps => exact absurd (kept.symm.trans swaps) Bool.false_ne_true

/-- **No command spoils the chip's latch.** -/
theorem wellFormed (effect : Effect chip command next) (wellFormed : chip.toLatch.WellFormed) :
    next.toLatch.WellFormed := by
  cases effect with
  | runs accesses => exact Chip.wellFormed_run wellFormed accesses
  | resets => exact chip.part.wellFormed_initialLatch
  | loads _ checked => exact checked
  | swaps setup => exact setup.part.wellFormed_initialLatch

end Effect

namespace Board

/-! ## One command -/

/-- Bringing back a state leaves the chip as it was, or in a checked latch. -/
theorem effect_restore (board : Board) (state : SaveState) {command : Command}
    (loads : command.loads = true) : Effect board.chip command (board.restore state).1.chip := by
  unfold Board.restore
  split
  next accepted =>
    obtain ⟨-, wellFormed, rfl⟩ := Chip.restore_eq_ok_iff.mp accepted
    exact .loads loads wellFormed
  next => exact .stays

/-- **Every command has a listed effect.** -/
theorem effect_perform (board : Board) (command : Command) :
    Effect board.chip command (board.perform command).1.chip := by
  match command with
  | .access a => exact .access a
  | .run accesses => exact .runs accesses
  | .reset => exact .resets
  | .inspect | .trace _ | .enter _ _ _ | .save _ => exact .stays
  | .recall slot =>
    dsimp only [perform]
    split
    next => exact board.effect_restore _ rfl
    next => exact .stays
  | .restore state => exact board.effect_restore state rfl
  | .swap setup => exact .swaps setup rfl
  | .readByte offset view | .readWord offset view =>
    dsimp only [perform]
    split
    next => exact .access _
    next => exact .stays
  | .peekByte _ _ | .peekWord _ _ =>
    dsimp only [perform]
    split <;> exact .stays

/-! ## Lists of commands -/

/-- **What every effect keeps, a list of commands keeps.** -/
theorem performAll_induction {P : Chip → Prop} {board : Board} {commands : List Command}
    (start : P board.chip)
    (step : ∀ command ∈ commands, ∀ chip next, Effect chip command next → P chip → P next) :
    P (board.performAll commands).1.chip := by
  induction commands generalizing board with
  | nil => exact start
  | cons first rest ih =>
    have next := step first List.mem_cons_self _ _ (board.effect_perform first) start
    exact ih next fun command mem => step command (List.mem_cons_of_mem _ mem)

/-- Without a swap the board keeps its part and its host. -/
theorem part_host_performAll (board : Board) {commands : List Command}
    (kept : ∀ command ∈ commands, command.swaps = false) :
    (board.performAll commands).1.chip.part = board.chip.part ∧
      (board.performAll commands).1.chip.host = board.chip.host := by
  refine performAll_induction (P := fun chip => chip.part = board.chip.part ∧
    chip.host = board.chip.host) ⟨rfl, rfl⟩ fun command mem chip next effect same => ?_
  obtain ⟨part_eq, host_eq⟩ := effect.part_host_eq (kept command mem)
  exact ⟨part_eq.trans same.1, host_eq.trans same.2⟩

/-- Every reply answers one of the commands, on the board that those before it have left. -/
theorem exists_of_mem_replies {board : Board} {commands : List Command} {reply : Reply}
    (mem : reply ∈ (board.performAll commands).2) :
    ∃ before command after, commands = before ++ command :: after ∧
      reply = ((board.performAll before).1.perform command).2 := by
  induction commands generalizing board with
  | nil => cases mem
  | cons first rest ih =>
    rcases List.mem_cons.mp mem with rfl | later
    · exact ⟨[], first, rest, rfl, rfl⟩
    · obtain ⟨before, command, after, rfl, eq⟩ := ih later
      exact ⟨first :: before, command, after, rfl, eq⟩

end Board

/-! ## What a reply shows -/

/-- **The latches that a reply shows.** -/
def Reply.shown : Reply → List Latch
  | .latch after => [after]
  | .latches after => after
  | .chip now => [now.toLatch]
  | .trace line => [line.toLatch]
  | .saved state => [state.toLatch]
  | .restored _ now => [now.toLatch]
  | .read _ after => [after]
  | .peeked _ | .missing => []

/-- Bringing back a state shows the chip as it then is. -/
theorem Board.shown_restore (board : Board) (state : SaveState) :
    (board.restore state).2.shown = [(board.restore state).1.chip.toLatch] := by
  unfold Board.restore
  split <;> rfl

/-- **A reply shows the chip's latch after the command**, or the latches of the accesses made. -/
theorem Board.mem_shown {board : Board} {command : Command} {latch : Latch}
    (shown : latch ∈ (board.perform command).2.shown) :
    latch = (board.perform command).1.chip.toLatch ∨
      ∃ accesses, latch ∈ board.chip.latches accesses := by
  match command with
  | .access _ | .reset | .inspect | .trace _ | .enter _ _ _ | .save _ | .swap _ =>
    exact .inl (List.mem_singleton.mp shown)
  | .run accesses => exact .inr ⟨accesses, shown⟩
  | .restore state =>
    refine .inl (List.mem_singleton.mp ?_)
    rw [perform, shown_restore] at shown
    exact shown
  | .recall slot =>
    dsimp only [perform] at shown ⊢
    split at shown
    next =>
      rw [shown_restore] at shown
      exact .inl (List.mem_singleton.mp shown)
    next => cases shown
  | .readByte _ _ | .readWord _ _ =>
    dsimp only [perform] at shown ⊢
    split at shown
    next => exact .inl (List.mem_singleton.mp shown)
    next => cases shown
  | .peekByte _ _ | .peekWord _ _ =>
    dsimp only [perform] at shown
    split at shown <;> cases shown

end Slapstic
