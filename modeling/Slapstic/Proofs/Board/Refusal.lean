import Slapstic.Proofs.Board.Effect

/-!
# Proofs/Board/Refusal — the states that a chip refuses, and what is left of them

A chip takes back a state of its own part whose banks are among the four and whose toggle is 0 or 3.
Any other state has a **first flaw**, in the order part, selected bank, pending bank, toggle, and is
refused for it (`SaveState.flaw?_eq_some_iff`).

A refusal leaves no trace: a board that is never told what it would refuse ends up the same and
answers all else as it did (`Board.performAll_heeded`).
-/

namespace Slapstic

/-! ## The first flaw -/

/-- **The first flaw of a save state** on its way into a part.  With each flaw it is said what has
to be in order before it. -/
inductive SaveState.FirstFlaw (state : SaveState) (part : PartNumber) : Flaw → Prop where
  | part (other : state.part ≠ part) : FirstFlaw state part (.wrongPart part state.part)
  | bank (own : state.part = part) (past : 3 < state.bank) :
      FirstFlaw state part (.bankOutOfRange state.bank)
  | pending {bank : UInt8} (own : state.part = part) (bank_le : state.bank ≤ 3)
      (held : state.phase.pending? = some bank) (past : 3 < bank) :
      FirstFlaw state part (.bankOutOfRange bank)
  | toggle {bank toggle : UInt8} (own : state.part = part) (bank_le : state.bank ≤ 3)
      (held : state.phase = .bitwise2 bank toggle) (pending_le : bank ≤ 3)
      (neither : ¬ (toggle = 0 ∨ toggle = 3)) : FirstFlaw state part (.badToggle toggle)

/-- A phase with a toggle is one that twiddles. -/
theorem Phase.toggle?_eq_some_iff {phase : Phase} {toggle : UInt8} :
    phase.toggle? = some toggle ↔ ∃ bank, phase = .bitwise2 bank toggle := by
  cases phase <;> simp [toggle?]

namespace SaveState

variable {state : SaveState} {part : PartNumber} {flaw : Flaw}

theorem bankFlaw?_eq_some_iff {bank : UInt8} :
    bankFlaw? bank = some flaw ↔ 3 < bank ∧ .bankOutOfRange bank = flaw := by
  simp [bankFlaw?]

theorem toggleFlaw?_eq_some_iff {toggle : UInt8} :
    toggleFlaw? toggle = some flaw ↔ ¬ (toggle = 0 ∨ toggle = 3) ∧ .badToggle toggle = flaw := by
  simp only [toggleFlaw?, Option.ite_none_left_eq_some, Option.some.injEq]

/-- **The flaw that is found is the first.** -/
theorem flaw?_eq_some_iff : state.flaw? part = some flaw ↔ state.FirstFlaw part flaw := by
  simp only [flaw?, Option.or_eq_some_iff, Option.or_eq_none_iff, Option.bind_eq_some_iff,
    Option.bind_eq_none_iff, Option.ite_none_left_eq_some, Option.some.injEq, ite_eq_left_iff,
    reduceCtorEq, imp_false, Decidable.not_not, bankFlaw?_eq_some_iff, bankFlaw?_eq_none_iff,
    toggleFlaw?_eq_some_iff]
  constructor
  · rintro (((⟨other, rfl⟩ | ⟨own, past, rfl⟩) | ⟨⟨own, bank_le⟩, bank, held, past, rfl⟩) |
      ⟨⟨⟨own, bank_le⟩, pending_le⟩, toggle, held, neither, rfl⟩)
    · exact .part other
    · exact .bank own past
    · exact .pending own bank_le held past
    · obtain ⟨bank, held⟩ := Phase.toggle?_eq_some_iff.mp held
      exact .toggle own bank_le held (pending_le bank (by rw [held]; rfl)) neither
  · intro first
    cases first with
    | part other => exact .inl (.inl (.inl ⟨other, rfl⟩))
    | bank own past => exact .inl (.inl (.inr ⟨own, past, rfl⟩))
    | pending own bank_le held past => exact .inl (.inr ⟨⟨own, bank_le⟩, _, held, past, rfl⟩)
    | toggle own bank_le held pending_le neither =>
      refine .inr ⟨⟨⟨own, bank_le⟩, fun bank pending => ?_⟩, _, ?_, neither, rfl⟩
      · rw [held] at pending
        cases pending
        exact pending_le
      · rw [held]
        rfl

end SaveState

namespace Chip

variable {chip next : Chip} {state : SaveState}

/-- **A state that is taken back is the chip's own from then on.** -/
theorem save_of_restore (restored : chip.restore state = .ok next) :
    next.save = state ∧ next.host = chip.host := by
  obtain ⟨own, -, rfl⟩ := restore_eq_ok_iff.mp restored
  refine ⟨?_, rfl⟩
  cases state
  cases own
  rfl

/-- **The states that a chip takes back**: of its own part, no bank past the last, and no toggle but
0 and 3. -/
theorem exists_restore_iff : (∃ next, chip.restore state = .ok next) ↔
    state.part = chip.part ∧ state.bank ≤ 3 ∧
      (∀ bank, state.phase.pending? = some bank → bank ≤ 3) ∧
      ∀ bank toggle, state.phase = .bitwise2 bank toggle → toggle = 0 ∨ toggle = 3 := by
  rw [exists_restore_eq_ok_iff, Latch.wellFormed_iff]
  simp only [Phase.toggle?_eq_some_iff, forall_exists_index]
  rw [forall_comm]

end Chip

/-! ## Without the refusals -/

/-- A reply tells of a refusal. -/
def Reply.isRefusal : Reply → Bool
  | .restored (some _) _ => true
  | _ => false

namespace Board

/-- **A board refuses a command** if it brings back a state that the chip does not take. -/
def refuses (board : Board) : Command → Bool
  | .restore state => !(board.chip.restore state).isOk
  | .recall slot => (board.slots.lookup slot).any fun state => !(board.chip.restore state).isOk
  | _ => false

/-- **The commands that a board heeds**, each at its turn: all but those that it refuses. -/
def heeded (board : Board) : List Command → List Command
  | [] => []
  | command :: rest =>
    if board.refuses command then (board.perform command).1.heeded rest
    else command :: (board.perform command).1.heeded rest

/-- A state that is refused stays outside, and the reply says so. -/
theorem isRefusal_restore (board : Board) (state : SaveState) :
    (board.restore state).2.isRefusal = !(board.chip.restore state).isOk := by
  unfold Board.restore
  cases board.chip.restore state <;> rfl

theorem restore_of_refused {board : Board} {state : SaveState}
    (refused : (!(board.chip.restore state).isOk) = true) : (board.restore state).1 = board := by
  unfold Board.restore
  cases restored : board.chip.restore state with
  | ok next => simp [restored, Except.isOk, Except.toBool] at refused
  | error flaw => rfl

/-- **The replies to refused commands**, and to no others, tell of a refusal. -/
theorem isRefusal_perform (board : Board) (command : Command) :
    (board.perform command).2.isRefusal = board.refuses command := by
  match command with
  | .access _ | .run _ | .reset | .inspect | .trace _ | .enter _ _ _ | .save _ | .swap _ => rfl
  | .restore state => exact board.isRefusal_restore state
  | .recall slot =>
    dsimp only [perform, refuses]
    cases board.slots.lookup slot with
    | none => rfl
    | some state => exact board.isRefusal_restore state
  | .readByte _ _ | .readWord _ _ | .peekByte _ _ | .peekWord _ _ =>
    dsimp only [perform, refuses]
    cases board.rom <;> rfl

/-- **A refused command leaves the board as it was**: chip, ROM, saved states and journal. -/
theorem perform_of_refuses {board : Board} {command : Command}
    (refused : board.refuses command = true) : (board.perform command).1 = board := by
  match command with
  | .restore state => exact restore_of_refused refused
  | .recall slot =>
    dsimp only [perform, refuses] at refused ⊢
    cases found : board.slots.lookup slot with
    | none => rfl
    | some state =>
      rw [found] at refused
      exact restore_of_refused refused

theorem performAll_cons (board : Board) (command : Command) (rest : List Command) :
    board.performAll (command :: rest) = (((board.perform command).1.performAll rest).1,
      (board.perform command).2 :: ((board.perform command).1.performAll rest).2) := rfl

/-- **Refused commands might as well not have been given**: the board ends up the same, and the
replies are the same but for the refusals. -/
theorem performAll_heeded (board : Board) (commands : List Command) :
    board.performAll (board.heeded commands) =
      ((board.performAll commands).1,
        (board.performAll commands).2.filter fun reply => !reply.isRefusal) := by
  induction commands generalizing board with
  | nil => rfl
  | cons command rest ih =>
    have reply := board.isRefusal_perform command
    rw [performAll_cons]
    by_cases refused : board.refuses command = true
    · -- The board that goes on is the same one, and its first reply is filtered out.
      rw [heeded, if_pos refused, List.filter_cons_of_neg (by simp [reply, refused]), ← ih,
        perform_of_refuses refused]
    · rw [heeded, if_neg refused, List.filter_cons_of_pos (by simp [reply, refused]),
        performAll_cons, ih]

/-- **Refusals are exact and leave no trace.**  A chip takes back the states of its own part whose
banks are among the four and whose toggle, while they twiddle, is 0 or 3; it is then on its old host
what the state says, and saves the same state again.  It refuses any other for the first of its
flaws.  On a board with any past, the commands that it refuses may be left out: all others are
answered as they were, by the same banks, phases and outcomes, and the board ends up the same. -/
theorem refusals_vanish :
    (∀ (chip : Chip) (state : SaveState),
      ((∃ next, chip.restore state = .ok next) ↔
        state.part = chip.part ∧ state.bank ≤ 3 ∧
          (∀ bank, state.phase.pending? = some bank → bank ≤ 3) ∧
          ∀ bank toggle, state.phase = .bitwise2 bank toggle → toggle = 0 ∨ toggle = 3) ∧
      (∀ next, chip.restore state = .ok next →
        next.toLatch = state.toLatch ∧ next.save = state ∧ next.host = chip.host) ∧
      ∀ flaw, chip.restore state = .error flaw ↔ state.FirstFlaw chip.part flaw) ∧
    ∀ (board : Board) (commands : List Command),
      board.performAll (board.heeded commands) =
        ((board.performAll commands).1,
          (board.performAll commands).2.filter fun reply => !reply.isRefusal) := by
  refine ⟨fun chip state => ⟨Chip.exists_restore_iff, fun next restored => ?_, fun flaw => ?_⟩,
    performAll_heeded⟩
  · obtain ⟨save, host⟩ := Chip.save_of_restore restored
    exact ⟨congrArg SaveState.toLatch save, save, host⟩
  · rw [Chip.restore_eq_error_iff, SaveState.flaw?_eq_some_iff]

/-- Two refused states between two accesses: one with every flaw there is, refused for the first of
them, and one with the last alone. -/
theorem refusals_vanish_between_accesses :
    let part : PartNumber := ⟨104, by decide⟩
    let other : PartNumber := ⟨105, by decide⟩
    let board := ofSetup ⟨part, .t11⟩ none
    let spoilt : SaveState := ⟨⟨.bitwise2 9 1, 200⟩, other⟩
    let nearly : SaveState := ⟨⟨.bitwise2 2 1, 3⟩, part⟩
    let zero : Command := .access ⟨0, .silent⟩
    let select : Command := .access ⟨0x0030, .silent⟩
    spoilt.FirstFlaw part (.wrongPart part other) ∧ nearly.FirstFlaw part (.badToggle 1) ∧
      board.heeded [zero, .restore spoilt, .restore nearly, select] = [zero, select] ∧
      (board.performAll [zero, select]).2 =
        (board.performAll [zero, .restore spoilt, .restore nearly, select]).2.filter
          fun reply => !reply.isRefusal := by
  intro part other board spoilt nearly zero select
  have heeded : board.heeded [zero, .restore spoilt, .restore nearly, select] = [zero, select] :=
    rfl
  obtain ⟨exact_states, vanish⟩ := refusals_vanish
  refine ⟨((exact_states board.chip spoilt).2.2 _).mp rfl,
    ((exact_states board.chip nearly).2.2 _).mp rfl, heeded, ?_⟩
  rw [← heeded, vanish]

end Board

end Slapstic
