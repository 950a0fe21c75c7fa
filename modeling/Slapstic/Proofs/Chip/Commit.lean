import Slapstic.Proofs.Chip.WellFormed
import Slapstic.Proofs.Chip.Word

/-!
# Proofs/Chip/Commit — a chip only ever changes its bank at the end of a protocol word

An access **commits** if it disables a chip that was not disabled.  Nothing else moves the bank
(`bank_access_of_not_commits`), and every chip that is not disabled is `Underway` since its last
access to zero: after an idle stretch that ends with the chip enabled, it has a word begun
(`exists_underway`).  So a commit completes a protocol word (`commit_sound`).
-/

namespace Slapstic

/-- A commit leaves a phase that is not disabled. -/
theorem Transition.ne_disabled_of_commit {patterns : Patterns} {host : Host} {held : UInt8}
    {address : UInt32} {view : View} {phase : Phase} {bank : UInt8}
    (listed : Transition patterns host held address view phase (.commit bank)) :
    phase ≠ .disabled := by
  cases listed <;> simp

namespace Chip

/-- **An access commits** if it disables a chip that was not disabled. -/
def Commits (chip : Chip) (a : Access) : Prop :=
  chip.phase ≠ .disabled ∧ (chip.access a).phase = .disabled

theorem toLatch_access_of_zero (chip : Chip) {a : Access} (zero : a.pins = 0) :
    (chip.access a).toLatch = ⟨.enabled, chip.bank⟩ :=
  Patterns.step_of_pins_eq_zero zero

/-- Off zero, an access makes a listed move. -/
theorem exists_transition_access (chip : Chip) {a : Access} (nonzero : a.pins ≠ 0) :
    ∃ move, Transition chip.part.patterns chip.host chip.bank a.pins a.view chip.phase move ∧
      (chip.access a).toLatch = chip.toLatch.after move :=
  Patterns.exists_transition_step chip.part.patterns chip.host chip.toLatch nonzero

/-- A disabled chip is deaf to all but zero. -/
theorem phase_access_of_disabled {chip : Chip} {a : Access} (disabled : chip.phase = .disabled)
    (nonzero : a.pins ≠ 0) : (chip.access a).phase = .disabled := by
  obtain ⟨move, listed, eq⟩ := chip.exists_transition_access nonzero
  rw [disabled] at listed
  cases listed
  rw [eq, Latch.after_go]

/-- **Without a commit the bank stays.** -/
theorem bank_access_of_not_commits {chip : Chip} {a : Access} (not_commits : ¬ chip.Commits a) :
    (chip.access a).bank = chip.bank := by
  by_cases zero : a.pins = 0
  · rw [toLatch_access_of_zero chip zero]
  · obtain ⟨move, listed, eq⟩ := chip.exists_transition_access zero
    cases move with
    | go phase => rw [eq, Latch.after_go]
    | commit bank =>
      refine absurd ⟨listed.ne_disabled_of_commit, ?_⟩ not_commits
      rw [eq, Latch.after_commit]

/-! ## What a chip has been doing since zero -/

/-- **A chip under way**: the accesses that it saw after zero are an idle stretch, which left it
enabled, and a word begun.  It was disabled at no moment and has kept its bank. -/
structure Underway (chip : Chip) (idle word : List Access) : Prop where
  nonzero : ∀ a ∈ idle ++ word, a.pins ≠ 0
  active : ∀ first, first <+: idle ++ word → (chip.run first).phase ≠ .disabled
  enabled : (chip.run idle).phase = .enabled
  held : (chip.run idle).bank = (chip.run (idle ++ word)).bank
  begun : Begun chip.part.patterns chip.host (chip.run (idle ++ word)).bank word
    (chip.run (idle ++ word)).phase

variable {chip : Chip} {idle word : List Access} {a : Access}

/-- An enabled chip has everything before it. -/
theorem Underway.start (enabled : chip.phase = .enabled) : chip.Underway [] [] where
  nonzero := List.forall_mem_nil _
  active first isPrefix := by
    rw [List.prefix_nil.mp isPrefix, run_nil, enabled]
    exact Phase.noConfusion
  enabled := enabled
  held := rfl
  begun := by
    rw [List.append_nil, run_nil, enabled]
    exact .enabled

/-- What an access off zero makes of the word. -/
theorem Underway.continues (wellFormed : chip.toLatch.WellFormed)
    (underway : chip.Underway idle word) (nonzero : a.pins ≠ 0) :
    ∃ move, ((chip.run (idle ++ word)).access a).toLatch =
        (chip.run (idle ++ word)).toLatch.after move ∧
      Continues chip.part.patterns chip.host (chip.run (idle ++ word)).bank (word ++ [a]) move := by
  obtain ⟨move, listed, eq⟩ := (chip.run (idle ++ word)).exists_transition_access nonzero
  rw [part_run, host_run] at listed
  refine ⟨move, eq, underway.begun.extend ?_ (wellFormed_run wellFormed _).bank_le listed⟩
  exact fun bits scheme => BitwisePatterns.inBlock_of_scheme scheme

/-- The moments of one access more. -/
theorem Underway.active_concat (underway : chip.Underway idle word)
    (active : ((chip.run (idle ++ word)).access a).phase ≠ .disabled) :
    ∀ first, first <+: idle ++ word ++ [a] → (chip.run first).phase ≠ .disabled := by
  intro first isPrefix
  rcases List.prefix_concat_iff.mp isPrefix with rfl | earlier
  · rwa [run_concat]
  · exact underway.active first earlier

/-- **An access that leaves the chip active** lengthens the word, or breaks it off and joins it to
the idle stretch. -/
theorem Underway.access (wellFormed : chip.toLatch.WellFormed)
    (underway : chip.Underway idle word) (nonzero : a.pins ≠ 0)
    (active : ((chip.run (idle ++ word)).access a).phase ≠ .disabled) :
    chip.Underway (idle ++ word ++ [a]) [] ∨ chip.Underway idle (word ++ [a]) := by
  obtain ⟨move, eq, continues⟩ := underway.continues wellFormed nonzero
  have nonzero := forall_mem_concat underway.nonzero nonzero
  have active' := underway.active_concat active
  cases move with
  | commit bank =>
    rw [eq, Latch.after_commit] at active
    exact absurd rfl active
  | go phase =>
    rw [Latch.after_go, ← run_concat] at eq
    rcases continues with rfl | begun
    · refine .inl ⟨?_, ?_, ?_, ?_, ?_⟩
      · rwa [List.append_nil]
      · rwa [List.append_nil]
      · rw [eq]
      · rw [List.append_nil]
      · rw [List.append_nil, eq]
        exact .enabled
    · rw [List.append_assoc] at nonzero active' eq
      refine .inr ⟨nonzero, active', underway.enabled, ?_, ?_⟩
      · rw [eq]
        exact underway.held
      · rw [eq]
        exact begun

/-- **An access that disables the chip** completes the word. -/
theorem Underway.commit (wellFormed : chip.toLatch.WellFormed)
    (underway : chip.Underway idle word) (nonzero : a.pins ≠ 0)
    (disabled : ((chip.run (idle ++ word)).access a).phase = .disabled) :
    ProtocolWord chip.part.patterns chip.host (chip.run idle).bank (word ++ [a])
      ((chip.run (idle ++ word)).access a).bank := by
  obtain ⟨move, eq, continues⟩ := underway.continues wellFormed nonzero
  rw [eq] at disabled ⊢
  cases move with
  | commit bank =>
    rw [underway.held]
    exact continues
  | go phase =>
    obtain rfl : phase = .disabled := disabled
    rcases continues with impossible | begun
    · cases impossible
    · exact absurd rfl begun.ne_disabled

/-! ## Runs from power-up -/

variable {part : PartNumber} {host : Host}

theorem wellFormed_run_powerUp (part : PartNumber) (host : Host) (accesses : List Access) :
    ((powerUp part host).run accesses).toLatch.WellFormed :=
  wellFormed_run (show (powerUp part host).toLatch.WellFormed from part.wellFormed_initialLatch)
    accesses

/-- **Behind every chip that is not disabled** lies an access to zero since which it is under way. -/
theorem exists_underway (accesses : List Access)
    (active : ((powerUp part host).run accesses).phase ≠ .disabled) :
    ∃ past zero idle word, accesses = past ++ [zero] ++ (idle ++ word) ∧ zero.pins = 0 ∧
      ((powerUp part host).run (past ++ [zero])).Underway idle word := by
  -- The last access is zero and starts over, or it lengthens what the run before it carries.
  induction accesses using List.reverseRecOn with
  | nil => exact absurd rfl active
  | append_singleton before a ih =>
    by_cases zero : a.pins = 0
    · refine ⟨before, a, [], [], by simp, zero, .start ?_⟩
      rw [run_concat, toLatch_access_of_zero _ zero]
    rw [run_concat] at active
    have active_before : ((powerUp part host).run before).phase ≠ .disabled :=
      fun disabled => active (phase_access_of_disabled disabled zero)
    obtain ⟨past, first, idle, word, rfl, first_zero, underway⟩ := ih active_before
    rw [run_append] at active
    rcases underway.access (wellFormed_run_powerUp part host _) zero active with next | next
    · exact ⟨past, first, _, _, by simp, first_zero, next⟩
    · exact ⟨past, first, _, _, by simp, first_zero, next⟩

/-- **The last access of a run completes a protocol word.**  It comes after an access to zero, with
no commit in between; the accesses since the last zero end in a protocol word that starts at an
enabled moment, and the bank returned is the one that the word spells. -/
def CompletesWord (part : PartNumber) (host : Host) (before : List Access) (a : Access) : Prop :=
  ∃ past zero between idle word, before = past ++ zero :: between ∧ zero.pins = 0 ∧
    (∀ b ∈ between ++ [a], b.pins ≠ 0) ∧
    (∀ first b second, between = first ++ b :: second →
      ¬ ((powerUp part host).run (past ++ zero :: first)).Commits b) ∧
    between ++ [a] = idle ++ word ∧
    ((powerUp part host).run (past ++ zero :: idle)).phase = .enabled ∧
    ProtocolWord part.patterns host ((powerUp part host).run (past ++ zero :: idle)).bank word
      (((powerUp part host).run before).access a).bank

theorem completesWord_of_commits {before : List Access} {a : Access}
    (commits : ((powerUp part host).run before).Commits a) : CompletesWord part host before a := by
  have nonzero : a.pins ≠ 0 := by
    intro zero
    have := commits.2
    rw [toLatch_access_of_zero _ zero] at this
    cases this
  obtain ⟨past, zero, idle, word, rfl, zero_pins, underway⟩ := exists_underway before commits.1
  have run_since : ∀ first, (powerUp part host).run (past ++ zero :: first) =
      ((powerUp part host).run (past ++ [zero])).run first := fun first => by
    rw [← run_append, List.append_assoc, List.singleton_append]
  refine ⟨past, zero, idle ++ word, idle, word ++ [a], by simp, zero_pins,
    forall_mem_concat underway.nonzero nonzero, ?_, List.append_assoc _ _ _, ?_, ?_⟩
  · intro first b second split later
    rw [run_since] at later
    refine underway.active (first ++ [b]) ?_ ?_
    · rw [split]
      exact ⟨second, by simp⟩
    · rw [run_concat]
      exact later.2
  · rw [run_since]
    exact underway.enabled
  · rw [run_append] at commits
    rw [run_since, run_append _ (past ++ [zero])]
    have spelled := underway.commit (wellFormed_run_powerUp part host _) nonzero commits.2
    rwa [part_run, host_run] at spelled

/-- **Only a complete protocol word changes the bank.**  An access of a run from power-up returns the
bank held before, unless it commits, and then it completes a protocol word. -/
theorem commit_sound (part : PartNumber) (host : Host) (before : List Access) (a : Access) :
    let chip := (powerUp part host).run before
    (¬ chip.Commits a → (chip.access a).bank = chip.bank) ∧
      (chip.Commits a → CompletesWord part host before a) :=
  ⟨bank_access_of_not_commits, completesWord_of_commits⟩

/-- The twiddles of a run that selects bank 2 by clearing the lowest bit. -/
theorem commit_sound_bitwise :
    let part : PartNumber := ⟨104, by decide⟩
    let before : List Access := [⟨0, .silent⟩, ⟨0x1234, .silent⟩, ⟨0x3D90, .silent⟩,
      ⟨0x4028, .silent⟩, ⟨0x3D90, .silent⟩, ⟨0x0005, .silent⟩, ⟨0x3DA7, .silent⟩]
    let chip := (powerUp part .m68010).run before
    (chip.Commits ⟨0x0020, .silent⟩ ∧ (chip.access ⟨0x0020, .silent⟩).bank = 2) ∧
      CompletesWord part .m68010 before ⟨0x0020, .silent⟩ :=
  ⟨⟨⟨by decide, by decide⟩, by decide⟩, (commit_sound _ _ _ _).2 ⟨by decide, by decide⟩⟩

end Chip

end Slapstic
