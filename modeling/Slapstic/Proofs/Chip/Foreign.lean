import Slapstic.Chip.SaveState
import Slapstic.Proofs.Chip.Attainable
import Slapstic.Proofs.Chip.Course
import Slapstic.Proofs.Chip.Lines

/-!
# Proofs/Chip/Foreign — what comes of a phase that the part does not have

A save state is checked for its part and its banks, and not for the protocol that its phase belongs
to.  So a chip may be brought into a **foreign** phase, one of the protocol of the other revision.
Its triggers do not drive it there, and few moves are left to it (`transition_iff_foreignMove`): it
waits, begins to gather on a bank select and then gathers without end, or commits what was gathered
before.

Such a phase is contained.  Zero leads out of it as out of any other, no access leads back into it
(`Chip.not_foreign_run`), and on the way it selects another bank once at most, from a phase that
came with the bank (`Chip.foreign_contained`).
-/

namespace Slapstic

namespace Phase

/-- **A phase is foreign** to a scheme that has the protocol of the other revision. -/
def Foreign (scheme : Scheme) : Phase → Prop
  | bitwise1 | bitwise2 _ _ | bitwise3 _ => scheme.revision = 2
  | additive1 | additive2 _ | additive3 _ => scheme.revision = 1
  | disabled | enabled | alternate1 | alternate2 | alternate3 _ => False

/-- A phase in the middle of a further protocol, which changes the pending bank. -/
def Gathers (phase : Phase) : Prop :=
  (∃ pending toggle, phase = bitwise2 pending toggle) ∨ ∃ pending, phase = additive2 pending

/-- A phase at the end of a further protocol: the next bank select commits the pending bank. -/
def Ends (phase : Phase) (pending : UInt8) : Prop :=
  phase = bitwise3 pending ∨ phase = additive3 pending

end Phase

/-! ## One move -/

/-- **The moves off zero out of a foreign phase.** -/
inductive ForeignMove (patterns : Patterns) (bank : UInt8) (address : UInt32) :
    Phase → Move → Prop where
  | unconfirmed : ForeignMove patterns bank address .additive1 (.go .enabled)
  | begins (select : patterns.selects address = true) :
      ForeignMove patterns bank address .bitwise1 (.go (.bitwise2 bank 0))
  | gathers {phase : Phase} (gathers : phase.Gathers) :
      ForeignMove patterns bank address phase (.go phase)
  | commits {phase : Phase} {pending : UInt8} (ends : phase.Ends pending)
      (select : patterns.selects address = true) :
      ForeignMove patterns bank address phase (.commit pending)
  | awaits {phase : Phase} (waits : phase = .bitwise1 ∨ ∃ pending, phase.Ends pending)
      (select : patterns.selects address = false) :
      ForeignMove patterns bank address phase (.go phase)

namespace Scheme

variable {scheme : Scheme}

theorem revision_ne_two {bits : BitwisePatterns} (eq : scheme = .bitwise bits) :
    scheme.revision ≠ 2 := by
  simp [eq, revision]

theorem revision_ne_one {adds : AdditivePatterns} (eq : scheme = .additive adds) :
    scheme.revision ≠ 1 := by
  simp [eq, revision]

end Scheme

section Move

variable {patterns : Patterns} {host : Host} {bank : UInt8} {address : UInt32} {view : View}
  {phase next : Phase} {move : Move}

theorem Transition.foreignMove (listed : Transition patterns host bank address view phase move)
    (foreign : phase.Foreign patterns.scheme) : ForeignMove patterns bank address phase move := by
  cases listed with
  | beginTwiddling select => exact .begins select
  | awaitTwiddling select => exact .awaits (.inl rfl) select
  | foreignTwiddling | keepTwiddling => exact .gathers (.inl ⟨_, _, rfl⟩)
  | selectTwiddled select => exact .commits (.inl rfl) select
  | awaitTwiddled select => exact .awaits (.inr ⟨_, .inl rfl⟩) select
  | noConfirm => exact .unconfirmed
  | foreignAdding => exact .gathers (.inr ⟨_, rfl⟩)
  | selectAdded select => exact .commits (.inr rfl) select
  | awaitAdded select => exact .awaits (.inr ⟨_, .inr rfl⟩) select
  -- Only the parts that have a protocol have its triggers.
  | twiddle scheme | endTwiddling scheme => exact absurd foreign (Scheme.revision_ne_two scheme)
  | confirm scheme | endAdding scheme | keepAdding scheme =>
    exact absurd foreign (Scheme.revision_ne_one scheme)
  | _ => exact foreign.elim

theorem ForeignMove.transition (moves : ForeignMove patterns bank address phase move)
    (foreign : phase.Foreign patterns.scheme) :
    Transition patterns host bank address view phase move := by
  cases moves with
  | unconfirmed =>
    obtain ⟨bits, scheme⟩ := Scheme.exists_bitwise_of_revision foreign
    exact .noConfirm (by rw [scheme]; rfl)
  | begins select => exact .beginTwiddling select
  | gathers gathers =>
    rcases gathers with ⟨pending, toggle, rfl⟩ | ⟨pending, rfl⟩
    · obtain ⟨adds, scheme⟩ := Scheme.exists_additive_of_revision foreign
      exact .foreignTwiddling scheme
    · obtain ⟨bits, scheme⟩ := Scheme.exists_bitwise_of_revision foreign
      exact .foreignAdding scheme
  | commits ends select =>
    rcases ends with rfl | rfl
    · exact .selectTwiddled select
    · exact .selectAdded select
  | awaits waits select =>
    rcases waits with rfl | ⟨pending, rfl | rfl⟩
    · exact .awaitTwiddling select
    · exact .awaitTwiddled select
    · exact .awaitAdded select

/-- **The moves of a foreign phase** are those left to it, and no others. -/
theorem transition_iff_foreignMove (foreign : phase.Foreign patterns.scheme) :
    Transition patterns host bank address view phase move ↔
      ForeignMove patterns bank address phase move :=
  ⟨fun listed => listed.foreignMove foreign, fun moves => moves.transition foreign⟩

/-- **No move leads into a foreign phase from outside.** -/
theorem Transition.not_foreign
    (listed : Transition patterns host bank address view phase (.go next))
    (native : ¬ phase.Foreign patterns.scheme) : ¬ next.Foreign patterns.scheme := by
  cases listed with
  | armBitwise scheme => exact Scheme.revision_ne_two scheme
  | armAdditive scheme => exact Scheme.revision_ne_one scheme
  | beginTwiddling | awaitTwiddling | twiddle | endTwiddling | keepTwiddling | foreignTwiddling
  | awaitTwiddled | confirm | endAdding | keepAdding | foreignAdding | awaitAdded => exact native
  | _ => exact id

end Move

/-! ## Accesses -/

namespace Chip

variable {chip : Chip} {accesses waits : List Access} {a : Access} {pending : UInt8}

/-- The chip is in a phase that its part does not have. -/
abbrev InForeign (chip : Chip) : Prop := chip.phase.Foreign chip.part.patterns.scheme

/-- **An access in a foreign phase** changes nothing, begins to gather, leads to the start of all
protocols, or commits the bank at the end of one. -/
theorem access_of_foreign (foreign : chip.InForeign) (a : Access) :
    chip.access a = chip ∨
      (chip.phase = .bitwise1 ∧
        (chip.access a).toLatch = ⟨.bitwise2 chip.bank 0, chip.bank⟩) ∨
      (chip.access a).toLatch = ⟨.enabled, chip.bank⟩ ∨
      ∃ pending, chip.phase.Ends pending ∧ (chip.access a).toLatch = ⟨.disabled, pending⟩ := by
  by_cases zero : a.pins = 0
  · exact .inr (.inr (.inl (Patterns.step_of_pins_eq_zero zero)))
  obtain ⟨move, listed, eq⟩ :=
    chip.part.patterns.exists_transition_step chip.host chip.toLatch zero
  have stays (still : move = .go chip.phase) : chip.access a = chip :=
    eq_of_toLatch_eq (by rw [toLatch_access, eq, still]; rfl) rfl rfl
  have moves := (transition_iff_foreignMove foreign).mp listed
  generalize held : chip.phase = phase at moves
  cases moves with
  | unconfirmed => exact .inr (.inr (.inl eq))
  | begins => exact .inr (.inl ⟨rfl, eq⟩)
  | commits ends => exact .inr (.inr (.inr ⟨_, ends, eq⟩))
  | gathers | awaits => exact .inl (stays (by rw [held]))

/-- **No access leads into a foreign phase.** -/
theorem not_foreign_access (native : ¬ chip.InForeign) (a : Access) :
    ¬ (chip.access a).InForeign := by
  by_cases zero : a.pins = 0
  · have enabled : (chip.access a).toLatch = ⟨.enabled, chip.bank⟩ :=
      Patterns.step_of_pins_eq_zero zero
    rw [InForeign, enabled]
    exact id
  · obtain ⟨move, listed, eq⟩ :=
      chip.part.patterns.exists_transition_step chip.host chip.toLatch zero
    rw [InForeign, toLatch_access, eq]
    cases move with
    | go next => exact listed.not_foreign native
    | commit bank => exact id

/-! ## Runs -/

/-- **Once out of a foreign phase, a chip never gets back into one.** -/
theorem not_foreign_run (native : ¬ chip.InForeign) (accesses : List Access) :
    ¬ (chip.run accesses).InForeign := by
  induction accesses generalizing chip with
  | nil => exact native
  | cons a rest ih => exact ih (not_foreign_access native a)

/-- **As long as the phase is foreign**, the chip is as it was, or has begun to gather. -/
theorem run_of_foreign (foreign : (chip.run accesses).InForeign) :
    chip.run accesses = chip ∨ (chip.phase = .bitwise1 ∧
      (chip.run accesses).toLatch = ⟨.bitwise2 chip.bank 0, chip.bank⟩) := by
  induction accesses using List.reverseRecOn with
  | nil => exact .inl rfl
  | append_singleton before a ih =>
    rw [run_concat] at foreign ⊢
    have earlier : (chip.run before).InForeign :=
      by_contra fun native => not_foreign_access native a foreign
    rcases access_of_foreign earlier a with same | ⟨begins, gathers⟩ | left | ⟨pending, -, left⟩
    · rw [same]
      exact ih earlier
    · -- The chip was still waiting, so it is as it was at the start.
      rcases ih earlier with start | ⟨-, gathers'⟩
      · rw [start] at begins gathers ⊢
        exact .inr ⟨begins, gathers⟩
      · simp [gathers'] at begins
    · rw [InForeign, left] at foreign
      exact foreign.elim
    · rw [InForeign, left] at foreign
      exact foreign.elim

/-! ## The course of a foreign phase -/

/-- **The course of a foreign phase** off zero.  Waiting for a confirmation, it leads to the start
of all protocols at once; waiting for a bank select, it lasts until there is one and then gathers
from the selected bank; gathering, it lasts; at its end, it lasts until the next bank select, which
commits its bank. -/
structure ForeignCourse (chip : Chip) : Prop where
  unconfirmed : chip.phase = .additive1 → ∀ a, chip.LeadsTo [a] .enabled
  begins : chip.phase = .bitwise1 → ∀ waits : List Access,
    (∀ a ∈ waits, a.Idle chip.part.patterns) → chip.LeadsTo waits .bitwise1 ∧
      ∀ select : Access, chip.part.patterns.selects select.pins = true →
        chip.LeadsTo (waits ++ [select]) (.bitwise2 chip.bank 0)
  gathers : chip.phase.Gathers → ∀ accesses : List Access, (∀ a ∈ accesses, a.pins ≠ 0) →
    chip.LeadsTo accesses chip.phase
  ends : ∀ pending, chip.phase.Ends pending → ∀ waits : List Access,
    (∀ a ∈ waits, a.Idle chip.part.patterns) → chip.LeadsTo waits chip.phase ∧
      ∀ select : Access, chip.part.patterns.selects select.pins = true →
        chip.Delivers waits select pending

/-- A phase that awaits a bank select stands until there is one. -/
theorem leadsTo_of_waits (foreign : chip.InForeign)
    (awaits : chip.phase = .bitwise1 ∨ ∃ pending, chip.phase.Ends pending)
    (idle : ∀ a ∈ waits, a.Idle chip.part.patterns) : chip.LeadsTo waits chip.phase :=
  (LeadsTo.start rfl).wait fun a mem =>
    ⟨(idle a mem).1, (transition_iff_foreignMove foreign).mpr (.awaits awaits (idle a mem).2)⟩

/-- **Every foreign phase takes this course.** -/
theorem foreignCourse (foreign : chip.InForeign) : chip.ForeignCourse where
  unconfirmed phase a := by
    rw [InForeign, phase] at foreign
    exact (LeadsTo.start phase).breakOff ((transition_iff_foreignMove foreign).mpr .unconfirmed)
  begins phase waits idle := by
    have leads := phase ▸ leadsTo_of_waits foreign (.inl phase) idle
    refine ⟨leads, fun select selects => ?_⟩
    exact leads.go (PartNumber.ne_zero_of_selects selects) (.beginTwiddling selects)
  gathers gathers accesses nonzero :=
    (LeadsTo.start rfl).wait fun a mem =>
      ⟨nonzero a mem, (transition_iff_foreignMove foreign).mpr (.gathers gathers)⟩
  ends pending ends waits idle := by
    have leads := leadsTo_of_waits foreign (.inr ⟨pending, ends⟩) idle
    refine ⟨leads, fun select selects => ?_⟩
    exact leads.commit (PartNumber.ne_zero_of_selects selects)
      ((transition_iff_foreignMove foreign).mpr (.commits ends selects))

/-! ## Containment -/

/-- **A chip is contained** in a foreign phase, in every run: it leaves the phase for the start of
all protocols or their end, which zero makes it do, and never gets back; meanwhile the phase takes
its course; and the selected bank stays until the access that leaves, which selects another one only
if the chip came with it at the end of a protocol. -/
structure Contained (chip : Chip) : Prop where
  leaves : ∀ before : List Access, (chip.run before).InForeign → ∀ a,
    ((chip.run before).access a).InForeign ∨ ((chip.run before).access a).phase = .enabled ∨
      ((chip.run before).access a).phase = .disabled
  never_again : ∀ before after : List Access, ¬ (chip.run before).InForeign →
    ¬ (chip.run (before ++ after)).InForeign
  zero : ∀ (before : List Access) (a : Access), a.pins = 0 →
    ((chip.run before).access a).toLatch = ⟨.enabled, (chip.run before).bank⟩
  course : ∀ before : List Access, (chip.run before).InForeign → (chip.run before).ForeignCourse
  keeps_bank : ∀ before : List Access, (chip.run before).InForeign →
    (chip.run before).bank = chip.bank
  selects_at_end : ∀ before : List Access, (chip.run before).InForeign → ∀ a,
    ((chip.run before).access a).bank ≠ chip.bank →
      ∃ pending, chip.phase.Ends pending ∧ chip.run before = chip ∧
        ((chip.run before).access a).toLatch = ⟨.disabled, pending⟩

theorem bank_run_of_foreign (foreign : (chip.run accesses).InForeign) :
    (chip.run accesses).bank = chip.bank := by
  rcases run_of_foreign foreign with same | ⟨-, gathers⟩
  · rw [same]
  · rw [gathers]

/-- **A foreign phase is contained.** -/
theorem contained (chip : Chip) : chip.Contained where
  leaves before foreign a := by
    rcases access_of_foreign foreign a with same | ⟨begins, gathers⟩ | left | ⟨pending, -, left⟩
    · rw [same]
      exact .inl foreign
    · rw [InForeign, begins] at foreign
      rw [InForeign, gathers]
      exact .inl foreign
    · exact .inr (.inl (congrArg Latch.phase left))
    · exact .inr (.inr (congrArg Latch.phase left))
  never_again before after native := by
    rw [run_append]
    exact not_foreign_run native after
  zero before a zero := Patterns.step_of_pins_eq_zero zero
  course before foreign := foreignCourse foreign
  keeps_bank before foreign := bank_run_of_foreign foreign
  selects_at_end before foreign a changes := by
    rw [← bank_run_of_foreign foreign] at changes
    rcases access_of_foreign foreign a with same | ⟨-, left⟩ | left | ⟨pending, ends, left⟩
    · exact absurd (by rw [same]) changes
    · exact absurd (by rw [left]) changes
    · exact absurd (by rw [left]) changes
    · rcases run_of_foreign foreign with same | ⟨-, gathers⟩
      · exact ⟨pending, same ▸ ends, same, left⟩
      · simp [gathers, Phase.Ends] at ends

variable {state : SaveState}

/-- **A save state in a foreign phase is taken back like any other, and contained.**  Its part and
its banks are all that is asked of it; the chip is then in the foreign phase, and whatever it is
told from there on, it gets out at most once and selects another bank at most once. -/
theorem foreign_contained (foreign : state.phase.Foreign chip.part.patterns.scheme) :
    ((∃ restored, chip.restore state = .ok restored) ↔
      state.part = chip.part ∧ state.toLatch.WellFormed) ∧
    ∀ restored, chip.restore state = .ok restored →
      restored.toLatch = state.toLatch ∧ restored.InForeign ∧ restored.Contained := by
  refine ⟨exists_restore_eq_ok_iff, fun restored accepted => ?_⟩
  obtain ⟨-, -, rfl⟩ := restore_eq_ok_iff.mp accepted
  exact ⟨rfl, foreign, contained _⟩

/-- A part that twiddles, in a state at the end of an addition; and a part that adds, waiting to
twiddle. -/
theorem foreign_contained_both_revisions :
    let twiddler : Chip := ⟨⟨.additive3 2, 1⟩, ⟨104, by decide⟩, .m68000⟩
    let adder : Chip := ⟨⟨.bitwise1, 3⟩, ⟨117, by decide⟩, .m6502⟩
    let other : Access := ⟨0x1234, .silent⟩
    (twiddler.save.phase.Foreign twiddler.part.patterns.scheme ∧
      twiddler.reset.restore twiddler.save = .ok twiddler ∧
        twiddler.Delivers [other, other] ⟨0x0028, .silent⟩ 2) ∧
      adder.save.phase.Foreign adder.part.patterns.scheme ∧
        adder.reset.restore adder.save = .ok adder ∧
          adder.LeadsTo [other, ⟨0x002C, .silent⟩] (.bitwise2 3 0) := by
  intro twiddler adder other
  have twiddler_foreign : twiddler.save.phase.Foreign twiddler.reset.part.patterns.scheme := rfl
  have twiddler_restored : twiddler.reset.restore twiddler.save = .ok twiddler := rfl
  have adder_foreign : adder.save.phase.Foreign adder.reset.part.patterns.scheme := rfl
  have adder_restored : adder.reset.restore adder.save = .ok adder := rfl
  obtain ⟨-, -, twiddler_contained⟩ := (foreign_contained twiddler_foreign).2 _ twiddler_restored
  obtain ⟨-, -, adder_contained⟩ := (foreign_contained adder_foreign).2 _ adder_restored
  have ends := (twiddler_contained.course [] twiddler_foreign).ends 2 (.inr rfl) [other, other]
  have begins := (adder_contained.course [] adder_foreign).begins rfl [other]
  exact ⟨⟨twiddler_foreign, twiddler_restored, (ends (by decide)).2 _ (by decide)⟩, adder_foreign,
    adder_restored, (begins (by decide)).2 _ (by decide)⟩

end Chip

end Slapstic
