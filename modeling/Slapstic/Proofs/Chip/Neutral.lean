import Slapstic.Proofs.Chip.Course
import Slapstic.Proofs.Chip.Lines

/-!
# Proofs/Chip/Neutral — accesses that may be put in or left out

A **neutral** access is off zero, selects no bank and hits no trigger of the part.  It breaks a
protocol off where the next address has to come at once, in a `brittle` phase, and moves nothing in
any other (`PartNumber.step_of_neutral`).

So neutral accesses may be put into a run, in any number and wherever the phase is not brittle, and
the run's own accesses do what they did without them (`Chip.padding_vanishes`).
-/

namespace Slapstic

/-- **A neutral access**: nothing on the part reacts to it. -/
def Access.Neutral (a : Access) (patterns : Patterns) : Prop :=
  a.Idle patterns ∧ ∀ t ∈ patterns.triggers, t.hits a.pins = false

instance (a : Access) (patterns : Patterns) : Decidable (a.Neutral patterns) :=
  inferInstanceAs (Decidable (_ ∧ _))

/-- **A brittle phase** wants the next step of its protocol at once. -/
def Phase.brittle : Phase → Bool
  | alternate1 | alternate2 | additive1 => true
  | _ => false

/-! ## One neutral access -/

namespace Access.Neutral

variable {patterns : Patterns} {a : Access}

theorem misses (neutral : a.Neutral patterns) {t : Trigger} (mem : t ∈ patterns.plain) :
    t.hits a.pins = false :=
  neutral.2 t (Patterns.mem_triggers_of_plain mem)

theorem scheme_misses (neutral : a.Neutral patterns) {scheme : Scheme}
    (eq : patterns.scheme = scheme) {t : Trigger} (mem : t ∈ scheme.triggers) :
    t.hits a.pins = false :=
  neutral.misses (Patterns.mem_plain_of_scheme eq mem)

theorem first_misses (neutral : a.Neutral patterns) :
    patterns.alternate.firstHits a.pins = false := by
  unfold AlternatePatterns.firstHits
  cases eq : patterns.alternate.first with
  | none => rfl
  | some first => exact neutral.misses (Patterns.first_mem eq)

/-- Nothing is added. -/
theorem add_eq (neutral : a.Neutral patterns) {adds : AdditivePatterns}
    (scheme : patterns.scheme = .additive adds) (bank : UInt8) : adds.add bank a.pins = bank := by
  have plus1 : adds.plus1.hits a.pins = false :=
    neutral.scheme_misses scheme (by simp [Scheme.triggers])
  have plus2 : adds.plus2.hits a.pins = false :=
    neutral.scheme_misses scheme (by simp [Scheme.triggers])
  simp [AdditivePatterns.add, plus1, plus2]

/-- Nothing is twiddled, under either toggle: flipping the two lowest bits does not lead into the
block of the twiddles. -/
theorem twiddle?_eq_none (neutral : a.Neutral patterns) {bits : BitwisePatterns}
    (block : bits.InBlock) (scheme : patterns.scheme = .bitwise bits) {toggle : UInt8}
    (known : toggle = 0 ∨ toggle = 3) : bits.twiddle? (a.pins ^^^ toggle.toUInt32) = none := by
  have arm : bits.arm.hits a.pins = false :=
    neutral.scheme_misses scheme (by simp [Scheme.triggers])
  have flipped : ∃ count, BitwisePatterns.flip count = toggle := by
    rcases known with rfl | rfl
    · exact ⟨0, rfl⟩
    · exact ⟨1, rfl⟩
  obtain ⟨count, rfl⟩ := flipped
  exact block.twiddle?_flip_eq_none_iff.mpr arm

end Access.Neutral

/-- **The move of a neutral access**: out of a brittle phase to the start of all protocols, and
nowhere out of any other. -/
theorem Transition.move_of_neutral {patterns : Patterns} {host : Host} {bank : UInt8} {a : Access}
    {phase : Phase} {move : Move} (neutral : a.Neutral patterns)
    (blocks : ∀ bits, patterns.scheme = .bitwise bits → bits.InBlock)
    (known : ∀ toggle, phase.toggle? = some toggle → toggle = 0 ∨ toggle = 3)
    (listed : Transition patterns host bank a.pins a.view phase move) :
    move = .go (if phase.brittle then .enabled else phase) := by
  have second_misses := neutral.misses patterns.second_mem
  have fourth_misses := neutral.misses patterns.fourth_mem
  have third_misses := neutral.2 patterns.alternate.third List.mem_cons_self
  have unselected := Patterns.bankFor?_eq_none_iff.mpr neutral.1.2
  have misses {scheme : Scheme} (eq : patterns.scheme = scheme) {t : Trigger}
      (mem : t ∈ scheme.triggers) : ¬ t.hits a.pins = true :=
    Bool.eq_false_iff.mp (neutral.scheme_misses eq mem)
  cases listed with
  | armBitwise scheme arm => exact absurd arm (misses scheme (by simp [Scheme.triggers]))
  | armAdditive scheme arm => exact absurd arm (misses scheme (by simp [Scheme.triggers]))
  | first _ first => simp [neutral.first_misses] at first
  | headless _ _ second => simp [second_misses] at second
  | recover _ _ second => simp [second_misses] at second
  | refuse _ _ second => simp [second_misses] at second
  | select _ _ _ select => simp [unselected] at select
  | second second => simp [second_misses] at second
  | third third => simp [third_misses] at third
  | fourth fourth => simp [fourth_misses] at fourth
  | beginTwiddling select => simp [neutral.1.2] at select
  | twiddle scheme hit =>
    simp [neutral.twiddle?_eq_none (blocks _ scheme) scheme (known _ rfl)] at hit
  | endTwiddling scheme _ escape => exact absurd escape (misses scheme (by simp [Scheme.triggers]))
  | selectTwiddled select => simp [neutral.1.2] at select
  | confirm scheme confirm => exact absurd confirm (misses scheme (by simp [Scheme.triggers]))
  | endAdding scheme escape => exact absurd escape (misses scheme (by simp [Scheme.triggers]))
  | keepAdding scheme => rw [neutral.add_eq scheme]; rfl
  | selectAdded select => simp [neutral.1.2] at select
  | _ => rfl

/-- **What a neutral access does** on a part. -/
theorem PartNumber.step_of_neutral (part : PartNumber) (host : Host) {latch : Latch}
    (wellFormed : latch.WellFormed) {a : Access} (neutral : a.Neutral part.patterns) :
    part.patterns.step host latch a =
      ⟨if latch.phase.brittle then .enabled else latch.phase, latch.bank⟩ := by
  obtain ⟨move, listed, eq⟩ := part.patterns.exists_transition_step host latch neutral.1.1
  have moved := listed.move_of_neutral neutral
    (fun _ scheme => BitwisePatterns.inBlock_of_scheme scheme) wellFormed.toggle_eq
  rw [eq, moved, Latch.after_go]

/-! ## Runs with neutral accesses in between -/

/-- **An access of a padded run**: one of the run's own, or one put in. -/
inductive Slot where
  | own (a : Access)
  | extra (a : Access)

namespace Slot

/-- The access itself. -/
def access : Slot → Access
  | own a => a
  | extra a => a

/-- The access, if it is the run's own. -/
def own? : Slot → Option Access
  | own a => some a
  | extra _ => none

end Slot

/-- All accesses of a padded run. -/
def allAccesses (slots : List Slot) : List Access := slots.map Slot.access

/-- The accesses of the run without the padding. -/
def ownAccesses (slots : List Slot) : List Access := slots.filterMap Slot.own?

namespace Chip

/-- **A run is padded** with neutral accesses, at moments at which the chip of the run without them
is in no brittle phase. -/
inductive Padded : Chip → List Slot → Prop where
  | nil {chip : Chip} : Padded chip []
  | own {chip : Chip} {a : Access} {rest : List Slot} (padded : Padded (chip.access a) rest) :
      Padded chip (.own a :: rest)
  | extra {chip : Chip} {a : Access} {rest : List Slot} (neutral : a.Neutral chip.part.patterns)
      (firm : chip.phase.brittle = false) (padded : Padded chip rest) :
      Padded chip (.extra a :: rest)

/-- The latch after each of the run's own accesses, as the padded run goes. -/
def ownLatches (chip : Chip) : List Slot → List Latch
  | [] => []
  | .own a :: rest => (chip.access a).toLatch :: (chip.access a).ownLatches rest
  | .extra a :: rest => (chip.access a).ownLatches rest

variable {chip : Chip} {a : Access} {slots before after : List Slot}

/-- **In a firm phase a neutral access leaves the chip as it was.** -/
theorem access_of_neutral (wellFormed : chip.toLatch.WellFormed)
    (neutral : a.Neutral chip.part.patterns) (firm : chip.phase.brittle = false) :
    chip.access a = chip := by
  refine eq_of_toLatch_eq ?_ rfl rfl
  rw [toLatch_access, chip.part.step_of_neutral chip.host wellFormed neutral, firm]
  rfl

namespace Padded

/-- **The run's own accesses do what they did.** -/
theorem ownLatches_eq (padded : chip.Padded slots) (wellFormed : chip.toLatch.WellFormed) :
    chip.ownLatches slots = chip.latches (ownAccesses slots) := by
  induction padded with
  | nil => rfl
  | @own chip a rest _ ih =>
    change _ :: (chip.access a).ownLatches rest = _ :: (chip.access a).latches (ownAccesses rest)
    rw [ih (wellFormed.step _ _ a)]
  | @extra chip a rest neutral firm _ ih =>
    change (chip.access a).ownLatches rest = chip.latches (ownAccesses rest)
    rw [access_of_neutral wellFormed neutral firm, ih wellFormed]

/-- **The padded run ends as the run does.** -/
theorem run_eq (padded : chip.Padded slots) (wellFormed : chip.toLatch.WellFormed) :
    chip.run (allAccesses slots) = chip.run (ownAccesses slots) := by
  induction padded with
  | nil => rfl
  | @own chip a rest _ ih => exact ih (wellFormed.step _ _ a)
  | @extra chip a rest neutral firm _ ih =>
    change (chip.access a).run (allAccesses rest) = chip.run (ownAccesses rest)
    rw [access_of_neutral wellFormed neutral firm, ih wellFormed]

/-- A padded run may be cut anywhere. -/
theorem cut (padded : chip.Padded (before ++ after)) :
    chip.Padded before ∧ (chip.run (ownAccesses before)).Padded after := by
  induction before generalizing chip with
  | nil => exact ⟨.nil, padded⟩
  | cons slot rest ih =>
    cases padded with
    | own padded => exact ⟨.own (ih padded).1, (ih padded).2⟩
    | extra neutral firm padded => exact ⟨.extra neutral firm (ih padded).1, (ih padded).2⟩

/-- **Each access put in leaves the chip as it was.** -/
theorem access_extra (padded : chip.Padded (before ++ .extra a :: after))
    (wellFormed : chip.toLatch.WellFormed) :
    (chip.run (allAccesses before)).access a = chip.run (allAccesses before) := by
  obtain ⟨padded_before, padded_rest⟩ := padded.cut
  rw [padded_before.run_eq wellFormed]
  cases padded_rest with
  | extra neutral firm _ => exact access_of_neutral (wellFormed_run wellFormed _) neutral firm

end Padded

/-- **Neutral accesses may be put in or left out.**  In a padded run, the run's own accesses return
the banks and lead to the phases that they did without the padding, the chip is in the end the
same, and each access put in returns the bank that is selected and moves nothing.  In a brittle
phase a neutral access leads back to the start of all protocols, with the bank as it was. -/
theorem padding_vanishes (wellFormed : chip.toLatch.WellFormed) :
    (∀ slots, chip.Padded slots →
      chip.ownLatches slots = chip.latches (ownAccesses slots) ∧
      chip.run (allAccesses slots) = chip.run (ownAccesses slots) ∧
      ∀ before a after, slots = before ++ .extra a :: after →
        (chip.run (allAccesses before)).access a = chip.run (allAccesses before)) ∧
    ∀ a : Access, a.Neutral chip.part.patterns → chip.phase.brittle = true →
      (chip.access a).toLatch = ⟨.enabled, chip.bank⟩ := by
  refine ⟨fun slots padded => ⟨padded.ownLatches_eq wellFormed, padded.run_eq wellFormed, ?_⟩, ?_⟩
  · rintro before a after rfl
    exact padded.access_extra wellFormed
  · intro a neutral brittle
    rw [toLatch_access, chip.part.step_of_neutral chip.host wellFormed neutral, brittle]
    rfl

/-- A protocol padded from its twiddling on, with the toggle up at first; and a protocol broken off
that the part does not even have. -/
theorem padding_vanishes_twiddling :
    let chip : Chip := ⟨⟨.bitwise2 1 3, 2⟩, ⟨104, by decide⟩, .m68000⟩
    let near : Access := ⟨0x3DA8, .silent⟩
    let far : Access := ⟨0x7235, .silent⟩
    let slots : List Slot :=
      [.extra near, .own ⟨0x3D91, .silent⟩, .extra far, .extra near, .own ⟨0x3DA7, .silent⟩,
        .extra near, .own ⟨0x0028, .silent⟩, .extra far]
    let armed : Chip := ⟨⟨.additive1, 2⟩, ⟨104, by decide⟩, .m68000⟩
    (chip.toLatch.WellFormed ∧ chip.Padded slots ∧
        chip.ownLatches slots = chip.latches (ownAccesses slots) ∧
        chip.run (allAccesses slots) = chip.run (ownAccesses slots) ∧
        (chip.run (allAccesses [.extra near, .own ⟨0x3D91, .silent⟩])).access far =
          chip.run (allAccesses [.extra near, .own ⟨0x3D91, .silent⟩])) ∧
      armed.toLatch.WellFormed ∧ far.Neutral armed.part.patterns ∧ armed.phase.brittle = true ∧
        (armed.access far).toLatch = ⟨.enabled, armed.bank⟩ := by
  intro chip near far slots armed
  have wellFormed : chip.toLatch.WellFormed := by decide
  have armed_wellFormed : armed.toLatch.WellFormed := by decide
  have near_neutral : near.Neutral chip.part.patterns := by decide
  have far_neutral : far.Neutral chip.part.patterns := by decide
  have padded : chip.Padded slots :=
    .extra near_neutral rfl <| .own <| .extra far_neutral (by decide) <|
      .extra near_neutral (by decide) <| .own <| .extra near_neutral (by decide) <| .own <|
        .extra far_neutral (by decide) .nil
  obtain ⟨latches, run, extra⟩ := (padding_vanishes wellFormed).1 slots padded
  exact ⟨⟨wellFormed, padded, latches, run, extra _ far _ rfl⟩, armed_wellFormed, far_neutral, rfl,
    (padding_vanishes armed_wellFormed).2 far far_neutral rfl⟩

end Chip

end Slapstic
