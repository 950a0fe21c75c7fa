import Mathlib.Tactic
import Slapstic.Chip.Basic

/-!
# Proofs/Chip/Transition — all that an access can do

Address zero enables the chip from any phase (`move_zero`).  What any other address does is listed
once, as the constructors of `Transition`, each with the triggers that it hits and those that it has
to miss.  The list is the graph of `Patterns.move` (`transition_iff`): an invariant of the chip is a
case split over it, a run of the chip is a chain of constructors, and no other proof opens the
definition.
-/

namespace Slapstic

/-- The address of an access as it reaches the chip. -/
abbrev Access.pins (a : Access) : UInt32 := Slapstic.pins a.address

/-- An address arms the further protocol of the part. -/
def Scheme.arms (scheme : Scheme) (address : UInt32) : Bool :=
  scheme.armsBitwise address || scheme.armsAdditive address

/-- **The moves of an access off zero**, by the phase that it finds. -/
inductive Transition (patterns : Patterns) (host : Host) (bank : UInt8) (address : UInt32)
    (view : View) : Phase → Move → Prop where
  | deaf : Transition patterns host bank address view .disabled (.go .disabled)
  -- An enabled chip begins the first protocol that the access fits, or selects a bank.
  | armBitwise {bits} (scheme : patterns.scheme = .bitwise bits)
      (arm : bits.arm.hits address = true) :
      Transition patterns host bank address view .enabled (.go .bitwise1)
  | armAdditive {adds} (scheme : patterns.scheme = .additive adds)
      (arm : adds.arm.hits address = true) :
      Transition patterns host bank address view .enabled (.go .additive1)
  | first (arm : patterns.scheme.arms address = false)
      (first : patterns.alternate.firstHits address = true) :
      Transition patterns host bank address view .enabled (.go .alternate1)
  | headless (arm : patterns.scheme.arms address = false)
      (first : patterns.alternate.firstHits address = false)
      (second : patterns.alternate.second.hits address = true) (bus : host.inspected = false) :
      Transition patterns host bank address view .enabled (.go .alternate2)
  | recover {pending} (arm : patterns.scheme.arms address = false)
      (first : patterns.alternate.firstHits address = false)
      (second : patterns.alternate.second.hits address = true) (inspected : host.inspected = true)
      (found : patterns.alternate.recover? view = some pending) :
      Transition patterns host bank address view .enabled (.go (.alternate3 pending))
  | refuse (arm : patterns.scheme.arms address = false)
      (first : patterns.alternate.firstHits address = false)
      (second : patterns.alternate.second.hits address = true) (inspected : host.inspected = true)
      (found : patterns.alternate.recover? view = none) :
      Transition patterns host bank address view .enabled (.go .enabled)
  | select {i : Fin 4} (arm : patterns.scheme.arms address = false)
      (first : patterns.alternate.firstHits address = false)
      (second : patterns.alternate.second.hits address = false)
      (select : patterns.bankFor? address = some i) :
      Transition patterns host bank address view .enabled (.commit (UInt8.ofNat i))
  | pass (arm : patterns.scheme.arms address = false)
      (first : patterns.alternate.firstHits address = false)
      (second : patterns.alternate.second.hits address = false)
      (select : patterns.bankFor? address = none) :
      Transition patterns host bank address view .enabled (.go .enabled)
  -- The alternate sequence: three accesses in a row, then a wait for the fourth.
  | second (second : patterns.alternate.second.hits address = true) :
      Transition patterns host bank address view .alternate1 (.go .alternate2)
  | noSecond (second : patterns.alternate.second.hits address = false) :
      Transition patterns host bank address view .alternate1 (.go .enabled)
  | third (third : patterns.alternate.third.hits address = true) :
      Transition patterns host bank address view .alternate2
        (.go (.alternate3 (patterns.alternate.bankOf address)))
  | noThird (third : patterns.alternate.third.hits address = false) :
      Transition patterns host bank address view .alternate2 (.go .enabled)
  | fourth {pending} (fourth : patterns.alternate.fourth.hits address = true) :
      Transition patterns host bank address view (.alternate3 pending) (.commit pending)
  | awaitFourth {pending} (fourth : patterns.alternate.fourth.hits address = false) :
      Transition patterns host bank address view (.alternate3 pending) (.go (.alternate3 pending))
  -- The bitwise protocol; on a part without it the twiddling never ends.
  | beginTwiddling (select : patterns.selects address = true) :
      Transition patterns host bank address view .bitwise1 (.go (.bitwise2 bank 0))
  | awaitTwiddling (select : patterns.selects address = false) :
      Transition patterns host bank address view .bitwise1 (.go .bitwise1)
  | twiddle {bits pending toggle twiddle} (scheme : patterns.scheme = .bitwise bits)
      (hit : bits.twiddle? (address ^^^ toggle.toUInt32) = some twiddle) :
      Transition patterns host bank address view (.bitwise2 pending toggle)
        (.go (.bitwise2 (twiddle.apply pending) (toggle ^^^ 3)))
  | endTwiddling {bits pending toggle} (scheme : patterns.scheme = .bitwise bits)
      (miss : bits.twiddle? (address ^^^ toggle.toUInt32) = none)
      (escape : bits.escape.hits address = true) :
      Transition patterns host bank address view (.bitwise2 pending toggle) (.go (.bitwise3 pending))
  | keepTwiddling {bits pending toggle} (scheme : patterns.scheme = .bitwise bits)
      (miss : bits.twiddle? (address ^^^ toggle.toUInt32) = none)
      (escape : bits.escape.hits address = false) :
      Transition patterns host bank address view (.bitwise2 pending toggle)
        (.go (.bitwise2 pending toggle))
  | foreignTwiddling {adds pending toggle} (scheme : patterns.scheme = .additive adds) :
      Transition patterns host bank address view (.bitwise2 pending toggle)
        (.go (.bitwise2 pending toggle))
  | selectTwiddled {pending} (select : patterns.selects address = true) :
      Transition patterns host bank address view (.bitwise3 pending) (.commit pending)
  | awaitTwiddled {pending} (select : patterns.selects address = false) :
      Transition patterns host bank address view (.bitwise3 pending) (.go (.bitwise3 pending))
  -- The additive protocol; on a part without it the adding never ends.
  | confirm {adds} (scheme : patterns.scheme = .additive adds)
      (confirm : adds.confirm.hits address = true) :
      Transition patterns host bank address view .additive1 (.go (.additive2 bank))
  | noConfirm (confirm : patterns.scheme.confirms address = false) :
      Transition patterns host bank address view .additive1 (.go .enabled)
  | endAdding {adds pending} (scheme : patterns.scheme = .additive adds)
      (escape : adds.escape.hits address = true) :
      Transition patterns host bank address view (.additive2 pending)
        (.go (.additive3 (adds.add pending address)))
  | keepAdding {adds pending} (scheme : patterns.scheme = .additive adds)
      (escape : adds.escape.hits address = false) :
      Transition patterns host bank address view (.additive2 pending)
        (.go (.additive2 (adds.add pending address)))
  | foreignAdding {bits pending} (scheme : patterns.scheme = .bitwise bits) :
      Transition patterns host bank address view (.additive2 pending) (.go (.additive2 pending))
  | selectAdded {pending} (select : patterns.selects address = true) :
      Transition patterns host bank address view (.additive3 pending) (.commit pending)
  | awaitAdded {pending} (select : patterns.selects address = false) :
      Transition patterns host bank address view (.additive3 pending) (.go (.additive3 pending))

/-! ## What arms a scheme -/

namespace Scheme

variable {scheme : Scheme} {address : UInt32}

theorem eq_bitwise_of_arms (arms : scheme.armsBitwise address = true) :
    ∃ bits, scheme = .bitwise bits ∧ bits.arm.hits address = true := by
  cases scheme with
  | bitwise bits => exact ⟨bits, rfl, by simpa [armsBitwise, bitwise?] using arms⟩
  | additive adds => simp [armsBitwise, bitwise?] at arms

theorem eq_additive_of_arms (arms : scheme.armsAdditive address = true) :
    ∃ adds, scheme = .additive adds ∧ adds.arm.hits address = true := by
  cases scheme with
  | bitwise bits => simp [armsAdditive, additive?] at arms
  | additive adds => exact ⟨adds, rfl, by simpa [armsAdditive, additive?] using arms⟩

theorem eq_additive_of_confirms (confirms : scheme.confirms address = true) :
    ∃ adds, scheme = .additive adds ∧ adds.confirm.hits address = true := by
  cases scheme with
  | bitwise bits => simp [Scheme.confirms, additive?] at confirms
  | additive adds => exact ⟨adds, rfl, by simpa [Scheme.confirms, additive?] using confirms⟩

theorem arms_eq_false_iff : scheme.arms address = false ↔
    scheme.armsBitwise address = false ∧ scheme.armsAdditive address = false := by
  simp [arms]

end Scheme

/-! ## The list is complete -/

namespace Patterns

variable {patterns : Patterns} {host : Host} {bank : UInt8} {address : UInt32} {view : View}

/-- **Address zero enables the chip**, whatever its phase. -/
@[simp] theorem move_zero (patterns : Patterns) (host : Host) (latch : Latch) (view : View) :
    patterns.move host latch 0 view = .go .enabled := by
  rw [move, if_pos rfl]

/-- **The second step out of nowhere** goes where the host lets it. -/
theorem transition_resolve (arm : patterns.scheme.arms address = false)
    (first : patterns.alternate.firstHits address = false)
    (second : patterns.alternate.second.hits address = true) :
    Transition patterns host bank address view .enabled
      (.go (patterns.alternate.resolve host view)) := by
  unfold AlternatePatterns.resolve
  split
  next inspected =>
    split
    next found => exact .recover arm first second inspected found
    next found => exact .refuse arm first second inspected found
  next bus => exact .headless arm first second (by simpa using bus)

/-- The moves of an enabled chip. -/
theorem transition_moveEnabled : Transition patterns host bank address view .enabled
    (patterns.moveEnabled host address view) := by
  unfold moveEnabled
  split
  next arms =>
    obtain ⟨bits, scheme, arm⟩ := Scheme.eq_bitwise_of_arms arms
    exact .armBitwise scheme arm
  next noBitwise =>
  split
  next arms =>
    obtain ⟨adds, scheme, arm⟩ := Scheme.eq_additive_of_arms arms
    exact .armAdditive scheme arm
  next noAdditive =>
  have arm : patterns.scheme.arms address = false :=
    Scheme.arms_eq_false_iff.mpr ⟨by simpa using noBitwise, by simpa using noAdditive⟩
  split
  next first => exact .first arm first
  next noFirst =>
  have first : patterns.alternate.firstHits address = false := by simpa using noFirst
  split
  next second => exact transition_resolve arm first second
  next noSecond =>
  have second : patterns.alternate.second.hits address = false := by simpa using noSecond
  split
  next select => exact .select arm first second select
  next select => exact .pass arm first second select

/-- The moves of a twiddling chip. -/
theorem transition_twiddled (pending toggle : UInt8) :
    Transition patterns host bank address view (.bitwise2 pending toggle)
      (.go (patterns.scheme.twiddled pending toggle address)) := by
  cases scheme : patterns.scheme with
  | additive adds => exact .foreignTwiddling scheme
  | bitwise bits =>
    rw [Scheme.twiddled]
    split
    next hit => exact .twiddle scheme hit
    next miss =>
      split
      next escape => exact .endTwiddling scheme miss escape
      next escape => exact .keepTwiddling scheme miss (by simpa using escape)

/-- The moves of an adding chip. -/
theorem transition_added (pending : UInt8) :
    Transition patterns host bank address view (.additive2 pending)
      (.go (patterns.scheme.added pending address)) := by
  cases scheme : patterns.scheme with
  | bitwise bits => exact .foreignAdding scheme
  | additive adds =>
    rw [Scheme.added]
    split
    next escape => exact .endAdding scheme escape
    next escape => exact .keepAdding scheme (by simpa using escape)

/-- **An access off zero makes one of the listed moves.** -/
theorem transition_move {latch : Latch} (nonzero : address ≠ 0) :
    Transition patterns host latch.bank address view latch.phase
      (patterns.move host latch address view) := by
  rw [move, if_neg nonzero]
  obtain ⟨phase, bank⟩ := latch
  cases phase with
  | disabled => exact .deaf
  | enabled => exact transition_moveEnabled
  | alternate1 =>
    dsimp only
    split
    next second => exact .second second
    next second => exact .noSecond (by simpa using second)
  | alternate2 =>
    dsimp only
    split
    next third => exact .third third
    next third => exact .noThird (by simpa using third)
  | alternate3 pending =>
    dsimp only
    split
    next fourth => exact .fourth fourth
    next fourth => exact .awaitFourth (by simpa using fourth)
  | bitwise1 =>
    dsimp only
    split
    next select => exact .beginTwiddling select
    next select => exact .awaitTwiddling (by simpa using select)
  | bitwise2 pending toggle => exact transition_twiddled pending toggle
  | bitwise3 pending =>
    dsimp only [moveSelecting]
    split
    next select => exact .selectTwiddled select
    next select => exact .awaitTwiddled (by simpa using select)
  | additive1 =>
    dsimp only
    split
    next confirms =>
      obtain ⟨adds, scheme, confirm⟩ := Scheme.eq_additive_of_confirms confirms
      exact .confirm scheme confirm
    next confirms => exact .noConfirm (by simpa using confirms)
  | additive2 pending => exact transition_added pending
  | additive3 pending =>
    dsimp only [moveSelecting]
    split
    next select => exact .selectAdded select
    next select => exact .awaitAdded (by simpa using select)

/-! ## …and every move on it is made -/

/-- **A listed move is the one made.** -/
theorem move_eq_of_transition {latch : Latch} {move : Move} (nonzero : address ≠ 0)
    (listed : Transition patterns host latch.bank address view latch.phase move) :
    patterns.move host latch address view = move := by
  obtain ⟨phase, bank⟩ := latch
  rw [Patterns.move, if_neg nonzero]
  dsimp only at listed ⊢
  cases listed <;>
    simp_all [moveEnabled, moveSelecting, AlternatePatterns.resolve, Scheme.twiddled, Scheme.added,
      Scheme.arms, Scheme.armsBitwise, Scheme.armsAdditive, Scheme.bitwise?, Scheme.additive?,
      Scheme.confirms]

/-- **The list is the graph of the move.** -/
theorem transition_iff {latch : Latch} {move : Move} (nonzero : address ≠ 0) :
    Transition patterns host latch.bank address view latch.phase move ↔
      patterns.move host latch address view = move :=
  ⟨move_eq_of_transition nonzero, fun h => h ▸ transition_move nonzero⟩

/-! ## One access -/

/-- An access to zero enables the chip and keeps its bank. -/
theorem step_of_pins_eq_zero {latch : Latch} {a : Access} (zero : a.pins = 0) :
    patterns.step host latch a = ⟨.enabled, latch.bank⟩ := by
  change latch.after (patterns.move host latch a.pins a.view) = _
  rw [zero, move_zero, Latch.after_go]

/-- **Any other access makes a listed move.** -/
theorem exists_transition_step (patterns : Patterns) (host : Host) (latch : Latch) {a : Access}
    (nonzero : a.pins ≠ 0) :
    ∃ move, Transition patterns host latch.bank a.pins a.view latch.phase move ∧
      patterns.step host latch a = latch.after move :=
  ⟨_, (transition_iff nonzero).mpr rfl, rfl⟩

/-- The latch after a listed move. -/
theorem step_eq_of_transition {phase : Phase} {a : Access} {move : Move} (nonzero : a.pins ≠ 0)
    (listed : Transition patterns host bank a.pins a.view phase move) :
    patterns.step host ⟨phase, bank⟩ a = Latch.after ⟨phase, bank⟩ move :=
  congrArg _ ((transition_iff nonzero).mp listed)

end Patterns

end Slapstic
