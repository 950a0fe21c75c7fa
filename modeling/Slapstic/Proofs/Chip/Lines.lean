import Slapstic.Proofs.Chip.Drive

/-!
# Proofs/Chip/Lines — what a part reads off the bus

Fourteen address lines reach a chip, and no trigger asks for more: to cut an address down to them
changes neither what it hits (`hits_pins`) nor the bank that it carries as a third step
(`bankOf_pins`).  Zero enables the chip before any trigger is tried.  It is the third step of some
sequence at most, so an access that hits another trigger is off zero (`ne_zero_of_hits`).

The second step of a sequence stands apart from all that an enabled chip tries before it
(`arms_of_second`, `firstHits_of_second`).
-/

namespace Slapstic

/-! ## The triggers of a part -/

/-- The steps of an alternate sequence that carry no bank: all but the third. -/
def AlternatePatterns.plain (steps : AlternatePatterns) : List Trigger :=
  steps.first.toList ++ [steps.second, steps.fourth]

namespace Scheme

/-- The trigger that arms a further protocol. -/
def arm : Scheme → Trigger
  | bitwise bits => bits.arm
  | additive adds => adds.arm

/-- The triggers of a further protocol. -/
def triggers : Scheme → List Trigger
  | bitwise bits => [bits.arm, bits.clear0, bits.set0, bits.clear1, bits.set1, bits.escape]
  | additive adds => [adds.arm, adds.confirm, adds.plus1, adds.plus2, adds.escape]

theorem arm_mem (scheme : Scheme) : scheme.arm ∈ scheme.triggers := by
  cases scheme <;> exact List.mem_cons_self

theorem arms_eq (scheme : Scheme) (address : UInt32) :
    scheme.arms address = scheme.arm.hits address := by
  cases scheme <;> simp [arms, armsBitwise, armsAdditive, bitwise?, additive?, arm]

end Scheme

namespace Patterns

variable (patterns : Patterns)

/-- The triggers of a part but the third step of its sequence. -/
def plain : List Trigger := patterns.alternate.plain ++ patterns.scheme.triggers

/-- **All triggers of a part.** -/
def triggers : List Trigger := patterns.alternate.third :: patterns.plain

theorem second_mem : patterns.alternate.second ∈ patterns.plain := by
  simp [plain, AlternatePatterns.plain]

theorem fourth_mem : patterns.alternate.fourth ∈ patterns.plain := by
  simp [plain, AlternatePatterns.plain]

variable {patterns}

theorem first_mem {first : Trigger} (eq : patterns.alternate.first = some first) :
    first ∈ patterns.plain := by
  simp [plain, AlternatePatterns.plain, eq]

theorem mem_plain_of_scheme {scheme : Scheme} (eq : patterns.scheme = scheme) {t : Trigger}
    (mem : t ∈ scheme.triggers) : t ∈ patterns.plain := by
  rw [← eq] at mem
  exact List.mem_append_right _ mem

theorem mem_triggers_of_plain {t : Trigger} (mem : t ∈ patterns.plain) : t ∈ patterns.triggers :=
  List.mem_cons_of_mem _ mem

/-- **The patterns fit the chip's lines**: no trigger asks for another one, the bank of a third step
lies within them, zero hits a third step at most, and the second step stands apart from what is
tried before it. -/
@[mk_iff] structure FitLines (patterns : Patterns) : Prop where
  mask : ∀ t ∈ patterns.triggers, t.mask &&& 0x3FFF = t.mask
  shift : (0x3FFF >>> patterns.alternate.shift.toUInt32) &&& 3 = (3 : UInt32)
  offZero : ∀ t ∈ patterns.plain, t.hits 0 = false
  second_first : ∀ first ∈ patterns.alternate.first, patterns.alternate.second.Apart first
  second_arm : patterns.alternate.second.Apart patterns.scheme.arm

instance (patterns : Patterns) : Decidable patterns.FitLines :=
  decidable_of_iff _ (fitLines_iff patterns).symm

end Patterns

/-- **All parts fit.** -/
theorem PartNumber.fitLines : ∀ part : PartNumber, part.patterns.FitLines := by
  decide +kernel

/-! ## Fourteen lines -/

/-- A trigger that asks for the chip's lines alone does not see the others. -/
theorem Trigger.hits_pins {trigger : Trigger} (mask : trigger.mask &&& 0x3FFF = trigger.mask)
    (address : UInt32) : trigger.hits (pins address) = trigger.hits address := by
  have asked : (0x3FFF : UInt32) &&& trigger.mask.toUInt32 = trigger.mask.toUInt32 := by
    rw [UInt32.and_comm]
    simpa using congrArg UInt16.toUInt32 mask
  rw [Bool.eq_iff_iff, hits_iff, hits_iff, pins, UInt32.and_assoc, asked]

namespace Patterns.FitLines

variable {patterns : Patterns} (fit : patterns.FitLines) {address : UInt32}

include fit

theorem third_pins (address : UInt32) :
    patterns.alternate.third.hits (pins address) = patterns.alternate.third.hits address :=
  Trigger.hits_pins (fit.mask _ List.mem_cons_self) address

theorem arms_pins (address : UInt32) :
    patterns.scheme.arms (pins address) = patterns.scheme.arms address := by
  have mem := mem_plain_of_scheme rfl patterns.scheme.arm_mem
  rw [Scheme.arms_eq, Scheme.arms_eq]
  exact Trigger.hits_pins (fit.mask _ (mem_triggers_of_plain mem)) address

theorem firstHits_pins (address : UInt32) :
    patterns.alternate.firstHits (pins address) = patterns.alternate.firstHits address := by
  unfold AlternatePatterns.firstHits
  cases eq : patterns.alternate.first with
  | none => rfl
  | some first =>
    exact Trigger.hits_pins (fit.mask _ (mem_triggers_of_plain (first_mem eq))) address

/-- **A third step carries the same bank on the chip's lines** as on all of them. -/
theorem bankOf_pins (address : UInt32) :
    patterns.alternate.bankOf (pins address) = patterns.alternate.bankOf address := by
  rw [AlternatePatterns.bankOf, AlternatePatterns.bankOf, pins, UInt32.shiftRight_and,
    UInt32.and_assoc, fit.shift]

/-! ## Off zero -/

/-- **An address that hits a trigger is off zero**, unless the trigger is a third step. -/
theorem ne_zero_of_hits {t : Trigger} (mem : t ∈ patterns.plain) (hit : t.hits address = true) :
    address ≠ 0 := by
  rintro rfl
  rw [fit.offZero t mem] at hit
  cases hit

/-- An address that hits a trigger of the further protocol is off zero. -/
theorem ne_zero_of_scheme {scheme : Scheme} (eq : patterns.scheme = scheme) {t : Trigger}
    (mem : t ∈ scheme.triggers) (hit : t.hits address = true) : address ≠ 0 :=
  fit.ne_zero_of_hits (mem_plain_of_scheme eq mem) hit

theorem ne_zero_of_first (hit : patterns.alternate.firstHits address = true) : address ≠ 0 := by
  obtain ⟨first, eq, hit⟩ := (Option.any_eq_true _ _).mp hit
  exact fit.ne_zero_of_hits (first_mem eq) hit

/-! ## The second step -/

theorem arms_of_second (second : patterns.alternate.second.hits address = true) :
    patterns.scheme.arms address = false := by
  rw [Scheme.arms_eq]
  exact fit.second_arm.not_hits second

theorem firstHits_of_second (second : patterns.alternate.second.hits address = true) :
    patterns.alternate.firstHits address = false := by
  unfold AlternatePatterns.firstHits
  cases eq : patterns.alternate.first with
  | none => rfl
  | some first => exact (fit.second_first first eq).not_hits second

end Patterns.FitLines

/-- A bank select is off zero. -/
theorem PartNumber.ne_zero_of_selects {part : PartNumber} {address : UInt32}
    (selects : part.patterns.selects address = true) : address ≠ 0 := by
  obtain ⟨i, rfl⟩ := Patterns.selects_iff.mp selects
  exact (part.drivable.1.select i).1.1

end Slapstic
