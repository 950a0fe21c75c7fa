import Mathlib.Tactic
import Slapstic.Part.Trigger

/-!
# Proofs/Part/Trigger — the addresses that hit a trigger, bit by bit

A hit is agreement on the masked bits (`hits_iff_testBit`), so two triggers that want one bit to
differ are never hit together (`Apart.not_hits`), and an address may be changed on the free bits
(`hits_xor`).  A trigger whose two lowest bits are free covers **blocks of four** addresses;
`narrow` picks one address out of each (`hits_narrow_iff`).
-/

namespace Slapstic.Trigger

/-- **A hit is agreement on the masked bits.** -/
theorem hits_iff_testBit {trigger : Trigger} {address : UInt32} :
    trigger.hits address = true ↔ ∀ i, trigger.mask.toNat.testBit i = true →
      address.toNat.testBit i = trigger.value.toNat.testBit i := by
  rw [hits_iff, ← UInt32.toNat_inj]
  simp only [UInt32.toNat_and, UInt16.toNat_toUInt32]
  constructor
  · intro h i masked
    have := congrArg (Nat.testBit · i) h
    simpa [masked] using this
  · intro h
    refine Nat.eq_of_testBit_eq fun i => ?_
    rw [Nat.testBit_and, Nat.testBit_and]
    cases masked : trigger.mask.toNat.testBit i with
    | false => simp
    | true => simp [h i masked]

/-! ## Triggers that exclude each other -/

/-- **Two triggers stand apart** if they ask for one bit and want it different. -/
def Apart (t u : Trigger) : Prop := (t.mask &&& u.mask) &&& (t.value ^^^ u.value) ≠ 0

instance (t u : Trigger) : Decidable (t.Apart u) :=
  inferInstanceAs (Decidable ((t.mask &&& u.mask) &&& (t.value ^^^ u.value) ≠ 0))

/-- The bit on which they differ. -/
theorem Apart.exists_bit {t u : Trigger} (apart : t.Apart u) :
    ∃ i, t.mask.toNat.testBit i = true ∧ u.mask.toNat.testBit i = true ∧
      t.value.toNat.testBit i ≠ u.value.toNat.testBit i := by
  have nonzero : ((t.mask &&& u.mask) &&& (t.value ^^^ u.value)).toNat ≠ 0 := fun h =>
    apart (UInt16.toNat_inj.mp h)
  obtain ⟨i, bit⟩ := Nat.exists_testBit_of_ne_zero nonzero
  simp only [UInt16.toNat_and, UInt16.toNat_xor, Nat.testBit_and, Nat.testBit_xor,
    Bool.and_eq_true] at bit
  exact ⟨i, bit.1.1, bit.1.2, by simpa using bit.2⟩

theorem Apart.symm {t u : Trigger} (apart : t.Apart u) : u.Apart t := by
  unfold Apart
  rwa [UInt16.and_comm u.mask, UInt16.xor_comm u.value]

/-- **No address hits both of two triggers that stand apart.** -/
theorem Apart.not_hits {t u : Trigger} (apart : t.Apart u) {address : UInt32}
    (hit : t.hits address = true) : u.hits address = false := by
  obtain ⟨i, asked, asked', differ⟩ := apart.exists_bit
  refine Bool.eq_false_iff.mpr fun hit' => differ ?_
  rw [← hits_iff_testBit.mp hit i asked, hits_iff_testBit.mp hit' i asked']

/-! ## Free bits -/

/-- **Free bits may be flipped.** -/
theorem hits_xor {trigger : Trigger} {flips : UInt32}
    (free : trigger.mask.toUInt32 &&& flips = 0) (address : UInt32) :
    trigger.hits (address ^^^ flips) = trigger.hits address := by
  have unmasked : ∀ i, trigger.mask.toNat.testBit i = true → flips.toNat.testBit i = false := by
    intro i masked
    have := congrArg (fun n : UInt32 => n.toNat.testBit i) free
    simpa [masked] using this
  rw [Bool.eq_iff_iff, hits_iff_testBit, hits_iff_testBit]
  refine forall_congr' fun i => imp_congr_right fun masked => ?_
  rw [UInt32.toNat_xor, Nat.testBit_xor, unmasked i masked, Bool.xor_false]

/-- The trigger narrowed to one address of each of its blocks of four. -/
def narrow (trigger : Trigger) (code : UInt16) : Trigger :=
  ⟨trigger.mask ||| 3, trigger.value ||| code⟩

/-- **An address of a block is told by its two lowest bits.** -/
theorem hits_narrow_iff {trigger : Trigger} (mask_free : trigger.mask &&& 3 = 0)
    (value_free : trigger.value &&& 3 = 0) {code : UInt16} (small : code &&& 3 = code)
    {address : UInt32} :
    (trigger.narrow code).hits address = true ↔
      trigger.hits address = true ∧ address &&& 3 = code.toUInt32 := by
  have mask_bit : ∀ i, (trigger.mask.toNat.testBit i && Nat.testBit 3 i) = false := fun i => by
    simpa using congrArg (fun n : UInt16 => n.toNat.testBit i) mask_free
  have value_bit : ∀ i, (trigger.value.toNat.testBit i && Nat.testBit 3 i) = false := fun i => by
    simpa using congrArg (fun n : UInt16 => n.toNat.testBit i) value_free
  have code_bit : ∀ i, (code.toNat.testBit i && Nat.testBit 3 i) = code.toNat.testBit i :=
    fun i => by simpa using congrArg (fun n : UInt16 => n.toNat.testBit i) small
  have low_iff : address &&& 3 = code.toUInt32 ↔
      ∀ i, (address.toNat.testBit i && Nat.testBit 3 i) = code.toNat.testBit i := by
    rw [← UInt32.toNat_inj]
    refine ⟨fun h i => by simpa using congrArg (Nat.testBit · i) h, fun h => ?_⟩
    exact Nat.eq_of_testBit_eq fun i => by simpa using h i
  rw [hits_iff_testBit, hits_iff_testBit, low_iff, ← forall_and]
  refine forall_congr' fun i => ?_
  have m := mask_bit i
  have v := value_bit i
  have c := code_bit i
  simp only [narrow, UInt16.toNat_or, Nat.testBit_or, UInt16.reduceToNat]
  revert m v c
  generalize trigger.mask.toNat.testBit i = m, trigger.value.toNat.testBit i = v,
    code.toNat.testBit i = c, address.toNat.testBit i = a, Nat.testBit 3 i = low
  revert m v c a low
  decide

end Slapstic.Trigger
