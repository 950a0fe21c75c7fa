import Slapstic.Proofs.Chip.Transition
import Slapstic.Proofs.Part.Encoding

/-!
# Proofs/Chip/Drive — on every part there is an address for every step

A chip is driven through its protocols by addresses that do one thing and nothing else.  Mostly the
value of a trigger serves (`hits_value`), and it has to be checked that no earlier trigger takes the
address.  Three kinds of address need more care:

* a third step of the alternate sequence for each bank that is not zero itself, `thirdFor`;
* a twiddle under either toggle, `toggled`;
* an addition that does not escape and leads through all four banks, the `filled` address of one.

What is asked of the addresses is a structure for each protocol, and the catalog is checked against
all of them at once (`drivable`).
-/

namespace Slapstic

/-- **An address that reaches the chip as it is**, and is not zero. -/
def Wired (address : UInt32) : Prop := address ≠ 0 ∧ pins address = address

instance (address : UInt32) : Decidable (Wired address) :=
  inferInstanceAs (Decidable (address ≠ 0 ∧ pins address = address))

/-! ## Triggers -/

namespace Trigger

/-- A trigger's own value hits it. -/
@[simp] theorem hits_value (trigger : Trigger) :
    trigger.hits trigger.value.toUInt32 = true :=
  hits_iff.mpr rfl

/-- The value with all free address lines high. -/
def filled (trigger : Trigger) : UInt32 :=
  (trigger.value ||| (0x3FFF &&& ~~~trigger.mask)).toUInt32

end Trigger

/-! ## The simple protocol and the alternate sequence -/

/-- An address of the third step that carries a bank. -/
def AlternatePatterns.thirdFor (steps : AlternatePatterns) (i : Fin 4) : UInt32 :=
  steps.third.filled &&& ~~~((3 : UInt32) <<< steps.shift.toUInt32) |||
    UInt32.ofNat i <<< steps.shift.toUInt32

namespace Patterns

/-- **The protocols of all parts can be driven**: a bank select is nothing but that, the first and
the second step of a sequence do not arm the further protocol, and the third carries every bank. -/
@[mk_iff] structure Drivable (patterns : Patterns) : Prop where
  select : ∀ i : Fin 4, Wired (patterns.select.get i).toUInt32 ∧
    patterns.scheme.arms (patterns.select.get i).toUInt32 = false ∧
    patterns.alternate.firstHits (patterns.select.get i).toUInt32 = false ∧
    patterns.alternate.second.hits (patterns.select.get i).toUInt32 = false ∧
    patterns.bankFor? (patterns.select.get i).toUInt32 = some i
  first : ∀ first ∈ patterns.alternate.first,
    Wired first.value.toUInt32 ∧ patterns.scheme.arms first.value.toUInt32 = false
  second : Wired patterns.alternate.second.value.toUInt32 ∧
    patterns.scheme.arms patterns.alternate.second.value.toUInt32 = false
  third : ∀ i : Fin 4, Wired (patterns.alternate.thirdFor i) ∧
    patterns.alternate.third.hits (patterns.alternate.thirdFor i) = true ∧
    patterns.alternate.bankOf (patterns.alternate.thirdFor i) = UInt8.ofNat i

instance (patterns : Patterns) : Decidable patterns.Drivable :=
  decidable_of_iff _ (drivable_iff patterns).symm

end Patterns

/-! ## Bit twiddling -/

namespace Twiddle

/-- All twiddles. -/
def all : List Twiddle := [clear0, set0, clear1, set1]

theorem mem_all (twiddle : Twiddle) : twiddle ∈ all := by
  cases twiddle <;> decide

/-- The twiddle that makes the low bit what it is in a bank. -/
def low (bank : UInt8) : Twiddle := if bank &&& 1 = 0 then clear0 else set0

/-- The twiddle that makes the high bit what it is in a bank. -/
def high (bank : UInt8) : Twiddle := if bank &&& 2 = 0 then clear1 else set1

/-- **Two twiddles lead from any bank to any other.** -/
theorem apply_high_low {bank held : UInt8} (le : bank ≤ 3) (held_le : held ≤ 3) :
    (high bank).apply ((low bank).apply held) = bank := by
  obtain ⟨i, rfl⟩ := exists_bank_of_le le
  obtain ⟨j, rfl⟩ := exists_bank_of_le held_le
  revert i j
  decide

/-- …and one leaves it as it is. -/
theorem apply_low_self {bank : UInt8} (le : bank ≤ 3) : (low bank).apply bank = bank := by
  obtain ⟨i, rfl⟩ := exists_bank_of_le le
  revert i
  decide

end Twiddle

namespace BitwisePatterns

/-- The trigger of a twiddle. -/
def trigger (bits : BitwisePatterns) : Twiddle → Trigger
  | .clear0 => bits.clear0
  | .set0 => bits.set0
  | .clear1 => bits.clear1
  | .set1 => bits.set1

/-- An address that makes a twiddle under a toggle. -/
def toggled (bits : BitwisePatterns) (twiddle : Twiddle) (toggle : UInt8) : UInt32 :=
  (bits.trigger twiddle).value.toUInt32 ^^^ toggle.toUInt32

/-- **The bitwise protocol can be driven**: every twiddle can be made under either toggle. -/
@[mk_iff] structure Drivable (bits : BitwisePatterns) : Prop where
  arm : Wired bits.arm.value.toUInt32
  escape : Wired bits.escape.value.toUInt32
  twiddle : ∀ toggle, toggle = 0 ∨ toggle = 3 → ∀ twiddle, Wired (bits.toggled twiddle toggle) ∧
    bits.twiddle? (bits.toggled twiddle toggle ^^^ toggle.toUInt32) = some twiddle

instance (bits : BitwisePatterns) : Decidable bits.Drivable :=
  decidable_of_iff
    (Wired bits.arm.value.toUInt32 ∧ Wired bits.escape.value.toUInt32 ∧
      [(0 : UInt8), 3].all fun toggle => Twiddle.all.all fun twiddle =>
        Wired (bits.toggled twiddle toggle) ∧
          bits.twiddle? (bits.toggled twiddle toggle ^^^ toggle.toUInt32) = some twiddle)
    (by simp [drivable_iff, Twiddle.mem_all])

end BitwisePatterns

/-! ## Addition -/

namespace AdditivePatterns

/-- **The additive protocol can be driven**: the widest addition of one does not escape, also where
the escape adds one, and leads through all banks, though on some parts it adds three; the escape may
add as well, but leaves no bank out. -/
@[mk_iff] structure Drivable (adds : AdditivePatterns) : Prop where
  arm : Wired adds.arm.value.toUInt32
  confirm : Wired adds.confirm.value.toUInt32
  escape : Wired adds.escape.value.toUInt32
  plus1 : Wired adds.plus1.filled ∧ adds.escape.hits adds.plus1.filled = false
  orbit : ∀ i j : Fin 4, ∃ n : Fin 4,
    (adds.add · adds.plus1.filled)^[n] (UInt8.ofNat i) = UInt8.ofNat j
  ends : ∀ i : Fin 4, ∃ j : Fin 4,
    adds.add (UInt8.ofNat j) adds.escape.value.toUInt32 = UInt8.ofNat i

instance (adds : AdditivePatterns) : Decidable adds.Drivable :=
  decidable_of_iff _ (drivable_iff adds).symm

end AdditivePatterns

/-! ## The catalog -/

/-- **Every part can be driven** through all of its protocols. -/
theorem PartNumber.drivable : ∀ part : PartNumber, part.patterns.Drivable ∧
    (∀ bits ∈ part.patterns.scheme.bitwise?, bits.Drivable) ∧
      ∀ adds ∈ part.patterns.scheme.additive?, adds.Drivable := by
  decide +kernel

theorem PartNumber.drivable_bitwise {part : PartNumber} {bits : BitwisePatterns}
    (scheme : part.patterns.scheme = .bitwise bits) : bits.Drivable :=
  part.drivable.2.1 bits (Scheme.mem_bitwise? scheme)

theorem PartNumber.drivable_additive {part : PartNumber} {adds : AdditivePatterns}
    (scheme : part.patterns.scheme = .additive adds) : adds.Drivable :=
  part.drivable.2.2 adds (Scheme.mem_additive? scheme)

end Slapstic
