import Slapstic.Proofs.Chip.Drive

/-!
# Proofs/Part/Codes — each bit of the bank is what the last code on it says

The bank that twiddling addresses spell is a fold over their twiddles.  Here it is read bit by bit.
Each address that counts has a **code**, its two lowest bits, flipped in every other one; the high
bit of a code names a bit of the bank, its low bit says what that becomes.  So a bit of the bank is
what the last code on it says, and without one it is what it was (`testBit_encoded`).

Whatever the toggle, an address of the arming block hits one of the four twiddles and no other
(`existsUnique_hits_iff`).
-/

namespace Slapstic

/-! ## Twiddles, bit by bit -/

/-- A byte has eight bits. -/
theorem testBit_byte (byte : UInt8) {i : Nat} (le : 8 ≤ i) : byte.toNat.testBit i = false :=
  Nat.testBit_lt_two_pow (byte.toNat_lt.trans_le (Nat.pow_le_pow_right (by decide) le))

namespace Twiddle

/-- The bit of the bank that a twiddle is about. -/
def bit : Twiddle → Nat
  | clear0 | set0 => 0
  | clear1 | set1 => 1

/-- What a twiddle makes of its bit. -/
def sets : Twiddle → Bool
  | clear0 | clear1 => false
  | set0 | set1 => true

/-- **A twiddle changes its bit and no other.** -/
theorem testBit_apply (twiddle : Twiddle) (bank : UInt8) (i : Nat) :
    (twiddle.apply bank).toNat.testBit i =
      if twiddle.bit = i then twiddle.sets else bank.toNat.testBit i := by
  rcases Nat.lt_or_ge i 8 with low | high
  · have masks : ∀ i < 8, Nat.testBit 254 i = !decide (0 = i) ∧ Nat.testBit 1 i = decide (0 = i) ∧
        Nat.testBit 253 i = !decide (1 = i) ∧ Nat.testBit 2 i = decide (1 = i) := by decide
    obtain ⟨clear0, set0, clear1, set1⟩ := masks i low
    cases twiddle with
    | clear0 => obtain rfl | ne := eq_or_ne 0 i <;> simp [apply, bit, sets, *]
    | set0 => obtain rfl | ne := eq_or_ne 0 i <;> simp [apply, bit, sets, *]
    | clear1 => obtain rfl | ne := eq_or_ne 1 i <;> simp [apply, bit, sets, *]
    | set1 => obtain rfl | ne := eq_or_ne 1 i <;> simp [apply, bit, sets, *]
  · have other : twiddle.bit ≠ i := by
      cases twiddle <;> simp [bit] <;> omega
    rw [testBit_byte _ high, testBit_byte _ high, if_neg other]

/-- The two lowest bits of a flipped address. -/
theorem xor_and_three (address : UInt32) : (address ^^^ 3) &&& 3 = (address &&& 3) ^^^ 3 :=
  UInt32.toNat_inj.mp (by simp [Nat.and_xor_distrib_right])

/-- An address is read by its two lowest bits alone. -/
theorem ofAddress_and_three (address : UInt32) : ofAddress (address &&& 3) = ofAddress address := by
  simp [ofAddress, UInt32.and_assoc]

/-- **The high bit of a code names the bit.** -/
theorem bit_ofAddress {code : UInt32} (small : code &&& 3 = code) :
    (ofAddress code).bit = code.toNat / 2 := by
  rcases and_three_cases code with eq | eq | eq | eq <;> rw [small] at eq <;> subst eq <;> decide

/-- **The low bit of a code says what it becomes.** -/
theorem sets_ofAddress {code : UInt32} (small : code &&& 3 = code) :
    (ofAddress code).sets = (code.toNat % 2 == 1) := by
  rcases and_three_cases code with eq | eq | eq | eq <;> rw [small] at eq <;> subst eq <;> decide

end Twiddle

/-! ## Codes -/

/-- **What codes say of a bit**: the last one with the bit for its high bit counts. -/
def saidOf (codes : List UInt32) (i : Nat) : Option Bool :=
  (codes.filter fun code : UInt32 => code.toNat / 2 == i).getLast?.map fun code =>
    code.toNat % 2 == 1

/-- One code more. -/
theorem saidOf_concat (codes : List UInt32) (code : UInt32) (i : Nat) :
    saidOf (codes ++ [code]) i =
      if code.toNat / 2 = i then some (code.toNat % 2 == 1) else saidOf codes i := by
  unfold saidOf
  split
  next eq => simp [eq]
  next ne => simp [ne]

/-- **A fold over codes, bit by bit.** -/
theorem testBit_foldl_apply {codes : List UInt32} (small : ∀ code ∈ codes, code &&& 3 = code)
    (held : UInt8) (i : Nat) :
    (codes.foldl (fun bank code => (Twiddle.ofAddress code).apply bank) held).toNat.testBit i =
      (saidOf codes i).getD (held.toNat.testBit i) := by
  induction codes using List.reverseRecOn with
  | nil => rfl
  | append_singleton before code ih =>
    have code_small := small code (by simp)
    rw [List.foldl_concat, Twiddle.testBit_apply, Twiddle.bit_ofAddress code_small,
      Twiddle.sets_ofAddress code_small, saidOf_concat, ih fun c mem => small c (by simp [mem])]
    split <;> rfl

namespace BitwisePatterns

variable {bits : BitwisePatterns}

/-- **The codes of a list of addresses**: the two lowest bits of those in the arming block, flipped
in the second, the fourth and so on. -/
def codes (bits : BitwisePatterns) (addresses : List UInt32) : List UInt32 :=
  (bits.counted addresses).mapIdx fun j address =>
    if j % 2 = 0 then address &&& 3 else (address &&& 3) ^^^ 3

/-- A code has two bits. -/
theorem and_three_of_mem_codes {addresses : List UInt32} {code : UInt32}
    (mem : code ∈ bits.codes addresses) : code &&& 3 = code := by
  obtain ⟨j, inRange, rfl⟩ := List.mem_mapIdx.mp mem
  split
  · rw [UInt32.and_assoc, UInt32.and_self]
  · rw [Twiddle.xor_and_three, UInt32.and_assoc, UInt32.and_self]

/-- Flipping the low bits of an address flips its code. -/
theorem ofAddress_flip (address : UInt32) (count : Nat) :
    Twiddle.ofAddress (address ^^^ (flip count).toUInt32) =
      Twiddle.ofAddress (if count % 2 = 0 then address &&& 3 else (address &&& 3) ^^^ 3) := by
  unfold flip
  split
  · rw [Twiddle.ofAddress_and_three]
    simp
  · change Twiddle.ofAddress (address ^^^ 3) = _
    rw [← Twiddle.ofAddress_and_three, Twiddle.xor_and_three]

/-- Codes name the twiddles. -/
theorem twiddles_eq (bits : BitwisePatterns) (addresses : List UInt32) :
    bits.twiddles addresses = (bits.codes addresses).map Twiddle.ofAddress := by
  simp [twiddles, codes, List.mapIdx_eq_zipIdx_map, ofAddress_flip]

/-- **Each bit of the bank that addresses spell** is what the last code on it says, or what it
was. -/
theorem testBit_encoded (bits : BitwisePatterns) (held : UInt8) (addresses : List UInt32)
    (i : Nat) :
    (bits.encoded held addresses).toNat.testBit i =
      (saidOf (bits.codes addresses) i).getD (held.toNat.testBit i) := by
  rw [encoded, twiddles_eq, List.foldl_map]
  exact testBit_foldl_apply (fun _ mem => and_three_of_mem_codes mem) held i

/-! ## One twiddle at a time -/

/-- The trigger of a twiddle covers the addresses of the arming block that name the twiddle. -/
theorem InBlock.trigger_hits_iff (block : bits.InBlock) (twiddle : Twiddle) (address : UInt32) :
    (bits.trigger twiddle).hits address = true ↔
      bits.arm.hits address = true ∧ Twiddle.ofAddress address = twiddle := by
  have narrow_iff : ∀ code : UInt16, code &&& 3 = code →
      ((bits.arm.narrow code).hits address = true ↔
        bits.arm.hits address = true ∧ address &&& 3 = code.toUInt32) :=
    fun _ small => Trigger.hits_narrow_iff block.mask_free block.value_free small
  cases twiddle <;>
    simp only [trigger, block.clear0_eq, block.set0_eq, block.clear1_eq, block.set1_eq,
      narrow_iff 0 rfl, narrow_iff 1 rfl, narrow_iff 2 rfl, narrow_iff 3 rfl] <;>
    rcases and_three_cases address with low | low | low | low <;>
    simp [Twiddle.ofAddress, low]

/-- **Under either toggle an address hits exactly one twiddle** if and only if it lies in the arming
block. -/
theorem InBlock.existsUnique_hits_iff (block : bits.InBlock) {toggle : UInt8}
    (known : toggle = 0 ∨ toggle = 3) (address : UInt32) :
    (∃! twiddle, (bits.trigger twiddle).hits (address ^^^ toggle.toUInt32) = true) ↔
      bits.arm.hits address = true := by
  have inBlock : bits.arm.hits (address ^^^ toggle.toUInt32) = bits.arm.hits address := by
    rcases known with rfl | rfl
    · simp
    · exact block.arm_hits_xor address
  simp only [block.trigger_hits_iff, inBlock]
  constructor
  · rintro ⟨twiddle, ⟨hit, -⟩, -⟩
    exact hit
  · intro hit
    exact ⟨_, ⟨hit, rfl⟩, fun _ other => other.2.symm⟩

end BitwisePatterns

end Slapstic
