import Slapstic.Part.Catalog
import Slapstic.Proofs.Part.Trigger

/-!
# Proofs/Part/Encoding — the bank that twiddles and additions spell

Both further protocols turn a list of addresses into a bank.  `BitwisePatterns.encoded` and
`AdditivePatterns.encoded` say which, with no phase, toggle or pending bank in sight:

* of the addresses that twiddle, the ones in the arming block count, every other one with its two
  lowest bits flipped; each sets or clears the bit that they name;
* of the addresses that add, each counts one, two or three, and the sum is taken modulo four.

The lemmas `encoded_concat` read them one address at a time.
-/

namespace Slapstic

/-! ## Banks -/

/-- A bank is one of four. -/
theorem exists_bank_of_le {bank : UInt8} (le : bank ≤ 3) : ∃ i : Fin 4, bank = UInt8.ofNat i := by
  have := UInt8.le_iff_toNat_le.mp le
  simp only [UInt8.reduceToNat] at this
  exact ⟨⟨bank.toNat, by omega⟩, by simp⟩

theorem Twiddle.apply_le {bank : UInt8} (twiddle : Twiddle) (le : bank ≤ 3) :
    twiddle.apply bank ≤ 3 := by
  obtain ⟨i, rfl⟩ := exists_bank_of_le le
  revert i
  cases twiddle <;> decide

/-! ## Twiddles -/

theorem Scheme.mem_bitwise? {scheme : Scheme} {bits : BitwisePatterns}
    (eq : scheme = .bitwise bits) : bits ∈ scheme.bitwise? := by
  rw [eq]
  rfl

theorem Scheme.mem_additive? {scheme : Scheme} {adds : AdditivePatterns}
    (eq : scheme = .additive adds) : adds ∈ scheme.additive? := by
  rw [eq]
  rfl

/-- The two lowest bits of an address. -/
theorem and_three_cases (address : UInt32) :
    address &&& 3 = 0 ∨ address &&& 3 = 1 ∨ address &&& 3 = 2 ∨ address &&& 3 = 3 := by
  have le : (address &&& 3).toNat ≤ 3 := by
    rw [UInt32.toNat_and]
    exact Nat.and_le_right
  simp only [← UInt32.toNat_inj, UInt32.reduceToNat]
  omega

/-- **The twiddle that an address names** by its two lowest bits. -/
def Twiddle.ofAddress (address : UInt32) : Twiddle :=
  if address &&& 3 = 0 then .clear0
  else if address &&& 3 = 1 then .set0
  else if address &&& 3 = 2 then .clear1
  else .set1

namespace BitwisePatterns

/-- **The twiddles fill the arming block**: each asks for what the arming trigger asks for and for
one value of the two lowest bits, which arming leaves free; the escape lies outside. -/
@[mk_iff] structure InBlock (bits : BitwisePatterns) : Prop where
  mask_free : bits.arm.mask &&& 3 = 0
  value_free : bits.arm.value &&& 3 = 0
  clear0_eq : bits.clear0 = bits.arm.narrow 0
  set0_eq : bits.set0 = bits.arm.narrow 1
  clear1_eq : bits.clear1 = bits.arm.narrow 2
  set1_eq : bits.set1 = bits.arm.narrow 3
  escape_apart : bits.arm.Apart bits.escape

instance (bits : BitwisePatterns) : Decidable bits.InBlock :=
  decidable_of_iff _ (inBlock_iff bits).symm

/-- On every part of the first revision the twiddles fill the arming block. -/
theorem inBlock_of_mem : ∀ part : PartNumber, ∀ bits ∈ part.patterns.scheme.bitwise?,
    bits.InBlock := by
  decide +kernel

variable {bits : BitwisePatterns}

theorem inBlock_of_scheme {part : PartNumber} (scheme : part.patterns.scheme = .bitwise bits) :
    bits.InBlock :=
  inBlock_of_mem part bits (Scheme.mem_bitwise? scheme)

/-- **An address twiddles if it lies in the arming block**, and then as its lowest bits say. -/
theorem InBlock.twiddle?_eq (block : bits.InBlock) (address : UInt32) :
    bits.twiddle? address =
      if bits.arm.hits address then some (Twiddle.ofAddress address) else none := by
  have narrow_iff : ∀ code : UInt16, code &&& 3 = code →
      ((bits.arm.narrow code).hits address = true ↔
        bits.arm.hits address = true ∧ address &&& 3 = code.toUInt32) :=
    fun _ small => Trigger.hits_narrow_iff block.mask_free block.value_free small
  simp only [twiddle?, Twiddle.ofAddress, block.clear0_eq, block.set0_eq, block.clear1_eq,
    block.set1_eq, narrow_iff 0 rfl, narrow_iff 1 rfl, narrow_iff 2 rfl, narrow_iff 3 rfl]
  rcases and_three_cases address with low | low | low | low <;> simp [low]

/-- An address in the arming block stays there when its lowest bits are flipped. -/
theorem InBlock.arm_hits_xor (block : bits.InBlock) (address : UInt32) :
    bits.arm.hits (address ^^^ 3) = bits.arm.hits address := by
  refine Trigger.hits_xor ?_ address
  have := congrArg UInt16.toUInt32 block.mask_free
  simpa using this

/-- The flip of the two lowest bits after so many addresses that counted. -/
def flip (count : Nat) : UInt8 := if count % 2 = 0 then 0 else 3

theorem flip_succ (count : Nat) : flip (count + 1) = flip count ^^^ 3 := by
  rcases Nat.mod_two_eq_zero_or_one count with even | odd
  · have : (count + 1) % 2 = 1 := by omega
    simp [flip, even, this]
  · have : (count + 1) % 2 = 0 := by omega
    simp [flip, odd, this]

/-- Flipping never leads into the arming block or out of it. -/
theorem InBlock.arm_hits_flip (block : bits.InBlock) (address : UInt32) (count : Nat) :
    bits.arm.hits (address ^^^ (flip count).toUInt32) = bits.arm.hits address := by
  unfold flip
  split
  · simp
  · exact block.arm_hits_xor address

/-- Whatever the flip, the addresses that twiddle are those of the arming block. -/
theorem InBlock.twiddle?_flip_eq_some_iff (block : bits.InBlock) {address : UInt32} {count : Nat}
    {twiddle : Twiddle} :
    bits.twiddle? (address ^^^ (flip count).toUInt32) = some twiddle ↔
      bits.arm.hits address = true ∧
        Twiddle.ofAddress (address ^^^ (flip count).toUInt32) = twiddle := by
  rw [block.twiddle?_eq, block.arm_hits_flip]
  simp

theorem InBlock.twiddle?_flip_eq_none_iff (block : bits.InBlock) {address : UInt32}
    {count : Nat} :
    bits.twiddle? (address ^^^ (flip count).toUInt32) = none ↔
      bits.arm.hits address = false := by
  rw [block.twiddle?_eq, block.arm_hits_flip]
  simp

/-- The addresses that count: those in the arming block. -/
def counted (bits : BitwisePatterns) (addresses : List UInt32) : List UInt32 :=
  addresses.filter bits.arm.hits

/-- **The twiddles that a list of addresses spells**: of those that count, the second, the fourth
and so on are read with their two lowest bits flipped. -/
def twiddles (bits : BitwisePatterns) (addresses : List UInt32) : List Twiddle :=
  (bits.counted addresses).mapIdx fun j address =>
    Twiddle.ofAddress (address ^^^ (flip j).toUInt32)

/-- **The bank that a list of twiddling addresses spells**, from the bank held before. -/
def encoded (bits : BitwisePatterns) (held : UInt8) (addresses : List UInt32) : UInt8 :=
  (bits.twiddles addresses).foldl (fun bank twiddle => twiddle.apply bank) held

theorem counted_concat_of_hit {addresses : List UInt32} {address : UInt32}
    (hit : bits.arm.hits address = true) :
    bits.counted (addresses ++ [address]) = bits.counted addresses ++ [address] := by
  simp [counted, hit]

theorem counted_concat_of_miss {addresses : List UInt32} {address : UInt32}
    (miss : bits.arm.hits address = false) :
    bits.counted (addresses ++ [address]) = bits.counted addresses := by
  simp [counted, miss]

/-- An address that counts adds its twiddle. -/
theorem encoded_concat_of_hit {held : UInt8} {addresses : List UInt32} {address : UInt32}
    (hit : bits.arm.hits address = true) :
    bits.encoded held (addresses ++ [address]) =
      (Twiddle.ofAddress (address ^^^ (flip (bits.counted addresses).length).toUInt32)).apply
        (bits.encoded held addresses) := by
  simp [encoded, twiddles, counted_concat_of_hit hit, List.mapIdx_concat]

/-- Any other address adds nothing. -/
theorem encoded_concat_of_miss {held : UInt8} {addresses : List UInt32} {address : UInt32}
    (miss : bits.arm.hits address = false) :
    bits.encoded held (addresses ++ [address]) = bits.encoded held addresses := by
  rw [encoded, twiddles, counted_concat_of_miss miss, encoded, twiddles]

end BitwisePatterns

/-! ## Additions -/

namespace AdditivePatterns

variable {adds : AdditivePatterns}

/-- The bank after the first of the two additions. -/
def once (adds : AdditivePatterns) (bank : UInt8) (address : UInt32) : UInt8 :=
  if adds.plus1.hits address then (bank + 1) &&& 3 else bank

theorem once_le (adds : AdditivePatterns) {bank : UInt8} (le : bank ≤ 3) (address : UInt32) :
    adds.once bank address ≤ 3 := by
  obtain ⟨i, rfl⟩ := exists_bank_of_le le
  unfold once
  generalize adds.plus1.hits address = one
  revert i one
  decide

/-- **The two sums of an addition fit into a byte**, and far below its end: one is formed from the
bank, two from what the first addition has left of it. -/
structure SumsFit (adds : AdditivePatterns) (bank : UInt8) (address : UInt32) : Prop where
  add_eq : adds.add bank address =
    if adds.plus2.hits address then (adds.once bank address + 2) &&& 3 else adds.once bank address
  first : (bank + 1).toNat = bank.toNat + 1 ∧ bank + 1 ≤ 5
  second : (adds.once bank address + 2).toNat = (adds.once bank address).toNat + 2 ∧
    adds.once bank address + 2 ≤ 5

/-- One or two more than a bank is at most five. -/
theorem bank_add_le {bank : UInt8} (le : bank ≤ 3) :
    ((bank + 1).toNat = bank.toNat + 1 ∧ bank + 1 ≤ 5) ∧
      (bank + 2).toNat = bank.toNat + 2 ∧ bank + 2 ≤ 5 := by
  obtain ⟨i, rfl⟩ := exists_bank_of_le le
  revert i
  decide

theorem sumsFit_of_le (adds : AdditivePatterns) {bank : UInt8} (le : bank ≤ 3)
    (address : UInt32) : adds.SumsFit bank address where
  add_eq := rfl
  first := (bank_add_le le).1
  second := (bank_add_le (adds.once_le le address)).2

/-- What an address adds. -/
def increment (adds : AdditivePatterns) (address : UInt32) : Nat :=
  (if adds.plus1.hits address then 1 else 0) + if adds.plus2.hits address then 2 else 0

/-- **The bank that a list of adding addresses spells**, from the bank held before. -/
def encoded (adds : AdditivePatterns) (held : UInt8) (addresses : List UInt32) : UInt8 :=
  UInt8.ofNat ((held.toNat + (addresses.map adds.increment).sum) % 4)

/-- **Adding is addition modulo four.** -/
theorem toNat_add {bank : UInt8} (le : bank ≤ 3) (address : UInt32) :
    (adds.add bank address).toNat = (bank.toNat + adds.increment address) % 4 := by
  obtain ⟨i, rfl⟩ := exists_bank_of_le le
  unfold add increment
  generalize adds.plus1.hits address = one, adds.plus2.hits address = two
  revert i one two
  decide

theorem toNat_encoded (adds : AdditivePatterns) (held : UInt8) (addresses : List UInt32) :
    (adds.encoded held addresses).toNat = (held.toNat + (addresses.map adds.increment).sum) % 4 := by
  simp [encoded]
  omega

theorem encoded_le (adds : AdditivePatterns) (held : UInt8) (addresses : List UInt32) :
    adds.encoded held addresses ≤ 3 := by
  rw [UInt8.le_iff_toNat_le, toNat_encoded]
  simp
  omega

theorem encoded_nil (adds : AdditivePatterns) {held : UInt8} (le : held ≤ 3) :
    adds.encoded held [] = held := by
  have := UInt8.le_iff_toNat_le.mp le
  refine UInt8.toNat_inj.mp ?_
  rw [toNat_encoded]
  simp only [UInt8.reduceToNat, List.map_nil, List.sum_nil, Nat.add_zero] at *
  exact Nat.mod_eq_of_lt (by omega)

/-- One address more adds what it adds. -/
theorem encoded_concat (adds : AdditivePatterns) (held : UInt8) (addresses : List UInt32)
    (address : UInt32) :
    adds.encoded held (addresses ++ [address]) =
      adds.add (adds.encoded held addresses) address := by
  refine UInt8.toNat_inj.mp ?_
  rw [toNat_add (adds.encoded_le held addresses), toNat_encoded, toNat_encoded, List.map_append,
    List.sum_append, List.map_singleton, List.sum_singleton]
  omega

end AdditivePatterns

end Slapstic
