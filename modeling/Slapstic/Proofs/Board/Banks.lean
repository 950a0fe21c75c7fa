import Mathlib.Tactic
import Slapstic.Board.Image

/-!
# Proofs/Board/Banks — an image is its four banks in order

Every byte of an image is a **cell** of its own: an offset in one of the four banks (`Image.cell`).
A peek reads the cell that its bank and its offset come down to (`Image.position_eq_cell`), and for
a word the next cell too, which is never the first one of another bank since an even offset is not
the last of a bank of even size (`Image.evenOffset_mod_succ_lt`).  So no peek leaves its bank, and
the banks spell the image (`Image.banks_partition`).

An offset has 32 bits.  A bank may be larger than that; its cells from 2³² on are there and no peek
comes down to them.
-/

namespace Slapstic.Image

variable {image : Image} {bank : UInt8} {offset : UInt32}

/-! ## Images that can be cut -/

theorem ofBytes_eq_ok_iff {bytes : Array UInt8} :
    ofBytes bytes = .ok image ↔ image.bytes = bytes := by
  obtain ⟨held, bankSize, bankSize_pos, bankSize_even, size_eq⟩ := image
  unfold ofBytes
  dsimp only
  constructor
  · intro ok
    split at ok
    · cases ok
      rfl
    · cases ok
  · rintro rfl
    obtain rfl : bankSize = held.size / 4 := by omega
    exact dif_pos ⟨Nat.ne_of_gt bankSize_pos, by omega, Nat.mod_eq_zero_of_dvd bankSize_even⟩

/-- **Bytes make an image** if there are some and their number is a multiple of eight. -/
theorem exists_ofBytes_eq_ok_iff {bytes : Array UInt8} :
    (∃ image, ofBytes bytes = .ok image) ↔ bytes.size ≠ 0 ∧ 8 ∣ bytes.size := by
  constructor
  · rintro ⟨image, ok⟩
    obtain rfl := ofBytes_eq_ok_iff.mp ok
    have := image.bankSize_pos
    have := image.bankSize_even
    have := image.size_eq
    omega
  · rintro ⟨nonzero, eight⟩
    exact ⟨_, dif_pos ⟨by omega, by omega, by omega⟩⟩

theorem ofBytes_eq_error_iff {bytes : Array UInt8} {error : BadSize} :
    ofBytes bytes = .error error ↔ ¬ (bytes.size ≠ 0 ∧ 8 ∣ bytes.size) ∧ error = ⟨bytes.size⟩ := by
  rw [← exists_ofBytes_eq_ok_iff]
  constructor
  · intro failed
    refine ⟨fun ⟨image, ok⟩ => ?_, ?_⟩
    · rw [failed] at ok
      cases ok
    · unfold ofBytes at failed
      dsimp only at failed
      split at failed
      · cases failed
      · exact (Except.error.inj failed).symm
  · rintro ⟨uncut, rfl⟩
    exact dif_neg fun cut => uncut ⟨_, dif_pos cut⟩

/-! ## Offsets -/

/-- An even offset is an offset with its lowest bit cut off. -/
theorem toNat_evenOffset_eq (offset : UInt32) :
    (evenOffset offset).toNat = 2 * (offset.toNat / 2) := by
  have even := toNat_evenOffset offset
  have half : (evenOffset offset).toNat / 2 = offset.toNat / 2 := by
    have mask : (~~~1 : UInt32).toNat / 2 = 2 ^ 31 - 1 := by decide
    rw [evenOffset, UInt32.toNat_and, Nat.and_div_two, mask, Nat.and_two_pow_sub_one_eq_mod]
    exact Nat.mod_eq_of_lt (by have := offset.toNat_lt; omega)
  omega

/-- The offset after an even one has not wrapped around. -/
theorem toNat_evenOffset_add_one (offset : UInt32) :
    (evenOffset offset + 1).toNat = (evenOffset offset).toNat + 1 := by
  rw [UInt32.toNat_add, UInt32.toNat_one]
  have := toNat_evenOffset_eq offset
  have := offset.toNat_lt
  omega

theorem evenOffset_xor_one (offset : UInt32) : evenOffset (offset ^^^ 1) = evenOffset offset := by
  have half : (offset ^^^ 1).toNat / 2 = offset.toNat / 2 := by
    rw [UInt32.toNat_xor, Nat.xor_div_two]
    exact Nat.xor_zero _
  rw [← UInt32.toNat_inj, toNat_evenOffset_eq, toNat_evenOffset_eq, half]

/-- **An even offset is never the last of a bank.** -/
theorem evenOffset_mod_succ_lt (image : Image) (offset : UInt32) :
    (evenOffset offset).toNat % image.bankSize + 1 < image.bankSize := by
  have even : (evenOffset offset).toNat % image.bankSize % 2 = 0 := by
    rw [Nat.mod_mod_of_dvd _ image.bankSize_even]
    exact toNat_evenOffset offset
  have := Nat.mod_lt (evenOffset offset).toNat image.bankSize_pos
  have := image.bankSize_even
  omega

/-- …so the offset after it lies next to it in the bank. -/
theorem evenOffset_add_one_mod (image : Image) (offset : UInt32) :
    (evenOffset offset + 1).toNat % image.bankSize =
      (evenOffset offset).toNat % image.bankSize + 1 := by
  have := image.evenOffset_mod_succ_lt offset
  rw [toNat_evenOffset_add_one, Nat.add_mod, Nat.mod_eq_of_lt (a := 1) (by omega)]
  exact Nat.mod_eq_of_lt this

/-- An even offset within a bank comes from the offset within it. -/
theorem evenOffset_mod (image : Image) (offset : UInt32) :
    (evenOffset offset).toNat % image.bankSize =
      2 * (offset.toNat % image.bankSize / 2) := by
  obtain ⟨half, size⟩ := image.bankSize_even
  rw [toNat_evenOffset_eq, size, Nat.mul_mod_mul_left, ← Nat.mod_mul_right_div_self]

/-! ## Cells -/

/-- **The cells of an image**: each offset in each of the four banks has a position of its own. -/
def cell (image : Image) : Fin 4 × Fin image.bankSize ≃ Fin image.bytes.size :=
  finProdFinEquiv.trans (finCongr image.size_eq.symm)

theorem val_cell (image : Image) (bank : Fin 4) (offset : Fin image.bankSize) :
    (image.cell (bank, offset)).val = bank * image.bankSize + offset := by
  rw [Nat.add_comm, Nat.mul_comm]
  rfl

/-- The bank that a byte selects: its two lowest bits are wired. -/
def wiredBank (bank : UInt8) : Fin 4 := ⟨bank.toNat % 4, Nat.mod_lt _ (by decide)⟩

/-- The offset within a bank that an offset comes down to. -/
def wiredOffset (image : Image) (offset : UInt32) : Fin image.bankSize :=
  ⟨offset.toNat % image.bankSize, Nat.mod_lt _ image.bankSize_pos⟩

theorem toNat_and_three (bank : UInt8) : (bank &&& 3).toNat = wiredBank bank := by
  rw [UInt8.toNat_and]
  exact Nat.and_two_pow_sub_one_eq_mod bank.toNat 2

theorem position_eq (image : Image) (bank : UInt8) (offset : UInt32) :
    image.position bank offset =
      wiredBank bank * image.bankSize + offset.toNat % image.bankSize := by
  rw [position, toNat_and_three]

/-- **A position is that of a cell.** -/
theorem position_eq_cell (image : Image) (bank : UInt8) (offset : UInt32) :
    image.position bank offset = image.cell (wiredBank bank, image.wiredOffset offset) := by
  rw [position_eq, val_cell]
  rfl

/-- A cell that an offset can name is the one that it comes down to. -/
theorem position_ofNat (image : Image) (bank : Fin 4) (offset : Fin image.bankSize)
    (reach : offset.val < 2 ^ 32) :
    image.position (UInt8.ofNat bank) (UInt32.ofNat offset) = image.cell (bank, offset) := by
  have bank_eq : ∀ bank : Fin 4, wiredBank (UInt8.ofNat bank) = bank := by decide
  have offset_eq : image.wiredOffset (UInt32.ofNat offset) = offset := by
    refine Fin.ext ?_
    change (UInt32.ofNat offset).toNat % image.bankSize = offset
    rw [UInt32.toNat_ofNat_of_lt' reach, Nat.mod_eq_of_lt offset.isLt]
  rw [position_eq_cell, bank_eq, offset_eq]

/-! ## Banks -/

/-- **The bytes of a bank**, in the order of their offsets. -/
def bankBytes (image : Image) (bank : Fin 4) : List UInt8 :=
  List.ofFn fun offset => image.bytes[image.cell (bank, offset)]

/-- **The banks in order spell the image.** -/
theorem flatten_bankBytes (image : Image) :
    (List.ofFn image.bankBytes).flatten = image.bytes.toList := by
  have spelled : image.bytes.toList =
      List.ofFn fun i : Fin (4 * image.bankSize) => image.bytes[Fin.cast image.size_eq.symm i] := by
    apply List.ext_getElem
    · simp [image.size_eq]
    · simp
  rw [spelled, List.ofFn_mul]
  refine congrArg List.flatten (congrArg List.ofFn (funext fun bank => ?_))
  refine congrArg List.ofFn (funext fun offset => ?_)
  simp only [Fin.getElem_fin, val_cell, Fin.val_cast]

/-! ## Peeks -/

/-- A peek at a byte reads its cell. -/
theorem peekByte_eq (image : Image) (bank : UInt8) (offset : UInt32) :
    image.peekByte bank offset =
      image.bytes[image.cell (wiredBank bank, image.wiredOffset offset)] := by
  simp only [peekByte, Fin.getElem_fin, position_eq_cell]

theorem getElem?_bankBytes (image : Image) (bank : UInt8) (offset : UInt32) :
    (image.bankBytes (wiredBank bank))[offset.toNat % image.bankSize]? =
      some (image.peekByte bank offset) := by
  rw [bankBytes, List.getElem?_ofFn, dif_pos (Nat.mod_lt _ image.bankSize_pos), peekByte_eq]
  rfl

/-- The position after that of an even offset is that of the next offset. -/
theorem position_evenOffset_add_one (image : Image) (bank : UInt8) (offset : UInt32) :
    image.position bank (evenOffset offset + 1) = image.position bank (evenOffset offset) + 1 := by
  rw [position, position, evenOffset_add_one_mod, Nat.add_assoc]

/-- **A peek at a word reads two bytes**, the high one at the even offset. -/
theorem peekWord_eq (image : Image) (bank : UInt8) (offset : UInt32) :
    image.peekWord bank offset =
      256 * (image.peekByte bank (evenOffset offset)).toUInt16 +
        (image.peekByte bank (evenOffset offset + 1)).toUInt16 := by
  simp only [peekWord, peekByte, position_evenOffset_add_one]

theorem toNat_word (high low : UInt8) :
    (256 * high.toUInt16 + low.toUInt16).toNat = 256 * high.toNat + low.toNat := by
  have := high.toNat_lt
  have := low.toNat_lt
  simp only [UInt16.toNat_add, UInt16.toNat_mul, UInt8.toNat_toUInt16, UInt16.reduceToNat]
  omega

/-- The lowest bit of the offset plays no part in a word. -/
theorem peekWord_xor_one (image : Image) (bank : UInt8) (offset : UInt32) :
    image.peekWord bank (offset ^^^ 1) = image.peekWord bank offset := by
  rw [peekWord_eq, peekWord_eq, evenOffset_xor_one]

section Remainders

variable {bank' : UInt8} {offset' : UInt32} (banks : bank.toNat % 4 = bank'.toNat % 4)
  (offsets : offset.toNat % image.bankSize = offset'.toNat % image.bankSize)
include banks offsets

/-- **A byte depends on two remainders**: of its bank by four, and of its offset by the size of a
bank. -/
theorem peekByte_congr : image.peekByte bank offset = image.peekByte bank' offset' := by
  have bank_eq : wiredBank bank = wiredBank bank' := Fin.ext banks
  have byte := image.getElem?_bankBytes bank offset
  rw [bank_eq, offsets, getElem?_bankBytes] at byte
  exact (Option.some.inj byte).symm

/-- …and so does a word. -/
theorem peekWord_congr : image.peekWord bank offset = image.peekWord bank' offset' := by
  have even : (evenOffset offset).toNat % image.bankSize =
      (evenOffset offset').toNat % image.bankSize := by
    rw [evenOffset_mod, evenOffset_mod, offsets]
  have next : (evenOffset offset + 1).toNat % image.bankSize =
      (evenOffset offset' + 1).toNat % image.bankSize := by
    rw [evenOffset_add_one_mod, evenOffset_add_one_mod, even]
  rw [peekWord_eq, peekWord_eq, peekByte_congr banks even, peekByte_congr banks next]

end Remainders

/-! ## Staying in the bank -/

/-- The position computed in machine words of `word` values, each step cut down to a word. -/
def wrappedPosition (word : Nat) (image : Image) (bank : UInt8) (offset : UInt32) : Nat :=
  ((bank &&& 3).toNat * image.bankSize % word + offset.toNat % image.bankSize) % word

/-- **A peek stays in its bank**: the positions that it reads, one for a byte and two for a word,
lie in the part of the image that is the bank, and in words that can hold the size of the image no
step of computing them wraps around. -/
structure Confined (image : Image) (bank : UInt8) (offset : UInt32) : Prop where
  start_le_byte : wiredBank bank * image.bankSize ≤ image.position bank offset
  byte_lt : image.position bank offset < (wiredBank bank + 1) * image.bankSize
  start_le_high : wiredBank bank * image.bankSize ≤ image.position bank (evenOffset offset)
  low_lt : image.position bank (evenOffset offset) + 1 < (wiredBank bank + 1) * image.bankSize
  end_le_size : (wiredBank bank + 1) * image.bankSize ≤ image.bytes.size
  byte_fits : ∀ word, image.bytes.size < word →
    image.wrappedPosition word bank offset = image.position bank offset
  word_fits : ∀ word, image.bytes.size < word →
    (image.wrappedPosition word bank (evenOffset offset) + 1) % word =
      image.position bank (evenOffset offset) + 1

/-- A word that can hold the size of an image can hold its positions. -/
theorem wrappedPosition_eq {word : Nat} (fits : image.bytes.size < word) (bank : UInt8)
    (offset : UInt32) : image.wrappedPosition word bank offset = image.position bank offset := by
  have lt : image.position bank offset < word := (image.position_lt bank offset).trans fits
  rw [position] at lt ⊢
  rw [wrappedPosition, Nat.mod_eq_of_lt (Nat.lt_of_le_of_lt (Nat.le_add_right _ _) lt),
    Nat.mod_eq_of_lt lt]

/-- **No peek leaves its bank.** -/
theorem confined (image : Image) (bank : UInt8) (offset : UInt32) : image.Confined bank offset where
  start_le_byte := by
    rw [position_eq]
    exact Nat.le_add_right _ _
  byte_lt := by
    rw [position_eq, Nat.succ_mul]
    exact Nat.add_lt_add_left (Nat.mod_lt _ image.bankSize_pos) _
  start_le_high := by
    rw [position_eq]
    exact Nat.le_add_right _ _
  low_lt := by
    rw [position_eq, Nat.succ_mul, Nat.add_assoc]
    exact Nat.add_lt_add_left (image.evenOffset_mod_succ_lt offset) _
  end_le_size := by
    rw [image.size_eq]
    exact Nat.mul_le_mul_right _ (wiredBank bank).isLt
  byte_fits _ fits := wrappedPosition_eq fits bank offset
  word_fits word fits := by
    have lt := (image.even_position_succ_lt bank offset).trans fits
    rw [wrappedPosition_eq fits, Nat.mod_eq_of_lt lt]

/-! ## The whole image -/

/-- **An image is its four banks.**  Bytes make an image exactly if there are some and their number
is a multiple of eight; any others are a bad size.  Of an image, every peek stays in its bank; a
word is the two bytes at the even offset, whatever the lowest bit of the offset; and a peek depends
on the remainders of its bank by four and of its offset by the size of a bank.  Each offset in each
bank has a cell of its own, one after the other, and no position is without; a position is that of
the cell that its bank and offset come down to.  So the banks in order spell the image, and a peek
reads off its bank. -/
theorem banks_partition :
    (∀ bytes, (∃ image, ofBytes bytes = .ok image) ↔ bytes.size ≠ 0 ∧ 8 ∣ bytes.size) ∧
    (∀ bytes error, ofBytes bytes = .error error ↔
      ¬ (bytes.size ≠ 0 ∧ 8 ∣ bytes.size) ∧ error = ⟨bytes.size⟩) ∧
    ∀ bytes image, ofBytes bytes = .ok image →
      (image.bytes = bytes ∧ bytes.size = 4 * image.bankSize) ∧
      (∀ bank offset, image.Confined bank offset ∧
        (image.peekWord bank offset).toNat =
          256 * (image.peekByte bank (evenOffset offset)).toNat +
            (image.peekByte bank (evenOffset offset + 1)).toNat ∧
        (evenOffset offset + 1).toNat = (evenOffset offset).toNat + 1 ∧
        image.peekWord bank (offset ^^^ 1) = image.peekWord bank offset) ∧
      (∀ bank bank' offset offset', bank.toNat % 4 = bank'.toNat % 4 →
        offset.toNat % image.bankSize = offset'.toNat % image.bankSize →
          image.peekByte bank offset = image.peekByte bank' offset' ∧
            image.peekWord bank offset = image.peekWord bank' offset') ∧
      (Function.Bijective image.cell ∧
        (∀ bank offset, (image.cell (bank, offset)).val = bank * image.bankSize + offset) ∧
        (∀ bank offset,
          image.position bank offset = image.cell (wiredBank bank, image.wiredOffset offset)) ∧
        ∀ (bank : Fin 4) (offset : Fin image.bankSize), offset.val < 2 ^ 32 →
          image.position (UInt8.ofNat bank) (UInt32.ofNat offset) = image.cell (bank, offset)) ∧
      (List.ofFn image.bankBytes).flatten = bytes.toList ∧
        ∀ bank offset, (image.bankBytes (wiredBank bank))[offset.toNat % image.bankSize]? =
          some (image.peekByte bank offset) := by
  refine ⟨fun _ => exists_ofBytes_eq_ok_iff, fun _ _ => ofBytes_eq_error_iff, ?_⟩
  intro bytes image ok
  obtain rfl := ofBytes_eq_ok_iff.mp ok
  refine ⟨⟨rfl, image.size_eq⟩, fun bank offset => ?_, fun _ _ _ _ banks offsets => ?_,
    ⟨image.cell.bijective, image.val_cell, image.position_eq_cell, image.position_ofNat⟩,
    image.flatten_bankBytes, image.getElem?_bankBytes⟩
  · refine ⟨image.confined bank offset, ?_, toNat_evenOffset_add_one offset,
      image.peekWord_xor_one bank offset⟩
    rw [peekWord_eq, toNat_word]
  · exact ⟨peekByte_congr banks offsets, peekWord_congr banks offsets⟩

/-- Banks of six bytes, and the last of all offsets: it comes down to offset 3, which is odd. -/
theorem banks_partition_six_bytes :
    let bytes : Array UInt8 := Array.ofFn fun i : Fin 24 => UInt8.ofNat i
    let image : Image := ⟨bytes, 6, by decide, by decide, Array.size_ofFn⟩
    let last : Fin image.bankSize := ⟨5, by decide⟩
    (ofBytes bytes = .ok image ∧ (254 : UInt8).toNat % 4 = (2 : UInt8).toNat % 4 ∧
        (0xFFFFFFFF : UInt32).toNat % image.bankSize = (3 : UInt32).toNat % image.bankSize ∧
        last.val < 2 ^ 32) ∧
      image.peekWord 2 3 = 0x0E0F ∧ image.peekWord 254 0xFFFFFFFF = image.peekWord 2 3 ∧
      image.position 2 5 = image.cell (2, last) := by
  intro bytes image last
  have ok : ofBytes bytes = .ok image := ofBytes_eq_ok_iff.mpr rfl
  have banks : (254 : UInt8).toNat % 4 = (2 : UInt8).toNat % 4 := by decide
  have offsets : (0xFFFFFFFF : UInt32).toNat % 6 = (3 : UInt32).toNat % 6 := by decide
  have reach : last.val < 2 ^ 32 := by decide
  have word : image.peekWord 2 3 = 0x0E0F := by decide
  obtain ⟨-, -, remainders, cells, -⟩ := banks_partition.2.2 bytes image ok
  exact ⟨⟨ok, banks, offsets, reach⟩, word, (remainders 254 2 0xFFFFFFFF 3 banks offsets).2,
    cells.2.2.2 2 last reach⟩

end Slapstic.Image
