import Slapstic.Chip.Basic

/-!
# Board/Image — the ROM behind the window

A board's program ROM is cut into four **banks** of equal, even size, and the processor sees one of
them at a time through a window as wide as a bank.  The chip selects which: a read clocks the chip
first and then fetches from the bank that it selects.  Offsets past the window wrap around in it.

* `Image.position_lt`, `Image.even_position_succ_lt` — what a peek reads lies in the image;
* `Image.peekWord` — the word at an even offset, the high byte first; the lowest bit of the offset
  plays no part.
-/

namespace Slapstic

/-- A ROM whose size cannot be cut into four banks of even size. -/
structure BadSize where
  size : Nat
  deriving DecidableEq

/-- The wording of the error. -/
def BadSize.message (error : BadSize) : String :=
  "ROM size " ++ Text.decimal error.size ++ " is not a non-zero multiple of 4 banks of even size"

/-- **A ROM of four banks.** -/
structure Image where
  bytes : Array UInt8
  bankSize : Nat
  bankSize_pos : 0 < bankSize
  bankSize_even : 2 ∣ bankSize
  size_eq : bytes.size = 4 * bankSize

namespace Image

/-- **The image with the given bytes**, if they can be cut into four banks of even size. -/
def ofBytes (bytes : Array UInt8) : Except BadSize Image :=
  let bankSize := bytes.size / 4
  if h : bankSize ≠ 0 ∧ bytes.size % 4 = 0 ∧ bankSize % 2 = 0 then
    .ok
      { bytes
        bankSize
        bankSize_pos := Nat.pos_of_ne_zero h.1
        bankSize_even := Nat.dvd_of_mod_eq_zero h.2.2
        size_eq := by omega }
  else .error ⟨bytes.size⟩

/-! ## Where a byte lies -/

/-- **The position of a byte** in the image.  Of the bank only the two lowest bits are wired. -/
def position (image : Image) (bank : UInt8) (offset : UInt32) : Nat :=
  (bank &&& 3).toNat * image.bankSize + offset.toNat % image.bankSize

/-- An offset without its lowest bit. -/
def evenOffset (offset : UInt32) : UInt32 := offset &&& ~~~1

theorem toNat_and_three_le (bank : UInt8) : (bank &&& 3).toNat ≤ 3 := by
  rw [UInt8.toNat_and]
  exact Nat.and_le_right

theorem toNat_evenOffset (offset : UInt32) : (evenOffset offset).toNat % 2 = 0 := by
  have h : evenOffset offset &&& 1 = 0 := by
    simp [evenOffset, UInt32.and_assoc]
  have := congrArg UInt32.toNat h
  rw [UInt32.toNat_and] at this
  simpa using this

/-- A bank and an offset within it lie below the end of the image. -/
theorem bank_add_lt (image : Image) (bank : UInt8) {offset : Nat} (h : offset < image.bankSize) :
    (bank &&& 3).toNat * image.bankSize + offset < image.bytes.size := by
  have := Nat.mul_le_mul_right image.bankSize (toNat_and_three_le bank)
  rw [image.size_eq]
  omega

theorem position_lt (image : Image) (bank : UInt8) (offset : UInt32) :
    image.position bank offset < image.bytes.size :=
  image.bank_add_lt bank (Nat.mod_lt _ image.bankSize_pos)

/-- **A word does not straddle the end of a bank**, since banks are even. -/
theorem even_position_succ_lt (image : Image) (bank : UInt8) (offset : UInt32) :
    image.position bank (evenOffset offset) + 1 < image.bytes.size := by
  have even : (evenOffset offset).toNat % image.bankSize % 2 = 0 := by
    rw [Nat.mod_mod_of_dvd _ image.bankSize_even]
    exact toNat_evenOffset offset
  have := Nat.mod_lt (evenOffset offset).toNat image.bankSize_pos
  have := image.bankSize_even
  rw [position, Nat.add_assoc]
  exact image.bank_add_lt bank (by omega)

/-! ## Peeking: no access -/

/-- **The byte at an offset into a bank.** -/
def peekByte (image : Image) (bank : UInt8) (offset : UInt32) : UInt8 :=
  have := image.position_lt bank offset
  image.bytes[image.position bank offset]

/-- **The word at an offset into a bank**, the high byte first. -/
def peekWord (image : Image) (bank : UInt8) (offset : UInt32) : UInt16 :=
  have := image.position_lt bank (evenOffset offset)
  have := image.even_position_succ_lt bank offset
  let high := image.bytes[image.position bank (evenOffset offset)]
  let low := image.bytes[image.position bank (evenOffset offset) + 1]
  256 * high.toUInt16 + low.toUInt16

/-! ## Reading: an access first -/

/-- **A byte read** by a processor with an eight-bit bus, whose address lines are the chip's. -/
def readByte (image : Image) (chip : Chip) (offset : UInt32) (view : View) : Chip × UInt8 :=
  let next := chip.access ⟨offset, view⟩
  (next, image.peekByte next.bank offset)

/-- **A word read** by a processor with a sixteen-bit bus: the chip's lowest line is its second. -/
def readWord (image : Image) (chip : Chip) (offset : UInt32) (view : View) : Chip × UInt16 :=
  let next := chip.access ⟨offset >>> 1, view⟩
  (next, image.peekWord next.bank offset)

end Image

end Slapstic
