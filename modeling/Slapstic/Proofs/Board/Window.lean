import Slapstic.Proofs.Board.Banks
import Slapstic.Proofs.Board.WellFormed
import Slapstic.Proofs.Chip.Alike

/-!
# Proofs/Board/Window — reads in a row, and what they see of the image

Every read of the window clocks the chip before it fetches.  So reads in a row clock the chip like a
run of accesses, and each of them fetches from the bank that its own access returns (`Follows`); a
read that commits a bank is already served by it.

Two decodings of an offset run side by side: the chip sees its fourteen lines, halved before on a
sixteen-bit bus, and the image the remainder by the size of a bank.  Where that size divides the
reach of the lines, offsets that differ by the reach are **mirrored**: a read at the one does what a
read at the other does, so whole runs agree (`reads_follow_chip`).
-/

namespace Slapstic

/-- **A fetch through the window**: an offset, and what the processor shows at that moment. -/
structure Fetch where
  offset : UInt32
  view : View := .silent

namespace Fetch

/-- The access that a fetch makes on an eight-bit bus. -/
def byteAccess (fetch : Fetch) : Access := ⟨fetch.offset, fetch.view⟩

/-- The access that a fetch makes on a sixteen-bit bus. -/
def wordAccess (fetch : Fetch) : Access := ⟨fetch.offset >>> 1, fetch.view⟩

end Fetch

namespace Image

variable {α : Type}

/-! ## Reads in a row -/

/-- **Reads in a row**: the chip after them, and for each what it returned and the latch it left. -/
def reads (read : Chip → UInt32 → View → Chip × α) (chip : Chip) :
    List Fetch → Chip × List (α × Latch)
  | [] => (chip, [])
  | fetch :: rest =>
    let (next, value) := read chip fetch.offset fetch.view
    let (last, later) := reads read next rest
    (last, (value, next.toLatch) :: later)

/-- Bytes read in a row. -/
def byteReads (image : Image) : Chip → List Fetch → Chip × List (UInt8 × Latch) :=
  reads image.readByte

/-- Words read in a row. -/
def wordReads (image : Image) : Chip → List Fetch → Chip × List (UInt16 × Latch) :=
  reads image.readWord

/-- **Reads follow a chip** if they leave it as a run of their accesses does, with the latches of
that run, and each returns what its offset and the latch after its own access give. -/
structure Follows (chip : Chip) (line : Fetch → Access) (Given : Fetch → Latch → α → Prop)
    (fetches : List Fetch) (done : Chip × List (α × Latch)) : Prop where
  chip_eq : done.1 = chip.run (fetches.map line)
  latches_eq : done.2.map Prod.snd = chip.latches (fetches.map line)
  given : List.Forall₂ (fun fetch row => Given fetch row.2 row.1) fetches done.2

section Follow

variable {read : Chip → UInt32 → View → Chip × α} {line : Fetch → Access}
  {Given : Fetch → Latch → α → Prop}

/-- **Reads follow every well-formed chip if one read does.** -/
theorem follows_reads
    (clocks : ∀ chip fetch, (read chip fetch.offset fetch.view).1 = chip.access (line fetch))
    (given : ∀ chip fetch, chip.toLatch.WellFormed →
      Given fetch (chip.access (line fetch)).toLatch (read chip fetch.offset fetch.view).2)
    {chip : Chip} (wellFormed : chip.toLatch.WellFormed) (fetches : List Fetch) :
    Follows chip line Given fetches (reads read chip fetches) := by
  induction fetches generalizing chip with
  | nil => exact ⟨rfl, rfl, .nil⟩
  | cons fetch rest ih =>
    have next := ih (Chip.wellFormed_run wellFormed [line fetch])
    have here := given chip fetch wellFormed
    rw [reads]
    dsimp only
    rw [clocks]
    exact ⟨next.chip_eq, congrArg _ next.latches_eq, .cons here next.given⟩

/-- **Fetches that one read cannot tell apart, no run of reads can.** -/
theorem reads_congr {Same : Fetch → Fetch → Prop}
    (one : ∀ fetch other, Same fetch other → ∀ chip,
      read chip fetch.offset fetch.view = read chip other.offset other.view)
    {fetches others : List Fetch} (same : List.Forall₂ Same fetches others) (chip : Chip) :
    reads read chip fetches = reads read chip others := by
  induction same generalizing chip with
  | nil => rfl
  | cons head _ ih =>
    rw [reads, reads, one _ _ head]
    dsimp only
    rw [ih]

end Follow

/-! ## One read -/

/-- **A word lies at a position** of an image, its high byte first. -/
def WordAt (image : Image) (position : Nat) (word : UInt16) : Prop :=
  ∃ high low, image.bytes[position]? = some high ∧ image.bytes[position + 1]? = some low ∧
    word.toNat = 256 * high.toNat + low.toNat

/-- A word is read from its place in the bank that its own access selects. -/
theorem wordAt_readWord (image : Image) {chip : Chip} (wellFormed : chip.toLatch.WellFormed)
    (fetch : Fetch) :
    image.WordAt (image.place (chip.access fetch.wordAccess).bank (evenOffset fetch.offset))
      (image.readWord chip fetch.offset fetch.view).2 := by
  obtain ⟨high, low, word, high_at, low_at⟩ :=
    (image.readsSelected wellFormed fetch.offset fetch.view).word
  exact ⟨high, low, high_at, low_at, by rw [word, toNat_word]⟩

/-! ## Mirrored offsets -/

theorem toNat_pins (address : UInt32) : (pins address).toNat = address.toNat % 0x4000 := by
  rw [pins, UInt32.toNat_and]
  exact Nat.and_two_pow_sub_one_eq_mod address.toNat 14

/-- The chip's lines of a halved offset. -/
theorem toNat_pins_half (offset : UInt32) :
    (pins (offset >>> 1)).toNat = offset.toNat % 0x8000 / 2 := by
  rw [toNat_pins, UInt32.toNat_shiftRight, Nat.shiftRight_eq_div_pow]
  exact (Nat.mod_mul_right_div_self offset.toNat 2 0x4000).symm

/-- A word is the word at the even offset. -/
theorem peekWord_evenOffset (image : Image) (bank : UInt8) (offset : UInt32) :
    image.peekWord bank (evenOffset offset) = image.peekWord bank offset := by
  have even : evenOffset (evenOffset offset) = evenOffset offset := by
    simp [evenOffset, UInt32.and_assoc]
  rw [peekWord_eq, peekWord_eq, even]

section Mirrored

variable {image : Image} {offset offset' : UInt32} {view view' : View}

theorem peekByte_mirrored (divides : image.bankSize ∣ 0x4000)
    (offsets : offset.toNat % 0x4000 = offset'.toNat % 0x4000) (bank : UInt8) :
    image.peekByte bank offset = image.peekByte bank offset' := by
  refine peekByte_congr rfl ?_
  rw [← Nat.mod_mod_of_dvd _ divides, offsets, Nat.mod_mod_of_dvd _ divides]

theorem peekWord_mirrored (divides : image.bankSize ∣ 0x8000)
    (offsets : offset.toNat % 0x8000 / 2 = offset'.toNat % 0x8000 / 2) (bank : UInt8) :
    image.peekWord bank offset = image.peekWord bank offset' := by
  have even : (evenOffset offset).toNat % 0x8000 = (evenOffset offset').toNat % 0x8000 := by
    rw [toNat_evenOffset_eq, toNat_evenOffset_eq]
    omega
  rw [← peekWord_evenOffset, ← image.peekWord_evenOffset bank offset']
  refine peekWord_congr rfl ?_
  rw [← Nat.mod_mod_of_dvd _ divides, even, Nat.mod_mod_of_dvd _ divides]

/-- **Mirrored offsets read the same byte**, and clock the chip alike. -/
theorem readByte_mirrored (divides : image.bankSize ∣ 0x4000)
    (offsets : offset.toNat % 0x4000 = offset'.toNat % 0x4000) (views : view = view')
    (chip : Chip) : image.readByte chip offset view = image.readByte chip offset' view' := by
  have pins : pins offset = pins offset' := by
    rw [← UInt32.toNat_inj, toNat_pins, toNat_pins, offsets]
  have access : chip.access ⟨offset, view⟩ = chip.access ⟨offset', view'⟩ :=
    Chip.access_congr pins views
  dsimp only [readByte]
  rw [access, peekByte_mirrored divides offsets]

/-- **Mirrored offsets read the same word**, whatever their lowest bits, and clock the chip
alike. -/
theorem readWord_mirrored (divides : image.bankSize ∣ 0x8000)
    (offsets : offset.toNat % 0x8000 / 2 = offset'.toNat % 0x8000 / 2) (views : view = view')
    (chip : Chip) : image.readWord chip offset view = image.readWord chip offset' view' := by
  have pins : pins (offset >>> 1) = pins (offset' >>> 1) := by
    rw [← UInt32.toNat_inj, toNat_pins_half, toNat_pins_half, offsets]
  have access : chip.access ⟨offset >>> 1, view⟩ = chip.access ⟨offset' >>> 1, view'⟩ :=
    Chip.access_congr pins views
  dsimp only [readWord]
  rw [access, peekWord_mirrored divides offsets]

end Mirrored

/-! ## The two decodings in step -/

/-- **Reads follow the chip, and mirrored reads agree.**  On a chip with any past, words read in a
row leave the chip as the run of the halved offsets does, and each is the word at its even offset in
the bank that its own access returns; bytes read in a row do so with the offsets as they are.  If
the size of a bank divides 0x8000, two runs of words from one chip with the same views are the same,
words and latches, as long as the offsets agree modulo 0x8000 but for their lowest bit; if it
divides 0x4000, so are two runs of bytes whose offsets agree modulo 0x4000. -/
theorem reads_follow_chip (image : Image) :
    (∀ (setup : Setup) (rom : Option Image) (past : List Command) (fetches : List Fetch),
      let chip := ((Board.ofSetup setup rom).performAll past).1.chip
      Follows chip Fetch.wordAccess
          (fun fetch latch word =>
            image.WordAt (image.place latch.bank (evenOffset fetch.offset)) word)
          fetches (image.wordReads chip fetches) ∧
        Follows chip Fetch.byteAccess
          (fun fetch latch byte => image.bytes[image.place latch.bank fetch.offset]? = some byte)
          fetches (image.byteReads chip fetches)) ∧
    (image.bankSize ∣ 0x8000 → ∀ (chip : Chip) (fetches others : List Fetch),
      List.Forall₂ (fun fetch other => fetch.view = other.view ∧
        fetch.offset.toNat % 0x8000 / 2 = other.offset.toNat % 0x8000 / 2) fetches others →
      image.wordReads chip fetches = image.wordReads chip others) ∧
    (image.bankSize ∣ 0x4000 → ∀ (chip : Chip) (fetches others : List Fetch),
      List.Forall₂ (fun fetch other => fetch.view = other.view ∧
        fetch.offset.toNat % 0x4000 = other.offset.toNat % 0x4000) fetches others →
      image.byteReads chip fetches = image.byteReads chip others) := by
  refine ⟨fun setup rom past fetches => ?_, fun divides chip fetches others same => ?_,
    fun divides chip fetches others same => ?_⟩
  · intro chip
    have wellFormed : chip.toLatch.WellFormed :=
      Board.wellFormed_chip_performAll (Board.wellFormed_ofSetup setup rom) past
    refine ⟨follows_reads (fun _ _ => rfl) ?_ wellFormed fetches,
      follows_reads (fun _ _ => rfl) ?_ wellFormed fetches⟩
    · exact fun chip fetch wellFormed => image.wordAt_readWord wellFormed fetch
    · exact fun chip fetch wellFormed =>
        (image.readsSelected wellFormed fetch.offset fetch.view).byte
  · exact reads_congr (fun _ _ ⟨views, offsets⟩ => readWord_mirrored divides offsets views) same
      chip
  · exact reads_congr (fun _ _ ⟨views, offsets⟩ => readByte_mirrored divides offsets views) same
      chip

/-- A commit in the middle, at offsets and at their mirrors far up: the word of the second read is
of the new bank already. -/
theorem reads_follow_chip_mirrored :
    let image : Image :=
      ⟨Array.ofFn fun i : Fin 32 => UInt8.ofNat i, 8, by decide, by decide, Array.size_ofFn⟩
    let chip := ((Board.ofSetup ⟨⟨104, by decide⟩, .t11⟩ none).performAll []).1.chip
    let fetches : List Fetch := [⟨0, .silent⟩, ⟨0x51, .silent⟩, ⟨6, .silent⟩]
    let others : List Fetch := [⟨0x8001, .silent⟩, ⟨0x18050, .silent⟩, ⟨0xFFFF8007, .silent⟩]
    let bytes : List Fetch := [⟨0, .silent⟩, ⟨0x28, .silent⟩, ⟨6, .silent⟩]
    let otherBytes : List Fetch := [⟨0x4000, .silent⟩, ⟨0xC028, .silent⟩, ⟨0xFFFFC006, .silent⟩]
    (image.wordReads chip fetches).2.map Prod.fst = [0x1819, 0x0809, 0x0E0F] ∧
      (image.bankSize ∣ 0x8000 ∧
        List.Forall₂ (fun fetch other => fetch.view = other.view ∧
          fetch.offset.toNat % 0x8000 / 2 = other.offset.toNat % 0x8000 / 2) fetches others ∧
        image.wordReads chip fetches = image.wordReads chip others) ∧
      (image.byteReads chip bytes).2.map Prod.fst = [24, 8, 14] ∧
      image.bankSize ∣ 0x4000 ∧
        List.Forall₂ (fun fetch other => fetch.view = other.view ∧
          fetch.offset.toNat % 0x4000 = other.offset.toNat % 0x4000) bytes otherBytes ∧
        image.byteReads chip bytes = image.byteReads chip otherBytes := by
  intro image chip fetches others bytes otherBytes
  have words_divide : image.bankSize ∣ 0x8000 := by decide
  have bytes_divide : image.bankSize ∣ 0x4000 := by decide
  have words_mirrored : List.Forall₂ (fun fetch other : Fetch => fetch.view = other.view ∧
      fetch.offset.toNat % 0x8000 / 2 = other.offset.toNat % 0x8000 / 2) fetches others :=
    .cons ⟨rfl, by decide⟩ (.cons ⟨rfl, by decide⟩ (.cons ⟨rfl, by decide⟩ .nil))
  have bytes_mirrored : List.Forall₂ (fun fetch other : Fetch => fetch.view = other.view ∧
      fetch.offset.toNat % 0x4000 = other.offset.toNat % 0x4000) bytes otherBytes :=
    .cons ⟨rfl, by decide⟩ (.cons ⟨rfl, by decide⟩ (.cons ⟨rfl, by decide⟩ .nil))
  obtain ⟨-, words, bytes_alike⟩ := reads_follow_chip image
  refine ⟨by decide, ⟨words_divide, words_mirrored, ?_⟩, by decide, bytes_divide, bytes_mirrored,
    ?_⟩
  · exact words words_divide chip fetches others words_mirrored
  · exact bytes_alike bytes_divide chip bytes otherBytes bytes_mirrored

end Image

end Slapstic
