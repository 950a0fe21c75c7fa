import Slapstic.Proofs.Board.Effect

/-!
# Proofs/Board/WellFormed — a board never leaves its four banks

Whatever a board is told, save states from elsewhere included, its chip stays in its socket and its
latch stays well formed.  From this alone follow the facts that need no check at run time: no bank
past the last is ever shown, no addition overflows, a read uses all the bits of the selected bank,
and the chip's own save state goes into every chip of its part (`wellFormed_performAll`).
-/

namespace Slapstic

/-! ## Reads -/

/-- The two wired bits are all of a bank. -/
theorem and_three_of_le {bank : UInt8} (le : bank ≤ 3) : bank &&& 3 = bank := by
  obtain ⟨i, rfl⟩ := exists_bank_of_le le
  revert i
  decide

namespace Image

variable (image : Image)

/-- Where an offset lies in a bank, all bits of the bank counted. -/
def place (bank : UInt8) (offset : UInt32) : Nat :=
  bank.toNat * image.bankSize + offset.toNat % image.bankSize

theorem position_eq_place {bank : UInt8} (le : bank ≤ 3) (offset : UInt32) :
    image.position bank offset = image.place bank offset := by
  rw [position, place, and_three_of_le le]

/-- **Reads use the selected bank as it is**: a byte is fetched from its place in the bank that the
chip selects, and so are the two halves of a word, the high one first. -/
structure ReadsSelected (chip : Chip) (offset : UInt32) (view : View) : Prop where
  byte : image.bytes[image.place (image.readByte chip offset view).1.bank offset]? =
    some (image.readByte chip offset view).2
  word : ∃ high low, (image.readWord chip offset view).2 = 256 * high.toUInt16 + low.toUInt16 ∧
    image.bytes[image.place (image.readWord chip offset view).1.bank (evenOffset offset)]? =
      some high ∧
    image.bytes[image.place (image.readWord chip offset view).1.bank (evenOffset offset) + 1]? =
      some low

/-- A chip that selects one of the four banks reads from it. -/
theorem readsSelected {chip : Chip} (wellFormed : chip.toLatch.WellFormed) (offset : UInt32)
    (view : View) : image.ReadsSelected chip offset view where
  byte := by
    have le : (image.readByte chip offset view).1.bank ≤ 3 :=
      (Chip.wellFormed_run wellFormed [⟨offset, view⟩]).bank_le
    rw [← image.position_eq_place le]
    exact Array.getElem?_eq_getElem (image.position_lt _ offset)
  word := by
    have le : (image.readWord chip offset view).1.bank ≤ 3 :=
      (Chip.wellFormed_run wellFormed [⟨offset >>> 1, view⟩]).bank_le
    rw [← image.position_eq_place le]
    exact ⟨_, _, rfl, Array.getElem?_eq_getElem (image.position_lt _ _),
      Array.getElem?_eq_getElem (image.even_position_succ_lt _ offset)⟩

end Image

/-! ## Boards -/

namespace Board

variable {board : Board} {commands : List Command}

/-- **The chip's latch stays well formed**, whatever the board is told. -/
theorem wellFormed_chip_performAll (wellFormed : board.chip.toLatch.WellFormed)
    (commands : List Command) : (board.performAll commands).1.chip.toLatch.WellFormed :=
  performAll_induction wellFormed fun _ _ _ _ effect => effect.wellFormed

/-- …and no reply shows it otherwise. -/
theorem wellFormed_of_mem_shown (wellFormed : board.chip.toLatch.WellFormed) {reply : Reply}
    (mem : reply ∈ (board.performAll commands).2) {latch : Latch} (shown : latch ∈ reply.shown) :
    latch.WellFormed := by
  obtain ⟨before, command, after, -, rfl⟩ := exists_of_mem_replies mem
  have before_wellFormed := wellFormed_chip_performAll wellFormed before
  rcases mem_shown shown with rfl | ⟨accesses, mem⟩
  · exact (effect_perform _ command).wellFormed before_wellFormed
  · exact Chip.wellFormed_of_mem_latches before_wellFormed mem

theorem wellFormed_ofSetup (setup : Setup) (rom : Option Image) :
    (ofSetup setup rom).chip.toLatch.WellFormed :=
  setup.part.wellFormed_initialLatch

/-- **A board never leaves its four banks.**  After any commands but a swap its chip is the part it
was, on the host it was, in a well-formed latch; the replies show no bank past the last; the sums of
the additions fit; reads use the bank that is selected; and the chip's own save state goes into
every chip of its part. -/
theorem wellFormed_performAll (setup : Setup) (rom : Option Image) (commands : List Command)
    (kept : ∀ command ∈ commands, command.swaps = false) :
    let chip := ((ofSetup setup rom).performAll commands).1.chip
    let replies := ((ofSetup setup rom).performAll commands).2
    (chip.part = setup.part ∧ chip.host = setup.host ∧ chip.toLatch.WellFormed) ∧
      (∀ reply ∈ replies, ∀ latch ∈ reply.shown, latch.bank ≤ 3) ∧
      (∀ pending, chip.phase = .additive2 pending →
        ∀ adds : AdditivePatterns, ∀ address, adds.SumsFit pending address) ∧
      (∀ image : Image, ∀ offset view, image.ReadsSelected chip offset view) ∧
      ∀ other : Chip, other.part = setup.part →
        other.restore chip.save =
          .ok { chip.toLatch with part := setup.part, host := other.host } := by
  intro chip replies
  have wellFormed : chip.toLatch.WellFormed :=
    wellFormed_chip_performAll (wellFormed_ofSetup setup rom) commands
  have part_eq : chip.part = setup.part := (part_host_performAll _ kept).1
  refine ⟨⟨part_eq, (part_host_performAll _ kept).2, wellFormed⟩, ?_, ?_, ?_, ?_⟩
  · intro reply mem latch shown
    exact (wellFormed_of_mem_shown (wellFormed_ofSetup setup rom) mem shown).bank_le
  · intro pending phase adds address
    exact adds.sumsFit_of_le (wellFormed.pending_le pending (by rw [phase]; rfl)) address
  · intro image offset view
    exact image.readsSelected wellFormed offset view
  · intro other same
    rw [← part_eq]
    exact Chip.restore_save wellFormed (same.trans part_eq.symm)

/-- Three refused states, one of a protocol that the part does not have, and one in which it adds. -/
theorem wellFormed_performAll_foreign_states :
    let part : PartNumber := ⟨111, by decide⟩
    let commands : List Command := [.restore ⟨⟨.additive2 200, 1⟩, part⟩,
      .restore ⟨⟨.bitwise2 1 1, 1⟩, part⟩, .restore ⟨⟨.additive2 3, 1⟩, ⟨112, by decide⟩⟩,
      .restore ⟨⟨.bitwise2 2 3, 1⟩, part⟩, .restore ⟨⟨.additive2 3, 1⟩, part⟩]
    let chip := ((ofSetup ⟨part, .t11⟩ none).performAll commands).1.chip
    (∀ command ∈ commands, command.swaps = false) ∧ chip.phase = .additive2 3 ∧
      (chip.part = part ∧ chip.host = .t11 ∧ chip.toLatch.WellFormed) ∧
      ∀ adds : AdditivePatterns, ∀ address, adds.SumsFit 3 address := by
  intro part commands chip
  have kept : ∀ command ∈ commands, command.swaps = false := by decide
  have phase : chip.phase = .additive2 3 := by decide
  have sound := wellFormed_performAll ⟨part, .t11⟩ none commands kept
  exact ⟨kept, phase, sound.1, sound.2.2.1 3 phase⟩

end Board

end Slapstic
