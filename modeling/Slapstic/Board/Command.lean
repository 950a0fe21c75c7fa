import Slapstic.Board.Image
import Slapstic.Board.Journal
import Slapstic.Board.Setup
import Slapstic.Chip.Message
import Slapstic.Chip.SaveState

/-!
# Board/Command — a board, worked step by step

A `Board` is a chip with the ROM behind its window, the save states put away under a name, and a
journal.  A **command** makes accesses, reads the window, looks around without an access, or handles
save states; it is answered by a **reply**, and the chip's messages come with it.

* `Board.perform` — one command;
* `Board.performAll` — a list of them.
-/

namespace Slapstic

/-- **A board.** -/
structure Board where
  chip : Chip
  rom : Option Image := none
  slots : List (String × SaveState) := []
  journal : Journal := {}

/-- What can be done with a board. -/
inductive Command where
  /-- Make an access. -/
  | access (access : Access)
  /-- Make accesses in a row. -/
  | run (accesses : List Access)
  /-- Go back to power-up. -/
  | reset
  /-- Look at the chip. -/
  | inspect
  /-- Look at the trace line of an access just made. -/
  | trace (address : UInt32)
  /-- Enter the trace line of an access just made into the journal. -/
  | enter (time : Nat) (context : String) (address : UInt32)
  /-- Put the chip's state away under a name. -/
  | save (slot : String)
  /-- Bring back the state put away under a name. -/
  | recall (slot : String)
  /-- Bring a state back. -/
  | restore (state : SaveState)
  /-- Put in a new chip. -/
  | swap (setup : Setup)
  /-- Read a byte through the window. -/
  | readByte (offset : UInt32) (view : View)
  /-- Read a word through the window. -/
  | readWord (offset : UInt32) (view : View)
  /-- Look at a byte of the ROM. -/
  | peekByte (bank : UInt8) (offset : UInt32)
  /-- Look at a word of the ROM. -/
  | peekWord (bank : UInt8) (offset : UInt32)

/-- What a command is answered. -/
inductive Reply where
  /-- The latch after an access. -/
  | latch (latch : Latch)
  /-- The latches after accesses in a row. -/
  | latches (latches : List Latch)
  /-- The chip as it stands. -/
  | chip (chip : Chip)
  /-- The trace line of an access. -/
  | trace (line : TraceLine)
  /-- The state that was put away. -/
  | saved (state : SaveState)
  /-- Bringing a state back succeeded, or failed by a flaw; the chip as it stands. -/
  | restored (flaw? : Option Flaw) (chip : Chip)
  /-- A number read through the window, and the latch after the access. -/
  | read (value : Nat) (latch : Latch)
  /-- A number looked at. -/
  | peeked (value : Nat)
  /-- There is no ROM, or no state under the name. -/
  | missing

namespace Board

/-- A board with a chip at power-up. -/
def ofSetup (setup : Setup) (rom : Option Image) : Board := { chip := setup.chip, rom }

/-- A board with a save state brought back into its chip, if it has no flaw. -/
def restore (board : Board) (state : SaveState) : Board × Reply :=
  match board.chip.restore state with
  | .ok chip => ({ board with chip }, .restored none chip)
  | .error flaw => (board, .restored (some flaw) board.chip)

/-- **A command carried out**: the board after it, and the reply. -/
def perform (board : Board) : Command → Board × Reply
  | .access a =>
    let chip := board.chip.access a
    ({ board with chip }, .latch chip.toLatch)
  | .run accesses =>
    ({ board with chip := board.chip.run accesses }, .latches (board.chip.latches accesses))
  | .reset =>
    let chip := board.chip.reset
    ({ board with chip }, .chip chip)
  | .inspect => (board, .chip board.chip)
  | .trace address => (board, .trace (board.chip.traceLine address))
  | .enter time context address =>
    let line := board.chip.traceLine address
    ({ board with journal := (board.journal.append ⟨time, context, line⟩).1 }, .trace line)
  | .save slot =>
    let state := board.chip.save
    ({ board with slots := (slot, state) :: board.slots }, .saved state)
  | .recall slot =>
    match board.slots.lookup slot with
    | some state => board.restore state
    | none => (board, .missing)
  | .restore state => board.restore state
  | .swap setup => ({ board with chip := setup.chip }, .chip setup.chip)
  | .readByte offset view =>
    match board.rom with
    | some rom =>
      let (chip, byte) := rom.readByte board.chip offset view
      ({ board with chip }, .read byte.toNat chip.toLatch)
    | none => (board, .missing)
  | .readWord offset view =>
    match board.rom with
    | some rom =>
      let (chip, word) := rom.readWord board.chip offset view
      ({ board with chip }, .read word.toNat chip.toLatch)
    | none => (board, .missing)
  | .peekByte bank offset =>
    match board.rom with
    | some rom => (board, .peeked (rom.peekByte bank offset).toNat)
    | none => (board, .missing)
  | .peekWord bank offset =>
    match board.rom with
    | some rom => (board, .peeked (rom.peekWord bank offset).toNat)
    | none => (board, .missing)

/-- **The chip's messages while a command is carried out.** -/
def messages (board : Board) : Command → List Message
  | .access a => board.chip.accessMessages a
  | .run accesses => board.chip.runMessages accesses
  | .readByte offset view =>
    if board.rom.isSome then board.chip.accessMessages ⟨offset, view⟩ else []
  | .readWord offset view =>
    if board.rom.isSome then board.chip.accessMessages ⟨offset >>> 1, view⟩ else []
  | .swap setup => Chip.powerUpMessages setup.part setup.host
  | _ => []

/-- **Commands carried out in a row**: the board after them, and the replies. -/
def performAll (board : Board) : List Command → Board × List Reply
  | [] => (board, [])
  | command :: rest =>
    let (next, reply) := board.perform command
    let (last, replies) := next.performAll rest
    (last, reply :: replies)

end Board

end Slapstic
