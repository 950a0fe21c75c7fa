import Slapstic.Chip.Phase
import Slapstic.Part.Catalog

/-!
# Chip/Host — the processor that drives the bus

Of the alternate sequence only the second address need fall into the chip's window.  On a 68000 all
three come from one instruction, `move.w (Ay),(Ax)` or `cmpm.w (Ay)+,(Ax)+`, whose opcode fetch is
the first address and whose `Ax` is the third.  A board with such a **host** shows the chip the
second address alone, and the other two are recovered from a `View` of the processor: from the
program counter, the opcode, and the register that the opcode names.

* `AlternatePatterns.recover?` — the bank that the executing instruction carries;
* `AlternatePatterns.resolve` — the phase after the second address out of nowhere.
-/

namespace Slapstic

/-! ## Processors -/

/-- **The processor of a board.** -/
inductive Host where
  | m68000 | m68010 | t11 | m6502 | m6809
  deriving DecidableEq, Repr

namespace Host

instance : Inhabited Host := ⟨m68000⟩

/-- All hosts. -/
def all : List Host := [m68000, m68010, t11, m6502, m6809]

/-- The name of a host. -/
def name : Host → String
  | m68000 => "M68000"
  | m68010 => "M68010"
  | t11 => "T11"
  | m6502 => "M6502"
  | m6809 => "M6809"

/-- The host with a given name. -/
def ofName? (name : String) : Option Host := all.find? (·.name == name)

/-- **A host is inspected** if its instructions run the alternate sequence off the bus. -/
def inspected : Host → Bool
  | m68000 | m68010 => true
  | t11 | m6502 | m6809 => false

end Host

/-! ## What a board shows of its processor -/

/-- **A view of the processor** at the moment of an access. -/
structure View where
  /-- The program counter as the bus sees it. -/
  pc : UInt32
  /-- Where the executing instruction begins, which a prefetching processor has left behind. -/
  instructionPc : UInt32 := pc
  /-- The word at an address. -/
  word : UInt32 → UInt16
  /-- The value of an address register. -/
  register : Fin 8 → UInt32

namespace View

/-- The view on a board that shows nothing: all zeros. -/
def silent : View where
  pc := 0
  word _ := 0
  register _ := 0

instance : Inhabited View := ⟨silent⟩

/-- A memory given by its cells: of several words for one address the last one counts, and an
address without a word holds `fill`. -/
def memory (fill : UInt16) (cells : List (UInt32 × UInt16)) (address : UInt32) : UInt16 :=
  ((cells.reverse.find? (·.1 == address)).map (·.2)).getD fill

/-- The word of the executing instruction, on the 24 address lines of the processor. -/
def opcode (view : View) : UInt16 := view.word (view.instructionPc &&& 0xFFFFFF)

end View

/-- One access to the chip's window: the address on the bus and what the processor was doing. -/
structure Access where
  address : UInt32
  view : View := .silent

/-! ## Recovering the hidden steps -/

/-- An opcode makes all three accesses of the alternate sequence, whatever its two registers. -/
def opcodeRunsSequence (opcode : UInt16) : Bool :=
  opcode &&& 0xF1F8 == 0x3090 || opcode &&& 0xF1F8 == 0xB148

/-- The register with the third address of the sequence. -/
def opcodeRegister (opcode : UInt16) : Fin 8 := Fin.ofNat 8 (opcode >>> 9).toNat

namespace AlternatePatterns

/-- **The bank that the executing instruction carries**, if its fetch is the first step and its
register holds the third.  The processor counts bytes and the chip words, hence the halves. -/
def recover? (steps : AlternatePatterns) (view : View) : Option UInt8 :=
  if steps.firstHits (view.pc >>> 1) && opcodeRunsSequence view.opcode then
    let address := view.register (opcodeRegister view.opcode) >>> 1
    if steps.third.hits address then some (steps.bankOf address) else none
  else none

/-- **The phase after the second step, seen without the first.**  An inspected host has to vouch for
the other steps, which leaves only the fourth; of another host the first is taken on trust. -/
def resolve (steps : AlternatePatterns) (host : Host) (view : View) : Phase :=
  if host.inspected then
    match steps.recover? view with
    | some bank => .alternate3 bank
    | none => .enabled
  else .alternate2

end AlternatePatterns

end Slapstic
