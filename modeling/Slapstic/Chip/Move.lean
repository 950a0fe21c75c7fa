import Slapstic.Chip.Host

/-!
# Chip/Move — what one access does

Every sequence starts at address zero, which enables the chip from any phase.  From there:

* **simple** — a bank select commits that bank;
* **alternate** — three addresses in a row, then a fourth that commits the bank of the third;
* **bitwise** — an arming access, a bank select, twiddles, an escape, and a bank select that
  commits;
* **additive** — an arming and a confirming access, additions, an escape, and a bank select that
  commits.

A **move** either goes to a phase and leaves the selected bank alone, or commits a bank, which also
disables the chip.  `Patterns.move` is the move that an access makes; it depends on the part through
its patterns alone.
-/

namespace Slapstic

/-- **The outcome of an access.** -/
inductive Move where
  /-- Go to a phase; the bank stays. -/
  | go (phase : Phase)
  /-- Select a bank and be disabled. -/
  | commit (bank : UInt8)
  deriving DecidableEq, Repr

/-- The latch after a move. -/
def Latch.after (latch : Latch) : Move → Latch
  | .go phase => { latch with phase }
  | .commit bank => ⟨.disabled, bank⟩

@[simp] theorem Latch.after_go (latch : Latch) (phase : Phase) :
    latch.after (.go phase) = ⟨phase, latch.bank⟩ := rfl

@[simp] theorem Latch.after_commit (latch : Latch) (bank : UInt8) :
    latch.after (.commit bank) = ⟨.disabled, bank⟩ := rfl

/-- **The fourteen address lines that reach the chip.** -/
def pins (address : UInt32) : UInt32 := address &&& 0x3FFF

namespace Scheme

/-- An address arms the bitwise protocol. -/
def armsBitwise (scheme : Scheme) (address : UInt32) : Bool :=
  scheme.bitwise?.any (·.arm.hits address)

/-- An address arms the additive protocol. -/
def armsAdditive (scheme : Scheme) (address : UInt32) : Bool :=
  scheme.additive?.any (·.arm.hits address)

/-- An address confirms the additive protocol. -/
def confirms (scheme : Scheme) (address : UInt32) : Bool :=
  scheme.additive?.any (·.confirm.hits address)

/-- **An access while twiddling.**  The toggle flips the two lowest bits of the address before the
twiddles are tried, and itself after one hit; the escape is tried last, on the address as it is. -/
def twiddled (scheme : Scheme) (bank toggle : UInt8) (address : UInt32) : Phase :=
  match scheme with
  | bitwise bits =>
    match bits.twiddle? (address ^^^ toggle.toUInt32) with
    | some twiddle => .bitwise2 (twiddle.apply bank) (toggle ^^^ 3)
    | none => if bits.escape.hits address then .bitwise3 bank else .bitwise2 bank toggle
  | additive _ => .bitwise2 bank toggle

/-- **An access while adding.**  Both additions and the escape are tried on every access. -/
def added (scheme : Scheme) (bank : UInt8) (address : UInt32) : Phase :=
  match scheme with
  | bitwise _ => .additive2 bank
  | additive adds =>
    if adds.escape.hits address then .additive3 (adds.add bank address)
    else .additive2 (adds.add bank address)

end Scheme

namespace Patterns

variable (patterns : Patterns)

/-- **An access to an enabled chip**: it begins the first protocol that it fits. -/
def moveEnabled (host : Host) (address : UInt32) (view : View) : Move :=
  if patterns.scheme.armsBitwise address then .go .bitwise1
  else if patterns.scheme.armsAdditive address then .go .additive1
  else if patterns.alternate.firstHits address then .go .alternate1
  else if patterns.alternate.second.hits address then
    .go (patterns.alternate.resolve host view)
  else match patterns.bankFor? address with
    | some i => .commit (UInt8.ofNat i)
    | none => .go .enabled

/-- An access that commits the pending bank if it is a bank select, and is passed over if not. -/
def moveSelecting (bank : UInt8) (phase : Phase) (address : UInt32) : Move :=
  if patterns.selects address then .commit bank else .go phase

/-- **The move an access makes**, its address already cut down to the chip's lines. -/
def move (host : Host) (latch : Latch) (address : UInt32) (view : View) : Move :=
  if address = 0 then .go .enabled
  else match latch.phase with
    | .disabled => .go .disabled
    | .enabled => patterns.moveEnabled host address view
    | .alternate1 =>
      .go (if patterns.alternate.second.hits address then .alternate2 else .enabled)
    | .alternate2 =>
      .go (if patterns.alternate.third.hits address then
        .alternate3 (patterns.alternate.bankOf address) else .enabled)
    | .alternate3 bank =>
      if patterns.alternate.fourth.hits address then .commit bank else .go (.alternate3 bank)
    | .bitwise1 => .go (if patterns.selects address then .bitwise2 latch.bank 0 else .bitwise1)
    | .bitwise2 bank toggle => .go (patterns.scheme.twiddled bank toggle address)
    | .bitwise3 bank => patterns.moveSelecting bank (.bitwise3 bank) address
    | .additive1 =>
      .go (if patterns.scheme.confirms address then .additive2 latch.bank else .enabled)
    | .additive2 bank => .go (patterns.scheme.added bank address)
    | .additive3 bank => patterns.moveSelecting bank (.additive3 bank) address

/-- **The latch after an access.** -/
def step (host : Host) (latch : Latch) (access : Access) : Latch :=
  latch.after (patterns.move host latch (pins access.address) access.view)

end Patterns

end Slapstic
