import Slapstic.Part.Trigger

/-!
# Part/Patterns — how one part decodes the address bus

All parts run the same protocols and differ in the addresses that drive them.  `Patterns` holds
those addresses: the four bank selects, the four steps of the alternate sequence, and the triggers
of the one further protocol that the part's revision has — bit twiddling on the first revision,
addition on the second.

* `Patterns.bankFor?` — the bank an address selects;
* `AlternatePatterns.bankOf` — the bank that the third address of an alternate sequence carries;
* `BitwisePatterns.twiddle?` — the change to the pending bank that an address asks for.
-/

namespace Slapstic

/-! ## The alternate sequence -/

/-- The four steps of the alternate sequence.  The third carries the bank, `shift` bits up; the
first is not known on every part. -/
structure AlternatePatterns where
  first : Option Trigger
  second : Trigger
  third : Trigger
  fourth : Trigger
  shift : UInt8
  deriving DecidableEq

namespace AlternatePatterns

/-- An address hits the first step; nothing hits an unknown one. -/
def firstHits (steps : AlternatePatterns) (address : UInt32) : Bool :=
  steps.first.any (·.hits address)

/-- **The bank an address carries** in the third step: its two bits from `shift` on. -/
def bankOf (steps : AlternatePatterns) (address : UInt32) : UInt8 :=
  ((address >>> steps.shift.toUInt32) &&& 3).toUInt8

end AlternatePatterns

/-! ## Bit twiddling -/

/-- A change to one of the two bits of the pending bank. -/
inductive Twiddle where
  | clear0 | set0 | clear1 | set1
  deriving DecidableEq, Repr

/-- The bank after a change to it. -/
def Twiddle.apply : Twiddle → UInt8 → UInt8
  | clear0, bank => bank &&& ~~~1
  | set0, bank => bank ||| 1
  | clear1, bank => bank &&& ~~~2
  | set1, bank => bank ||| 2

/-- The triggers of the bitwise protocol: one arms it, four change the pending bank, one ends it. -/
structure BitwisePatterns where
  arm : Trigger
  clear0 : Trigger
  set0 : Trigger
  clear1 : Trigger
  set1 : Trigger
  escape : Trigger
  deriving DecidableEq

/-- **The twiddle an address asks for**; of several the first counts. -/
def BitwisePatterns.twiddle? (bits : BitwisePatterns) (address : UInt32) : Option Twiddle :=
  if bits.clear0.hits address then some .clear0
  else if bits.set0.hits address then some .set0
  else if bits.clear1.hits address then some .clear1
  else if bits.set1.hits address then some .set1
  else none

/-! ## Addition -/

/-- The triggers of the additive protocol: two in a row arm it, two add to the pending bank, one
ends it. -/
structure AdditivePatterns where
  arm : Trigger
  confirm : Trigger
  plus1 : Trigger
  plus2 : Trigger
  escape : Trigger
  deriving DecidableEq

/-- **The bank after the additions an address asks for**, which may be both. -/
def AdditivePatterns.add (adds : AdditivePatterns) (bank : UInt8) (address : UInt32) : UInt8 :=
  let once := if adds.plus1.hits address then (bank + 1) &&& 3 else bank
  if adds.plus2.hits address then (once + 2) &&& 3 else once

/-! ## A part's patterns -/

/-- The protocol that a silicon revision has besides the simple and the alternate one. -/
inductive Scheme where
  /-- The first revision twiddles bits. -/
  | bitwise (bits : BitwisePatterns)
  /-- The second revision adds. -/
  | additive (adds : AdditivePatterns)
  deriving DecidableEq

namespace Scheme

/-- The number of the revision. -/
def revision : Scheme → Nat
  | bitwise _ => 1
  | additive _ => 2

/-- The bank after power-up: the last on the first revision, the first on the second. -/
def startingBank : Scheme → UInt8
  | bitwise _ => 3
  | additive _ => 0

/-- The bitwise triggers, on the revision that has them. -/
def bitwise? : Scheme → Option BitwisePatterns
  | bitwise bits => some bits
  | additive _ => none

/-- The additive triggers, on the revision that has them. -/
def additive? : Scheme → Option AdditivePatterns
  | bitwise _ => none
  | additive adds => some adds

end Scheme

/-- **Every address that drives a part.** -/
structure Patterns where
  select : Vector UInt16 4
  alternate : AlternatePatterns
  scheme : Scheme
  deriving DecidableEq

namespace Patterns

/-- **The bank that an address selects**, if it is a bank select. -/
def bankFor? (patterns : Patterns) (address : UInt32) : Option (Fin 4) :=
  [0, 1, 2, 3].find? fun i : Fin 4 => patterns.select[i].toUInt32 == address

/-- An address is one of the four bank selects. -/
def selects (patterns : Patterns) (address : UInt32) : Bool := (patterns.bankFor? address).isSome

/-- The bank that an address selects has it for its bank select. -/
theorem select_of_bankFor? {patterns : Patterns} {address : UInt32} {i : Fin 4}
    (h : patterns.bankFor? address = some i) : patterns.select[i].toUInt32 = address := by
  have found := List.find?_some h
  exact beq_iff_eq.mp found

theorem bankFor?_eq_none_iff {patterns : Patterns} {address : UInt32} :
    patterns.bankFor? address = none ↔ patterns.selects address = false := by
  simp [selects]

theorem selects_iff {patterns : Patterns} {address : UInt32} :
    patterns.selects address = true ↔ ∃ i : Fin 4, patterns.select[i].toUInt32 = address := by
  have mem : ∀ i : Fin 4, i ∈ ([0, 1, 2, 3] : List (Fin 4)) := by decide
  simp [selects, bankFor?, List.find?_isSome, mem]

end Patterns

end Slapstic
