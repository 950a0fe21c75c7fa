import Slapstic.Proofs.Chip.Alike
import Slapstic.Proofs.Chip.Sequence

/-!
# Proofs/Chip/OffBus — one look at the processor stands for a sequence on the bus

An inspected host shows the chip the second step alone.  If the word that the processor executes is
one of the two instructions that make all three accesses (`opcodeRunsSequence_iff`), its program
counter and its register stand for the other two steps, and the chip ends where the full sequence
on the bus would have led it (`agrees_with_bus`).

The bus is stricter on two counts: there the first address must not arm the further protocol, and
the third must be off zero.  Off the bus neither is asked.
-/

namespace Slapstic

/-! ## The instructions -/

/-- **An instruction that makes the accesses of a sequence**: `move.w (Ay),(Ax)` or
`cmpm.w (Ay)+,(Ax)+`, by its registers `Ay` and `Ax`. -/
inductive Transfer where
  | move (source target : Fin 8)
  | compare (source target : Fin 8)

namespace Transfer

/-- The word that encodes an instruction, `Ax` in bits 9 to 11 and `Ay` in bits 0 to 2. -/
def word : Transfer → UInt16
  | move source target => (0x3090 : UInt16) ||| UInt16.ofNat target <<< 9 ||| UInt16.ofNat source
  | compare source target => (0xB148 : UInt16) ||| UInt16.ofNat target <<< 9 ||| UInt16.ofNat source

/-- The register `Ax`, whose address is accessed last. -/
def target : Transfer → Fin 8
  | move _ target => target
  | compare _ target => target

theorem opcodeRunsSequence_word (transfer : Transfer) :
    opcodeRunsSequence transfer.word = true := by
  cases transfer with
  | move source target => revert source target; decide
  | compare source target => revert source target; decide

theorem opcodeRegister_word (transfer : Transfer) :
    opcodeRegister transfer.word = transfer.target := by
  cases transfer with
  | move source target => revert source target; decide
  | compare source target => revert source target; decide

end Transfer

/-- A register number is three bits of a word. -/
theorem ofNat_register (word : UInt16) : UInt16.ofNat (Fin.ofNat 8 word.toNat) = word &&& 7 := by
  apply UInt16.toNat_inj.mp
  rw [UInt16.toNat_and, show (7 : UInt16).toNat = 2 ^ 3 - 1 from rfl,
    Nat.and_two_pow_sub_one_eq_mod]
  simp
  omega

/-- **A word is its form and its two registers.** -/
theorem form_or_registers (word : UInt16) :
    (word &&& 0xF1F8 : UInt16) ||| UInt16.ofNat (opcodeRegister word) <<< 9 |||
      UInt16.ofNat (Fin.ofNat 8 word.toNat) = word := by
  rw [opcodeRegister, ofNat_register, ofNat_register, ← UInt16.toBitVec_inj]
  -- The form keeps bits 3 to 8 and 12 to 15, the registers hold the rest.
  refine BitVec.eq_of_getLsbD_eq fun i inside => ?_
  interval_cases i <;> simp

/-- **The words that run a sequence are those of the two instructions.** -/
theorem opcodeRunsSequence_iff {word : UInt16} :
    opcodeRunsSequence word = true ↔ ∃ transfer : Transfer, word = transfer.word := by
  constructor
  · intro runs
    have eq := form_or_registers word
    rcases (Bool.or_eq_true _ _).mp runs with form | form
    · rw [beq_iff_eq.mp form] at eq
      exact ⟨.move _ _, eq.symm⟩
    · rw [beq_iff_eq.mp form] at eq
      exact ⟨.compare _ _, eq.symm⟩
  · rintro ⟨transfer, rfl⟩
    exact transfer.opcodeRunsSequence_word

/-! ## What the look at the processor gives -/

namespace AlternatePatterns

variable {steps : AlternatePatterns} {host : Host} {view : View}

/-- **An instruction fetched from the first step** gives what its last access would give. -/
theorem resolve_of_transfer (inspected : host.inspected = true)
    (first : steps.firstHits (view.pc >>> 1) = true) {transfer : Transfer}
    (opcode : view.opcode = transfer.word) :
    steps.resolve host view = steps.afterThird (view.register transfer.target >>> 1) := by
  have runs : opcodeRunsSequence view.opcode = true := opcodeRunsSequence_iff.mpr ⟨_, opcode⟩
  have register : opcodeRegister view.opcode = transfer.target := by
    rw [opcode, transfer.opcodeRegister_word]
  rw [resolve, if_pos inspected, afterThird]
  by_cases third : steps.third.hits (view.register transfer.target >>> 1) = true
  · simp [recover?, first, runs, register, third]
  · simp [recover?, register, third]

/-- Anything else gives nothing. -/
theorem resolve_of_other (inspected : host.inspected = true)
    (other : steps.firstHits (view.pc >>> 1) = false ∨
      ∀ transfer : Transfer, view.opcode ≠ transfer.word) :
    steps.resolve host view = .enabled := by
  have hidden : (steps.firstHits (view.pc >>> 1) && opcodeRunsSequence view.opcode) = false := by
    rcases other with miss | other
    · rw [miss, Bool.false_and]
    · have runs : opcodeRunsSequence view.opcode = false := by
        rw [← Bool.not_eq_true, opcodeRunsSequence_iff]
        rintro ⟨transfer, opcode⟩
        exact other transfer opcode
      rw [runs, Bool.and_false]
  rw [resolve, if_pos inspected, recover?, hidden]
  rfl

end AlternatePatterns

/-! ## Off the bus and on it -/

namespace Chip

variable {chip : Chip} {y : Access}

/-- The second step out of nowhere leads where the look at the processor says. -/
theorem leadsTo_resolve (enabled : chip.phase = .enabled)
    (second : chip.part.patterns.alternate.second.hits y.pins = true) :
    chip.LeadsTo [y] (chip.part.patterns.alternate.resolve chip.host y.view) := by
  have fit := chip.part.fitLines
  have nonzero := fit.ne_zero_of_hits chip.part.patterns.second_mem second
  have arm := fit.arms_of_second second
  have first := fit.firstHits_of_second second
  exact (LeadsTo.start enabled).go nonzero (Patterns.transition_resolve arm first second)

/-- **An instruction off the bus** leads where its last access decides. -/
theorem leadsTo_of_transfer (enabled : chip.phase = .enabled)
    (inspected : chip.host.inspected = true)
    (second : chip.part.patterns.alternate.second.hits y.pins = true)
    (first : chip.part.patterns.alternate.firstHits (y.view.pc >>> 1) = true) {transfer : Transfer}
    (opcode : y.view.opcode = transfer.word) :
    chip.LeadsTo [y]
      (chip.part.patterns.alternate.afterThird (y.view.register transfer.target >>> 1)) := by
  rw [← AlternatePatterns.resolve_of_transfer inspected first opcode]
  exact leadsTo_resolve enabled second

/-- **Its accesses on the bus** lead there as well. -/
theorem leadsTo_of_accesses (enabled : chip.phase = .enabled) {x z : UInt32}
    (first : chip.part.patterns.alternate.firstHits x = true)
    (arm : chip.part.patterns.scheme.arms x = false)
    (second : chip.part.patterns.alternate.second.hits y.pins = true) (nonzero : pins z ≠ 0)
    (atFirst atSecond atThird : View) :
    chip.LeadsTo [⟨x, atFirst⟩, ⟨y.address, atSecond⟩, ⟨z, atThird⟩]
      (chip.part.patterns.alternate.afterThird z) := by
  have fit := chip.part.fitLines
  have led : Lead chip.part.patterns chip.host [⟨x, atFirst⟩] :=
    .first ((fit.firstHits_pins x).trans first) ((fit.arms_pins x).trans arm)
  exact leadsTo_afterThird (y := ⟨y.address, atSecond⟩) (z := ⟨z, atThird⟩) enabled led second
    nonzero

/-- **What is no sequence off the bus leaves the chip as it was.** -/
theorem access_eq_of_other (enabled : chip.phase = .enabled)
    (inspected : chip.host.inspected = true)
    (second : chip.part.patterns.alternate.second.hits y.pins = true)
    (other : chip.part.patterns.alternate.firstHits (y.view.pc >>> 1) = false ∨
      ∀ transfer : Transfer, y.view.opcode ≠ transfer.word) : chip.access y = chip := by
  have leads := leadsTo_resolve enabled second
  rw [AlternatePatterns.resolve_of_other inspected other] at leads
  exact (leads.swallows enabled).run_eq

/-- **An instruction off the bus does what its accesses do on it.**  On an inspected host the chip
sees the second step `y`, and a processor that executes one of the two instructions, with its
program counter at `x` and its register `Ax` at `z`.  If `x` is the first step and arms nothing, and
`z` is off zero, any chip of the part that sees `x`, `y`, `z` on the bus from the same start ends in
the same phase with the same bank, and on a host of the kind goes on in the same way.  Elsewhere
than at the first step, with another word, or on a part whose first step is unknown, the chip stays
as it was. -/
theorem agrees_with_bus (enabled : chip.phase = .enabled) (inspected : chip.host.inspected = true)
    (second : chip.part.patterns.alternate.second.hits y.pins = true) :
    (∀ transfer : Transfer, y.view.opcode = transfer.word →
      let x := y.view.pc >>> 1
      let z := y.view.register transfer.target >>> 1
      chip.part.patterns.alternate.firstHits x = true → chip.part.patterns.scheme.arms x = false →
      pins z ≠ 0 →
      ∀ (bus : Chip) (atFirst atSecond atThird : View), bus.part = chip.part →
        bus.toLatch = chip.toLatch →
        let after := bus.run [⟨x, atFirst⟩, ⟨y.address, atSecond⟩, ⟨z, atThird⟩]
        ((∃ pending, (chip.access y).toLatch = ⟨.alternate3 pending, chip.bank⟩ ∧
            after.toLatch = ⟨.alternate3 pending, chip.bank⟩) ∨
          ((chip.access y).toLatch = ⟨.enabled, chip.bank⟩ ∧
            after.toLatch = ⟨.enabled, chip.bank⟩)) ∧
        (bus.host.inspected = chip.host.inspected →
          ∀ rest, (chip.access y).latches rest = after.latches rest)) ∧
    (chip.part.patterns.alternate.firstHits (y.view.pc >>> 1) = false ∨
      (∀ transfer : Transfer, y.view.opcode ≠ transfer.word) → chip.access y = chip) ∧
    (chip.part.patterns.alternate.first = none → chip.access y = chip) := by
  refine ⟨?_, access_eq_of_other enabled inspected second, fun unknown => ?_⟩
  · intro transfer opcode x z first arm nonzero bus atFirst atSecond atThird part latch after
    have off := (leadsTo_of_transfer enabled inspected second first opcode).toLatch_eq
    have bus_enabled : bus.phase = .enabled := by rw [latch, enabled]
    rw [← part] at first arm second
    have on := (leadsTo_of_accesses bus_enabled first arm second nonzero atFirst atSecond
      atThird).toLatch_eq
    rw [part, latch] at on
    refine ⟨?_, fun kind rest => ?_⟩
    · unfold AlternatePatterns.afterThird at off on
      split at on
      next third =>
        rw [if_pos third] at off
        exact .inl ⟨_, off, on⟩
      next miss =>
        rw [if_neg miss] at off
        exact .inr ⟨off, on⟩
    · have alike : (chip.access y).Alike after := by
        refine ⟨?_, ?_, off.trans on.symm⟩
        · rw [part_access, part_run, part]
        · rw [host_access, host_run, kind]
      exact alike.latches rest
  · refine access_eq_of_other enabled inspected second (.inl ?_)
    rw [AlternatePatterns.firstHits, unknown]
    rfl

/-- `cmpm.w (A6)+,(A5)+` fetched from the first step, while the bus of a host that is not inspected
shows all three accesses; and a view that shows nothing, and a part whose first step is unknown. -/
theorem agrees_with_bus_compare :
    let view : View :=
      { pc := 0x80012304, instructionPc := 0xFF000100
        word := fun address => if address = 0x100 then 0xBB4E else 0x4E71
        register := fun n => if n = 5 then 0xFFFF0070 else 0 }
    let chip : Chip := ⟨⟨.enabled, 1⟩, ⟨118, by decide⟩, .m68010⟩
    let y : Access := ⟨0x5950, view⟩
    let x := view.pc >>> 1
    let z := view.register (Transfer.compare 6 5).target >>> 1
    let bus : Chip := { chip with host := .m6502 }
    let after := bus.run [⟨x, .silent⟩, ⟨y.address, .silent⟩, ⟨z, .silent⟩]
    let unseen : Access := ⟨0x5950, .silent⟩
    let unknown : Chip := ⟨⟨.enabled, 1⟩, ⟨101, by decide⟩, .m68000⟩
    let second : Access := ⟨0x1DFF, view⟩
    ((chip.phase = .enabled ∧ chip.host.inspected = true ∧
          chip.part.patterns.alternate.second.hits y.pins = true ∧
          view.opcode = (Transfer.compare 6 5).word ∧
          chip.part.patterns.alternate.firstHits x = true ∧
          chip.part.patterns.scheme.arms x = false ∧ pins z ≠ 0 ∧ bus.part = chip.part ∧
          bus.toLatch = chip.toLatch) ∧
        ((∃ pending, (chip.access y).toLatch = ⟨.alternate3 pending, chip.bank⟩ ∧
            after.toLatch = ⟨.alternate3 pending, chip.bank⟩) ∨
          ((chip.access y).toLatch = ⟨.enabled, chip.bank⟩ ∧
            after.toLatch = ⟨.enabled, chip.bank⟩)) ∧
        (bus.host.inspected = chip.host.inspected →
          ∀ rest, (chip.access y).latches rest = after.latches rest)) ∧
      (chip.part.patterns.alternate.firstHits (unseen.view.pc >>> 1) = false ∧
        chip.access unseen = chip) ∧
      unknown.part.patterns.alternate.second.hits second.pins = true ∧
        unknown.part.patterns.alternate.first = none ∧ unknown.access second = unknown := by
  intro view chip y x z bus after unseen unknown second
  have hit : chip.part.patterns.alternate.second.hits y.pins = true := by decide
  have opcode : y.view.opcode = (Transfer.compare 6 5).word := by decide
  have first : chip.part.patterns.alternate.firstHits x = true := by decide
  have arm : chip.part.patterns.scheme.arms x = false := by decide
  have nonzero : pins z ≠ 0 := by decide
  have unseen_first : chip.part.patterns.alternate.firstHits (unseen.view.pc >>> 1) = false := by
    decide
  have unknown_hit : unknown.part.patterns.alternate.second.hits second.pins = true := by decide
  have same := (agrees_with_bus (y := y) (show chip.phase = .enabled from rfl) rfl hit).1
    (.compare 6 5) opcode first arm nonzero bus .silent .silent .silent rfl rfl
  have unmoved := (agrees_with_bus (y := unseen) (show chip.phase = .enabled from rfl) rfl hit).2.1
    (.inl unseen_first)
  have unmoved' :=
    (agrees_with_bus (show unknown.phase = .enabled from rfl) rfl unknown_hit).2.2 rfl
  exact ⟨⟨⟨rfl, rfl, hit, opcode, first, arm, nonzero, rfl, rfl⟩, same⟩, ⟨unseen_first, unmoved⟩,
    unknown_hit, rfl, unmoved'⟩

end Chip

end Slapstic
