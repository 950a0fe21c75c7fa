import Slapstic.Proofs.Chip.Alike
import Slapstic.Proofs.Chip.Lines

/-!
# Proofs/Chip/Inspection — the accesses at which a run depends on the processor

An enabled chip **asks its host** when it is shown the second step of a sequence out of nowhere
(`Chip.AsksHost`).  At every other access neither the host nor the view has a say
(`Transition.elsewhere`), so two runs over the same addresses show the same latches as long as the
hosts answer alike (`Chip.latches_congr`).

A host that is not inspected gives one answer to all views.  An inspected one reads three things
off its view, and views that agree on them are answered alike (`Patterns.FitLines.recover?_congr`):
whether the first step was fetched, the word that the processor executes, and the fifteen lowest
bits of the register that the word names.
-/

namespace Slapstic

/-! ## What recovering a sequence reads -/

/-- **Two views agree on the traces of a sequence**: on whether its first step was fetched, on the
word that the processor executes, and on the low bits of the register that this word names. -/
structure AlternatePatterns.ViewsAgree (steps : AlternatePatterns) (view other : View) : Prop where
  first : steps.firstHits (view.pc >>> 1) = steps.firstHits (other.pc >>> 1)
  opcode : view.opcode = other.opcode
  register : view.register (opcodeRegister view.opcode) &&& 0x7FFF =
    other.register (opcodeRegister view.opcode) &&& 0x7FFF

/-- The chip's lines of a halved address are its fifteen lowest bits but the last. -/
theorem pins_half (address : UInt32) : pins (address >>> 1) = (address &&& 0x7FFF) >>> 1 := by
  rw [UInt32.shiftRight_and]
  rfl

namespace Patterns.FitLines

variable {patterns : Patterns} (fit : patterns.FitLines) {view other : View}

include fit

/-- **Views that agree give the same bank**, or both give none. -/
theorem recover?_congr (agree : patterns.alternate.ViewsAgree view other) :
    patterns.alternate.recover? view = patterns.alternate.recover? other := by
  have lines : pins (view.register (opcodeRegister view.opcode) >>> 1) =
      pins (other.register (opcodeRegister view.opcode) >>> 1) := by
    rw [pins_half, pins_half, agree.register]
  have third := fit.third_pins (view.register (opcodeRegister view.opcode) >>> 1)
  have bank := fit.bankOf_pins (view.register (opcodeRegister view.opcode) >>> 1)
  rw [lines, fit.third_pins] at third
  rw [lines, fit.bankOf_pins] at bank
  unfold AlternatePatterns.recover?
  rw [← agree.first, ← agree.opcode]
  dsimp only
  rw [third, bank]

/-- **The high bits of the program counters are not read.** -/
theorem viewsAgree_of_low (pc : view.pc &&& 0x7FFF = other.pc &&& 0x7FFF)
    (instructionPc : view.instructionPc &&& 0xFFFFFF = other.instructionPc &&& 0xFFFFFF)
    (word : view.word (view.instructionPc &&& 0xFFFFFF) =
      other.word (view.instructionPc &&& 0xFFFFFF))
    (register : view.register (opcodeRegister view.opcode) &&& 0x7FFF =
      other.register (opcodeRegister view.opcode) &&& 0x7FFF) :
    patterns.alternate.ViewsAgree view other where
  first := by
    rw [← fit.firstHits_pins, ← fit.firstHits_pins (other.pc >>> 1), pins_half, pins_half, pc]
  opcode := by rw [View.opcode, View.opcode, ← instructionPc, word]
  register := register

end Patterns.FitLines

/-! ## The access that asks -/

/-- **An access asks the host** if it makes the second step of a sequence on an enabled chip, but
neither arms the further protocol nor makes the first step. -/
def Patterns.AsksHost (patterns : Patterns) (phase : Phase) (address : UInt32) : Prop :=
  phase = .enabled ∧ patterns.alternate.second.hits address = true ∧
    patterns.scheme.arms address = false ∧ patterns.alternate.firstHits address = false

instance (patterns : Patterns) (phase : Phase) (address : UInt32) :
    Decidable (patterns.AsksHost phase address) :=
  inferInstanceAs (Decidable (_ ∧ _ ∧ _ ∧ _))

/-- **Elsewhere neither the host nor the view counts.** -/
theorem Transition.elsewhere {patterns : Patterns} {host : Host} {bank : UInt8} {address : UInt32}
    {view : View} {phase : Phase} {move : Move}
    (listed : Transition patterns host bank address view phase move)
    (unasked : ¬ patterns.AsksHost phase address) (otherHost : Host) (otherView : View) :
    Transition patterns otherHost bank address otherView phase move := by
  cases listed with
  | headless arm first second => exact absurd ⟨rfl, second, arm, first⟩ unasked
  | recover arm first second => exact absurd ⟨rfl, second, arm, first⟩ unasked
  | refuse arm first second => exact absurd ⟨rfl, second, arm, first⟩ unasked
  -- Two moves have the conclusion of another one, which the search would try first.
  | pass arm first second select => exact .pass arm first second select
  | foreignTwiddling scheme => exact .foreignTwiddling scheme
  | _ => constructor <;> assumption

namespace Chip

/-- An access to a chip as it stands asks the host. -/
abbrev AsksHost (chip : Chip) (a : Access) : Prop := chip.part.patterns.AsksHost chip.phase a.pins

variable {chip other : Chip} {a b : Access} {accesses others : List Access}

/-- A chip that asks goes where its host lets it. -/
theorem toLatch_access_of_asksHost (asks : chip.AsksHost a) : (chip.access a).toLatch =
    ⟨chip.part.patterns.alternate.resolve chip.host a.view, chip.bank⟩ := by
  obtain ⟨enabled, second, arm, first⟩ := asks
  have nonzero := chip.part.fitLines.ne_zero_of_hits chip.part.patterns.second_mem second
  have latch : chip.toLatch = ⟨.enabled, chip.bank⟩ := by rw [← enabled]
  rw [toLatch_access, latch,
    Patterns.step_eq_of_transition nonzero (Patterns.transition_resolve arm first second),
    Latch.after_go]

/-- **One access to the same address** does the same to two chips in one latch, if their hosts
answer alike where they are asked. -/
theorem toLatch_access_congr (part : chip.part = other.part) (latch : chip.toLatch = other.toLatch)
    (address : a.address = b.address)
    (answers : chip.AsksHost a → chip.part.patterns.alternate.resolve chip.host a.view =
      chip.part.patterns.alternate.resolve other.host b.view) :
    (chip.access a).toLatch = (other.access b).toLatch := by
  have same : a.pins = b.pins := congrArg pins address
  have phase : chip.phase = other.phase := congrArg Latch.phase latch
  by_cases asks : chip.AsksHost a
  · have other_asks : other.AsksHost b := by rwa [AsksHost, ← part, ← phase, ← same]
    rw [toLatch_access_of_asksHost asks, toLatch_access_of_asksHost other_asks, answers asks, part,
      latch]
  · rw [toLatch_access, toLatch_access, ← part, ← latch]
    by_cases zero : a.pins = 0
    · rw [Patterns.step_of_pins_eq_zero zero, Patterns.step_of_pins_eq_zero (same ▸ zero)]
    · obtain ⟨move, listed, eq⟩ :=
        chip.part.patterns.exists_transition_step chip.host chip.toLatch zero
      have listed' := listed.elsewhere asks other.host b.view
      rw [same] at listed' zero
      rw [eq, Patterns.step_eq_of_transition zero listed']

/-- **Two runs over the same addresses** show the same latches, if the hosts answer alike whenever
the first chip asks. -/
theorem latches_congr (part : chip.part = other.part) (latch : chip.toLatch = other.toLatch)
    (addresses : accesses.map Access.address = others.map Access.address)
    (answers : ∀ i a b, accesses[i]? = some a → others[i]? = some b →
      (chip.run (accesses.take i)).AsksHost a →
      chip.part.patterns.alternate.resolve chip.host a.view =
        chip.part.patterns.alternate.resolve other.host b.view) :
    chip.latches accesses = other.latches others := by
  induction accesses generalizing chip other others with
  | nil =>
    rw [List.map_nil, eq_comm, List.map_eq_nil_iff] at addresses
    rw [addresses]
    rfl
  | cons a rest ih =>
    obtain ⟨b, others, rfl, address, rest_addresses⟩ := List.map_eq_cons_iff.mp addresses.symm
    have next := toLatch_access_congr part latch address.symm (answers 0 a b rfl rfl)
    have later : (chip.access a).latches rest = (other.access b).latches others :=
      ih part next rest_addresses.symm fun i => answers (i + 1)
    rw [latches, latches, next, later]

theorem latches_take (chip : Chip) (accesses : List Access) (n : Nat) :
    chip.latches (accesses.take n) = (chip.latches accesses).take n := by
  induction accesses generalizing chip n with
  | nil => simp [latches]
  | cons a rest ih =>
    cases n with
    | zero => rfl
    | succ n => rw [List.take_succ_cons, latches, latches, List.take_succ_cons, ih]

/-! ## The two runs -/

/-- **What a run takes from its host and from the views.**  Let two chips of one part, in one
latch, see the same addresses.  If neither host is inspected, they show the same latches, whatever
the views.  If both are, they do so provided that the views agree at the accesses that ask the
host; what else the views show is not read, the high bits of the program counters among it.  And
whatever the hosts, the latches are the same up to the first access that asks. -/
theorem latches_eq_of_viewsAgree (part : chip.part = other.part)
    (latch : chip.toLatch = other.toLatch)
    (addresses : accesses.map Access.address = others.map Access.address) :
    (chip.host.inspected = false → other.host.inspected = false →
      chip.latches accesses = other.latches others) ∧
    (chip.host.inspected = true → other.host.inspected = true →
      (∀ i a b, accesses[i]? = some a → others[i]? = some b →
        (chip.run (accesses.take i)).AsksHost a →
        chip.part.patterns.alternate.ViewsAgree a.view b.view) →
      chip.latches accesses = other.latches others) ∧
    (∀ view view' : View, view.pc &&& 0x7FFF = view'.pc &&& 0x7FFF →
      view.instructionPc &&& 0xFFFFFF = view'.instructionPc &&& 0xFFFFFF →
      view.word (view.instructionPc &&& 0xFFFFFF) = view'.word (view.instructionPc &&& 0xFFFFFF) →
      view.register (opcodeRegister view.opcode) &&& 0x7FFF =
        view'.register (opcodeRegister view.opcode) &&& 0x7FFF →
      chip.part.patterns.alternate.ViewsAgree view view') ∧
    ∀ n, (∀ i a, i < n → accesses[i]? = some a → ¬ (chip.run (accesses.take i)).AsksHost a) →
      (chip.latches accesses).take n = (other.latches others).take n := by
  refine ⟨fun bus bus' => ?_, fun inspected inspected' agree => ?_,
    fun _ _ => chip.part.fitLines.viewsAgree_of_low, fun n unasked => ?_⟩
  · refine latches_congr part latch addresses fun i a b _ _ _ => ?_
    rw [AlternatePatterns.resolve, AlternatePatterns.resolve, bus, bus']
    rfl
  · refine latches_congr part latch addresses fun i a b found found' asks => ?_
    have recovered := chip.part.fitLines.recover?_congr (agree i a b found found' asks)
    rw [AlternatePatterns.resolve, AlternatePatterns.resolve, inspected, inspected', recovered]
  · rw [← latches_take, ← latches_take]
    refine latches_congr part latch ?_ fun i a b found _ asks => ?_
    · rw [List.map_take, List.map_take, addresses]
    · rw [List.getElem?_take] at found
      obtain ⟨inside, found⟩ := Option.ite_none_right_eq_some.mp found
      rw [List.take_take, Nat.min_eq_left inside.le] at asks
      exact absurd asks (unasked i a inside found)

/-- A sequence off the bus, on both kinds of host: the views differ wherever they may, and the one
access that asks the host is the second. -/
theorem latches_eq_of_viewsAgree_hidden :
    let view : View :=
      { pc := 0x5A, instructionPc := 0x100
        word := fun address => if address = 0x100 then 0x3290 else 0
        register := fun n => if n = 1 then 0x7A4C else 0 }
    let view' : View :=
      { pc := 0xFFFF805A, instructionPc := 0x7F000100
        word := fun address => if address = 0x100 then 0x3290 else 0xFFFF
        register := fun n => if n = 1 then 0xABCDFA4C else 7 }
    let accesses : List Access := [⟨0x4000, view⟩, ⟨0x3D14, view⟩, ⟨0x40, .silent⟩]
    let others : List Access := [⟨0x4000, .silent⟩, ⟨0x3D14, view'⟩, ⟨0x40, view⟩]
    let chip (host : Host) : Chip := ⟨⟨.disabled, 3⟩, ⟨103, by decide⟩, host⟩
    accesses.map Access.address = others.map Access.address ∧
      (chip .t11).latches accesses = (chip .m6809).latches others ∧
      ((view.pc &&& 0x7FFF = view'.pc &&& 0x7FFF ∧
          view.instructionPc &&& 0xFFFFFF = view'.instructionPc &&& 0xFFFFFF ∧
          view.word (view.instructionPc &&& 0xFFFFFF) =
            view'.word (view.instructionPc &&& 0xFFFFFF) ∧
          view.register (opcodeRegister view.opcode) &&& 0x7FFF =
            view'.register (opcodeRegister view.opcode) &&& 0x7FFF) ∧
        (∀ i a b, accesses[i]? = some a → others[i]? = some b →
          ((chip .m68000).run (accesses.take i)).AsksHost a →
          (chip .m68000).part.patterns.alternate.ViewsAgree a.view b.view) ∧
        (chip .m68000).latches accesses = (chip .m68010).latches others) ∧
      (∀ i a, i < 1 → accesses[i]? = some a →
        ¬ ((chip .m68000).run (accesses.take i)).AsksHost a) ∧
      ((chip .m68000).latches accesses).take 1 = ((chip .t11).latches others).take 1 := by
  intro view view' accesses others chip
  have bus := latches_eq_of_viewsAgree (show (chip .t11).part = (chip .m6809).part from rfl) rfl
    (show accesses.map Access.address = others.map Access.address from rfl)
  have inspected := latches_eq_of_viewsAgree
    (show (chip .m68000).part = (chip .m68010).part from rfl) rfl
    (show accesses.map Access.address = others.map Access.address from rfl)
  have mixed := latches_eq_of_viewsAgree (show (chip .m68000).part = (chip .t11).part from rfl) rfl
    (show accesses.map Access.address = others.map Access.address from rfl)
  have low : view.pc &&& 0x7FFF = view'.pc &&& 0x7FFF ∧
      view.instructionPc &&& 0xFFFFFF = view'.instructionPc &&& 0xFFFFFF ∧
      view.word (view.instructionPc &&& 0xFFFFFF) = view'.word (view.instructionPc &&& 0xFFFFFF) ∧
      view.register (opcodeRegister view.opcode) &&& 0x7FFF =
        view'.register (opcodeRegister view.opcode) &&& 0x7FFF := by
    decide
  obtain ⟨pc, instructionPc, word, register⟩ := low
  have shown : (chip .m68000).part.patterns.alternate.ViewsAgree view view' :=
    inspected.2.2.1 view view' pc instructionPc word register
  have agree : ∀ i a b, accesses[i]? = some a → others[i]? = some b →
      ((chip .m68000).run (accesses.take i)).AsksHost a →
      (chip .m68000).part.patterns.alternate.ViewsAgree a.view b.view := by
    intro i a b found found' asks
    rcases i with _ | _ | _ | i
    · obtain rfl := Option.some.inj found
      exact absurd asks (by decide)
    · obtain rfl := Option.some.inj found
      obtain rfl := Option.some.inj found'
      exact shown
    · obtain rfl := Option.some.inj found
      exact absurd asks (by decide)
    · cases found
  have unasked : ∀ i a, i < 1 → accesses[i]? = some a →
      ¬ ((chip .m68000).run (accesses.take i)).AsksHost a := by
    intro i a inside found
    obtain rfl : i = 0 := by omega
    obtain rfl := Option.some.inj found
    decide
  exact ⟨rfl, bus.1 rfl rfl,
    ⟨⟨pc, instructionPc, word, register⟩, agree, inspected.2.1 rfl rfl agree⟩, unasked,
    mixed.2.2.2 1 unasked⟩

end Chip

end Slapstic
