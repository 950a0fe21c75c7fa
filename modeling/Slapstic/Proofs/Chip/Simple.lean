import Slapstic.Proofs.Chip.Adding
import Slapstic.Proofs.Chip.OffBus
import Slapstic.Proofs.Chip.Word

/-!
# Proofs/Chip/Simple — a bank select always works, whatever was tried before

The simple protocol asks for an access to zero and a bank select.  In between there may be any
number of **futile words**: accesses that begin nothing, and attempts at the other protocols that
break off.  An enabled chip swallows each of them (`Chip.swallows_of_futile`), the access that broke
it off included, be it a bank select; so the next bank select finds the chip enabled, and no other
trigger takes its address (`Chip.select_delivers`).
-/

namespace Slapstic

/-- **A word that comes to nothing** on an enabled chip. -/
inductive Futile (patterns : Patterns) (host : Host) : List Access → Prop where
  | zero {a : Access} (zero : a.pins = 0) : Futile patterns host [a]
  | unrelated {a : Access} (select : patterns.selects a.pins = false)
      (arm : patterns.scheme.arms a.pins = false)
      (first : patterns.alternate.firstHits a.pins = false)
      (second : patterns.alternate.second.hits a.pins = false) : Futile patterns host [a]
  /-- The first step without the second. -/
  | noSecond {x y : Access} (first : patterns.alternate.firstHits x.pins = true)
      (arm : patterns.scheme.arms x.pins = false)
      (miss : patterns.alternate.second.hits y.pins = false) : Futile patterns host [x, y]
  /-- The second step without the third; the first may be missing off the bus. -/
  | noThird {lead : List Access} {y z : Access} (led : Lead patterns host lead)
      (second : patterns.alternate.second.hits y.pins = true)
      (miss : patterns.alternate.third.hits z.pins = false ∨ z.pins = 0) :
      Futile patterns host (lead ++ [y, z])
  /-- The second step out of nowhere, with an instruction that did not make the others. -/
  | refused {y : Access} (inspected : host.inspected = true)
      (second : patterns.alternate.second.hits y.pins = true)
      (fails : ¬ (patterns.alternate.firstHits (y.view.pc >>> 1) = true ∧
        opcodeRunsSequence y.view.opcode = true ∧
        patterns.alternate.third.hits y.view.thirdAddress = true)) : Futile patterns host [y]
  | noConfirm {adds : AdditivePatterns} {x y : Access} (scheme : patterns.scheme = .additive adds)
      (arm : adds.arm.hits x.pins = true) (miss : adds.confirm.hits y.pins = false) :
      Futile patterns host [x, y]

namespace Chip

variable {chip : Chip} {a y : Access}

/-! ## The words that begin nothing -/

/-- An access that fits no protocol is swallowed. -/
theorem swallows_unrelated (enabled : chip.phase = .enabled)
    (select : chip.part.patterns.selects a.pins = false)
    (arm : chip.part.patterns.scheme.arms a.pins = false)
    (first : chip.part.patterns.alternate.firstHits a.pins = false)
    (second : chip.part.patterns.alternate.second.hits a.pins = false) : chip.Swallows [a] := by
  have unselected := Patterns.bankFor?_eq_none_iff.mpr select
  exact ((LeadsTo.start enabled).breakOff (.pass arm first second unselected)).swallows enabled

/-- A second step that the processor does not vouch for is swallowed. -/
theorem swallows_refused (enabled : chip.phase = .enabled) (inspected : chip.host.inspected = true)
    (second : chip.part.patterns.alternate.second.hits y.pins = true)
    (fails : ¬ (chip.part.patterns.alternate.firstHits (y.view.pc >>> 1) = true ∧
      opcodeRunsSequence y.view.opcode = true ∧
      chip.part.patterns.alternate.third.hits y.view.thirdAddress = true)) :
    chip.Swallows [y] := by
  have unfound : chip.part.patterns.alternate.recover? y.view = none := by
    refine Option.eq_none_iff_forall_ne_some.mpr fun bank found => fails ?_
    exact (AlternatePatterns.recover?_eq_some_iff.mp found).1
  have leads := leadsTo_resolve enabled second
  rw [AlternatePatterns.resolve, if_pos inspected, unfound] at leads
  exact leads.swallows enabled

/-- **An enabled chip swallows every futile word.** -/
theorem swallows_of_futile {word : List Access} (enabled : chip.phase = .enabled)
    (futile : Futile chip.part.patterns chip.host word) : chip.Swallows word := by
  cases futile with
  | zero zero => exact ((LeadsTo.start enabled).zero zero).swallows enabled
  | unrelated select arm first second => exact swallows_unrelated enabled select arm first second
  | noSecond first arm miss => exact swallows_instead_of_second enabled first arm miss
  | noThird led second miss => exact swallows_instead_of_third enabled led second miss
  | refused inspected second fails => exact swallows_refused enabled inspected second fails
  | noConfirm scheme arm miss => exact swallows_unconfirmed scheme enabled arm miss

/-! ## The simple protocol -/

/-- **The simple protocol works from any latch and through any futile words.**  After zero and the
words the chip is enabled and has its bank yet, and the four bank selects deliver their banks. -/
theorem select_delivers (chip : Chip) {zero : Access} {words : List (List Access)}
    (eq : zero.pins = 0) (futile : ∀ word ∈ words, Futile chip.part.patterns chip.host word) :
    chip.LeadsTo (zero :: words.flatten) .enabled ∧
      ∀ (i : Fin 4) (select : Access),
        select.pins = pins (chip.part.patterns.select.get i).toUInt32 →
        chip.Delivers (zero :: words.flatten) select (UInt8.ofNat i) := by
  have enables : chip.LeadsTo [zero] .enabled := (LeadsTo.start rfl).zero eq
  have enabled : (chip.run [zero]).phase = .enabled := by rw [enables.toLatch_eq]
  have swallows : (chip.run [zero]).Swallows words.flatten :=
    Swallows.flatten fun word mem => swallows_of_futile enabled (futile word mem)
  have leads : chip.LeadsTo ([zero] ++ words.flatten) .enabled := enables.swallow swallows
  refine ⟨leads, fun i select address => ?_⟩
  obtain ⟨⟨nonzero, wired⟩, arm, first, second, bank⟩ := chip.part.drivable.1.select i
  rw [wired] at address
  rw [← address] at nonzero arm first second bank
  exact leads.commit nonzero (.select arm first second bank)

/-- A chip taken out of its twiddling; sequences broken off by a bank select, by an arming access
and by zero, an arming access followed by a bank select, and an instruction that does not run a
sequence. -/
theorem select_delivers_after_attempts :
    let chip : Chip := ⟨⟨.bitwise2 1 3, 2⟩, ⟨118, by decide⟩, .m68000⟩
    let zero : Access := ⟨0x8000, .silent⟩
    let words : List (List Access) :=
      [[⟨0x4001, .silent⟩], [⟨0x0082, .silent⟩, ⟨0x0034, .silent⟩],
        [⟨0x0002, .silent⟩] ++ [⟨0x1950, .silent⟩, ⟨0x1958, .silent⟩],
        [⟨0x0002, .silent⟩] ++ [⟨0x1950, .silent⟩, ⟨0xC000, .silent⟩],
        [⟨0x1958, .silent⟩, ⟨0x0054, .silent⟩], [⟨0x5950, .silent⟩], [⟨0x4000, .silent⟩]]
    let select : Access := ⟨0xC054, .silent⟩
    zero.pins = 0 ∧ (∀ word ∈ words, Futile chip.part.patterns chip.host word) ∧
      chip.LeadsTo (zero :: words.flatten) .enabled ∧
      select.pins = pins (chip.part.patterns.select.get 2).toUInt32 ∧
      chip.Delivers (zero :: words.flatten) select 2 := by
  intro chip zero words select
  have eq : zero.pins = 0 := by decide
  have address : select.pins = pins (chip.part.patterns.select.get 2).toUInt32 := by decide
  have led : Lead chip.part.patterns chip.host [⟨0x0002, .silent⟩] := .first (by decide) (by decide)
  have futile : ∀ word ∈ words, Futile chip.part.patterns chip.host word := by
    simp only [words, List.forall_mem_cons, List.not_mem_nil, false_imp_iff, implies_true, and_true]
    exact ⟨.unrelated (by decide) (by decide) (by decide) (by decide),
      .noSecond (by decide) (by decide) (by decide), .noThird led (by decide) (.inl (by decide)),
      .noThird led (by decide) (.inr (by decide)), .noConfirm rfl (by decide) (by decide),
      .refused rfl (by decide) (by decide), .zero (by decide)⟩
  obtain ⟨leads, delivers⟩ := select_delivers chip eq futile
  exact ⟨eq, futile, leads, address, delivers 2 select address⟩

end Chip

end Slapstic
