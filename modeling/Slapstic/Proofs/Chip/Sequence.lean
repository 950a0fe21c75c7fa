import Slapstic.Proofs.Chip.Course
import Slapstic.Proofs.Chip.Lines

/-!
# Proofs/Chip/Sequence — the alternate sequence on the bus, and how it breaks off

The first three steps come back to back, the fourth after any wait.  On a host that is not inspected
the first may be missing; a `Lead` is what comes before the second.  The bank is that of the third
step's address (`sequence_delivers`).

A wrong access in place of the second or third step is used up by the sequence it breaks off: the
chip is as it was, whatever that access would have begun by itself.
-/

namespace Slapstic

/-- **What leads to the second step**: the first, unless it arms the further protocol, or nothing at
all on a host that is not inspected. -/
inductive Lead (patterns : Patterns) (host : Host) : List Access → Prop where
  | first {x : Access} (first : patterns.alternate.firstHits x.pins = true)
      (arm : patterns.scheme.arms x.pins = false) : Lead patterns host [x]
  | headless (bus : host.inspected = false) : Lead patterns host []

/-- The phase after the third access: the bank that it gives, if it hits. -/
def AlternatePatterns.afterThird (steps : AlternatePatterns) (address : UInt32) : Phase :=
  if steps.third.hits address then .alternate3 (steps.bankOf address) else .enabled

namespace Chip

variable {chip : Chip} {lead wait : List Access} {x y z close : Access}

/-! ## The steps -/

theorem leadsTo_alternate1 (enabled : chip.phase = .enabled)
    (first : chip.part.patterns.alternate.firstHits x.pins = true)
    (arm : chip.part.patterns.scheme.arms x.pins = false) : chip.LeadsTo [x] .alternate1 :=
  (LeadsTo.start enabled).go (chip.part.fitLines.ne_zero_of_first first) (.first arm first)

/-- **The second step is reached** with the first, or without it off the bus. -/
theorem leadsTo_alternate2 (enabled : chip.phase = .enabled)
    (led : Lead chip.part.patterns chip.host lead)
    (second : chip.part.patterns.alternate.second.hits y.pins = true) :
    chip.LeadsTo (lead ++ [y]) .alternate2 := by
  have fit := chip.part.fitLines
  have nonzero := fit.ne_zero_of_hits chip.part.patterns.second_mem second
  cases led with
  | first first arm => exact (leadsTo_alternate1 enabled first arm).go nonzero (.second second)
  | headless bus =>
    exact (LeadsTo.start enabled).go nonzero
      (.headless (fit.arms_of_second second) (fit.firstHits_of_second second) second bus)

/-- **The third access decides**: a third step gives the bank, another access breaks off. -/
theorem leadsTo_afterThird (enabled : chip.phase = .enabled)
    (led : Lead chip.part.patterns chip.host lead)
    (second : chip.part.patterns.alternate.second.hits y.pins = true) (nonzero : z.pins ≠ 0) :
    chip.LeadsTo (lead ++ [y, z]) (chip.part.patterns.alternate.afterThird z.address) := by
  have fit := chip.part.fitLines
  have leads := leadsTo_alternate2 enabled led second
  have third_eq := fit.third_pins z.address
  rw [List.append_cons]
  unfold AlternatePatterns.afterThird
  split
  next third =>
    rw [← fit.bankOf_pins]
    exact leads.go nonzero (.third (third_eq.trans third))
  next miss => exact leads.go nonzero (.noThird (third_eq.trans (by simpa using miss)))

/-! ## Breaking off -/

/-- **An access in place of the second step is used up.** -/
theorem swallows_instead_of_second (enabled : chip.phase = .enabled)
    (first : chip.part.patterns.alternate.firstHits x.pins = true)
    (arm : chip.part.patterns.scheme.arms x.pins = false)
    (miss : chip.part.patterns.alternate.second.hits y.pins = false) : chip.Swallows [x, y] := by
  have broken : chip.LeadsTo ([x] ++ [y]) .enabled :=
    (leadsTo_alternate1 enabled first arm).breakOff (.noSecond miss)
  exact broken.swallows enabled

/-- **An access in place of the third step is used up**, and so is zero, even where it hits. -/
theorem swallows_instead_of_third (enabled : chip.phase = .enabled)
    (led : Lead chip.part.patterns chip.host lead)
    (second : chip.part.patterns.alternate.second.hits y.pins = true)
    (miss : chip.part.patterns.alternate.third.hits z.pins = false ∨ z.pins = 0) :
    chip.Swallows (lead ++ [y, z]) := by
  have broken : chip.LeadsTo (lead ++ [y, z]) .enabled := by
    by_cases zero : z.pins = 0
    · rw [List.append_cons]
      exact (leadsTo_alternate2 enabled led second).zero zero
    · have leads := leadsTo_afterThird enabled led second zero
      have third_eq := chip.part.fitLines.third_pins z.address
      rwa [AlternatePatterns.afterThird, ← third_eq, miss.resolve_right zero] at leads
  exact broken.swallows enabled

/-! ## The whole sequence -/

/-- **The alternate sequence selects the bank of its third step**, which is the same on all address
lines and on the chip's own; a wrong access in place of the second or the third step breaks it off
and leaves the chip as it was. -/
theorem sequence_delivers (enabled : chip.phase = .enabled) :
    (∀ (lead wait : List Access) (y z close : Access), Lead chip.part.patterns chip.host lead →
      chip.part.patterns.alternate.second.hits y.pins = true →
      chip.part.patterns.alternate.third.hits z.pins = true → z.pins ≠ 0 →
      (∀ a ∈ wait, a.pins ≠ 0 ∧ chip.part.patterns.alternate.fourth.hits a.pins = false) →
      chip.part.patterns.alternate.fourth.hits close.pins = true →
      chip.Delivers (lead ++ [y, z] ++ wait) close
          (chip.part.patterns.alternate.bankOf z.address) ∧
        chip.part.patterns.alternate.bankOf z.pins =
          chip.part.patterns.alternate.bankOf z.address) ∧
    (∀ x y : Access, chip.part.patterns.alternate.firstHits x.pins = true →
      chip.part.patterns.scheme.arms x.pins = false →
      chip.part.patterns.alternate.second.hits y.pins = false → chip.Swallows [x, y]) ∧
    ∀ (lead : List Access) (y z : Access), Lead chip.part.patterns chip.host lead →
      chip.part.patterns.alternate.second.hits y.pins = true →
      (chip.part.patterns.alternate.third.hits z.pins = false ∨ z.pins = 0) →
      chip.Swallows (lead ++ [y, z]) := by
  refine ⟨?_, fun x y => swallows_instead_of_second enabled,
    fun lead y z => swallows_instead_of_third enabled⟩
  intro lead wait y z close led second third nonzero waiting closed
  have fit := chip.part.fitLines
  have close_nonzero := fit.ne_zero_of_hits chip.part.patterns.fourth_mem closed
  have gathered := leadsTo_afterThird enabled led second nonzero
  rw [AlternatePatterns.afterThird, ← fit.third_pins, if_pos third] at gathered
  have waited := gathered.wait fun a mem => ⟨(waiting a mem).1, .awaitFourth (waiting a mem).2⟩
  exact ⟨waited.commit close_nonzero (.fourth closed), fit.bankOf_pins z.address⟩

/-- A sequence on a part whose third step zero hits as well: complete, broken off by a bank select,
and broken off by zero. -/
theorem sequence_delivers_past_zero :
    let chip : Chip := ⟨⟨.enabled, 2⟩, ⟨114, by decide⟩, .t11⟩
    let x : Access := ⟨0x4096, .silent⟩
    let y : Access := ⟨0x64DE, .silent⟩
    let z : Access := ⟨0x4786, .silent⟩
    let wait : List Access := [⟨0x0016, .silent⟩, ⟨0x24DE, .silent⟩, ⟨0x0041, .silent⟩]
    let close : Access := ⟨0x0058, .silent⟩
    let zero : Access := ⟨0x4000, .silent⟩
    (chip.phase = .enabled ∧ chip.part.patterns.alternate.firstHits x.pins = true ∧
        chip.part.patterns.scheme.arms x.pins = false ∧
        chip.part.patterns.alternate.second.hits y.pins = true ∧
        chip.part.patterns.alternate.third.hits z.pins = true ∧ z.pins ≠ 0 ∧
        (∀ a ∈ wait, a.pins ≠ 0 ∧ chip.part.patterns.alternate.fourth.hits a.pins = false) ∧
        chip.part.patterns.alternate.fourth.hits close.pins = true ∧
        chip.Delivers ([x] ++ [y, z] ++ wait) close 3) ∧
      (chip.part.patterns.selects close.pins = true ∧ chip.Swallows [x, close]) ∧
      chip.host.inspected = false ∧ chip.part.patterns.alternate.third.hits zero.pins = true ∧
        zero.pins = 0 ∧ chip.Swallows ([] ++ [y, zero]) := by
  intro chip x y z wait close zero
  have first : chip.part.patterns.alternate.firstHits x.pins = true := by decide
  have arm : chip.part.patterns.scheme.arms x.pins = false := by decide
  have second : chip.part.patterns.alternate.second.hits y.pins = true := by decide
  have waiting : ∀ a ∈ wait,
      a.pins ≠ 0 ∧ chip.part.patterns.alternate.fourth.hits a.pins = false := by decide
  have bank : chip.part.patterns.alternate.bankOf z.address = 3 := by decide
  obtain ⟨delivers, noSecond, noThird⟩ := sequence_delivers (show chip.phase = .enabled from rfl)
  have delivered := (delivers [x] wait y z close (.first first arm) second (by decide) (by decide)
    waiting (by decide)).1
  rw [bank] at delivered
  exact ⟨⟨rfl, first, arm, second, by decide, by decide, waiting, by decide, delivered⟩,
    ⟨by decide, noSecond x close first arm (by decide)⟩, rfl, by decide, by decide,
    noThird [] y zero (.headless rfl) second (.inr (by decide))⟩

end Chip

end Slapstic
