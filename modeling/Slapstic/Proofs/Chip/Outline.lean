import Slapstic.Proofs.Chip.Alike
import Slapstic.Proofs.Chip.Commit

/-!
# Proofs/Chip/Outline — where a chip goes does not depend on the banks it holds

The **outline** of a phase is what is left of it without its pending bank.  An access takes a phase
to one whose outline depends on the outline before, and neither on the pending nor on the selected
bank (`Patterns.outline_step`).  So two chips that are `Parallel`, that is, alike but for their
banks, stay so in every run and commit at the same accesses.

Zero leads all chips of a part to one outline.  From there on they are parallel wherever they come
from, and alike if they select the same bank (`Chip.keepStep_regardless_of_banks`).
-/

namespace Slapstic

namespace Phase

/-- **A phase without the bank that it gathers**: its step, with the toggle if it has one. -/
def outline : Phase → Phase
  | alternate3 _ => alternate3 0
  | bitwise2 _ toggle => bitwise2 0 toggle
  | bitwise3 _ => bitwise3 0
  | additive2 _ => additive2 0
  | additive3 _ => additive3 0
  | disabled => disabled
  | enabled => enabled
  | alternate1 => alternate1
  | alternate2 => alternate2
  | bitwise1 => bitwise1
  | additive1 => additive1

theorem outline_eq_disabled_iff {phase : Phase} : phase.outline = disabled ↔ phase = disabled := by
  cases phase <;> simp [outline]

end Phase

/-! ## One move -/

/-- The phase that a move leads to. -/
def Move.phase : Move → Phase
  | go phase => phase
  | commit _ => .disabled

theorem Latch.phase_after (latch : Latch) (move : Move) :
    (latch.after move).phase = move.phase := by
  cases move <;> rfl

/-- **Every move has a counterpart without banks**, from the outline of its phase to that of the
phase after it. -/
theorem Transition.exists_outline {patterns : Patterns} {host : Host} {bank : UInt8}
    {address : UInt32} {view : View} {phase : Phase} {move : Move}
    (listed : Transition patterns host bank address view phase move) :
    ∃ move', Transition patterns host 0 address view phase.outline move' ∧
      move'.phase.outline = move.phase.outline := by
  cases listed with
  | deaf => exact ⟨_, .deaf, rfl⟩
  | armBitwise scheme arm => exact ⟨_, .armBitwise scheme arm, rfl⟩
  | armAdditive scheme arm => exact ⟨_, .armAdditive scheme arm, rfl⟩
  | first arm first => exact ⟨_, .first arm first, rfl⟩
  | headless arm first second bus => exact ⟨_, .headless arm first second bus, rfl⟩
  | recover arm first second inspected found =>
    exact ⟨_, .recover arm first second inspected found, rfl⟩
  | refuse arm first second inspected found =>
    exact ⟨_, .refuse arm first second inspected found, rfl⟩
  | select arm first second select => exact ⟨_, .select arm first second select, rfl⟩
  | pass arm first second select => exact ⟨_, .pass arm first second select, rfl⟩
  | second second => exact ⟨_, .second second, rfl⟩
  | noSecond second => exact ⟨_, .noSecond second, rfl⟩
  | third third => exact ⟨_, .third third, rfl⟩
  | noThird third => exact ⟨_, .noThird third, rfl⟩
  | fourth fourth => exact ⟨_, .fourth fourth, rfl⟩
  | awaitFourth fourth => exact ⟨_, .awaitFourth fourth, rfl⟩
  | beginTwiddling select => exact ⟨_, .beginTwiddling select, rfl⟩
  | awaitTwiddling select => exact ⟨_, .awaitTwiddling select, rfl⟩
  | twiddle scheme hit => exact ⟨_, .twiddle scheme hit, rfl⟩
  | endTwiddling scheme miss escape => exact ⟨_, .endTwiddling scheme miss escape, rfl⟩
  | keepTwiddling scheme miss escape => exact ⟨_, .keepTwiddling scheme miss escape, rfl⟩
  | foreignTwiddling scheme => exact ⟨_, .foreignTwiddling scheme, rfl⟩
  | selectTwiddled select => exact ⟨_, .selectTwiddled select, rfl⟩
  | awaitTwiddled select => exact ⟨_, .awaitTwiddled select, rfl⟩
  | confirm scheme confirm => exact ⟨_, .confirm scheme confirm, rfl⟩
  | noConfirm confirm => exact ⟨_, .noConfirm confirm, rfl⟩
  | endAdding scheme escape => exact ⟨_, .endAdding scheme escape, rfl⟩
  | keepAdding scheme escape => exact ⟨_, .keepAdding scheme escape, rfl⟩
  | foreignAdding scheme => exact ⟨_, .foreignAdding scheme, rfl⟩
  | selectAdded select => exact ⟨_, .selectAdded select, rfl⟩
  | awaitAdded select => exact ⟨_, .awaitAdded select, rfl⟩

/-- **An access to a latch and to its outline** lead to one outline. -/
theorem Patterns.outline_step (patterns : Patterns) (host : Host) (latch : Latch) (a : Access) :
    (patterns.step host latch a).phase.outline =
      (patterns.step host ⟨latch.phase.outline, 0⟩ a).phase.outline := by
  by_cases zero : a.pins = 0
  · rw [step_of_pins_eq_zero zero, step_of_pins_eq_zero zero]
  · obtain ⟨move, listed, eq⟩ := patterns.exists_transition_step host latch zero
    obtain ⟨move', listed', same⟩ := listed.exists_outline
    rw [eq, step_eq_of_transition zero listed', Latch.phase_after, Latch.phase_after, same]

/-! ## Chips alike but for their banks -/

namespace Chip

/-- **Parallel chips**: the same part, on hosts of one kind, in phases of one outline. -/
structure Parallel (chip other : Chip) : Prop where
  part_eq : chip.part = other.part
  inspected_eq : chip.host.inspected = other.host.inspected
  outline_eq : chip.phase.outline = other.phase.outline

variable {chip other : Chip}

/-- **An access keeps them parallel.** -/
theorem Parallel.access (parallel : chip.Parallel other) (a : Access) :
    (chip.access a).Parallel (other.access a) where
  part_eq := parallel.part_eq
  inspected_eq := parallel.inspected_eq
  outline_eq := by
    rw [toLatch_access, toLatch_access, Patterns.outline_step, parallel.outline_eq,
      ← Patterns.outline_step, parallel.part_eq, Patterns.step_congr _ parallel.inspected_eq]

theorem Parallel.run (parallel : chip.Parallel other) (accesses : List Access) :
    (chip.run accesses).Parallel (other.run accesses) := by
  induction accesses generalizing chip other with
  | nil => exact parallel
  | cons a rest ih => exact ih (parallel.access a)

theorem Parallel.disabled_iff (parallel : chip.Parallel other) :
    chip.phase = .disabled ↔ other.phase = .disabled := by
  rw [← Phase.outline_eq_disabled_iff, parallel.outline_eq, Phase.outline_eq_disabled_iff]

/-- **An access commits on both or on neither.** -/
theorem Parallel.commits_iff (parallel : chip.Parallel other) (a : Access) :
    chip.Commits a ↔ other.Commits a :=
  and_congr parallel.disabled_iff.not (parallel.access a).disabled_iff

/-- **Two chips keep step over a run**: they have the same outline after each access, and commit at
the same accesses. -/
structure KeepStep (chip other : Chip) (accesses : List Access) : Prop where
  outlines_eq : (chip.latches accesses).map (·.phase.outline) =
    (other.latches accesses).map (·.phase.outline)
  commits_iff : ∀ before a after, accesses = before ++ a :: after →
    ((chip.run before).Commits a ↔ (other.run before).Commits a)

theorem Parallel.outlines_eq (parallel : chip.Parallel other) (accesses : List Access) :
    (chip.latches accesses).map (·.phase.outline) =
      (other.latches accesses).map (·.phase.outline) := by
  induction accesses generalizing chip other with
  | nil => rfl
  | cons a rest ih =>
    have next := parallel.access a
    rw [latches, latches, List.map_cons, List.map_cons, next.outline_eq, ih next]

/-- **Parallel chips keep step.** -/
theorem Parallel.keepStep (parallel : chip.Parallel other) (accesses : List Access) :
    chip.KeepStep other accesses where
  outlines_eq := parallel.outlines_eq accesses
  commits_iff before a _ _ := (parallel.run before).commits_iff a

/-! ## From zero on -/

variable {zero : Access}

/-- Zero commits nothing. -/
theorem not_commits_zero (chip : Chip) (eq : zero.pins = 0) : ¬ chip.Commits zero := by
  rintro ⟨-, disabled⟩
  rw [toLatch_access_of_zero chip eq] at disabled
  cases disabled

/-- After zero all chips of a part are parallel. -/
theorem parallel_access_zero (part : chip.part = other.part)
    (inspected : chip.host.inspected = other.host.inspected) (eq : zero.pins = 0) :
    (chip.access zero).Parallel (other.access zero) where
  part_eq := part
  inspected_eq := inspected
  outline_eq := by rw [toLatch_access_of_zero chip eq, toLatch_access_of_zero other eq]

/-- …and alike if they select one bank. -/
theorem alike_access_zero (part : chip.part = other.part)
    (inspected : chip.host.inspected = other.host.inspected) (eq : zero.pins = 0)
    (bank : chip.bank = other.bank) : (chip.access zero).Alike (other.access zero) where
  part_eq := part
  inspected_eq := inspected
  toLatch_eq := by rw [toLatch_access_of_zero chip eq, toLatch_access_of_zero other eq, bank]

/-- **From an access to zero on, all chips of a part keep step.** -/
theorem keepStep_zero (part : chip.part = other.part)
    (inspected : chip.host.inspected = other.host.inspected) (eq : zero.pins = 0)
    (after : List Access) : chip.KeepStep other (zero :: after) where
  outlines_eq := by
    have next := parallel_access_zero part inspected eq
    rw [latches, latches, List.map_cons, List.map_cons, next.outline_eq, next.outlines_eq]
  commits_iff before a later split := by
    have next := parallel_access_zero part inspected eq
    rcases before with _ | ⟨first, before⟩
    · obtain ⟨rfl, -⟩ := List.cons.inj split
      exact iff_of_false (chip.not_commits_zero eq) (other.not_commits_zero eq)
    · obtain ⟨rfl, -⟩ := List.cons.inj split
      exact (next.run before).commits_iff a

/-- **Where a chip goes does not depend on its banks, and zero makes it forget where it was.**  Two
chips of a part that begin in phases of one outline keep step over every run, whatever banks they
select and hold back.  Two chips in any latches keep step from an access to zero on; and if they
then select the same bank, each latch from there on is the same. -/
theorem keepStep_regardless_of_banks (part : chip.part = other.part)
    (inspected : chip.host.inspected = other.host.inspected) (accesses : List Access) :
    (chip.phase.outline = other.phase.outline → chip.KeepStep other accesses) ∧
    ∀ before zero after, accesses = before ++ zero :: after → zero.pins = 0 →
      (chip.run before).KeepStep (other.run before) (zero :: after) ∧
      ((chip.run before).bank = (other.run before).bank →
        (chip.run before).latches (zero :: after) =
          (other.run before).latches (zero :: after)) := by
  refine ⟨fun outline => Parallel.keepStep ⟨part, inspected, outline⟩ accesses, ?_⟩
  intro before zero after _ eq
  have part' : (chip.run before).part = (other.run before).part := by
    rw [part_run, part_run, part]
  have inspected' : (chip.run before).host.inspected = (other.run before).host.inspected := by
    rw [host_run, host_run, inspected]
  refine ⟨keepStep_zero part' inspected' eq after, fun bank => ?_⟩
  have alike := alike_access_zero part' inspected' eq bank
  rw [latches, latches, alike.toLatch_eq, alike.latches]

/-- Two chips that twiddle different banks; and two that come to zero from phases of different
protocols, one of them foreign to the part, after one of them has committed the other's bank. -/
theorem keepStep_regardless_of_banks_twiddling :
    let chip (phase : Phase) (bank : UInt8) (host : Host) : Chip :=
      ⟨⟨phase, bank⟩, ⟨104, by decide⟩, host⟩
    let one := chip (.bitwise2 1 3) 2 .m68000
    let two := chip (.bitwise2 2 3) 0 .m68010
    let twiddling : List Access := [⟨0x3D91, .silent⟩, ⟨0x3DA7, .silent⟩, ⟨0x0028, .silent⟩]
    let three := chip (.bitwise3 1) 2 .t11
    let four := chip (.additive2 3) 1 .m6502
    let before : List Access := [⟨0x0030, .silent⟩, ⟨0x3735, .silent⟩]
    let zero : Access := ⟨0xC000, .silent⟩
    let after : List Access := [⟨0x3735, .silent⟩, ⟨0x3766, .silent⟩, ⟨0x0038, .silent⟩]
    (one.part = two.part ∧ one.host.inspected = two.host.inspected ∧
        one.phase.outline = two.phase.outline ∧ one.KeepStep two twiddling) ∧
      three.part = four.part ∧ three.host.inspected = four.host.inspected ∧ zero.pins = 0 ∧
        (three.run before).bank = (four.run before).bank ∧
        (three.run before).KeepStep (four.run before) (zero :: after) ∧
        (three.run before).latches (zero :: after) = (four.run before).latches (zero :: after) := by
  intro chip one two twiddling three four before zero after
  have eq : zero.pins = 0 := by decide
  have bank : (three.run before).bank = (four.run before).bank := by decide
  have same := keepStep_regardless_of_banks (show one.part = two.part from rfl) rfl twiddling
  obtain ⟨keepStep, latches⟩ :=
    (keepStep_regardless_of_banks (show three.part = four.part from rfl) rfl
      (before ++ zero :: after)).2 before zero after rfl eq
  exact ⟨⟨rfl, rfl, rfl, same.1 rfl⟩, rfl, rfl, eq, bank, keepStep, latches bank⟩

end Chip

end Slapstic
