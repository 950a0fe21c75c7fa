import Slapstic.Chip.Message
import Slapstic.Proofs.Chip.Commit

/-!
# Proofs/Chip/Report — a chip's reports retell its run

The reports of a run are a log of text lines.  After the opening lines of the power-up, each access
has its trace line, and before it a line on the change of bank if the trace line shows another bank
than the one before it (`Retells`).  Only a commit changes the bank, so such a line names one of the
four phases that commit, and the trace line after it shows the chip disabled.  The log of every run
reads this way (`reports_retell_run`).
-/

namespace Slapstic

/-! ## The four phases that commit -/

/-- The names of the phases from which an access can commit a bank. -/
def Phase.committing : List String := ["ENABLED", "ALTERNATE3", "BITWISE3", "ADDITIVE3"]

theorem Transition.name_mem_committing {patterns : Patterns} {host : Host} {held : UInt8}
    {address : UInt32} {view : View} {phase : Phase} {bank : UInt8}
    (listed : Transition patterns host held address view phase (.commit bank)) :
    phase.name ∈ Phase.committing := by
  cases listed with
  | select | fourth | selectTwiddled | selectAdded => simp [Phase.name, Phase.committing]

/-- **A change of bank is a commit**: it leaves one of the four phases for the disabled one. -/
theorem Chip.committing_of_bank_ne {chip : Chip} {a : Access}
    (changes : (chip.access a).bank ≠ chip.bank) :
    chip.phase.name ∈ Phase.committing ∧ (chip.access a).phase = .disabled := by
  have nonzero : a.pins ≠ 0 := fun zero => changes (by rw [chip.toLatch_access_of_zero zero])
  obtain ⟨move, listed, eq⟩ := chip.exists_transition_access nonzero
  cases move with
  | go phase => exact absurd (by rw [eq, Latch.after_go]) changes
  | commit bank => exact ⟨listed.name_mem_committing, by rw [eq, Latch.after_commit]⟩

/-! ## How a log reads -/

/-- **A log retells accesses** from a latch on, given their trace lines: each has its line, and
before it, exactly if its bank is another than the last one, the two banks and the phase before. -/
inductive Retells (part : PartNumber) : Latch → List TraceLine → List String → Prop where
  | nothing {latch : Latch} : Retells part latch [] []
  | kept {latch : Latch} {line : TraceLine} {lines : List TraceLine} {log : List String}
      (same : line.bank = latch.bank) (later : Retells part line.toLatch lines log) :
      Retells part latch (line :: lines) (("TRACE " ++ line.text) :: log)
  | switched {latch : Latch} {line : TraceLine} {lines : List TraceLine} {log : List String}
      (changes : line.bank ≠ latch.bank) (via : latch.phase.name ∈ Phase.committing)
      (disabled : line.phase = .disabled) (later : Retells part line.toLatch lines log) :
      Retells part latch (line :: lines)
        (("DEBUG slapstic " ++ part.name ++ ": bank " ++ Text.decimal latch.bank.toNat ++ " -> " ++
            Text.decimal line.bank.toNat ++ " via " ++ latch.phase.name) ::
          ("TRACE " ++ line.text) :: log)

/-- **How a log opens**: with a warning if the part is unverified, and with the starting bank. -/
def opening (part : PartNumber) (host : Host) : List String :=
  (if part.profile.confirmed then []
    else ["WARN slapstic " ++ part.name ++ " has not been verified against hardware"]) ++
  ["INFO slapstic " ++ part.name ++ " on " ++ host.name ++ ", starting in bank " ++
    Text.decimal part.startingBank.toNat]

namespace Message

/-- The bank that a report says is selected from now on. -/
def switchedTo? : Message → Option UInt8
  | switched _ _ after _ => some after
  | unverified _ | poweredUp _ _ _ | traced _ => none

theorem render_switched (part : PartNumber) (before after : UInt8) (via : Phase) :
    (switched part before after via).render =
      "DEBUG slapstic " ++ part.name ++ ": bank " ++ Text.decimal before.toNat ++ " -> " ++
        Text.decimal after.toNat ++ " via " ++ via.name := by
  have level : "DEBUG slapstic " = "DEBUG" ++ " " ++ "slapstic " := rfl
  simp only [render, Message.level, text, level, String.append_assoc]

end Message

namespace Chip

variable (chip : Chip)

theorem render_powerUpMessages (part : PartNumber) (host : Host) :
    (powerUpMessages part host).map Message.render = opening part host := by
  have warn : "WARN slapstic " = "WARN" ++ " " ++ "slapstic " := rfl
  have info : "INFO slapstic " = "INFO" ++ " " ++ "slapstic " := rfl
  rw [powerUpMessages, opening]
  split <;>
    simp only [List.nil_append, List.cons_append, List.map_cons, List.map_nil, Message.render,
      Message.level, Message.text, warn, info, String.append_assoc]

/-- **The trace line of each access of a run.** -/
def traceLines (chip : Chip) : List Access → List TraceLine
  | [] => []
  | a :: rest => (chip.access a).traceLine a.pins :: (chip.access a).traceLines rest

/-- A trace line shows the chip as it stands right after its access. -/
theorem getElem?_traceLines (accesses : List Access) (k : Nat) :
    (chip.traceLines accesses)[k]? =
      accesses[k]?.map fun a => (chip.run (accesses.take (k + 1))).traceLine a.pins := by
  induction accesses generalizing chip k with
  | nil => rfl
  | cons a rest ih =>
    cases k with
    | zero => rfl
    | succ k => exact ih (chip.access a) k

theorem toLatch_traceLines (accesses : List Access) :
    (chip.traceLines accesses).map TraceLine.toLatch = chip.latches accesses := by
  induction accesses generalizing chip with
  | nil => rfl
  | cons a rest ih => exact congrArg _ (ih (chip.access a))

/-! ## The reports of a run -/

/-- **The reports of one access** retell it, whatever is told after it. -/
theorem retells_accessMessages {chip : Chip} {a : Access} {lines : List TraceLine}
    {log : List String} (later : Retells chip.part (chip.access a).toLatch lines log) :
    Retells chip.part chip.toLatch ((chip.access a).traceLine a.pins :: lines)
      ((chip.accessMessages a).map Message.render ++ log) := by
  rw [accessMessages]
  split
  next same => exact .kept same later
  next changes =>
    obtain ⟨via, disabled⟩ := committing_of_bank_ne changes
    rw [List.map_append, List.map_singleton, Message.render_switched]
    exact .switched changes via disabled later

/-- **The reports of a run retell it.** -/
theorem retells_runMessages (accesses : List Access) :
    Retells chip.part chip.toLatch (chip.traceLines accesses)
      ((chip.runMessages accesses).map Message.render) := by
  induction accesses generalizing chip with
  | nil => exact .nothing
  | cons a rest ih =>
    rw [runMessages, List.map_append]
    exact retells_accessMessages (ih (chip.access a))

/-- An access reports the bank it changes to. -/
theorem switchedTo?_accessMessages (a : Access) :
    (chip.accessMessages a).filterMap Message.switchedTo? =
      if (chip.access a).bank = chip.bank then [] else [(chip.access a).bank] := by
  rw [accessMessages]
  split <;> rfl

/-- **The last change reported is to the bank that is held.** -/
theorem bank_run_eq_getLast? (accesses : List Access) :
    (chip.run accesses).bank =
      ((chip.runMessages accesses).filterMap Message.switchedTo?).getLast?.getD chip.bank := by
  induction accesses generalizing chip with
  | nil => rfl
  | cons a rest ih =>
    rw [run_cons, ih, runMessages, List.filterMap_append, List.getLast?_append,
      switchedTo?_accessMessages]
    -- A change told later counts; if none is, the bank is the one after this access.
    cases ((chip.access a).runMessages rest).filterMap Message.switchedTo? |>.getLast? with
    | some bank => rfl
    | none =>
      split
      next same => exact same
      next changes => rfl

/-- **A chip's reports retell its run.**  The log of a run from power-up opens with a warning, if
the part is unverified, and with the starting bank.  Each access then has its trace line, with the
address on the chip's lines and the latch right after it, and before that a line on the change of
bank, exactly if the bank is not the one shown last: it gives the two banks and the phase shown
last, which is one of four, and the chip is disabled then.  So the bank held after the run is the
one that the last such line gives, or the starting bank. -/
theorem reports_retell_run (part : PartNumber) (host : Host) (accesses : List Access) :
    let chip := powerUp part host
    let messages := powerUpMessages part host ++ chip.runMessages accesses
    let lines := chip.traceLines accesses
    (∃ told, messages.map Message.render = opening part host ++ told ∧
        Retells part ⟨.disabled, part.startingBank⟩ lines told) ∧
      (∀ k, lines[k]? = accesses[k]?.map fun a =>
        (chip.run (accesses.take (k + 1))).traceLine (pins a.address)) ∧
      lines.map TraceLine.toLatch = chip.latches accesses ∧
      (chip.run accesses).bank =
        (messages.filterMap Message.switchedTo?).getLast?.getD part.startingBank := by
  intro chip messages lines
  refine ⟨⟨(chip.runMessages accesses).map Message.render, ?_, chip.retells_runMessages accesses⟩,
    chip.getElem?_traceLines accesses, chip.toLatch_traceLines accesses, ?_⟩
  · rw [List.map_append, render_powerUpMessages]
  · have silent : (powerUpMessages part host).filterMap Message.switchedTo? = [] := by
      rw [powerUpMessages]
      split <;> rfl
    rw [List.filterMap_append, silent, List.nil_append]
    exact chip.bank_run_eq_getLast? accesses

end Chip

end Slapstic
