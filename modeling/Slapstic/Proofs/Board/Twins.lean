import Slapstic.Proofs.Board.Refusal
import Mathlib.Logic.Equiv.Basic

/-!
# Proofs/Board/Twins — parts that differ in the number alone

A **relabelling** gives parts other numbers, one to one, and each the number of a part with the same
patterns.  A board works from the patterns, and passes part numbers on: relabelled, with relabelled
commands, it ends up as the relabelled board and gives the relabelled replies and messages
(`Board.performAll_board`, `Board.reports_board`).  Two numbers are compared when a state is brought
back, and there it takes a relabelling that is one to one.

Four of the parts have a **twin** with the same patterns (`PartNumber.twins_iff`), and exchanging
two twins is a relabelling, so neither can be told from the other (`Board.twins_interchangeable`).
-/

namespace Slapstic

/-! ## Relabellings -/

/-- **A relabelling** of the parts: one to one, with the patterns kept and whether they were ever
checked. -/
structure Relabelling where
  part : PartNumber → PartNumber
  injective : Function.Injective part
  patterns_eq : ∀ named, (part named).patterns = named.patterns
  confirmed_eq : ∀ named, (part named).profile.confirmed = named.profile.confirmed

namespace Relabelling

variable (labels : Relabelling)

/-- A chip relabelled: its latch and its host stay. -/
def chip (chip : Chip) : Chip := { chip with part := labels.part chip.part }

/-- A save state relabelled. -/
def state (state : SaveState) : SaveState := { state with part := labels.part state.part }

/-- A setup relabelled. -/
def setup (setup : Setup) : Setup := { setup with part := labels.part setup.part }

/-- A flaw relabelled. -/
def flaw : Flaw → Flaw
  | .wrongPart expected found => .wrongPart (labels.part expected) (labels.part found)
  | .bankOutOfRange bank => .bankOutOfRange bank
  | .badToggle toggle => .badToggle toggle

/-- A message relabelled: trace lines name no part. -/
def message : Message → Message
  | .unverified part => .unverified (labels.part part)
  | .poweredUp part host bank => .poweredUp (labels.part part) host bank
  | .switched part before after via => .switched (labels.part part) before after via
  | .traced line => .traced line

/-- **A command relabelled**: only save states and setups name a part. -/
def command : Command → Command
  | .restore state => .restore (labels.state state)
  | .swap setup => .swap (labels.setup setup)
  | command => command

/-- **A reply relabelled**: banks, phases, and what was read stay. -/
def reply : Reply → Reply
  | .chip chip => .chip (labels.chip chip)
  | .saved state => .saved (labels.state state)
  | .restored flaw? chip => .restored (flaw?.map labels.flaw) (labels.chip chip)
  | reply => reply

/-- **A board relabelled**: its chip and the states put away. -/
def board (board : Board) : Board :=
  { board with
    chip := labels.chip board.chip
    slots := board.slots.map fun slot => (slot.1, labels.state slot.2) }

end Relabelling

/-! ## Chips

What is done with a relabelled chip might as well be done first and relabelled then. -/

namespace Chip

variable (labels : Relabelling)

theorem powerUp_part (part : PartNumber) (host : Host) :
    powerUp (labels.part part) host = labels.chip (powerUp part host) := by
  have start : (labels.part part).initialLatch = part.initialLatch := by
    rw [PartNumber.initialLatch, PartNumber.startingBank, labels.patterns_eq]
    rfl
  rw [powerUp, start]
  rfl

theorem reset_chip (chip : Chip) : (labels.chip chip).reset = labels.chip chip.reset :=
  powerUp_part labels chip.part chip.host

/-- **An access works from the patterns.** -/
theorem access_chip (chip : Chip) (a : Access) :
    (labels.chip chip).access a = labels.chip (chip.access a) := by
  dsimp only [access, Relabelling.chip]
  rw [labels.patterns_eq]

/-- So does a run. -/
theorem run_chip (chip : Chip) (accesses : List Access) :
    (labels.chip chip).run accesses = labels.chip (chip.run accesses) := by
  induction accesses generalizing chip with
  | nil => rfl
  | cons a rest ih => rw [run_cons, run_cons, access_chip, ih]

/-- **A relabelled chip shows the same latches.** -/
theorem latches_chip (chip : Chip) (accesses : List Access) :
    (labels.chip chip).latches accesses = chip.latches accesses := by
  induction accesses generalizing chip with
  | nil => rfl
  | cons a rest ih =>
    rw [latches, latches, access_chip, ih]
    rfl

end Chip

theorem Setup.chip_setup (labels : Relabelling) (setup : Setup) :
    (labels.setup setup).chip = labels.chip setup.chip :=
  Chip.powerUp_part labels setup.part setup.host

/-! ## Messages of a chip -/

namespace Chip

variable (labels : Relabelling)

theorem powerUpMessages_part (part : PartNumber) (host : Host) :
    powerUpMessages (labels.part part) host =
      (powerUpMessages part host).map labels.message := by
  rw [powerUpMessages, powerUpMessages, labels.confirmed_eq, PartNumber.startingBank,
    labels.patterns_eq]
  split <;> rfl

theorem accessMessages_chip (chip : Chip) (a : Access) :
    (labels.chip chip).accessMessages a = (chip.accessMessages a).map labels.message := by
  rw [accessMessages, accessMessages, access_chip]
  change (if (chip.access a).bank = chip.bank then _ else _) ++ _ = _
  split <;> rfl

theorem runMessages_chip (chip : Chip) (accesses : List Access) :
    (labels.chip chip).runMessages accesses = (chip.runMessages accesses).map labels.message := by
  induction accesses generalizing chip with
  | nil => rfl
  | cons a rest ih =>
    rw [runMessages, runMessages, accessMessages_chip, access_chip, ih, List.map_append]

end Chip

/-! ## Save states -/

/-- **A part number is compared only here**, and a relabelling is one to one. -/
theorem SaveState.flaw?_state (labels : Relabelling) (state : SaveState) (part : PartNumber) :
    (labels.state state).flaw? (labels.part part) = (state.flaw? part).map labels.flaw := by
  have bank (bank : UInt8) : (bankFlaw? bank).map labels.flaw = bankFlaw? bank := by
    unfold bankFlaw?
    split <;> rfl
  have toggle (toggle : UInt8) : (toggleFlaw? toggle).map labels.flaw = toggleFlaw? toggle := by
    unfold toggleFlaw?
    split <;> rfl
  have own : (if labels.part state.part = labels.part part then none
        else some (.wrongPart (labels.part part) (labels.part state.part))) =
      (if state.part = part then none
        else some (.wrongPart part state.part)).map labels.flaw := by
    simp only [labels.injective.eq_iff]
    split <;> rfl
  simp only [flaw?, Option.map_or, Option.map_bind, Function.comp_def, bank, toggle, ← own]
  rfl

theorem Chip.restore_chip (labels : Relabelling) (chip : Chip) (state : SaveState) :
    (labels.chip chip).restore (labels.state state) =
      ((chip.restore state).map labels.chip).mapError labels.flaw := by
  dsimp only [restore, Relabelling.chip]
  rw [SaveState.flaw?_state]
  cases state.flaw? chip.part <;> rfl

/-! ## Reads -/

namespace Image

variable (labels : Relabelling) (image : Image) (chip : Chip) (offset : UInt32) (view : View)

theorem readByte_chip : image.readByte (labels.chip chip) offset view =
    (labels.chip (image.readByte chip offset view).1, (image.readByte chip offset view).2) := by
  rw [readByte, Chip.access_chip]
  rfl

theorem readWord_chip : image.readWord (labels.chip chip) offset view =
    (labels.chip (image.readWord chip offset view).1, (image.readWord chip offset view).2) := by
  rw [readWord, Chip.access_chip]
  rfl

end Image

/-! ## Boards -/

namespace Board

variable (labels : Relabelling)

/-- A relabelled board finds the relabelled states under their names. -/
theorem lookup_slots (board : Board) (slot : String) :
    (labels.board board).slots.lookup slot = (board.slots.lookup slot).map labels.state := by
  dsimp only [Relabelling.board]
  induction board.slots with
  | nil => rfl
  | cons first rest ih =>
    rw [List.map_cons, List.lookup_cons, List.lookup_cons]
    split
    next => rfl
    next => exact ih

theorem restore_board (board : Board) (state : SaveState) :
    (labels.board board).restore (labels.state state) =
      (labels.board (board.restore state).1, labels.reply (board.restore state).2) := by
  dsimp only [restore, Relabelling.board]
  rw [Chip.restore_chip]
  cases board.chip.restore state <;> rfl

/-- **A command on a relabelled board** leaves the relabelled board and gives the relabelled
reply. -/
theorem perform_board (board : Board) (command : Command) :
    (labels.board board).perform (labels.command command) =
      (labels.board (board.perform command).1, labels.reply (board.perform command).2) := by
  match command with
  | .inspect | .trace _ | .enter _ _ _ | .save _ => rfl
  | .access a =>
    dsimp only [perform, Relabelling.command, Relabelling.board]
    rw [Chip.access_chip]
    rfl
  | .run accesses =>
    dsimp only [perform, Relabelling.command, Relabelling.board]
    rw [Chip.run_chip, Chip.latches_chip]
    rfl
  | .reset =>
    dsimp only [perform, Relabelling.command, Relabelling.board]
    rw [Chip.reset_chip]
    rfl
  | .swap setup =>
    dsimp only [perform, Relabelling.command, Relabelling.board]
    rw [Setup.chip_setup]
    rfl
  | .restore state => exact board.restore_board labels state
  | .recall slot =>
    dsimp only [perform, Relabelling.command]
    rw [lookup_slots]
    cases board.slots.lookup slot with
    | none => rfl
    | some state => exact board.restore_board labels state
  | .readByte offset view =>
    obtain ⟨chip, none | rom, slots, journal⟩ := board
    · rfl
    · dsimp only [perform, Relabelling.command, Relabelling.board]
      rw [rom.readByte_chip]
      rfl
  | .readWord offset view =>
    obtain ⟨chip, none | rom, slots, journal⟩ := board
    · rfl
    · dsimp only [perform, Relabelling.command, Relabelling.board]
      rw [rom.readWord_chip]
      rfl
  | .peekByte _ _ | .peekWord _ _ => obtain ⟨chip, none | rom, slots, journal⟩ := board <;> rfl

/-- **So do commands in a row.** -/
theorem performAll_board (board : Board) (commands : List Command) :
    (labels.board board).performAll (commands.map labels.command) =
      (labels.board (board.performAll commands).1,
        (board.performAll commands).2.map labels.reply) := by
  induction commands generalizing board with
  | nil => rfl
  | cons command rest ih =>
    rw [List.map_cons, performAll_cons, performAll_cons, perform_board, ih]
    rfl

/-! ## Messages of a board -/

theorem messages_board (board : Board) (command : Command) :
    (labels.board board).messages (labels.command command) =
      (board.messages command).map labels.message := by
  match command with
  | .inspect | .trace _ | .enter _ _ _ | .save _ | .reset | .recall _ | .restore _ | .peekByte _ _
  | .peekWord _ _ => rfl
  | .access a => exact board.chip.accessMessages_chip labels a
  | .run accesses => exact board.chip.runMessages_chip labels accesses
  | .swap setup => exact Chip.powerUpMessages_part labels setup.part setup.host
  | .readByte _ _ | .readWord _ _ =>
    obtain ⟨chip, none | rom, slots, journal⟩ := board
    · rfl
    · exact chip.accessMessages_chip labels _

/-- **The messages while commands are carried out in a row.** -/
def reports (board : Board) : List Command → List Message
  | [] => []
  | command :: rest => board.messages command ++ (board.perform command).1.reports rest

/-- **A relabelled board gives the relabelled messages.** -/
theorem reports_board (board : Board) (commands : List Command) :
    (labels.board board).reports (commands.map labels.command) =
      (board.reports commands).map labels.message := by
  induction commands generalizing board with
  | nil => rfl
  | cons command rest ih =>
    rw [List.map_cons, reports, reports, messages_board, perform_board, ih, List.map_append]

end Board

/-- The text of a trace line among the messages. -/
def Message.trace? : Message → Option String
  | .traced line => some line.text
  | .unverified _ | .poweredUp _ _ _ | .switched _ _ _ _ => none

namespace Relabelling

variable (labels : Relabelling)

theorem trace?_message (message : Message) : (labels.message message).trace? = message.trace? := by
  cases message <;> rfl

theorem shown_reply (reply : Reply) : (labels.reply reply).shown = reply.shown := by
  cases reply <;> rfl

end Relabelling

/-! ## Twins -/

namespace PartNumber

variable {a b : PartNumber}

/-- **Twins**: 103 and 110, or 106 and 109. -/
def Twins (a b : PartNumber) : Prop :=
  (a.number, b.number) ∈ [(103, 110), (110, 103), (106, 109), (109, 106)]

instance (a b : PartNumber) : Decidable (a.Twins b) := inferInstanceAs (Decidable (_ ∈ _))

/-- **Twins are the parts with the same patterns**; no other two parts have them. -/
theorem twins_iff : ∀ {a b : PartNumber}, a.Twins b ↔ a ≠ b ∧ a.patterns = b.patterns := by decide

theorem Twins.confirmed_eq :
    ∀ {a b : PartNumber}, a.Twins b → a.profile.confirmed = b.profile.confirmed := by decide

/-- **Two twins exchanged**, and every other part left alone. -/
def Twins.exchange (twins : a.Twins b) : Relabelling where
  part := Equiv.swap a b
  injective := (Equiv.swap a b).injective
  patterns_eq := Equiv.apply_swap_eq_self (twins_iff.mp twins).2
  confirmed_eq :=
    Equiv.apply_swap_eq_self (v := fun named : PartNumber => named.profile.confirmed)
      twins.confirmed_eq

end PartNumber

namespace Board

/-- **Twins are interchangeable.**  Whatever is done with a board, the same done with its twin, the
two exchanged in all states and setups, ends and is answered the same but for the exchange: in the
same latch, with the same journal, showing the same latches, and with the same trace lines.  Not
exchanged, a state of one twin is refused by the other, as one of another part. -/
theorem twins_interchangeable {a b : PartNumber} (twins : a.Twins b) :
    (∀ (host : Host) (rom : Option Image) (commands : List Command),
      let one := ofSetup ⟨a, host⟩ rom
      let other := ofSetup ⟨b, host⟩ rom
      let exchanged := commands.map twins.exchange.command
      other.performAll exchanged = (twins.exchange.board (one.performAll commands).1,
          (one.performAll commands).2.map twins.exchange.reply) ∧
        (other.performAll exchanged).1.chip.toLatch = (one.performAll commands).1.chip.toLatch ∧
        (other.performAll exchanged).1.journal = (one.performAll commands).1.journal ∧
        (other.performAll exchanged).2.flatMap Reply.shown =
          (one.performAll commands).2.flatMap Reply.shown ∧
        other.reports exchanged = (one.reports commands).map twins.exchange.message ∧
        (other.reports exchanged).filterMap Message.trace? =
          (one.reports commands).filterMap Message.trace?) ∧
    ∀ (chip : Chip) (state : SaveState), chip.part = b → state.part = a →
      chip.restore state = .error (.wrongPart b a) := by
  refine ⟨fun host rom commands => ?_, fun chip state chip_part state_part => ?_⟩
  · intro one other exchanged
    have start : other = twins.exchange.board one := by
      have part : twins.exchange.part a = b := Equiv.swap_apply_left a b
      have powerUp := Chip.powerUp_part twins.exchange a host
      rw [part] at powerUp
      exact congrArg (fun chip => ({ chip, rom } : Board)) powerUp
    have ended : other.performAll exchanged = _ := start ▸ one.performAll_board _ commands
    have told : other.reports exchanged = _ := start ▸ one.reports_board _ commands
    refine ⟨ended, by rw [ended]; rfl, by rw [ended]; rfl, ?_, told, ?_⟩
    · rw [ended, List.flatMap_map]
      simp only [Relabelling.shown_reply]
    · rw [told, List.filterMap_map]
      exact List.filterMap_congr fun message _ => twins.exchange.trace?_message message
  · rw [Chip.restore_eq_error_iff, SaveState.flaw?_eq_some_iff, chip_part]
    have other : state.part ≠ b := by
      rw [state_part]
      exact (PartNumber.twins_iff.mp twins).1
    exact state_part ▸ .part other

/-- An enabled state of its own for each of two twins, then the state of the other, then a bank
select: the first is taken back, the second refused, and the select commits. -/
theorem twins_interchangeable_own_and_other :
    let a := Catalog.part103.part
    let b := Catalog.part110.part
    let enabled : Latch := ⟨.enabled, 2⟩
    let select : Command := .access ⟨0x0040, .silent⟩
    let one := ofSetup ⟨a, .t11⟩ none
    let other := ofSetup ⟨b, .t11⟩ none
    let commands : List Command := [.restore ⟨enabled, a⟩, .restore ⟨enabled, b⟩, select]
    let exchanged : List Command := [.restore ⟨enabled, b⟩, .restore ⟨enabled, a⟩, select]
    a.Twins b ∧
      (one.performAll commands).2 = [.restored none ⟨enabled, a, .t11⟩,
        .restored (some (.wrongPart a b)) ⟨enabled, a, .t11⟩, .latch ⟨.disabled, 0⟩] ∧
      (other.performAll exchanged).2 = [.restored none ⟨enabled, b, .t11⟩,
        .restored (some (.wrongPart b a)) ⟨enabled, b, .t11⟩, .latch ⟨.disabled, 0⟩] ∧
      (other.reports exchanged).filterMap Message.trace? =
        (one.reports commands).filterMap Message.trace? ∧
      other.chip.restore ⟨enabled, a⟩ = .error (.wrongPart b a) := by
  obtain ⟨alike, refused⟩ := twins_interchangeable (a := Catalog.part103.part)
    (b := Catalog.part110.part) (by decide)
  obtain ⟨ended, -, -, -, -, traces⟩ := alike .t11 none
    [.restore ⟨⟨.enabled, 2⟩, Catalog.part103.part⟩, .restore ⟨⟨.enabled, 2⟩, Catalog.part110.part⟩,
      .access ⟨0x0040, .silent⟩]
  exact ⟨by decide, rfl, congrArg Prod.snd ended, traces, refused _ _ rfl rfl⟩

end Board

end Slapstic
