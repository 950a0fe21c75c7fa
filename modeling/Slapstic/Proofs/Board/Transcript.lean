import Mathlib.Tactic
import Slapstic.Proofs.Board.FullSink
import Slapstic.Proofs.Chip.TraceLine
import Slapstic.Proofs.Text.Utf8

/-!
# Proofs/Board/Transcript — a journal can be read back

The text of a journal is a list of rows, each closed by a newline.  A row is the rule or the line of
an entry, and the last three words of a line are its trace line, whatever the context before them
looks like.  So the text tells where the rules stand and what each line shows
(`Journal.text_reads_back`).
-/

namespace Slapstic

open Text (Utf8.encode Utf8.encode_append Utf8.encode_injective)

/-! ## Rows of text -/

namespace Text

/-- **The text of rows**, each closed by a newline. -/
def unlines (rows : List (List Char)) : String := String.ofList (rows.flatMap (· ++ ['\n']))

theorem unlines_append (first second : List (List Char)) :
    unlines (first ++ second) = unlines first ++ unlines second := by
  rw [unlines, List.flatMap_append, String.ofList_append, unlines, unlines]

theorem unlines_singleton_inj {row row' : List Char} :
    unlines [row] = unlines [row'] ↔ row = row' := by
  simp [unlines, String.ofList_inj]

/-- **Rows can be read off their text.** -/
theorem splitOn_unlines {rows : List (List Char)} (whole : ∀ row ∈ rows, '\n' ∉ row) :
    (unlines rows).toList.splitOn '\n' = rows ++ [[]] := by
  rw [unlines, String.toList_ofList]
  induction rows with
  | nil => rfl
  | cons row rest ih =>
    obtain ⟨here, later⟩ := List.forall_mem_cons.mp whole
    rw [List.flatMap_cons, List.append_assoc, List.singleton_append,
      List.splitOn_append_cons_self_of_not_mem here, ih later, List.cons_append]

end Text

open Text (unlines unlines_append unlines_singleton_inj splitOn_unlines)

/-! ## The line of an entry -/

/-- **What a line shows** of an entry: all but the time, and the bank and the toggle that the phase
holds back. -/
structure Entry.Shown where
  context : String
  address : UInt32
  bank : UInt8
  phase : String
  deriving DecidableEq, Repr

namespace Entry

/-- What the line of an entry shows. -/
def shown (entry : Entry) : Shown :=
  ⟨entry.context, entry.line.address, entry.line.bank, entry.line.phase.name⟩

/-- The line of an entry, without the newline that closes it. -/
def row (entry : Entry) : List Char :=
  entry.context.toList ++ [':'] ++ ' ' :: entry.line.text.toList

variable {entry entry' : Entry}

theorem bytes_eq (entry : Entry) : entry.bytes = Utf8.encode (unlines [entry.row]) := by
  refine congrArg Utf8.encode (String.toList_injective ?_)
  simp [row, unlines]

/-- The last three words of a line are its trace line. -/
theorem splitOn_row (entry : Entry) : entry.row.splitOn ' ' =
    (entry.context.toList ++ [':']).splitOn ' ' ++ entry.line.text.toList.splitOn ' ' :=
  List.splitOn_append_cons_self _ _

/-- **A line tells what it shows**, whatever its context looks like. -/
theorem row_eq_iff : entry.row = entry'.row ↔ entry.shown = entry'.shown := by
  simp only [shown, Shown.mk.injEq]
  constructor
  · intro eq
    have words := congrArg (List.splitOn ' ') eq
    rw [splitOn_row, splitOn_row] at words
    have three (line : TraceLine) : (line.text.toList.splitOn ' ').length = 3 := by
      rw [line.splitOn_text]
      rfl
    obtain ⟨before, trace⟩ := List.append_inj' words (by rw [three, three])
    have context : entry.context.toList ++ [':'] = entry'.context.toList ++ [':'] := by
      have joined := congrArg (List.intercalate [' ']) before
      rwa [List.intercalate_splitOn, List.intercalate_splitOn] at joined
    exact ⟨String.toList_injective (List.append_cancel_right context),
      TraceLine.splitOn_text_eq_iff.mp trace⟩
  · rintro ⟨context, line⟩
    rw [row, context, TraceLine.text_eq_iff.mpr line, row]

/-- A context of one line makes a line. -/
theorem newline_notMem_row (context : '\n' ∉ entry.context.toList) : '\n' ∉ entry.row := by
  simp only [row, List.mem_append, List.mem_cons, List.not_mem_nil, or_false, not_or]
  exact ⟨⟨context, by decide⟩, by decide, entry.line.newline_notMem_text⟩

end Entry

namespace Journal

/-- The rule, without the newline that closes it. -/
def dashes : List Char := List.replicate 36 '-'

theorem rule_eq : rule = Utf8.encode (unlines [dashes]) := by
  rw [rule, unlines, List.flatMap_singleton, String.ofList_append]
  rfl

/-- A line has a colon. -/
theorem row_ne_dashes (entry : Entry) : entry.row ≠ dashes := by
  intro eq
  have colon : ':' ∈ entry.row := by simp [Entry.row]
  exact absurd (eq ▸ colon) (by decide)

/-! ## The rows of a journal -/

/-- The rows that an entry adds. -/
def added (ruled : Bool) (entry : Entry) : List (List Char) :=
  (if ruled then [dashes] else []) ++ [entry.row]

/-- **Where the rules stand**: for each of the entries in a row, whether a rule comes before it. -/
def ruled (journal : Journal) : List Entry → List Bool
  | [] => []
  | entry :: rest => journal.needsRule entry.time :: (journal.append entry).1.ruled rest

/-- The rows that entries add, one after another. -/
def rows (journal : Journal) : List Entry → List (List Char)
  | [] => []
  | entry :: rest =>
    added (journal.needsRule entry.time) entry ++ (journal.append entry).1.rows rest

variable {journal : Journal} {entry : Entry} {entries : List Entry}

theorem asked_eq (journal : Journal) (entry : Entry) : journal.asked entry =
    Utf8.encode (unlines (added (journal.needsRule entry.time) entry)) := by
  rw [asked, added, unlines_append, Utf8.encode_append, ← entry.bytes_eq]
  cases journal.needsRule entry.time with
  | false => rfl
  | true => rw [if_pos rfl, if_pos rfl, rule_eq]

/-- On a sink without a limit all that an entry asks for arrives. -/
theorem written_append (endless : journal.sink.limit = none) :
    (journal.append entry).1.sink.written = journal.sink.written ++ journal.asked entry := by
  have takes : journal.sink.takes (journal.asked entry) = true :=
    Sink.takes_iff_fits.mpr fun limit eq => by simp [endless] at eq
  rw [append_eq, Sink.written_write_of_takes takes]

theorem written_appendAll (endless : journal.sink.limit = none) (entries : List Entry) :
    (journal.appendAll entries).sink.written =
      journal.sink.written ++ Utf8.encode (unlines (journal.rows entries)) := by
  induction entries generalizing journal with
  | nil => exact (List.append_nil _).symm
  | cons entry rest ih =>
    have endless_next : (journal.append entry).1.sink.limit = none := by
      rw [append_eq, Sink.limit_write, endless]
    have step : journal.appendAll (entry :: rest) = (journal.append entry).1.appendAll rest := rfl
    rw [step, ih endless_next, written_append endless, asked_eq, rows, unlines_append,
      Utf8.encode_append, List.append_assoc]

/-- **The text of a journal is its rows.** -/
theorem text_appendAll (entries : List Entry) :
    (appendAll {} entries).text = unlines (rows {} entries) := by
  rw [text, written_appendAll rfl, List.nil_append, Text.Utf8.decode_encode]

theorem newline_notMem_added {ruled : Bool} (context : '\n' ∉ entry.context.toList) :
    ∀ row ∈ added ruled entry, '\n' ∉ row := by
  have line : ∀ row ∈ [entry.row], '\n' ∉ row :=
    List.forall_mem_singleton.mpr (Entry.newline_notMem_row context)
  cases ruled with
  | false => exact line
  | true => exact List.forall_mem_cons.mpr ⟨by decide, line⟩

theorem newline_notMem_rows (contexts : ∀ entry ∈ entries, '\n' ∉ entry.context.toList) :
    ∀ row ∈ journal.rows entries, '\n' ∉ row := by
  induction entries generalizing journal with
  | nil => exact List.forall_mem_nil _
  | cons entry rest ih =>
    obtain ⟨here, later⟩ := List.forall_mem_cons.mp contexts
    exact List.forall_mem_append.mpr ⟨newline_notMem_added here, ih later⟩

/-! ## Reading the rows -/

/-- **Rows tell whether a rule comes first**, and then what the line shows. -/
theorem added_append_eq_iff {rule rule' : Bool} {entry entry' : Entry}
    {rest rest' : List (List Char)} :
    added rule entry ++ rest = added rule' entry' ++ rest' ↔
      (entry.shown = entry'.shown ∧ rule = rule') ∧ rest = rest' := by
  have line := row_ne_dashes entry
  have line' := row_ne_dashes entry'
  cases rule <;> cases rule' <;> simp [added, ← Entry.row_eq_iff, line, line'.symm]

theorem added_ne_nil {rule : Bool} : added rule entry ≠ [] := by
  simp [added]

/-- **Rows tell where the rules stand and what the lines show.** -/
theorem rows_eq_iff {journal journal' : Journal} {entries entries' : List Entry} :
    journal.rows entries = journal'.rows entries' ↔
      entries.map Entry.shown = entries'.map Entry.shown ∧
        journal.ruled entries = journal'.ruled entries' := by
  induction entries generalizing journal journal' entries' with
  | nil => cases entries' <;> simp [rows, ruled, added_ne_nil]
  | cons entry rest ih =>
    cases entries' with
    | nil => simp [rows, ruled, added_ne_nil]
    | cons entry' rest' =>
      simp only [rows, ruled, added_append_eq_iff, ih, List.map_cons, List.cons.injEq]
      exact and_and_and_comm

/-- **A journal can be read back.**  Two texts that entries leave on a sink that takes everything
are equal exactly if as many entries left them, each shows the same context, address, bank and name
of its phase as the one it stands for, and the rules come before the same ones, as long as no
context runs over several lines.

For no line is the rule, a line tells what it shows whatever its context looks like, and so does a
trace line by itself. -/
theorem text_reads_back :
    (∀ entries entries' : List Entry,
      (∀ entry ∈ entries, '\n' ∉ entry.context.toList) →
      (∀ entry ∈ entries', '\n' ∉ entry.context.toList) →
        ((appendAll {} entries).text = (appendAll {} entries').text ↔
          entries.map Entry.shown = entries'.map Entry.shown ∧
            ruled {} entries = ruled {} entries')) ∧
    (∀ entry : Entry, entry.bytes ≠ rule) ∧
    (∀ entry entry' : Entry, entry.bytes = entry'.bytes ↔ entry.shown = entry'.shown) ∧
    ∀ line line' : TraceLine, line.text = line'.text ↔
      line.address = line'.address ∧ line.bank = line'.bank ∧
        line.phase.name = line'.phase.name := by
  refine ⟨fun entries entries' contexts contexts' => ?_, fun entry => ?_, fun entry entry' => ?_,
    fun _ _ => TraceLine.text_eq_iff⟩
  · rw [text_appendAll, text_appendAll, ← rows_eq_iff]
    refine ⟨fun eq => ?_, fun eq => by rw [eq]⟩
    have split := congrArg (fun text => text.toList.splitOn '\n') eq
    simp only [splitOn_unlines (newline_notMem_rows contexts),
      splitOn_unlines (newline_notMem_rows contexts')] at split
    exact List.append_cancel_right split
  · rw [entry.bytes_eq, rule_eq, Utf8.encode_injective.ne_iff, ne_eq, unlines_singleton_inj]
    exact row_ne_dashes entry
  · rw [entry.bytes_eq, entry'.bytes_eq, Utf8.encode_injective.eq_iff, unlines_singleton_inj,
      Entry.row_eq_iff]

/-- A context that looks like the rule and then like a line.  Neither the bank that a phase holds
back nor the length of a pause shows; whether there was a pause does. -/
theorem text_reads_back_context_like_rows :
    let entries (pending : UInt8) (time : Nat) : List Entry :=
      [⟨500000000, "pc=01A2B4", ⟨⟨.alternate3 pending, 3⟩, 0x3D14⟩⟩,
        ⟨time, "------------------------------------: 0000 B=0 ENABLED",
          ⟨⟨.disabled, 200⟩, 0xDEADBEEF⟩⟩]
    let soon := entries 1 1000000000
    let late := entries 1 2000000000
    let later := entries 2 3000000000
    (∀ entry ∈ soon, '\n' ∉ entry.context.toList) ∧
      (∀ entry ∈ late, '\n' ∉ entry.context.toList) ∧
      (∀ entry ∈ later, '\n' ∉ entry.context.toList) ∧
      (appendAll {} late).text = (appendAll {} later).text ∧
        (appendAll {} late).text ≠ (appendAll {} soon).text := by
  intro entries soon late later
  have in_soon : ∀ entry ∈ soon, '\n' ∉ entry.context.toList := by decide
  have in_late : ∀ entry ∈ late, '\n' ∉ entry.context.toList := by decide
  have in_later : ∀ entry ∈ later, '\n' ∉ entry.context.toList := by decide
  refine ⟨in_soon, in_late, in_later, (text_reads_back.1 _ _ in_late in_later).mpr (by decide), ?_⟩
  intro eq
  exact absurd ((text_reads_back.1 _ _ in_late in_soon).mp eq).2 (by decide)

end Journal

end Slapstic
