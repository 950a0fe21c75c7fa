import Slapstic.Chip.TraceLine
import Slapstic.Text.Utf8

/-!
# Board/Journal — the log of a board's accesses

A **journal** writes one line for each access it is told of, a context and the trace line, and a
rule of dashes before it if more than a second has passed since the last line, so that bursts of
bank switching stand out.  It writes to a **sink**, which may fill up in the middle of a line or
fail to flush.  The time of the last line moves on once the rule that it called for is out, even if
the line itself does not fit.

* `Journal.append` — one access told, and how that ended;
* `Journal.handle` — what befalls a journal: an access, or a change to its sink;
* `Sink.written_write` — the written bytes only ever grow, by as many of the new ones as fit.
-/

namespace Slapstic

/-! ## Sinks -/

/-- **Where a journal goes**: the bytes that have arrived, how many may arrive in all, and whether
flushing fails. -/
structure Sink where
  written : List UInt8 := []
  limit : Option Nat := none
  flushFails : Bool := false

namespace Sink

/-- How many of `count` further bytes fit. -/
def fitting (sink : Sink) (count : Nat) : Nat :=
  match sink.limit with
  | some limit => min count (limit - sink.written.length)
  | none => count

/-- **The sink after a write.**  What fits stays, even if not all of it fits. -/
def write (sink : Sink) (bytes : List UInt8) : Sink :=
  { sink with written := sink.written ++ bytes.take (sink.fitting bytes.length) }

/-- All of the bytes fit. -/
def takes (sink : Sink) (bytes : List UInt8) : Bool := sink.fitting bytes.length == bytes.length

theorem fitting_le (sink : Sink) (count : Nat) : sink.fitting count ≤ count := by
  unfold fitting
  split
  · exact Nat.min_le_left _ _
  · exact Nat.le_refl _

theorem takes_eq_true_iff {sink : Sink} {bytes : List UInt8} :
    sink.takes bytes = true ↔ sink.fitting bytes.length = bytes.length :=
  beq_iff_eq

@[simp] theorem written_write (sink : Sink) (bytes : List UInt8) :
    (sink.write bytes).written = sink.written ++ bytes.take (sink.fitting bytes.length) := rfl

@[simp] theorem limit_write (sink : Sink) (bytes : List UInt8) :
    (sink.write bytes).limit = sink.limit := rfl

@[simp] theorem flushFails_write (sink : Sink) (bytes : List UInt8) :
    (sink.write bytes).flushFails = sink.flushFails := rfl

/-- Bytes that all fit arrive as they are. -/
theorem written_write_of_takes {sink : Sink} {bytes : List UInt8} (h : sink.takes bytes = true) :
    (sink.write bytes).written = sink.written ++ bytes := by
  rw [written_write, takes_eq_true_iff.mp h, List.take_length]

end Sink

/-! ## Entries -/

/-- **What a journal is told**: the time in nanoseconds, what the host was doing, and the access. -/
structure Entry where
  time : Nat
  context : String
  line : TraceLine

namespace Entry

/-- A time of so many seconds and nanoseconds. -/
def timeOf (seconds nanoseconds : Nat) : Nat := 1000000000 * seconds + nanoseconds

/-- The bytes of an entry's line. -/
def bytes (entry : Entry) : List UInt8 :=
  Text.Utf8.encode (entry.context ++ ": " ++ entry.line.text ++ "\n")

end Entry

/-! ## Journals -/

/-- A journal: its sink, and the time of its last line. -/
structure Journal where
  sink : Sink := {}
  last : Nat := 0

namespace Journal

/-- The rule that sets off a block of lines. -/
def rule : List UInt8 := Text.Utf8.encode (String.ofList (List.replicate 36 '-') ++ "\n")

/-- The longest pause within a block: one second. -/
def blockPause : Nat := Entry.timeOf 1 0

/-- A line at the given time begins a block. -/
def needsRule (journal : Journal) (time : Nat) : Bool := blockPause < time - journal.last

/-- How telling a journal of an access ends. -/
inductive Outcome where
  /-- The line is out. -/
  | done
  /-- The sink was full before the end of the line. -/
  | full
  /-- The line is in the sink and flushing failed. -/
  | flushFailed
  deriving DecidableEq, Repr

/-- The line of an entry, after the rule if there was one. -/
def appendLine (journal : Journal) (entry : Entry) : Journal × Outcome :=
  let written := { journal with sink := journal.sink.write entry.bytes, last := entry.time }
  if journal.sink.takes entry.bytes then
    (written, if journal.sink.flushFails then .flushFailed else .done)
  else (written, .full)

/-- **The journal after it is told of an access**, and how that ended. -/
def append (journal : Journal) (entry : Entry) : Journal × Outcome :=
  if journal.needsRule entry.time then
    let ruled := { journal with sink := journal.sink.write rule }
    if journal.sink.takes rule then ruled.appendLine entry else (ruled, .full)
  else journal.appendLine entry

/-- The journal after it is told of accesses in a row. -/
def appendAll (journal : Journal) (entries : List Entry) : Journal :=
  entries.foldl (fun journal entry => (journal.append entry).1) journal

/-- **What befalls a journal.** -/
inductive Event where
  /-- It is told of an access. -/
  | entry (entry : Entry)
  /-- Its sink gets another limit, or none. -/
  | limit (limit : Option Nat)
  /-- Flushing its sink begins to fail, or ceases to. -/
  | flushing (fails : Bool)

/-- **The journal after an event**, and how it ended if it was an access. -/
def handle (journal : Journal) : Event → Journal × Option Outcome
  | .entry entry => ((journal.append entry).1, some (journal.append entry).2)
  | .limit limit => ({ journal with sink := { journal.sink with limit } }, none)
  | .flushing flushFails => ({ journal with sink := { journal.sink with flushFails } }, none)

/-- The text of what has arrived. -/
def text (journal : Journal) : String := Text.Utf8.decode journal.sink.written

end Journal

end Slapstic
