import Mathlib.Tactic
import Slapstic.Board.Journal

/-!
# Proofs/Board/FullSink — a journal on a sink that fills up

A journal writes a rule and a line, its formatter hands them on in pieces, and each piece may be
the first that the sink cannot hold.  It makes no difference how a text is cut up
(`Sink.writePieces_eq`), and none where the rule ends and the line begins: of all that an entry
asks to be written the longest beginning that fits arrives (`Journal.told_append`).

The time of the last line moves on with the rule, not with the line.  So an entry that fails is told
again without the rule once the rule is out, and however often it fails, exactly one attempt writes
the rule (`Journal.told_exactly`).
-/

namespace Slapstic

/-! ## What fits -/

namespace Sink

/-- **The bytes fit** into what is left of the sink. -/
def Fits (sink : Sink) (bytes : List UInt8) : Prop :=
  ∀ limit, sink.limit = some limit → bytes.length ≤ limit - sink.written.length

/-- **The longest beginning of a text that fits.** -/
structure LongestFitting (sink : Sink) (text part : List UInt8) : Prop where
  begins : part <+: text
  fits : sink.Fits part
  longest : ∀ other, other <+: text → sink.Fits other → other.length ≤ part.length

variable {sink : Sink} {bytes first second : List UInt8}

theorem takes_iff_fits : sink.takes bytes = true ↔ sink.Fits bytes := by
  rw [takes_eq_true_iff, fitting, Fits]
  cases sink.limit <;> simp

/-- **What a write leaves of a text is its longest beginning that fits.** -/
theorem longestFitting_take (sink : Sink) (text : List UInt8) :
    sink.LongestFitting text (text.take (sink.fitting text.length)) where
  begins := List.take_prefix _ _
  fits := by
    intro limit eq
    rw [List.length_take, fitting, eq]
    dsimp only
    omega
  longest := by
    intro other begins fits
    have le := begins.length_le
    rw [List.length_take, fitting]
    cases eq : sink.limit with
    | none => simpa using le
    | some limit =>
      have := fits limit eq
      dsimp only
      omega

/-! ## Texts in pieces -/

theorem fitting_add_of_takes (takes : sink.takes first = true) (count : Nat) :
    sink.fitting (first.length + count) = first.length + (sink.write first).fitting count := by
  have eq := takes_eq_true_iff.mp takes
  have written : (sink.write first).written.length = sink.written.length + first.length := by
    rw [written_write_of_takes takes, List.length_append]
  unfold fitting at eq ⊢
  rw [limit_write, written]
  cases limit : sink.limit with
  | none => rfl
  | some limit =>
    rw [limit] at eq
    dsimp only at eq ⊢
    omega

theorem fitting_lt_of_not_takes (full : sink.takes bytes = false) :
    sink.fitting bytes.length < bytes.length := by
  have ne : sink.fitting bytes.length ≠ bytes.length :=
    mt takes_eq_true_iff.mpr (Bool.eq_false_iff.mp full)
  exact lt_of_le_of_ne (sink.fitting_le _) ne

theorem fitting_add_of_not_takes (full : sink.takes first = false) (count : Nat) :
    sink.fitting (first.length + count) = sink.fitting first.length := by
  have lt := fitting_lt_of_not_takes full
  unfold fitting at lt ⊢
  cases limit : sink.limit with
  | none => simp [limit] at lt
  | some limit =>
    rw [limit] at lt
    dsimp only at lt ⊢
    omega

/-- **After what fits** the sink goes on as if both had been written at once. -/
theorem write_append_of_takes (takes : sink.takes first = true) (second : List UInt8) :
    sink.write (first ++ second) = (sink.write first).write second := by
  have arrives : (first ++ second).take (sink.fitting (first ++ second).length) =
      first ++ second.take ((sink.write first).fitting second.length) := by
    rw [List.length_append, fitting_add_of_takes takes, List.take_length_add_append]
  rw [write, arrives, ← List.append_assoc, ← written_write_of_takes takes]
  rfl

theorem takes_append_of_takes (takes : sink.takes first = true) (second : List UInt8) :
    sink.takes (first ++ second) = (sink.write first).takes second := by
  rw [Sink.takes, List.length_append, fitting_add_of_takes takes, Sink.takes]
  simp

/-- **After what does not fit** nothing more arrives. -/
theorem write_append_of_not_takes (full : sink.takes first = false) (second : List UInt8) :
    sink.write (first ++ second) = sink.write first := by
  have le := sink.fitting_le first.length
  rw [write, List.length_append, fitting_add_of_not_takes full, List.take_append_of_le_length le,
    write]

theorem takes_append_of_not_takes (full : sink.takes first = false) (second : List UInt8) :
    sink.takes (first ++ second) = false := by
  have lt := fitting_lt_of_not_takes full
  rw [Sink.takes, List.length_append, fitting_add_of_not_takes full, beq_eq_false_iff_ne]
  omega

/-- **The sink after pieces in a row**, up to the first that does not fit, and whether all did. -/
def writePieces (sink : Sink) : List (List UInt8) → Sink × Bool
  | [] => (sink, true)
  | piece :: rest =>
    if sink.takes piece then (sink.write piece).writePieces rest else (sink.write piece, false)

theorem write_nil (sink : Sink) : sink.write [] = sink := by
  simp [write]

theorem takes_nil (sink : Sink) : sink.takes [] = true :=
  takes_eq_true_iff.mpr (Nat.le_zero.mp (sink.fitting_le 0))

/-- **It makes no difference how a text is cut up.** -/
theorem writePieces_eq (sink : Sink) (pieces : List (List UInt8)) :
    sink.writePieces pieces = (sink.write pieces.flatten, sink.takes pieces.flatten) := by
  induction pieces generalizing sink with
  | nil => rw [List.flatten_nil, write_nil, takes_nil, writePieces]
  | cons piece rest ih =>
    rw [List.flatten_cons, writePieces]
    cases takes : sink.takes piece with
    | true => rw [if_pos rfl, ih, write_append_of_takes takes, takes_append_of_takes takes]
    | false =>
      rw [if_neg Bool.false_ne_true, write_append_of_not_takes takes,
        takes_append_of_not_takes takes]

end Sink

/-! ## One entry -/

open Journal (Outcome)

namespace Sink

variable {sink : Sink} {bytes first : List UInt8}

/-- **How a write ends**, with the flush after it if all of it fits. -/
def outcome (sink : Sink) (bytes : List UInt8) : Outcome :=
  if sink.takes bytes then if sink.flushFails then .flushFailed else .done else .full

theorem outcome_eq_full_iff : sink.outcome bytes = .full ↔ ¬ sink.Fits bytes := by
  rw [outcome, ← takes_iff_fits]
  cases sink.takes bytes <;> cases sink.flushFails <;> simp

theorem outcome_eq_flushFailed_iff :
    sink.outcome bytes = .flushFailed ↔ sink.Fits bytes ∧ sink.flushFails = true := by
  rw [outcome, ← takes_iff_fits]
  cases sink.takes bytes <;> cases sink.flushFails <;> simp

theorem outcome_eq_done_iff :
    sink.outcome bytes = .done ↔ sink.Fits bytes ∧ sink.flushFails = false := by
  rw [outcome, ← takes_iff_fits]
  cases sink.takes bytes <;> cases sink.flushFails <;> simp

theorem outcome_append_of_takes (takes : sink.takes first = true) (second : List UInt8) :
    sink.outcome (first ++ second) = (sink.write first).outcome second := by
  rw [outcome, takes_append_of_takes takes, outcome, flushFails_write]

theorem outcome_append_of_not_takes (full : sink.takes first = false) (second : List UInt8) :
    sink.outcome (first ++ second) = .full := by
  rw [outcome, takes_append_of_not_takes full, if_neg Bool.false_ne_true]

end Sink

/-- **The pieces in which an entry reaches the sink**: those of the rule and those of the line. -/
structure Entry.Pieces (entry : Entry) where
  rule : List (List UInt8)
  line : List (List UInt8)
  flatten_rule : rule.flatten = Journal.rule
  flatten_line : line.flatten = entry.bytes

namespace Journal

variable {journal : Journal} {entry : Entry}

/-- **A journal that is told of an access and writes in pieces.**  It goes on with the line, and at
last flushes, only as long as the sink has taken all before. -/
def appendPieces (journal : Journal) (entry : Entry) (pieces : entry.Pieces) : Journal × Outcome :=
  let line (sink : Sink) : Journal × Outcome :=
    let (sink, fitted) := sink.writePieces pieces.line
    ({ sink, last := entry.time },
      if fitted then if sink.flushFails then .flushFailed else .done else .full)
  if journal.needsRule entry.time then
    let (sink, fitted) := journal.sink.writePieces pieces.rule
    if fitted then line sink else ({ journal with sink }, .full)
  else line journal.sink

theorem appendLine_eq (journal : Journal) (entry : Entry) : journal.appendLine entry =
    ({ sink := journal.sink.write entry.bytes, last := entry.time },
      journal.sink.outcome entry.bytes) := by
  unfold appendLine Sink.outcome
  split <;> rfl

/-- **An entry comes out the same, however it is cut up.** -/
theorem appendPieces_eq (journal : Journal) (entry : Entry) (pieces : entry.Pieces) :
    journal.appendPieces entry pieces = journal.append entry := by
  unfold appendPieces append
  simp only [Sink.writePieces_eq, pieces.flatten_rule, pieces.flatten_line, appendLine_eq,
    Sink.flushFails_write, Sink.outcome]
  rfl

/-- A line begins a block if more than a second has passed since the last; time that runs backwards
has not passed. -/
theorem needsRule_iff {time : Nat} :
    journal.needsRule time = true ↔ 1000000000 < time - journal.last :=
  decide_eq_true_iff

theorem needsRule_of_last_eq {time : Nat} (eq : journal.last = time) :
    journal.needsRule time = false := by
  rw [Bool.eq_false_iff, ne_eq, needsRule_iff]
  omega

/-- **What an entry asks to be written**: the rule if it begins a block, and its line. -/
def asked (journal : Journal) (entry : Entry) : List UInt8 :=
  (if journal.needsRule entry.time then rule else []) ++ entry.bytes

/-- **An entry is told in one write**; the time moves on unless the rule does not fit. -/
theorem append_eq (journal : Journal) (entry : Entry) : journal.append entry =
    ({ sink := journal.sink.write (journal.asked entry)
       last := if journal.needsRule entry.time && !journal.sink.takes rule then journal.last
        else entry.time },
      journal.sink.outcome (journal.asked entry)) := by
  unfold append asked
  cases needs : journal.needsRule entry.time with
  | false => rw [if_neg Bool.false_ne_true, appendLine_eq]; rfl
  | true =>
    rw [if_pos rfl, if_pos rfl]
    cases takes : journal.sink.takes rule with
    | true =>
      rw [if_pos rfl, appendLine_eq, Sink.write_append_of_takes takes,
        Sink.outcome_append_of_takes takes]
      rfl
    | false =>
      rw [if_neg Bool.false_ne_true, Sink.write_append_of_not_takes takes,
        Sink.outcome_append_of_not_takes takes]
      rfl

/-- **An entry told on a sink that may be full.**  Of what it asks for, the longest beginning that
fits arrives; it ends as that and the flush allow; and the time of the last line becomes its own
unless it needs a rule that does not fit. -/
structure Told (journal : Journal) (entry : Entry) (next : Journal) (outcome : Outcome) :
    Prop where
  arrives : ∃ part, journal.sink.LongestFitting (journal.asked entry) part ∧
    next.sink = { journal.sink with written := journal.sink.written ++ part }
  full_iff : outcome = .full ↔ ¬ journal.sink.Fits (journal.asked entry)
  flushFailed_iff : outcome = .flushFailed ↔
    journal.sink.Fits (journal.asked entry) ∧ journal.sink.flushFails = true
  done_iff : outcome = .done ↔
    journal.sink.Fits (journal.asked entry) ∧ journal.sink.flushFails = false
  last_iff : next.last = entry.time ↔
    (journal.needsRule entry.time = true → journal.sink.Fits rule)
  last_eq : next.last = entry.time ∨ next.last = journal.last

/-- **Every entry is so told.** -/
theorem told_append (journal : Journal) (entry : Entry) :
    journal.Told entry (journal.append entry).1 (journal.append entry).2 where
  arrives := ⟨_, journal.sink.longestFitting_take _, by rw [append_eq]; rfl⟩
  full_iff := by rw [append_eq, Sink.outcome_eq_full_iff]
  flushFailed_iff := by rw [append_eq, Sink.outcome_eq_flushFailed_iff]
  done_iff := by rw [append_eq, Sink.outcome_eq_done_iff]
  last_iff := by
    rw [append_eq, ← Sink.takes_iff_fits]
    cases needs : journal.needsRule entry.time with
    | false => simp
    | true =>
      have later : journal.last ≠ entry.time := fun eq => by
        simp [needsRule_of_last_eq eq] at needs
      cases journal.sink.takes rule <;> simp [later]
  last_eq := by
    rw [append_eq]
    dsimp only
    split
    · exact .inr rfl
    · exact .inl rfl

/-! ## Runs -/

/-- What befalls a journal that writes each entry in pieces. -/
def handlePieces (pieces : ∀ entry : Entry, entry.Pieces) (journal : Journal) :
    Event → Journal × Option Outcome
  | .entry entry =>
    ((journal.appendPieces entry (pieces entry)).1,
      some (journal.appendPieces entry (pieces entry)).2)
  | event => journal.handle event

theorem handlePieces_eq (pieces : ∀ entry : Entry, entry.Pieces) (journal : Journal)
    (event : Event) : journal.handlePieces pieces event = journal.handle event := by
  cases event with
  | entry entry => rw [handlePieces, appendPieces_eq, handle]
  | limit | flushing => rfl

/-- The journal after a list of events, writing in pieces. -/
def runPieces (pieces : ∀ entry : Entry, entry.Pieces) (journal : Journal)
    (events : List Event) : Journal :=
  events.foldl (fun journal event => (journal.handlePieces pieces event).1) journal

/-! ## Telling an entry again -/

/-- **What an owner can change about a sink** between two attempts. -/
structure Setting where
  limit : Option Nat
  flushFails : Bool

/-- The journal with its sink set anew. -/
def set (journal : Journal) (setting : Setting) : Journal :=
  { journal with
    sink := { journal.sink with limit := setting.limit, flushFails := setting.flushFails } }

/-- **An attempt at an entry**, on the sink as it is then set. -/
def attempt (journal : Journal) (entry : Entry) (setting : Setting) : Journal × Outcome :=
  (journal.set setting).append entry

/-- The journal after several attempts at one entry. -/
def attemptAll (journal : Journal) (entry : Entry) (settings : List Setting) : Journal :=
  settings.foldl (fun journal setting => (journal.attempt entry setting).1) journal

/-- **What arrives in each of several attempts** at one entry. -/
def arrivals (journal : Journal) (entry : Entry) : List Setting → List (List UInt8)
  | [] => []
  | setting :: rest =>
    (journal.attempt entry setting).1.sink.written.drop journal.sink.written.length ::
      (journal.attempt entry setting).1.arrivals entry rest

section Attempt

variable {setting final : Setting} {settings : List Setting}

/-- What arrives in an attempt. -/
theorem arrivals_cons (journal : Journal) (entry : Entry) (setting : Setting)
    (rest : List Setting) : journal.arrivals entry (setting :: rest) =
      (journal.asked entry).take
          ((journal.set setting).sink.fitting (journal.asked entry).length) ::
        (journal.attempt entry setting).1.arrivals entry rest := by
  rw [arrivals, attempt, append_eq, Sink.written_write]
  exact congrArg (· :: _) List.drop_left

/-- **An attempt that succeeds lets all arrive** that the entry asks for. -/
theorem arrivals_singleton_of_done (done : (journal.attempt entry final).2 = .done) :
    journal.arrivals entry [final] = [journal.asked entry] := by
  rw [attempt, append_eq, Sink.outcome_eq_done_iff, ← Sink.takes_iff_fits] at done
  have all := Sink.takes_eq_true_iff.mp done.1
  rw [arrivals_cons]
  exact congrArg (· :: []) (List.take_of_length_le all.ge)

theorem asked_of_last_eq (same : journal.last = entry.time) :
    journal.asked entry = entry.bytes := by
  rw [asked, needsRule_of_last_eq same]
  rfl

/-- The time moves on with the rule, or if there is none. -/
theorem last_attempt (fits : journal.needsRule entry.time = true →
    (journal.set setting).sink.takes rule = true) :
    (journal.attempt entry setting).1.last = entry.time := by
  rw [attempt, append_eq]
  refine if_neg fun short => ?_
  obtain ⟨needs, full⟩ := Bool.and_eq_true_iff.mp short
  simp [fits needs] at full

/-- As long as the rule does not fit, it is still called for. -/
theorem needsRule_attempt (needs : journal.needsRule entry.time = true)
    (full : (journal.set setting).sink.takes rule = false) :
    (journal.attempt entry setting).1.needsRule entry.time = true := by
  have kept : (journal.attempt entry setting).1.last = journal.last := by
    have called : (journal.set setting).needsRule entry.time = true := needs
    rw [attempt, append_eq, called, full]
    rfl
  rw [needsRule_iff] at needs ⊢
  rwa [kept]

/-- **Without the rule**, beginnings of the line arrive, and the whole line at last. -/
theorem arrivals_of_last_eq (same : journal.last = entry.time)
    (done : ((journal.attemptAll entry settings).attempt entry final).2 = .done) :
    ∃ parts, journal.arrivals entry (settings ++ [final]) = parts ++ [entry.bytes] ∧
      ∀ part ∈ parts, part <+: entry.bytes := by
  induction settings generalizing journal with
  | nil =>
    have arrives : journal.arrivals entry [final] = _ := arrivals_singleton_of_done done
    rw [asked_of_last_eq same] at arrives
    exact ⟨[], arrives, by simp⟩
  | cons setting rest ih =>
    have next : (journal.attempt entry setting).1.last = entry.time :=
      last_attempt fun needs => by simp [needsRule_of_last_eq same] at needs
    obtain ⟨parts, eq, begin_line⟩ := ih next done
    rw [List.cons_append, arrivals_cons, eq, asked_of_last_eq same]
    exact ⟨_ :: parts, rfl, List.forall_mem_cons.mpr ⟨List.take_prefix _ _, begin_line⟩⟩

/-- **With the rule**, beginnings of the rule arrive as long as it does not fit, then the rule in
one attempt, and from there on beginnings of the line, and the whole line at last. -/
theorem arrivals_of_needsRule (needs : journal.needsRule entry.time = true)
    (done : ((journal.attemptAll entry settings).attempt entry final).2 = .done) :
    ∃ short line rest parts,
      journal.arrivals entry (settings ++ [final]) = short ++ (rule ++ line) :: rest ∧
      line :: rest = parts ++ [entry.bytes] ∧
      (∀ part ∈ short, part <+: rule ∧ part ≠ rule) ∧
      ∀ part ∈ parts, part <+: entry.bytes := by
  induction settings generalizing journal with
  | nil =>
    have arrives : journal.arrivals entry [final] = _ := arrivals_singleton_of_done done
    rw [asked, if_pos needs] at arrives
    exact ⟨[], entry.bytes, [], [], arrives, rfl, by simp, by simp⟩
  | cons setting rest ih =>
    rw [List.cons_append, arrivals_cons, asked, if_pos needs, List.length_append]
    cases takes : (journal.set setting).sink.takes rule with
    | true =>
      -- The rule is out, so the attempts to come do without it.
      obtain ⟨parts, eq, begin_line⟩ := arrivals_of_last_eq (last_attempt fun _ => takes) done
      rw [Sink.fitting_add_of_takes takes, List.take_length_add_append, eq]
      exact ⟨[], _, _, _ :: parts, rfl, rfl, by simp,
        List.forall_mem_cons.mpr ⟨List.take_prefix _ _, begin_line⟩⟩
    | false =>
      have lt := Sink.fitting_lt_of_not_takes takes
      obtain ⟨short, line, later, parts, eq, whole, begin_rule, begin_line⟩ :=
        ih (needsRule_attempt needs takes) done
      rw [Sink.fitting_add_of_not_takes takes, List.take_append_of_le_length lt.le, eq]
      refine ⟨_ :: short, line, later, parts, rfl, whole, ?_, begin_line⟩
      refine List.forall_mem_cons.mpr ⟨⟨List.take_prefix _ _, fun all => ?_⟩, begin_rule⟩
      have length := congrArg List.length all
      rw [List.length_take] at length
      omega

end Attempt

/-- **What a journal writes, and what it remembers.**  It makes no difference how its texts are cut
up.  Whatever has befallen it since it began, an entry needs a rule exactly if more than a second
has passed since the last line; of the rule and the line the longest beginning that fits arrives;
the entry ends as that and the flush allow; and its time counts as that of the last line unless it
needs a rule that does not fit.

So if an entry that needs a rule is told again until it succeeds, exactly one attempt lets the whole
rule arrive.  In the attempts before, a part of the rule arrives; in those after, a beginning of the
line alone, and in the last one all of it. -/
theorem told_exactly (pieces : ∀ entry : Entry, entry.Pieces) :
    (∀ journal event, handlePieces pieces journal event = journal.handle event) ∧
    (∀ (sink : Sink) (before : List Event) (entry : Entry),
      let journal := runPieces pieces ⟨sink, 0⟩ before
      let told := journal.appendPieces entry (pieces entry)
      (journal.needsRule entry.time = true ↔ 1000000000 < entry.time - journal.last) ∧
        journal.Told entry told.1 told.2) ∧
    ∀ (journal : Journal) (entry : Entry) (settings : List Setting) (final : Setting),
      journal.needsRule entry.time = true →
      ((journal.attemptAll entry settings).attempt entry final).2 = .done →
        ∃ short line rest parts,
          journal.arrivals entry (settings ++ [final]) = short ++ (rule ++ line) :: rest ∧
          line :: rest = parts ++ [entry.bytes] ∧
          (∀ part ∈ short, part <+: rule ∧ part ≠ rule) ∧
          ∀ part ∈ parts, part <+: entry.bytes := by
  refine ⟨handlePieces_eq pieces, ?_, fun journal entry settings final needs done =>
    arrivals_of_needsRule needs done⟩
  intro sink before entry journal told
  refine ⟨needsRule_iff, ?_⟩
  have eq : told = journal.append entry := journal.appendPieces_eq entry (pieces entry)
  rw [eq]
  exact journal.told_append entry

/-- An entry that fails in the middle of the rule, then in the middle of its line, then at the
flush, and then succeeds. -/
theorem told_exactly_fourth_attempt :
    let entry : Entry := ⟨5000000000, "boot", ⟨⟨.enabled, 3⟩, 0⟩⟩
    let settings : List Setting := [⟨some 20, false⟩, ⟨some 60, false⟩, ⟨none, true⟩]
    let final : Setting := ⟨none, false⟩
    needsRule {} entry.time = true ∧
      ((attemptAll {} entry settings).attempt entry final).2 = .done ∧
      (arrivals {} entry (settings ++ [final])).map List.length = [20, 40, 23, 23] ∧
        ∃ short line rest parts,
          arrivals {} entry (settings ++ [final]) = short ++ (rule ++ line) :: rest ∧
          line :: rest = parts ++ [entry.bytes] ∧
          (∀ part ∈ short, part <+: rule ∧ part ≠ rule) ∧
          ∀ part ∈ parts, part <+: entry.bytes := by
  intro entry settings final
  have needs : needsRule {} entry.time = true := by decide
  have done : ((attemptAll {} entry settings).attempt entry final).2 = .done := by decide
  have whole : ∀ entry : Entry, entry.Pieces := fun entry =>
    ⟨[rule], [entry.bytes], List.flatten_singleton, List.flatten_singleton⟩
  exact ⟨needs, done, by decide, (told_exactly whole).2.2 {} entry settings final needs done⟩

end Journal

end Slapstic
