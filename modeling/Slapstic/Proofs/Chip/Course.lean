import Slapstic.Proofs.Chip.WellFormed

/-!
# Proofs/Chip/Course — runs that keep the bank, and runs that select one

A run of accesses **leads to** a phase if it ends there and every access has returned the bank held
at its start; it **delivers** a bank if its last access returns that bank and disables the chip, and
those before have returned the old one.  Both are put together access by access: each listed move
that goes to a phase carries a lead on (`LeadsTo.go`), and a listed commit completes it
(`LeadsTo.commit`).  A stretch of accesses leads to the phase that has gathered all their addresses
(`LeadsTo.gather`); if none moves anything, the lead stands (`LeadsTo.wait`).

A run that leads back to where it began is **swallowed**: the chip is as it was
(`LeadsTo.swallows`), so swallowed runs may be strung together (`Swallows.flatten`).
-/

namespace Slapstic

/-- An access that changes nothing while a protocol waits for a bank select. -/
def Access.Idle (a : Access) (patterns : Patterns) : Prop :=
  a.pins ≠ 0 ∧ patterns.selects a.pins = false

instance (a : Access) (patterns : Patterns) : Decidable (a.Idle patterns) :=
  inferInstanceAs (Decidable (a.pins ≠ 0 ∧ patterns.selects a.pins = false))

namespace Chip

variable {chip : Chip} {accesses more : List Access} {a : Access} {phase next : Phase}
  {bank : UInt8}

/-- A chip is its latch, its part and its host. -/
theorem eq_of_toLatch_eq {chip other : Chip} (latch : chip.toLatch = other.toLatch)
    (part : chip.part = other.part) (host : chip.host = other.host) : chip = other := by
  cases chip
  cases other
  cases latch
  cases part
  cases host
  rfl

/-! ## The banks that a run returns -/

/-- **The bank that each access of a run returns**, which is the one that it reads from. -/
def returned (chip : Chip) (accesses : List Access) : List UInt8 :=
  (chip.latches accesses).map Latch.bank

theorem returned_append (chip : Chip) (first second : List Access) :
    chip.returned (first ++ second) = chip.returned first ++ (chip.run first).returned second := by
  rw [returned, latches_append, List.map_append]
  rfl

theorem returned_concat (chip : Chip) (accesses : List Access) (a : Access) :
    chip.returned (accesses ++ [a]) =
      chip.returned accesses ++ [(chip.run (accesses ++ [a])).bank] := by
  rw [returned_append, run_concat]
  rfl

/-! ## Leading to a phase -/

/-- **A run leads to a phase**: it ends there, and each access returns the bank held before. -/
structure LeadsTo (chip : Chip) (accesses : List Access) (phase : Phase) : Prop where
  returned_eq : chip.returned accesses = List.replicate accesses.length chip.bank
  toLatch_eq : (chip.run accesses).toLatch = ⟨phase, chip.bank⟩

/-- **A run delivers a bank**: its last access returns it and disables the chip, and each access
before that returns the bank held before. -/
structure Delivers (chip : Chip) (accesses : List Access) (last : Access) (bank : UInt8) :
    Prop where
  returned_eq :
    chip.returned (accesses ++ [last]) = List.replicate accesses.length chip.bank ++ [bank]
  toLatch_eq : (chip.run (accesses ++ [last])).toLatch = ⟨.disabled, bank⟩

/-- **A chip swallows a run**: each access returns the bank held before, and the chip is as it
was. -/
structure Swallows (chip : Chip) (accesses : List Access) : Prop where
  returned_eq : chip.returned accesses = List.replicate accesses.length chip.bank
  run_eq : chip.run accesses = chip

namespace LeadsTo

/-- The empty run leads nowhere. -/
theorem start (eq : chip.phase = phase) : chip.LeadsTo [] phase where
  returned_eq := rfl
  toLatch_eq := by
    rw [← eq]
    rfl

/-- One access more, by what it makes of the latch. -/
theorem step (leads : chip.LeadsTo accesses phase)
    (eq : chip.part.patterns.step chip.host ⟨phase, chip.bank⟩ a = ⟨next, chip.bank⟩) :
    chip.LeadsTo (accesses ++ [a]) next := by
  have toLatch_eq : (chip.run (accesses ++ [a])).toLatch = ⟨next, chip.bank⟩ := by
    rw [toLatch_run_concat, leads.toLatch_eq, eq]
  refine ⟨?_, toLatch_eq⟩
  rw [returned_concat, leads.returned_eq, toLatch_eq, List.length_append, List.length_singleton,
    List.replicate_succ']

/-- **A listed move leads on.** -/
theorem go (leads : chip.LeadsTo accesses phase) (nonzero : a.pins ≠ 0)
    (listed : Transition chip.part.patterns chip.host chip.bank a.pins a.view phase (.go next)) :
    chip.LeadsTo (accesses ++ [a]) next :=
  leads.step (Patterns.step_eq_of_transition nonzero listed)

/-- Zero leads back to the start of all protocols. -/
theorem zero (leads : chip.LeadsTo accesses phase) (zero : a.pins = 0) :
    chip.LeadsTo (accesses ++ [a]) .enabled :=
  leads.step (Patterns.step_of_pins_eq_zero zero)

/-- **An access that breaks off leads back to the start**, be it zero or another one. -/
theorem breakOff (leads : chip.LeadsTo accesses phase)
    (listed : Transition chip.part.patterns chip.host chip.bank a.pins a.view phase
      (.go .enabled)) : chip.LeadsTo (accesses ++ [a]) .enabled := by
  by_cases zero : a.pins = 0
  · exact leads.zero zero
  · exact leads.go zero listed

/-- **A stretch of accesses gathers their addresses**, if the phase that has gathered some goes on
to the one that has gathered one more. -/
theorem gather (gathered : List UInt32 → Phase) (leads : chip.LeadsTo accesses (gathered []))
    (gathers : ∀ a ∈ more, a.pins ≠ 0 ∧ ∀ before,
      Transition chip.part.patterns chip.host chip.bank a.pins a.view (gathered before)
        (.go (gathered (before ++ [a.pins])))) :
    chip.LeadsTo (accesses ++ more) (gathered (more.map Access.pins)) := by
  -- From the end, where the last address is gathered.
  induction more using List.reverseRecOn with
  | nil => rwa [List.append_nil]
  | append_singleton before a ih =>
    obtain ⟨earlier, last⟩ := List.forall_mem_append.mp gathers
    obtain ⟨nonzero, listed⟩ := last a (List.mem_singleton_self a)
    rw [← List.append_assoc, List.map_append, List.map_singleton]
    exact (ih earlier).go nonzero (listed _)

/-- **Accesses that move nothing may come in any number.** -/
theorem wait (leads : chip.LeadsTo accesses phase)
    (stays : ∀ a ∈ more, a.pins ≠ 0 ∧
      Transition chip.part.patterns chip.host chip.bank a.pins a.view phase (.go phase)) :
    chip.LeadsTo (accesses ++ more) phase :=
  leads.gather (fun _ => phase) fun a mem => ⟨(stays a mem).1, fun _ => (stays a mem).2⟩

/-- **A listed commit delivers its bank.** -/
theorem commit (leads : chip.LeadsTo accesses phase) (nonzero : a.pins ≠ 0)
    (listed : Transition chip.part.patterns chip.host chip.bank a.pins a.view phase
      (.commit bank)) :
    chip.Delivers accesses a bank := by
  have toLatch_eq : (chip.run (accesses ++ [a])).toLatch = ⟨.disabled, bank⟩ := by
    rw [toLatch_run_concat, leads.toLatch_eq, Patterns.step_eq_of_transition nonzero listed,
      Latch.after_commit]
  refine ⟨?_, toLatch_eq⟩
  rw [returned_concat, leads.returned_eq, toLatch_eq]

/-- **A run that leads back to where it began is swallowed.** -/
theorem swallows (leads : chip.LeadsTo accesses phase) (eq : chip.phase = phase) :
    chip.Swallows accesses where
  returned_eq := leads.returned_eq
  run_eq := by
    have toLatch_eq : (chip.run accesses).toLatch = chip.toLatch := by
      rw [leads.toLatch_eq, ← eq]
    exact eq_of_toLatch_eq toLatch_eq (chip.part_run accesses) (chip.host_run accesses)

/-- **A swallowed run changes nothing of where a run leads.** -/
theorem swallow (leads : chip.LeadsTo accesses phase)
    (swallows : (chip.run accesses).Swallows more) :
    chip.LeadsTo (accesses ++ more) phase where
  returned_eq := by
    have bank : (chip.run accesses).bank = chip.bank := by rw [leads.toLatch_eq]
    rw [returned_append, leads.returned_eq, swallows.returned_eq, bank, List.length_append,
      List.replicate_add]
  toLatch_eq := by rw [run_append, swallows.run_eq, leads.toLatch_eq]

end LeadsTo

theorem Swallows.append (first : chip.Swallows accesses) (second : chip.Swallows more) :
    chip.Swallows (accesses ++ more) where
  returned_eq := by
    rw [returned_append, first.run_eq, first.returned_eq, second.returned_eq, List.length_append,
      List.replicate_add]
  run_eq := by rw [run_append, first.run_eq, second.run_eq]

/-- **Runs that are swallowed one by one** are swallowed together. -/
theorem Swallows.flatten {words : List (List Access)}
    (swallows : ∀ word ∈ words, chip.Swallows word) : chip.Swallows words.flatten := by
  induction words with
  | nil => exact ⟨rfl, rfl⟩
  | cons word rest ih =>
    obtain ⟨first, later⟩ := List.forall_mem_cons.mp swallows
    exact first.append (ih later)

end Chip

end Slapstic
