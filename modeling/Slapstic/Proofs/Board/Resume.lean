import Slapstic.Proofs.Board.WellFormed
import Slapstic.Proofs.Chip.Alike
import Slapstic.Proofs.Serial.RoundTrip

/-!
# Proofs/Board/Resume — a chip put away and brought back goes on as if nothing had happened

A save state holds a chip's part and latch, which is all that an access depends on but for the kind
of the host.  So a run may be cut anywhere, the chip written as JSON, read back, and brought into
another chip that goes on in its place (`resumes`).
-/

namespace Slapstic

/-! ## Saving, writing, reading, restoring -/

namespace Chip

variable {chip other : Chip}

/-- A well-formed chip brought back into another of its part is alike there. -/
theorem exists_restore_save_alike (wellFormed : chip.toLatch.WellFormed)
    (part : other.part = chip.part) (inspected : other.host.inspected = chip.host.inspected) :
    ∃ resumed, other.restore chip.save = .ok resumed ∧ resumed.Alike chip :=
  ⟨_, restore_save wellFormed part, rfl, inspected, rfl⟩

end Chip

namespace Board

/-- **A run may be interrupted anywhere.**  On a board with any past, the chip is put away in the
middle of a run and its state written as JSON.  The JSON reads back as the state, the state goes
into any other chip of the part on a host of the kind, and that chip carries the run on: each latch
is the one that it would have been. -/
theorem resumes (setup : Setup) (rom : Option Image) (past : List Command)
    (before after : List Access) (other : Chip) :
    let chip := ((ofSetup setup rom).performAll past).1.chip
    let saved := (chip.run before).save
    other.part = chip.part → other.host.inspected = chip.host.inspected →
      ∃ decoded resumed, SaveState.ofJson saved.toJson = .ok decoded ∧ decoded = saved ∧
        other.restore decoded = .ok resumed ∧
        chip.latches (before ++ after) = chip.latches before ++ resumed.latches after ∧
        (chip.run (before ++ after)).toLatch = (resumed.run after).toLatch := by
  intro chip saved part inspected
  have wellFormed : chip.toLatch.WellFormed :=
    wellFormed_chip_performAll (wellFormed_ofSetup setup rom) past
  rw [← chip.part_run before] at part
  rw [← chip.host_run before] at inspected
  obtain ⟨resumed, restored, alike⟩ :=
    Chip.exists_restore_save_alike (Chip.wellFormed_run wellFormed before) part inspected
  refine ⟨saved, resumed, saved.ofJson_toJson, rfl, restored, ?_, ?_⟩
  · rw [Chip.latches_append, alike.latches]
  · rw [Chip.run_append, (alike.run after).toLatch_eq]

/-- A run cut in the middle of its twiddling, carried on by a chip that was itself adding. -/
theorem resumes_twiddling :
    let part : PartNumber := ⟨104, by decide⟩
    let past : List Command := [.access ⟨0, .silent⟩, .reset, .restore ⟨⟨.bitwise3 1, 2⟩, part⟩]
    let before : List Access :=
      [⟨0, .silent⟩, ⟨0x3D90, .silent⟩, ⟨0x0028, .silent⟩, ⟨0x3D91, .silent⟩]
    let after : List Access := [⟨0x3D90, .silent⟩, ⟨0x3DA7, .silent⟩, ⟨0x0020, .silent⟩]
    let other : Chip := ⟨⟨.additive2 77, 200⟩, part, .m68000⟩
    let chip := ((ofSetup ⟨part, .m68010⟩ none).performAll past).1.chip
    let saved := (chip.run before).save
    (other.part = chip.part ∧ other.host.inspected = chip.host.inspected) ∧
      saved.phase = .bitwise2 3 3 ∧
      ∃ decoded resumed, SaveState.ofJson saved.toJson = .ok decoded ∧ decoded = saved ∧
        other.restore decoded = .ok resumed ∧
        chip.latches (before ++ after) = chip.latches before ++ resumed.latches after ∧
        (chip.run (before ++ after)).toLatch = (resumed.run after).toLatch := by
  intro part past before after other chip saved
  have phase : saved.phase = .bitwise2 3 3 := by decide
  exact ⟨⟨rfl, rfl⟩, phase, resumes ⟨part, .m68010⟩ none past before after other rfl rfl⟩

end Board

end Slapstic
