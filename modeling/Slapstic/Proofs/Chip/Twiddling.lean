import Slapstic.Proofs.Chip.Course
import Slapstic.Proofs.Chip.Lines
import Slapstic.Proofs.Part.Codes

/-!
# Proofs/Chip/Twiddling — the bank that the bitwise protocol selects

A chip that is armed waits for a bank select, twiddles until the escape, and waits for a bank select
again.  The invariant of the twiddling (`BitwisePatterns.twiddling`) is that the pending bank is the
one that the addresses seen so far spell, and the toggle the parity of those that counted; one
address more keeps it (`transition_twiddling`).  So the protocol selects a bank whose bits can be
read off the addresses between the first bank select and the escape (`twiddling_delivers`), whatever
else comes between its steps.
-/

namespace Slapstic

/-! ## One access while twiddling -/

/-- The phase in which a list of addresses leaves the twiddling. -/
def BitwisePatterns.twiddling (bits : BitwisePatterns) (held : UInt8) (addresses : List UInt32) :
    Phase :=
  .bitwise2 (bits.encoded held addresses) (flip (bits.counted addresses).length)

/-- **One address more** that is not the escape: a twiddle if it counts, noise if it does not. -/
theorem BitwisePatterns.InBlock.transition_twiddling {patterns : Patterns} {bits : BitwisePatterns}
    (block : bits.InBlock) (scheme : patterns.scheme = .bitwise bits) (host : Host) (held : UInt8)
    (addresses : List UInt32) {address : UInt32} (view : View)
    (escape : bits.escape.hits address = false) :
    Transition patterns host held address view (bits.twiddling held addresses)
      (.go (bits.twiddling held (addresses ++ [address]))) := by
  unfold twiddling
  cases arm : bits.arm.hits address with
  | false =>
    rw [encoded_concat_of_miss arm, counted_concat_of_miss arm]
    exact .keepTwiddling scheme (block.twiddle?_flip_eq_none_iff.mpr arm) escape
  | true =>
    rw [encoded_concat_of_hit arm, counted_concat_of_hit arm, List.length_append,
      List.length_singleton, flip_succ]
    exact .twiddle scheme (block.twiddle?_flip_eq_some_iff.mpr ⟨arm, rfl⟩)

/-- The escape ends the twiddling, and is no twiddle itself. -/
theorem BitwisePatterns.InBlock.transition_escape {patterns : Patterns} {bits : BitwisePatterns}
    (block : bits.InBlock) (scheme : patterns.scheme = .bitwise bits) (host : Host) (held : UInt8)
    (addresses : List UInt32) {address : UInt32} (view : View)
    (escape : bits.escape.hits address = true) :
    Transition patterns host held address view (bits.twiddling held addresses)
      (.go (.bitwise3 (bits.encoded held addresses))) := by
  have arm : bits.arm.hits address = false := block.escape_apart.symm.not_hits escape
  exact .endTwiddling scheme (block.twiddle?_flip_eq_none_iff.mpr arm) escape

/-! ## The protocol -/

namespace Chip

variable {chip : Chip} {bits : BitwisePatterns}

/-- **The bitwise protocol selects the bank that its twiddles spell.**  Arm, a bank select, the
twiddling with any noise in between, the escape and again a bank select; waits before the two bank
selects.  A bit of the bank selected is what the last code on it says, or what it was.  Of the
twiddling the addresses in the arming block count, and these hit one twiddle each. -/
theorem twiddling_delivers (scheme : chip.part.patterns.scheme = .bitwise bits)
    (enabled : chip.phase = .enabled) {arm select escape close : Access}
    {wait twiddling hold : List Access}
    (armed : bits.arm.hits arm.pins = true)
    (waiting : ∀ a ∈ wait, a.Idle chip.part.patterns)
    (selected : chip.part.patterns.selects select.pins = true)
    (inside : ∀ a ∈ twiddling, a.pins ≠ 0 ∧ bits.escape.hits a.pins = false)
    (escaped : bits.escape.hits escape.pins = true)
    (holding : ∀ a ∈ hold, a.Idle chip.part.patterns)
    (closed : chip.part.patterns.selects close.pins = true) :
    ∃ bank, chip.Delivers ([arm] ++ wait ++ [select] ++ twiddling ++ [escape] ++ hold) close bank ∧
      (∀ i, bank.toNat.testBit i =
        (saidOf (bits.codes (twiddling.map Access.pins)) i).getD (chip.bank.toNat.testBit i)) ∧
      ∀ address, ∀ toggle : UInt8, toggle = 0 ∨ toggle = 3 →
        ((∃! twiddle, (bits.trigger twiddle).hits (address ^^^ toggle.toUInt32) = true) ↔
          bits.arm.hits address = true) := by
  have block := BitwisePatterns.inBlock_of_scheme scheme
  have fit := chip.part.fitLines
  refine ⟨bits.encoded chip.bank (twiddling.map Access.pins), ?_, bits.testBit_encoded _ _,
    fun address toggle known => block.existsUnique_hits_iff known address⟩
  have arm_nonzero := fit.ne_zero_of_scheme scheme (by simp [Scheme.triggers]) armed
  have escape_nonzero := fit.ne_zero_of_scheme scheme (by simp [Scheme.triggers]) escaped
  have begun : chip.LeadsTo [arm] .bitwise1 :=
    (LeadsTo.start enabled).go arm_nonzero (.armBitwise scheme armed)
  have waited := begun.wait fun a mem => ⟨(waiting a mem).1, .awaitTwiddling (waiting a mem).2⟩
  have started : chip.LeadsTo _ (bits.twiddling chip.bank []) :=
    waited.go (PartNumber.ne_zero_of_selects selected) (.beginTwiddling selected)
  have twiddled := started.gather (bits.twiddling chip.bank) fun a mem => ⟨(inside a mem).1,
    fun before => block.transition_twiddling scheme _ _ before _ (inside a mem).2⟩
  have ended := twiddled.go escape_nonzero (block.transition_escape scheme _ _ _ _ escaped)
  have held := ended.wait fun a mem => ⟨(holding a mem).1, .awaitTwiddled (holding a mem).2⟩
  exact held.commit (PartNumber.ne_zero_of_selects closed) (.selectTwiddled closed)

/-- Twiddles under both toggles on a part that leaves an address line free, with noise between all
steps. -/
theorem twiddling_delivers_toggled :
    let bits : BitwisePatterns :=
      { arm := ⟨0x1FF0, 0x1540⟩, clear0 := ⟨0x1FF3, 0x1540⟩, set0 := ⟨0x1FF3, 0x1541⟩
        clear1 := ⟨0x1FF3, 0x1542⟩, set1 := ⟨0x1FF3, 0x1543⟩, escape := ⟨0x1FF8, 0x1550⟩ }
    let chip : Chip := ⟨⟨.enabled, 1⟩, ⟨101, by decide⟩, .m68010⟩
    let arm : Access := ⟨0x17545, .silent⟩
    let wait : List Access := [⟨0x1550, .silent⟩, ⟨0x1543, .silent⟩]
    let select : Access := ⟨0x40A0, .silent⟩
    let twiddling : List Access :=
      [⟨0x1547, .silent⟩, ⟨0x0090, .silent⟩, ⟨0x7542, .silent⟩, ⟨0x3540, .silent⟩]
    let escape : Access := ⟨0x1557, .silent⟩
    let hold : List Access := [⟨0x1541, .silent⟩, ⟨0x1555, .silent⟩]
    let close : Access := ⟨0x00B0, .silent⟩
    (chip.part.patterns.scheme = .bitwise bits ∧ chip.phase = .enabled ∧
        bits.arm.hits arm.pins = true ∧ (∀ a ∈ wait, a.Idle chip.part.patterns) ∧
        chip.part.patterns.selects select.pins = true ∧
        (∀ a ∈ twiddling, a.pins ≠ 0 ∧ bits.escape.hits a.pins = false) ∧
        bits.escape.hits escape.pins = true ∧ (∀ a ∈ hold, a.Idle chip.part.patterns) ∧
        chip.part.patterns.selects close.pins = true) ∧
      bits.codes (twiddling.map Access.pins) = [3, 1, 0] ∧
      ∃ bank, chip.Delivers ([arm] ++ wait ++ [select] ++ twiddling ++ [escape] ++ hold) close bank ∧
        (∀ i, bank.toNat.testBit i = (saidOf [3, 1, 0] i).getD (chip.bank.toNat.testBit i)) ∧
        ∀ address, ∀ toggle : UInt8, toggle = 0 ∨ toggle = 3 →
          ((∃! twiddle, (bits.trigger twiddle).hits (address ^^^ toggle.toUInt32) = true) ↔
            bits.arm.hits address = true) := by
  intro bits chip arm wait select twiddling escape hold close
  have scheme : chip.part.patterns.scheme = .bitwise bits := by decide
  have armed : bits.arm.hits arm.pins = true := by decide
  have waiting : ∀ a ∈ wait, a.Idle chip.part.patterns := by decide
  have inside : ∀ a ∈ twiddling, a.pins ≠ 0 ∧ bits.escape.hits a.pins = false := by decide
  have holding : ∀ a ∈ hold, a.Idle chip.part.patterns := by decide
  have codes : bits.codes (twiddling.map Access.pins) = [3, 1, 0] := by decide
  refine ⟨⟨scheme, rfl, armed, waiting, by decide, inside, by decide, holding, by decide⟩,
    codes, ?_⟩
  rw [← codes]
  exact twiddling_delivers scheme rfl armed waiting (by decide) inside (by decide) holding
    (by decide)

end Chip

end Slapstic
