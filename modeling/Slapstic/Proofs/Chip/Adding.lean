import Slapstic.Proofs.Chip.Course
import Slapstic.Proofs.Chip.Lines

/-!
# Proofs/Chip/Adding — the bank that the additive protocol selects

A chip that is armed wants the confirmation at once, adds until the escape, and waits for a bank
select.  The invariant of the adding is that the pending bank is the one that the addresses seen so
far spell; one address more keeps it (`AdditivePatterns.transition_adding`), the escape's own among
them.  So the protocol selects the old bank plus all that was added, modulo four, and without the
confirmation it comes to nothing (`adding_delivers`).
-/

namespace Slapstic

/-! ## One access while adding -/

section Step

variable {patterns : Patterns} {adds : AdditivePatterns}

/-- **One address more** that is not the escape adds what it hits, which may be nothing. -/
theorem AdditivePatterns.transition_adding (scheme : patterns.scheme = .additive adds) (host : Host)
    (held : UInt8) (addresses : List UInt32) {address : UInt32} (view : View)
    (escape : adds.escape.hits address = false) :
    Transition patterns host held address view (.additive2 (adds.encoded held addresses))
      (.go (.additive2 (adds.encoded held (addresses ++ [address])))) := by
  rw [encoded_concat]
  exact .keepAdding scheme escape

/-- **The escape adds as well**, and ends the adding. -/
theorem AdditivePatterns.transition_escape (scheme : patterns.scheme = .additive adds) (host : Host)
    (held : UInt8) (addresses : List UInt32) {address : UInt32} (view : View)
    (escape : adds.escape.hits address = true) :
    Transition patterns host held address view (.additive2 (adds.encoded held addresses))
      (.go (.additive3 (adds.encoded held (addresses ++ [address])))) := by
  rw [encoded_concat]
  exact .endAdding scheme escape

end Step

/-! ## The protocol -/

namespace Chip

variable {chip : Chip} {adds : AdditivePatterns}

/-- An armed chip waits for its confirmation. -/
theorem leadsTo_additive1 (scheme : chip.part.patterns.scheme = .additive adds)
    (enabled : chip.phase = .enabled) {arm : Access} (armed : adds.arm.hits arm.pins = true) :
    chip.LeadsTo [arm] .additive1 := by
  have nonzero := chip.part.fitLines.ne_zero_of_scheme scheme (by simp [Scheme.triggers]) armed
  exact (LeadsTo.start enabled).go nonzero (.armAdditive scheme armed)

/-- **Without its confirmation the protocol comes to nothing.** -/
theorem swallows_unconfirmed (scheme : chip.part.patterns.scheme = .additive adds)
    (enabled : chip.phase = .enabled) {arm other : Access} (armed : adds.arm.hits arm.pins = true)
    (unconfirmed : adds.confirm.hits other.pins = false) : chip.Swallows [arm, other] := by
  have missed : chip.part.patterns.scheme.confirms other.pins = false := by
    simpa [scheme, Scheme.confirms, Scheme.additive?] using unconfirmed
  have broken : chip.LeadsTo ([arm] ++ [other]) .enabled :=
    (leadsTo_additive1 scheme enabled armed).breakOff (.noConfirm missed)
  exact broken.swallows enabled

/-- **The additive protocol selects the bank plus what was added.**  Arm, confirm, the adding with
any noise in between, the escape and a bank select, with a wait before it.  The escape's own address
adds as well, and nothing after it.  If the confirmation fails to come, the chip is as it was. -/
theorem adding_delivers (scheme : chip.part.patterns.scheme = .additive adds)
    (enabled : chip.phase = .enabled) (bank_le : chip.bank ≤ 3) {arm : Access}
    (armed : adds.arm.hits arm.pins = true) :
    (∀ (confirm escape close : Access) (adding hold : List Access),
      adds.confirm.hits confirm.pins = true →
      (∀ a ∈ adding, a.pins ≠ 0 ∧ adds.escape.hits a.pins = false) →
      adds.escape.hits escape.pins = true → (∀ a ∈ hold, a.Idle chip.part.patterns) →
      chip.part.patterns.selects close.pins = true →
      ∃ bank, chip.Delivers ([arm, confirm] ++ adding ++ [escape] ++ hold) close bank ∧
        bank.toNat = (chip.bank.toNat +
          ((adding ++ [escape]).map fun a => adds.increment a.pins).sum) % 4) ∧
      ∀ other : Access, adds.confirm.hits other.pins = false →
        chip.Swallows [arm, other] := by
  refine ⟨?_, fun other => swallows_unconfirmed scheme enabled armed⟩
  intro confirm escape close adding hold confirmed inside escaped holding closed
  refine ⟨adds.encoded chip.bank ((adding ++ [escape]).map Access.pins), ?_, ?_⟩
  · have fit := chip.part.fitLines
    have confirm_nonzero := fit.ne_zero_of_scheme scheme (by simp [Scheme.triggers]) confirmed
    have escape_nonzero := fit.ne_zero_of_scheme scheme (by simp [Scheme.triggers]) escaped
    have begun := leadsTo_additive1 scheme enabled armed
    have started := begun.go confirm_nonzero (.confirm scheme confirmed)
    rw [← adds.encoded_nil bank_le] at started
    have added := started.gather (fun addresses => .additive2 (adds.encoded chip.bank addresses))
      fun a mem => ⟨(inside a mem).1,
        fun before => adds.transition_adding scheme _ _ before _ (inside a mem).2⟩
    have ended := added.go escape_nonzero (adds.transition_escape scheme _ _ _ _ escaped)
    have held := ended.wait fun a mem => ⟨(holding a mem).1, .awaitAdded (holding a mem).2⟩
    rw [List.map_append, List.map_singleton]
    exact held.commit (PartNumber.ne_zero_of_selects closed) (.selectAdded closed)
  · rw [AdditivePatterns.toNat_encoded, List.map_map]
    rfl

/-- Additions of three, of two and of none, a bank select among them, on a part whose escape adds
one. -/
theorem adding_delivers_escape_adds :
    let adds : AdditivePatterns :=
      { arm := ⟨0x3FFF, 0x0676⟩, confirm := ⟨0x3FFF, 0x0677⟩, plus1 := ⟨0x3E62, 0x1A42⟩
        plus2 := ⟨0x3E35, 0x1A11⟩, escape := ⟨0x3FFF, 0x1A42⟩ }
    let chip : Chip := ⟨⟨.enabled, 1⟩, ⟨117, by decide⟩, .m68000⟩
    let arm : Access := ⟨0x4676, .silent⟩
    let confirm : Access := ⟨0x0677, .silent⟩
    let adding : List Access := [⟨0x1A53, .silent⟩, ⟨0x0008, .silent⟩, ⟨0x5A11, .silent⟩]
    let escape : Access := ⟨0x1A42, .silent⟩
    let hold : List Access := [⟨0x1A53, .silent⟩, ⟨0x0676, .silent⟩]
    let close : Access := ⟨0x001A, .silent⟩
    (chip.part.patterns.scheme = .additive adds ∧ chip.phase = .enabled ∧ chip.bank ≤ 3 ∧
        adds.arm.hits arm.pins = true) ∧
      (adds.confirm.hits confirm.pins = true ∧
        (∀ a ∈ adding, a.pins ≠ 0 ∧ adds.escape.hits a.pins = false) ∧
        adds.escape.hits escape.pins = true ∧ (∀ a ∈ hold, a.Idle chip.part.patterns) ∧
        chip.part.patterns.selects close.pins = true ∧
        ∃ bank, chip.Delivers ([arm, confirm] ++ adding ++ [escape] ++ hold) close bank ∧
          bank.toNat = (chip.bank.toNat + [3, 0, 2, 1].sum) % 4) ∧
      adds.confirm.hits close.pins = false ∧ chip.Swallows [arm, close] := by
  intro adds chip arm confirm adding escape hold close
  have scheme : chip.part.patterns.scheme = .additive adds := by decide
  have armed : adds.arm.hits arm.pins = true := by decide
  have inside : ∀ a ∈ adding, a.pins ≠ 0 ∧ adds.escape.hits a.pins = false := by decide
  have holding : ∀ a ∈ hold, a.Idle chip.part.patterns := by decide
  have increments : ((adding ++ [escape]).map fun a => adds.increment a.pins) = [3, 0, 2, 1] := by
    decide
  obtain ⟨delivers, swallows⟩ := adding_delivers scheme rfl (by decide) armed
  refine ⟨⟨scheme, rfl, by decide, armed⟩, ⟨by decide, inside, by decide, holding, by decide, ?_⟩,
    by decide, swallows close (by decide)⟩
  rw [← increments]
  exact delivers confirm escape close adding hold (by decide) inside (by decide) holding (by decide)

end Chip

end Slapstic
