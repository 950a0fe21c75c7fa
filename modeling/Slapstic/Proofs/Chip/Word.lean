import Slapstic.Proofs.Chip.Transition
import Slapstic.Proofs.Part.Encoding

/-!
# Proofs/Chip/Word — the words of the four protocols

A **protocol word** is a list of accesses that selects a bank, read off the addresses alone:

* simple — one bank select;
* the other three — an **opening**, which settles the bank, then any wait, then one closing access:
  the fourth address of the alternate sequence, or any bank select.

`Begun` gives the shape of the accesses since the chip was last enabled, one constructor for each
phase and each way into it.  One access more leaves the word begun, completes it, or breaks it off
(`Begun.extend`).
-/

namespace Slapstic

/-! ## Openings -/

/-- The third address of a sequence that runs off the bus: the register that the opcode names. -/
def View.thirdAddress (view : View) : UInt32 := view.register (opcodeRegister view.opcode) >>> 1

/-- **What vouches for the hidden steps**: the opcode was fetched from the first address, makes the
three accesses, and takes its third address from a register. -/
theorem AlternatePatterns.recover?_eq_some_iff {steps : AlternatePatterns} {view : View}
    {bank : UInt8} : steps.recover? view = some bank ↔
      (steps.firstHits (view.pc >>> 1) = true ∧ opcodeRunsSequence view.opcode = true ∧
        steps.third.hits view.thirdAddress = true) ∧ bank = steps.bankOf view.thirdAddress := by
  simp only [recover?, View.thirdAddress, Bool.and_eq_true]
  constructor
  · intro found
    split at found
    next runs =>
      split at found
      next third => exact ⟨⟨runs.1, runs.2, third⟩, (Option.some.inj found).symm⟩
      next => cases found
    next => cases found
  · rintro ⟨⟨first, opcode, third⟩, rfl⟩
    rw [if_pos ⟨first, opcode⟩, if_pos third]

/-- **The opening of an alternate sequence**: three steps in a row, of which the first may be missing
off the bus, and the first and the third on an inspected host. -/
inductive AlternateOpening (steps : AlternatePatterns) (host : Host) :
    List Access → UInt8 → Prop where
  | full {x y z : Access} (first : steps.firstHits x.pins = true)
      (second : steps.second.hits y.pins = true) (third : steps.third.hits z.pins = true) :
      AlternateOpening steps host [x, y, z] (steps.bankOf z.pins)
  | headless {y z : Access} (bus : host.inspected = false)
      (second : steps.second.hits y.pins = true) (third : steps.third.hits z.pins = true) :
      AlternateOpening steps host [y, z] (steps.bankOf z.pins)
  | inspected {y : Access} (inspected : host.inspected = true)
      (second : steps.second.hits y.pins = true)
      (first : steps.firstHits (y.view.pc >>> 1) = true)
      (opcode : opcodeRunsSequence y.view.opcode = true)
      (third : steps.third.hits y.view.thirdAddress = true) :
      AlternateOpening steps host [y] (steps.bankOf y.view.thirdAddress)

/-- **The opening of the bitwise protocol**: arm, a bank select, twiddles, the escape. -/
inductive BitwiseOpening (patterns : Patterns) (held : UInt8) : List Access → UInt8 → Prop where
  | mk {bits : BitwisePatterns} {arm select escape : Access} {wait twiddling : List Access}
      (scheme : patterns.scheme = .bitwise bits) (armed : bits.arm.hits arm.pins = true)
      (waiting : ∀ a ∈ wait, patterns.selects a.pins = false)
      (selected : patterns.selects select.pins = true)
      (twiddled : ∀ a ∈ twiddling, bits.escape.hits a.pins = false)
      (escaped : bits.escape.hits escape.pins = true) :
      BitwiseOpening patterns held (arm :: (wait ++ select :: (twiddling ++ [escape])))
        (bits.encoded held (twiddling.map Access.pins))

/-- **The opening of the additive protocol**: arm, confirm, additions, the escape, which may add as
well. -/
inductive AdditiveOpening (patterns : Patterns) (held : UInt8) : List Access → UInt8 → Prop where
  | mk {adds : AdditivePatterns} {arm confirm escape : Access} {adding : List Access}
      (scheme : patterns.scheme = .additive adds) (armed : adds.arm.hits arm.pins = true)
      (confirmed : adds.confirm.hits confirm.pins = true)
      (added : ∀ a ∈ adding, adds.escape.hits a.pins = false)
      (escaped : adds.escape.hits escape.pins = true) :
      AdditiveOpening patterns held (arm :: confirm :: (adding ++ [escape]))
        (adds.encoded held ((adding ++ [escape]).map Access.pins))

/-! ## Words -/

/-- **A complete protocol word and the bank it selects**, on a chip that holds the bank `held`. -/
inductive ProtocolWord (patterns : Patterns) (host : Host) (held : UInt8) :
    List Access → UInt8 → Prop where
  | simple {a : Access} {i : Fin 4} (select : a.pins = (patterns.select.get i).toUInt32) :
      ProtocolWord patterns host held [a] (UInt8.ofNat i)
  | alternate {opening wait : List Access} {close : Access} {bank : UInt8}
      (opened : AlternateOpening patterns.alternate host opening bank)
      (waiting : ∀ a ∈ wait, patterns.alternate.fourth.hits a.pins = false)
      (closed : patterns.alternate.fourth.hits close.pins = true) :
      ProtocolWord patterns host held (opening ++ wait ++ [close]) bank
  | bitwise {opening wait : List Access} {close : Access} {bank : UInt8}
      (opened : BitwiseOpening patterns held opening bank)
      (waiting : ∀ a ∈ wait, patterns.selects a.pins = false)
      (closed : patterns.selects close.pins = true) :
      ProtocolWord patterns host held (opening ++ wait ++ [close]) bank
  | additive {opening wait : List Access} {close : Access} {bank : UInt8}
      (opened : AdditiveOpening patterns held opening bank)
      (waiting : ∀ a ∈ wait, patterns.selects a.pins = false)
      (closed : patterns.selects close.pins = true) :
      ProtocolWord patterns host held (opening ++ wait ++ [close]) bank

/-- **A word begun**: the accesses since an enabled moment, and the phase they have led to. -/
inductive Begun (patterns : Patterns) (host : Host) (held : UInt8) :
    List Access → Phase → Prop where
  | enabled : Begun patterns host held [] .enabled
  | alternate1 {x : Access} (first : patterns.alternate.firstHits x.pins = true) :
      Begun patterns host held [x] .alternate1
  | alternate2 {x y : Access} (first : patterns.alternate.firstHits x.pins = true)
      (second : patterns.alternate.second.hits y.pins = true) :
      Begun patterns host held [x, y] .alternate2
  | headless {y : Access} (bus : host.inspected = false)
      (second : patterns.alternate.second.hits y.pins = true) :
      Begun patterns host held [y] .alternate2
  | alternate3 {opening wait : List Access} {bank : UInt8}
      (opened : AlternateOpening patterns.alternate host opening bank)
      (waiting : ∀ a ∈ wait, patterns.alternate.fourth.hits a.pins = false) :
      Begun patterns host held (opening ++ wait) (.alternate3 bank)
  | bitwise1 {bits : BitwisePatterns} {arm : Access} {wait : List Access}
      (scheme : patterns.scheme = .bitwise bits) (armed : bits.arm.hits arm.pins = true)
      (waiting : ∀ a ∈ wait, patterns.selects a.pins = false) :
      Begun patterns host held (arm :: wait) .bitwise1
  | bitwise2 {bits : BitwisePatterns} {arm select : Access} {wait twiddling : List Access}
      (scheme : patterns.scheme = .bitwise bits) (armed : bits.arm.hits arm.pins = true)
      (waiting : ∀ a ∈ wait, patterns.selects a.pins = false)
      (selected : patterns.selects select.pins = true)
      (twiddled : ∀ a ∈ twiddling, bits.escape.hits a.pins = false) :
      Begun patterns host held (arm :: (wait ++ select :: twiddling))
        (.bitwise2 (bits.encoded held (twiddling.map Access.pins))
          (BitwisePatterns.flip (bits.counted (twiddling.map Access.pins)).length))
  | bitwise3 {opening wait : List Access} {bank : UInt8}
      (opened : BitwiseOpening patterns held opening bank)
      (waiting : ∀ a ∈ wait, patterns.selects a.pins = false) :
      Begun patterns host held (opening ++ wait) (.bitwise3 bank)
  | additive1 {adds : AdditivePatterns} {arm : Access} (scheme : patterns.scheme = .additive adds)
      (armed : adds.arm.hits arm.pins = true) :
      Begun patterns host held [arm] .additive1
  | additive2 {adds : AdditivePatterns} {arm confirm : Access} {adding : List Access}
      (scheme : patterns.scheme = .additive adds) (armed : adds.arm.hits arm.pins = true)
      (confirmed : adds.confirm.hits confirm.pins = true)
      (added : ∀ a ∈ adding, adds.escape.hits a.pins = false) :
      Begun patterns host held (arm :: confirm :: adding)
        (.additive2 (adds.encoded held (adding.map Access.pins)))
  | additive3 {opening wait : List Access} {bank : UInt8}
      (opened : AdditiveOpening patterns held opening bank)
      (waiting : ∀ a ∈ wait, patterns.selects a.pins = false) :
      Begun patterns host held (opening ++ wait) (.additive3 bank)

theorem Begun.ne_disabled {patterns : Patterns} {host : Host} {held : UInt8}
    {word : List Access} {phase : Phase} (begun : Begun patterns host held word phase) :
    phase ≠ .disabled := by
  cases begun <;> exact Phase.noConfusion

/-! ## One access more -/

/-- **What a word has become after a move**: complete, still begun, or broken off. -/
def Continues (patterns : Patterns) (host : Host) (held : UInt8) (word : List Access) :
    Move → Prop
  | .go phase => phase = .enabled ∨ Begun patterns host held word phase
  | .commit bank => ProtocolWord patterns host held word bank

section Extend

variable {patterns : Patterns} {host : Host} {held : UInt8} {word : List Access} {a : Access}

/-- A wait goes on. -/
theorem forall_mem_concat {P : Access → Prop} {wait : List Access} (waiting : ∀ b ∈ wait, P b)
    (last : P a) : ∀ b ∈ wait ++ [a], P b := by
  intro b mem
  rcases List.mem_append.mp mem with mem | mem
  · exact waiting b mem
  · rw [List.mem_singleton.mp mem]
    exact last

/-- **An access while twiddling**: a twiddle more, the escape, or noise. -/
theorem Begun.extend_twiddling {bits : BitwisePatterns} (block : bits.InBlock)
    {arm select : Access} {wait twiddling : List Access} {move : Move}
    (scheme : patterns.scheme = .bitwise bits) (armed : bits.arm.hits arm.pins = true)
    (waiting : ∀ a ∈ wait, patterns.selects a.pins = false)
    (selected : patterns.selects select.pins = true)
    (twiddled : ∀ a ∈ twiddling, bits.escape.hits a.pins = false)
    (listed : Transition patterns host held a.pins a.view
      (.bitwise2 (bits.encoded held (twiddling.map Access.pins))
        (BitwisePatterns.flip (bits.counted (twiddling.map Access.pins)).length)) move) :
    Continues patterns host held (arm :: (wait ++ select :: twiddling) ++ [a]) move := by
  have assoc : arm :: (wait ++ select :: twiddling) ++ [a] =
      arm :: (wait ++ select :: (twiddling ++ [a])) := by simp
  rw [assoc]
  cases listed with
  | twiddle scheme' hit =>
    obtain rfl := Scheme.bitwise.inj (scheme.symm.trans scheme')
    obtain ⟨arm_hit, rfl⟩ := block.twiddle?_flip_eq_some_iff.mp hit
    have next : Begun patterns host held _ _ := .bitwise2 scheme armed waiting selected
      (forall_mem_concat twiddled (block.escape_apart.not_hits arm_hit))
    rw [List.map_append, List.map_singleton, BitwisePatterns.encoded_concat_of_hit arm_hit,
      BitwisePatterns.counted_concat_of_hit arm_hit, List.length_append, List.length_singleton,
      BitwisePatterns.flip_succ] at next
    exact .inr next
  | endTwiddling scheme' miss escape =>
    obtain rfl := Scheme.bitwise.inj (scheme.symm.trans scheme')
    have opened : BitwiseOpening patterns held _ _ :=
      .mk scheme armed waiting selected twiddled escape
    rw [← List.append_nil (arm :: _)]
    exact .inr (.bitwise3 opened (List.forall_mem_nil _))
  | keepTwiddling scheme' miss escape =>
    obtain rfl := Scheme.bitwise.inj (scheme.symm.trans scheme')
    have arm_miss := block.twiddle?_flip_eq_none_iff.mp miss
    have next : Begun patterns host held _ _ := .bitwise2 scheme armed waiting selected
      (forall_mem_concat twiddled escape)
    rw [List.map_append, List.map_singleton, BitwisePatterns.encoded_concat_of_miss arm_miss,
      BitwisePatterns.counted_concat_of_miss arm_miss] at next
    exact .inr next
  | foreignTwiddling scheme' => cases scheme.symm.trans scheme'

/-- **An access while adding**: an addition more, or the escape. -/
theorem Begun.extend_adding {adds : AdditivePatterns} {arm confirm : Access}
    {adding : List Access} {move : Move} (scheme : patterns.scheme = .additive adds)
    (armed : adds.arm.hits arm.pins = true) (confirmed : adds.confirm.hits confirm.pins = true)
    (added : ∀ a ∈ adding, adds.escape.hits a.pins = false)
    (listed : Transition patterns host held a.pins a.view
      (.additive2 (adds.encoded held (adding.map Access.pins))) move) :
    Continues patterns host held (arm :: confirm :: adding ++ [a]) move := by
  have sum : adds.encoded held ((adding ++ [a]).map Access.pins) =
      adds.add (adds.encoded held (adding.map Access.pins)) a.pins := by
    rw [List.map_append, List.map_singleton, AdditivePatterns.encoded_concat]
  cases listed with
  | endAdding scheme' escape =>
    obtain rfl := Scheme.additive.inj (scheme.symm.trans scheme')
    have opened : AdditiveOpening patterns held _ _ := .mk scheme armed confirmed added escape
    rw [sum] at opened
    rw [← List.append_nil (arm :: _ ++ _)]
    exact .inr (.additive3 opened (List.forall_mem_nil _))
  | keepAdding scheme' escape =>
    obtain rfl := Scheme.additive.inj (scheme.symm.trans scheme')
    have next : Begun patterns host held _ _ := .additive2 scheme armed confirmed
      (forall_mem_concat added escape)
    rw [sum] at next
    exact .inr next
  | foreignAdding scheme' => cases scheme.symm.trans scheme'

/-- The opening of an alternate sequence, just made. -/
theorem Begun.of_alternateOpening {opening : List Access} {bank : UInt8}
    (opened : AlternateOpening patterns.alternate host opening bank) :
    Begun patterns host held opening (.alternate3 bank) := by
  rw [← List.append_nil opening]
  exact .alternate3 opened (List.forall_mem_nil _)

/-- **One access more**: a word begun stays begun, is completed, or is broken off. -/
theorem Begun.extend {phase : Phase} {move : Move}
    (inBlock : ∀ bits, patterns.scheme = .bitwise bits → bits.InBlock) (held_le : held ≤ 3)
    (begun : Begun patterns host held word phase)
    (listed : Transition patterns host held a.pins a.view phase move) :
    Continues patterns host held (word ++ [a]) move := by
  cases begun with
  | enabled =>
    cases listed with
    | armBitwise scheme arm => exact .inr (.bitwise1 scheme arm (List.forall_mem_nil _))
    | armAdditive scheme arm => exact .inr (.additive1 scheme arm)
    | first _ first => exact .inr (.alternate1 first)
    | headless _ _ second bus => exact .inr (.headless bus second)
    | recover _ _ second inspected found =>
      obtain ⟨⟨first, opcode, third⟩, rfl⟩ := AlternatePatterns.recover?_eq_some_iff.mp found
      exact .inr (.of_alternateOpening (.inspected inspected second first opcode third))
    | refuse => exact .inl rfl
    | select _ _ _ select => exact .simple (Patterns.select_of_bankFor? select).symm
    | pass => exact .inl rfl
  | alternate1 first =>
    cases listed with
    | second second => exact .inr (.alternate2 first second)
    | noSecond => exact .inl rfl
  | alternate2 first second =>
    cases listed with
    | third third => exact .inr (.of_alternateOpening (.full first second third))
    | noThird => exact .inl rfl
  | headless bus second =>
    cases listed with
    | third third => exact .inr (.of_alternateOpening (.headless bus second third))
    | noThird => exact .inl rfl
  | alternate3 opened waiting =>
    cases listed with
    | fourth fourth => exact .alternate opened waiting fourth
    | awaitFourth fourth =>
      rw [List.append_assoc]
      exact .inr (.alternate3 opened (forall_mem_concat waiting fourth))
  | bitwise1 scheme armed waiting =>
    cases listed with
    | beginTwiddling select =>
      exact .inr (.bitwise2 scheme armed waiting select (List.forall_mem_nil _))
    | awaitTwiddling select =>
      exact .inr (.bitwise1 scheme armed (forall_mem_concat waiting select))
  | bitwise2 scheme armed waiting selected twiddled =>
    exact Begun.extend_twiddling (inBlock _ scheme) scheme armed waiting selected twiddled listed
  | bitwise3 opened waiting =>
    cases listed with
    | selectTwiddled select => exact .bitwise opened waiting select
    | awaitTwiddled select =>
      rw [List.append_assoc]
      exact .inr (.bitwise3 opened (forall_mem_concat waiting select))
  | additive1 scheme armed =>
    cases listed with
    | confirm scheme' confirm =>
      obtain rfl := Scheme.additive.inj (scheme.symm.trans scheme')
      have next : Begun patterns host held _ _ :=
        .additive2 scheme armed confirm (List.forall_mem_nil _)
      rw [List.map_nil, AdditivePatterns.encoded_nil _ held_le] at next
      exact .inr next
    | noConfirm => exact .inl rfl
  | additive2 scheme armed confirmed added =>
    exact Begun.extend_adding scheme armed confirmed added listed
  | additive3 opened waiting =>
    cases listed with
    | selectAdded select => exact .additive opened waiting select
    | awaitAdded select =>
      rw [List.append_assoc]
      exact .inr (.additive3 opened (forall_mem_concat waiting select))

end Extend

end Slapstic
