import Mathlib.Tactic
import Slapstic.Proofs.Text.Numeral
import Slapstic.Chip.TraceLine

/-!
# Proofs/Chip/TraceLine — a trace line falls apart at its blanks

The parts of a trace line are alphanumeric but for an equals sign, so its blanks cut it into exactly
three words (`TraceLine.splitOn_text`).  Whatever stands before it on a line, the last three words
of the line are its own, and they show the address, the bank and the phase but for what the phase
holds back (`TraceLine.text_eq_iff`).
-/

namespace Slapstic

theorem Phase.notMem_name {c : Char} (mark : c.isAlphanum = false) (phase : Phase) :
    c ∉ phase.name.toList := by
  intro mem
  have all : phase.name.toList.all Char.isAlphanum = true := by
    cases phase <;> simp only [name] <;> decide
  exact Bool.false_ne_true (mark.symm.trans (List.all_eq_true.mp all c mem))

namespace TraceLine

/-- The word that gives the bank. -/
def bankWord (line : TraceLine) : List Char := 'B' :: '=' :: (Text.decimal line.bank.toNat).toList

theorem toList_text (line : TraceLine) : line.text.toList =
    (Text.hexWord line.address).toList ++
      ' ' :: (line.bankWord ++ ' ' :: line.phase.name.toList) := by
  simp [text, bankWord]

theorem notMem_bankWord {c : Char} (mark : c.isAlphanum = false) (ne : c ≠ '=')
    (line : TraceLine) : c ∉ line.bankWord := by
  have letter : c ≠ 'B' := by
    rintro rfl
    exact Bool.false_ne_true mark.symm
  exact List.not_mem_cons_of_ne_of_not_mem letter
    (List.not_mem_cons_of_ne_of_not_mem ne (Text.notMem_decimal mark _))

/-- **The words of a trace line.** -/
theorem splitOn_text (line : TraceLine) : line.text.toList.splitOn ' ' =
    [(Text.hexWord line.address).toList, line.bankWord, line.phase.name.toList] := by
  rw [toList_text, List.splitOn_append_cons_self_of_not_mem (Text.notMem_hexWord rfl _),
    List.splitOn_append_cons_self_of_not_mem (line.notMem_bankWord rfl (by decide)),
    List.splitOn_eq_singleton (line.phase.notMem_name rfl)]

theorem newline_notMem_text (line : TraceLine) : '\n' ∉ line.text.toList := by
  rw [toList_text]
  simp only [List.mem_append, List.mem_cons, not_or]
  exact ⟨Text.notMem_hexWord rfl _, by decide, line.notMem_bankWord rfl (by decide), by decide,
    line.phase.notMem_name rfl⟩

variable {line line' : TraceLine}

theorem bankWord_eq_iff : line.bankWord = line'.bankWord ↔ line.bank = line'.bank := by
  simp only [bankWord, List.cons.injEq, true_and, String.toList_inj, Text.decimal_injective.eq_iff,
    UInt8.toNat_inj]

/-- **The words of a trace line show** the address, the bank and the name of the phase. -/
theorem splitOn_text_eq_iff : line.text.toList.splitOn ' ' = line'.text.toList.splitOn ' ' ↔
    line.address = line'.address ∧ line.bank = line'.bank ∧
      line.phase.name = line'.phase.name := by
  simp only [splitOn_text, List.cons.injEq, and_true, bankWord_eq_iff, String.toList_inj,
    Text.hexWord_injective.eq_iff]

theorem text_eq_iff : line.text = line'.text ↔
    line.address = line'.address ∧ line.bank = line'.bank ∧
      line.phase.name = line'.phase.name := by
  refine ⟨fun eq => splitOn_text_eq_iff.mp (by rw [eq]), fun ⟨address, bank, name⟩ => ?_⟩
  rw [text, address, bank, name, text]

end TraceLine

end Slapstic
