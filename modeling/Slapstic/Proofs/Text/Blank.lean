import Mathlib.Tactic
import Slapstic.Text.Blank

/-!
# Proofs/Text/Blank — what trimming drops, and what it leaves

Trimming drops blanks at the two ends and nothing else (`exists_trim`), and it drops all of them: a
word without blanks comes out of any blanks around it as it is (`trim_append`).
-/

namespace Slapstic.Text

/-- The blanks that trimming drops on the left. -/
theorem exists_trimLeft (text : List Char) :
    ∃ before, text = before ++ trimLeft text ∧ ∀ c ∈ before, isBlank c = true :=
  ⟨text.takeWhile isBlank, List.takeWhile_append_dropWhile.symm,
    List.all_eq_true.mp List.all_takeWhile⟩

/-- …and on the right. -/
theorem exists_trimRight (text : List Char) :
    ∃ after, text = trimRight text ++ after ∧ ∀ c ∈ after, isBlank c = true := by
  obtain ⟨before, eq, blank⟩ := exists_trimLeft text.reverse
  refine ⟨before.reverse, ?_, fun c mem => blank c (List.mem_reverse.mp mem)⟩
  rw [trimRight, ← List.reverse_append]
  exact List.reverse_eq_iff.mp eq

/-- **Trimming drops blanks at the ends and nothing else.** -/
theorem exists_trim (text : List Char) :
    ∃ before after, text = before ++ trim text ++ after ∧
      (∀ c ∈ before, isBlank c = true) ∧ ∀ c ∈ after, isBlank c = true := by
  obtain ⟨before, left, blank_before⟩ := exists_trimLeft text
  obtain ⟨after, right, blank_after⟩ := exists_trimRight (trimLeft text)
  refine ⟨before, after, ?_, blank_before, blank_after⟩
  rw [trim, List.append_assoc, ← right, ← left]

/-- Where blanks end, dropping them stops. -/
theorem dropWhile_append_word {before word rest : List Char}
    (blank : ∀ c ∈ before, isBlank c = true) (solid : ∀ c ∈ word, isBlank c = false)
    (nonempty : word ≠ []) :
    (before ++ (word ++ rest)).dropWhile isBlank = word ++ rest := by
  obtain ⟨c, more, rfl⟩ := List.exists_cons_of_ne_nil nonempty
  have head : isBlank c = false := solid c List.mem_cons_self
  rw [List.dropWhile_append_of_pos blank, List.cons_append,
    List.dropWhile_cons_of_neg (Bool.eq_false_iff.mp head)]

/-- **A word comes out of the blanks around it.** -/
theorem trim_append {before word after : List Char} (blank_before : ∀ c ∈ before, isBlank c = true)
    (blank_after : ∀ c ∈ after, isBlank c = true) (solid : ∀ c ∈ word, isBlank c = false)
    (nonempty : word ≠ []) : trim (before ++ word ++ after) = word := by
  have left : trimLeft (before ++ word ++ after) = word ++ after := by
    rw [trimLeft, List.append_assoc, dropWhile_append_word blank_before solid nonempty]
  have right : (after.reverse ++ (word.reverse ++ [])).dropWhile isBlank = word.reverse ++ [] :=
    dropWhile_append_word (fun c mem => blank_after c (List.mem_reverse.mp mem))
      (fun c mem => solid c (List.mem_reverse.mp mem)) (by simpa using nonempty)
  rw [List.append_nil] at right
  rw [trim, left, trimRight, List.reverse_append, right, List.reverse_reverse]

end Slapstic.Text
