import Slapstic.Proofs.Serial.RoundTrip
import Slapstic.Proofs.Text.Blank
import Slapstic.Proofs.Text.Numeral

/-!
# Proofs/Part/Label — which texts are part numbers

A label **denotes** a number if it is blanks, the package's series or nothing, a plus sign or
nothing, the digits of the number, and blanks (`Denotes`).  No character but a digit is a digit, and
none of the others is a blank, so a label comes apart in one way only; what is left of it without
the blanks, the series and the sign are its digits (`ofDecimal?_labelDigits_eq_some_iff`).  By the
number that a label denotes it is sorted into the parts and the errors (`ofLabel_sorts`).
-/

namespace Slapstic

namespace PartNumber

/-! ## Labels -/

/-- **A label denotes a number.** -/
inductive Denotes : String → Nat → Prop where
  | intro {before series sign digits after : List Char}
      (blank_before : ∀ c ∈ before, Text.isBlank c = true)
      (series_eq : series = [] ∨ series = packageSeries.toList)
      (sign_eq : sign = [] ∨ sign = ['+'])
      (nonempty : digits ≠ [])
      (all_digits : ∀ c ∈ digits, c.isDigit = true)
      (blank_after : ∀ c ∈ after, Text.isBlank c = true) :
      Denotes (String.ofList (before ++ (series ++ sign ++ digits) ++ after))
        (Nat.ofDigitChars 10 digits 0)

theorem isBlank_eq_false_of_isDigit {c : Char} (digit : c.isDigit = true) :
    Text.isBlank c = false := by
  obtain ⟨low, high⟩ := Char.isDigit_iff_toNat.mp digit
  simp only [Char.reduceToNat] at low high
  rw [Bool.eq_false_iff, Text.isBlank, ne_eq, Text.Ranges.has_eq_true_iff]
  rintro ⟨range, mem, within⟩
  simp only [Text.blanks, List.mem_cons, List.not_mem_nil, or_false] at mem
  rcases mem with rfl | rfl | rfl | rfl | rfl | rfl | rfl | rfl | rfl | rfl <;>
    dsimp only at within <;> omega

/-- The series of a package and the plus sign have no blanks either. -/
theorem isBlank_eq_false_of_mem {series sign digits : List Char}
    (series_eq : series = [] ∨ series = packageSeries.toList) (sign_eq : sign = [] ∨ sign = ['+'])
    (all_digits : ∀ c ∈ digits, c.isDigit = true) :
    ∀ c ∈ series ++ sign ++ digits, Text.isBlank c = false := by
  have solid_series : packageSeries.toList.all (fun c => !Text.isBlank c) = true := rfl
  intro c mem
  simp only [List.mem_append] at mem
  rcases mem with (mem | mem) | mem
  · rcases series_eq with rfl | rfl
    · cases mem
    · simpa using List.all_eq_true.mp solid_series c mem
  · rcases sign_eq with rfl | rfl
    · cases mem
    · obtain rfl := List.mem_singleton.mp mem
      decide
  · exact isBlank_eq_false_of_isDigit (all_digits c mem)

/-! ## Taking a label apart -/

/-- A text with its series taken off, if it has one. -/
theorem exists_series (text : List Char) :
    ∃ series, (series = [] ∨ series = packageSeries.toList) ∧
      text = series ++ (packageSeries.toList.isPrefixOf? text).getD text := by
  cases found : packageSeries.toList.isPrefixOf? text with
  | none => exact ⟨[], .inl rfl, rfl⟩
  | some rest => exact ⟨_, .inr rfl, (List.isPrefixOf?_eq_some_iff_append_eq.mp found).symm⟩

/-- **What is taken off a label**: blanks, the series and the sign, and nothing else. -/
theorem exists_labelDigits (label : List Char) :
    ∃ before series sign after, label = before ++ (series ++ sign ++ labelDigits label) ++ after ∧
      (∀ c ∈ before, Text.isBlank c = true) ∧ (series = [] ∨ series = packageSeries.toList) ∧
      (sign = [] ∨ sign = ['+']) ∧ ∀ c ∈ after, Text.isBlank c = true := by
  obtain ⟨before, after, trimmed, blank_before, blank_after⟩ := Text.exists_trim label
  obtain ⟨series, series_eq, unsigned⟩ := exists_series (Text.trim label)
  suffices signed : ∃ sign : List Char, (sign = [] ∨ sign = ['+']) ∧
      (packageSeries.toList.isPrefixOf? (Text.trim label)).getD (Text.trim label) =
        sign ++ labelDigits label by
    obtain ⟨sign, sign_eq, digits⟩ := signed
    refine ⟨before, series, sign, after, ?_, blank_before, series_eq, sign_eq, blank_after⟩
    rw [List.append_assoc series, ← digits, ← unsigned, ← trimmed]
  unfold labelDigits
  dsimp only
  split
  next digits eq => exact ⟨['+'], .inr rfl, eq⟩
  next => exact ⟨[], .inl rfl, rfl⟩

/-- The series ends in a dash, so it is not taken off a text without one. -/
theorem isPrefixOf?_series_eq_none {text : List Char} (dash : '-' ∉ text) :
    packageSeries.toList.isPrefixOf? text = none := by
  cases found : packageSeries.toList.isPrefixOf? text with
  | none => rfl
  | some rest =>
    refine absurd ?_ dash
    rw [← List.isPrefixOf?_eq_some_iff_append_eq.mp found]
    exact List.mem_append_left _ (by decide)

/-- **Of a label in its parts the digits are left.** -/
theorem labelDigits_append {before series sign digits after : List Char}
    (blank_before : ∀ c ∈ before, Text.isBlank c = true)
    (series_eq : series = [] ∨ series = packageSeries.toList) (sign_eq : sign = [] ∨ sign = ['+'])
    (nonempty : digits ≠ []) (all_digits : ∀ c ∈ digits, c.isDigit = true)
    (blank_after : ∀ c ∈ after, Text.isBlank c = true) :
    labelDigits (before ++ (series ++ sign ++ digits) ++ after) = digits := by
  have trimmed : Text.trim (before ++ (series ++ sign ++ digits) ++ after) =
      series ++ (sign ++ digits) := by
    rw [← List.append_assoc series]
    exact Text.trim_append blank_before blank_after
      (isBlank_eq_false_of_mem series_eq sign_eq all_digits) (by simp [nonempty])
  have dash : '-' ∉ sign ++ digits := by
    refine List.not_mem_append ?_ fun mem => absurd (all_digits _ mem) (by decide)
    rcases sign_eq with rfl | rfl <;> decide
  have unsigned : (packageSeries.toList.isPrefixOf? (series ++ (sign ++ digits))).getD
      (series ++ (sign ++ digits)) = sign ++ digits := by
    rcases series_eq with rfl | rfl
    · rw [List.nil_append, isPrefixOf?_series_eq_none dash, Option.getD_none]
    · rw [List.isPrefixOf?_eq_some_iff_append_eq.mpr rfl, Option.getD_some]
  unfold labelDigits
  dsimp only
  rw [trimmed, unsigned]
  obtain ⟨c, rest, rfl⟩ := List.exists_cons_of_ne_nil nonempty
  rcases sign_eq with rfl | rfl
  · split
    next eq =>
      obtain rfl := (List.cons.inj eq).1
      exact absurd (all_digits _ List.mem_cons_self) (by decide)
    next => rfl
  · rfl

/-- **The digits of a label denote the number that the label denotes.** -/
theorem ofDecimal?_labelDigits_eq_some_iff {label : String} {n : Nat} :
    Text.ofDecimal? (labelDigits label.toList) = some n ↔ Denotes label n := by
  rw [Text.ofDecimal?_eq_some_iff]
  constructor
  · rintro ⟨nonempty, all_digits, rfl⟩
    obtain ⟨before, series, sign, after, eq, blank_before, series_eq, sign_eq, blank_after⟩ :=
      exists_labelDigits label.toList
    have denotes := Denotes.intro blank_before series_eq sign_eq nonempty all_digits blank_after
    rwa [← eq, String.ofList_toList] at denotes
  · rintro ⟨blank_before, series_eq, sign_eq, nonempty, all_digits, blank_after⟩
    rw [String.toList_ofList,
      labelDigits_append blank_before series_eq sign_eq nonempty all_digits blank_after]
    exact ⟨nonempty, all_digits, rfl⟩

/-- **A label denotes one number at most.** -/
theorem Denotes.unique {label : String} {m n : Nat} (first : Denotes label m)
    (second : Denotes label n) : m = n :=
  Option.some.inj ((ofDecimal?_labelDigits_eq_some_iff.mpr first).symm.trans
    (ofDecimal?_labelDigits_eq_some_iff.mpr second))

/-! ## Sorting numbers -/

theorem ofNumber_eq_ok_iff {number : UInt16} {part : PartNumber} :
    ofNumber number = .ok part ↔ number = part.number :=
  ⟨fun ok => (number_of_ofNumber ok).symm, fun eq => eq ▸ ofNumber_number part⟩

theorem ofNumber_eq_error_iff {number : UInt16} {error : PartError} :
    ofNumber number = .error error ↔
      ¬ (101 ≤ number ∧ number ≤ 118) ∧ error = .unknown number ∨
        number = 102 ∧ error = .reserved 102 := by
  have reserved_inSeries : (101 : UInt16) ≤ 102 ∧ (102 : UInt16) ≤ 118 := by decide
  unfold ofNumber
  split
  next inSeries =>
    split
    next seen => simp [inSeries, seen]
    next seen =>
      obtain rfl := not_not.mp seen
      simp [reserved_inSeries, eq_comm]
  next outside =>
    have ne : number ≠ 102 := by
      rintro rfl
      exact outside reserved_inSeries
    simp [outside, ne, eq_comm]

/-- **The numbers of the parts.** -/
theorem exists_toNat_number_eq_iff {n : Nat} :
    (∃ part : PartNumber, part.number.toNat = n) ↔ (101 ≤ n ∧ n ≤ 118) ∧ n ≠ 102 := by
  constructor
  · rintro ⟨part, rfl⟩
    obtain ⟨⟨low, high⟩, seen⟩ := part.known
    exact ⟨⟨UInt16.le_iff_toNat_le.mp low, UInt16.le_iff_toNat_le.mp high⟩,
      fun eq => seen (UInt16.toNat_inj.mp eq)⟩
  · rintro ⟨⟨low, high⟩, seen⟩
    have fits : n < UInt16.size := high.trans_lt (by decide)
    have toNat_eq : (UInt16.ofNat n).toNat = n := UInt16.toNat_ofNat_of_lt' fits
    refine ⟨⟨UInt16.ofNat n, ⟨?_, ?_⟩, fun eq => seen ?_⟩, toNat_eq⟩
    · rw [UInt16.le_iff_toNat_le, toNat_eq]
      exact low
    · rw [UInt16.le_iff_toNat_le, toNat_eq]
      exact high
    · rw [← toNat_eq, eq]
      rfl

/-! ## Sorting labels -/

theorem labelNumber?_eq_some_iff {label : String} {number : UInt16} :
    labelNumber? label.toList = some number ↔ Denotes label number.toNat := by
  rw [← ofDecimal?_labelDigits_eq_some_iff, labelNumber?]
  cases Text.ofDecimal? (labelDigits label.toList) with
  | none => simp
  | some n =>
    dsimp only
    rw [Option.some_inj]
    split
    next fits =>
      rw [Option.some_inj, ← UInt16.toNat_inj, UInt16.toNat_ofNat_of_lt' fits]
    next large =>
      have := number.toNat_lt
      exact iff_of_false nofun (by omega)

/-- A label that denotes a number is sorted like it. -/
theorem ofLabel_of_denotes {label : String} {number : UInt16}
    (denotes : Denotes label number.toNat) : ofLabel label = ofNumber number := by
  rw [ofLabel, labelNumber?_eq_some_iff.mpr denotes]

/-- **A label that denotes no number of sixteen bits is malformed**, and the error keeps it. -/
theorem ofLabel_of_not_denotes {label : String}
    (none : ∀ number : UInt16, ¬ Denotes label number.toNat) :
    ofLabel label = .error (.malformed label) := by
  rw [ofLabel, Option.eq_none_iff_forall_ne_some.mpr fun number found =>
    none number (labelNumber?_eq_some_iff.mp found)]

/-- **A label names a part** exactly if it denotes the part's number. -/
theorem ofLabel_eq_ok_iff {label : String} {part : PartNumber} :
    ofLabel label = .ok part ↔ Denotes label part.number.toNat := by
  constructor
  · intro ok
    by_cases found : ∃ number : UInt16, Denotes label number.toNat
    · obtain ⟨number, denotes⟩ := found
      rw [ofLabel_of_denotes denotes] at ok
      rwa [← ofNumber_eq_ok_iff.mp ok]
    · rw [ofLabel_of_not_denotes (not_exists.mp found)] at ok
      cases ok
  · intro denotes
    rw [ofLabel_of_denotes denotes, ofNumber_number]

theorem ofLabel_eq_error_iff {label : String} {error : PartError} :
    ofLabel label = .error error ↔
      (∃ number : UInt16, Denotes label number.toNat ∧ ofNumber number = .error error) ∨
        (∀ number : UInt16, ¬ Denotes label number.toNat) ∧ error = .malformed label := by
  by_cases found : ∃ number : UInt16, Denotes label number.toNat
  · obtain ⟨number, denotes⟩ := found
    have only : ∀ other : UInt16, Denotes label other.toNat → other = number :=
      fun _ other => UInt16.toNat_inj.mp (other.unique denotes)
    rw [ofLabel_of_denotes denotes]
    constructor
    · exact fun failed => .inl ⟨number, denotes, failed⟩
    · rintro (⟨other, other_denotes, failed⟩ | ⟨none, -⟩)
      · rwa [← only other other_denotes]
      · exact absurd denotes (none number)
  · have none := not_exists.mp found
    rw [ofLabel_of_not_denotes none, Except.error.injEq, eq_comm]
    exact ⟨fun eq => .inr ⟨none, eq⟩, fun
      | .inl ⟨number, denotes, _⟩ => absurd denotes (none number)
      | .inr ⟨_, eq⟩ => eq⟩

/-! ## The two ways to write a part -/

/-- The digits of a number denote it, with the series in front or without. -/
theorem denotes_decimal (n : Nat) :
    Denotes (Text.decimal n) n ∧ Denotes (packageSeries ++ Text.decimal n) n := by
  have all_digits : ∀ c ∈ Nat.toDigits 10 n, c.isDigit = true :=
    fun c mem => Nat.isDigit_of_mem_toDigits (by decide) (by decide) mem
  have denotes (series : List Char) (series_eq : series = [] ∨ series = packageSeries.toList) :
      Denotes (String.ofList series ++ Text.decimal n) n := by
    have spelled := Denotes.intro (List.forall_mem_nil _) series_eq (.inl rfl) Nat.toDigits_ne_nil
      all_digits (List.forall_mem_nil _)
    rwa [Nat.ofDigitChars_ten_toDigits, List.nil_append, List.append_nil, List.append_nil,
      String.ofList_append] at spelled
  refine ⟨?_, ?_⟩
  · simpa using denotes [] (.inl rfl)
  · simpa using denotes packageSeries.toList (.inr rfl)

/-! ## Labels in JSON -/

/-- The number that a label denotes, as JSON, if it has sixteen bits. -/
theorem ofJson_nat {n : Nat} (fits : n < 65536) :
    ofJson (.nat n) = (ofNumber (UInt16.ofNat n)).mapError .part := by
  change (Json.nat n).toWord.bind _ = _
  rw [Json.toWord, Json.toNatBelow_nat fits]
  rfl

/-- No larger number is a part. -/
theorem ofJson_nat_of_le {n : Nat} (large : 65536 ≤ n) : ofJson (.nat n) = .error .malformed := by
  have malformed : (Json.nat n).toNatBelow 65536 = .error .malformed :=
    if_neg (Nat.not_lt.mpr large)
  change (Json.nat n).toWord.bind _ = _
  rw [Json.toWord, malformed]
  rfl

/-- **A label reads as the number that it denotes**, errors included. -/
theorem ofJson_str_of_denotes {label : String} {n : Nat} (denotes : Denotes label n)
    (fits : n < 65536) : ofJson (.str label) = ofJson (.nat n) := by
  rw [← UInt16.toNat_ofNat_of_lt' (n := n) fits] at denotes
  rw [ofJson_nat fits, ← ofLabel_of_denotes denotes]
  rfl

theorem ofJson_str_eq_ok_iff {label : String} {part : PartNumber} :
    ofJson (.str label) = .ok part ↔ Denotes label part.number.toNat := by
  rw [← ofLabel_eq_ok_iff]
  change (ofLabel label).mapError DecodeError.part = _ ↔ _
  cases ofLabel label <;> simp [Except.mapError]

/-- **Labels are sorted by the number that they denote.**  A label names a part if it denotes one of
101 to 118 but 102; if it denotes 102 it is reserved, and if it denotes another number of sixteen
bits, unknown; any other label is malformed, and the error keeps it as it is.  So the digits of a
part's number and its name both name it, and a JSON string reads as the JSON integer that it
denotes. -/
theorem ofLabel_sorts :
    (∀ label n, (∃ part, ofLabel label = .ok part ∧ part.number.toNat = n) ↔
      Denotes label n ∧ (101 ≤ n ∧ n ≤ 118) ∧ n ≠ 102) ∧
    (∀ label number, ofLabel label = .error (.reserved number) ↔
      Denotes label 102 ∧ number = 102) ∧
    (∀ label number, ofLabel label = .error (.unknown number) ↔
      Denotes label number.toNat ∧ ¬ (101 ≤ number ∧ number ≤ 118)) ∧
    (∀ label text, ofLabel label = .error (.malformed text) ↔
      (∀ n, n ≤ 65535 → ¬ Denotes label n) ∧ text = label) ∧
    (∀ part : PartNumber, ofLabel (Text.decimal part.number.toNat) = .ok part ∧
      ofLabel part.name = .ok part) ∧
    ∀ label n, Denotes label n →
      (n ≤ 65535 → ofJson (.str label) = ofJson (.nat n)) ∧
        ∀ part, ofJson (.str label) = .ok part ↔ ofJson (.nat n) = .ok part := by
  refine ⟨fun label n => ?_, fun label number => ?_, fun label number => ?_, fun label text => ?_,
    fun part => ?_, fun label n denotes => ?_⟩
  · simp only [ofLabel_eq_ok_iff, ← exists_toNat_number_eq_iff]
    constructor
    · rintro ⟨part, denotes, rfl⟩
      exact ⟨denotes, part, rfl⟩
    · rintro ⟨denotes, part, rfl⟩
      exact ⟨part, denotes, rfl⟩
  · simp only [ofLabel_eq_error_iff, ofNumber_eq_error_iff, PartError.reserved.injEq, reduceCtorEq,
      and_false, false_or, or_false]
    constructor
    · rintro ⟨_, denotes, rfl, rfl⟩
      exact ⟨denotes, rfl⟩
    · rintro ⟨denotes, rfl⟩
      exact ⟨102, denotes, rfl, rfl⟩
  · simp only [ofLabel_eq_error_iff, ofNumber_eq_error_iff, PartError.unknown.injEq, reduceCtorEq,
      and_false, or_false]
    constructor
    · rintro ⟨_, denotes, outside, rfl⟩
      exact ⟨denotes, outside⟩
    · rintro ⟨denotes, outside⟩
      exact ⟨number, denotes, outside, rfl⟩
  · simp only [ofLabel_eq_error_iff, ofNumber_eq_error_iff, PartError.malformed.injEq, reduceCtorEq,
      and_false, or_self, exists_false, false_or]
    refine and_congr_left fun _ => ⟨fun none n le denotes => ?_, fun none number => ?_⟩
    · refine none (UInt16.ofNat n) ?_
      rwa [UInt16.toNat_ofNat_of_lt' (Nat.lt_succ_of_le le)]
    · exact none number.toNat (Nat.le_of_lt_succ number.toNat_lt)
  · exact ⟨ofLabel_eq_ok_iff.mpr (denotes_decimal _).1, ofLabel_eq_ok_iff.mpr (denotes_decimal _).2⟩
  · have read := ofJson_str_of_denotes denotes
    refine ⟨fun le => read (Nat.lt_succ_of_le le), fun part => ?_⟩
    rcases Nat.lt_or_ge n 65536 with fits | large
    · rw [read fits]
    · rw [ofJson_nat_of_le large, ofJson_str_eq_ok_iff]
      have := part.number.toNat_lt
      exact iff_of_false (fun named => by have := named.unique denotes; omega) nofun

/-- All that may stand around the digits of a part. -/
theorem ofLabel_sorts_blanks_and_zeros :
    let label := "\u3000\n137412-+000104\u00a0"
    (Denotes label 104 ∧ 104 ≤ 65535) ∧ ofJson (.str label) = ofJson (.nat 104) := by
  intro label
  have denotes : Denotes label 104 :=
    @Denotes.intro ['\u3000', '\n'] packageSeries.toList ['+'] ['0', '0', '0', '1', '0', '4']
      ['\u00a0'] (List.all_eq_true.mp rfl) (.inr rfl) (.inr rfl) (by decide)
      (List.all_eq_true.mp rfl) (List.all_eq_true.mp rfl)
  exact ⟨⟨denotes, by decide⟩, (ofLabel_sorts.2.2.2.2.2 label 104 denotes).1 (by decide)⟩

end PartNumber

end Slapstic
