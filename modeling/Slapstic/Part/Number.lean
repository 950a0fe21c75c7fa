import Slapstic.Text.Numeral
import Slapstic.Text.Quoted

/-!
# Part/Number — the seventeen part numbers

A slapstic is known by the last three digits of its package's number, from 101 to 118.  No board
with a 102 has turned up, which leaves seventeen **parts**; `PartNumber.ofNumber` sorts a number
into them or says what is wrong with it.

* `PartNumber.mem_all` — the list `PartNumber.all` misses no part, so a statement about all parts is
  one about seventeen of them (`PartNumber.decidableForall`).
* `PartNumber.ofNumber_number` — a part's own number gives the part back.
-/

namespace Slapstic

/-- What is printed before the part number on every package. -/
def packageSeries : String := "137412-"

/-- **Why there is no such part.** -/
inductive PartError where
  /-- The number lies outside the series. -/
  | unknown (number : UInt16)
  /-- The number lies in the series and has never been found on a board. -/
  | reserved (number : UInt16)
  /-- The text is no part number. -/
  | malformed (text : String)
  deriving DecidableEq

/-- The wording of an error. -/
def PartError.message : PartError → String
  | unknown number => "unknown slapstic number: " ++ Text.decimal number.toNat
  | reserved number =>
    "slapstic " ++ packageSeries ++ Text.decimal number.toNat ++ " has never been seen"
  | malformed text => "malformed slapstic part number: " ++ Text.quoted text

/-- **A part number**: one of 101 to 118, and not 102. -/
structure PartNumber where
  number : UInt16
  known : (101 ≤ number ∧ number ≤ 118) ∧ number ≠ 102
  deriving DecidableEq

namespace PartNumber

@[ext] theorem ext {p q : PartNumber} (h : p.number = q.number) : p = q := by
  cases p; cases q; cases h; rfl

/-- **The part with the given number.** -/
def ofNumber (number : UInt16) : Except PartError PartNumber :=
  if inSeries : 101 ≤ number ∧ number ≤ 118 then
    if seen : number ≠ 102 then .ok ⟨number, inSeries, seen⟩ else .error (.reserved number)
  else .error (.unknown number)

/-- A part's number gives the part. -/
@[simp] theorem ofNumber_number (part : PartNumber) : ofNumber part.number = .ok part := by
  rw [ofNumber, dif_pos part.known.1, dif_pos part.known.2]

theorem number_of_ofNumber {number : UInt16} {part : PartNumber}
    (h : ofNumber number = .ok part) : part.number = number := by
  unfold ofNumber at h
  split at h
  · split at h
    · cases h; rfl
    · cases h
  · cases h

/-- The name printed on the package. -/
def name (part : PartNumber) : String := packageSeries ++ Text.decimal part.number.toNat

/-! ## Counting the parts -/

/-- The part's place in the series: 101 comes first, and the gap at 102 takes no place. -/
def index (part : PartNumber) : Fin 17 :=
  ⟨if part.number = 101 then 0 else part.number.toNat - 102, by
    have low := UInt16.le_iff_toNat_le.mp part.known.1.1
    have high := UInt16.le_iff_toNat_le.mp part.known.1.2
    simp only [UInt16.reduceToNat] at low high
    split <;> omega⟩

/-- The part at a place in the series. -/
def ofIndex (i : Fin 17) : PartNumber :=
  ⟨if i = 0 then 101 else UInt16.ofNat (i + 102), by revert i; decide⟩

@[simp] theorem ofIndex_index (part : PartNumber) : ofIndex part.index = part := by
  apply ext
  have low := UInt16.le_iff_toNat_le.mp part.known.1.1
  have high := UInt16.le_iff_toNat_le.mp part.known.1.2
  have gap : part.number.toNat ≠ 102 := fun h => part.known.2 (UInt16.toNat_inj.mp h)
  simp only [UInt16.reduceToNat] at low high
  apply UInt16.toNat_inj.mp
  by_cases first : part.number = 101
  · simp [ofIndex, index, first]
  · have : part.number.toNat ≠ 101 := fun h => first (UInt16.toNat_inj.mp h)
    simp only [ofIndex, index, first, if_false, Fin.ext_iff]
    rw [if_neg (by simp; omega)]
    simp
    omega

/-- **All parts**, in the order of their numbers. -/
def all : List PartNumber := (List.finRange 17).map ofIndex

theorem mem_all (part : PartNumber) : part ∈ all :=
  List.mem_map.mpr ⟨part.index, List.mem_finRange _, ofIndex_index part⟩

/-- A decidable statement about parts can be decided for all of them. -/
instance decidableForall (P : PartNumber → Prop) [DecidablePred P] : Decidable (∀ part, P part) :=
  decidable_of_iff (∀ part ∈ all, P part)
    ⟨fun listed part => listed part (mem_all part), fun always part _ => always part⟩

end PartNumber

end Slapstic
