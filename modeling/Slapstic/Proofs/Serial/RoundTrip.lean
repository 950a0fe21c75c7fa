import Mathlib.Tactic
import Slapstic.Serial.Chip

/-!
# Proofs/Serial/RoundTrip — what is written as JSON reads back

One lemma for each kind of value: reading its written form gives it back.  A number is read from the
integer that writes it, a part from its number, a phase from its name and its fields, and a save
state from all three (`SaveState.ofJson_toJson`).
-/

namespace Slapstic

/-! ## Scalars -/

namespace Json

theorem toNatBelow_nat {bound n : Nat} (lt : n < bound) : (nat n).toNatBelow bound = .ok n :=
  if_pos lt

@[simp] theorem toByte_ofByte (byte : UInt8) : (ofByte byte).toByte = .ok byte := by
  rw [toByte, ofByte, toNatBelow_nat byte.toNat_lt, Except.map, UInt8.ofNat_toNat]

@[simp] theorem toWord_ofWord (word : UInt16) : (ofWord word).toWord = .ok word := by
  rw [toWord, ofWord, toNatBelow_nat word.toNat_lt, Except.map, UInt16.ofNat_toNat]

/-- A member that is there is read. -/
theorem readMember_of_lookup {α : Type} {members : List (String × Json)} {name : String}
    {value : Json} {read : Json → Decoded α} {a : α} (found : members.lookup name = some value)
    (ok : read value = .ok a) : readMember members name read = .ok (some a) := by
  rw [readMember, found]
  exact congrArg (Except.map some) ok

end Json

@[simp] theorem PartNumber.ofJson_toJson (part : PartNumber) : ofJson part.toJson = .ok part := by
  change (Json.ofWord part.number).toWord.bind _ = _
  rw [Json.toWord_ofWord]
  change (ofNumber part.number).mapError _ = _
  rw [ofNumber_number]
  rfl

/-! ## Phases -/

namespace Phase

/-- The field of a phase that gathers a bank. -/
theorem byteField_bank (bank : UInt8) (rest : List (String × Json)) :
    byteField (("bank", Json.ofByte bank) :: rest) "bank" = .ok bank := by
  rw [byteField, Json.readMember_of_lookup rfl (Json.toByte_ofByte bank)]
  rfl

/-- The field of a phase that twiddles. -/
theorem byteField_toggle (bank toggle : UInt8) :
    byteField [("bank", Json.ofByte bank), ("toggle", Json.ofByte toggle)] "toggle" =
      .ok toggle := by
  rw [byteField, Json.readMember_of_lookup rfl (Json.toByte_ofByte toggle)]
  rfl

@[simp] theorem ofJson_toJson (phase : Phase) : ofJson phase.toJson = .ok phase := by
  cases phase with
  | disabled | enabled | alternate1 | alternate2 | bitwise1 | additive1 => rfl
  | alternate3 bank | bitwise3 bank | additive2 bank | additive3 bank =>
    change (byteField [("bank", Json.ofByte bank)] "bank").bind _ = _
    rw [byteField_bank]
    rfl
  | bitwise2 bank toggle =>
    let fields := [("bank", Json.ofByte bank), ("toggle", Json.ofByte toggle)]
    change (byteField fields "bank").bind (fun bank =>
      (byteField fields "toggle").bind fun toggle => .ok (bitwise2 bank toggle)) = _
    rw [byteField_bank, byteField_toggle]
    rfl

end Phase

/-! ## Save states -/

/-- **A save state reads back as it was written.** -/
@[simp] theorem SaveState.ofJson_toJson (state : SaveState) : ofJson state.toJson = .ok state := by
  change (Json.readMember _ "bank" Json.toByte).bind (fun bank? =>
    (Json.readMember _ "chip" PartNumber.ofJson).bind fun part? =>
      (Json.readMember _ "state" Phase.ofJson).bind _) = _
  rw [Json.readMember_of_lookup rfl (Json.toByte_ofByte state.bank), Except.bind,
    Json.readMember_of_lookup rfl state.part.ofJson_toJson, Except.bind,
    Json.readMember_of_lookup rfl state.phase.ofJson_toJson]
  rfl

end Slapstic
