import Slapstic.Json.Value
import Slapstic.Part.Number
import Slapstic.Part.Label

/-!
# Serial/Scalar — numbers and part numbers as JSON

Reading a JSON value as something else fails for one of two reasons: what should name a part names
none, or the value has the wrong form.  A part is read from its number or from its label and written
as its number.
-/

namespace Slapstic

/-- **Why a JSON value cannot be read.** -/
inductive DecodeError where
  /-- It has the form of a part and names none. -/
  | part (error : PartError)
  /-- It has the wrong form. -/
  | malformed
  deriving DecidableEq

/-- What reading a JSON value yields. -/
abbrev Decoded (α : Type) := Except DecodeError α

/-- A value that has to be there. -/
def Decoded.require {α : Type} : Option α → Decoded α
  | some a => .ok a
  | none => .error .malformed

namespace Json

/-! ## Numbers -/

/-- An integer from zero up to a bound, the bound excluded. -/
def toNatBelow (bound : Nat) : Json → Decoded Nat
  | int (.ofNat n) => if n < bound then .ok n else .error .malformed
  | _ => .error .malformed

/-- **A byte.** -/
def toByte (json : Json) : Decoded UInt8 := (json.toNatBelow 256).map UInt8.ofNat

/-- **A sixteen-bit word.** -/
def toWord (json : Json) : Decoded UInt16 := (json.toNatBelow 65536).map UInt16.ofNat

/-- A byte as JSON. -/
def ofByte (byte : UInt8) : Json := nat byte.toNat

/-- A word as JSON. -/
def ofWord (word : UInt16) : Json := nat word.toNat

/-! ## Members -/

/-- **A member of an object, read if it is there.** -/
def readMember {α : Type} (members : List (String × Json)) (name : String)
    (read : Json → Decoded α) : Decoded (Option α) :=
  match members.lookup name with
  | some value => (read value).map some
  | none => .ok none

end Json

namespace PartNumber

/-- A part as JSON. -/
def toJson (part : PartNumber) : Json := .ofWord part.number

/-- **The part that a JSON value names**, by its number or by its label. -/
def ofJson : Json → Decoded PartNumber
  | .str label => (ofLabel label).mapError .part
  | json => json.toWord.bind fun number => (ofNumber number).mapError .part

end PartNumber

end Slapstic
