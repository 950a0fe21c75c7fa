import Slapstic.Chip.SaveState
import Slapstic.Serial.Scalar

/-!
# Serial/Chip — hosts, phases and save states as JSON

A value without fields is its name, or an object with that name alone and nothing under it.  A phase
with fields is an object with the phase's name alone and an object of the fields under it.

A save state is an object or an array of its fields.  The members of an object are read in the order
of their names and the items of an array in their own; the first that cannot be read decides the
error, and what is missing or too much is noticed last.
-/

namespace Slapstic

/-! ## Hosts -/

namespace Host

/-- A host as JSON. -/
def toJson (host : Host) : Json := .str host.name

/-- **The host that a JSON value names.** -/
def ofJson : Json → Decoded Host
  | .str name => .require (ofName? name)
  | .obj [(name, .null)] => .require (ofName? name)
  | _ => .error .malformed

end Host

/-! ## Phases -/

namespace Phase

/-- The name of a phase in JSON. -/
def tag : Phase → String
  | disabled => "Disabled"
  | enabled => "Enabled"
  | alternate1 => "Alternate1"
  | alternate2 => "Alternate2"
  | alternate3 _ => "Alternate3"
  | bitwise1 => "Bitwise1"
  | bitwise2 _ _ => "Bitwise2"
  | bitwise3 _ => "Bitwise3"
  | additive1 => "Additive1"
  | additive2 _ => "Additive2"
  | additive3 _ => "Additive3"

/-- The fields of a phase, in their order. -/
def fields (phase : Phase) : List (String × Json) :=
  (phase.pending?.map fun bank => ("bank", Json.ofByte bank)).toList ++
    (phase.toggle?.map fun toggle => ("toggle", Json.ofByte toggle)).toList

/-- A phase as JSON. -/
def toJson (phase : Phase) : Json :=
  match phase.fields with
  | [] => .str phase.tag
  | fields => .obj [(phase.tag, .obj fields)]

/-- The phases without fields. -/
def plain : List Phase := [disabled, enabled, alternate1, alternate2, bitwise1, additive1]

/-- The phase without fields that has a given name. -/
def ofTag? (tag : String) : Option Phase := plain.find? (·.tag == tag)

/-- A byte among the fields of a phase. -/
def byteField (members : List (String × Json)) (name : String) : Decoded UInt8 := do
  .require (← Json.readMember members name Json.toByte)

/-- **The phase with a given name and fields.**  Other fields than its own are passed over. -/
def ofFields (tag : String) (members : List (String × Json)) : Decoded Phase := do
  match tag with
  | "Alternate3" => return alternate3 (← byteField members "bank")
  | "Bitwise2" => return bitwise2 (← byteField members "bank") (← byteField members "toggle")
  | "Bitwise3" => return bitwise3 (← byteField members "bank")
  | "Additive2" => return additive2 (← byteField members "bank")
  | "Additive3" => return additive3 (← byteField members "bank")
  | _ => .error .malformed

/-- **The phase that a JSON value describes.** -/
def ofJson : Json → Decoded Phase
  | .str tag => .require (ofTag? tag)
  | .obj [(tag, .null)] => .require (ofTag? tag)
  | .obj [(tag, .obj members)] => ofFields tag members
  | _ => .error .malformed

end Phase

/-! ## Save states -/

namespace SaveState

/-- A save state as JSON. -/
def toJson (state : SaveState) : Json :=
  .obj [("chip", state.part.toJson), ("state", state.phase.toJson), ("bank", .ofByte state.bank)]

/-- **The save state that a JSON value describes.** -/
def ofJson : Json → Decoded SaveState
  | .obj members => do
    let bank ← Json.readMember members "bank" Json.toByte
    let part ← Json.readMember members "chip" PartNumber.ofJson
    let phase ← Json.readMember members "state" Phase.ofJson
    return { part := ← .require part, phase := ← .require phase, bank := ← .require bank }
  | .arr (chip :: rest) => do
    let part ← PartNumber.ofJson chip
    match rest with
    | [state, bank] => return { part, phase := ← Phase.ofJson state, bank := ← bank.toByte }
    | _ => .error .malformed
  | _ => .error .malformed

end SaveState

end Slapstic
