import Slapstic.Board.Setup
import Slapstic.Serial.Chip

/-!
# Serial/Board — triggers and setups as JSON

Both are objects, or arrays of their fields.  A setup may leave out its host.
-/

namespace Slapstic

namespace Trigger

/-- A trigger as JSON. -/
def toJson (trigger : Trigger) : Json :=
  .obj [("mask", .ofWord trigger.mask), ("value", .ofWord trigger.value)]

/-- **The trigger that a JSON value describes.** -/
def ofJson : Json → Decoded Trigger
  | .obj members => do
    let mask ← Json.readMember members "mask" Json.toWord
    let value ← Json.readMember members "value" Json.toWord
    return ⟨← .require mask, ← .require value⟩
  | .arr [mask, value] => do return ⟨← mask.toWord, ← value.toWord⟩
  | _ => .error .malformed

end Trigger

namespace Setup

/-- A setup as JSON. -/
def toJson (setup : Setup) : Json :=
  .obj [("chip", setup.part.toJson), ("host", setup.host.toJson)]

/-- **The setup that a JSON value describes.** -/
def ofJson : Json → Decoded Setup
  | .obj members => do
    let part ← Json.readMember members "chip" PartNumber.ofJson
    let host ← Json.readMember members "host" Host.ofJson
    return { part := ← .require part, host := host.getD default }
  | .arr (chip :: rest) => do
    let part ← PartNumber.ofJson chip
    match rest with
    | [] => return { part }
    | [host] => return { part, host := ← Host.ofJson host }
    | _ => .error .malformed
  | _ => .error .malformed

end Setup

end Slapstic
