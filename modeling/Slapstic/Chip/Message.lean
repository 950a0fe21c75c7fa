import Slapstic.Chip.TraceLine

/-!
# Chip/Message — what a chip reports as it works

A chip tells of its power-up, with a warning if its patterns are unverified, and of every access: of
a change of bank first, with the phase that the access found, and then of the access itself in a
trace line.  Resetting a chip, saving it and bringing it back are silent.

* `Chip.powerUpMessages`, `Chip.accessMessages`, `Chip.runMessages` — the reports of a power-up, of
  an access, and of a run of accesses.
-/

namespace Slapstic

/-- **A report of a chip.** -/
inductive Message where
  /-- The part's patterns were never checked against the real chip. -/
  | unverified (part : PartNumber)
  /-- A chip begins to work. -/
  | poweredUp (part : PartNumber) (host : Host) (bank : UInt8)
  /-- The selected bank changes; `via` is the phase before. -/
  | switched (part : PartNumber) (before after : UInt8) (via : Phase)
  /-- An access was made. -/
  | traced (line : TraceLine)
  deriving DecidableEq

namespace Message

/-- The weight of a report. -/
def level : Message → String
  | unverified _ => "WARN"
  | poweredUp _ _ _ => "INFO"
  | switched _ _ _ _ => "DEBUG"
  | traced _ => "TRACE"

/-- The wording of a report. -/
def text : Message → String
  | unverified part => "slapstic " ++ part.name ++ " has not been verified against hardware"
  | poweredUp part host bank =>
    "slapstic " ++ part.name ++ " on " ++ host.name ++ ", starting in bank " ++
      Text.decimal bank.toNat
  | switched part before after via =>
    "slapstic " ++ part.name ++ ": bank " ++ Text.decimal before.toNat ++ " -> " ++
      Text.decimal after.toNat ++ " via " ++ via.name
  | traced line => line.text

/-- A report with its weight in front. -/
def render (message : Message) : String := message.level ++ " " ++ message.text

end Message

namespace Chip

/-- **The reports of a power-up.** -/
def powerUpMessages (part : PartNumber) (host : Host) : List Message :=
  (if part.profile.confirmed then [] else [.unverified part]) ++
    [.poweredUp part host part.startingBank]

/-- **The reports of an access.**  The trace line shows the address that reached the chip. -/
def accessMessages (chip : Chip) (a : Access) : List Message :=
  let next := chip.access a
  (if next.bank = chip.bank then [] else [.switched chip.part chip.bank next.bank chip.phase]) ++
    [.traced (next.traceLine (pins a.address))]

/-- The reports of a run. -/
def runMessages (chip : Chip) : List Access → List Message
  | [] => []
  | a :: rest => chip.accessMessages a ++ (chip.access a).runMessages rest

end Chip

end Slapstic
