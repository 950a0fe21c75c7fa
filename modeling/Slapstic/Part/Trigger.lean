/-!
# Part/Trigger — the addresses a part reacts to

Apart from zero and the four bank selects, every special address is given by a **trigger**: a mask
of the address bits that count and the value these bits must have.  An address hits the trigger when
it agrees with the value on the masked bits (`Trigger.hits_iff`); the other bits are free.
-/

namespace Slapstic

/-- A mask of address bits and the value wanted of them. -/
structure Trigger where
  mask : UInt16
  value : UInt16
  deriving DecidableEq, Repr

/-- **An address hits a trigger** when its masked bits are those of the value. -/
def Trigger.hits (trigger : Trigger) (address : UInt32) : Bool :=
  address &&& trigger.mask.toUInt32 == trigger.value.toUInt32 &&& trigger.mask.toUInt32

theorem Trigger.hits_iff {trigger : Trigger} {address : UInt32} :
    trigger.hits address = true ↔
      address &&& trigger.mask.toUInt32 = trigger.value.toUInt32 &&& trigger.mask.toUInt32 :=
  beq_iff_eq

end Slapstic
