/-!
# Json/Value — JSON values

A number is kept as an integer when it is written as one; any other spelling of a number (with a
point, with an exponent, or a negative zero) stays the text it was, as a `real`.  The members of an
object are a list of named values, read by name.
-/

namespace Slapstic

/-- A JSON value. -/
inductive Json where
  | null
  | bool (b : Bool)
  | int (n : Int)
  | real (spelling : String)
  | str (s : String)
  | arr (items : List Json)
  | obj (members : List (String × Json))
  deriving Inhabited

namespace Json

/-- A whole number that is not negative. -/
def nat (n : Nat) : Json := int n

/-- **An object whose names are distinct**: of several members with one name the last one counts. -/
def ofMembers (members : List (String × Json)) : Json :=
  obj <| members.foldr (fun member rest =>
    if rest.any (·.1 == member.1) then rest else member :: rest) []

/-- The member of an object with the given name. -/
def get? (name : String) : Json → Option Json
  | obj members => members.lookup name
  | _ => none

@[simp] theorem get?_obj (name : String) (members : List (String × Json)) :
    (obj members).get? name = members.lookup name := rfl

end Json

end Slapstic
