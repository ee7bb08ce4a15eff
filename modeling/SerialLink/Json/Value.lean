/-!
# SerialLink.Json.Value

JSON values.  Numbers are integers or floats, and the members of an object stand
in a definite order.  An object that was put together member by member has its
members sorted by name, and of two members with one name it keeps the later.
-/

namespace SerialLink

/-- A JSON value. -/
inductive Json where
  | null
  | bool (b : Bool)
  | int (n : Int)
  | float (x : Float)
  | str (s : String)
  | arr (elements : List Json)
  | obj (members : List (String × Json))
  deriving Inhabited

namespace Json

/-- The value of a float: there are no JSON numbers for `NaN` and the infinities. -/
def ofFloat (x : Float) : Json := if x.isFinite then .float x else .null

/-- The members with one more among them, in the place of its name. -/
def insertMember (name : String) (value : Json) : List (String × Json) → List (String × Json)
  | [] => [(name, value)]
  | (other, v) :: rest =>
    if name < other then (name, value) :: (other, v) :: rest
    else if name = other then (name, value) :: rest
    else (other, v) :: insertMember name value rest

/-- The object put together from the given members, one after the other. -/
def ofMembers (members : List (String × Json)) : Json :=
  .obj (members.foldl (fun sorted m => insertMember m.1 m.2 sorted) [])

end Json

end SerialLink
