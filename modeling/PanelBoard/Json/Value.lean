/-!
# JSON values

JSON with whole numbers. Objects keep the order of their members; `normalize`
puts them into the order of their keys, each key once.
-/

namespace PanelBoard.Json

/-- A JSON value. -/
inductive Value where
  | null
  | boolean (value : Bool)
  | number (value : Int)
  | text (value : String)
  | list (elements : List Value)
  | object (members : List (String × Value))
  deriving Repr, Inhabited

namespace Value

/-- The number of a count. -/
def count (n : Nat) : Value :=
  .number n

/-- A member of an object. -/
def member? (key : String) : Value → Option Value
  | .object members => members.lookup key
  | _ => none

/-- Put a member in the place its key has among ascending keys; a key that is
there already gets the new value. -/
def insertMember (key : String) (value : Value) : List (String × Value) → List (String × Value)
  | [] => [(key, value)]
  | (other, old) :: rest =>
    if key < other then (key, value) :: (other, old) :: rest
    else if key = other then (key, value) :: rest
    else (other, old) :: insertMember key value rest

mutual

/-- The value with the members of every object in ascending order of their keys. -/
def normalize : Value → Value
  | .list elements => .list (normalizeList elements)
  | .object members => .object (normalizeMembers [] members)
  | other => other

/-- Normalize every element. -/
def normalizeList : List Value → List Value
  | [] => []
  | element :: rest => element.normalize :: normalizeList rest

/-- Normalize members and insert them one after another. -/
def normalizeMembers (done : List (String × Value)) :
    List (String × Value) → List (String × Value)
  | [] => done
  | (key, value) :: rest => normalizeMembers (insertMember key value.normalize done) rest

end

end Value

end PanelBoard.Json
