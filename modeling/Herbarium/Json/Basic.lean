import Herbarium.Binary64.Basic

/-!
JSON values.

Integers are kept apart from other numbers, and the members of an object are a list in the order in which they are
written. `orderedMembers` is the order of an object that was read: by key, code point by code point, each key once
with the value it was given last.
-/

namespace Herbarium

inductive Json where
  | null
  | bool (b : Bool)
  | integer (n : Int)
  | real (x : Binary64)
  | string (s : String)
  | array (elements : List Json)
  | object (members : List (String × Json))

namespace Json

/-- Drops each member followed by one of the same key. -/
def keepLast (members : List (String × Json)) : List (String × Json) :=
  members.foldr (fun m rest =>
    match rest with
    | next :: _ => if m.1 = next.1 then rest else m :: rest
    | [] => [m]) []

/-- Members by key, each key once with its last value. -/
def orderedMembers (members : List (String × Json)) : List (String × Json) :=
  keepLast (members.mergeSort fun a b => decide (a.1 ≤ b.1))

end Json

end Herbarium
