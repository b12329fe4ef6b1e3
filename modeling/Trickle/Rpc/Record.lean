/-
This file looks up the members of an object in a node's reply. A member that is looked
for may stand there only once; members nobody looks for do not matter.
-/

import Trickle.Json.Value

namespace Trickle.Rpc

open Trickle.Json (Value Member)

/-- The members of an object, if all their names are texts. -/
def members? : Value → Option (List (Member Value))
  | .object members => if members.all (·.name.isSome) then some members else none
  | _ => none

/-- The member of a name: none at all if it stands there more than once. -/
def lookup? (name : String) (members : List (Member Value)) : Option (Option (Member Value)) :=
  match members.filter (·.name = some name) with
  | [] => some none
  | [member] => some (some member)
  | _ => none

/-- What a member has to hold. -/
def required? {Result : Type} (read? : Value → Option Result) (name : String)
    (members : List (Member Value)) : Option Result := do
  let member ← (← lookup? name members)
  read? member.value

/-- What a member holds; it may be null. -/
def nullable? {Result : Type} (read? : Value → Option Result) (name : String)
    (members : List (Member Value)) : Option (Option Result) :=
  required? (fun
    | .null => some none
    | value => (read? value).map some) name members

/-- What a member holds; it may be null or absent. -/
def optional? {Result : Type} (read? : Value → Option Result) (name : String)
    (members : List (Member Value)) : Option (Option Result) :=
  match lookup? name members with
  | none => none
  | some none => some none
  | some (some _) => nullable? read? name members

end Trickle.Rpc
