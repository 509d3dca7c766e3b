import WikiSite.Table
import WikiSite.Decimal.Shortest

/-!
# JSON values

A number is an integer of 64 bits or a finite double; the members of an object are in increasing order of their
names.
-/

namespace WikiSite

/-- A JSON number. -/
inductive JsonNumber where
  | int (n : Int)
  | real (d : Binary64)
  deriving DecidableEq, Repr

/-- A JSON value. -/
inductive Json where
  | null
  | bool (b : Bool)
  | num (n : JsonNumber)
  | str (t : Text)
  | arr (items : List Json)
  | obj (members : List (Text × Json))
  deriving Repr, Inhabited, BEq

namespace Json

/-- An integer value. -/
def int (n : Int) : Json := .num (.int n)

/-- A natural number as a value. -/
def nat (n : Nat) : Json := .num (.int n)

/-- A text constant as a value. -/
def ofString (s : String) : Json := .str s.toList

/-- The object with the given members, in the order of their names. -/
def object (members : List (String × Json)) : Json :=
  .obj (Table.ofEntries (members.map fun m => (m.1.toList, m.2)))

/-- An optional text as a value. -/
def ofText? : Option Text → Json
  | some t => .str t
  | none => .null

/-- The member of an object with the given name. -/
def member? (v : Json) (name : String) : Option Json :=
  match v with
  | .obj members => Table.get? members name.toList
  | _ => none

/-- Whether the value is `null`. -/
def isNull : Json → Bool
  | .null => true
  | _ => false

end Json

end WikiSite
