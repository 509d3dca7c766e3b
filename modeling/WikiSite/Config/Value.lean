import WikiSite.Json.Value
import WikiSite.Site.Settings
import WikiSite.Text.Lowercase

/-!
# Values of settings files

A settings file is a table of values, whatever its format. A value is read leniently: words and numbers stand for
booleans, booleans and numbers written as text for numbers, and every scalar for its text.
-/

namespace WikiSite

/-- A value of a settings file. -/
inductive ConfigValue where
  | null
  | bool (b : Bool)
  | int (n : Int)
  | real (d : Binary64)
  | text (t : Text)
  | list (items : List ConfigValue)
  | table (entries : List (Text × ConfigValue))
  deriving Repr, Inhabited

/-- The boolean that a word stands for. -/
def boolOfWord? (t : Text) : Option Bool :=
  let word := lower t
  if ["true".toList, "on".toList, "yes".toList].contains word then some true
  else if ["false".toList, "off".toList, "no".toList].contains word then some false
  else none

/-- The number that a text writes: digits after an optional plus sign, below `2 ^ 64`. -/
def sizeOfText? (t : Text) : Option Nat :=
  let digits := match t with | '+' :: rest => rest | _ => t
  if digits.isEmpty || !digits.all isDigit then none
  else
    let n := natOfDigits digits
    if n < limit64 then some n else none

namespace ConfigValue

/-- The value as a boolean. -/
def asBool? : ConfigValue → Option Bool
  | .bool b => some b
  | .int n => some (n != 0)
  | .real d => some (!d.isZero)
  | .text t => if t == ['1'] then some true else if t == ['0'] then some false else boolOfWord? t
  | _ => none

/-- The value as a size: a fraction is rounded, a number out of range is refused when it is whole and clamped when it
has a fraction. -/
def asSize? : ConfigValue → Option Nat
  | .bool b => some (if b then 1 else 0)
  | .int n => if 0 ≤ n then some n.toNat else none
  | .real d => some d.toNat64
  | .text t =>
    match boolOfWord? t with
    | some b => some (if b then 1 else 0)
    | none => sizeOfText? t
  | _ => none

/-- The value as a text. -/
def asText? : ConfigValue → Option Text
  | .text t => some t
  | .bool b => some (if b then "true".toList else "false".toList)
  | .int n => some (intText n)
  | .real d => some d.plainText
  | _ => none

/-- How values of settings files are read. -/
def decoder : Decoder ConfigValue where
  bool := asBool?
  size := asSize?
  text := asText?
  isNull := fun v => match v with | .null => true | _ => false
  items := fun v => match v with | .list items => some items | _ => none
  members := fun v => match v with | .table entries => some entries | _ => none
  allowsExtra := true

/-- The value that a JSON value stands for; an integer that 64 bits with a sign do not hold becomes a double. -/
def ofJson : Json → ConfigValue
  | .null => .null
  | .bool b => .bool b
  | .num (.int n) => if isInt64 n then .int n else .real (.ofInt n)
  | .num (.real d) => .real d
  | .str t => .text t
  | .arr items => .list (ofItems items)
  | .obj members => .table (ofMembers members)
where
  /-- The values of the items of an array. -/
  ofItems : List Json → List ConfigValue
    | [] => []
    | v :: rest => ofJson v :: ofItems rest
  /-- The values of the members of an object. -/
  ofMembers : List (Text × Json) → List (Text × ConfigValue)
    | [] => []
    | (name, v) :: rest => (name, ofJson v) :: ofMembers rest

end ConfigValue

/-- How settings are read from JSON as it is: nothing but the exact type will do. -/
def jsonDecoder : Decoder Json where
  bool := fun v => match v with | .bool b => some b | _ => none
  size := fun v => match v with | .num (.int n) => if 0 ≤ n then some n.toNat else none | _ => none
  text := fun v => match v with | .str t => some t | _ => none
  isNull := Json.isNull
  items := fun v => match v with | .arr items => some items | _ => none
  members := fun v => match v with | .obj members => some members | _ => none
  allowsExtra := false

end WikiSite
