import WikiSite.Config.Value

/-!
# Layers of settings

Settings files are laid over one another: tables merge, anything else takes the place of what was there. The names
of settings do not depend on case. At the top level a name may be a path into the settings, such as `a.b` or `a[0]`.
-/

namespace WikiSite

namespace ConfigValue

private def tableOf : ConfigValue → List (Text × ConfigValue)
  | .table entries => entries
  | _ => []

private def listOf : ConfigValue → List ConfigValue
  | .list items => items
  | _ => []

mutual

/-- Puts a value under a name into a table; a table merges into what is there. -/
def assign (root : ConfigValue) (name : Text) : ConfigValue → ConfigValue
  | .table incoming =>
    let entries := tableOf root
    let name := lower name
    let target : ConfigValue := .table (tableOf ((Table.get? entries name).getD .null))
    .table (Table.insert name (assignAll target incoming) entries)
  | v => .table (Table.insert (lower name) v (tableOf root))

/-- Puts every entry into a table. -/
def assignAll (root : ConfigValue) : List (Text × ConfigValue) → ConfigValue
  | [] => root
  | (name, v) :: rest => assignAll (assign root name v) rest

end

/-! ### Paths -/

/-- A step of a path into settings. -/
inductive Step where
  | name (t : Text)
  | index (n : Int)
  deriving Repr

private def isPathChar (c : Char) : Bool := isAsciiLetter c || isDigit c || c == ' ' || c == '_' || c == '-'

private def readSteps : Nat → Text → Option (List Step)
  | 0, _ => none
  | fuel + 1, t =>
    match t with
    | [] => some []
    | '.' :: rest =>
      let name := rest.takeWhile isPathChar
      if name.isEmpty then none else (readSteps fuel (rest.drop name.length)).map (.name name :: ·)
    | '[' :: rest =>
      let (negative, digits) := match rest with | '-' :: r => (true, r.takeWhile isDigit) | r => (false, r.takeWhile isDigit)
      let used := digits.length + (if negative then 1 else 0)
      if digits.isEmpty || (rest.drop used).head? != some ']' then none
      else
        let n : Int := natOfDigits digits
        (readSteps fuel (rest.drop (used + 1))).map (.index (if negative then -n else n) :: ·)
    | _ => none

/-- The path that a name is: a name and steps after it. A name that is no path stands for itself. -/
def pathOf (t : Text) : Text × List Step :=
  let first := t.takeWhile isPathChar
  if first.isEmpty then (t, [])
  else
    match readSteps (t.length + 1) (t.drop first.length) with
    | some steps => (first, steps)
    | none => (t, [])

/-- The place of an index in a list of the given length; a negative index counts from the end. -/
private def placeOf (n : Int) (length : Nat) : Nat :=
  if 0 ≤ n then n.toNat else length - n.natAbs

private def setAt (items : List ConfigValue) (i : Nat) (v : ConfigValue) : List ConfigValue :=
  (items ++ List.replicate (i + 1 - items.length) ConfigValue.null).set i v

/-- Puts a value at the end of a path below a value. -/
def assignPath (root : ConfigValue) (v : ConfigValue) : List Step → ConfigValue
  | [] => v
  | [.name n] => assign root n v
  | [.index i] =>
    let items := listOf root
    .list (setAt items (placeOf i items.length) v)
  | .name n :: rest =>
    let entries := tableOf root
    .table (Table.insert (lower n) (assignPath ((Table.get? entries (lower n)).getD .null) v rest) entries)
  | .index i :: rest =>
    let items := listOf root
    let place := placeOf i items.length
    .list (setAt items place (assignPath (items[place]?.getD .null) v rest))

/-- Lays the entries of a settings file over the settings so far. -/
def overlay (root : ConfigValue) (entries : List (Text × ConfigValue)) : ConfigValue :=
  entries.foldl (fun root e =>
    let (name, steps) := pathOf e.1
    assignPath root e.2 (.name name :: steps)) root

end ConfigValue

end WikiSite
