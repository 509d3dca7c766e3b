import WikiSite.Site.Metadata

/-!
# Filters

A filter selects posts by their metadata. It is a list of clauses joined by `and`, all of which must hold:

* `field == 'v'`: the field's text is `v`; `field != 'v'`: it is absent or differs;
* `'v' in field`: the list holds `v`, or the text contains it;
* `field`: the field is there and is neither empty, zero nor false;
* `True` and `False`.
-/

namespace WikiSite

/-- A condition on a post. -/
inductive Clause where
  | equals (field value : Text)
  | differs (field value : Text)
  | contains (field value : Text)
  | truthy (field : Text)
  | constant (value : Bool)
  deriving DecidableEq, Repr

/-- Clauses that must all hold. -/
structure Filter where
  clauses : List Clause
  deriving DecidableEq, Repr

/-- Why an expression is no filter. -/
inductive FilterError where
  | empty
  | invalidClause (clause : Text)
  deriving DecidableEq, Repr

/-- What an error says. -/
def FilterError.message : FilterError → Text
  | .empty => "empty filter expression".toList
  | .invalidClause clause => "cannot parse filter clause `".toList ++ clause ++ "`".toList

/-! ### Reading -/

/-- Whether `c` may start a field name. -/
def isFieldStart (c : Char) : Bool := isAsciiLetter c || c == '_'

/-- Whether `c` may continue a field name. -/
def isFieldChar (c : Char) : Bool := isFieldStart c || isDigit c

/-- Whether the text is a field name. -/
def isFieldName : Text → Bool
  | [] => false
  | c :: rest => isFieldStart c && rest.all isFieldChar

/-- The quote in which values are written. -/
def singleQuote : Char := Char.ofNat 0x27

/-- The value inside a pair of equal quotes; a value without them is itself. -/
def unquote (t : Text) : Text :=
  let t := trim t
  let quotedBy (q : Char) : Bool := t.head? == some q && t.getLast? == some q
  if 2 ≤ t.length && (quotedBy singleQuote || quotedBy '"') then (t.drop 1).dropLast else t

/-- Reads `field == value` or `field != value`. -/
def comparison? (t : Text) : Option Clause :=
  let field := t.takeWhile isFieldChar
  let value (rest : Text) : Option Text :=
    let v := trimStart rest
    if v.isEmpty || v.contains '\n' then none else some (unquote v)
  if !isFieldName field then none
  else
    match trimStart (t.drop field.length) with
    | '=' :: '=' :: rest => (value rest).map (.equals field)
    | '!' :: '=' :: rest => (value rest).map (.differs field)
    | _ => none

/-- The text before a word at the end that blanks separate from it. -/
def beforeWord (p : Char → Bool) (t : Text) : Option (Text × Text) :=
  let word := (t.reverse.takeWhile p).reverse
  let rest := t.take (t.length - word.length)
  if (trimEnd rest).length < rest.length then some (trimEnd rest, word) else none

/-- Reads `value in field`. -/
def membership? (t : Text) : Option Clause :=
  match beforeWord (fun c => !isBlank c) t with
  | none => none
  | some (rest, field) =>
    if !isFieldName field then none
    else
      match beforeWord (fun c => !isBlank c) rest with
      | none => none
      | some (value, word) =>
        if word != "in".toList || value.isEmpty || value.contains '\n' then none
        else some (.contains field (unquote value))

/-- Reads one clause. -/
def Clause.ofText (t : Text) : Except FilterError Clause :=
  let t := trim t
  if sameLetters t "true".toList then .ok (.constant true)
  else if sameLetters t "false".toList then .ok (.constant false)
  else
    match comparison? t with
    | some c => .ok c
    | none =>
      match membership? t with
      | some c => .ok c
      | none => if isFieldName t then .ok (.truthy t) else .error (.invalidClause t)

/-- The rest after the word `and` between blanks, when the text starts with it. -/
def afterAnd (t : Text) : Option Text :=
  let rest := trimStart t
  if rest.length < t.length && sameLetters (rest.take 3) "and".toList then
    let tail := rest.drop 3
    let after := trimStart tail
    if after.length < tail.length then some after else none
  else none

/-- Splits a text at every `and` between blanks, after passing over `skip` characters. -/
def splitClauses : Nat → Text → List Text
  | _, [] => [[]]
  | skip + 1, _ :: rest => splitClauses skip rest
  | 0, c :: rest =>
    match afterAnd (c :: rest) with
    | some after => [] :: splitClauses ((c :: rest).length - after.length - 1) rest
    | none =>
      match splitClauses 0 rest with
      | [] => [[c]]
      | piece :: pieces => (c :: piece) :: pieces

/-- Reads a filter expression. -/
def Filter.ofText (expression : Text) : Except FilterError Filter :=
  let t := trim expression
  if t.isEmpty then .error .empty
  else ((splitClauses 0 t).mapM Clause.ofText).map Filter.mk

/-! ### Meaning -/

private def isBoolWord (t : Text) : Bool := sameLetters t "true".toList || sameLetters t "false".toList

/-- Equality of values: booleans in either case, all else exactly. -/
def sameValue (actual expected : Text) : Bool :=
  if isBoolWord actual && isBoolWord expected then sameLetters actual expected else actual == expected

/-- Whether a value counts as true. -/
def isTruthy : YamlValue → Bool
  | .null => false
  | .bool b => b
  | .str t => !t.isEmpty && !sameLetters t "false".toList
  | .seq items => !items.isEmpty
  | .map entries => !entries.isEmpty
  | .int n => n != 0
  | .real d => !d.isZero
  | .tagged _ v => isTruthy v

/-- The text of a field; the slug of the post stands for a missing field of that name. -/
def fieldText (m : Metadata) (slug : Text) (field : Text) : Option Text :=
  match m.text? field with
  | some t => some t
  | none => if field == "slug".toList then some slug else none

/-- Whether a clause holds of a post. -/
def Clause.holds (m : Metadata) (slug : Text) : Clause → Bool
  | .constant b => b
  | .equals field value => (fieldText m slug field).any fun t => sameValue t value
  | .differs field value => !((fieldText m slug field).any fun t => sameValue t value)
  | .contains field value =>
    match m.get? field with
    | some (.seq items) => (items.filterMap scalarText?).any (· == value)
    | _ => (fieldText m slug field).any (occursIn value)
  | .truthy field =>
    match m.get? field with
    | some v => isTruthy v
    | none => field == "slug".toList && !slug.isEmpty

/-- Whether a filter selects a post. -/
def Filter.selects (f : Filter) (m : Metadata) (slug : Text) : Bool := f.clauses.all (Clause.holds m slug)

end WikiSite
