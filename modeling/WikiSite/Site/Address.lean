import WikiSite.Text.Basic

/-!
# Numeric hosts

A host can be the number of a machine instead of its name. There are two written forms.

* (dotted) up to four numbers with dots between them, each decimal, octal or hexadecimal; the last one fills all
  the bytes that the others leave. The normal form has four decimal numbers.
* (grouped) eight groups of up to four hexadecimal digits with colons between them. `::` stands for a run of zero
  groups, and the last two groups may be written as four decimal numbers. The normal form shortens the first of
  the longest runs of zeros, unless it is a single group.
-/

namespace WikiSite

namespace Address

/-! ### Dotted numbers -/

/-- One number of a dotted host: hexadecimal after `0x`, octal after `0`, otherwise decimal. -/
def number? : Text → Option Nat
  | [] => none
  | '0' :: 'x' :: rest | '0' :: 'X' :: rest => digitsValue? 16 rest
  | '0' :: c :: rest => digitsValue? 8 (c :: rest)
  | t => digitsValue? 10 t

/-- Whether a host that ends in this label is a number. -/
def endsInNumber (label : Text) : Bool :=
  (!label.isEmpty && label.all isDigit) || (number? label).isSome

/-- The value of numbers of which each but the last is one byte, from the highest place down. -/
def valueFrom (place : Nat) : List Nat → Nat
  | [] => 0
  | [n] => n
  | n :: rest => n * Nat.pow 256 place + valueFrom (place - 1) rest

/-- A 32-bit number as four bytes in decimal. -/
def dottedText (value : Nat) : Text :=
  joinWith ['.'] ([value / 16777216, value / 65536 % 256, value / 256 % 256, value % 256].map natText)

/-- The normal form of a dotted host; the outer `none` when the host is a name. -/
def dotted? (host : Text) : Option (Option Text) :=
  let labels := splitWhere (· == '.') host
  let labels := if labels.length != 1 && labels.getLast? == some [] then labels.dropLast else labels
  if !endsInNumber (labels.getLast?.getD []) then none
  else
    some <|
      if 4 < labels.length then none
      else
        match labels.mapM number? with
        | none => none
        | some numbers =>
          let last := numbers.getLast?.getD 0
          if numbers.dropLast.any (255 < ·) || Nat.pow 256 (5 - numbers.length) ≤ last then none
          else some (dottedText (valueFrom 3 numbers))

/-! ### Groups of hexadecimal digits -/

/-- One group. -/
def group? (t : Text) : Option Nat :=
  if t.isEmpty || 4 < t.length then none else digitsValue? 16 t

/-- A decimal byte without zeros in front. -/
def byte? (t : Text) : Option Nat :=
  if t.isEmpty || (t.head? == some '0' && t != ['0']) then none
  else (digitsValue? 10 t).filter (· ≤ 255)

/-- The two groups that four decimal bytes stand for. -/
def byteGroups? (t : Text) : Option (List Nat) :=
  match (splitWhere (· == '.') t).mapM byte? with
  | some [a, b, c, d] => some [a * 256 + b, c * 256 + d]
  | _ => none

/-- The groups of a text without `::`. Only the last item may be decimal bytes, and only where `decimalEnd` allows
it. -/
def groupsOf? (decimalEnd : Bool) (t : Text) : Option (List Nat) :=
  if t.isEmpty then some [] else items (splitWhere (· == ':') t)
where
  /-- The groups of the items between colons. -/
  items : List Text → Option (List Nat)
    | [] => some []
    | [t] => if decimalEnd && t.contains '.' then byteGroups? t else (group? t).map ([·])
    | t :: rest => do
      let g ← group? t
      let gs ← items rest
      return g :: gs

/-- The eight groups of a host, given without its brackets. -/
def groups? (t : Text) : Option (List Nat) :=
  match cutAt "::".toList t with
  | some (before, after) => do
    let front ← groupsOf? false before
    let back ← groupsOf? true after
    let written := front.length + back.length
    if 7 < written then none else return front ++ List.replicate (8 - written) 0 ++ back
  | none => (groupsOf? true t).filter (·.length == 8)

/-- The zeros at the start of a list. -/
def leadingZeros (gs : List Nat) : Nat := (gs.takeWhile (· == 0)).length

/-- The length of the longest run of zeros. -/
def longestZeros : List Nat → Nat
  | [] => 0
  | g :: rest => max (leadingZeros (g :: rest)) (longestZeros rest)

/-- Groups in hexadecimal with colons between them. -/
def groupsText (gs : List Nat) : Text := joinWith [':'] (gs.map (Nat.toDigits 16))

/-- The groups in front of the first run of `n` zeros, and those behind it. -/
def cutZeros (n : Nat) : List Nat → List Nat × List Nat
  | [] => ([], [])
  | g :: rest =>
    if n ≤ leadingZeros (g :: rest) then ([], (g :: rest).drop n)
    else ((g :: (cutZeros n rest).1), (cutZeros n rest).2)

/-- The normal form of groups. -/
def groupedText (gs : List Nat) : Text :=
  let n := longestZeros gs
  if n < 2 then groupsText gs
  else
    let (front, back) := cutZeros n gs
    groupsText front ++ ':' :: ':' :: groupsText back

/-- The normal form of a host in brackets. -/
def bracketed? (host : Text) : Option Text :=
  match host with
  | '[' :: rest =>
    if rest.getLast? == some ']' then (groups? rest.dropLast).map fun gs => '[' :: groupedText gs ++ [']'] else none
  | _ => none

end Address

end WikiSite
