import WikiSite.Text.Basic

/-!
# Dates

Which texts are dates: `YYYY-MM-DD`, the same with a time `HH:MM` or `HH:MM:SS` after a space, or a full timestamp
with an offset. In the first forms numbers may be short, blanks may stand in front of each number and a year may
carry a sign; in a timestamp every number has its full width.
-/

namespace WikiSite

namespace Date

private def numberOf (digits : Text) : Nat := digits.foldl (fun n c => n * 10 + (c.toNat - '0'.toNat)) 0

/-- Reads a number of at most `width` digits. -/
def readNumber (width : Nat) (t : Text) : Option (Nat × Text) :=
  let digits := (t.takeWhile isDigit).take width
  if digits.isEmpty then none else some (numberOf digits, t.drop digits.length)

/-- Reads a number of exactly `width` digits. -/
def readFixed (width : Nat) (t : Text) : Option (Nat × Text) :=
  let digits := t.take width
  if digits.length == width && digits.all isDigit then some (numberOf digits, t.drop width) else none

/-- Reads the given character. -/
def readMark (c : Char) : Text → Option Text
  | d :: rest => if d == c then some rest else none
  | [] => none

/-- Reads a year: up to four digits, or a sign and any number of them. -/
def readYear (t : Text) : Option (Int × Text) :=
  let t := trimStart t
  match t with
  | '-' :: rest => (readNumber rest.length rest).map fun (n, r) => (-(n : Int), r)
  | '+' :: rest => (readNumber rest.length rest).map fun (n, r) => ((n : Int), r)
  | _ => (readNumber 4 t).map fun (n, r) => ((n : Int), r)

/-- Reads a number of one or two digits after blanks. -/
def readPair (t : Text) : Option (Nat × Text) := readNumber 2 (trimStart t)

/-- Whether the year has a 29th of February. -/
def isLeap (year : Int) : Bool := (year % 4 == 0 && year % 100 != 0) || year % 400 == 0

/-- Days of a month. -/
def daysIn (year : Int) (month : Nat) : Nat :=
  if month == 2 then (if isLeap year then 29 else 28)
  else if month == 4 || month == 6 || month == 9 || month == 11 then 30
  else 31

/-- Whether the numbers are a day of the calendar. -/
def isDay (year : Int) (month day : Nat) : Bool :=
  -262143 ≤ year && year ≤ 262142 && 1 ≤ month && month ≤ 12 && 1 ≤ day && day ≤ daysIn year month

/-- Whether the numbers are a time of day; a leap second counts. -/
def isTime (hour minute second : Nat) : Bool := hour < 24 && minute < 60 && second ≤ 60

/-- Reads a day and leaves the rest. -/
def readDay (t : Text) : Option Text := do
  let (year, t) ← readYear t
  let t ← readMark '-' t
  let (month, t) ← readPair t
  let t ← readMark '-' t
  let (day, t) ← readPair t
  if isDay year month day then some t else none

/-- Whether the text is a time of day, with or without seconds. -/
def isClock (t : Text) (seconds : Bool) : Bool :=
  match (do
      let (hour, t) ← readPair t
      let t ← readMark ':' t
      let (minute, t) ← readPair t
      if seconds then
        let t ← readMark ':' t
        let (second, t) ← readPair t
        some (isTime hour minute second && t.isEmpty)
      else some (isTime hour minute 0 && t.isEmpty) : Option Bool) with
  | some b => b
  | none => false

/-- Reads the offset at the end of a timestamp. -/
def isOffset (t : Text) : Bool :=
  match t with
  | ['Z'] | ['z'] => true
  | sign :: rest =>
    (sign == '+' || sign == '-' || sign.toNat == 0x2212) &&
      match (do
          let (hour, r) ← readFixed 2 rest
          let r ← readMark ':' r
          let (minute, r) ← readFixed 2 r
          some (hour < 24 && minute < 60 && r.isEmpty) : Option Bool) with
      | some b => b
      | none => false
  | [] => false

/-- Whether the text is a full timestamp. -/
def isTimestamp (t : Text) : Bool :=
  match (do
      let (year, t) ← readFixed 4 t
      let t ← readMark '-' t
      let (month, t) ← readFixed 2 t
      let t ← readMark '-' t
      let (day, t) ← readFixed 2 t
      let separator ← t.head?
      let (hour, t) ← readFixed 2 (t.drop 1)
      let t ← readMark ':' t
      let (minute, t) ← readFixed 2 t
      let t ← readMark ':' t
      let (second, t) ← readFixed 2 t
      let t ← (match t with
        | '.' :: rest => if rest.head?.any isDigit then some (rest.dropWhile isDigit) else none
        | _ => some t)
      some ((separator == 'T' || separator == 't' || separator == ' ') && isDay year month day &&
        isTime hour minute second && isOffset t) : Option Bool) with
  | some b => b
  | none => false

end Date

/-- Whether the text is a valid date. -/
def isDate (t : Text) : Bool :=
  (match Date.readDay t with
    | some rest => rest.isEmpty || Date.isClock rest true || Date.isClock rest false
    | none => false) ||
    Date.isTimestamp t

end WikiSite
