import WikiSite.Json.Value

/-!
# Reading JSON

The reader accepts one JSON text with blanks around its parts. At most 127 arrays and objects may be open at once.
Of members with the same name the last one counts. A number without fraction and exponent is an integer when it
fits 64 bits; every other number is the double that its first digits, as many as fit 64 bits, times a power of
ten round to, and a number above the largest double is refused.
-/

namespace WikiSite

namespace Json

/-- Arrays and objects that may be open at once, plus one. -/
def depthLimit : Nat := 128

/-- Whether `c` may stand between the parts of a JSON text. -/
def isSpace (c : Char) : Bool := c == ' ' || c == '\n' || c == '\t' || c == '\r'

/-- The text without blanks at its start. -/
def skipSpace (t : Text) : Text := t.dropWhile isSpace

/-! ### Strings -/

/-- The number written by four hexadecimal digits. -/
def hex4? (a b c d : Char) : Option Nat := do
  let a ← hexDigit? a
  let b ← hexDigit? b
  let c ← hexDigit? c
  let d ← hexDigit? d
  return ((a * 16 + b) * 16 + c) * 16 + d

/-- The character that a letter after a backslash stands for. -/
def escape? (c : Char) : Option Char :=
  match c with
  | '"' => some '"'
  | '\\' => some '\\'
  | '/' => some '/'
  | 'b' => some (Char.ofNat 8)
  | 'f' => some (Char.ofNat 12)
  | 'n' => some '\n'
  | 'r' => some '\r'
  | 't' => some '\t'
  | _ => none

/-- Puts a character in front of a string that was read. -/
def prepend (c : Char) (r : Option (Text × Text)) : Option (Text × Text) := r.map fun (s, rest) => (c :: s, rest)

/-- Reads a string after its opening quote, up to and with the closing one. -/
def readString : Text → Option (Text × Text)
  | [] => none
  | '"' :: rest => some ([], rest)
  | '\\' :: 'u' :: a :: b :: c :: d :: rest =>
    match hex4? a b c d with
    | none => none
    | some n =>
      if 0xDC00 ≤ n && n ≤ 0xDFFF then none
      else if 0xD800 ≤ n && n ≤ 0xDBFF then
        match rest with
        | '\\' :: 'u' :: e :: f :: g :: h :: rest' =>
          match hex4? e f g h with
          | none => none
          | some m =>
            if 0xDC00 ≤ m && m ≤ 0xDFFF then
              prepend (Char.ofNat (0x10000 + (n - 0xD800) * 0x400 + (m - 0xDC00))) (readString rest')
            else none
        | _ => none
      else prepend (Char.ofNat n) (readString rest)
  | '\\' :: e :: rest =>
    match escape? e with
    | none => none
    | some c => prepend c (readString rest)
  | c :: rest => if c.toNat < 0x20 || c == '\\' then none else prepend c (readString rest)

/-! ### Numbers -/

/-- The largest number of 64 bits. -/
def largest64 : Nat := limit64 - 1

/-- Takes up digits into a number as long as it fits 64 bits. Returns the number, how many digits were taken up,
and the rest, which begins with a digit when the next one would not fit. -/
def takeDigits (n : Nat) (taken : Nat) : Text → Nat × Nat × Text
  | [] => (n, taken, [])
  | c :: rest =>
    if isDigit c && n * 10 + (c.toNat - '0'.toNat) ≤ largest64 then
      takeDigits (n * 10 + (c.toNat - '0'.toNat)) (taken + 1) rest
    else (n, taken, c :: rest)

/-- The magnitude `mantissa · 2 ^ exponent` of a finite double as numerator and denominator. -/
private def magnitude : Binary64 → Nat × Nat
  | .finite _ m e => let (up, down) := powerOfTwo e; (m * up, down)
  | _ => (0, 1)

/-- Scales the double nearest to `n` by `10 ^ e` in steps of rounded doubles, at most `fuel` of them; `none` above
the largest double. -/
private def scaleSteps (negative : Bool) : Nat → Binary64 → Int → Option Binary64
  | 0, f, _ => some f
  | fuel + 1, f, e =>
    if f.isZero then some (.zero negative)
    else if e.natAbs ≤ 308 then
      let (a, b) := magnitude f
      let (c, d) := magnitude (.ofDecimal false 1 e.natAbs)
      let r := if 0 ≤ e then Binary64.ofFraction negative (a * c) (b * d) else .ofFraction negative (a * d) (b * c)
      if r.isFinite then some r else none
    else if 0 ≤ e then none
    else
      let (a, b) := magnitude f
      let (c, d) := magnitude (.ofDecimal false 1 308)
      scaleSteps negative fuel (.ofFraction negative (a * d) (b * c)) (e + 308)

/-- The double for the digits `n` times `10 ^ e`. -/
def scaled (negative : Bool) (n : Nat) (e : Int) : Option Binary64 :=
  scaleSteps negative 4 (.ofDecimal negative n 0) (max e (-2000))

/-- The exponent that an exponent part names, clamped to what 32 bits hold: the flag tells that it did not fit. -/
private def exponentOf (minus : Bool) (digits : Text) : Int × Bool :=
  let n := natOfDigits digits
  if n ≤ 2147483647 then (if minus then -(n : Int) else n, false) else (0, true)

/-- Reads an exponent part, when there is one, and makes the number. -/
def readExponent (negative : Bool) (n : Nat) (e : Int) (t : Text) : Option (JsonNumber × Text) :=
  match t with
  | 'e' :: rest | 'E' :: rest =>
    let (minus, rest) := cutSign rest
    let digits := rest.takeWhile isDigit
    let rest := rest.dropWhile isDigit
    if digits.isEmpty then none
    else
      let (x, tooLarge) := exponentOf minus digits
      if tooLarge then
        if n != 0 && !minus then none else some (.real (.zero negative), rest)
      else (scaled negative n (e + x)).map fun d => (.real d, rest)
  | _ => (scaled negative n e).map fun d => (.real d, t)

/-- Reads a fraction and an exponent, where `e` digits of the whole part were passed over. -/
def readFraction (negative : Bool) (n : Nat) (e : Nat) (t : Text) : Option (JsonNumber × Text) :=
  match t with
  | '.' :: rest =>
    let (n', taken, after) := takeDigits n 0 rest
    if rest.takeWhile isDigit |>.isEmpty then none
    else readExponent negative n' ((e : Int) - taken) (after.dropWhile isDigit)
  | _ => readExponent negative n e t

/-- Reads the unsigned part of a number. -/
def readUnsigned (negative : Bool) (t : Text) : Option (JsonNumber × Text) :=
  let digits := t.takeWhile isDigit
  if digits.isEmpty || (digits.head? == some '0' && digits.length != 1) then none
  else
    let (n, taken, after) := takeDigits 0 0 t
    let passed := digits.length - taken
    let rest := after.dropWhile isDigit
    match rest with
    | '.' :: _ | 'e' :: _ | 'E' :: _ => readFraction negative n passed rest
    | _ =>
      if passed != 0 then (scaled negative n passed).map fun d => (.real d, rest)
      else if !negative then some (.int n, rest)
      else if n == 0 || 9223372036854775808 < n then some (.real (.ofDecimal true n 0), rest)
      else some (.int (-(n : Int)), rest)

/-- Reads a number. -/
def readNumber (t : Text) : Option (JsonNumber × Text) :=
  match t with
  | '-' :: rest => readUnsigned true rest
  | _ => readUnsigned false t

/-! ### Values -/

/-- Reads the given word. -/
def readWord (word : String) (v : Json) (t : Text) : Option (Json × Text) :=
  (withoutStart word.toList t).map fun rest => (v, rest)

mutual

/-- Reads a value that begins right here. The first argument bounds the number of steps, the second counts how many
more arrays and objects may open, plus one. -/
def readValue : Nat → Nat → Text → Option (Json × Text)
  | 0, _, _ => none
  | fuel + 1, depth, t =>
    match t with
    | [] => none
    | 'n' :: _ => readWord "null" .null t
    | 't' :: _ => readWord "true" (.bool true) t
    | 'f' :: _ => readWord "false" (.bool false) t
    | '"' :: rest => (readString rest).map fun (s, rest) => (.str s, rest)
    | '[' :: rest =>
      if depth ≤ 1 then none
      else
        match skipSpace rest with
        | ']' :: rest => some (.arr [], rest)
        | rest => (readItems fuel (depth - 1) rest).map fun (items, rest) => (.arr items, rest)
    | '\x7b' :: rest =>
      if depth ≤ 1 then none
      else
        match skipSpace rest with
        | '\x7d' :: rest => some (.obj [], rest)
        | rest =>
          (readMembers fuel (depth - 1) rest).map fun (members, rest) => (.obj (Table.ofEntries members), rest)
    | _ => (readNumber t).map fun (n, rest) => (.num n, rest)

/-- Reads the items of an array from the first one on, up to and with the closing bracket. -/
def readItems : Nat → Nat → Text → Option (List Json × Text)
  | 0, _, _ => none
  | fuel + 1, depth, t =>
    match readValue fuel depth t with
    | none => none
    | some (v, rest) =>
      match skipSpace rest with
      | ',' :: rest => (readItems fuel depth (skipSpace rest)).map fun (vs, rest) => (v :: vs, rest)
      | ']' :: rest => some ([v], rest)
      | _ => none

/-- Reads the members of an object from the first one on, up to and with the closing brace. -/
def readMembers : Nat → Nat → Text → Option (List (Text × Json) × Text)
  | 0, _, _ => none
  | fuel + 1, depth, t =>
    match t with
    | '"' :: rest =>
      match readString rest with
      | none => none
      | some (name, rest) =>
        match skipSpace rest with
        | ':' :: rest =>
          match readValue fuel depth (skipSpace rest) with
          | none => none
          | some (v, rest) =>
            match skipSpace rest with
            | ',' :: rest => (readMembers fuel depth (skipSpace rest)).map fun (ms, rest) => ((name, v) :: ms, rest)
            | '\x7d' :: rest => some ([(name, v)], rest)
            | _ => none
        | _ => none
    | _ => none

end

/-- The value that a JSON text holds. -/
def read (t : Text) : Option Json :=
  match readValue (2 * t.length + 2) depthLimit (skipSpace t) with
  | some (v, rest) => if (skipSpace rest).isEmpty then some v else none
  | none => none

end Json

end WikiSite
