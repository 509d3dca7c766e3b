import WikiSite.Config.Value
import WikiSite.Text.Utf8

/-!
# TOML

Reads a TOML document into a table of settings. A table may be defined once: headers open tables that dotted keys or
another header have not defined, dotted keys extend only tables that dotted keys made, and an inline table is closed.
-/

namespace WikiSite

namespace Toml

/-! ### Characters -/

private def isTomlSpace (c : Char) : Bool := c == ' ' || c == '\t'

private def isKeyLetter (c : Char) : Bool := isAsciiLetter c || isDigit c || c == '_' || c == '-'

/-- Whether the character may stand in a comment or string as it is. -/
private def isPlain (c : Char) : Bool := c == '\t' || (0x20 ≤ c.toNat && c.toNat != 0x7F)

private def skipSpaces (t : Text) : Text := t.dropWhile isTomlSpace

/-- Passes over a comment, when there is one; `none` when it holds a control character. -/
private def skipComment (t : Text) : Option Text :=
  match t with
  | '#' :: rest =>
    let after := rest.dropWhile isPlain
    match after with
    | [] | '\n' :: _ | '\r' :: '\n' :: _ => some after
    | _ => none
  | _ => some t

/-- Passes over a line break. -/
private def skipNewline (t : Text) : Option Text :=
  match t with
  | '\n' :: rest => some rest
  | '\r' :: '\n' :: rest => some rest
  | _ => none

/-- Passes over blanks, comments and line breaks. -/
private def skipBlankLines : Nat → Text → Option Text
  | 0, t => some t
  | fuel + 1, t =>
    match skipComment (skipSpaces t) with
    | none => none
    | some t =>
      match skipNewline t with
      | some rest => skipBlankLines fuel rest
      | none => some t

/-- Passes over the rest of a line that holds nothing more. -/
private def endLine (t : Text) : Option Text :=
  match skipComment (skipSpaces t) with
  | some [] => some []
  | some t => skipNewline t
  | none => none

/-! ### Strings -/

private def tomlQuote : Char := Char.ofNat 0x27

private def hexDigits (n : Nat) (t : Text) : Option (Char × Text) :=
  let digits := t.take n
  if digits.length != n then none
  else
    match digitsValue? 16 digits with
    | some v => if (0xD800 ≤ v && v ≤ 0xDFFF) || 0x10FFFF < v then none else some (Char.ofNat v, t.drop n)
    | none => none

/-- The character that an escape stands for, after the backslash. -/
private def readTomlEscape : Text → Option (Char × Text)
  | 'b' :: r => some (Char.ofNat 8, r)
  | 't' :: r => some ('\t', r)
  | 'n' :: r => some ('\n', r)
  | 'f' :: r => some (Char.ofNat 12, r)
  | 'r' :: r => some ('\r', r)
  | '"' :: r => some ('"', r)
  | '\\' :: r => some ('\\', r)
  | 'u' :: r => hexDigits 4 r
  | 'U' :: r => hexDigits 8 r
  | _ => none

/-- Reads a string of one line after its opening quote. -/
private def readLineString (basic : Bool) : Nat → Text → Option (Text × Text)
  | 0, _ => none
  | fuel + 1, t =>
    match t with
    | [] => none
    | c :: rest =>
      if c == (if basic then '"' else tomlQuote) then some ([], rest)
      else if basic && c == '\\' then
        match readTomlEscape rest with
        | some (d, rest) => (readLineString basic fuel rest).map fun (s, r) => (d :: s, r)
        | none => none
      else if isPlain c then (readLineString basic fuel rest).map fun (s, r) => (c :: s, r)
      else none

/-- Reads a string of several lines after its opening quotes. -/
private def readBlockString (basic : Bool) : Nat → Text → Option (Text × Text)
  | 0, _ => none
  | fuel + 1, t =>
    let q := if basic then '"' else tomlQuote
    let quotes := (t.takeWhile (· == q)).length
    if 5 < quotes then none
    else if 3 ≤ quotes then some (List.replicate (quotes - 3) q, t.drop quotes)
    else
      match t with
      | [] => none
      | c :: rest =>
        match skipNewline t with
        | some after => (readBlockString basic fuel after).map fun (s, r) => ('\n' :: s, r)
        | none =>
          if basic && c == '\\' then
            match skipNewline (skipSpaces rest) with
            | some after =>
              readBlockString basic fuel (after.dropWhile fun c => isTomlSpace c || c == '\n' || c == '\r')
            | none =>
              match readTomlEscape rest with
              | some (d, rest) => (readBlockString basic fuel rest).map fun (s, r) => (d :: s, r)
              | none => none
          else if isPlain c then (readBlockString basic fuel rest).map fun (s, r) => (c :: s, r)
          else none

/-- Reads a string from its opening quote on. -/
private def readTomlString (t : Text) : Option (Text × Text) :=
  match t with
  | c :: rest =>
    let basic := c == '"'
    if !basic && c != tomlQuote then none
    else if [c, c, c].isPrefixOf t then
      let body := t.drop 3
      readBlockString basic (t.length + 1) ((skipNewline body).getD body)
    else readLineString basic (t.length + 1) rest
  | [] => none

/-! ### Keys -/

/-- Reads one part of a key. -/
private def readKeyPart (t : Text) : Option (Text × Text) :=
  match t with
  | c :: rest =>
    if c == '"' || c == tomlQuote then
      if [c, c, c].isPrefixOf t then none else readLineString (c == '"') (t.length + 1) rest
    else
      let word := t.takeWhile isKeyLetter
      if word.isEmpty then none else some (word, t.drop word.length)
  | [] => none

/-- Reads the parts of a key between points. -/
private def readKey : Nat → Text → Option (List Text × Text)
  | 0, _ => none
  | fuel + 1, t =>
    match readKeyPart (skipSpaces t) with
    | none => none
    | some (part, rest) =>
      match skipSpaces rest with
      | '.' :: rest => (readKey fuel rest).map fun (parts, r) => (part :: parts, r)
      | rest => some ([part], rest)

/-! ### Scalars -/

/-- Digits with single underscores between them; `none` when an underscore stands elsewhere. -/
private def dropUnderscores (t : Text) : Option Text :=
  let rec go (previous : Bool) : Text → Option Text
    | [] => if previous then some [] else none
    | '_' :: rest => if previous then go false rest else none
    | c :: rest => (go true rest).map (c :: ·)
  go false t

private def numberIn (base : Nat) (t : Text) : Option Nat :=
  match dropUnderscores t with
  | none => none
  | some [] => none
  | some digits =>
    digits.foldl (fun acc c => do
      let acc ← acc
      let d : Nat :=
        if isDigit c then c.toNat - '0'.toNat
        else if 'a' ≤ c && c ≤ 'f' then c.toNat - 'a'.toNat + 10
        else if 'A' ≤ c && c ≤ 'F' then c.toNat - 'A'.toNat + 10
        else base
      if d < base then some (acc * base + d) else none) (some 0)

private def sizedInteger (n : Int) : Option ConfigValue :=
  if isInt64 n then some (.int n) else none

/-- Digits without a superfluous zero in front. -/
private def wholePart (t : Text) : Option Text :=
  match dropUnderscores t with
  | some digits =>
    if !digits.isEmpty && digits.all isDigit && (digits.head? != some '0' || digits.length == 1) then some digits
    else none
  | none => none

private def digitsPart (t : Text) : Option Text :=
  match dropUnderscores t with
  | some digits => if !digits.isEmpty && digits.all isDigit then some digits else none
  | none => none

/-- The double that a number with a fraction or an exponent writes. -/
private def floatOf (negative : Bool) (t : Text) : Option ConfigValue :=
  let (mantissa, exponent) :=
    match cutAtChar 'e' (t.map fun c => if c == 'E' then 'e' else c) with
    | some (m, e) => (m, some e)
    | none => (t, none)
  let (whole, fraction) :=
    match cutAtChar '.' mantissa with
    | some (w, f) => (w, some f)
    | none => (mantissa, none)
  let exponentValue : Option Int :=
    match exponent with
    | none => some 0
    | some e =>
      let (minus, digits) := cutSign e
      (digitsPart digits).map fun d => if minus then -(natOfDigits d : Int) else (natOfDigits d : Int)
  let fractionDigits : Option Text :=
    match fraction with
    | none => some []
    | some f => digitsPart f
  match wholePart whole, fractionDigits, exponentValue with
  | some w, some f, some e => some (.real (.ofDecimal negative (natOfDigits (w ++ f)) (e - f.length)))
  | _, _, _ => none

/-- The value of a number or a word. -/
private def scalarOf (t : Text) : Option ConfigValue :=
  if t == "true".toList then some (.bool true)
  else if t == "false".toList then some (.bool false)
  else
    let (negative, u) := cutSign t
    let isSigned := u.length < t.length
    if u == "inf".toList then some (.real (.infinite negative))
    else if u == "nan".toList then some (.real .nan)
    else
      match t with
      | '0' :: 'x' :: rest => (numberIn 16 rest).bind fun n => sizedInteger n
      | '0' :: 'o' :: rest => (numberIn 8 rest).bind fun n => sizedInteger n
      | '0' :: 'b' :: rest => (numberIn 2 rest).bind fun n => sizedInteger n
      | _ =>
        if isSigned && (u.head? == some '+' || u.head? == some '-') then none
        else
          match wholePart u with
          | some digits =>
            let n : Int := natOfDigits digits
            sizedInteger (if negative then -n else n)
          | none => if u.any fun c => c == '.' || c == 'e' || c == 'E' then floatOf negative u else none

private def isDateText (t : Text) : Bool :=
  match t with
  | a :: b :: c :: d :: '-' :: _ => isDigit a && isDigit b && isDigit c && isDigit d
  | a :: b :: ':' :: _ => isDigit a && isDigit b
  | _ => false

private def isTwoDigits (limit : Nat) (t : Text) : Bool := t.length == 2 && t.all isDigit && natOfDigits t ≤ limit

private def isClockText (t : Text) : Bool :=
  isTwoDigits 23 (t.take 2) && (t.drop 2).head? == some ':' && isTwoDigits 59 ((t.drop 3).take 2) &&
    (t.drop 5).head? == some ':' && isTwoDigits 60 ((t.drop 6).take 2) &&
    (match t.drop 8 with
      | [] => true
      | '.' :: f => !f.isEmpty && f.all isDigit
      | _ => false)

private def isDayText (t : Text) : Bool :=
  t.length == 10 && (t.take 4).all isDigit && (t.drop 4).head? == some '-' && isTwoDigits 12 ((t.drop 5).take 2) &&
    (t.drop 7).head? == some '-' && isTwoDigits 31 (t.drop 8)

/-- The text of a date, a time or both, with `T` between them and a capital `Z`. -/
private def dateOf (t : Text) : Option ConfigValue :=
  if isClockText t then some (.text t)
  else if !isDayText (t.take 10) then none
  else
    match t.drop 10 with
    | [] => some (.text t)
    | sep :: time =>
      if sep != 'T' && sep != 't' && sep != ' ' then none
      else
        let clock := time.takeWhile fun c => isDigit c || c == ':' || c == '.'
        let (clock, zone) :=
          match time.drop clock.length with
          | [] => (clock, some [])
          | ['Z'] | ['z'] => (clock, some ['Z'])
          | sign :: z =>
            (clock, if (sign == '+' || sign == '-') && z.length == 5 && isTwoDigits 23 (z.take 2) &&
                (z.drop 2).head? == some ':' && isTwoDigits 59 (z.drop 3) then some (sign :: z) else none)
        match zone with
        | some z => if isClockText clock then some (.text (t.take 10 ++ 'T' :: clock ++ z)) else none
        | none => none

/-- The stretch of a number, word or date. A space belongs to it between a day and a time. -/
private def scalarStretch (t : Text) : Text :=
  let isPart (c : Char) : Bool := isKeyLetter c || c == '+' || c == '.' || c == ':'
  let word := t.takeWhile isPart
  match t.drop word.length with
  | ' ' :: d :: _ =>
    if isDayText word && isDigit d then word ++ ' ' :: (t.drop (word.length + 1)).takeWhile isPart else word
  | _ => word

/-! ### Documents -/

/-- How a table came to be. -/
inductive Origin where
  | implied
  | header
  | dotted
  deriving DecidableEq

/-- A part of a document while it is read. -/
inductive Item where
  | value (v : ConfigValue)
  | table (origin : Origin) (entries : List (Text × Item))
  | tables (done : List (List (Text × Item))) (last : List (Text × Item))

/-- The entries of a table under construction. -/
abbrev Entries := List (Text × Item)

private def entryOf (es : Entries) (k : Text) : Option Item := List.lookup k es

private def withEntry (es : Entries) (k : Text) (i : Item) : Entries :=
  if (entryOf es k).isSome then es.map fun e => if e.1 == k then (k, i) else e else es ++ [(k, i)]

/-- Changes the table that a header path leads to. -/
private def atHeader (es : Entries) (f : Entries → Option Entries) : List Text → Option Entries
  | [] => f es
  | k :: rest =>
    match entryOf es k with
    | none => (atHeader [] f rest).map fun t => withEntry es k (.table .implied t)
    | some (.table o t) => (atHeader t f rest).map fun t => withEntry es k (.table o t)
    | some (.tables done last) => (atHeader last f rest).map fun t => withEntry es k (.tables done t)
    | some (.value _) => none

/-- Opens the table of a header under its last key. -/
private def openTable (k : Text) (es : Entries) : Option Entries :=
  match entryOf es k with
  | none => some (withEntry es k (.table .header []))
  | some (.table .implied t) => some (withEntry es k (.table .header t))
  | _ => none

/-- Opens a further table of a list under its last key. -/
private def openListed (k : Text) (es : Entries) : Option Entries :=
  match entryOf es k with
  | none => some (withEntry es k (.tables [] []))
  | some (.tables done last) => some (withEntry es k (.tables (done ++ [last]) []))
  | _ => none

/-- Puts a value under a dotted key. -/
private def putDotted (v : ConfigValue) (es : Entries) : List Text → Option Entries
  | [] => none
  | [k] => if (entryOf es k).isSome then none else some (withEntry es k (.value v))
  | k :: rest =>
    match entryOf es k with
    | none => (putDotted v [] rest).map fun t => withEntry es k (.table .dotted t)
    | some (.table o t) =>
      if o = .header then none else (putDotted v t rest).map fun t => withEntry es k (.table o t)
    | _ => none

mutual

/-- The finished value of a part. -/
def Item.finish : Item → ConfigValue
  | .value v => v
  | .table _ es => .table (Table.ofEntries (finishEntries es))
  | .tables done last => .list (finishTables done ++ [.table (Table.ofEntries (finishEntries last))])

/-- The finished values of the entries of a table. -/
def finishEntries : List (Text × Item) → List (Text × ConfigValue)
  | [] => []
  | (k, i) :: rest => (k, i.finish) :: finishEntries rest

/-- The finished values of listed tables. -/
def finishTables : List (List (Text × Item)) → List ConfigValue
  | [] => []
  | es :: rest => .table (Table.ofEntries (finishEntries es)) :: finishTables rest

end

mutual

/-- Reads a value. -/
def readTomlValue : Nat → Text → Option (ConfigValue × Text)
  | 0, _ => none
  | fuel + 1, t =>
    match t with
    | [] => none
    | '[' :: rest => (readTomlItems fuel rest).map fun (items, r) => (.list items, r)
    | '\x7b' :: rest =>
      match skipSpaces rest with
      | '\x7d' :: rest => some (.table [], rest)
      | rest =>
        (readInline fuel [] rest).map fun (es, r) => (.table (Table.ofEntries (finishEntries es)), r)
    | c :: _ =>
      if c == '"' || c == tomlQuote then (readTomlString t).map fun (s, r) => (.text s, r)
      else
        let word := scalarStretch t
        let value := if isDateText word then dateOf word else scalarOf word
        value.map fun v => (v, t.drop word.length)

/-- Reads the items of a list up to and with its closing bracket. -/
def readTomlItems : Nat → Text → Option (List ConfigValue × Text)
  | 0, _ => none
  | fuel + 1, t =>
    match skipBlankLines (t.length + 1) t with
    | none => none
    | some (']' :: rest) => some ([], rest)
    | some t =>
      match readTomlValue fuel t with
      | none => none
      | some (v, rest) =>
        match skipBlankLines (rest.length + 1) rest with
        | some (',' :: rest) => (readTomlItems fuel rest).map fun (vs, r) => (v :: vs, r)
        | some (']' :: rest) => some ([v], rest)
        | _ => none

/-- Reads the entries of an inline table up to and with its closing brace. -/
def readInline : Nat → Entries → Text → Option (Entries × Text)
  | 0, _, _ => none
  | fuel + 1, es, t =>
    match readKey (t.length + 1) t with
    | none => none
    | some (key, '=' :: rest) =>
      match readTomlValue fuel (skipSpaces rest) with
      | none => none
      | some (v, rest) =>
        match putDotted v es key with
        | none => none
        | some es =>
          match skipSpaces rest with
          | ',' :: rest => readInline fuel es rest
          | '\x7d' :: rest => some (es, rest)
          | _ => none
    | some _ => none

end

/-- Reads the lines of a document. The path leads to the table that is open. -/
private def readLines : Nat → Entries → List Text → Text → Option Entries
  | 0, _, _, _ => none
  | fuel + 1, es, path, t =>
    match skipBlankLines (t.length + 1) t with
    | none => none
    | some [] => some es
    | some ('[' :: '[' :: rest) =>
      match readKey (rest.length + 1) rest with
      | some (key, ']' :: ']' :: rest) =>
        match endLine rest, key.getLast? with
        | some rest, some last =>
          match atHeader es (openListed last) key.dropLast with
          | some es => readLines fuel es key rest
          | none => none
        | _, _ => none
      | _ => none
    | some ('[' :: rest) =>
      match readKey (rest.length + 1) rest with
      | some (key, ']' :: rest) =>
        match endLine rest, key.getLast? with
        | some rest, some last =>
          match atHeader es (openTable last) key.dropLast with
          | some es => readLines fuel es key rest
          | none => none
        | _, _ => none
      | _ => none
    | some t =>
      match readKey (t.length + 1) t with
      | some (key, '=' :: rest) =>
        match readTomlValue (2 * rest.length + 2) (skipSpaces rest) with
        | none => none
        | some (v, rest) =>
          match endLine rest, atHeader es (fun table => putDotted v table key) path with
          | some rest, some es => readLines fuel es path rest
          | _, _ => none
      | _ => none

end Toml

/-- The table that a TOML document holds. -/
def readToml (t : Text) : Option (List (Text × ConfigValue)) :=
  let t := if t.head? == some (Char.ofNat 0xFEFF) then t.drop 1 else t
  (Toml.readLines (t.length + 2) [] [] t).map fun es => Table.ofEntries (Toml.finishEntries es)

end WikiSite
