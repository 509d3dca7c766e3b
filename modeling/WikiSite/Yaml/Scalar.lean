import WikiSite.Yaml.Token

/-!
# Written scalars

How the texts of YAML scalars are read in their styles: plain, in single and double quotes, and as literal and
folded blocks; and how anchors, tags and directives are read.
-/

namespace WikiSite

namespace Yaml

/-! ### Plain scalars -/

private def isFlowMark (c : Char) : Bool := c == ',' || c == '[' || c == ']' || c == '\x7b' || c == '\x7d'

/-- A stretch of a plain scalar without blanks. A colon in front of a flow indicator is refused inside flow
collections. -/
def plainStretch (flow : Bool) : Text → Option Text
  | [] => some []
  | c :: rest =>
    if isGap c || isBreak c then some []
    else if flow && c == ':' && (rest.head?.any fun d => isFlowMark d || d == '?') then none
    else if (c == ':' && atGap rest) || (flow && isFlowMark c) then some []
    else (plainStretch flow rest).map (c :: ·)

/-- Reads a plain scalar; the flag tells whether a line ended after it. -/
def readPlain (flow : Bool) (indent : Int) : Nat → Text → Gap → Spot → Option (Text × Bool × Spot)
  | 0, _, _, _ => none
  | fuel + 1, text, gap, s =>
    if s.atAnyMarker || s.rest.head? == some '#' then some (text, gap.broken, s)
    else
      match plainStretch flow s.rest with
      | none => none
      | some stretch =>
        let text := if stretch.isEmpty then text else text ++ gap.text ++ stretch
        let gap : Gap := if stretch.isEmpty then gap else ⟨[], [], [], false⟩
        let s := s.skip stretch.length
        if s.rest.isEmpty || !atGap s.rest then some (text, gap.broken, s)
        else
          match readGap (some indent) (s.rest.length + 1) gap s with
          | none => none
          | some (gap, s) =>
            if !flow && (s.column : Int) < indent then some (text, gap.broken, s)
            else readPlain flow indent fuel text gap s

/-! ### Quoted scalars -/

private def hexNumber (digits : Text) : Option Nat :=
  digits.foldl (fun n c => do
    let n ← n
    if isDigit c then some (n * 16 + (c.toNat - '0'.toNat))
    else if 'a' ≤ c && c ≤ 'f' then some (n * 16 + (c.toNat - 'a'.toNat + 10))
    else if 'A' ≤ c && c ≤ 'F' then some (n * 16 + (c.toNat - 'A'.toNat + 10))
    else none) (some 0)

/-- The character written by a number of hexadecimal digits at the start of the text. -/
private def hexEscape (count : Nat) (t : Text) : Option (Char × Nat) :=
  if t.length < count then none
  else
    match hexNumber (t.take count) with
    | none => none
    | some n => if (0xD800 ≤ n && n ≤ 0xDFFF) || 0x10FFFF < n then none else some (Char.ofNat n, count)

/-- The character that an escape stands for, given the text after the backslash, and the length of the escape. -/
def readEscape : Text → Option (Char × Nat)
  | [] => none
  | c :: rest =>
    let one (n : Nat) : Option (Char × Nat) := some (Char.ofNat n, 1)
    match c with
    | '0' => one 0
    | 'a' => one 7
    | 'b' => one 8
    | 't' | '\t' => one 9
    | 'n' => one 10
    | 'v' => one 11
    | 'f' => one 12
    | 'r' => one 13
    | 'e' => one 27
    | ' ' | '"' | '/' | '\\' => one c.toNat
    | 'N' => one 0x85
    | '_' => one 0xA0
    | 'L' => one 0x2028
    | 'P' => one 0x2029
    | 'x' => (hexEscape 2 rest).map fun (d, n) => (d, n + 1)
    | 'u' => (hexEscape 4 rest).map fun (d, n) => (d, n + 1)
    | 'U' => (hexEscape 8 rest).map fun (d, n) => (d, n + 1)
    | _ => none

private def apostrophe : Char := Char.ofNat 0x27

/-- Reads a stretch of a quoted scalar without blanks. The flag tells that it ended with an escaped line break. -/
def quotedStretch (single : Bool) : Nat → Text → Spot → Option (Text × Bool × Spot)
  | 0, _, _ => none
  | fuel + 1, text, s =>
    match s.rest with
    | [] => some (text, false, s)
    | c :: rest =>
      if isGap c || isBreak c then some (text, false, s)
      else if single then
        if c == apostrophe then
          if rest.head? == some apostrophe then quotedStretch single fuel (text ++ [c]) (s.skip 2)
          else some (text, false, s)
        else quotedStretch single fuel (text ++ [c]) (s.skip 1)
      else if c == '"' then some (text, false, s)
      else if c == '\\' then
        if rest.head?.any isBreak then some (text, true, (s.skip 1).skipBreak)
        else
          match readEscape rest with
          | none => none
          | some (d, n) => quotedStretch single fuel (text ++ [d]) (s.skip (n + 1))
      else quotedStretch single fuel (text ++ [c]) (s.skip 1)

/-- Reads a quoted scalar after its opening quote, up to and with the closing one. -/
def readQuoted (single : Bool) : Nat → Text → Spot → Option (Text × Spot)
  | 0, _, _ => none
  | fuel + 1, text, s =>
    if s.atAnyMarker || s.rest.isEmpty then none
    else
      match quotedStretch single (s.rest.length + 1) text s with
      | none => none
      | some (text, escaped, s) =>
        let quote := if single then apostrophe else '"'
        if s.rest.head? == some quote then some (text, s.skip 1)
        else
          match readGap none (s.rest.length + 1) ⟨[], [], [], escaped⟩ s with
          | none => none
          | some (gap, s) => readQuoted single fuel (text ++ gap.text) s

/-! ### Block scalars -/

/-- What happens to the line breaks at the end of a block scalar. -/
inductive Chomping where
  | strip
  | clip
  | keep
  deriving DecidableEq

/-- Reads the header of a block scalar after its indicator: the chomping and the indentation, if given. -/
def blockHeader (t : Text) : Option (Chomping × Nat × Nat) :=
  let chomp (c : Char) : Option Chomping :=
    if c == '+' then some .keep else if c == '-' then some .strip else none
  match t with
  | c :: rest =>
    match chomp c with
    | some ch =>
      match rest with
      | d :: _ => if isDigit d then (if d == '0' then none else some (ch, d.toNat - '0'.toNat, 2)) else some (ch, 0, 1)
      | [] => some (ch, 0, 1)
    | none =>
      if isDigit c then
        if c == '0' then none
        else
          let n := c.toNat - '0'.toNat
          match rest.head?.bind chomp with
          | some ch => some (ch, n, 2)
          | none => some (.clip, n, 1)
      else some (.clip, 0, 0)
  | [] => some (.clip, 0, 0)

/-- Reads indentation and empty lines of a block scalar. An indentation of 0 is not yet known and takes any; the
deepest column seen is returned. A tab in the indentation is refused. -/
def blockBreaks (indent : Nat) : Nat → Nat → Text → Spot → Option (Nat × Text × Spot)
  | 0, deepest, breaks, s => some (deepest, breaks, s)
  | fuel + 1, deepest, breaks, s =>
    let spaces := (s.rest.takeWhile (· == ' ')).length
    let s := s.skip (if indent == 0 then spaces else min spaces (indent - s.column))
    let deepest := max deepest s.column
    if (indent == 0 || s.column < indent) && s.rest.head? == some '\t' then none
    else if s.rest.head?.any isBreak then blockBreaks indent fuel deepest (breaks ++ s.breakText) s.skipBreak
    else some (deepest, breaks, s)

/-- Reads the lines of a block scalar: `leading` is the break after the last line read, `trailing` the empty lines
after it, `indented` whether the last line started with a blank. -/
def blockLines (literal : Bool) (indent : Nat) :
    Nat → Text → Text → Text → Bool → Spot → Option (Text × Text × Text × Spot)
  | 0, _, _, _, _, _ => none
  | fuel + 1, text, leading, trailing, indented, s =>
    if s.column != indent || s.rest.isEmpty then some (text, leading, trailing, s)
    else
      let startsBlank := s.rest.head?.any isGap
      let text :=
        if !literal && leading.head? == some '\n' && !indented && !startsBlank then
          if trailing.isEmpty then text ++ [' '] else text
        else text ++ leading
      let text := text ++ trailing
      let line := s.rest.takeWhile (fun c => !isBreak c)
      let s := s.skip line.length
      match blockBreaks indent (s.rest.length + 1) 0 [] s.skipBreak with
      | none => none
      | some (_, breaks, s') => blockLines literal indent fuel (text ++ line) s.breakText breaks startsBlank s'

/-- Reads a block scalar after its indicator, inside a block of the given indentation. -/
def readBlock (literal : Bool) (outer : Int) (s : Spot) : Option (Text × Spot) :=
  match blockHeader s.rest with
  | none => none
  | some (chomping, increment, used) =>
    let s := (s.skip used).skipWhile isGap
    let s := if s.rest.head? == some '#' then s.skipWhile (fun c => !isBreak c) else s
    if !s.rest.isEmpty && !(s.rest.head?.any isBreak) then none
    else
      let s := s.skipBreak
      let given : Nat := if increment == 0 then 0 else (if 0 ≤ outer then outer.toNat + increment else increment)
      match blockBreaks given (s.rest.length + 1) 0 [] s with
      | none => none
      | some (deepest, breaks, s) =>
        let indent := if given == 0 then max (max deepest (outer + 1).toNat) 1 else given
        match blockLines literal indent (s.rest.length + 1) [] [] breaks false s with
        | none => none
        | some (text, leading, trailing, s) =>
          let text := if chomping = .strip then text else text ++ leading
          some (if chomping = .keep then text ++ trailing else text, s)

/-! ### Anchors, tags and directives -/

/-- Reads the name of an anchor or alias after its indicator. -/
def readName (s : Spot) : Option (Text × Spot) :=
  let name := s.rest.takeWhile isNameChar
  let s := s.skip name.length
  let ended := atGap s.rest || (s.rest.head?.any fun c => "?:,]\x7d%@".toList.contains c || c.toNat == 0x60)
  if name.isEmpty || !ended then none else some (name, s)

private def isTagChar (verbatim : Bool) (c : Char) : Bool :=
  isNameChar c || ";/?:@&=+$.!~*()".toList.contains c || c == apostrophe ||
    (verbatim && (c == ',' || c == '[' || c == ']'))

/-- Reads the characters of a tag, percent forms decoded. -/
def tagCharacters (verbatim : Bool) : Nat → Spot → Option (List UInt8 × Spot)
  | 0, _ => none
  | fuel + 1, s =>
    match s.rest with
    | '%' :: a :: b :: _ =>
      match hexNumber [a, b] with
      | none => none
      | some n => (tagCharacters verbatim fuel (s.skip 3)).map fun (bs, s) => (UInt8.ofNat n :: bs, s)
    | '%' :: _ => none
    | c :: _ =>
      if isTagChar verbatim c then
        (tagCharacters verbatim fuel (s.skip 1)).map fun (bs, s) => (String.utf8EncodeChar c ++ bs, s)
      else some ([], s)
    | [] => some ([], s)

private def readTagText (verbatim : Bool) (s : Spot) : Option (Text × Spot) :=
  match tagCharacters verbatim (s.rest.length + 1) s with
  | none => none
  | some (bytes, s) => if bytes.all (· < 0x80) then some (bytes.map fun b => Char.ofNat b.toNat, s) else none

/-- Reads a tag from its exclamation mark on: its handle and its suffix. -/
def readTag (flow : Bool) (s : Spot) : Option (Text × Text × Spot) :=
  let ended (s : Spot) : Bool := atGap s.rest || (flow && s.rest.head? == some ',')
  match s.rest with
  | '!' :: '<' :: _ =>
    match readTagText true (s.skip 2) with
    | some (uri, s) =>
      if uri.isEmpty || s.rest.head? != some '>' then none
      else if ended (s.skip 1) then some ([], uri, s.skip 1) else none
    | none => none
  | '!' :: rest =>
    let word := rest.takeWhile isNameChar
    let after := rest.drop word.length
    if after.head? == some '!' then
      match readTagText false (s.skip (word.length + 2)) with
      | some (suffix, s) => if suffix.isEmpty || !ended s then none else some ('!' :: word ++ ['!'], suffix, s)
      | none => none
    else
      match readTagText false (s.skip 1) with
      | some (suffix, s) =>
        if !ended s then none
        else if suffix.isEmpty then some ([], ['!', '!'], s) else some (['!'], suffix, s)
      | none => none
  | _ => none

/-- Reads the number of a version directive. -/
private def versionNumber (s : Spot) : Option (Nat × Spot) :=
  let digits := s.rest.takeWhile isDigit
  if digits.isEmpty || 9 < digits.length then none
  else some (digits.foldl (fun n c => n * 10 + (c.toNat - '0'.toNat)) 0, s.skip digits.length)

/-- Reads a directive from its percent sign to the end of its line. -/
def readDirective (s : Spot) : Option (Token × Spot) :=
  let name := (s.rest.drop 1).takeWhile isNameChar
  let s := s.skip (name.length + 1)
  if name.isEmpty || !atGap s.rest then none
  else
    let s := s.skipWhile isGap
    let body : Option (Token × Spot) :=
      if name == "YAML".toList then
        match versionNumber s with
        | some (major, s) =>
          if s.rest.head? != some '.' then none
          else (versionNumber (s.skip 1)).map fun (minor, s) => (.version major minor, s)
        | none => none
      else if name == "TAG".toList then
        match s.rest with
        | '!' :: rest =>
          let word := rest.takeWhile isNameChar
          let closed := (rest.drop word.length).head? == some '!'
          if !word.isEmpty && !closed then none
          else
            let handle := '!' :: word ++ (if closed then ['!'] else [])
            let s := s.skip handle.length
            if !(s.rest.head?.any isGap) then none
            else
              match readTagText true (s.skipWhile isGap) with
              | some (target, s) => if target.isEmpty || !atGap s.rest then none else some (.tagHandle handle target, s)
              | none => none
        | _ => none
      else none
    match body with
    | none => none
    | some (token, s) =>
      let s := s.skipWhile isGap
      let s := if s.rest.head? == some '#' then s.skipWhile (fun c => !isBreak c) else s
      if s.rest.isEmpty || s.rest.head?.any isBreak then some (token, s.skipBreak) else none

end Yaml

end WikiSite
