import WikiSite.Yaml.Scalar

/-!
# From YAML text to tokens

Collections in block style have no brackets: a deeper column opens one and a shallower column closes it. A mapping
key is found only when its colon comes: every place where a key may start is remembered, and the tokens that open
the mapping and the key are put in there later, provided the colon stands on the same line and at most 1024
characters away.
-/

namespace WikiSite

namespace Yaml

/-- A place where a key may have started. -/
structure KeyPlace where
  /-- Whether what started there must be a key. -/
  required : Bool
  /-- Number of tokens in front of the place. -/
  tokens : Nat
  index : Nat
  line : Nat
  column : Nat

/-- The state of the reader of tokens. -/
structure Scan where
  spot : Spot
  tokens : Array Token
  /-- The current column of block collections, `-1` outside all of them. -/
  indent : Int
  /-- The columns of the enclosing block collections. -/
  indents : List Int
  /-- The current key place, and those of the enclosing flow collections. -/
  place : Option KeyPlace
  places : List (Option KeyPlace)
  /-- Whether a key may start here. -/
  keyAllowed : Bool

namespace Scan

/-- Whether the position is inside a flow collection. -/
def inFlow (s : Scan) : Bool := !s.places.isEmpty

/-- The state at the start of a text. -/
def start (t : Text) : Scan := ⟨⟨t, 0, 0, 0⟩, #[], -1, [], none, [], true⟩

/-- Appends a token. -/
def push (s : Scan) (t : Token) : Scan := { s with tokens := s.tokens.push t }

/-- Gives up the current key place; a required one may not be given up. -/
def dropPlace (s : Scan) : Option Scan :=
  match s.place with
  | some p => if p.required then none else some { s with place := none }
  | none => some s

/-- Remembers the position as a key place, when a key may start here. -/
def savePlace (s : Scan) : Option Scan :=
  if !s.keyAllowed then some s
  else
    (s.dropPlace).map fun s =>
      { s with
        place := some
          ⟨!s.inFlow && s.indent == s.spot.column, s.tokens.size, s.spot.index, s.spot.line, s.spot.column⟩ }

/-- Gives up key places that are too far away. -/
def dropStale (s : Scan) : Option Scan :=
  let stale (p : KeyPlace) : Bool := p.line < s.spot.line || p.index + 1024 < s.spot.index
  let check (p : Option KeyPlace) : Option (Option KeyPlace) :=
    match p with
    | some p => if stale p then (if p.required then none else some none) else some (some p)
    | none => some none
  match check s.place, s.places.mapM check with
  | some place, some places => some { s with place := place, places := places }
  | _, _ => none

/-- Closes block collections that are deeper than the column. -/
def unrollTo (column : Int) : Nat → Scan → Scan
  | 0, s => s
  | fuel + 1, s =>
    if s.inFlow || s.indent ≤ column then s
    else
      unrollTo column fuel
        { s with tokens := s.tokens.push .blockEnd, indent := s.indents.head?.getD (-1), indents := s.indents.drop 1 }

/-- Closes the block collections that are deeper than the column. -/
def unroll (s : Scan) (column : Int) : Scan := unrollTo column (s.indents.length + 1) s

/-- Opens a block collection at a column deeper than the current one, its token put after the first `at` tokens. -/
def roll (s : Scan) (column : Nat) (position : Nat) (t : Token) : Scan :=
  if s.inFlow || (column : Int) ≤ s.indent then s
  else
    { s with
      tokens := s.tokens.insertIdxIfInBounds position t
      indent := column
      indents := s.indent :: s.indents }

/-- Passes over blanks, comments and line breaks. -/
def toToken : Nat → Scan → Scan
  | 0, s => s
  | fuel + 1, s =>
    let spot := if s.spot.index == 0 && s.spot.rest.head? == some (Char.ofNat 0xFEFF) then s.spot.skip 1 else s.spot
    let tabs := s.inFlow || !s.keyAllowed
    let spot := spot.skipWhile (fun c => c == ' ' || (tabs && c == '\t'))
    let spot := if spot.rest.head? == some '#' then spot.skipWhile (fun c => !isBreak c) else spot
    if spot.rest.head?.any isBreak then
      toToken fuel { s with spot := spot.skipBreak, keyAllowed := s.keyAllowed || !s.inFlow }
    else { s with spot := spot }

/-- Passes over the indicator and appends its token. -/
private def indicator (s : Scan) (n : Nat) (t : Token) (keyAllowed : Bool) : Scan :=
  { s with spot := s.spot.skip n, tokens := s.tokens.push t, keyAllowed := keyAllowed }

private def flowStart (s : Scan) (t : Token) : Option Scan :=
  s.savePlace.map fun s => indicator { s with place := none, places := s.place :: s.places } 1 t true

private def flowEnd (s : Scan) (t : Token) : Option Scan :=
  s.dropPlace.map fun s =>
    let s :=
      match s.places with
      | p :: places => { s with place := p, places := places }
      | [] => s
    indicator s 1 t false

private def marker (s : Scan) (t : Token) : Option Scan :=
  (s.unroll (-1)).dropPlace.map fun s => indicator s 3 t false

private def blockEntry (s : Scan) : Option Scan :=
  if !s.inFlow && !s.keyAllowed then none
  else (s.roll s.spot.column s.tokens.size .blockSequence).dropPlace.map fun s => indicator s 1 .blockEntry true

private def explicitKey (s : Scan) : Option Scan :=
  if !s.inFlow && !s.keyAllowed then none
  else
    (s.roll s.spot.column s.tokens.size .blockMapping).dropPlace.map fun s => indicator s 1 .key (!s.inFlow)

private def mappingValue (s : Scan) : Option Scan :=
  match s.place with
  | some p =>
    let s := { s with tokens := s.tokens.insertIdxIfInBounds p.tokens .key, place := none }
    some (indicator (s.roll p.column p.tokens .blockMapping) 1 .value false)
  | none =>
    if !s.inFlow && !s.keyAllowed then none
    else some (indicator (s.roll s.spot.column s.tokens.size .blockMapping) 1 .value (!s.inFlow))

/-- Appends a token that was read together with the position after it. -/
private def after (s : Scan) (keyAllowed : Bool) (r : Option (Token × Spot)) : Option Scan :=
  r.map fun (t, spot) => { s with tokens := s.tokens.push t, spot := spot, keyAllowed := keyAllowed }

private def fetchPlain (s : Scan) : Option Scan :=
  match s.savePlace with
  | none => none
  | some s =>
    match readPlain s.inFlow (s.indent + 1) (s.spot.rest.length + 1) [] ⟨[], [], [], false⟩ s.spot with
    | some (text, broken, spot) => after s broken (some (.scalar true text, spot))
    | none => none

private def fetchQuoted (s : Scan) (single : Bool) : Option Scan :=
  s.savePlace.bind fun s =>
    after s false <|
      (readQuoted single (s.spot.rest.length + 1) [] (s.spot.skip 1)).map fun (t, spot) => (.scalar false t, spot)

private def fetchBlock (s : Scan) (literal : Bool) : Option Scan :=
  s.dropPlace.bind fun s =>
    after s true <| (readBlock literal s.indent (s.spot.skip 1)).map fun (t, spot) => (.scalar false t, spot)

private def fetchName (s : Scan) (make : Text → Token) : Option Scan :=
  s.savePlace.bind fun s => after s false <| (readName (s.spot.skip 1)).map fun (t, spot) => (make t, spot)

private def fetchTag (s : Scan) : Option Scan :=
  s.savePlace.bind fun s =>
    after s false <| (readTag s.inFlow s.spot).map fun (handle, suffix, spot) => (.tag handle suffix, spot)

/-- Reads the next token, at a position where one starts. -/
def fetch (s : Scan) : Option Scan :=
  match s.spot.rest with
  | [] => none
  | c :: rest =>
    let plainStart : Bool :=
      if c == '-' then !(rest.head?.any isGap)
      else if c == '?' || c == ':' then !s.inFlow && !atGap rest
      else !(isGap c || isBreak c || ",[]\x7b\x7d#&*!|>\"%@".toList.contains c || c.toNat == 0x60 || c.toNat == 0x27)
    if s.spot.column == 0 && c == '%' then
      (s.unroll (-1)).dropPlace.bind fun s => after s false (readDirective s.spot)
    else if s.spot.atMarker '-' then marker s .documentStart
    else if s.spot.atMarker '.' then marker s .documentEnd
    else if c == '[' then flowStart s .flowSequence
    else if c == '\x7b' then flowStart s .flowMapping
    else if c == ']' then flowEnd s .flowSequenceEnd
    else if c == '\x7d' then flowEnd s .flowMappingEnd
    else if c == ',' then s.dropPlace.map fun s => indicator s 1 .flowEntry true
    else if c == '-' && atGap rest then blockEntry s
    else if c == '?' && (s.inFlow || atGap rest) then explicitKey s
    else if c == ':' && (s.inFlow || atGap rest) then mappingValue s
    else if c == '*' then fetchName s .alias
    else if c == '&' then fetchName s .anchor
    else if c == '!' then fetchTag s
    else if c == '|' && !s.inFlow then fetchBlock s true
    else if c == '>' && !s.inFlow then fetchBlock s false
    else if c.toNat == 0x27 then fetchQuoted s true
    else if c == '"' then fetchQuoted s false
    else if plainStart then fetchPlain s
    else none

/-- Closes everything at the end of the text. -/
def finish (s : Scan) : Option Scan := (s.unroll (-1)).dropPlace

/-- Reads all tokens. -/
def run : Nat → Scan → Option Scan
  | 0, _ => none
  | fuel + 1, s =>
    match (toToken (s.spot.rest.length + 1) s).dropStale with
    | none => none
    | some s =>
      let s := s.unroll s.spot.column
      if s.spot.rest.isEmpty then s.finish
      else
        match s.fetch with
        | none => none
        | some s => run fuel s

end Scan

/-- The tokens of a YAML text; a byte order mark in front of it does not count. -/
def tokens (t : Text) : Option (List Token) :=
  let t := if t.head? == some (Char.ofNat 0xFEFF) then t.drop 1 else t
  if !t.all isAllowed then none
  else (Scan.run (2 * t.length + 2) (Scan.start t)).map fun s => s.tokens.toList

end Yaml

end WikiSite
