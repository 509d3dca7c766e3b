import WikiSite.Text.Lowercase
import WikiSite.Text.Utf8

/-!
# File paths

A path is a sequence of bytes that need not be text. Its parts are found between slashes: repeated slashes and inner
`.` parts do not count, a `.` in front of a relative path does. Two paths are the same file when their parts agree.
-/

namespace WikiSite

/-- A file path. -/
abbrev Path := Bytes

/-- A part of a path. -/
inductive PathPart where
  | root
  | here
  | up
  | name (bytes : Bytes)
  deriving DecidableEq, Repr

/-- The byte between the parts of a path. -/
def slash : UInt8 := 0x2F

/-- The byte that `.` and `..` are made of. -/
def dot : UInt8 := 0x2E

/-- The pieces of a byte sequence between the given byte. -/
def splitBytes (b : UInt8) : Bytes → List Bytes
  | [] => [[]]
  | c :: rest =>
    if c == b then [] :: splitBytes b rest
    else
      match splitBytes b rest with
      | [] => [[c]]
      | piece :: pieces => (c :: piece) :: pieces

namespace PathPart

/-- How the part is written. -/
def bytes : PathPart → Bytes
  | .root => [slash]
  | .here => [dot]
  | .up => [dot, dot]
  | .name b => b

/-- The place of a kind of part in the order of paths. -/
def rank : PathPart → Nat
  | .root => 0
  | .here => 1
  | .up => 2
  | .name _ => 3

/-- The order of parts: kinds first, then names by their bytes. -/
def before (a b : PathPart) : Bool :=
  match a, b with
  | .name x, .name y => decide (x < y)
  | _, _ => rank a < rank b

end PathPart

namespace Path

/-- The path that a text names. -/
def ofText (t : Text) : Path := encodeUtf8 t

/-- The text of a path, with the replacement character where it is not text. -/
def display (p : Path) : Text := decodeLenient p

/-- Whether the path starts at the root. -/
def isAbsolute (p : Path) : Bool := p.head? == some slash

/-- The parts that the pieces between slashes stand for, empty pieces and inner `.` left out. -/
def partsOfPieces (pieces : List Bytes) : List PathPart :=
  pieces.filterMap fun piece =>
    if piece.isEmpty || piece == [dot] then none
    else if piece == [dot, dot] then some .up
    else some (.name piece)

/-- The parts of a path. -/
def parts (p : Path) : List PathPart :=
  let pieces := splitBytes slash p
  if isAbsolute p then .root :: partsOfPieces pieces
  else if pieces.head? == some [dot] then .here :: partsOfPieces pieces
  else partsOfPieces pieces

/-- The path written by the parts. -/
def ofParts : List PathPart → Path
  | [] => []
  | .root :: rest => slash :: ofParts rest
  | [p] => p.bytes
  | p :: rest => p.bytes ++ slash :: ofParts rest

/-- Whether two paths have the same parts. -/
def same (a b : Path) : Bool := parts a == parts b

/-- The order of part sequences. -/
def partsBefore : List PathPart → List PathPart → Bool
  | _, [] => false
  | [], _ :: _ => true
  | a :: as, b :: bs => if a = b then partsBefore as bs else a.before b

/-- The order of paths, part by part. -/
def before (a b : Path) : Bool := partsBefore (parts a) (parts b)

/-- The path below a directory; an absolute path is itself. -/
def join (dir p : Path) : Path :=
  if isAbsolute p then p
  else if dir.isEmpty || dir.getLast? == some slash then dir ++ p
  else dir ++ slash :: p

/-- The name of the last part. -/
def fileName? (ps : List PathPart) : Option Bytes :=
  match ps.getLast? with
  | some (.name b) => some b
  | _ => none

/-- The parts without the last one; `none` at the root and for no parts. -/
def parent? (ps : List PathPart) : Option (List PathPart) :=
  match ps.getLast? with
  | none | some .root => none
  | some _ => some ps.dropLast

/-- A file name cut at its last point into stem and extension; a name without a point, or with one only in front, has
no extension. -/
def cutExtension (name : Bytes) : Bytes × Option Bytes :=
  match (splitBytes dot name).reverse with
  | extension :: stem :: more =>
    let before := ((stem :: more).reverse.intersperse [dot]).flatten
    if before.isEmpty then (name, none) else (before, some extension)
  | _ => (name, none)

/-- The path below `base` that leads to `p`, when both are absolute or both are relative; an absolute path is found
from anywhere. -/
def partsFrom (p base : Path) : Option (List PathPart) :=
  if isAbsolute p != isAbsolute base then
    if isAbsolute p then some (parts p) else none
  else walk [] (parts p) (parts base)
where
  /-- Walks both part lists; `out` holds the parts found so far, last first. -/
  walk (out : List PathPart) : List PathPart → List PathPart → Option (List PathPart)
    | [], [] => some out.reverse
    | a :: as, [] => some (out.reverse ++ a :: as)
    | [], _ :: bs => walk (.up :: out) [] bs
    | a :: as, b :: bs =>
      if out.isEmpty && a = b then walk out as bs
      else if b = .here then walk (a :: out) as bs
      else if b = .up then none
      else some (out.reverse ++ .up :: bs.map (fun _ => PathPart.up) ++ a :: as)

/-- The path relative to the root, or only the file name when there is no root or the file lies outside it. -/
def relativeTo (root : Option Path) (p : Path) : Path :=
  let inside : Option Path :=
    match root with
    | none => none
    | some r =>
      if isAbsolute p && !isAbsolute r then some p
      else
        match partsFrom p r with
        | some ps => if ps.head? == some .up then none else some (ofParts ps)
        | none => none
  match inside with
  | some rel => rel
  | none => (fileName? (parts p)).getD p

end Path

end WikiSite
