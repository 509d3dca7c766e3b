import WikiSite.Site.Path

/-!
# Slugs

A slug is the name under which a post is linked. It is made from the file name, reduced to `a`–`z`, digits, `_` and
single inner hyphens; a file `index.md` takes the lower-case path of its directory instead. A lookup that finds no
exact key compares normal forms, which keep `/` and `.` as well.
-/

namespace WikiSite

/-- Whether `c` may stand in a slug. -/
def isSlugChar (c : Char) : Bool := ('a' ≤ c && c ≤ 'z') || ('0' ≤ c && c ≤ '9') || c == '-' || c == '_'

/-- Whether `c` may stand in the normal form of a key. -/
def isKeyChar (c : Char) : Bool := isSlugChar c || c == '/' || c == '.'

/-- Every run of hyphens as one hyphen. -/
def collapseHyphens : Text → Text
  | [] => []
  | c :: rest =>
    if c == '-' && rest.head? == some '-' then collapseHyphens rest else c :: collapseHyphens rest

/-- Lower case, with hyphens for spaces. -/
def lowerHyphened (t : Text) : Text := (lower t).map fun c => if c == ' ' then '-' else c

/-- The slug made from a name. -/
def slugify (t : Text) : Text :=
  trimBoth (· == '-') (collapseHyphens ((lowerHyphened t).filter isSlugChar))

/-- The normal form of a key, under which spellings that differ in case, spaces or punctuation agree. -/
def normalizeKey (t : Text) : Text := collapseHyphens ((lowerHyphened (trim t)).filter isKeyChar)

/-- Whether the file is the index of its directory. -/
def isIndexFile (ps : List PathPart) : Bool :=
  match (Path.fileName? ps).bind decodeUtf8 with
  | some name => sameLetters name "index.md".toList
  | none => false

/-- The stem of the file name. -/
def fileStem? (ps : List PathPart) : Option Text :=
  ((Path.fileName? ps).map fun name => (Path.cutExtension name).1).bind decodeUtf8

/-- The parts that are text, joined by slashes. -/
def slashed (ps : List PathPart) : Text := joinWith ['/'] (ps.filterMap fun p => decodeUtf8 p.bytes)

/-- The slug of a file by its path below the root. -/
def slugOfPath (relative : Path) : Text :=
  let ps := Path.parts relative
  if isIndexFile ps then lower (((Path.parent? ps).map slashed).getD [])
  else ((fileStem? ps).map slugify).getD []

/-- The title of a file by its path below the root: the stem of its name, or of an index the name of its directory,
with spaces for hyphens and underscores. -/
def titleOfPath (relative : Path) : Text :=
  let ps := Path.parts relative
  let name : Option Bytes :=
    if isIndexFile ps then
      match (Path.parent? ps).bind Path.fileName? with
      | some dir => some dir
      | none => (Path.fileName? ps).map fun n => (Path.cutExtension n).1
    else (Path.fileName? ps).map fun n => (Path.cutExtension n).1
  trim (((name.bind decodeUtf8).getD []).map fun c => if c == '-' || c == '_' then ' ' else c)

end WikiSite
