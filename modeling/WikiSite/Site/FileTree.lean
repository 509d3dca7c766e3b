import WikiSite.Site.Path

/-!
# File trees

The files of a machine as a value: directories and files by the names that lead to them from the root. Paths that do
not start at the root are found from the working directory. Every file is reached by proper file names, and no two
files are in the same place.
-/

namespace WikiSite

/-- Whether the bytes can name a file in a directory: they are not empty, hold no slash and are neither `.` nor `..`. -/
def isFileName (n : Bytes) : Bool := !n.isEmpty && !n.contains 0x2F && n != [0x2E] && n != [0x2E, 0x2E]

/-- Directories and files. -/
structure FileTree where
  /-- Where relative paths start. -/
  workingDir : List Bytes
  dirs : List (List Bytes)
  files : List (List Bytes × Bytes)
  /-- Files are reached by file names. -/
  named : ∀ f ∈ files, f.1.all isFileName
  /-- A place holds at most one file. -/
  distinct : (files.map (·.1)).Nodup

/-- Why a file cannot be read. -/
inductive FileError where
  | notFound
  | isADirectory
  | notADirectory
  | invalidData
  | invalidInput
  deriving DecidableEq, Repr

/-- The beginnings of a list that end before its last entry, with the empty one. -/
def properStarts {α : Type} (l : List α) : List (List α) := (List.range l.length).map l.take

namespace FileTree

/-- The tree that holds only the working directory and what leads to it. -/
def empty (workingDir : List Bytes) : FileTree :=
  ⟨workingDir, workingDir :: properStarts workingDir, [], by simp, by simp⟩

/-- Whether the names lead to a directory. -/
def isDir (t : FileTree) (names : List Bytes) : Bool := t.dirs.contains names

/-- The content of the file that the names lead to. -/
def file? (t : FileTree) (names : List Bytes) : Option Bytes := t.files.lookup names

/-- Follows parts from a directory. Every name but the last must lead to a directory. -/
def follow (t : FileTree) (here : List Bytes) : List PathPart → Except FileError (List Bytes)
  | [] => .ok here
  | .root :: rest => follow t [] rest
  | .here :: rest => follow t here rest
  | .up :: rest => follow t here.dropLast rest
  | .name n :: rest =>
    let next := here ++ [n]
    if rest.isEmpty || t.isDir next then follow t next rest
    else if (t.file? next).isSome then .error .notADirectory
    else .error .notFound

/-- The names that a path leads to. -/
def locate (t : FileTree) (p : Path) : Except FileError (List Bytes) :=
  if p.contains 0 then .error .invalidInput
  else if p.isEmpty then .error .notFound
  else
    match follow t t.workingDir (Path.parts p) with
    | .ok names =>
      if p.getLast? == some 0x2F && (t.file? names).isSome then .error .notADirectory else .ok names
    | .error e => .error e

/-- Deletes a file. -/
def delete (t : FileTree) (names : List Bytes) : FileTree :=
  { t with
    files := t.files.filter fun f => f.1 != names
    named := fun f hf => t.named f (List.mem_filter.1 hf).1
    distinct := (List.filter_sublist.map _).nodup t.distinct }

/-- Writes a file; the directories that lead to it are made. Nothing is written where a name is no file name. -/
def write (t : FileTree) (names : List Bytes) (content : Bytes) : FileTree :=
  if h : names.all isFileName then
    { t with
      dirs := t.dirs ++ (properStarts names).filter fun d => !t.dirs.contains d
      files := (t.delete names).files ++ [(names, content)]
      named := by
        intro f hf
        rcases List.mem_append.1 hf with hf | hf
        · exact (t.delete names).named f hf
        · rw [List.mem_singleton.1 hf]
          exact h
      distinct := by
        rw [List.map_append, List.nodup_append]
        exact ⟨(t.delete names).distinct, by simp, by simp [delete]⟩ }
  else t

/-- Writes the file at a path, or deletes it when there is no content. -/
def put (t : FileTree) (p : Path) (content : Option Bytes) : FileTree :=
  let names := (Path.parts p).filterMap fun part =>
    match part with
    | .name n => some n
    | _ => none
  let names := if Path.isAbsolute p then names else t.workingDir ++ names
  match content with
  | some c => t.write names c
  | none => t.delete names

/-- The bytes of the file at a path. -/
def readBytes (t : FileTree) (p : Path) : Except FileError Bytes :=
  match t.locate p with
  | .error e => .error e
  | .ok names =>
    match t.file? names with
    | some content => .ok content
    | none => if t.isDir names then .error .isADirectory else .error .notFound

/-- The text of the file at a path. -/
def readText (t : FileTree) (p : Path) : Except FileError Text :=
  match t.readBytes p with
  | .error e => .error e
  | .ok bytes =>
    match decodeUtf8 bytes with
    | some text => .ok text
    | none => .error .invalidData

/-- Whether there is a file at the path. -/
def isFile (t : FileTree) (p : Path) : Bool :=
  match t.readBytes p with
  | .ok _ => true
  | .error _ => false

/-- The files at or below a path: the names that lead to each from there, and its bytes. -/
def filesBelow (t : FileTree) (p : Path) : List (List Bytes × Bytes) :=
  match t.locate p with
  | .error _ => []
  | .ok base => (t.files.filter fun f => base.isPrefixOf f.1).map fun f => (f.1.drop base.length, f.2)

/-! ### Walking down a directory -/

/-- The names that stand in a directory, each once, by the files at or below it. -/
def entryNames (files : List (List Bytes × Bytes)) : List Bytes := (files.filterMap fun f => f.1.head?).eraseDups

/-- The files at or below an entry of a directory, by the names that lead to them from the entry. -/
def under (n : Bytes) (files : List (List Bytes × Bytes)) : List (List Bytes × Bytes) :=
  files.filterMap fun f =>
    match f.1 with
    | m :: rest => if m = n then some (rest, f.2) else none
    | [] => none

/-- The file that is at a place itself, by the files at or below it. -/
def fileHere (here : List Bytes) (files : List (List Bytes × Bytes)) : List (List Bytes × Bytes) :=
  (files.filter fun f => f.1.isEmpty).map fun f => (here, f.2)

/-- What a walk finds that has come to a place with files at or below it: the file that is there, and, when the place
is entered as a directory, what it finds from each entry. It goes down `depth` steps at most. -/
def walkFrom (enters : List Bytes → Bool) : Nat → List Bytes → List (List Bytes × Bytes) → List (List Bytes × Bytes)
  | 0, here, files => fileHere here files
  | depth + 1, here, files =>
    if enters here then
      fileHere here files ++
        (entryNames files).flatMap fun n => walkFrom enters depth (here ++ [n]) (under n files)
    else fileHere here files

/-- The files that a walk from a path finds, by the names that lead to them from there. It stays out of the directories
that are not entered. -/
def walk (t : FileTree) (enters : List Bytes → Bool) (p : Path) : List (List Bytes × Bytes) :=
  let files := t.filesBelow p
  -- no file lies deeper than the longest sequence of names
  walkFrom enters ((files.map fun f => f.1.length).max?.getD 0) [] files

end FileTree

end WikiSite
