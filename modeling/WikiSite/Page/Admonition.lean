import WikiSite.Page.Wikilink
import WikiSite.Text.Letter

/-!
# Admonitions

A line that starts, after blanks, with `!!!`, `???` or `???+` opens an admonition; after blanks follows the name of
its type. Twelve types are known, and their names are recognised in either case.
-/

namespace WikiSite

/-- The known admonition types. -/
inductive AdmonitionKind where
  | note | abstract | info | tip | success | question | warning | failure | danger | bug | sample | quote
  deriving DecidableEq, Repr

namespace AdmonitionKind

/-- Every type, in the order in which they are offered. -/
def all : List AdmonitionKind :=
  [.note, .abstract, .info, .tip, .success, .question, .warning, .failure, .danger, .bug, .sample, .quote]

/-- The name of a type. -/
def name : AdmonitionKind → String
  | .note => "note"
  | .abstract => "abstract"
  | .info => "info"
  | .tip => "tip"
  | .success => "success"
  | .question => "question"
  | .warning => "warning"
  | .failure => "failure"
  | .danger => "danger"
  | .bug => "bug"
  | .sample => "example"
  | .quote => "quote"

/-- What a type is for. -/
def description : AdmonitionKind → String
  | .note => "General information the reader should notice"
  | .abstract => "Summary or TL;DR of the section"
  | .info => "Neutral background information"
  | .tip => "Helpful suggestion or shortcut"
  | .success => "A completed step or positive outcome"
  | .question => "Open question or FAQ entry"
  | .warning => "Something that needs care"
  | .failure => "A failed step or known problem"
  | .danger => "Risk of data loss or breakage"
  | .bug => "Known bug"
  | .sample => "Worked example"
  | .quote => "Quotation or citation"

/-- The type with the given name, in either case. -/
def ofName? (t : Text) : Option AdmonitionKind := all.find? fun k => sameLetters k.name.toList t

end AdmonitionKind

/-- Splits the marker of an admonition off the start of a text. -/
def cutMarker : Text → Option (Text × Text)
  | '?' :: '?' :: '?' :: '+' :: rest => some ("???+".toList, rest)
  | '?' :: '?' :: '?' :: rest => some ("???".toList, rest)
  | '!' :: '!' :: '!' :: rest => some ("!!!".toList, rest)
  | _ => none

/-- An admonition marker being typed. -/
structure AdmonitionTyped where
  marker : Text
  /-- The part of the type name that is there. -/
  text : Text
  /-- Column where the type name starts. -/
  first : Nat
  deriving DecidableEq, Repr

/-- The admonition marker being typed in front of a column. -/
def admonitionTyped (line : Text) (column : Nat) : Option AdmonitionTyped :=
  let before := textUpTo line column
  let leading := before.length - (trimStart before).length
  match cutMarker (trim before) with
  | none => none
  | some (marker, []) => some ⟨marker, [], before.length⟩
  | some (marker, rest) =>
    let name := trimStart rest
    if name.length < rest.length && name.all isWord then
      some ⟨marker, name, leading + marker.length + (rest.length - name.length)⟩
    else none

/-- An admonition line; the columns reach from the marker to the end of the type name. -/
structure Admonition where
  marker : Text
  kind : Text
  first : Nat
  last : Nat
  deriving DecidableEq, Repr

/-- The admonition that a line opens. -/
def admonitionOn (line : Text) : Option Admonition :=
  let start := trimStart line
  let leading := line.length - start.length
  match cutMarker start with
  | none => none
  | some (marker, rest) =>
    let afterBlanks := trimStart rest
    let kind := afterBlanks.takeWhile isWord
    if afterBlanks.length < rest.length && !kind.isEmpty then
      some ⟨marker, kind, leading,
        leading + marker.length + (rest.length - afterBlanks.length) + kind.length⟩
    else none

/-- The admonition of a line, when it covers the column. -/
def admonitionAt (line : Text) (column : Nat) : Option Admonition :=
  (admonitionOn line).filter fun a => a.first ≤ column && column < a.last

end WikiSite
