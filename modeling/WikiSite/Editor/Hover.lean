import WikiSite.Editor.Place
import WikiSite.Page.Cursor
import WikiSite.Site.Index

/-!
# Hover and definitions

What is shown for the thing under the cursor, and where it is defined. Links and mentions that lead nowhere say so.
In the frontmatter only known fields are explained.
-/

namespace WikiSite

/-- A note in Markdown and the stretch it is about. -/
structure Hover where
  value : Text
  range : Option Range
  deriving DecidableEq, Repr

namespace Hover

private def paragraphs (ts : List Text) : Text := joinWith "\n\n".toList ts

/-- The card of a post. -/
def postCard (p : Post) : Text :=
  paragraphs <|
    ["**".toList ++ p.title ++ "**\n\n`[[".toList ++ p.slug ++ "]]`".toList] ++
      (if p.description.isEmpty then [] else [p.description]) ++
      (if p.aliases.isEmpty then [] else ["Aliases: ".toList ++ joinWith ", ".toList p.aliases])

/-- The card of a person. -/
def personCard (p : Person) : Text :=
  let links :=
    (p.siteUrl.map fun u => "Site: <".toList ++ u ++ ['>']).toList ++
      (p.feedUrl.map fun u => "Feed: <".toList ++ u ++ ['>']).toList
  let kind :=
    match p.slug, p.isInternal with
    | some slug, true => "Internal post `".toList ++ slug ++ "`".toList
    | _, _ => "External site".toList
  paragraphs <|
    ["**".toList ++ p.title ++ "** `@".toList ++ p.handle ++ "`".toList] ++ p.description.toList ++
      (if links.isEmpty then [] else [joinWith "  \n".toList links]) ++ [kind]

/-- The card of an admonition. -/
def admonitionCard (a : Admonition) : Text :=
  let folding :=
    if a.marker == "???".toList then "collapsible, closed by default".toList
    else if a.marker == "???+".toList then "collapsible, open by default".toList
    else "always open".toList
  match AdmonitionKind.ofName? a.kind with
  | some k => "**".toList ++ k.name.toList ++ "** admonition (".toList ++ folding ++ ")\n\n".toList ++ k.description.toList
  | none => "Unknown admonition type `".toList ++ a.kind ++ "` (".toList ++ folding ++ [')']

/-- The card of a field. -/
def fieldCard (f : FieldSpec) : Text :=
  let values := f.values.map fun v => "`".toList ++ v.toList ++ "`".toList
  "**".toList ++ f.name.toList ++ "**\n\n".toList ++ f.description.toList ++
    (if values.isEmpty then [] else "\n\nValues: ".toList ++ joinWith ", ".toList values)

/-- What is shown at a column of a line outside the frontmatter. -/
def onLine (ix : Index) (line : Text) (n column : Nat) : Option Hover :=
  match admonitionAt line column with
  | some a => some ⟨admonitionCard a, some (Range.cut n a.first a.last)⟩
  | none =>
    match mentionAt line column with
    | some m =>
      let value :=
        match ix.personByHandle m.handle with
        | some p => personCard p
        | none => "Mention `@".toList ++ m.handle ++ "` not found".toList
      some ⟨value, some (Range.cut n m.first m.last)⟩
    | none =>
      match wikilinkAt line column with
      | some l =>
        let value :=
          match ix.postBySlug l.target with
          | some p => postCard p
          | none => "Post `".toList ++ l.slug ++ "` not found".toList
        some ⟨value, some (Range.cut n l.first l.last)⟩
      | none => none

end Hover

/-- What is shown at a position of a page, unless the site's settings turn it off. -/
def hoverAt (ix : Index) (s : Settings) (page : Text) (pos : Position) : Option Hover :=
  if !s.hover then none
  else if inFrontmatter page pos.line then
    (fieldAt page pos.line pos.character).map fun f => ⟨Hover.fieldCard f, none⟩
  else
    match (lines page)[pos.line]? with
    | some line => Hover.onLine ix line pos.line pos.character
    | none => none

/-- A range of a document. -/
structure Location where
  uri : Uri
  range : Range
  deriving DecidableEq, Repr

/-- Where a person is described: the post about them, or else their site. -/
def personLocation (ix : Index) (p : Person) : Option Location :=
  let internal := if p.isInternal then p.slug.bind ix.postBySlug else none
  match internal with
  | some post => some ⟨post.uri, Range.start⟩
  | none => (p.siteUrl.bind Uri.ofText?).map fun u => ⟨u, Range.start⟩

/-- Where the link or mention at a position leads. -/
def definitionAt (ix : Index) (page : Text) (pos : Position) : Option Location :=
  match (lines page)[pos.line]? with
  | none => none
  | some line =>
    match mentionAt line pos.character with
    | some m => (ix.personByHandle m.handle).bind (personLocation ix)
    | none =>
      match wikilinkAt line pos.character with
      | some l => (ix.postBySlug l.target).map fun p => ⟨p.uri, Range.start⟩
      | none => none

end WikiSite
