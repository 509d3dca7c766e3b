import WikiSite.Page.Wikilink
import WikiSite.Site.Metadata
import WikiSite.Site.Slug
import WikiSite.Site.Uri

/-!
# Posts

What the index knows of a content file: its slug, title, description, aliases and links. Fields of the metadata come
first; what they leave open is derived from the path and the body. A file whose frontmatter cannot be read is a post
without metadata.
-/

namespace WikiSite

/-- An indexed content file. -/
structure Post where
  uri : Uri
  path : Path
  slug : Text
  title : Text
  description : Text
  aliases : List Text
  metadata : Metadata
  links : List PageLink

namespace Post

/-- Every key that the post answers to: its slug, then its aliases. -/
def keys (p : Post) : List Text := p.slug :: p.aliases

end Post

/-- Whether the line is a heading. -/
def isHeading (line : Text) : Bool := (trimStart line).head? == some '#'

/-- The first paragraph of the lines that is no heading. -/
def firstParagraph (ls : List Text) : List Text :=
  let isOutside (line : Text) : Bool := line.isEmpty || isHeading line
  ((ls.map trim).dropWhile isOutside).takeWhile fun line => !isOutside line

/-- The first paragraph of a body on one line, cut to a number of characters with three points after the cut. -/
def excerpt (body : Text) (length : Nat) : Text :=
  let paragraph := joinWith [' '] (firstParagraph (lines body))
  if paragraph.length ≤ length then paragraph
  else trimEnd (paragraph.take length) ++ "...".toList

/-- The post of a file from its content. -/
def Post.ofContent (root : Option Path) (path : Path) (uri : Uri) (content : Text) (excerptLength : Nat) : Post :=
  let (metadata, body) :=
    match readPage path content with
    | .ok page => page
    | .error _ => ([], content)
  let relative := Path.relativeTo root path
  let slug :=
    match metadata.text? "slug".toList with
    | some slug => trimBoth (· == '/') (trim slug)
    | none => slugOfPath relative
  { uri := uri
    path := path
    slug := slug
    title := (metadata.text? "title".toList).getD (titleOfPath relative)
    description := (metadata.text? "description".toList).getD (excerpt body excerptLength)
    aliases := ((metadata.texts "aliases".toList).map trim).filter fun a => !a.isEmpty && a != slug
    metadata := metadata
    links := pageLinks content }

end WikiSite
