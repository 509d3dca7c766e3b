import WikiSite.Page.Field
import WikiSite.Page.Mention
import WikiSite.Site.Date

/-!
# Lint

The checks run on a page: frontmatter that is never closed, fields declared twice, dates that are none, and links and
mentions in prose that lead nowhere. Two questions about the rest of the site are asked of a resolver. Problems come
in the order of their places.
-/

namespace WikiSite

/-- What the checks ask about the rest of the site. -/
structure Resolver where
  /-- Whether a post has the slug. -/
  slug : Text → Bool
  /-- Whether somebody has the handle. -/
  handle : Text → Bool

/-- How grave a problem is. -/
inductive Severity where
  | error
  | warning
  | info
  deriving DecidableEq, Repr

/-- A stretch of one line. -/
structure Span where
  line : Nat
  first : Nat
  last : Nat
  deriving DecidableEq, Repr

/-- What is wrong. -/
inductive Problem where
  | unclosedFrontmatter
  | duplicateKey (name : Text)
  | invalidDate (name value : Text)
  | brokenWikilink (target : Text)
  | unknownMention (handle : Text)
  deriving DecidableEq, Repr

namespace Problem

/-- The code of the rule. -/
def code : Problem → Text
  | .unclosedFrontmatter => "unclosed-frontmatter".toList
  | .duplicateKey _ => "duplicate-key".toList
  | .invalidDate .. => "invalid-date".toList
  | .brokenWikilink _ => "broken-wikilink".toList
  | .unknownMention _ => "unknown-mention".toList

/-- How grave the problem is. -/
def severity : Problem → Severity
  | .unclosedFrontmatter | .duplicateKey _ => .error
  | .invalidDate .. | .brokenWikilink _ | .unknownMention _ => .warning

/-- What the problem is reported as. -/
def message : Problem → Text
  | .unclosedFrontmatter => "Frontmatter is never closed with `---`".toList
  | .duplicateKey name => "Duplicate frontmatter key `".toList ++ name ++ "`".toList
  | .invalidDate name value => "`".toList ++ name ++ "` is not a valid date: `".toList ++ value ++ "`".toList
  | .brokenWikilink target => "No post matches `[[".toList ++ target ++ "]]`".toList
  | .unknownMention handle => "Unknown mention `@".toList ++ handle ++ "`".toList

/-- Whether the problem can be fixed automatically. -/
def isFixable : Problem → Bool
  | .duplicateKey _ => true
  | _ => false

end Problem

/-- A problem and its place. -/
structure Issue where
  span : Span
  problem : Problem
  deriving DecidableEq, Repr

namespace Issue

/-- Whether an issue comes before another or at the same place under the same code. -/
def notAfter (a b : Issue) : Bool :=
  if a.span.line != b.span.line then a.span.line < b.span.line
  else if a.span.first != b.span.first then a.span.first < b.span.first
  else if a.span.last != b.span.last then a.span.last < b.span.last
  else !textBefore b.problem.code a.problem.code

end Issue

namespace Lint

/-- The check for frontmatter that is never closed. -/
def unclosed (page : Text) : List Issue :=
  match locateBlock page with
  | some ⟨first, none⟩ => [⟨⟨first, 0, (lineAt page 0).length⟩, .unclosedFrontmatter⟩]
  | _ => []

/-- The fields whose values are dates. -/
def dateFields : List Text := ["date".toList, "published_date".toList, "updated".toList]

private def insideQuotes (q : Char) (t : Text) : Option Text :=
  match t with
  | c :: rest => if c == q then withoutEnd [q] rest else none
  | [] => none

/-- The value of a field without quotes around it. -/
def unquoteValue (t : Text) : Text :=
  match insideQuotes '"' t with
  | some v => v
  | none => (insideQuotes (Char.ofNat 0x27) t).getD t

/-- The check of the date on a line that declares a date field. -/
def invalidDate (n : Nat) (line name : Text) : List Issue :=
  match cutAtChar ':' line with
  | none => []
  | some (_, raw) =>
    let value := unquoteValue (trim raw)
    if value.isEmpty || isDate value then []
    else
      let first := line.length - (trimStart raw).length
      [⟨⟨n, first, first + (trim raw).length⟩, .invalidDate name value⟩]

/-- The checks of declared fields, where `seen` holds the names in front of them. -/
def fieldsFrom (page : Text) (seen : List Text) : List (Nat × Text) → List Issue
  | [] => []
  | (n, name) :: rest =>
    let line := lineAt page n
    let first := ((cutAt name line).map (·.1.length)).getD 0
    let duplicate :=
      if seen.contains name then [⟨⟨n, first, first + name.length⟩, .duplicateKey name⟩] else []
    let date := if dateFields.contains name then invalidDate n line name else []
    duplicate ++ date ++ fieldsFrom page (name :: seen) rest

/-- The checks of the links and mentions of a prose line. -/
def references (r : Resolver) (n : Nat) (line : Text) : List Issue :=
  ((findWikilinks line).filter fun l => !r.slug l.slug).map
      (fun l => ⟨⟨n, l.first, l.last⟩, .brokenWikilink l.target⟩) ++
    ((findMentions line).filter fun m => !r.handle m.handle).map
      (fun m => ⟨⟨n, m.first, m.last⟩, .unknownMention m.handle⟩)

/-- All checks of a page. -/
def check (r : Resolver) (page : Text) : List Issue :=
  (unclosed page ++ fieldsFrom page [] (declaredFields page) ++
    (proseLines page).flatMap fun (n, line) => references r n line).mergeSort Issue.notAfter

end Lint

end WikiSite
