import WikiSite.Site.Filter
import WikiSite.Site.Post
import WikiSite.Site.Settings

/-!
# Who can be mentioned

A handle belongs to an entry of the blogroll or to a post selected by a rule. Of those with one handle the first
counts, blogroll entries in front. The table of handles maps every handle to its owner and every alias that is not a
handle to the first owner that declares it.
-/

namespace WikiSite

/-- Somebody who can be mentioned. -/
structure Person where
  handle : Text
  title : Text
  description : Option Text
  siteUrl : Option Text
  feedUrl : Option Text
  aliases : List Text
  /-- Whether a post of this site describes the person. -/
  isInternal : Bool
  slug : Option Text
  deriving DecidableEq, Repr

/-- Every key that the person answers to: the handle, then the aliases. -/
def Person.keys (p : Person) : List Text := p.handle :: p.aliases

/-- The handle that a web address suggests: its host in lower case without `www.`. -/
def handleOfUrl (url : Text) : Option Text :=
  let rest := ((cutAt "://".toList url).map (·.2)).getD url
  let authority := rest.takeWhile fun c => c != '/' && c != '?' && c != '#'
  let hostPort := ((cutAfterLast (· == '@') authority).map (·.2)).getD authority
  let host := lower (hostPort.takeWhile (· != ':'))
  let host := (withoutStart "www.".toList host).getD host
  if host.isEmpty then none else some host

/-- A handle without blanks around it and without `@` in front. -/
def cleanHandle (t : Text) : Text := (trim t).dropWhile (· == '@')

/-- The aliases cleaned: without the handle, empty ones and repetitions. -/
def cleanAliases (aliases : List Text) (handle : Text) : List Text :=
  aliases.foldl (fun kept a =>
    let a := cleanHandle a
    if !a.isEmpty && a != handle && !kept.contains a then kept ++ [a] else kept) []

/-- The person of a blogroll entry; none when it has neither a handle nor a site. -/
def Person.ofBlogroll (e : BlogrollEntry) : Option Person :=
  let handle :=
    match (e.handle.map cleanHandle).filter (!·.isEmpty) with
    | some h => some h
    | none => e.siteUrl.bind handleOfUrl
  handle.map fun h =>
    { handle := h
      title := e.title.getD h
      description := e.description
      siteUrl := e.siteUrl
      feedUrl := e.feedUrl
      aliases := cleanAliases e.aliases h
      isInternal := false
      slug := none }

/-- The person whom a post describes under a rule. -/
def Person.ofPost (rule : PostRule) (p : Post) : Option Person :=
  let handle := if rule.handleField == "slug".toList then some p.slug else p.metadata.text? rule.handleField
  ((handle.map cleanHandle).filter (!·.isEmpty)).map fun h =>
    { handle := h
      title := p.title
      description := if p.description.isEmpty then none else some p.description
      siteUrl := none
      feedUrl := none
      aliases := cleanAliases ((rule.aliasesField.map p.metadata.texts).getD []) h
      isInternal := true
      slug := some p.slug }

/-- The persons whom a rule finds among posts; a rule with an unreadable filter finds none. -/
def personsOfRule (posts : List Post) (rule : PostRule) : List Person :=
  match Filter.ofText rule.filter with
  | .ok f => (posts.filter fun p => f.selects p.metadata p.slug).filterMap (Person.ofPost rule)
  | .error _ => []

/-- Everybody, in order: the blogroll, then the posts of each rule. -/
def allPersons (s : Settings) (posts : List Post) : List Person :=
  s.blogroll.filterMap Person.ofBlogroll ++ s.fromPosts.flatMap (personsOfRule posts)

/-- The persons whose handle did not occur before them. -/
def firstHandles (seen : List Text) : List Person → List Person
  | [] => []
  | p :: rest =>
    if seen.contains p.handle then firstHandles seen rest else p :: firstHandles (p.handle :: seen) rest

/-- Adds a person under the handle, and under those aliases that are still free. -/
def addPerson (t : Table Person) (p : Person) : Table Person :=
  p.aliases.foldl (fun t a => if Table.has t a then t else Table.insert a p t) (Table.insert p.handle p t)

/-- The table of handles. -/
def handleTable (s : Settings) (posts : List Post) : Table Person :=
  (firstHandles [] (allPersons s posts)).foldl addPerson []

end WikiSite
