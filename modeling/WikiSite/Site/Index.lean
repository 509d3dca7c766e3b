import WikiSite.Site.FileTree
import WikiSite.Site.Lint
import WikiSite.Site.Person

/-!
# The index

The index holds the posts of a site under their keys, slugs and aliases. A slug belongs to the file that claimed it
last; the files that claimed it before wait in order and come back when it is given up. An alias belongs to its
declarer only where it is nobody's slug and nobody else holds it. Two URIs name the same file when they are written
alike.
-/

namespace WikiSite

/-- An order in which posts are gone through. Nothing fixes it: every order in which lists can be put is one. -/
structure PostOrder where
  arrange : List Post → List Post
  perm : ∀ ps, (arrange ps).Perm ps

/-- Posts are gone through as they are listed. -/
def PostOrder.asListed : PostOrder := ⟨id, fun _ => .refl _⟩

/-- The posts and persons of a site. -/
structure Index where
  root : Option Path
  settings : Settings
  /-- Posts by slug and by alias. -/
  posts : Table Post
  /-- The slug of every post that holds it, by URI. -/
  slugs : Table Text
  /-- Posts that were pushed out of their slug, oldest first, by slug. -/
  displaced : Table (List Post)
  /-- Persons by handle and by alias. -/
  persons : Table Person

namespace Index

/-- The index of nothing. -/
def empty : Index := ⟨none, Settings.default, [], [], [], []⟩

/-! ### Live posts -/

/-- The live post of a file. -/
def postAt (ix : Index) (uri : Uri) : Option Post :=
  ((Table.get? ix.slugs uri.text).bind (Table.get? ix.posts)).filter fun p => p.uri.text = uri.text

/-- Every live post. -/
def livePosts (ix : Index) : List Post :=
  ix.slugs.filterMap fun (u, slug) => (Table.get? ix.posts slug).filter fun p => p.uri.text = u

/-! ### Claims -/

/-- The live post with the least slug that declares the alias. -/
def heir (ix : Index) (key : Text) : Option Post :=
  ((ix.livePosts.filter fun p => p.aliases.contains key).mergeSort fun a b => !textBefore b.slug a.slug).head?

/-- Hands each free key to its heir. -/
def bequeath (ix : Index) : List Text → Index
  | [] => ix
  | key :: rest =>
    if Table.has ix.posts key then bequeath ix rest
    else
      match ix.heir key with
      | some p => bequeath { ix with posts := Table.insert key p ix.posts } rest
      | none => bequeath ix rest

/-- Takes the live post of a file out of the tables; its keys go to their heirs. -/
def detach (ix : Index) (uri : Uri) : Option Post × Index :=
  let post := ix.postAt uri
  let ix := { ix with slugs := Table.erase ix.slugs uri.text }
  match post with
  | none => (none, ix)
  | some p => (some p, bequeath { ix with posts := ix.posts.filter fun e => e.2.uri.text ≠ p.uri.text } p.keys)

/-- The posts waiting for a slug, oldest first. -/
def waitingFor (ix : Index) (slug : Text) : List Post := (Table.get? ix.displaced slug).getD []

/-- Stores the posts waiting for a slug; no entry is kept when there are none. -/
def setWaiting (ix : Index) (slug : Text) (ps : List Post) : Index :=
  { ix with
    displaced := if ps.isEmpty then Table.erase ix.displaced slug else Table.insert slug ps ix.displaced }

/-- Puts a post last among those waiting for its slug. -/
def wait (ix : Index) (p : Post) : Index := ix.setWaiting p.slug (ix.waitingFor p.slug ++ [p])

/-- Moves the present holder of a post's slug to those waiting for it. -/
def displaceHolder (ix : Index) (p : Post) : Index :=
  match (Table.get? ix.posts p.slug).filter fun h => h.slug == p.slug && h.uri.text ≠ p.uri.text with
  | none => ix
  | some holder =>
    match ix.detach holder.uri with
    | (some previous, ix) => ix.wait previous
    | (none, ix) => ix

/-- Puts a post under its aliases that are free. -/
def addAliases (posts : Table Post) (p : Post) : Table Post :=
  p.aliases.foldl (fun t a => if Table.has t a then t else Table.insert a p t) posts

/-- Puts a post under its slug and under its aliases that are free. -/
def enter (ix : Index) (p : Post) : Index :=
  { ix with
    posts := addAliases (Table.insert p.slug p ix.posts) p
    slugs := Table.insert p.uri.text p.slug ix.slugs }

/-- Makes a post the holder of its slug. -/
def insert (ix : Index) (p : Post) : Index := (ix.displaceHolder p).enter p

/-- Takes a file out of those waiting for a slug. -/
def forget (ix : Index) (uri : Uri) : Index :=
  { ix with
    displaced :=
      (ix.displaced.map fun (s, ps) => (s, ps.filter fun p => p.uri.text ≠ uri.text)).filter fun e => !e.2.isEmpty }

/-- Gives a free slug back to the last post waiting for it. -/
def reinstate (ix : Index) (slug : Text) : Index :=
  let isHeld := (Table.get? ix.posts slug).any fun h => h.slug == slug
  match isHeld, (ix.waitingFor slug).getLast? with
  | false, some previous => (ix.setWaiting slug (ix.waitingFor slug).dropLast).insert previous
  | _, _ => ix

/-- Takes a file out of the index; keys that it covered up come back to their owners. -/
def retract (ix : Index) (uri : Uri) : Option Post × Index :=
  match (ix.forget uri).detach uri with
  | (none, ix) => (none, ix)
  | (some p, ix) => (some p, ix.reinstate p.slug)

/-! ### Operations -/

/-- Indexes a file anew from its content. -/
def update (ix : Index) (uri : Uri) (content : Text) : Index :=
  let post := Post.ofContent ix.root uri.documentPath uri content ix.settings.excerptLength
  (ix.retract uri).2.insert post

/-- Takes a file out of the index; the flag tells whether it was live. -/
def remove (ix : Index) (uri : Uri) : Bool × Index :=
  match ix.retract uri with
  | (p, ix) => (p.isSome, ix)

/-- Reads a file and indexes it anew. -/
def indexFile (ix : Index) (tree : FileTree) (path : Path) : Except FileError Index :=
  match tree.readText path with
  | .error e => .error e
  | .ok content =>
    match Uri.ofPath? path with
    | some uri => .ok (ix.update uri content)
    | none => .error .invalidInput

/-- Whether the file is a content file by its name. -/
def isContentFile (path : Path) : Bool :=
  match ((Path.fileName? (Path.parts path)).bind fun n => (Path.cutExtension n).2).bind decodeUtf8 with
  | some ext => sameLetters ext "md".toList
  | none => false

/-- Directories that are never indexed. -/
def skippedDirs : List Text := [".git".toList, "node_modules".toList, "output".toList]

/-- Whether the directory that the names lead to from the root is left out. -/
def isSkippedDir (root : Path) (cacheDir : Path) (names : List Bytes) : Bool :=
  ((names.getLast?.bind decodeUtf8).any skippedDirs.contains) ||
    Path.same (names.foldl Path.join root) cacheDir

/-- The path and the text of a file, if it is a content file and can be read. -/
def contentFile? (path : Path) (bytes : Bytes) : Option (Path × Text) :=
  if isContentFile path then (decodeUtf8 bytes).map fun text => (path, text) else none

/-- The content files below a root with their texts, in the order of their paths. The root itself is never left out. -/
def contentFiles (tree : FileTree) (root : Path) (cacheDir : Text) : List (Path × Text) :=
  let cache := Path.join root (Path.ofText cacheDir)
  let found := (tree.walk (fun dirs => dirs.isEmpty || !isSkippedDir root cache dirs) root).filterMap
    fun (names, bytes) => contentFile? (names.foldl Path.join root) bytes
  found.mergeSort fun a b => !Path.before b.1 a.1

/-- The posts of the content files below a root. -/
def contentPosts (tree : FileTree) (root : Path) (s : Settings) : List Post :=
  (contentFiles tree root s.cacheDir).filterMap fun (path, text) =>
    (Uri.ofPath? path).map fun uri => Post.ofContent (some root) path uri text s.excerptLength

/-- The index of a directory. The persons are looked for among the live posts in the given order. -/
def build (order : PostOrder) (tree : FileTree) (root : Path) (s : Settings) : Index :=
  let ix := (contentPosts tree root s).foldl insert { empty with root := some root, settings := s }
  { ix with persons := handleTable s (order.arrange ix.livePosts) }

/-! ### Lookup -/

/-- Among entries whose key has the wanted normal form, the one whose key is least, own keys before aliases. -/
def closest {α : Type} (own : α → Text) (wanted : Text) (t : Table α) : Option α :=
  let found := t.filter fun e => normalizeKey e.1 == wanted
  match found.find? fun e => own e.2 == e.1 with
  | some e => some e.2
  | none => found.head?.map (·.2)

/-- The entry under a key, or else under the closest spelling of it. -/
def lookup {α : Type} (own : α → Text) (key : Text) (t : Table α) : Option α :=
  match Table.get? t key with
  | some v => some v
  | none =>
    let wanted := normalizeKey key
    if wanted.isEmpty then none else closest own wanted t

/-- The post that a link target leads to. -/
def postBySlug (ix : Index) (target : Text) : Option Post := lookup Post.slug (targetSlug target) ix.posts

/-- The person of a handle, with or without `@`. -/
def personByHandle (ix : Index) (handle : Text) : Option Person :=
  lookup Person.handle (cleanHandle handle) ix.persons

/-- Every live post, by slug. -/
def allPosts (ix : Index) : List Post := ix.livePosts.mergeSort fun a b => !textBefore b.slug a.slug

/-- Of persons that come in some order the first with each handle, by handle. -/
def personsByHandle (ps : List Person) : List Person :=
  (firstHandles [] ps).mergeSort fun a b => !textBefore b.handle a.handle

/-- Every person once, by handle. -/
def allPersons (ix : Index) : List Person := personsByHandle (List.map Prod.snd ix.persons)

/-- Answers the questions of the checks from the index. -/
def resolver (ix : Index) : Resolver :=
  ⟨fun slug => (ix.postBySlug slug).isSome, fun handle => (ix.personByHandle handle).isSome⟩

end Index

end WikiSite
