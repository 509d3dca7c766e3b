import WikiSite.Editor.Place
import WikiSite.Page.Cursor
import WikiSite.Search.Fuzzy
import WikiSite.Site.Index

/-!
# Completion

What can be put at the cursor: the fields of the frontmatter and their values, the types of an admonition, the
handles of a mention or the keys of a wikilink. Every item replaces exactly what was typed. It ends at the cursor, so
with the cursor's place all places are numbers of 32 bits.
-/

namespace WikiSite

/-- What an item stands for. -/
inductive ItemKind where
  | field
  | value
  | file
  | reference
  | enumMember
  deriving DecidableEq, Repr

/-- An item that can be put at the cursor. -/
structure CompletionItem where
  label : Text
  kind : ItemKind
  detail : Option Text
  documentation : Option Text
  sortText : Option Text
  filterText : Option Text
  edit : TextEdit
  deriving DecidableEq, Repr

/-- One key of something that has several; aliases come after the key of its own. -/
structure Key (α : Type) where
  key : Text
  owner : α
  isAlias : Bool

namespace Key

variable {α : Type}

/-- The keys of an owner, the first of which is its own. -/
def ofOwner (keys : α → List Text) (owner : α) : List (Key α) :=
  match keys owner with
  | [] => []
  | own :: aliases => ⟨own, owner, false⟩ :: aliases.map fun a => ⟨a, owner, true⟩

/-- Whether a key comes before another or at the same place. -/
def notAfter (a b : Key α) : Bool :=
  if a.isAlias != b.isAlias then b.isAlias else !textBefore b.key a.key

/-- The text by which keys are ordered: own keys first. -/
def sortText (k : Key α) : Text := (if k.isAlias then '1' else '0') :: k.key

end Key

/-- The texts without repetitions, first occurrences kept. -/
def distinct (ts : List Text) : List Text :=
  ts.foldl (fun kept t => if kept.contains t then kept else kept ++ [t]) []

/-- What is searched when a key is looked for: the key, the title and the aliases of its owner. -/
def searchText (key title : Text) (aliases : List Text) : Text := joinWith [' '] (distinct (key :: title :: aliases))

namespace Completion

/-! ### Frontmatter -/

private def startsAlike (candidate : String) (typed : Text) : Bool :=
  (lower (trim typed)).isPrefixOf (lower candidate.toList)

/-- The items for a field being typed. -/
def fieldItems (typed : FieldTyped) (line character : Nat) : List CompletionItem :=
  let range := Range.onLine line typed.first character
  match typed.part with
  | .value field =>
    let values := ((fieldSpec? field).map (·.values)).getD []
    (values.filter fun v => startsAlike v typed.text).map fun v =>
      ⟨v.toList, .value, none, none, none, none, ⟨range, v.toList⟩⟩
  | .name =>
    (knownFields.filter fun f => !typed.elsewhere.contains f.name.toList && startsAlike f.name typed.text).map fun f =>
      ⟨f.name.toList, .field, none, some f.description.toList, none, none, ⟨range, f.name.toList ++ ": ".toList⟩⟩

/-! ### Admonitions -/

/-- The items for an admonition being typed; a space is put in after a bare marker. -/
def admonitionItems (typed : AdmonitionTyped) (lineText : Text) (line character : Nat) : List CompletionItem :=
  let needsSpace := !((textUpTo lineText character).getLast?.any isBlank) && typed.text.isEmpty
  let kinds := AdmonitionKind.all.filter fun k => (lower typed.text).isPrefixOf k.name.toList
  kinds.map fun k =>
    let name := k.name.toList
    ⟨name, .enumMember, some k.description.toList, none, none, some name,
      ⟨Range.onLine line typed.first character, if needsSpace then ' ' :: name else name⟩⟩

/-! ### Mentions -/

/-- The keys of persons, in the order in which they are offered. -/
def handleKeys (ix : Index) : List (Key Person) :=
  (ix.allPersons.flatMap (Key.ofOwner Person.keys)).mergeSort Key.notAfter

private def personSearchText (k : Key Person) : Text := searchText k.key k.owner.title k.owner.aliases

/-- What is known of a person. -/
def personNotes (p : Person) : Text :=
  let site := p.siteUrl.map fun url => '<' :: url ++ ['>']
  let post := if p.isInternal then p.slug.map fun s => "Internal post `".toList ++ s ++ "`".toList else none
  joinWith "\n\n".toList (p.description.toList ++ site.toList ++ post.toList)

/-- The items for a mention being typed. -/
def mentionItems (ix : Index) (typed : Typed) (line character : Nat) : List CompletionItem :=
  (fuzzyFilter typed.text personSearchText (handleKeys ix)).map fun k =>
    let p := k.owner
    let detail := if k.isAlias then p.title ++ " (alias of @".toList ++ p.handle ++ [')'] else p.title
    let notes := personNotes p
    ⟨'@' :: k.key, if p.isInternal then .reference else .value, some detail,
      if notes.isEmpty then none else some notes, some k.sortText, some (personSearchText k),
      ⟨Range.onLine line typed.first character, k.key⟩⟩

/-! ### Wikilinks -/

/-- The keys of posts, in the order in which they are offered; an empty key cannot be linked. -/
def postKeys (ix : Index) : List (Key Post) :=
  ((ix.allPosts.flatMap (Key.ofOwner Post.keys)).filter fun k => !k.key.isEmpty).mergeSort Key.notAfter

private def postSearchText (k : Key Post) : Text := searchText k.key k.owner.title k.owner.aliases

/-- The items for a wikilink being typed; the link is closed unless it is closed right after the cursor. -/
def wikilinkItems (ix : Index) (typed : Typed) (lineText : Text) (line character : Nat) : List CompletionItem :=
  let isClosed := "]]".toList.isPrefixOf (lineText.drop character)
  (fuzzyFilter typed.text postSearchText (postKeys ix)).map fun k =>
    let p := k.owner
    let detail := if k.isAlias then p.title ++ " (alias of ".toList ++ p.slug ++ [')'] else p.title
    ⟨k.key, if k.isAlias then .reference else .file, some detail,
      if p.description.isEmpty then none else some p.description, some k.sortText, some (postSearchText k),
      ⟨Range.onLine line typed.first character, if isClosed then k.key else k.key ++ "]]".toList⟩⟩

end Completion

/-- The items that can be put at a position of a page. -/
def completions (ix : Index) (page : Text) (pos : Position) : List CompletionItem :=
  let line := pos.line
  let character := pos.character
  match cursorAt page line character with
  | some (.field typed) => Completion.fieldItems typed line character
  | some (.admonition typed) => Completion.admonitionItems typed (lineAt page line) line character
  | some (.mention typed) => Completion.mentionItems ix typed line character
  | some (.wikilink typed) => Completion.wikilinkItems ix typed (lineAt page line) line character
  | none => []

end WikiSite
