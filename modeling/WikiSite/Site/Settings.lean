import WikiSite.Text.Basic

/-!
# Settings

What a site's owner can set, and how settings are decoded from a structured source. Every field has a default; the
filter of a rule has none. A record may also be written as a list of its fields in order.
-/

namespace WikiSite

/-- A foreign site that can be mentioned. -/
structure BlogrollEntry where
  /-- The handle; the host of the site when there is none. -/
  handle : Option Text
  title : Option Text
  description : Option Text
  siteUrl : Option Text
  feedUrl : Option Text
  aliases : List Text
  deriving DecidableEq, Repr

/-- A rule that makes every post selected by the filter mentionable. -/
structure PostRule where
  filter : Text
  /-- The field that holds the handle; `slug` stands for the post's slug. -/
  handleField : Text
  /-- The field that holds further handles. -/
  aliasesField : Option Text
  deriving DecidableEq, Repr

/-- The settings of a site. -/
structure Settings where
  /-- A directory that is not indexed. -/
  cacheDir : Text
  /-- Greatest length of a description that is taken from the body. -/
  excerptLength : Nat
  hover : Bool
  diagnostics : Bool
  blogroll : List BlogrollEntry
  fromPosts : List PostRule
  deriving DecidableEq, Repr

/-- The settings of a site that sets nothing. -/
def Settings.default : Settings := ⟨".mdsite-cache".toList, 160, true, true, [], []⟩

/-! ### Decoding -/

/-- How values of a structured source are read as settings. -/
structure Decoder (α : Type) where
  bool : α → Option Bool
  size : α → Option Nat
  text : α → Option Text
  isNull : α → Bool
  items : α → Option (List α)
  members : α → Option (List (Text × α))
  /-- Whether a list that stands for a record may be longer than the record. -/
  allowsExtra : Bool

namespace Decoder

variable {α : Type}

/-- The values of the named fields of a record. -/
def fields (d : Decoder α) (names : List String) (v : α) : Option (List (Option α)) :=
  match d.members v with
  | some ms => some (names.map fun n => ms.lookup n.toList)
  | none =>
    match d.items v with
    | some xs =>
      if !d.allowsExtra && names.length < xs.length then none
      else some ((List.range names.length).map fun i => xs[i]?)
    | none => none

/-- A field with a default. -/
def withDefault {β : Type} (default : β) (read : α → Option β) : Option α → Option β
  | some v => read v
  | none => some default

/-- A field that may be absent or null. -/
def optional (d : Decoder α) : Option α → Option (Option Text)
  | some v => if d.isNull v then some none else (d.text v).map some
  | none => some none

/-- A list of values. -/
def list {β : Type} (d : Decoder α) (read : α → Option β) (v : α) : Option (List β) :=
  (d.items v).bind fun xs => xs.mapM read

/-- An entry of the blogroll. -/
def blogrollEntry (d : Decoder α) (v : α) : Option BlogrollEntry :=
  match d.fields ["handle", "title", "description", "site_url", "feed_url", "aliases"] v with
  | some [handle, title, description, site, feed, aliases] => do
    return ⟨← d.optional handle, ← d.optional title, ← d.optional description, ← d.optional site, ← d.optional feed,
      ← withDefault [] (d.list d.text) aliases⟩
  | _ => none

/-- A rule for posts. -/
def postRule (d : Decoder α) (v : α) : Option PostRule :=
  match d.fields ["filter", "handle_field", "aliases_field"] v with
  | some [filter, handle, aliases] => do
    return ⟨← filter.bind d.text, ← withDefault "slug".toList d.text handle, ← d.optional aliases⟩
  | _ => none

/-- The rules among the settings of mentions. -/
def postRules (d : Decoder α) (v : α) : Option (List PostRule) :=
  match d.fields ["from_posts"] v with
  | some [rules] => withDefault [] (d.list d.postRule) rules
  | _ => none

/-- The settings of a site. -/
def settings (d : Decoder α) (v : α) : Option Settings :=
  match d.fields ["cache_dir", "excerpt_length", "hover", "diagnostics", "blogroll", "mentions"] v with
  | some [cache, excerpt, hover, diagnostics, blogroll, mentions] => do
    let base := Settings.default
    return ⟨← withDefault base.cacheDir d.text cache, ← withDefault base.excerptLength d.size excerpt,
      ← withDefault base.hover d.bool hover, ← withDefault base.diagnostics d.bool diagnostics,
      ← withDefault base.blogroll (d.list d.blogrollEntry) blogroll, ← withDefault base.fromPosts d.postRules mentions⟩
  | _ => none

end Decoder

end WikiSite
