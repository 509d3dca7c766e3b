import WikiSite.Page.Wikilink

/-!
# Frontmatter fields

The fields that a site understands, the fields that a page declares, and what is being typed on a line of the
frontmatter: the name of a field in front of its colon, or its value after it. Lines of a list, indented lines and
comments declare nothing.
-/

namespace WikiSite

/-- A field that the site understands. -/
structure FieldSpec where
  name : String
  description : String
  /-- The allowed values; none for a value of free form. -/
  values : List String
  deriving DecidableEq, Repr

private def yesOrNo : List String := ["true", "false"]

/-- Every field that the site understands, in the order in which they are offered. -/
def knownFields : List FieldSpec :=
  [⟨"title", "Post title, used in listings and as the page heading.", []⟩,
   ⟨"slug", "URL path of the post. Derived from the file name when absent.", []⟩,
   ⟨"description", "Summary used in listings and meta tags. Defaults to an excerpt of the body.", []⟩,
   ⟨"date", "Publication date, `YYYY-MM-DD`.", []⟩,
   ⟨"updated", "Date of the last significant change, `YYYY-MM-DD`.", []⟩,
   ⟨"published", "Whether the post is listed in feeds.", yesOrNo⟩,
   ⟨"draft", "Drafts are rendered but never listed.", yesOrNo⟩,
   ⟨"skip", "Exclude the file from the build entirely.", yesOrNo⟩,
   ⟨"tags", "List of tags.", []⟩,
   ⟨"aliases", "Other slugs that resolve to this post in `[[wikilinks]]`.", []⟩,
   ⟨"template", "Template used to render the post.", []⟩,
   ⟨"handle", "Mention handle when the post describes a person or site.", []⟩]

/-- The known field of the given name. -/
def fieldSpec? (name : Text) : Option FieldSpec := knownFields.find? fun f => f.name.toList == name

/-- Whether the line is an item of a list. -/
def isListItem (line : Text) : Bool :=
  match trimStart line with
  | ['-'] => true
  | '-' :: ' ' :: _ => true
  | _ => false

/-! ### Declared fields -/

/-- The name of the field that a line declares at the top level. -/
def declaredName? (line : Text) : Option Text :=
  if (line.head?.any fun c => c == ' ' || c == '\t' || c == '#') || isListItem line then none
  else
    match cutAtChar ':' line with
    | none => none
    | some (name, _) => if (trim name).isEmpty then none else some (trim name)

/-- The fields that a page declares, with the numbers of their lines. -/
def declaredFields (page : Text) : List (Nat × Text) :=
  match locateBlock page with
  | none => []
  | some b =>
    (numberedLines page).filterMap fun (n, line) =>
      if b.contains n then (declaredName? line).map fun name => (n, name) else none

/-! ### A field being typed -/

/-- What is being typed on a line of the frontmatter. -/
inductive FieldPart where
  /-- The name of a field. -/
  | name
  /-- The value of the given field. -/
  | value (field : Text)
  deriving DecidableEq, Repr

/-- A part of a field being typed. -/
structure FieldTyped where
  part : FieldPart
  text : Text
  first : Nat
  /-- The fields declared on the other lines of the block. -/
  elsewhere : List Text
  deriving DecidableEq, Repr

/-- What is being typed at a column of a single frontmatter line. -/
def fieldTypedOnLine (line : Text) (column : Nat) : Option FieldTyped :=
  if isListItem line then none
  else
    let cursor := min column line.length
    let atName : FieldTyped :=
      let before := textUpTo line column
      ⟨.name, trim before, before.length - (trimStart before).length, []⟩
    match cutAtChar ':' line with
    | none => some atName
    | some (name, after) =>
      if name.length < cursor then
        let first :=
          if after.head? == some ' ' && name.length + 1 < cursor then name.length + 2 else name.length + 1
        some ⟨.value (trim name), (line.take cursor).drop first, first, []⟩
      else some atName

/-- What is being typed at a position of a page, when the position lies between the delimiters. -/
def fieldTyped (page : Text) (line column : Nat) : Option FieldTyped :=
  if !inFrontmatter page line then none
  else
    (fieldTypedOnLine (lineAt page line) column).map fun typed =>
      { typed with elsewhere := ((declaredFields page).filter fun f => f.1 != line).map (·.2) }

/-- The known field whose name is under the cursor. -/
def fieldAt (page : Text) (line column : Nat) : Option FieldSpec :=
  if !inFrontmatter page line then none
  else
    match (lines page)[line]? with
    | none => none
    | some l =>
      match cutAtChar ':' l with
      | none => none
      | some (name, _) => if name.length < min column l.length then none else fieldSpec? (trim name)

end WikiSite
