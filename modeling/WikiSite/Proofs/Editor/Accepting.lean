import WikiSite.Editor.Completion
import WikiSite.Proofs.Site.Handles
import WikiSite.Proofs.Site.Lookup

/-!
# Accepting a completion

An item replaces what was typed, from where it starts up to the cursor (`applyToLine_onLine`). What is offered for a
wikilink is a key of a live post and what is offered for a mention is a key of a person (`mem_wikilinkItems`,
`mem_mentionItems`). So when the key can be written as a reference at all, the line holds that reference once the item
is put in, and the reference resolves (`accepted_resolves`).
-/

namespace WikiSite

/-! ### What is typed and what is replaced -/

/-- What is being typed at the cursor is what the reader of its kind finds there. -/
def Cursor.ReadAt (page : Text) (line column : Nat) : Cursor → Prop
  | .field typed => fieldTyped page line column = some typed
  | .admonition typed => admonitionTyped (lineAt page line) column = some typed
  | .mention typed => mentionTyped (lineAt page line) column = some typed
  | .wikilink typed => wikilinkTyped (lineAt page line) column = some typed

theorem readAt_of_cursorAt {page : Text} {line column : Nat} {cursor : Cursor}
    (h : cursorAt page line column = some cursor) : cursor.ReadAt page line column := by
  unfold cursorAt cursorOnLine at h
  split at h
  · rename_i typed htyped
    cases h
    exact htyped
  split at h
  · rename_i typed htyped
    cases h
    exact htyped
  split at h
  · rename_i typed htyped
    cases h
    exact htyped
  · obtain ⟨typed, htyped, rfl⟩ := Option.map_eq_some_iff.1 h
    exact htyped

/-- An edit up to a column keeps what stands in front of the typed text and behind the column. -/
theorem applyToLine_onLine {e : TextEdit} {line before typed : Text} {n column : Nat}
    (hrange : e.range = .onLine n before.length column) (h : textUpTo line column = before ++ typed) :
    e.applyToLine line = before ++ (e.newText ++ line.drop column) := by
  have hbefore : line.take before.length = before := by
    have hline : line = before ++ (typed ++ line.drop column) := by
      rw [← List.append_assoc, ← h]
      exact (List.take_append_drop column line).symm
    rw [hline]
    simp
  unfold TextEdit.applyToLine
  rw [hrange]
  show line.take before.length ++ e.newText ++ line.drop column = _
  rw [hbefore, List.append_assoc]

/-! ### What is offered -/

theorem mem_of_mem_fuzzyFilter {α : Type} {query : Text} {text : α → Text} {candidates : List α} {a : α}
    (h : a ∈ fuzzyFilter query text candidates) : a ∈ candidates := by
  unfold fuzzyFilter at h
  split at h
  · exact h
  · exact (List.mem_filter.1 h).1

theorem Key.mem_ofOwner {α : Type} {keys : α → List Text} {owner : α} {k : Key α} (h : k ∈ ofOwner keys owner) :
    k.owner = owner ∧ k.key ∈ keys owner := by
  unfold ofOwner at h
  split at h
  · cases h
  · rename_i own aliases hkeys
    rw [hkeys]
    rcases List.mem_cons.1 h with rfl | h
    · exact ⟨rfl, List.mem_cons_self⟩
    · obtain ⟨a, ha, rfl⟩ := List.mem_map.1 h
      exact ⟨rfl, List.mem_cons_of_mem _ ha⟩

namespace Completion

variable {ix : Index} {typed : Typed} {lineText : Text} {line character : Nat} {item : CompletionItem}

/-- An item for a wikilink puts in a key of a live post, and closes the link where it is open. -/
theorem mem_wikilinkItems (h : item ∈ wikilinkItems ix typed lineText line character) :
    (∃ p ∈ ix.allPosts, item.label ∈ p.keys) ∧ item.label ≠ [] ∧
      item.edit.range = .onLine line typed.first character ∧
      ∃ after, item.edit.newText ++ lineText.drop character = item.label ++ ']' :: ']' :: after := by
  unfold wikilinkItems at h
  obtain ⟨k, hk, rfl⟩ := List.mem_map.1 h
  have hk := mem_of_mem_fuzzyFilter hk
  unfold postKeys at hk
  obtain ⟨hk, hne⟩ := List.mem_filter.1 (List.mem_mergeSort.1 hk)
  obtain ⟨p, hp, hk⟩ := List.mem_flatMap.1 hk
  refine ⟨⟨p, hp, (Key.mem_ofOwner hk).2⟩, by simpa using hne, rfl, ?_⟩
  simp only
  split
  · rename_i hclosed
    obtain ⟨after, hafter⟩ := List.isPrefixOf_iff_prefix.1 hclosed
    exact ⟨after, by rw [← hafter]; rfl⟩
  · exact ⟨lineText.drop character, by simp⟩

/-- An item for a mention puts in a key of a person. -/
theorem mem_mentionItems (h : item ∈ mentionItems ix typed line character) :
    (∃ p ∈ ix.allPersons, item.edit.newText ∈ p.keys) ∧ item.edit.range = .onLine line typed.first character := by
  unfold mentionItems at h
  obtain ⟨k, hk, rfl⟩ := List.mem_map.1 h
  have hk := mem_of_mem_fuzzyFilter hk
  unfold handleKeys at hk
  obtain ⟨p, hp, hk⟩ := List.mem_flatMap.1 (List.mem_mergeSort.1 hk)
  exact ⟨⟨p, hp, (Key.mem_ofOwner hk).2⟩, rfl⟩

end Completion

/-! ### What becomes of it -/

namespace Index

variable {ix : Index}

/-- A key of a live post that is written like a target leads to a live post with that key. -/
theorem Reached.postBySlug_of_key (h : Reached ix) {p : Post} (hp : p ∈ ix.allPosts) {k : Text} (hk : k ∈ p.keys)
    (htrim : trim k = k) (hfragment : '#' ∉ k) :
    ∃ q, ix.postBySlug k = some q ∧ ix.IsLive q ∧ k ∈ q.keys := by
  have hlive : ix.IsLive p := by
    rw [← h.mem_livePosts]
    exact List.mem_mergeSort.1 hp
  have hslug : targetSlug k = k := by
    unfold targetSlug
    rw [List.takeWhile_eq_self_iff.2 fun c hc => ?_, htrim]
    rw [bne_iff_ne]
    rintro rfl
    exact hfragment hc
  obtain ⟨steps, rfl⟩ := h
  have hcoherent := (after_agrees steps).reflects.coherent
  obtain ⟨q, hq⟩ := Table.has_iff.1 ((hcoherent.keys k).2 ⟨p, hlive, List.mem_cons.1 hk⟩)
  obtain ⟨hkey, hqlive⟩ := hcoherent.key_leads k q hq
  exact ⟨q, postBySlug_of_some (hslug.symm ▸ hq), hqlive, List.mem_cons.2 hkey⟩

end Index

/-- A reference that is completed resolves. -/
structure AcceptedResolves (ix : Index) (page : Text) (pos : Position) : Prop where
  /-- A wikilink: the key is the label of the item. -/
  wikilink : ∀ typed, cursorAt page pos.line pos.character = some (.wikilink typed) →
    ∀ item ∈ completions ix page pos, item.edit.range = .onLine pos.line typed.first pos.character ∧
      (trim item.label = item.label → (∀ c ∈ item.label, c ∉ "[]|#\r\n".toList) →
        ∃ l ∈ findWikilinks (item.edit.applyToLine (lineAt page pos.line)),
          l.first + 2 = item.edit.range.first.character ∧ l.target = item.label ∧
          ∃ p, ix.postBySlug l.target = some p ∧ ix.IsLive p ∧ item.label ∈ p.keys)
  /-- A mention: the key is the text that is put in. -/
  mention : ∀ typed, cursorAt page pos.line pos.character = some (.mention typed) →
    ∀ item ∈ completions ix page pos, item.edit.range = .onLine pos.line typed.first pos.character ∧
      (isHandle item.edit.newText = true → (∀ c ∈ item.edit.newText.getLast?, c ≠ '.' ∧ c ≠ '-') →
        (∀ c ∈ ((lineAt page pos.line).drop pos.character).head?, isHandleChar c = false) →
        ∃ m ∈ findMentions (item.edit.applyToLine (lineAt page pos.line)),
          m.first + 1 = item.edit.range.first.character ∧ m.handle = item.edit.newText ∧
          (ix.personByHandle m.handle).isSome = true)

namespace Index.Reached

variable {ix : Index} {page : Text} {pos : Position} {typed : Typed} {item : CompletionItem}

/-- A completed wikilink is found on the line and leads to a post. -/
theorem wikilink_resolves (h : Reached ix) (hcursor : cursorAt page pos.line pos.character = some (.wikilink typed))
    (hitem : item ∈ Completion.wikilinkItems ix typed (lineAt page pos.line) pos.line pos.character)
    (htrim : trim item.label = item.label) (hchars : ∀ c ∈ item.label, c ∉ "[]|#\r\n".toList) :
    ∃ l ∈ findWikilinks (item.edit.applyToLine (lineAt page pos.line)),
      l.first + 2 = item.edit.range.first.character ∧ l.target = item.label ∧
      ∃ p, ix.postBySlug l.target = some p ∧ ix.IsLive p ∧ item.label ∈ p.keys := by
  obtain ⟨⟨p, hp, hkey⟩, hne, hrange, after, hafter⟩ := Completion.mem_wikilinkItems hitem
  obtain ⟨before, hbefore, hfirst, -⟩ := openLinkFrom_eq_some (readAt_of_cursorAt hcursor)
  have htyped : textUpTo (lineAt page pos.line) pos.character = (before ++ ['[', '[']) ++ typed.text := by
    rw [hbefore]
    simp
  have hstart : typed.first = (before ++ ['[', '[']).length := by
    rw [hfirst]
    simp
  have htarget : ∀ c ∈ item.label, noBracketOrBar c = true := by
    intro c hc
    have := hchars c hc
    simp_all [noBracketOrBar]
  -- the link is closed by the item itself or by what follows the cursor
  have hline : item.edit.applyToLine (lineAt page pos.line) =
      before ++ '[' :: '[' :: (item.label ++ ']' :: ']' :: after) := by
    rw [applyToLine_onLine (hstart ▸ hrange) htyped, hafter]
    simp
  obtain ⟨l, hl, hlfirst, hltarget⟩ := mem_findWikilinks before htarget htrim hne after
  refine ⟨l, hline ▸ hl, ?_, hltarget, ?_⟩
  · rw [hrange, hlfirst]
    show before.length + 2 = typed.first
    rw [hfirst, Nat.zero_add]
  · rw [hltarget]
    exact h.postBySlug_of_key hp hkey htrim fun hc => hchars '#' hc (by simp)

/-- A completed mention is found on the line and leads to a person. -/
theorem mention_resolves (h : Reached ix) (hcursor : cursorAt page pos.line pos.character = some (.mention typed))
    (hitem : item ∈ Completion.mentionItems ix typed pos.line pos.character)
    (hhandle : isHandle item.edit.newText = true) (hlast : ∀ c ∈ item.edit.newText.getLast?, c ≠ '.' ∧ c ≠ '-')
    (hafter : ∀ c ∈ ((lineAt page pos.line).drop pos.character).head?, isHandleChar c = false) :
    ∃ m ∈ findMentions (item.edit.applyToLine (lineAt page pos.line)),
      m.first + 1 = item.edit.range.first.character ∧ m.handle = item.edit.newText ∧
      (ix.personByHandle m.handle).isSome = true := by
  obtain ⟨⟨p, hp, hkey⟩, hrange⟩ := Completion.mem_mentionItems hitem
  obtain ⟨before, hbefore, hfirst, hprecede, -⟩ := mentionTyped_eq_some (readAt_of_cursorAt hcursor)
  have htyped : textUpTo (lineAt page pos.line) pos.character = (before ++ ['@']) ++ typed.text := by
    rw [hbefore]
    simp
  have hstart : typed.first = (before ++ ['@']).length := by
    rw [hfirst]
    simp
  have hline : item.edit.applyToLine (lineAt page pos.line) =
      before ++ '@' :: (item.edit.newText ++ (lineAt page pos.line).drop pos.character) := by
    rw [applyToLine_onLine (hstart ▸ hrange) htyped]
    simp
  refine ⟨_, hline ▸ mem_findMentions hprecede hhandle hlast hafter, ?_, rfl, ?_⟩
  · rw [hrange]
    exact hfirst.symm
  · exact h.isSome_personByHandle hp hkey hhandle

end Index.Reached

/-- Whatever the index and the page, a completed reference resolves. -/
theorem accepted_resolves (steps : List Index.Step) (page : Text) (pos : Position) :
    AcceptedResolves (Index.after steps) page pos := by
  have hreached : Index.Reached (Index.after steps) := ⟨steps, rfl⟩
  refine ⟨?_, ?_⟩
  · intro typed hcursor item hitem
    simp only [completions, hcursor] at hitem
    exact ⟨(Completion.mem_wikilinkItems hitem).2.2.1, hreached.wikilink_resolves hcursor hitem⟩
  · intro typed hcursor item hitem
    simp only [completions, hcursor] at hitem
    exact ⟨(Completion.mem_mentionItems hitem).2, hreached.mention_resolves hcursor hitem⟩

/-- A site with the post `a` and the person `simon`. -/
private def referred : List Index.Step :=
  let tree := (FileTree.empty []).write [encodeUtf8 "a.md".toList] (encodeUtf8 "A.".toList)
  [.build .asListed tree (Path.ofText "/".toList)
    { Settings.default with blogroll := [⟨some "@simon".toList, none, none, none, none, []⟩] }]

/-- On this page a link is open and a mention has begun; what is offered for them leads to the post and to the
person. -/
theorem accepted_resolves_referred :
    let ix := Index.after referred
    let page : Text := "see [[\nby @s".toList
    (cursorAt page 0 6 = some (.wikilink ⟨[], 6⟩) ∧
      ∃ item ∈ completions ix page ⟨0, 6⟩, item.label = "a".toList ∧
        ∃ l ∈ findWikilinks (item.edit.applyToLine (lineAt page 0)), l.target = item.label ∧
          ∃ p, ix.postBySlug l.target = some p ∧ ix.IsLive p ∧ item.label ∈ p.keys) ∧
    cursorAt page 1 5 = some (.mention ⟨"s".toList, 4⟩) ∧
      ∃ item ∈ completions ix page ⟨1, 5⟩, item.edit.newText = "simon".toList ∧
        ∃ m ∈ findMentions (item.edit.applyToLine (lineAt page 1)), m.handle = item.edit.newText ∧
          (ix.personByHandle m.handle).isSome = true := by
  intro ix page
  have hlink : cursorAt page 0 6 = some (.wikilink ⟨[], 6⟩) := by decide +kernel
  have hmention : cursorAt page 1 5 = some (.mention ⟨"s".toList, 4⟩) := by decide +kernel
  refine ⟨⟨hlink, ?_⟩, hmention, ?_⟩
  · have hlabels : (completions ix page ⟨0, 6⟩).map CompletionItem.label = ["a".toList] := by decide +kernel
    obtain ⟨item, hitems, hlabel⟩ := List.map_eq_singleton_iff.1 hlabels
    have hitem : item ∈ completions ix page ⟨0, 6⟩ := hitems ▸ List.mem_singleton_self item
    have hresolves := ((accepted_resolves referred page ⟨0, 6⟩).wikilink _ hlink item hitem).2
    obtain ⟨l, hl, -, htarget, hpost⟩ := hresolves (by rw [hlabel]; decide) (by rw [hlabel]; simp)
    exact ⟨item, hitem, hlabel, l, hl, htarget, hpost⟩
  · have htexts : (completions ix page ⟨1, 5⟩).map (fun i => i.edit.newText) = ["simon".toList] := by decide +kernel
    obtain ⟨item, hitems, htext⟩ := List.map_eq_singleton_iff.1 htexts
    have hitem : item ∈ completions ix page ⟨1, 5⟩ := hitems ▸ List.mem_singleton_self item
    have hresolves := ((accepted_resolves referred page ⟨1, 5⟩).mention _ hmention item hitem).2
    have hhandle : isHandle item.edit.newText = true := by
      rw [htext]
      decide
    have hrest : (lineAt page 1).drop 5 = [] := by decide
    obtain ⟨m, hm, -, hname, hperson⟩ := hresolves hhandle (by rw [htext]; simp) (by rw [hrest]; simp)
    exact ⟨item, hitem, htext, m, hm, hname, hperson⟩

/-- The cursor stands behind the brackets: the link is closed in front of what follows. -/
example :
    let uri : Uri := ⟨"file".toList, some [], [], "/a.md".toList, none, none⟩
    let ix := Index.after [.update uri "A.".toList]
    (completions ix "see [[x".toList ⟨0, 6⟩).map (fun i => i.edit.applyToLine "see [[x".toList) =
        ["see [[a]]x".toList] ∧
      findWikilinks "see [[a]]x".toList = [⟨"a".toList, none, 4, 9⟩] := by
  decide +kernel

end WikiSite
