import WikiSite.Proofs.Editor.Accepting
import WikiSite.Proofs.Site.Owners

/-!
# What is offered

For a wikilink or a mention of which nothing is typed yet every key is offered once for each of its occurrences: own
keys first, then aliases, each by its text (`Key.inOrder_mergeSort`). The keys of live posts are the keys of the table
of posts, and those of persons are the keys of the table of handles (`Index.Reached.has_posts_iff`,
`Index.Reached.has_persons_iff`), so exactly the keys that lead somewhere are offered. What is typed leaves out some of
them and changes no order (`completions_offer_keys`).
-/

namespace WikiSite

/-! ### Keys in order -/

namespace Key

variable {α : Type}

theorem notAfter_iff {a b : Key α} : a.notAfter b = true ↔ a.sortText ≤ b.sortText := by
  rw [← not_lt]
  unfold notAfter sortText textBefore
  cases a.isAlias <;> cases b.isAlias <;> simp [List.cons_lt_cons_iff]

/-- Keys in the order in which they are offered, each as often as it occurs. -/
structure InOrder (occurrences keys : List (Key α)) : Prop where
  each : keys.Perm occurrences
  sorted : (keys.map sortText).Pairwise (· ≤ ·)
  ownFirst : keys.Pairwise fun a b => a.isAlias = true → b.isAlias = true

theorem inOrder_mergeSort (occurrences : List (Key α)) : InOrder occurrences (occurrences.mergeSort notAfter) := by
  have hsorted : (occurrences.mergeSort notAfter).Pairwise fun a b => a.sortText ≤ b.sortText := by
    refine (List.pairwise_mergeSort ?_ ?_ occurrences).imp notAfter_iff.1
    · intro a b c hab hbc
      exact notAfter_iff.2 ((notAfter_iff.1 hab).trans (notAfter_iff.1 hbc))
    · intro a b
      simpa only [Bool.or_eq_true, notAfter_iff] using le_total a.sortText b.sortText
  refine ⟨List.mergeSort_perm _ _, List.pairwise_map.2 hsorted, hsorted.imp ?_⟩
  intro a b hab ha
  by_contra hb
  unfold sortText at hab
  rw [if_pos ha, if_neg hb, ← not_lt] at hab
  exact hab (by simp [List.cons_lt_cons_iff])

end Key

/-! ### Candidates that are left -/

theorem fuzzyFilter_of_blank {α : Type} {query : Text} (h : trim query = []) (text : α → Text) (candidates : List α) :
    fuzzyFilter query text candidates = candidates := by
  unfold fuzzyFilter
  rw [if_pos (by rw [h]; rfl)]

theorem fuzzyFilter_sublist {α : Type} (query : Text) (text : α → Text) (candidates : List α) :
    (fuzzyFilter query text candidates).Sublist candidates := by
  unfold fuzzyFilter
  split
  · exact .refl _
  · exact List.filter_sublist

/-- The items are among all those that are offered while nothing is typed. -/
structure Narrowed (typed : Typed) (items all : List CompletionItem) : Prop where
  sublist : items.Sublist all
  blank : trim typed.text = [] → items = all

theorem narrowed_map {α : Type} (typed : Typed) (text : α → Text) (candidates : List α) (itemOf : α → CompletionItem) :
    Narrowed typed ((fuzzyFilter typed.text text candidates).map itemOf)
      ((fuzzyFilter [] text candidates).map itemOf) := by
  rw [show fuzzyFilter [] text candidates = candidates from fuzzyFilter_of_blank rfl text candidates]
  exact ⟨(fuzzyFilter_sublist _ _ _).map _, fun h => by rw [fuzzyFilter_of_blank h]⟩

/-! ### Items for keys -/

/-- What tells an item from others: its label, its detail and the text by which the client orders it. -/
def CompletionItem.shown (i : CompletionItem) : Text × Option Text × Option Text := (i.label, i.detail, i.sortText)

/-- The items offer the keys of all owners, one item for each occurrence of a key. -/
def OffersEach {α : Type} (isOwner : α → Prop) (keysOf : α → List (Key α)) (label detail : Key α → Text)
    (items : List CompletionItem) : Prop :=
  ∃ (owners : List α) (keys : List (Key α)), owners.Nodup ∧ (∀ p, p ∈ owners ↔ isOwner p) ∧
    Key.InOrder (owners.flatMap keysOf) keys ∧
    items.map CompletionItem.shown = keys.map fun k => (label k, some (detail k), some k.sortText)

theorem OffersEach.mem_labels_iff {α : Type} {isOwner : α → Prop} {keysOf : α → List (Key α)}
    {label detail : Key α → Text} {items : List CompletionItem} (h : OffersEach isOwner keysOf label detail items)
    {t : Text} : t ∈ items.map CompletionItem.label ↔ ∃ p, isOwner p ∧ ∃ k ∈ keysOf p, label k = t := by
  obtain ⟨owners, keys, -, howner, horder, hshown⟩ := h
  have hlabels : items.map CompletionItem.label = keys.map label := by
    simpa [CompletionItem.shown, Function.comp_def] using congrArg (List.map Prod.fst) hshown
  rw [hlabels, List.mem_map]
  simp only [horder.each.mem_iff, List.mem_flatMap, howner]
  constructor
  · rintro ⟨k, ⟨p, hp, hk⟩, rfl⟩
    exact ⟨p, hp, k, hk, rfl⟩
  · rintro ⟨p, hp, k, hk, rfl⟩
    exact ⟨k, ⟨p, hp, hk⟩, rfl⟩

/-- The keys of a post that can be linked: its slug and its aliases, each as often as it stands there. -/
def Post.occurrences (p : Post) : List (Key Post) :=
  (⟨p.slug, p, false⟩ :: p.aliases.map fun a => ⟨a, p, true⟩).filter fun k => !k.key.isEmpty

theorem Post.exists_mem_occurrences_iff {p : Post} {t : Text} :
    (∃ k ∈ p.occurrences, k.key = t) ↔ t ∈ p.keys ∧ t ≠ [] := by
  have hkeys : p.occurrences.map Key.key = p.keys.filter fun k => !k.isEmpty := by
    simp [occurrences, keys, List.filter_cons, List.filter_map, Function.comp_def, apply_ite]
  rw [← List.mem_map, hkeys, List.mem_filter]
  simp

/-- The keys of a person: the handle and the aliases. -/
def Person.occurrences (p : Person) : List (Key Person) :=
  ⟨p.handle, p, false⟩ :: p.aliases.map fun a => ⟨a, p, true⟩

theorem Person.exists_mem_occurrences_iff {p : Person} {t : Text} :
    (∃ k ∈ p.occurrences, '@' :: k.key = t) ↔ ∃ k ∈ p.keys, '@' :: k = t := by
  have hkeys : p.occurrences.map Key.key = p.keys := by simp [occurrences, keys, Function.comp_def]
  rw [← hkeys]
  simp

/-- A post's title, and for an alias also the slug. -/
def Post.detailOf (k : Key Post) : Text :=
  if k.isAlias then k.owner.title ++ " (alias of ".toList ++ k.owner.slug ++ [')'] else k.owner.title

/-- A person's title, and for an alias also the handle. -/
def Person.detailOf (k : Key Person) : Text :=
  if k.isAlias then k.owner.title ++ " (alias of @".toList ++ k.owner.handle ++ [')'] else k.owner.title

namespace Index.Reached

variable {ix : Index} (h : Reached ix)

include h

theorem nodup_allPosts : ix.allPosts.Nodup := by
  obtain ⟨steps, rfl⟩ := h
  exact (after_agrees steps).reflects.allPosts_increasing.imp fun hlt heq => hlt.ne (congrArg Post.slug heq)

theorem mem_allPosts_iff {p : Post} : p ∈ ix.allPosts ↔ ix.IsLive p := by
  rw [← h.mem_livePosts]
  exact List.mem_mergeSort

theorem has_posts_iff {k : Text} : Table.has ix.posts k = true ↔ ∃ p, ix.IsLive p ∧ k ∈ p.keys := by
  obtain ⟨steps, rfl⟩ := h
  simp only [(after_agrees steps).reflects.coherent.keys, Post.keys, List.mem_cons]

theorem leadsHome : LeadsHome ix.persons := by
  obtain ⟨s, posts, hpersons⟩ := h.exists_handleTable
  exact hpersons ▸ leadsHome_handleTable s posts

/-- The table of handles leads from a key to its owner among the persons of the index. -/
theorem exists_owners : ∃ ps : List Person, (∀ p, p ∈ ps ↔ p ∈ ix.allPersons) ∧
    ∀ k, Table.get? ix.persons k = ownerOf ps k := by
  obtain ⟨s, posts, hpersons⟩ := h.exists_handleTable
  refine ⟨everybody s posts, fun p => ?_, fun k => ?_⟩
  · rw [mem_allPersons_iff h.leadsHome, hpersons, mem_everybody_iff]
  · rw [hpersons, get?_handleTable]

theorem mem_allPersons_iff_leads {p : Person} : p ∈ ix.allPersons ↔ ∃ k, Table.get? ix.persons k = some p := by
  constructor
  · exact fun hp => ⟨p.handle, (mem_allPersons_iff h.leadsHome).1 hp⟩
  · rintro ⟨k, hk⟩
    obtain ⟨ps, hmem, hget⟩ := h.exists_owners
    rw [hget] at hk
    exact (hmem p).1 (ownerOf_eq_some hk).1

theorem has_persons_iff {k : Text} : Table.has ix.persons k = true ↔ ∃ p ∈ ix.allPersons, k ∈ p.keys := by
  obtain ⟨ps, hmem, hget⟩ := h.exists_owners
  rw [Table.has_iff, hget]
  constructor
  · rintro ⟨p, hp⟩
    exact ⟨p, (hmem p).1 (ownerOf_eq_some hp).1, (ownerOf_eq_some hp).2⟩
  · rintro ⟨p, hp, hk⟩
    exact exists_ownerOf ((hmem p).2 hp) hk

end Index.Reached

/-! ### What a position is offered -/

namespace Completion

theorem offersEach_wikilinkItems {ix : Index} (h : ix.Reached) (first : Nat) (lineText : Text) (line character : Nat) :
    OffersEach ix.IsLive Post.occurrences Key.key Post.detailOf
      (wikilinkItems ix ⟨[], first⟩ lineText line character) := by
  refine ⟨ix.allPosts, postKeys ix, h.nodup_allPosts, fun _ => h.mem_allPosts_iff, ?_, ?_⟩
  · have hkeys : ix.allPosts.flatMap Post.occurrences =
        (ix.allPosts.flatMap (Key.ofOwner Post.keys)).filter fun k => !k.key.isEmpty := List.filter_flatMap.symm
    rw [hkeys]
    exact Key.inOrder_mergeSort _
  · unfold wikilinkItems
    rw [fuzzyFilter_of_blank rfl, List.map_map]
    rfl

theorem offersEach_mentionItems {ix : Index} (h : ix.Reached) (first line character : Nat) :
    OffersEach (fun p => ∃ k, Table.get? ix.persons k = some p) Person.occurrences (fun k => '@' :: k.key)
      Person.detailOf (mentionItems ix ⟨[], first⟩ line character) := by
  refine ⟨ix.allPersons, handleKeys ix, ix.nodup_allPersons, fun _ => h.mem_allPersons_iff_leads,
    Key.inOrder_mergeSort _, ?_⟩
  unfold mentionItems
  rw [fuzzyFilter_of_blank rfl, List.map_map]
  rfl

end Completion

/-- At a reference that is being typed the keys of the index are offered. -/
structure OffersKeys (ix : Index) (page : Text) (pos : Position) : Prop where
  wikilink : ∀ typed, cursorAt page pos.line pos.character = some (.wikilink typed) →
    let all := Completion.wikilinkItems ix ⟨[], typed.first⟩ (lineAt page pos.line) pos.line pos.character
    Narrowed typed (completions ix page pos) all ∧
      OffersEach ix.IsLive Post.occurrences Key.key Post.detailOf all ∧
      ∀ t, t ∈ all.map CompletionItem.label ↔ Table.has ix.posts t = true ∧ t ≠ []
  mention : ∀ typed, cursorAt page pos.line pos.character = some (.mention typed) →
    let all := Completion.mentionItems ix ⟨[], typed.first⟩ pos.line pos.character
    Narrowed typed (completions ix page pos) all ∧
      OffersEach (fun p => ∃ k, Table.get? ix.persons k = some p) Person.occurrences (fun k => '@' :: k.key)
        Person.detailOf all ∧
      ∀ t, t ∈ all.map CompletionItem.label ↔ ∃ k, Table.has ix.persons k = true ∧ '@' :: k = t

/-- After every history the keys of the index are offered, in order. -/
theorem completions_offer_keys (steps : List Index.Step) (page : Text) (pos : Position) :
    OffersKeys (Index.after steps) page pos := by
  have hreached : Index.Reached (Index.after steps) := ⟨steps, rfl⟩
  refine ⟨?_, ?_⟩
  · intro typed hcursor
    have heach := Completion.offersEach_wikilinkItems hreached typed.first (lineAt page pos.line) pos.line pos.character
    simp only [completions, hcursor]
    refine ⟨narrowed_map typed _ _ _, heach, fun t => ?_⟩
    rw [heach.mem_labels_iff, hreached.has_posts_iff]
    simp only [Post.exists_mem_occurrences_iff, ← and_assoc, exists_and_right]
  · intro typed hcursor
    have heach := Completion.offersEach_mentionItems hreached typed.first pos.line pos.character
    simp only [completions, hcursor]
    refine ⟨narrowed_map typed _ _ _, heach, fun t => ?_⟩
    rw [heach.mem_labels_iff]
    simp only [Person.exists_mem_occurrences_iff, hreached.has_persons_iff, ← hreached.mem_allPersons_iff_leads]
    constructor
    · rintro ⟨p, hp, k, hk, rfl⟩
      exact ⟨k, ⟨p, hp, hk⟩, rfl⟩
    · rintro ⟨k, ⟨p, hp, hk⟩, rfl⟩
      exact ⟨p, hp, k, hk, rfl⟩

/-- A site with the post `a`, which is also called `b`, and the person `simon`. -/
private def offered : List Index.Step :=
  let tree := (FileTree.empty []).write [encodeUtf8 "a.md".toList] (encodeUtf8 "---\naliases: [b]\n---\n".toList)
  [.build .asListed tree (Path.ofText "/".toList)
    { Settings.default with blogroll := [⟨some "@simon".toList, none, none, none, none, []⟩] }]

/-- On this page a link is open, for which both keys of the post are offered, and a mention has begun, for which the
handle is left. -/
theorem completions_offer_keys_offered :
    let ix := Index.after offered
    let page : Text := "see [[\nby @s".toList
    (cursorAt page 0 6 = some (.wikilink ⟨[], 6⟩) ∧
      let all := Completion.wikilinkItems ix ⟨[], 6⟩ (lineAt page 0) 0 6
      completions ix page ⟨0, 6⟩ = all ∧ OffersEach ix.IsLive Post.occurrences Key.key Post.detailOf all ∧
        "a".toList ∈ all.map CompletionItem.label ∧ "b".toList ∈ all.map CompletionItem.label) ∧
    cursorAt page 1 5 = some (.mention ⟨"s".toList, 4⟩) ∧
      let all := Completion.mentionItems ix ⟨[], 4⟩ 1 5
      (completions ix page ⟨1, 5⟩).Sublist all ∧
        OffersEach (fun p => ∃ k, Table.get? ix.persons k = some p) Person.occurrences (fun k => '@' :: k.key)
          Person.detailOf all ∧
        "@simon".toList ∈ all.map CompletionItem.label := by
  intro ix page
  have hlink : cursorAt page 0 6 = some (.wikilink ⟨[], 6⟩) := by decide +kernel
  have hmention : cursorAt page 1 5 = some (.mention ⟨"s".toList, 4⟩) := by decide +kernel
  obtain ⟨hall, heach, hkeys⟩ := (completions_offer_keys offered page ⟨0, 6⟩).wikilink _ hlink
  obtain ⟨hleft, heach', hkeys'⟩ := (completions_offer_keys offered page ⟨1, 5⟩).mention _ hmention
  have hown : Table.has ix.posts "a".toList = true := by decide +kernel
  have halias : Table.has ix.posts "b".toList = true := by decide +kernel
  have hhandle : Table.has ix.persons "simon".toList = true := by decide +kernel
  exact ⟨⟨hlink, hall.blank rfl, heach, (hkeys _).2 ⟨hown, by decide⟩, (hkeys _).2 ⟨halias, by decide⟩⟩, hmention,
    hleft.sublist, heach', (hkeys' _).2 ⟨_, hhandle, rfl⟩⟩

/-- Blanks behind the brackets leave out nothing. -/
example :
    let uri : Uri := ⟨"file".toList, some [], [], "/a.md".toList, none, none⟩
    let ix := Index.after [.update uri "A.".toList]
    (completions ix "see [[ \t".toList ⟨0, 8⟩).map CompletionItem.shown =
      [("a".toList, some "a".toList, some "0a".toList)] := by
  decide +kernel

end WikiSite
