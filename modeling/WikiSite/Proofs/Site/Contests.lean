import WikiSite.Proofs.Site.Owners

/-!
# Contested keys

The posts of a site come in no order of their own, while of two posts with one handle the first counts. A key is
contested when a rule finds two persons for it and neither the blogroll nor a rule before does (`Contested`). A search
for somebody whom nobody contests finds the same person in every order of the posts (`find?_allPersons_perm`); of two
who contest a key each is found in some order (`exists_find?_allPersons`). So the table of handles is the same in
every order of the posts exactly when no handle is contested, and no alias among those whose handle comes first
(`handleTable_orderFree_iff`).
-/

namespace WikiSite

variable {s : Settings} {posts posts' : List Post} {f : Person → Bool}

/-! ### What a rule finds -/

/-- The person whom a rule finds in a post. -/
def PostRule.finds (rule : PostRule) (post : Post) : Option Person :=
  match Filter.ofText rule.filter with
  | .ok filter => if filter.selects post.metadata post.slug then Person.ofPost rule post else none
  | .error _ => none

theorem personsOfRule_eq (posts : List Post) (rule : PostRule) :
    personsOfRule posts rule = posts.filterMap rule.finds := by
  unfold personsOfRule PostRule.finds
  cases Filter.ofText rule.filter with
  | error e => simp
  | ok filter => exact List.filterMap_filter

theorem personsOfRule_perm (h : posts'.Perm posts) (rule : PostRule) :
    (personsOfRule posts' rule).Perm (personsOfRule posts rule) := by
  rw [personsOfRule_eq, personsOfRule_eq]
  exact h.filterMap _

theorem mem_flatMap_personsOfRule_perm (h : posts'.Perm posts) (rules : List PostRule) {p : Person} :
    p ∈ rules.flatMap (personsOfRule posts') ↔ p ∈ rules.flatMap (personsOfRule posts) := by
  simp only [List.mem_flatMap, (personsOfRule_perm h _).mem_iff]

/-! ### Searches in another order -/

theorem find?_eq_of_perm {α : Type} {l l' : List α} {f : α → Bool} (h : l'.Perm l)
    (hone : ∀ p ∈ l, ∀ q ∈ l, f p = true → f q = true → p = q) : l'.find? f = l.find? f := by
  cases hl : l.find? f with
  | none =>
    rw [List.find?_eq_none] at hl ⊢
    exact fun p hp => hl p (h.mem_iff.1 hp)
  | some p =>
    have hp := List.mem_of_find?_eq_some hl
    have hfp := List.find?_some hl
    obtain ⟨q, hq⟩ := Option.isSome_iff_exists.1 (List.find?_isSome.2 ⟨p, h.mem_iff.2 hp, hfp⟩)
    rw [hq, hone p hp q (h.mem_iff.1 (List.mem_of_find?_eq_some hq)) hfp (List.find?_some hq)]

/-- Of the rules, the first that finds somebody finds one person. -/
def OneFound (posts : List Post) (f : Person → Bool) (rules : List PostRule) : Prop :=
  ∀ before rule after, rules = before ++ rule :: after → (∀ p ∈ before.flatMap (personsOfRule posts), f p = false) →
    ∀ p ∈ personsOfRule posts rule, ∀ q ∈ personsOfRule posts rule, f p = true → f q = true → p = q

theorem find?_flatMap_perm (h : posts'.Perm posts) {rules : List PostRule} (hone : OneFound posts f rules) :
    (rules.flatMap (personsOfRule posts')).find? f = (rules.flatMap (personsOfRule posts)).find? f := by
  induction rules with
  | nil => rfl
  | cons rule rules ih =>
    have hhead := find?_eq_of_perm (personsOfRule_perm h rule) (hone [] rule rules rfl (by simp))
    rw [List.flatMap_cons, List.flatMap_cons, List.find?_append, List.find?_append, hhead]
    cases hfind : (personsOfRule posts rule).find? f with
    | some p => rfl
    | none =>
      -- the rule finds nobody, so it may stand in front of the others
      rw [Option.none_or, Option.none_or]
      apply ih
      rintro before rule' after rfl hbefore
      apply hone (rule :: before) rule' after rfl
      intro p hp
      rw [List.flatMap_cons, List.mem_append] at hp
      rcases hp with hp | hp
      · simpa using List.find?_eq_none.1 hfind p hp
      · exact hbefore p hp

/-- A rule finds two persons who meet a condition that nobody of the blogroll and of the rules before meets. -/
def Contested (s : Settings) (posts : List Post) (f : Person → Bool) : Prop :=
  ∃ before rule after, s.fromPosts = before ++ rule :: after ∧
    (∀ p ∈ blogrollPersons s ++ before.flatMap (personsOfRule posts), f p = false) ∧
    ∃ p ∈ personsOfRule posts rule, ∃ q ∈ personsOfRule posts rule, p ≠ q ∧ f p = true ∧ f q = true

/-- Whom nobody contests is found in every order of the posts. -/
theorem find?_allPersons_perm (h : posts'.Perm posts) (hf : ¬ Contested s posts f) :
    (allPersons s posts').find? f = (allPersons s posts).find? f := by
  rw [allPersons_eq, allPersons_eq, List.find?_append, List.find?_append]
  cases hblogroll : (blogrollPersons s).find? f with
  | some p => rfl
  | none =>
    rw [Option.none_or, Option.none_or]
    apply find?_flatMap_perm h
    intro before rule after hrules hbefore p hp q hq hfp hfq
    by_contra hne
    refine hf ⟨before, rule, after, hrules, ?_, p, hp, q, hq, hne, hfp, hfq⟩
    intro r hr
    rcases List.mem_append.1 hr with hr | hr
    · simpa using List.find?_eq_none.1 hblogroll r hr
    · exact hbefore r hr

/-- Whom a rule finds, and nobody before it, is found in an order with that post in front. -/
theorem exists_find?_allPersons {before after : List PostRule} {rule : PostRule} {p : Person}
    (hrules : s.fromPosts = before ++ rule :: after)
    (hbefore : ∀ q ∈ blogrollPersons s ++ before.flatMap (personsOfRule posts), f q = false)
    (hp : p ∈ personsOfRule posts rule) (hf : f p = true) :
    ∃ posts', posts'.Perm posts ∧ (allPersons s posts').find? f = some p := by
  rw [personsOfRule_eq] at hp
  obtain ⟨post, hpost, hfinds⟩ := List.mem_filterMap.1 hp
  obtain ⟨front, back, rfl⟩ := List.append_of_mem hpost
  have hperm : (post :: (front ++ back)).Perm (front ++ post :: back) := List.perm_middle.symm
  refine ⟨post :: (front ++ back), hperm, ?_⟩
  have hnone : (blogrollPersons s ++ before.flatMap (personsOfRule (post :: (front ++ back)))).find? f = none := by
    rw [List.find?_eq_none]
    intro q hq
    rw [List.mem_append, mem_flatMap_personsOfRule_perm hperm, ← List.mem_append] at hq
    simp [hbefore q hq]
  rw [allPersons_eq, hrules, List.flatMap_append, ← List.append_assoc, List.find?_append, hnone, List.flatMap_cons,
    personsOfRule_eq, List.filterMap_cons_some hfinds]
  simp [hf]

/-! ### The table in another order -/

/-- Nobody contests a handle, and nobody whose handle comes first contests an alias that is no handle. -/
structure Uncontested (s : Settings) (posts : List Post) : Prop where
  handles : ∀ k, ¬ Contested s posts (Person.hasHandle k)
  aliases : ∀ k, (∀ p ∈ everybody s posts, p.handle ≠ k) →
    ¬ Contested s posts fun p => (everybody s posts).contains p && p.hasAlias k

/-- The owner of a key is found by searches among all persons. -/
theorem get?_handleTable_eq (s : Settings) (posts : List Post) (k : Text) :
    Table.get? (handleTable s posts) k = ((allPersons s posts).find? (Person.hasHandle k)).or
      ((allPersons s posts).find? fun p => (everybody s posts).contains p && p.hasAlias k) := by
  rw [get?_handleTable]
  unfold ownerOf everybody
  rw [find?_hasHandle_firstHandles List.not_mem_nil, find?_firstHandles]

theorem mem_everybody_perm (h : posts'.Perm posts) (hhandles : ∀ k, ¬ Contested s posts (Person.hasHandle k))
    (p : Person) : p ∈ everybody s posts' ↔ p ∈ everybody s posts := by
  unfold everybody
  rw [mem_firstHandles_iff, mem_firstHandles_iff, find?_allPersons_perm h (hhandles _)]

/-- The condition on the owner of an alias does not depend on the order, when nobody contests a handle. -/
theorem contains_everybody_perm (h : posts'.Perm posts) (hhandles : ∀ k, ¬ Contested s posts (Person.hasHandle k))
    (k : Text) : (fun p => (everybody s posts').contains p && Person.hasAlias k p) =
      fun p => (everybody s posts).contains p && Person.hasAlias k p := by
  funext p
  congr 1
  rw [Bool.eq_iff_iff, List.contains_iff_mem, List.contains_iff_mem]
  exact mem_everybody_perm h hhandles p

theorem Uncontested.handleTable_eq (hs : Uncontested s posts) (h : posts'.Perm posts) :
    handleTable s posts' = handleTable s posts := by
  apply (leadsHome_handleTable s posts').ordered.ext (leadsHome_handleTable s posts).ordered
  intro k
  rw [get?_handleTable_eq, get?_handleTable_eq, find?_allPersons_perm h (hs.handles k),
    contains_everybody_perm h hs.handles]
  cases hfind : (allPersons s posts).find? (Person.hasHandle k) with
  | some p => rfl
  | none =>
    have hother : ∀ p ∈ everybody s posts, p.handle ≠ k := by
      intro p hp
      have := List.find?_eq_none.1 hfind p ((firstHandles_sublist _ _).mem hp)
      simpa [Person.hasHandle] using this
    rw [find?_allPersons_perm h (hs.aliases k hother)]

/-- A key is not contested when whoever is found for it in some order has it in the table. -/
theorem not_contested_of_get? {k : Text}
    (hget : ∀ posts' p, posts'.Perm posts → (allPersons s posts').find? f = some p →
      Table.get? (handleTable s posts) k = some p) : ¬ Contested s posts f := by
  rintro ⟨before, rule, after, hrules, hbefore, p, hp, q, hq, hne, hfp, hfq⟩
  obtain ⟨posts₁, hperm₁, hfind₁⟩ := exists_find?_allPersons hrules hbefore hp hfp
  obtain ⟨posts₂, hperm₂, hfind₂⟩ := exists_find?_allPersons hrules hbefore hq hfq
  exact hne (Option.some.inj ((hget posts₁ p hperm₁ hfind₁).symm.trans (hget posts₂ q hperm₂ hfind₂)))

theorem uncontested_of_forall_perm (hfree : ∀ posts', posts'.Perm posts → handleTable s posts' = handleTable s posts) :
    Uncontested s posts := by
  have hhandles : ∀ k, ¬ Contested s posts (Person.hasHandle k) := by
    intro k
    refine not_contested_of_get? (k := k) fun posts' p hperm hfind => ?_
    rw [← hfree posts' hperm, get?_handleTable_eq, hfind, Option.some_or]
  refine ⟨hhandles, ?_⟩
  intro k hk
  have hnone : (allPersons s posts).find? (Person.hasHandle k) = none := by
    rw [← find?_hasHandle_firstHandles List.not_mem_nil, List.find?_eq_none]
    intro p hp
    simpa [Person.hasHandle] using hk p hp
  refine not_contested_of_get? (k := k) fun posts' p hperm hfind => ?_
  rw [← hfree posts' hperm, get?_handleTable_eq, find?_allPersons_perm hperm (hhandles k), hnone, Option.none_or,
    contains_everybody_perm hperm hhandles, hfind]

/-- The table of handles is the same in every order of the posts exactly when no key is contested. -/
theorem handleTable_orderFree_iff (s : Settings) (posts : List Post) :
    (∀ posts', posts'.Perm posts → handleTable s posts' = handleTable s posts) ↔ Uncontested s posts := by
  constructor
  · exact uncontested_of_forall_perm
  · intro hs posts' hperm
    exact hs.handleTable_eq hperm

/-- Every post may be mentioned under its field `handle`. -/
private def byField : Settings :=
  { Settings.default with fromPosts := [⟨"True".toList, "handle".toList, none⟩] }

/-- The post of a file with the handle `x`. -/
private def rivalPost (name : String) : Post :=
  Post.ofContent (some (Path.ofText "/srv".toList)) (Path.ofText ("/srv/".toList ++ name.toList))
    ⟨"file".toList, some [], [], "/srv/".toList ++ name.toList, none, none⟩ "---\nhandle: x\n---\n".toList 160

/-- Two files with one handle: whichever comes first has it. -/
theorem not_handleTable_orderFree :
    ¬ ∀ (s : Settings) (posts posts' : List Post), (posts.map Post.slug).Nodup →
      (posts.map fun p => p.uri.text).Nodup → posts'.Perm posts → handleTable s posts' = handleTable s posts := by
  intro h
  have hsame := h byField [rivalPost "a.md", rivalPost "b.md"] [rivalPost "b.md", rivalPost "a.md"]
    (by decide +kernel) (by decide +kernel) (.swap ..)
  revert hsame
  decide +kernel

end WikiSite
