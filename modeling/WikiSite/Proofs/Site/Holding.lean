import WikiSite.Proofs.Table
import WikiSite.Site.Index

/-!
# Who holds which key

`Holds ix live missing` says that the two key tables of an index belong to the posts `live`: the URI table gives each
of them its slug, each stands under its slug, nothing else stands under any key, and every key of theirs is taken,
those in `missing` excepted. The steps of the index keep this relation:

* `Holds.bequeath`: handing free keys to their heirs leaves no key missing;
* `Holds.detach`: taking a file out takes exactly its post out;
* `Holds.enter`: a post whose slug and URI are nobody's joins the others.
-/

namespace WikiSite

namespace Index

/-! ### Aliases -/

/-- A post stands under those of its aliases that are free, and no other key changes. -/
theorem get?_addAliases (t : Table Post) (p : Post) (k : Text) :
    Table.get? (addAliases t p) k = (Table.get? t k).or (if k ∈ p.aliases then some p else none) :=
  Table.get?_foldl_free p p.aliases t k

theorem ordered_addAliases {t : Table Post} (ht : Table.Ordered t) (p : Post) : Table.Ordered (addAliases t p) :=
  ht.foldl_free p p.aliases

/-! ### The relation -/

/-- The key tables belong to the posts `live`; only keys in `missing` may be free although one of these posts has
them. -/
structure Holds (ix : Index) (live : Post → Prop) (missing : List Text) : Prop where
  posts_ordered : Table.Ordered ix.posts
  slugs_ordered : Table.Ordered ix.slugs
  slugs_iff : ∀ u s, Table.get? ix.slugs u = some s ↔ ∃ p, live p ∧ p.uri.text = u ∧ p.slug = s
  at_slug : ∀ p, live p → Table.get? ix.posts p.slug = some p
  owned : ∀ k p, Table.get? ix.posts k = some p → live p ∧ k ∈ p.keys
  covered : ∀ p, live p → ∀ k ∈ p.keys, Table.has ix.posts k = true ∨ k ∈ missing

namespace Holds

variable {ix : Index} {live : Post → Prop} {missing : List Text} {k : Text}

theorem congr {live' : Post → Prop} (h : Holds ix live missing) (hl : ∀ p, live p ↔ live' p) :
    Holds ix live' missing := by
  obtain rfl : live = live' := funext fun p => propext (hl p)
  exact h

/-- Two posts with one slug are one post. -/
theorem eq_of_slug (h : Holds ix live missing) {p q : Post} (hp : live p) (hq : live q) (hs : p.slug = q.slug) :
    p = q := by
  have e := h.at_slug p hp
  rw [hs, h.at_slug q hq] at e
  exact (Option.some.inj e).symm

/-- Two posts of one file are one post. -/
theorem eq_of_uri (h : Holds ix live missing) {p q : Post} (hp : live p) (hq : live q)
    (hu : p.uri.text = q.uri.text) : p = q := by
  have ep := (h.slugs_iff p.uri.text p.slug).2 ⟨p, hp, rfl, rfl⟩
  have eq := (h.slugs_iff p.uri.text q.slug).2 ⟨q, hq, hu.symm, rfl⟩
  rw [ep] at eq
  exact h.eq_of_slug hp hq (Option.some.inj eq)

/-- The post at a URI is the one that holds its slug there. -/
theorem postAt_eq_some (h : Holds ix live missing) {uri : Uri} {p : Post} :
    ix.postAt uri = some p ↔ live p ∧ p.uri.text = uri.text := by
  unfold postAt
  rw [Option.filter_eq_some_iff, Option.bind_eq_some_iff]
  constructor
  · rintro ⟨⟨s, -, hp⟩, hu⟩
    exact ⟨(h.owned s p hp).1, by simpa using hu⟩
  · rintro ⟨hp, hu⟩
    refine ⟨⟨p.slug, ?_, h.at_slug p hp⟩, by simpa using hu⟩
    exact (h.slugs_iff _ _).2 ⟨p, hp, hu, rfl⟩

theorem postAt_eq_none (h : Holds ix live missing) {uri : Uri} :
    ix.postAt uri = none ↔ ∀ p, live p → p.uri.text ≠ uri.text := by
  rw [Option.eq_none_iff_forall_ne_some]
  constructor
  · intro hn p hp hu
    exact hn p (h.postAt_eq_some.2 ⟨hp, hu⟩)
  · intro hn p hp
    have := h.postAt_eq_some.1 hp
    exact hn p this.1 this.2

theorem mem_livePosts (h : Holds ix live missing) {p : Post} : p ∈ ix.livePosts ↔ live p := by
  unfold livePosts
  rw [List.mem_filterMap]
  constructor
  · rintro ⟨⟨u, s⟩, -, hp⟩
    exact (h.owned s p (Option.filter_eq_some_iff.1 hp).1).1
  · intro hp
    refine ⟨(p.uri.text, p.slug), ?_, ?_⟩
    · exact h.slugs_ordered.mem_iff.2 ((h.slugs_iff _ _).2 ⟨p, hp, rfl, rfl⟩)
    · simp [h.at_slug p hp, Option.filter]

/-! ### Heirs -/

theorem heir_eq_some (h : Holds ix live missing) {p : Post} (hk : ix.heir k = some p) :
    live p ∧ k ∈ p.aliases := by
  unfold heir at hk
  have hm := List.mem_of_mem_head? hk
  rw [List.mem_mergeSort, List.mem_filter, h.mem_livePosts] at hm
  exact ⟨hm.1, by simpa using hm.2⟩

theorem heir_eq_none (h : Holds ix live missing) (hk : ix.heir k = none) {p : Post} (hp : live p) :
    k ∉ p.aliases := by
  intro hm
  unfold heir at hk
  rw [List.head?_eq_none_iff] at hk
  have hin : p ∈ ((ix.livePosts.filter fun p => p.aliases.contains k).mergeSort
      fun a b => !textBefore b.slug a.slug) := by
    rw [List.mem_mergeSort, List.mem_filter, h.mem_livePosts]
    exact ⟨hp, by simpa using hm⟩
  rw [hk] at hin
  cases hin

/-- A key that is missing is nobody's slug. -/
private theorem not_slug_of_free (h : Holds ix live missing) (hk : Table.has ix.posts k = false) {p : Post}
    (hp : live p) : p.slug ≠ k := by
  rintro rfl
  have := Table.has_iff.2 ⟨p, h.at_slug p hp⟩
  rw [hk] at this
  cases this

/-- One turn of the loop that hands free keys over: the first missing key is given away or nobody wants it. -/
private theorem give (h : Holds ix live (k :: missing)) {p : Post} (hf : Table.has ix.posts k = false)
    (hk : ix.heir k = some p) : Holds { ix with posts := Table.insert k p ix.posts } live missing where
  posts_ordered := h.posts_ordered.insert k p
  slugs_ordered := h.slugs_ordered
  slugs_iff := h.slugs_iff
  at_slug q hq := by
    rw [Table.get?_insert, if_neg (h.not_slug_of_free hf hq)]
    exact h.at_slug q hq
  owned l q hl := by
    rw [Table.get?_insert] at hl
    split at hl
    · cases hl
      subst_vars
      have := h.heir_eq_some hk
      exact ⟨this.1, List.mem_cons_of_mem _ this.2⟩
    · exact h.owned l q hl
  covered q hq l hl := by
    rw [Table.has_iff, Table.get?_insert]
    by_cases hlk : l = k
    · exact .inl ⟨p, by simp [hlk]⟩
    · rw [if_neg hlk, ← Table.has_iff]
      exact (h.covered q hq l hl).imp_right fun hm => (List.mem_cons.1 hm).resolve_left hlk

/-- A missing key that is taken, or that nobody has, is not missing. -/
private theorem skip (h : Holds ix live (k :: missing))
    (hk : Table.has ix.posts k = true ∨ ∀ p, live p → k ∉ p.keys) : Holds ix live missing where
  posts_ordered := h.posts_ordered
  slugs_ordered := h.slugs_ordered
  slugs_iff := h.slugs_iff
  at_slug := h.at_slug
  owned := h.owned
  covered q hq l hl := by
    rcases h.covered q hq l hl with ht | hm
    · exact .inl ht
    · rcases List.mem_cons.1 hm with rfl | hm
      · rcases hk with ht | hn
        · exact .inl ht
        · exact absurd hl (hn q hq)
      · exact .inr hm

theorem bequeath (h : Holds ix live missing) : Holds (ix.bequeath missing) live [] := by
  -- each turn gives away the first missing key or finds that it is not missing
  induction missing generalizing ix with
  | nil => exact h
  | cons k rest ih =>
    unfold Index.bequeath
    split
    · rename_i ht
      exact ih (h.skip (.inl ht))
    · rename_i hf
      have hf : Table.has ix.posts k = false := by simpa using hf
      split
      · rename_i p hp
        exact ih (h.give hf hp)
      · rename_i hn
        refine ih (h.skip (.inr ?_))
        intro p hp hk
        rcases List.mem_cons.1 hk with rfl | hk
        · exact h.not_slug_of_free hf hp rfl
        · exact h.heir_eq_none hn hp hk

/-! ### Taking a file out -/

/-- Without the entries of the post at a URI, the tables belong to the others; only keys of that post are missing. -/
theorem withoutPost (h : Holds ix live []) {p : Post} (hp : live p) :
    Holds { ix with
      slugs := Table.erase ix.slugs p.uri.text
      posts := ix.posts.filter fun e => e.2.uri.text ≠ p.uri.text }
      (fun q => live q ∧ q.uri.text ≠ p.uri.text) p.keys where
  posts_ordered := h.posts_ordered.filter _
  slugs_ordered := h.slugs_ordered.erase _
  slugs_iff u s := by
    simp only [Table.get?_erase]
    split
    · rename_i hup
      simp only [reduceCtorEq, false_iff]
      rintro ⟨q, hq, hu, -⟩
      exact hq.2 (hu.trans hup)
    · rename_i hne
      rw [h.slugs_iff]
      constructor
      · rintro ⟨q, hq, rfl, rfl⟩
        exact ⟨q, ⟨hq, hne⟩, rfl, rfl⟩
      · rintro ⟨q, hq, rfl, rfl⟩
        exact ⟨q, hq.1, rfl, rfl⟩
  at_slug q hq := by
    simp only [h.posts_ordered.get?_filter, h.at_slug q hq.1, Option.filter_some, hq.2, ne_eq, not_false_eq_true,
      decide_true, ↓reduceIte]
  owned l q hl := by
    simp only [h.posts_ordered.get?_filter, Option.filter_eq_some_iff] at hl
    have := h.owned l q hl.1
    exact ⟨⟨this.1, by simpa using hl.2⟩, this.2⟩
  covered q hq l hl := by
    obtain ⟨r, hr⟩ := Table.has_iff.1 ((h.covered q hq.1 l hl).resolve_right List.not_mem_nil)
    by_cases hu : r.uri.text = p.uri.text
    · -- the key was the detached post's own
      have := h.owned l r hr
      rw [h.eq_of_uri this.1 hp hu] at this
      exact .inr this.2
    · refine .inl (Table.has_iff.2 ⟨r, ?_⟩)
      simp [h.posts_ordered.get?_filter, hr, hu]

/-- Where no post is at the URI there is nothing to take out. -/
private theorem withoutUri (h : Holds ix live []) {u : Text} (hu : ∀ p, live p → p.uri.text ≠ u) :
    Holds { ix with slugs := Table.erase ix.slugs u } (fun q => live q ∧ q.uri.text ≠ u) [] := by
  have hl : ∀ q, live q ↔ live q ∧ q.uri.text ≠ u := fun q => ⟨fun hq => ⟨hq, hu q hq⟩, And.left⟩
  refine Holds.congr ?_ hl
  refine ⟨h.posts_ordered, h.slugs_ordered.erase _, ?_, h.at_slug, h.owned, h.covered⟩
  intro v s
  simp only [Table.get?_erase]
  split
  · rename_i hvu
    simp only [reduceCtorEq, false_iff]
    rintro ⟨q, hq, hv, -⟩
    exact hu q hq (hv.trans hvu)
  · exact h.slugs_iff v s

theorem detach (h : Holds ix live []) (uri : Uri) :
    Holds (ix.detach uri).2 (fun q => live q ∧ q.uri.text ≠ uri.text) [] := by
  unfold Index.detach
  cases hp : ix.postAt uri with
  | none => exact h.withoutUri (h.postAt_eq_none.1 hp)
  | some p =>
    obtain ⟨hlive, hu⟩ := h.postAt_eq_some.1 hp
    have hw := (h.withoutPost hlive).bequeath
    rw [hu] at hw
    simpa only [hu] using hw

/-! ### Putting a post in -/

/-- A post joins those that hold keys when its slug and its URI are nobody's. -/
theorem enter (h : Holds ix live []) {p : Post} (hs : ∀ q, live q → q.slug ≠ p.slug)
    (hu : ∀ q, live q → q.uri.text ≠ p.uri.text) : Holds (ix.enter p) (fun q => live q ∨ q = p) [] where
  posts_ordered := ordered_addAliases (h.posts_ordered.insert _ _) p
  slugs_ordered := h.slugs_ordered.insert _ _
  slugs_iff u s := by
    simp only [Index.enter, Table.get?_insert]
    split
    · subst_vars
      simp only [Option.some.injEq]
      constructor
      · rintro rfl
        exact ⟨p, .inr rfl, rfl, rfl⟩
      · rintro ⟨q, hq | rfl, hqu, rfl⟩
        · exact absurd hqu (hu q hq)
        · rfl
    · rename_i hne
      rw [h.slugs_iff]
      constructor
      · rintro ⟨q, hq, rfl, rfl⟩
        exact ⟨q, .inl hq, rfl, rfl⟩
      · rintro ⟨q, hq | rfl, rfl, rfl⟩
        · exact ⟨q, hq, rfl, rfl⟩
        · exact absurd rfl hne
  at_slug q hq := by
    simp only [Index.enter, get?_addAliases, Table.get?_insert]
    rcases hq with hq | rfl
    · simp [hs q hq, h.at_slug q hq]
    · simp
  owned l q hl := by
    simp only [Index.enter, get?_addAliases, Table.get?_insert] at hl
    split at hl
    · cases hl
      subst_vars
      exact ⟨.inr rfl, List.mem_cons_self ..⟩
    · rcases Option.or_eq_some_iff.1 hl with hl | ⟨-, hl⟩
      · have := h.owned l q hl
        exact ⟨.inl this.1, this.2⟩
      · split at hl
        · cases hl
          exact ⟨.inr rfl, List.mem_cons_of_mem _ ‹_›⟩
        · cases hl
  covered q hq l hl := by
    refine .inl (Table.has_iff.2 ?_)
    simp only [Index.enter, get?_addAliases, Table.get?_insert]
    split
    · exact ⟨p, rfl⟩
    · rcases hq with hq | rfl
      · obtain ⟨r, hr⟩ := Table.has_iff.1 ((h.covered q hq l hl).resolve_right List.not_mem_nil)
        exact ⟨r, by simp [hr]⟩
      · have hm : l ∈ q.aliases := (List.mem_cons.1 hl).resolve_left ‹_›
        cases hg : Table.get? ix.posts l with
        | some r => exact ⟨r, by simp⟩
        | none => exact ⟨q, by simp [hm]⟩

end Holds

end Index

end WikiSite
