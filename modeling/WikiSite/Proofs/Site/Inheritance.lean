import WikiSite.Proofs.Site.History

/-!
# Inheritance of keys

A post that leaves its keys hands each of them to its heir: the live post with the least slug that declares the key as
an alias. What a key leads to afterwards depends on the live posts alone, so posts that come and go can be followed
key by key.

* `get?_bequeath`, `Holds.get?_detach_of_held`: a key that is given up goes to its heir, and no other key changes.
* `Holds.detach_enter`: a post that comes and goes again leaves the tables as they were, but its slug is with its heir.
* `Reflects.retract_insert`: a claim that is made and given up, in terms of the index before.
* `Reflects.insert_retract_insert`: a claim that is made again changes nothing.
-/

namespace WikiSite

theorem Log.without_append {log : Log} {p : Post} (hp : ∀ q ∈ log, q.uri.text ≠ p.uri.text) :
    Log.without (log ++ [p]) p.uri.text = log := by
  unfold Log.without
  rw [List.filter_append, List.filter_eq_self.2]
  · simp
  · intro q hq
    simpa using hp q hq

namespace Index

/-! ### Heirs -/

/-- The post has the least slug among the live ones that declare the alias. -/
structure IsHeir (live : Post → Prop) (k : Text) (p : Post) : Prop where
  isLive : live p
  declares : k ∈ p.aliases
  least : ∀ q, live q → k ∈ q.aliases → p.slug ≤ q.slug

namespace Holds

variable {ix ix' : Index} {live : Post → Prop} {missing missing' : List Text} {k : Text} {p : Post}

private theorem isHeir_of_heir (h : Holds ix live missing) (hk : ix.heir k = some p) : IsHeir live k p := by
  obtain ⟨hlive, hdeclares⟩ := h.heir_eq_some hk
  refine ⟨hlive, hdeclares, ?_⟩
  intro q hq hqk
  have hsorted := pairwise_mergeSort_text Post.slug (ix.livePosts.filter fun p => p.aliases.contains k)
  have hmem : q ∈ (ix.livePosts.filter fun p => p.aliases.contains k).mergeSort
      fun a b => !textBefore b.slug a.slug := by
    rw [List.mem_mergeSort, List.mem_filter, h.mem_livePosts]
    exact ⟨hq, by simpa using hqk⟩
  unfold heir at hk
  obtain ⟨rest, hrest⟩ := List.head?_eq_some_iff.1 hk
  rw [hrest] at hsorted hmem
  rcases List.mem_cons.1 hmem with rfl | hmem
  · exact le_refl _
  · exact (List.pairwise_cons.1 hsorted).1 q hmem

theorem heir_iff (h : Holds ix live missing) : ix.heir k = some p ↔ IsHeir live k p := by
  refine ⟨h.isHeir_of_heir, ?_⟩
  intro hp
  cases hk : ix.heir k with
  | none => exact absurd hp.declares (h.heir_eq_none hk hp.isLive)
  | some q =>
    have hq := h.isHeir_of_heir hk
    have hslug : q.slug = p.slug := le_antisymm (hq.least p hp.isLive hp.declares) (hp.least q hq.isLive hq.declares)
    rw [h.eq_of_slug hq.isLive hp.isLive hslug]

/-- The heirs depend on the live posts alone. -/
theorem heir_eq (h : Holds ix live missing) (h' : Holds ix' live missing') (k : Text) : ix'.heir k = ix.heir k := by
  apply Option.ext
  intro p
  rw [h'.heir_iff, h.heir_iff]

theorem slugs_eq (h : Holds ix live missing) (h' : Holds ix' live missing') : ix'.slugs = ix.slugs := by
  apply h'.slugs_ordered.ext h.slugs_ordered
  intro u
  apply Option.ext
  intro s
  rw [h'.slugs_iff, h.slugs_iff]

/-- A key that nobody holds has no heir. -/
theorem heir_of_free (h : Holds ix live []) (hk : Table.get? ix.posts k = none) : ix.heir k = none := by
  rw [Option.eq_none_iff_forall_ne_some]
  intro p hp
  obtain ⟨hlive, hdeclares⟩ := h.heir_eq_some hp
  have hhas := h.covered p hlive k (List.mem_cons_of_mem _ hdeclares)
  simp [Table.has, hk] at hhas

end Holds

/-! ### Keys that are given up -/

/-- A key that is nobody's slug does not show among the live posts. -/
private theorem livePosts_insert {ix : Index} {k : Text} (hs : ∀ e ∈ ix.slugs, Table.has ix.posts e.2 = true)
    (hk : Table.has ix.posts k = false) (p : Post) :
    livePosts { ix with posts := Table.insert k p ix.posts } = ix.livePosts := by
  unfold livePosts
  apply List.filterMap_congr
  intro e he
  have hne : e.2 ≠ k := by
    intro heq
    rw [← heq, hs e he] at hk
    cases hk
  simp only [Table.get?_insert, if_neg hne]

/-- Free keys go to their heirs, and no other key changes. -/
theorem get?_bequeath {ix : Index} (hs : ∀ e ∈ ix.slugs, Table.has ix.posts e.2 = true) (ks : List Text) (k : Text) :
    Table.get? (ix.bequeath ks).posts k = (Table.get? ix.posts k).or (if k ∈ ks then ix.heir k else none) := by
  induction ks generalizing ix with
  | nil => simp [bequeath]
  | cons a ks ih =>
    unfold bequeath
    split
    · rename_i hhas
      obtain ⟨q, hq⟩ := Table.has_iff.1 hhas
      rw [ih hs]
      by_cases hka : k = a
      · simp [hka, hq]
      · simp [hka]
    · rename_i hfree
      have hfree : Table.has ix.posts a = false := by simpa using hfree
      have hnone : Table.get? ix.posts a = none := by simpa [Table.has] using hfree
      split
      · rename_i p hp
        have hlive := livePosts_insert hs hfree p
        have hheir : heir { ix with posts := Table.insert a p ix.posts } k = ix.heir k := by
          unfold heir
          rw [hlive]
        have hs' : ∀ e ∈ ix.slugs, Table.has (Table.insert a p ix.posts) e.2 = true := by
          intro e he
          obtain ⟨q, hq⟩ := Table.has_iff.1 (hs e he)
          rw [Table.has_iff, Table.get?_insert]
          split
          · exact ⟨p, rfl⟩
          · exact ⟨q, hq⟩
        rw [ih hs', hheir, Table.get?_insert]
        by_cases hka : k = a
        · simp [hka, hnone, hp]
        · simp [hka]
      · rename_i hheir
        rw [ih hs]
        by_cases hka : k = a
        · simp [hka, hheir]
        · simp [hka]

namespace Holds

variable {ix : Index} {live : Post → Prop} {k : Text} {p : Post}

private theorem slugs_taken {missing : List Text} (h : Holds ix live missing) :
    ∀ e ∈ ix.slugs, Table.has ix.posts e.2 = true := by
  rintro ⟨u, s⟩ he
  obtain ⟨q, hq, -, rfl⟩ := (h.slugs_iff u s).1 (h.slugs_ordered.mem_iff.1 he)
  exact Table.has_iff.2 ⟨q, h.at_slug q hq⟩

/-- The tables without a post, before its keys go to their heirs. -/
private theorem get?_detach (h : Holds ix live []) (hp : live p) (k : Text) :
    Table.get? (ix.detach p.uri).2.posts k =
      ((Table.get? ix.posts k).filter fun q => q.uri.text ≠ p.uri.text).or
        (if k ∈ p.keys then (ix.detach p.uri).2.heir k else none) := by
  have hat : ix.postAt p.uri = some p := h.postAt_eq_some.2 ⟨hp, rfl⟩
  have hw := h.withoutPost hp
  have hdetach : (ix.detach p.uri).2 = Index.bequeath
      { ix with
        slugs := Table.erase ix.slugs p.uri.text
        posts := ix.posts.filter fun e => e.2.uri.text ≠ p.uri.text } p.keys := by
    unfold Index.detach
    rw [hat]
  rw [hdetach, hw.heir_eq hw.bequeath, get?_bequeath hw.slugs_taken, h.posts_ordered.get?_filter]

/-- A key that the post holds goes to its heir among the others. -/
theorem get?_detach_of_held (h : Holds ix live []) (hp : live p) (hk : Table.get? ix.posts k = some p) :
    Table.get? (ix.detach p.uri).2.posts k = (ix.detach p.uri).2.heir k := by
  rw [h.get?_detach hp, hk, if_pos (h.owned k p hk).2, Option.filter_some, if_neg (by simp), Option.none_or]

/-- A key that the post does not hold stays where it is. -/
theorem get?_detach_of_other (h : Holds ix live []) (hp : live p) (hk : Table.get? ix.posts k ≠ some p) :
    Table.get? (ix.detach p.uri).2.posts k = Table.get? ix.posts k := by
  rw [h.get?_detach hp]
  cases hq : Table.get? ix.posts k with
  | none =>
    have hnot : k ∉ p.keys := by
      intro hmem
      have hhas := h.covered p hp k hmem
      simp [Table.has, hq] at hhas
    simp [hnot]
  | some q =>
    have hne : q.uri.text ≠ p.uri.text := by
      intro heq
      apply hk
      rw [hq, h.eq_of_uri (h.owned k q hq).1 hp heq]
    simp [hne]

end Holds

/-! ### Posts that come and go -/

/-- Puts a slug that nobody holds under its heir. -/
def settle (ix : Index) (s : Text) : Index :=
  { ix with
    posts :=
      match ix.heir s with
      | some p => Table.insert s p ix.posts
      | none => Table.erase ix.posts s }

theorem get?_settle (ix : Index) (s k : Text) :
    Table.get? (ix.settle s).posts k = if k = s then ix.heir s else Table.get? ix.posts k := by
  unfold settle
  cases ix.heir s <;> simp

theorem ordered_settle {ix : Index} (h : Table.Ordered ix.posts) (s : Text) : Table.Ordered (ix.settle s).posts := by
  unfold settle
  cases ix.heir s with
  | none => exact h.erase s
  | some p => exact h.insert s p

theorem settle_eq_self {ix : Index} (h : Table.Ordered ix.posts) {s : Text} (hs : Table.get? ix.posts s = ix.heir s) :
    ix.settle s = ix := by
  have hposts : (ix.settle s).posts = ix.posts := by
    apply (ordered_settle h s).ext h
    intro k
    rw [get?_settle]
    split
    · rename_i hk
      rw [hk, hs]
    · rfl
  rw [show ix.settle s = { ix with posts := (ix.settle s).posts } from rfl, hposts]

/-- A post that takes a slug does not ask who had it as an alias. -/
theorem enter_settle {ix : Index} (h : Table.Ordered ix.posts) (p : Post) : (ix.settle p.slug).enter p = ix.enter p := by
  have hposts : Table.insert p.slug p (ix.settle p.slug).posts = Table.insert p.slug p ix.posts := by
    apply ((ordered_settle h p.slug).insert p.slug p).ext (h.insert p.slug p)
    intro k
    rw [Table.get?_insert, Table.get?_insert, get?_settle]
    by_cases hk : k = p.slug <;> simp [hk]
  unfold enter
  rw [hposts]
  rfl

theorem get?_enter (ix : Index) (p : Post) (k : Text) :
    Table.get? (ix.enter p).posts k =
      if k = p.slug then some p else (Table.get? ix.posts k).or (if k ∈ p.aliases then some p else none) := by
  unfold enter
  rw [get?_addAliases, Table.get?_insert]
  split <;> simp

namespace Holds

variable {ix : Index} {live : Post → Prop} {p : Post}

/-- Nothing but its slug remembers a post that came and went. -/
theorem detach_enter (h : Holds ix live []) (hs : ∀ q, live q → q.slug ≠ p.slug)
    (hu : ∀ q, live q → q.uri.text ≠ p.uri.text) : ((ix.enter p).detach p.uri).2 = ix.settle p.slug := by
  have hin := h.enter hs hu
  have hout : Holds ((ix.enter p).detach p.uri).2 live [] := by
    apply (hin.detach p.uri).congr
    intro q
    constructor
    · rintro ⟨hq | rfl, hne⟩
      · exact hq
      · exact absurd rfl hne
    · intro hq
      exact ⟨.inl hq, hu q hq⟩
  have hposts : ((ix.enter p).detach p.uri).2.posts = (ix.settle p.slug).posts := by
    apply hout.posts_ordered.ext (ordered_settle h.posts_ordered _)
    intro k
    rw [get?_settle]
    have henter := get?_enter ix p k
    -- the post holds its slug and those of its aliases that nobody else wants
    by_cases hk : k = p.slug
    · rw [if_pos hk] at henter
      rw [if_pos hk, hin.get?_detach_of_held (.inr rfl) henter, h.heir_eq hout, hk]
    · rw [if_neg hk] at henter
      rw [if_neg hk]
      cases hq : Table.get? ix.posts k with
      | some q =>
        rw [hq, Option.some_or] at henter
        have hne : q ≠ p := by
          rintro rfl
          exact hu q (h.owned k q hq).1 rfl
        rw [hin.get?_detach_of_other (.inr rfl) (by simpa [henter] using hne), henter]
      | none =>
        rw [hq, Option.none_or] at henter
        by_cases hmem : k ∈ p.aliases
        · rw [if_pos hmem] at henter
          rw [hin.get?_detach_of_held (.inr rfl) henter, h.heir_eq hout, h.heir_of_free hq]
        · rw [if_neg hmem] at henter
          rw [hin.get?_detach_of_other (.inr rfl) (by simp [henter]), henter]
  have hslugs := h.slugs_eq hout
  obtain ⟨posts, slugs, he⟩ := detach_snd_eq (ix.enter p) p.uri
  rw [he] at hposts hslugs ⊢
  have hposts : posts = (ix.settle p.slug).posts := hposts
  have hslugs : slugs = ix.slugs := hslugs
  rw [hposts, hslugs]
  rfl

end Holds

/-! ### Claims that are made and given up -/

namespace Reflects

variable {ix : Index} {log : Log} {p : Post}

theorem forget_eq (h : Reflects ix log) {uri : Uri} (hu : ∀ s, ∀ q ∈ Log.waiting log s, q.uri.text ≠ uri.text) :
    ix.forget uri = ix := by
  have hdisplaced : (ix.forget uri).displaced = ix.displaced := by
    apply (h.ordered_forget uri).ext h.displaced_ordered
    intro s
    rw [h.get?_forget, h.displaced_eq, List.filter_eq_self.2]
    intro q hq
    simpa using hu s q hq
  rw [show ix.forget uri = { ix with displaced := (ix.forget uri).displaced } from rfl, hdisplaced]

/-- A file that the index does not know cannot be taken out. -/
theorem retract_unknown (h : Reflects ix log) {uri : Uri} (hu : ∀ q ∈ log, q.uri.text ≠ uri.text) :
    (ix.retract uri).2 = ix := by
  have hforget := h.forget_eq fun s q hq => hu q (Log.mem_claims.1 (Log.mem_claims_of_waiting hq)).1
  have hat : ix.postAt uri = none := by
    rw [h.holds.postAt_eq_none]
    intro q hq
    exact hu q (Log.mem_of_holder hq)
  have hslugs : Table.erase ix.slugs uri.text = ix.slugs := by
    apply (h.holds.slugs_ordered.erase _).ext h.holds.slugs_ordered
    intro v
    rw [Table.get?_erase]
    split
    · rename_i hv
      symm
      rw [Option.eq_none_iff_forall_ne_some]
      intro s hs
      obtain ⟨q, hq, hqv, -⟩ := (h.holds.slugs_iff v s).1 hs
      exact hu q (Log.mem_of_holder hq) (hqv.trans hv)
    · rfl
  have hdetach : ix.detach uri = (none, ix) := by
    unfold Index.detach
    rw [hat, hslugs]
  unfold Index.retract
  rw [hforget, hdetach]

/-- A claim that is given up: the tables without the post, and then the slug goes back to whoever waited for it. -/
private theorem retract_append (h : Reflects ix (log ++ [p])) (hp : ∀ q ∈ log, q.uri.text ≠ p.uri.text) :
    (ix.retract p.uri).2 =
      match Log.holder log p.slug with
      | none => (ix.detach p.uri).2
      | some q => ((ix.detach p.uri).2.setWaiting p.slug (Log.waiting log p.slug)).enter q := by
  have hlast : Log.holder (log ++ [p]) p.slug = some p := by rw [Log.holder_append, if_pos rfl]
  have hforget : ix.forget p.uri = ix := by
    apply h.forget_eq
    intro s q hq
    rw [Log.waiting_append] at hq
    split at hq
    · exact hp q (Log.mem_claims.1 hq).1
    · exact hp q (Log.mem_claims.1 (Log.mem_claims_of_waiting hq)).1
  have hat : ix.postAt p.uri = some p := h.holds.postAt_eq_some.2 ⟨hlast, rfl⟩
  have hvacant := h.vacant_of_some (show (ix.forget p.uri).postAt p.uri = some p by rw [hforget, hat])
  rw [Log.without_append hp, hforget] at hvacant
  have hfst : (ix.detach p.uri).1 = some p := by rw [detach_fst, hat]
  have hretract : (ix.retract p.uri).2 = (ix.detach p.uri).2.reinstate p.slug := by
    unfold Index.retract
    rw [hforget]
    split
    · rename_i ix' he
      rw [he] at hfst
      cases hfst
    · rename_i q ix' he
      rw [he] at hfst
      cases hfst
      rw [he]
  rw [hretract]
  refine hvacant.reinstate_eq.trans ?_
  cases Log.holder log p.slug <;> rfl

/-- The state in which a claim on a held slug is made: its holder has left and waits. -/
private theorem insert_eq_of_held (h : Reflects ix log) (hp : ∀ q ∈ log, q.uri.text ≠ p.uri.text) {q : Post}
    (hq : Log.holder log p.slug = some q) : ix.insert p = ((ix.detach q.uri).2.wait q).enter p := by
  have hslug := Log.slug_of_holder hq
  have hlive : Log.holder log q.slug = some q := by rw [hslug, hq]
  unfold Index.insert
  rw [h.holds.displaceHolder_of_held hlive hslug (hp q (Log.mem_of_holder hq))]

private theorem insert_eq_of_free (h : Reflects ix log) (hfree : Log.holder log p.slug = none) :
    ix.insert p = ix.enter p := by
  unfold Index.insert
  rw [h.holds.displaceHolder_of_free]
  intro q hq heq
  rw [heq, hfree] at hq
  cases hq

/-- The posts that are live beside the holder of a slug. -/
private theorem holds_detach (h : Reflects ix log) {q : Post} (hq : Log.holder log q.slug = some q) :
    Holds (ix.detach q.uri).2 (fun r => Log.holder log r.slug = some r ∧ r.slug ≠ q.slug) [] := by
  apply (h.holds.detach q.uri).congr
  intro r
  refine and_congr_right fun hr => not_congr ⟨?_, ?_⟩
  · intro heq
    rw [h.holds.eq_of_uri hr hq heq]
  · intro heq
    rw [h.holds.eq_of_slug hr hq heq]

/-- The slug of a post that has left is with its heir. -/
private theorem settle_detach (h : Reflects ix log) {q : Post} (hq : Log.holder log q.slug = some q) :
    (ix.detach q.uri).2.settle q.slug = (ix.detach q.uri).2 := by
  apply settle_eq_self (h.holds_detach hq).posts_ordered
  exact h.holds.get?_detach_of_held hq (h.holds.at_slug q hq)

/-- A claim adds the last holder, and nobody else, to those who wait. -/
private theorem setWaiting_wait (h : Reflects ix log) (q : Post) :
    ((ix.detach q.uri).2.wait q).setWaiting q.slug (Log.waiting log q.slug) = (ix.detach q.uri).2 := by
  have hdisplaced : (((ix.detach q.uri).2.wait q).setWaiting q.slug (Log.waiting log q.slug)).displaced =
      (ix.detach q.uri).2.displaced := by
    have hordered : Table.Ordered (ix.detach q.uri).2.displaced := by
      rw [detach_snd_displaced]
      exact h.displaced_ordered
    apply (ordered_setWaiting (ordered_setWaiting hordered _ _) _ _).ext hordered
    intro s
    rw [get?_setWaiting]
    split
    · rename_i hs
      rw [hs, detach_snd_displaced, h.displaced_eq]
    · rename_i hs
      exact (get?_setWaiting _ _ _ s).trans (if_neg hs)
  generalize hix : ((ix.detach q.uri).2.wait q).setWaiting q.slug (Log.waiting log q.slug) = ix' at hdisplaced
  have hrest : ix' = { (ix.detach q.uri).2 with displaced := ix'.displaced } := by rw [← hix]; rfl
  rw [hrest, hdisplaced]

/-- A claim that is made and given up: a free slug goes to its heir, and a holder that was pushed out comes back to
those of its keys that nobody inherited. -/
theorem retract_insert (h : Reflects ix log) (hp : ∀ q ∈ log, q.uri.text ≠ p.uri.text) :
    ((ix.insert p).retract p.uri).2 =
      match Log.holder log p.slug with
      | none => ix.settle p.slug
      | some q => (ix.detach q.uri).2.enter q := by
  rw [(h.insert hp).retract_append hp]
  cases hq : Log.holder log p.slug with
  | none =>
    have hfree : ∀ r, Log.holder log r.slug = some r → r.slug ≠ p.slug := by
      intro r hr heq
      rw [heq, hq] at hr
      cases hr
    have hnew : ∀ r, Log.holder log r.slug = some r → r.uri.text ≠ p.uri.text :=
      fun r hr => hp r (Log.mem_of_holder hr)
    simp only
    rw [h.insert_eq_of_free hq, h.holds.detach_enter hfree hnew]
  | some q =>
    have hslug := Log.slug_of_holder hq
    have hlive : Log.holder log q.slug = some q := by rw [hslug, hq]
    have hwait : Holds ((ix.detach q.uri).2.wait q) _ [] := (h.holds_detach hlive).of_tables rfl rfl
    have hfree : ∀ r, (Log.holder log r.slug = some r ∧ r.slug ≠ q.slug) → r.slug ≠ p.slug := by
      intro r hr
      rw [← hslug]
      exact hr.2
    have hnew : ∀ r, (Log.holder log r.slug = some r ∧ r.slug ≠ q.slug) → r.uri.text ≠ p.uri.text :=
      fun r hr => hp r (Log.mem_of_holder hr.1)
    simp only
    rw [h.insert_eq_of_held hp hq, hwait.detach_enter hfree hnew, ← hslug]
    -- what has been added to those who wait is taken away again
    have hcomm : ((((ix.detach q.uri).2.wait q).settle q.slug).setWaiting q.slug (Log.waiting log q.slug)) =
        (((ix.detach q.uri).2.wait q).setWaiting q.slug (Log.waiting log q.slug)).settle q.slug := rfl
    rw [hcomm, h.setWaiting_wait q, h.settle_detach hlive]

/-- A claim that is made, given up and made again. -/
theorem insert_retract_insert (h : Reflects ix log) (hp : ∀ q ∈ log, q.uri.text ≠ p.uri.text) :
    ((ix.insert p).retract p.uri).2.insert p = ix.insert p := by
  have hback : Reflects ((ix.insert p).retract p.uri).2 log := by
    have hr := (h.insert hp).retract p.uri
    rwa [Log.without_append hp] at hr
  rw [h.retract_insert hp] at hback ⊢
  cases hq : Log.holder log p.slug with
  | none =>
    simp only [hq] at hback ⊢
    rw [hback.insert_eq_of_free hq, h.insert_eq_of_free hq, enter_settle h.holds.posts_ordered]
  | some q =>
    have hslug := Log.slug_of_holder hq
    have hlive : Log.holder log q.slug = some q := by rw [hslug, hq]
    have hfree : ∀ r, (Log.holder log r.slug = some r ∧ r.slug ≠ q.slug) → r.slug ≠ q.slug := fun r hr => hr.2
    have hnew : ∀ r, (Log.holder log r.slug = some r ∧ r.slug ≠ q.slug) → r.uri.text ≠ q.uri.text := by
      intro r hr heq
      exact hr.2 (congrArg Post.slug (h.holds.eq_of_uri hr.1 hlive heq))
    simp only [hq] at hback ⊢
    rw [hback.insert_eq_of_held hp hq, h.insert_eq_of_held hp hq, (h.holds_detach hlive).detach_enter hfree hnew,
      h.settle_detach hlive]

end Reflects

end Index

end WikiSite
