import WikiSite.Proofs.Site.Inheritance
import WikiSite.Proofs.Site.Lookup
import WikiSite.Proofs.Site.Registration

/-!
# Claims that are repeated or withdrawn

Indexing a file again from the same content changes nothing (`update_update`).

Indexing a new file and taking it out again brings back who holds which slug, and so the post at every URI and the list
of posts. An alias that one live post declares comes back too. An alias that several declare belongs to the first of
them, but once it has been free it goes to the heir, so it may pass from its holder to another of them (`PassesOn`).
This happens where the new file claims the alias as its slug, and where it pushes the holder out of its own slug; no
other lookup changes (`withdrawn_restored`). `not_restored_contested` shows that it does happen.
-/

namespace WikiSite

namespace Index

/-! ### A claim that is repeated -/

/-- Indexing a file twice from one content leaves the index as indexing it once does. -/
theorem update_update (steps : List Step) (uri : Uri) (content : Text) :
    ((after steps).update uri content).update uri content = (after steps).update uri content := by
  have hout := (after_agrees steps).reflects.retract uri
  have hnew : ∀ q ∈ Log.without (Ledger.after steps).log uri.text, q.uri.text ≠ uri.text :=
    fun q hq => (Log.mem_without.1 hq).2
  have hpost := (sameSite_update (after steps) uri content).postOf_eq uri content
  show (((after steps).update uri content).retract uri).2.insert (((after steps).update uri content).postOf uri content) = _
  rw [hpost]
  exact hout.insert_retract_insert hnew

/-! ### Tables with the same keys -/

section

variable {α : Type} {own : α → Text} {t t' : Table α}

private theorem formKeys_congr (hkeys : ∀ k, Table.has t' k = Table.has t k) (w : Text) :
    formKeys w t' = formKeys w t := by
  ext k
  refine and_congr_right fun _ => ?_
  rw [← Table.has_iff, ← Table.has_iff, hkeys]

private theorem ownFormKeys_subset (w : Text) : ownFormKeys own w t ⊆ formKeys w t := by
  rintro k ⟨hk, v, hv, -⟩
  exact ⟨hk, v, hv⟩

private theorem ownFormKeys_congr (hkeys : ∀ k, Table.has t' k = Table.has t k)
    (hown : ∀ k v v', Table.get? t k = some v → Table.get? t' k = some v' → (own v' = k ↔ own v = k)) (w : Text) :
    ownFormKeys own w t' = ownFormKeys own w t := by
  ext k
  refine and_congr_right fun _ => ⟨?_, ?_⟩
  · rintro ⟨v', hv', ho⟩
    obtain ⟨v, hv⟩ := Table.has_iff.1 ((hkeys k).symm.trans (Table.has_iff.2 ⟨v', hv'⟩))
    exact ⟨v, hv, (hown k v v' hv hv').1 ho⟩
  · rintro ⟨v, hv, ho⟩
    obtain ⟨v', hv'⟩ := Table.has_iff.1 ((hkeys k).trans (Table.has_iff.2 ⟨v, hv⟩))
    exact ⟨v', hv', (hown k v v' hv hv').2 ho⟩

/-- In tables with the same keys and the same own keys the same key is closest. -/
private theorem closest_same_key (ht : Table.Ordered t) (ht' : Table.Ordered t')
    (hkeys : ∀ k, Table.has t' k = Table.has t k)
    (hown : ∀ k v v', Table.get? t k = some v → Table.get? t' k = some v' → (own v' = k ↔ own v = k)) (w : Text) :
    (closest own w t = none ∧ closest own w t' = none) ∨
    ∃ k v v', normalizeKey k = w ∧ Table.get? t k = some v ∧ Table.get? t' k = some v' ∧
      closest own w t = some v ∧ closest own w t' = some v' := by
  have hc := closest_cases own w ht
  have hc' := closest_cases own w ht'
  rw [formKeys_congr hkeys, ownFormKeys_congr hkeys hown] at hc'
  rcases hc with ⟨k, v, hk, hv, he⟩ | ⟨hnone, k, v, hk, hv, he⟩ | ⟨hnone, he⟩
  · rcases hc' with ⟨k', v', hk', hv', he'⟩ | ⟨hnone, -⟩ | ⟨hnone, -⟩
    · obtain rfl := hk.unique hk'
      exact .inr ⟨k, v, v', hk.1.1, hv, hv', he, he'⟩
    · exact absurd hk.1 (by simp [hnone])
    · exact absurd (ownFormKeys_subset w hk.1) (by simp [hnone])
  · rcases hc' with ⟨k', v', hk', -⟩ | ⟨-, k', v', hk', hv', he'⟩ | ⟨hnone', -⟩
    · exact absurd hk'.1 (by simp [hnone])
    · obtain rfl := hk.unique hk'
      exact .inr ⟨k, v, v', hk.1.1, hv, hv', he, he'⟩
    · exact absurd hk.1 (by simp [hnone'])
  · rcases hc' with ⟨k', v', hk', -⟩ | ⟨-, k', v', hk', -⟩ | ⟨-, he'⟩
    · exact absurd (ownFormKeys_subset w hk'.1) (by simp [hnone])
    · exact absurd hk'.1 (by simp [hnone])
    · exact .inl ⟨he, he'⟩

/-- Tables with the same keys and the same own keys are searched alike: nothing is found in either, or what stands
under one key is found in both. -/
theorem lookup_same_key (ht : Table.Ordered t) (ht' : Table.Ordered t')
    (hkeys : ∀ k, Table.has t' k = Table.has t k)
    (hown : ∀ k v v', Table.get? t k = some v → Table.get? t' k = some v' → (own v' = k ↔ own v = k)) (key : Text) :
    (lookup own key t = none ∧ lookup own key t' = none) ∨
    ∃ k v v', (k = key ∨ Table.get? t key = none ∧ normalizeKey k = normalizeKey key) ∧
      Table.get? t k = some v ∧ Table.get? t' k = some v' ∧ lookup own key t = some v ∧ lookup own key t' = some v' := by
  unfold lookup
  cases hv : Table.get? t key with
  | some v =>
    obtain ⟨v', hv'⟩ := Table.has_iff.1 ((hkeys key).trans (Table.has_iff.2 ⟨v, hv⟩))
    rw [hv']
    exact .inr ⟨key, v, v', .inl rfl, hv, hv', rfl, rfl⟩
  | none =>
    have hv' : Table.get? t' key = none := by
      have h := hkeys key
      simpa [Table.has, hv] using h
    rw [hv']
    simp only
    by_cases hform : (normalizeKey key).isEmpty = true
    · exact .inl ⟨if_pos hform, if_pos hform⟩
    · rw [if_neg hform, if_neg hform]
      rcases closest_same_key ht ht' hkeys hown (normalizeKey key) with h | ⟨k, v, v', hk, h1, h2, h3, h4⟩
      · exact .inl h
      · exact .inr ⟨k, v, v', .inr ⟨trivial, hk⟩, h1, h2, h3, h4⟩

end

/-! ### Two indexes that one log describes -/

namespace Reflects

variable {ix ix' : Index} {log : Log}

theorem postAt_eq (h : Reflects ix log) (h' : Reflects ix' log) (uri : Uri) : ix'.postAt uri = ix.postAt uri := by
  apply Option.ext
  intro p
  rw [h'.holds.postAt_eq_some, h.holds.postAt_eq_some]

theorem allPosts_eq (h : Reflects ix log) (h' : Reflects ix' log) : ix'.allPosts = ix.allPosts := by
  have hnodup : ∀ {jx : Index}, Reflects jx log → jx.allPosts.Nodup := by
    intro jx hj
    apply hj.allPosts_increasing.imp
    rintro p q hlt rfl
    exact lt_irrefl _ hlt
  have hperm : ix'.allPosts.Perm ix.allPosts := by
    rw [List.perm_ext_iff_of_nodup (hnodup h') (hnodup h)]
    intro p
    rw [h'.mem_allPosts, h.mem_allPosts]
  apply hperm.eq_of_pairwise (fun p q _ _ hpq hqp => absurd hqp hpq.not_gt) h'.allPosts_increasing h.allPosts_increasing

theorem has_posts (h : Reflects ix log) (h' : Reflects ix' log) (k : Text) :
    Table.has ix'.posts k = Table.has ix.posts k := by
  rw [Bool.eq_iff_iff, h'.coherent.keys, h.coherent.keys]
  simp only [h'.isLive_iff, h.isLive_iff]

theorem own_posts (h : Reflects ix log) (h' : Reflects ix' log) {k : Text} {p p' : Post}
    (hp : Table.get? ix.posts k = some p) (hp' : Table.get? ix'.posts k = some p') : p'.slug = k ↔ p.slug = k := by
  constructor
  · rintro rfl
    have hback := h.holds.at_slug p' (h'.holds.owned _ p' hp').1
    rw [hback] at hp
    rw [Option.some.inj hp]
  · rintro rfl
    have hback := h'.holds.at_slug p (h.holds.owned _ p hp).1
    rw [hback] at hp'
    rw [Option.some.inj hp']

end Reflects

/-! ### A claim that is withdrawn -/

/-- Withdrawing a claim on the slug `s` hands the alias `a` from its holder `p` to `q`: the alias is nobody's slug, and
`q` is its heir beside `p`. Either the claim pushed `p` out of its slug, or it was on the alias itself and `q` goes
before `p`. -/
structure PassesOn (ix : Index) (s a : Text) (p q : Post) : Prop where
  held : Table.get? ix.posts a = some p
  isAlias : a ≠ p.slug
  heir : IsHeir (fun r => ix.IsLive r ∧ r ≠ p) a q
  cause : p.slug = s ∨ a = s ∧ q.slug < p.slug

namespace Reflects

variable {ix : Index} {log : Log} {s k : Text}

/-- A slug that nobody holds goes to its heir. -/
private theorem passesOn_of_free (h : Reflects ix log) (hfree : Log.holder log s = none) :
    (∃ p q, PassesOn ix s k p q ∧ Table.get? (ix.settle s).posts k = some q) ∨
    ((∀ p q, ¬ PassesOn ix s k p q) ∧ Table.get? (ix.settle s).posts k = Table.get? ix.posts k) := by
  have hnot : ∀ p, ix.IsLive p → p.slug ≠ s := by
    rintro p hp rfl
    rw [h.isLive_iff, hfree] at hp
    cases hp
  have hheir : ∀ p q, PassesOn ix s k p q → k = s ∧ ix.heir s = some q := by
    intro p q hpq
    have hlive := (h.coherent.key_leads k p hpq.held).2
    obtain ⟨rfl, hlt⟩ := hpq.cause.resolve_left (hnot p hlive)
    refine ⟨rfl, h.holds.heir_iff.2 ⟨h.isLive_iff.1 hpq.heir.isLive.1, hpq.heir.declares, ?_⟩⟩
    intro r hr hrk
    by_cases hrp : r = p
    · exact hrp ▸ hlt.le
    · exact hpq.heir.least r ⟨h.isLive_iff.2 hr, hrp⟩ hrk
  rw [get?_settle]
  by_cases hpass : ∃ p q, PassesOn ix s k p q
  · obtain ⟨p, q, hpq⟩ := hpass
    obtain ⟨hk, hq⟩ := hheir p q hpq
    exact .inl ⟨p, q, hpq, by rw [if_pos hk, hq]⟩
  · refine .inr ⟨fun p q hpq => hpass ⟨p, q, hpq⟩, ?_⟩
    split
    · rename_i hk
      subst hk
      cases hp : Table.get? ix.posts k with
      | none => exact h.holds.heir_of_free hp
      | some p =>
        obtain ⟨hkey, hlive⟩ := h.coherent.key_leads k p hp
        have hdeclares := hkey.resolve_left (hnot p hlive).symm
        cases hq : ix.heir k with
        | none => exact absurd hdeclares (h.holds.heir_eq_none hq (h.isLive_iff.1 hlive))
        | some q =>
          -- the heir is the holder, or else the alias would pass on
          have hq := h.holds.heir_iff.1 hq
          by_contra hne
          have hne : q ≠ p := fun he => hne (congrArg some he)
          have hle := hq.least p (h.isLive_iff.1 hlive) hdeclares
          have hslug : q.slug ≠ p.slug := fun he => hne (h.holds.eq_of_slug hq.isLive (h.isLive_iff.1 hlive) he)
          apply hpass
          refine ⟨p, q, hp, (hnot p hlive).symm, ⟨⟨h.isLive_iff.2 hq.isLive, hne⟩, hq.declares, ?_⟩,
            .inr ⟨rfl, lt_of_le_of_ne hle hslug⟩⟩
          intro r hr hrk
          exact hq.least r (h.isLive_iff.1 hr.1) hrk
    · rfl

/-- A holder that is pushed out and comes back finds those of its aliases taken that another post declares. -/
private theorem passesOn_of_held (h : Reflects ix log) {p : Post} (hp : Log.holder log p.slug = some p) :
    (∃ q r, PassesOn ix p.slug k q r ∧ Table.get? ((ix.detach p.uri).2.enter p).posts k = some r) ∨
    ((∀ q r, ¬ PassesOn ix p.slug k q r) ∧
      Table.get? ((ix.detach p.uri).2.enter p).posts k = Table.get? ix.posts k) := by
  have hslug := h.holds.at_slug p hp
  have hrest : Holds (ix.detach p.uri).2 (fun r => ix.IsLive r ∧ r ≠ p) [] := by
    apply (h.holds.detach p.uri).congr
    intro r
    rw [h.isLive_iff]
    refine and_congr_right fun hr => not_congr ⟨fun he => h.holds.eq_of_uri hr hp he, ?_⟩
    rintro rfl
    rfl
  -- only an alias of the holder itself can pass on
  have hheir : ∀ q r, PassesOn ix p.slug k q r → q = p ∧ k ≠ p.slug ∧ (ix.detach p.uri).2.heir k = some r := by
    intro q r hqr
    have hlive := (h.coherent.key_leads k q hqr.held).2
    have hqp : q = p := by
      rcases hqr.cause with heq | ⟨rfl, -⟩
      · exact h.holds.eq_of_slug (h.isLive_iff.1 hlive) hp heq
      · rw [hqr.held] at hslug
        exact Option.some.inj hslug
    subst hqp
    exact ⟨rfl, hqr.isAlias, hrest.heir_iff.2 hqr.heir⟩
  rw [get?_enter]
  by_cases hpass : ∃ q r, PassesOn ix p.slug k q r
  · obtain ⟨q, r, hqr⟩ := hpass
    obtain ⟨rfl, hk, hr⟩ := hheir q r hqr
    refine .inl ⟨q, r, hqr, ?_⟩
    rw [if_neg hk, h.holds.get?_detach_of_held hp hqr.held, hr, Option.some_or]
  · refine .inr ⟨fun q r hqr => hpass ⟨q, r, hqr⟩, ?_⟩
    by_cases hk : k = p.slug
    · rw [if_pos hk, hk, hslug]
    · rw [if_neg hk]
      by_cases hheld : Table.get? ix.posts k = some p
      · have hdeclares : k ∈ p.aliases := (List.mem_cons.1 (h.holds.owned k p hheld).2).resolve_left hk
        cases hr : (ix.detach p.uri).2.heir k with
        | some r => exact absurd ⟨p, r, hheld, hk, hrest.heir_iff.1 hr, .inl rfl⟩ hpass
        | none => rw [h.holds.get?_detach_of_held hp hheld, hr, if_pos hdeclares, hheld, Option.none_or]
      · rw [h.holds.get?_detach_of_other hp hheld]
        cases hq : Table.get? ix.posts k with
        | some q => rfl
        | none =>
          have hnot : k ∉ p.aliases := by
            intro hmem
            have hhas := h.holds.covered p hp k (List.mem_cons_of_mem _ hmem)
            simp [Table.has, hq] at hhas
          rw [if_neg hnot, Option.none_or]

/-- What a key leads to after a claim was made and given up. -/
theorem get?_retract_insert (h : Reflects ix log) {p : Post} (hp : ∀ q ∈ log, q.uri.text ≠ p.uri.text) (k : Text) :
    (∃ q r, PassesOn ix p.slug k q r ∧ Table.get? ((ix.insert p).retract p.uri).2.posts k = some r) ∨
    ((∀ q r, ¬ PassesOn ix p.slug k q r) ∧
      Table.get? ((ix.insert p).retract p.uri).2.posts k = Table.get? ix.posts k) := by
  rw [h.retract_insert hp]
  cases hq : Log.holder log p.slug with
  | none => exact h.passesOn_of_free hq
  | some q =>
    have hslug := Log.slug_of_holder hq
    have hlive : Log.holder log q.slug = some q := by rw [hslug, hq]
    rw [← hslug]
    exact h.passesOn_of_held hlive

end Reflects

/-- The second index answers like the first, but for aliases that withdrawing a claim on the slug `s` passes on. -/
structure RestoredBut (ix ix' : Index) (s : Text) : Prop where
  /-- Every file has the post that it had. -/
  postAt : ∀ uri, ix'.postAt uri = ix.postAt uri
  /-- The posts are listed as they were. -/
  allPosts : ix'.allPosts = ix.allPosts
  /-- A link leads to the post that it led to, or its target names an alias that was passed on. -/
  postBySlug : ∀ target, ix'.postBySlug target = ix.postBySlug target ∨
    ∃ a p q, PassesOn ix s a p q ∧ ix.postBySlug target = some p ∧ ix'.postBySlug target = some q ∧
      (a = targetSlug target ∨
        Table.get? ix.posts (targetSlug target) = none ∧ normalizeKey a = normalizeKey (targetSlug target))
  /-- Such an alias does pass on. -/
  passed : ∀ a p q, PassesOn ix s a p q → Table.get? ix'.posts a = some q

namespace Reflects

variable {ix : Index} {log : Log} {p : Post}

/-- An alias passes on to one post only. -/
private theorem passesOn_unique (h : Reflects ix log) {s a : Text} {q r q' r' : Post} (hpass : PassesOn ix s a q r)
    (hpass' : PassesOn ix s a q' r') : q' = q ∧ r' = r := by
  have hq : q' = q := Option.some.inj (hpass'.held.symm.trans hpass.held)
  subst hq
  have hslug : r'.slug = r.slug :=
    le_antisymm (hpass'.heir.least r hpass.heir.isLive hpass.heir.declares)
      (hpass.heir.least r' hpass'.heir.isLive hpass'.heir.declares)
  have hlive := h.isLive_iff.1 hpass.heir.isLive.1
  have hlive' := h.isLive_iff.1 hpass'.heir.isLive.1
  exact ⟨rfl, h.holds.eq_of_slug hlive' hlive hslug⟩

theorem restoredBut (h : Reflects ix log) (hp : ∀ q ∈ log, q.uri.text ≠ p.uri.text) :
    RestoredBut ix ((ix.insert p).retract p.uri).2 p.slug := by
  have hkeys := h.get?_retract_insert hp
  have hback := (h.insert hp).retract p.uri
  rw [Log.without_append hp] at hback
  refine ⟨h.postAt_eq hback, h.allPosts_eq hback, ?_, ?_⟩
  · intro target
    have hfound := lookup_same_key h.holds.posts_ordered hback.holds.posts_ordered (h.has_posts hback)
      (fun k q q' hq hq' => h.own_posts hback hq hq') (targetSlug target)
    rcases hfound with ⟨hn, hn'⟩ | ⟨k, q, q', hk, hq, hq', hfound, hfound'⟩
    · exact .inl (hn'.trans hn.symm)
    · rcases hkeys k with ⟨r, r', hpass, hr⟩ | ⟨-, hsame⟩
      · obtain rfl : q = r := Option.some.inj (hq.symm.trans hpass.held)
        obtain rfl : q' = r' := Option.some.inj (hq'.symm.trans hr)
        exact .inr ⟨k, q, q', hpass, hfound, hfound', hk⟩
      · rw [hq, hq'] at hsame
        exact .inl (hfound'.trans (hsame.trans hfound.symm))
  · intro a q r hpass
    rcases hkeys a with ⟨q', r', hpass', hr'⟩ | ⟨hnone, -⟩
    · rwa [(h.passesOn_unique hpass hpass').2] at hr'
    · exact absurd hpass (hnone q r)

theorem ne_of_new (h : Reflects ix log) {uri : Uri} (hlive : Table.get? ix.slugs uri.text = none)
    (hwaiting : ∀ p ∈ ix.displacedPosts, p.uri.text ≠ uri.text) : ∀ q ∈ log, q.uri.text ≠ uri.text := by
  intro q hq
  rcases h.knows_iff.2 hq with hl | hw
  · intro he
    rw [← he, hl.1] at hlive
    cases hlive
  · apply hwaiting q
    rw [h.mem_displacedPosts, ← h.waitingFor_eq]
    exact hw

/-- A new file is only put in. -/
theorem update_new (h : Reflects ix log) {uri : Uri} (hnew : ∀ q ∈ log, q.uri.text ≠ uri.text) (content : Text) :
    ix.update uri content = ix.insert (ix.postOf uri content) := by
  show (ix.retract uri).2.insert _ = _
  rw [h.retract_unknown hnew]
  rfl

end Reflects

/-- A new file that is indexed and taken out again leaves every answer as it was, but for contested aliases. -/
theorem withdrawn_restored (steps : List Step) (uri : Uri) (content : Text)
    (hlive : Table.get? (after steps).slugs uri.text = none)
    (hwaiting : ∀ p ∈ (after steps).displacedPosts, p.uri.text ≠ uri.text) :
    RestoredBut (after steps) (((after steps).update uri content).remove uri).2
      ((after steps).postOf uri content).slug := by
  have h := (after_agrees steps).reflects
  have hnew := h.ne_of_new hlive hwaiting
  rw [h.update_new hnew]
  exact h.restoredBut hnew

/-- The URI of a file of the site. -/
private def file (name : String) : Uri := ⟨"file".toList, some [], [], '/' :: name.toList, none, none⟩

/-- Two files declare the alias `home`, first the one with the slug `index`. -/
private def contested : List Step :=
  [.update (file "first.md") "---\nslug: index\naliases: [home]\n---\n".toList,
    .update (file "second.md") "---\naliases: [home]\n---\n".toList]

/-- A new file that claims the slug `index`. -/
private def claimant : Text := "---\nslug: index\n---\n".toList

private theorem new_contested :
    Table.get? (after contested).slugs (file "new.md").text = none ∧
      ∀ p ∈ (after contested).displacedPosts, p.uri.text ≠ (file "new.md").text :=
  ⟨by decide +kernel, by decide +kernel⟩

theorem withdrawn_restored_contested :
    Table.get? (after contested).slugs (file "new.md").text = none ∧
      (∀ p ∈ (after contested).displacedPosts, p.uri.text ≠ (file "new.md").text) ∧
      RestoredBut (after contested) (((after contested).update (file "new.md") claimant).remove (file "new.md")).2
        ((after contested).postOf (file "new.md") claimant).slug := by
  obtain ⟨hlive, hwaiting⟩ := new_contested
  exact ⟨hlive, hwaiting, withdrawn_restored contested (file "new.md") claimant hlive hwaiting⟩

/-- Two files declare the alias `a`, the one with the lesser slug last. -/
private def shadowed : List Step :=
  [.update (file "z.md") "---\naliases: [a]\n---\n".toList, .update (file "b.md") "---\naliases: [a]\n---\n".toList]

/-- A claim on the slug `a` hands the alias from `z.md` to `b.md`. -/
private theorem exists_passesOn_shadowed :
    ∃ p q, p.slug ≠ q.slug ∧ PassesOn (after shadowed) "a".toList "a".toList p q := by
  have h := (after_agrees shadowed).reflects
  obtain ⟨p, hp, hpslug⟩ : ∃ p, Table.get? (after shadowed).posts "a".toList = some p ∧ p.slug = "z".toList :=
    Option.map_eq_some_iff.1 (by decide +kernel)
  obtain ⟨q, hq, hqslug, hqaliases⟩ :
      ∃ q, Table.get? (after shadowed).posts "b".toList = some q ∧ q.slug = "b".toList ∧ q.aliases = ["a".toList] := by
    have hfound : (Table.get? (after shadowed).posts "b".toList).map (fun q => (q.slug, q.aliases)) =
        some ("b".toList, ["a".toList]) := by decide +kernel
    simpa using hfound
  have hleast : ∀ r ∈ (after shadowed).livePosts, "b".toList ≤ r.slug := by decide +kernel
  have hqp : p.slug ≠ q.slug := by
    rw [hpslug, hqslug]
    decide
  have hheir : IsHeir (fun r => (after shadowed).IsLive r ∧ r ≠ p) "a".toList q := {
    isLive := ⟨(h.coherent.key_leads _ q hq).2, by
      rintro rfl
      exact hqp rfl⟩
    declares := by simp [hqaliases]
    least := by
      intro r hr _
      rw [hqslug]
      exact hleast r (h.holds.mem_livePosts.2 (h.isLive_iff.1 hr.1)) }
  refine ⟨p, q, hqp, hp, ?_, hheir, .inr ⟨rfl, ?_⟩⟩
  · rw [hpslug]
    decide
  · rw [hpslug, hqslug]
    decide

/-- A link to a contested alias does not always lead back: here it led to `first.md` and then leads to `second.md`. It
does not even where the new file pushes nobody out of its slug: the alias `a` led to `z.md`, and when `a.md` has come
and gone it leads to `b.md`. -/
theorem not_restored_contested :
    (¬ ∀ (steps : List Step) (uri : Uri) (content : Text), Table.get? (after steps).slugs uri.text = none →
      (∀ p ∈ (after steps).displacedPosts, p.uri.text ≠ uri.text) →
      ∀ target,
        (((after steps).update uri content).remove uri).2.postBySlug target = (after steps).postBySlug target) ∧
    ¬ ∀ (steps : List Step) (uri : Uri) (content : Text), Table.get? (after steps).slugs uri.text = none →
      (∀ p ∈ (after steps).displacedPosts, p.uri.text ≠ uri.text) →
      (∀ p ∈ (after steps).livePosts, p.slug ≠ ((after steps).postOf uri content).slug) →
      ∀ target,
        (((after steps).update uri content).remove uri).2.postBySlug target = (after steps).postBySlug target := by
  constructor
  · intro h
    have hsame := h contested (file "new.md") claimant new_contested.1 new_contested.2 "home".toList
    have hbefore : ((after contested).postBySlug "home".toList).map Post.slug = some "index".toList := by decide +kernel
    have hafter : ((((after contested).update (file "new.md") claimant).remove (file "new.md")).2.postBySlug
        "home".toList).map Post.slug = some "second".toList := by decide +kernel
    rw [hsame, hbefore] at hafter
    exact absurd hafter (by decide)
  · intro h
    have hlive : Table.get? (after shadowed).slugs (file "a.md").text = none := by decide +kernel
    have hwaiting : ∀ p ∈ (after shadowed).displacedPosts, p.uri.text ≠ (file "a.md").text := by decide +kernel
    have hsame := h shadowed (file "a.md") [] hlive hwaiting (by decide +kernel) "a".toList
    have hslug : ((after shadowed).postOf (file "a.md") []).slug = "a".toList := by decide +kernel
    -- the alias passes on when the claim is withdrawn
    have hr := (after_agrees shadowed).reflects
    have hnew := hr.ne_of_new hlive hwaiting
    have hback := hr.restoredBut (p := (after shadowed).postOf (file "a.md") []) hnew
    rw [hslug] at hback
    obtain ⟨p, q, hpq, hpass⟩ := exists_passesOn_shadowed
    have htarget : targetSlug "a".toList = "a".toList := by decide
    have hbefore := postBySlug_of_some (htarget ▸ hpass.held)
    have hafter := postBySlug_of_some (htarget ▸ hback.passed _ _ _ hpass)
    rw [hr.update_new hnew, hbefore] at hsame
    exact hpq (congrArg Post.slug (Option.some.inj (hsame.symm.trans hafter)))

end Index

end WikiSite
