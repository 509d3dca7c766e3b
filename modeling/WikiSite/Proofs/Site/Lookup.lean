import Mathlib.Order.Bounds.Basic
import WikiSite.Proofs.Site.Ownership

/-!
# Following a link

A link target is looked up in two stages: under exactly its slug, and else under the key that has the same normal
form, where own keys go before aliases and lesser keys before greater ones. In an ordered table the second stage finds
the least key (`closest_cases`). In an index after any history the first stage finds the live post with the slug, or
else one that declares it as an alias, and nothing is found only where no live post has a key of that normal form
(`postBySlug_resolves`).
-/

namespace WikiSite

/-! ### The least key -/

/-- The first entry of an ordered table that satisfies a condition has the least key of those. -/
theorem Table.Ordered.find?_least {α : Type} {t : Table α} (h : Ordered t) {f : Text × α → Bool} {e : Text × α}
    (he : t.find? f = some e) : ∀ d ∈ t, f d = true → e.1 ≤ d.1 := by
  induction t with
  | nil => cases he
  | cons a t ih =>
    unfold Ordered at h
    rw [List.pairwise_cons] at h
    rw [List.find?_cons] at he
    intro d hd hf
    split at he
    · cases he
      rcases List.mem_cons.1 hd with rfl | hd
      · exact le_refl _
      · exact (h.1 d hd).le
    · rename_i ha
      rcases List.mem_cons.1 hd with rfl | hd
      · rw [hf] at ha
        cases ha
      · exact ih h.2 he d hd hf

namespace Index

variable {α : Type}

/-- The keys of a table with a normal form. -/
def formKeys (w : Text) (t : Table α) : Set Text := {k | normalizeKey k = w ∧ ∃ v, Table.get? t k = some v}

/-- The keys of a table with a normal form that are the own keys of their entries. -/
def ownFormKeys (own : α → Text) (w : Text) (t : Table α) : Set Text :=
  {k | normalizeKey k = w ∧ ∃ v, Table.get? t k = some v ∧ own v = k}

/-- Among the keys with a normal form the least own key is taken, or else the least key. -/
theorem closest_cases (own : α → Text) (w : Text) {t : Table α} (ht : Table.Ordered t) :
    (∃ k v, IsLeast (ownFormKeys own w t) k ∧ Table.get? t k = some v ∧ closest own w t = some v) ∨
    (ownFormKeys own w t = ∅ ∧ ∃ k v, IsLeast (formKeys w t) k ∧ Table.get? t k = some v ∧
      closest own w t = some v) ∨
    (formKeys w t = ∅ ∧ closest own w t = none) := by
  have hf := ht.filter fun e => normalizeKey e.1 == w
  have hmem : ∀ k v, (k, v) ∈ (t.filter fun e => normalizeKey e.1 == w) ↔
      normalizeKey k = w ∧ Table.get? t k = some v := by
    intro k v
    rw [List.mem_filter, ht.mem_iff, beq_iff_eq]
    exact and_comm
  unfold closest
  simp only
  cases hown : (t.filter fun e => normalizeKey e.1 == w).find? fun e => own e.2 == e.1 with
  | some e =>
    left
    obtain ⟨hk, hv⟩ := (hmem e.1 e.2).1 (List.mem_of_find?_eq_some hown)
    refine ⟨e.1, e.2, ⟨⟨hk, e.2, hv, by simpa using List.find?_some hown⟩, ?_⟩, hv, rfl⟩
    rintro k ⟨hk, v, hv, hvk⟩
    exact hf.find?_least hown (k, v) ((hmem k v).2 ⟨hk, hv⟩) (by simpa using hvk)
  | none =>
    right
    have hnone : ownFormKeys own w t = ∅ := by
      refine Set.eq_empty_iff_forall_notMem.2 ?_
      rintro k ⟨hk, v, hv, hvk⟩
      rw [List.find?_eq_none] at hown
      exact hown (k, v) ((hmem k v).2 ⟨hk, hv⟩) (by simpa using hvk)
    cases hfound : t.filter fun e => normalizeKey e.1 == w with
    | nil =>
      refine .inr ⟨Set.eq_empty_iff_forall_notMem.2 ?_, rfl⟩
      rintro k ⟨hk, v, hv⟩
      have := (hmem k v).2 ⟨hk, hv⟩
      rw [hfound] at this
      cases this
    | cons e rest =>
      have he : e ∈ t.filter fun e => normalizeKey e.1 == w := by
        rw [hfound]
        exact List.mem_cons_self ..
      obtain ⟨hk, hv⟩ := (hmem e.1 e.2).1 he
      refine .inl ⟨hnone, e.1, e.2, ⟨⟨hk, e.2, hv⟩, ?_⟩, hv, rfl⟩
      rintro k ⟨hk, v, hv⟩
      have hm := (hmem k v).2 ⟨hk, hv⟩
      rw [hfound] at hf hm
      rcases List.mem_cons.1 hm with hm | hm
      · rw [← hm]
      · exact ((List.pairwise_cons.1 hf).1 _ hm).le

/-! ### Posts -/

/-- The slugs of live posts with a normal form. -/
def slugsLike (ix : Index) (w : Text) : Set Text := {k | normalizeKey k = w ∧ ∃ p, ix.IsLive p ∧ p.slug = k}

/-- The keys of live posts with a normal form. -/
def keysLike (ix : Index) (w : Text) : Set Text := {k | normalizeKey k = w ∧ ∃ p, ix.IsLive p ∧ k ∈ p.keys}

/-- What a link target leads to, in terms of the live posts. -/
structure Resolves (ix : Index) (target : Text) : Prop where
  /-- The live post with the slug, when there is one. -/
  by_slug : ∀ p, ix.IsLive p → p.slug = targetSlug target → ix.postBySlug target = some p
  /-- Else a live post that declares the slug as an alias, when there is one. -/
  by_alias : (∀ p, ix.IsLive p → p.slug ≠ targetSlug target) → (∃ p, ix.IsLive p ∧ targetSlug target ∈ p.aliases) →
    ∃ p, ix.IsLive p ∧ targetSlug target ∈ p.aliases ∧ ix.postBySlug target = some p
  /-- Else the live post under the least slug with the normal form, or when no slug has it under the least alias. -/
  by_form : (∀ p, ix.IsLive p → targetSlug target ∉ p.keys) → normalizeKey (targetSlug target) ≠ [] →
    (ix.keysLike (normalizeKey (targetSlug target))).Nonempty →
    ∃ k p, Table.get? ix.posts k = some p ∧ ix.IsLive p ∧ k ∈ p.keys ∧ ix.postBySlug target = some p ∧
      (IsLeast (ix.slugsLike (normalizeKey (targetSlug target))) k ∨
        ix.slugsLike (normalizeKey (targetSlug target)) = ∅ ∧
          IsLeast (ix.keysLike (normalizeKey (targetSlug target))) k)
  /-- Nothing exactly when no key of a live post is the slug, and none has its normal form or the form is empty. -/
  nothing : ix.postBySlug target = none ↔ (∀ p, ix.IsLive p → targetSlug target ∉ p.keys) ∧
    (normalizeKey (targetSlug target) = [] ∨
      ∀ p, ix.IsLive p → ∀ k ∈ p.keys, normalizeKey k ≠ normalizeKey (targetSlug target))

/-- A key that is taken is found at once. -/
theorem postBySlug_of_some {ix : Index} {target : Text} {p : Post}
    (hp : Table.get? ix.posts (targetSlug target) = some p) : ix.postBySlug target = some p := by
  unfold postBySlug lookup
  rw [hp]

namespace Coherent

variable {ix : Index}

theorem mem_keys (h : Coherent ix) {k : Text} {p : Post} (hk : Table.get? ix.posts k = some p) : k ∈ p.keys :=
  List.mem_cons.2 (h.key_leads k p hk).1

theorem get?_eq_none_iff (h : Coherent ix) {k : Text} :
    Table.get? ix.posts k = none ↔ ∀ p, ix.IsLive p → k ∉ p.keys := by
  have hk := h.keys k
  rw [Table.has] at hk
  constructor
  · intro hn p hp hm
    rw [hn] at hk
    exact absurd (hk.2 ⟨p, hp, List.mem_cons.1 hm⟩) (by simp)
  · intro hn
    rw [Option.eq_none_iff_forall_ne_some]
    exact fun p hp => hn p (h.key_leads k p hp).2 (h.mem_keys hp)

theorem formKeys_eq (h : Coherent ix) (w : Text) : formKeys w ix.posts = ix.keysLike w := by
  ext k
  refine and_congr_right fun _ => ?_
  rw [← Table.has_iff, h.keys]
  exact exists_congr fun p => and_congr_right fun _ => List.mem_cons.symm

theorem ownFormKeys_eq (h : Coherent ix) (w : Text) : ownFormKeys Post.slug w ix.posts = ix.slugsLike w := by
  ext k
  refine and_congr_right fun _ => ⟨?_, ?_⟩
  · rintro ⟨p, hp, rfl⟩
    exact ⟨p, (h.key_leads _ p hp).2, rfl⟩
  · rintro ⟨p, hp, rfl⟩
    exact ⟨p, hp.2, rfl⟩

/-- A key that is not taken is looked up by its normal form. -/
private theorem postBySlug_of_none {target : Text} (hn : Table.get? ix.posts (targetSlug target) = none) :
    ix.postBySlug target = if normalizeKey (targetSlug target) = [] then none
      else closest Post.slug (normalizeKey (targetSlug target)) ix.posts := by
  unfold postBySlug lookup
  rw [hn]
  simp only [List.isEmpty_iff]

theorem resolves (h : Coherent ix) (target : Text) : Resolves ix target where
  by_slug p hp hs := by
    apply postBySlug_of_some
    rw [← hs]
    exact hp.2
  by_alias hslug halias := by
    obtain ⟨q, hq, hqa⟩ := halias
    have hhas := (h.keys (targetSlug target)).2 ⟨q, hq, .inr hqa⟩
    obtain ⟨p, hp⟩ := Table.has_iff.1 hhas
    obtain ⟨hk, hl⟩ := h.key_leads _ p hp
    exact ⟨p, hl, hk.resolve_left fun e => hslug p hl e.symm, postBySlug_of_some hp⟩
  by_form hkeys hform hne := by
    -- the keys of the table are the keys of the live posts, so the least among the ones is the least among the others
    have hn := postBySlug_of_none (h.get?_eq_none_iff.2 hkeys)
    rw [if_neg hform] at hn
    have hc := closest_cases Post.slug (normalizeKey (targetSlug target)) h.ordered.1
    rw [h.formKeys_eq, h.ownFormKeys_eq, ← hn] at hc
    rcases hc with ⟨k, p, hk, hp, he⟩ | ⟨he', k, p, hk, hp, he⟩ | ⟨he', -⟩
    · exact ⟨k, p, hp, (h.key_leads k p hp).2, h.mem_keys hp, he, .inl hk⟩
    · exact ⟨k, p, hp, (h.key_leads k p hp).2, h.mem_keys hp, he, .inr ⟨he', hk⟩⟩
    · rw [he'] at hne
      exact absurd hne Set.not_nonempty_empty
  nothing := by
    rw [← h.get?_eq_none_iff]
    cases hg : Table.get? ix.posts (targetSlug target) with
    | some p => simp [postBySlug_of_some hg]
    | none =>
      rw [postBySlug_of_none hg]
      by_cases hform : normalizeKey (targetSlug target) = []
      · simp [hform]
      · have hc := closest_cases Post.slug (normalizeKey (targetSlug target)) h.ordered.1
        rw [h.formKeys_eq, h.ownFormKeys_eq] at hc
        rw [if_neg hform]
        simp only [hform, true_and, false_or]
        rcases hc with ⟨k, p, hk, hp, he⟩ | ⟨-, k, p, hk, hp, he⟩ | ⟨he', he⟩
        · simp only [he, reduceCtorEq, false_iff]
          exact fun hall => hall p (h.key_leads k p hp).2 k (h.mem_keys hp) hk.1.1
        · simp only [he, reduceCtorEq, false_iff]
          exact fun hall => hall p (h.key_leads k p hp).2 k (h.mem_keys hp) hk.1.1
        · simp only [he, true_iff]
          intro p hp k hk e
          have : k ∈ ix.keysLike (normalizeKey (targetSlug target)) := ⟨e, p, hp, hk⟩
          rw [he'] at this
          exact this

end Coherent

/-- After every history a link target leads to the live post that its slug, an alias or a spelling of it names. -/
theorem postBySlug_resolves (steps : List Step) (target : Text) : Resolves (after steps) target :=
  (after_agrees steps).reflects.coherent.resolves target

end Index

end WikiSite
