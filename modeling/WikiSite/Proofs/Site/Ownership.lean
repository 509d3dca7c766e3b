import WikiSite.Proofs.Site.History

/-!
# Who owns a slug

Two accounts of the index after an arbitrary history. The first speaks of the tables alone: they are coherent, that
is, every entry is backed by a live post, every key of a live post has an entry, and a file is live or waits but not
both (`after_coherent`). The second speaks of the log of the history: the last claim on a slug holds it, the earlier
ones wait in order, and nothing that is in the log is lost (`after_lastClaimWins`).
-/

namespace WikiSite

namespace Index

/-- The post holds its slug: the URI table leads from its file to the slug and the slug leads to it. -/
def IsLive (ix : Index) (p : Post) : Prop :=
  Table.get? ix.slugs p.uri.text = some p.slug ∧ Table.get? ix.posts p.slug = some p

/-- The post waits for its slug. -/
def IsWaiting (ix : Index) (p : Post) : Prop := p ∈ ix.waitingFor p.slug

/-- Every post that waits for some slug. -/
def displacedPosts (ix : Index) : List Post := ix.displaced.flatMap (·.2)

/-- The post that holds a slug as its own. -/
def holderOf (ix : Index) (s : Text) : Option Post := (Table.get? ix.posts s).filter fun p => p.slug == s

theorem Holds.isLive_iff {ix : Index} {live : Post → Prop} {missing : List Text} (h : Holds ix live missing) {p : Post} :
    ix.IsLive p ↔ live p := by
  constructor
  · rintro ⟨-, hp⟩
    exact (h.owned _ p hp).1
  · intro hp
    exact ⟨(h.slugs_iff _ _).2 ⟨p, hp, rfl, rfl⟩, h.at_slug p hp⟩

/-! ### Coherent tables -/

/-- The tables of an index fit together. -/
structure Coherent (ix : Index) : Prop where
  /-- The tables have one entry per key. -/
  ordered : Table.Ordered ix.posts ∧ Table.Ordered ix.slugs ∧ Table.Ordered ix.displaced
  /-- The slug of a file leads to the post of that file, which has this slug. -/
  slug_leads : ∀ u s, Table.get? ix.slugs u = some s →
    ∃ p, Table.get? ix.posts s = some p ∧ p.uri.text = u ∧ p.slug = s
  /-- A key leads to a live post that has it as slug or alias. -/
  key_leads : ∀ k p, Table.get? ix.posts k = some p → (k = p.slug ∨ k ∈ p.aliases) ∧ ix.IsLive p
  /-- The keys are the slugs and aliases of the live posts. -/
  keys : ∀ k, Table.has ix.posts k = true ↔ ∃ p, ix.IsLive p ∧ (k = p.slug ∨ k ∈ p.aliases)
  /-- Somebody waits in every stored list, everybody there for its slug, and a live post holds that slug. -/
  waits : ∀ s ps, Table.get? ix.displaced s = some ps →
    ps ≠ [] ∧ (∀ p ∈ ps, p.slug = s) ∧ ∃ p, ix.IsLive p ∧ p.slug = s
  /-- A file is live or waits, and waits only once. -/
  once : (ix.displacedPosts.map fun p => p.uri.text).Nodup ∧
    ∀ p ∈ ix.displacedPosts, Table.get? ix.slugs p.uri.text = none

namespace Reflects

variable {ix : Index} {log : Log}

theorem isLive_iff (h : Reflects ix log) {p : Post} : ix.IsLive p ↔ Log.holder log p.slug = some p := h.holds.isLive_iff

theorem waitingFor_eq (h : Reflects ix log) (s : Text) : ix.waitingFor s = Log.waiting log s :=
  waitingFor_of_stored (h.displaced_eq s)

private theorem stored_eq_some {ps qs : List Post} (h : stored ps = some qs) : qs = ps ∧ ps ≠ [] := by
  cases ps with
  | nil => cases h
  | cons p ps => exact ⟨(Option.some.inj h).symm, by simp⟩

/-- Whoever waits is in the log behind a live holder of the same slug. -/
private theorem holder_of_waiting {s : Text} {p : Post} (hp : p ∈ Log.waiting log s) :
    ∃ q, Log.holder log s = some q := by
  cases hh : Log.holder log s with
  | some q => exact ⟨q, rfl⟩
  | none =>
    rw [Log.waiting_of_holder_none hh] at hp
    cases hp

private theorem mem_displaced (h : Reflects ix log) {e : Text × List Post} (he : e ∈ ix.displaced) :
    e.2 = Log.waiting log e.1 := by
  have hg := h.displaced_ordered.mem_iff.1 (show (e.1, e.2) ∈ ix.displaced from he)
  rw [h.displaced_eq] at hg
  exact (stored_eq_some hg).1

theorem mem_displacedPosts (h : Reflects ix log) {p : Post} : p ∈ ix.displacedPosts ↔ p ∈ Log.waiting log p.slug := by
  unfold displacedPosts
  rw [List.mem_flatMap]
  constructor
  · rintro ⟨e, he, hp⟩
    rw [h.mem_displaced he] at hp
    rwa [(Log.mem_claims.1 (Log.mem_claims_of_waiting hp)).2]
  · intro hp
    have hg := h.displaced_eq p.slug
    rw [stored, if_neg (by simpa using List.ne_nil_of_mem hp)] at hg
    exact ⟨_, Table.mem_of_get? hg, hp⟩

private theorem displacedPosts_distinct (h : Reflects ix log) :
    (ix.displacedPosts.map fun p => p.uri.text).Nodup := by
  unfold displacedPosts
  rw [List.Nodup, List.pairwise_map, List.pairwise_flatMap]
  constructor
  · intro e he
    rw [h.mem_displaced he]
    have hs : (Log.waiting log e.1).Sublist log :=
      (List.dropLast_sublist _).trans List.filter_sublist
    exact List.pairwise_map.1 ((hs.map _).nodup h.distinct)
  · -- posts in two lists have two slugs, so they are of two files
    refine h.displaced_ordered.imp_of_mem ?_
    intro a b ha hb hlt p hp q hq e
    rw [h.mem_displaced ha] at hp
    rw [h.mem_displaced hb] at hq
    have hp := Log.mem_claims.1 (Log.mem_claims_of_waiting hp)
    have hq := Log.mem_claims.1 (Log.mem_claims_of_waiting hq)
    have hpq := h.distinct.eq_of_uri hp.1 hq.1 e
    exact hlt.ne (by rw [← hp.2, ← hq.2, hpq])

theorem coherent (h : Reflects ix log) : Coherent ix where
  ordered := ⟨h.holds.posts_ordered, h.holds.slugs_ordered, h.displaced_ordered⟩
  slug_leads u s hs := by
    obtain ⟨p, hp, hu, rfl⟩ := (h.holds.slugs_iff u s).1 hs
    exact ⟨p, h.holds.at_slug p hp, hu, rfl⟩
  key_leads k p hk := by
    obtain ⟨hp, hm⟩ := h.holds.owned k p hk
    exact ⟨List.mem_cons.1 hm, h.isLive_iff.2 hp⟩
  keys k := by
    rw [Table.has_iff]
    constructor
    · rintro ⟨p, hp⟩
      obtain ⟨hl, hm⟩ := h.holds.owned k p hp
      exact ⟨p, h.isLive_iff.2 hl, List.mem_cons.1 hm⟩
    · rintro ⟨p, hl, hm⟩
      have := h.holds.covered p (h.isLive_iff.1 hl) k (List.mem_cons.2 hm)
      exact Table.has_iff.1 (this.resolve_right List.not_mem_nil)
  waits s ps hps := by
    rw [h.displaced_eq] at hps
    obtain ⟨rfl, hne⟩ := stored_eq_some hps
    refine ⟨hne, fun p hp => (Log.mem_claims.1 (Log.mem_claims_of_waiting hp)).2, ?_⟩
    obtain ⟨p, hp⟩ := List.exists_mem_of_ne_nil _ hne
    obtain ⟨q, hq⟩ := holder_of_waiting hp
    have hs := Log.slug_of_holder hq
    exact ⟨q, h.isLive_iff.2 (by rw [hs, hq]), hs⟩
  once := by
    refine ⟨h.displacedPosts_distinct, ?_⟩
    intro p hp
    rw [h.mem_displacedPosts] at hp
    rw [Option.eq_none_iff_forall_ne_some]
    intro s hs
    obtain ⟨q, hq, hu, -⟩ := (h.holds.slugs_iff _ _).1 hs
    have hpm := (Log.mem_claims.1 (Log.mem_claims_of_waiting hp)).1
    have hqp := h.distinct.eq_of_uri (Log.mem_of_holder hq) hpm hu
    subst hqp
    exact h.distinct.uri_ne_of_waiting hq hp rfl

end Reflects

/-- After every history the tables of the index fit together. -/
theorem after_coherent (steps : List Step) : Coherent (after steps) := (after_agrees steps).reflects.coherent

/-! ### The last claim wins -/

/-- The index knows the post: it is live or waits. -/
def Knows (ix : Index) (p : Post) : Prop := ix.IsLive p ∨ ix.IsWaiting p

namespace Step

/-- The operation indexes the file anew. -/
def Records (u : Text) : Step → Prop
  | .update uri _ => uri.text = u
  | .indexFile tree path =>
    ∃ content uri, tree.readText path = .ok content ∧ Uri.ofPath? path = some uri ∧ uri.text = u
  | _ => False

/-- The operation takes the file out. -/
def Removes (u : Text) : Step → Prop
  | .remove uri => uri.text = u
  | _ => False

/-- The operation starts the index anew. -/
def Rebuilds : Step → Prop
  | .build .. => True
  | _ => False

end Step

/-- The slugs of the index after a history follow from the log of the history. -/
structure LastClaimWins (steps : List Step) : Prop where
  /-- A build starts the log with its posts in the order of their paths. -/
  built : ∀ earlier order tree root settings, steps = earlier ++ [.build order tree root settings] →
    (Ledger.after steps).log.Pairwise fun p q => Path.before p.path q.path = true
  /-- The holder of a slug is the last entry of the log with it. -/
  holder : ∀ s, (after steps).holderOf s = Log.holder (Ledger.after steps).log s
  /-- The file that the slug belongs to is that of the holder. -/
  file : ∀ s u, Table.get? (after steps).slugs u = some s ↔
    ∃ p, Log.holder (Ledger.after steps).log s = some p ∧ p.uri.text = u
  /-- The earlier entries with the slug wait in the order of the log; an empty list is not stored. -/
  waiting : ∀ s, Table.get? (after steps).displaced s = stored (Log.waiting (Ledger.after steps).log s)
  /-- A slug that no entry has is held by nobody. -/
  unclaimed : ∀ s, (∀ p ∈ (Ledger.after steps).log, p.slug ≠ s) →
    (after steps).holderOf s = none ∧ ∀ u, Table.get? (after steps).slugs u ≠ some s
  /-- The index knows the posts of the log and no others. -/
  known : ∀ p, (after steps).Knows p ↔ p ∈ (Ledger.after steps).log
  /-- A file that was indexed and not taken out since is known. -/
  kept : ∀ earlier s later u, steps = earlier ++ s :: later → s.Records u →
    (∀ t ∈ later, ¬ t.Removes u ∧ ¬ t.Rebuilds) → ∃ p, (after steps).Knows p ∧ p.uri.text = u
  /-- A file that was taken out and not indexed since is not known. -/
  gone : ∀ earlier s later u, steps = earlier ++ s :: later → s.Removes u →
    (∀ t ∈ later, ¬ t.Records u ∧ ¬ t.Rebuilds) → ∀ p, (after steps).Knows p → p.uri.text ≠ u
  /-- The posts are listed by increasing slug. -/
  increasing : (after steps).allPosts.Pairwise fun p q => p.slug < q.slug
  /-- The holders are listed and no others. -/
  listed : ∀ p, p ∈ (after steps).allPosts ↔ Log.holder (Ledger.after steps).log p.slug = some p
  /-- Every slug of the log is listed. -/
  slugs : ∀ s, s ∈ (after steps).allPosts.map (·.slug) ↔ s ∈ (Ledger.after steps).log.map (·.slug)

/-! The log from one operation to the next. -/

namespace Ledger

theorem after_append (steps more : List Step) : after (steps ++ more) = more.foldl step (after steps) :=
  List.foldl_append

theorem step_indexFile_of_ok {l : Ledger} {tree : FileTree} {path : Path} {content : Text} {uri : Uri}
    (hr : tree.readText path = .ok content) (hu : Uri.ofPath? path = some uri) :
    l.step (.indexFile tree path) = l.record uri content := by
  simp only [step, hr, hu]

/-- An operation either moves one file to the end, or deletes one, or starts anew, or changes nothing. -/
private theorem step_cases (l : Ledger) (s : Step) :
    (∃ uri content, s.Records uri.text ∧ l.step s = l.record uri content) ∨
    (∃ uri, s.Removes uri.text ∧ l.step s = l.strike uri) ∨ s.Rebuilds ∨
    ((∀ u, ¬ s.Records u ∧ ¬ s.Removes u) ∧ l.step s = l) := by
  cases s with
  | build order tree root settings => exact .inr (.inr (.inl trivial))
  | update uri content => exact .inl ⟨uri, content, rfl, rfl⟩
  | remove uri => exact .inr (.inl ⟨uri, rfl, rfl⟩)
  | indexFile tree path =>
    cases hr : tree.readText path with
    | error e =>
      refine .inr (.inr (.inr ⟨fun u => ⟨?_, id⟩, by simp only [step, hr]⟩))
      rintro ⟨content, uri, hc, -⟩
      rw [hr] at hc
      cases hc
    | ok content =>
      cases hu : Uri.ofPath? path with
      | none =>
        refine .inr (.inr (.inr ⟨fun u => ⟨?_, id⟩, by simp only [step, hr, hu]⟩))
        rintro ⟨_, uri, -, hc, -⟩
        rw [hu] at hc
        cases hc
      | some uri => exact .inl ⟨uri, content, ⟨content, uri, hr, hu, rfl⟩, step_indexFile_of_ok hr hu⟩

/-- The file has an entry in the log. -/
def Has (l : Ledger) (u : Text) : Prop := ∃ p ∈ l.log, p.uri.text = u

theorem has_record {l : Ledger} {uri : Uri} {content : Text} {u : Text} :
    (l.record uri content).Has u ↔ uri.text = u ∨ l.Has u := by
  unfold Has record
  simp only [List.mem_append, List.mem_singleton]
  constructor
  · rintro ⟨p, hp | rfl, rfl⟩
    · exact .inr ⟨p, (Log.mem_without.1 hp).1, rfl⟩
    · exact .inl rfl
  · rintro (rfl | ⟨p, hp, rfl⟩)
    · exact ⟨_, .inr rfl, rfl⟩
    · by_cases h : p.uri.text = uri.text
      · exact ⟨_, .inr rfl, h.symm⟩
      · exact ⟨p, .inl (Log.mem_without.2 ⟨hp, h⟩), rfl⟩

theorem has_strike {l : Ledger} {uri : Uri} {u : Text} : (l.strike uri).Has u ↔ uri.text ≠ u ∧ l.Has u := by
  unfold Has strike
  constructor
  · rintro ⟨p, hp, rfl⟩
    have := Log.mem_without.1 hp
    exact ⟨Ne.symm this.2, p, this.1, rfl⟩
  · rintro ⟨hne, p, hp, rfl⟩
    exact ⟨p, Log.mem_without.2 ⟨hp, Ne.symm hne⟩, rfl⟩

theorem has_step_of_records {l : Ledger} {s : Step} {u : Text} (hs : s.Records u) : (l.step s).Has u := by
  cases s with
  | build | remove => cases hs
  | update uri content => exact has_record.2 (.inl hs)
  | indexFile tree path =>
    obtain ⟨content, uri, hr, hu, ht⟩ := hs
    rw [step_indexFile_of_ok hr hu]
    exact has_record.2 (.inl ht)

theorem not_has_step_of_removes {l : Ledger} {s : Step} {u : Text} (hs : s.Removes u) : ¬ (l.step s).Has u := by
  cases s with
  | build | update | indexFile => cases hs
  | remove uri => exact fun h => (has_strike.1 h).1 hs

theorem has_step {l : Ledger} {s : Step} {u : Text} (hr : ¬ s.Removes u) (hb : ¬ s.Rebuilds) (h : l.Has u) :
    (l.step s).Has u := by
  rcases step_cases l s with ⟨uri, content, -, e⟩ | ⟨uri, hu, e⟩ | hs | ⟨-, e⟩
  · rw [e]
    exact has_record.2 (.inr h)
  · rw [e]
    refine has_strike.2 ⟨?_, h⟩
    rintro rfl
    exact hr hu
  · exact absurd hs hb
  · rwa [e]

theorem not_has_step {l : Ledger} {s : Step} {u : Text} (hr : ¬ s.Records u) (hb : ¬ s.Rebuilds) (h : ¬ l.Has u) :
    ¬ (l.step s).Has u := by
  rcases step_cases l s with ⟨uri, content, hu, e⟩ | ⟨uri, -, e⟩ | hs | ⟨-, e⟩
  · rw [e, has_record]
    rintro (rfl | hl)
    · exact hr hu
    · exact h hl
  · rw [e, has_strike]
    exact fun hl => h hl.2
  · exact absurd hs hb
  · rwa [e]

theorem has_foldl {l : Ledger} {steps : List Step} {u : Text} (hs : ∀ t ∈ steps, ¬ t.Removes u ∧ ¬ t.Rebuilds)
    (h : l.Has u) : (steps.foldl step l).Has u := by
  induction steps generalizing l with
  | nil => exact h
  | cons s steps ih =>
    have := hs s (List.mem_cons_self ..)
    exact ih (fun t ht => hs t (List.mem_cons_of_mem _ ht)) (has_step this.1 this.2 h)

theorem not_has_foldl {l : Ledger} {steps : List Step} {u : Text} (hs : ∀ t ∈ steps, ¬ t.Records u ∧ ¬ t.Rebuilds)
    (h : ¬ l.Has u) : ¬ (steps.foldl step l).Has u := by
  induction steps generalizing l with
  | nil => exact h
  | cons s steps ih =>
    have := hs s (List.mem_cons_self ..)
    exact ih (fun t ht => hs t (List.mem_cons_of_mem _ ht)) (not_has_step this.1 this.2 h)

end Ledger

/-! The index in terms of the log. -/

namespace Reflects

variable {ix : Index} {log : Log}

theorem holderOf_eq (h : Reflects ix log) (s : Text) : ix.holderOf s = Log.holder log s := by
  unfold holderOf
  apply Option.ext
  intro p
  rw [Option.filter_eq_some_iff, beq_iff_eq]
  constructor
  · rintro ⟨hp, rfl⟩
    exact (h.holds.owned _ p hp).1
  · intro hp
    have hs := Log.slug_of_holder hp
    subst hs
    exact ⟨h.holds.at_slug p hp, rfl⟩

theorem file_iff (h : Reflects ix log) {s u : Text} :
    Table.get? ix.slugs u = some s ↔ ∃ p, Log.holder log s = some p ∧ p.uri.text = u := by
  rw [h.holds.slugs_iff]
  constructor
  · rintro ⟨p, hp, hu, rfl⟩
    exact ⟨p, hp, hu⟩
  · rintro ⟨p, hp, hu⟩
    have hs := Log.slug_of_holder hp
    exact ⟨p, by rw [hs, hp], hu, hs⟩

theorem knows_iff (h : Reflects ix log) {p : Post} : ix.Knows p ↔ p ∈ log := by
  unfold Knows IsWaiting
  rw [h.isLive_iff, h.waitingFor_eq]
  constructor
  · rintro (hp | hp)
    · exact Log.mem_of_holder hp
    · exact (Log.mem_claims.1 (Log.mem_claims_of_waiting hp)).1
  · intro hp
    have hc : p ∈ Log.claims log p.slug := Log.mem_claims.2 ⟨hp, rfl⟩
    rw [Log.claims_eq, List.mem_append] at hc
    rcases hc with hc | hc
    · exact .inr hc
    · exact .inl (by simpa using hc)

theorem mem_allPosts (h : Reflects ix log) {p : Post} : p ∈ ix.allPosts ↔ Log.holder log p.slug = some p := by
  unfold allPosts
  rw [List.mem_mergeSort, h.holds.mem_livePosts]

/-- Live posts have different slugs. -/
private theorem livePosts_distinct (h : Reflects ix log) : ix.livePosts.Pairwise fun p q => p.slug ≠ q.slug := by
  unfold livePosts
  rw [List.pairwise_filterMap]
  refine h.holds.slugs_ordered.imp ?_
  rintro ⟨u, s⟩ ⟨v, r⟩ hlt p hp q hq e
  obtain ⟨hp, hu⟩ := Option.filter_eq_some_iff.1 hp
  obtain ⟨hq, hv⟩ := Option.filter_eq_some_iff.1 hq
  have hpq := h.holds.eq_of_slug (h.holds.owned _ p hp).1 (h.holds.owned _ q hq).1 e
  simp only [decide_eq_true_eq] at hu hv
  exact hlt.ne (by rw [← hu, ← hv, hpq])

theorem allPosts_increasing (h : Reflects ix log) : ix.allPosts.Pairwise fun p q => p.slug < q.slug :=
  increasing_mergeSort_text Post.slug h.livePosts_distinct

theorem mem_slugs_allPosts (h : Reflects ix log) {s : Text} :
    s ∈ ix.allPosts.map (·.slug) ↔ s ∈ log.map (·.slug) := by
  rw [List.mem_map, List.mem_map]
  constructor
  · rintro ⟨p, hp, rfl⟩
    exact ⟨p, Log.mem_of_holder (h.mem_allPosts.1 hp), rfl⟩
  · rintro ⟨p, hp, rfl⟩
    cases hh : Log.holder log p.slug with
    | none =>
      have hc : p ∈ Log.claims log p.slug := Log.mem_claims.2 ⟨hp, rfl⟩
      rw [Log.claims_of_holder_none hh] at hc
      cases hc
    | some q =>
      have hs := Log.slug_of_holder hh
      exact ⟨q, h.mem_allPosts.2 (by rw [hs, hh]), hs⟩

end Reflects

/-- After every history the last claim on a slug holds it, the earlier ones wait, and no file of the log is lost. -/
theorem after_lastClaimWins (steps : List Step) : LastClaimWins steps := by
  have h := (after_agrees steps).reflects
  have hnone : ∀ s, (∀ p ∈ (Ledger.after steps).log, p.slug ≠ s) → Log.holder (Ledger.after steps).log s = none := by
    intro s hs
    rw [Option.eq_none_iff_forall_ne_some]
    exact fun p hp => hs p (Log.mem_of_holder hp) (Log.slug_of_holder hp)
  refine ⟨?_, h.holderOf_eq, fun s u => h.file_iff, h.displaced_eq, ?_, fun p => h.knows_iff, ?_, ?_,
    h.allPosts_increasing, fun p => h.mem_allPosts, fun s => h.mem_slugs_allPosts⟩
  · rintro earlier order tree root settings rfl
    rw [Ledger.after_append]
    exact contentPosts_increasing tree root settings
  · intro s hs
    refine ⟨by rw [h.holderOf_eq, hnone s hs], fun u hu => ?_⟩
    obtain ⟨p, hp, -⟩ := h.file_iff.1 hu
    rw [hnone s hs] at hp
    cases hp
  · rintro earlier s later u rfl hs hlater
    have hh : (Ledger.after (earlier ++ s :: later)).Has u := by
      rw [Ledger.after_append, List.foldl_cons]
      exact Ledger.has_foldl hlater (Ledger.has_step_of_records hs)
    obtain ⟨p, hp, hu⟩ := hh
    exact ⟨p, h.knows_iff.2 hp, hu⟩
  · rintro earlier s later u rfl hs hlater p hp hu
    have hh : ¬ (Ledger.after (earlier ++ s :: later)).Has u := by
      rw [Ledger.after_append, List.foldl_cons]
      exact Ledger.not_has_foldl hlater (Ledger.not_has_step_of_removes hs)
    exact hh ⟨p, h.knows_iff.1 hp, hu⟩

end Index

end WikiSite
