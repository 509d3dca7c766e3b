import Mathlib.Data.List.Nodup
import WikiSite.Proofs.Site.Holding

/-!
# Claims on slugs

A log lists posts in the order in which they claimed their slugs, one post per file. The last claim on a slug wins:
its post is the holder, and the posts of the earlier claims wait in order. `Reflects ix log` says that an index is in
the state that a log describes. Claiming and giving up are then a push and a deletion on the log:

* `Reflects.insert`: a post of a new file goes to the end of the log;
* `Reflects.retract`: a file that is taken out leaves the log.
-/

namespace WikiSite

/-- Posts in the order of their claims. -/
abbrev Log := List Post

namespace Log

/-- The posts that claim a slug, oldest first. -/
def claims (log : Log) (s : Text) : List Post := log.filter fun p => p.slug == s

/-- The post of the last claim on a slug. -/
def holder (log : Log) (s : Text) : Option Post := (claims log s).getLast?

/-- The posts of the earlier claims on a slug, oldest first. -/
def waiting (log : Log) (s : Text) : List Post := (claims log s).dropLast

/-- The log without the post of a file. -/
def without (log : Log) (u : Text) : Log := log.filter fun p => p.uri.text != u

variable {log : Log} {p : Post} {s u : Text}

theorem mem_claims : p ∈ claims log s ↔ p ∈ log ∧ p.slug = s := by
  unfold claims
  rw [List.mem_filter, beq_iff_eq]

theorem claims_eq (log : Log) (s : Text) : claims log s = waiting log s ++ (holder log s).toList := by
  unfold waiting holder
  cases h : (claims log s).getLast? with
  | none => simp [List.getLast?_eq_none_iff.1 h]
  | some p => exact (List.dropLast_append_getLast? p h).symm

theorem mem_claims_of_holder (h : holder log s = some p) : p ∈ claims log s :=
  List.mem_of_getLast? h

theorem slug_of_holder (h : holder log s = some p) : p.slug = s := (mem_claims.1 (mem_claims_of_holder h)).2

theorem mem_of_holder (h : holder log s = some p) : p ∈ log := (mem_claims.1 (mem_claims_of_holder h)).1

theorem mem_claims_of_waiting (h : p ∈ waiting log s) : p ∈ claims log s := List.dropLast_subset _ h

theorem claims_of_holder_none (h : holder log s = none) : claims log s = [] := List.getLast?_eq_none_iff.1 h

theorem waiting_of_holder_none (h : holder log s = none) : waiting log s = [] := by
  unfold waiting
  rw [claims_of_holder_none h]
  rfl

/-! ### A new claim -/

theorem claims_append (log : Log) (p : Post) (s : Text) :
    claims (log ++ [p]) s = if p.slug = s then claims log s ++ [p] else claims log s := by
  unfold claims
  rw [List.filter_append]
  by_cases h : p.slug = s <;> simp [h]

theorem holder_append (log : Log) (p : Post) (s : Text) :
    holder (log ++ [p]) s = if p.slug = s then some p else holder log s := by
  unfold holder
  rw [claims_append]
  by_cases h : p.slug = s <;> simp [h]

theorem waiting_append (log : Log) (p : Post) (s : Text) :
    waiting (log ++ [p]) s = if p.slug = s then claims log s else waiting log s := by
  unfold waiting
  rw [claims_append]
  by_cases h : p.slug = s <;> simp [h]

/-- After a new claim the holders are those of the other slugs and the post of the claim. -/
theorem holder_append_iff {q : Post} :
    holder (log ++ [p]) q.slug = some q ↔ (holder log q.slug = some q ∧ q.slug ≠ p.slug) ∨ q = p := by
  rw [holder_append]
  split
  · rename_i hs
    simp only [Option.some.injEq, hs, ne_eq, not_true_eq_false, and_false, false_or]
    exact eq_comm
  · rename_i hs
    constructor
    · exact fun hq => .inl ⟨hq, fun e => hs e.symm⟩
    · rintro (hq | rfl)
      · exact hq.1
      · exact absurd rfl hs

/-! ### A claim given up -/

theorem mem_without : p ∈ without log u ↔ p ∈ log ∧ p.uri.text ≠ u := by
  unfold without
  rw [List.mem_filter, bne_iff_ne]

theorem claims_without (log : Log) (u s : Text) :
    claims (without log u) s = (claims log s).filter fun p => p.uri.text != u := by
  unfold claims without
  rw [List.filter_filter, List.filter_filter]
  congr 1
  funext p
  exact Bool.and_comm _ _

/-- The files of a log are different. -/
def Distinct (log : Log) : Prop := (log.map fun p => p.uri.text).Nodup

theorem Distinct.eq_of_uri (h : Distinct log) {q : Post} (hp : p ∈ log) (hq : q ∈ log)
    (hu : p.uri.text = q.uri.text) : p = q := List.inj_on_of_nodup_map h hp hq hu

theorem Distinct.append (h : Distinct log) (hp : ∀ q ∈ log, q.uri.text ≠ p.uri.text) : Distinct (log ++ [p]) := by
  unfold Distinct
  rw [List.map_append, List.nodup_append]
  refine ⟨h, by simp, ?_⟩
  intro u hu v hv
  obtain ⟨q, hq, rfl⟩ := List.mem_map.1 hu
  simp only [List.map_cons, List.map_nil, List.mem_singleton] at hv
  rw [hv]
  exact hp q hq

theorem Distinct.without (h : Distinct log) (u : Text) : Distinct (without log u) :=
  (List.filter_sublist.map _).nodup h

/-- In a log of different files the holder of a slug does not also wait for it. -/
theorem Distinct.uri_ne_of_waiting (h : Distinct log) {q : Post} (hp : holder log s = some p)
    (hq : q ∈ waiting log s) : q.uri.text ≠ p.uri.text := by
  have hs : ((claims log s).map fun p => p.uri.text).Nodup := (List.filter_sublist.map _).nodup h
  rw [claims_eq, hp, List.map_append, List.nodup_append] at hs
  exact hs.2.2 _ (List.mem_map_of_mem hq) _ (by simp)

/-- When the holder of a slug leaves, those who waited for it remain. -/
theorem Distinct.claims_without_holder (h : Distinct log) (hp : holder log s = some p) :
    claims (Log.without log p.uri.text) s = waiting log s := by
  rw [claims_without, claims_eq, hp, List.filter_append]
  have hw : ((waiting log s).filter fun q => q.uri.text != p.uri.text) = waiting log s :=
    List.filter_eq_self.2 fun q hq => by simpa using h.uri_ne_of_waiting hp hq
  rw [hw]
  simp

/-- When another file leaves, the holder stays and the file stops waiting. -/
theorem claims_without_other (hu : ∀ p, holder log s = some p → p.uri.text ≠ u) :
    claims (without log u) s = ((waiting log s).filter fun p => p.uri.text != u) ++ (holder log s).toList := by
  rw [claims_without]
  conv => lhs; rw [claims_eq]
  rw [List.filter_append]
  cases hh : holder log s with
  | none => simp
  | some p => simp [hu p hh]

theorem holder_without_other (hu : ∀ p, holder log s = some p → p.uri.text ≠ u) :
    holder (without log u) s = holder log s := by
  cases hh : holder log s with
  | none =>
    have := claims_without_other hu
    rw [hh, waiting_of_holder_none hh] at this
    exact List.getLast?_eq_none_iff.2 (by simpa using this)
  | some p =>
    have := claims_without_other hu
    rw [hh] at this
    unfold holder
    rw [this]
    simp

theorem waiting_without_other (hu : ∀ p, holder log s = some p → p.uri.text ≠ u) :
    waiting (without log u) s = (waiting log s).filter fun p => p.uri.text != u := by
  conv => lhs; unfold waiting
  rw [claims_without_other hu]
  cases hh : holder log s with
  | none => simp [waiting_of_holder_none hh]
  | some p => simp

end Log

namespace Index

/-! ### What the steps leave alone -/

theorem bequeath_eq (ix : Index) (ks : List Text) : ∃ posts, ix.bequeath ks = { ix with posts := posts } := by
  induction ks generalizing ix with
  | nil => exact ⟨ix.posts, rfl⟩
  | cons k ks ih =>
    unfold bequeath
    split
    · exact ih ix
    · split
      · rename_i p _
        exact ih { ix with posts := Table.insert k p ix.posts }
      · exact ih ix

theorem detach_fst (ix : Index) (uri : Uri) : (ix.detach uri).1 = ix.postAt uri := by
  unfold detach
  cases ix.postAt uri <;> rfl

/-- Taking a file out changes nothing but the two key tables. -/
theorem detach_snd_eq (ix : Index) (uri : Uri) :
    ∃ posts slugs, (ix.detach uri).2 = { ix with posts := posts, slugs := slugs } := by
  unfold detach
  cases ix.postAt uri with
  | none => exact ⟨ix.posts, _, rfl⟩
  | some p =>
    obtain ⟨posts, h⟩ := bequeath_eq
      { ix with
        slugs := Table.erase ix.slugs uri.text
        posts := ix.posts.filter fun e => e.2.uri.text ≠ p.uri.text } p.keys
    exact ⟨posts, _, h⟩

@[simp] theorem detach_snd_displaced (ix : Index) (uri : Uri) : (ix.detach uri).2.displaced = ix.displaced := by
  obtain ⟨posts, slugs, h⟩ := detach_snd_eq ix uri
  rw [h]

/-- The relation looks at the two key tables only. -/
theorem Holds.of_tables {ix ix' : Index} {live : Post → Prop} {missing : List Text} (h : Holds ix live missing)
    (hp : ix'.posts = ix.posts) (hs : ix'.slugs = ix.slugs) : Holds ix' live missing := by
  obtain ⟨h1, h2, h3, h4, h5, h6⟩ := h
  rw [← hp] at h1 h4 h5 h6
  rw [← hs] at h2 h3
  exact ⟨h1, h2, h3, h4, h5, h6⟩

/-- Nobody is pushed out of a slug that nobody holds. -/
theorem Holds.displaceHolder_of_free {ix : Index} {live : Post → Prop} (h : Holds ix live []) {p : Post}
    (hs : ∀ q, live q → q.slug ≠ p.slug) : ix.displaceHolder p = ix := by
  unfold displaceHolder
  have hn : ((Table.get? ix.posts p.slug).filter fun h => h.slug == p.slug && h.uri.text ≠ p.uri.text) = none := by
    rw [Option.filter_eq_none_iff]
    intro q hq
    simp [hs q (h.owned _ q hq).1]
  rw [hn]

/-- The holder of the slug of a post of another file is pushed out and waits. -/
theorem Holds.displaceHolder_of_held {ix : Index} {live : Post → Prop} (h : Holds ix live []) {p q : Post}
    (hq : live q) (hs : q.slug = p.slug) (hu : q.uri.text ≠ p.uri.text) :
    ix.displaceHolder p = (ix.detach q.uri).2.wait q := by
  unfold displaceHolder
  have hf : ((Table.get? ix.posts p.slug).filter fun h => h.slug == p.slug && h.uri.text ≠ p.uri.text) = some q := by
    rw [← hs, h.at_slug q hq]
    simp [hu]
  have hd : (ix.detach q.uri).1 = some q := by
    rw [detach_fst, h.postAt_eq_some]
    exact ⟨hq, rfl⟩
  rw [hf]
  dsimp only
  split
  · rename_i previous ix' he
    rw [he] at hd ⊢
    cases hd
    rfl
  · rename_i ix' he
    rw [he] at hd
    cases hd

/-! ### Agreement with a log -/

/-- The waiting list as it is stored: an empty list is not. -/
def stored (ps : List Post) : Option (List Post) := if ps.isEmpty then none else some ps

theorem waitingFor_of_stored {ix : Index} {s : Text} {ps : List Post} (h : Table.get? ix.displaced s = stored ps) :
    ix.waitingFor s = ps := by
  unfold waitingFor
  rw [h]
  cases ps <;> rfl

theorem get?_setWaiting (ix : Index) (s : Text) (ps : List Post) (r : Text) :
    Table.get? (ix.setWaiting s ps).displaced r = if r = s then stored ps else Table.get? ix.displaced r := by
  unfold setWaiting stored
  cases ps <;> simp

theorem ordered_setWaiting {ix : Index} (h : Table.Ordered ix.displaced) (s : Text) (ps : List Post) :
    Table.Ordered (ix.setWaiting s ps).displaced := by
  unfold setWaiting
  cases ps with
  | nil => exact h.erase s
  | cons p ps => exact h.insert s (p :: ps)

/-- The index is in the state that the log describes. -/
structure Reflects (ix : Index) (log : Log) : Prop where
  distinct : Log.Distinct log
  holds : Holds ix (fun p => Log.holder log p.slug = some p) []
  displaced_ordered : Table.Ordered ix.displaced
  displaced_eq : ∀ s, Table.get? ix.displaced s = stored (Log.waiting log s)

namespace Reflects

variable {ix : Index} {log : Log}

theorem nil {ix : Index} (hp : ix.posts = []) (hs : ix.slugs = []) (hd : ix.displaced = []) : Reflects ix [] where
  distinct := List.nodup_nil
  holds := by
    refine ⟨?_, ?_, ?_, ?_, ?_, ?_⟩
    · rw [hp]; exact Table.ordered_nil
    · rw [hs]; exact Table.ordered_nil
    · intro u s
      simp [hs, Log.holder, Log.claims]
    · intro p h
      simp [Log.holder, Log.claims] at h
    · intro k p h
      simp [hp] at h
    · intro p h
      simp [Log.holder, Log.claims] at h
  displaced_ordered := by rw [hd]; exact Table.ordered_nil
  displaced_eq s := by simp [hd, stored, Log.waiting, Log.claims]

/-- A new file claims a slug that nobody holds. -/
private theorem insert_of_none (h : Reflects ix log) {p : Post} (hp : ∀ q ∈ log, q.uri.text ≠ p.uri.text)
    (hh : Log.holder log p.slug = none) : Reflects (ix.insert p) (log ++ [p]) := by
  have hfree : ∀ q, Log.holder log q.slug = some q → q.slug ≠ p.slug := by
    intro q hq hs
    rw [hs, hh] at hq
    cases hq
  unfold Index.insert
  rw [h.holds.displaceHolder_of_free hfree]
  refine ⟨h.distinct.append hp, ?_, h.displaced_ordered, ?_⟩
  · refine (h.holds.enter hfree fun q hq => hp q (Log.mem_of_holder hq)).congr ?_
    intro q
    rw [Log.holder_append_iff]
    exact or_congr_left ⟨fun hq => ⟨hq, hfree q hq⟩, And.left⟩
  · intro s
    rw [Log.waiting_append]
    split
    · subst_vars
      rw [Log.claims_of_holder_none hh, ← Log.waiting_of_holder_none hh]
      exact h.displaced_eq _
    · exact h.displaced_eq s

/-- A new file claims the slug of another, which then waits. -/
private theorem insert_of_some (h : Reflects ix log) {p holder : Post} (hp : ∀ q ∈ log, q.uri.text ≠ p.uri.text)
    (hh : Log.holder log p.slug = some holder) : Reflects (ix.insert p) (log ++ [p]) := by
  have hs := Log.slug_of_holder hh
  have hl : Log.holder log holder.slug = some holder := by rw [hs, hh]
  unfold Index.insert
  rw [h.holds.displaceHolder_of_held hl hs (hp holder (Log.mem_of_holder hh))]
  -- the others are those with another slug
  have hrest : ∀ q, (Log.holder log q.slug = some q ∧ q.uri.text ≠ holder.uri.text) ↔
      (Log.holder log q.slug = some q ∧ q.slug ≠ p.slug) := by
    intro q
    refine and_congr_right fun hq => not_congr ⟨fun e => ?_, fun e => ?_⟩
    · rw [h.holds.eq_of_uri hq hl e, hs]
    · rw [h.holds.eq_of_slug hq hl (e.trans hs.symm)]
  have hd := (h.holds.detach holder.uri).congr hrest
  have hw : Holds ((ix.detach holder.uri).2.wait holder) _ [] := hd.of_tables rfl rfl
  refine ⟨h.distinct.append hp, ?_, ?_, ?_⟩
  · refine (hw.enter (fun q hq => hq.2) fun q hq => hp q (Log.mem_of_holder hq.1)).congr ?_
    exact fun q => Log.holder_append_iff.symm
  · exact ordered_setWaiting (by rw [detach_snd_displaced]; exact h.displaced_ordered) _ _
  · intro s
    have hold : ∀ r, Table.get? (ix.detach holder.uri).2.displaced r = stored (Log.waiting log r) := by
      intro r
      rw [detach_snd_displaced]
      exact h.displaced_eq r
    have hc := Log.claims_eq log p.slug
    rw [hh] at hc
    refine (get?_setWaiting _ _ _ s).trans ?_
    rw [waitingFor_of_stored (hold _), hold, Log.waiting_append, hs]
    by_cases he : s = p.slug
    · rw [if_pos he, he, if_pos rfl, hc]
      rfl
    · rw [if_neg he, if_neg (Ne.symm he)]

/-- A new file claims its slug. -/
theorem insert (h : Reflects ix log) {p : Post} (hp : ∀ q ∈ log, q.uri.text ≠ p.uri.text) :
    Reflects (ix.insert p) (log ++ [p]) := by
  cases hh : Log.holder log p.slug with
  | none => exact h.insert_of_none hp hh
  | some holder => exact h.insert_of_some hp hh

end Reflects

/-- The index is in the state that the log describes, but the slug `s` is free and every post that claims it waits. -/
structure Vacant (ix : Index) (log : Log) (s : Text) : Prop where
  distinct : Log.Distinct log
  holds : Holds ix (fun p => Log.holder log p.slug = some p ∧ p.slug ≠ s) []
  displaced_ordered : Table.Ordered ix.displaced
  displaced_eq : ∀ r, Table.get? ix.displaced r = stored (if r = s then Log.claims log s else Log.waiting log r)

namespace Vacant

variable {ix : Index} {log : Log} {s : Text}

private theorem waitingFor_eq (h : Vacant ix log s) : ix.waitingFor s = Log.claims log s :=
  waitingFor_of_stored (by rw [h.displaced_eq, if_pos rfl])

/-- A free slug goes to the last post that waits for it, if there is one. -/
theorem reinstate_eq (h : Vacant ix log s) :
    ix.reinstate s = match Log.holder log s with
      | none => ix
      | some q => (ix.setWaiting s (Log.waiting log s)).enter q := by
  have hheld : (Table.get? ix.posts s).any (fun h => h.slug == s) = false := by
    rw [Option.any_eq_false]
    intro q hq
    simpa using (h.holds.owned _ q hq).1.2
  unfold Index.reinstate
  rw [h.waitingFor_eq]
  simp only [hheld]
  cases hh : Log.holder log s with
  | none =>
    have hlast : (Log.claims log s).getLast? = none := hh
    rw [hlast]
  | some q =>
    have hlast : (Log.claims log s).getLast? = some q := hh
    rw [hlast]
    have hw : Holds (ix.setWaiting s (Log.waiting log s)) _ [] := h.holds.of_tables rfl rfl
    have hfree := hw.displaceHolder_of_free fun r hr => by
      rw [Log.slug_of_holder hh]
      exact hr.2
    show ((ix.setWaiting s (Log.waiting log s)).displaceHolder q).enter q = _
    rw [hfree]

theorem reinstate (h : Vacant ix log s) : Reflects (ix.reinstate s) log := by
  rw [h.reinstate_eq]
  cases hh : Log.holder log s with
  | none =>
    refine ⟨h.distinct, h.holds.congr fun q => ?_, h.displaced_ordered, fun r => ?_⟩
    · refine ⟨And.left, fun hq => ⟨hq, ?_⟩⟩
      rintro rfl
      rw [hh] at hq
      cases hq
    · rw [h.displaced_eq]
      split
      · subst_vars
        rw [Log.claims_of_holder_none hh, Log.waiting_of_holder_none hh]
      · rfl
  | some q =>
    have hs := Log.slug_of_holder hh
    have hw : Holds (ix.setWaiting s (Log.waiting log s)) _ [] := h.holds.of_tables rfl rfl
    refine ⟨h.distinct, ?_, ordered_setWaiting h.displaced_ordered _ _, fun r => ?_⟩
    · refine (hw.enter (fun r hr => hs ▸ hr.2) fun r hr hu => ?_).congr fun r => ?_
      · -- a live post of the same file would be the holder itself
        have := h.distinct.eq_of_uri (Log.mem_of_holder hr.1) (Log.mem_of_holder hh) hu
        exact hr.2 (this ▸ hs)
      · constructor
        · rintro (hr | rfl)
          · exact hr.1
          · rw [hs, hh]
        · intro hr
          by_cases hrs : r.slug = s
          · rw [hrs, hh] at hr
            exact .inr (Option.some.inj hr).symm
          · exact .inl ⟨hr, hrs⟩
    · refine (get?_setWaiting ix s (Log.waiting log s) r).trans ?_
      by_cases hr : r = s
      · rw [if_pos hr, hr]
      · rw [if_neg hr, h.displaced_eq, if_neg hr]

end Vacant

namespace Reflects

variable {ix : Index} {log : Log}

private theorem stored_map_filter (ps : List Post) (u : Text) :
    ((stored ps).map fun ps => ps.filter fun p => p.uri.text ≠ u).filter (fun ps => !ps.isEmpty) =
      stored (ps.filter fun p => p.uri.text != u) := by
  have hf : (ps.filter fun p => decide (p.uri.text ≠ u)) = ps.filter fun p => p.uri.text != u := by
    congr 1
    funext p
    simp [bne, beq_eq_decide]
  cases ps with
  | nil => rfl
  | cons q ps =>
    simp only [stored, List.isEmpty_cons, Bool.false_eq_true, ↓reduceIte, Option.map_some, Option.filter_some, hf]
    cases h : (List.filter (fun p => p.uri.text != u) (q :: ps)).isEmpty <;> simp

theorem get?_forget (h : Reflects ix log) (uri : Uri) (s : Text) :
    Table.get? (ix.forget uri).displaced s =
      stored ((Log.waiting log s).filter fun p => p.uri.text != uri.text) := by
  have hm := h.displaced_ordered.map fun ps : List Post => ps.filter fun p => p.uri.text ≠ uri.text
  refine (hm.get?_filter (fun e => !e.2.isEmpty) s).trans ?_
  rw [Table.get?_map, h.displaced_eq]
  exact stored_map_filter _ _

theorem ordered_forget (h : Reflects ix log) (uri : Uri) : Table.Ordered (ix.forget uri).displaced := by
  have hm := h.displaced_ordered.map fun ps : List Post => ps.filter fun p => p.uri.text ≠ uri.text
  exact hm.filter _

/-- A file that holds no slug only stops waiting. -/
private theorem retract_of_none (h : Reflects ix log) {uri : Uri} (hn : (ix.forget uri).postAt uri = none) :
    Reflects ((ix.forget uri).detach uri).2 (Log.without log uri.text) := by
  have hf : Holds (ix.forget uri) _ [] := h.holds.of_tables rfl rfl
  have hnone := hf.postAt_eq_none.1 hn
  have hother : ∀ s p, Log.holder log s = some p → p.uri.text ≠ uri.text := by
    intro s p hp
    exact hnone p (by rw [Log.slug_of_holder hp, hp])
  refine ⟨h.distinct.without _, ?_, ?_, ?_⟩
  · refine (hf.detach uri).congr fun q => ?_
    rw [Log.holder_without_other (hother q.slug)]
    exact ⟨And.left, fun hq => ⟨hq, hnone q hq⟩⟩
  · rw [detach_snd_displaced]
    exact h.ordered_forget uri
  · intro s
    rw [detach_snd_displaced, Log.waiting_without_other (hother s)]
    exact h.get?_forget uri s

/-- A file that holds a slug leaves it free. -/
theorem vacant_of_some (h : Reflects ix log) {uri : Uri} {p : Post}
    (hp : (ix.forget uri).postAt uri = some p) :
    Vacant ((ix.forget uri).detach uri).2 (Log.without log uri.text) p.slug := by
  have hf : Holds (ix.forget uri) _ [] := h.holds.of_tables rfl rfl
  obtain ⟨hlive, hu⟩ := hf.postAt_eq_some.1 hp
  have hother : ∀ s, s ≠ p.slug → ∀ q, Log.holder log s = some q → q.uri.text ≠ uri.text := by
    intro s hs q hq e
    have hq' : Log.holder log q.slug = some q := by rw [Log.slug_of_holder hq, hq]
    have := h.holds.eq_of_uri hq' hlive (e.trans hu.symm)
    exact hs (by rw [← Log.slug_of_holder hq, this])
  refine ⟨h.distinct.without _, ?_, ?_, ?_⟩
  · refine (hf.detach uri).congr fun q => ?_
    by_cases hq : q.slug = p.slug
    · simp only [hq, ne_eq, not_true_eq_false, and_false, iff_false, not_and, not_not]
      intro hh
      rw [h.holds.eq_of_slug (by rwa [hq]) hlive hq, hu]
    · rw [Log.holder_without_other (hother q.slug hq)]
      exact ⟨fun hh => ⟨hh.1, hq⟩, fun hh => ⟨hh.1, hother _ hq q hh.1⟩⟩
  · rw [detach_snd_displaced]
    exact h.ordered_forget uri
  · intro s
    rw [detach_snd_displaced]
    refine (h.get?_forget uri s).trans ?_
    split
    · subst_vars
      rw [← hu, h.distinct.claims_without_holder hlive]
      congr 1
      rw [List.filter_eq_self]
      exact fun q hq => by simpa using h.distinct.uri_ne_of_waiting hlive hq
    · rw [Log.waiting_without_other (hother s ‹_›)]

/-- A file that is taken out leaves the log. -/
theorem retract (h : Reflects ix log) (uri : Uri) :
    Reflects (ix.retract uri).2 (Log.without log uri.text) := by
  have hfst : ((ix.forget uri).detach uri).1 = (ix.forget uri).postAt uri := detach_fst _ _
  unfold Index.retract
  split
  · rename_i ix' he
    rw [he] at hfst
    have := h.retract_of_none hfst.symm
    rwa [he] at this
  · -- between the two halves the slug is free and everybody who claims it waits
    rename_i p ix' he
    rw [he] at hfst
    have := (h.vacant_of_some hfst.symm).reinstate
    rwa [he] at this

end Reflects

end Index

end WikiSite
