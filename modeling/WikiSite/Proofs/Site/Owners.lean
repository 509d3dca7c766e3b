import WikiSite.Proofs.Site.Handles

/-!
# Whose a handle is

Everybody who can be mentioned comes in an order, and of those with one handle the first counts. A key belongs to the
person whose handle it is, or else to the first person who has it as an alias (`ownerOf`). Persons are put into the
table of handles one after another, where a handle takes its key from an alias and an alias takes only what is free.
Since nobody's handle comes twice, every key ends with its owner (`get?_foldl_addPerson`, `get?_handleTable`), and an
index with that table lists everybody once and finds them by their keys (`handleTable_owners`).

A handle takes its key from an alias also where the alias is an entry's of the blogroll and the handle a post's
(`blogroll_key_internal_iff`).
-/

namespace WikiSite

/-! ### Those whose handle comes first -/

/-- Whether the key is the person's handle. -/
def Person.hasHandle (k : Text) (p : Person) : Bool := p.handle == k

/-- Whether the key is an alias of the person. -/
def Person.hasAlias (k : Text) (p : Person) : Bool := p.aliases.contains k

@[simp] theorem Person.hasHandle_iff {k : Text} {p : Person} : p.hasHandle k = true ↔ p.handle = k := beq_iff_eq

@[simp] theorem Person.hasAlias_iff {k : Text} {p : Person} : p.hasAlias k = true ↔ k ∈ p.aliases :=
  List.contains_iff_mem

theorem handle_not_mem_of_mem_firstHandles {seen : List Text} {ps : List Person} {p : Person}
    (h : p ∈ firstHandles seen ps) : p.handle ∉ seen := by
  fun_induction firstHandles seen ps with
  | case1 => cases h
  | case2 seen q rest hq ih => exact ih h
  | case3 seen q rest hq ih =>
    rcases List.mem_cons.1 h with rfl | h
    · simpa using hq
    · exact fun hp => ih h (List.mem_cons_of_mem _ hp)

theorem pairwise_firstHandles (seen : List Text) (ps : List Person) :
    (firstHandles seen ps).Pairwise fun p q => p.handle ≠ q.handle := by
  fun_induction firstHandles seen ps with
  | case1 => exact .nil
  | case2 seen q rest hq ih => exact ih
  | case3 seen q rest hq ih =>
    refine List.pairwise_cons.2 ⟨?_, ih⟩
    intro p hp heq
    exact handle_not_mem_of_mem_firstHandles hp (by simp [heq])

theorem find?_hasHandle_firstHandles {seen : List Text} {k : Text} (hk : k ∉ seen) (ps : List Person) :
    (firstHandles seen ps).find? (Person.hasHandle k) = ps.find? (Person.hasHandle k) := by
  fun_induction firstHandles seen ps with
  | case1 => rfl
  | case2 seen q rest hq ih =>
    have hne : ¬ q.hasHandle k = true := by
      intro h
      rw [Person.hasHandle_iff.1 h] at hq
      exact hk (by simpa using hq)
    rw [ih hk, List.find?_cons_of_neg hne]
  | case3 seen q rest hq ih =>
    by_cases hkq : q.hasHandle k = true
    · rw [List.find?_cons_of_pos hkq, List.find?_cons_of_pos hkq]
    · have hne : k ≠ q.handle := fun h => hkq (Person.hasHandle_iff.2 h.symm)
      rw [List.find?_cons_of_neg hkq, List.find?_cons_of_neg hkq]
      exact ih (by simp [hne, hk])

theorem mem_firstHandles_iff {ps : List Person} {p : Person} :
    p ∈ firstHandles [] ps ↔ ps.find? (Person.hasHandle p.handle) = some p := by
  rw [← find?_hasHandle_firstHandles List.not_mem_nil]
  constructor
  · intro h
    rw [List.find?_eq_some_iff_append]
    obtain ⟨before, after, hps⟩ := List.append_of_mem h
    refine ⟨Person.hasHandle_iff.2 rfl, before, after, hps, ?_⟩
    intro q hq
    have hapart := pairwise_firstHandles [] ps
    rw [hps, List.pairwise_append] at hapart
    have hne : q.handle ≠ p.handle := hapart.2.2 q hq p (by simp)
    simpa [Person.hasHandle] using hne
  · exact List.mem_of_find?_eq_some

/-- A search among those who are kept is a search for somebody who is kept. -/
theorem find?_firstHandles (seen : List Text) (ps : List Person) (f : Person → Bool) :
    (firstHandles seen ps).find? f = ps.find? fun p => (firstHandles seen ps).contains p && f p := by
  fun_induction firstHandles seen ps with
  | case1 => rfl
  | case2 seen q rest hq ih =>
    have hq' : (firstHandles seen rest).contains q = false := by
      rw [← Bool.not_eq_true, List.contains_iff_mem]
      exact fun h => handle_not_mem_of_mem_firstHandles h (by simpa using hq)
    rw [ih, List.find?_cons, hq', Bool.false_and]
  | case3 seen q rest hq ih =>
    rw [List.find?_cons, List.find?_cons]
    cases hf : f q with
    | true => simp
    | false =>
      rw [ih]
      simp only [Bool.and_false]
      congr 1
      funext p
      -- whoever meets the condition is not `q`
      by_cases hp : p = q
      · simp [hp, hf]
      · simp [hp]

theorem map_handle_firstHandles (seen : List Text) (ps : List Person) :
    (firstHandles seen ps).map Person.handle = ((ps.map Person.handle).filter (!seen.contains ·)).eraseDups := by
  fun_induction firstHandles seen ps with
  | case1 => rfl
  | case2 seen q rest hq ih => rw [ih, List.map_cons, List.filter_cons_of_neg (by simpa using hq)]
  | case3 seen q rest hq ih =>
    rw [List.map_cons, List.map_cons, ih, List.filter_cons_of_pos (by simpa using hq), List.eraseDups_cons,
      List.filter_filter]
    simp only [List.contains_cons, Bool.not_or]

/-- The persons of a list who are the first there with their handle, in the order in which the handles first come. -/
structure FirstByHandle (all ps : List Person) : Prop where
  inOrder : ps.map Person.handle = (all.map Person.handle).eraseDups
  first : ∀ p, p ∈ ps ↔ all.find? (Person.hasHandle p.handle) = some p

theorem firstByHandle_firstHandles (ps : List Person) : FirstByHandle ps (firstHandles [] ps) :=
  ⟨by simp [map_handle_firstHandles], fun _ => mem_firstHandles_iff⟩

theorem firstHandles_append (seen : List Text) (ps qs : List Person) :
    ∃ seen', firstHandles seen (ps ++ qs) = firstHandles seen ps ++ firstHandles seen' qs := by
  induction ps generalizing seen with
  | nil => exact ⟨seen, rfl⟩
  | cons p ps ih =>
    rw [List.cons_append, firstHandles, firstHandles]
    split
    · exact ih seen
    · obtain ⟨seen', h⟩ := ih (p.handle :: seen)
      exact ⟨seen', by rw [h, List.cons_append]⟩

/-- A search that ends among the first of a list ends there whatever follows the list. -/
theorem exists_find?_firstHandles_append {ps : List Person} {p : Person} (hp : p ∈ firstHandles [] ps)
    {f : Person → Bool} (hf : f p = true) (qs : List Person) :
    ∃ q ∈ ps, (firstHandles [] (ps ++ qs)).find? f = some q := by
  obtain ⟨q, hq⟩ := Option.isSome_iff_exists.1 (List.find?_isSome.2 ⟨p, hp, hf⟩)
  obtain ⟨seen, happend⟩ := firstHandles_append [] ps qs
  refine ⟨q, (firstHandles_sublist [] ps).mem (List.mem_of_find?_eq_some hq), ?_⟩
  rw [happend, List.find?_append, hq, Option.some_or]

/-! ### The owner of a key -/

/-- Whose a key is among persons in order: whoever has it as handle, or else the first who has it as an alias. -/
def ownerOf (ps : List Person) (k : Text) : Option Person :=
  (ps.find? (Person.hasHandle k)).or (ps.find? (Person.hasAlias k))

theorem ownerOf_eq_some {ps : List Person} {k : Text} {p : Person} (h : ownerOf ps k = some p) :
    p ∈ ps ∧ k ∈ p.keys := by
  rcases Option.or_eq_some_iff.1 h with h | ⟨-, h⟩
  · have hk : p.handle = k := Person.hasHandle_iff.1 (List.find?_some h)
    exact ⟨List.mem_of_find?_eq_some h, by simp [Person.keys, hk]⟩
  · have hk : k ∈ p.aliases := Person.hasAlias_iff.1 (List.find?_some h)
    exact ⟨List.mem_of_find?_eq_some h, by simp [Person.keys, hk]⟩

theorem exists_ownerOf {ps : List Person} {k : Text} {p : Person} (hp : p ∈ ps) (hk : k ∈ p.keys) :
    ∃ q, ownerOf ps k = some q := by
  rw [← Option.isSome_iff_exists]
  unfold ownerOf
  rw [Option.isSome_or, Bool.or_eq_true, List.find?_isSome, List.find?_isSome]
  rcases List.mem_cons.1 hk with rfl | hk
  · exact .inl ⟨p, hp, Person.hasHandle_iff.2 rfl⟩
  · exact .inr ⟨p, hp, Person.hasAlias_iff.2 hk⟩

/-- Of persons with different handles who are put into a table each handle takes its key, and an alias a free one. -/
theorem get?_foldl_addPerson {ps : List Person} (hps : ps.Pairwise fun p q => p.handle ≠ q.handle) (t : Table Person)
    (k : Text) : Table.get? (ps.foldl addPerson t) k =
      (ps.find? (Person.hasHandle k)).or ((Table.get? t k).or (ps.find? (Person.hasAlias k))) := by
  induction ps generalizing t with
  | nil => simp
  | cons p ps ih =>
    obtain ⟨hp, hps⟩ := List.pairwise_cons.1 hps
    rw [List.foldl_cons, ih hps, get?_addPerson]
    by_cases hk : k = p.handle
    · subst hk
      -- nobody behind `p` has the handle
      have hnone : ps.find? (Person.hasHandle p.handle) = none := by
        rw [List.find?_eq_none]
        intro q hq h
        exact hp q hq (Person.hasHandle_iff.1 h).symm
      rw [hnone, List.find?_cons_of_pos (Person.hasHandle_iff.2 rfl)]
      simp
    · have hhandle : ¬ p.hasHandle k = true := fun h => hk (Person.hasHandle_iff.1 h).symm
      rw [List.find?_cons_of_neg hhandle, if_neg hk, Option.or_assoc, List.find?_cons]
      by_cases ha : k ∈ p.aliases <;> simp [ha, Person.hasAlias]

/-- Everybody who can be mentioned, in order, without those whose handle came before. -/
def everybody (s : Settings) (posts : List Post) : List Person := firstHandles [] (allPersons s posts)

theorem get?_handleTable (s : Settings) (posts : List Post) (k : Text) :
    Table.get? (handleTable s posts) k = ownerOf (everybody s posts) k := by
  unfold handleTable
  rw [get?_foldl_addPerson (pairwise_firstHandles [] _), Table.get?_nil, Option.none_or]
  rfl

theorem mem_everybody_iff {s : Settings} {posts : List Post} {p : Person} :
    p ∈ everybody s posts ↔ Table.get? (handleTable s posts) p.handle = some p := by
  rw [get?_handleTable]
  constructor
  · intro h
    unfold ownerOf everybody
    rw [find?_hasHandle_firstHandles List.not_mem_nil, mem_firstHandles_iff.1 h, Option.some_or]
  · exact fun h => (ownerOf_eq_some h).1

/-! ### The persons of a table -/

/-- A table in which everybody is found under the own handle. -/
structure LeadsHome (t : Table Person) : Prop where
  ordered : t.Ordered
  home : ∀ k p, Table.get? t k = some p → Table.get? t p.handle = some p

theorem leadsHome_handleTable (s : Settings) (posts : List Post) : LeadsHome (handleTable s posts) := by
  refine ⟨(handlesTaken_handleTable s posts).ordered, ?_⟩
  intro k p hk
  rw [get?_handleTable] at hk
  exact mem_everybody_iff.1 (ownerOf_eq_some hk).1

namespace Index

theorem pairwise_personsByHandle (ps : List Person) :
    (personsByHandle ps).Pairwise fun p q => p.handle < q.handle :=
  increasing_mergeSort_text Person.handle (pairwise_firstHandles [] ps)

theorem mem_personsByHandle_iff {t : Table Person} (h : LeadsHome t) {ps : List Person}
    (hps : ps.Perm (List.map Prod.snd t)) {p : Person} :
    p ∈ personsByHandle ps ↔ Table.get? t p.handle = some p := by
  have hmem : ∀ q, q ∈ ps ↔ ∃ k, Table.get? t k = some q := by
    intro q
    rw [hps.mem_iff, List.mem_map]
    constructor
    · rintro ⟨⟨k, r⟩, hr, rfl⟩
      exact ⟨k, h.ordered.mem_iff.1 hr⟩
    · rintro ⟨k, hk⟩
      exact ⟨(k, q), h.ordered.mem_iff.2 hk, rfl⟩
  unfold personsByHandle
  rw [List.mem_mergeSort, mem_firstHandles_iff]
  constructor
  · intro hfind
    obtain ⟨k, hk⟩ := (hmem p).1 (List.mem_of_find?_eq_some hfind)
    exact h.home k p hk
  · intro hp
    -- whoever has the handle is found under it
    cases hfind : ps.find? (Person.hasHandle p.handle) with
    | none => exact absurd (Person.hasHandle_iff.2 rfl) (List.find?_eq_none.1 hfind p ((hmem p).2 ⟨_, hp⟩))
    | some q =>
      obtain ⟨k, hk⟩ := (hmem q).1 (List.mem_of_find?_eq_some hfind)
      have hq := h.home k q hk
      rw [Person.hasHandle_iff.1 (List.find?_some hfind), hp] at hq
      exact hq.symm

/-- Whichever order the persons of a table come in, those are listed who stand under their handles, in the order of the
table. -/
theorem personsByHandle_eq {t : Table Person} (h : LeadsHome t) {ps : List Person}
    (hps : ps.Perm (List.map Prod.snd t)) :
    personsByHandle ps = t.filterMap fun (key, p) => if p.handle == key then some p else none := by
  apply eq_of_increasing Person.handle (pairwise_personsByHandle ps)
  · rw [List.pairwise_filterMap]
    refine h.ordered.imp ?_
    rintro ⟨k, p⟩ ⟨l, q⟩ hlt p' hp q' hq
    obtain ⟨hk, hp⟩ := Option.ite_none_right_eq_some.1 hp
    obtain ⟨hl, hq⟩ := Option.ite_none_right_eq_some.1 hq
    cases hp
    cases hq
    rwa [beq_iff_eq.1 hk, beq_iff_eq.1 hl]
  · intro p
    rw [mem_personsByHandle_iff h hps, List.mem_filterMap, ← h.ordered.mem_iff]
    constructor
    · intro hmem
      exact ⟨_, hmem, by simp⟩
    · rintro ⟨⟨k, q⟩, hmem, hq⟩
      obtain ⟨hk, hq⟩ := Option.ite_none_right_eq_some.1 hq
      cases hq
      rwa [beq_iff_eq.1 hk]

/-! ### An index with the table -/

variable {ix : Index}

theorem mem_allPersons_iff (h : LeadsHome ix.persons) {p : Person} :
    p ∈ ix.allPersons ↔ Table.get? ix.persons p.handle = some p := mem_personsByHandle_iff h (.refl _)

theorem pairwise_allPersons (ix : Index) : ix.allPersons.Pairwise fun p q => p.handle < q.handle :=
  pairwise_personsByHandle _

theorem nodup_allPersons (ix : Index) : ix.allPersons.Nodup :=
  ix.pairwise_allPersons.imp fun hlt heq => hlt.ne (congrArg Person.handle heq)

theorem personByHandle_of_get? {k : Text} {p : Person} (hk : Table.get? ix.persons k = some p) (htrim : trim k = k)
    (hat : k.head? ≠ some '@') : ix.personByHandle k = some p := by
  unfold personByHandle lookup
  rw [cleanHandle_eq_self htrim hat, hk]

/-- What an index answers about persons in order. -/
structure Introduces (ix : Index) (ps : List Person) : Prop where
  /-- Everybody is listed once. -/
  listed : ix.allPersons.Perm ps
  /-- The list goes by handle. -/
  increasing : ix.allPersons.Pairwise fun p q => p.handle < q.handle
  /-- A key leads to its owner, unless it is written with blanks around it or with `@`. -/
  resolves : ∀ p ∈ ps, ∀ k ∈ p.keys, trim k = k → k.head? ≠ some '@' →
    ∃ q ∈ ps, k ∈ q.keys ∧ ownerOf ps k = some q ∧ ix.personByHandle k = some q

end Index

/-- The table of handles leads from every key to its owner among the first with their handles, and an index with it
introduces them. -/
theorem handleTable_owners (s : Settings) (posts : List Post) :
    FirstByHandle (allPersons s posts) (everybody s posts) ∧
      (∀ k, Table.get? (handleTable s posts) k = ownerOf (everybody s posts) k) ∧
      ∀ ix : Index, ix.persons = handleTable s posts → ix.Introduces (everybody s posts) := by
  refine ⟨firstByHandle_firstHandles _, get?_handleTable s posts, ?_⟩
  intro ix hpersons
  have hhome : LeadsHome ix.persons := hpersons ▸ leadsHome_handleTable s posts
  refine ⟨?_, ix.pairwise_allPersons, ?_⟩
  · have hnodup' : (everybody s posts).Nodup :=
      (pairwise_firstHandles [] _).imp fun hne heq => hne (congrArg Person.handle heq)
    rw [List.perm_ext_iff_of_nodup ix.nodup_allPersons hnodup']
    intro p
    rw [Index.mem_allPersons_iff hhome, hpersons, mem_everybody_iff]
  · intro p hp k hk htrim hat
    obtain ⟨q, hq⟩ := exists_ownerOf hp hk
    have hget : Table.get? ix.persons k = some q := by rw [hpersons, get?_handleTable, hq]
    exact ⟨q, (ownerOf_eq_some hq).1, (ownerOf_eq_some hq).2, hq, Index.personByHandle_of_get? hget htrim hat⟩

/-- A blogroll with an alias that is the handle of a post. -/
private def namesakes : Settings :=
  { Settings.default with
    blogroll := [⟨some "@simon".toList, none, none, none, none, ["dave".toList, "simonw".toList]⟩]
    fromPosts := [⟨"True".toList, "slug".toList, none⟩] }

/-- The index of a directory with that post. -/
private def namesakeIndex : Index :=
  let names := [Path.ofText "srv".toList, Path.ofText "dave.md".toList]
  let tree := (FileTree.empty []).write names (encodeUtf8 "# Dave".toList)
  Index.build .asListed tree (Path.ofText "/srv".toList) namesakes

theorem handleTable_owners_namesakes :
    namesakeIndex.persons = handleTable namesakes namesakeIndex.livePosts ∧
      namesakeIndex.Introduces (everybody namesakes namesakeIndex.livePosts) ∧
      (everybody namesakes namesakeIndex.livePosts).map Person.handle = ["simon".toList, "dave".toList] :=
  ⟨rfl, (handleTable_owners namesakes namesakeIndex.livePosts).2.2 namesakeIndex rfl, by decide +kernel⟩

/-! ### Entries of the blogroll and posts -/

theorem isInternal_of_ofBlogroll {e : BlogrollEntry} {p : Person} (h : Person.ofBlogroll e = some p) :
    p.isInternal = false := by
  unfold Person.ofBlogroll at h
  obtain ⟨handle, -, rfl⟩ := Option.map_eq_some_iff.1 h
  rfl

theorem isInternal_of_mem_personsOfRule {posts : List Post} {rule : PostRule} {p : Person}
    (h : p ∈ personsOfRule posts rule) : p.isInternal = true := by
  unfold personsOfRule at h
  split at h
  · obtain ⟨post, -, hpost⟩ := List.mem_filterMap.1 h
    unfold Person.ofPost at hpost
    obtain ⟨handle, -, rfl⟩ := Option.map_eq_some_iff.1 hpost
    rfl
  · cases h

/-- The persons of the blogroll, in order. -/
def blogrollPersons (s : Settings) : List Person := s.blogroll.filterMap Person.ofBlogroll

theorem allPersons_eq (s : Settings) (posts : List Post) :
    allPersons s posts = blogrollPersons s ++ s.fromPosts.flatMap (personsOfRule posts) := rfl

theorem isInternal_of_mem_blogrollPersons {s : Settings} {p : Person} (h : p ∈ blogrollPersons s) :
    p.isInternal = false := by
  obtain ⟨e, -, he⟩ := List.mem_filterMap.1 h
  exact isInternal_of_ofBlogroll he

/-- A key of a person of the blogroll who is the first with the handle leads to somebody. It leads to a post exactly
when a rule finds a post with that handle and the blogroll has no such handle. -/
theorem blogroll_key_internal_iff (s : Settings) (posts : List Post) {p : Person}
    (hp : (blogrollPersons s).find? (Person.hasHandle p.handle) = some p) {k : Text} (hk : k ∈ p.keys) :
    ∃ q, Table.get? (handleTable s posts) k = some q ∧
      (q.isInternal = true ↔ (∀ r ∈ blogrollPersons s, r.handle ≠ k) ∧
        ∃ rule ∈ s.fromPosts, ∃ r ∈ personsOfRule posts rule, r.handle = k) := by
  rw [get?_handleTable]
  unfold ownerOf everybody
  rw [find?_hasHandle_firstHandles List.not_mem_nil, allPersons_eq, List.find?_append]
  cases hblogroll : (blogrollPersons s).find? (Person.hasHandle k) with
  | some q =>
    -- the handle is in the blogroll
    have hmem := List.mem_of_find?_eq_some hblogroll
    have hhandle : q.handle = k := Person.hasHandle_iff.1 (List.find?_some hblogroll)
    refine ⟨q, rfl, ?_⟩
    rw [isInternal_of_mem_blogrollPersons hmem]
    exact iff_of_false Bool.false_ne_true fun h => h.1 q hmem hhandle
  | none =>
    have hother : ∀ r ∈ blogrollPersons s, r.handle ≠ k := by simpa using hblogroll
    cases hposts : (s.fromPosts.flatMap (personsOfRule posts)).find? (Person.hasHandle k) with
    | some q =>
      -- a post takes the key from the alias
      obtain ⟨rule, hrule, hq⟩ := List.mem_flatMap.1 (List.mem_of_find?_eq_some hposts)
      have hhandle : q.handle = k := Person.hasHandle_iff.1 (List.find?_some hposts)
      refine ⟨q, rfl, ?_⟩
      rw [isInternal_of_mem_personsOfRule hq]
      exact iff_of_true rfl ⟨hother, rule, hrule, q, hq, hhandle⟩
    | none =>
      -- nobody has the handle, so the key goes to the first alias, and that is in the blogroll
      have hne : k ≠ p.handle := (hother p (List.mem_of_find?_eq_some hp)).symm
      have halias : p.hasAlias k = true := Person.hasAlias_iff.2 ((List.mem_cons.1 hk).resolve_left hne)
      obtain ⟨q, hmem, hq⟩ := exists_find?_firstHandles_append (mem_firstHandles_iff.2 hp) halias
        (s.fromPosts.flatMap (personsOfRule posts))
      refine ⟨q, hq, ?_⟩
      rw [isInternal_of_mem_blogrollPersons hmem]
      refine iff_of_false Bool.false_ne_true ?_
      rintro ⟨-, rule, hrule, r, hr, hhandle⟩
      have hnone := List.find?_eq_none.1 hposts r (List.mem_flatMap.2 ⟨rule, hrule, hr⟩)
      exact hnone (Person.hasHandle_iff.2 hhandle)

theorem blogroll_key_internal_iff_namesakes :
    let p : Person :=
      ⟨"simon".toList, "simon".toList, none, none, none, ["dave".toList, "simonw".toList], false, none⟩
    (blogrollPersons namesakes).find? (Person.hasHandle p.handle) = some p ∧ "dave".toList ∈ p.keys ∧
      ∃ q, Table.get? (handleTable namesakes namesakeIndex.livePosts) "dave".toList = some q ∧
        (q.isInternal = true ↔ (∀ r ∈ blogrollPersons namesakes, r.handle ≠ "dave".toList) ∧
          ∃ rule ∈ namesakes.fromPosts, ∃ r ∈ personsOfRule namesakeIndex.livePosts rule,
            r.handle = "dave".toList) := by
  intro p
  have hp : (blogrollPersons namesakes).find? (Person.hasHandle p.handle) = some p := by decide +kernel
  have hk : "dave".toList ∈ p.keys := by decide
  exact ⟨hp, hk, blogroll_key_internal_iff namesakes namesakeIndex.livePosts hp hk⟩

/-- A post takes an alias from an entry of the blogroll. -/
theorem not_blogroll_key_external :
    ¬ ∀ (s : Settings) (posts : List Post) (p : Person),
      (blogrollPersons s).find? (Person.hasHandle p.handle) = some p → ∀ k ∈ p.keys,
        ∃ q, Table.get? (handleTable s posts) k = some q ∧ q.isInternal = false := by
  intro h
  obtain ⟨q, hq, hexternal⟩ := h namesakes namesakeIndex.livePosts
    ⟨"simon".toList, "simon".toList, none, none, none, ["dave".toList, "simonw".toList], false, none⟩
    (by decide +kernel) "dave".toList (by decide)
  have hinternal : (Table.get? (handleTable namesakes namesakeIndex.livePosts) "dave".toList).map Person.isInternal =
      some true := by decide +kernel
  rw [hq, Option.map_some, hexternal] at hinternal
  cases hinternal

end WikiSite
