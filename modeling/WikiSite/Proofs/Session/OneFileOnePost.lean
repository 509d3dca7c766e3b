import WikiSite.Proofs.Session.EditorText

/-!
# One file, one post

Posts are registered by URI and files are found by path. When every URI that the editor names is canonical the two go
together: each registered post has the URI of its path (`ofPath?_path`), so a file has one post at most, and the post
goes when its document is closed or its file deleted (`onePostPerFile`). Nothing keeps an editor from another spelling
of a URI. Then the text of a document and its file are registered next to each other, and closing the document leaves
its text behind (`not_onePostPerFile_percent`).
-/

namespace WikiSite

/-- A path has one canonical URI. -/
theorem Uri.eq_of_same {p q : Path} {u v : Uri} (hu : ofPath? p = some u) (hv : ofPath? q = some v)
    (h : Path.same p q = true) : u = v := by
  have hsame := ofPath?_congr (isAbsolute_of_ofPath? hu) (isAbsolute_of_ofPath? hv) (beq_iff_eq.1 h)
  rw [hu, hv] at hsame
  exact Option.some.inj hsame

/-- The notification that a document was closed. -/
def Message.closedDocument (uri : String) : Message :=
  .notification "textDocument/didClose".toList (.object [("textDocument", .object [("uri", .ofString uri)])])

namespace Session

variable {as : List Arrival} {s : Session} {p : Post}

/-- A registered post has the URI of its path. -/
theorem ofPath?_path (h : ∀ a ∈ as, ∀ u ∈ a.message.uris, u.IsCanonical) (hp : (new.handleAll as).index.Knows p) :
    Uri.ofPath? p.path = some p.uri := by
  have hcurrent := current_handleAll h
  cases hd : (new.handleAll as).documents.document? p.uri with
  | some d =>
    have huri := hcurrent.filed.uri_of_document? hd
    have hpost := hcurrent.reached.eq_of_uri hp (hcurrent.registered _ d hd) huri.symm
    rw [hpost]
    exact (hcurrent.canonical _ d hd).ofPath?_documentPath
  | none =>
    obtain ⟨f, -, hfrom⟩ := isFrom_lastRead h hp hd
    have hpath : p.path = f.1 := congrArg Post.path hfrom.post
    rw [hpath]
    exact hfrom.uri

/-- Changes of other files add no post of a file. -/
theorem knows_of_followFiles (h : Current s) {cs : List FileChange} (hcs : ∀ c ∈ cs, c.uri.IsCanonical) {m : Machine}
    (hne : ∀ c ∈ cs, c.uri.text ≠ p.uri.text) (hp : (cs.foldl (fun s c => s.followFile m c) s).index.Knows p) :
    s.index.Knows p := by
  induction cs generalizing s with
  | nil => exact hp
  | cons c cs ih =>
    have hc := hcs c (by simp)
    have hp := ih (h.followFile hc m) (fun e he => hcs e (by simp [he])) (fun e he => hne e (by simp [he])) hp
    rcases (knows_followFile h.reached hc m p).1 hp with ⟨hp, -⟩ | ⟨-, -, text, -, rfl⟩
    · exact hp
    · exact absurd rfl (hne c (by simp))

/-- A deleted content file that is not open has no post until it is reported on again. -/
theorem not_knows_deleted (h : Current s) {cs cs' : List FileChange} {c : FileChange} {m : Machine}
    (hcs : ∀ e ∈ cs ++ c :: cs', e.uri.IsCanonical) (hcontent : Index.isContentFile (Path.ofText c.uri.path) = true)
    (hdeleted : c.isDeleted = true) (hlast : ∀ e ∈ cs', e.uri.text ≠ c.uri.text)
    (hclosed : s.documents.document? c.uri = none) (hpuri : p.uri = c.uri) :
    ¬ ((cs ++ c :: cs').foldl (fun s c => s.followFile m c) s).index.Knows p := by
  intro hp
  -- the changes in front of the deletion do not matter, and those behind it are of other files
  rw [List.foldl_append, List.foldl_cons] at hp
  have hcurrent : Current (cs.foldl (fun s c => s.followFile m c) s) :=
    h.followFiles (fun e he => hcs e (by simp [he])) m
  have hc : c.uri.IsCanonical := hcs c (by simp)
  have hafter := knows_of_followFiles (hcurrent.followFile hc m) (fun e he => hcs e (by simp [he]))
    (fun e he => hpuri ▸ hlast e he) hp
  have hheeds : (cs.foldl (fun s c => s.followFile m c) s).heeds c = true := by
    simp [heeds, documents_foldl_followFile, hcontent, hclosed]
  rcases (knows_followFile hcurrent.reached hc m p).1 hafter with ⟨-, hgone⟩ | ⟨-, hkept, -⟩
  · rw [(hgone hheeds (by rw [hpuri])).1] at hdeleted
    cases hdeleted
  · rw [hkept] at hdeleted
    cases hdeleted

/-- A file has one registered post, and none that its document or the file itself has left behind. -/
structure OnePostPerFile (as : List Arrival) : Prop where
  /-- Registered posts of one path are one post. -/
  unique : ∀ p q, (new.handleAll as).index.Knows p → (new.handleAll as).index.Knows q →
    Path.same p.path q.path = true → p = q
  /-- When a document has been closed, only its file as it is then can have a post. -/
  closed : ∀ earlier a uri, as = earlier ++ [a] →
    (new.handleAll earlier).report? a.message = some (.notice (.closed uri)) →
    ∀ p, (new.handleAll as).index.Knows p → Path.same p.path uri.documentPath = true →
      ∃ text, a.machine.fileText? uri = some text ∧ p = (new.handleAll as).index.postOf uri text
  /-- When a content file has been deleted, only its document can have a post, while it is open. -/
  deleted : ∀ earlier a cs c cs', as = earlier ++ [a] →
    (new.handleAll earlier).report? a.message = some (.notice (.filesChanged (cs ++ c :: cs'))) →
    Index.isContentFile (Path.ofText c.uri.path) = true → c.isDeleted = true →
    (∀ e ∈ cs', e.uri.text ≠ c.uri.text) →
    ∀ p, (new.handleAll as).index.Knows p → Path.same p.path c.uri.documentPath = true →
      ∃ d, (new.handleAll as).documents.document? c.uri = some d ∧ p = (new.handleAll as).index.postOf d.uri d.text

/-- A closed document leaves no post but that of its file. -/
private theorem eq_postOf_of_closed {earlier : List Arrival} {a : Arrival} {uri : Uri}
    (h : ∀ b ∈ earlier ++ [a], ∀ u ∈ b.message.uris, u.IsCanonical)
    (hr : (new.handleAll earlier).report? a.message = some (.notice (.closed uri)))
    (hp : (new.handleAll (earlier ++ [a])).index.Knows p) (hsame : Path.same p.path uri.documentPath = true) :
    ∃ text, a.machine.fileText? uri = some text ∧ p = (new.handleAll (earlier ++ [a])).index.postOf uri text := by
  have hu : uri.IsCanonical := h a (by simp) uri (uris_of_report? hr (List.mem_singleton_self uri))
  have hpuri := Uri.eq_of_same (ofPath?_path h hp) hu.ofPath?_documentPath hsame
  have hearlier : Current (new.handleAll earlier) := current_handleAll fun b hb => h b (by simp [hb])
  have hsession : new.handleAll (earlier ++ [a]) = (new.handleAll earlier).close a.machine uri := by
    rw [handleAll_concat]
    exact (handle_of_report? hr a.machine).1
  rw [hsession] at hp ⊢
  rcases (knows_close hearlier.reached hu a.machine p).1 hp with ⟨-, hne⟩ | ⟨text, htext, hpost⟩
  · exact absurd (congrArg Uri.text hpuri) hne
  · refine ⟨text, htext, ?_⟩
    rw [(patched_close a.machine (new.handleAll earlier) uri).sameSite.postOf_eq, hpost]

/-- A deleted file leaves no post but that of its open document. -/
private theorem eq_postOf_of_deleted {earlier : List Arrival} {a : Arrival} {cs cs' : List FileChange} {c : FileChange}
    (h : ∀ b ∈ earlier ++ [a], ∀ u ∈ b.message.uris, u.IsCanonical)
    (hr : (new.handleAll earlier).report? a.message = some (.notice (.filesChanged (cs ++ c :: cs'))))
    (hcontent : Index.isContentFile (Path.ofText c.uri.path) = true) (hdeleted : c.isDeleted = true)
    (hlast : ∀ e ∈ cs', e.uri.text ≠ c.uri.text) (hp : (new.handleAll (earlier ++ [a])).index.Knows p)
    (hsame : Path.same p.path c.uri.documentPath = true) :
    ∃ d, (new.handleAll (earlier ++ [a])).documents.document? c.uri = some d ∧
      p = (new.handleAll (earlier ++ [a])).index.postOf d.uri d.text := by
  have hcs : ∀ e ∈ cs ++ c :: cs', e.uri.IsCanonical := fun e he =>
    h a (by simp) e.uri (uris_of_report? hr (List.mem_map_of_mem he))
  have hpuri := Uri.eq_of_same (ofPath?_path h hp) (hcs c (by simp)).ofPath?_documentPath hsame
  have hcurrent := current_handleAll h
  -- an open document keeps its post; otherwise the deletion counts
  cases hd : (new.handleAll (earlier ++ [a])).documents.document? c.uri with
  | some d =>
    refine ⟨d, rfl, hcurrent.reached.eq_of_uri hp (hcurrent.registered _ d hd) ?_⟩
    rw [hpuri]
    exact (hcurrent.filed.uri_of_document? hd).symm
  | none =>
    have hearlier : Current (new.handleAll earlier) := current_handleAll fun b hb => h b (by simp [hb])
    have hsession : new.handleAll (earlier ++ [a]) =
        (cs ++ c :: cs').foldl (fun s c => s.followFile a.machine c) (new.handleAll earlier) := by
      rw [handleAll_concat]
      exact (handle_of_report? hr a.machine).1
    rw [hsession] at hp hd
    rw [documents_foldl_followFile] at hd
    exact absurd hp (not_knows_deleted hearlier hcs hcontent hdeleted hlast hd hpuri)

/-- As long as the editor names files by their canonical URIs, each has one post. -/
theorem onePostPerFile (as : List Arrival) (h : ∀ a ∈ as, ∀ u ∈ a.message.uris, u.IsCanonical) :
    OnePostPerFile as := by
  refine ⟨?_, ?_, ?_⟩
  · intro p q hp hq hsame
    have huri := Uri.eq_of_same (ofPath?_path h hp) (ofPath?_path h hq) hsame
    exact (current_handleAll h).reached.eq_of_uri hp hq (congrArg Uri.text huri)
  · rintro earlier a uri rfl hr p hp hsame
    exact eq_postOf_of_closed h hr hp hsame
  · rintro earlier a cs c cs' rfl hr hcontent hdeleted hlast p hp hsame
    exact eq_postOf_of_deleted h hr hcontent hdeleted hlast hp hsame

/-- A document over a file is closed again. -/
theorem onePostPerFile_reopened :
    let m : Machine := .ofTree ((FileTree.empty []).write [encodeUtf8 "a.md".toList] (encodeUtf8 "# A\n".toList))
    let as : List Arrival :=
      [⟨m, .opening "file:///"⟩, ⟨m, .notification "initialized".toList .null⟩,
        ⟨m, .openedDocument "file:///a.md" "---\nslug: draft\n---\n"⟩, ⟨m, .closedDocument "file:///a.md"⟩]
    (∀ a ∈ as, ∀ u ∈ a.message.uris, u.IsCanonical) ∧
      (new.handleAll as).index.slugs = [("file:///a.md".toList, "a".toList)] ∧ OnePostPerFile as := by
  intro m as
  have hcanonical : ∀ a ∈ as, ∀ u ∈ a.message.uris, u.IsCanonical := by decide +kernel
  exact ⟨hcanonical, by decide +kernel, onePostPerFile as hcanonical⟩

/-- The same with another spelling of the URI: the text of the closed document stays. -/
theorem not_onePostPerFile_percent :
    let m : Machine := .ofTree ((FileTree.empty []).write [encodeUtf8 "a.md".toList] (encodeUtf8 "# A\n".toList))
    let as : List Arrival :=
      [⟨m, .opening "file:///"⟩, ⟨m, .notification "initialized".toList .null⟩,
        ⟨m, .openedDocument "file:///%61.md" "---\nslug: draft\n---\n"⟩, ⟨m, .closedDocument "file:///%61.md"⟩]
    ¬ OnePostPerFile as := by
  intro m as h
  have hlive : (new.handleAll as).index.livePosts.map (fun p => (p.slug, p.path)) =
      [("draft".toList, Path.ofText "/a.md".toList), ("a".toList, Path.ofText "/a.md".toList)] := by
    decide +kernel
  have hpost : ∀ e ∈ [("draft".toList, Path.ofText "/a.md".toList), ("a".toList, Path.ofText "/a.md".toList)],
      ∃ p, (new.handleAll as).index.Knows p ∧ (p.slug, p.path) = e := by
    intro e he
    rw [← hlive] at he
    obtain ⟨p, hp, hpe⟩ := List.mem_map.1 he
    exact ⟨p, .inl ((reached_handleAll as).mem_livePosts.1 hp), hpe⟩
  obtain ⟨p, hp, hpe⟩ := hpost _ List.mem_cons_self
  obtain ⟨q, hq, hqe⟩ := hpost _ (List.mem_cons_of_mem _ List.mem_cons_self)
  rw [Prod.mk.injEq] at hpe hqe
  have hsame : Path.same p.path q.path = true := by
    rw [hpe.2, hqe.2]
    exact beq_self_eq_true _
  have hslug := congrArg Post.slug (h.unique p q hp hq hsame)
  rw [hpe.1, hqe.1] at hslug
  exact absurd hslug (by decide)

end Session

end WikiSite
