import WikiSite.Proofs.Json.TextLength
import WikiSite.Proofs.Rpc.Frame
import WikiSite.Proofs.Session.Reports
import WikiSite.Proofs.Text.Columns

/-!
# How long an open document can be

A body has at most `maxContentLength` bytes, and every character of the text in it takes a byte. No text inside the
message is longer than that text, so no document that the editor opens, changes or saves is
(`Notice.length_le_of_text?`), and no open document of a session ever is (`Session.length_le_of_document?`).
-/

namespace WikiSite

/-! ### Messages -/

/-- The message was read from a stream. -/
def Message.Received (msg : Message) : Prop := ∃ ending bs rest, readMessage ending bs = (.message msg, rest)

theorem Message.Sendable.received {msg : Message} (h : msg.Sendable) : msg.Received :=
  ⟨.eof, _, [], h.readMessage_frame []⟩

theorem length_le_byteLength (t : Text) : t.length ≤ byteLength t := by
  induction t with
  | nil => simp
  | cons c t ih =>
    have hc := Char.utf8Size_pos c
    simp only [List.length_cons, byteLength]
    omega

theorem readBody_eq_message {body : Bytes} {msg : Message} (h : readBody body = .message msg) :
    ∃ text v, text.length ≤ body.length ∧ Json.read text = some v ∧ Message.ofJson? v = some msg := by
  unfold readBody at h
  split at h
  · cases h
  · rename_i text htext
    split at h
    · cases h
    · rename_i v hv
      split at h
      · rename_i msg' hmsg
        cases h
        refine ⟨text, v, ?_, hv, hmsg⟩
        rw [decodeUtf8_eq_some.1 htext, length_encodeUtf8]
        exact length_le_byteLength text
      · cases h

theorem Message.Received.exists_body {msg : Message} (h : msg.Received) :
    ∃ body, body.length ≤ maxContentLength ∧ readBody body = .message msg := by
  obtain ⟨ending, bs, rest, hread⟩ := h
  unfold readMessage at hread
  split at hread
  · cases hread
  · cases hread
  · rename_i headers mid _
    split at hread
    · cases hread
    split at hread
    · cases hread
    rename_i n _
    split at hread
    · cases hread
    split at hread
    · cases hread
    split at hread
    · cases ending <;> cases hread
    · rename_i hmax _
      refine ⟨mid.take n, ?_, congrArg Prod.fst hread⟩
      rw [List.length_take]
      omega

theorem Message.textsWithin_of_ofJson? {n : Nat} {v : Json} (hv : v.TextsWithin n) {method : Text} {params : Json}
    (h : Message.ofJson? v = some (.notification method params)) : params.TextsWithin n := by
  unfold Message.ofJson? at h
  split at h
  · rename_i version id method' params' result error hmembers
    simp only [Option.bind_eq_bind, Option.bind_eq_some_iff] at h
    obtain ⟨-, -, i, -, t, -, e, -, hmsg⟩ := h
    have hparams : ((present params').getD .null).TextsWithin n := by
      cases hpresent : present params' with
      | none => rfl
      | some w =>
        obtain ⟨rfl, -⟩ := present_eq_some.1 hpresent
        exact Json.all_of_recordMembers hv hmembers (by simp)
    -- only a message with a method keeps the parameters
    cases t with
    | none => cases e <;> cases hmsg
    | some m =>
      cases i with
      | none =>
        cases hmsg
        exact hparams
      | some i =>
        cases i with
        | null =>
          cases hmsg
          exact hparams
        | number | text => cases hmsg
  · cases h

theorem Message.Received.textsWithin_params {method : Text} {params : Json}
    (h : (Message.notification method params).Received) : params.TextsWithin maxContentLength := by
  obtain ⟨body, hbody, hread⟩ := h.exists_body
  obtain ⟨text, v, htext, hv, hmsg⟩ := readBody_eq_message hread
  exact Message.textsWithin_of_ofJson? (Json.textsWithin_of_read (by omega) hv) hmsg

/-! ### Notices -/

/-- The text of a document that a notice carries. -/
def Notice.text? : Notice → Option Text
  | .opened _ text _ => some text
  | .changed _ text _ => text
  | .saved _ text => text
  | .closed _ => none
  | .filesChanged _ => none

section

variable {n : Nat} {v : Json}

theorem Json.TextsWithin.of_members (hv : v.TextsWithin n) {names : List String} {os : List (Option Json)}
    (h : Params.members names v = some os) {w : Json} (hw : some w ∈ os) : w.TextsWithin n := by
  cases v with
  | obj members =>
    cases h
    obtain ⟨name, -, hname⟩ := List.mem_map.1 hw
    exact hv.of_mem_members (Table.mem_of_get? hname)
  | arr items =>
    simp only [Params.members] at h
    split at h
    · cases h
      obtain ⟨w', hw', heq⟩ := List.mem_map.1 hw
      cases heq
      exact hv.of_mem_items hw'
    · cases h
  | _ => cases h

theorem Json.TextsWithin.length_le (hv : v.TextsWithin n) {t : Text} (h : v.asText? = some t) : t.length ≤ n := by
  cases v with
  | str s =>
    cases h
    exact Json.textsWithin_str.1 hv
  | _ => cases h

theorem Params.exists_of_mem_list? {α : Type} {read : Json → Option α} {xs : List α} (h : Params.list? read v = some xs)
    {x : α} (hx : x ∈ xs) : ∃ items, v = .arr items ∧ ∃ w ∈ items, read w = some x := by
  cases v with
  | arr items =>
    refine ⟨items, rfl, ?_⟩
    change items.mapM read = some xs at h
    induction items generalizing xs with
    | nil =>
      cases h
      cases hx
    | cons w items ih =>
      simp only [List.mapM_cons, Option.bind_eq_bind, Option.bind_eq_some_iff] at h
      obtain ⟨y, hy, ys, hys, heq⟩ := h
      cases heq
      rcases List.mem_cons.1 hx with rfl | hx
      · exact ⟨w, List.mem_cons_self, hy⟩
      · obtain ⟨w', hw', hread⟩ := ih hx hys
        exact ⟨w', List.mem_cons_of_mem w hw', hread⟩
  | _ => cases h

namespace Notice

variable {notice : Notice} {t : Text}

theorem length_le_of_change? (hv : v.TextsWithin n) (h : change? v = some t) : t.length ≤ n := by
  unfold change? at h
  split at h
  · rename_i range length text hmembers
    simp only [Option.bind_eq_bind, Option.bind_eq_some_iff] at h
    obtain ⟨-, -, -, -, w, rfl, hw⟩ := h
    exact (hv.of_members hmembers (by simp)).length_le hw
  · cases h

theorem length_le_of_opened? (hv : v.TextsWithin n) (h : opened? v = some notice) (ht : notice.text? = some t) :
    t.length ≤ n := by
  unfold opened? at h
  split at h
  · rename_i item hitem
    have hitem : item.TextsWithin n := hv.of_members hitem (by simp)
    split at h
    · rename_i uri language version text hmembers
      simp only [Option.bind_eq_bind, Option.bind_eq_some_iff] at h
      obtain ⟨uri, -, -, -, s, ⟨w, rfl, hw⟩, version, -, heq⟩ := h
      cases heq
      cases ht
      exact (hitem.of_members hmembers (by simp)).length_le hw
    · cases h
  · cases h

theorem length_le_of_changed? (hv : v.TextsWithin n) (h : changed? v = some notice) (ht : notice.text? = some t) :
    t.length ≤ n := by
  unfold changed? at h
  split at h
  · rename_i document changes hmembers
    have hchanges : changes.TextsWithin n := hv.of_members hmembers (by simp)
    split at h
    · simp only [Option.bind_eq_bind, Option.bind_eq_some_iff] at h
      obtain ⟨uri, -, version, -, texts, htexts, heq⟩ := h
      cases heq
      obtain ⟨items, rfl, w, hw, hread⟩ := Params.exists_of_mem_list? htexts (List.mem_of_getLast? ht)
      exact length_le_of_change? (hchanges.of_mem_items hw) hread
    · cases h
  · cases h

theorem length_le_of_saved? (hv : v.TextsWithin n) (h : saved? v = some notice) (ht : notice.text? = some t) :
    t.length ≤ n := by
  unfold saved? at h
  split at h
  · rename_i document text hmembers
    simp only [Option.bind_eq_bind, Option.bind_eq_some_iff] at h
    obtain ⟨uri, -, s, hs, heq⟩ := h
    cases heq
    cases ht
    obtain ⟨w, rfl, hw⟩ := optionalMember_eq_some hs
    exact (hv.of_members hmembers (by simp)).length_le hw
  · cases h

theorem length_le_of_text? {method : Text} (hv : v.TextsWithin n) (h : ofNotification? method v = some notice)
    (ht : notice.text? = some t) : t.length ≤ n := by
  unfold ofNotification? at h
  split at h
  · exact length_le_of_opened? hv h ht
  split at h
  · exact length_le_of_changed? hv h ht
  split at h
  · exact length_le_of_saved? hv h ht
  split at h
  · -- a closed document and changed files carry no text
    unfold closed? at h
    split at h
    · obtain ⟨uri, -, rfl⟩ := Option.map_eq_some_iff.1 h
      cases ht
    · cases h
  split at h
  · unfold filesChanged? at h
    split at h
    · obtain ⟨changes, -, rfl⟩ := Option.map_eq_some_iff.1 h
      cases ht
    · cases h
  · cases h

end Notice

end

/-! ### Sessions -/

namespace Session

/-- A document that is open after a report was open before, or the report carries its text. -/
theorem document?_heed {m : Machine} {s : Session} {r : Report} {uri : Uri} {d : Document}
    (hd : (s.heed m r).1.documents.document? uri = some d) :
    s.documents.document? uri = some d ∨ ∃ notice, r = .notice notice ∧ notice.text? = some d.text := by
  have hput : ∀ {e : Document} {notice : Notice}, notice.text? = some e.text →
      (s.documents.put e).document? uri = some d →
      s.documents.document? uri = some d ∨ notice.text? = some d.text := by
    intro e notice htext he
    rw [Documents.document?_put] at he
    split at he
    · cases he
      exact .inr htext
    · exact .inl he
  rw [documents_heed] at hd
  split at hd
  case h_1 | h_2 | h_3 => exact (hput rfl hd).imp_right fun htext => ⟨_, rfl, htext⟩
  · rw [Documents.document?_close] at hd
    split at hd
    · cases hd
    · exact .inl hd
  · exact .inl hd

theorem length_le_of_report? {s : Session} {msg : Message} (hmsg : msg.Received) {notice : Notice}
    (h : s.report? msg = some (.notice notice)) {t : Text} (ht : notice.text? = some t) :
    t.length ≤ maxContentLength := by
  cases msg with
  | request => cases h
  | response => cases h
  | notification method params =>
    simp only [report?] at h
    split at h
    · cases h
    split at h
    · split at h <;> cases h
    · obtain ⟨n, hn, heq⟩ := Option.map_eq_some_iff.1 h
      cases heq
      exact Notice.length_le_of_text? hmsg.textsWithin_params hn ht

/-- No open document is longer than the longest body. -/
theorem length_le_of_document? {as : List Arrival} (h : ∀ a ∈ as, a.message.Received) {uri : Uri} {d : Document}
    (hd : (new.handleAll as).documents.document? uri = some d) : d.text.length ≤ maxContentLength := by
  induction as using List.reverseRecOn with
  | nil => cases hd
  | append_singleton as a ih =>
    have hbefore := ih fun b hb => h b (by simp [hb])
    rw [handleAll_concat] at hd
    rcases handle_cases a.machine (new.handleAll as) a.message with ⟨-, -, hdocuments, -⟩ | ⟨r, hr, hsession, -⟩
    · rw [hdocuments] at hd
      exact hbefore hd
    · rw [hsession] at hd
      rcases document?_heed hd with hkept | ⟨notice, rfl, htext⟩
      · exact hbefore hkept
      · exact length_le_of_report? (h a (by simp)) hr htext

end Session

end WikiSite
