import WikiSite.Proofs.Rpc.HeaderBlock

/-!
# Recovery after a refused header

The body of a frame whose header is refused is not read, so it stands in front of the next header line and becomes a
part of that line. Without a colon in it the line still gives its length, and the next message is read
(`readMessage_leftover`). With a colon the line is cut there, and the length behind it is lost: the block of the next
message is refused as well (`readMessage_leftover_colon`), and its body, which has one line, is in front of whatever
follows. So the next message is read exactly when the leftover has no colon (`recovers_iff`).
-/

namespace WikiSite

/-! ### Written values have one line -/

namespace Json

private theorem digitChar_ne_feed : ∀ n < 16, Nat.digitChar n ≠ '\n' := by decide

private theorem feed_not_mem_writeChar (c : Char) : '\n' ∉ writeChar c := by
  unfold writeChar
  split
  · decide
  split
  · decide
  split
  · rename_i hc
    have h₁ := digitChar_ne_feed (c.toNat / 16) (by omega)
    have h₂ := digitChar_ne_feed (c.toNat % 16) (by omega)
    split
    · decide
    split
    · decide
    split
    · decide
    split
    · decide
    split
    · decide
    · simp [h₁.symm, h₂.symm]
  · rename_i hc
    rw [List.mem_singleton]
    rintro rfl
    exact hc (by decide)

private theorem feed_not_mem_writeString (t : Text) : '\n' ∉ writeString t := by
  unfold writeString
  simp only [List.mem_cons, List.mem_append, List.mem_flatMap, List.not_mem_nil, or_false]
  rintro (h | ⟨c, -, hc⟩ | h)
  · cases h
  · exact feed_not_mem_writeChar c hc
  · cases h

private theorem feed_not_mem_intText (n : Int) : '\n' ∉ intText n := by
  have hnat : ∀ k, '\n' ∉ natText k := fun k h => absurd (isDigit_of_mem_natText h) (by decide)
  cases n with
  | ofNat k => exact hnat k
  | negSucc k =>
    show '\n' ∉ '-' :: natText (k + 1)
    rw [List.mem_cons, not_or]
    exact ⟨by decide, hnat _⟩

private theorem feed_not_mem_writeItems {items : List Json} (h : ∀ v ∈ items, '\n' ∉ v.write) :
    '\n' ∉ writeItems items := by
  induction items with
  | nil => exact List.not_mem_nil
  | cons v items ih =>
    obtain ⟨hv, hs⟩ := List.forall_mem_cons.1 h
    simp [writeItems, hv, ih hs]

private theorem feed_not_mem_writeMembers {members : List (Text × Json)} (h : ∀ m ∈ members, '\n' ∉ m.2.write) :
    '\n' ∉ writeMembers members := by
  induction members with
  | nil => exact List.not_mem_nil
  | cons m members ih =>
    obtain ⟨hm, hs⟩ := List.forall_mem_cons.1 h
    simp [writeMembers, hm, feed_not_mem_writeString, ih hs]

/-- The compact text of a value has no line feed. -/
theorem feed_not_mem_write {v : Json} (hf : v.FloatFree) : '\n' ∉ v.write := by
  unfold FloatFree at hf
  induction v using parts_induction with
  | null => decide
  | bool b => cases b <;> decide
  | num n =>
    cases n with
    | int n => exact feed_not_mem_intText n
    | real d => cases hf
  | str t => exact feed_not_mem_writeString t
  | arr items ih =>
    obtain ⟨-, hitems⟩ := all_arr.1 hf
    cases items with
    | nil => decide
    | cons v items =>
      obtain ⟨hv, hs⟩ := List.forall_mem_cons.1 fun w hw => ih w hw (hitems w hw)
      simp [hv, feed_not_mem_writeItems hs]
  | obj members ih =>
    obtain ⟨-, hmembers⟩ := all_obj.1 hf
    cases members with
    | nil => decide
    | cons m members =>
      obtain ⟨hm, hs⟩ := List.forall_mem_cons.1 fun w hw => ih w hw (hmembers w hw)
      simp [hm, feed_not_mem_writeString, feed_not_mem_writeMembers hs]

end Json

theorem feed_mem_of_mem_encodeUtf8 {t : Text} (h : 0x0A ∈ encodeUtf8 t) : '\n' ∈ t := by
  obtain ⟨c, hc, hn⟩ := mem_of_mem_encodeUtf8 h (by decide)
  obtain rfl : c = '\n' := Char.toNat_inj.1 hn
  exact hc

theorem Message.Sendable.feed_not_mem_body {m : Message} (h : m.Sendable) : 0x0A ∉ encodeUtf8 m.body :=
  fun hmem => Json.feed_not_mem_write h.floatFree (feed_mem_of_mem_encodeUtf8 hmem)

/-! ### A header line behind a leftover -/

/-- What has a character other than digits and the sign is no length. -/
theorem lengthOf?_eq_none {t : Text} {c : Char} (hc : c ∈ t) (hdigit : isDigit c = false) (hsign : c ≠ '+') :
    lengthOf? t = none := by
  have hall : ∀ s : Text, c ∈ s → s.all isDigit = false := by
    intro s hs
    rw [← Bool.not_eq_true, List.all_eq_true]
    intro h
    rw [h c hs] at hdigit
    cases hdigit
  unfold lengthOf?
  split
  · rename_i rest
    rcases List.mem_cons.1 hc with h | h
    · exact absurd h hsign
    · simp [hall rest h]
  · simp [hall t hc]

/-- The name of the length is known behind any other characters. -/
theorem isLengthName_append (j : Text) : isLengthName (j ++ "Content-Length".toList) = true := by
  have hlast : ∀ d ∈ "Content-Length".toList.getLast?, isBlank d = false := by
    intro d hd
    obtain rfl : 'h' = d := Option.some.inj hd
    rfl
  have htrim : trim (j ++ "Content-Length".toList) = trimStart j ++ "Content-Length".toList :=
    trim_append_of_not_blank (by decide) hlast j
  have hdrop : (trimStart j ++ "Content-Length".toList).drop ((trimStart j ++ "Content-Length".toList).length - 14) =
      "Content-Length".toList := by
    rw [List.length_append]
    exact List.drop_left
  unfold isLengthName
  simp only
  rw [htrim, hdrop]
  decide

private theorem decodeUtf8_leftover (j : Text) (n : Nat) :
    decodeUtf8 (encodeUtf8 j ++ lengthBytes n) = some (j ++ (lengthLine n ++ ['\r'])) := by
  have h : encodeUtf8 j ++ lengthBytes n = encodeUtf8 (j ++ (lengthLine n ++ ['\r'])) := by
    rw [encodeUtf8_append, encodeUtf8_append]
    rfl
  rw [h, decodeUtf8_encodeUtf8]

/-- Without a colon the leftover is a part of the name. -/
private theorem lengthValue?_leftover {j : Text} (hj : ':' ∉ j) (n : Nat) :
    lengthValue? (encodeUtf8 j ++ lengthBytes n) = some (natText n) := by
  have hline : j ++ (lengthLine n ++ ['\r']) =
      (j ++ "Content-Length".toList) ++ ':' :: (' ' :: natText n ++ ['\r']) := by
    rw [List.append_assoc]
    rfl
  have hname : ':' ∉ j ++ "Content-Length".toList := by
    rw [List.mem_append, not_or]
    exact ⟨hj, by decide⟩
  have hvalue : trim (' ' :: natText n ++ ['\r']) = natText n := by
    rw [trim_append_blank (List.forall_mem_singleton.2 rfl)]
    exact trim_natText n
  unfold lengthValue?
  rw [decodeUtf8_leftover, hline]
  simp only [cutAtChar_append hname, isLengthName_append, hvalue, if_true]

/-- With a colon the name ends in the leftover, and the value goes on to the end of the line. -/
private theorem lengthValue?_leftover_colon {j : Text} (hj : ':' ∈ j) (n : Nat) {v : Text}
    (hv : lengthValue? (encodeUtf8 j ++ lengthBytes n) = some v) : lengthOf? v = none := by
  obtain ⟨name, value, rfl, hname⟩ := List.eq_append_cons_of_mem hj
  unfold lengthValue? at hv
  rw [decodeUtf8_leftover, List.append_assoc, List.cons_append] at hv
  simp only [cutAtChar_append hname] at hv
  split at hv
  · cases hv
    -- the name of the length stands in the value
    have hname : 'C' ∈ lengthLine n := List.mem_cons_self ..
    have hmem : 'C' ∈ value ++ (lengthLine n ++ ['\r']) := List.mem_append_right _ (List.mem_append_left _ hname)
    exact lengthOf?_eq_none (mem_trim hmem (by decide)) (by decide) (by decide)
  · cases hv

private theorem isBlankLine_leftover (j : Text) (n : Nat) : isBlankLine (encodeUtf8 j ++ lengthBytes n) = false := by
  rw [← Bool.not_eq_true]
  intro h
  have hmem : (0x43 : UInt8) ∈ encodeUtf8 j ++ lengthBytes n := List.mem_append_right _ (List.mem_cons_self ..)
  have := List.all_eq_true.1 h _ hmem
  cases this

private theorem feed_not_mem_leftover {j : Text} (hj : '\n' ∉ j) (n : Nat) : 0x0A ∉ encodeUtf8 j ++ lengthBytes n := by
  rw [List.mem_append, not_or]
  exact ⟨fun h => hj (feed_mem_of_mem_encodeUtf8 h), not_mem_lengthBytes n⟩

/-- The header block of a frame behind a leftover of one line. -/
private def leftoverBlock (j : Text) (hj : '\n' ∉ j) (n : Nat) : HeaderBlock :=
  .ofLine (encodeUtf8 j ++ lengthBytes n) (feed_not_mem_leftover hj n) (isBlankLine_leftover j n)

private theorem leftover_append (j : Text) (hj : '\n' ∉ j) (body rest : Bytes) :
    encodeUtf8 j ++ frameOf body ++ rest = (leftoverBlock j hj body.length).bytes ++ (body ++ rest) := by
  rw [frameOf_eq]
  simp [HeaderBlock.bytes, leftoverBlock, HeaderBlock.ofLine, lineBytes]

/-- Behind a leftover without a colon the next message is read. -/
theorem readMessage_leftover (ending : StreamEnd) {j : Text} (hj : '\n' ∉ j) (hcolon : ':' ∉ j) {m : Message}
    (hm : m.Sendable) (rest : Bytes) : readMessage ending (encodeUtf8 j ++ m.frame ++ rest) = (.message m, rest) := by
  have hlimit : (encodeUtf8 m.body).length < limit64 := Nat.lt_of_le_of_lt hm.length (by decide)
  have hvalues : (leftoverBlock j hj (encodeUtf8 m.body).length).values = [natText (encodeUtf8 m.body).length] := by
    simp [HeaderBlock.values, leftoverBlock, HeaderBlock.ofLine, lengthValue?_leftover hcolon]
  let f : Frame :=
    { block := leftoverBlock j hj (encodeUtf8 m.body).length
      body := encodeUtf8 m.body
      readable := by simp [hvalues, lengthOf?_natText hlimit]
      announced := by simp [hvalues, lengthOf?_natText hlimit]
      pos := length_body_pos m
      max := hm.length }
  have hread := readMessage_frame ending f rest
  have hbytes : encodeUtf8 j ++ m.frame ++ rest = f.bytes ++ rest := by
    rw [Message.frame, leftover_append j hj]
    simp [f, Frame.bytes]
  rw [hbytes, hread, hm.readBody]

/-- Behind a leftover with a colon the header of the next message is refused and its body is left. -/
theorem readMessage_leftover_colon (ending : StreamEnd) {j : Text} (hj : '\n' ∉ j) (hcolon : ':' ∈ j) (m : Message)
    (rest : Bytes) :
    ∃ e : FrameError, e.isFatal = false ∧
      readMessage ending (encodeUtf8 j ++ m.frame ++ rest) = (.error e, encodeUtf8 m.body ++ rest) := by
  have hrejected : (leftoverBlock j hj (encodeUtf8 m.body).length).Rejected := by
    cases hv : lengthValue? (encodeUtf8 j ++ lengthBytes (encodeUtf8 m.body).length) with
    | none => exact .missing (by simp [HeaderBlock.values, leftoverBlock, HeaderBlock.ofLine, hv])
    | some v =>
      have hvalues : (leftoverBlock j hj (encodeUtf8 m.body).length).values = [v] := by
        simp [HeaderBlock.values, leftoverBlock, HeaderBlock.ofLine, hv]
      exact .unreadable (v := v) (by simp [hvalues]) (lengthValue?_leftover_colon hcolon _ hv)
  rw [Message.frame, leftover_append j hj]
  exact readMessage_rejected ending hrejected _

/-! ### A line that begins in front of the rest -/

/-- A header line that begins in front of the rest takes the rest's first line with it. -/
private theorem readHeaders_past_line {ending : StreamEnd} {fuel : Nat} {h h' : Headers} (hseen : h.seen = false)
    {line rest rest' : Bytes} (hline : 0x0A ∉ line)
    (e : readHeaders ending (fuel + 1) h (line ++ rest) = (.done h', rest')) : rest'.length < rest.length := by
  by_cases hmem : 0x0A ∈ rest
  · obtain ⟨more, after, rfl, hmore⟩ := List.eq_append_cons_of_mem hmem
    have hfeed : 0x0A ∉ line ++ more := by
      rw [List.mem_append, not_or]
      exact ⟨hline, hmore⟩
    obtain ⟨h'', hadd⟩ := Headers.add_of_not_seen hseen (line ++ more ++ [0x0A])
    rw [← List.append_assoc, readHeaders_line _ _ _ hfeed, hadd] at e
    have := readHeaders_length e
    simp only [List.length_append, List.length_cons]
    omega
  · -- the stream ends in the line, so there is no block
    have hfeed : 0x0A ∉ line ++ rest := by
      rw [List.mem_append, not_or]
      exact ⟨hline, hmem⟩
    cases ending with
    | eof =>
      rw [readHeaders_of_not_mem hfeed _ hseen] at e
      cases e
    | error =>
      rw [readHeaders, cutLine_of_not_mem hfeed] at e
      cases e

private theorem readMessage_past_line {ending : StreamEnd} {line rest rest' : Bytes} (hline : 0x0A ∉ line)
    {r : ReadResult} (e : readMessage ending (line ++ rest) = (r, rest')) (h : r.goesOn = true) :
    rest'.length < rest.length := by
  obtain ⟨headers, mid, hread, hrest⟩ := readHeaders_of_goesOn e h
  have hblock := readHeaders_past_line rfl hline hread
  have hbody := hrest.length_le
  omega

/-! ### Recovery -/

/-- Reading again and again gives errors that are not fatal, and then the message, which leaves the rest. -/
def Recovers (ending : StreamEnd) (bs : Bytes) (m : Message) (rest : Bytes) : Prop :=
  ∃ es : List FrameError, ReadsTo ending bs (es.map .error ++ [.message m]) rest

private theorem Recovers.tail {ending : StreamEnd} {bs mid : Bytes} {m : Message} {rest : Bytes} {e : FrameError}
    (h : Recovers ending bs m rest) (hread : readMessage ending bs = (.error e, mid)) : Recovers ending mid m rest := by
  obtain ⟨es, hes⟩ := h
  cases es with
  | nil => cases (hes.tail hread).1
  | cons e' es => exact ⟨es, (hes.tail hread).2⟩

/-- There is no recovery to the rest from a line that begins in front of it. -/
private theorem not_recovers_line {ending : StreamEnd} {line : Bytes} (hline : 0x0A ∉ line) (m : Message)
    (rest : Bytes) : ¬Recovers ending (line ++ rest) m rest := by
  rintro ⟨es, hes⟩
  obtain ⟨r, rs, hrs⟩ : ∃ r rs, es.map ReadResult.error ++ [.message m] = r :: rs := by
    cases es with
    | nil => exact ⟨_, _, rfl⟩
    | cons e es => exact ⟨_, _, rfl⟩
  rw [hrs] at hes
  cases hes with
  | cons hread hgo htail =>
    have h₁ := readMessage_past_line hline hread hgo
    have h₂ := htail.length_le
    omega

private theorem not_recovers_leftover (ending : StreamEnd) {b : HeaderBlock} (hb : b.Rejected) {j : Text}
    (hj : '\n' ∉ j) (hcolon : ':' ∈ j) {m : Message} (hm : m.Sendable) (rest : Bytes) :
    ¬Recovers ending (b.bytes ++ encodeUtf8 j ++ m.frame ++ rest) m rest := by
  intro h
  obtain ⟨e₁, -, hread₁⟩ := readMessage_rejected ending hb (encodeUtf8 j ++ m.frame ++ rest)
  obtain ⟨e₂, -, hread₂⟩ := readMessage_leftover_colon ending hj hcolon m rest
  rw [List.append_assoc, List.append_assoc, ← List.append_assoc (encodeUtf8 j)] at h
  exact not_recovers_line hm.feed_not_mem_body m rest ((h.tail hread₁).tail hread₂)

/-- After a refused header, whose body is one line of text, the next message is read and leaves what follows it,
exactly when the body has no colon. -/
theorem recovers_iff (ending : StreamEnd) (b : HeaderBlock) (hb : b.Rejected) (j : Text) (hj : '\n' ∉ j) (m : Message)
    (hm : m.Sendable) (rest : Bytes) :
    Recovers ending (b.bytes ++ encodeUtf8 j ++ m.frame ++ rest) m rest ↔ ':' ∉ j := by
  constructor
  · intro h hcolon
    exact not_recovers_leftover ending hb hj hcolon hm rest h
  · intro hcolon
    obtain ⟨e, hfatal, hread⟩ := readMessage_rejected ending hb (encodeUtf8 j ++ m.frame ++ rest)
    refine ⟨[e], ?_⟩
    rw [List.append_assoc, List.append_assoc, ← List.append_assoc (encodeUtf8 j)]
    refine .cons hread (by simp [ReadResult.goesOn, hfatal]) ?_
    exact .cons (readMessage_leftover ending hj hcolon hm rest) rfl .nil

private theorem sendable_exit : (Message.notification "exit".toList .null).Sendable :=
  ⟨⟨.obj [("method".toList, .str "exit".toList)], by rfl, by rfl⟩, by rfl, by decide, by decide⟩

/-- Behind a length that is too large and an empty object the message to exit is read. -/
theorem recovers_iff_braces :
    let b := HeaderBlock.ofLine (encodeUtf8 "Content-Length: 18446744073709551615\r".toList) (by decide) (by decide)
    let j := "\x7b\x7d".toList
    let m : Message := .notification "exit".toList .null
    b.Rejected ∧ '\n' ∉ j ∧ m.Sendable ∧ Recovers .eof (b.bytes ++ encodeUtf8 j ++ m.frame ++ [0x41]) m [0x41] := by
  intro b j m
  have hb : b.Rejected :=
    .tooLong (v := "18446744073709551615".toList) (n := 18446744073709551615) (by rfl) (by rfl) (by decide)
  have hj : '\n' ∉ j := by decide
  exact ⟨hb, hj, sendable_exit, (recovers_iff .eof b hb j hj m sendable_exit [0x41]).2 (by decide)⟩

/-- Behind a length of zero and an object with a member the message to exit is lost, though the object is one line of
JSON. -/
theorem not_recovers_member :
    let b := HeaderBlock.ofLine (encodeUtf8 "Content-Length: 0\r".toList) (by decide) (by decide)
    let j := "\x7b\"a\":1\x7d".toList
    let m : Message := .notification "exit".toList .null
    b.Rejected ∧ '\n' ∉ j ∧ (Json.read j).isSome = true ∧ m.Sendable ∧
      ¬Recovers .eof (b.bytes ++ encodeUtf8 j ++ m.frame ++ []) m [] := by
  intro b j m
  have hb : b.Rejected := .zero (v := "0".toList) (by rfl) (by rfl)
  have hj : '\n' ∉ j := by decide
  exact ⟨hb, hj, by decide +kernel, sendable_exit, not_recovers_leftover .eof hb hj (by decide) sendable_exit []⟩

end WikiSite
