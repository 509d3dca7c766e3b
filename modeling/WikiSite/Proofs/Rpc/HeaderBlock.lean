import WikiSite.Proofs.Rpc.Frame
import WikiSite.Proofs.Rpc.Stream

/-!
# Header blocks

A header block is a sequence of lines that are not blank, with a blank line that ends it and any number of blank lines
in front of it. The lines may come in any order, be no text at all, and end with or without a carriage return. What
counts of such a block are the values of the lines named for the length (`HeaderBlock.values`): the reader stops right
after the block and knows them (`readHeaders_block`).

From this it follows what is read after a block. With a length that is allowed exactly as many bytes are taken, and
what they hold, be it no text, no JSON, no message or something that looks like a header, has no part in it
(`readMessage_frame`). A block without such a length is an error that costs the block and nothing else
(`readMessage_rejected`).
-/

namespace WikiSite

/-! ### Lines -/

/-- The bytes of lines, each with the line feed that ends it. -/
def lineBytes (ls : List Bytes) : Bytes := ls.flatMap fun l => l ++ [0x0A]

/-- Whether a line is blank: there is nothing but carriage returns in front of the line feed. -/
def isBlankLine (l : Bytes) : Bool := l.all (· == 0x0D)

/-- The value of a line whose name, the text in front of the first colon, is that of the length. -/
def lengthValue? (l : Bytes) : Option Text :=
  match decodeUtf8 l with
  | none => none
  | some text =>
    match cutAtChar ':' text with
    | none => none
    | some (name, value) => if isLengthName name then some (trim value) else none

/-- What is known after a line that is not blank. -/
def Headers.withLine (h : Headers) (l : Bytes) : Headers :=
  match lengthValue? l with
  | none => { h with seen := true }
  | some v =>
    match lengthOf? v with
    | some n => { h with length := some n, seen := true }
    | none => { h with invalid := some v, seen := true }

private theorem isBlank_of_isLineEnd (c : Char) (h : (c == '\r' || c == '\n') = true) : isBlank c = true := by
  rw [Bool.or_eq_true, beq_iff_eq, beq_iff_eq] at h
  rcases h with rfl | rfl <;> rfl

private theorem decodeUtf8_of_blank {l : Bytes} (h : isBlankLine l = true) :
    decodeUtf8 l = some (List.replicate l.length '\r') := by
  have hl : l = encodeUtf8 (List.replicate l.length '\r') := by
    have hascii : IsAscii (List.replicate l.length '\r') := by
      intro c hc
      rw [(List.mem_replicate.1 hc).2]
      decide
    rw [hascii.encodeUtf8_eq, List.map_replicate]
    refine List.eq_replicate_iff.2 ⟨rfl, ?_⟩
    intro b hb
    exact eq_of_beq (List.all_eq_true.1 h b hb)
  have hread := decodeUtf8_encodeUtf8 (List.replicate l.length '\r')
  rwa [← hl] at hread

private theorem isBlankLine_of_decodeUtf8 {l : Bytes} (hl : 0x0A ∉ l) {text : Text} (h : decodeUtf8 l = some text)
    (hends : ∀ c ∈ text, (c == '\r' || c == '\n') = true) : isBlankLine l = true := by
  have hends' : ∀ c ∈ text, c = '\r' ∨ c = '\n' := by simpa using hends
  have hascii : IsAscii text := by
    intro c hc
    rcases hends' c hc with rfl | rfl <;> decide
  have hbytes := eq_of_decodeUtf8_ascii h hascii
  refine List.all_eq_true.2 ?_
  intro b hb
  rw [hbytes] at hb hl
  obtain ⟨c, hc, rfl⟩ := List.mem_map.1 hb
  rcases hends' c hc with rfl | rfl
  · rfl
  · exact absurd hb hl

/-- A blank line ends a block, and in front of a block it is passed over. -/
theorem Headers.add_of_blank (h : Headers) {l : Bytes} (hl : isBlankLine l = true) :
    h.add (l ++ [0x0A]) = if h.seen then none else some h := by
  have hline : dropEndWhile (fun c => c == '\r' || c == '\n') (List.replicate l.length '\r' ++ ['\n']) = [] := by
    refine dropEndWhile_eq_nil_iff.2 ?_
    intro c hc
    rcases List.mem_append.1 hc with hc | hc
    · rw [(List.mem_replicate.1 hc).2]
      rfl
    · rw [List.mem_singleton.1 hc]
      rfl
  unfold Headers.add
  simp only [decodeUtf8_append_feed, decodeUtf8_of_blank hl, Option.map_some, hline, List.isEmpty_nil, if_true]

/-- Every other line is taken up. -/
theorem Headers.add_of_full (h : Headers) {l : Bytes} (hl : 0x0A ∉ l) (hfull : isBlankLine l = false) :
    h.add (l ++ [0x0A]) = some (h.withLine l) := by
  unfold Headers.add Headers.withLine lengthValue?
  rw [decodeUtf8_append_feed]
  cases htext : decodeUtf8 l with
  | none => rfl
  | some text =>
    have hfeed : dropEndWhile (fun c => c == '\r' || c == '\n') (text ++ ['\n']) =
        dropEndWhile (fun c => c == '\r' || c == '\n') text :=
      dropEndWhile_append (List.forall_mem_singleton.2 rfl) text
    have hline : (dropEndWhile (fun c => c == '\r' || c == '\n') text).isEmpty = false := by
      rw [← Bool.not_eq_true, List.isEmpty_iff, dropEndWhile_eq_nil_iff]
      intro hends
      rw [isBlankLine_of_decodeUtf8 hl htext hends] at hfull
      cases hfull
    have hcut := cutAtChar_dropEndWhile (p := fun c => c == '\r' || c == '\n') (c := ':') (by decide) text
    simp only [Option.map_some, hfeed, hline, hcut, Bool.false_eq_true, if_false]
    cases cutAtChar ':' text with
    | none => rfl
    | some cut =>
      -- the line ends stand behind the colon, where trimming takes them away anyhow
      obtain ⟨name, value⟩ := cut
      simp only [Option.map_some, Prod.map_apply, id, trim_dropEndWhile isBlank_of_isLineEnd]
      by_cases hlength : isLengthName name = true
      · simp only [hlength, if_true]
        cases lengthOf? (trim value) <;> rfl
      · simp only [hlength]
        rfl

/-! ### Blocks -/

/-- A header block. Its lines are given without the line feeds that end them. -/
structure HeaderBlock where
  /-- Blank lines in front of the block. -/
  strays : List Bytes
  lines : List Bytes
  /-- The blank line that ends the block. -/
  last : Bytes
  strays_blank : ∀ l ∈ strays, isBlankLine l = true
  lines_feed : ∀ l ∈ lines, 0x0A ∉ l
  lines_full : ∀ l ∈ lines, isBlankLine l = false
  lines_ne_nil : lines ≠ []
  last_blank : isBlankLine last = true

namespace HeaderBlock

/-- The block of one line that ends with a carriage return and a line feed, like the blank line after it. -/
def ofLine (l : Bytes) (hfeed : 0x0A ∉ l) (hfull : isBlankLine l = false) : HeaderBlock where
  strays := []
  lines := [l]
  last := [0x0D]
  strays_blank := by simp
  lines_feed := by simpa using hfeed
  lines_full := by simpa using hfull
  lines_ne_nil := by simp
  last_blank := rfl

def bytes (b : HeaderBlock) : Bytes := lineBytes (b.strays ++ b.lines ++ [b.last])

/-- The values of the lines that are named for the length. -/
def values (b : HeaderBlock) : List Text := b.lines.filterMap lengthValue?

/-- What is known after a block: the last value that is a length and the last one that is none. -/
def headers (b : HeaderBlock) : Headers :=
  ⟨(b.values.filterMap lengthOf?).getLast?, (b.values.filter fun v => (lengthOf? v).isNone).getLast?, true⟩

end HeaderBlock

/-- Lines that are not blank add up to the last length and the last value that is none. -/
private theorem foldl_withLine (ls : List Bytes) (h : Headers) :
    ls.foldl Headers.withLine h =
      ⟨((ls.filterMap lengthValue?).filterMap lengthOf?).getLast?.or h.length,
        ((ls.filterMap lengthValue?).filter fun v => (lengthOf? v).isNone).getLast?.or h.invalid,
        h.seen || !ls.isEmpty⟩ := by
  induction ls generalizing h with
  | nil => simp
  | cons l ls ih =>
    rw [List.foldl_cons, ih]
    unfold Headers.withLine
    cases hv : lengthValue? l with
    | none => simp [hv]
    | some v =>
      cases hn : lengthOf? v with
      | some n => simp [hv, hn, getLast?_cons_or]
      | none => simp [hv, hn, getLast?_cons_or]

theorem blank_has_no_feed {l : Bytes} (h : isBlankLine l = true) : 0x0A ∉ l := by
  intro hmem
  have := List.all_eq_true.1 h _ hmem
  cases this

theorem lineBytes_cons (l : Bytes) (ls : List Bytes) (rest : Bytes) :
    lineBytes (l :: ls) ++ rest = l ++ 0x0A :: (lineBytes ls ++ rest) := by
  simp [lineBytes]

theorem length_le_lineBytes (ls : List Bytes) : ls.length ≤ (lineBytes ls).length := by
  induction ls with
  | nil => simp
  | cons l ls ih =>
    have := lineBytes_cons l ls []
    simp only [List.append_nil] at this
    rw [this]
    simp only [List.length_append, List.length_cons]
    omega

/-- A line is taken up and reading goes on behind it, or it ends the block. -/
theorem readHeaders_line (ending : StreamEnd) (fuel : Nat) (h : Headers) {l : Bytes} (hl : 0x0A ∉ l) (rest : Bytes) :
    readHeaders ending (fuel + 1) h (l ++ 0x0A :: rest) =
      match h.add (l ++ [0x0A]) with
      | none => (.done h, rest)
      | some h' => readHeaders ending fuel h' rest := by
  rw [readHeaders, cutLine_append hl]
  simp only [Bool.not_true, Bool.false_and, Bool.false_eq_true, if_false]
  refine (if_neg (by simp)).trans ?_
  cases h.add (l ++ [0x0A]) <;> rfl

private theorem readHeaders_strays (ending : StreamEnd) {ls : List Bytes} (hls : ∀ l ∈ ls, isBlankLine l = true)
    {h : Headers} (hseen : h.seen = false) (fuel : Nat) (rest : Bytes) :
    readHeaders ending (ls.length + fuel) h (lineBytes ls ++ rest) = readHeaders ending fuel h rest := by
  induction ls with
  | nil => simp [lineBytes]
  | cons l ls ih =>
    obtain ⟨hblank, hrest⟩ := List.forall_mem_cons.1 hls
    rw [List.length_cons, Nat.succ_add, lineBytes_cons, readHeaders_line _ _ _ (blank_has_no_feed hblank),
      h.add_of_blank hblank, hseen]
    exact ih hrest

private theorem readHeaders_lines (ending : StreamEnd) {ls : List Bytes} (hfeed : ∀ l ∈ ls, 0x0A ∉ l)
    (hfull : ∀ l ∈ ls, isBlankLine l = false) (h : Headers) (fuel : Nat) (rest : Bytes) :
    readHeaders ending (ls.length + fuel) h (lineBytes ls ++ rest) =
      readHeaders ending fuel (ls.foldl Headers.withLine h) rest := by
  induction ls generalizing h with
  | nil => simp [lineBytes]
  | cons l ls ih =>
    obtain ⟨hfeed', hfeeds⟩ := List.forall_mem_cons.1 hfeed
    obtain ⟨hfull', hfulls⟩ := List.forall_mem_cons.1 hfull
    rw [List.length_cons, Nat.succ_add, lineBytes_cons, readHeaders_line _ _ _ hfeed', h.add_of_full hfeed' hfull']
    exact ih hfeeds hfulls (h.withLine l)

/-- A block is read as a whole, and what comes after it is left. -/
theorem readHeaders_block (ending : StreamEnd) (b : HeaderBlock) (rest : Bytes) :
    readHeaders ending ((b.bytes ++ rest).length + 1) ⟨none, none, false⟩ (b.bytes ++ rest) =
      (.done b.headers, rest) := by
  have hlast : b.lines.foldl Headers.withLine ⟨none, none, false⟩ = b.headers := by
    rw [foldl_withLine]
    simp [HeaderBlock.headers, HeaderBlock.values, b.lines_ne_nil]
  have hbytes : b.bytes ++ rest = lineBytes b.strays ++ (lineBytes b.lines ++ (b.last ++ 0x0A :: rest)) := by
    simp [HeaderBlock.bytes, lineBytes]
  -- every line has a byte, so the fuel lasts
  obtain ⟨fuel, hfuel⟩ : ∃ fuel, (b.bytes ++ rest).length + 1 = b.strays.length + (b.lines.length + (fuel + 1)) := by
    have h₁ := length_le_lineBytes b.strays
    have h₂ := length_le_lineBytes b.lines
    refine ⟨(b.bytes ++ rest).length - b.strays.length - b.lines.length, ?_⟩
    rw [hbytes]
    simp only [List.length_append, List.length_cons]
    omega
  rw [hfuel, hbytes, readHeaders_strays ending b.strays_blank rfl, readHeaders_lines ending b.lines_feed b.lines_full,
    hlast, readHeaders_line _ _ _ (blank_has_no_feed b.last_blank), Headers.add_of_blank _ b.last_blank]
  rfl

/-! ### Frames -/

/-- A frame: a block whose values all are lengths, the last of them that of the body, which is allowed. -/
structure Frame where
  block : HeaderBlock
  body : Bytes
  readable : ∀ v ∈ block.values, (lengthOf? v).isSome = true
  announced : block.values.getLast?.bind lengthOf? = some body.length
  pos : 1 ≤ body.length
  max : body.length ≤ maxContentLength

def Frame.bytes (f : Frame) : Bytes := f.block.bytes ++ f.body

private theorem getLast?_filterMap_lengthOf? {vs : List Text} {v : Text} {n : Nat} (hv : vs.getLast? = some v)
    (hn : lengthOf? v = some n) : (vs.filterMap lengthOf?).getLast? = some n := by
  obtain ⟨us, rfl⟩ := List.getLast?_eq_some_iff.1 hv
  simp [hn]

theorem Frame.headers_eq (f : Frame) : f.block.headers = ⟨some f.body.length, none, true⟩ := by
  obtain ⟨v, hv, hn⟩ := Option.bind_eq_some_iff.1 f.announced
  have hinvalid : (f.block.values.filter fun v => (lengthOf? v).isNone) = [] := by
    refine List.filter_eq_nil_iff.2 ?_
    intro w hw
    have := f.readable w hw
    cases hl : lengthOf? w with
    | none => rw [hl] at this; cases this
    | some n => simp
  unfold HeaderBlock.headers
  rw [getLast?_filterMap_lengthOf? hv hn, hinvalid]
  rfl

/-- The body of a frame is read as it is by itself, and what comes after the frame is left. -/
theorem readMessage_frame (ending : StreamEnd) (f : Frame) (rest : Bytes) :
    readMessage ending (f.bytes ++ rest) = (readBody f.body, rest) := by
  have hpos := f.pos
  have hmax := f.max
  unfold readMessage Frame.bytes
  rw [List.append_assoc, readHeaders_block, f.headers_eq]
  simp only
  rw [if_neg (by omega), if_neg (by omega), if_neg (by simp), List.take_left, List.drop_left]

/-- The results that a body can lead to: a message, or an error that costs one message. -/
inductive ReadResult.OfBody : ReadResult → Prop where
  | message (m : Message) : OfBody (.message m)
  | invalidUtf8 : OfBody (.error .invalidUtf8)
  | parse : OfBody (.error .parse)
  | invalidMessage : OfBody (.error .invalidMessage)

theorem readBody_ofBody (body : Bytes) : (readBody body).OfBody := by
  unfold readBody
  split
  · exact .invalidUtf8
  · split
    · exact .parse
    · split
      · exact .message _
      · exact .invalidMessage

theorem ReadResult.OfBody.goesOn {r : ReadResult} (h : r.OfBody) : r.goesOn = true := by
  cases h <;> rfl

private theorem readsTo_flatMap_bytes (ending : StreamEnd) (fs : List Frame) (rest : Bytes) :
    ReadsTo ending (fs.flatMap Frame.bytes ++ rest) (fs.map fun f => readBody f.body) rest := by
  induction fs with
  | nil => exact .nil
  | cons f fs ih =>
    rw [List.flatMap_cons, List.append_assoc]
    exact .cons (readMessage_frame ending f _) (readBody_ofBody f.body).goesOn ih

/-- A frame is taken as a whole and nothing after it: the result is that of its body alone, and what follows is left.
So no body, whatever it holds, moves the frames behind it. -/
theorem frames_read_exactly (ending : StreamEnd) (rest : Bytes) :
    (∀ f : Frame, readMessage ending (f.bytes ++ rest) = (readBody f.body, rest) ∧ (readBody f.body).OfBody) ∧
    ∀ fs : List Frame, ReadsTo ending (fs.flatMap Frame.bytes ++ rest) (fs.map fun f => readBody f.body) rest :=
  ⟨fun f => ⟨readMessage_frame ending f rest, readBody_ofBody f.body⟩, fun fs => readsTo_flatMap_bytes ending fs rest⟩

/-- Blank lines in front, a line that is no text, two lengths, one behind other characters and in other letters, and a
body that is no text and has a line feed in it. -/
theorem frames_read_exactly_mixed :
    let header := encodeUtf8 "\r\n\n".toList ++ [0xFF, 0x3A, 0x0A] ++
      encodeUtf8 "Content-Length: 9\nnone\n\x7dcontent-LENGTH:+4 \r\n\r\n".toList
    let body : Bytes := [0x3A, 0xFF, 0x0A, 0x7B]
    let rest := encodeUtf8 "Content-Length".toList
    readMessage .eof (header ++ body ++ rest) = (.error .invalidUtf8, rest) := by
  intro header body rest
  let block : HeaderBlock :=
    { strays := [[0x0D], []]
      lines := [[0xFF, 0x3A], encodeUtf8 "Content-Length: 9".toList, encodeUtf8 "none".toList,
        encodeUtf8 "\x7dcontent-LENGTH:+4 \r".toList]
      last := [0x0D]
      strays_blank := by decide
      lines_feed := by decide
      lines_full := by decide
      lines_ne_nil := by decide
      last_blank := by decide }
  let f : Frame :=
    { block := block, body := body, readable := by decide, announced := by rfl, pos := by decide, max := by decide }
  exact ((frames_read_exactly .eof rest).1 f).1

/-! ### Blocks without an allowed length -/

/-- A block that is refused: no length is given, some value is no number, or the last number is zero or too large. -/
inductive HeaderBlock.Rejected (b : HeaderBlock) : Prop where
  | missing : b.values = [] → b.Rejected
  | unreadable {v : Text} : v ∈ b.values → lengthOf? v = none → b.Rejected
  | zero {v : Text} : b.values.getLast? = some v → lengthOf? v = some 0 → b.Rejected
  | tooLong {v : Text} {n : Nat} :
      b.values.getLast? = some v → lengthOf? v = some n → maxContentLength < n → b.Rejected

private theorem HeaderBlock.Rejected.headers {b : HeaderBlock} (h : b.Rejected) :
    (∃ v, b.headers.invalid = some v) ∨ b.headers.length = none ∨
      ∃ n, b.headers.length = some n ∧ (n = 0 ∨ maxContentLength < n) := by
  cases h with
  | missing h => exact .inr (.inl (by simp [HeaderBlock.headers, h]))
  | @unreadable v hv hn =>
    have hmem : v ∈ b.values.filter fun v => (lengthOf? v).isNone := List.mem_filter.2 ⟨hv, by rw [hn]; rfl⟩
    exact .inl (Option.isSome_iff_exists.1 (List.getLast?_isSome.2 (List.ne_nil_of_mem hmem)))
  | zero hv hn => exact .inr (.inr ⟨0, getLast?_filterMap_lengthOf? hv hn, .inl rfl⟩)
  | @tooLong v n hv hn hlt => exact .inr (.inr ⟨n, getLast?_filterMap_lengthOf? hv hn, .inr hlt⟩)

/-- A block that is refused is an error that is not fatal, and everything after the block is left. -/
theorem readMessage_rejected (ending : StreamEnd) {b : HeaderBlock} (h : b.Rejected) (rest : Bytes) :
    ∃ e : FrameError, e.isFatal = false ∧ readMessage ending (b.bytes ++ rest) = (.error e, rest) := by
  unfold readMessage
  rw [readHeaders_block]
  simp only
  cases hinvalid : b.headers.invalid with
  | some v => exact ⟨_, rfl, rfl⟩
  | none =>
    rcases h.headers with ⟨v, hv⟩ | hnone | ⟨n, hn, h0 | hlt⟩
    · rw [hv] at hinvalid
      cases hinvalid
    · rw [hnone]
      exact ⟨_, rfl, rfl⟩
    · rw [hn]
      simp only [h0, if_true]
      exact ⟨_, rfl, rfl⟩
    · rw [hn]
      simp only
      rw [if_neg (by omega), if_pos hlt]
      exact ⟨_, rfl, rfl⟩

end WikiSite
