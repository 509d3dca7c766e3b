import WikiSite.Proofs.Rpc.Message
import WikiSite.Proofs.Text.Cutting
import WikiSite.Proofs.Text.Utf8
import WikiSite.Rpc.Frame

/-!
# Reading written frames

A whole frame is read as its message and leaves the bytes after it (`readMessage_frameOf`). A frame that is cut short
anywhere, in its header, between the two line ends or in its body, is read as the end of the stream
(`readMessage_cut`). From these two steps it follows what repeated readings of the first bytes of a stream of
frames give: the messages whose frames are whole and then nothing but the end (`nthRead_frames`).
-/

namespace WikiSite

/-! ### Trimming -/

theorem isBlank_of_isDigit {c : Char} (h : isDigit c = true) : isBlank c = false := by
  have := toNat_of_isDigit h
  exact isBlank_of_toNat (by omega) (by omega)

theorem isDigit_of_mem_getLast?_natText {n : Nat} {c : Char} (h : c ∈ (natText n).getLast?) : isDigit c = true :=
  isDigit_of_mem_natText (List.mem_of_getLast? h)

theorem trim_natText (n : Nat) : trim (natText n) = natText n :=
  trim_eq_self fun _ hc => isBlank_of_isDigit (isDigit_of_mem_natText hc)

/-! ### The header -/

/-- The number in a header value is read back. -/
theorem lengthOf?_natText {n : Nat} (h : n < limit64) : lengthOf? (natText n) = some n := by
  have hall : (natText n).all isDigit = true := List.all_eq_true.2 fun c => isDigit_of_mem_natText
  have hempty : (natText n).isEmpty = false := by simpa using natText_ne_nil n
  have hvalue := natOfDigits_natText n
  cases e : natText n with
  | nil => exact absurd e (natText_ne_nil n)
  | cons c t =>
    rw [e] at hall hempty hvalue
    have hc : c ≠ '+' := by
      rintro rfl
      cases hall
    unfold lengthOf?
    split
    · rename_i h'
      exact absurd (List.cons.inj h').1 hc
    · simp [hall, hempty, hvalue, h]

/-- The header line of a frame without its end. -/
def lengthLine (n : Nat) : Text := "Content-Length: ".toList ++ natText n

private theorem lengthLine_cases {n : Nat} {c : Char} (h : c ∈ lengthLine n) : c.toNat < 0x80 ∧ c ≠ '\n' := by
  have hname : ("Content-Length: ".toList.all fun c => c.toNat < 0x80 && c != '\n') = true := by decide
  rcases List.mem_append.1 h with h | h
  · simpa using List.all_eq_true.1 hname c h
  · have := toNat_of_isDigit (isDigit_of_mem_natText h)
    refine ⟨by omega, ?_⟩
    rintro rfl
    exact absurd this.1 (by decide)

/-- The line says the length of the body. -/
theorem Headers.add_lengthLine {n : Nat} (h : n < limit64) :
    Headers.add ⟨none, none, false⟩ (encodeUtf8 (lengthLine n ++ ['\r', '\n'])) = some ⟨some n, none, true⟩ := by
  have hlast : ∀ c ∈ (lengthLine n).getLast?, (c == '\r' || c == '\n') = false := by
    intro c hc
    unfold lengthLine at hc
    rw [List.getLast?_append_of_ne_nil _ (natText_ne_nil n)] at hc
    have := toNat_of_isDigit (isDigit_of_mem_getLast?_natText hc)
    simp only [Bool.or_eq_false_iff, beq_eq_false_iff_ne]
    constructor <;> (rintro rfl; exact absurd this.1 (by decide))
  have hline : dropEndWhile (fun c => c == '\r' || c == '\n') (lengthLine n ++ ['\r', '\n']) = lengthLine n := by
    rw [dropEndWhile_append (by simp), dropEndWhile_eq_self hlast]
  have hcut : cutAtChar ':' (lengthLine n) = some ("Content-Length".toList, ' ' :: natText n) := rfl
  have hname : isLengthName "Content-Length".toList = true := by decide
  have htrim : trim (' ' :: natText n) = natText n := trim_natText n
  have hempty : (lengthLine n).isEmpty = false := rfl
  unfold Headers.add
  simp only [decodeUtf8_encodeUtf8, hline, hempty, hcut, hname, htrim, lengthOf?_natText h]
  rfl

/-- A line in front of all other lines does not end the header. -/
theorem Headers.add_of_not_seen {h : Headers} (hs : h.seen = false) (raw : Bytes) : ∃ h', h.add raw = some h' := by
  unfold Headers.add
  split
  · exact ⟨_, rfl⟩
  · simp only [hs]
    split
    · exact ⟨_, rfl⟩
    · split
      · exact ⟨_, rfl⟩
      · split
        · split <;> exact ⟨_, rfl⟩
        · exact ⟨_, rfl⟩

/-! ### Lines -/

theorem cutLine_append {line : Bytes} (h : 0x0A ∉ line) (rest : Bytes) :
    cutLine (line ++ 0x0A :: rest) = (line ++ [0x0A], true, rest) := by
  induction line with
  | nil => rfl
  | cons b line ih =>
    rw [List.mem_cons, not_or] at h
    rw [List.cons_append, cutLine, if_neg (by simpa using Ne.symm h.1), ih h.2]
    rfl

theorem cutLine_of_not_mem {line : Bytes} (h : 0x0A ∉ line) : cutLine line = (line, false, []) := by
  induction line with
  | nil => rfl
  | cons b line ih =>
    rw [List.mem_cons, not_or] at h
    rw [cutLine, if_neg (by simpa using Ne.symm h.1), ih h.2]

theorem readHeaders_nil (fuel : Nat) (h : Headers) : readHeaders .eof fuel h [] = (.ended, []) := by
  cases fuel <;> rfl

/-- A line that the stream ends in, in front of all other lines, is no header. -/
theorem readHeaders_of_not_mem {bs : Bytes} (hbs : 0x0A ∉ bs) (fuel : Nat) {h : Headers} (hs : h.seen = false) :
    readHeaders .eof (fuel + 1) h bs = (.ended, []) := by
  obtain ⟨h', hadd⟩ := Headers.add_of_not_seen hs bs
  rw [readHeaders, cutLine_of_not_mem hbs]
  simp only [reduceCtorEq, decide_false, Bool.and_false, Bool.false_eq_true, if_false]
  split
  · rfl
  · rw [hadd]
    exact readHeaders_nil fuel h'

/-- The bytes of the header line up to the line feed that ends it. -/
def lengthBytes (n : Nat) : Bytes := encodeUtf8 (lengthLine n) ++ [0x0D]

theorem not_mem_lengthBytes (n : Nat) : 0x0A ∉ lengthBytes n := by
  unfold lengthBytes
  have hascii : IsAscii (lengthLine n) := fun c hc => (lengthLine_cases hc).1
  rw [hascii.encodeUtf8_eq, List.mem_append, not_or]
  refine ⟨?_, by decide⟩
  intro hmem
  obtain ⟨c, hc, e⟩ := List.mem_map.1 hmem
  obtain ⟨hlt, hne⟩ := lengthLine_cases hc
  have hnat := congrArg UInt8.toNat e
  rw [UInt8.toNat_ofNat', Nat.mod_eq_of_lt (by omega)] at hnat
  exact hne (Char.toNat_inj.1 hnat)

/-- The header line of a frame is taken up. -/
theorem readHeaders_lengthBytes {n : Nat} (hn : n < limit64) (fuel : Nat) (rest : Bytes) :
    readHeaders .eof (fuel + 1) ⟨none, none, false⟩ (lengthBytes n ++ 0x0A :: rest) =
      readHeaders .eof fuel ⟨some n, none, true⟩ rest := by
  have hadd := Headers.add_lengthLine hn
  have hbytes : encodeUtf8 (lengthLine n ++ ['\r', '\n']) = lengthBytes n ++ [0x0A] := by
    rw [encodeUtf8_append]
    unfold lengthBytes
    rw [List.append_assoc]
    rfl
  rw [hbytes] at hadd
  rw [readHeaders, cutLine_append (not_mem_lengthBytes n)]
  simp only [Bool.not_true, Bool.false_and, Bool.false_eq_true, if_false, hadd]
  rw [if_neg (by simp)]

/-- The empty line ends the header. -/
theorem readHeaders_blank (n fuel : Nat) (rest : Bytes) :
    readHeaders .eof (fuel + 1) ⟨some n, none, true⟩ (0x0D :: 0x0A :: rest) = (.done ⟨some n, none, true⟩, rest) := rfl

/-- A carriage return that the stream ends in ends the header, too. -/
theorem readHeaders_return (n fuel : Nat) :
    readHeaders .eof (fuel + 1) ⟨some n, none, true⟩ [0x0D] = (.done ⟨some n, none, true⟩, []) := rfl

/-! ### Frames -/

theorem frameOf_eq (body : Bytes) :
    frameOf body = lengthBytes body.length ++ 0x0A :: 0x0D :: 0x0A :: body := by
  have hend : encodeUtf8 "\r\n\r\n".toList = [0x0D, 0x0A, 0x0D, 0x0A] := rfl
  unfold frameOf
  rw [encodeUtf8_append, hend]
  show encodeUtf8 (lengthLine body.length) ++ _ ++ body = _
  unfold lengthBytes
  simp

/-- What is read after a header with a length that is allowed. -/
theorem readMessage_of_done {bs rest : Bytes} {n : Nat} (hpos : 0 < n) (hmax : n ≤ maxContentLength)
    (h : readHeaders .eof (bs.length + 1) ⟨none, none, false⟩ bs = (.done ⟨some n, none, true⟩, rest)) :
    readMessage .eof bs = if rest.length < n then (.ended, []) else (readBody (rest.take n), rest.drop n) := by
  unfold readMessage
  rw [h]
  simp only
  rw [if_neg (by omega), if_neg (by omega)]

/-- After a whole header the body is read if it is there. -/
private theorem readMessage_header {n : Nat} (hpos : 0 < n) (hmax : n ≤ maxContentLength) (rest : Bytes) :
    readMessage .eof (lengthBytes n ++ 0x0A :: 0x0D :: 0x0A :: rest) =
      if rest.length < n then (.ended, []) else (readBody (rest.take n), rest.drop n) := by
  have hlimit : n < limit64 := Nat.lt_of_le_of_lt hmax (by decide)
  obtain ⟨fuel, hfuel⟩ : ∃ f, (lengthBytes n ++ 0x0A :: 0x0D :: 0x0A :: rest).length = f + 1 := ⟨_, by simp; rfl⟩
  have hdone := readHeaders_lengthBytes hlimit (fuel + 1) (0x0D :: 0x0A :: rest)
  rw [readHeaders_blank, ← hfuel] at hdone
  exact readMessage_of_done hpos hmax hdone

/-- A body of allowed length is read from its frame, which leaves the bytes after it. -/
theorem readMessage_frameOf {body : Bytes} (hpos : 0 < body.length) (hmax : body.length ≤ maxContentLength)
    (rest : Bytes) : readMessage .eof (frameOf body ++ rest) = (readBody body, rest) := by
  have hbs : frameOf body ++ rest = lengthBytes body.length ++ 0x0A :: 0x0D :: 0x0A :: (body ++ rest) := by
    rw [frameOf_eq, List.append_assoc]
    rfl
  rw [hbs, readMessage_header hpos hmax, if_neg (by simp), List.take_left, List.drop_left]

/-- A frame that is cut short is read as the end of the stream. -/
theorem readMessage_cut {body : Bytes} (hpos : 0 < body.length) (hmax : body.length ≤ maxContentLength)
    {bs : Bytes} (h : bs <+: frameOf body) (hlt : bs.length < (frameOf body).length) :
    readMessage .eof bs = (.ended, []) := by
  have hlimit : body.length < limit64 := Nat.lt_of_le_of_lt hmax (by decide)
  rw [frameOf_eq] at h hlt
  rcases List.prefix_or_prefix_of_prefix h (List.prefix_append _ _) with hcut | ⟨tail, rfl⟩
  · -- the cut is in the header line
    have hbs : 0x0A ∉ bs := fun hmem => not_mem_lengthBytes _ (hcut.subset hmem)
    unfold readMessage
    rw [readHeaders_of_not_mem hbs _ rfl]
  · rw [List.prefix_append_right_inj, List.prefix_cons_iff] at h
    rcases h with rfl | ⟨tail, rfl, h⟩
    · -- the cut is in front of the line feed that ends the header line
      unfold readMessage
      rw [List.append_nil, readHeaders_of_not_mem (not_mem_lengthBytes _) _ rfl]
    rw [List.prefix_cons_iff] at h
    rcases h with rfl | ⟨tail, rfl, h⟩
    · unfold readMessage
      rw [readHeaders_lengthBytes hlimit, readHeaders_nil]
    rw [List.prefix_cons_iff] at h
    rcases h with rfl | ⟨part, rfl, h⟩
    · -- the cut is inside the empty line, which then counts as whole
      obtain ⟨fuel, hfuel⟩ : ∃ f, (lengthBytes body.length ++ [0x0A, 0x0D]).length = f + 1 := ⟨_, by simp; rfl⟩
      have hdone := readHeaders_lengthBytes hlimit (fuel + 1) [0x0D]
      rw [readHeaders_return, ← hfuel] at hdone
      rw [readMessage_of_done hpos hmax hdone, if_pos (show ([] : Bytes).length < body.length from hpos)]
    · -- the cut is in the body
      have hpart : part.length < body.length := by
        simp only [List.length_append, List.length_cons] at hlt
        omega
      rw [readMessage_header hpos hmax, if_pos hpart]

/-! ### Streams of frames -/

/-- A message that can be read from a JSON value and whose frame can be read back: its value has no doubles, nests at
most 127 arrays and objects, and its body has an allowed length. -/
structure Message.Sendable (m : Message) : Prop where
  readable : ∃ v : Json, v.WellFormed ∧ Message.ofJson? v = some m
  floatFree : m.toJson.FloatFree
  nesting : m.toJson.nesting ≤ 127
  length : (encodeUtf8 m.body).length ≤ maxContentLength

/-- The body of a message is not empty. -/
theorem length_body_pos (m : Message) : 0 < (encodeUtf8 m.body).length := by
  obtain ⟨c, t, e⟩ : ∃ c t, m.body = c :: t := by
    show ∃ c t, (Json.obj m.members).write = c :: t
    cases m.members <;> exact ⟨_, _, rfl⟩
  obtain ⟨a, tail, ec, -⟩ := leadScalar_utf8EncodeChar c
  rw [e, encodeUtf8_cons, ec]
  simp

/-- The body of a message is read back. -/
theorem Message.Sendable.readBody {m : Message} (h : m.Sendable) : readBody (encodeUtf8 m.body) = .message m := by
  obtain ⟨v, hv, hm⟩ := h.readable
  have hr := Message.regular_of_ofJson? hv hm
  unfold WikiSite.readBody
  rw [decodeUtf8_encodeUtf8]
  simp only [hr.read_body h.floatFree (Nat.lt_succ_of_le h.nesting), hr.ofJson?_sorted_toJson]

/-- The messages whose frames lie entirely in the first bytes of all frames. -/
def Message.within : Nat → List Message → List Message
  | _, [] => []
  | n, m :: ms => if m.frame.length ≤ n then m :: within (n - m.frame.length) ms else []

/-- What the reading with the given number gives, counted from zero, when a stream is read again and again. -/
def nthRead (ending : StreamEnd) : Nat → Bytes → ReadResult
  | 0, bs => (readMessage ending bs).1
  | k + 1, bs => nthRead ending k (readMessage ending bs).2

/-- A message is read from its frame, which leaves the bytes after it. -/
theorem Message.Sendable.readMessage_frame {m : Message} (h : m.Sendable) (rest : Bytes) :
    readMessage .eof (m.frame ++ rest) = (.message m, rest) := by
  have hread := readMessage_frameOf (length_body_pos m) h.length rest
  rwa [h.readBody] at hread

/-- The first reading of the first bytes of a stream of frames gives a whole message or the end. -/
theorem readMessage_frames {m : Message} (h : m.Sendable) {frames bs : Bytes} (hbs : bs <+: m.frame ++ frames) :
    (∃ rest, bs = m.frame ++ rest ∧ rest <+: frames ∧ readMessage .eof bs = (.message m, rest)) ∨
    (bs.length < m.frame.length ∧ readMessage .eof bs = (.ended, [])) := by
  by_cases hlt : bs.length < m.frame.length
  · have hcut : bs <+: m.frame := List.prefix_of_prefix_length_le hbs (List.prefix_append ..) (Nat.le_of_lt hlt)
    exact .inr ⟨hlt, readMessage_cut (length_body_pos m) h.length hcut hlt⟩
  · have hall : m.frame <+: bs := List.prefix_of_prefix_length_le (List.prefix_append ..) hbs (Nat.le_of_not_lt hlt)
    obtain ⟨rest, rfl⟩ := hall
    rw [List.prefix_append_right_inj] at hbs
    exact .inl ⟨rest, rfl, hbs, h.readMessage_frame rest⟩

/-- Past the end every reading gives the end. -/
theorem nthRead_nil (k : Nat) : nthRead .eof k [] = .ended := by
  induction k with
  | zero => rfl
  | succ k ih => exact ih

/-- Behind a whole frame the other messages are counted from its end. -/
private theorem within_cons (m : Message) (ms : List Message) (rest : Bytes) :
    Message.within (m.frame ++ rest).length (m :: ms) = m :: Message.within rest.length ms := by
  rw [Message.within, List.length_append, if_pos (by omega), Nat.add_sub_cancel_left]

private theorem within_of_lt {m : Message} {n : Nat} (h : n < m.frame.length) (ms : List Message) :
    Message.within n (m :: ms) = [] := by
  rw [Message.within, if_neg (by omega)]

/-- The reading with a given number gives the whole frame with this number, or else the end. -/
private theorem nthRead_cut {ms : List Message} (h : ∀ m ∈ ms, m.Sendable) {bs : Bytes}
    (hbs : bs <+: ms.flatMap Message.frame) (k : Nat) :
    nthRead .eof k bs = match (Message.within bs.length ms)[k]? with | some m => .message m | none => .ended := by
  -- what is left after a message are the first bytes of the other frames
  induction ms generalizing bs k with
  | nil =>
    rw [List.flatMap_nil, List.prefix_nil] at hbs
    subst hbs
    exact nthRead_nil k
  | cons m ms ih =>
    rw [List.flatMap_cons] at hbs
    rcases readMessage_frames (h m (List.mem_cons_self ..)) hbs with ⟨rest, rfl, hrest, hread⟩ | ⟨hlt, hread⟩
    · rw [within_cons]
      cases k with
      | zero => rw [nthRead, hread]; rfl
      | succ k =>
        rw [nthRead, hread, List.getElem?_cons_succ]
        exact ih (fun n hn => h n (List.mem_cons_of_mem _ hn)) hrest k
    · rw [within_of_lt hlt]
      cases k with
      | zero => rw [nthRead, hread]; rfl
      | succ k =>
        rw [nthRead, hread]
        exact nthRead_nil k

/-- Reading up to the end gives the whole frames and no error. -/
private theorem readAll_cut {ms : List Message} (h : ∀ m ∈ ms, m.Sendable) {bs : Bytes}
    (hbs : bs <+: ms.flatMap Message.frame) {fuel : Nat} (hfuel : bs.length < fuel) :
    readAll .eof fuel bs = (Message.within bs.length ms).map .ok := by
  induction ms generalizing bs fuel with
  | nil =>
    rw [List.flatMap_nil, List.prefix_nil] at hbs
    subst hbs
    cases fuel <;> rfl
  | cons m ms ih =>
    obtain ⟨fuel, rfl⟩ : ∃ f, fuel = f + 1 := ⟨fuel - 1, by omega⟩
    rw [List.flatMap_cons] at hbs
    rcases readMessage_frames (h m (List.mem_cons_self ..)) hbs with ⟨rest, rfl, hrest, hread⟩ | ⟨hlt, hread⟩
    · have hpos : 0 < m.frame.length := by
        show 0 < (frameOf _).length
        rw [frameOf_eq, List.length_append, List.length_cons]
        omega
      rw [List.length_append] at hfuel
      have htail : readAll .eof fuel rest = _ := ih (fun n hn => h n (List.mem_cons_of_mem _ hn)) hrest (by omega)
      rw [within_cons, readAll, hread, List.map_cons, ← htail]
    · rw [within_of_lt hlt, readAll, hread]
      rfl

/-- Repeated readings of the first bytes of a stream of frames give, in order and unchanged, the messages whose frames
lie entirely in these bytes, and then the end: no error and no part of a message. -/
theorem nthRead_frames (ms : List Message) (h : ∀ m ∈ ms, m.Sendable) (bs : Bytes)
    (hbs : bs <+: ms.flatMap Message.frame) :
    (∀ k, nthRead .eof k bs =
      match (Message.within bs.length ms)[k]? with | some m => .message m | none => .ended) ∧
    readStream .eof bs = (Message.within bs.length ms).map .ok :=
  ⟨nthRead_cut h hbs, readAll_cut h hbs (Nat.lt_succ_self _)⟩

/-- A request is read and the failed response after it, cut in its body, is the end. -/
theorem nthRead_frames_two :
    let params : Json := .obj [("at".toList, .arr [.int (-3), .null]), ("text".toList, .str "é\n\"".toList)]
    let request : Message := .request (.number 7) "hover".toList params
    let response : Message := .failure (.text "a".toList) ⟨.methodNotFound, "no".toList, some (.bool true)⟩
    let bs := ([request, response].flatMap Message.frame).take 150
    (∀ m ∈ [request, response], m.Sendable) ∧ bs <+: [request, response].flatMap Message.frame ∧
      nthRead .eof 0 bs = .message request ∧ nthRead .eof 1 bs = .ended ∧ readStream .eof bs = [.ok request] := by
  intro params request response bs
  have hrequest : request.Sendable :=
    ⟨⟨.obj [("id".toList, .int 7), ("method".toList, .str "hover".toList), ("params".toList, params)],
      by rfl, by rfl⟩, by rfl, by decide, by decide⟩
  have hresponse : response.Sendable :=
    ⟨⟨.obj [("error".toList, .arr [.int (-32601), .str "no".toList, .bool true]), ("id".toList, .str "a".toList)],
      by rfl, by rfl⟩, by rfl, by decide, by decide⟩
  have h : ∀ m ∈ [request, response], m.Sendable := by
    intro m hm
    simp only [List.mem_cons, List.not_mem_nil, or_false] at hm
    rcases hm with rfl | rfl
    · exact hrequest
    · exact hresponse
  have hbs : bs <+: [request, response].flatMap Message.frame := List.take_prefix ..
  have hwithin : Message.within bs.length [request, response] = [request] := by
    have hl : request.frame.length = 105 := by decide +kernel
    have hr : response.frame.length = 99 := by decide +kernel
    have hn : bs.length = 150 := by simp [bs, hl, hr]
    rw [Message.within, hn, hl, if_pos (by decide), within_of_lt (by rw [hr]; decide)]
  obtain ⟨hk, hs⟩ := nthRead_frames [request, response] h bs hbs
  rw [hwithin] at hk hs
  exact ⟨h, hbs, hk 0, hk 1, hs⟩

end WikiSite
