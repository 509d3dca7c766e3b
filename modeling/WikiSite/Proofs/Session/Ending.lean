import WikiSite.Proofs.Rpc.Stream
import WikiSite.Session.Serve

/-!
# The end of reading

Two loops read a stream: one over the lines of a header block, and one over messages, which an error that costs one
message sends back to reading. Neither is bounded by anything but the bytes. The loop over lines is given by its rules
(`HeaderLoop`), and the reader runs it to its own end (`readHeaders_eq_iff`): every turn takes a line, and a line has a
byte. So a reading after which reading goes on takes the first bytes of the stream, at least one of them
(`readMessage_takes`), and by induction on the length of the stream there is a last reading (`ReadsTo.exists_last`).
-/

namespace WikiSite

/-! ### Header lines -/

/-- The loop over header lines, with one rule for each way out and one for going on. A line that the stream breaks off
is read as it is at the end of the stream, and not at all where the stream fails. -/
inductive HeaderLoop (ending : StreamEnd) : Headers → Bytes → HeaderResult → Bytes → Prop where
  | broken {h : Headers} {bs : Bytes} (hline : (cutLine bs).2.1 = false) (hend : ending = .error) :
      HeaderLoop ending h bs .broken []
  | ended {h : Headers} (hend : ending = .eof) : HeaderLoop ending h [] .ended []
  | done {h : Headers} {bs line rest : Bytes} {found : Bool} (hline : cutLine bs = (line, found, rest))
      (hread : found = true ∨ ending = .eof) (hne : line ≠ []) (hadd : h.add line = none) :
      HeaderLoop ending h bs (.done h) rest
  | next {h h' : Headers} {bs line mid rest : Bytes} {found : Bool} {r : HeaderResult}
      (hline : cutLine bs = (line, found, mid)) (hread : found = true ∨ ending = .eof) (hne : line ≠ [])
      (hadd : h.add line = some h') (hloop : HeaderLoop ending h' mid r rest) : HeaderLoop ending h bs r rest

section

variable {ending : StreamEnd} {h h' : Headers} {bs rest : Bytes} {r : HeaderResult}

theorem length_lt_of_cutLine {line mid : Bytes} {found : Bool} (hline : cutLine bs = (line, found, mid))
    (hne : line ≠ []) : mid.length < bs.length := by
  have hlength := cutLine_length bs
  rw [hline] at hlength
  have hpos := List.length_pos_iff.2 hne
  simp only at hlength
  omega

/-- The loop comes to an end, and to the one that the reader finds. -/
theorem headerLoop_readHeaders {fuel : Nat} (hfuel : bs.length < fuel) :
    HeaderLoop ending h bs (readHeaders ending fuel h bs).1 (readHeaders ending fuel h bs).2 := by
  induction fuel generalizing h bs with
  | zero => omega
  | succ fuel ih =>
    rcases hline : cutLine bs with ⟨line, found, mid⟩
    simp only [readHeaders, hline]
    split
    · rename_i hbroken
      simp only [Bool.and_eq_true, Bool.not_eq_true', decide_eq_true_eq] at hbroken
      exact .broken (by rw [hline]; exact hbroken.1) hbroken.2
    · rename_i hread
      have hread : found = true ∨ ending = .eof := by
        cases found <;> cases ending <;> simp at hread ⊢
      split
      · -- nothing is left, and the stream does not fail
        rename_i hempty
        rw [List.isEmpty_iff] at hempty
        have hnil : bs = [] ∧ found = false := by
          cases bs with
          | nil =>
            cases hline
            exact ⟨rfl, rfl⟩
          | cons b bs =>
            rw [cutLine] at hline
            split at hline <;> cases hline <;> cases hempty
        rw [hnil.1]
        exact .ended (hread.resolve_left (by simp [hnil.2]))
      · rename_i hne
        rw [List.isEmpty_iff] at hne
        cases hadd : h.add line with
        | none => exact .done hline hread hne hadd
        | some h' =>
          have hlength := length_lt_of_cutLine hline hne
          exact .next hline hread hne hadd (ih (by omega))

/-- Whatever bound the reader is given beyond the number of bytes, it follows the loop. -/
theorem HeaderLoop.readHeaders_eq (hloop : HeaderLoop ending h bs r rest) {fuel : Nat} (hfuel : bs.length < fuel) :
    readHeaders ending fuel h bs = (r, rest) := by
  induction hloop generalizing fuel with
  | broken hline hend =>
    obtain ⟨fuel, rfl⟩ : ∃ k, fuel = k + 1 := ⟨fuel - 1, by omega⟩
    simp [readHeaders, hline, hend]
  | ended hend =>
    obtain ⟨fuel, rfl⟩ : ∃ k, fuel = k + 1 := ⟨fuel - 1, by omega⟩
    simp [readHeaders, cutLine, hend]
  | done hline hread hne hadd =>
    obtain ⟨fuel, rfl⟩ : ∃ k, fuel = k + 1 := ⟨fuel - 1, by omega⟩
    rcases hread with rfl | rfl <;> simp [readHeaders, hline, hne, hadd]
  | next hline hread hne hadd hloop ih =>
    obtain ⟨fuel, rfl⟩ : ∃ k, fuel = k + 1 := ⟨fuel - 1, by omega⟩
    have hlength := length_lt_of_cutLine hline hne
    have hrest := @ih fuel (by omega)
    rcases hread with rfl | rfl <;> simp [readHeaders, hline, hne, hadd, hrest]

theorem readHeaders_eq_iff :
    readHeaders ending (bs.length + 1) h bs = (r, rest) ↔ HeaderLoop ending h bs r rest := by
  constructor
  · intro hread
    have hloop : HeaderLoop ending h bs _ _ := headerLoop_readHeaders (Nat.lt_succ_self bs.length)
    rwa [hread] at hloop
  · exact fun hloop => hloop.readHeaders_eq (Nat.lt_succ_self _)

theorem HeaderLoop.exists_taken (hloop : HeaderLoop ending h bs r rest) (hr : r = .done h') :
    ∃ taken, taken ≠ [] ∧ bs = taken ++ rest := by
  induction hloop with
  | broken => cases hr
  | ended => cases hr
  | @done _ bs line rest _ hline _ hne _ =>
    have hparts := cutLine_append_eq bs
    rw [hline] at hparts
    exact ⟨line, hne, hparts.symm⟩
  | @next _ _ bs line mid rest _ _ hline _ hne _ _ ih =>
    have hparts := cutLine_append_eq bs
    rw [hline] at hparts
    obtain ⟨taken, -, rfl⟩ := ih hr
    exact ⟨line ++ taken, by simp [hne], by rw [List.append_assoc]; exact hparts.symm⟩

end

/-! ### Messages -/

section

variable {ending : StreamEnd} {bs rest : Bytes}

/-- A reading after which reading goes on takes the first bytes of the stream. -/
theorem readMessage_takes {r : ReadResult} (e : readMessage ending bs = (r, rest)) (hgo : r.goesOn = true) :
    ∃ taken, taken ≠ [] ∧ bs = taken ++ rest := by
  obtain ⟨headers, mid, hread, before, rfl⟩ := readHeaders_of_goesOn e hgo
  obtain ⟨taken, hne, rfl⟩ := (readHeaders_eq_iff.1 hread).exists_taken rfl
  exact ⟨taken ++ before, by simp [hne], by simp⟩

theorem ReadsTo.length_add_le {rs : List ReadResult} (h : ReadsTo ending bs rs rest) :
    rs.length + rest.length ≤ bs.length := by
  induction h with
  | nil => simp
  | cons hread hgo _ ih =>
    have hlength := readMessage_length hread hgo
    rw [List.length_cons]
    omega

/-- There is a last reading. -/
theorem ReadsTo.exists_last (ending : StreamEnd) (bs : Bytes) :
    ∃ rs rest, ReadsTo ending bs rs rest ∧ (readMessage ending rest).1.goesOn = false := by
  induction hn : bs.length using Nat.strongRecOn generalizing bs with
  | ind n ih =>
    rcases hread : readMessage ending bs with ⟨r, mid⟩
    cases hgo : r.goesOn with
    | false => exact ⟨[], bs, .nil, by rw [hread]; exact hgo⟩
    | true =>
      have hlength := readMessage_length hread hgo
      obtain ⟨rs, rest, hreads, hlast⟩ := ih mid.length (by omega) mid rfl
      exact ⟨r :: rs, rest, .cons hread hgo hreads, hlast⟩

end

/-- The bound on the number of frames does not cut the serving of a connection short. -/
theorem Session.serveFrom_of_length_lt (c : Connection) (machines : Nat → Machine) (s : Session) {bs : Bytes}
    {fuel fuel' : Nat} (hfuel : bs.length < fuel) (hfuel' : bs.length < fuel') :
    serveFrom c fuel machines s bs = serveFrom c fuel' machines s bs := by
  induction fuel generalizing fuel' machines s bs with
  | zero => omega
  | succ fuel ih =>
    obtain ⟨fuel', rfl⟩ : ∃ k, fuel' = k + 1 := ⟨fuel' - 1, by omega⟩
    rcases hread : readMessage c.ending bs with ⟨r, rest⟩
    have hrest : r.goesOn = true → ∀ later s, serveFrom c fuel later s rest = serveFrom c fuel' later s rest := by
      intro hgo later s
      have hlength := readMessage_length hread hgo
      exact ih later s (by omega) (by omega)
    simp only [serveFrom, hread]
    split
    · rfl
    cases r with
    | ended => rfl
    | message msg => simp only [hrest rfl]
    | error e =>
      simp only
      split
      · rfl
      · rename_i hfatal
        simp only [hrest (by simpa [ReadResult.goesOn] using hfatal)]

/-- A result that ends the reading: the end of the stream, or an error that breaks it. -/
def ReadResult.Stops (r : ReadResult) : Prop := r = .ended ∨ ∃ e : FrameError, r = .error e ∧ e.isFatal = true

theorem ReadResult.stops_of_goesOn {r : ReadResult} (h : r.goesOn = false) : r.Stops := by
  cases r with
  | message m => cases h
  | error e => exact .inr ⟨e, rfl, by simpa [goesOn] using h⟩
  | ended => exact .inl rfl

/-- Reading a stream comes to an end. -/
structure ReadingEnds (ending : StreamEnd) (bs : Bytes) : Prop where
  /-- The loop over header lines ends by itself. -/
  headers : ∃ r rest, HeaderLoop ending ⟨none, none, false⟩ bs r rest ∧
    readHeaders ending (bs.length + 1) ⟨none, none, false⟩ bs = (r, rest)
  /-- A reading ends it, or it takes the first bytes. -/
  takes : ∀ r rest, readMessage ending bs = (r, rest) → r.Stops ∨ ∃ taken, taken ≠ [] ∧ bs = taken ++ rest
  /-- Behind at most as many readings as there are bytes comes the last one. -/
  last : ∃ rs rest, ReadsTo ending bs rs rest ∧ rs.length ≤ bs.length ∧ (readMessage ending rest).1.Stops
  /-- And no more readings than that go on. -/
  bounded : ∀ rs rest, ReadsTo ending bs rs rest → rs.length + rest.length ≤ bs.length
  /-- Where all bytes have been taken, this and every later reading gives nothing more. -/
  exhausted : ∃ r, readMessage ending [] = (r, []) ∧ r.Stops
  /-- So a connection is served to its end, whatever the bound on the number of frames. -/
  served : ∀ (c : Connection) (machines : Nat → Machine) (s : Session) (fuel : Nat), bs.length < fuel →
    Session.serveFrom c fuel machines s bs = Session.serveFrom c (bs.length + 1) machines s bs

theorem reading_ends (ending : StreamEnd) (bs : Bytes) : ReadingEnds ending bs where
  headers := ⟨_, _, headerLoop_readHeaders (Nat.lt_succ_self _), rfl⟩
  takes r rest e := by
    cases hgo : r.goesOn with
    | false => exact .inl (ReadResult.stops_of_goesOn hgo)
    | true => exact .inr (readMessage_takes e hgo)
  last := by
    obtain ⟨rs, rest, hreads, hlast⟩ := ReadsTo.exists_last ending bs
    have hlength := hreads.length_add_le
    exact ⟨rs, rest, hreads, by omega, ReadResult.stops_of_goesOn hlast⟩
  bounded _ _ hreads := hreads.length_add_le
  exhausted := by
    cases ending with
    | eof => exact ⟨.ended, rfl, .inl rfl⟩
    | error => exact ⟨.error .io, rfl, .inr ⟨.io, rfl, rfl⟩⟩
  served c machines s _ hfuel := Session.serveFrom_of_length_lt c machines s hfuel (Nat.lt_succ_self _)

end WikiSite
