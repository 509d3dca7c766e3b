import WikiSite.Rpc.Frame

/-!
# Reading again and again

A stream is read one message after another, and what one reading leaves is where the next one begins (`ReadsTo`). A
reading after which reading goes on has taken at least one byte (`readMessage_length`), so there is an end to it.
-/

namespace WikiSite

/-! ### Readings take bytes -/

theorem cutLine_append_eq (bs : Bytes) : (cutLine bs).1 ++ (cutLine bs).2.2 = bs := by
  induction bs with
  | nil => rfl
  | cons b bs ih =>
    rcases hline : cutLine bs with ⟨line, found, after⟩
    rw [hline] at ih
    rw [cutLine, hline]
    split
    · rfl
    · exact congrArg (b :: ·) ih

theorem cutLine_length (bs : Bytes) : (cutLine bs).1.length + (cutLine bs).2.2.length = bs.length := by
  rw [← List.length_append, cutLine_append_eq]

/-- A header block that was read had at least the line that ends it. -/
theorem readHeaders_length {ending : StreamEnd} {fuel : Nat} {h h' : Headers} {bs rest : Bytes}
    (e : readHeaders ending fuel h bs = (.done h', rest)) : rest.length < bs.length := by
  induction fuel generalizing h bs with
  | zero => cases e
  | succ fuel ih =>
    have hcut := cutLine_length bs
    rw [readHeaders] at e
    rcases hline : cutLine bs with ⟨line, found, after⟩
    rw [hline] at hcut e
    simp only at hcut e
    split at e
    · cases e
    split at e
    · cases e
    · rename_i hempty
      have hpos : 0 < line.length := by
        rw [List.isEmpty_iff] at hempty
        exact List.length_pos_iff.2 hempty
      split at e
      · cases e
        omega
      · have := ih e
        omega

/-- Whether reading goes on after a result: it does after a message and after an error that costs one message. -/
def ReadResult.goesOn : ReadResult → Bool
  | .message _ => true
  | .error e => !e.isFatal
  | .ended => false

/-- A reading after which reading goes on has read a header block and leaves an end of what the block left. -/
theorem readHeaders_of_goesOn {ending : StreamEnd} {bs rest : Bytes} {r : ReadResult}
    (e : readMessage ending bs = (r, rest)) (h : r.goesOn = true) :
    ∃ headers mid, readHeaders ending (bs.length + 1) ⟨none, none, false⟩ bs = (.done headers, mid) ∧
      rest <:+ mid := by
  unfold readMessage at e
  split at e
  · cases e
    cases h
  · cases e
    cases h
  · rename_i headers mid hread
    refine ⟨headers, mid, hread, ?_⟩
    split at e
    · cases e
      exact List.suffix_refl _
    split at e
    · cases e
      exact List.suffix_refl _
    split at e
    · cases e
      exact List.suffix_refl _
    split at e
    · cases e
      exact List.suffix_refl _
    split at e
    · -- the stream ends inside the body
      cases ending <;> cases e <;> cases h
    · cases e
      exact List.drop_suffix _ _

/-- A reading after which reading goes on has taken at least one byte. -/
theorem readMessage_length {ending : StreamEnd} {bs rest : Bytes} {r : ReadResult}
    (e : readMessage ending bs = (r, rest)) (h : r.goesOn = true) : rest.length < bs.length := by
  obtain ⟨headers, mid, hread, hrest⟩ := readHeaders_of_goesOn e h
  have hblock := readHeaders_length hread
  have hbody := hrest.length_le
  omega

/-! ### Several readings -/

/-- Reading the bytes again and again gives the results in this order, reading goes on after each of them, and the
last one leaves the rest. -/
inductive ReadsTo (ending : StreamEnd) : Bytes → List ReadResult → Bytes → Prop where
  | nil {bs : Bytes} : ReadsTo ending bs [] bs
  | cons {bs mid rest : Bytes} {r : ReadResult} {rs : List ReadResult} :
      readMessage ending bs = (r, mid) → r.goesOn = true → ReadsTo ending mid rs rest → ReadsTo ending bs (r :: rs) rest

/-- What comes first is the first reading, and the others start from what it leaves. -/
theorem ReadsTo.tail {ending : StreamEnd} {bs mid rest : Bytes} {r r' : ReadResult} {rs : List ReadResult}
    (h : ReadsTo ending bs (r :: rs) rest) (e : readMessage ending bs = (r', mid)) :
    r = r' ∧ ReadsTo ending mid rs rest := by
  cases h with
  | cons hread _ htail =>
    rw [e] at hread
    cases hread
    exact ⟨rfl, htail⟩

theorem ReadsTo.length_le {ending : StreamEnd} {bs rest : Bytes} {rs : List ReadResult}
    (h : ReadsTo ending bs rs rest) : rest.length ≤ bs.length := by
  induction h with
  | nil => exact Nat.le_refl _
  | cons hread hgo _ ih =>
    have := readMessage_length hread hgo
    omega

end WikiSite
