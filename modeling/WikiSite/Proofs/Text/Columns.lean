import WikiSite.Proofs.Text.Utf8
import WikiSite.Text.Column

/-!
# Columns and units

A column of a line and the number of UTF-16 units in front of it are held against each other. The column of `u` units
is at most `c` just if there are at least `u` units in front of `c` (`utf16Column_le_iff`), by induction on the line.
The rest follows from this and from the fact that every character has a unit (`utf16Length_take_lt`):

* going from a column to its units and back leads to the same column (`utf16Column_utf16Length`), and both ways are
  monotone;
* units inside a pair lead behind the pair (`utf16Column_inside`).

For bytes, `byteOffset` parts the bytes of a line into those of the text in front of a column and those of the text
behind it (`encodeUtf8_drop`), and neither begins in the middle of a character (`isBoundary_byteOffset`).
-/

namespace WikiSite

/-! ### Units of UTF-16 -/

theorem utf16Size_pos (c : Char) : 0 < utf16Size c := by
  unfold utf16Size
  split <;> omega

theorem utf16Length_append (s t : Text) : utf16Length (s ++ t) = utf16Length s + utf16Length t := by
  induction s with
  | nil => simp [utf16Length]
  | cons c s ih =>
    simp only [List.cons_append, utf16Length, ih]
    omega

theorem length_le_utf16Length (t : Text) : t.length ≤ utf16Length t := by
  induction t with
  | nil => simp
  | cons c t ih =>
    have hc := utf16Size_pos c
    simp only [List.length_cons, utf16Length]
    omega

theorem utf16Length_le (t : Text) : utf16Length t ≤ 2 * t.length := by
  induction t with
  | nil => simp [utf16Length]
  | cons c t ih =>
    have hc : utf16Size c ≤ 2 := by
      unfold utf16Size
      split <;> omega
    simp only [List.length_cons, utf16Length]
    omega

theorem utf16Length_take_add_drop (line : Text) (c : Nat) :
    utf16Length (line.take c) + utf16Length (line.drop c) = utf16Length line := by
  rw [← utf16Length_append, List.take_append_drop]

theorem utf16Length_take_mono (line : Text) {a b : Nat} (h : a ≤ b) :
    utf16Length (line.take a) ≤ utf16Length (line.take b) := by
  have hparts := utf16Length_take_add_drop (line.take b) a
  rw [List.take_take, Nat.min_eq_left h] at hparts
  omega

theorem utf16Length_take_lt {line : Text} {a b : Nat} (h : a < b) (hb : b ≤ line.length) :
    utf16Length (line.take a) < utf16Length (line.take b) := by
  have hparts := utf16Length_take_add_drop (line.take b) a
  rw [List.take_take, Nat.min_eq_left (by omega)] at hparts
  have hrest := length_le_utf16Length ((line.take b).drop a)
  rw [List.length_drop, List.length_take] at hrest
  omega

/-! ### From units to columns -/

theorem utf16Column_le_iff {line : Text} {u : Nat} (hu : u ≤ utf16Length line) (c : Nat) :
    utf16Column line u ≤ c ↔ u ≤ utf16Length (line.take c) := by
  induction line generalizing u c with
  | nil =>
    have hzero : u = 0 := by simpa [utf16Length] using hu
    simp [utf16Column, hzero]
  | cons d line ih =>
    have hd := utf16Size_pos d
    rw [utf16Length] at hu
    rw [utf16Column]
    split
    · omega
    · cases c with
      | zero =>
        simp only [List.take_zero, utf16Length]
        omega
      | succ c =>
        have hrest := ih (u := u - utf16Size d) (by omega) c
        rw [List.take_succ_cons, utf16Length]
        omega

theorem utf16Column_le_length (line : Text) (u : Nat) : utf16Column line u ≤ line.length := by
  induction line generalizing u with
  | nil => simp [utf16Column]
  | cons d line ih =>
    rw [utf16Column]
    split
    · simp
    · have hrest := ih (u - utf16Size d)
      rw [List.length_cons]
      omega

theorem utf16Column_of_length_le {line : Text} {u : Nat} (h : utf16Length line ≤ u) :
    utf16Column line u = line.length := by
  induction line generalizing u with
  | nil => rfl
  | cons d line ih =>
    have hd := utf16Size_pos d
    rw [utf16Length] at h
    rw [utf16Column, if_neg (by omega), ih (by omega), List.length_cons]

/-- The units in front of a column lead back to it. -/
theorem utf16Column_utf16Length (line : Text) (c : Nat) :
    utf16Column line (utf16Length (line.take c)) = min c line.length := by
  by_cases hc : c ≤ line.length
  · have hparts := utf16Length_take_add_drop line c
    have hle : utf16Column line (utf16Length (line.take c)) ≤ c := (utf16Column_le_iff (by omega) c).2 (Nat.le_refl _)
    -- a column further left would have fewer units in front of it
    have hunits : utf16Length (line.take c) ≤ utf16Length (line.take (utf16Column line (utf16Length (line.take c)))) :=
      (utf16Column_le_iff (by omega) _).1 (Nat.le_refl _)
    have hge : c ≤ utf16Column line (utf16Length (line.take c)) := by
      refine Nat.not_lt.1 fun hlt => ?_
      have hfewer := utf16Length_take_lt hlt hc
      omega
    omega
  · rw [List.take_of_length_le (by omega), utf16Column_of_length_le (Nat.le_refl _)]
    omega

theorem utf16Column_mono (line : Text) {u v : Nat} (h : u ≤ v) : utf16Column line u ≤ utf16Column line v := by
  by_cases hv : v ≤ utf16Length line
  · have hreached := (utf16Column_le_iff hv _).1 (Nat.le_refl _)
    exact (utf16Column_le_iff (by omega) _).2 (by omega)
  · rw [utf16Column_of_length_le (u := v) (by omega)]
    exact utf16Column_le_length line u

/-- Units inside a pair lead behind it. -/
theorem utf16Column_inside (before : Text) {c : Char} (hc : utf16Size c = 2) (after : Text) :
    utf16Column (before ++ c :: after) (utf16Length before + 1) = before.length + 1 := by
  have hlength : utf16Length (before ++ c :: after) = utf16Length before + (2 + utf16Length after) := by
    rw [utf16Length_append, utf16Length, hc]
  have hfront : utf16Length ((before ++ c :: after).take before.length) = utf16Length before := by
    rw [List.take_left]
  have hbehind : utf16Length ((before ++ c :: after).take (before.length + 1)) = utf16Length before + 2 := by
    rw [List.take_length_add_append, utf16Length_append]
    simp [utf16Length, hc]
  have hunits : utf16Length before + 1 ≤ utf16Length (before ++ c :: after) := by omega
  have hiff := utf16Column_le_iff hunits
  have hle := (hiff (before.length + 1)).2 (by omega)
  have hgt : ¬ utf16Column (before ++ c :: after) (utf16Length before + 1) ≤ before.length := by
    rw [hiff]
    omega
  omega

namespace PositionEncoding

/-- On a line whose units can be counted with 32 bits nothing is cut off. -/
theorem clientColumn_utf16 {line : Text} (h : utf16Length line < limit32) (c : Nat) :
    utf16.clientColumn line c = utf16Length (line.take c) := by
  have hparts := utf16Length_take_add_drop line c
  exact Nat.mod_eq_of_lt (by omega)

end PositionEncoding

/-! ### Bytes -/

theorem length_encodeUtf8 (t : Text) : (encodeUtf8 t).length = byteLength t := by
  induction t with
  | nil => rfl
  | cons c t ih => rw [encodeUtf8_cons, List.length_append, ih, String.length_utf8EncodeChar, byteLength]

theorem charColumn_byteOffset (line : Text) (c : Nat) : charColumn line (byteOffset line c) = min c line.length := by
  unfold byteOffset
  induction line generalizing c with
  | nil => simp [charColumn]
  | cons d line ih =>
    cases c with
    | zero =>
      have hd := Char.utf8Size_pos d
      rw [List.take_zero, byteLength, charColumn, if_neg (by omega)]
      omega
    | succ c =>
      rw [List.take_succ_cons, byteLength, charColumn, if_pos (by omega), Nat.add_sub_cancel_left, ih, List.length_cons]
      omega

/-- The bytes behind the offset of a column are those of the text behind the column. -/
theorem encodeUtf8_drop (line : Text) (c : Nat) :
    (encodeUtf8 line).drop (byteOffset line c) = encodeUtf8 (line.drop c) := by
  have hparts : encodeUtf8 line = encodeUtf8 (line.take c) ++ encodeUtf8 (line.drop c) := by
    rw [← encodeUtf8_append, List.take_append_drop]
  rw [hparts, byteOffset, ← length_encodeUtf8, List.drop_left]

/-- The byte at the offset, if there is one, does not continue a character. -/
def IsBoundary (bs : Bytes) (offset : Nat) : Prop :=
  offset ≤ bs.length ∧ ∀ b ∈ bs[offset]?, isContinuation b.toNat = false

/-- No character starts with a byte that continues one. -/
theorem not_isContinuation_of_leadScalar {a : UInt8} {rest : Bytes} {c : Char} {used : Nat}
    (h : leadScalar a rest = (some c, used)) : isContinuation a.toNat = false := by
  rw [← Bool.not_eq_true]
  intro hcontinues
  have hbounds : 0x80 ≤ a.toNat ∧ a.toNat < 0xC0 := by simpa [isContinuation] using hcontinues
  unfold leadScalar at h
  simp only [if_neg (show ¬ a.toNat < 0x80 by omega)] at h
  split at h
  · cases h
  · rename_i b r
    have hfollow : mayFollow a.toNat b.toNat = false := by
      rw [← Bool.not_eq_true, mayFollow_iff]
      omega
    simp [hfollow] at h

theorem isBoundary_byteOffset (line : Text) (c : Nat) : IsBoundary (encodeUtf8 line) (byteOffset line c) := by
  constructor
  · have hlength := congrArg List.length (encodeUtf8_append (line.take c) (line.drop c))
    rw [List.take_append_drop, List.length_append, length_encodeUtf8 (line.take c)] at hlength
    rw [byteOffset]
    omega
  · intro b hb
    rw [← List.head?_drop, encodeUtf8_drop] at hb
    cases hrest : line.drop c with
    | nil =>
      rw [hrest] at hb
      cases hb
    | cons d rest =>
      obtain ⟨a, tail, hbytes, hlead⟩ := leadScalar_utf8EncodeChar d
      rw [hrest, encodeUtf8_cons, hbytes] at hb
      obtain rfl : a = b := by simpa using hb
      exact not_isContinuation_of_leadScalar (hlead [])

/-! ### Both ways -/

open PositionEncoding (utf16)

/-- The columns of a line and the units of a client belong together. -/
structure ColumnsConnected (line : Text) : Prop where
  galois : ∀ u ≤ utf16Length line, ∀ c ≤ line.length, utf16.charColumn line u ≤ c ↔ u ≤ utf16.clientColumn line c
  charColumn_past : ∀ u, utf16Length line < u → utf16.charColumn line u = line.length
  clientColumn_past : ∀ c, line.length < c → utf16.clientColumn line c = utf16Length line
  back : ∀ c, utf16.charColumn line (utf16.clientColumn line c) = min c line.length
  charColumn_mono : ∀ u v, u ≤ v → utf16.charColumn line u ≤ utf16.charColumn line v
  clientColumn_mono : ∀ c d, c ≤ d → utf16.clientColumn line c ≤ utf16.clientColumn line d
  /-- A place between the two units of a character goes to the next character. -/
  inside : ∀ before c after, line = before ++ c :: after → utf16Size c = 2 →
    utf16.charColumn line (utf16Length before + 1) = before.length + 1
  bytes : ∀ c, charColumn line (byteOffset line c) = min c line.length
  boundary : ∀ c, IsBoundary (encodeUtf8 line) (byteOffset line c)

theorem columns_connected {line : Text} (h : utf16Length line < limit32) : ColumnsConnected line where
  galois u hu c _ := by
    rw [PositionEncoding.clientColumn_utf16 h]
    exact utf16Column_le_iff hu c
  charColumn_past u hu := utf16Column_of_length_le (by omega)
  clientColumn_past c hc := by
    rw [PositionEncoding.clientColumn_utf16 h, List.take_of_length_le (by omega)]
  back c := by
    rw [PositionEncoding.clientColumn_utf16 h]
    exact utf16Column_utf16Length line c
  charColumn_mono u v huv := utf16Column_mono line huv
  clientColumn_mono c d hcd := by
    rw [PositionEncoding.clientColumn_utf16 h, PositionEncoding.clientColumn_utf16 h]
    exact utf16Length_take_mono line hcd
  inside before c after hline hc := by
    rw [hline]
    exact utf16Column_inside before hc after
  bytes := charColumn_byteOffset line
  boundary := isBoundary_byteOffset line

/-- A character with two units between characters with one: the place inside the pair goes behind it. -/
theorem columns_connected_pair :
    let line := "a😀b".toList
    utf16Length line < limit32 ∧ ColumnsConnected line ∧
      (List.range 6).map (utf16.charColumn line) = [0, 1, 2, 2, 3, 3] :=
  ⟨by decide, columns_connected (by decide), by decide⟩

end WikiSite
