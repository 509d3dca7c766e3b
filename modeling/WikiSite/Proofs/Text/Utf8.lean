import WikiSite.Text.Utf8

/-!
# Reading written UTF-8

The bytes of a text read back as the text: `leadScalar` finds every character at the start of its bytes
(`leadScalar_utf8EncodeChar`), so a scan of written text meets no fault (`scanUtf8_encodeUtf8_append`) and strict
reading gives the text back (`decodeUtf8_encodeUtf8`). Nothing else is read: each character is found only at the start
of its bytes, so bytes that are read as a text are the bytes of that text (`decodeUtf8_eq_some`). A character below
`U+0080` is the one byte of its number. So a line feed that is added to bytes is read by itself, whatever the bytes are
(`decodeUtf8_append_feed`).
-/

namespace WikiSite

/-! ### One character -/

/-- The bytes of a character by the number of its code point. -/
private theorem utf8EncodeChar_cases (c : Char) :
    (c.toNat < 0x80 ∧ String.utf8EncodeChar c = [UInt8.ofNat c.toNat]) ∨
    (0x80 ≤ c.toNat ∧ c.toNat < 0x800 ∧
      String.utf8EncodeChar c = [UInt8.ofNat (c.toNat / 64 + 0xC0), UInt8.ofNat (c.toNat % 64 + 0x80)]) ∨
    (0x800 ≤ c.toNat ∧ c.toNat < 0x10000 ∧ (c.toNat < 0xD800 ∨ 0xDFFF < c.toNat) ∧
      String.utf8EncodeChar c = [UInt8.ofNat (c.toNat / 4096 + 0xE0), UInt8.ofNat (c.toNat / 64 % 64 + 0x80),
        UInt8.ofNat (c.toNat % 64 + 0x80)]) ∨
    (0x10000 ≤ c.toNat ∧ c.toNat < 0x110000 ∧
      String.utf8EncodeChar c = [UInt8.ofNat (c.toNat / 262144 + 0xF0), UInt8.ofNat (c.toNat / 4096 % 64 + 0x80),
        UInt8.ofNat (c.toNat / 64 % 64 + 0x80), UInt8.ofNat (c.toNat % 64 + 0x80)]) := by
  have hv : c.toNat < 0xD800 ∨ (0xDFFF < c.toNat ∧ c.toNat < 0x110000) := c.valid
  have e : c.val.toNat = c.toNat := rfl
  unfold String.utf8EncodeChar
  simp only [e]
  by_cases h1 : c.toNat ≤ 0x7F
  · exact .inl ⟨by omega, by rw [if_pos h1]⟩
  · rw [if_neg h1]
    by_cases h2 : c.toNat ≤ 0x7FF
    · refine .inr (.inl ⟨by omega, by omega, ?_⟩)
      rw [if_pos h2, Nat.mod_eq_of_lt (show c.toNat / 64 < 0x20 by omega)]
    · rw [if_neg h2]
      by_cases h3 : c.toNat ≤ 0xFFFF
      · refine .inr (.inr (.inl ⟨by omega, by omega, by omega, ?_⟩))
        rw [if_pos h3, Nat.mod_eq_of_lt (show c.toNat / 4096 < 0x10 by omega)]
      · refine .inr (.inr (.inr ⟨by omega, by omega, ?_⟩))
        rw [if_neg h3, Nat.mod_eq_of_lt (show c.toNat / 262144 < 0x08 by omega)]

private theorem toNat_ofNat_of_lt {n : Nat} (h : n < 256) : (UInt8.ofNat n).toNat = n := by
  rw [UInt8.toNat_ofNat', Nat.mod_eq_of_lt h]

theorem toNat_charOfNat {n : Nat} (h : n < 0xD800 ∨ (0xDFFF < n ∧ n < 0x110000)) : (Char.ofNat n).toNat = n := by
  unfold Char.ofNat
  rw [dif_pos h]
  rfl

/-- A continuation byte may follow a leading byte, unless the form would be overlong, a surrogate or too large. -/
theorem mayFollow_iff {a b : Nat} :
    mayFollow a b = true ↔ (0xC2 ≤ a ∧ a ≤ 0xF4 ∧ 0x80 ≤ b ∧ b < 0xC0) ∧ (a = 0xE0 → 0xA0 ≤ b) ∧
      (a = 0xED → b < 0xA0) ∧ (a = 0xF0 → 0x90 ≤ b) ∧ (a = 0xF4 → b < 0x90) := by
  unfold mayFollow isContinuation
  simp only [Bool.or_eq_true, decide_eq_true_eq, beq_iff_eq]
  split
  · simp only [Bool.false_eq_true, false_iff]
    omega
  · split
    · simp only [Bool.and_eq_true, decide_eq_true_eq]
      omega
    · split
      · simp only [Bool.and_eq_true, decide_eq_true_eq]
        omega
      · split
        · simp only [Bool.and_eq_true, decide_eq_true_eq]
          omega
        · split <;> simp only [Bool.and_eq_true, decide_eq_true_eq] <;> omega

private theorem isContinuation_mod (n : Nat) : isContinuation (n % 64 + 0x80) = true := by
  simp only [isContinuation, Bool.and_eq_true, decide_eq_true_eq]
  omega

/-- The bytes of a character below `U+0080`. -/
theorem utf8EncodeChar_of_lt {c : Char} (h : c.toNat < 0x80) : String.utf8EncodeChar c = [UInt8.ofNat c.toNat] := by
  rcases utf8EncodeChar_cases c with h' | h' | h' | h'
  · exact h'.2
  all_goals omega

/-- A character is found at the start of its bytes. -/
theorem leadScalar_utf8EncodeChar (c : Char) :
    ∃ a tail, String.utf8EncodeChar c = a :: tail ∧
      ∀ rest, leadScalar a (tail ++ rest) = (some c, tail.length) := by
  rcases utf8EncodeChar_cases c with ⟨h, e⟩ | ⟨h1, h2, e⟩ | ⟨h1, h2, h3, e⟩ | ⟨h1, h2, e⟩
  · refine ⟨_, _, e, fun rest => ?_⟩
    unfold leadScalar
    rw [toNat_ofNat_of_lt (by omega), if_pos h, Char.ofNat_toNat]
    rfl
  · refine ⟨_, _, e, fun rest => ?_⟩
    have hf : mayFollow (c.toNat / 64 + 0xC0) (c.toNat % 64 + 0x80) = true := mayFollow_iff.2 (by omega)
    have hn : (c.toNat / 64 + 0xC0 - 0xC0) * 64 + (c.toNat % 64 + 0x80 - 0x80) = c.toNat := by omega
    unfold leadScalar
    simp only [List.cons_append, List.nil_append]
    rw [toNat_ofNat_of_lt (by omega), toNat_ofNat_of_lt (by omega), hf, if_neg (by omega), if_neg (by decide),
      if_pos (by omega), hn, Char.ofNat_toNat]
    rfl
  · refine ⟨_, _, e, fun rest => ?_⟩
    have hf : mayFollow (c.toNat / 4096 + 0xE0) (c.toNat / 64 % 64 + 0x80) = true := mayFollow_iff.2 (by omega)
    have hn : (c.toNat / 4096 + 0xE0 - 0xE0) * 4096 + (c.toNat / 64 % 64 + 0x80 - 0x80) * 64 +
        (c.toNat % 64 + 0x80 - 0x80) = c.toNat := by omega
    unfold leadScalar
    simp only [List.cons_append, List.nil_append]
    rw [toNat_ofNat_of_lt (by omega), toNat_ofNat_of_lt (by omega), toNat_ofNat_of_lt (by omega), hf,
      isContinuation_mod, if_neg (by omega), if_neg (by decide), if_neg (by omega), if_neg (by decide),
      if_pos (by omega), hn, Char.ofNat_toNat]
    rfl
  · refine ⟨_, _, e, fun rest => ?_⟩
    have hf : mayFollow (c.toNat / 262144 + 0xF0) (c.toNat / 4096 % 64 + 0x80) = true := mayFollow_iff.2 (by omega)
    have hn : (c.toNat / 262144 + 0xF0 - 0xF0) * 262144 + (c.toNat / 4096 % 64 + 0x80 - 0x80) * 4096 +
        (c.toNat / 64 % 64 + 0x80 - 0x80) * 64 + (c.toNat % 64 + 0x80 - 0x80) = c.toNat := by omega
    unfold leadScalar
    simp only [List.cons_append, List.nil_append]
    rw [toNat_ofNat_of_lt (by omega), toNat_ofNat_of_lt (by omega), toNat_ofNat_of_lt (by omega),
      toNat_ofNat_of_lt (by omega), hf, isContinuation_mod, isContinuation_mod, if_neg (by omega), if_neg (by decide),
      if_neg (by omega), if_neg (by decide), if_neg (by omega), if_neg (by decide), hn, Char.ofNat_toNat]
    rfl

/-! ### Texts -/

theorem encodeUtf8_cons (c : Char) (t : Text) : encodeUtf8 (c :: t) = String.utf8EncodeChar c ++ encodeUtf8 t := rfl

theorem encodeUtf8_append (s t : Text) : encodeUtf8 (s ++ t) = encodeUtf8 s ++ encodeUtf8 t := by
  unfold encodeUtf8
  exact List.flatMap_append

private theorem scanUtf8After_append (bs rest : Bytes) : scanUtf8After bs.length (bs ++ rest) = scanUtf8After 0 rest := by
  induction bs with
  | nil => rfl
  | cons b bs ih => exact ih

/-- A scan of written text gives its characters and goes on after it. -/
theorem scanUtf8_encodeUtf8_append (t : Text) (rest : Bytes) :
    scanUtf8 (encodeUtf8 t ++ rest) = t.map some ++ scanUtf8 rest := by
  induction t with
  | nil => rfl
  | cons c t ih =>
    obtain ⟨a, tail, e, hl⟩ := leadScalar_utf8EncodeChar c
    rw [encodeUtf8_cons, e, List.append_assoc]
    show scanUtf8After 0 (a :: (tail ++ (encodeUtf8 t ++ rest))) = _
    rw [scanUtf8After, hl]
    show some c :: scanUtf8After tail.length (tail ++ (encodeUtf8 t ++ rest)) = _
    rw [scanUtf8After_append]
    exact congrArg (some c :: ·) ih

private theorem mapM_id_map_some (t : Text) : (t.map some).mapM id = some t := by
  induction t with
  | nil => rfl
  | cons c t ih =>
    rw [List.map_cons, List.mapM_cons, ih]
    rfl

/-- Written text is read back. -/
theorem decodeUtf8_encodeUtf8 (t : Text) : decodeUtf8 (encodeUtf8 t) = some t := by
  have h := scanUtf8_encodeUtf8_append t []
  rw [List.append_nil] at h
  unfold decodeUtf8
  rw [h]
  show (t.map some ++ []).mapM id = some t
  rw [List.append_nil, mapM_id_map_some]

/-- Every character of the text is below `U+0080`. -/
def IsAscii (t : Text) : Prop := ∀ c ∈ t, c.toNat < 0x80

/-- Such a text has a byte for every character. -/
theorem IsAscii.encodeUtf8_eq {t : Text} (h : IsAscii t) : encodeUtf8 t = t.map fun c => UInt8.ofNat c.toNat := by
  induction t with
  | nil => rfl
  | cons c t ih =>
    rw [encodeUtf8_cons, utf8EncodeChar_of_lt (h c (List.mem_cons_self ..)), ih fun d hd => h d (List.mem_cons_of_mem _ hd)]
    rfl

/-! ### Lines of bytes -/

/-- No character goes on with a line feed. -/
private theorem leadScalar_append_feed (a : UInt8) (rest : Bytes) : leadScalar a (rest ++ [0x0A]) = leadScalar a rest := by
  have hfollow : mayFollow a.toNat 10 = false := by
    rw [← Bool.not_eq_true, mayFollow_iff]
    omega
  have hcont : isContinuation 10 = false := rfl
  unfold leadScalar
  by_cases hn : a.toNat < 0x80
  · simp [hn]
  · rcases rest with _ | ⟨b, _ | ⟨c, _ | ⟨d, rest⟩⟩⟩ <;> simp [hn, hfollow, hcont]

private theorem leadScalar_snd_le (a : UInt8) (rest : Bytes) : (leadScalar a rest).2 ≤ rest.length := by
  unfold leadScalar
  rcases rest with _ | ⟨b, _ | ⟨c, _ | ⟨d, rest⟩⟩⟩ <;> grind

/-- A line feed after the bytes is read as a character of its own. -/
private theorem scanUtf8After_append_feed (bs : Bytes) {skip : Nat} (h : skip ≤ bs.length) :
    scanUtf8After skip (bs ++ [0x0A]) = scanUtf8After skip bs ++ [some '\n'] := by
  induction bs generalizing skip with
  | nil =>
    obtain rfl : skip = 0 := by simpa using h
    rfl
  | cons a bs ih =>
    cases skip with
    | succ skip => exact ih (Nat.le_of_succ_le_succ h)
    | zero =>
      rw [List.cons_append, scanUtf8After, scanUtf8After, leadScalar_append_feed]
      exact congrArg _ (ih (leadScalar_snd_le a bs))

theorem decodeUtf8_append_feed (bs : Bytes) : decodeUtf8 (bs ++ [0x0A]) = (decodeUtf8 bs).map (· ++ ['\n']) := by
  unfold decodeUtf8 scanUtf8
  rw [scanUtf8After_append_feed bs (Nat.zero_le _), List.mapM_append]
  cases (scanUtf8After 0 bs).mapM id <;> rfl

/-! ### Only written text is read -/

private theorem eq_map_some_of_mapM {os : List (Option Char)} {t : Text} (h : os.mapM id = some t) : os = t.map some := by
  induction os generalizing t with
  | nil => cases h; rfl
  | cons o os ih =>
    rw [List.mapM_cons] at h
    simp only [id, Option.bind_eq_bind, Option.bind_eq_some_iff, Option.pure_def, Option.some.injEq] at h
    obtain ⟨c, rfl, t', ht, rfl⟩ := h
    rw [ih ht]
    rfl

private theorem eq_ofNat {a : UInt8} {n : Nat} (h : a.toNat = n) : a = UInt8.ofNat n := by
  rw [← h, UInt8.ofNat_toNat]

/-! The bytes of the number that a longer form stands for are the form itself. -/

private theorem utf8EncodeChar_two {a b : UInt8} (h : 0xC2 ≤ a.toNat ∧ a.toNat < 0xE0 ∧ 0x80 ≤ b.toNat ∧ b.toNat < 0xC0) :
    String.utf8EncodeChar (Char.ofNat ((a.toNat - 0xC0) * 64 + (b.toNat - 0x80))) = [a, b] := by
  generalize hn : (a.toNat - 0xC0) * 64 + (b.toNat - 0x80) = n
  have hc := toNat_charOfNat (n := n) (by omega)
  rcases utf8EncodeChar_cases (Char.ofNat n) with ⟨h1, e⟩ | ⟨h1, h2, e⟩ | ⟨h1, h2, h3, e⟩ | ⟨h1, h2, e⟩ <;>
    rw [hc] at h1 e
  · omega
  · rw [e, ← eq_ofNat (a := a) (by omega), ← eq_ofNat (a := b) (by omega)]
  all_goals omega

private theorem utf8EncodeChar_three {a b d : UInt8} (h : 0xE0 ≤ a.toNat ∧ a.toNat < 0xF0)
    (hf : mayFollow a.toNat b.toNat = true) (hd : isContinuation d.toNat = true) :
    String.utf8EncodeChar (Char.ofNat ((a.toNat - 0xE0) * 4096 + (b.toNat - 0x80) * 64 + (d.toNat - 0x80))) =
      [a, b, d] := by
  obtain ⟨hrange, he0, hed, -, -⟩ := mayFollow_iff.1 hf
  simp only [isContinuation, Bool.and_eq_true, decide_eq_true_eq] at hd
  generalize hn : (a.toNat - 0xE0) * 4096 + (b.toNat - 0x80) * 64 + (d.toNat - 0x80) = n
  have hc := toNat_charOfNat (n := n) (by omega)
  rcases utf8EncodeChar_cases (Char.ofNat n) with ⟨h1, e⟩ | ⟨h1, h2, e⟩ | ⟨h1, h2, h3, e⟩ | ⟨h1, h2, e⟩ <;>
    rw [hc] at h1 e
  · omega
  · omega
  · rw [e, ← eq_ofNat (a := a) (by omega), ← eq_ofNat (a := b) (by omega), ← eq_ofNat (a := d) (by omega)]
  · omega

private theorem utf8EncodeChar_four {a b d e : UInt8} (h : 0xF0 ≤ a.toNat) (hf : mayFollow a.toNat b.toNat = true)
    (hd : isContinuation d.toNat = true) (he : isContinuation e.toNat = true) :
    String.utf8EncodeChar (Char.ofNat ((a.toNat - 0xF0) * 262144 + (b.toNat - 0x80) * 4096 + (d.toNat - 0x80) * 64 +
      (e.toNat - 0x80))) = [a, b, d, e] := by
  obtain ⟨hrange, -, -, hf0, hf4⟩ := mayFollow_iff.1 hf
  simp only [isContinuation, Bool.and_eq_true, decide_eq_true_eq] at hd he
  generalize hn : (a.toNat - 0xF0) * 262144 + (b.toNat - 0x80) * 4096 + (d.toNat - 0x80) * 64 + (e.toNat - 0x80) = n
  have hc := toNat_charOfNat (n := n) (by omega)
  rcases utf8EncodeChar_cases (Char.ofNat n) with ⟨h1, eq⟩ | ⟨h1, h2, eq⟩ | ⟨h1, h2, h3, eq⟩ | ⟨h1, h2, eq⟩ <;>
    rw [hc] at h1 eq
  · omega
  · omega
  · omega
  · rw [eq, ← eq_ofNat (a := a) (by omega), ← eq_ofNat (a := b) (by omega), ← eq_ofNat (a := d) (by omega),
      ← eq_ofNat (a := e) (by omega)]

/-- A character is found only at the start of its bytes. -/
private theorem utf8EncodeChar_of_leadScalar {a : UInt8} {rest : Bytes} {c : Char} {used : Nat}
    (h : leadScalar a rest = (some c, used)) : a :: rest.take used = String.utf8EncodeChar c := by
  unfold leadScalar at h
  simp only at h
  split at h
  · rename_i ha
    cases h
    have hc : (Char.ofNat a.toNat).toNat = a.toNat := toNat_charOfNat (.inl (by omega))
    rw [utf8EncodeChar_of_lt (by omega), hc, UInt8.ofNat_toNat]
    rfl
  split at h
  · cases h
  rename_i b r2
  split at h
  · cases h
  rename_i hf
  rw [Bool.not_eq_true, Bool.not_eq_false'] at hf
  have hrange := (mayFollow_iff.1 hf).1
  split at h
  · obtain ⟨rfl, rfl⟩ := by simpa only [Prod.mk.injEq, Option.some.injEq] using h
    exact (utf8EncodeChar_two (by omega)).symm
  split at h
  · cases h
  rename_i d r3
  split at h
  · cases h
  rename_i hd
  rw [Bool.not_eq_true, Bool.not_eq_false'] at hd
  split at h
  · obtain ⟨rfl, rfl⟩ := by simpa only [Prod.mk.injEq, Option.some.injEq] using h
    exact (utf8EncodeChar_three (by omega) hf hd).symm
  split at h
  · cases h
  rename_i e r4
  split at h
  · cases h
  rename_i he
  rw [Bool.not_eq_true, Bool.not_eq_false'] at he
  obtain ⟨rfl, rfl⟩ := by simpa only [Prod.mk.injEq, Option.some.injEq] using h
  exact (utf8EncodeChar_four (by omega) hf hd he).symm

/-- A scan without a fault reads the bytes of the text behind what it skips. -/
private theorem drop_of_scanUtf8After {skip : Nat} {bs : Bytes} {t : Text} (h : scanUtf8After skip bs = t.map some) :
    bs.drop skip = encodeUtf8 t := by
  induction bs generalizing skip t with
  | nil =>
    obtain rfl := List.map_eq_nil_iff.1 h.symm
    exact List.drop_nil
  | cons a bs ih =>
    cases skip with
    | succ skip => exact ih h
    | zero =>
      rw [scanUtf8After] at h
      rcases hlead : leadScalar a bs with ⟨o, used⟩
      rw [hlead] at h
      cases t with
      | nil => cases h
      | cons c t =>
        obtain ⟨rfl, htail⟩ := List.cons.inj h
        rw [encodeUtf8_cons, ← utf8EncodeChar_of_leadScalar hlead, ← ih htail, List.cons_append,
          List.take_append_drop]
        rfl

/-- Bytes are read as a text just if they are its bytes. -/
theorem decodeUtf8_eq_some {bs : Bytes} {t : Text} : decodeUtf8 bs = some t ↔ bs = encodeUtf8 t := by
  constructor
  · intro h
    have hread := drop_of_scanUtf8After (eq_map_some_of_mapM h)
    rwa [List.drop_zero] at hread
  · rintro rfl
    exact decodeUtf8_encodeUtf8 t

/-- Bytes that are read as characters below `U+0080` are the numbers of these characters. -/
theorem eq_of_decodeUtf8_ascii {bs : Bytes} {t : Text} (h : decodeUtf8 bs = some t) (ht : IsAscii t) :
    bs = t.map fun c => UInt8.ofNat c.toNat := by
  rw [decodeUtf8_eq_some.1 h, ht.encodeUtf8_eq]

/-- A byte below `0x80` in written text is a character of its own. -/
theorem mem_of_mem_encodeUtf8 {t : Text} {b : UInt8} (h : b ∈ encodeUtf8 t) (hb : b.toNat < 0x80) :
    ∃ c ∈ t, c.toNat = b.toNat := by
  obtain ⟨c, hc, hmem⟩ := List.mem_flatMap.1 h
  refine ⟨c, hc, ?_⟩
  rcases utf8EncodeChar_cases c with ⟨h1, e⟩ | ⟨h1, h2, e⟩ | ⟨h1, h2, h3, e⟩ | ⟨h1, h2, e⟩ <;> rw [e] at hmem
  · rw [List.mem_singleton.1 hmem, toNat_ofNat_of_lt (by omega)]
  -- the longer forms have no byte below `0x80`
  · simp only [List.mem_cons, List.not_mem_nil, or_false] at hmem
    rcases hmem with rfl | rfl <;> rw [toNat_ofNat_of_lt (by omega)] at hb <;> omega
  · simp only [List.mem_cons, List.not_mem_nil, or_false] at hmem
    rcases hmem with rfl | rfl | rfl <;> rw [toNat_ofNat_of_lt (by omega)] at hb <;> omega
  · simp only [List.mem_cons, List.not_mem_nil, or_false] at hmem
    rcases hmem with rfl | rfl | rfl | rfl <;> rw [toNat_ofNat_of_lt (by omega)] at hb <;> omega

end WikiSite
