import WikiSite.Proofs.Page.LinkGrammar

/-!
# The grammar of mentions

An `@` starts a mention when no word character, `_` or `@` stands in front of it and an ASCII letter behind it
(`StartsMention`). Its run is the longest stretch of handle characters behind it (`runAt`), and its handle is the run
without the points and hyphens at its end (`Mention.WrittenOn`).

Two readers work on this grammar from opposite ends. A search from the left finds one mention for each `@` that starts
one; the text in front of the cursor is searched backwards for the last `@`, and a mention is being typed there just while
the cursor stands in the run of an `@` that starts one (`recognisesMentions`). No run holds an `@`, so both readers meet
the same one.
-/

namespace WikiSite

/-- The character at a column is an `@` that starts a mention. -/
structure StartsMention (t : Text) (i : Nat) : Prop where
  sign : t[i]? = some '@'
  before : ∀ j c, j + 1 = i → t[j]? = some c → isAlphanumeric c = false ∧ c ≠ '_' ∧ c ≠ '@'
  after : ∃ c, t[i + 1]? = some c ∧ isAsciiLetter c = true

/-- The longest stretch of handle characters behind a column. -/
def runAt (line : Text) (i : Nat) : Text := (line.drop (i + 1)).takeWhile isHandleChar

/-- The mention stands on the line: its handle is a run without the points and hyphens at its end. -/
structure Mention.WrittenOn (m : Mention) (line : Text) : Prop where
  starts : StartsMention line m.first
  run : ∃ marks, runAt line m.first = m.handle ++ marks ∧ ∀ c ∈ marks, c = '.' ∨ c = '-'
  stripped : ∀ c ∈ m.handle.getLast?, c ≠ '.' ∧ c ≠ '-'
  last : m.last = m.first + 1 + m.handle.length

/-! ### Where a mention starts -/

theorem mayPrecedeMention_iff {o : Option Char} :
    mayPrecedeMention o = true ↔ ∀ c ∈ o, isAlphanumeric c = false ∧ c ≠ '_' ∧ c ≠ '@' := by
  cases o with
  | none => simp [mayPrecedeMention]
  | some c => simp [mayPrecedeMention, and_assoc]

theorem runAt_append (before rest : Text) :
    runAt (before ++ '@' :: rest) before.length = rest.takeWhile isHandleChar := by
  unfold runAt
  rw [List.drop_length_add_append, List.drop_succ_cons, List.drop_zero]

theorem startsMention_append_iff {before rest : Text} : StartsMention (before ++ '@' :: rest) before.length ↔
    mayPrecedeMention before.getLast? = true ∧ rest.head?.any isAsciiLetter = true := by
  have hprevious : ∀ j, j + 1 = before.length → (before ++ '@' :: rest)[j]? = before.getLast? := by
    intro j hj
    rw [List.getLast?_eq_getElem?, List.getElem?_append_left (by omega), ← hj, Nat.add_sub_cancel]
  have hnext : (before ++ '@' :: rest)[before.length + 1]? = rest.head? := by
    rw [List.getElem?_append_right (by omega), List.head?_eq_getElem?]
    simp
  constructor
  · intro h
    obtain ⟨c, hc, hletter⟩ := h.after
    rw [hnext] at hc
    refine ⟨mayPrecedeMention_iff.2 ?_, by simp [hc, hletter]⟩
    intro d hd
    have hpos : 0 < before.length := List.length_pos_of_mem (List.mem_of_getLast? hd)
    have hj : before.length - 1 + 1 = before.length := by omega
    exact h.before _ d hj (by rw [hprevious _ hj]; exact hd)
  · rintro ⟨hbefore, hletter⟩
    refine ⟨by simp, ?_, ?_⟩
    · intro j c hj hc
      rw [hprevious j hj] at hc
      exact mayPrecedeMention_iff.1 hbefore c hc
    · rw [hnext]
      exact (Option.any_eq_true ..).1 hletter

theorem StartsMention.exists_append {line : Text} {i : Nat} (h : StartsMention line i) :
    ∃ before rest, line = before ++ '@' :: rest ∧ before.length = i := by
  obtain ⟨hi, hsign⟩ := List.getElem?_eq_some_iff.1 h.sign
  refine ⟨line.take i, line.drop (i + 1), ?_, by simp; omega⟩
  rw [← hsign, ← List.drop_eq_getElem_cons hi, List.take_append_drop]

/-! ### Runs and handles -/

/-- The handle of a run is what is left of it when points and hyphens are taken from its end. -/
theorem handleOfRun_eq_iff {run handle : Text} : handleOfRun run = handle ↔
    (∃ marks, run = handle ++ marks ∧ ∀ c ∈ marks, c = '.' ∨ c = '-') ∧
      ∀ c ∈ handle.getLast?, c ≠ '.' ∧ c ≠ '-' := by
  constructor
  · rintro rfl
    obtain ⟨marks, hmarks, hrun⟩ := exists_dropEndWhile_append (fun c => c == '.' || c == '-') run
    refine ⟨⟨marks, hrun, fun c hc => by simpa using hmarks c hc⟩, ?_⟩
    intro c hc
    simpa using of_mem_getLast?_dropEndWhile hc
  · rintro ⟨⟨marks, rfl, hmarks⟩, hlast⟩
    unfold handleOfRun
    rw [dropEndWhile_append fun c hc => by simpa using hmarks c hc]
    exact dropEndWhile_eq_self fun c hc => by simpa using hlast c hc

theorem isHandle_handleOfRun {rest : Text} (h : rest.head?.any isAsciiLetter = true) :
    isHandle (handleOfRun (rest.takeWhile isHandleChar)) = true := by
  obtain ⟨c, hc, hletter⟩ := (Option.any_eq_true ..).1 h
  obtain ⟨s, rfl⟩ := List.head?_eq_some_iff.1 hc
  have hrun : (c :: s).takeWhile isHandleChar = c :: s.takeWhile isHandleChar :=
    List.takeWhile_cons_of_pos (by simp [isHandleChar, hletter])
  have hmark : (c == '.' || c == '-') = false := by
    rw [← Bool.not_eq_true, Bool.or_eq_true, beq_iff_eq, beq_iff_eq]
    rintro (rfl | rfl) <;> exact absurd hletter (by decide)
  have hkept : handleOfRun (c :: s.takeWhile isHandleChar) = c :: handleOfRun (s.takeWhile isHandleChar) :=
    dropEndWhile_append_cons (p := fun c => c == '.' || c == '-') hmark [] _
  rw [hrun, hkept, isHandle, hletter, Bool.true_and, List.all_eq_true]
  intro d hd
  have hmem : d ∈ s.takeWhile isHandleChar := (List.rdropWhile_prefix _ _).subset hd
  exact List.mem_takeWhile_imp hmem

/-! ### What is found is what is written -/

/-- The mention that starts at an `@`, by the text behind it. -/
theorem Mention.writtenOn_append_iff {m : Mention} {before rest : Text} (hfirst : m.first = before.length) :
    m.WrittenOn (before ++ '@' :: rest) ↔
      (mayPrecedeMention before.getLast? = true ∧ rest.head?.any isAsciiLetter = true) ∧
        m = ⟨handleOfRun (rest.takeWhile isHandleChar), before.length,
          before.length + 1 + (handleOfRun (rest.takeWhile isHandleChar)).length⟩ := by
  obtain ⟨handle, first, last⟩ := m
  change first = before.length at hfirst
  subst hfirst
  rw [← startsMention_append_iff]
  constructor
  · rintro ⟨hstarts, hrun, hstripped, hlast⟩
    rw [runAt_append] at hrun
    have hhandle : handleOfRun (rest.takeWhile isHandleChar) = handle := handleOfRun_eq_iff.2 ⟨hrun, hstripped⟩
    refine ⟨hstarts, ?_⟩
    rw [hhandle]
    exact congrArg (Mention.mk handle before.length) hlast
  · rintro ⟨hstarts, hm⟩
    obtain ⟨rfl, -, rfl⟩ := Mention.mk.inj hm
    obtain ⟨hrun, hstripped⟩ := handleOfRun_eq_iff.1 (rfl : handleOfRun (rest.takeWhile isHandleChar) = _)
    exact ⟨hstarts, by rwa [runAt_append], hstripped, rfl⟩

theorem writtenOn_of_mem_mentionsFrom {skip column : Nat} {previous : Option Char} {t : Text} {m : Mention}
    (h : m ∈ mentionsFrom skip column previous t) (front : Text) (hfront : front.length = column)
    (hprevious : front.getLast? = previous) : m.WrittenOn (front ++ t) := by
  fun_induction mentionsFrom skip column previous t generalizing front with
  | case1 => cases h
  | case2 column skip previous c rest ih =>
    rw [List.append_cons]
    exact ih h _ (by simp [hfront]) (by simp)
  | case3 column previous c rest hopen run handle found ih =>
    rw [Bool.and_eq_true, beq_iff_eq] at hopen
    obtain ⟨rfl, hletter⟩ := hopen
    rcases List.mem_append.1 h with hm | hm
    · by_cases hmay : mayPrecedeMention previous = true
      · have hfound : found = [⟨handle, column, column + 1 + handle.length⟩] := if_pos hmay
        rw [hfound, List.mem_singleton] at hm
        subst hm hfront hprevious
        exact (Mention.writtenOn_append_iff rfl).2 ⟨⟨hmay, hletter⟩, rfl⟩
      · have hfound : found = [] := if_neg hmay
        rw [hfound] at hm
        cases hm
    · rw [List.append_cons]
      exact ih hm _ (by simp [hfront]) (by simp)
  | case4 column previous c rest hopen ih =>
    rw [List.append_cons]
    exact ih h _ (by simp [hfront]) (by simp)

/-- The mentions that are found on a line are those that are written there. -/
theorem mem_findMentions_iff {line : Text} {m : Mention} : m ∈ findMentions line ↔ m.WrittenOn line := by
  constructor
  · intro h
    exact writtenOn_of_mem_mentionsFrom h [] rfl rfl
  · intro h
    obtain ⟨before, rest, rfl, hlength⟩ := h.starts.exists_append
    obtain ⟨⟨hmay, hletter⟩, rfl⟩ := (Mention.writtenOn_append_iff hlength.symm).1 h
    obtain ⟨found, hfound⟩ := mentionsFrom_append before rest (Nat.zero_le _) 0 none
    unfold findMentions
    rw [hfound, Nat.zero_add, Option.or_none, mentionsFrom, if_pos (by simp [hletter])]
    simp [hmay]

theorem StartsMention.exists_writtenOn {line : Text} {i : Nat} (h : StartsMention line i) :
    ∃ m : Mention, m.WrittenOn line ∧ m.first = i := by
  obtain ⟨before, rest, rfl, rfl⟩ := h.exists_append
  exact ⟨_, (Mention.writtenOn_append_iff rfl).2 ⟨startsMention_append_iff.1 h, rfl⟩, rfl⟩

theorem Mention.WrittenOn.isHandle {m : Mention} {line : Text} (h : m.WrittenOn line) :
    WikiSite.isHandle m.handle = true := by
  obtain ⟨before, rest, rfl, hlength⟩ := h.starts.exists_append
  obtain ⟨⟨-, hletter⟩, rfl⟩ := (Mention.writtenOn_append_iff hlength.symm).1 h
  exact isHandle_handleOfRun hletter

theorem Mention.WrittenOn.text {m : Mention} {line : Text} (h : m.WrittenOn line) :
    stretch line m.first m.last = '@' :: m.handle := by
  obtain ⟨before, rest, rfl, hlength⟩ := h.starts.exists_append
  obtain ⟨marks, hrun, -⟩ := h.run
  rw [← hlength, runAt_append] at hrun
  have hrest : rest = m.handle ++ (marks ++ rest.dropWhile isHandleChar) := by
    rw [← List.append_assoc, ← hrun, List.takeWhile_append_dropWhile]
  rw [h.last, ← hlength, hrest, Nat.add_assoc, Nat.add_comm 1, ← List.cons_append]
  exact stretch_append before ('@' :: m.handle) _

/-! ### A mention whose handle is being typed -/

theorem mentionTyped_of_textUpTo {line before typed : Text} {column : Nat}
    (hline : textUpTo line column = before ++ '@' :: typed) (hbefore : mayPrecedeMention before.getLast? = true)
    (htyped : isHandle typed = true) : mentionTyped line column = some ⟨typed, before.length + 1⟩ := by
  have hsign : ∀ c ∈ typed, (c == '@') = false := by
    intro c hc
    have hchar := isHandleChar_of_mem htyped hc
    rw [beq_eq_false_iff_ne]
    rintro rfl
    exact absurd hchar (by decide)
  have hcut : cutAfterLast (· == '@') (textUpTo line column) = some (before ++ ['@'], typed) := by
    rw [hline]
    exact cutAfterLast_append (by decide) hsign before
  unfold mentionTyped
  simp only [hcut]
  simp [hbefore, htyped]

/-- The first characters of a text are of a class just if its longest start of that class has as many. -/
private theorem forall_mem_take_iff {p : Char → Bool} {t : Text} {n : Nat} (hn : n ≤ t.length) :
    (∀ c ∈ t.take n, p c = true) ↔ n ≤ (t.takeWhile p).length := by
  constructor
  · intro h
    have hlong : (t.take n ++ t.drop n).takeWhile p = t.take n ++ (t.drop n).takeWhile p :=
      List.takeWhile_append_of_pos h
    rw [List.take_append_drop] at hlong
    rw [hlong, List.length_append, List.length_take]
    omega
  · intro h c hc
    have hstart : t.take n <+: t.takeWhile p :=
      List.prefix_of_prefix_length_le (List.take_prefix n t) (List.takeWhile_prefix p) (by simp; omega)
    exact List.mem_takeWhile_imp (hstart.subset hc)

/-- The characters behind an `@` are a handle when the first is a letter and they do not leave the run. -/
theorem isHandle_take_iff {rest : Text} {n : Nat} (hpos : 0 < n) (hn : n ≤ rest.length) :
    isHandle (rest.take n) = true ↔
      rest.head?.any isAsciiLetter = true ∧ n ≤ (rest.takeWhile isHandleChar).length := by
  obtain ⟨k, rfl⟩ := Nat.exists_eq_add_of_lt hpos
  cases rest with
  | nil => simp at hn
  | cons c s =>
    have hk : k ≤ s.length := by simpa using hn
    have hchars : (s.take k).all isHandleChar = true ↔ k ≤ (s.takeWhile isHandleChar).length := by
      rw [List.all_eq_true]
      exact forall_mem_take_iff hk
    rw [Nat.zero_add, List.take_succ_cons, isHandle, Bool.and_eq_true, hchars, List.head?_cons, Option.any_some]
    refine and_congr_right fun hletter => ?_
    rw [List.takeWhile_cons_of_pos (by simp [isHandleChar, hletter]), List.length_cons]
    omega

theorem stretch_behind_sign {line before after : Text} {column : Nat}
    (h : textUpTo line column = before ++ '@' :: after) :
    stretch line (before.length + 1) (min column line.length) = after := by
  rw [List.append_cons] at h
  simpa using stretch_of_textUpTo h

/-- A handle is being typed just while the cursor stands in the run of an `@` that starts a mention. -/
theorem mentionTyped_iff {line : Text} {column : Nat} {typed : Typed} :
    (mentionTyped line column = some typed ∧ typed.text ≠ []) ↔
      ∃ i, StartsMention line i ∧ i + 1 < min column line.length ∧
        min column line.length ≤ i + 1 + (runAt line i).length ∧
        typed = ⟨stretch line (i + 1) (min column line.length), i + 1⟩ := by
  constructor
  · rintro ⟨h, hne⟩
    obtain ⟨before, hbefore, hfirst, hmay, hhandle⟩ := mentionTyped_eq_some h
    obtain ⟨text, first⟩ := typed
    change first = before.length + 1 at hfirst
    subst hfirst
    have hhandle : isHandle text = true := hhandle.resolve_left hne
    have hpos : 0 < text.length := List.length_pos_iff.2 hne
    have hcolumn : min column line.length = before.length + 1 + text.length := by
      have hlength := congrArg List.length hbefore
      simp only [textUpTo, List.length_take, List.length_append, List.length_cons] at hlength
      omega
    -- behind the `@` stands what was typed and then what follows the cursor
    obtain ⟨rest, hrest, htext⟩ : ∃ rest, line = before ++ '@' :: rest ∧ rest.take text.length = text := by
      refine ⟨text ++ line.drop column, ?_, by simp⟩
      have hline : textUpTo line column ++ line.drop column = line := List.take_append_drop column line
      rw [hbefore] at hline
      simpa using hline.symm
    have hle : text.length ≤ rest.length := by
      have hlength := congrArg List.length htext
      rw [List.length_take] at hlength
      omega
    obtain ⟨hletter, hrun⟩ := (isHandle_take_iff hpos hle).1 (htext.symm ▸ hhandle)
    refine ⟨before.length, ?_, by omega, ?_, ?_⟩
    · rw [hrest]
      exact startsMention_append_iff.2 ⟨hmay, hletter⟩
    · rw [hrest, runAt_append, ← hrest]
      omega
    · rw [stretch_behind_sign hbefore]
  · rintro ⟨i, hstarts, hafter, hwithin, rfl⟩
    obtain ⟨before, rest, hline, rfl⟩ := hstarts.exists_append
    obtain ⟨n, hn⟩ : ∃ n, min column line.length = before.length + 1 + n := Nat.exists_eq_add_of_le hafter.le
    have hpos : 0 < n := by omega
    have hlength : line.length = before.length + (rest.length + 1) := by simp [hline]
    rw [hline] at hstarts
    obtain ⟨hmay, hletter⟩ := startsMention_append_iff.1 hstarts
    have hrun : n ≤ (rest.takeWhile isHandleChar).length := by
      rw [← runAt_append before rest, ← hline]
      omega
    have hupTo : textUpTo line column = before ++ '@' :: rest.take n := by
      rw [← textUpTo_min, hn, hline]
      unfold textUpTo
      rw [Nat.add_assoc, List.take_length_add_append, Nat.add_comm 1 n, List.take_succ_cons]
    have hhandle : isHandle (rest.take n) = true := (isHandle_take_iff hpos (by omega)).2 ⟨hletter, hrun⟩
    rw [stretch_behind_sign hupTo]
    refine ⟨mentionTyped_of_textUpTo hupTo hmay hhandle, ?_⟩
    intro hempty
    rw [show rest.take n = [] from hempty] at hhandle
    cases hhandle

/-! ### The grammar -/

/-- Mentions are found on a line, and seen while they are typed, by their grammar. -/
structure RecognisesMentions (line : Text) : Prop where
  /-- The mentions come from left to right and lie apart. -/
  apart : (findMentions line).Pairwise fun m n => m.first < n.first ∧ m.last ≤ n.first
  /-- They are those that are written on the line. -/
  found_iff : ∀ m, m ∈ findMentions line ↔ m.WrittenOn line
  /-- There is exactly one for each `@` that starts a mention. -/
  unique : ∀ i, StartsMention line i → ∃! m, m ∈ findMentions line ∧ m.first = i
  handle : ∀ m ∈ findMentions line, m.handle ≠ [] ∧ isHandle m.handle = true
  /-- A handle is being typed just while the cursor is in the run of an `@` that starts a mention. -/
  typed_iff : ∀ column typed, (mentionTyped line column = some typed ∧ typed.text ≠ []) ↔
    ∃ i, StartsMention line i ∧ i + 1 < min column line.length ∧
      min column line.length ≤ i + 1 + (runAt line i).length ∧
      typed = ⟨stretch line (i + 1) (min column line.length), i + 1⟩

theorem recognisesMentions (line : Text) : RecognisesMentions line := by
  have hlaid := laid_findMentions line
  refine ⟨?_, fun m => mem_findMentions_iff, ?_, ?_, fun column typed => mentionTyped_iff⟩
  · refine hlaid.apart.imp_of_mem ?_
    intro m n hm hn hapart
    have := hlaid.inside m hm
    omega
  · intro i hi
    obtain ⟨m, hm, hfirst⟩ := hi.exists_writtenOn
    have hmem : m ∈ findMentions line := mem_findMentions_iff.2 hm
    refine ⟨m, ⟨hmem, hfirst⟩, ?_⟩
    rintro n ⟨hn, hnfirst⟩
    exact hlaid.eq_of_first hn hmem (hnfirst.trans hfirst.symm)
  · intro m hm
    have hhandle := (mem_findMentions_iff.1 hm).isHandle
    refine ⟨?_, hhandle⟩
    intro hempty
    rw [hempty] at hhandle
    cases hhandle

/-- The run of an `@` that starts no mention is passed over, and the next `@` may start one. -/
example : findMentions "x@a.@b.- @@c".toList = [⟨"b".toList, 4, 6⟩] ∧
    mentionTyped "x@a.@b.- @@c".toList 8 = some ⟨"b.-".toList, 5⟩ := by decide

end WikiSite
