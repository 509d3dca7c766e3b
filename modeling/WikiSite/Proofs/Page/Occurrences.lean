import WikiSite.Page.Mention
import WikiSite.Proofs.Text.Cutting

/-!
# Finding what was typed

A line is searched for links and mentions from left to right, and what has been found is passed over. Neither a link
nor a mention that starts earlier can reach over the brackets of a later link or the `@` of a later mention, so the
search arrives there with nothing to pass over (`linksFrom_append`, `mentionsFrom_append`). Behind the brackets a link
is read up to the brackets that close it (`linkBody_eq_some_iff`). A link being typed starts at the first brackets that
can be its own (`openLinkFrom_eq_some`), and what is typed there and closed is found as a link (`mem_findWikilinks`);
likewise for mentions (`mem_findMentions`).
-/

namespace WikiSite

/-! ### Links -/

theorem noBracketOrBar_iff {c : Char} : noBracketOrBar c = true ↔ noBracket c = true ∧ (c != '|') = true := by
  simp [noBracketOrBar, noBracket, and_assoc]

/-- Up to the brackets that close a link its inside is read, parted at the first bar. -/
theorem linkBody_append {w : Text} (hw : ∀ c ∈ w, noBracket c = true) (rest : Text) :
    linkBody (w ++ ']' :: ']' :: rest) =
      some (w.takeWhile (· != '|'), (w.dropWhile (· != '|')).tail?, w.length + 2) := by
  by_cases hmem : '|' ∈ w
  · obtain ⟨s, d, rfl, hs⟩ := List.eq_append_cons_of_mem hmem
    have hbar : ∀ c ∈ s, (c != '|') = true := fun c hc => bne_iff_ne.2 fun h => hs (h ▸ hc)
    have htarget : ∀ c ∈ s, noBracketOrBar c = true :=
      fun c hc => noBracketOrBar_iff.2 ⟨hw c (by simp [hc]), hbar c hc⟩
    have hdisplay : ∀ c ∈ d, noBracket c = true := fun c hc => hw c (by simp [hc])
    rw [List.append_assoc, List.cons_append, takeWhile_append_cons hbar (by decide),
      dropWhile_append_cons hbar (by decide)]
    simp only [linkBody, takeWhile_append_cons htarget (show noBracketOrBar '|' = false by decide),
      dropWhile_append_cons htarget (show noBracketOrBar '|' = false by decide),
      takeWhile_append_cons hdisplay (show noBracket ']' = false by decide),
      dropWhile_append_cons hdisplay (show noBracket ']' = false by decide)]
    simp
    omega
  · have hbar : ∀ c ∈ w, (c != '|') = true := fun c hc => bne_iff_ne.2 fun h => hmem (h ▸ hc)
    have htarget : ∀ c ∈ w, noBracketOrBar c = true := fun c hc => noBracketOrBar_iff.2 ⟨hw c hc, hbar c hc⟩
    rw [List.takeWhile_eq_self_iff.2 hbar, List.dropWhile_eq_nil_iff.2 hbar]
    simp only [linkBody, takeWhile_append_cons htarget (show noBracketOrBar ']' = false by decide),
      dropWhile_append_cons htarget (show noBracketOrBar ']' = false by decide)]
    rfl

/-- What is read of a link is an inside without brackets and the brackets that close it. -/
theorem exists_of_linkBody {t : Text} (h : (linkBody t).isSome = true) :
    ∃ w rest, t = w ++ ']' :: ']' :: rest ∧ ∀ c ∈ w, noBracket c = true := by
  have hcut : t.takeWhile noBracketOrBar ++ t.dropWhile noBracketOrBar = t := List.takeWhile_append_dropWhile
  have htarget : ∀ c ∈ t.takeWhile noBracketOrBar, noBracket c = true :=
    fun c hc => (noBracketOrBar_iff.1 (List.mem_takeWhile_imp hc)).1
  simp only [linkBody] at h
  split at h
  · rename_i rest hrest
    exact ⟨_, rest, by rw [← hrest, hcut], htarget⟩
  · rename_i rest hrest
    have hcut' : rest.takeWhile noBracket ++ rest.dropWhile noBracket = rest := List.takeWhile_append_dropWhile
    have hdisplay : ∀ c ∈ rest.takeWhile noBracket, noBracket c = true := fun c hc => List.mem_takeWhile_imp hc
    split at h
    · rename_i rest' hrest'
      refine ⟨t.takeWhile noBracketOrBar ++ '|' :: rest.takeWhile noBracket, rest', ?_, ?_⟩
      · rw [List.append_assoc, List.cons_append, ← hrest', hcut', ← hrest, hcut]
      · intro c hc
        rcases List.mem_append.1 hc with hc | hc
        · exact htarget c hc
        · rcases List.mem_cons.1 hc with rfl | hc
          · decide
          · exact hdisplay c hc
    · cases h
  · cases h

theorem linkBody_eq_some_iff {t target : Text} {display : Option Text} {used : Nat} :
    linkBody t = some (target, display, used) ↔ ∃ w rest, t = w ++ ']' :: ']' :: rest ∧ (∀ c ∈ w, noBracket c = true) ∧
      target = w.takeWhile (· != '|') ∧ display = (w.dropWhile (· != '|')).tail? ∧ used = w.length + 2 := by
  constructor
  · intro h
    obtain ⟨w, rest, rfl, hw⟩ := exists_of_linkBody (by rw [h]; rfl)
    rw [linkBody_append hw rest] at h
    cases h
    exact ⟨w, rest, rfl, hw, rfl, rfl, rfl⟩
  · rintro ⟨w, rest, rfl, hw, rfl, rfl, rfl⟩
    exact linkBody_append hw rest

/-- What is read of a link holds no opening bracket. -/
theorem linkBody_eq_some {t target : Text} {display : Option Text} {used : Nat}
    (h : linkBody t = some (target, display, used)) :
    ∃ body rest, t = body ++ rest ∧ body.length = used ∧ '[' ∉ body := by
  obtain ⟨w, rest, rfl, hw, -, -, rfl⟩ := linkBody_eq_some_iff.1 h
  refine ⟨w ++ [']', ']'], rest, by simp, by simp, ?_⟩
  intro hmem
  rcases List.mem_append.1 hmem with hmem | hmem
  · exact absurd (hw _ hmem) (by decide)
  · simp at hmem

/-- A link ends in front of the next opening bracket. -/
private theorem used_le {before rest target : Text} {display : Option Text} {used : Nat}
    (h : linkBody (before ++ '[' :: rest) = some (target, display, used)) : used ≤ before.length := by
  obtain ⟨body, rest', hcut, rfl, hbody⟩ := linkBody_eq_some h
  rcases List.append_eq_append_iff.1 hcut with ⟨s, rfl, hs⟩ | ⟨s, rfl, -⟩
  · cases s with
    | nil => simp
    | cons c s =>
      cases hs
      simp at hbody
  · simp

/-- A search goes on at a character that opens no link. -/
private theorem linksFrom_other {c : Char} {rest : Text} (h : ¬ (c = '[' ∧ rest.head? = some '[')) (column : Nat) :
    linksFrom 0 column (c :: rest) = linksFrom 0 (column + 1) rest := by
  rw [linksFrom]
  rintro inner rfl rfl
  exact h ⟨rfl, rfl⟩

/-- Brackets behind which a link stands are found. -/
private theorem linksFrom_link {inner target : Text} {display : Option Text} {used : Nat}
    (h : linkBody inner = some (target, display, used)) (column : Nat) :
    linksFrom 0 column ('[' :: '[' :: inner) = (linkOf target display column (column + 2 + used)).toList ++
      linksFrom (used + 1) (column + 1) ('[' :: inner) := by
  conv => lhs; rw [linksFrom, h]

private theorem linksFrom_noLink {inner : Text} (h : linkBody inner = none) (column : Nat) :
    linksFrom 0 column ('[' :: '[' :: inner) = linksFrom 0 (column + 1) ('[' :: inner) := by
  conv => lhs; rw [linksFrom, h]

/-- A third bracket opens nothing. -/
private theorem linkBody_open (inner : Text) : linkBody ('[' :: inner) = none := by
  unfold linkBody
  rw [List.dropWhile_cons_of_neg (by decide)]
  rfl

/-- What stands in front of the brackets of a link does not hide them. -/
theorem linksFrom_append (before inner : Text) {skip : Nat} (hskip : skip ≤ before.length) (column : Nat) :
    ∃ found, linksFrom skip column (before ++ '[' :: '[' :: inner) =
      found ++ linksFrom 0 (column + before.length) ('[' :: '[' :: inner) := by
  induction before generalizing skip column with
  | nil =>
    have hskip : skip = 0 := by simpa using hskip
    exact ⟨[], by simp [hskip]⟩
  | cons c before ih =>
    have hcolumn : column + (c :: before).length = column + 1 + before.length := by simp; omega
    rw [hcolumn, List.cons_append]
    cases skip with
    | succ skip => exact ih (by simpa using hskip) (column + 1)
    | zero =>
      have hnext := ih (Nat.zero_le _) (column + 1)
      by_cases hopen : c = '[' ∧ (before ++ '[' :: '[' :: inner).head? = some '['
      · obtain ⟨rfl, hhead⟩ := hopen
        cases before with
        | nil =>
          rw [List.nil_append, linksFrom_noLink (linkBody_open inner)]
          exact hnext
        | cons d before =>
          -- both brackets stand in front, and so does the link behind them if there is one
          obtain rfl : d = '[' := by simpa using hhead
          rw [List.cons_append]
          cases hbody : linkBody (before ++ '[' :: '[' :: inner) with
          | none =>
            rw [linksFrom_noLink hbody]
            exact hnext
          | some body =>
            obtain ⟨target, display, used⟩ := body
            have hused : used + 1 ≤ ('[' :: before).length := by simpa using used_le hbody
            obtain ⟨found, hfound⟩ := ih hused (column + 1)
            refine ⟨(linkOf target display column (column + 2 + used)).toList ++ found, ?_⟩
            rw [linksFrom_link hbody, List.append_assoc, ← hfound, List.cons_append]
      · rw [linksFrom_other hopen]
        exact hnext

/-- A link being typed starts at the first brackets that can be its own. -/
theorem openLinkFrom_eq_some {column : Nat} {t : Text} {typed : Typed} (h : openLinkFrom column t = some typed) :
    ∃ before, t = before ++ '[' :: '[' :: typed.text ∧ typed.first = column + before.length + 2 ∧
      before.getLast? ≠ some '[' ∧ typed.text.all (fun c => c != ']' && c != '|') = true := by
  fun_induction openLinkFrom column t with
  | case1 column rest hall =>
    cases h
    exact ⟨[], rfl, rfl, by simp, hall⟩
  | case2 column rest hall ih =>
    obtain ⟨before, ht, hfirst, hlast, htyped⟩ := ih h
    refine ⟨'[' :: before, by rw [ht]; rfl, by simp; omega, ?_, htyped⟩
    cases before with
    | nil =>
      -- then the first brackets could be its own
      cases ht
      exact absurd (by simpa using htyped) hall
    | cons c before => simpa using hlast
  | case3 column c rest hother ih =>
    obtain ⟨before, ht, hfirst, hlast, htyped⟩ := ih h
    refine ⟨c :: before, by rw [ht]; rfl, by simp; omega, ?_, htyped⟩
    cases before with
    | nil =>
      cases ht
      intro hc
      cases hc
      exact hother _ rfl rfl
    | cons d before => simpa using hlast
  | case4 => cases h

theorem linkOf_eq_some_iff {target : Text} {display : Option Text} {first last : Nat} {l : Wikilink} :
    linkOf target display first last = some l ↔
      trim target ≠ [] ∧ ⟨trim target, (display.map trim).filter (!·.isEmpty), first, last⟩ = l := by
  unfold linkOf
  simp only [List.isEmpty_iff, ite_eq_iff]
  simp

/-- A link is found, whatever else is on the line. -/
theorem mem_findWikilinks_of_linkBody {inner target : Text} {display : Option Text} {used : Nat}
    (hbody : linkBody inner = some (target, display, used)) {before : Text} {l : Wikilink}
    (hl : linkOf target display before.length (before.length + 2 + used) = some l) :
    l ∈ findWikilinks (before ++ '[' :: '[' :: inner) := by
  obtain ⟨found, hfound⟩ := linksFrom_append before inner (Nat.zero_le _) 0
  unfold findWikilinks
  rw [hfound, Nat.zero_add, linksFrom_link hbody, hl]
  simp

/-- A target between brackets is found. -/
theorem mem_findWikilinks (before : Text) {target : Text} (htarget : ∀ c ∈ target, noBracketOrBar c = true)
    (htrim : trim target = target) (hne : target ≠ []) (after : Text) :
    ∃ l ∈ findWikilinks (before ++ '[' :: '[' :: (target ++ ']' :: ']' :: after)),
      l.first = before.length ∧ l.target = target := by
  have hbody := linkBody_append (fun c hc => (noBracketOrBar_iff.1 (htarget c hc)).1) after
  have hbar : target.takeWhile (· != '|') = target :=
    List.takeWhile_eq_self_iff.2 fun c hc => (noBracketOrBar_iff.1 (htarget c hc)).2
  rw [hbar] at hbody
  exact ⟨_, mem_findWikilinks_of_linkBody hbody (linkOf_eq_some_iff.2 ⟨htrim.symm ▸ hne, rfl⟩), rfl, htrim⟩

/-! ### Mentions -/

theorem exists_letter_of_isHandle {handle : Text} (h : isHandle handle = true) :
    ∃ c rest, handle = c :: rest ∧ isAsciiLetter c = true := by
  cases handle with
  | nil => cases h
  | cons c rest =>
    rw [isHandle, Bool.and_eq_true] at h
    exact ⟨c, rest, rfl, h.1⟩

theorem isHandleChar_of_mem {handle : Text} (h : isHandle handle = true) {c : Char} (hc : c ∈ handle) :
    isHandleChar c = true := by
  obtain ⟨d, rest, rfl, hletter⟩ := exists_letter_of_isHandle h
  rw [isHandle, Bool.and_eq_true, List.all_eq_true] at h
  rcases List.mem_cons.1 hc with rfl | hc
  · simp [isHandleChar, hletter]
  · exact h.2 c hc

/-- A search goes on at a character that starts no run. -/
private theorem mentionsFrom_other {c : Char} {rest : Text} (h : ¬ (c == '@' && rest.head?.any isAsciiLetter) = true)
    (column : Nat) (previous : Option Char) :
    mentionsFrom 0 column previous (c :: rest) = mentionsFrom 0 (column + 1) (some c) rest := by
  rw [mentionsFrom, if_neg h]

/-- A run is passed over. -/
private theorem mentionsFrom_run {c : Char} {rest : Text} (h : (c == '@' && rest.head?.any isAsciiLetter) = true)
    (column : Nat) (previous : Option Char) :
    ∃ found, mentionsFrom 0 column previous (c :: rest) =
      found ++ mentionsFrom (rest.takeWhile isHandleChar).length (column + 1) (some c) rest := by
  rw [mentionsFrom, if_pos h]
  exact ⟨_, rfl⟩

/-- What stands in front of an `@` does not hide the mention that starts there. -/
theorem mentionsFrom_append (before rest : Text) {skip : Nat} (hskip : skip ≤ before.length) (column : Nat)
    (previous : Option Char) :
    ∃ found, mentionsFrom skip column previous (before ++ '@' :: rest) =
      found ++ mentionsFrom 0 (column + before.length) (before.getLast?.or previous) ('@' :: rest) := by
  induction before generalizing skip column previous with
  | nil =>
    have hskip : skip = 0 := by simpa using hskip
    exact ⟨[], by simp [hskip]⟩
  | cons c before ih =>
    have hcolumn : column + (c :: before).length = column + 1 + before.length := by simp; omega
    rw [hcolumn, List.cons_append, getLast?_cons_or]
    cases skip with
    | succ skip => exact ih (by simpa using hskip) (column + 1) (some c)
    | zero =>
      by_cases hopen : (c == '@' && ((before ++ '@' :: rest).head?.any isAsciiLetter)) = true
      · -- the run of the mention that starts here ends in front of the next `@`
        have hrun : ((before ++ '@' :: rest).takeWhile isHandleChar).length ≤ before.length := by
          rw [List.takeWhile_append]
          split
          · rw [List.takeWhile_cons_of_neg (by decide)]
            simp
          · exact (List.takeWhile_sublist _).length_le
        obtain ⟨here, hhere⟩ := mentionsFrom_run hopen column previous
        obtain ⟨found, hfound⟩ := ih hrun (column + 1) (some c)
        exact ⟨here ++ found, by rw [hhere, hfound, List.append_assoc]⟩
      · rw [mentionsFrom_other hopen]
        exact ih (Nat.zero_le _) (column + 1) (some c)

theorem mentionTyped_eq_some {line : Text} {column : Nat} {typed : Typed} (h : mentionTyped line column = some typed) :
    ∃ before, textUpTo line column = before ++ '@' :: typed.text ∧ typed.first = before.length + 1 ∧
      mayPrecedeMention before.getLast? = true ∧ (typed.text = [] ∨ isHandle typed.text = true) := by
  unfold mentionTyped at h
  simp only at h
  split at h
  · cases h
  · rename_i upTo text hcut
    obtain ⟨before, c, hc, rfl, hline⟩ := cutAfterLast_eq_some hcut
    split at h
    · cases h
    · rename_i hbefore
      split at h
      · cases h
      · rename_i hhandle
        cases h
        refine ⟨before, ?_, by simp, by simpa using hbefore, ?_⟩
        · rw [hline, beq_iff_eq.1 hc]
        · by_cases hempty : text = []
          · exact .inl hempty
          · exact .inr (by simpa [hempty] using hhandle)

/-- A handle behind an `@` is found, whatever else is on the line. -/
theorem mem_findMentions {before handle after : Text} (hbefore : mayPrecedeMention before.getLast? = true)
    (hhandle : isHandle handle = true) (hlast : ∀ c ∈ handle.getLast?, c ≠ '.' ∧ c ≠ '-')
    (hafter : ∀ c ∈ after.head?, isHandleChar c = false) :
    ⟨handle, before.length, before.length + 1 + handle.length⟩ ∈ findMentions (before ++ '@' :: (handle ++ after)) := by
  have hchars : ∀ c ∈ handle, isHandleChar c = true := fun c hc => isHandleChar_of_mem hhandle hc
  obtain ⟨c, rest, rfl, hletter⟩ := exists_letter_of_isHandle hhandle
  have hrun : (c :: rest ++ after).takeWhile isHandleChar = c :: rest := by
    rw [List.takeWhile_append_of_pos hchars]
    cases after with
    | nil => simp
    | cons d after => simp [hafter d rfl]
  have hhandleOf : handleOfRun (c :: rest) = c :: rest := by
    refine dropEndWhile_eq_self fun d hd => ?_
    simpa using hlast d hd
  obtain ⟨found, hfound⟩ := mentionsFrom_append before (c :: rest ++ after) (Nat.zero_le _) 0 none
  unfold findMentions
  rw [hfound, Nat.zero_add, Option.or_none, mentionsFrom, if_pos (by simp [hletter]), hrun]
  simp [hbefore, hhandleOf]

end WikiSite
