import WikiSite.Proofs.Site.Handles
import WikiSite.Site.Filter

/-!
# Filters in writing

A clause is written as `field == 'v'`, `field != 'v'`, `'v' in field`, `field`, `True` or `False`, and clauses are
joined by `and`. What is written is read as the clauses it was written from (`Filter.ofText_written`).

The text is split at every `and` between blanks. Inside a clause there is none: a value holds none, its quotes keep the
words at its ends apart from the blanks around it, and no field is called `and`. This is put together from the parts of
a clause by `Passes`, which says that splitting passes over a text whatever part of it has been passed over before.
Then each clause is read on its own (`Clause.ofText_text`); its quotes keep a value from being taken for another form.
-/

namespace WikiSite

/-! ### Writing -/

/-- A value between quotes. -/
def singleQuoted (value : Text) : Text := singleQuote :: (value ++ [singleQuote])

/-- A clause as it is written. -/
def Clause.text : Clause → Text
  | .equals field value => field ++ (" == ".toList ++ singleQuoted value)
  | .differs field value => field ++ (" != ".toList ++ singleQuoted value)
  | .contains field value => singleQuoted value ++ (" in ".toList ++ field)
  | .truthy field => field
  | .constant value => if value then "True".toList else "False".toList

/-- A filter as it is written. -/
def Filter.text (f : Filter) : Text := joinWith " and ".toList (f.clauses.map Clause.text)

/-- Whether an `and`, in either case, stands between two blanks. -/
def holdsAnd : Text → Bool
  | [] => false
  | a :: rest =>
    isBlank a && sameLetters (rest.take 3) "and".toList && (rest.drop 3).head?.any isBlank || holdsAnd rest

/-- A field that can be written: a name other than `and`. -/
structure IsField (field : Text) : Prop where
  name : isFieldName field = true
  noAnd : sameLetters field "and".toList = false

/-- A value that can be written: it lies on one line and nothing in it looks like the end of a clause. -/
structure IsValue (value : Text) : Prop where
  noFeed : '\n' ∉ value
  noAnd : holdsAnd value = false

/-- A clause that can be written. -/
def Clause.Writable : Clause → Prop
  | .equals field value | .differs field value | .contains field value => IsField field ∧ IsValue value
  | .truthy field => IsField field ∧ sameLetters field "true".toList = false ∧ sameLetters field "false".toList = false
  | .constant _ => True

/-! ### Characters -/

theorem isBlank_singleQuote : isBlank singleQuote = false := by decide

theorem isBlank_of_all {b : Bool} {t : Text} (h : (t.all fun c => isBlank c == b) = true) :
    ∀ c ∈ t, isBlank c = b := by
  simpa using h

theorem mem_of_sameLetters {s t : Text} (h : sameLetters s t = true) {c : Char} (hc : c ∈ s) :
    c.toLower ∈ t.map Char.toLower := by
  have hmap : s.map Char.toLower = t.map Char.toLower := by simpa [sameLetters] using h
  rw [← hmap]
  exact List.mem_map_of_mem hc

theorem toLower_of_isBlank {c : Char} (h : isBlank c = true) : c.toLower = c := by
  unfold Char.toLower
  split
  · rename_i hupper
    have hfirst : 0x41 ≤ c.toNat := hupper.1
    have hlast : c.toNat ≤ 0x5A := hupper.2
    rw [isBlank_of_toNat (by omega) (by omega)] at h
    cases h
  · rfl

/-- A word whose letters are `and` has no blanks and no quotes in it. -/
theorem of_mem_and {word : Text} (h : sameLetters word "and".toList = true) {c : Char} (hc : c ∈ word) :
    isBlank c = false ∧ c ≠ singleQuote := by
  have hmem := mem_of_sameLetters h hc
  constructor
  · rw [← Bool.not_eq_true]
    intro hblank
    rw [toLower_of_isBlank hblank] at hmem
    have hletters : ∀ d ∈ "and".toList.map Char.toLower, isBlank d = false := isBlank_of_all (by decide)
    rw [hletters c hmem] at hblank
    cases hblank
  · rintro rfl
    exact absurd hmem (by decide)

theorem length_of_sameLetters {s t : Text} (h : sameLetters s t = true) : s.length = t.length := by
  have hmap : s.map Char.toLower = t.map Char.toLower := by simpa [sameLetters] using h
  simpa using congrArg List.length hmap

theorem isBlank_of_isFieldChar {c : Char} (h : isFieldChar c = true) : isBlank c = false := by
  apply isBlank_of_isHandleChar
  simp only [isFieldChar, isFieldStart, Bool.or_eq_true] at h
  simp only [isHandleChar, Bool.or_eq_true]
  tauto

theorem IsField.exists_cons {field : Text} (h : IsField field) :
    (∃ c s, field = c :: s) ∧ ∀ c ∈ field, isFieldChar c = true := by
  have hname := h.name
  cases field with
  | nil => cases hname
  | cons c s =>
    simp only [isFieldName, Bool.and_eq_true, List.all_eq_true] at hname
    refine ⟨⟨c, s, rfl⟩, ?_⟩
    intro d hd
    rcases List.mem_cons.1 hd with rfl | hd
    · simp [isFieldChar, hname.1]
    · exact hname.2 d hd

theorem IsField.not_blank {field : Text} (h : IsField field) {c : Char} (hc : c ∈ field) : isBlank c = false :=
  isBlank_of_isFieldChar (h.exists_cons.2 c hc)

/-! ### Texts that trimming leaves as they are -/

/-- There is something at both ends of the text. -/
structure Trimmed (t : Text) : Prop where
  first : ∃ c s, t = c :: s ∧ isBlank c = false
  last : ∃ s c, t = s ++ [c] ∧ isBlank c = false

namespace Trimmed

theorem of_not_blank {t : Text} (hne : t ≠ []) (h : ∀ c ∈ t, isBlank c = false) : Trimmed t := by
  obtain ⟨c, s, hfirst⟩ := List.exists_cons_of_ne_nil hne
  have hlast := List.dropLast_append_getLast hne
  exact ⟨⟨c, s, hfirst, h c (by simp [hfirst])⟩, ⟨_, _, hlast.symm, h _ (List.getLast_mem hne)⟩⟩

theorem between {s t : Text} (hs : Trimmed s) (ht : Trimmed t) (mid : Text) : Trimmed (s ++ (mid ++ t)) := by
  obtain ⟨c, s', rfl, hc⟩ := hs.first
  obtain ⟨t', d, rfl, hd⟩ := ht.last
  exact ⟨⟨c, _, rfl, hc⟩, ⟨c :: s' ++ (mid ++ t'), d, by simp, hd⟩⟩

theorem trimEnd_append {t : Text} (h : Trimmed t) {blanks : Text} (hblanks : ∀ c ∈ blanks, isBlank c = true) :
    trimEnd (t ++ blanks) = t := by
  obtain ⟨s, c, rfl, hc⟩ := h.last
  unfold trimEnd
  rw [dropEndWhile_append hblanks]
  exact dropEndWhile_eq_self (by simp [hc])

theorem trim_eq {t : Text} (h : Trimmed t) : trim t = t := by
  obtain ⟨c, s, rfl, hc⟩ := h.first
  obtain ⟨s', d, hlast, hd⟩ := h.last
  exact trim_append_of_not_blank hc (by rw [hlast]; simp [hd]) []

end Trimmed

theorem trimmed_singleQuoted (value : Text) : Trimmed (singleQuoted value) :=
  ⟨⟨_, _, rfl, isBlank_singleQuote⟩, ⟨singleQuote :: value, singleQuote, rfl, isBlank_singleQuote⟩⟩

theorem IsField.trimmed {field : Text} (h : IsField field) : Trimmed field := by
  obtain ⟨c, s, rfl⟩ := h.exists_cons.1
  exact .of_not_blank (by simp) fun d hd => h.not_blank hd

theorem Clause.Writable.trimmed {c : Clause} (h : c.Writable) : Trimmed c.text := by
  cases c with
  | equals field value => exact h.1.trimmed.between (trimmed_singleQuoted value) _
  | differs field value => exact h.1.trimmed.between (trimmed_singleQuoted value) _
  | contains field value => exact (trimmed_singleQuoted value).between h.1.trimmed _
  | truthy field => exact h.1.trimmed
  | constant value => cases value <;> exact .of_not_blank (by decide) (isBlank_of_all (by decide))

/-! ### Splitting -/

/-- A split takes up blanks, the letters of `and` and at least one more blank. -/
theorem exists_of_afterAnd {t : Text} (h : afterAnd t ≠ none) :
    ∃ blanks word b after, t = blanks ++ (word ++ b :: after) ∧ blanks ≠ [] ∧ (∀ c ∈ blanks, isBlank c = true) ∧
      sameLetters word "and".toList = true ∧ isBlank b = true := by
  have hblanks := takeWhile_append_trimStart t
  unfold afterAnd at h
  simp only at h
  split at h
  · rename_i hand
    rw [Bool.and_eq_true, decide_eq_true_eq] at hand
    split at h
    · rename_i htail
      have htailBlanks := takeWhile_append_trimStart ((trimStart t).drop 3)
      cases hgap : ((trimStart t).drop 3).takeWhile isBlank with
      | nil =>
        rw [hgap, List.nil_append] at htailBlanks
        rw [htailBlanks] at htail
        omega
      | cons b gap =>
        rw [hgap] at htailBlanks
        refine ⟨t.takeWhile isBlank, (trimStart t).take 3, b, gap ++ trimStart ((trimStart t).drop 3), ?_, ?_,
          fun c hc => List.mem_takeWhile_imp hc, hand.2, List.mem_takeWhile_imp (by rw [hgap]; simp)⟩
        · rw [← List.cons_append, htailBlanks, List.take_append_drop, hblanks]
        · intro hnil
          rw [hnil, List.nil_append] at hblanks
          rw [hblanks] at hand
          omega
    · exact absurd rfl h
  · exact absurd rfl h

/-- Splitting passes over the text, whatever part of it has been passed over, in front of `rest`. -/
def Passes (t rest : Text) : Prop := ∀ u, u ≠ [] → u <:+ t → afterAnd (u ++ rest) = none

namespace Passes

theorem append {s t rest : Text} (hs : Passes s (t ++ rest)) (ht : Passes t rest) : Passes (s ++ t) rest := by
  rintro u hne ⟨before, hcut⟩
  rcases List.append_eq_append_iff.1 hcut with ⟨a, rfl, rfl⟩ | ⟨a, rfl, rfl⟩
  · cases a with
    | nil => exact ht _ hne (List.suffix_refl _)
    | cons c a =>
      rw [List.append_assoc]
      exact hs _ (List.cons_ne_nil c a) (List.suffix_append _ _)
  · exact ht u hne (List.suffix_append a u)

/-- A split starts with a blank. -/
theorem of_not_blank {t : Text} (h : ∀ c ∈ t, isBlank c = false) (rest : Text) : Passes t rest := by
  rintro u hne hsuffix
  obtain ⟨c, s, rfl⟩ := List.exists_cons_of_ne_nil hne
  refine of_not_not fun hsplit => ?_
  obtain ⟨blanks, word, b, after, hcut, hblanks, hall, -⟩ := exists_of_afterAnd hsplit
  obtain ⟨a, blanks, rfl⟩ := List.exists_cons_of_ne_nil hblanks
  obtain rfl : c = a := (List.cons.inj hcut).1
  have hblank := hall c List.mem_cons_self
  rw [h c (hsuffix.subset List.mem_cons_self)] at hblank
  cases hblank

/-- A space is passed over unless the word behind it is `and` with a blank behind it. -/
theorem space {t rest : Text} (ht : Trimmed t)
    (h : ∀ word b after, t ++ rest = word ++ b :: after → sameLetters word "and".toList = true → isBlank b = false) :
    Passes [' '] (t ++ rest) := by
  rintro u hne hsuffix
  obtain ⟨c, s, rfl, hc⟩ := ht.first
  obtain rfl : u = [' '] := (List.suffix_cons_iff.1 hsuffix).resolve_right (by simpa using hne)
  refine of_not_not fun hsplit => ?_
  obtain ⟨blanks, word, b, after, hcut, hblanks, hall, hword, hb⟩ := exists_of_afterAnd hsplit
  obtain ⟨a, blanks, rfl⟩ := List.exists_cons_of_ne_nil hblanks
  cases blanks with
  | nil =>
    rw [h word b after (List.cons.inj hcut).2 hword] at hb
    cases hb
  | cons d blanks =>
    obtain rfl : c = d := (List.cons.inj (List.cons.inj hcut).2).1
    rw [hall c (by simp)] at hc
    cases hc

/-- No `and` starts with another letter. -/
theorem space_other {c : Char} {s rest : Text} (ht : Trimmed (c :: s)) (hc : c.toLower ≠ 'a') :
    Passes [' '] (c :: s ++ rest) := by
  refine space ht fun word b after hcut hword => ?_
  have hmap : word.map Char.toLower = ['a', 'n', 'd'] := by simpa [sameLetters] using hword
  cases word with
  | nil => cases hmap
  | cons d word =>
    obtain rfl : c = d := (List.cons.inj hcut).1
    exact absurd (List.cons.inj hmap).1 hc

/-- A field is not `and`, and it ends where the clause ends. -/
theorem space_field {field rest : Text} (h : IsField field) (hrest : ∀ c ∈ rest.head?, isBlank c = true) :
    Passes [' '] (field ++ rest) := by
  refine space h.trimmed fun word b after hcut hword => ?_
  rcases List.append_eq_append_iff.1 hcut with ⟨a, rfl, ha⟩ | ⟨a, rfl, ha⟩
  · cases a with
    | nil =>
      rw [List.append_nil, h.noAnd] at hword
      cases hword
    | cons d a =>
      -- the word would reach into the blanks behind the field
      have hblank := hrest d (by rw [ha]; rfl)
      rw [(of_mem_and hword (c := d) (by simp)).1] at hblank
      cases hblank
  · cases a with
    | nil =>
      rw [List.append_nil] at h
      rw [h.noAnd] at hword
      cases hword
    | cons d a =>
      obtain rfl : b = d := (List.cons.inj ha).1
      exact h.not_blank (by simp)

end Passes

theorem holdsAnd_append {t : Text} (h : holdsAnd t = true) (s : Text) : holdsAnd (s ++ t) = true := by
  induction s with
  | nil => exact h
  | cons c s ih =>
    rw [List.cons_append, holdsAnd, ih]
    simp

theorem holdsAnd_blanks {blanks word after : Text} {b : Char} (hne : blanks ≠ [])
    (hall : ∀ c ∈ blanks, isBlank c = true) (hword : sameLetters word "and".toList = true) (hb : isBlank b = true) :
    holdsAnd (blanks ++ (word ++ b :: after)) = true := by
  obtain ⟨s, a, rfl⟩ : ∃ s a, blanks = s ++ [a] := ⟨_, _, (List.dropLast_append_getLast hne).symm⟩
  have hlength : word.length = 3 := length_of_sameLetters hword
  rw [List.append_assoc]
  refine holdsAnd_append ?_ s
  rw [List.singleton_append, holdsAnd, ← hlength, List.take_left, List.drop_left, hall a (by simp), hword]
  simp [hb]

namespace Passes

/-- The `and` of a split would lie in front of the quote that ends the value. -/
theorem value {v : Text} (h : holdsAnd v = false) (rest : Text) : Passes v (singleQuote :: rest) := by
  rintro u hne ⟨before, rfl⟩
  refine of_not_not fun hsplit => ?_
  obtain ⟨blanks, word, b, after, hcut, hblanks, hall, hword, hb⟩ := exists_of_afterAnd hsplit
  have hquote : singleQuote ∉ blanks ++ (word ++ [b]) := by
    intro hmem
    have hblank := isBlank_singleQuote
    simp only [List.mem_append, List.mem_singleton] at hmem
    rcases hmem with hmem | hmem | rfl
    · rw [hall _ hmem] at hblank
      cases hblank
    · exact (of_mem_and hword hmem).2 rfl
    · rw [hb] at hblank
      cases hblank
  have hinside : ∃ a, u = blanks ++ (word ++ b :: a) := by
    have hcut : u ++ singleQuote :: rest = (blanks ++ (word ++ [b])) ++ after := by simpa using hcut
    rcases List.append_eq_append_iff.1 hcut with ⟨a, hu, ha⟩ | ⟨a, hu, -⟩
    · cases a with
      | nil => exact ⟨[], by simpa using hu.symm⟩
      | cons d a =>
        obtain rfl : singleQuote = d := (List.cons.inj ha).1
        exact absurd (by simp [hu]) hquote
    · exact ⟨a, by simpa using hu⟩
  obtain ⟨a, rfl⟩ := hinside
  rw [holdsAnd_append (holdsAnd_blanks hblanks hall hword hb) before] at h
  cases h

theorem singleQuoted {v : Text} (h : holdsAnd v = false) (rest : Text) : Passes (singleQuoted v) rest := by
  have hquote : ∀ c ∈ [singleQuote], isBlank c = false := isBlank_of_all (by decide)
  exact (of_not_blank hquote _).append ((value h _).append (of_not_blank hquote rest))

/-- Two parts with a word of two characters between them. -/
theorem between {s t rest : Text} (hs : ∀ rest, Passes s rest) {c d : Char}
    (hop : isBlank c = false ∧ isBlank d = false ∧ c.toLower ≠ 'a') (hspace : Passes [' '] (t ++ rest))
    (ht : Passes t rest) : Passes (s ++ ([' ', c, d, ' '] ++ t)) rest := by
  have hword : ∀ e ∈ [c, d], isBlank e = false := by simp [hop]
  have hfirst : Passes [' '] ([c, d] ++ ([' '] ++ t ++ rest)) :=
    space_other (.of_not_blank (by simp) hword) hop.2.2
  refine (hs _).append ?_
  refine append (s := [' ']) ?_ (append (s := [c, d]) (of_not_blank hword _) (append hspace ht))
  simpa using hfirst

end Passes

/-- Splitting passes over a clause in front of a blank or the end. -/
theorem Clause.Writable.passes {c : Clause} (h : c.Writable) {rest : Text}
    (hrest : ∀ d ∈ rest.head?, isBlank d = true) : Passes c.text rest := by
  have hfield : ∀ {field : Text}, IsField field → ∀ rest, Passes field rest :=
    fun hf rest => .of_not_blank (fun e he => hf.not_blank he) rest
  have hspace : ∀ value rest, Passes [' '] (singleQuoted value ++ rest) :=
    fun value rest => .space_other (trimmed_singleQuoted value) (by decide)
  cases c with
  | equals field value => exact .between (hfield h.1) (by decide) (hspace value rest) (.singleQuoted h.2.noAnd rest)
  | differs field value => exact .between (hfield h.1) (by decide) (hspace value rest) (.singleQuoted h.2.noAnd rest)
  | contains field value =>
    exact .between (Passes.singleQuoted h.2.noAnd) (by decide) (.space_field h.1 hrest) (hfield h.1 rest)
  | truthy field => exact hfield h.1 rest
  | constant value => cases value <;> exact .of_not_blank (isBlank_of_all (by decide)) rest

theorem splitClauses_append {s rest piece : Text} {pieces : List Text} (h : Passes s rest)
    (hrest : splitClauses 0 rest = piece :: pieces) : splitClauses 0 (s ++ rest) = (s ++ piece) :: pieces := by
  induction s with
  | nil => exact hrest
  | cons c s ih =>
    have hnone : afterAnd (c :: (s ++ rest)) = none := h (c :: s) (List.cons_ne_nil c s) (List.suffix_refl _)
    have htail := ih fun u hne hsuffix => h u hne (hsuffix.trans (List.suffix_cons c s))
    rw [List.cons_append, splitClauses, hnone, htail]
    rfl

theorem splitClauses_and {t : Text} (ht : Trimmed t) :
    splitClauses 0 (" and ".toList ++ t) = [] :: splitClauses 0 t := by
  obtain ⟨c, s, rfl, hc⟩ := ht.first
  have hafter : afterAnd (' ' :: 'a' :: 'n' :: 'd' :: ' ' :: c :: s) = some (c :: s) := by
    have hspace : isBlank ' ' = true := by decide
    have hletter : isBlank 'a' = false := by decide
    have hand : sameLetters ['a', 'n', 'd'] ['a', 'n', 'd'] = true := by decide
    simp [afterAnd, trimStart, hspace, hletter, hc, hand]
  show splitClauses 0 (' ' :: 'a' :: 'n' :: 'd' :: ' ' :: c :: s) = _
  rw [splitClauses, hafter]
  have hskip : (' ' :: 'a' :: 'n' :: 'd' :: ' ' :: c :: s).length - (c :: s).length - 1 = 4 := by
    simp only [List.length_cons]
    omega
  simp only [hskip]
  rfl

theorem Filter.trimmed_text {cs : List Clause} (hne : cs ≠ []) (h : ∀ c ∈ cs, c.Writable) :
    Trimmed (Filter.text ⟨cs⟩) := by
  induction cs with
  | nil => exact absurd rfl hne
  | cons c cs ih =>
    rw [List.forall_mem_cons] at h
    cases cs with
    | nil => exact h.1.trimmed
    | cons d cs =>
      have hjoin := h.1.trimmed.between (ih (List.cons_ne_nil d cs) h.2) " and ".toList
      rw [← List.append_assoc] at hjoin
      exact hjoin

theorem Filter.splitClauses_text {cs : List Clause} (hne : cs ≠ []) (h : ∀ c ∈ cs, c.Writable) :
    splitClauses 0 (Filter.text ⟨cs⟩) = cs.map Clause.text := by
  induction cs with
  | nil => exact absurd rfl hne
  | cons c cs ih =>
    rw [List.forall_mem_cons] at h
    cases cs with
    | nil =>
      have hpass : Passes c.text [] := h.1.passes (by simp)
      have hwhole := splitClauses_append hpass rfl
      simpa [Filter.text, joinWith] using hwhole
    | cons d cs =>
      have hand := splitClauses_and (Filter.trimmed_text (List.cons_ne_nil d cs) h.2)
      have hpass : Passes c.text (" and ".toList ++ Filter.text ⟨d :: cs⟩) := by
        refine h.1.passes fun e he => ?_
        obtain rfl : ' ' = e := by simpa using he
        decide
      have hsplit := splitClauses_append hpass hand
      rw [ih (List.cons_ne_nil d cs) h.2, List.append_nil, ← List.append_assoc] at hsplit
      exact hsplit

/-! ### Reading -/

theorem unquote_singleQuoted (v : Text) : unquote (singleQuoted v) = v := by
  have hlast : (singleQuoted v).getLast? = some singleQuote := List.getLast?_concat (l := singleQuote :: v)
  unfold unquote
  simp only [(trimmed_singleQuoted v).trim_eq, hlast]
  rw [if_pos (by simp [singleQuoted])]
  simp [singleQuoted]

theorem IsValue.singleQuoted_feed {value : Text} (h : IsValue value) : (singleQuoted value).contains '\n' = false := by
  have hquote : '\n' ≠ singleQuote := by decide
  simp [singleQuoted, h.noFeed, hquote]

theorem not_sameLetters_of_space {t : Text} (h : ' ' ∈ t) :
    sameLetters t "true".toList = false ∧ sameLetters t "false".toList = false := by
  constructor
  · rw [← Bool.not_eq_true]
    intro hsame
    exact absurd (mem_of_sameLetters hsame h) (by decide)
  · rw [← Bool.not_eq_true]
    intro hsame
    exact absurd (mem_of_sameLetters hsame h) (by decide)

/-- A field in front of something else is found. -/
theorem IsField.takeWhile_append {field : Text} (h : IsField field) {d : Char} (hd : isFieldChar d = false) (t : Text) :
    (field ++ d :: t).takeWhile isFieldChar = field :=
  takeWhile_append_cons h.exists_cons.2 hd t

theorem comparison?_text {field value : Text} (hfield : IsField field) (hvalue : IsValue value) :
    comparison? (Clause.equals field value).text = some (.equals field value) ∧
      comparison? (Clause.differs field value).text = some (.differs field value) := by
  have hspace : isFieldChar ' ' = false := by decide
  have hblank : ∀ c ∈ [' '], isBlank c = true := isBlank_of_all (by decide)
  have hvalueText : trimStart (' ' :: singleQuoted value) = singleQuoted value := by
    obtain ⟨c, s, hcons, hc⟩ := (trimmed_singleQuoted value).first
    rw [hcons]
    exact dropWhile_append_cons (s := [' ']) hblank hc s
  have hne : (singleQuoted value).isEmpty = false := rfl
  have hop : ∀ c, isBlank c = false →
      trimStart (' ' :: c :: '=' :: ' ' :: singleQuoted value) = c :: '=' :: ' ' :: singleQuoted value :=
    fun c hc => dropWhile_append_cons (s := [' ']) hblank hc _
  constructor
  · show comparison? (field ++ ' ' :: '=' :: '=' :: ' ' :: singleQuoted value) = _
    simp only [comparison?, hfield.takeWhile_append hspace, hfield.name, List.drop_left, hop '=' (by decide),
      hvalueText, hvalue.singleQuoted_feed, hne, unquote_singleQuoted]
    rfl
  · show comparison? (field ++ ' ' :: '!' :: '=' :: ' ' :: singleQuoted value) = _
    simp only [comparison?, hfield.takeWhile_append hspace, hfield.name, List.drop_left, hop '!' (by decide),
      hvalueText, hvalue.singleQuoted_feed, hne, unquote_singleQuoted]
    rfl

/-- The last word of a text. -/
theorem beforeWord_append {t word : Text} (ht : Trimmed t) (hword : ∀ c ∈ word, isBlank c = false) :
    beforeWord (fun c => !isBlank c) (t ++ ([' '] ++ word)) = some (t, word) := by
  have hlast : ((t ++ ([' '] ++ word)).reverse.takeWhile fun c => !isBlank c) = word.reverse := by
    have hparts : (t ++ ([' '] ++ word)).reverse = word.reverse ++ ' ' :: t.reverse := by simp
    rw [hparts]
    exact takeWhile_append_cons (by simpa using hword) (by decide) _
  have hrest : (t ++ ([' '] ++ word)).take ((t ++ ([' '] ++ word)).length - word.length) = t ++ [' '] := by
    rw [← List.append_assoc, List.length_append, Nat.add_sub_cancel, List.take_left]
  unfold beforeWord
  have htrim : trimEnd (t ++ [' ']) = t := ht.trimEnd_append (isBlank_of_all (by decide))
  simp only [hlast, List.reverse_reverse, hrest, htrim]
  rw [if_pos (by simp)]

theorem membership?_text {field value : Text} (hfield : IsField field) (hvalue : IsValue value) :
    membership? (Clause.contains field value).text = some (.contains field value) := by
  have hfirst : beforeWord (fun c => !isBlank c) (Clause.contains field value).text =
      some (singleQuoted value ++ ([' '] ++ "in".toList), field) := by
    have htrimmed : Trimmed (singleQuoted value ++ ([' '] ++ "in".toList)) :=
      (trimmed_singleQuoted value).between (.of_not_blank (by decide) (isBlank_of_all (by decide))) _
    have hword := beforeWord_append htrimmed (fun c hc => hfield.not_blank hc)
    simpa [Clause.text] using hword
  have hsecond : beforeWord (fun c => !isBlank c) (singleQuoted value ++ ([' '] ++ "in".toList)) =
      some (singleQuoted value, "in".toList) :=
    beforeWord_append (trimmed_singleQuoted value) (isBlank_of_all (by decide))
  have hne : (singleQuoted value).isEmpty = false := rfl
  simp only [membership?, hfirst, hsecond, hfield.name, hvalue.singleQuoted_feed, hne, unquote_singleQuoted]
  rfl

/-- What is written of a clause is read as the clause. -/
theorem Clause.ofText_text {c : Clause} (h : c.Writable) : Clause.ofText c.text = .ok c := by
  have htrim := h.trimmed.trim_eq
  unfold ofText
  simp only [htrim]
  cases c with
  | equals field value =>
    have hwords := not_sameLetters_of_space (t := (Clause.equals field value).text) (by simp [text])
    simp only [hwords, (comparison?_text h.1 h.2).1]
    rfl
  | differs field value =>
    have hwords := not_sameLetters_of_space (t := (Clause.differs field value).text) (by simp [text])
    simp only [hwords, (comparison?_text h.1 h.2).2]
    rfl
  | contains field value =>
    have hwords := not_sameLetters_of_space (t := (Clause.contains field value).text) (by simp [text])
    -- the quote in front is no field
    have hcomparison : comparison? (Clause.contains field value).text = none := rfl
    simp only [hwords, hcomparison, membership?_text h.1 h.2]
    rfl
  | truthy field =>
    have hall := h.1.exists_cons.2
    have hcomparison : comparison? field = none := by
      simp [comparison?, List.takeWhile_eq_self_iff.2 hall, h.1.name, trimStart]
    have hmembership : membership? field = none := by
      have hword : (field.reverse.takeWhile fun c => !isBlank c) = field.reverse :=
        List.takeWhile_eq_self_iff.2 (by simpa using fun c hc => h.1.not_blank hc)
      simp [membership?, beforeWord, hword]
    show (if sameLetters field "true".toList then _ else _) = _
    simp only [text, h.2.1, h.2.2, hcomparison, hmembership, h.1.name]
    rfl
  | constant value => cases value <;> rfl

theorem mapM_ofText_text {cs : List Clause} (h : ∀ c ∈ cs, c.Writable) :
    (cs.map Clause.text).mapM Clause.ofText = .ok cs := by
  induction cs with
  | nil => rfl
  | cons c cs ih =>
    rw [List.forall_mem_cons] at h
    rw [List.map_cons, List.mapM_cons, Clause.ofText_text h.1, ih h.2]
    rfl

/-- A filter that is written and read is the filter, and it selects the posts of which all its clauses hold. -/
theorem Filter.ofText_written {f : Filter} (hne : f.clauses ≠ []) (h : ∀ c ∈ f.clauses, c.Writable) :
    Filter.ofText f.text = .ok f ∧
      ∀ (m : Metadata) (slug : Text), f.selects m slug = true ↔ ∀ c ∈ f.clauses, c.holds m slug = true := by
  obtain ⟨cs⟩ := f
  constructor
  · obtain ⟨c, s, hcons, -⟩ := (Filter.trimmed_text hne h).first
    unfold ofText
    simp only [(Filter.trimmed_text hne h).trim_eq]
    rw [if_neg (by simp [hcons]), Filter.splitClauses_text hne h, mapM_ofText_text h]
    rfl
  · intro m slug
    exact List.all_eq_true

/-- Values that hold quotes, operators and an `and` at the end, a value with nothing in it, and fields that start like
other words. -/
theorem Filter.ofText_written_mixed :
    let f : Filter := ⟨[.equals "a".toList "' in b == 'c".toList, .differs "slug".toList " and".toList,
      .contains "True".toList [], .truthy "and_".toList, .constant false]⟩
    f.text = "a == '' in b == 'c' and slug != ' and' and '' in True and and_ and False".toList ∧
      Filter.ofText f.text = .ok f := by
  intro f
  refine ⟨by decide, (Filter.ofText_written (by decide) ?_).1⟩
  intro c hc
  simp only [f, List.mem_cons, List.not_mem_nil, or_false] at hc
  rcases hc with rfl | rfl | rfl | rfl | rfl
  · exact ⟨⟨by decide, by decide⟩, ⟨by decide, by decide⟩⟩
  · exact ⟨⟨by decide, by decide⟩, ⟨by decide, by decide⟩⟩
  · exact ⟨⟨by decide, by decide⟩, ⟨by decide, by decide⟩⟩
  · exact ⟨⟨by decide, by decide⟩, by decide, by decide⟩
  · trivial

end WikiSite
