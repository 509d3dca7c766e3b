import WikiSite.Json.Value
import WikiSite.Proofs.Table

/-!
# Well-formed values

What holds everywhere in a value is told by `Json.all`, and `parts_induction` passes from the parts of a value to the
value. In a well-formed value the numbers are those that a JSON value can hold and the members of every object are in
order, so sorting leaves it as it is (`sorted_of_wellFormed`).
-/

namespace WikiSite

namespace Json

/-! ### Parts of a value -/

/-- A property that passes from the parts of a value to the value holds of every value. -/
@[elab_as_elim]
theorem parts_induction {motive : Json → Prop} (v : Json) (null : motive .null) (bool : ∀ b, motive (.bool b))
    (num : ∀ n, motive (.num n)) (str : ∀ t, motive (.str t))
    (arr : ∀ items, (∀ v ∈ items, motive v) → motive (.arr items))
    (obj : ∀ members, (∀ m ∈ members, motive m.2) → motive (.obj members)) : motive v :=
  @Json.rec motive (fun items => ∀ v ∈ items, motive v) (fun members => ∀ m ∈ members, motive m.2)
    (fun m => motive m.2) null bool num str arr obj (fun _ h => nomatch h)
    (fun _ _ hv hs => List.forall_mem_cons.2 ⟨hv, hs⟩) (fun _ h => nomatch h)
    (fun _ _ hm hs => List.forall_mem_cons.2 ⟨hm, hs⟩) (fun _ _ hv => hv) v

mutual

/-- Whether a condition holds of a value and of every value in it. -/
def all (p : Json → Bool) : Json → Bool
  | .arr items => p (.arr items) && allItems p items
  | .obj members => p (.obj members) && allMembers p members
  | v => p v

/-- Whether a condition holds everywhere in the items of an array. -/
def allItems (p : Json → Bool) : List Json → Bool
  | [] => true
  | v :: rest => all p v && allItems p rest

/-- Whether a condition holds everywhere in the members of an object. -/
def allMembers (p : Json → Bool) : List (Text × Json) → Bool
  | [] => true
  | (_, v) :: rest => all p v && allMembers p rest

end

mutual

/-- How many arrays and objects are open at once where a value nests deepest. -/
def nesting : Json → Nat
  | .arr items => nestingItems items + 1
  | .obj members => nestingMembers members + 1
  | _ => 0

/-- The deepest nesting of the items of an array. -/
def nestingItems : List Json → Nat
  | [] => 0
  | v :: rest => max (nesting v) (nestingItems rest)

/-- The deepest nesting of the members of an object. -/
def nestingMembers : List (Text × Json) → Nat
  | [] => 0
  | (_, v) :: rest => max (nesting v) (nestingMembers rest)

end

mutual

/-- The value with the members of every object in the order of their names; of members with the same name the last
one counts. -/
def sorted : Json → Json
  | .arr items => .arr (sortedItems items)
  | .obj members => .obj (Table.ofEntries (sortedMembers members))
  | v => v

/-- The sorted items of an array. -/
def sortedItems : List Json → List Json
  | [] => []
  | v :: rest => sorted v :: sortedItems rest

/-- The members of an object with sorted values. -/
def sortedMembers : List (Text × Json) → List (Text × Json)
  | [] => []
  | (name, v) :: rest => (name, sorted v) :: sortedMembers rest

end

theorem allItems_iff {p : Json → Bool} {items : List Json} :
    allItems p items = true ↔ ∀ v ∈ items, v.all p = true := by
  induction items with
  | nil => simp [allItems]
  | cons v items ih => simp [allItems, ih]

theorem allMembers_iff {p : Json → Bool} {members : List (Text × Json)} :
    allMembers p members = true ↔ ∀ m ∈ members, m.2.all p = true := by
  induction members with
  | nil => simp [allMembers]
  | cons m members ih => simp [allMembers, ih]

theorem nestingItems_lt {items : List Json} {d : Nat} (hd : 0 < d) :
    nestingItems items < d ↔ ∀ v ∈ items, v.nesting < d := by
  induction items with
  | nil => simpa [nestingItems] using hd
  | cons v items ih => rw [nestingItems, Nat.max_lt, ih, List.forall_mem_cons]

theorem nestingMembers_lt {members : List (Text × Json)} {d : Nat} (hd : 0 < d) :
    nestingMembers members < d ↔ ∀ m ∈ members, m.2.nesting < d := by
  induction members with
  | nil => simpa [nestingMembers] using hd
  | cons m members ih => rw [nestingMembers, Nat.max_lt, ih, List.forall_mem_cons]

theorem sortedItems_eq (items : List Json) : sortedItems items = items.map sorted := by
  induction items with
  | nil => rfl
  | cons v items ih => rw [sortedItems, ih, List.map_cons]

theorem sortedMembers_eq (members : List (Text × Json)) :
    sortedMembers members = members.map fun m => (m.1, m.2.sorted) := by
  induction members with
  | nil => rfl
  | cons m members ih => rw [sortedMembers, ih, List.map_cons]

theorem all_arr {p : Json → Bool} {items : List Json} :
    (Json.arr items).all p = true ↔ p (.arr items) = true ∧ ∀ v ∈ items, v.all p = true := by
  rw [all, Bool.and_eq_true, allItems_iff]

theorem all_obj {p : Json → Bool} {members : List (Text × Json)} :
    (Json.obj members).all p = true ↔ p (.obj members) = true ∧ ∀ m ∈ members, m.2.all p = true := by
  rw [all, Bool.and_eq_true, allMembers_iff]

/-- Two conditions that hold everywhere in a value give what they give together. -/
theorem all_of_all {p q r : Json → Bool} (h : ∀ v, p v = true → q v = true → r v = true) {v : Json}
    (hp : v.all p = true) (hq : v.all q = true) : v.all r = true := by
  induction v using parts_induction with
  | null => exact h _ hp hq
  | bool b => exact h _ hp hq
  | num n => exact h _ hp hq
  | str t => exact h _ hp hq
  | arr items ih =>
    rw [all_arr] at hp hq ⊢
    exact ⟨h _ hp.1 hq.1, fun v hv => ih v hv (hp.2 v hv) (hq.2 v hv)⟩
  | obj members ih =>
    rw [all_obj] at hp hq ⊢
    exact ⟨h _ hp.1 hq.1, fun m hm => ih m hm (hp.2 m hm) (hq.2 m hm)⟩

/-! ### Well-formed values -/

/-- Whether an integer is one that a JSON value can hold. -/
def fits (n : Int) : Bool := -9223372036854775808 ≤ n && n < limit64

/-- Whether a value, apart from the values in it, is one that the type of JSON values stands for. -/
def proper : Json → Bool
  | .num (.int n) => fits n
  | .num (.real d) => d.isFinite
  | .obj members => decide (Table.Ordered members)
  | _ => true

/-- Numbers are integers of 64 bits or finite doubles, and the members of objects are in order. -/
def WellFormed (v : Json) : Prop := v.all proper = true

/-- Whether a value is no double. -/
def notReal : Json → Bool
  | .num (.real _) => false
  | _ => true

/-- No number in the value is a double. -/
def FloatFree (v : Json) : Prop := v.all notReal = true

/-- Whether a value, apart from the values in it, is read back from its text. -/
def plain : Json → Bool
  | .num (.int n) => fits n
  | .num (.real _) => false
  | _ => true

theorem WellFormed.plain {v : Json} (h : v.WellFormed) (hf : v.FloatFree) : v.all Json.plain = true := by
  refine all_of_all ?_ h hf
  intro v hp hq
  cases v with
  | num n =>
    cases n with
    | int n => exact hp
    | real d => cases hq
  | _ => rfl

/-- An object with well-formed members is read back, also when they are not in order. -/
theorem plain_obj {members : List (Text × Json)} (h : ∀ m ∈ members, m.2.WellFormed)
    (hf : (Json.obj members).FloatFree) : (Json.obj members).all plain = true :=
  all_obj.2 ⟨rfl, fun m hm => (h m hm).plain ((all_obj.1 hf).2 m hm)⟩

/-- A well-formed value is sorted. -/
theorem sorted_of_wellFormed {v : Json} (h : v.WellFormed) : v.sorted = v := by
  unfold WellFormed at h
  induction v using parts_induction with
  | null => rfl
  | bool b => rfl
  | num n => rfl
  | str t => rfl
  | arr items ih =>
    rw [all_arr] at h
    rw [sorted, sortedItems_eq, List.map_congr_left fun v hv => ih v hv (h.2 v hv), List.map_id']
  | obj members ih =>
    rw [all_obj] at h
    have ho : Table.Ordered members := of_decide_eq_true h.1
    have hm : (members.map fun m => (m.1, m.2.sorted)) = members := by
      refine (List.map_congr_left ?_).trans (List.map_id' members)
      intro m hm
      exact Prod.ext rfl (ih m hm (h.2 m hm))
    rw [sorted, sortedMembers_eq, hm, ho.ofEntries_eq]

end Json

end WikiSite
