import WikiSite.Proofs.Json.RoundTrip
import WikiSite.Rpc.Message

/-!
# Messages and their JSON values

A message that is read from a well-formed value is regular (`regular_of_ofJson?`): a request has an id other than
null, a response has a result or an error and not both, an error code is the one of its number, and data is not null.
A regular message is read back from its own JSON value once the members are sorted (`ofJson?_sorted_toJson`), so it is
read back from its text (`Regular.read_body`).
-/

namespace WikiSite

/-! ### The form of a message -/

/-- A number that is an id has 64 bits with a sign. -/
def RequestId.Fits : RequestId → Prop
  | .number n => isInt64 n = true
  | _ => True

/-- The form of the errors that are read. -/
structure ResponseError.Regular (e : ResponseError) : Prop where
  /-- The code is the one of a number of 64 bits. -/
  code : ∃ n, isInt64 n = true ∧ e.code = .ofNumber n
  /-- Data is not null. -/
  data : ∀ d, e.data = some d → d.WellFormed ∧ d.isNull = false

/-- The form of the messages that are read. -/
inductive Message.Regular : Message → Prop where
  | request {id : RequestId} {method : Text} {params : Json} :
      id ≠ .null → id.Fits → params.WellFormed → Regular (.request id method params)
  | notification {method : Text} {params : Json} : params.WellFormed → Regular (.notification method params)
  | success {id : RequestId} {result : Json} : id.Fits → result.WellFormed → Regular (.response id (some result) none)
  | failure {id : RequestId} {e : ResponseError} : id.Fits → e.Regular → Regular (.response id none (some e))

/-! ### What is read is regular -/

theorem present_eq_some {o : Option Json} {v : Json} : present o = some v ↔ o = some v ∧ v.isNull = false := by
  unfold present
  rw [Option.filter_eq_some_iff]
  simp

/-- What holds everywhere in a record holds everywhere in its members. -/
theorem Json.all_of_recordMembers {p : Json → Bool} {names : List String} {v : Json} (hv : v.all p = true)
    {os : List (Option Json)} (h : recordMembers names v = some os) {w : Json} (hw : some w ∈ os) : w.all p = true := by
  cases v with
  | obj members =>
    cases h
    obtain ⟨n, -, hn⟩ := List.mem_map.1 hw
    exact (Json.all_obj.1 hv).2 _ (Table.mem_of_get? hn)
  | arr items =>
    simp only [recordMembers] at h
    split at h
    · cases h
    · cases h
      obtain ⟨i, -, hi⟩ := List.mem_map.1 hw
      exact (Json.all_arr.1 hv).2 _ (List.mem_of_getElem? hi)
  | _ => cases h

theorem wellFormed_of_recordMembers {names : List String} {v : Json} (hv : v.WellFormed) {os : List (Option Json)}
    (h : recordMembers names v = some os) {w : Json} (hw : some w ∈ os) : w.WellFormed :=
  Json.all_of_recordMembers hv h hw

/-- A member that may be missing is read from a value that is not null. -/
theorem optionalMember_eq_some {α : Type} {read : Json → Option α} {o : Option Json} {a : α}
    (h : optionalMember read o = some (some a)) : ∃ v, o = some v ∧ read v = some a := by
  unfold optionalMember at h
  split at h
  · rename_i v hv
    rw [Option.map_eq_some_iff] at h
    obtain ⟨b, hb, e⟩ := h
    cases e
    exact ⟨v, (present_eq_some.1 hv).1, hb⟩
  · cases h

theorem Json.isInt64_of_asInt64? {v : Json} {n : Int} (h : v.asInt64? = some n) : isInt64 n = true := by
  unfold Json.asInt64? at h
  split at h
  · split at h
    · cases h
      assumption
    · cases h
  · cases h

theorem RequestId.fits_of_ofJson? {v : Json} {id : RequestId} (h : RequestId.ofJson? v = some id) : id.Fits := by
  unfold RequestId.ofJson? at h
  split at h
  · cases h
    trivial
  · cases h
    trivial
  · rw [Option.map_eq_some_iff] at h
    obtain ⟨n, hn, rfl⟩ := h
    exact Json.isInt64_of_asInt64? hn

theorem ResponseError.regular_of_ofJson? {v : Json} (hv : v.WellFormed) {e : ResponseError}
    (h : ResponseError.ofJson? v = some e) : e.Regular := by
  unfold ResponseError.ofJson? at h
  split at h
  · rename_i code message data hr
    simp only [Option.bind_eq_bind, Option.bind_eq_some_iff] at h
    obtain ⟨n, ⟨c, -, hn⟩, t, -, he⟩ := h
    cases he
    refine ⟨⟨n, Json.isInt64_of_asInt64? hn, rfl⟩, ?_⟩
    intro d hd
    obtain ⟨rfl, hnull⟩ := present_eq_some.1 hd
    exact ⟨wellFormed_of_recordMembers hv hr (by simp), hnull⟩
  · cases h

theorem Json.wellFormed_null : Json.null.WellFormed := rfl

/-- A member that is left out counts as null. -/
private theorem wellFormed_getD_present {o : Option Json} (h : ∀ v, o = some v → v.WellFormed) :
    ((present o).getD .null).WellFormed := by
  cases hp : present o with
  | none => exact Json.wellFormed_null
  | some v => exact h v (present_eq_some.1 hp).1

/-- Members of the right form make up a regular message. -/
theorem Message.ofMembers_regular {id : Option RequestId} {method : Option Text} {params result : Option Json}
    {error : Option ResponseError} (hid : ∀ i, id = some i → i.Fits) (hparams : (params.getD .null).WellFormed)
    (hresult : (result.getD .null).WellFormed) (herror : ∀ e, error = some e → e.Regular) :
    (Message.ofMembers id method params result error).Regular := by
  have hgetD : (id.getD .null).Fits := by
    cases id with
    | none => trivial
    | some i => exact hid i rfl
  unfold Message.ofMembers
  cases method with
  | some m =>
    simp only
    split
    · exact .request (by simp) (hid _ rfl) hparams
    · exact .request (by simp) trivial hparams
    · exact .notification hparams
  | none =>
    cases error with
    | some e => exact .failure hgetD (herror e rfl)
    | none => exact .success hgetD hresult

/-- A message that is read from a well-formed value is regular. -/
theorem Message.regular_of_ofJson? {v : Json} (hv : v.WellFormed) {m : Message} (h : Message.ofJson? v = some m) :
    m.Regular := by
  unfold Message.ofJson? at h
  split at h
  · rename_i version id method params result error hr
    have hw : ∀ w, some w ∈ [version, id, method, params, result, error] → w.WellFormed :=
      fun w => wellFormed_of_recordMembers hv hr
    simp only [Option.bind_eq_bind, Option.bind_eq_some_iff] at h
    obtain ⟨-, -, i, hi, t, -, e, he, hm⟩ := h
    cases hm
    refine Message.ofMembers_regular ?_ (wellFormed_getD_present ?_) (wellFormed_getD_present ?_) ?_
    · rintro j rfl
      obtain ⟨w, -, hj⟩ := optionalMember_eq_some hi
      exact RequestId.fits_of_ofJson? hj
    · rintro w rfl
      exact hw w (by simp)
    · rintro w rfl
      exact hw w (by simp)
    · rintro f rfl
      obtain ⟨w, rfl, hf⟩ := optionalMember_eq_some he
      exact ResponseError.regular_of_ofJson? (hw w (by simp)) hf
  · cases h

/-! ### A regular message is read back -/

/-- The code of a number has this number. -/
theorem ErrorCode.number_ofNumber (n : Int) : (ErrorCode.ofNumber n).number = n := by
  unfold ErrorCode.ofNumber
  split
  · exact Eq.symm ‹_›
  split
  · exact Eq.symm ‹_›
  split
  · exact Eq.symm ‹_›
  split
  · exact Eq.symm ‹_›
  split
  · exact Eq.symm ‹_›
  split
  · exact Eq.symm ‹_›
  · rfl

theorem Json.asInt64?_int {n : Int} (h : isInt64 n = true) : (Json.int n).asInt64? = some n := by
  simp [Json.int, Json.asInt64?, h]

theorem present_some {v : Json} (h : v.isNull = false) : present (some v) = some v :=
  present_eq_some.2 ⟨rfl, h⟩

/-- An id is read back as a member, and null as none. -/
theorem RequestId.Fits.optionalMember_sorted {id : RequestId} (h : id.Fits) :
    optionalMember RequestId.ofJson? (some id.toJson.sorted) = some (if id = .null then none else some id) := by
  cases id with
  | number n =>
    have hn : isInt64 n = true := h
    show ((Json.int n).asInt64?.map RequestId.number).map some = _
    rw [Json.asInt64?_int hn]
    rfl
  | text t => rfl
  | null => rfl

/-- Where the members of an error stand in its sorted value. -/
private theorem ResponseError.recordMembers_sorted (e : ResponseError) :
    recordMembers ["code", "message", "data"] (Json.obj e.members).sorted =
      some [some (.int e.code.number), some (.str e.message), e.data.map Json.sorted] := by
  obtain ⟨code, message, data⟩ := e
  cases data <;> rfl

/-- An error is read back from its sorted members. -/
theorem ResponseError.Regular.ofJson?_sorted {e : ResponseError} (h : e.Regular) :
    ResponseError.ofJson? (Json.obj e.members).sorted = some e := by
  obtain ⟨n, hn, hcode⟩ := h.code
  have hnumber : e.code.number = n := by rw [hcode, ErrorCode.number_ofNumber]
  have hdata : present (e.data.map Json.sorted) = e.data := by
    cases hd : e.data with
    | none => rfl
    | some d =>
      obtain ⟨hwf, hnull⟩ := h.data d hd
      rw [Option.map_some, Json.sorted_of_wellFormed hwf, present_some hnull]
  unfold ResponseError.ofJson?
  rw [e.recordMembers_sorted]
  simp [hnumber, Json.asInt64?_int hn, Json.asText?, hdata, ← hcode]

/-- Where the members of a message stand in its sorted value. -/
private theorem Message.recordMembers_sorted (m : Message) :
    recordMembers ["jsonrpc", "id", "method", "params", "result", "error"] m.toJson.sorted =
      some (match m with
        | .request id method params =>
          [some (.ofString "2.0"), some id.toJson.sorted, some (.str method),
            if params.isNull then none else some params.sorted, none, none]
        | .notification method params =>
          [some (.ofString "2.0"), none, some (.str method), if params.isNull then none else some params.sorted, none,
            none]
        | .response id result none =>
          [some (.ofString "2.0"), some id.toJson.sorted, none, none, some (result.getD .null).sorted, none]
        | .response id _ (some e) =>
          [some (.ofString "2.0"), some id.toJson.sorted, none, none, none, some (Json.obj e.members).sorted]) := by
  cases m with
  | request id method params =>
    simp only [Message.toJson, Message.members]
    split <;> rfl
  | notification method params =>
    simp only [Message.toJson, Message.members]
    split <;> rfl
  | response id result error =>
    cases error <;> rfl

/-- Parameters that are left out when they are null are read back. -/
private theorem getD_present_params {params : Json} (h : params.WellFormed) :
    (present (if params.isNull then none else some params.sorted)).getD .null = params := by
  cases hn : params.isNull with
  | true =>
    cases params with
    | null => rfl
    | _ => cases hn
  | false =>
    rw [if_neg (by decide), Json.sorted_of_wellFormed h, present_some hn]
    rfl

/-- A regular message is read back from its JSON value once the members are sorted. -/
theorem Message.Regular.ofJson?_sorted_toJson {m : Message} (h : m.Regular) : Message.ofJson? m.toJson.sorted = some m := by
  have hversion : (Json.ofString "2.0").asText? = some "2.0".toList := rfl
  have hnone : ∀ {α : Type} (read : Json → Option α), optionalMember read none = some none := fun _ => rfl
  have hmethod : ∀ t, optionalMember Json.asText? (some (.str t)) = some (some t) := fun _ => rfl
  unfold Message.ofJson?
  rw [m.recordMembers_sorted]
  cases h with
  | @request id method params hnull hfits hwf =>
    simp only [hversion, hfits.optionalMember_sorted, if_neg hnull, hmethod, hnone, Option.bind_eq_bind,
      Option.bind_some, Option.pure_def]
    cases id with
    | null => exact absurd rfl hnull
    | _ => simp only [Message.ofMembers, getD_present_params hwf]
  | @notification method params hwf =>
    simp only [hversion, hmethod, hnone, Option.bind_eq_bind, Option.bind_some, Option.pure_def, Message.ofMembers,
      getD_present_params hwf]
  | @success id result hfits hwf =>
    have hresult : (present (some result.sorted)).getD .null = result := by
      rw [Json.sorted_of_wellFormed hwf]
      cases result <;> rfl
    simp only [hversion, hfits.optionalMember_sorted, hnone, Option.bind_eq_bind, Option.bind_some, Option.pure_def,
      Message.ofMembers, Option.getD_some, hresult]
    -- a null id is read as no id, which counts as null in a response
    cases id <;> rfl
  | @failure id e hfits he =>
    have herror : optionalMember ResponseError.ofJson? (some (Json.obj e.members).sorted) = some (some e) := by
      show (ResponseError.ofJson? (Json.obj e.members).sorted).map some = _
      rw [he.ofJson?_sorted]
      rfl
    simp only [hversion, hfits.optionalMember_sorted, hnone, herror, Option.bind_eq_bind, Option.bind_some,
      Option.pure_def, Message.ofMembers]
    cases id <;> rfl

/-! ### The text of a message -/

theorem Json.wellFormed_int {n : Int} (h : isInt64 n = true) : (Json.int n).WellFormed := by
  show Json.fits n = true
  have hlimit : (limit64 : Int) = 18446744073709551616 := rfl
  simp only [isInt64, Json.fits, hlimit, Bool.and_eq_true, decide_eq_true_eq] at h ⊢
  omega

theorem Json.wellFormed_str (t : Text) : (Json.str t).WellFormed := rfl

theorem RequestId.Fits.wellFormed_toJson {id : RequestId} (h : id.Fits) : id.toJson.WellFormed := by
  cases id with
  | number n => exact Json.wellFormed_int h
  | text t => rfl
  | null => rfl

theorem ResponseError.Regular.wellFormed_of_mem {e : ResponseError} (h : e.Regular) {m : Text × Json}
    (hm : m ∈ e.members) : m.2.WellFormed := by
  obtain ⟨n, hn, hcode⟩ := h.code
  unfold ResponseError.members at hm
  rw [hcode, ErrorCode.number_ofNumber] at hm
  simp only [List.cons_append, List.nil_append, List.mem_cons, Option.mem_toList, Option.map_eq_some_iff] at hm
  rcases hm with rfl | rfl | ⟨d, hd, rfl⟩
  · exact Json.wellFormed_int hn
  · exact Json.wellFormed_str _
  · exact (h.data d hd).1

/-- The numbers in the value of a regular message are integers of 64 bits, unless they are doubles. -/
theorem Message.Regular.plain_toJson {m : Message} (h : m.Regular) (hf : m.toJson.FloatFree) :
    m.toJson.all Json.plain = true := by
  have hparams : ∀ {params : Json} {n : Text × Json}, params.WellFormed →
      n ∈ (if params.isNull then [] else [("params".toList, params)]) → n.2.WellFormed := by
    intro params n hwf hn
    split at hn
    · cases hn
    · rw [List.mem_singleton.1 hn]
      exact hwf
  cases h with
  | request hnull hfits hwf =>
    refine Json.plain_obj ?_ hf
    intro n hn
    simp only [Message.members, List.cons_append, List.nil_append, List.mem_cons] at hn
    rcases hn with rfl | rfl | rfl | hn
    · exact Json.wellFormed_str _
    · exact hfits.wellFormed_toJson
    · exact Json.wellFormed_str _
    · exact hparams hwf hn
  | notification hwf =>
    refine Json.plain_obj ?_ hf
    intro n hn
    simp only [Message.members, List.cons_append, List.nil_append, List.mem_cons] at hn
    rcases hn with rfl | rfl | hn
    · exact Json.wellFormed_str _
    · exact Json.wellFormed_str _
    · exact hparams hwf hn
  | success hfits hwf =>
    refine Json.plain_obj ?_ hf
    intro n hn
    simp only [Message.members, List.cons_append, List.nil_append, List.mem_cons, List.not_mem_nil, or_false] at hn
    rcases hn with rfl | rfl | rfl
    · exact Json.wellFormed_str _
    · exact hfits.wellFormed_toJson
    · exact hwf
  | failure hfits he =>
    -- the members of the error are not in order, so the error is not a well-formed member
    refine Json.all_obj.2 ⟨rfl, ?_⟩
    intro n hn
    have hfn := (Json.all_obj.1 hf).2 n hn
    simp only [Message.members, List.cons_append, List.nil_append, List.mem_cons, List.not_mem_nil, or_false] at hn
    rcases hn with rfl | rfl | rfl
    · rfl
    · exact hfits.wellFormed_toJson.plain hfn
    · exact Json.plain_obj (fun _ => he.wellFormed_of_mem) hfn

/-- The text of a regular message without doubles holds the sorted value of the message. -/
theorem Message.Regular.read_body {m : Message} (h : m.Regular) (hf : m.toJson.FloatFree)
    (hd : m.toJson.nesting < Json.depthLimit) : Json.read m.body = some m.toJson.sorted :=
  Json.read_write (h.plain_toJson hf) hd

end WikiSite
