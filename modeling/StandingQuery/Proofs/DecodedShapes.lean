import Mathlib.Data.List.Forall2
import StandingQuery.Json.Decode
import StandingQuery.Proofs.Reports

/-!
# Decoded shapes

What the decoders of single shapes accept, exactly: strings, integers of a range, lists item by item. Each also reads a value back from
what it was written as, and says what is wrong with the values that it refuses (`text_stopsAtFirst` and its like). A member that may be
missing holds a value or is absent (`Stored`), and is refused only when something else stands there (`faultAt`).
-/

namespace StandingQuery.Json

variable {α : Type}

/-! ## What is accepted -/

theorem text_eq_ok {j : Json} {t : String} : text j = .ok t ↔ j = .str t := by
  cases j <;> simp [text]

theorem boolean_eq_ok {j : Json} {b : Bool} : boolean j = .ok b ↔ j = .bool b := by
  cases j <;> simp [boolean]

/-- An integer is accepted in its range. -/
theorem integer_eq_ok {name : String} {low high : Int} {j : Json} {i : Int} :
    integer name low high j = .ok i ↔ j = .ofInt i ∧ low ≤ i ∧ i ≤ high := by
  unfold integer ofInt
  split
  · rename_i n
    by_cases h : low ≤ n ∧ n ≤ high
    · simp only [h, and_self, if_true, Except.ok.injEq, num.injEq, Number.int.injEq]
      constructor
      · rintro rfl
        exact ⟨rfl, h⟩
      · exact And.left
    · simp only [h, if_false, reduceCtorEq, num.injEq, Number.int.injEq, false_iff]
      rintro ⟨rfl, hrange⟩
      exact h hrange
  · rename_i hother
    simp only [reduceCtorEq, false_iff]
    rintro ⟨rfl, -⟩
    exact hother i rfl

/-- Steps over a list succeed exactly when the step of each item does. -/
theorem mapM_eq_ok {β ε : Type} {f : β → Except ε α} {items : List β} {as : List α} :
    items.mapM f = .ok as ↔ List.Forall₂ (fun item a => f item = .ok a) items as := by
  induction items generalizing as with
  | nil => rw [List.mapM_nil, pure_eq_ok, List.forall₂_nil_left_iff, eq_comm]
  | cons item items ih =>
    rw [List.mapM_cons, bind_eq_ok]
    constructor
    · rintro ⟨a, hfirst, hrest⟩
      obtain ⟨bs, hbs, hall⟩ := bind_eq_ok.1 hrest
      cases pure_eq_ok.1 hall
      exact .cons hfirst (ih.1 hbs)
    · intro h
      cases h with
      | cons hfirst hrest => exact ⟨_, hfirst, bind_eq_ok.2 ⟨_, ih.2 hrest, rfl⟩⟩

/-- A list is accepted when each of its items is. -/
theorem list_eq_ok {decode : Decoder α} {j : Json} {as : List α} :
    list decode j = .ok as ↔ ∃ items, j = .arr items ∧ List.Forall₂ (fun item a => decode item = .ok a) items as := by
  cases j <;> simp [list, mapM_eq_ok]

/-- A list of strings is accepted as those strings. -/
theorem list_text_eq_ok {j : Json} {ts : List String} : list text j = .ok ts ↔ j = .ofStrings ts := by
  rw [list_eq_ok]
  constructor
  · rintro ⟨items, rfl, hitems⟩
    unfold ofStrings
    congr 1
    induction hitems with
    | nil => rfl
    | cons hfirst hrest ih => rw [text_eq_ok.1 hfirst, ih, List.map_cons]
  · rintro rfl
    refine ⟨ts.map .str, rfl, ?_⟩
    rw [List.forall₂_map_left_iff]
    exact List.forall₂_same.2 fun t _ => rfl

/-! ## What is read back -/

@[simp] theorem ok_bind {ε β : Type} (a : α) (f : α → Except ε β) : ((.ok a : Except ε α) >>= f) = f a := rfl

@[simp] theorem map_ok {ε β : Type} (a : α) (f : α → β) : Except.map f (.ok a : Except ε α) = .ok (f a) := rfl

@[simp] theorem text_str (t : String) : text (.str t) = .ok t := rfl

@[simp] theorem boolean_bool (b : Bool) : boolean (.bool b) = .ok b := rfl

@[simp] theorem object_obj (o : Members) : object (.obj o) = .ok o := rfl

@[simp] theorem list_ofStrings (ts : List String) : list text (.ofStrings ts) = .ok ts := list_text_eq_ok.2 rfl

/-- An integer of a range is read back. -/
theorem integer_ofInt {low high i : Int} (name : String) (h : low ≤ i ∧ i ≤ high) : integer name low high (.ofInt i) = .ok i :=
  integer_eq_ok.2 ⟨rfl, h⟩

/-- A natural number of so many bits is read back. -/
theorem unsigned_ofNat {bits n : Nat} (h : n < Nat.pow 2 bits) : unsigned bits (.ofNat n) = .ok n := by
  have hrange : (0 : Int) ≤ n ∧ (n : Int) ≤ (Nat.pow 2 bits - 1 : Nat) := by
    have hbelow : n ≤ Nat.pow 2 bits - 1 := Nat.le_sub_one_of_lt h
    omega
  have hread := integer_ofInt ("u" ++ Text.decimal bits) hrange
  unfold unsigned ofNat
  unfold ofInt at hread
  rw [hread]
  rfl

/-- Each item of a list is read back. -/
theorem list_map {decode : Decoder α} {encode : α → Json} {as : List α} (h : ∀ a ∈ as, decode (encode a) = .ok a) :
    list decode (.arr (as.map encode)) = .ok as := by
  rw [list_eq_ok]
  refine ⟨_, rfl, ?_⟩
  rw [List.forall₂_map_left_iff]
  exact List.forall₂_same.2 h

/-- A value that may be missing is read back, unless it could be taken for one that is. -/
theorem optional_ofOption {decode : Decoder α} {encode : α → Json} {o : Option α} (hnull : ∀ a, encode a ≠ .null)
    (h : ∀ a ∈ o, decode (encode a) = .ok a) : optional decode (.ofOption encode o) = .ok o := by
  cases o with
  | none => rfl
  | some a =>
    unfold ofOption optional
    split
    · rename_i heq
      exact absurd heq (hnull a)
    · rw [h a rfl]
      rfl

@[simp] theorem optional_text (o : Option String) : optional text (.ofOption .str o) = .ok o :=
  optional_ofOption (fun _ => nofun) fun _ _ => rfl

@[simp] theorem optional_ofStrings (o : Option (List String)) : optional (list text) (.ofOption .ofStrings o) = .ok o :=
  optional_ofOption (fun _ => nofun) fun ts _ => list_ofStrings ts

/-- The members of an object of values of one shape are read back. -/
theorem mapping_map {decode : Decoder α} {encode : α → Json} {members : List (String × α)}
    (h : ∀ m ∈ members, decode (encode m.2) = .ok m.2) :
    mapping decode (.obj (members.map fun m => (m.1, encode m.2))) = .ok members := by
  unfold mapping
  rw [mapM_eq_ok, List.forall₂_map_left_iff]
  refine List.forall₂_same.2 fun m hm => ?_
  rw [h m hm]
  rfl

/-! ## Records -/

@[simp] theorem record_obj {name : String} {size : Nat} {ofMembers : Members → Except Mismatch α} {ofRow : Row → Except Mismatch α}
    (o : Members) : record name size ofMembers ofRow (.obj o) = ofMembers o := rfl

/-- The member at a key: the first one, if it has the key, and otherwise one behind it. -/
@[simp] theorem member_cons (k : String) (v : Json) (o : Members) (key : String) (decode : Decoder α) :
    member ((k, v) :: o) key decode = if key = k then (decode v).map some else member o key decode := by
  unfold member
  rw [Keyed.get?_cons]
  by_cases h : key = k
  · simp only [h, if_true]
  · simp only [h, if_false]

@[simp] theorem required_some (key : String) (a : α) : required key (some a) = .ok a := rfl

/-- What stands at the key of a member is decoded. -/
theorem member_of_get? {decode : Decoder α} {o : Members} {key : String} {j : Json} {a : α} (h : o.get? key = some j)
    (hj : decode j = .ok a) : member o key decode = .ok (some a) := by
  unfold member
  rw [h]
  simp only [hj, map_ok]

/-- A member that has to be there is decoded from what stands there. -/
theorem get?_of_required {decode : Decoder α} {o : Members} {key : String} {d : Option α} {a : α} (h : member o key decode = .ok d)
    (hd : required key d = .ok a) : ∃ j, o.get? key = some j ∧ decode j = .ok a := by
  unfold member at h
  cases hget : o.get? key with
  | none =>
    simp only [hget] at h
    cases h
    cases hd
  | some j =>
    simp only [hget] at h
    cases hj : decode j with
    | error m =>
      rw [hj] at h
      cases h
    | ok b =>
      rw [hj] at h
      cases h
      cases hd
      exact ⟨j, rfl, hj⟩

/-- Whether a member is missing or `null`. -/
def isAbsent (o : Members) (key : String) : Bool :=
  match o.get? key with
  | none | some .null => true
  | some _ => false

/-- Whether a member that may be missing holds this value, or is absent where there is none. -/
def Stored (o : Members) (key : String) (encode : α → Json) : Option α → Prop
  | none => isAbsent o key = true
  | some a => o.get? key = some (encode a)

/-- A value that is stored stands at its key. -/
theorem Stored.get? {o : Members} {key : String} {encode : α → Json} {v : Option α} {a : α} (h : Stored o key encode v)
    (hv : v = some a) : o.get? key = some (encode a) := by
  rw [hv] at h
  exact h

/-- A value is present. -/
theorem isAbsent_of_get? {o : Members} {key : String} {j : Json} (h : o.get? key = some j) (hnull : j ≠ .null) :
    isAbsent o key = false := by
  unfold isAbsent
  rw [h]
  cases j with
  | null => exact absurd rfl hnull
  | _ => rfl

/-- Of a member that may be missing nothing is decoded if it is absent, and otherwise what stands there. -/
theorem decoded_of_member {decode : Decoder α} {o : Members} {key : String} {d : Option (Option α)}
    (h : member o key (optional decode) = .ok d) :
    (d.join = none ∧ isAbsent o key = true) ∨ ∃ j a, d.join = some a ∧ o.get? key = some j ∧ decode j = .ok a := by
  unfold member at h
  unfold isAbsent
  cases hget : o.get? key with
  | none =>
    simp only [hget, Except.ok.injEq] at h
    subst h
    exact Or.inl ⟨rfl, rfl⟩
  | some j =>
    simp only [hget] at h
    unfold optional at h
    split at h
    · cases h
      exact Or.inl ⟨rfl, rfl⟩
    · cases hj : decode j with
      | error m =>
        rw [hj] at h
        cases h
      | ok a =>
        rw [hj] at h
        cases h
        exact Or.inr ⟨j, a, rfl, rfl, hj⟩

/-- What is decoded of a member that may be missing is stored there. -/
theorem stored_of_member {decode : Decoder α} {encode : α → Json} (hdecode : ∀ {j a}, decode j = .ok a → j = encode a) {o : Members}
    {key : String} {d : Option (Option α)} (h : member o key (optional decode) = .ok d) : Stored o key encode d.join := by
  rcases decoded_of_member h with ⟨hnone, habsent⟩ | ⟨j, a, hsome, hget, hj⟩
  · rw [hnone]
    exact habsent
  · rw [hsome]
    exact hget.trans (congrArg some (hdecode hj))

/-- What is stored at a member that may be missing is decoded. -/
theorem member_of_stored {decode : Decoder α} {encode : α → Json} {o : Members} {key : String} {v : Option α}
    (h : Stored o key encode v) (hnull : ∀ a, encode a ≠ .null) (hdecode : ∀ a ∈ v, decode (encode a) = .ok a) :
    ∃ d, member o key (optional decode) = .ok d ∧ d.join = v := by
  cases v with
  | none =>
    have habsent : isAbsent o key = true := h
    unfold isAbsent at habsent
    unfold member
    split at habsent
    · rename_i hget
      rw [hget]
      exact ⟨none, rfl, rfl⟩
    · rename_i hget
      rw [hget]
      exact ⟨some none, rfl, rfl⟩
    · cases habsent
  | some a =>
    have hget : o.get? key = some (encode a) := h
    have hread : optional decode (encode a) = .ok (some a) := optional_ofOption hnull hdecode
    exact ⟨some (some a), member_of_get? hget hread, rfl⟩

/-! ## What is refused -/

/-- What is wrong with a value that is no string. -/
def notText? : Json → Option Mismatch
  | .str _ => none
  | j => some (j.mistyped "a string")

/-- What is wrong with a value that is no integer of a type with this name and this range. -/
def notInteger? (name : String) (low high : Int) : Json → Option Mismatch
  | .num (.int i) => if low ≤ i ∧ i ≤ high then none else some (.outOfRange (Json.found (.num (.int i))) name)
  | j => some (j.mistyped name)

/-- What is wrong with a value that is no list of strings: of a list, the first item that is none. -/
def notTexts? : Json → Option Mismatch
  | .arr items => items.findSome? notText?
  | j => some (j.mistyped "a sequence")

/-- What is wrong with a member that may be missing, if something is there that is not `null`. -/
def faultAt (o : Members) (key : String) (fault? : Json → Option Mismatch) : List Mismatch :=
  match o.get? key with
  | none | some .null => []
  | some j => (fault? j).toList

theorem text_stopsAtFirst (j : Json) : StopsAtFirst (text j) (notText? j).toList := by
  cases j <;> rfl

theorem integer_stopsAtFirst (name : String) (low high : Int) (j : Json) :
    StopsAtFirst (integer name low high j) (notInteger? name low high j).toList := by
  cases j with
  | num n =>
    cases n with
    | int i =>
      unfold integer notInteger?
      by_cases h : low ≤ i ∧ i ≤ high
      · simp only [h, and_self, if_true]
        rfl
      · simp only [h, if_false]
        rfl
    | double bits => rfl
  | _ => rfl

theorem list_text_stopsAtFirst (j : Json) : StopsAtFirst (list text j) (notTexts? j).toList := by
  cases j with
  | arr items => exact mapM_stopsAtFirst text_stopsAtFirst items
  | _ => rfl

/-- A member that may be missing is refused for what is wrong with it. -/
theorem member_stopsAtFirst {decode : Decoder α} {fault? : Json → Option Mismatch}
    (h : ∀ j, StopsAtFirst (decode j) (fault? j).toList) (o : Members) (key : String) :
    StopsAtFirst (member o key (optional decode)) (faultAt o key fault?) := by
  unfold member faultAt
  cases hget : o.get? key with
  | none => rfl
  | some j =>
    cases j with
    | null => rfl
    | _ => exact ((h _).map some).map some

end StandingQuery.Json
