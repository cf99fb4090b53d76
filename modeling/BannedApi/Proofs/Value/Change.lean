import BannedApi.Value.Kind

/-!
Changing a document: one field of a mapping, or one item of a list, with everything else left as it
was.

`AgreeOff keys x y` says that two mappings have the same fields but for those named in `keys`. A
change of one field gives a mapping that agrees with the old one off that field.
-/
namespace BannedApi

namespace Scalar

theorem sameKey_text (k : Scalar) (key : String) : k.sameKey (.text key) = (k == .text key) := by
  cases k with
  | bool b => rfl
  | number n => rfl
  | null => rfl
  | text s => rfl
  | moment m => rfl
  | bytes data => rfl

end Scalar

namespace Value

/-! ### Mappings -/

theorem isSome_entries? : ∀ v : Value, v.entries?.isSome = true ↔ v.kind = .map
  | .scalar s => by cases s <;> simp [entries?, kind, Scalar.kind] <;> split <;> simp
  | .list _ => by simp [entries?, kind]
  | .map _ => by simp [entries?, kind]
  | .tuple _ => by simp [entries?, kind]
  | .set _ => by simp [entries?, kind]
  | .knot _ v => by rw [entries?, kind]; exact isSome_entries? v
  | .unwritten => by simp [entries?, kind]

theorem isNull_iff {v : Value} : v.isNull = true ↔ v = .null := by
  constructor
  · intro h
    unfold isNull at h
    split at h
    · rfl
    · cases h
  · rintro rfl
    rfl

theorem isNull_of_kind {v : Value} (h : v.kind ≠ .null) : v.isNull = false := by
  unfold isNull
  split
  · exact absurd rfl h
  · rfl

/-- The value of a name in a list of entries: that of the first entry with this name. -/
def entryOf (key : String) (entries : List (Scalar × Value)) : Option Value :=
  (entries.find? fun e => e.1 == .text key).map (·.2)

theorem field?_eq (key : String) (v : Value) : v.field? key = v.entries?.bind (entryOf key) := by
  unfold field? entryOf
  cases v.entries? <;> rfl

/-! ### Changing a field -/

/-- Change the value of a name in a list of entries. -/
def changeEntry (key : String) (f : Value → Value) : List (Scalar × Value) → List (Scalar × Value)
  | [] => []
  | e :: rest => if e.1 == .text key then (e.1, f e.2) :: rest else e :: changeEntry key f rest

/-- Change the value of a field; a field that is missing stays missing. -/
def changeField (key : String) (f : Value → Value) : Value → Value
  | .map entries => .map (changeEntry key f entries)
  | .knot label v => .knot label (v.changeField key f)
  | v => v

/-- Give a field a value, whether it was there or not. -/
def putField (key : String) : Value → Value → Value
  | .map entries, item => .map (putEntry (.text key) item entries)
  | .knot label v, item => .knot label (v.putField key item)
  | v, _ => v

/-- Change an item of a list. -/
def changeItem (index : Nat) (f : Value → Value) : Value → Value
  | .list items => .list (items.modify index f)
  | .knot label v => .knot label (v.changeItem index f)
  | v => v

theorem entryOf_changeEntry (key k : String) (f : Value → Value) :
    ∀ entries : List (Scalar × Value), entryOf k (changeEntry key f entries)
      = if k = key then (entryOf k entries).map f else entryOf k entries
  | [] => by simp [changeEntry, entryOf]
  | (s, x) :: rest => by
    have ih := entryOf_changeEntry key k f rest
    unfold entryOf at ih ⊢
    by_cases hs : s = .text key
    · by_cases hk : k = key
      · simp [changeEntry, hs, hk]
      · have hne : ¬ key = k := fun h => hk h.symm
        simp [changeEntry, hs, hk, hne]
    · by_cases hsk : s = .text k
      · have hk : ¬ k = key := fun h => hs (h ▸ hsk)
        simp [changeEntry, hsk, hk]
      · simp only [changeEntry, beq_iff_eq, hs, if_false, List.find?_cons,
          beq_eq_false_iff_ne.2 hsk]
        exact ih

theorem field?_changeField (key k : String) (f : Value → Value) : ∀ v : Value,
    (v.changeField key f).field? k = if k = key then (v.field? k).map f else v.field? k
  | .map entries => by
    simpa [field?_eq, changeField, entries?] using entryOf_changeEntry key k f entries
  | .knot _ v => by
    have ih := field?_changeField key k f v
    simpa only [field?_eq, changeField, entries?] using ih
  | .scalar _ => by simp [field?, changeField, entries?]
  | .list _ => by simp [field?, changeField, entries?]
  | .tuple _ => by simp [field?, changeField, entries?]
  | .set _ => by simp [field?, changeField, entries?]
  | .unwritten => by simp [field?, changeField, entries?]

theorem field_changeField {key : String} {v part : Value} (h : v.field? key = some part)
    (f : Value → Value) : (v.changeField key f).field key = f part := by
  rw [field, field?_changeField, if_pos rfl, h]
  rfl

@[simp] theorem kind_changeField (key : String) (f : Value → Value) : ∀ v : Value,
    (v.changeField key f).kind = v.kind
  | .map _ => rfl
  | .knot _ v => by rw [changeField, kind, kind]; exact kind_changeField key f v
  | .scalar _ => rfl
  | .list _ => rfl
  | .tuple _ => rfl
  | .set _ => rfl
  | .unwritten => rfl

theorem entryOf_putEntry (key k : String) (item : Value) : ∀ entries : List (Scalar × Value),
    entryOf k (putEntry (.text key) item entries) = if k = key then some item else entryOf k entries
  | [] => by
    by_cases hk : k = key
    · simp [putEntry, entryOf, hk]
    · have hne : ¬ key = k := fun h => hk h.symm
      simp [putEntry, entryOf, hk, hne]
  | (s, x) :: rest => by
    have ih := entryOf_putEntry key k item rest
    unfold entryOf at ih ⊢
    rw [putEntry, Scalar.sameKey_text]
    by_cases hs : s = .text key
    · by_cases hk : k = key
      · simp [hs, hk]
      · have hne : ¬ key = k := fun h => hk h.symm
        simp [hs, hk, hne]
    · by_cases hsk : s = .text k
      · have hk : ¬ k = key := fun h => hs (h ▸ hsk)
        simp [hsk, hk]
      · simp only [beq_iff_eq, hs, if_false, List.find?_cons, beq_eq_false_iff_ne.2 hsk]
        exact ih

theorem field?_putField (key k : String) (item : Value) : ∀ {v : Value}, v.kind = .map →
    (v.putField key item).field? k = if k = key then some item else v.field? k
  | .map entries, _ => by
    simpa [field?_eq, putField, entries?] using entryOf_putEntry key k item entries
  | .knot _ v, h => by
    have ih := field?_putField key k item (v := v) (by simpa only [kind] using h)
    simpa only [field?_eq, putField, entries?] using ih
  | .scalar s, h => by
    have hsome := (isSome_entries? (.scalar s)).2 h
    simp [entries?] at hsome
  | .list _, h => by simp [kind] at h
  | .tuple _, h => by simp [kind] at h
  | .set _, h => by simp [kind] at h
  | .unwritten, h => by simp [kind] at h

@[simp] theorem kind_putField (key : String) (item : Value) : ∀ v : Value,
    (v.putField key item).kind = v.kind
  | .map _ => rfl
  | .knot _ v => by rw [putField, kind, kind]; exact kind_putField key item v
  | .scalar _ => rfl
  | .list _ => rfl
  | .tuple _ => rfl
  | .set _ => rfl
  | .unwritten => rfl

/-! ### Changing an item -/

theorem items?_changeItem (index : Nat) (f : Value → Value) : ∀ v : Value,
    (v.changeItem index f).items? = v.items?.map (·.modify index f)
  | .list _ => rfl
  | .knot _ v => by rw [changeItem, items?, items?]; exact items?_changeItem index f v
  | .map _ => rfl
  | .scalar _ => rfl
  | .tuple _ => rfl
  | .set _ => rfl
  | .unwritten => rfl

@[simp] theorem kind_changeItem (index : Nat) (f : Value → Value) : ∀ v : Value,
    (v.changeItem index f).kind = v.kind
  | .list _ => rfl
  | .knot _ v => by rw [changeItem, kind, kind]; exact kind_changeItem index f v
  | .map _ => rfl
  | .scalar _ => rfl
  | .tuple _ => rfl
  | .set _ => rfl
  | .unwritten => rfl

@[simp] theorem isNull_changeItem (index : Nat) (f : Value → Value) (v : Value) :
    (v.changeItem index f).isNull = v.isNull := by
  cases v <;> rfl

/-! ### Mappings that agree off some fields -/

/-- Two mappings with the same fields, but for those in `keys`. -/
structure AgreeOff (keys : List String) (x y : Value) : Prop where
  left : x.kind = .map
  right : y.kind = .map
  field? : ∀ key, key ∉ keys → y.field? key = x.field? key

namespace AgreeOff

variable {keys more : List String} {x y z : Value}

theorem field (h : AgreeOff keys x y) (key : String) (hkey : key ∉ keys) :
    y.field key = x.field key := by
  rw [Value.field, Value.field, h.field? key hkey]

theorem mono (h : AgreeOff keys x y) (hsub : ∀ key ∈ keys, key ∈ more) : AgreeOff more x y :=
  ⟨h.left, h.right, fun key hkey => h.field? key fun hmem => hkey (hsub key hmem)⟩

end AgreeOff

theorem agreeOff_changeField {v : Value} (h : v.kind = .map) (key : String) (f : Value → Value) :
    AgreeOff [key] v (v.changeField key f) := by
  refine ⟨h, by rw [kind_changeField, h], fun k hk => ?_⟩
  rw [field?_changeField, if_neg (by simpa using hk)]

theorem agreeOff_putField {v : Value} (h : v.kind = .map) (key : String) (item : Value) :
    AgreeOff [key] v (v.putField key item) := by
  refine ⟨h, by rw [kind_putField, h], fun k hk => ?_⟩
  rw [field?_putField key k item h, if_neg (by simpa using hk)]

end Value

end BannedApi
