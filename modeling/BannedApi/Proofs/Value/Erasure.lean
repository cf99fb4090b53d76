import BannedApi.Proofs.Value.Change
import BannedApi.TypeKey
import BannedApi.Value.Display
import Mathlib.Data.List.TakeWhile

/-!
Leaving out the arguments of types in a document.

`erase kept v` cuts the texts of all fields that hold a type, in every mapping however deep, before
their first `<`. Fields named in `kept` are left as they are with everything in them. What is cut
has the key it had before (`ofValue_eraseType`), and a value without type arguments cannot be told
from the value it came from by its kind, its truth, its length or the fields it has.
-/
namespace BannedApi

namespace TypeKey

/-- A type without its arguments. A text that starts with them is no type and stays as it is. -/
def erase (type : String) : String :=
  if (Text.before '<' type.toList).isEmpty then type else ofText type

theorem ofText_erase (type : String) : ofText (erase type) = ofText type := by
  unfold erase
  split
  · rfl
  · rw [ofText, ofText, String.toList_ofList, Text.before, Text.before, List.takeWhile_idem]

theorem isEmpty_erase (type : String) : (erase type).isEmpty = type.isEmpty := by
  unfold erase
  split
  · rfl
  · next h =>
    -- what is cut is not empty, and then the type is not either
    have hcut : Text.before '<' type.toList ≠ [] := by simpa using h
    have htype : type ≠ "" := fun htype => hcut (by rw [htype]; rfl)
    have hkey : ofText type ≠ "" := fun hkey => hcut (by
      rw [ofText] at hkey
      rw [← String.toList_ofList (l := Text.before '<' type.toList), hkey]
      rfl)
    rw [Bool.eq_iff_iff, String.isEmpty_iff, String.isEmpty_iff]
    exact iff_of_false hkey htype

end TypeKey

namespace Value

/-- The fields that hold a type. -/
def typeFields : List String := ["type", "receiver_type", "return_type"]

/-- The key is the name of one of these fields. -/
def isFieldOf (fields : List String) (key : Scalar) : Bool := fields.any (key == .text ·)

/-- A text cut to the type it states; for what is no text, something else. -/
def cutOr (v other : Value) : Value :=
  match v with
  | .text s => .text (TypeKey.erase s)
  | _ => other

/-- What stands in a field after erasing, from what stood there and what that is erased to. -/
def erasedField (kept : List String) (key : Scalar) (v erased : Value) : Value :=
  if isFieldOf kept key then v
  else if isFieldOf typeFields key then v.cutOr erased
  else erased

mutual

/-- The value with the arguments of all types left out, but for the fields that are kept. -/
def erase (kept : List String) : Value → Value
  | .scalar s => .scalar s
  | .list xs => .list (eraseItems kept xs)
  | .map es => .map (eraseEntries kept es)
  | .tuple xs => .tuple (eraseItems kept xs)
  | .set xs => .set xs
  | .knot label v => .knot label (v.erase kept)
  | .unwritten => .unwritten

/-- The items of a list with the arguments of all types left out. -/
def eraseItems (kept : List String) : List Value → List Value
  | [] => []
  | x :: xs => x.erase kept :: eraseItems kept xs

/-- The entries of a mapping with the arguments of all types left out. -/
def eraseEntries (kept : List String) : List (Scalar × Value) → List (Scalar × Value)
  | [] => []
  | (k, v) :: es => (k, erasedField kept k v (v.erase kept)) :: eraseEntries kept es

end

variable (kept : List String)

/-- What a field holds, with the arguments of all types left out. -/
def eraseIn (key : String) (v : Value) : Value := erasedField kept (.text key) v (v.erase kept)

@[simp] theorem erase_scalar (s : Scalar) : (Value.scalar s).erase kept = .scalar s := by
  rw [erase]

theorem eraseItems_eq_map : ∀ xs : List Value, eraseItems kept xs = xs.map (erase kept)
  | [] => by rw [eraseItems]; rfl
  | x :: xs => by rw [eraseItems, eraseItems_eq_map xs]; rfl

@[simp] theorem kind_erase (v : Value) : (v.erase kept).kind = v.kind := by
  cases v with
  | knot label w => rw [erase, kind, kind, kind_erase w]
  | _ => rw [erase] <;> rfl

@[simp] theorem isNull_erase (v : Value) : (v.erase kept).isNull = v.isNull := by
  cases v <;> rw [erase] <;> rfl

theorem isEmpty_eraseEntries (es : List (Scalar × Value)) :
    (eraseEntries kept es).isEmpty = es.isEmpty := by
  cases es with
  | nil => rw [eraseEntries]
  | cons e es => rw [eraseEntries]; rfl

@[simp] theorem truthy_erase (v : Value) : (v.erase kept).truthy = v.truthy := by
  cases v with
  | scalar s => rw [erase]
  | list xs => rw [erase, eraseItems_eq_map]; simp [truthy]
  | map es => rw [erase, truthy, truthy, isEmpty_eraseEntries]
  | tuple xs => rw [erase, eraseItems_eq_map]; simp [truthy]
  | set xs => rw [erase]
  | knot label w => rw [erase, truthy, truthy, truthy_erase w]
  | unwritten => rw [erase]

theorem items?_erase (v : Value) : (v.erase kept).items? = v.items?.map (·.map (erase kept)) := by
  cases v with
  | list xs => rw [erase, items?, items?, eraseItems_eq_map]; rfl
  | knot label w => rw [erase, items?, items?, items?_erase w]
  | _ => rw [erase]; rfl

theorem entries?_erase (v : Value) : (v.erase kept).entries? = v.entries?.map (eraseEntries kept) := by
  cases v with
  | knot label w => rw [erase, entries?, entries?, entries?_erase w]
  | _ => rw [erase]; rfl

theorem entryOf_eraseEntries (key : String) : ∀ es : List (Scalar × Value),
    entryOf key (eraseEntries kept es) = (entryOf key es).map (eraseIn kept key)
  | [] => by rw [eraseEntries]; rfl
  | (k, v) :: es => by
    have ih := entryOf_eraseEntries key es
    unfold entryOf at ih ⊢
    rw [eraseEntries]
    by_cases hk : k = .text key
    · simp [hk, eraseIn]
    · simp only [List.find?_cons, beq_eq_false_iff_ne.2 hk]
      exact ih

theorem field?_erase (key : String) (v : Value) :
    (v.erase kept).field? key = (v.field? key).map (eraseIn kept key) := by
  rw [field?_eq, field?_eq, entries?_erase]
  cases v.entries? with
  | none => rfl
  | some es => exact entryOf_eraseEntries kept key es

/-! ### Fields -/

/-- A type with its arguments left out; in what is no text the types inside. -/
def eraseType (v : Value) : Value := v.cutOr (v.erase kept)

theorem isFieldOf_text {fields : List String} {key : String} :
    isFieldOf fields (.text key) = true ↔ key ∈ fields := by
  simp [isFieldOf]

theorem eraseIn_of_mem {key : String} (h : key ∈ kept) (v : Value) : eraseIn kept key v = v := by
  rw [eraseIn, erasedField, if_pos (isFieldOf_text.2 h)]

theorem eraseIn_of_type {key : String} (hkept : key ∉ kept) (h : key ∈ typeFields) (v : Value) :
    eraseIn kept key v = v.eraseType kept := by
  rw [eraseIn, erasedField, if_neg (mt isFieldOf_text.1 hkept), if_pos (isFieldOf_text.2 h),
    eraseType]

theorem eraseIn_of_plain {key : String} (hkept : key ∉ kept) (h : key ∉ typeFields) (v : Value) :
    eraseIn kept key v = v.erase kept := by
  rw [eraseIn, erasedField, if_neg (mt isFieldOf_text.1 hkept), if_neg (mt isFieldOf_text.1 h)]

theorem field_erase (key : String) (v : Value) :
    (v.erase kept).field key = eraseIn kept key (v.field key) := by
  rw [field, field, field?_erase]
  cases v.field? key with
  | none => simp [eraseIn, erasedField, cutOr]
  | some w => rfl

theorem ofValue_of_parts {v : Value} (h : ∀ s, v ≠ .scalar s) :
    TypeKey.ofValue v
      = if v.truthy then .error (.noOperation v.kind "find") else .ok TypeKey.unknown := by
  unfold TypeKey.ofValue
  split
  · split
    · exact absurd rfl (h _)
    · exact absurd rfl (h _)
    · rfl
  · rfl

theorem erase_ne_scalar {v : Value} (h : ∀ s, v ≠ .scalar s) (s : Scalar) :
    v.erase kept ≠ .scalar s := by
  cases v with
  | scalar x => exact absurd rfl (h x)
  | _ =>
    rw [erase]
    exact fun h => by cases h

/-- A type keeps its key. -/
theorem ofValue_eraseType (type : Value) :
    TypeKey.ofValue (type.eraseType kept) = TypeKey.ofValue type := by
  unfold eraseType cutOr
  split
  · next t =>
    have htruthy : (text (TypeKey.erase t)).truthy = (text t).truthy := by
      rw [truthy, truthy, TypeKey.isEmpty_erase]
    show (if (text (TypeKey.erase t)).truthy then Except.ok (TypeKey.ofText (TypeKey.erase t))
      else _) = if (text t).truthy then Except.ok (TypeKey.ofText t) else _
    rw [htruthy, TypeKey.ofText_erase]
  · by_cases hscalar : ∃ s, type = .scalar s
    · obtain ⟨s, rfl⟩ := hscalar
      rw [erase_scalar]
    · have hparts : ∀ s, type ≠ .scalar s := fun s hs => hscalar ⟨s, hs⟩
      rw [ofValue_of_parts hparts, ofValue_of_parts (erase_ne_scalar kept hparts), truthy_erase,
        kind_erase]

/-! ### Length -/

mutual

theorem isLongIn_erase (around : List Nat) (v : Value) :
    (v.erase kept).isLongIn around = v.isLongIn around := by
  cases v with
  | scalar s => rw [erase]
  | list xs => rw [erase, isLongIn, isLongIn, anyLong_eraseItems around xs]
  | map es => rw [erase, isLongIn, isLongIn, anyEntryLong_eraseEntries around es]
  | tuple xs => rw [erase, isLongIn, isLongIn, anyLong_eraseItems around xs]
  | set xs => rw [erase]
  | knot label w => rw [erase, isLongIn, isLongIn, isLongIn_erase (label :: around) w]
  | unwritten => rw [erase]

theorem anyLong_eraseItems (around : List Nat) : ∀ xs : List Value,
    anyLong around (eraseItems kept xs) = anyLong around xs
  | [] => by rw [eraseItems]
  | x :: xs => by
    rw [eraseItems, anyLong, anyLong, isLongIn_erase around x, anyLong_eraseItems around xs]

theorem anyEntryLong_eraseEntries (around : List Nat) : ∀ es : List (Scalar × Value),
    anyEntryLong around (eraseEntries kept es) = anyEntryLong around es
  | [] => by rw [eraseEntries]
  | (k, v) :: es => by
    have hv : (erasedField kept k v (v.erase kept)).isLongIn around = v.isLongIn around := by
      unfold erasedField
      split
      · rfl
      · split
        · unfold cutOr
          split
          · rfl
          · exact isLongIn_erase around v
        · exact isLongIn_erase around v
    rw [eraseEntries, anyEntryLong, anyEntryLong, hv, anyEntryLong_eraseEntries around es]

end

end Value

end BannedApi
