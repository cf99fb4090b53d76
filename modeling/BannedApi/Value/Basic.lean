import BannedApi.Number.Basic
import BannedApi.Value.Moment

/-!
Values of a document: what a JSON or YAML text holds. A mapping keeps its entries in order of first
appearance; a key given again keeps its place and takes the later value.

A value of a YAML document may hold itself. It is then a knot: every place where it stands carries its
label, and its parts are written out level by level. The writing has to stop somewhere, and there
stands `unwritten`. Whoever shows a value stops before, where a label comes again; whoever walks into
what is unwritten would go on without end, and has to say so.
-/
namespace BannedApi

/-- A value without parts. Only these can be keys of a mapping. -/
inductive Scalar where
  | null
  | bool (b : Bool)
  | number (n : Number)
  | text (s : String)
  | moment (m : Moment)
  | bytes (data : List UInt8)
  deriving DecidableEq, Repr

/-- A value of a document. -/
inductive Value where
  | scalar (s : Scalar)
  | list (items : List Value)
  | map (entries : List (Scalar × Value))
  /-- Values that belong together: a key and what it names. -/
  | tuple (items : List Value)
  /-- Different scalars, each of them once. -/
  | set (items : List Scalar)
  /-- A value that holds itself, with the label it is known by. -/
  | knot (label : Nat) (body : Value)
  /-- A mapping that holds itself, where it is not written out any more. -/
  | unwritten
  deriving Repr

instance : Inhabited Value := ⟨.scalar .null⟩

namespace Scalar

/-- The text a scalar is, if it is one. -/
def text? : Scalar → Option String
  | .text s => some s
  | _ => none

theorem text?_eq_some_iff {k : Scalar} {s : String} : k.text? = some s ↔ k = .text s := by
  cases k <;> simp [text?]

/-- The number a truth value or a number stands for when values are compared. -/
def numeric? : Scalar → Option Number
  | .bool b => some (.int (if b then 1 else 0))
  | .number n => some n
  | _ => none

/-- The two scalars are one key. Numbers and truth values compare by value, moments by the instant
they name. -/
def sameKey (a b : Scalar) : Bool :=
  match a, b with
  | .moment m, .moment n => m.same n
  | _, _ =>
    match a.numeric?, b.numeric? with
    | some m, some n => m.sameKey n
    | none, none => a == b
    | _, _ => false

end Scalar

/-- Give `key` the value `item` in a list of entries: in its place when it is there, else at the
end. -/
def putEntry {α : Type} (key : Scalar) (item : α) : List (Scalar × α) → List (Scalar × α)
  | [] => [(key, item)]
  | (k, x) :: rest =>
    if k.sameKey key then (k, item) :: rest else (k, x) :: putEntry key item rest

namespace Value

/-- The value of nothing. -/
@[match_pattern] abbrev null : Value := .scalar .null

/-- A truth value. -/
@[match_pattern] abbrev bool (b : Bool) : Value := .scalar (.bool b)

/-- A whole number. -/
@[match_pattern] abbrev int (n : Int) : Value := .scalar (.number (.int n))

/-- A binary number. -/
@[match_pattern] abbrev float (x : Number.Binary64) : Value := .scalar (.number (.float x))

/-- A text. -/
@[match_pattern] abbrev text (s : String) : Value := .scalar (.text s)

/-- The mapping with these named fields. -/
def object (fields : List (String × Value)) : Value :=
  .map (fields.map fun f => (.text f.1, f.2))

/-- The entries of a mapping, if the value is one. -/
def entries? : Value → Option (List (Scalar × Value))
  | .map entries => some entries
  | .knot _ v => v.entries?
  | _ => none

/-- The fields of a mapping, if the value is one: the entries whose keys are texts. -/
def fields? (v : Value) : Option (List (String × Value)) :=
  v.entries?.map fun entries => entries.filterMap fun e => e.1.text?.map (·, e.2)

theorem fields?_object (fields : List (String × Value)) : (object fields).fields? = some fields := by
  rw [fields?, object, entries?, Option.map_some, List.filterMap_map]
  exact congrArg some List.filterMap_some

/-- The value of a field; a field that is missing has none. -/
def field? (key : String) (v : Value) : Option Value :=
  (v.entries?.bind fun entries => entries.find? fun e => e.1 == .text key).map (·.2)

/-- The value of a field; a field that is missing is null. -/
def field (key : String) (v : Value) : Value := (v.field? key).getD .null

/-- The value is null. -/
def isNull : Value → Bool
  | .null => true
  | _ => false

/-- The text a value is, if it is one. -/
def text? : Value → Option String
  | .text s => some s
  | _ => none

/-- The items of a list value, if it is one. -/
def items? : Value → Option (List Value)
  | .list xs => some xs
  | .knot _ v => v.items?
  | _ => none

/-- Whether a condition on the value holds: nothing, `false`, zero and what is empty fail it. -/
def truthy : Value → Bool
  | .scalar .null => false
  | .scalar (.bool b) => b
  | .scalar (.number n) => !n.isZero
  | .scalar (.text s) => !s.isEmpty
  | .scalar (.moment _) => true
  | .scalar (.bytes data) => !data.isEmpty
  | .list xs => !xs.isEmpty
  | .map es => !es.isEmpty
  | .tuple xs => !xs.isEmpty
  | .set xs => !xs.isEmpty
  | .knot _ v => v.truthy
  | .unwritten => true

/-! ### The parts of a value are smaller than the value -/

theorem sizeOf_lt_of_entries? {v : Value} {entries : List (Scalar × Value)}
    (h : v.entries? = some entries) : sizeOf entries < sizeOf v := by
  induction v using entries?.induct with
  | case1 es =>
    simp only [entries?, Option.some.injEq] at h
    subst h
    simp only [Value.map.sizeOf_spec]
    omega
  | case2 n w ih =>
    rw [entries?] at h
    have := ih h
    simp only [Value.knot.sizeOf_spec]
    omega
  | case3 w hmap hknot => simp [entries?] at h

theorem sizeOf_lt_of_field? {key : String} {v w : Value} (h : v.field? key = some w) :
    sizeOf w < sizeOf v := by
  simp only [field?, Option.map_eq_some_iff, Option.bind_eq_some_iff] at h
  obtain ⟨⟨k, x⟩, ⟨entries, hentries, hfind⟩, rfl⟩ := h
  have hmem := List.sizeOf_lt_of_mem (List.mem_of_find?_eq_some hfind)
  have hlt := sizeOf_lt_of_entries? hentries
  simp only [Prod.mk.sizeOf_spec] at hmem
  show sizeOf x < sizeOf v
  omega

theorem sizeOf_lt_of_mem_items {v x : Value} {xs : List Value} (h : v.items? = some xs)
    (hx : x ∈ xs) : sizeOf x < sizeOf v := by
  induction v using items?.induct with
  | case1 ys =>
    simp only [items?, Option.some.injEq] at h
    subst h
    have := List.sizeOf_lt_of_mem hx
    simp only [Value.list.sizeOf_spec]
    omega
  | case2 n w ih =>
    rw [items?] at h
    have := ih h
    simp only [Value.knot.sizeOf_spec]
    omega
  | case3 w hlist hknot => simp [items?] at h

end Value

end BannedApi
