import BannedApi.OrderedMap
import Mathlib.Data.List.Induction
import Mathlib.Data.List.Nodup
import Mathlib.Data.Option.Basic

/-!
What maps that remember the order of their names hold.

A map is told by its names in order and by the value of each (`ext_of_get?`). Putting entries one
after the other keeps for each name its last value and the place where it first came (`get?_ofList`,
`keys_ofList`), and merging two such maps is the same as putting all the entries of both
(`union_ofList`).
-/
namespace BannedApi.OrderedMap

variable {α β : Type}

/-- The names of a map, in order. -/
def keys (m : OrderedMap α) : List String := m.entries.map (·.1)

/-- The value that the last entry of a name gives it. -/
def lastOf (key : String) (entries : List (String × α)) : Option α :=
  (entries.reverse.find? fun e => e.1 == key).map (·.2)

/-! ### Looking up -/

theorem get?_eq_some_iff {m : OrderedMap α} {key : String} {x : α} :
    m.get? key = some x ↔ (key, x) ∈ m.entries := by
  unfold get?
  rw [Option.map_eq_some_iff]
  constructor
  · rintro ⟨⟨k, y⟩, hfind, rfl⟩
    obtain rfl : k = key := by simpa using List.find?_some hfind
    exact List.mem_of_find?_eq_some hfind
  · intro hmem
    -- the names are all different, so the entry that is found is this one
    obtain ⟨⟨k, y⟩, hfind⟩ : ∃ e, m.entries.find? (fun e => e.1 == key) = some e :=
      Option.isSome_iff_exists.1 (List.find?_isSome.2 ⟨(key, x), hmem, by simp⟩)
    have hk : k = key := by simpa using List.find?_some hfind
    have hy := List.inj_on_of_nodup_map m.nodup (List.mem_of_find?_eq_some hfind) hmem hk
    exact ⟨(k, y), hfind, congrArg Prod.snd hy⟩

theorem get?_eq_none_iff {m : OrderedMap α} {key : String} : m.get? key = none ↔ key ∉ m.keys := by
  rw [Option.eq_none_iff_forall_ne_some]
  constructor
  · intro hnone hmem
    obtain ⟨⟨k, x⟩, he, rfl⟩ := List.mem_map.1 hmem
    exact hnone x (get?_eq_some_iff.2 he)
  · intro hkey x hx
    exact hkey (List.mem_map.2 ⟨(key, x), get?_eq_some_iff.1 hx, rfl⟩)

/-- In a map the last entry of a name is the only one. -/
theorem lastOf_entries (m : OrderedMap α) (key : String) : lastOf key m.entries = m.get? key := by
  unfold lastOf
  cases hfind : m.entries.reverse.find? fun e => e.1 == key with
  | some e =>
    have hkey : e.1 = key := by simpa using List.find?_some hfind
    have hmem : e ∈ m.entries := List.mem_reverse.1 (List.mem_of_find?_eq_some hfind)
    exact (get?_eq_some_iff.2 (hkey ▸ hmem)).symm
  | none =>
    refine (get?_eq_none_iff.2 fun hmem => ?_).symm
    obtain ⟨e, he, hkey⟩ := List.mem_map.1 hmem
    exact List.find?_eq_none.1 hfind e (List.mem_reverse.2 he) (by simpa using hkey)

/-- Two maps with the same names in the same order and with the same values are the same. -/
theorem ext_of_get? {m n : OrderedMap α} (hkeys : m.keys = n.keys)
    (hget : ∀ key, m.get? key = n.get? key) : m = n := by
  have hentries : ∀ l : OrderedMap α,
      l.entries.map some = l.keys.map fun key => (l.get? key).map (key, ·) := by
    intro l
    rw [keys, List.map_map]
    refine List.map_congr_left fun e he => ?_
    rw [Function.comp_apply, get?_eq_some_iff.2 he, Option.map_some]
  have hsome : m.entries.map some = n.entries.map some := by
    rw [hentries, hentries, hkeys]
    exact List.map_congr_left fun key _ => by rw [hget]
  have hsame : m.entries = n.entries := List.map_injective_iff.2 (Option.some_injective _) hsome
  cases m
  cases n
  cases hsame
  rfl

/-! ### Putting entries -/

theorem find?_put (key k : String) (x : α) (entries : List (String × α)) :
    ((put key x entries).find? fun e => e.1 == k).map (·.2)
      = if key = k then some x else (entries.find? fun e => e.1 == k).map (·.2) := by
  induction entries with
  | nil =>
    by_cases h : key = k
    · simp [put, h]
    · simp [put, h]
  | cons e rest ih =>
    obtain ⟨j, y⟩ := e
    by_cases hj : j = key
    · subst hj
      by_cases h : j = k
      · simp [put, h]
      · simp [put, h]
    · rw [put, if_neg hj]
      by_cases hk : j = k
      · subst hk
        simp [Ne.symm hj]
      · simp only [List.find?_cons, beq_eq_false_iff_ne.2 hk]
        exact ih

theorem get?_insert (m : OrderedMap α) (key k : String) (x : α) :
    (m.insert key x).get? k = if key = k then some x else m.get? k :=
  find?_put key k x m.entries

theorem keys_insert (m : OrderedMap α) (key : String) (x : α) :
    (m.insert key x).keys = if key ∈ m.keys then m.keys else m.keys ++ [key] :=
  keys_put key x m.entries

/-- Put entries one after the other. -/
def putAll (m : OrderedMap α) (entries : List (String × α)) : OrderedMap α :=
  entries.foldl (fun m e => m.insert e.1 e.2) m

theorem putAll_cons (m : OrderedMap α) (e : String × α) (entries : List (String × α)) :
    m.putAll (e :: entries) = (m.insert e.1 e.2).putAll entries := rfl

theorem lastOf_cons (key : String) (e : String × α) (entries : List (String × α)) :
    lastOf key (e :: entries) = (lastOf key entries).or (if e.1 = key then some e.2 else none) := by
  unfold lastOf
  rw [List.reverse_cons, List.find?_append]
  cases entries.reverse.find? fun e => e.1 == key with
  | some found => rfl
  | none =>
    by_cases h : e.1 = key
    · simp [h]
    · simp [h]

theorem lastOf_append (key : String) (xs ys : List (String × α)) :
    lastOf key (xs ++ ys) = (lastOf key ys).or (lastOf key xs) := by
  unfold lastOf
  rw [List.reverse_append, List.find?_append, Option.map_or]

/-- Of several lists one after the other, the last that has the name counts. -/
theorem lastOf_flatMap {β : Type} (key : String) (f : β → List (String × α)) (xs : List β) :
    lastOf key (xs.flatMap f) = xs.reverse.findSome? fun x => lastOf key (f x) := by
  induction xs with
  | nil => rfl
  | cons x rest ih =>
    rw [List.flatMap_cons, lastOf_append, ih, List.reverse_cons, List.findSome?_append,
      List.findSome?_singleton]

theorem get?_putAll (m : OrderedMap α) (entries : List (String × α)) (key : String) :
    (m.putAll entries).get? key = (lastOf key entries).or (m.get? key) := by
  induction entries generalizing m with
  | nil => rfl
  | cons e rest ih =>
    rw [putAll_cons, ih, get?_insert, lastOf_cons, Option.or_assoc]
    split
    · rfl
    · rfl

theorem keys_putAll (m : OrderedMap α) (entries : List (String × α)) :
    (m.putAll entries).keys
      = m.keys ++ ((entries.map (·.1)).filter (· ∉ m.keys)).eraseDups := by
  induction entries generalizing m with
  | nil => simp [putAll]
  | cons e rest ih =>
    rw [putAll_cons, ih, keys_insert, List.map_cons]
    by_cases h : e.1 ∈ m.keys
    · rw [if_pos h, List.filter_cons_of_neg (by simpa using h)]
    · rw [if_neg h, List.filter_cons_of_pos (by simpa using h), List.eraseDups_cons,
        List.append_assoc, List.singleton_append, List.filter_filter]
      -- a name that comes again is dropped on both sides
      refine congrArg (fun l => m.keys ++ e.1 :: List.eraseDups l) ?_
      refine List.filter_congr fun k _ => ?_
      by_cases hk : k = e.1
      · simp [hk]
      · simp [hk]

/-! ### Whole lists of entries -/

theorem get?_ofList (entries : List (String × α)) (key : String) :
    (ofList entries).get? key = lastOf key entries := by
  have h := get?_putAll empty entries key
  have hempty : (empty : OrderedMap α).get? key = none := rfl
  rw [hempty, Option.or_none] at h
  exact h

theorem keys_ofList (entries : List (String × α)) :
    (ofList entries).keys = (entries.map (·.1)).eraseDups := by
  have h := keys_putAll empty entries
  have hempty : (empty : OrderedMap α).keys = [] := rfl
  simp only [hempty, List.not_mem_nil, not_false_eq_true, decide_true, List.filter_true,
    List.nil_append] at h
  exact h

theorem mem_keys_ofList {entries : List (String × α)} {key : String} :
    key ∈ (ofList entries).keys ↔ ∃ e ∈ entries, e.1 = key := by
  rw [keys_ofList, List.mem_eraseDups, List.mem_map]

/-- Every entry of the map was put there. -/
theorem mem_of_mem_ofList {entries : List (String × α)} {e : String × α}
    (h : e ∈ (ofList entries).entries) : e ∈ entries := by
  have hlast : lastOf e.1 entries = some e.2 := by
    rw [← get?_ofList]
    exact get?_eq_some_iff.2 h
  obtain ⟨found, hfind, hitem⟩ := Option.map_eq_some_iff.1 hlast
  have hkey : found.1 = e.1 := by simpa using List.find?_some hfind
  obtain rfl : found = e := Prod.ext hkey hitem
  exact List.mem_reverse.1 (List.mem_of_find?_eq_some hfind)

theorem ofList_concat (entries : List (String × α)) (e : String × α) :
    ofList (entries ++ [e]) = (ofList entries).insert e.1 e.2 :=
  List.foldl_append

theorem eraseDups_of_nodup {l : List String} (h : l.Nodup) : l.eraseDups = l := by
  induction l with
  | nil => rfl
  | cons a rest ih =>
    obtain ⟨ha, hrest⟩ := List.nodup_cons.1 h
    have hfilter : rest.filter (fun b => !b == a) = rest := by
      refine List.filter_eq_self.2 fun b hb => ?_
      simpa using fun hba : b = a => ha (hba ▸ hb)
    rw [List.eraseDups_cons, hfilter, ih hrest]

theorem size_eq (m : OrderedMap α) : m.size = m.keys.length := (List.length_map _).symm

/-- Entries that are left out by their names take away these names only. -/
theorem size_ofList_filter (test : String → Bool) (entries : List (String × α)) :
    (ofList (entries.filter fun e => test e.1)).size
      = ((ofList entries).keys.filter test).length := by
  rw [size_eq]
  refine List.Perm.length_eq ?_
  refine (List.perm_ext_iff_of_nodup (ofList _).nodup ((ofList _).nodup.filter _)).2 fun key => ?_
  rw [List.mem_filter, ← keys, ← keys, mem_keys_ofList, mem_keys_ofList]
  simp only [List.mem_filter]
  constructor
  · rintro ⟨e, ⟨he, htest⟩, rfl⟩
    exact ⟨⟨e, he, rfl⟩, htest⟩
  · rintro ⟨⟨e, he, rfl⟩, htest⟩
    exact ⟨e, ⟨he, htest⟩, rfl⟩

/-! ### Merging -/

theorem get?_union (m n : OrderedMap α) (key : String) :
    (m.union n).get? key = (n.get? key).or (m.get? key) := by
  rw [← lastOf_entries n]
  exact get?_putAll m n.entries key

theorem keys_union (m n : OrderedMap α) :
    (m.union n).keys = m.keys ++ n.keys.filter (· ∉ m.keys) := by
  have h := keys_putAll m n.entries
  rw [eraseDups_of_nodup (n.nodup.filter _)] at h
  exact h

theorem union_insert (m n : OrderedMap α) (key : String) (x : α) :
    m.union (n.insert key x) = (m.union n).insert key x := by
  refine ext_of_get? ?_ fun k => ?_
  · rw [keys_union, keys_insert, keys_insert, keys_union]
    by_cases hn : key ∈ n.keys
    · rw [if_pos hn, if_pos]
      by_cases hm : key ∈ m.keys
      · exact List.mem_append_left _ hm
      · exact List.mem_append_right _ (List.mem_filter.2 ⟨hn, by simpa using hm⟩)
    · rw [if_neg hn, List.filter_append]
      by_cases hm : key ∈ m.keys
      · simp [hm]
      · simp [hm, hn]
  · rw [get?_union, get?_insert, get?_insert, get?_union]
    split
    · rfl
    · rfl

/-- Merging what two lists of entries say is the same as putting one behind the other. -/
theorem union_ofList (xs ys : List (String × α)) :
    (ofList xs).union (ofList ys) = ofList (xs ++ ys) := by
  induction ys using List.reverseRecOn with
  | nil =>
    rw [List.append_nil]
    rfl
  | append_singleton ys e ih =>
    rw [ofList_concat, union_insert, ih, ← List.append_assoc, ofList_concat]

/-! ### Changing the values -/

theorem keys_map (f : α → β) (m : OrderedMap α) : (m.map f).keys = m.keys := by
  unfold keys map
  rw [List.map_map]
  rfl

theorem get?_map (f : α → β) (m : OrderedMap α) (key : String) :
    (m.map f).get? key = (m.get? key).map f := by
  unfold get? map
  rw [List.find?_map, Option.map_map, Option.map_map]
  rfl

theorem lastOf_map (f : α → β) (key : String) (entries : List (String × α)) :
    lastOf key (entries.map fun e => (e.1, f e.2)) = (lastOf key entries).map f := by
  induction entries with
  | nil => rfl
  | cons e entries ih =>
    rw [List.map_cons, lastOf_cons, lastOf_cons, ih]
    cases lastOf key entries with
    | some x => rfl
    | none => by_cases hkey : e.1 = key <;> simp [hkey]

theorem ofList_map (f : α → β) (entries : List (String × α)) :
    ofList (entries.map fun e => (e.1, f e.2)) = (ofList entries).map f := by
  refine ext_of_get? ?_ fun key => ?_
  · rw [keys_map, keys_ofList, keys_ofList, List.map_map]
    rfl
  · rw [get?_map, get?_ofList, get?_ofList, lastOf_map]

theorem size_map (f : α → β) (m : OrderedMap α) : (m.map f).size = m.size := List.length_map _

theorem total_map (figure : β → Nat) (f : α → β) (m : OrderedMap α) :
    (m.map f).total figure = m.total fun x => figure (f x) := List.foldr_map

/-! ### In the order of the names -/

/-- The map with its entries in the order of their names. -/
def sort (m : OrderedMap α) : OrderedMap α :=
  ⟨m.sorted, ((m.entries.mergeSort_perm _).map _).nodup_iff.2 m.nodup⟩

theorem get?_sort (m : OrderedMap α) (key : String) : m.sort.get? key = m.get? key := by
  refine Option.ext fun x => ?_
  rw [get?_eq_some_iff, get?_eq_some_iff]
  exact List.mem_mergeSort

theorem size_sort (m : OrderedMap α) : m.sort.size = m.size := List.length_mergeSort _

theorem total_sort (figure : α → Nat) (m : OrderedMap α) :
    m.sort.total figure = m.total figure := by
  refine (m.entries.mergeSort_perm _).foldr_eq' (fun x _ y _ n => ?_) 0
  omega

theorem pairwise_le_sorted (m : OrderedMap α) :
    m.sorted.Pairwise fun a b => decide (a.1 ≤ b.1) = true := by
  refine List.pairwise_mergeSort ?_ ?_ _
  · intro a b c hab hbc
    simp only [decide_eq_true_eq] at hab hbc ⊢
    exact String.le_trans hab hbc
  · intro a b
    simp only [Bool.or_eq_true, decide_eq_true_eq]
    exact String.le_total a.1 b.1

/-- What is in order stays as it is. -/
theorem sorted_sort (m : OrderedMap α) : m.sort.sorted = m.sorted :=
  List.mergeSort_of_pairwise m.pairwise_le_sorted

theorem sorted_map (f : α → β) (m : OrderedMap α) :
    (m.map f).sorted = m.sorted.map fun e => (e.1, f e.2) := by
  refine (List.map_mergeSort ?_).symm
  intro a _ b _
  rfl

theorem ofList_entries (m : OrderedMap α) : ofList m.entries = m := by
  refine ext_of_get? ?_ fun key => ?_
  · rw [keys_ofList]
    exact eraseDups_of_nodup m.nodup
  · rw [get?_ofList, lastOf_entries]

theorem empty_union (m : OrderedMap α) : empty.union m = m := by
  have hunion := union_ofList [] m.entries
  rwa [List.nil_append, ofList_entries] at hunion

theorem ofList_sorted (m : OrderedMap α) : ofList m.sorted = m.sort := ofList_entries m.sort

end BannedApi.OrderedMap
