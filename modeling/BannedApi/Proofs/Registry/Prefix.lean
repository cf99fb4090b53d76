import BannedApi.Proofs.OrderedMap
import BannedApi.Registry.Basic

/-!
The package that bans a type: among the banned packages that its name starts with, the longest.

The packages are tried from the longest to the shortest, so the first that fits is the longest that
fits (`prefixBan_eq_some_iff`). There is only one of them, since two beginnings of one text that
have the same length are the same. So the packages that the name does not start with, and the order
in which packages were put in, have no influence (`prefixBan_congr`). `prefixBan_longest` says all of
it at once.
-/
namespace BannedApi.Registry

/-- The package is banned, the text starts with it, and no banned package that the text starts with
is longer. -/
structure LongestPrefix (r : Registry) (key package : String) : Prop where
  mem : package ∈ r.packages.keys
  starts : package.toList <+: key.toList
  longest : ∀ q ∈ r.packages.keys, q.toList <+: key.toList → q.length ≤ package.length

theorem mem_prefixes {r : Registry} {p : String} : p ∈ r.prefixes ↔ p ∈ r.packages.keys :=
  List.mem_mergeSort

/-- The packages come from the longest to the shortest. -/
theorem pairwise_prefixes (r : Registry) :
    r.prefixes.Pairwise fun p q => q.length ≤ p.length := by
  have hsorted : r.prefixes.Pairwise _ := List.pairwise_mergeSort ?_ ?_ _
  · refine hsorted.imp fun {p q} hle => ?_
    simp only [Bool.or_eq_true, Bool.and_eq_true, decide_eq_true_eq, beq_iff_eq] at hle
    omega
  · intro p q s hpq hqs
    simp only [Bool.or_eq_true, Bool.and_eq_true, decide_eq_true_eq, beq_iff_eq] at hpq hqs ⊢
    rcases hpq with hpq | ⟨hpq, hle⟩
    · left
      omega
    · rcases hqs with hqs | ⟨hqs, hle'⟩
      · left
        omega
      · right
        exact ⟨hpq.trans hqs, String.le_trans hle hle'⟩
  · intro p q
    simp only [Bool.or_eq_true, Bool.and_eq_true, decide_eq_true_eq, beq_iff_eq]
    rcases Nat.lt_trichotomy p.length q.length with hlt | heq | hgt
    · exact .inr (.inl hlt)
    · rcases String.le_total p q with hle | hle
      · exact .inl (.inr ⟨heq, hle⟩)
      · exact .inr (.inr ⟨heq.symm, hle⟩)
    · exact .inl (.inl hgt)

theorem LongestPrefix.unique {r : Registry} {key p q : String} (hp : LongestPrefix r key p)
    (hq : LongestPrefix r key q) : p = q := by
  have hlength : p.length = q.length :=
    Nat.le_antisymm (hq.longest p hp.mem hp.starts) (hp.longest q hq.mem hq.starts)
  have hprefix : p.toList <+: q.toList := by
    refine List.prefix_of_prefix_length_le hp.starts hq.starts ?_
    rw [String.length_toList, String.length_toList]
    exact Nat.le_of_eq hlength
  have hlist := hprefix.eq_of_length (by rw [String.length_toList, String.length_toList, hlength])
  exact String.toList_inj.1 hlist

theorem longestPrefix_of_find? {r : Registry} {key p : String}
    (h : r.prefixes.find? (fun p => p.toList.isPrefixOf key.toList) = some p) :
    LongestPrefix r key p := by
  obtain ⟨hstarts, before, after, hsplit, hbefore⟩ := List.find?_eq_some_iff_append.1 h
  refine ⟨mem_prefixes.1 (List.mem_of_find?_eq_some h), List.isPrefixOf_iff_prefix.1 hstarts, ?_⟩
  intro q hq hstartsq
  have hpairwise := pairwise_prefixes r
  have hmem := mem_prefixes.2 hq
  rw [hsplit] at hmem hpairwise
  rcases List.mem_append.1 hmem with hmem | hmem
  · -- what was tried before did not fit
    have hnot := hbefore q hmem
    rw [List.isPrefixOf_iff_prefix.2 hstartsq] at hnot
    cases hnot
  · rcases List.mem_cons.1 hmem with rfl | hmem
    · exact Nat.le_refl _
    · exact List.rel_of_pairwise_cons (List.pairwise_append.1 hpairwise).2.1 hmem

theorem exists_find?_of_starts {r : Registry} {key p : String} (hp : p ∈ r.packages.keys)
    (hstarts : p.toList <+: key.toList) :
    ∃ q, r.prefixes.find? (fun p => p.toList.isPrefixOf key.toList) = some q := by
  refine Option.isSome_iff_exists.1 (List.find?_isSome.2 ⟨p, mem_prefixes.2 hp, ?_⟩)
  exact List.isPrefixOf_iff_prefix.2 hstarts

/-- Where some package fits there is a longest that fits. -/
theorem exists_longestPrefix {r : Registry} {key p : String} (hp : p ∈ r.packages.keys)
    (hstarts : p.toList <+: key.toList) : ∃ q, LongestPrefix r key q := by
  obtain ⟨q, hfind⟩ := exists_find?_of_starts hp hstarts
  exact ⟨q, longestPrefix_of_find? hfind⟩

/-- The package that is found is the longest that fits, with the reason it is banned for. -/
theorem prefixBan_eq_some_iff {r : Registry} {key p : String} {reason : Value} :
    r.prefixBan key = some (p, reason)
      ↔ LongestPrefix r key p ∧ r.packages.get? p = some reason := by
  unfold prefixBan
  rw [Option.bind_eq_some_iff]
  constructor
  · rintro ⟨q, hfind, hget⟩
    obtain ⟨x, hx, hpair⟩ := Option.map_eq_some_iff.1 hget
    cases hpair
    exact ⟨longestPrefix_of_find? hfind, hx⟩
  · rintro ⟨hlongest, hget⟩
    obtain ⟨q, hfind⟩ := exists_find?_of_starts hlongest.mem hlongest.starts
    obtain rfl := hlongest.unique (longestPrefix_of_find? hfind)
    exact ⟨p, hfind, by rw [hget, Option.map_some]⟩

/-- A package is found where the key starts with any banned package. -/
theorem isSome_prefixBan_iff {r : Registry} {key : String} :
    (r.prefixBan key).isSome ↔ ∃ p ∈ r.packages.keys, p.toList <+: key.toList := by
  rw [Option.isSome_iff_exists]
  constructor
  · rintro ⟨⟨p, reason⟩, hfound⟩
    have hlongest := (prefixBan_eq_some_iff.1 hfound).1
    exact ⟨p, hlongest.mem, hlongest.starts⟩
  · rintro ⟨p, hp, hstarts⟩
    obtain ⟨q, hlongest⟩ := exists_longestPrefix hp hstarts
    obtain ⟨⟨k, reason⟩, he, rfl⟩ := List.mem_map.1 hlongest.mem
    exact ⟨(k, reason), prefixBan_eq_some_iff.2 ⟨hlongest, OrderedMap.get?_eq_some_iff.2 he⟩⟩

/-! ### Which packages have an influence -/

theorem LongestPrefix.congr {r s : Registry} {key p : String}
    (h : ∀ q : String, q.toList <+: key.toList → r.packages.get? q = s.packages.get? q)
    (hp : LongestPrefix r key p) : LongestPrefix s key p := by
  have hmem : ∀ q : String, q.toList <+: key.toList →
      (q ∈ r.packages.keys ↔ q ∈ s.packages.keys) := by
    intro q hq
    rw [← not_iff_not, ← OrderedMap.get?_eq_none_iff, ← OrderedMap.get?_eq_none_iff, h q hq]
  refine ⟨(hmem p hp.starts).1 hp.mem, hp.starts, fun q hq hstarts => ?_⟩
  exact hp.longest q ((hmem q hstarts).2 hq) hstarts

/-- Which package is found depends on the banned packages that the key starts with, and on no
others. -/
theorem prefixBan_congr {r s : Registry} {key : String}
    (h : ∀ q : String, q.toList <+: key.toList → r.packages.get? q = s.packages.get? q) :
    r.prefixBan key = s.prefixBan key := by
  refine Option.ext fun found => ?_
  obtain ⟨p, reason⟩ := found
  rw [prefixBan_eq_some_iff, prefixBan_eq_some_iff]
  constructor
  · rintro ⟨hlongest, hget⟩
    exact ⟨hlongest.congr h, h p hlongest.starts ▸ hget⟩
  · rintro ⟨hlongest, hget⟩
    exact ⟨hlongest.congr fun q hq => (h q hq).symm, (h p hlongest.starts).symm ▸ hget⟩

/-! ### The lookup as a whole -/

/-- All banned packages that the text starts with are beginnings of the longest one. -/
theorem LongestPrefix.starts_of_mem {r : Registry} {key p q : String} (hp : LongestPrefix r key p)
    (hq : q ∈ r.packages.keys) (hstarts : q.toList <+: key.toList) : q.toList <+: p.toList := by
  refine List.prefix_of_prefix_length_le hstarts hp.starts ?_
  rw [String.length_toList, String.length_toList]
  exact hp.longest q hq hstarts

theorem prefixBan_eq_none_iff {r : Registry} {key : String} :
    r.prefixBan key = none ↔ ∀ p ∈ r.packages.keys, ¬ p.toList <+: key.toList := by
  rw [← Option.not_isSome_iff_eq_none, isSome_prefixBan_iff]
  push Not
  rfl

theorem get?_of_packageBan {r : Registry} {key : String} {reason : Value}
    (h : r.packageBan key = some reason) : r.packages.get? key = some reason :=
  (Option.filter_eq_some_iff.1 h).1

/-- A package that is banned by its own name is the longest that its name starts with. -/
theorem longestPrefix_self {r : Registry} {key : String} (h : key ∈ r.packages.keys) :
    LongestPrefix r key key := by
  refine ⟨h, List.prefix_rfl, ?_⟩
  intro q _ hstarts
  rw [← String.length_toList, ← String.length_toList]
  exact hstarts.length_le

/-- The package that bans a name is the longest banned package that the name starts with, together
with its reason. There is only one such package, and all others that fit are beginnings of it. None
is found if and only if the name starts with no banned package, and a package that is banned by its
exact name is found under it. The order in which the packages were put in does not matter. -/
theorem prefixBan_longest (r : Registry) (key : String) :
    (∀ p reason, r.prefixBan key = some (p, reason)
      ↔ LongestPrefix r key p ∧ r.packages.get? p = some reason)
    ∧ (∀ p, LongestPrefix r key p →
      (∀ q ∈ r.packages.keys, q.toList <+: key.toList → q.toList <+: p.toList)
      ∧ ∀ p', LongestPrefix r key p' → p' = p)
    ∧ (r.prefixBan key = none ↔ ∀ p ∈ r.packages.keys, ¬ p.toList <+: key.toList)
    ∧ (∀ reason, r.packageBan key = some reason → r.prefixBan key = some (key, reason))
    ∧ ∀ s : Registry, s.packages.entries.Perm r.packages.entries →
      s.prefixBan key = r.prefixBan key := by
  refine ⟨fun p reason => prefixBan_eq_some_iff, ?_, prefixBan_eq_none_iff, ?_, ?_⟩
  · intro p hp
    exact ⟨fun q => hp.starts_of_mem, fun p' hp' => hp'.unique hp⟩
  · intro reason hban
    have hget := get?_of_packageBan hban
    have hmem : key ∈ r.packages.keys :=
      List.mem_map_of_mem (OrderedMap.get?_eq_some_iff.1 hget)
    exact prefixBan_eq_some_iff.2 ⟨longestPrefix_self hmem, hget⟩
  · intro s hperm
    refine prefixBan_congr fun q _ => Option.ext fun reason => ?_
    rw [OrderedMap.get?_eq_some_iff, OrderedMap.get?_eq_some_iff, hperm.mem_iff]

end BannedApi.Registry
