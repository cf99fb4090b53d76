import BannedApi.Proofs.Registry.RoundTrip

/-!
Listings of a registry.

Bans are listed as a document, one by one, and as counts. Each listing goes by the entries of the
tables in the order of their names, and these do not depend on the order in which the names came
(`sorted_congr`). So registries with the same bans are listed in the same way, and a listing has
every ban once and in its place (`listing_canonical`).
-/
namespace BannedApi

/-! ### Tables in order -/

/-- The code points of a text. -/
def codePoints (s : String) : List Nat := s.toList.map Char.toNat

/-- One text comes before another: by the first code point in which they differ, and a text before
what goes on after it. -/
def Before (s t : String) : Prop := List.Lex (· < ·) (codePoints s) (codePoints t)

theorem before_of_lt {s t : String} (h : s < t) : Before s t :=
  List.map_lt (fun _ _ hlt => hlt) (String.lt_iff.1 h)

theorem not_before_self (s : String) : ¬ Before s s := List.lt_irrefl (codePoints s)

theorem Before.asymm {s t : String} (h : Before s t) : ¬ Before t s := List.lt_asymm h

/-- The names of the fields are strictly increasing by code point. -/
def Increasing {α : Type} (fields : List (String × α)) : Prop :=
  fields.Pairwise fun e f => Before e.1 f.1

theorem Increasing.nodup {α : Type} {fields : List (String × α)} (h : Increasing fields) :
    fields.Nodup := by
  refine List.Pairwise.imp (fun {e f} hlt heq => ?_) h
  subst heq
  exact not_before_self _ hlt

/-- The fields are the entries of a table, in the order of their names. -/
structure Tabulates {α : Type} (t : OrderedMap α) (fields : List (String × α)) : Prop where
  increasing : Increasing fields
  mem_iff : ∀ e, e ∈ fields ↔ t.get? e.1 = some e.2

namespace OrderedMap

variable {α : Type}

theorem increasing_sorted (m : OrderedMap α) : Increasing m.sorted := by
  have hne : m.sorted.Pairwise fun e f => e.1 ≠ f.1 := List.pairwise_map.1 m.sort.nodup
  refine m.pairwise_le_sorted.imp₂ (fun e f hle hne => before_of_lt ?_) hne
  exact Std.lt_of_le_of_ne (of_decide_eq_true hle) hne

theorem tabulates_sorted (m : OrderedMap α) : Tabulates m m.sorted where
  increasing := m.increasing_sorted
  mem_iff e := by
    rw [get?_eq_some_iff]
    exact List.mem_mergeSort

end OrderedMap

/-- There is one way to write down a table in the order of its names. -/
theorem Tabulates.unique {α : Type} {t : OrderedMap α} {xs ys : List (String × α)}
    (hx : Tabulates t xs) (hy : Tabulates t ys) : xs = ys := by
  refine List.Perm.eq_of_pairwise (fun e f _ _ hef hfe => ?_) hx.increasing hy.increasing ?_
  · exact absurd hfe hef.asymm
  · refine (List.perm_ext_iff_of_nodup hx.increasing.nodup hy.increasing.nodup).2 fun e => ?_
    rw [hx.mem_iff, hy.mem_iff]

namespace OrderedMap

variable {α : Type}

theorem sorted_eq_iff {m : OrderedMap α} {fields : List (String × α)} :
    m.sorted = fields ↔ Tabulates m fields :=
  ⟨fun h => h ▸ m.tabulates_sorted, m.tabulates_sorted.unique⟩

/-- In which order different names come makes no difference to what is found. -/
theorem get?_ofList_perm {xs ys : List (String × α)} (h : xs.Perm ys)
    (hnodup : (xs.map (·.1)).Nodup) (key : String) :
    (ofList xs).get? key = (ofList ys).get? key := by
  have hxs : ofList xs = ⟨xs, hnodup⟩ := ofList_entries ⟨xs, hnodup⟩
  have hys : ofList ys = ⟨ys, (h.map _).nodup_iff.1 hnodup⟩ := ofList_entries ⟨ys, _⟩
  refine Option.ext fun x => ?_
  rw [hxs, hys, get?_eq_some_iff, get?_eq_some_iff]
  exact h.mem_iff

/-- Tables with the same look-ups are written down in the same way. -/
theorem sorted_congr {m n : OrderedMap α} (h : ∀ key, m.get? key = n.get? key) :
    m.sorted = n.sorted :=
  sorted_eq_iff.2 ⟨n.increasing_sorted, fun e => by rw [n.tabulates_sorted.mem_iff, h]⟩

/-- Listing so many items for each entry lists the sum of the figure. -/
theorem length_flatMap_sorted {β : Type} {f : String × α → List β} {figure : α → Nat}
    (h : ∀ e, (f e).length = figure e.2) (m : OrderedMap α) :
    (m.sorted.flatMap f).length = m.total figure := by
  have hentries (entries : List (String × α)) :
      (entries.flatMap f).length = entries.foldr (fun e n => figure e.2 + n) 0 := by
    induction entries with
    | nil => rfl
    | cons e entries ih =>
      rw [List.flatMap_cons, List.length_append, List.foldr_cons, h, ih]
  rw [← total_sort]
  exact hentries m.sorted

end OrderedMap

/-! ### The lists behind all listings -/

namespace Registry

/-- The banned methods of each class in the order of their names, by the names of the classes. -/
def methodLists (r : Registry) : List (String × List (String × Value)) :=
  (r.methods.map OrderedMap.sorted).sorted

theorem methodLists_eq (r : Registry) :
    r.methodLists = r.methods.sorted.map fun m => (m.1, m.2.sorted) :=
  OrderedMap.sorted_map _ _

theorem mem_methodLists {r : Registry} {owner : String} {names : List (String × Value)} :
    (owner, names) ∈ r.methodLists ↔ ∃ t, r.methods.get? owner = some t ∧ Tabulates t names := by
  rw [methodLists, (OrderedMap.tabulates_sorted _).mem_iff, OrderedMap.get?_map,
    Option.map_eq_some_iff]
  simp only [OrderedMap.sorted_eq_iff]

theorem Agree.methodLists {r s : Registry} (h : Agree r s) : r.methodLists = s.methodLists := by
  refine OrderedMap.sorted_congr fun owner => ?_
  have howner := h.methods owner
  rw [OrderedMap.get?_map, OrderedMap.get?_map]
  generalize r.methods.get? owner = t, s.methods.get? owner = u at howner ⊢
  cases howner with
  | none => rfl
  | some htable => exact congrArg some (OrderedMap.sorted_congr htable)

/-! ### Three listings -/

theorem toDocument_eq (r : Registry) :
    r.toDocument = .object [("classes", .object r.classes.sorted),
      ("packages", .object r.packages.sorted),
      ("methods", .object (r.methodLists.map fun m => (m.1, .object m.2)))] := by
  rw [methodLists_eq, List.map_map]
  rfl

/-- The bans in the fields of one table. -/
def tableBans (part : Section) (owner : Option String) (fields : List (String × Value)) :
    List BanEntry :=
  fields.map fun e => ⟨e.1, e.2, part, owner⟩

/-- The bans in the tables of all owners. -/
def methodBans (r : Registry) : List BanEntry :=
  r.methodLists.flatMap fun m => tableBans .methods (some m.1) m.2

theorem banEntries_eq (r : Registry) :
    r.banEntries = tableBans .classes none r.classes.sorted
      ++ tableBans .packages none r.packages.sorted ++ r.methodBans := by
  rw [methodBans, methodLists_eq, List.flatMap_map]
  rfl

theorem part_of_mem_tableBans {part : Section} {owner : Option String}
    {fields : List (String × Value)} {e : BanEntry} (h : e ∈ tableBans part owner fields) :
    e.part = part := by
  obtain ⟨_, -, rfl⟩ := List.mem_map.1 h
  rfl

theorem part_of_mem_methodBans {r : Registry} {e : BanEntry} (h : e ∈ r.methodBans) :
    e.part = .methods := by
  obtain ⟨_, -, hm⟩ := List.mem_flatMap.1 h
  exact part_of_mem_tableBans hm

/-- Bans of one section are all kept or all dropped when a section is picked. -/
theorem length_filter_of_part {part : Section} {bans : List BanEntry}
    (h : ∀ e ∈ bans, e.part = part) (picked : Section) :
    (bans.filter (·.part = picked)).length = if part = picked then bans.length else 0 := by
  split
  · next hpart =>
    rw [List.filter_eq_self.2 fun e he => decide_eq_true ((h e he).trans hpart)]
  · next hpart =>
    rw [List.filter_eq_nil_iff.2 fun e he => by simpa [h e he] using hpart, List.length_nil]

theorem length_methodBans (r : Registry) : r.methodBans.length = r.count .methods := by
  rw [methodBans, methodLists_eq, List.flatMap_map]
  refine OrderedMap.length_flatMap_sorted (fun m => ?_) r.methods
  exact (List.length_map _).trans (OrderedMap.size_sort m.2)

theorem length_filter_banEntries (r : Registry) (part : Section) :
    (r.banEntries.filter (·.part = part)).length = r.count part := by
  have hlength (t : ReasonTable) (part : Section) :
      (tableBans part none t.sorted).length = t.size :=
    (List.length_map _).trans (OrderedMap.size_sort t)
  rw [banEntries_eq, List.filter_append, List.filter_append, List.length_append, List.length_append,
    length_filter_of_part fun _ => part_of_mem_tableBans,
    length_filter_of_part fun _ => part_of_mem_tableBans,
    length_filter_of_part fun _ => part_of_mem_methodBans, hlength, hlength, length_methodBans]
  cases part <;> simp [count]

/-- The ban is one of the registry: the class, the package or the method of its owner has this
reason. -/
def Holds (r : Registry) (e : BanEntry) : Prop :=
  match e.part with
  | .classes => e.owner = none ∧ r.classes.get? e.key = some e.reason
  | .packages => e.owner = none ∧ r.packages.get? e.key = some e.reason
  | .methods => ∃ owner names, e.owner = some owner ∧ r.methods.get? owner = some names
      ∧ names.get? e.key = some e.reason

theorem mem_banEntries {r : Registry} {e : BanEntry} : e ∈ r.banEntries ↔ r.Holds e := by
  obtain ⟨key, reason, part, owner⟩ := e
  rw [banEntries_eq]
  cases part with
  | classes =>
    have hmem := (OrderedMap.tabulates_sorted r.classes).mem_iff
    simpa [Holds, methodBans, tableBans, hmem, @eq_comm _ none] using and_comm
  | packages =>
    have hmem := (OrderedMap.tabulates_sorted r.packages).mem_iff
    simpa [Holds, methodBans, tableBans, hmem, @eq_comm _ none] using and_comm
  | methods =>
    simp only [Holds, methodBans, tableBans, List.mem_append, List.mem_map, List.mem_flatMap,
      BanEntry.mk.injEq, reduceCtorEq, false_and, and_false, exists_false, false_or, true_and]
    constructor
    · rintro ⟨⟨o, names⟩, hm, ⟨k, v⟩, he, rfl, rfl, rfl⟩
      obtain ⟨t, ht, hnames⟩ := mem_methodLists.1 hm
      exact ⟨o, t, rfl, ht, (hnames.mem_iff _).1 he⟩
    · rintro ⟨o, t, rfl, ht, he⟩
      have hnames := OrderedMap.tabulates_sorted t
      exact ⟨(o, t.sorted), mem_methodLists.2 ⟨t, ht, hnames⟩, (key, reason),
        (hnames.mem_iff _).2 he, rfl, rfl, rfl⟩

end Registry

/-! ### The order of the entries -/

/-- The place of a section among all sections. -/
def Section.place (part : Section) : Nat := Section.all.idxOf part

/-- One ban comes before another: by section, then by owner, then by name. -/
def BanEntry.Precedes (e f : BanEntry) : Prop :=
  e.part.place < f.part.place
    ∨ e.part = f.part
      ∧ ((∃ o p, e.owner = some o ∧ f.owner = some p ∧ Before o p)
        ∨ e.owner = f.owner ∧ Before e.key f.key)

theorem BanEntry.Precedes.ne {e f : BanEntry} (h : e.Precedes f) :
    (e.part, e.owner, e.key) ≠ (f.part, f.owner, f.key) := by
  intro hsame
  obtain ⟨hpart, howner, hkey⟩ : e.part = f.part ∧ e.owner = f.owner ∧ e.key = f.key := by
    simpa using hsame
  rcases h with hlt | ⟨-, ⟨o, p, ho, hp, hlt⟩ | ⟨-, hlt⟩⟩
  · exact Nat.lt_irrefl _ (hpart ▸ hlt)
  · obtain rfl : o = p := Option.some.inj (ho.symm.trans (howner.trans hp))
    exact not_before_self o hlt
  · exact not_before_self _ (hkey ▸ hlt)

namespace Registry

theorem pairwise_tableBans {fields : List (String × Value)} (h : Increasing fields) (part : Section)
    (owner : Option String) : (tableBans part owner fields).Pairwise BanEntry.Precedes :=
  List.pairwise_map.2 (h.imp fun hlt => .inr ⟨rfl, .inr ⟨rfl, hlt⟩⟩)

theorem pairwise_methodBans (r : Registry) : r.methodBans.Pairwise BanEntry.Precedes := by
  refine List.pairwise_flatMap.2 ⟨fun m hm => ?_, ?_⟩
  · obtain ⟨t, -, hnames⟩ := mem_methodLists.1 hm
    exact pairwise_tableBans hnames.increasing _ _
  · refine (OrderedMap.increasing_sorted _).imp fun {m n} hlt e he f hf => ?_
    obtain ⟨_, -, rfl⟩ := List.mem_map.1 he
    obtain ⟨_, -, rfl⟩ := List.mem_map.1 hf
    exact .inr ⟨rfl, .inl ⟨m.1, n.1, rfl, rfl, hlt⟩⟩

theorem pairwise_banEntries (r : Registry) : r.banEntries.Pairwise BanEntry.Precedes := by
  rw [banEntries_eq, List.pairwise_append, List.pairwise_append]
  refine ⟨⟨pairwise_tableBans r.classes.increasing_sorted _ _,
    pairwise_tableBans r.packages.increasing_sorted _ _, ?_⟩, r.pairwise_methodBans, ?_⟩
  · intro e he f hf
    refine .inl ?_
    rw [part_of_mem_tableBans he, part_of_mem_tableBans hf]
    decide
  · intro e he f hf
    refine .inl ?_
    rw [part_of_mem_methodBans hf]
    rcases List.mem_append.1 he with he | he
    · rw [part_of_mem_tableBans he]
      decide
    · rw [part_of_mem_tableBans he]
      decide

/-! ### Canonical and complete -/

theorem Agree.listings {r s : Registry} (h : Agree r s) :
    r.toDocument = s.toDocument ∧ r.banEntries = s.banEntries
      ∧ ∀ part, r.count part = s.count part := by
  have hclasses := OrderedMap.sorted_congr h.classes
  have hpackages := OrderedMap.sorted_congr h.packages
  have hentries : r.banEntries = s.banEntries := by
    rw [banEntries_eq, banEntries_eq, methodBans, methodBans, hclasses, hpackages, h.methodLists]
  refine ⟨?_, hentries, fun part => ?_⟩
  · rw [toDocument_eq, toDocument_eq, hclasses, hpackages, h.methodLists]
  · rw [← length_filter_banEntries, ← length_filter_banEntries, hentries]

/-- Listings are canonical: registries whose tables hold the same, in whatever order it came, have
the same document with the same order of keys, the same bans in the same order and the same counts.

And they are complete, for every registry. The document writes down the classes, the packages and
the owners, and for each owner its methods, all in the order of their names. The bans that are
listed are those of the registry, no two for one name: by section, then by owner, then by name. Of
each section as many are listed as are counted. -/
theorem listing_canonical :
    (∀ r s : Registry, r.Agree s →
      r.toDocument = s.toDocument ∧ r.banEntries = s.banEntries
        ∧ ∀ part, r.count part = s.count part)
    ∧ ∀ r : Registry,
      (∃ classes packages methods,
        r.toDocument = .object [("classes", .object classes), ("packages", .object packages),
          ("methods", .object (methods.map fun m => (m.1, .object m.2)))]
        ∧ Tabulates r.classes classes ∧ Tabulates r.packages packages ∧ Increasing methods
        ∧ ∀ owner names, (owner, names) ∈ methods
          ↔ ∃ t, r.methods.get? owner = some t ∧ Tabulates t names)
      ∧ (∀ e, e ∈ r.banEntries ↔ r.Holds e)
      ∧ r.banEntries.Pairwise BanEntry.Precedes
      ∧ (r.banEntries.map fun e => (e.part, e.owner, e.key)).Nodup
      ∧ ∀ part, (r.banEntries.filter (·.part = part)).length = r.count part := by
  refine ⟨fun r s h => h.listings, fun r => ⟨?_, fun _ => mem_banEntries, r.pairwise_banEntries,
    ?_, r.length_filter_banEntries⟩⟩
  · exact ⟨r.classes.sorted, r.packages.sorted, r.methodLists, r.toDocument_eq,
      r.classes.tabulates_sorted, r.packages.tabulates_sorted, OrderedMap.increasing_sorted _,
      fun _ _ => mem_methodLists⟩
  · exact List.pairwise_map.2 (r.pairwise_banEntries.imp BanEntry.Precedes.ne)

/-- Two classes, two methods of a third and a fourth without methods. -/
def sampleBans : Registry where
  classes := .ofList [("a.B", .text "no"), ("a.A", .text "")]
  methods := .ofList [("c.D", .ofList [("m", .null), ("f", .text "slow")]), ("c.C", .empty)]

/-- The same bans, taken in another order. -/
def sampleBansAgain : Registry where
  classes := .ofList [("a.A", .text ""), ("a.B", .text "no")]
  methods := .ofList [("c.C", .empty), ("c.D", .ofList [("f", .text "slow"), ("m", .null)])]

theorem agree_sampleBans : sampleBans.Agree sampleBansAgain where
  classes := OrderedMap.get?_ofList_perm (.swap ..) (by decide)
  packages _ := rfl
  methods owner := by
    have hnames : ∀ name, (OrderedMap.ofList [("m", Value.null), ("f", .text "slow")]).get? name
        = (OrderedMap.ofList [("f", .text "slow"), ("m", Value.null)]).get? name :=
      OrderedMap.get?_ofList_perm (.swap ..) (by decide)
    have hswap : sampleBansAgain.methods.get? owner = (OrderedMap.ofList
        [("c.D", .ofList [("f", .text "slow"), ("m", .null)]), ("c.C", .empty)]).get? owner :=
      OrderedMap.get?_ofList_perm (.swap ..) (by decide) owner
    rw [hswap, sampleBans, OrderedMap.get?_ofList, OrderedMap.get?_ofList, OrderedMap.lastOf_cons,
      OrderedMap.lastOf_cons]
    by_cases hC : "c.C" = owner
    · simp [OrderedMap.lastOf, hC]
    · by_cases hD : "c.D" = owner
      · simpa [OrderedMap.lastOf, hC, hD] using hnames
      · simp [OrderedMap.lastOf, hC, hD]

theorem listing_canonical_reordered : sampleBans.Agree sampleBansAgain
    ∧ sampleBans.toDocument = sampleBansAgain.toDocument
    ∧ sampleBans.banEntries = sampleBansAgain.banEntries
    ∧ ∀ part, sampleBans.count part = sampleBansAgain.count part :=
  ⟨agree_sampleBans, listing_canonical.1 _ _ agree_sampleBans⟩

end Registry

end BannedApi
