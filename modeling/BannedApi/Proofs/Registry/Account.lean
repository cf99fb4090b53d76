import BannedApi.Proofs.Registry.Run

/-!
The account that a load gives of the sections of a document.

Which sections can be used (`Section.accepts`) and how many bans they state (`Section.bansIn`) is
said without the reader. A section is read exactly when it is accepted, and its table then has as
many bans as it states (`size_readTable`, `total_readOwners`), so each of the three sections ends
up in one of three lists: used, missing or malformed (`take_document`).
-/
namespace BannedApi

/-! ### Well-formed sections -/

namespace Value

/-- A mapping whose values all pass a test. -/
def isMapOf (test : Value → Bool) (v : Value) : Bool :=
  v.fields?.any fun fields => fields.all fun e => test e.2

/-- A mapping of names to reasons. Each reason is a text, also that of the empty name. -/
def isTable (v : Value) : Bool := v.isMapOf fun reason => reason.text?.isSome

/-- The fields of a mapping. What is no mapping has none. -/
def fields (v : Value) : List (String × Value) := v.fields?.getD []

/-- The values of a mapping by name. A name that is given twice has its last value. -/
def byName (v : Value) : OrderedMap Value := .ofList v.fields

/-- The number of names in a mapping. The empty name is none. -/
def named (v : Value) : Nat := (v.byName.keys.filter (· ≠ "")).length

end Value

namespace Section

/-- The value can be used for the section. -/
def accepts : Section → Value → Bool
  | .methods => Value.isMapOf Value.isTable
  | _ => Value.isTable

/-- The number of bans that a value states for the section: for methods, those of all owners. -/
def bansIn : Section → Value → Nat
  | .methods => fun v => v.byName.total Value.named
  | _ => Value.named

/-- The number of bans that a document gives to the section, if it has the section and the section
can be used. -/
def bans? (part : Section) (document : Value) : Option Nat :=
  (document.field? part.name).bind fun v => if part.accepts v then some (part.bansIn v) else none

/-- The document has the section and it cannot be used. -/
def isMalformed (part : Section) (document : Value) : Bool :=
  (document.field? part.name).any fun v => !part.accepts v

end Section

/-! ### The three lists -/

namespace Section

theorem filter_all (test : Section → Bool) :
    all.filter test = (if test .classes then [.classes] else [])
      ++ (if test .packages then [.packages] else [])
      ++ (if test .methods then [.methods] else []) := by
  cases hclasses : test .classes <;> cases hpackages : test .packages
    <;> cases hmethods : test .methods <;> simp [all, hclasses, hpackages, hmethods]

theorem filterMap_all {α : Type} (f : Section → Option α) :
    all.filterMap f = (f .classes).toList ++ (f .packages).toList ++ (f .methods).toList := by
  rw [List.filterMap_eq_flatMap_toList]
  simp [all]

theorem mem_all (part : Section) : part ∈ all := by cases part <;> decide

theorem mem_filter_all {test : Section → Bool} {part : Section} :
    part ∈ all.filter test ↔ test part = true := by
  rw [List.mem_filter]
  exact and_iff_right (mem_all part)

/-- A section is used unless it is missing or malformed. -/
theorem isSome_bans? (part : Section) (d : Value) :
    (part.bans? d).isSome = !((d.field? part.name).isNone || part.isMalformed d) := by
  rw [bans?, isMalformed]
  cases d.field? part.name with
  | none => rfl
  | some v => cases haccepts : part.accepts v <;> simp [haccepts]

theorem bans?_eq_some_iff {part : Section} {d : Value} {n : Nat} :
    part.bans? d = some n
      ↔ ∃ v, d.field? part.name = some v ∧ part.accepts v = true ∧ n = part.bansIn v := by
  rw [bans?, Option.bind_eq_some_iff]
  refine exists_congr fun v => and_congr_right fun _ => ?_
  rw [Option.ite_none_right_eq_some, Option.some.injEq]
  exact and_congr_right fun _ => eq_comm

theorem isMalformed_iff {part : Section} {d : Value} :
    part.isMalformed d = true ↔ ∃ v, d.field? part.name = some v ∧ part.accepts v = false := by
  rw [isMalformed, Option.any_eq_true]
  refine exists_congr fun v => and_congr_right fun _ => ?_
  rw [Bool.not_eq_true']

end Section

theorem Value.field?_eq_none_iff {v : Value} {key : String} :
    v.field? key = none ↔ ∀ e ∈ v.fields, e.1 ≠ key := by
  rw [field?, fields, fields?]
  cases v.entries? with
  | none => simp
  | some entries =>
    simp only [Option.bind_some, Option.map_eq_none_iff, List.find?_eq_none, beq_iff_eq,
      Option.map_some, Option.getD_some, List.mem_filterMap]
    constructor
    · rintro h f ⟨e, he, hf⟩ hkey
      obtain ⟨name, hname, rfl⟩ := Option.map_eq_some_iff.1 hf
      subst hkey
      exact h e he (Scalar.text?_eq_some_iff.1 hname)
    · intro h e he hkey
      exact h (key, e.2) ⟨e, he, by rw [hkey]; rfl⟩ rfl

theorem map_fst_filterMap {α β : Type} (f : α → Option β) (xs : List α) :
    (xs.filterMap fun x => (f x).map (x, ·)).map (·.1) = xs.filter fun x => (f x).isSome := by
  rw [List.map_filterMap, ← List.filterMap_eq_filter]
  refine List.filterMap_congr fun x _ => ?_
  rw [Option.map_map]
  cases hx : f x <;> simp [Option.guard, hx]

/-- Things of three kinds, taken kind by kind. -/
theorem perm_of_three_kinds {α : Type} {p q r : α → Bool} (hqp : ∀ x, q x = true → p x = false)
    (hr : ∀ x, r x = !(p x || q x)) (xs : List α) :
    (xs.filter r ++ xs.filter p ++ xs.filter q).Perm xs := by
  have hp : xs.filter p = (xs.filter fun x => !r x).filter p := by
    rw [List.filter_filter]
    refine List.filter_congr fun x _ => ?_
    rw [hr x]
    cases p x <;> rfl
  have hq : xs.filter q = (xs.filter fun x => !r x).filter fun x => !p x := by
    rw [List.filter_filter]
    refine List.filter_congr fun x _ => ?_
    have hx := hqp x
    rw [hr x]
    cases hpx : p x <;> cases hqx : q x <;> simp_all
  rw [List.append_assoc, hp, hq]
  exact ((List.filter_append_perm p _).append_left _).trans (List.filter_append_perm r xs)

/-! ### What is read of a section -/

namespace Reading

open OrderedMap (ofList)

theorem mapM_eq_ite {α β : Type} {f : α → Option β} {test : α → Bool} {g : α → β}
    (h : ∀ x, f x = if test x then some (g x) else none) (xs : List α) :
    xs.mapM f = if xs.all test then some (xs.map g) else none := by
  induction xs with
  | nil => rfl
  | cons x xs ih =>
    have hx := h x
    rw [List.all_cons, List.map_cons]
    cases htest : test x with
    | false =>
      rw [htest] at hx
      exact mapM_cons_of_none hx xs
    | true =>
      rw [htest] at hx
      rw [mapM_cons_of_some hx, ih, Bool.true_and]
      cases xs.all test <;> rfl

/-- The names and reasons of a table. -/
def stated (v : Value) : List (String × String) :=
  (v.fields.map fun e => (e.1, e.2.text?.getD "")).filter (·.1 ≠ "")

theorem bans?_eq_ite (v : Value) : bans? v = if v.isTable then some (stated v) else none := by
  rw [bans?, Value.isTable, Value.isMapOf, stated, Value.fields]
  cases v.fields? with
  | none => rfl
  | some fields =>
    have hreason : ∀ e : String × Value, reason? e
        = if e.2.text?.isSome then some (e.1, e.2.text?.getD "") else none := by
      intro e
      rw [reason?]
      cases e.2.text? <;> rfl
    rw [Option.bind_some, mapM_eq_ite hreason, Option.any_some, Option.getD_some]
    cases fields.all fun e => e.2.text?.isSome <;> rfl

theorem size_stated (v : Value) : (ofList (stated v)).size = v.named := by
  rw [stated, OrderedMap.size_ofList_filter (· ≠ ""),
    OrderedMap.ofList_map fun reason : Value => reason.text?.getD "", OrderedMap.keys_map,
    Value.named, Value.byName]

/-- A table is read if it is one, and then each of its names is a ban. -/
theorem size_readTable (v : Value) :
    (readTable v).table.toOption.map OrderedMap.size
      = if v.isTable then some v.named else none := by
  rw [readTable_eq, bans?_eq_ite]
  cases v.isTable with
  | false => rfl
  | true => exact congrArg some (size_stated v)

theorem ownerBans?_eq_ite (v : Value) :
    ownerBans? v = if v.isMapOf Value.isTable then
      some (v.fields.map fun e => (e.1, ofList (stated e.2))) else none := by
  rw [ownerBans?, Value.isMapOf, Value.fields]
  cases v.fields? with
  | none => rfl
  | some fields =>
    have howner : ∀ e : String × Value, ownerTable? e
        = if e.2.isTable then some (e.1, ofList (stated e.2)) else none := by
      intro e
      rw [ownerTable?, bans?_eq_ite]
      cases e.2.isTable <;> rfl
    rw [Option.bind_some, mapM_eq_ite howner, Option.any_some, Option.getD_some]

/-- The methods are read if each owner has a table, and then the names of each owner are bans. -/
theorem total_readOwners (v : Value) :
    (readOwners v).table.toOption.map (·.total OrderedMap.size)
      = if v.isMapOf Value.isTable then some (v.byName.total Value.named) else none := by
  rw [readOwners_eq, ownerBans?_eq_ite]
  cases v.isMapOf Value.isTable with
  | false => rfl
  | true =>
    have howners : ofList (v.fields.map fun e => (e.1, ofList (stated e.2)))
        = v.byName.map fun names => ofList (stated names) := by
      rw [Value.byName, ← OrderedMap.ofList_map]
    have hsize : (fun names => (ofList (stated names)).size) = Value.named := funext size_stated
    rw [if_pos rfl, if_pos rfl, Option.map_some, Option.map_some, howners, OrderedMap.total_map,
      hsize]

/-! ### The lists of a result -/

/-- A section is read if it is accepted, and then it has as many bans as it states. -/
def Follows {α : Type} (read : Value → SectionReading α) (figure : α → Nat) (part : Section) :
    Prop :=
  ∀ v, (read v).table.toOption.map figure = if part.accepts v then some (part.bansIn v) else none

section

variable {α : Type} {read : Value → SectionReading α} {figure : α → Nat} {part : Section}

theorem Follows.map_usable (h : Follows read figure part) (d : Value) :
    (usable (sectionOf read part d)).map figure = part.bans? d := by
  rw [usable, sectionOf, Section.bans?]
  cases d.field? part.name with
  | none => rfl
  | some v => exact h v

theorem Follows.map_pair (h : Follows read figure part) (d : Value) :
    (usable (sectionOf read part d)).map (fun table => (part, figure table))
      = (part.bans? d).map (part, ·) := by
  rw [← h.map_usable, Option.map_map]
  rfl

theorem Follows.isMalformed (h : Follows read figure part) (d : Value) :
    isMalformed (sectionOf read part d) = part.isMalformed d := by
  rw [Reading.isMalformed, sectionOf, Section.isMalformed]
  cases d.field? part.name with
  | none => rfl
  | some v =>
    have hread := h v
    rw [Option.map_some, Option.any_some, Option.any_some]
    cases haccepts : part.accepts v with
    | false =>
      rw [haccepts] at hread
      rw [Option.map_eq_none_iff.1 hread]
      rfl
    | true =>
      rw [haccepts] at hread
      obtain ⟨table, htable, -⟩ := Option.map_eq_some_iff.1 hread
      rw [htable]
      rfl

end

theorem follows_classes : Follows readTable OrderedMap.size .classes := size_readTable

theorem follows_packages : Follows readTable OrderedMap.size .packages := size_readTable

theorem follows_methods : Follows readOwners (·.total OrderedMap.size) .methods := total_readOwners

theorem ofDocument_eq_refused (label : String) {d : Value} (h : d.entries? = none) :
    ∃ error warning, ofDocument label d = refused label error warning := by
  simp only [ofDocument, h]
  exact ⟨_, _, rfl⟩

/-- The account of a document that is a mapping. -/
theorem outcome_ofDocument (label : String) {d : Value} {entries : List (Scalar × Value)}
    (h : d.entries? = some entries) :
    (ofDocument label d).result.outcome
      = .applied (Section.all.filterMap fun part => (part.bans? d).map (part, ·))
          (Section.all.filter fun part => (d.field? part.name).isNone)
          (Section.all.filter fun part => part.isMalformed d) := by
  simp only [ofDocument, h, follows_classes.map_pair, follows_packages.map_pair,
    follows_methods.map_pair, follows_classes.isMalformed, follows_packages.isMalformed,
    follows_methods.isMalformed]
  rw [Section.filterMap_all, Section.filter_all fun part => part.isMalformed d]

/-- The number of bans in a section of a reading, if the section is used. -/
def size? (r : Reading) : Section → Option Nat
  | .classes => r.classes.map OrderedMap.size
  | .packages => r.packages.map OrderedMap.size
  | .methods => r.methods.map (·.total OrderedMap.size)

theorem size?_ofDocument (label : String) {d : Value} {entries : List (Scalar × Value)}
    (h : d.entries? = some entries) (part : Section) :
    (ofDocument label d).size? part = part.bans? d := by
  cases part with
  | classes => simpa only [size?, ofDocument, h] using follows_classes.map_usable d
  | packages => simpa only [size?, ofDocument, h] using follows_packages.map_usable d
  | methods => simpa only [size?, ofDocument, h] using follows_methods.map_usable d

end Reading

/-- What is merged into a loader without bans is all that its registry counts. -/
theorem Loader.count_build_merge (results : List LoadResult) {r : Reading} {part : Section}
    {n : Nat} (h : r.size? part = some n) : (Loader.merge { results } r).build.count part = n := by
  cases part with
  | classes =>
    obtain ⟨table, htable, rfl⟩ := Option.map_eq_some_iff.1 h
    simp [Registry.count, build, merge, htable, OrderedMap.empty_union, OrderedMap.size_map]
  | packages =>
    obtain ⟨table, htable, rfl⟩ := Option.map_eq_some_iff.1 h
    simp [Registry.count, build, merge, htable, OrderedMap.empty_union, OrderedMap.size_map]
  | methods =>
    obtain ⟨table, htable, rfl⟩ := Option.map_eq_some_iff.1 h
    simp [Registry.count, build, merge, htable, OrderedMap.empty_union, OrderedMap.total_map,
      OrderedMap.size_map]

/-! ### Loading a document -/

/-- The three lists of a result account for the sections of a document. -/
structure Account (d : Value) (loaded : List (Section × Nat)) (missing malformed : List Section) :
    Prop where
  loaded_sublist : (loaded.map (·.1)).Sublist Section.all
  missing_sublist : missing.Sublist Section.all
  malformed_sublist : malformed.Sublist Section.all
  /-- No section is in two lists, and each is in one. -/
  perm : (loaded.map (·.1) ++ missing ++ malformed).Perm Section.all
  mem_missing : ∀ part, part ∈ missing ↔ ∀ e ∈ d.fields, e.1 ≠ part.name
  mem_malformed : ∀ part,
    part ∈ malformed ↔ ∃ v, d.field? part.name = some v ∧ part.accepts v = false
  mem_loaded : ∀ part n, (part, n) ∈ loaded
    ↔ ∃ v, d.field? part.name = some v ∧ part.accepts v = true ∧ n = part.bansIn v

theorem account_all (d : Value) :
    Account d (Section.all.filterMap fun part => (part.bans? d).map (part, ·))
      (Section.all.filter fun part => (d.field? part.name).isNone)
      (Section.all.filter fun part => part.isMalformed d) where
  loaded_sublist := by
    rw [map_fst_filterMap]
    exact List.filter_sublist
  missing_sublist := List.filter_sublist
  malformed_sublist := List.filter_sublist
  perm := by
    rw [map_fst_filterMap]
    refine perm_of_three_kinds (fun part h => ?_) (fun part => part.isSome_bans? d) _
    obtain ⟨v, hv, -⟩ := Section.isMalformed_iff.1 h
    rw [hv]
    rfl
  mem_missing part := by
    rw [Section.mem_filter_all, Option.isNone_iff_eq_none]
    exact Value.field?_eq_none_iff
  mem_malformed part := Section.mem_filter_all.trans Section.isMalformed_iff
  mem_loaded part n := by
    rw [← Section.bans?_eq_some_iff, List.mem_filterMap]
    constructor
    · rintro ⟨found, -, hfound⟩
      obtain ⟨m, hm, heq⟩ := Option.map_eq_some_iff.1 hfound
      cases heq
      exact hm
    · intro h
      exact ⟨part, part.mem_all, by rw [h]; rfl⟩

theorem LoadResult.status_of_applied {r : LoadResult} {loaded : List (Section × Nat)}
    {missing malformed : List Section} (h : r.outcome = .applied loaded missing malformed) :
    r.status = if missing = [] ∧ malformed = [] then .loaded else .incomplete := by
  rw [status, h]
  simp

/-- All sections are used if and only if none is missing and none is malformed. -/
theorem Account.loaded_eq_all_iff {d : Value} {loaded : List (Section × Nat)}
    {missing malformed : List Section} (h : Account d loaded missing malformed) :
    loaded.map (·.1) = Section.all ↔ missing = [] ∧ malformed = [] := by
  have hlength := h.perm.length_eq
  rw [List.length_append, List.length_append] at hlength
  constructor
  · intro hall
    rw [hall] at hlength
    exact ⟨List.length_eq_zero_iff.1 (by omega), List.length_eq_zero_iff.1 (by omega)⟩
  · rintro ⟨rfl, rfl⟩
    exact h.loaded_sublist.eq_of_length (by simpa using hlength)

/-- Loading a document adds its result to the results and accounts for every section. What is no
mapping is refused and changes no table. Of a mapping each section is used, missing or malformed,
and it counts as loaded if all three are used; the bans of a section are counted as the section
states them, and as the registry does if there were none before. -/
theorem Loader.take_document (l : Loader) (label : String) (d : Value) :
    ∃ r, LoadStep.reading (.document label d) = .ok r
      ∧ r.result.source = label
      ∧ (l.take (.document label d)).results = l.results ++ [r.result]
      ∧ (r.result.status = .failed ↔ d.entries? = none)
      ∧ (d.entries? = none → (l.take (.document label d)).classes = l.classes
        ∧ (l.take (.document label d)).packages = l.packages
        ∧ (l.take (.document label d)).methods = l.methods)
      ∧ (d.entries? ≠ none → ∃ loaded missing malformed,
        r.result.outcome = .applied loaded missing malformed
          ∧ Account d loaded missing malformed
          ∧ (r.result.status = .loaded ↔ loaded.map (·.1) = Section.all)
          ∧ ∀ results part n, (part, n) ∈ loaded →
            (Loader.take { results } (.document label d)).build.count part = n) := by
  refine ⟨Reading.ofDocument label d, rfl, ?_⟩
  cases hentries : d.entries? with
  | none =>
    obtain ⟨error, warning, hrefused⟩ := Reading.ofDocument_eq_refused label hentries
    simp only [take, LoadStep.reading, hrefused]
    exact ⟨rfl, rfl, iff_of_true rfl trivial, fun _ => ⟨rfl, rfl, rfl⟩, fun h => absurd rfl h⟩
  | some entries =>
    have hsource : (Reading.ofDocument label d).result.source = label := by
      simp only [Reading.ofDocument, hentries]
    have houtcome := Reading.outcome_ofDocument label hentries
    have haccount := account_all d
    have hstatus := LoadResult.status_of_applied houtcome
    refine ⟨hsource, rfl, ?_, fun h => (Option.some_ne_none _ h).elim, fun _ =>
      ⟨_, _, _, houtcome, haccount, ?_, ?_⟩⟩
    · rw [hstatus]
      split <;> simp
    · rw [haccount.loaded_eq_all_iff, hstatus]
      split <;> simp_all
    · intro results part n h
      refine count_build_merge results ?_
      rw [Reading.size?_ofDocument label hentries]
      exact Section.bans?_eq_some_iff.2 ((haccount.mem_loaded part n).1 h)

/-- A list with a reason that is no text, no packages, and the methods of two owners. -/
def mixedList : Value :=
  .object [("classes", .object [("A", .text "x"), ("", .int 1)]),
    ("methods", .object [("A", .object [("m", .text "y"), ("", .text "z")]),
      ("", .object [("n", .text "w")])])]

theorem Loader.take_document_mixedList : mixedList.entries? ≠ none ∧ ∃ r loaded missing malformed,
    LoadStep.reading (.document "list" mixedList) = .ok r
      ∧ r.result.outcome = .applied loaded missing malformed
      ∧ (Section.methods, 2) ∈ loaded ∧ Section.packages ∈ missing ∧ Section.classes ∈ malformed
      ∧ (Loader.take {} (.document "list" mixedList)).build.count .methods = 2 := by
  have hmapping : mixedList.entries? ≠ none := Option.some_ne_none _
  refine ⟨hmapping, ?_⟩
  obtain ⟨r, hr, -, -, -, -, hmixed⟩ := take_document {} "list" mixedList
  obtain ⟨loaded, missing, malformed, houtcome, haccount, -, hcount⟩ := hmixed hmapping
  have hmethods : (Section.methods, 2) ∈ loaded :=
    (haccount.mem_loaded .methods 2).2 ⟨_, rfl, rfl, rfl⟩
  refine ⟨r, loaded, missing, malformed, hr, houtcome, hmethods, (haccount.mem_missing _).2 ?_,
    (haccount.mem_malformed .classes).2 ⟨_, rfl, rfl⟩, hcount [] _ _ hmethods⟩
  simp [mixedList, Value.fields, Value.fields?_object, Section.name]

end BannedApi
