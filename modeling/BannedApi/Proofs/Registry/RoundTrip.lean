import BannedApi.Command.Run
import BannedApi.Proofs.Json.RoundTrip
import BannedApi.Proofs.Registry.Prefix
import BannedApi.Proofs.Registry.Run

/-!
Loading the bans that were listed.

The list of a registry states its tables in the order of their names. A loader never takes a ban
without a name (`named_run`), so the list is read without loss: it is whole, and every table comes
back sorted (`build_ofDocument_toDocument`). Sorting changes no look-up (`agree_inOrder`), and a
sorted table is listed as before, so loading the list gives the registry that was listed
(`reload_listText`).
-/
namespace BannedApi

/-! ### Registries that agree -/

theorem OrderedMap.lookup_congr {α : Type} {m n : OrderedMap α}
    (h : ∀ key, m.get? key = n.get? key) (v : Value) : m.lookup v = n.lookup v := by
  unfold lookup
  split
  · rw [h]
  · rfl

namespace Registry

/-- All look-ups in the tables of two registries give the same. -/
structure Agree (r s : Registry) : Prop where
  classes : ∀ key, r.classes.get? key = s.classes.get? key
  packages : ∀ key, r.packages.get? key = s.packages.get? key
  methods : ∀ owner, Option.Rel (fun t u => ∀ name, t.get? name = u.get? name)
    (r.methods.get? owner) (s.methods.get? owner)

namespace Agree

variable {r s : Registry} (h : Agree r s)

include h

theorem classBanOf (key : Value) : r.classBanOf key = s.classBanOf key := by
  rw [Registry.classBanOf, Registry.classBanOf, OrderedMap.lookup_congr h.classes]

theorem packageBanOf (key : Value) : r.packageBanOf key = s.packageBanOf key := by
  rw [Registry.packageBanOf, Registry.packageBanOf, OrderedMap.lookup_congr h.packages]

theorem methodBan (owner name : Value) : r.methodBan owner name = s.methodBan owner name := by
  unfold Registry.methodBan OrderedMap.lookup
  split
  · next key =>
    have hmethods := h.methods key
    generalize r.methods.get? key = t, s.methods.get? key = u at hmethods ⊢
    cases hmethods with
    | none => rfl
    | some htable => exact congrArg (Except.map stated) (OrderedMap.lookup_congr htable name)
  · rfl

theorem mem_packages (key : String) : key ∈ r.packages.keys ↔ key ∈ s.packages.keys := by
  rw [← not_iff_not, ← OrderedMap.get?_eq_none_iff, ← OrderedMap.get?_eq_none_iff, h.packages]

end Agree

theorem Agree.prefixBan {r s : Registry} (h : Agree r s) (key : String) :
    r.prefixBan key = s.prefixBan key :=
  prefixBan_congr fun p _ => h.packages p

theorem Agree.prefixBanOf {r s : Registry} (h : Agree r s) (key : Value) :
    r.prefixBanOf key = s.prefixBanOf key := by
  have hempty : r.prefixes.isEmpty = s.prefixes.isEmpty := by
    rw [Bool.eq_iff_iff, List.isEmpty_iff, List.isEmpty_iff, List.eq_nil_iff_forall_not_mem,
      List.eq_nil_iff_forall_not_mem]
    exact forall_congr' fun p => by rw [mem_prefixes, mem_prefixes, h.mem_packages]
  unfold Registry.prefixBanOf
  split
  · rw [h.prefixBan]
  · rw [hempty]

end Registry

/-! ### Names -/

namespace Reading

theorem ne_empty_of_bans? {v : Value} {bans : List (String × String)} (h : bans? v = some bans) :
    ∀ e ∈ bans, e.1 ≠ "" := by
  obtain ⟨entries, -, hbans⟩ := Option.bind_eq_some_iff.1 h
  obtain ⟨all, -, rfl⟩ := Option.map_eq_some_iff.1 hbans
  intro e he
  simpa using (List.mem_filter.1 he).2

theorem mem_of_mapM {α β : Type} {f : α → Option β} :
    ∀ {xs : List α} {ys : List β} (_ : xs.mapM f = some ys), ∀ y ∈ ys, ∃ x ∈ xs, f x = some y
  | [], _, h, y, hy => by
    rw [List.mapM_nil] at h
    cases h
    cases hy
  | x :: xs, ys, h, y, hy => by
    cases hx : f x with
    | none =>
      rw [mapM_cons_of_none hx] at h
      cases h
    | some z =>
      rw [mapM_cons_of_some hx] at h
      obtain ⟨zs, hzs, rfl⟩ := Option.map_eq_some_iff.1 h
      rcases List.mem_cons.1 hy with rfl | hy
      · exact ⟨x, List.mem_cons_self .., hx⟩
      · obtain ⟨x', hx', hfx'⟩ := mem_of_mapM hzs y hy
        exact ⟨x', List.mem_cons_of_mem x hx', hfx'⟩

theorem named_of_ownerBans? {v : Value} {owners : List (String × BanTable)}
    (h : ownerBans? v = some owners) : ∀ e ∈ owners, "" ∉ e.2.keys := by
  intro e he hkey
  obtain ⟨entries, -, howners⟩ := Option.bind_eq_some_iff.1 h
  obtain ⟨x, -, hx⟩ := mem_of_mapM howners e he
  obtain ⟨bans, hbans, rfl⟩ := Option.map_eq_some_iff.1 hx
  obtain ⟨ban, hban, hempty⟩ := OrderedMap.mem_keys_ofList.1 hkey
  exact ne_empty_of_bans? hbans ban hban hempty

/-- What holds of all that a section states holds of what a document gives to it. -/
theorem forall_mem_bansOf {α : Type} {read? : Value → Option (List (String × α))}
    {P : String × α → Prop} (h : ∀ {v bans}, read? v = some bans → ∀ e ∈ bans, P e)
    (part : Section) (document : Option Value) : ∀ e ∈ bansOf read? part document, P e := by
  intro e he
  unfold bansOf at he
  cases hread : document.bind fun d => (d.field? part.name).bind read? with
  | none =>
    rw [hread] at he
    cases he
  | some bans =>
    rw [hread] at he
    obtain ⟨d, -, hfield⟩ := Option.bind_eq_some_iff.1 hread
    obtain ⟨v, -, hv⟩ := Option.bind_eq_some_iff.1 hfield
    exact h hv e he

end Reading

namespace Loader

/-- No ban is without a name. A class may be without one in the section of methods. -/
structure Named (l : Loader) : Prop where
  classes : "" ∉ l.classes.keys
  packages : "" ∉ l.packages.keys
  methods : ∀ e ∈ l.methods.entries, "" ∉ e.2.keys

theorem named_run (steps : List LoadStep) : (run steps).Named := by
  obtain ⟨hclasses, hpackages, hmethods⟩ := holds_run steps
  have hbans (part : Section) : "" ∉ (OrderedMap.ofList (steps.flatMap (·.bans part))).keys := by
    intro hkey
    obtain ⟨e, he, hempty⟩ := OrderedMap.mem_keys_ofList.1 hkey
    obtain ⟨s, -, hs⟩ := List.mem_flatMap.1 he
    exact Reading.forall_mem_bansOf Reading.ne_empty_of_bans? part s.document? e hs hempty
  refine ⟨hclasses ▸ hbans .classes, hpackages ▸ hbans .packages, ?_⟩
  intro e he
  rw [hmethods] at he
  obtain ⟨s, -, hs⟩ := List.mem_flatMap.1 (OrderedMap.mem_of_mem_ofList he)
  exact Reading.forall_mem_bansOf Reading.named_of_ownerBans? .methods s.document? e hs

end Loader

/-! ### What a list states -/

namespace Reading

theorem mapM_map_of_some {α β γ : Type} {f : β → Option γ} {g : α → β} {k : α → γ} {xs : List α}
    (h : ∀ x ∈ xs, f (g x) = some (k x)) : (xs.map g).mapM f = some (xs.map k) := by
  induction xs with
  | nil => rfl
  | cons x xs ih =>
    rw [List.map_cons, mapM_cons_of_some (h x (List.mem_cons_self ..)),
      ih fun y hy => h y (List.mem_cons_of_mem x hy)]
    rfl

/-- A table is listed without loss. -/
theorem bans?_tableDocument {t : BanTable} (hnamed : "" ∉ t.keys) :
    bans? (Registry.tableDocument (t.map .text)) = some t.sorted := by
  have hmapM : (t.sorted.map fun e => (e.1, Value.text e.2)).mapM reason? = some t.sorted := by
    have hback : ∀ e ∈ t.sorted, reason? (e.1, .text e.2) = some (id e) := fun _ _ => rfl
    exact (mapM_map_of_some hback).trans (by rw [List.map_id])
  have hall : t.sorted.filter (·.1 ≠ "") = t.sorted := by
    refine List.filter_eq_self.2 fun e he => ?_
    have hkey : e.1 ∈ t.keys := List.mem_map_of_mem (List.mem_mergeSort.1 he)
    simpa using fun hempty : e.1 = "" => hnamed (hempty ▸ hkey)
  rw [Registry.tableDocument, OrderedMap.sorted_map, bans?, Value.fields?_object, Option.bind_some,
    hmapM, Option.map_some, hall]

/-- So are the methods, class by class. -/
theorem ownerBans?_methodsDocument {m : OrderedMap BanTable}
    (hnamed : ∀ e ∈ m.entries, "" ∉ e.2.keys) :
    ownerBans? (.object ((m.map (·.map .text)).sorted.map
        fun e => (e.1, Registry.tableDocument e.2)))
      = some (m.map OrderedMap.sort).sorted := by
  rw [OrderedMap.sorted_map, OrderedMap.sorted_map, ownerBans?, Value.fields?_object,
    Option.bind_some, List.map_map]
  refine mapM_map_of_some fun e he => ?_
  have htable := bans?_tableDocument (hnamed e (List.mem_mergeSort.1 he))
  rw [Function.comp_apply, ownerTable?, htable, Option.map_some, OrderedMap.ofList_sorted]

theorem isMalformed_of_usable {α : Type} {reading : Option (SectionReading α)} {table : α}
    (h : usable reading = some table) : isMalformed reading = false := by
  cases reading with
  | none => rfl
  | some r =>
    have hr : r.table.toOption = some table := h
    rw [isMalformed, Option.any_some, hr]
    rfl

end Reading

namespace Loader

/-- Everything loaded, in the order of the names. -/
def inOrder (l : Loader) : Loader :=
  { l with
    classes := l.classes.sort
    packages := l.packages.sort
    methods := (l.methods.map OrderedMap.sort).sort }

theorem usable_classes {l : Loader} (h : l.Named) :
    Reading.usable (Reading.sectionOf Reading.readTable .classes l.build.toDocument)
      = some l.inOrder.classes := by
  refine (Reading.readTable_eq (Registry.tableDocument (l.classes.map .text))).trans ?_
  rw [Reading.bans?_tableDocument h.classes, Option.map_some, OrderedMap.ofList_sorted]
  rfl

theorem usable_packages {l : Loader} (h : l.Named) :
    Reading.usable (Reading.sectionOf Reading.readTable .packages l.build.toDocument)
      = some l.inOrder.packages := by
  refine (Reading.readTable_eq (Registry.tableDocument (l.packages.map .text))).trans ?_
  rw [Reading.bans?_tableDocument h.packages, Option.map_some, OrderedMap.ofList_sorted]
  rfl

theorem usable_methods {l : Loader} (h : l.Named) :
    Reading.usable (Reading.sectionOf Reading.readOwners .methods l.build.toDocument)
      = some l.inOrder.methods := by
  have hlisted := Reading.ownerBans?_methodsDocument h.methods
  have hread := (Reading.readOwners_eq _).trans (congrArg (Option.map OrderedMap.ofList) hlisted)
  rw [Option.map_some, OrderedMap.ofList_sorted] at hread
  exact hread

/-- The list of what was loaded is complete and well formed. -/
theorem result_toDocument {l : Loader} (h : l.Named) (label : String) :
    (Reading.ofDocument label l.build.toDocument).result
      = ⟨label, .applied (Section.all.map fun part => (part, l.build.count part)) [] []⟩ := by
  have hclasses : l.inOrder.classes.size = l.build.count .classes :=
    (OrderedMap.size_sort _).trans (OrderedMap.size_map _ _).symm
  have hpackages : l.inOrder.packages.size = l.build.count .packages :=
    (OrderedMap.size_sort _).trans (OrderedMap.size_map _ _).symm
  have hmethods : l.inOrder.methods.total OrderedMap.size = l.build.count .methods := by
    simp only [inOrder, Registry.count, build, OrderedMap.total_sort, OrderedMap.total_map,
      OrderedMap.size_sort, OrderedMap.size_map]
  unfold Reading.ofDocument
  split
  · simp only [usable_classes h, usable_packages h, usable_methods h,
      Reading.isMalformed_of_usable (usable_classes h),
      Reading.isMalformed_of_usable (usable_packages h),
      Reading.isMalformed_of_usable (usable_methods h), Option.map_some, hclasses, hpackages,
      hmethods]
    rfl
  · next hentries => cases hentries

/-- Loading the list of what was loaded gives the same in order. -/
theorem build_ofDocument_toDocument {l : Loader} (h : l.Named) (label : String) :
    (merge {} (Reading.ofDocument label l.build.toDocument)).build
      = { l.inOrder.build with sources := [label] } := by
  have hclasses : (Reading.ofDocument label l.build.toDocument).classes = some l.inOrder.classes :=
    usable_classes h
  have hpackages : (Reading.ofDocument label l.build.toDocument).packages
      = some l.inOrder.packages := usable_packages h
  have hmethods : (Reading.ofDocument label l.build.toDocument).methods = some l.inOrder.methods :=
    usable_methods h
  have hresult := result_toDocument h label
  generalize Reading.ofDocument label l.build.toDocument = reading at *
  simp only [merge, build, hclasses, hpackages, hmethods, hresult, Option.map_some,
    Option.getD_some, OrderedMap.empty_union]
  rfl

/-! ### Order does not count -/

theorem agree_inOrder (l : Loader) : l.inOrder.build.Agree l.build where
  classes key := by
    simp only [build, inOrder, OrderedMap.get?_map, OrderedMap.get?_sort]
  packages key := by
    simp only [build, inOrder, OrderedMap.get?_map, OrderedMap.get?_sort]
  methods owner := by
    simp only [build, inOrder, OrderedMap.get?_map, OrderedMap.get?_sort]
    cases l.methods.get? owner with
    | none => exact .none
    | some table =>
      exact .some fun name => by simp only [OrderedMap.get?_map, OrderedMap.get?_sort]

theorem tableDocument_sort (t : BanTable) :
    Registry.tableDocument (t.sort.map .text) = Registry.tableDocument (t.map .text) := by
  rw [Registry.tableDocument, Registry.tableDocument, OrderedMap.sorted_map, OrderedMap.sorted_map,
    OrderedMap.sorted_sort]

/-- What is in order is listed as before. -/
theorem toDocument_inOrder (l : Loader) : l.inOrder.build.toDocument = l.build.toDocument := by
  simp only [Registry.toDocument, build, inOrder, OrderedMap.sorted_map, OrderedMap.sorted_sort,
    tableDocument_sort, List.map_map, Function.comp_def]

/-! ### Listing -/

theorem legible_tableDocument (t : BanTable) :
    Json.Legible .pretty (Registry.tableDocument (t.map .text)) := by
  refine Json.legible_object rfl (t.map Value.text).sort.nodup fun f hf => ?_
  rw [OrderedMap.sorted_map] at hf
  obtain ⟨e, -, rfl⟩ := List.mem_map.1 hf
  exact Json.legible_text rfl e.2

theorem legible_toDocument (l : Loader) : Json.Legible .pretty l.build.toDocument := by
  have hmethods : Json.Legible .pretty (.object (l.build.methods.sorted.map
      fun m => (m.1, Registry.tableDocument m.2))) := by
    refine Json.legible_object rfl ?_ ?_
    · rw [List.map_map]
      exact l.build.methods.sort.nodup
    · intro f hf
      rw [build, OrderedMap.sorted_map, List.map_map] at hf
      obtain ⟨e, -, rfl⟩ := List.mem_map.1 hf
      exact legible_tableDocument e.2
  refine Json.legible_object rfl (by simp) fun f hf => ?_
  simp only [List.mem_cons, List.not_mem_nil, or_false] at hf
  rcases hf with rfl | rfl | rfl
  · exact legible_tableDocument l.classes
  · exact legible_tableDocument l.packages
  · exact hmethods

/-- The list of all bans after any run is a text that loads wholly: no section is missing or
malformed, and each has as many entries as bans were counted. A loader that starts with this text
has the same bans for every name, prefix and method that it is asked for, and lists them as
before. -/
theorem reload_listText (steps : List LoadStep) (label : String) :
    ∃ text reading, Command.listText .json (run steps).build = .ok text
      ∧ Reading.ofText label text = .ok reading
      ∧ reading.result.status = .loaded
      ∧ reading.result = ⟨label,
          .applied (Section.all.map fun part => (part, (run steps).build.count part)) [] []⟩
      ∧ (∀ key, (run [.text label text]).build.classBanOf key
          = (run steps).build.classBanOf key)
      ∧ (∀ key, (run [.text label text]).build.packageBanOf key
          = (run steps).build.packageBanOf key)
      ∧ (∀ owner name, (run [.text label text]).build.methodBan owner name
          = (run steps).build.methodBan owner name)
      ∧ (∀ key, (run [.text label text]).build.prefixBanOf key
          = (run steps).build.prefixBanOf key)
      ∧ (run [.text label text]).build.toDocument = (run steps).build.toDocument := by
  have hnamed := named_run steps
  generalize run steps = l at hnamed ⊢
  have hspace : ∀ c ∈ "\n".toList, Json.isSpace c = true := by simp [Json.isSpace]
  obtain ⟨text, hprint, hparse⟩ := Json.parse_print (legible_toDocument l) "\n" hspace
  have hreading : Reading.ofText label (text ++ "\n")
      = .ok (Reading.ofDocument label l.build.toDocument) := by
    rw [Reading.ofText, hparse]
  -- The text lists the bans in order, so what it builds is the registry in order and not the
  -- registry itself; the two agree wherever they are asked.
  have hrun : (run [.text label (text ++ "\n")]).build
      = { l.inOrder.build with sources := [label] } := by
    rw [← build_ofDocument_toDocument hnamed label, run, List.foldl_cons, List.foldl_nil, take,
      LoadStep.reading, hreading]
  have hagree : ({ l.inOrder.build with sources := [label] } : Registry).Agree l.build :=
    ⟨l.agree_inOrder.classes, l.agree_inOrder.packages, l.agree_inOrder.methods⟩
  have hresult := result_toDocument hnamed label
  refine ⟨text ++ "\n", _, ?_, hreading, ?_, hresult, ?_⟩
  · rw [Command.listText, hprint]
    rfl
  · rw [hresult]
    rfl
  · rw [hrun]
    exact ⟨hagree.classBanOf, hagree.packageBanOf, hagree.methodBan, hagree.prefixBanOf,
      l.toDocument_inOrder⟩

end Loader

end BannedApi
