import BannedApi.Proofs.Registry.Listing
import BannedApi.Proofs.Report.Tables

/-!
What a report counts.

A report counts its diagnostics by file, by rule and by kind of node. `Tallies` says what such
counts are: every diagnostic is counted under one key, and each count is the number of diagnostics
with its key, so they add up to all of them. The counts by file are the sizes of the groups
(`tallies_grouped`), and those of names are made one by one (`tallies_tally`). In a report all three
add up, whatever the diagnostics (`document_counts`).
-/
namespace BannedApi

namespace OrderedMap

variable {α : Type}

/-- Giving a name a value adds the figure of the value and takes away that of the value before. -/
theorem total_insert (figure : α → Nat) (m : OrderedMap α) (key : String) (x : α) :
    (m.insert key x).total figure + ((m.get? key).map figure).getD 0
      = m.total figure + figure x := by
  unfold total insert get?
  simp only [Option.map_map]
  induction m.entries with
  | nil => simp [put]
  | cons e entries ih =>
    obtain ⟨k, y⟩ := e
    by_cases hk : k = key
    · simp only [put, hk, if_true, List.foldr_cons, List.find?_cons, beq_self_eq_true,
        Option.map_some, Option.getD_some, Function.comp_apply]
      omega
    · simp only [put, hk, if_false, List.foldr_cons, List.find?_cons, beq_eq_false_iff_ne.2 hk]
      omega

end OrderedMap

namespace Report

variable {α κ : Type}

/-- These are the counts of things by key: every thing has one of the keys and no other, no key is
without things, and each count is the number of things with its key. -/
structure Tallies (things : List α) (has : α → κ → Prop) [∀ x k, Decidable (has x k)]
    (counts : List (κ × Nat)) : Prop where
  sum : counts.foldr (fun c n => c.2 + n) 0 = things.length
  count : ∀ c ∈ counts, c.2 = things.countP fun x => has x c.1
  covers : ∀ x ∈ things, ∃ c ∈ counts, has x c.1
  occurs : ∀ c ∈ counts, ∃ x ∈ things, has x c.1
  disjoint : counts.Pairwise fun c e => ∀ x, ¬ (has x c.1 ∧ has x e.1)

theorem Tallies.of_map {β : Type} {f : β → α} {has : α → κ → Prop} [∀ x k, Decidable (has x k)]
    {things : List β} {counts : List (κ × Nat)} (h : Tallies (things.map f) has counts) :
    Tallies things (fun x k => has (f x) k) counts where
  sum := h.sum.trans (List.length_map f)
  count c hc := (h.count c hc).trans List.countP_map
  covers x hx := h.covers (f x) (List.mem_map_of_mem hx)
  occurs c hc := by
    obtain ⟨y, hy, hc⟩ := h.occurs c hc
    obtain ⟨x, hx, rfl⟩ := List.mem_map.1 hy
    exact ⟨x, hx, hc⟩
  disjoint := h.disjoint.imp fun hne x => hne (f x)

/-! ### Files -/

/-- The file of the diagnostic is the key. -/
def HasFile (d : Diagnostic) (k : Scalar) : Prop :=
  d.location.file.key.toOption.any k.sameKey = true

instance (d : Diagnostic) (k : Scalar) : Decidable (HasFile d k) :=
  inferInstanceAs (Decidable (_ = true))

theorem hasFile_iff {d : Diagnostic} {k : Scalar} :
    HasFile d k ↔ ∃ file, d.location.file.key = .ok file ∧ k.keyed = file.keyed := by
  unfold HasFile
  cases d.location.file.key with
  | error fault => simp [Except.toOption]
  | ok file => simp [Except.toOption, Scalar.sameKey_iff]

theorem sum_lengths (groups : List (κ × List α)) :
    (groups.map fun g => (g.1, g.2.length)).foldr (fun c n => c.2 + n) 0
      = (groups.flatMap (·.2)).length := by
  induction groups with
  | nil => rfl
  | cons g groups ih =>
    rw [List.map_cons, List.foldr_cons, ih, List.flatMap_cons, List.length_append]

/-- The sizes of the groups are the counts by file. -/
theorem tallies_grouped {ds : List Diagnostic} (h : ∀ d ∈ ds, ∃ k, Analysis.fileKey d = .ok k) :
    Tallies ds HasFile ((grouped keyOf ds).map fun g => (g.1, g.2.length)) := by
  have hfile : ∀ d ∈ ds, ∀ k, HasFile d k ↔ k.sameKey (keyOf d) = true := by
    intro d hd k
    obtain ⟨file, hkey⟩ := h d hd
    rw [hasFile_iff, fileKey_eq hkey, Scalar.sameKey_iff]
    constructor
    · rintro ⟨other, hother, hsame⟩
      cases hkey.symm.trans hother
      exact hsame
    · exact fun hsame => ⟨file, hkey, hsame⟩
  refine ⟨?_, ?_, ?_, ?_, ?_⟩
  · rw [sum_lengths, (perm_grouped keyOf ds).length_eq]
  · intro c hc
    obtain ⟨g, hg, rfl⟩ := List.mem_map.1 hc
    obtain ⟨k, -, rfl⟩ := List.mem_map.1 hg
    rw [← List.countP_eq_length_filter]
    exact List.countP_congr fun d hd => by simp [hfile d hd]
  · intro d hd
    obtain ⟨k, hk, hsame⟩ := Scalar.exists_mem_distinct (List.mem_map_of_mem (f := keyOf) hd)
    refine ⟨_, List.mem_map_of_mem (List.mem_map_of_mem hk), ?_⟩
    exact (hfile d hd k).2 (Scalar.sameKey_iff.2 hsame)
  · intro c hc
    obtain ⟨g, hg, rfl⟩ := List.mem_map.1 hc
    obtain ⟨k, hk, rfl⟩ := List.mem_map.1 hg
    obtain ⟨d, hd, rfl⟩ := List.mem_map.1 (Scalar.mem_of_mem_distinct hk)
    exact ⟨d, hd, (hfile d hd _).2 (Scalar.sameKey_iff.2 rfl)⟩
  · rw [grouped, List.map_map, List.pairwise_map]
    refine (Scalar.pairwise_distinct _).imp fun hne d hboth => ?_
    obtain ⟨file, hkey, hfirst⟩ := hasFile_iff.1 hboth.1
    obtain ⟨other, hother, hsecond⟩ := hasFile_iff.1 hboth.2
    cases hkey.symm.trans hother
    exact hne (hfirst.trans hsecond.symm)

/-! ### Names -/

/-- A rule or a kind is counted under its name, and under `unknown` if it has none or an empty
one. -/
def CountedAs (name : Option String) (key : String) : Prop :=
  name = some key ∧ key ≠ "" ∨ (name = none ∨ name = some "") ∧ key = "unknown"

instance (name : Option String) (key : String) : Decidable (CountedAs name key) :=
  inferInstanceAs (Decidable (_ ∨ _))

theorem countedAs_iff {name : Option String} {key : String} :
    CountedAs name key ↔ (name.filter (!·.isEmpty)).getD "unknown" = key := by
  unfold CountedAs
  cases name with
  | none => simpa using eq_comm
  | some n =>
    by_cases hn : n = ""
    · subst hn
      constructor
      · rintro (⟨h, hne⟩ | ⟨-, rfl⟩)
        · cases h
          exact absurd rfl hne
        · rfl
      · rintro rfl
        exact .inr ⟨.inr rfl, rfl⟩
    · have hfilter : (some n).filter (!·.isEmpty) = some n := by simp [hn]
      rw [hfilter, Option.getD_some]
      constructor
      · rintro (⟨h, -⟩ | ⟨h | h, -⟩)
        · exact Option.some.inj h
        · cases h
        · exact absurd (Option.some.inj h) hn
      · rintro rfl
        exact .inl ⟨rfl, hn⟩

theorem tally_concat (names : List (Option String)) (name : Option String) {key : String}
    (h : CountedAs name key) :
    Analysis.tally (names ++ [name]) = (Analysis.tally names).insert key
      (((Analysis.tally names).get? key).getD 0 + 1) := by
  rw [← countedAs_iff.1 h]
  exact List.foldl_append

/-- A name that came has the number of times it came. -/
theorem get?_tally (names : List (Option String)) (key : String) :
    (Analysis.tally names).get? key
      = if names.countP (CountedAs · key) = 0 then none
        else some (names.countP (CountedAs · key)) := by
  induction names using List.reverseRecOn with
  | nil => rfl
  | append_singleton names name ih =>
    rw [tally_concat names name (countedAs_iff.2 rfl), OrderedMap.get?_insert, List.countP_append,
      List.countP_singleton]
    by_cases hkey : (name.filter (!·.isEmpty)).getD "unknown" = key
    · rw [if_pos hkey, hkey, ih]
      simp only [countedAs_iff.2 hkey, decide_true, if_true]
      cases names.countP (CountedAs · key) with
      | zero => rfl
      | succ n => rfl
    · have hnot : ¬ CountedAs name key := fun h => hkey (countedAs_iff.1 h)
      rw [if_neg hkey, ih]
      simp [hnot]

theorem total_tally (names : List (Option String)) :
    (Analysis.tally names).total id = names.length := by
  induction names using List.reverseRecOn with
  | nil => rfl
  | append_singleton names name ih =>
    obtain ⟨key, hkey⟩ : ∃ key, CountedAs name key := ⟨_, countedAs_iff.2 rfl⟩
    have htotal := OrderedMap.total_insert id (Analysis.tally names) key
      (((Analysis.tally names).get? key).getD 0 + 1)
    rw [tally_concat names name hkey, List.length_append, List.length_singleton]
    simp only [Option.map_id, id_eq] at htotal
    omega

/-- Names that are counted one by one and then sorted. -/
theorem tallies_tally (names : List (Option String)) :
    Tallies names CountedAs (Analysis.tally names).sorted := by
  have hmem (key : String) (n : Nat) : (key, n) ∈ (Analysis.tally names).sorted
      ↔ n = names.countP (CountedAs · key) ∧ n ≠ 0 := by
    rw [(OrderedMap.tabulates_sorted _).mem_iff, get?_tally]
    grind
  refine ⟨?_, ?_, ?_, ?_, ?_⟩
  · exact (OrderedMap.total_sort id _).trans (total_tally names)
  · exact fun c hc => ((hmem c.1 c.2).1 hc).1
  · intro name hname
    obtain ⟨key, hkey⟩ : ∃ key, CountedAs name key := ⟨_, countedAs_iff.2 rfl⟩
    refine ⟨(key, _), (hmem key _).2 ⟨rfl, ?_⟩, hkey⟩
    exact Nat.ne_of_gt (List.countP_pos_iff.2 ⟨name, hname, by simpa using hkey⟩)
  · intro c hc
    obtain ⟨hcount, hne⟩ := (hmem c.1 c.2).1 hc
    obtain ⟨name, hname, hkey⟩ := List.countP_pos_iff.1 (Nat.pos_of_ne_zero (hcount ▸ hne))
    exact ⟨name, hname, by simpa using hkey⟩
  · refine (OrderedMap.increasing_sorted _).imp fun {c e} hlt name hboth => ?_
    have hsame : c.1 = e.1 := (countedAs_iff.1 hboth.1).symm.trans (countedAs_iff.1 hboth.2)
    exact not_before_self _ (hsame ▸ hlt)

/-! ### Reports -/

/-- The counts of a report add up, whatever its diagnostics are. There is a report unless a file
cannot be a key. The counts by file, by rule and by kind then each add up to the total, which is the
length of the list of diagnostics. There is one count for each different file, and so many files are
told to have diagnostics. Each count is the number of diagnostics with its file, rule or kind, where
no name and an empty one are counted as `unknown`. The rules and the kinds are in the order of their
names. -/
theorem document_counts (o : JsonOptions) (now : String) (a : Analysis) :
    (∃ fault, Data.ofAnalysis now a = .error fault
        ∧ ∃ d ∈ a.diagnostics, d.location.file.key = .error fault)
      ∨ ∃ data items byFile byRule byKind, Data.ofAnalysis now a = .ok data
        ∧ (document o data).field "diagnostics" = .list items
        ∧ items.length = a.diagnostics.length
        ∧ ((document o data).field "summary").field "total_diagnostics"
          = .int a.diagnostics.length
        ∧ ((document o data).field "summary").field "files_with_diagnostics" = .int byFile.length
        ∧ (document o data).field "statistics" = .object
          [("by_file", .map (byFile.map fun c => (c.1, .int c.2))),
            ("by_rule", .object (byRule.map fun c => (c.1, .int c.2))),
            ("by_node_kind", .object (byKind.map fun c => (c.1, .int c.2)))]
        ∧ Tallies a.diagnostics HasFile byFile
        ∧ Tallies a.diagnostics (fun d key => CountedAs d.rule key) byRule ∧ Increasing byRule
        ∧ Tallies a.diagnostics (fun d key => CountedAs d.nodeKind key) byKind
        ∧ Increasing byKind := by
  cases hgroups : a.byFile with
  | error fault =>
    refine .inl ⟨fault, by rw [Data.ofAnalysis, hgroups]; rfl, ?_⟩
    exact exists_of_tables_eq_error ((byFile_eq_tables a).symm.trans hgroups)
  | ok groups =>
    have hkeys := exists_key_of_tables ((byFile_eq_tables a).symm.trans hgroups)
    obtain rfl : groups = grouped keyOf a.diagnostics :=
      Except.ok.inj (hgroups.symm.trans ((byFile_eq_tables a).trans (tables_of_keys hkeys)))
    obtain ⟨data, hdata, hdiagnostics, hfiles, hrule, hkind⟩ := ofAnalysis_of_byFile now hgroups
    obtain ⟨hsummary, hitems, hstatistics⟩ := field_document o data
    obtain ⟨htotal, hwith⟩ := field_summaryValue data
    refine .inr ⟨data, _, (grouped keyOf a.diagnostics).map fun g => (g.1, g.2.length),
      a.byRule.sorted, a.byNodeKind.sorted, hdata, hitems, ?_, ?_, ?_, ?_, tallies_grouped hkeys,
      (tallies_tally _).of_map, OrderedMap.increasing_sorted _, (tallies_tally _).of_map,
      OrderedMap.increasing_sorted _⟩
    · rw [List.length_map, hdiagnostics]
    · rw [hsummary, htotal, hdiagnostics]
    · rw [hsummary, hwith, hfiles, List.length_map]
    · rw [hstatistics, statisticsValue, hfiles, hrule, hkind, List.map_map]
      rfl

/-- A diagnostic whose rule and kind are empty names. -/
def nameless : Analysis where
  diagnostics :=
    [{ location := ⟨.text "A.java", .int 3, .int 1⟩, message := "m", nodeKind := some ""
       rule := some "" }]
  filesAnalyzed := 1
  nodesVisited := 1
  errors := []
  elapsed := .int 0

/-- An empty name is counted as `unknown`, though there is a name and it is another one. -/
theorem document_counts_nameless :
    ∃ data, Data.ofAnalysis "noon" nameless = .ok data
      ∧ (document {} data).field "statistics" = .object
        [("by_file", .map [(.text "A.java", .int 1)]), ("by_rule", .object [("unknown", .int 1)]),
          ("by_node_kind", .object [("unknown", .int 1)])]
      ∧ (nameless.diagnostics.countP fun d => d.rule = some "unknown" ∨ d.rule = none) ≠ 1
      ∧ (nameless.diagnostics.countP fun d => d.nodeKind = some "unknown" ∨ d.nodeKind = none)
        ≠ 1 := by
  obtain ⟨data, hdata, -, hfiles, hrule, hkind⟩ :=
    ofAnalysis_of_byFile (a := nameless) "noon" rfl
  refine ⟨data, hdata, ?_, by decide, by decide⟩
  have hrules : nameless.byRule.sorted = [("unknown", 1)] := List.mergeSort_singleton _
  have hkinds : nameless.byNodeKind.sorted = [("unknown", 1)] := List.mergeSort_singleton _
  rw [(field_document {} data).2.2, statisticsValue, hfiles, hrule, hkind, hrules, hkinds]
  rfl

end Report

end BannedApi
