import BannedApi.Command.Run
import BannedApi.Proofs.Match.Sound
import BannedApi.Proofs.Outcome
import BannedApi.Proofs.Registry.Listing

/-!
The bans as lines of text.

A listing is meant to be cut again: at its line ends into one line for each ban, and each line at
its tabs into the section, the name and the reason. `listBans_text` says which registries are listed
so. A registry without bans is not, since the line end is written all the same. Nor is one with a
ban whose name or reason has a tab or a line end of its own, or one that bans methods of a class
with the empty name, for then the name of the method stands alone.
-/
namespace BannedApi

/-! ### Cutting what was joined -/

namespace Text

theorem length_splitOn (c : Char) (cs : List Char) : (cs.splitOn c).length = cs.count c + 1 := by
  induction cs with
  | nil => rfl
  | cons d cs ih =>
    rw [List.splitOn_eq_splitOnP] at ih ⊢
    rw [List.splitOnP_cons_eq_if_modifyHead, List.count_cons]
    split
    · next hcut => rw [List.length_cons, ih]
    · next hcut => rw [List.length_modifyHead, ih]

theorem count_intercalate (c : Char) (part : List Char) (rest : List (List Char)) :
    ([c].intercalate (part :: rest)).count c = rest.length + (part :: rest).flatten.count c := by
  induction rest generalizing part with
  | nil => simp
  | cons next rest ih =>
    have hflatten : (part :: next :: rest).flatten = part ++ (next :: rest).flatten := rfl
    rw [List.intercalate_cons_cons, List.count_append, List.count_append, ih, hflatten,
      List.count_append, List.count_singleton_self, List.length_cons]
    omega

/-- Texts that were joined come apart into as many only if the separator is in none of them. -/
theorem not_mem_of_length_splitOn {c : Char} {parts : List (List Char)}
    (h : (([c].intercalate parts).splitOn c).length = parts.length) : ∀ part ∈ parts, c ∉ part := by
  cases parts with
  | nil => simp at h
  | cons part rest =>
    rw [length_splitOn, count_intercalate, List.length_cons] at h
    have hnone : (part :: rest).flatten.count c = 0 := by omega
    exact fun p hp hc => List.count_eq_zero.1 hnone (List.mem_flatten.2 ⟨p, hp, hc⟩)

theorem intercalate_concat_nil (c : Char) {parts : List (List Char)} (h : parts ≠ []) :
    [c].intercalate (parts ++ [[]]) = [c].intercalate parts ++ [c] := by
  induction parts with
  | nil => exact absurd rfl h
  | cons part rest ih =>
    cases rest with
    | nil => simp
    | cons next rest =>
      have hrest := ih (by simp)
      rw [List.cons_append] at hrest
      rw [List.cons_append, List.cons_append, List.intercalate_cons_cons, hrest,
        List.intercalate_cons_cons, List.append_assoc _ _ [c]]

/-- There is no tab and no line end in the text. -/
def Inline (s : String) : Prop := '\t' ∉ s.toList ∧ '\n' ∉ s.toList

instance (s : String) : Decidable (Inline s) :=
  inferInstanceAs (Decidable ('\t' ∉ s.toList ∧ '\n' ∉ s.toList))

end Text

open Text (Inline)

/-! ### The fields of a ban -/

namespace BanEntry

/-- The name in full: a method stands behind its class. -/
def fullName (e : BanEntry) : String :=
  match e.owner with
  | some owner => owner ++ "#" ++ e.key
  | none => e.key

/-- The reason that is stated. -/
def stated (e : BanEntry) : String := e.reason.text?.getD ""

/-- The reason that is stated, or else the usual one. -/
def fullReason (e : BanEntry) : String :=
  if e.stated = "" then Message.defaultReason else e.stated

/-- What the line of a ban is to hold. -/
def fields (e : BanEntry) : List (List Char) :=
  [e.part.name.toList, e.fullName.toList, e.fullReason.toList]

/-- The ban fits in a line: its texts have no tab and no line end, and a class has a name. -/
structure Tabular (e : BanEntry) : Prop where
  key : Inline e.key
  owner : ∀ owner ∈ e.owner, owner ≠ "" ∧ Inline owner
  reason : Inline e.stated

theorem fullReason_ne_empty (e : BanEntry) : e.fullReason ≠ "" := by
  unfold fullReason
  split
  · decide
  · assumption

/-- The name as a listing writes it. -/
def writtenName (e : BanEntry) : String :=
  match Fault.given? e.owner with
  | some owner => owner ++ "#" ++ e.key
  | none => e.key

/-- What a listing writes into the line of a ban. -/
def written (e : BanEntry) : List (List Char) :=
  [e.part.name.toList, e.writtenName.toList, e.fullReason.toList]

/-- The line of a ban in a listing. -/
def line (e : BanEntry) : List Char := ['\t'].intercalate e.written

theorem inline_fullReason {e : BanEntry} : Inline e.fullReason ↔ Inline e.stated := by
  unfold fullReason
  split
  · next hempty =>
    rw [hempty]
    decide +kernel
  · exact Iff.rfl

theorem inline_append {s t : String} : Inline (s ++ "#" ++ t) ↔ Inline s ∧ Inline t := by
  simp [Inline, and_and_and_comm]

/-- Only a class with the empty name is left out of what is written. -/
theorem writtenName_eq_iff {e : BanEntry} : e.writtenName = e.fullName ↔ e.owner ≠ some "" := by
  unfold writtenName fullName
  cases e.owner with
  | none => simp [Fault.given?]
  | some owner =>
    by_cases hempty : owner = ""
    · subst hempty
      have hlonger : e.key ≠ "" ++ "#" ++ e.key := by
        intro heq
        have hlength := congrArg String.length heq
        simp at hlength
      have hgiven : Fault.given? (some "") = none := rfl
      simpa [hgiven] using hlonger
    · have hgiven : Fault.given? (some owner) = some owner := by
        simp [Fault.given?, Option.filter, hempty]
      simp [hgiven, hempty]

theorem tabular_iff {e : BanEntry} :
    e.Tabular ↔ e.writtenName = e.fullName ∧ Inline e.fullName ∧ Inline e.fullReason := by
  rw [inline_fullReason, writtenName_eq_iff]
  have hname : Inline e.fullName ↔ Inline e.key ∧ ∀ owner ∈ e.owner, Inline owner := by
    unfold fullName
    cases e.owner with
    | none => simp
    | some owner => simp [inline_append, and_comm]
  rw [hname]
  constructor
  · intro h
    exact ⟨fun heq => (h.owner "" heq).1 rfl, ⟨h.key, fun owner ho => (h.owner owner ho).2⟩,
      h.reason⟩
  · rintro ⟨hne, ⟨hkey, howner⟩, hreason⟩
    exact ⟨hkey, fun owner ho => ⟨fun heq => hne (heq ▸ ho), howner owner ho⟩, hreason⟩

instance (e : BanEntry) : Decidable e.Tabular := decidable_of_iff _ tabular_iff.symm

theorem inline_partName (part : Section) : Inline part.name := by
  cases part <;> decide +kernel

theorem written_eq_iff {e : BanEntry} : e.written = e.fields ↔ e.writtenName = e.fullName := by
  simp [written, fields, String.toList_inj]

theorem newline_not_mem_line {e : BanEntry} :
    '\n' ∉ e.line ↔ '\n' ∉ e.writtenName.toList ∧ '\n' ∉ e.fullReason.toList := by
  simp [line, written, List.intercalate_cons_cons, (inline_partName e.part).2]

/-- The line of a ban is one line with the fields of the ban just if the ban fits in a line. -/
theorem splitOn_line_iff {e : BanEntry} :
    '\n' ∉ e.line ∧ e.line.splitOn '\t' = e.fields ↔ e.Tabular := by
  rw [tabular_iff, newline_not_mem_line]
  constructor
  · rintro ⟨⟨hname, hreason⟩, hsplit⟩
    have htabs : ∀ part ∈ e.written, '\t' ∉ part :=
      Text.not_mem_of_length_splitOn ((congrArg List.length hsplit).trans rfl)
    rw [line, List.splitOn_intercalate '\t' htabs (by simp [written]), written_eq_iff] at hsplit
    simp only [written, hsplit, List.forall_mem_cons] at htabs hname
    exact ⟨hsplit, ⟨htabs.2.1, hname⟩, htabs.2.2.1, hreason⟩
  · rintro ⟨hsame, hname, hreason⟩
    have htabs : ∀ part ∈ e.written, '\t' ∉ part := by
      simp [written, hsame, (inline_partName e.part).1, hname.1, hreason.1]
    rw [line, List.splitOn_intercalate '\t' htabs (by simp [written]), written_eq_iff, hsame]
    exact ⟨⟨hname.2, hreason.2⟩, rfl⟩

end BanEntry

namespace Command

/-- The lines of a text, each cut at its tabs. -/
def cut (text : String) : List (List (List Char)) :=
  (text.toList.splitOn '\n').map (List.splitOn '\t')

/-- The text has one line for each ban, with its fields, and ends with a line end. -/
def OnePerLine (bans : List BanEntry) (text : String) : Prop :=
  cut text = bans.map BanEntry.fields ++ [[[]]]

instance (bans : List BanEntry) (text : String) : Decidable (OnePerLine bans text) :=
  inferInstanceAs (Decidable (cut text = _))

/-- The lines of a listing. -/
def linesText (bans : List BanEntry) : String :=
  String.intercalate "\n" (bans.map fun e => String.ofList e.line) ++ "\n"

theorem toList_linesText {bans : List BanEntry} (h : bans ≠ []) :
    (linesText bans).toList = ['\n'].intercalate (bans.map BanEntry.line ++ [[]]) := by
  rw [Text.intercalate_concat_nil '\n' (by simpa using h), linesText, String.toList_append,
    String.toList_intercalate, List.map_map]
  simp [Function.comp_def]

/-- A listing has one line for each ban just if there are bans and each of them fits in a line. -/
theorem onePerLine_linesText_iff {bans : List BanEntry} :
    OnePerLine bans (linesText bans) ↔ bans ≠ [] ∧ ∀ e ∈ bans, e.Tabular := by
  by_cases hbans : bans = []
  · subst hbans
    have hcut : cut (linesText []) = [[[]], [[]]] := by decide +kernel
    simp [OnePerLine, hcut]
  · -- Once no line has a line end in it, the text comes apart into just these lines.
    have hapart (hlines : ∀ line ∈ bans.map BanEntry.line ++ [[]], '\n' ∉ line) :
        cut (linesText bans) = bans.map (fun e => e.line.splitOn '\t') ++ [[[]]] := by
      rw [cut, toList_linesText hbans, List.splitOn_intercalate '\n' hlines (by simp),
        List.map_append, List.map_map]
      rfl
    constructor
    · intro hcut
      have hlines : ∀ line ∈ bans.map BanEntry.line ++ [[]], '\n' ∉ line := by
        refine Text.not_mem_of_length_splitOn ?_
        have hlength := congrArg List.length hcut
        rw [cut, toList_linesText hbans] at hlength
        simpa using hlength
      have hfields := List.append_cancel_right ((hapart hlines).symm.trans hcut)
      refine ⟨hbans, fun e he => BanEntry.splitOn_line_iff.1 ⟨?_, List.map_inj_left.1 hfields e he⟩⟩
      exact hlines _ (List.mem_append_left _ (List.mem_map_of_mem he))
    · rintro ⟨-, htabular⟩
      have hline (e : BanEntry) (he : e ∈ bans) := BanEntry.splitOn_line_iff.2 (htabular e he)
      have hlines : ∀ line ∈ bans.map BanEntry.line ++ [[]], '\n' ∉ line := by
        simpa [or_imp, forall_and] using fun e he => (hline e he).1
      rw [OnePerLine, hapart hlines, List.map_congr_left fun e he => (hline e he).2]

/-! ### What a listing prints -/

theorem reasonOr_stated {e : BanEntry} {s : String} (h : e.reason = .text s) :
    Message.reasonOr e.reason = .ok e.fullReason := by
  have hstated : e.stated = s := by rw [BanEntry.stated, h]; rfl
  rw [BanEntry.fullReason, hstated, h]
  by_cases hempty : s = ""
  · subst hempty
    rfl
  · have htruthy : (Value.text s).truthy = true := by simpa [Value.truthy] using hempty
    rw [Message.reasonOr, if_pos htruthy, if_neg hempty, Match.shown_text]

theorem banLine_of_text {e : BanEntry} {s : String} (h : e.reason = .text s) :
    banLine e = .ok (String.ofList e.line) := by
  have hline : String.ofList e.line
      = e.part.name ++ "\t" ++ e.writtenName ++ "\t" ++ e.fullReason := by
    rw [← String.toList_inj]
    simp [BanEntry.line, BanEntry.written, List.intercalate_cons_cons]
  rw [banLine, reasonOr_stated h, hline]
  rfl

theorem exists_reason_of_mem {r : Registry} (h : r.Worded) {e : BanEntry} (he : e ∈ r.banEntries) :
    ∃ s, e.reason = .text s := by
  have hholds := Registry.mem_banEntries.1 he
  unfold Registry.Holds at hholds
  split at hholds
  · exact h.classes hholds.2
  · exact h.packages hholds.2
  · obtain ⟨owner, names, -, howner, hname⟩ := hholds
    exact h.methods howner hname

theorem listText_of_worded {r : Registry} (h : r.Worded) :
    listText .text r = .ok (linesText r.banEntries) := by
  have hlines : r.banEntries.mapM banLine
      = .ok (r.banEntries.map fun e => String.ofList e.line) := by
    refine Outcome.mapM_eq_ok_iff.2 (List.forall₂_map_right_iff.2 (List.forall₂_same.2 ?_))
    intro e he
    obtain ⟨s, hs⟩ := exists_reason_of_mem h he
    exact banLine_of_text hs
  rw [listText, hlines]
  rfl

section Built

variable {w : World} {journal : Journal} {s : Settings} {built : RegistryBuild} {r : Registry}
  (hbuilt : buildRegistryWith journal w.store w.web w.standard s.override s.fetchTimeout
    = .ok built)
  (hregistry : built.registry = .ok r)

include hbuilt hregistry

/-- The reasons of a registry that was built are texts. -/
theorem worded_of_built : r.Worded := by
  obtain ⟨base, -, hbuilt⟩ := Outcome.bind_eq_ok.1 hbuilt
  split at hbuilt
  · cases hbuilt
    cases hregistry
  · split at hbuilt
    · cases hbuilt
      cases hregistry
      exact Loader.worded_build _
    · obtain ⟨own, -, hbuilt⟩ := Outcome.bind_eq_ok.1 hbuilt
      cases hbuilt
      cases hregistry
      exact Loader.worded_build _

theorem withRegistry_of_built (go : Registry → Effect → Except Abort Effect) :
    withRegistry w journal s go = go r
      { exit := exitOk, store := built.store, fetched := built.fetched
        records := built.records } := by
  rw [withRegistry, hbuilt]
  simp only [bind, Except.bind, hregistry]

end Built

/-- Every registry that can be built is listed, with a reason for each ban, on the screen or in a
file. The listing has one line for each ban, with the section, the name in full and the reason as
its three fields, just if there are bans and each of them fits in a line. -/
theorem listBans_text (w : World) (journal : Journal) (s : Settings) (built : RegistryBuild)
    (r : Registry)
    (hbuilt : buildRegistryWith journal w.store w.web w.standard s.override s.fetchTimeout
      = .ok built)
    (hregistry : built.registry = .ok r) :
    ∃ text, (∃ effect, listBans w journal s { format := .text } = .ok effect
        ∧ effect.exit = exitOk ∧ effect.stdout = text)
      ∧ (∀ path store, built.store.write path (.text text) = .ok store →
        ∃ effect, listBans w journal s { format := .text, output := some path } = .ok effect
          ∧ effect.exit = exitOk ∧ effect.stdout = "" ∧ effect.store = store)
      ∧ (∀ e ∈ r.banEntries, e.fullReason ≠ "")
      ∧ (OnePerLine r.banEntries text
        ↔ r.banEntries ≠ [] ∧ ∀ e ∈ r.banEntries, e.Tabular) := by
  have htext := listText_of_worded (worded_of_built hbuilt hregistry)
  refine ⟨linesText r.banEntries, ?_, ?_, fun e _ => e.fullReason_ne_empty,
    onePerLine_linesText_iff⟩
  · rw [listBans, withRegistry_of_built hbuilt hregistry, htext]
    exact ⟨_, rfl, rfl, rfl⟩
  · intro path store hwrite
    rw [listBans, withRegistry_of_built hbuilt hregistry, htext]
    simp only [Except.mapError, bind, Except.bind, hwrite]
    exact ⟨_, rfl, rfl, rfl, rfl⟩

/-- A run that has nothing but a standard ban list of this text. -/
def World.ofBans (text : String) : World :=
  { store := ⟨[(["default.json"], .file (.text text))]⟩
    standard := .file "default.json"
    directory := "/work"
    now := "now"
    elapsed := .int 0
    stamp := ⟨"then", "here", 1⟩ }

/-- What is built from the ban lists of a run, if it is. -/
def World.loaded? (w : World) : Option Registry :=
  (buildRegistryWith .silent w.store w.web w.standard none defaultTimeout).toOption.bind
    (·.registry.toOption)

theorem World.exists_built {w : World} {r : Registry} (h : w.loaded? = some r) :
    ∃ built, buildRegistryWith .silent w.store w.web w.standard none defaultTimeout = .ok built
      ∧ built.registry = .ok r := by
  obtain ⟨built, hbuilt, hregistry⟩ := Option.bind_eq_some_iff.1 h
  exact ⟨built, Outcome.toOption_eq_some.1 hbuilt, Outcome.toOption_eq_some.1 hregistry⟩

/-- A class without a reason, a package and a method. -/
def threeBans : World :=
  .ofBans ("\x7b\"classes\": \x7b\"a.B\": \"\"\x7d, \"packages\": \x7b\"x\": \"gone\"\x7d, "
    ++ "\"methods\": \x7b\"c.D\": \x7b\"m\": \"slow\"\x7d\x7d\x7d")

theorem listBans_text_threeBans : ∃ built r,
    buildRegistryWith .silent threeBans.store threeBans.web threeBans.standard none defaultTimeout
      = .ok built
    ∧ built.registry = .ok r ∧ r.banEntries.length = 3 ∧ (∀ e ∈ r.banEntries, e.Tabular)
    ∧ ∃ effect, listBans threeBans .silent {} { format := .text } = .ok effect
      ∧ effect.exit = exitOk ∧ OnePerLine r.banEntries effect.stdout := by
  have hbans : threeBans.loaded?.map (fun r =>
      decide (r.banEntries.length = 3 ∧ ∀ e ∈ r.banEntries, e.Tabular)) = some true := by
    decide +kernel
  obtain ⟨r, hr, hdecide⟩ := Option.map_eq_some_iff.1 hbans
  obtain ⟨hlength, htabular⟩ := of_decide_eq_true hdecide
  obtain ⟨built, hbuilt, hregistry⟩ := World.exists_built hr
  obtain ⟨text, ⟨effect, heffect, hexit, rfl⟩, -, -, hlines⟩ :=
    listBans_text threeBans .silent {} built r hbuilt hregistry
  have hsome : r.banEntries ≠ [] := List.ne_nil_of_length_pos (by omega)
  exact ⟨built, r, hbuilt, hregistry, hlength, htabular, effect, heffect, hexit,
    hlines.2 ⟨hsome, htabular⟩⟩

/-- A banned method of a class with the empty name. -/
def namelessOwner : World :=
  .ofBans "\x7b\"methods\": \x7b\"\": \x7b\"f\": \"slow\"\x7d\x7d\x7d"

/-- The name of the method stands alone, as if it were that of a class. -/
theorem listBans_namelessOwner : ∃ r effect, namelessOwner.loaded? = some r
    ∧ listBans namelessOwner .silent {} { format := .text } = .ok effect
    ∧ effect.stdout = "methods\tf\tslow\n"
    ∧ r.banEntries.map BanEntry.fields
      = [["methods".toList, "#f".toList, "slow".toList]]
    ∧ ¬ OnePerLine r.banEntries effect.stdout := by
  have hprinted : (listBans namelessOwner .silent {} { format := .text }).toOption.map (·.stdout)
      = some "methods\tf\tslow\n" := by
    decide +kernel
  have hbans : namelessOwner.loaded?.map (fun r => decide
      (r.banEntries.map BanEntry.fields = [["methods".toList, "#f".toList, "slow".toList]]
        ∧ ¬ OnePerLine r.banEntries "methods\tf\tslow\n")) = some true := by
    decide +kernel
  obtain ⟨effect, heffect, hstdout⟩ := Option.map_eq_some_iff.1 hprinted
  obtain ⟨r, hr, hdecide⟩ := Option.map_eq_some_iff.1 hbans
  obtain ⟨hfields, hlines⟩ := of_decide_eq_true hdecide
  exact ⟨r, effect, hr, Outcome.toOption_eq_some.1 heffect, hstdout, hfields, hstdout ▸ hlines⟩

end Command

end BannedApi
