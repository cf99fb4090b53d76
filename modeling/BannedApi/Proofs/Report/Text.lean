import BannedApi.Proofs.Match.Sound
import BannedApi.Proofs.OrderedMap
import BannedApi.Proofs.Report.Strip
import BannedApi.Proofs.Value.Display
import BannedApi.Report.Basic

/-!
Text reports with and without colours.

Colours are put around parts that may hold anything, also the beginning of a code. But the code
that ends a painted part starts with an escape character, and a blank or a line end follows it. No
code goes on with these, so none can come together where two parts meet, and a report with colours
and one without leave the same when their codes are taken out (`alike_text`). This is what is
written to a file (`text_files_colorless`).
-/
namespace BannedApi

open Outcome (Alike)
open Text (Plain)

namespace Report

/-! ### Texts that differ in their colours -/

/-- The same is left of two texts when their codes are taken out. -/
def SameWords (cs ds : List Char) : Prop := ∃ out, Stripped cs out ∧ Stripped ds out

namespace SameWords

theorem refl (cs : List Char) : SameWords cs cs :=
  ⟨_, stripped_stripCodes (Nat.le_refl _), stripped_stripCodes (Nat.le_refl _)⟩

theorem cons {c : Char} {cs ds : List Char} (hc : c ≠ '\x1b') (h : SameWords cs ds) :
    SameWords (c :: cs) (c :: ds) := by
  obtain ⟨out, hcs, hds⟩ := h
  exact ⟨c :: out, .cons hc hcs, .cons hc hds⟩

/-- Two pairs of texts can be put together where a character begins that no code goes on with. -/
theorem append_cons {cs ds cs' ds' : List Char} {c : Char} (h : SameWords cs ds)
    (h' : SameWords (c :: cs') (c :: ds')) (hc : goesOn c = false) :
    SameWords (cs ++ c :: cs') (ds ++ c :: ds') := by
  obtain ⟨out, hcs, hds⟩ := h
  obtain ⟨out', hcs', hds'⟩ := h'
  exact ⟨out ++ out', hcs.append hcs' (by simpa using hc), hds.append hds' (by simpa using hc)⟩

/-- Colours add nothing but codes, whatever the text ends with. -/
theorem paint (c : Color) (s : String) :
    SameWords (Report.paint true c s).toList (Report.paint false c s).toList := by
  have hs := stripped_stripColors s
  have hreset : Stripped Color.reset.code.toList [] := by
    have h := Stripped.code (isCode_code .reset) .done
    rwa [List.append_nil] at h
  have hback : Stripped (s.toList ++ Color.reset.code.toList) (stripColors s).toList := by
    have h := hs.append hreset (isCode_code .reset).goesOn_head
    rwa [List.append_nil] at h
  refine ⟨_, ?_, hs⟩
  rw [Report.paint, if_pos rfl, String.toList_append, String.toList_append, List.append_assoc]
  exact .code (isCode_code c) hback

theorem stripColors_eq {s t : String} (h : SameWords s.toList t.toList) :
    stripColors s = stripColors t := by
  obtain ⟨out, hs, ht⟩ := h
  refine String.toList_injective ?_
  rw [(stripped_stripColors s).unique hs, (stripped_stripColors t).unique ht]

/-- Lines with the same words make texts with the same words. -/
theorem lines {xs ys : List String}
    (h : List.Forall₂ (fun s t => SameWords s.toList t.toList) xs ys) :
    SameWords (String.intercalate "\n" xs ++ "\n").toList
      (String.intercalate "\n" ys ++ "\n").toList := by
  simp only [String.toList_append, String.toList_intercalate]
  induction h with
  | nil => exact refl _
  | cons hst hrest ih =>
    cases hrest with
    | nil =>
      simp only [List.map_cons, List.map_nil, List.intercalate_singleton]
      exact hst.append_cons (refl _) (by decide)
    | cons hnext hrest =>
      simp only [List.map_cons, List.intercalate_cons_cons, List.append_assoc] at ih ⊢
      exact hst.append_cons (.cons (by decide) ih) (by decide)

end SameWords

/-! ### Reports with and without colours -/

/-- The same is left of two texts when their codes are taken out. -/
def SameText (s t : String) : Prop := SameWords s.toList t.toList

theorem SameText.refl (s : String) : SameText s s := SameWords.refl s.toList

theorem alike_diagnosticLine (d : Diagnostic) :
    Alike SameText (diagnosticLine true d) (diagnosticLine false d) := by
  refine (Alike.refl (placeText d.location)).bind fun place place' hplace => ?_
  subst hplace
  -- A blank follows each painted part, so the line can be cut there.
  have hmessage := (SameWords.refl d.message.toList).cons (c := ' ') (by decide)
  have hcheck := (SameWords.paint .bold ("[" ++ d.check ++ "]")).append_cons hmessage (by decide)
  have hgrade := (SameWords.paint .red (severity ++ ":")).append_cons
    (hcheck.cons (c := ' ') (by decide)) (by decide)
  have hline := (SameWords.refl place.toList).append_cons
    ((hgrade.cons (c := ' ') (by decide)).cons (c := ':') (by decide)) (by decide)
  refine .ok ?_
  unfold SameText
  simp only [String.toList_append, List.append_assoc]
  exact hline

theorem sameText_summaryLines (detailed : Bool) (d : Data) :
    List.Forall₂ SameText (summaryLines ⟨true, detailed⟩ d) (summaryLines ⟨false, detailed⟩ d) := by
  refine List.rel_append (.cons ?_ ?_) (List.forall₂_same.2 fun s _ => SameText.refl s)
  · split
    · exact SameWords.paint _ _
    · exact SameWords.paint _ _
  · split
    · exact .nil
    · exact .cons (SameWords.paint _ _) .nil

theorem alike_text (detailed : Bool) (d : Data) :
    Alike SameText (text ⟨true, detailed⟩ d) (text ⟨false, detailed⟩ d) := by
  refine (Alike.mapM fun x _ => alike_diagnosticLine x).bind fun found found' hfound => ?_
  have herrors : List.Forall₂ SameText (d.errors.map fun e => paint true .yellow s!"error: {e}")
      (d.errors.map fun e => paint false .yellow s!"error: {e}") :=
    List.forall₂_map_left_iff.2 (List.forall₂_map_right_iff.2
      (List.forall₂_same.2 fun e _ => SameWords.paint _ _))
  have hlines := List.rel_append hfound herrors
  have hsummary := sameText_summaryLines detailed d
  refine .ok (SameWords.lines (List.rel_append (List.rel_append hlines ?_) hsummary))
  have hempty : (found ++ d.errors.map fun e => paint true .yellow s!"error: {e}").isEmpty
      = (found' ++ d.errors.map fun e => paint false .yellow s!"error: {e}").isEmpty := by
    rw [Bool.eq_iff_iff, List.isEmpty_iff_length_eq_zero, List.isEmpty_iff_length_eq_zero,
      hlines.length_eq]
  rw [hempty]
  exact List.forall₂_same.2 fun s _ => SameText.refl s

end Report

/-! ### Reports without escape characters -/

/-- No part of the place has an escape character. -/
structure Location.Unescaped (l : Location) : Prop where
  file : l.file.Unescaped
  line : l.line.Unescaped
  column : l.column.Unescaped

/-- No part of the diagnostic that a report tells has an escape character. -/
structure Diagnostic.Unescaped (d : Diagnostic) : Prop where
  location : d.location.Unescaped
  message : Plain d.message.toList
  check : Plain d.check.toList
  rule : ∀ r ∈ d.rule, Plain r.toList

/-- Neither the diagnostics nor the errors have an escape character. -/
structure Analysis.Unescaped (a : Analysis) : Prop where
  diagnostic : ∀ d ∈ a.diagnostics, d.Unescaped
  error : ∀ e ∈ a.errors, Plain e.toList

/-- What holds of the names and of the word for no name holds of all that is counted. -/
theorem Analysis.forall_mem_tally {P : String → Prop} {names : List (Option String)}
    (hunknown : P "unknown") (hnames : ∀ name ∈ names, ∀ n ∈ name, P n) :
    ∀ key ∈ (tally names).keys, P key := by
  refine List.foldlRecOn (motive := fun counts : OrderedMap Nat => ∀ key ∈ counts.keys, P key) names
    _ (by simp [OrderedMap.keys, OrderedMap.empty]) fun counts hcounts name hname => ?_
  have hkey : P ((name.filter (!·.isEmpty)).getD "unknown") := by
    cases hfilter : name.filter (!·.isEmpty) with
    | none => exact hunknown
    | some n => exact hnames name hname n (Option.filter_eq_some_iff.1 hfilter).1
  rw [OrderedMap.keys_insert]
  split
  · exact hcounts
  · intro key hmem
    rcases List.mem_append.1 hmem with hmem | hmem
    · exact hcounts key hmem
    · rw [List.mem_singleton.1 hmem]
      exact hkey

theorem Analysis.Unescaped.byRule {a : Analysis} (h : a.Unescaped) :
    ∀ r ∈ a.byRule.sorted, Plain r.1.toList := by
  intro r hr
  refine Analysis.forall_mem_tally (P := fun key => Plain key.toList) (by decide) ?_ r.1
    (List.mem_map_of_mem (List.mem_mergeSort.1 hr))
  intro name hname
  obtain ⟨d, hd, rfl⟩ := List.mem_map.1 hname
  exact (h.diagnostic d hd).rule

namespace Report

@[simp] theorem paint_false (c : Color) (s : String) : paint false c s = s := rfl

theorem plain_shown {v : Value} {s : String} (hv : v.Unescaped) (h : v.shown = .ok s) :
    Plain s.toList := by
  unfold Value.shown at h
  split at h
  · cases h
  · cases h
    exact Value.plain_display hv

theorem plain_position {v : Value} {s : String} (hv : v.Unescaped)
    (h : Location.position v = .ok s) : Plain s.toList := by
  unfold Location.position at h
  split at h
  · cases h
    exact .nil
  · obtain ⟨shown, hshown, rfl⟩ := Outcome.map_eq_ok.1 h
    simp [plain_shown hv hshown]

theorem plain_placeText {l : Location} {s : String} (hl : l.Unescaped)
    (h : placeText l = .ok s) : Plain s.toList := by
  unfold placeText at h
  split at h
  · exact plain_shown hl.file h
  · obtain ⟨line, hline, h⟩ := Outcome.bind_eq_ok.1 h
    split at h
    · next file hfile =>
      obtain ⟨column, hcolumn, rfl⟩ := Outcome.map_eq_ok.1 h
      simp [hl.file file hfile, plain_position hl.line hline, plain_position hl.column hcolumn]
    · cases h

theorem plain_diagnosticLine {d : Diagnostic} {s : String} (hd : d.Unescaped)
    (h : diagnosticLine false d = .ok s) : Plain s.toList := by
  obtain ⟨place, hplace, h⟩ := Outcome.bind_eq_ok.1 h
  have hplain := plain_placeText hd.location hplace
  have hgrade : Plain (paint false .red (severity ++ ":")).toList := by decide
  have hcheck : Plain (paint false .bold ("[" ++ d.check ++ "]")).toList := by
    simp [hd.check]
  cases h
  simp only [String.toList_append, Plain.append_iff, Plain.toString_text, hplain, hgrade, hcheck,
    hd.message, and_true, true_and]
  decide

theorem plain_summaryLines {detailed : Bool} {d : Data}
    (hrules : ∀ r ∈ d.byRule, Plain r.1.toList) :
    ∀ line ∈ summaryLines ⟨false, detailed⟩ d, Plain line.toList := by
  refine List.forall_mem_append.2 ⟨List.forall_mem_cons.2 ⟨?_, ?_⟩, ?_⟩
  · split
    · simp only [paint_false, String.toList_append, Plain.append_iff, Plain.toString_text,
        Plain.toString_int, and_true]
      decide +kernel
    · simp only [paint_false, String.toList_append, Plain.append_iff, Plain.toString_text,
        Plain.toString_int, Plain.toString_nat, and_true, true_and]
      decide +kernel
  · split
    · simp
    · simp only [List.forall_mem_singleton, paint_false, String.toList_append, Plain.append_iff,
        Plain.toString_text, Plain.toString_nat, true_and]
      decide +kernel
  · split
    · refine List.forall_mem_cons.2 ⟨by decide, List.forall_mem_map.2 fun r hr => ?_⟩
      simp only [String.toList_append, Plain.append_iff, Plain.toString_text, Plain.toString_nat,
        hrules r hr, and_true]
      decide
    · simp

/-- A report on an analysis without escape characters has none. -/
theorem plain_text {detailed : Bool} {now : String} {a : Analysis} {d : Data} {s : String}
    (ha : a.Unescaped) (hd : Data.ofAnalysis now a = .ok d) (h : text ⟨false, detailed⟩ d = .ok s) :
    Plain s.toList := by
  obtain ⟨files, -, hdata⟩ := Outcome.bind_eq_ok.1 hd
  cases hdata
  obtain ⟨found, hfound, hs⟩ := Outcome.bind_eq_ok.1 h
  cases hs
  rw [String.toList_append, Plain.append_iff]
  refine ⟨.joined (by decide) ?_, by decide⟩
  refine List.forall_mem_append.2 ⟨List.forall_mem_append.2 ⟨List.forall_mem_append.2 ⟨?_, ?_⟩, ?_⟩,
    plain_summaryLines ha.byRule⟩
  · intro line hline
    obtain ⟨x, hx, hxline⟩ := Outcome.exists_of_mem_mapM hfound hline
    exact plain_diagnosticLine (ha.diagnostic x hx) hxline
  · refine List.forall_mem_map.2 fun e he => ?_
    simp only [paint_false, String.toList_append, Plain.append_iff, Plain.toString_text,
      ha.error e he, and_true]
    decide
  · split
    · simp
    · simp

/-! ### Reports that are made -/

theorem placeText_isOk {l : Location} (h : l.isSound = true) :
    ∃ place, placeText l = .ok place := by
  obtain ⟨file, line, column⟩ := l
  simp only [Location.isSound, Bool.and_eq_true, Bool.or_eq_true] at h
  obtain ⟨hfile, hplace⟩ := h
  obtain ⟨name, rfl⟩ := Value.exists_eq_text hfile
  unfold placeText
  split
  · exact ⟨name, rfl⟩
  · next hline =>
    obtain ⟨hshort, hcolumn⟩ := hplace.resolve_left hline
    obtain ⟨lineText, hlineText⟩ := Match.position_isOk hshort
    obtain ⟨columnText, hcolumnText⟩ := Match.position_isOk hcolumn
    simp only [hlineText, hcolumnText]
    exact ⟨_, rfl⟩

theorem ofAnalysis_isOk (now : String) {a : Analysis}
    (h : ∀ d ∈ a.diagnostics, d.location.isSound = true) :
    ∃ d, Data.ofAnalysis now a = .ok d ∧ d.diagnostics = a.diagnostics := by
  have hkeys : ∃ keyed, a.diagnostics.mapM (fun d => (Analysis.fileKey d).map fun k => (k, d))
      = .ok keyed := by
    refine Outcome.exists_mapM_eq_ok.2 fun d hd => ?_
    have hfile := (Bool.and_eq_true_iff.1 (h d hd)).1
    obtain ⟨name, hname⟩ := Value.exists_eq_text hfile
    exact ⟨_, by rw [Analysis.fileKey, hname]; rfl⟩
  obtain ⟨keyed, hkeyed⟩ := hkeys
  simp only [Data.ofAnalysis, Analysis.byFile, hkeyed]
  exact ⟨_, rfl, rfl⟩

theorem text_isOk (o : TextOptions) {d : Data}
    (h : ∀ x ∈ d.diagnostics, x.location.isSound = true) : ∃ s, text o d = .ok s := by
  obtain ⟨found, hfound⟩ : ∃ found, d.diagnostics.mapM (diagnosticLine o.colors) = .ok found := by
    refine Outcome.exists_mapM_eq_ok.2 fun x hx => ?_
    obtain ⟨place, hplace⟩ := placeText_isOk (h x hx)
    exact ⟨_, by rw [diagnosticLine, hplace]; rfl⟩
  exact ⟨_, by rw [text, hfound]; rfl⟩

theorem render_text_eq_ok {o : TextOptions} {now : String} {a : Analysis} {r : Rendered} :
    render (.text o) now a = .ok r
      ↔ ∃ d s, Data.ofAnalysis now a = .ok d ∧ text o d = .ok s ∧ r = .text s := by
  rw [render, Outcome.bind_eq_ok]
  simp only [Outcome.mapError_eq_ok, Outcome.map_eq_ok]
  constructor
  · rintro ⟨d, hd, s, hs, rfl⟩
    exact ⟨d, s, hd, hs, rfl⟩
  · rintro ⟨d, s, hd, hs, rfl⟩
    exact ⟨d, hd, s, hs, rfl⟩

theorem alike_render (now : String) (a : Analysis) (detailed : Bool) :
    Alike (fun r r' => ∃ s t, r = .text s ∧ r' = .text t ∧ SameText s t)
      (render (.text ⟨true, detailed⟩) now a) (render (.text ⟨false, detailed⟩) now a) := by
  refine (Alike.refl _).bind fun d d' hd => ?_
  subst hd
  exact ((alike_text detailed d).mapError Abort.value).map fun s t h => ⟨s, t, rfl, rfl, h⟩

theorem render_text_isOk (o : TextOptions) (now : String) {a : Analysis}
    (h : ∀ d ∈ a.diagnostics, d.location.isSound = true) : ∃ r, render (.text o) now a = .ok r := by
  obtain ⟨d, hd, hdiagnostics⟩ := ofAnalysis_isOk now h
  obtain ⟨s, hs⟩ := text_isOk o (hdiagnostics ▸ h)
  exact ⟨.text s, render_text_eq_ok.2 ⟨d, s, hd, hs, rfl⟩⟩

/-! ### Files -/

theorem write_text_congr {s t : String} (h : stripColors s = stripColors t) (store : Store)
    (output : Option String) :
    write store .text output (.text s) = write store .text output (.text t) := by
  have hcontent : (Rendered.text s).content .text = (Rendered.text t).content .text := by
    simp [Rendered.content, h]
  simp only [write, putFile, hcontent, Rendered.check]

theorem toOption_write_text (store : Store) (path s : String) :
    (write store .text (some path) (.text s)).toOption
      = (store.write path (.text (stripColors s))).toOption := by
  simp only [write, putFile, Rendered.content, if_true]
  cases store.write path (.text (stripColors s)) with
  | error f => rfl
  | ok after => rfl

/-- The file of a text report is the same with colours and without, whatever the texts in it. Both
reports fail alike, and only over a place that cannot be put into words. Else what is left of either
when its codes are taken out in one pass is the same, and this is written. If nothing in the
analysis has an escape character, it is the report without colours. -/
theorem text_files_colorless (now : String) (a : Analysis) (detailed : Bool) :
    (∃ fault, render (.text ⟨true, detailed⟩) now a = .error fault
        ∧ render (.text ⟨false, detailed⟩) now a = .error fault
        ∧ ∃ d ∈ a.diagnostics, d.location.isSound = false)
      ∨ ∃ colored plain bare, render (.text ⟨true, detailed⟩) now a = .ok (.text colored)
        ∧ render (.text ⟨false, detailed⟩) now a = .ok (.text plain)
        ∧ Stripped colored.toList bare.toList ∧ Stripped plain.toList bare.toList
        ∧ stripColors colored = bare ∧ stripColors plain = bare
        ∧ (∀ store output,
            write store .text output (.text colored) = write store .text output (.text plain))
        ∧ (∀ store path, (write store .text (some path) (.text colored)).toOption
            = (store.write path (.text bare)).toOption)
        ∧ (a.Unescaped → bare = plain) := by
  have halike := alike_render now a detailed
  generalize hcolored : render (.text ⟨true, detailed⟩) now a = colored at halike
  generalize hplain : render (.text ⟨false, detailed⟩) now a = plain at halike
  cases halike with
  | error fault =>
    refine .inl ⟨fault, rfl, rfl, ?_⟩
    by_contra hsound
    have hall : ∀ d ∈ a.diagnostics, d.location.isSound = true := by
      intro d hd
      exact eq_true_of_ne_false fun hfalse => hsound ⟨d, hd, hfalse⟩
    obtain ⟨r, hr⟩ := render_text_isOk ⟨false, detailed⟩ now hall
    cases hplain.symm.trans hr
  | ok h =>
    obtain ⟨s, t, rfl, rfl, hsame⟩ := h
    have hbare : stripColors s = stripColors t := hsame.stripColors_eq
    refine .inr ⟨s, t, stripColors t, rfl, rfl, hbare ▸ stripped_stripColors s,
      stripped_stripColors t, hbare, rfl, write_text_congr hbare, ?_, ?_⟩
    · intro store path
      rw [toOption_write_text, hbare]
    · intro ha
      obtain ⟨d, t', hd, ht, heq⟩ := render_text_eq_ok.1 hplain
      cases heq
      exact stripColors_eq_iff.2 (.of_not_mem (plain_text ha hd ht))

/-- A use of a banned class, and an input that was not read. -/
def sampleAnalysis : Analysis where
  diagnostics :=
    [{ location := ⟨.text "src/A.java", .int 3, .int 7⟩, message := "Date is banned."
       rule := some "import-class" }]
  filesAnalyzed := 1
  nodesVisited := 4
  errors := ["bad.json: not a tree"]
  elapsed := .int 0

theorem text_files_colorless_detailed : sampleAnalysis.Unescaped
    ∧ ∃ colored plain, render (.text ⟨true, true⟩) "noon" sampleAnalysis = .ok (.text colored)
      ∧ render (.text ⟨false, true⟩) "noon" sampleAnalysis = .ok (.text plain)
      ∧ ∀ store path, (write store .text (some path) (.text colored)).toOption
          = (store.write path (.text plain)).toOption := by
  have hunescaped : sampleAnalysis.Unescaped := by
    have hnumber (n : Int) : (Value.int n).Unescaped := fun s hs => by cases hs
    refine ⟨List.forall_mem_singleton.2 ⟨⟨?_, hnumber 3, hnumber 7⟩, ?_, ?_, ?_⟩,
      List.forall_mem_singleton.2 (by decide +kernel)⟩
    · intro s hs
      cases hs
      decide +kernel
    · decide +kernel
    · decide +kernel
    · intro r hr
      cases hr
      decide +kernel
  have hsound : ∀ d ∈ sampleAnalysis.diagnostics, d.location.isSound = true := by decide +kernel
  rcases text_files_colorless "noon" sampleAnalysis true with
    ⟨fault, -, -, d, hd, hunsound⟩
      | ⟨colored, plain, bare, hcolored, hplain, -, -, -, -, -, hfile, hbare⟩
  · rw [hsound d hd] at hunsound
    cases hunsound
  · rw [hbare hunescaped] at hfile
    exact ⟨hunescaped, colored, plain, hcolored, hplain, hfile⟩

end Report

end BannedApi
