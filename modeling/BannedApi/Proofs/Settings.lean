import BannedApi.Proofs.Outcome
import BannedApi.Proofs.Text.Capital
import BannedApi.Proofs.Value.Change
import BannedApi.Settings

/-!
Settings: what a file may state, and what is taken from it.

Each of the nine settings has a domain (`Key.Documented`). A check lets a value through and takes it
for what it is, or it does not (`Takes`); with this, what holds of a document is put together from its
sections and their values (`ofDocument_isOk_iff`, `ofDocument_eq_ok`). The domains are kept with two
exceptions, which `Key.Accepts` spells out: nothing is asked of the colours, and a number that is not
a number is not at most zero, so it passes for a time.
-/
namespace BannedApi

/-- More than zero. -/
def Number.Positive : Number → Prop
  | .int n => 0 < n
  | .float (.finite negative mantissa _) => negative = false ∧ mantissa ≠ 0
  | .float (.infinite negative) => negative = false
  | .float .nan => False

theorem Number.atMostZero_eq_false_iff {n : Number} :
    n.atMostZero = false ↔ n.Positive ∨ n = .float .nan := by
  cases n with
  | int n => simp [atMostZero, Positive]
  | float x => cases x <;> simp [atMostZero, Binary64.atMostZero, Positive]

namespace Settings

/-! ### Keys and domains -/

/-- A setting. -/
inductive Key where
  | override | fetchTimeout | markers | format | useColors | jobs | logLevel | logFile | verbose
  deriving DecidableEq

namespace Key

/-- The section that a setting stands in. -/
def part : Key → String
  | .override | .fetchTimeout => "bans"
  | .markers => "suppression"
  | .format | .useColors => "output"
  | .jobs => "analysis"
  | .logLevel | .logFile | .verbose => "logging"

/-- The name of a setting in its section. -/
def name : Key → String
  | .override => "override"
  | .fetchTimeout => "fetch_timeout"
  | .markers => "markers"
  | .format => "default_format"
  | .useColors => "use_colors"
  | .jobs => "jobs"
  | .logLevel => "level"
  | .logFile => "log_file"
  | .verbose => "verbose"

/-- The domain of a setting. -/
def Documented : Key → Value → Prop
  | .override, v | .logFile, v => v = .null ∨ ∃ s, v = .text s
  | .fetchTimeout, v => ∃ n : Number, v = .scalar (.number n) ∧ n.Positive
  | .markers, v => ∃ names : List String, v.items? = some (names.map .text) ∧ "" ∉ names
  | .format, v => ∃ f : Report.Format, v = .text f.name
  | .useColors, v => v = .null ∨ ∃ b, v = .bool b
  | .jobs, v => ∃ n : Int, v = .int n ∧ 0 < n
  | .logLevel, v => ∃ s, v = .text s
      ∧ ∃ name ∈ levelNames, List.Forall₂ Text.Spells s.toList name.toList
  | .verbose, v => ∃ b, v = .bool b

/-- What a setting can be given: a value of its domain, any colours, or not a number for a time. -/
def Accepts (k : Key) (v : Value) : Prop :=
  k.Documented v ∨ k = .useColors ∨ k = .fetchTimeout ∧ v = .float .nan

theorem documented_of_accepts {k : Key} {v : Value} (h : k.Accepts v)
    (hk : k ≠ .useColors ∧ k ≠ .fetchTimeout) : k.Documented v :=
  h.resolve_right fun h => h.elim hk.1 fun h => hk.2 h.1

/-- The value taken is the value stated. A list may hold itself, so of the markers it is the items
that are the same. -/
def Same (k : Key) (taken stated : Value) : Prop :=
  taken = stated ∨ k = .markers ∧ taken.items? = stated.items?

theorem accepts_of_same {k : Key} {taken stated : Value} (h : k.Same taken stated)
    (hstated : k.Accepts stated) : k.Accepts taken := by
  rcases h with rfl | ⟨rfl, hitems⟩
  · exact hstated
  · simpa [Accepts, Documented, hitems] using hstated

end Key

/-- A text or nothing, as a value. -/
def textOrNull : Option String → Value
  | none => .null
  | some s => .text s

/-- The value of a setting. -/
def value (s : Settings) : Key → Value
  | .override => textOrNull s.override
  | .fetchTimeout => .scalar (.number s.fetchTimeout)
  | .markers => .list (s.markers.map .text)
  | .format => .text s.format.name
  | .useColors => s.useColors
  | .jobs => .int s.jobs
  | .logLevel => .text s.logLevel
  | .logFile => textOrNull s.logFile
  | .verbose => .bool s.verbose

/-- The value that a document states for a setting. -/
def stated? (document : Value) (k : Key) : Option Value := (document.field k.part).field? k.name

theorem levelNames_isLetterwise : ∀ name ∈ levelNames, Text.isLetterwise name.toList = true := by
  decide

/-- Every default is in its domain. -/
theorem documented_default (k : Key) : k.Documented (({} : Settings).value k) := by
  cases k with
  | override => exact .inl rfl
  | fetchTimeout =>
    have hpositive : defaultTimeout.Positive ∨ defaultTimeout = .float .nan :=
      Number.atMostZero_eq_false_iff.1 (by decide +kernel)
    exact ⟨_, rfl, hpositive.resolve_right (by decide +kernel)⟩
  | markers => exact ⟨_, rfl, by decide⟩
  | format => exact ⟨_, rfl⟩
  | useColors => exact .inl rfl
  | jobs => exact ⟨1, rfl, by decide⟩
  | logLevel =>
    have hname : "WARNING" ∈ levelNames := by decide
    exact ⟨_, rfl, _, hname, (Text.upper_eq_iff (levelNames_isLetterwise _ hname)).1 (by decide)⟩
  | logFile => exact .inl rfl
  | verbose => exact ⟨_, rfl⟩

/-! ### Checks -/

/-- A check lets through what the setting can be given, and takes it for what it is. -/
structure Takes {α : Type} (k : Key) (check : Value → Except Problem α) (tell : α → Value) :
    Prop where
  sound : ∀ {v a}, check v = .ok a → k.Accepts v ∧ k.Same (tell a) v
  complete : ∀ {v}, k.Accepts v → ∃ a, check v = .ok a

theorem takes_checked {α : Type} {k : Key} {take? : Value → Option α} {tell : α → Value}
    (p : Problem) (hsound : ∀ {v a}, take? v = some a → k.Accepts v ∧ k.Same (tell a) v)
    (hcomplete : ∀ {v}, k.Accepts v → ∃ a, take? v = some a) : Takes k (checked p take?) tell where
  sound {v a} h := by
    rw [checked] at h
    split at h
    · next b hb =>
      cases h
      exact hsound hb
    · cases h
  complete {v} h := by
    obtain ⟨a, ha⟩ := hcomplete h
    exact ⟨a, by rw [checked, ha]⟩

theorem takes_format : Takes .format formatOf fun f => .text f.name where
  sound {v f} h := by
    rw [formatOf] at h
    split at h
    · next g hname =>
      cases h
      obtain ⟨s, hs, hfind⟩ := Option.bind_eq_some_iff.1 hname
      have hv : v = .text s := by
        cases v with
        | scalar c => cases c <;> simp_all [Value.text?]
        | _ => cases hs
      have hs : f.name = s := by simpa using List.find?_some hfind
      exact ⟨.inl ⟨f, by rw [hv, hs]⟩, .inl (by rw [hv, hs])⟩
    · cases h
  complete {v} h := by
    obtain ⟨f, rfl⟩ := Key.documented_of_accepts h (by decide)
    exact ⟨f, by cases f <;> rfl⟩

theorem nameOf?_eq_some_iff {v : Value} {s : String} :
    nameOf? v = some s ↔ v = .text s ∧ s ≠ "" := by
  rw [nameOf?.eq_def]
  split
  · next t =>
    rw [Option.ite_none_left_eq_some, String.isEmpty_iff, Option.some.injEq]
    constructor
    · rintro ⟨hname, rfl⟩
      exact ⟨rfl, hname⟩
    · rintro ⟨heq, hname⟩
      cases heq
      exact ⟨hname, rfl⟩
  · next h =>
    constructor
    · intro hnone
      cases hnone
    · rintro ⟨hv, -⟩
      exact absurd hv (h s)

theorem mapM_nameOf?_eq_some_iff {xs : List Value} {names : List String} :
    xs.mapM nameOf? = some names ↔ xs = names.map .text ∧ "" ∉ names := by
  induction xs generalizing names with
  | nil => cases names <;> simp
  | cons x xs ih =>
    rw [List.mapM_cons]
    simp only [Option.bind_eq_bind, Option.bind_eq_some_iff, nameOf?_eq_some_iff, ih]
    constructor
    · rintro ⟨s, ⟨rfl, hs⟩, rest, ⟨rfl, hrest⟩, heq⟩
      cases heq
      exact ⟨rfl, by simp [hrest, Ne.symm hs]⟩
    · rintro ⟨heq, hempty⟩
      cases names with
      | nil => cases heq
      | cons s rest =>
        obtain ⟨rfl, rfl⟩ := List.cons.inj heq
        obtain ⟨hs, hrest⟩ := not_or.1 (mt List.mem_cons.2 hempty)
        exact ⟨s, ⟨rfl, Ne.symm hs⟩, rest, ⟨rfl, hrest⟩, rfl⟩

theorem takes_markers : Takes .markers markersOf fun names => .list (names.map .text) := by
  refine takes_checked .markers (fun {v names} h => ?_) fun {v} h => ?_
  · obtain ⟨xs, hitems, hxs⟩ := Option.bind_eq_some_iff.1 h
    obtain ⟨rfl, hempty⟩ := mapM_nameOf?_eq_some_iff.1 hxs
    exact ⟨.inl ⟨names, hitems, hempty⟩, .inr ⟨rfl, hitems.symm⟩⟩
  · obtain ⟨names, hitems, hempty⟩ := Key.documented_of_accepts h (by decide)
    have hnames := mapM_nameOf?_eq_some_iff.2 ⟨rfl, hempty⟩
    exact ⟨names, Option.bind_eq_some_iff.2 ⟨_, hitems, hnames⟩⟩

theorem takes_jobs : Takes .jobs jobsOf fun n => .int n := by
  refine takes_checked .jobs (fun {v n} h => ?_) fun {v} h => ?_
  · rw [count?.eq_def] at h
    split at h
    · obtain ⟨hpos, heq⟩ := Option.ite_none_left_eq_some.1 h
      cases heq
      exact ⟨.inl ⟨n, rfl, by omega⟩, .inl rfl⟩
    · cases h
  · obtain ⟨n, rfl, hpos⟩ := Key.documented_of_accepts h (by decide)
    exact ⟨n, by rw [count?, if_neg (by omega)]⟩

theorem takes_timeout : Takes .fetchTimeout timeoutOf fun n => .scalar (.number n) := by
  refine takes_checked .fetchTimeout (fun {v n} h => ?_) fun {v} h => ?_
  · rw [period?.eq_def] at h
    split at h
    · obtain ⟨hpos, heq⟩ := Option.ite_none_left_eq_some.1 h
      cases heq
      rw [Bool.not_eq_true, Number.atMostZero_eq_false_iff] at hpos
      rcases hpos with hpos | rfl
      · exact ⟨.inl ⟨n, rfl, hpos⟩, .inl rfl⟩
      · exact ⟨.inr (.inr ⟨rfl, rfl⟩), .inl rfl⟩
    · cases h
  · rcases h with ⟨n, rfl, hpos⟩ | h | ⟨-, rfl⟩
    · have hpos := Number.atMostZero_eq_false_iff.2 (.inl hpos)
      exact ⟨n, by rw [period?, hpos, if_neg (by decide)]⟩
    · cases h
    · exact ⟨.float .nan, rfl⟩

theorem takes_optionalText (p : Problem) {k : Key} (hk : k = .override ∨ k = .logFile) :
    Takes k (optionalText p) textOrNull := by
  refine takes_checked p (fun {v s} h => ?_) fun {v} h => ?_
  · have hv : textOrNull s = v := by
      rw [textOrNone?.eq_def] at h
      split at h <;> cases h <;> rfl
    refine ⟨.inl ?_, .inl hv⟩
    subst hv
    rcases hk with rfl | rfl <;> cases s <;> simp [Key.Documented, textOrNull]
  · have hv : v = .null ∨ ∃ s, v = .text s := by
      rcases hk with rfl | rfl
      · exact Key.documented_of_accepts h (by decide)
      · exact Key.documented_of_accepts h (by decide)
    rcases hv with rfl | ⟨s, rfl⟩
    · exact ⟨none, rfl⟩
    · exact ⟨some s, rfl⟩

theorem takes_level : Takes .logLevel levelOf fun s => .text s := by
  refine takes_checked .logLevel (fun {v s} h => ?_) fun {v} h => ?_
  · rw [levelName?.eq_def] at h
    split at h
    · obtain ⟨hlevel, heq⟩ := Option.ite_none_right_eq_some.1 h
      cases heq
      have hname := List.contains_iff_mem.1 hlevel
      have hspells := (Text.upper_eq_iff (levelNames_isLetterwise _ hname)).1 rfl
      exact ⟨.inl ⟨s, rfl, _, hname, hspells⟩, .inl rfl⟩
    · cases h
  · obtain ⟨s, rfl, name, hname, hspells⟩ := Key.documented_of_accepts h (by decide)
    have hupper := (Text.upper_eq_iff (levelNames_isLetterwise _ hname)).2 hspells
    exact ⟨s, by rw [levelName?, hupper, if_pos (List.contains_iff_mem.2 hname)]⟩

theorem takes_verbose : Takes .verbose verboseOf fun b => .bool b := by
  refine takes_checked .verbose (fun {v b} h => ?_) fun {v} h => ?_
  · rw [truth?.eq_def] at h
    split at h
    · cases h
      exact ⟨.inl ⟨b, rfl⟩, .inl rfl⟩
    · cases h
  · obtain ⟨b, rfl⟩ := Key.documented_of_accepts h (by decide)
    exact ⟨b, rfl⟩

/-! ### Values of a section -/

section Stated

variable {α : Type} {k : Key} {check : Value → Except Problem α} {tell : α → Value} {raw : Value}
  {default a : α}

theorem stated_eq_ok (ht : Takes k check tell) (h : stated raw k.name check default = .ok a) :
    (raw.field? k.name = none → tell a = tell default)
      ∧ ∀ v, raw.field? k.name = some v → k.Accepts v ∧ k.Same (tell a) v := by
  rw [stated] at h
  cases hfield : raw.field? k.name with
  | none =>
    rw [hfield] at h
    cases h
    simp
  | some v =>
    rw [hfield] at h
    simpa using ht.sound h

theorem stated_isOk (ht : Takes k check tell)
    (h : ∀ v, raw.field? k.name = some v → k.Accepts v) :
    ∃ a, stated raw k.name check default = .ok a := by
  rw [stated]
  cases hfield : raw.field? k.name with
  | none => exact ⟨default, rfl⟩
  | some v => exact ht.complete (h v hfield)

end Stated

/-- The section of a setting. -/
def Sections.raw (s : Sections) : Key → Value
  | .override | .fetchTimeout => s.bans
  | .markers => s.suppression
  | .format | .useColors => s.output
  | .jobs => s.analysis
  | .logLevel | .logFile | .verbose => s.logging

/-- Of each setting there is what its section states, or else the default. -/
theorem ofSections_eq_ok {s : Sections} {settings : Settings} (h : ofSections s = .ok settings)
    (k : Key) :
    ((s.raw k).field? k.name = none → settings.value k = ({} : Settings).value k)
      ∧ ∀ v, (s.raw k).field? k.name = some v → k.Accepts v ∧ k.Same (settings.value k) v := by
  obtain ⟨format, hformat, h⟩ := Outcome.bind_eq_ok.1 h
  obtain ⟨markers, hmarkers, h⟩ := Outcome.bind_eq_ok.1 h
  obtain ⟨jobs, hjobs, h⟩ := Outcome.bind_eq_ok.1 h
  obtain ⟨fetchTimeout, htimeout, h⟩ := Outcome.bind_eq_ok.1 h
  obtain ⟨override, hoverride, h⟩ := Outcome.bind_eq_ok.1 h
  obtain ⟨logLevel, hlevel, h⟩ := Outcome.bind_eq_ok.1 h
  obtain ⟨verbose, hverbose, h⟩ := Outcome.bind_eq_ok.1 h
  obtain ⟨logFile, hlogFile, h⟩ := Outcome.bind_eq_ok.1 h
  obtain rfl := Outcome.pure_eq_ok.1 h
  cases k with
  | override => exact stated_eq_ok (takes_optionalText .override (.inl rfl)) hoverride
  | fetchTimeout => exact stated_eq_ok takes_timeout htimeout
  | markers => exact stated_eq_ok takes_markers hmarkers
  | format => exact stated_eq_ok takes_format hformat
  | useColors =>
    -- nothing is checked
    refine ⟨fun hnone => ?_, fun v hv => ⟨.inr (.inl rfl), .inl ?_⟩⟩
    · show s.output.field "use_colors" = .null
      rw [Value.field, show s.output.field? "use_colors" = none from hnone]
      rfl
    · show s.output.field "use_colors" = v
      rw [Value.field, show s.output.field? "use_colors" = some v from hv]
      rfl
  | jobs => exact stated_eq_ok takes_jobs hjobs
  | logLevel => exact stated_eq_ok takes_level hlevel
  | logFile => exact stated_eq_ok (takes_optionalText .logFile (.inr rfl)) hlogFile
  | verbose => exact stated_eq_ok takes_verbose hverbose

theorem ofSections_isOk {s : Sections}
    (h : ∀ k v, (s.raw k).field? k.name = some v → k.Accepts v) :
    ∃ settings, ofSections s = .ok settings := by
  have hbind {α β : Type} {x : Except Problem α} {f : α → Except Problem β}
      (hx : ∃ a, x = .ok a) (hf : ∀ a, ∃ b, f a = .ok b) : ∃ b, (x >>= f) = .ok b := by
    obtain ⟨a, ha⟩ := hx
    exact Outcome.exists_bind_eq_ok.2 ⟨a, ha, hf a⟩
  refine hbind (stated_isOk takes_format (h .format)) fun format => ?_
  refine hbind (stated_isOk takes_markers (h .markers)) fun markers => ?_
  refine hbind (stated_isOk takes_jobs (h .jobs)) fun jobs => ?_
  refine hbind (stated_isOk takes_timeout (h .fetchTimeout)) fun fetchTimeout => ?_
  refine hbind (stated_isOk (takes_optionalText .override (.inl rfl)) (h .override)) fun override => ?_
  refine hbind (stated_isOk takes_level (h .logLevel)) fun logLevel => ?_
  refine hbind (stated_isOk takes_verbose (h .verbose)) fun verbose => ?_
  refine hbind (stated_isOk (takes_optionalText .logFile (.inr rfl)) (h .logFile)) fun logFile => ?_
  exact ⟨_, rfl⟩

/-! ### Documents -/

/-- The names of the sections. -/
def parts : List String := ["bans", "suppression", "output", "analysis", "logging"]

/-- A document holds nothing, or it is a mapping whose sections are mappings or null. -/
def Sectioned (document : Value) : Prop :=
  document.truthy = false
    ∨ document.entries?.isSome = true
      ∧ ∀ part ∈ parts, document.field part = .null ∨ (document.field part).entries?.isSome = true

theorem sectionOf_isOk_iff {part : String} {document : Value} :
    (∃ raw, sectionOf part document = .ok raw)
      ↔ document.field part = .null ∨ (document.field part).entries?.isSome = true := by
  rw [sectionOf, ← Value.isNull_iff]
  split
  · next hnull => simp [hnull]
  · next hnull =>
    split
    · next hentries => simp [hentries]
    · next hentries => simp [hnull, hentries]

theorem field?_of_sectionOf {part : String} {document raw : Value}
    (h : sectionOf part document = .ok raw) (key : String) :
    raw.field? key = (document.field part).field? key := by
  rw [sectionOf] at h
  split at h
  · next hnull =>
    cases h
    rw [Value.isNull_iff.1 hnull]
    rfl
  · split at h
    · cases h
      rfl
    · cases h

theorem field?_of_not_truthy {v : Value} (h : v.truthy = false) (key : String) :
    v.field? key = none := by
  have hentries : ∀ entries, v.entries? = some entries → entries = [] := by
    induction v using Value.truthy.induct with
    | case8 es => simp_all [Value.truthy, Value.entries?]
    | case11 label v ih => exact ih h
    | _ =>
      intro entries hentries
      cases hentries
  rw [Value.field?]
  cases hv : v.entries? with
  | none => rfl
  | some entries =>
    rw [hentries entries hv]
    rfl

theorem field_of_not_truthy {v : Value} (h : v.truthy = false) (key : String) :
    v.field key = .null := by
  rw [Value.field, field?_of_not_truthy h]
  rfl

theorem sections_isOk_iff {document : Value} :
    (∃ s, Sections.ofDocument document = .ok s) ↔ Sectioned document := by
  rw [Sections.ofDocument, Sectioned]
  cases htruthy : document.truthy with
  | false => simp
  | true =>
    cases hentries : document.entries? with
    | none => simp
    | some entries =>
      simp only [parts, List.forall_mem_cons, ← sectionOf_isOk_iff, Bool.not_true,
        Bool.false_eq_true, Option.isNone_some, Option.isSome_some, if_false,
        Outcome.exists_bind_eq_ok, Outcome.pure_eq_ok, exists_eq', exists_and_right]
      simp

theorem field?_of_sections {document : Value} {s : Sections}
    (h : Sections.ofDocument document = .ok s) (k : Key) :
    (s.raw k).field? k.name = stated? document k := by
  rw [Sections.ofDocument] at h
  split at h
  · next htruthy =>
    cases h
    rw [Bool.not_eq_true'] at htruthy
    rw [stated?, field_of_not_truthy htruthy]
    cases k <;> rfl
  · split at h
    · cases h
    · obtain ⟨bans, hbans, h⟩ := Outcome.bind_eq_ok.1 h
      obtain ⟨suppression, hsuppression, h⟩ := Outcome.bind_eq_ok.1 h
      obtain ⟨output, houtput, h⟩ := Outcome.bind_eq_ok.1 h
      obtain ⟨analysis, hanalysis, h⟩ := Outcome.bind_eq_ok.1 h
      obtain ⟨logging, hlogging, h⟩ := Outcome.bind_eq_ok.1 h
      obtain rfl := Outcome.pure_eq_ok.1 h
      cases k with
      | override | fetchTimeout => exact field?_of_sectionOf hbans _
      | markers => exact field?_of_sectionOf hsuppression _
      | format | useColors => exact field?_of_sectionOf houtput _
      | jobs => exact field?_of_sectionOf hanalysis _
      | logLevel | logFile | verbose => exact field?_of_sectionOf hlogging _

/-- A document in which every section is in order and every value stated can be given. -/
def Acceptable (document : Value) : Prop :=
  Sectioned document ∧ ∀ k v, stated? document k = some v → k.Accepts v

theorem ofDocument_eq_ok {document : Value} {settings : Settings}
    (h : ofDocument document = .ok settings) (k : Key) :
    (stated? document k = none → settings.value k = ({} : Settings).value k)
      ∧ ∀ v, stated? document k = some v → k.Accepts v ∧ k.Same (settings.value k) v := by
  obtain ⟨s, hsections, h⟩ := Outcome.bind_eq_ok.1 h
  have hk := ofSections_eq_ok h k
  rwa [field?_of_sections hsections] at hk

/-- A document gives settings if and only if there is nothing in it that cannot be given. -/
theorem ofDocument_isOk_iff {document : Value} :
    (∃ settings, ofDocument document = .ok settings) ↔ Acceptable document := by
  constructor
  · rintro ⟨settings, h⟩
    obtain ⟨s, hsections, -⟩ := Outcome.bind_eq_ok.1 h
    exact ⟨sections_isOk_iff.1 ⟨s, hsections⟩, fun k v hv => ((ofDocument_eq_ok h k).2 v hv).1⟩
  · rintro ⟨hsectioned, hstated⟩
    obtain ⟨s, hsections⟩ := sections_isOk_iff.2 hsectioned
    refine Outcome.exists_bind_eq_ok.2 ⟨s, hsections, ofSections_isOk fun k v hv => ?_⟩
    rw [field?_of_sections hsections] at hv
    exact hstated k v hv

theorem accepts_value {document : Value} {settings : Settings}
    (h : ofDocument document = .ok settings) (k : Key) : k.Accepts (settings.value k) := by
  obtain ⟨hnone, hsome⟩ := ofDocument_eq_ok h k
  cases hstated : stated? document k with
  | none =>
    rw [hnone hstated]
    exact .inl (documented_default k)
  | some v =>
    obtain ⟨haccepts, hsame⟩ := hsome v hstated
    exact Key.accepts_of_same hsame haccepts

/-! ### A format that cannot be put into words -/

/-- The outcome does not complain about the format. -/
def Silent {α : Type} (x : Except Problem α) : Prop := ∀ v, x ≠ .error (.unknownFormat v)

@[simp]
theorem silent_ok {α : Type} (a : α) : Silent (.ok a) := by
  intro v h
  cases h

@[simp]
theorem silent_error_iff {α : Type} {p : Problem} :
    Silent (.error p : Except Problem α) ↔ ∀ v, p ≠ .unknownFormat v := by
  simp [Silent]

theorem Silent.bind {α β : Type} {x : Except Problem α} {f : α → Except Problem β}
    (hx : Silent x) (hf : ∀ a, Silent (f a)) : Silent (x >>= f) := by
  intro v h
  rcases Outcome.bind_eq_error.1 h with h | ⟨a, -, h⟩
  · exact hx v h
  · exact hf a v h

theorem silent_stated {α : Type} {raw : Value} {key : String} {check : Value → Except Problem α}
    {default : α} (h : ∀ v, Silent (check v)) : Silent (stated raw key check default) := by
  rw [stated]
  split
  · simp
  · exact h _

theorem silent_sectionOf (part : String) (document : Value) : Silent (sectionOf part document) := by
  rw [sectionOf]
  split
  · simp
  · split <;> simp

theorem silent_sections (document : Value) : Silent (Sections.ofDocument document) := by
  rw [Sections.ofDocument]
  split
  · simp
  split
  · simp
  · refine (silent_sectionOf _ _).bind fun _ => ?_
    refine (silent_sectionOf _ _).bind fun _ => ?_
    refine (silent_sectionOf _ _).bind fun _ => ?_
    refine (silent_sectionOf _ _).bind fun _ => ?_
    exact (silent_sectionOf _ _).bind fun _ => silent_ok _

theorem silent_checked {α : Type} {p : Problem} (hp : ∀ w, p ≠ .unknownFormat w)
    (take? : Value → Option α) (v : Value) : Silent (checked p take? v) := by
  rw [checked]
  split
  · exact silent_ok _
  · exact silent_error_iff.2 hp

/-- Only the format is told in words, and it is told as the document states it. -/
theorem stated_of_unknownFormat {document v : Value}
    (h : ofDocument document = .error (.unknownFormat v)) :
    stated? document .format = some v ∧ ¬ Key.format.Accepts v := by
  rcases Outcome.bind_eq_error.1 h with h | ⟨s, hsections, h⟩
  · exact absurd h (silent_sections document v)
  rcases Outcome.bind_eq_error.1 h with h | ⟨format, -, h⟩
  · rw [← field?_of_sections hsections]
    show s.output.field? "default_format" = some v ∧ _
    rw [stated] at h
    split at h
    · cases h
    · next w hfield =>
      have hw : w = v := by
        rw [formatOf] at h
        split at h
        · cases h
        · cases h
          rfl
      subst hw
      refine ⟨hfield, fun haccepts => ?_⟩
      obtain ⟨f, hf⟩ := takes_format.complete haccepts
      cases h.symm.trans hf
  · -- the format is checked first, and no later check complains about it
    refine absurd h (Silent.bind (silent_stated (silent_checked (by simp) _)) (fun _ => ?_) v)
    refine (silent_stated (silent_checked (by simp) _)).bind fun _ => ?_
    refine (silent_stated (silent_checked (by simp) _)).bind fun _ => ?_
    refine (silent_stated (silent_checked (by simp) _)).bind fun _ => ?_
    refine (silent_stated (silent_checked (by simp) _)).bind fun _ => ?_
    refine (silent_stated (silent_checked (by simp) _)).bind fun _ => ?_
    exact (silent_stated (silent_checked (by simp) _)).bind fun _ => silent_ok _

/-! ### Files -/

theorem load_of_read {store : Store} {path : String} {content : Content}
    (h : store.read path = .ok content) : load store (some path) = ofContent path content := by
  have hpath : path ≠ "" := by
    rintro rfl
    cases h
  have hholds : store.holds path = true := by
    rw [Store.read] at h
    rw [Store.holds]
    split at h
    · cases h
    · next hisPath =>
      cases hresolve : store.resolve path with
      | error cause =>
        rw [hresolve] at h
        cases h
      | ok place =>
        cases hentry : store.entry? place with
        | none => simp [hresolve, hentry] at h
        | some entry => simpa [hentry] using hisPath
  have hgiven : Fault.given? (some path) = some path := by simp [Fault.given?, hpath]
  rw [load, hgiven]
  simp only [hholds, if_true, h]

/-- A problem can be put into words unless it is a format that cannot. -/
theorem check_eq_error_iff {p : Problem} {fault : ValueFault} :
    p.check = .error fault ↔ ∃ v, p = .unknownFormat v ∧ v.shown = .error fault := by
  cases p with
  | unknownFormat v =>
    rw [Problem.check, Outcome.map_eq_error]
    constructor
    · exact fun h => ⟨v, rfl, h⟩
    · rintro ⟨w, hw, h⟩
      cases hw
      exact h
  | _ => simp [Problem.check]

/-- What becomes of a document: the problem cannot be put into words, or there is a result. -/
theorem ofContent_of_document {path : String} {content : Content} {document : Value}
    (h : content.yaml = .ok document) :
    (∃ v fault, stated? document .format = some v ∧ ¬ Key.format.Accepts v
      ∧ v.shown = .error fault ∧ ofContent path content = .error (.value fault))
    ∨ ofContent path content = .ok ⟨ofDocument document, recordsOf path document⟩ := by
  rw [ofContent, h]
  cases hdocument : ofDocument document with
  | ok settings =>
    right
    simp only [hdocument]
    rfl
  | error p =>
    simp only [hdocument]
    cases hcheck : p.check with
    | ok _ => exact .inr rfl
    | error fault =>
      obtain ⟨v, rfl, hshown⟩ := check_eq_error_iff.1 hcheck
      obtain ⟨hstated, haccepts⟩ := stated_of_unknownFormat hdocument
      exact .inl ⟨v, fault, hstated, haccepts, hshown, rfl⟩

/-- A file that can be read. If it is no YAML text then that is the problem. If it holds a document,
then there is a format in it that cannot be put into words; or a problem is told, and there is
something in the document that cannot be given; or there is nothing of the kind, and each setting
has the value that is stated for it, or else its default. -/
theorem load_settings (store : Store) (path : String) (content : Content)
    (hread : store.read path = .ok content) :
    (content.yaml = .error .malformed ∨ content.yaml = .error .unfinished →
      load store (some path) = .ok { settings := .error .invalidYaml })
    ∧ ∀ document, content.yaml = .ok document →
      (∃ v fault, stated? document .format = some v ∧ ¬ Key.format.Accepts v
        ∧ v.shown = .error fault ∧ load store (some path) = .error (.value fault))
      ∨ (∃ p records, load store (some path) = .ok ⟨.error p, records⟩ ∧ ¬ Acceptable document)
      ∨ ∃ s records, load store (some path) = .ok ⟨.ok s, records⟩ ∧ Acceptable document
        ∧ ∀ k : Key, k.Accepts (s.value k)
          ∧ (stated? document k = none → s.value k = ({} : Settings).value k)
          ∧ ∀ v, stated? document k = some v → k.Same (s.value k) v := by
  rw [load_of_read hread]
  refine ⟨fun hyaml => ?_, fun document hyaml => ?_⟩
  · rcases hyaml with hyaml | hyaml
    · rw [ofContent, hyaml]
    · rw [ofContent, hyaml]
  rcases ofContent_of_document hyaml with h | h
  · exact .inl h
  right
  rw [h]
  cases hdocument : ofDocument document with
  | error p =>
    refine .inl ⟨p, _, rfl, fun hacceptable => ?_⟩
    obtain ⟨s, hs⟩ := ofDocument_isOk_iff.2 hacceptable
    cases hdocument.symm.trans hs
  | ok s =>
    refine .inr ⟨s, _, rfl, ofDocument_isOk_iff.1 ⟨s, hdocument⟩, fun k => ?_⟩
    obtain ⟨hnone, hsome⟩ := ofDocument_eq_ok hdocument k
    exact ⟨accepts_value hdocument k, hnone, fun v hv => (hsome v hv).2⟩

/-! ### Files with one setting -/

/-- A file with these settings. -/
def sampleFile (settings : String) : Store := ⟨[(["c.yaml"], .file (.text settings))]⟩

/-- The settings that were loaded. -/
def loaded? (x : Except Abort Loaded) : Option Settings :=
  x.toOption.bind fun l => l.settings.toOption

theorem loaded?_eq_some {x : Except Abort Loaded} {s : Settings} (h : loaded? x = some s) :
    ∃ records, x = .ok ⟨.ok s, records⟩ := by
  rcases x with _ | ⟨_ | s', records⟩
  · cases h
  · cases h
  · cases h
    exact ⟨records, rfl⟩

/-- A file that states the number of workers. -/
def sampleJobs : String := "analysis:\n  jobs: 3\n"

/-- The document states this setting and no other. -/
def statesOnly (k : Key) (document : Value) : Bool :=
  [Key.override, .fetchTimeout, .markers, .format, .useColors, .jobs, .logLevel, .logFile,
    .verbose].all fun k' => (stated? document k').isSome == decide (k' = k)

theorem stated?_of_statesOnly {k k' : Key} {document : Value} (h : statesOnly k document = true)
    (hk : k' ≠ k) : stated? document k' = none := by
  have hall := List.all_eq_true.1 h k' (by cases k' <;> decide)
  simpa [hk] using hall

theorem load_settings_jobs :
    (sampleFile sampleJobs).read "c.yaml" = .ok (.text sampleJobs)
    ∧ ∃ document s records, (Content.text sampleJobs).yaml = .ok document
      ∧ load (sampleFile sampleJobs) (some "c.yaml") = .ok ⟨.ok s, records⟩ ∧ s.jobs = 3
      ∧ ∀ k ≠ Key.jobs, s.value k = ({} : Settings).value k := by
  have hread : (sampleFile sampleJobs).read "c.yaml" = .ok (.text sampleJobs) := rfl
  have hyaml : ((Content.text sampleJobs).yaml.toOption.any (statesOnly .jobs)) = true := by
    decide +kernel
  have hjobs : (loaded? (load (sampleFile sampleJobs) (some "c.yaml"))).map (·.jobs) = some 3 := by
    decide +kernel
  cases hdocument : (Content.text sampleJobs).yaml with
  | error fault =>
    rw [hdocument] at hyaml
    cases hyaml
  | ok document =>
    rw [hdocument] at hyaml
    obtain ⟨s, hs, hthree⟩ := Option.map_eq_some_iff.1 hjobs
    obtain ⟨records, hload⟩ := loaded?_eq_some hs
    obtain ⟨-, hresult⟩ := load_settings _ _ _ hread
    rcases hresult document hdocument with ⟨_, _, -, -, -, h⟩ | ⟨_, _, h, -⟩ | ⟨s', _, h, -, hk⟩
    · cases hload.symm.trans h
    · cases hload.symm.trans h
    · cases hload.symm.trans h
      exact ⟨hread, document, s, records, rfl, hload, hthree,
        fun k hne => (hk k).2.1 (stated?_of_statesOnly hyaml hne)⟩

/-- The whole number that a value is, if it is one. -/
def whole? : Value → Option Int
  | .int n => some n
  | _ => none

theorem eq_int_of_whole? {v : Value} {n : Int} (h : whole? v = some n) : v = .int n := by
  rw [whole?.eq_def] at h
  split at h
  · cases h
    rfl
  · cases h

/-- A number passes for colours, and not a number for a time. -/
theorem load_not_documented :
    (∃ s records, load (sampleFile "output:\n  use_colors: 5\n") (some "c.yaml")
        = .ok ⟨.ok s, records⟩
      ∧ s.value .useColors = .int 5 ∧ ¬ Key.useColors.Documented (s.value .useColors))
    ∧ ∃ s records, load (sampleFile "bans:\n  fetch_timeout: .nan\n") (some "c.yaml")
        = .ok ⟨.ok s, records⟩
      ∧ s.fetchTimeout = .float .nan ∧ ¬ Key.fetchTimeout.Documented (s.value .fetchTimeout) := by
  refine ⟨?_, ?_⟩
  · have hcolors : (loaded? (load (sampleFile "output:\n  use_colors: 5\n") (some "c.yaml"))).bind
        (fun s => whole? s.useColors) = some 5 := by decide +kernel
    obtain ⟨s, hs, hwhole⟩ := Option.bind_eq_some_iff.1 hcolors
    obtain ⟨records, hload⟩ := loaded?_eq_some hs
    have hvalue : s.value .useColors = .int 5 := eq_int_of_whole? hwhole
    refine ⟨s, records, hload, hvalue, ?_⟩
    rw [hvalue]
    simp [Key.Documented]
  · have htimeout : (loaded? (load (sampleFile "bans:\n  fetch_timeout: .nan\n")
        (some "c.yaml"))).map (·.fetchTimeout) = some (.float .nan) := by decide +kernel
    obtain ⟨s, hs, hnan⟩ := Option.map_eq_some_iff.1 htimeout
    obtain ⟨records, hload⟩ := loaded?_eq_some hs
    refine ⟨s, records, hload, hnan, ?_⟩
    rintro ⟨n, hn, hpositive⟩
    obtain rfl : s.fetchTimeout = n := by simpa [value] using hn
    rw [hnan] at hpositive
    exact hpositive

end Settings

end BannedApi
