import BannedApi.Proofs.Json.Overlong
import BannedApi.Proofs.Match.Sound
import BannedApi.Proofs.Store.Read
import BannedApi.Proofs.Tree.Endless

/-!
Reading tree files: what a file gives to a run, and when it ends the run instead.

A file gives its units, or one error if it cannot be read. `ofFile_ends_iff` says when it does
neither: its reader ends in a fault of its own, the version of its document cannot be put into the
warning about it, or a unit is walked without end. Nothing that a walk finds wrong with a unit is such
a fault, and only a document that holds itself is walked without end (`WalkEnds.holdsItself`).
-/
namespace BannedApi

namespace Tree.Reading

/-- The units of a tree; one that cannot be read has none. -/
def unitList (reading : Reading) : List CompilationUnit := reading.units.toOption.getD []

/-- The error that is recorded for a tree that cannot be read. -/
def error? (path : String) (reading : Reading) : Option String :=
  match reading.units with
  | .ok _ => none
  | .error fault => some (fault.message path)

/-- Reading the tree ends the run. -/
def Ends (reading : Reading) : Prop := ∃ fault, reading.units = .error (.fatal fault)

theorem unitList_of_units {reading : Reading} {units : List CompilationUnit}
    (h : reading.units = .ok units) : reading.unitList = units := by
  rw [unitList, h]
  rfl

theorem not_ends_of_units {reading : Reading} {units : List CompilationUnit}
    (h : reading.units = .ok units) : ¬ reading.Ends := by
  rintro ⟨fault, hfault⟩
  cases h.symm.trans hfault

theorem mem_unitList {reading : Reading} {u : CompilationUnit} :
    u ∈ reading.unitList ↔ ∃ units, reading.units = .ok units ∧ u ∈ units := by
  unfold unitList
  cases reading.units with
  | error fault => simp [Except.toOption]
  | ok units => simp [Except.toOption]

theorem error?_eq_some {path message : String} {reading : Reading} :
    reading.error? path = some message
      ↔ ∃ fault, reading.units = .error fault ∧ fault.message path = message := by
  unfold error?
  cases reading.units with
  | error fault => simp
  | ok units => simp

end Tree.Reading

namespace Tree

open Outcome (mapError_eq_error mapError_eq_ok)

variable {markers : Markers} {store : Store} {path : String}

/-! ### When reading a file ends the run -/

/-- The reader of the file ends the run: a JSON text holds a whole number with too many digits, or a
YAML text a scalar that has no value. -/
def ReaderEnds (store : Store) (path : String) : Prop :=
  store.holds path = true
    ∧ if isYaml path then
        ∃ content fault, store.read path = .ok content ∧ content.yaml = .error (.scalar fault)
      else ∃ text, store.readText path = .ok text ∧ Json.Overlong text

/-- The document in the file is of the known format, but its version is not the known one and cannot
be put into words. -/
def VersionEnds (store : Store) (path : String) : Prop :=
  ∃ document, readDocument store path = .ok document ∧ detectFormat document = formatName
    ∧ isKnownVersion document = false ∧ (document.field "version").isShort = false

/-- The document in the file is of the known format, and the first of its units that is not well
formed is walked without end. -/
def WalkEnds (markers : Markers) (store : Store) (path : String) : Prop :=
  ∃ document before raw after, readDocument store path = .ok document
    ∧ detectFormat document = formatName
    ∧ (document.field "compilation_units").items? = some (before ++ raw :: after)
    ∧ (∀ u ∈ before, WellFormedUnit u) ∧ Endless markers path before.length raw

theorem ofOpen_ne_fatal {fault : OpenFault} (h : fault ≠ .nullCharacter) (a : Abort) :
    Fault.ofOpen fault ≠ .fatal a := by
  cases fault with
  | file f => exact fun heq => by cases heq
  | nullCharacter => exact absurd rfl h

theorem readJson_eq_fatal_iff (hpath : Store.isPath path = true) :
    (∃ a, readJson store path = .error (.fatal a))
      ↔ ∃ text, store.readText path = .ok text ∧ Json.Overlong text := by
  unfold readJson Json.Overlong
  split
  · next f hread =>
    have hf : f ≠ .nullCharacter := by
      rintro rfl
      simp [store.readText_eq_nullCharacter_iff.1 hread] at hpath
    simp [hread, ofOpen_ne_fatal hf]
  · next hread => simp [hread]
  · next text hread =>
    cases hparse : Json.parse text with
    | ok v => simp [hread, hparse, Except.mapError]
    | error f => cases f <;> simp [hread, hparse, Except.mapError]

theorem readYaml_eq_fatal_iff (hpath : Store.isPath path = true) :
    (∃ a, readYaml store path = .error (.fatal a))
      ↔ ∃ content fault, store.read path = .ok content
        ∧ content.yaml = .error (.scalar fault) := by
  unfold readYaml
  split
  · next f hread =>
    have hf : f ≠ .nullCharacter := by
      rintro rfl
      simp [store.read_eq_nullCharacter_iff.1 hread] at hpath
    simp [hread, ofOpen_ne_fatal hf]
  · next content hread =>
    cases hyaml : content.yaml with
    | ok v => simp [hread, hyaml, Except.mapError]
    | error f => cases f <;> simp [hread, hyaml, Except.mapError]

theorem readDocument_eq_fatal_iff :
    (∃ a, readDocument store path = .error (.fatal a)) ↔ ReaderEnds store path := by
  unfold readDocument ReaderEnds
  cases hholds : store.holds path with
  | false => simp
  | true =>
    -- Something stands at the path, so it has no null character and opening it ends no run.
    have hpath := store.isPath_of_holds hholds
    cases isYaml path with
    | true => simpa using readYaml_eq_fatal_iff hpath
    | false => simpa using readJson_eq_fatal_iff hpath

theorem versionRecords_eq_error_iff (path : String) {document : Value} :
    (∃ f, versionRecords path document = .error f)
      ↔ isKnownVersion document = false ∧ (document.field "version").isShort = false := by
  unfold versionRecords
  rw [← Match.shown_eq_error_iff]
  cases isKnownVersion document with
  | true => simp
  | false => cases (document.field "version").shown <;> simp [Except.map]

theorem Fault.ofWalk_eq_fatal_iff {m : Malformed} :
    (∃ a, Fault.ofWalk m = .fatal a) ↔ m.problem = .endless := by
  unfold Fault.ofWalk
  split
  · next hends => simp [hends]
  · next hends => simp [hends]

theorem unitsOf_eq_fatal_iff {document : Value} :
    (∃ a, unitsOf markers path document = .error (.fatal a))
      ↔ ∃ before raw after,
        (document.field "compilation_units").items? = some (before ++ raw :: after)
        ∧ (∀ u ∈ before, WellFormedUnit u) ∧ Endless markers path before.length raw := by
  unfold unitsOf Endless
  cases (document.field "compilation_units").items? with
  | none => simp
  | some items =>
    simp only [mapError_eq_error, Option.some.injEq, ← Fault.ofWalk_eq_fatal_iff]
    constructor
    · rintro ⟨a, fault, hfrom, hfault⟩
      obtain ⟨before, raw, after, hitems, hbefore, hraw⟩ := unitsFrom_eq_error_iff.1 hfrom
      rw [Nat.zero_add] at hraw
      exact ⟨before, raw, after, hitems, hbefore, fault, hraw, a, hfault⟩
    · rintro ⟨before, raw, after, hitems, hbefore, fault, hraw, a, hfault⟩
      rw [← Nat.zero_add before.length] at hraw
      exact ⟨a, fault, unitsFrom_eq_error_iff.2 ⟨before, raw, after, hitems, hbefore, hraw⟩, hfault⟩

theorem ofDocument_ends_iff {document : Value} :
    (ofDocument markers path document).Ends
      ↔ detectFormat document = formatName
        ∧ ((isKnownVersion document = false ∧ (document.field "version").isShort = false)
          ∨ ∃ a, unitsOf markers path document = .error (.fatal a)) := by
  rw [← versionRecords_eq_error_iff path]
  unfold ofDocument Reading.Ends
  by_cases hformat : detectFormat document = formatName
  · cases hversion : versionRecords path document with
    | error f => simp [hformat]
    | ok warnings => cases hof : unitsOf markers path document <;> simp [hformat]
  · simp [hformat]

/-- Reading a file ends the run if its reader does, if its version is beyond words, or if a unit is
walked without end. -/
theorem ofFile_ends_iff :
    (ofFile markers store path).Ends
      ↔ ReaderEnds store path ∨ VersionEnds store path ∨ WalkEnds markers store path := by
  rw [← readDocument_eq_fatal_iff]
  unfold ofFile VersionEnds WalkEnds
  cases hread : readDocument store path with
  | error f => simp [Reading.Ends]
  | ok document =>
    simp [ofDocument_ends_iff, unitsOf_eq_fatal_iff, and_or_left]

theorem whole_of_readDocument {document : Value} (hyaml : isYaml path = false)
    (h : readDocument store path = .ok document) : document.Whole := by
  simp only [readDocument, hyaml, Bool.false_eq_true, if_false] at h
  split at h
  · cases h
  · unfold readJson at h
    split at h
    · cases h
    · cases h
    · exact Json.whole_of_parse (mapError_eq_ok.1 h)

/-- Only a YAML file can be walked without end, and only if its document holds itself. -/
theorem WalkEnds.holdsItself (h : WalkEnds markers store path) :
    isYaml path = true ∧ ∃ document, readDocument store path = .ok document ∧ ¬ document.Whole := by
  obtain ⟨document, before, raw, after, hread, -, hitems, -, hends⟩ := h
  have hdocument : ¬ document.Whole := by
    intro hwhole
    have hraw : raw.Whole := (hwhole.field _).of_items? hitems raw (by simp)
    exact not_endless_of_whole hraw hends
  refine ⟨?_, document, hread, hdocument⟩
  by_contra hyaml
  exact hdocument (whole_of_readDocument (by simpa using hyaml) hread)

end Tree

end BannedApi
