import BannedApi.Proofs.Json.Overlong
import BannedApi.Proofs.Outcome
import BannedApi.Proofs.Registry.Run
import BannedApi.Proofs.Store.Read
import BannedApi.Registry.Standard

/-!
The user's own ban list over the standard one.

A source that is refused gives no table at all (`Reading.Labelled`), so merging it changes nothing
but the record of what was loaded. A source that is used can only add: what the standard list bans
stays banned, and only the classes that the other list names among its methods change theirs
(`Registry.Extends`). There is a third way for a source to end, which is neither: `SourceAborts`
says when reading it ends the run.
-/
namespace BannedApi

/-! ### When reading a source ends the run -/

namespace Reading

/-- Reading the file ends the run: its path holds the null character, or its text a whole number
with too many digits. -/
def FileAborts (store : Store) (path : String) : Prop :=
  Store.isPath path = false ∨ ∃ text, store.readText path = .ok text ∧ Json.Overlong text

/-- Reading the source ends the run. -/
def SourceAborts (store : Store) (web : Web) (source : String) : Prop :=
  if Web.isUrl source then ∃ text, web.get source = .ok text ∧ Json.Overlong text
  else FileAborts store source

theorem ofText_eq_error_iff {label text : String} :
    (∃ a, ofText label text = .error a) ↔ Json.Overlong text := by
  unfold ofText Json.Overlong
  split
  · next hparse => simp [hparse]
  · next hparse => simp [hparse]
  · next hparse => simp [hparse]

theorem ofFile_eq_error_iff {store : Store} {path : String} :
    (∃ a, ofFile store path = .error a) ↔ FileAborts store path := by
  unfold ofFile FileAborts
  rw [← store.readText_eq_nullCharacter_iff]
  split
  · next text hread => simp [hread, ofText_eq_error_iff]
  · next hread => simp [hread]
  · next hread => simp [hread]
  · next hread => simp [hread]
  · next hread => simp [hread]

theorem ofUrl_eq_error_iff {web : Web} {url : String} :
    (∃ a, ofUrl web url = .error a) ↔ ∃ text, web.get url = .ok text ∧ Json.Overlong text := by
  unfold ofUrl
  cases web.get url with
  | error e => simp [pure, Except.pure, bind, Except.bind]
  | ok text =>
    simp only [Outcome.exists_bind_eq_error, ofText_eq_error_iff]
    simp [pure, Except.pure]

theorem ofSource_eq_error_iff {store : Store} {web : Web} {source : String} :
    (∃ a, ofSource store web source = .error a) ↔ SourceAborts store web source := by
  unfold ofSource SourceAborts
  split
  · exact ofUrl_eq_error_iff
  · exact ofFile_eq_error_iff

end Reading

/-- Reading the standard list ends the run. -/
def StandardSource.Aborts (store : Store) : StandardSource → Prop
  | .bundled _ => False
  | .file path => Reading.FileAborts store path

theorem StandardSource.read_eq_error_iff {standard : StandardSource} {store : Store} :
    (∃ a, standard.read store = .error a) ↔ standard.Aborts store := by
  cases standard with
  | bundled label => simp [read, Aborts]
  | file path => exact Reading.ofFile_eq_error_iff

/-! ### What a source that is refused gives -/

namespace Reading

/-- The reading is known by its source, and a source that is not used gives no table. -/
structure Labelled (r : Reading) (source : String) : Prop where
  source : r.result.source = source
  unused : ∀ error, r.result.error? = some error →
    r.classes = none ∧ r.packages = none ∧ r.methods = none

theorem labelled_refused (source error warning : String) :
    (refused source error warning).Labelled source :=
  ⟨rfl, fun _ _ => ⟨rfl, rfl, rfl⟩⟩

theorem labelled_ofDocument (label : String) (d : Value) : (ofDocument label d).Labelled label := by
  unfold ofDocument
  split
  · exact ⟨rfl, fun _ h => by cases h⟩
  · exact labelled_refused ..

theorem labelled_ofText {label text : String} {r : Reading} (h : ofText label text = .ok r) :
    r.Labelled label := by
  unfold ofText at h
  split at h
  · cases h
    exact labelled_ofDocument ..
  · cases h
    exact labelled_refused ..
  · cases h

theorem labelled_ofFile {store : Store} {path : String} {r : Reading}
    (h : ofFile store path = .ok r) : r.Labelled path := by
  unfold ofFile at h
  split at h
  · exact labelled_ofText h
  · cases h
  · cases h
    exact labelled_refused ..
  · cases h
    exact labelled_refused ..
  · cases h
    exact labelled_refused ..

theorem labelled_ofUrl {web : Web} {url : String} {r : Reading} (h : ofUrl web url = .ok r) :
    r.Labelled url := by
  unfold ofUrl at h
  cases hget : web.get url with
  | error e =>
    rw [hget] at h
    cases h
    exact ⟨rfl, fun _ _ => ⟨rfl, rfl, rfl⟩⟩
  | ok text =>
    rw [hget] at h
    obtain ⟨reading, hreading, hr⟩ := Outcome.bind_eq_ok.1 h
    cases Outcome.pure_eq_ok.1 hr
    have htext := labelled_ofText hreading
    exact ⟨htext.source, htext.unused⟩

theorem labelled_ofSource {store : Store} {web : Web} {source : String} {r : Reading}
    (h : ofSource store web source = .ok r) : r.Labelled source := by
  unfold ofSource at h
  split at h
  · exact labelled_ofUrl h
  · exact labelled_ofFile h

end Reading

theorem StandardSource.labelled_read {standard : StandardSource} {store : Store} {r : Reading}
    (h : standard.read store = .ok r) : r.Labelled standard.label := by
  cases standard with
  | bundled label =>
    cases h
    exact Reading.labelled_ofDocument ..
  | file path => exact Reading.labelled_ofFile h

/-! ### Merging one more source -/

namespace Loader

theorem sources_merge {l : Loader} {r : Reading} (h : r.result.error? = none) :
    (l.merge r).build.sources = l.build.sources ++ [r.result.source] := by
  have hok : r.result.isOk = true := by rw [LoadResult.isOk, h]; rfl
  simp [merge, build, List.filter_append, hok]

/-- A source that is refused leaves the registry as it was. -/
theorem build_merge_refused {l : Loader} {r : Reading} {source error : String}
    (hr : r.Labelled source) (h : r.result.error? = some error) : (l.merge r).build = l.build := by
  obtain ⟨hclasses, hpackages, hmethods⟩ := hr.unused error h
  have hok : r.result.isOk = false := by rw [LoadResult.isOk, h]; rfl
  simp [merge, build, hclasses, hpackages, hmethods, List.filter_append, hok]

theorem get?_merged {α : Type} {m : OrderedMap α} {table : Option (OrderedMap α)}
    {more : List (String × α)} (h : table.getD .empty = .ofList more) (key : String) :
    ((table.map m.union).getD m).get? key = (OrderedMap.lastOf key more).or (m.get? key) := by
  rw [← OrderedMap.get?_ofList, ← h]
  cases table with
  | none => rfl
  | some n => exact OrderedMap.get?_union m n key

theorem lastOf_eq_none {α : Type} {key : String} {entries : List (String × α)}
    (h : key ∉ entries.map (·.1)) : OrderedMap.lastOf key entries = none := by
  rw [← OrderedMap.get?_ofList, OrderedMap.get?_eq_none_iff, OrderedMap.keys_ofList,
    List.mem_eraseDups]
  exact h

end Loader

/-- What one registry bans the other bans as well, if for another reason, and it has the same banned
methods of every class that is not among those given. -/
structure Registry.Extends (merged registry : Registry) (owners : List String) : Prop where
  classes : ∀ key, (registry.classBan key).isSome → (merged.classBan key).isSome
  packages : ∀ key, (registry.packageBan key).isSome → (merged.packageBan key).isSome
  methods : ∀ owner, owner ∉ owners → merged.methods.get? owner = registry.methods.get? owner

/-- A source takes no ban away, and changes the methods only of the classes it names. -/
theorem Loader.extends_merge {l : Loader} {own : Reading} {document : Option Value}
    (h : own.Says document) :
    (l.merge own).build.Extends l.build
      ((Reading.bansOf Reading.ownerBans? .methods document).map (·.1)) where
  classes key := by
    simp only [Registry.classBan, build, merge, OrderedMap.get?_map, stated_text,
      get?_merged h.classes]
    cases l.classes.get? key with
    | none => simp
    | some reason => simp
  packages key := by
    simp only [Registry.packageBan, build, merge, OrderedMap.get?_map, stated_text,
      get?_merged h.packages]
    cases l.packages.get? key with
    | none => simp
    | some reason => simp
  methods owner howner := by
    simp only [build, merge, OrderedMap.get?_map, get?_merged h.methods, lastOf_eq_none howner,
      Option.none_or]

/-! ### Building the registry of a run -/

section Build

variable {store : Store} {web : Web} {standard : StandardSource} {override : Option String}
  {base own : Reading} {source error : String} (timeout : Number)

theorem buildRegistry_of_refused (web : Web) (override : Option String)
    (hbase : standard.read store = .ok base) (herror : base.result.error? = some error) :
    (buildRegistry store web standard override timeout).map (fun b => (b.registry, b.fetched))
      = .ok (.error ⟨error, standard.label⟩, []) := by
  rw [buildRegistry, buildRegistryWith, hbase]
  simp only [bind, Except.bind, herror]
  rfl

theorem buildRegistry_of_alone (web : Web) (hbase : standard.read store = .ok base)
    (hok : base.result.error? = none) (hgiven : Fault.given? override = none) :
    (buildRegistry store web standard override timeout).map (·.registry)
      = .ok (.ok (Loader.merge {} base).build) := by
  rw [buildRegistry, buildRegistryWith, hbase]
  simp only [bind, Except.bind, hok, hgiven]
  rfl

theorem buildRegistry_of_both (hbase : standard.read store = .ok base)
    (hok : base.result.error? = none) (hgiven : Fault.given? override = some source)
    (hown : Reading.ofSource store web source = .ok own) :
    (buildRegistry store web standard override timeout).map (·.registry)
      = .ok (.ok ((Loader.merge {} base).merge own).build) := by
  rw [buildRegistry, buildRegistryWith, hbase]
  simp only [bind, Except.bind, hok, hgiven, readOverride, Journal.silent, hown]
  rfl

theorem buildRegistry_of_aborted {a : Abort} (hbase : standard.read store = .ok base)
    (hok : base.result.error? = none) (hgiven : Fault.given? override = some source)
    (hown : Reading.ofSource store web source = .error a) :
    buildRegistry store web standard override timeout = .error a := by
  rw [buildRegistry, buildRegistryWith, hbase]
  simp only [bind, Except.bind, hok, hgiven, readOverride, Journal.silent, hown]

/-- The run ends without a registry when reading the standard list ends it, or when the standard
list can be used and reading the other list ends it. -/
theorem buildRegistry_eq_error_iff :
    (∃ a, buildRegistry store web standard override timeout = .error a)
      ↔ standard.Aborts store
        ∨ (∃ base, standard.read store = .ok base ∧ base.result.error? = none)
          ∧ ∃ source, Fault.given? override = some source
            ∧ Reading.SourceAborts store web source := by
  simp only [← StandardSource.read_eq_error_iff, ← Reading.ofSource_eq_error_iff]
  -- The cases come in the order in which the sources are asked for: the user's own list is read
  -- only in the last of them.
  cases hbase : standard.read store with
  | error a =>
    have hbuild : buildRegistry store web standard override timeout = .error a := by
      rw [buildRegistry, buildRegistryWith, hbase]
      rfl
    simp [hbuild]
  | ok base =>
    cases hresult : base.result.error? with
    | some error =>
      obtain ⟨build, hbuild, -⟩ :=
        Outcome.map_eq_ok.1 (buildRegistry_of_refused timeout web override hbase hresult)
      simp [hbuild, hresult]
    | none =>
      cases hgiven : Fault.given? override with
      | none =>
        obtain ⟨build, hbuild, -⟩ :=
          Outcome.map_eq_ok.1 (buildRegistry_of_alone timeout web hbase hresult hgiven)
        simp [hbuild]
      | some source =>
        cases hown : Reading.ofSource store web source with
        | error a =>
          simp [buildRegistry_of_aborted timeout hbase hresult hgiven hown, hresult, hown]
        | ok own =>
          obtain ⟨build, hbuild, -⟩ :=
            Outcome.map_eq_ok.1 (buildRegistry_of_both timeout hbase hresult hgiven hown)
          simp [hbuild, hown]

end Build

/-- The user's own list does not disturb the standard one, as long as both are read or refused; the
first part says when reading one of them ends the run instead. If the standard list is refused there
is no registry, and the other list is not asked for. If the standard list is used and the other one
is refused, the registry is that of the standard list alone. If both are used, everything that the
standard list bans stays banned, and every class that the other list does not name in a well-formed
section of methods keeps its own methods. -/
theorem buildRegistry_override (store : Store) (web : Web) (standard : StandardSource)
    (override : Option String) (timeout : Number) :
    ((∃ a, buildRegistry store web standard override timeout = .error a)
      ↔ standard.Aborts store
        ∨ (∃ base, standard.read store = .ok base ∧ base.result.error? = none)
          ∧ ∃ source, Fault.given? override = some source
            ∧ Reading.SourceAborts store web source)
    ∧ ∀ base, standard.read store = .ok base →
      (∀ error, base.result.error? = some error →
        (buildRegistry store web standard override timeout).map (fun b => (b.registry, b.fetched))
          = .ok (.error ⟨error, standard.label⟩, []))
      ∧ (base.result.error? = none → ∃ registry,
        (buildRegistry store web standard none timeout).map (·.registry) = .ok (.ok registry)
        ∧ registry.sources = [standard.label]
        ∧ (Fault.given? override = none →
          (buildRegistry store web standard override timeout).map (·.registry)
            = .ok (.ok registry))
        ∧ ∀ source own, Fault.given? override = some source →
          Reading.ofSource store web source = .ok own → ∃ merged,
            (buildRegistry store web standard override timeout).map (·.registry)
              = .ok (.ok merged)
            ∧ (∀ error, own.result.error? = some error → merged = registry)
            ∧ (own.result.error? = none →
              merged.Extends registry ((LoadStep.source store web source).owners.map (·.1))
              ∧ merged.sources = [standard.label, source])) := by
  refine ⟨buildRegistry_eq_error_iff timeout, fun base hbase => ⟨?_, fun hok => ?_⟩⟩
  · exact fun error herror => buildRegistry_of_refused timeout web override hbase herror
  · have hsources : (Loader.merge {} base).build.sources = [standard.label] := by
      rw [Loader.sources_merge hok, (StandardSource.labelled_read hbase).source]
      rfl
    refine ⟨_, buildRegistry_of_alone timeout web hbase hok rfl, hsources,
      buildRegistry_of_alone timeout web hbase hok, fun source own hgiven hown => ?_⟩
    have hlabelled := Reading.labelled_ofSource hown
    refine ⟨_, buildRegistry_of_both timeout hbase hok hgiven hown, ?_, fun hused => ?_⟩
    · exact fun error herror => Loader.build_merge_refused hlabelled herror
    · have hsays := (LoadStep.source store web source).reads_reading
      rw [LoadStep.reading, hown] at hsays
      refine ⟨Loader.extends_merge hsays, ?_⟩
      rw [Loader.sources_merge hused, hsources, hlabelled.source]
      rfl

/-! ### A number that is too long -/

/-- A standard list that bans nothing, beside a list of the user's own. -/
def Store.withOwn (own : String) : Store :=
  ⟨[(["default.json"], .file (.text "\x7b\x7d")), (["own.json"], .file (.text own))]⟩

theorem ofSource_withOwn {own : String} {fault : Text.IntegerFault}
    (h : Json.parse (String.ofList (Text.unifyNewlines own.toList)) = .error (.integer fault)) :
    Reading.ofSource (.withOwn own) {} "own.json" = .error (.integer fault) := by
  have htext : (Store.withOwn own).readText "own.json"
      = .ok (String.ofList (Text.unifyNewlines own.toList)) := rfl
  rw [Reading.ofSource, if_neg (by decide), Reading.ofFile, htext]
  simp only [Reading.ofText, h]

/-- The user's own list holds nothing but a number that is too long: the run ends, though the
standard list can be used. -/
theorem buildRegistry_overlong :
    buildRegistry (.withOwn (String.ofList (List.replicate 4301 '1'))) {} (.file "default.json")
        (some "own.json") defaultTimeout = .error (.integer (.tooManyDigits 4301))
      ∧ (buildRegistry (.withOwn (String.ofList (List.replicate 4301 '1'))) {}
          (.file "default.json") none defaultTimeout).map (·.registry)
        = .ok (.ok { sources := ["default.json"] }) := by
  have hparse : Json.parse (String.ofList (Text.unifyNewlines
      (String.ofList (List.replicate 4301 '1')).toList))
        = .error (.integer (.tooManyDigits 4301)) := by
    have hplain : '\r' ∉ List.replicate 4301 '1' := fun h => by
      cases List.eq_of_mem_replicate h
    rw [String.toList_ofList, Text.unifyNewlines_of_not_mem hplain]
    exact Json.parse_replicate (by decide)
  have hown := ofSource_withOwn hparse
  -- What the text is does not matter any more; written out it would be unfolded below.
  generalize String.ofList (List.replicate 4301 '1') = own at hown ⊢
  have hbase : (StandardSource.file "default.json").read (.withOwn own)
      = .ok (Reading.ofDocument "default.json" (.map [])) := rfl
  exact ⟨buildRegistry_of_aborted _ hbase rfl rfl hown, buildRegistry_of_alone _ _ hbase rfl rfl⟩

end BannedApi
