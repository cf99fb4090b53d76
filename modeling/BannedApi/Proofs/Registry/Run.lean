import BannedApi.Proofs.OrderedMap
import BannedApi.Registry.Load

/-!
Runs of a loader: what is left of all the ban lists that were loaded one after the other.

A section is used as a whole or not at all: `bans?` and `ownerBans?` say what a section states when
it is well formed. What a step gives to a section is put behind what the steps before it gave, so
after a run each name has the reason of the last step that names it and the place where it first
came (`build_run`). For methods the names are those of the owners, and a later step replaces all
methods of an owner.
-/
namespace BannedApi

/-! ### Well-formed sections -/

namespace Reading

/-- The name and the reason of an entry, if the reason is a text. -/
def reason? (e : String × Value) : Option (String × String) := e.2.text?.map (e.1, ·)

/-- The bans of a section of classes or packages, if it is a mapping and all its reasons are texts.
Entries without a name are left out. -/
def bans? (v : Value) : Option (List (String × String)) :=
  v.fields?.bind fun fields => (fields.mapM reason?).map (·.filter (·.1 ≠ ""))

/-- The table of an owner of methods, if the bans of the owner are well formed. -/
def ownerTable? (e : String × Value) : Option (String × BanTable) :=
  (bans? e.2).map fun names => (e.1, OrderedMap.ofList names)

/-- The owners of a section of methods with their tables, if it is a mapping and all are well
formed. -/
def ownerBans? (v : Value) : Option (List (String × BanTable)) :=
  v.fields?.bind fun fields => fields.mapM ownerTable?

theorem mapM_cons_of_some {α β : Type} {f : α → Option β} {x : α} {y : β} (h : f x = some y)
    (xs : List α) : (x :: xs).mapM f = (xs.mapM f).map (y :: ·) := by
  rw [List.mapM_cons, h]
  cases xs.mapM f with
  | none => rfl
  | some ys => rfl

theorem mapM_cons_of_none {α β : Type} {f : α → Option β} {x : α} (h : f x = none) (xs : List α) :
    (x :: xs).mapM f = none := by
  rw [List.mapM_cons, h]
  rfl

theorem reason?_eq_none {key : String} {v : Value} (h : ∀ s, v ≠ .text s) :
    reason? (key, v) = none := by
  unfold reason?
  rw [Option.map_eq_none_iff]
  unfold Value.text?
  split
  · next s hs => exact absurd hs (h s)
  · rfl

/-- A table is the map of its bans, put behind those that were there before. -/
theorem readTableFrom_eq (given : List (String × String)) (skipped : Nat)
    (fields : List (String × Value)) :
    (readTableFrom (.ofList given) skipped fields).table.toOption
      = (fields.mapM reason?).map fun more =>
          OrderedMap.ofList (given ++ more.filter (·.1 ≠ "")) := by
  induction fields generalizing given skipped with
  | nil =>
    rw [List.mapM_nil]
    simp [readTableFrom, Except.toOption]
  | cons e rest ih =>
    obtain ⟨name, v⟩ := e
    unfold readTableFrom
    split
    · next heq => cases heq
    · next reason _ heq =>
      cases heq
      have hreason : reason? (name, .text reason) = some (name, reason) := rfl
      rw [mapM_cons_of_some hreason, Option.map_map]
      by_cases hname : name = ""
      · rw [if_pos (by simpa using hname), ih]
        refine congrArg (Option.map · _) (funext fun more => ?_)
        rw [Function.comp_apply, List.filter_cons_of_neg (by simpa using hname)]
      · have hinsert := OrderedMap.ofList_concat given (name, reason)
        rw [if_neg (by simpa using hname), ← hinsert, ih]
        refine congrArg (Option.map · _) (funext fun more => ?_)
        rw [Function.comp_apply, List.filter_cons_of_pos (by simpa using hname), List.append_assoc,
          List.singleton_append]
    · next hne heq =>
      cases heq
      rw [mapM_cons_of_none (reason?_eq_none fun s hs => hne s hs)]
      rfl

theorem readTable_eq (v : Value) :
    (readTable v).table.toOption = (bans? v).map OrderedMap.ofList := by
  unfold readTable bans?
  cases v.fields? with
  | none => rfl
  | some fields =>
    rw [Option.bind_some, Option.map_map]
    exact readTableFrom_eq [] 0 fields

/-- The owners are the map of their tables, put behind those that were there before. -/
theorem readOwnersFrom_eq (given : List (String × BanTable)) (skipped : Nat)
    (fields : List (String × Value)) :
    (readOwnersFrom (.ofList given) skipped fields).table.toOption
      = (fields.mapM ownerTable?).map fun more => OrderedMap.ofList (given ++ more) := by
  induction fields generalizing given skipped with
  | nil =>
    rw [List.mapM_nil]
    simp [readOwnersFrom, Except.toOption]
  | cons e rest ih =>
    obtain ⟨owner, names⟩ := e
    have htable := readTable_eq names
    rw [readOwnersFrom]
    cases hread : (readTable names).table with
    | error problem =>
      rw [hread] at htable
      have hnone : bans? names = none := Option.map_eq_none_iff.1 htable.symm
      rw [mapM_cons_of_none (by rw [ownerTable?, hnone]; rfl)]
      rfl
    | ok table =>
      rw [hread] at htable
      obtain ⟨bans, hbans, htable⟩ := Option.map_eq_some_iff.1 htable.symm
      have howner : ownerTable? (owner, names) = some (owner, table) := by
        rw [ownerTable?, hbans, Option.map_some, htable]
      have hinsert := OrderedMap.ofList_concat given (owner, table)
      rw [mapM_cons_of_some howner, Option.map_map]
      simp only
      rw [← hinsert, ih]
      refine congrArg (Option.map · _) (funext fun more => ?_)
      rw [Function.comp_apply, List.append_assoc, List.singleton_append]

theorem readOwners_eq (v : Value) :
    (readOwners v).table.toOption = (ownerBans? v).map OrderedMap.ofList := by
  unfold readOwners ownerBans?
  cases v.fields? with
  | none => rfl
  | some fields =>
    rw [Option.bind_some]
    exact readOwnersFrom_eq [] 0 fields

/-- The bans of a section of a document; a section that is missing or malformed has none. -/
def bansOf {α : Type} (read? : Value → Option (List (String × α))) (part : Section)
    (document : Option Value) : List (String × α) :=
  (document.bind fun d => (d.field? part.name).bind read?).getD []

end Reading

/-! ### Steps of a loader -/

/-- One load. Files and addresses may have changed since the step before. -/
inductive LoadStep where
  | document (label : String) (document : Value)
  | text (label text : String)
  | file (store : Store) (path : String)
  | url (web : Web) (url : String)
  | source (store : Store) (web : Web) (source : String)

namespace LoadStep

/-- What is read in a step. -/
def reading : LoadStep → Except Abort Reading
  | .document label d => .ok (Reading.ofDocument label d)
  | .text label t => Reading.ofText label t
  | .file store path => Reading.ofFile store path
  | .url web address => Reading.ofUrl web address
  | .source store web name => Reading.ofSource store web name

/-- The document of a JSON text, if it is one. -/
def parsed? (text : String) : Option Value := (Json.parse text).toOption

/-- The document in a file, if it can be read. -/
def inFile? (store : Store) (path : String) : Option Value :=
  (store.readText path).toOption.bind parsed?

/-- The document at an address, if it can be fetched and read. -/
def atUrl? (web : Web) (url : String) : Option Value := (web.get url).toOption.bind parsed?

/-- The document of a step; a load that fails has none. -/
def document? : LoadStep → Option Value
  | .document _ d => some d
  | .text _ t => parsed? t
  | .file store path => inFile? store path
  | .url web address => atUrl? web address
  | .source store web name => if Web.isUrl name then atUrl? web name else inFile? store name

/-- The bans that a step gives to the classes or to the packages. -/
def bans (part : Section) (s : LoadStep) : List (String × String) :=
  Reading.bansOf Reading.bans? part s.document?

/-- The owners whose methods a step bans, with the table of each. -/
def owners (s : LoadStep) : List (String × BanTable) :=
  Reading.bansOf Reading.ownerBans? .methods s.document?

end LoadStep

namespace Loader

/-- Make one load; one that ends with a fault leaves the loader as it is. -/
def take (l : Loader) (s : LoadStep) : Loader :=
  match s.reading with
  | .ok reading => l.merge reading
  | .error _ => l

/-- Make loads one after the other. -/
def run (steps : List LoadStep) : Loader := steps.foldl take {}

end Loader

/-! ### What a step says -/

namespace Reading

/-- The tables of a reading are those of a document, with nothing for a section that is left out. -/
structure Says (r : Reading) (document : Option Value) : Prop where
  classes : r.classes.getD .empty = .ofList (bansOf bans? .classes document)
  packages : r.packages.getD .empty = .ofList (bansOf bans? .packages document)
  methods : r.methods.getD .empty = .ofList (bansOf ownerBans? .methods document)

/-- What a load reads is what its document says; without a reading there is no document. -/
def Reads (reading : Except Abort Reading) (document : Option Value) : Prop :=
  match reading with
  | .ok r => r.Says document
  | .error _ => document = none

theorem says_refused (source error warning : String) : (refused source error warning).Says none :=
  ⟨rfl, rfl, rfl⟩

theorem usable_sectionOf {α : Type} {read : Value → SectionReading (OrderedMap α)}
    {read? : Value → Option (List (String × α))}
    (hread : ∀ v, (read v).table.toOption = (read? v).map OrderedMap.ofList) (part : Section)
    (d : Value) :
    (usable (sectionOf read part d)).getD .empty = .ofList (bansOf read? part (some d)) := by
  rw [usable, sectionOf, bansOf, Option.bind_some]
  cases d.field? part.name with
  | none => rfl
  | some v =>
    rw [Option.map_some, Option.bind_some, Option.bind_some, hread]
    cases read? v with
    | none => rfl
    | some bans => rfl

theorem says_ofDocument (label : String) (d : Value) : (ofDocument label d).Says (some d) := by
  unfold ofDocument
  cases hentries : d.entries? with
  | some entries =>
    exact ⟨usable_sectionOf readTable_eq .classes d, usable_sectionOf readTable_eq .packages d,
      usable_sectionOf readOwners_eq .methods d⟩
  | none =>
    -- what is no mapping has no sections
    have hfield : ∀ part : Section, d.field? part.name = none := fun part => by
      rw [Value.field?, hentries]
      rfl
    refine ⟨?_, ?_, ?_⟩ <;> rw [bansOf, Option.bind_some, hfield] <;> rfl

theorem reads_ofText (label text : String) :
    Reads (ofText label text) (LoadStep.parsed? text) := by
  unfold ofText LoadStep.parsed?
  split
  · next d hparse =>
    rw [hparse]
    exact says_ofDocument label d
  · next e hparse =>
    rw [hparse]
    exact says_refused _ _ _
  · next f hparse =>
    rw [hparse]
    rfl

theorem reads_ofFile (store : Store) (path : String) :
    Reads (ofFile store path) (LoadStep.inFile? store path) := by
  unfold ofFile LoadStep.inFile?
  split
  · next text hread =>
    rw [hread]
    exact reads_ofText path text
  · next hread =>
    rw [hread]
    rfl
  · next hread =>
    rw [hread]
    exact says_refused _ _ _
  · next hread =>
    rw [hread]
    exact says_refused _ _ _
  · next hread =>
    rw [hread]
    exact says_refused _ _ _

theorem reads_ofUrl (web : Web) (url : String) :
    Reads (ofUrl web url) (LoadStep.atUrl? web url) := by
  unfold ofUrl LoadStep.atUrl?
  cases web.get url with
  | error e => exact ⟨rfl, rfl, rfl⟩
  | ok text =>
    have htext := reads_ofText url text
    simp only
    cases hread : ofText url text with
    | error a =>
      rw [hread] at htext
      exact htext
    | ok r =>
      rw [hread] at htext
      exact ⟨htext.classes, htext.packages, htext.methods⟩

theorem reads_ofSource (store : Store) (web : Web) (source : String) :
    Reads (ofSource store web source)
      (if Web.isUrl source then LoadStep.atUrl? web source else LoadStep.inFile? store source) := by
  unfold ofSource
  split
  · exact reads_ofUrl web source
  · exact reads_ofFile store source

end Reading

theorem LoadStep.reads_reading (s : LoadStep) : Reading.Reads s.reading s.document? := by
  cases s with
  | document label d => exact Reading.says_ofDocument label d
  | text label t => exact Reading.reads_ofText label t
  | file store path => exact Reading.reads_ofFile store path
  | url web address => exact Reading.reads_ofUrl web address
  | source store web name => exact Reading.reads_ofSource store web name

/-! ### Steps and runs -/

namespace Loader

/-- Merging a table, or none, puts its entries behind those that were there. -/
theorem merged_eq {α : Type} {m : OrderedMap α} {table : Option (OrderedMap α)}
    {given more : List (String × α)} (hm : m = .ofList given)
    (htable : table.getD .empty = .ofList more) :
    (table.map m.union).getD m = .ofList (given ++ more) := by
  rw [← OrderedMap.union_ofList, ← htable, ← hm]
  cases table with
  | none => rfl
  | some n => rfl

/-- The three tables hold what was given to them, put one after the other. -/
structure Holds (l : Loader) (classes packages : List (String × String))
    (owners : List (String × BanTable)) : Prop where
  classes : l.classes = .ofList classes
  packages : l.packages = .ofList packages
  methods : l.methods = .ofList owners

/-- A step puts what it gives behind what was there. -/
theorem Holds.take {l : Loader} {classes packages : List (String × String)}
    {owners : List (String × BanTable)} (h : l.Holds classes packages owners) (s : LoadStep) :
    (l.take s).Holds (classes ++ s.bans .classes) (packages ++ s.bans .packages)
      (owners ++ s.owners) := by
  have hreads := s.reads_reading
  cases hreading : s.reading with
  | ok reading =>
    have htake : l.take s = l.merge reading := by rw [Loader.take, hreading]
    rw [hreading] at hreads
    rw [htake]
    exact ⟨merged_eq h.classes hreads.classes, merged_eq h.packages hreads.packages,
      merged_eq h.methods hreads.methods⟩
  | error a =>
    have htake : l.take s = l := by rw [Loader.take, hreading]
    rw [hreading] at hreads
    have hnone : s.document? = none := hreads
    rw [htake]
    simp only [LoadStep.bans, LoadStep.owners, hnone, Reading.bansOf, Option.bind_none,
      Option.getD_none, List.append_nil]
    exact h

/-- After a run the tables hold what all its steps gave, in their order. -/
theorem holds_run (steps : List LoadStep) :
    (run steps).Holds (steps.flatMap (·.bans .classes)) (steps.flatMap (·.bans .packages))
      (steps.flatMap (·.owners)) := by
  induction steps using List.reverseRecOn with
  | nil => exact ⟨rfl, rfl, rfl⟩
  | append_singleton steps s ih =>
    have hrun : run (steps ++ [s]) = (run steps).take s := by
      rw [run, List.foldl_append]
      rfl
    rw [hrun, List.flatMap_append, List.flatMap_append, List.flatMap_append, List.flatMap_singleton,
      List.flatMap_singleton, List.flatMap_singleton]
    exact ih.take s

end Loader

open OrderedMap (lastOf)

theorem stated_text (reason : Option String) :
    Registry.stated (reason.map .text) = reason.map .text := by
  cases reason with
  | none => rfl
  | some s => rfl

/-- The last step that names something decides about it. After any run of a loader a class or
package has the reason of the last step that gives it one, and an owner of methods has the whole
table of the last step that names it; the names stand in the order in which they first came. A load
that fails and a section that is missing or malformed give nothing. -/
theorem Loader.build_run (steps : List LoadStep) :
    (∀ key, (run steps).build.classBan key
        = (steps.reverse.findSome? fun s => lastOf key (s.bans .classes)).map .text)
      ∧ (∀ key, (run steps).build.packageBan key
        = (steps.reverse.findSome? fun s => lastOf key (s.bans .packages)).map .text)
      ∧ (∀ owner, (run steps).build.methods.get? owner
        = (steps.reverse.findSome? fun s => lastOf owner s.owners).map fun table => table.map .text)
      ∧ (run steps).build.classes.keys
        = (steps.flatMap fun s => (s.bans .classes).map (·.1)).eraseDups
      ∧ (run steps).build.packages.keys
        = (steps.flatMap fun s => (s.bans .packages).map (·.1)).eraseDups
      ∧ (run steps).build.methods.keys
        = (steps.flatMap fun s => s.owners.map (·.1)).eraseDups := by
  obtain ⟨hclasses, hpackages, hmethods⟩ := holds_run steps
  refine ⟨fun key => ?_, fun key => ?_, fun owner => ?_, ?_, ?_, ?_⟩
  · rw [Registry.classBan, build, OrderedMap.get?_map, stated_text, hclasses,
      OrderedMap.get?_ofList, OrderedMap.lastOf_flatMap]
  · rw [Registry.packageBan, build, OrderedMap.get?_map, stated_text, hpackages,
      OrderedMap.get?_ofList, OrderedMap.lastOf_flatMap]
  · rw [build, OrderedMap.get?_map, hmethods, OrderedMap.get?_ofList, OrderedMap.lastOf_flatMap]
  · rw [build, OrderedMap.keys_map, hclasses, OrderedMap.keys_ofList, List.map_flatMap]
  · rw [build, OrderedMap.keys_map, hpackages, OrderedMap.keys_ofList, List.map_flatMap]
  · rw [build, OrderedMap.keys_map, hmethods, OrderedMap.keys_ofList, List.map_flatMap]

-- the second list has a reason that is no text among its classes, so only its packages count
example :
    let l := Loader.run
      [.document "first" (.object [("classes", .object [("A", .text "x")])]),
        .document "second" (.object [("classes", .object [("A", .text "y"), ("B", .int 1)]),
          ("packages", .object [("p", .text "z")])])]
    l.build.classBan "A" = some (.text "x") ∧ l.build.packageBan "p" = some (.text "z") :=
  ⟨rfl, rfl⟩

end BannedApi
