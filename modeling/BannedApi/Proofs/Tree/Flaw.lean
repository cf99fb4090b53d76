import BannedApi.Proofs.Tree.Acceptance
import BannedApi.Proofs.Tree.Path

/-!
What can be wrong at a place in a tree.

`Reached` says how a way leads through a document: into the parts that are walked, and to the
entries of a mapping that are only looked at from there. `Flaw` says what can be wrong with a value
at the end of such a way, and speaks of this value and its own fields alone. What cannot be read has
a flaw or is not written out (`Stops`), and a walked value with a flaw is not well formed
(`Flaw.not_wellFormed`).
-/
namespace BannedApi.Tree

open Value (isNull_iff)
open Outcome (bind_eq_error)

/-! ### What is read -/

/-- How a value of a tree is read: as a part that is walked, or as an entry that is looked at. -/
inductive Use where
  | walked (role : Role)
  | imported
  | argument
  | declaredParameter
  | note
  deriving DecidableEq, Repr

/-- What a walked mapping is. -/
inductive Shape where
  | unit
  | declaration (form : Form)
  | expression (kind : Option String)
  /-- A construction with a body, which is that of a class without a name. -/
  | anonymous
  deriving DecidableEq, Repr

/-- A parameter of a method is a variable whatever its kind; else the kind tells. -/
inductive Shaped : Role → Value → Shape → Prop
  | unit {v : Value} : Shaped .unit v .unit
  | parameter {v : Value} : Shaped .parameter v (.declaration .variableLike)
  | declaration {v : Value} {kind : String} {form : Form} (hkind : StatesKind v (some kind))
      (hform : kind ∈ form.kinds) : Shaped .statement v (.declaration form)
  | expression {v : Value} {kind : Option String} (hkind : StatesKind v kind)
      (hform : NoDeclaration kind) : Shaped .statement v (.expression kind)
  | anonymous {v : Value} {body : List Value} (hkind : StatesKind v (some "new"))
      (hlist : v.Lists "body" body) (hbody : body ≠ []) : Shaped .statement v .anonymous

namespace Shape

/-- The fields that must hold lists. -/
def listKeys : Shape → List String
  | .unit => ["imports", "declarations"]
  | .declaration .classLike => ["annotations", "members"]
  | .declaration .methodLike => ["annotations", "parameters", "body"]
  | .declaration .variableLike => ["annotations"]
  | .expression kind =>
    if kind = some "call" then ["arguments"]
    else if kind = some "new" then ["arguments", "body"]
    else []
  | .anonymous => ["annotations"]

/-- The ways that are read from a mapping of the shape. -/
inductive Reads : Shape → List Segment → Use → Prop
  | imports (i : Nat) : Reads .unit [.item "imports" i] .imported
  | declarations (i : Nat) : Reads .unit [.item "declarations" i] (.walked .statement)
  | annotations (form : Form) (i : Nat) :
      Reads (.declaration form) [.item "annotations" i] .note
  | members (i : Nat) :
      Reads (.declaration .classLike) [.item "members" i] (.walked .statement)
  | parameters (i : Nat) :
      Reads (.declaration .methodLike) [.item "parameters" i] (.walked .parameter)
  | body (i : Nat) : Reads (.declaration .methodLike) [.item "body" i] (.walked .statement)
  | initializer :
      Reads (.declaration .variableLike) [.field "initializer"] (.walked .statement)
  | receiver : Reads (.expression (some "call")) [.field "receiver"] (.walked .statement)
  | argument (i : Nat) : Reads (.expression (some "call")) [.item "arguments" i] .argument
  | passed {kind : String} (hkind : kind = "call" ∨ kind = "new") (i : Nat) :
      Reads (.expression (some kind)) [.item "arguments" i] (.walked .statement)
  | constructed (i : Nat) :
      Reads (.expression (some "new")) [.field "constructor", .item "parameters" i]
        .declaredParameter
  | anonymousBody (i : Nat) : Reads .anonymous [.item "body" i] (.walked .statement)
  | anonymousAnnotations (i : Nat) : Reads .anonymous [.item "annotations" i] .note
  | part {kind : Option String} {s : Segment} (hcall : kind ≠ some "call")
      (hnew : kind ≠ some "new") (hkey : s.key ∈ partKeys) :
      Reads (.expression kind) [s] (.walked .statement)

end Shape

/-- The ways that are read in a document, with the values they lead to. -/
inductive Reached (document : Value) : List Segment → Use → Value → Prop
  | unit {units : List Value} {index : Nat} {v : Value}
      (hunits : (document.field "compilation_units").items? = some units)
      (hv : units[index]? = some v) :
      Reached document [.item "compilation_units" index] (.walked .unit) v
  | part {way more : List Segment} {role : Role} {use : Use} {shape : Shape} {v w : Value}
      (h : Reached document way (.walked role) v) (hmap : v.kind = .map)
      (hshape : Shaped role v shape) (hreads : shape.Reads more use) (hw : at? more v = some w) :
      Reached document (way ++ more) use w

/-! ### What can be wrong -/

/-- A symbol that is there, but is no mapping with a name. -/
inductive BadSymbol (v : Value) : Problem → Prop
  | notMapping (hnull : v ≠ .null) (h : v.kind ≠ .map) : BadSymbol v (.notMapping v.kind)
  | unnamed (hmap : v.kind = .map) (h : ¬ Named v) : BadSymbol v .symbolWithoutName

/-- The field that has the symbol of an argument: its own, or that of the call or construction it
is. -/
inductive Refers (v : Value) : String → Prop
  | symbol (h : v.field "symbol" ≠ .null) : Refers v "symbol"
  | method (hnull : v.field "symbol" = .null) (hkind : StatesKind v (some "call")) :
      Refers v "method"
  | construction (hnull : v.field "symbol" = .null) (hkind : StatesKind v (some "new")) :
      Refers v "constructor"

/-- What is wrong with a value that is read in some way, in its own fields. -/
inductive Flaw : Use → Value → Problem → Prop
  | notMapping {use : Use} {v : Value} (huse : use ≠ .note) (h : v.kind ≠ .map) :
      Flaw use v (.notMapping v.kind)
  | note {v : Value} (h : ∀ s, v ≠ .text s) : Flaw .note v (.annotationNotText v.kind)
  | importName {v : Value} (hmap : v.kind = .map) (h : ¬ Named v) :
      Flaw .imported v .importWithoutName
  | kind {use : Use} {v : Value} (huse : use = .walked .statement ∨ use = .argument)
      (hmap : v.kind = .map) (h : ∀ kind, ¬ StatesKind v kind) :
      Flaw use v (.kindNotText (v.field "kind").kind)
  | name {role : Role} {v : Value} {form : Form} (hmap : v.kind = .map)
      (hshape : Shaped role v (.declaration form)) (htruthy : (v.field "name").truthy = true)
      (h : ∀ s, v.field "name" ≠ .text s) :
      Flaw (.walked role) v (.nameNotText (v.field "name").kind)
  | list {role : Role} {v : Value} {shape : Shape} {key : String} (hmap : v.kind = .map)
      (hshape : Shaped role v shape) (hkey : key ∈ shape.listKeys) (h : ∀ xs, ¬ v.Lists key xs) :
      Flaw (.walked role) v (.notList key)
  | method {role : Role} {v : Value} {p : Problem} (hmap : v.kind = .map)
      (hshape : Shaped role v (.expression (some "call"))) (h : BadSymbol (v.field "method") p) :
      Flaw (.walked role) v p
  | construction {role : Role} {v : Value} {p : Problem} (hmap : v.kind = .map)
      (hshape : Shaped role v (.expression (some "new")))
      (h : BadSymbol (v.field "constructor") p) : Flaw (.walked role) v p
  | parameters {role : Role} {v : Value} (hmap : v.kind = .map)
      (hshape : Shaped role v (.expression (some "new")))
      (h : ∀ ps, ¬ (v.field "constructor").Lists "parameters" ps) :
      Flaw (.walked role) v (.notList "parameters")
  | argument {v : Value} {key : String} {p : Problem} (hmap : v.kind = .map) (hkey : Refers v key)
      (h : BadSymbol (v.field key) p) : Flaw .argument v p

/-- Why reading stops at a value: it has a flaw, or it or a symbol in it is not written out. -/
inductive Stops (use : Use) (v : Value) : Problem → Prop
  | flaw {p : Problem} (h : Flaw use v p) : Stops use v p
  | here (h : v.kind = .unwritten) : Stops use v .endless
  | symbol {key : String} (h : (v.field key).kind = .unwritten) : Stops use v .endless

theorem Stops.flaw_of_ne {use : Use} {v : Value} {p : Problem} (h : Stops use v p)
    (hp : p ≠ .endless) : Flaw use v p := by
  cases h with
  | flaw hflaw => exact hflaw
  | here hend => exact absurd rfl hp
  | symbol hend => exact absurd rfl hp

/-! ### What cannot be read -/

theorem mapping_eq_error {v : Value} {p : Problem} (h : mapping v = .error p) :
    (v.kind ≠ .map ∧ p = .notMapping v.kind) ∨ (v.kind = .unwritten ∧ p = .endless) := by
  have hmap : v.kind ≠ .map := fun hmap => by cases h.symm.trans (mapping_eq_ok hmap)
  unfold mapping at h
  split at h
  · cases h
  · split at h
    · next hend =>
      cases h
      exact .inr ⟨hend, rfl⟩
    · cases h
      exact .inl ⟨hmap, rfl⟩

theorem stops_of_mapping {use : Use} {v : Value} {p : Problem} (huse : use ≠ .note)
    (h : mapping v = .error p) : Stops use v p := by
  rcases mapping_eq_error h with ⟨hmap, rfl⟩ | ⟨hend, rfl⟩
  · exact .flaw (.notMapping huse hmap)
  · exact .here hend

theorem listOf_eq_error {key : String} {v : Value} {p : Problem} (h : listOf key v = .error p) :
    p = .notList key ∧ ∀ xs, ¬ v.Lists key xs := by
  refine ⟨?_, fun xs hxs => ?_⟩
  · unfold listOf at h
    split at h
    · cases h
    · split at h
      · cases h
      · cases h
        rfl
  · cases h.symm.trans (listOf_eq_ok_iff.2 hxs)

theorem kindOf_eq_error {v : Value} {p : Problem} (h : kindOf v = .error p) :
    p = .kindNotText (v.field "kind").kind ∧ ∀ kind, ¬ StatesKind v kind := by
  refine ⟨?_, fun kind hkind => ?_⟩
  · unfold kindOf at h
    split at h
    · cases h
    · cases h
    · cases h
      rfl
  · cases h.symm.trans (kindOf_eq_ok_iff.2 hkind)

theorem nameOr_eq_error {problem p : Problem} {v : Value} (h : nameOr problem v = .error p) :
    p = problem ∧ ¬ Named v := by
  refine ⟨?_, fun hnamed => ?_⟩
  · unfold nameOr at h
    split at h
    · split at h
      · cases h
        rfl
      · cases h
    · cases h
      rfl
  · obtain ⟨s, hs⟩ := (nameOr_isOk_iff problem v).2 hnamed.name
    cases h.symm.trans hs

theorem declarationName_eq_error {kind : String} {v : Value} {p : Problem}
    (h : declarationName kind v = .error p) :
    (v.field "name").truthy = true ∧ (∀ s, v.field "name" ≠ .text s)
      ∧ p = .nameNotText (v.field "name").kind := by
  simp only [declarationName] at h
  split at h
  · next htruthy =>
    split at h
    · cases h
    · next htext =>
      cases h
      exact ⟨htruthy, htext, rfl⟩
  · cases h

theorem symbolOf_eq_error {v : Value} {p : Problem} (h : symbolOf v = .error p) :
    BadSymbol v p ∨ (v.kind = .unwritten ∧ p = .endless) := by
  unfold symbolOf at h
  split at h
  · cases h
  · next hnull =>
    rcases bind_eq_error.1 h with hfault | ⟨w, hw, hrest⟩
    · rcases mapping_eq_error hfault with ⟨hmap, rfl⟩ | hend
      · exact .inl (.notMapping (fun heq => hnull (isNull_iff.2 heq)) hmap)
      · exact .inr hend
    · obtain ⟨hmap, rfl⟩ := mapping_eq_ok_iff.1 hw
      rcases bind_eq_error.1 hrest with hfault | ⟨name, -, hdone⟩
      · obtain ⟨rfl, hnamed⟩ := nameOr_eq_error hfault
        exact .inl (.unnamed hmap hnamed)
      · cases hdone

theorem importOf_eq_error {v : Value} {p : Problem} (h : importOf v = .error p) :
    Stops .imported v p := by
  rcases bind_eq_error.1 h with hfault | ⟨w, hw, hrest⟩
  · exact stops_of_mapping (by decide) hfault
  · obtain ⟨hmap, rfl⟩ := mapping_eq_ok_iff.1 hw
    rcases bind_eq_error.1 hrest with hfault | ⟨name, -, hdone⟩
    · obtain ⟨rfl, hnamed⟩ := nameOr_eq_error hfault
      exact .flaw (.importName hmap hnamed)
    · cases hdone

theorem parameterOf_eq_error {v : Value} {p : Problem} (h : parameterOf v = .error p) :
    Stops .declaredParameter v p := by
  rcases bind_eq_error.1 h with hfault | ⟨w, -, hdone⟩
  · exact stops_of_mapping (by decide) hfault
  · cases hdone

theorem argumentSymbol_eq_ok {v w : Value} (h : argumentSymbol v = .ok w) :
    w = .null ∨ ∃ key, Refers v key ∧ w = v.field key := by
  simp only [argumentSymbol] at h
  split at h
  · next hnull =>
    have hnull := isNull_iff.1 hnull
    obtain ⟨kind, hkind, rfl⟩ := Outcome.map_eq_ok.1 h
    have hkind := kindOf_eq_ok_iff.1 hkind
    split
    · next hcall =>
      subst hcall
      exact .inr ⟨"method", .method hnull hkind, rfl⟩
    · split
      · next hnew =>
        subst hnew
        exact .inr ⟨"constructor", .construction hnull hkind, rfl⟩
      · exact .inl rfl
  · next hnull =>
    cases h
    exact .inr ⟨"symbol", .symbol fun heq => hnull (isNull_iff.2 heq), rfl⟩

theorem argumentSymbol_eq_error {v : Value} {p : Problem} (h : argumentSymbol v = .error p) :
    kindOf v = .error p := by
  simp only [argumentSymbol] at h
  split at h
  · exact Outcome.map_eq_error.1 h
  · cases h

theorem argumentOf_eq_error {v : Value} {p : Problem} (h : argumentOf v = .error p) :
    Stops .argument v p := by
  rcases bind_eq_error.1 h with hfault | ⟨w, hw, hrest⟩
  · exact stops_of_mapping (by decide) hfault
  · obtain ⟨hmap, rfl⟩ := mapping_eq_ok_iff.1 hw
    rcases bind_eq_error.1 hrest with hfault | ⟨symbol, hsymbol, hlast⟩
    · obtain ⟨rfl, hkind⟩ := kindOf_eq_error (argumentSymbol_eq_error hfault)
      exact .flaw (.kind (.inr rfl) hmap hkind)
    · rcases bind_eq_error.1 hlast with hfault | ⟨found, -, hdone⟩
      · rcases argumentSymbol_eq_ok hsymbol with rfl | ⟨key, hkey, rfl⟩
        · cases hfault
        · rcases symbolOf_eq_error hfault with hbad | ⟨hend, rfl⟩
          · exact .flaw (.argument hmap hkey hbad)
          · exact .symbol hend
      · cases hdone

/-- The first item that cannot be read is named by its place. -/
theorem eachFrom_eq_error {α : Type} {read : Value → Except Problem α} {way : Nat → List Segment}
    {index : Nat} {xs : List Value} {m : Malformed} (h : eachFrom read way index xs = .error m) :
    ∃ i x p, xs[i]? = some x ∧ read x = .error p ∧ m = ⟨way (index + i), p⟩ := by
  induction xs generalizing index with
  | nil => cases h
  | cons x xs ih =>
    rw [eachFrom] at h
    split at h
    · next p hp =>
      cases h
      exact ⟨0, x, p, rfl, hp, rfl⟩
    · obtain ⟨i, y, p, hy, hp, rfl⟩ := ih (Outcome.map_eq_error.1 h)
      refine ⟨i + 1, y, p, hy, hp, ?_⟩
      rw [Nat.add_right_comm, Nat.add_assoc]

theorem each_eq_error {α : Type} {read : Value → Except Problem α} {way : Nat → List Segment}
    {key : String} {v : Value} {m : Malformed} (h : each read way key v = .error m) :
    (m = .here (.notList key) ∧ ∀ xs, ¬ v.Lists key xs)
      ∨ ∃ i x p, Segment.part? (.item key i) v = some x ∧ read x = .error p ∧ m = ⟨way i, p⟩ := by
  unfold each at h
  split at h
  · next hlist =>
    cases h
    obtain ⟨rfl, hnone⟩ := listOf_eq_error hlist
    exact .inl ⟨rfl, hnone⟩
  · next xs hlist =>
    obtain ⟨i, x, p, hx, hp, rfl⟩ := eachFrom_eq_error h
    rw [Nat.zero_add]
    exact .inr ⟨i, x, p, listOf_eq_ok hlist hx, hp, rfl⟩

theorem annotationsFrom_eq_error {index : Nat} {xs : List Value} {m : Malformed}
    (h : annotationsFrom index xs = .error m) :
    ∃ i x, xs[i]? = some x ∧ (∀ s, x ≠ .text s)
      ∧ m = ⟨[.item "annotations" (index + i)], .annotationNotText x.kind⟩ := by
  induction xs generalizing index with
  | nil => cases h
  | cons x xs ih =>
    rw [annotationsFrom.eq_def] at h
    split at h
    · next heq => cases heq
    · next heq =>
      cases heq
      obtain ⟨i, y, hy, htext, rfl⟩ := ih (Outcome.map_eq_error.1 h)
      refine ⟨i + 1, y, hy, htext, ?_⟩
      rw [Nat.add_right_comm, Nat.add_assoc]
    · next htext heq =>
      cases heq
      cases h
      exact ⟨0, x, rfl, htext, rfl⟩

theorem annotationsOf_eq_error {v : Value} {m : Malformed} (h : annotationsOf v = .error m) :
    (m = .here (.notList "annotations") ∧ ∀ xs, ¬ v.Lists "annotations" xs)
      ∨ ∃ i x, Segment.part? (.item "annotations" i) v = some x
        ∧ Flaw .note x (.annotationNotText x.kind)
        ∧ m = ⟨[.item "annotations" i], .annotationNotText x.kind⟩ := by
  unfold annotationsOf at h
  split at h
  · next hlist =>
    cases h
    obtain ⟨rfl, hnone⟩ := listOf_eq_error hlist
    exact .inl ⟨rfl, hnone⟩
  · next xs hlist =>
    obtain ⟨i, x, hx, htext, rfl⟩ := annotationsFrom_eq_error h
    rw [Nat.zero_add]
    exact .inr ⟨i, x, listOf_eq_ok hlist hx, .note htext, rfl⟩

/-! ### Flaws break the rules -/

theorem BadSymbol.not_mayName {v : Value} {key : String} {p : Problem}
    (h : BadSymbol (v.field key) p) : ¬ MayName v key := by
  rintro (hnull | hnamed)
  · cases h with
    | notMapping hne hmap => exact hne hnull
    | unnamed hmap hnamed =>
      rw [hnull] at hmap
      cases hmap
  · cases h with
    | notMapping hne hmap => exact hmap hnamed.isMap
    | unnamed hmap hnot => exact hnot hnamed

theorem WellFormed.declaration {role : Role} {v : Value} {form : Form} (h : WellFormed role v)
    (hshape : Shaped role v (.declaration form)) : Declaration form v := by
  cases hshape with
  | parameter => exact h.2
  | declaration hkind hform => exact Statement.declaration_of_kind h hkind hform

theorem WellFormed.expression {role : Role} {v : Value} {kind : Option String}
    (h : WellFormed role v) (hshape : Shaped role v (.expression kind)) : Expression kind v := by
  cases hshape with
  | expression hkind hform => exact Statement.expression_of_kind h hkind hform

/-- What a call must have. -/
theorem Expression.of_call {v : Value} (h : Expression (some "call") v) :
    MayName v "method" ∧ ∃ xs, v.Lists "arguments" xs := by
  cases h with
  | call hcall hmethod hreceiver hlist hsymbols harguments => exact ⟨hmethod, _, hlist⟩
  | construction hnew hconstructor hlist harguments hlist' hnotes hbody =>
    exact absurd hnew (by decide)
  | other hcall hnew hwritten hmaps hlists => exact absurd rfl hcall

/-- What a construction must have. -/
theorem Expression.of_new {v : Value} (h : Expression (some "new") v) :
    Constructible v ∧ (∃ xs, v.Lists "arguments" xs)
      ∧ ∃ body, v.Lists "body" body ∧ (body ≠ [] → Annotated v) := by
  cases h with
  | call hcall hmethod hreceiver hlist hsymbols harguments => exact absurd hcall (by decide)
  | construction hnew hconstructor hlist harguments hlist' hnotes hbody =>
    exact ⟨hconstructor, ⟨_, hlist⟩, _, hlist', hnotes⟩
  | other hcall hnew hwritten hmaps hlists => exact absurd rfl hnew

theorem Declaration.lists {form : Form} {v : Value} {key : String} (h : Declaration form v)
    (hkey : key ∈ (Shape.declaration form).listKeys) : ∃ xs, v.Lists key xs := by
  obtain ⟨notes, hnotes⟩ := h.header.annotations
  cases h with
  | classLike hhead hlist hmembers =>
    simp only [Shape.listKeys, List.mem_cons, List.not_mem_nil, or_false] at hkey
    rcases hkey with rfl | rfl
    · exact ⟨_, hnotes⟩
    · exact ⟨_, hlist⟩
  | methodLike hhead hlist hmaps hparameters hlist' hbody =>
    simp only [Shape.listKeys, List.mem_cons, List.not_mem_nil, or_false] at hkey
    rcases hkey with rfl | rfl | rfl
    · exact ⟨_, hnotes⟩
    · exact ⟨_, hlist⟩
    · exact ⟨_, hlist'⟩
  | variableLike hhead hinitializer =>
    simp only [Shape.listKeys, List.mem_cons, List.not_mem_nil, or_false] at hkey
    subst hkey
    exact ⟨_, hnotes⟩

/-- The list fields of a well-formed mapping hold lists. -/
theorem WellFormed.lists {role : Role} {v : Value} {shape : Shape} {key : String}
    (h : WellFormed role v) (hshape : Shaped role v shape) (hkey : key ∈ shape.listKeys) :
    ∃ xs, v.Lists key xs := by
  cases hshape with
  | unit =>
    have hunit : WellFormedUnit v := h
    simp only [Shape.listKeys, List.mem_cons, List.not_mem_nil, or_false] at hkey
    rcases hkey with rfl | rfl
    · exact hunit.imports.imp fun _ hxs => hxs.1
    · exact hunit.declarations.imp fun _ hxs => hxs.1
  | parameter => exact (h.declaration .parameter).lists hkey
  | declaration hkind hform => exact (h.declaration (.declaration hkind hform)).lists hkey
  | @expression _ kind hkind hform =>
    have hexpression := h.expression (.expression hkind hform)
    simp only [Shape.listKeys] at hkey
    split at hkey
    · next hcall =>
      subst hcall
      rw [List.mem_singleton.1 hkey]
      exact hexpression.of_call.2
    · split at hkey
      · next hnew =>
        subst hnew
        simp only [List.mem_cons, List.not_mem_nil, or_false] at hkey
        rcases hkey with rfl | rfl
        · exact hexpression.of_new.2.1
        · exact hexpression.of_new.2.2.imp fun _ hbody => hbody.1
      · cases hkey
  | anonymous hkind hlist hbody =>
    obtain ⟨-, -, body, hlist', hnotes⟩ :=
      (h.expression (.expression hkind noDeclaration_new)).of_new
    -- the body is one list, so it is not empty here
    cases (listOf_eq_ok_iff.2 hlist).symm.trans (listOf_eq_ok_iff.2 hlist')
    obtain ⟨notes, hnotes⟩ := hnotes hbody
    rw [List.mem_singleton.1 hkey]
    exact ⟨_, hnotes⟩

/-- A walked value with a flaw is not well formed. -/
theorem Flaw.not_wellFormed {role : Role} {v : Value} {p : Problem}
    (hflaw : Flaw (.walked role) v p) : ¬ WellFormed role v := by
  intro h
  cases hflaw with
  | notMapping huse hmap => exact hmap h.isMap
  | kind huse hmap hkind =>
    rcases huse with huse | huse
    · cases huse
      obtain ⟨kind, hstated⟩ := Statement.exists_kind h
      exact hkind kind hstated
    · cases huse
  | name hmap hshape htruthy htext =>
    rcases (h.declaration hshape).header.name with hfalse | ⟨s, hs⟩
    · rw [htruthy] at hfalse
      cases hfalse
    · exact htext s hs
  | list hmap hshape hkey hnone =>
    obtain ⟨xs, hxs⟩ := h.lists hshape hkey
    exact hnone xs hxs
  | method hmap hshape hbad => exact hbad.not_mayName (h.expression hshape).of_call.1
  | construction hmap hshape hbad => exact hbad.not_mayName (h.expression hshape).of_new.1.symbol
  | parameters hmap hshape hnone =>
    obtain ⟨ps, hps, -⟩ := (h.expression hshape).of_new.1.parameters
    exact hnone ps hps

end BannedApi.Tree
