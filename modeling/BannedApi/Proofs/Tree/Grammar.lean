import BannedApi.Proofs.Outcome
import BannedApi.Proofs.Tree.Change

/-!
The grammar of trees.

`WellFormedUnit`, `Statement`, `Declaration` and `Expression` are its rules. Each says what the
fields of a mapping must hold, and what the parts of the mapping must be in turn. The lemmas after
the rules say of each thing that is read at a mapping without going further down when it can be
read: a list, a name, a symbol, what a call or a construction states.
-/
namespace BannedApi

namespace Value

theorem isSome_items? : ∀ v : Value, v.items?.isSome = true ↔ v.kind = .list
  | .scalar s => by cases s <;> simp [items?, kind, Scalar.kind] <;> split <;> simp
  | .list _ => by simp [items?, kind]
  | .map _ => by simp [items?, kind]
  | .tuple _ => by simp [items?, kind]
  | .set _ => by simp [items?, kind]
  | .knot _ v => by rw [items?, kind]; exact isSome_items? v
  | .unwritten => by simp [items?, kind]

/-- The items of a list field; a field that is missing or null has none. -/
def Lists (v : Value) (key : String) (xs : List Value) : Prop :=
  (v.field key = .null ∧ xs = []) ∨ (v.field key).items? = some xs

end Value

namespace Tree

open Value (isNull_iff)
open Outcome (bind_eq_ok exists_bind_eq_ok pure_eq_ok map_eq_ok mapError_eq_ok)

/-! ### The rules -/

/-- The kinds of the declarations of each form. -/
def Form.kinds : Form → List String
  | .classLike => ["class", "interface", "enum", "record", "annotation_type"]
  | .methodLike => ["method", "constructor"]
  | .variableLike => ["variable", "field", "local", "parameter"]

/-- The kind that a mapping states; one that is missing or null is none. -/
def StatesKind (v : Value) : Option String → Prop
  | none => v.field "kind" = .null
  | some kind => v.field "kind" = .text kind

/-- The kind belongs to no declaration. -/
def NoDeclaration (kind : Option String) : Prop := ∀ form : Form, ∀ k ∈ form.kinds, kind ≠ some k

/-- A mapping with a name that is a text and not empty. -/
structure Named (v : Value) : Prop where
  isMap : v.kind = .map
  name : ∃ s, v.field "name" = .text s ∧ s ≠ ""

/-- A field that is missing or null, or holds a symbol. -/
def MayName (v : Value) (key : String) : Prop := v.field key = .null ∨ Named (v.field key)

/-- The annotations are texts. -/
def Annotated (v : Value) : Prop := ∃ notes : List String, v.Lists "annotations" (notes.map .text)

/-- What every declaration has: a name that is a text or fails as a condition, and annotations. -/
structure Header (v : Value) : Prop where
  name : (v.field "name").truthy = false ∨ ∃ s, v.field "name" = .text s
  annotations : Annotated v

/-- A constructor that is missing or null, or a symbol whose parameters are mappings. -/
structure Constructible (v : Value) : Prop where
  symbol : MayName v "constructor"
  parameters : ∃ ps, (v.field "constructor").Lists "parameters" ps ∧ ∀ p ∈ ps, p.kind = .map

mutual

/-- A statement is a declaration if its kind is one of declarations, and else an expression. Where
an expression is asked for (an initializer, a receiver) a declaration may stand as well, as lambda
parameters and local classes do. -/
inductive Statement : Value → Prop
  | declaration {v : Value} {kind : String} {form : Form} (hmap : v.kind = .map)
      (hkind : StatesKind v (some kind)) (hform : kind ∈ form.kinds) (h : Declaration form v) :
      Statement v
  | expression {v : Value} {kind : Option String} (hmap : v.kind = .map)
      (hkind : StatesKind v kind) (hform : NoDeclaration kind) (h : Expression kind v) : Statement v

/-- The declarations of each form. A parameter of a method is a variable whatever its kind. -/
inductive Declaration : Form → Value → Prop
  | classLike {v : Value} {members : List Value} (hhead : Header v)
      (hlist : v.Lists "members" members) (hmembers : ∀ x ∈ members, Statement x) :
      Declaration .classLike v
  | methodLike {v : Value} {parameters body : List Value} (hhead : Header v)
      (hlist : v.Lists "parameters" parameters) (hmaps : ∀ p ∈ parameters, p.kind = .map)
      (hparameters : ∀ p ∈ parameters, Declaration .variableLike p)
      (hlist' : v.Lists "body" body) (hbody : ∀ x ∈ body, Statement x) : Declaration .methodLike v
  | variableLike {v : Value} (hhead : Header v)
      (hinitializer : v.field "initializer" ≠ .null → Statement (v.field "initializer")) :
      Declaration .variableLike v

/-- The expressions of a kind. The arguments of a call may name symbols; the annotations of a
construction count only if it has a body; of any other expression a field that is neither a mapping
nor a list is not looked at, and a mapping must be written out. -/
inductive Expression : Option String → Value → Prop
  | call {v : Value} {kind : Option String} {arguments : List Value} (hcall : kind = some "call")
      (hmethod : MayName v "method")
      (hreceiver : v.field "receiver" ≠ .null → Statement (v.field "receiver"))
      (hlist : v.Lists "arguments" arguments) (hsymbols : ∀ a ∈ arguments, MayName a "symbol")
      (harguments : ∀ a ∈ arguments, Statement a) : Expression kind v
  | construction {v : Value} {kind : Option String} {arguments body : List Value}
      (hnew : kind = some "new") (hconstructor : Constructible v)
      (hlist : v.Lists "arguments" arguments) (harguments : ∀ a ∈ arguments, Statement a)
      (hlist' : v.Lists "body" body) (hnotes : body ≠ [] → Annotated v)
      (hbody : ∀ x ∈ body, Statement x) : Expression kind v
  | other {v : Value} {kind : Option String} (hcall : kind ≠ some "call") (hnew : kind ≠ some "new")
      (hwritten : ∀ key ∈ partKeys, (v.field key).kind ≠ .unwritten)
      (hmaps : ∀ key ∈ partKeys, (v.field key).kind = .map → Statement (v.field key))
      (hlists : ∀ key ∈ partKeys, ∀ xs, (v.field key).items? = some xs → ∀ x ∈ xs, Statement x) :
      Expression kind v

end

/-- A compilation unit: imports that have names, and declarations that are statements. -/
structure WellFormedUnit (v : Value) : Prop where
  isMap : v.kind = .map
  imports : ∃ xs, v.Lists "imports" xs ∧ ∀ x ∈ xs, Named x
  declarations : ∃ xs, v.Lists "declarations" xs ∧ ∀ x ∈ xs, Statement x

/-- The values that are well formed in a role. -/
def WellFormed : Role → Value → Prop
  | .unit, v => WellFormedUnit v
  | .statement, v => Statement v
  | .parameter, v => v.kind = .map ∧ Declaration .variableLike v

/-! ### What can be read of a mapping -/

theorem mapping_eq_ok_iff {v w : Value} : mapping v = .ok w ↔ v.kind = .map ∧ w = v := by
  constructor
  · intro h
    obtain rfl := eq_of_mapping h
    refine ⟨?_, rfl⟩
    by_contra hmap
    obtain ⟨p, hp⟩ := exists_mapping_eq_error hmap
    cases h.symm.trans hp
  · rintro ⟨hmap, rfl⟩
    exact mapping_eq_ok hmap

theorem listOf_eq_ok_iff {key : String} {v : Value} {xs : List Value} :
    listOf key v = .ok xs ↔ v.Lists key xs := by
  unfold listOf Value.Lists
  by_cases hnull : v.field key = .null
  · have hitems : (v.field key).items? = none := by rw [hnull]; rfl
    rw [if_pos (isNull_iff.2 hnull), hitems]
    simp [hnull, eq_comm]
  · rw [if_neg fun h => hnull (isNull_iff.1 h)]
    cases (v.field key).items? with
    | none => simp [hnull]
    | some ys => simp [hnull]

theorem kindOf_eq_ok_iff {v : Value} {kind : Option String} :
    kindOf v = .ok kind ↔ StatesKind v kind := by
  unfold kindOf StatesKind
  split
  · next h => cases kind <;> simp [h]
  · next s h => cases kind <;> simp [h, eq_comm]
  · next hnull htext =>
    cases kind with
    | none => simpa using fun h => hnull h
    | some k => simpa using fun h => htext k h

theorem nameOr_isOk_iff (problem : Problem) (v : Value) :
    (∃ s, nameOr problem v = .ok s) ↔ ∃ s, v.field "name" = .text s ∧ s ≠ "" := by
  unfold nameOr
  split
  · next s h =>
    by_cases hs : s = ""
    · simp [h, hs]
    · simp [h, hs]
  · next h => simpa using fun s hs => absurd hs (h s)

theorem symbolOf_isOk_iff {v : Value} : (∃ s, symbolOf v = .ok s) ↔ v = .null ∨ Named v := by
  unfold symbolOf
  by_cases hnull : v = .null
  · rw [if_pos (isNull_iff.2 hnull)]
    exact ⟨fun _ => .inl hnull, fun _ => ⟨none, rfl⟩⟩
  · rw [if_neg fun h => hnull (isNull_iff.1 h)]
    have hname := nameOr_isOk_iff .symbolWithoutName v
    constructor
    · rintro ⟨s, h⟩
      obtain ⟨w, hw, hrest⟩ := bind_eq_ok.1 h
      obtain ⟨hmap, rfl⟩ := mapping_eq_ok_iff.1 hw
      obtain ⟨name, hok, -⟩ := bind_eq_ok.1 hrest
      exact .inr ⟨hmap, hname.1 ⟨name, hok⟩⟩
    · rintro (h | ⟨hmap, h⟩)
      · exact absurd h hnull
      · obtain ⟨name, hok⟩ := hname.2 h
        exact ⟨_, bind_eq_ok.2 ⟨v, mapping_eq_ok hmap, bind_eq_ok.2 ⟨name, hok, rfl⟩⟩⟩

theorem importOf_isOk_iff {v : Value} : (∃ c, importOf v = .ok c) ↔ Named v := by
  have hname := nameOr_isOk_iff .importWithoutName v
  constructor
  · rintro ⟨c, h⟩
    obtain ⟨w, hw, hrest⟩ := bind_eq_ok.1 h
    obtain ⟨hmap, rfl⟩ := mapping_eq_ok_iff.1 hw
    obtain ⟨name, hok, -⟩ := bind_eq_ok.1 hrest
    exact ⟨hmap, hname.1 ⟨name, hok⟩⟩
  · rintro ⟨hmap, h⟩
    obtain ⟨name, hok⟩ := hname.2 h
    exact ⟨_, bind_eq_ok.2 ⟨v, mapping_eq_ok hmap, bind_eq_ok.2 ⟨name, hok, rfl⟩⟩⟩

theorem parameterOf_isOk_iff {v : Value} : (∃ p, parameterOf v = .ok p) ↔ v.kind = .map := by
  constructor
  · rintro ⟨p, h⟩
    obtain ⟨w, hw, -⟩ := bind_eq_ok.1 h
    exact (mapping_eq_ok_iff.1 hw).1
  · intro hmap
    exact ⟨_, bind_eq_ok.2 ⟨v, mapping_eq_ok hmap, rfl⟩⟩

theorem eachFrom_isOk_iff {α : Type} {read : Value → Except Problem α} {way : Nat → List Segment} :
    ∀ {index : Nat} {xs : List Value},
      (∃ as, eachFrom read way index xs = .ok as) ↔ ∀ x ∈ xs, ∃ a, read x = .ok a
  | _, [] => by simp [eachFrom]
  | index, x :: xs => by
    have ih : (∃ as, eachFrom read way (index + 1) xs = .ok as) ↔ ∀ x ∈ xs, ∃ a, read x = .ok a :=
      eachFrom_isOk_iff
    rw [eachFrom, List.forall_mem_cons, ← ih]
    cases read x with
    | error p => simp
    | ok a => simp [map_eq_ok]

theorem each_isOk_iff {α : Type} {read : Value → Except Problem α} {way : Nat → List Segment}
    {key : String} {v : Value} :
    (∃ as, each read way key v = .ok as)
      ↔ ∃ xs, v.Lists key xs ∧ ∀ x ∈ xs, ∃ a, read x = .ok a := by
  unfold each
  cases hlist : listOf key v with
  | error p =>
    constructor
    · rintro ⟨as, h⟩
      cases h
    · rintro ⟨xs, hxs, -⟩
      rw [listOf_eq_ok_iff.2 hxs] at hlist
      cases hlist
  | ok ys =>
    simp only [eachFrom_isOk_iff, ← listOf_eq_ok_iff, hlist, Except.ok.injEq, exists_eq_left']

theorem annotationsFrom_eq_ok_iff : ∀ {index : Nat} {xs : List Value} {notes : List String},
    annotationsFrom index xs = .ok notes ↔ xs = notes.map .text
  | _, [], notes => by cases notes <;> simp [annotationsFrom]
  | index, x :: xs, notes => by
    have ih : ∀ notes, annotationsFrom (index + 1) xs = .ok notes ↔ xs = notes.map .text :=
      fun _ => annotationsFrom_eq_ok_iff
    rw [annotationsFrom.eq_def]
    split
    · next heq => cases heq
    · next s rest heq =>
      cases heq
      cases notes with
      | nil => simp [map_eq_ok]
      | cons note notes => simp [map_eq_ok, ih, and_comm]
    · next htext heq =>
      cases heq
      cases notes with
      | nil => simp
      | cons note notes => simpa using fun h => absurd h (htext note)

theorem annotationsOf_isOk_iff (v : Value) :
    (∃ notes, annotationsOf v = .ok notes) ↔ Annotated v := by
  unfold annotationsOf Annotated
  cases hlist : listOf "annotations" v with
  | error p =>
    constructor
    · rintro ⟨notes, h⟩
      cases h
    · rintro ⟨notes, hnotes⟩
      rw [listOf_eq_ok_iff.2 hnotes] at hlist
      cases hlist
  | ok xs =>
    simp only [annotationsFrom_eq_ok_iff, ← listOf_eq_ok_iff, hlist, Except.ok.injEq]

theorem declarationName_isOk_iff (kind : String) (v : Value) :
    (∃ name, declarationName kind v = .ok name)
      ↔ (v.field "name").truthy = false ∨ ∃ s, v.field "name" = .text s := by
  simp only [declarationName]
  cases htruthy : (v.field "name").truthy with
  | false => simp
  | true =>
    simp only [if_true, Bool.true_eq_false, false_or]
    split
    · next s h => simp [h]
    · next htext => simpa using fun s h => htext s h

/-! ### Calls and constructions -/

theorem callOf_isOk_iff {v : Value} :
    (∃ c, callOf v = .ok c)
      ↔ (∃ xs, v.Lists "arguments" xs ∧ ∀ a ∈ xs, ∃ x, argumentOf a = .ok x)
        ∧ MayName v "method" := by
  unfold callOf
  simp only [exists_bind_eq_ok, mapError_eq_ok, pure_eq_ok, exists_eq', and_true, exists_and_right]
  rw [each_isOk_iff, symbolOf_isOk_iff, MayName]

theorem constructionOf_isOk_iff {v : Value} :
    (∃ c, constructionOf v = .ok c) ↔ Constructible v := by
  unfold constructionOf
  simp only [exists_bind_eq_ok, mapError_eq_ok, pure_eq_ok, exists_eq', and_true, exists_and_right]
  rw [each_isOk_iff, symbolOf_isOk_iff]
  simp only [parameterOf_isOk_iff]
  exact ⟨fun ⟨hsymbol, hparameters⟩ => ⟨hsymbol, hparameters⟩,
    fun ⟨hsymbol, hparameters⟩ => ⟨hsymbol, hparameters⟩⟩

theorem StatesKind.unique {v : Value} {a b : Option String} (ha : StatesKind v a)
    (hb : StatesKind v b) : a = b := by
  have h := (kindOf_eq_ok_iff.2 ha).symm.trans (kindOf_eq_ok_iff.2 hb)
  exact Except.ok.inj h

theorem Statement.exists_kind {v : Value} (h : Statement v) : ∃ kind, StatesKind v kind := by
  cases h with
  | declaration hmap hkind hform h => exact ⟨_, hkind⟩
  | expression hmap hkind hform h => exact ⟨_, hkind⟩

theorem Statement.isMap {v : Value} (h : Statement v) : v.kind = .map := by
  cases h with
  | declaration hmap hkind hform h => exact hmap
  | expression hmap hkind hform h => exact hmap

theorem noDeclaration_call : NoDeclaration (some "call") := by
  intro form
  cases form <;> decide

theorem noDeclaration_new : NoDeclaration (some "new") := by
  intro form
  cases form <;> decide

theorem Statement.expression_of_kind {v : Value} {kind : Option String} (h : Statement v)
    (hkind : StatesKind v kind) (hform : NoDeclaration kind) : Expression kind v := by
  cases h with
  | declaration hmap hkind' hform' h =>
    cases hkind.unique hkind'
    exact absurd rfl (hform _ _ hform')
  | expression hmap hkind' hform' h =>
    cases hkind.unique hkind'
    exact h

/-- The symbol that an argument refers to is well formed when its own is: as a statement it has
already stated that of the call or the construction it is. -/
theorem argumentSymbol_of_statement {a : Value} (h : Statement a) (hsymbol : MayName a "symbol") :
    ∃ s, argumentSymbol a = .ok s ∧ (s = .null ∨ Named s) := by
  unfold argumentSymbol
  by_cases hnull : a.field "symbol" = .null
  · obtain ⟨kind, hkind⟩ := h.exists_kind
    simp only [isNull_iff.2 hnull, if_true, kindOf_eq_ok_iff.2 hkind]
    refine ⟨_, rfl, ?_⟩
    beta_reduce
    split
    · next hcall =>
      subst hcall
      cases h.expression_of_kind hkind noDeclaration_call with
      | call hcall hmethod hreceiver hlist hsymbols harguments => exact hmethod
      | construction hnew hconstructor hlist harguments hlist' hnotes hbody =>
        exact absurd hnew (by decide)
      | other hcall hnew hwritten hmaps hlists => exact absurd rfl hcall
    · split
      · next hnew =>
        subst hnew
        cases h.expression_of_kind hkind noDeclaration_new with
        | call hcall hmethod hreceiver hlist hsymbols harguments => exact absurd hcall (by decide)
        | construction hnew hconstructor hlist harguments hlist' hnotes hbody =>
          exact hconstructor.symbol
        | other hcall hnew hwritten hmaps hlists => exact absurd rfl hnew
      · exact .inl rfl
  · simp only [if_neg fun h => hnull (isNull_iff.1 h)]
    exact ⟨_, rfl, hsymbol⟩

theorem argumentOf_isOk_of_statement {a : Value} (h : Statement a) (hsymbol : MayName a "symbol") :
    ∃ x, argumentOf a = .ok x := by
  obtain ⟨s, hs, hnamed⟩ := argumentSymbol_of_statement h hsymbol
  obtain ⟨symbol, hok⟩ := symbolOf_isOk_iff.2 hnamed
  exact ⟨_, bind_eq_ok.2 ⟨a, mapping_eq_ok h.isMap, bind_eq_ok.2 ⟨s, hs,
    bind_eq_ok.2 ⟨symbol, hok, rfl⟩⟩⟩⟩

theorem mayName_of_argumentOf {a : Value} {x : Argument} (h : argumentOf a = .ok x) :
    MayName a "symbol" := by
  by_cases hnull : a.field "symbol" = .null
  · exact .inl hnull
  · obtain ⟨w, hw, hrest⟩ := bind_eq_ok.1 h
    obtain ⟨-, rfl⟩ := mapping_eq_ok_iff.1 hw
    obtain ⟨s, hs, hlast⟩ := bind_eq_ok.1 hrest
    obtain ⟨symbol, hok, -⟩ := bind_eq_ok.1 hlast
    simp only [argumentSymbol, if_neg fun h => hnull (isNull_iff.1 h), Except.ok.injEq] at hs
    subst hs
    exact symbolOf_isOk_iff.1 ⟨symbol, hok⟩

end Tree

end BannedApi
