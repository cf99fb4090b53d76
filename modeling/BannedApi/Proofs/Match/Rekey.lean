import BannedApi.Proofs.Match.Basic
import BannedApi.Proofs.Text.Segment

/-!
Types that are given by their keys already.

The checks of a construct look at its types through their keys only, so another type with the same
key changes nothing (`checks_mapTypes`). The key of a type is such a type, if it is a name
(`TypeKey.ofValue_rekey`). A type that starts with its arguments has none: its key is empty, and
what is empty has the key of a type that is not known (`diagnose_rekeyed`,
`diagnose_rekeyed_nameless`).
-/
namespace BannedApi

namespace TypeKey

/-- The type by its key; what can be no type stays as it is. -/
def rekey (type : Value) : Value :=
  match ofValue type with
  | .ok key => .text key
  | .error _ => type

/-- The type starts with its arguments, so that there is no name before them. -/
def isNameless (type : Value) : Bool := type.text?.any fun s => s.toList.head? == some '<'

/-! ### Keys of keys -/

theorem ofValue_text (s : String) :
    ofValue (.text s) = .ok (if s = "" then unknown else ofText s) := ofValue_ofText? (some s)

theorem ofText_of_not_mem {s : String} (h : '<' ∉ s.toList) : ofText s = s := by
  rw [ofText, Text.before_of_not_mem h, String.ofList_toList]

theorem not_mem_ofText (s : String) : '<' ∉ (ofText s).toList := by
  rw [ofText, String.toList_ofList]
  exact Text.not_mem_before _

/-- A key never holds the start of arguments. -/
theorem not_mem_of_ofValue {type : Value} {key : String} (h : ofValue type = .ok key) :
    '<' ∉ key.toList := by
  unfold ofValue at h
  split at h
  · split at h
    · cases h
      exact not_mem_ofText _
    · cases h
    · cases h
  · cases h
    decide

theorem ofText_eq_empty_iff {s : String} :
    ofText s = "" ↔ s = "" ∨ s.toList.head? = some '<' := by
  have hnil : ofText s = "" ↔ Text.before '<' s.toList = [] := by
    rw [ofText, ← String.toList_inj, String.toList_ofList]
    rfl
  have hempty : s = "" ↔ s.toList = [] := by rw [← String.toList_inj]; rfl
  rw [hnil, hempty, Text.before]
  cases s.toList with
  | nil => simp
  | cons c rest =>
    by_cases hc : c = '<'
    · simp [hc]
    · simp [hc]

theorem ofValue_key_of_ne {key : String} (hkey : '<' ∉ key.toList) (hne : key ≠ "") :
    ofValue (.text key) = .ok key := by
  rw [ofValue_text, if_neg hne, ofText_of_not_mem hkey]

/-- A key is empty only if the type starts with its arguments. -/
theorem isNameless_of_ofValue {type : Value} (h : ofValue type = .ok "") :
    isNameless type = true := by
  unfold ofValue at h
  split at h
  · next htruthy =>
    split at h
    · next s =>
      have hne : s ≠ "" := by simpa [Value.truthy] using htruthy
      have hkey := Except.ok.inj h
      have hhead := (ofText_eq_empty_iff.1 hkey).resolve_left hne
      simpa [isNameless, Value.text?] using hhead
    · cases h
    · cases h
  · have hkey := Except.ok.inj h
    exact absurd hkey (by decide)

theorem exists_of_isNameless {type : Value} (h : isNameless type = true) :
    ∃ s, type = .text s ∧ s.toList.head? = some '<' := by
  unfold isNameless Value.text? at h
  split at h
  · next s => exact ⟨s, rfl, by simpa using h⟩
  · cases h

/-- The key of a type that starts with its arguments is empty. -/
theorem ofValue_of_isNameless {type : Value} (h : isNameless type = true) :
    ofValue type = .ok "" := by
  obtain ⟨s, rfl, hhead⟩ := exists_of_isNameless h
  have hne : s ≠ "" := by
    rintro rfl
    cases hhead
  rw [ofValue_text, if_neg hne, ofText_eq_empty_iff.2 (.inr hhead)]

theorem ofValue_rekey {type : Value} (h : isNameless type = false) :
    ofValue (rekey type) = ofValue type := by
  unfold rekey
  cases hkey : ofValue type with
  | error fault => exact hkey
  | ok key =>
    refine ofValue_key_of_ne (not_mem_of_ofValue hkey) ?_
    rintro rfl
    rw [isNameless_of_ofValue hkey] at h
    cases h

/-- The key of a type is never nameless, though it may be empty. -/
theorem isNameless_rekey (type : Value) : isNameless (rekey type) = false := by
  rw [Bool.eq_false_iff]
  intro h
  obtain ⟨s, hs, hhead⟩ := exists_of_isNameless h
  unfold rekey at hs
  split at hs
  · next key hkey =>
    cases hs
    exact not_mem_of_ofValue hkey (List.mem_of_head? hhead)
  · next fault hkey =>
    rw [hs, ofValue_text] at hkey
    cases hkey

end TypeKey

/-! ### Constructs -/

namespace Construct

/-- The types of a construct. -/
def types : Construct → List Value
  | .call _ receiver result arguments => receiver :: result :: arguments.map (·.type)
  | .construction _ type parameters => type :: parameters.map (·.type)
  | .importing _ _ => []
  | .variableDecl _ type => [type]
  | .methodDecl _ type _ => [type]

/-- The construct with each of its types changed. -/
def mapTypes (f : Value → Value) : Construct → Construct
  | .call method receiver result arguments =>
    .call method (f receiver) (f result) (arguments.map fun a => { a with type := f a.type })
  | .construction callee type parameters =>
    .construction callee (f type) (parameters.map fun p => { p with type := f p.type })
  | .importing name package => .importing name package
  | .variableDecl name type => .variableDecl name (f type)
  | .methodDecl name type resolved => .methodDecl name (f type) resolved

theorem kindName_mapTypes (f : Value → Value) (c : Construct) :
    (c.mapTypes f).kindName = c.kindName := by
  cases c <;> rfl

theorem types_mapTypes (f : Value → Value) (c : Construct) :
    (c.mapTypes f).types = c.types.map f := by
  cases c <;> simp [types, mapTypes]

end Construct

/-- The node with its types given by their keys. -/
def Node.rekeyed (n : Node) : Node := { n with construct := n.construct.mapTypes TypeKey.rekey }

namespace Match

variable (r : Registry) {f : Value → Value}

theorem classCheck_of_key {type other : Value} (h : TypeKey.ofValue other = TypeKey.ofValue type)
    (rule : Rule) (write : Wording) :
    classCheck r rule other write = classCheck r rule type write := by
  rw [classCheck, classCheck, h]

theorem prefixCheck_of_key {type other : Value} (h : TypeKey.ofValue other = TypeKey.ofValue type)
    (rule : Rule) (write : Wording) :
    prefixCheck r rule other write = prefixCheck r rule type write := by
  rw [prefixCheck, prefixCheck, h]

theorem methodCheck_of_key {owner other : Value} (h : TypeKey.ofValue other = TypeKey.ofValue owner)
    (rule : Rule) (name : Value) :
    methodCheck r rule other name = methodCheck r rule owner name := by
  rw [methodCheck, methodCheck, h]

theorem typeChecks_of_key {type other : Value} (h : TypeKey.ofValue other = TypeKey.ofValue type)
    (classRule packageRule : Rule) :
    typeChecks r classRule packageRule other = typeChecks r classRule packageRule type := by
  rw [typeChecks, typeChecks, classCheck_of_key r h, prefixCheck_of_key r h]

/-- Types with other texts and the same keys are checked as before. -/
theorem checks_mapTypes (c : Construct)
    (h : ∀ type ∈ c.types, TypeKey.ofValue (f type) = TypeKey.ofValue type) :
    checks r (c.mapTypes f) = checks r c := by
  cases c with
  | call method receiver result arguments =>
    cases method with
    | none => rfl
    | some method =>
      have hreceiver := h receiver (by simp [Construct.types])
      have hresult := h result (by simp [Construct.types])
      have harguments : ∀ a ∈ arguments,
          argumentChecks r method { a with type := f a.type } = argumentChecks r method a := by
        intro a ha
        have htype := h a.type (by simp [Construct.types]; exact .inr (.inr ⟨a, ha, rfl⟩))
        simp only [argumentChecks, classCheck_of_key r htype]
      simp only [Construct.mapTypes, checks, classCheck_of_key r hreceiver,
        methodCheck_of_key r hreceiver, classCheck_of_key r hresult, prefixCheck_of_key r hresult,
        List.flatMap_map, List.flatMap_congr harguments]
  | construction callee type parameters =>
    cases callee with
    | none => rfl
    | some callee =>
      have htype := h type (by simp [Construct.types])
      have hparameters : ∀ p ∈ parameters,
          parameterChecks r callee { p with type := f p.type } = parameterChecks r callee p := by
        intro p hp
        have htype := h p.type (by simp [Construct.types]; exact .inr ⟨p, hp, rfl⟩)
        simp only [parameterChecks, classCheck_of_key r htype]
      simp only [Construct.mapTypes, checks, classCheck_of_key r htype, List.flatMap_map,
        List.flatMap_congr hparameters]
  | importing name package => rfl
  | variableDecl name type =>
    exact typeChecks_of_key r (h type (by simp [Construct.types])) .variableClass .variablePackage
  | methodDecl name type resolved =>
    have htype := h type (by simp [Construct.types])
    simp only [Construct.mapTypes, checks, typeChecks_of_key r htype]

theorem diagnose_of_named (n : Node)
    (h : ∀ type ∈ n.construct.types, TypeKey.isNameless type = false) :
    diagnose r n.rekeyed = diagnose r n := by
  have hchecks := checks_mapTypes r n.construct fun type htype =>
    TypeKey.ofValue_rekey (h type htype)
  simp only [diagnose, hit, Node.rekeyed, hchecks, Construct.kindName_mapTypes]

/-- The key of a type that is a text or not known is its own key, unless the type starts with its
arguments: then the key is empty, and its key is that of a type that is not known. So a node is
matched as before when its types are replaced by their keys, if none of them starts with its
arguments; and replacing them a second time never changes anything. -/
theorem diagnose_rekeyed :
    (∀ type : Option String, ∃ key, TypeKey.ofValue (Value.ofText? type) = .ok key
        ∧ (TypeKey.isNameless (Value.ofText? type) = false → TypeKey.ofValue (.text key) = .ok key)
        ∧ (TypeKey.isNameless (Value.ofText? type) = true →
          key = "" ∧ TypeKey.ofValue (.text key) = .ok TypeKey.unknown))
      ∧ (∀ n : Node, (∀ type ∈ n.construct.types, TypeKey.isNameless type = false) →
        diagnose r n.rekeyed = diagnose r n)
      ∧ ∀ n : Node, diagnose r n.rekeyed.rekeyed = diagnose r n.rekeyed := by
  refine ⟨?_, ?_, ?_⟩
  · intro type
    have hkey := TypeKey.ofValue_ofText? type
    refine ⟨TypeKey.ofText? type, hkey, ?_, ?_⟩
    · intro hnamed
      have hsame := TypeKey.ofValue_rekey hnamed
      rwa [TypeKey.rekey, hkey] at hsame
    · intro hnameless
      have hempty : TypeKey.ofText? type = "" :=
        Except.ok.inj (hkey.symm.trans (TypeKey.ofValue_of_isNameless hnameless))
      rw [hempty]
      exact ⟨rfl, rfl⟩
  · exact diagnose_of_named r
  · intro n
    refine diagnose_of_named r n.rekeyed fun type htype => ?_
    rw [Node.rekeyed, Construct.types_mapTypes] at htype
    obtain ⟨first, -, rfl⟩ := List.mem_map.1 htype
    exact TypeKey.isNameless_rekey first

/-- The type that is not known is banned, as a class. -/
def unknownBanned : Registry := { classes := .ofList [("nullType", .text "")] }

/-- A variable of a type, somewhere. -/
def variableOf (type : Value) : Node :=
  ⟨⟨.text "T.java", .null, .null⟩, [], .variableDecl (.text "v") type⟩

theorem diagnose_rekeyed_list :
    (∀ type ∈ (variableOf (.text "nullType<a.B>")).construct.types,
        TypeKey.isNameless type = false)
      ∧ diagnose unknownBanned (variableOf (.text "nullType<a.B>")).rekeyed
        = diagnose unknownBanned (variableOf (.text "nullType<a.B>"))
      ∧ (diagnose unknownBanned (variableOf (.text "nullType<a.B>"))).toOption.map Option.isSome
        = some true := by
  have hnamed : ∀ type ∈ (variableOf (.text "nullType<a.B>")).construct.types,
      TypeKey.isNameless type = false := by
    intro type htype
    obtain rfl := List.mem_singleton.1 htype
    decide
  exact ⟨hnamed, (diagnose_rekeyed unknownBanned).2.1 _ hnamed, by decide +kernel⟩

/-- A type that is nothing but arguments has an empty key, which has another key in turn. -/
theorem diagnose_rekeyed_nameless :
    TypeKey.ofValue (.text "<T>") = .ok "" ∧ TypeKey.ofValue (.text "") = .ok "nullType"
      ∧ (diagnose unknownBanned (variableOf (.text "<T>"))).toOption.map Option.isSome = some false
      ∧ (diagnose unknownBanned (variableOf (.text "<T>")).rekeyed).toOption.map Option.isSome
        = some true := by
  refine ⟨?_, ?_, ?_, ?_⟩ <;> decide +kernel

end Match

end BannedApi
