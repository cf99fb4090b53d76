import BannedApi.Proofs.Match.Sound
import Mathlib.Data.List.Infix

/-!
Which bans concern a node.

A node asks for the classes of its types, for the packages that it states, for the method that it
calls, and for every package that a scanned type can start with. Two registries that answer these
questions alike (`Registry.AlikeFor`) give the node the same diagnostic (`diagnose_congr`): bans of
anything else have no influence, and neither has the order in which bans were put in.
-/
namespace BannedApi

/-- The key of a type; a value that can be no type has none. -/
def TypeKey.keys (type : Value) : List String := (ofValue type).toOption.toList

/-- The name that a value is; a value that is no text is none. -/
def Value.names (v : Value) : List String := v.text?.toList

/-! ### What a construct asks for -/

namespace Construct

/-- The names that are looked up among the classes: the keys of all types, or what is imported. -/
def classNames : Construct → List String
  | .call _ receiver result arguments =>
    TypeKey.keys receiver ++ TypeKey.keys result ++ arguments.flatMap fun a => TypeKey.keys a.type
  | .construction _ type parameters =>
    TypeKey.keys type ++ parameters.flatMap fun p => TypeKey.keys p.type
  | .importing name _ => name.names
  | .variableDecl _ type => TypeKey.keys type
  | .methodDecl _ type _ => TypeKey.keys type

/-- The packages that are stated. -/
def packageNames : Construct → List String
  | .call method _ _ arguments =>
    method.toList.flatMap (·.package.names)
      ++ arguments.flatMap fun a => a.symbol.toList.flatMap (·.package.names)
  | .construction callee _ parameters =>
    callee.toList.flatMap (·.package.names) ++ parameters.flatMap (·.package.names)
  | .importing _ package => package.names
  | .variableDecl .. => []
  | .methodDecl .. => []

/-- The method that is called, with the class that it is called on. -/
def methodNames : Construct → List (String × Value)
  | .call method receiver _ _ =>
    method.toList.flatMap fun m => (TypeKey.keys receiver).map fun owner => (owner, m.name)
  | _ => []

/-- The keys that are scanned for the package they start with. -/
def scannedKeys : Construct → List String
  | .call _ _ result _ => TypeKey.keys result
  | .variableDecl _ type => TypeKey.keys type
  | .methodDecl _ type _ => TypeKey.keys type
  | _ => []

end Construct

/-- The registries give the same answers to all that a construct asks for. -/
structure Registry.AlikeFor (r s : Registry) (c : Construct) : Prop where
  classes : ∀ name ∈ c.classNames, r.classBan name = s.classBan name
  packages : ∀ name ∈ c.packageNames, r.packageBan name = s.packageBan name
  methods : ∀ m ∈ c.methodNames, r.methodBan (.text m.1) m.2 = s.methodBan (.text m.1) m.2
  prefixes : ∀ key ∈ c.scannedKeys, ∀ p : String, p.toList <+: key.toList →
    r.packageBan p = s.packageBan p

/-- A reason that is a text is always stated. -/
theorem Registry.Worded.packageBan_eq {r : Registry} (hr : r.Worded) (name : String) :
    r.packageBan name = r.packages.get? name := by
  unfold Registry.packageBan
  cases hget : r.packages.get? name with
  | none => rfl
  | some reason =>
    obtain ⟨text, rfl⟩ := hr.packages hget
    rfl

namespace Match

variable {r s : Registry} {rule : Rule} {write : Wording}

/-! ### Checks that ask the same -/

theorem classCheck_congr {type : Value}
    (h : ∀ key ∈ TypeKey.keys type, r.classBan key = s.classBan key) :
    classCheck r rule type write = classCheck s rule type write := by
  unfold classCheck
  unfold TypeKey.keys at h
  cases hkey : TypeKey.ofValue type with
  | error fault => rfl
  | ok key =>
    rw [hkey] at h
    simp only [bind, Except.bind, h key (by simp [Except.toOption])]

theorem prefixCheck_congr (hr : r.Worded) (hs : s.Worded) {type : Value}
    (h : ∀ key ∈ TypeKey.keys type, ∀ p : String, p.toList <+: key.toList →
      r.packageBan p = s.packageBan p) :
    prefixCheck r rule type write = prefixCheck s rule type write := by
  unfold prefixCheck
  unfold TypeKey.keys at h
  cases hkey : TypeKey.ofValue type with
  | error fault => rfl
  | ok key =>
    rw [hkey] at h
    have hban : r.prefixBan key = s.prefixBan key := by
      refine Registry.prefixBan_congr fun p hp => ?_
      rw [← hr.packageBan_eq, ← hs.packageBan_eq]
      exact h key (by simp [Except.toOption]) p hp
    simp only [bind, Except.bind, hban]

/-- Only a text is found, so registries that agree on the text agree on the value. -/
theorem lookup_congr_of_names {m n : ReasonTable} {v : Value}
    (h : ∀ name ∈ v.names, Registry.stated (m.get? name) = Registry.stated (n.get? name)) :
    (m.lookup v).map Registry.stated = (n.lookup v).map Registry.stated := by
  unfold OrderedMap.lookup
  split
  · next name =>
    have hname : Registry.stated (m.get? name) = Registry.stated (n.get? name) :=
      h name (by simp [Value.names, Value.text?])
    simp only [Except.map, hname]
  · rfl

theorem packageCheck_congr {package : Value}
    (h : ∀ name ∈ package.names, r.packageBan name = s.packageBan name) :
    packageCheck r rule package write = packageCheck s rule package write := by
  have hban : r.packageBanOf package = s.packageBanOf package := lookup_congr_of_names h
  simp only [packageCheck, hban]

theorem nameCheck_congr {name : Value}
    (h : ∀ key ∈ name.names, r.classBan key = s.classBan key) :
    nameCheck r rule name = nameCheck s rule name := by
  have hban : r.classBanOf name = s.classBanOf name := lookup_congr_of_names h
  simp only [nameCheck, hban]

theorem methodCheck_congr {owner name : Value}
    (h : ∀ key ∈ TypeKey.keys owner,
      r.methodBan (.text key) name = s.methodBan (.text key) name) :
    methodCheck r rule owner name = methodCheck s rule owner name := by
  unfold methodCheck
  unfold TypeKey.keys at h
  cases hkey : TypeKey.ofValue owner with
  | error fault => rfl
  | ok key =>
    rw [hkey] at h
    simp only [bind, Except.bind, h key (by simp [Except.toOption])]

/-! ### Constructs -/

theorem argumentChecks_congr {method : Symbol} {a : Argument}
    (hclass : ∀ key ∈ TypeKey.keys a.type, r.classBan key = s.classBan key)
    (hpackage : ∀ symbol ∈ a.symbol, ∀ name ∈ symbol.package.names,
      r.packageBan name = s.packageBan name) :
    argumentChecks r method a = argumentChecks s method a := by
  unfold argumentChecks
  cases hsymbol : a.symbol with
  | none => rfl
  | some symbol =>
    have hbans := hpackage symbol (by simp [hsymbol])
    simp only [classCheck_congr hclass, packageCheck_congr hbans]

theorem parameterChecks_congr {callee : Symbol} {p : Parameter}
    (hclass : ∀ key ∈ TypeKey.keys p.type, r.classBan key = s.classBan key)
    (hpackage : ∀ name ∈ p.package.names, r.packageBan name = s.packageBan name) :
    parameterChecks r callee p = parameterChecks s callee p := by
  simp only [parameterChecks, classCheck_congr hclass, packageCheck_congr hpackage]

theorem typeChecks_congr (hr : r.Worded) (hs : s.Worded) {classRule packageRule : Rule}
    {type : Value} (hclass : ∀ key ∈ TypeKey.keys type, r.classBan key = s.classBan key)
    (hscan : ∀ key ∈ TypeKey.keys type, ∀ p : String, p.toList <+: key.toList →
      r.packageBan p = s.packageBan p) :
    typeChecks r classRule packageRule type = typeChecks s classRule packageRule type := by
  simp only [typeChecks, classCheck_congr hclass, prefixCheck_congr hr hs hscan]

/-- Registries that are alike for a construct make the same checks of it. -/
theorem checks_congr (hr : r.Worded) (hs : s.Worded) :
    ∀ {c : Construct}, r.AlikeFor s c → checks r c = checks s c
  | .call none _ _ _, _ => rfl
  | .call (some method) receiver result arguments, ⟨hclasses, hpackages, hmethods, hscanned⟩ => by
    simp only [Construct.classNames, List.mem_append, List.mem_flatMap, or_imp,
      forall_and] at hclasses
    simp only [Construct.packageNames, Option.toList_some, List.flatMap_singleton, List.mem_append,
      List.mem_flatMap, or_imp, forall_and] at hpackages
    simp only [Construct.methodNames, Option.toList_some, List.flatMap_singleton, List.mem_map]
      at hmethods
    obtain ⟨⟨hreceiver, hresult⟩, htypes⟩ := hclasses
    obtain ⟨hpackage, hsymbols⟩ := hpackages
    have hmethod : methodCheck r .callBannedMethod receiver method.name
        = methodCheck s .callBannedMethod receiver method.name :=
      methodCheck_congr fun key hkey => hmethods (key, method.name) ⟨key, hkey, rfl⟩
    have harguments : ∀ a ∈ arguments, argumentChecks r method a = argumentChecks s method a := by
      intro a ha
      refine argumentChecks_congr (fun key hkey => htypes key ⟨a, ha, hkey⟩) ?_
      intro symbol hsymbol name hname
      exact hsymbols name ⟨a, ha, symbol, by simpa using hsymbol, hname⟩
    simp only [checks, classCheck_congr hreceiver, packageCheck_congr hpackage, hmethod,
      classCheck_congr hresult, prefixCheck_congr hr hs hscanned, List.flatMap_congr harguments]
  | .construction none _ _, _ => rfl
  | .construction (some callee) type parameters, ⟨hclasses, hpackages, _, _⟩ => by
    simp only [Construct.classNames, List.mem_append, List.mem_flatMap, or_imp,
      forall_and] at hclasses
    simp only [Construct.packageNames, Option.toList_some, List.flatMap_singleton, List.mem_append,
      List.mem_flatMap, or_imp, forall_and] at hpackages
    obtain ⟨htype, htypes⟩ := hclasses
    obtain ⟨hpackage, hstated⟩ := hpackages
    have hparameters : ∀ p ∈ parameters,
        parameterChecks r callee p = parameterChecks s callee p := by
      intro p hp
      exact parameterChecks_congr (fun key hkey => htypes key ⟨p, hp, hkey⟩)
        fun name hname => hstated name ⟨p, hp, hname⟩
    simp only [checks, classCheck_congr htype, packageCheck_congr hpackage,
      List.flatMap_congr hparameters]
  | .importing _ _, ⟨hclasses, hpackages, _, _⟩ => by
    simp only [checks, nameCheck_congr hclasses, packageCheck_congr hpackages]
  | .variableDecl _ _, ⟨hclasses, _, _, hscanned⟩ => typeChecks_congr hr hs hclasses hscanned
  | .methodDecl _ _ _, ⟨hclasses, _, _, hscanned⟩ => by
    simp only [checks, typeChecks_congr hr hs hclasses hscanned]

/-- Only the bans that concern a node decide about it. Registries with texts for reasons give a node
the same outcome, diagnostic for diagnostic, if they agree on the classes of its types or on what it
imports, on the packages that it states, on the method that it calls, and on every package that a
scanned type can start with. -/
theorem diagnose_congr (hr : r.Worded) (hs : s.Worded) (n : Node)
    (h : r.AlikeFor s n.construct) : diagnose r n = diagnose s n := by
  simp only [diagnose, hit, checks_congr hr hs h]

/-- A package is banned, and so is a part of it. -/
def samplePackages : Loader :=
  { packages := .ofList [("p", "all of it"), ("p.q", "")] }

/-- The same bans the other way round, among others. -/
def sampleMorePackages : Loader :=
  { classes := .ofList [("p.q", ""), ("a.B", "")]
    packages := .ofList [("q", ""), ("p.q", ""), ("p.q.rs", ""), ("p", "all of it")] }

/-- A variable whose type starts with both packages. -/
def sampleTyped : Node :=
  ⟨⟨.text "T.java", .null, .null⟩, [], .variableDecl (.text "v") (.text "p.q.r<a.B>")⟩

theorem alikeFor_sampleTyped :
    samplePackages.build.AlikeFor sampleMorePackages.build sampleTyped.construct := by
  have hkeys : TypeKey.keys (.text "p.q.r<a.B>") = ["p.q.r"] := by decide
  refine ⟨?_, ?_, ?_, ?_⟩
  · intro name hname
    change name ∈ TypeKey.keys _ at hname
    obtain rfl := List.mem_singleton.1 (hkeys ▸ hname)
    rfl
  · intro name hname
    cases hname
  · intro m hm
    cases hm
  · intro key hkey p hp
    change key ∈ TypeKey.keys _ at hkey
    obtain rfl := List.mem_singleton.1 (hkeys ▸ hkey)
    -- six packages are the beginning of this key
    have hstarts : p.toList ∈ "p.q.r".toList.inits := (List.mem_inits _ _).2 hp
    rw [← String.ofList_toList (s := p)]
    generalize p.toList = start at hstarts
    have hcases : start ∈ [[], ['p'], ['p', '.'], ['p', '.', 'q'], ['p', '.', 'q', '.'],
      ['p', '.', 'q', '.', 'r']] := hstarts
    simp only [List.mem_cons, List.not_mem_nil, or_false] at hcases
    rcases hcases with rfl | rfl | rfl | rfl | rfl | rfl <;> rfl

theorem prefixBan_samplePackages :
    samplePackages.build.prefixBan "p.q.r" = some ("p.q", .text "") :=
  Registry.prefixBan_eq_some_iff.2 ⟨⟨by decide, by decide, by decide⟩, rfl⟩

/-- Neither the other bans nor the other order of the two packages change what is said. -/
theorem diagnose_congr_package :
    samplePackages.build.AlikeFor sampleMorePackages.build sampleTyped.construct
      ∧ diagnose sampleMorePackages.build sampleTyped
        = .ok (some ⟨⟨.text "T.java", .null, .null⟩,
            "Use of p.q has been banned due to cross platform incompatibility.", some "variable",
            some "variable-package", "XplatBans"⟩) := by
  have hsame := diagnose_congr samplePackages.worded_build sampleMorePackages.worded_build
    sampleTyped alikeFor_sampleTyped
  have hclass : classCheck samplePackages.build .variableClass (.text "p.q.r<a.B>") Message.direct
      = .ok none := by with_unfolding_all rfl
  have hpackage : prefixCheck samplePackages.build .variablePackage (.text "p.q.r<a.B>")
      Message.direct = .ok (some ⟨.variablePackage,
        "Use of p.q has been banned due to cross platform incompatibility."⟩) := by
    have hkey : TypeKey.ofValue (.text "p.q.r<a.B>") = .ok "p.q.r" := by with_unfolding_all rfl
    simp only [prefixCheck, hkey, bind, Except.bind, prefixBan_samplePackages]
    rfl
  refine ⟨alikeFor_sampleTyped, hsame.symm.trans ?_⟩
  simp only [diagnose, hit, sampleTyped, checks, typeChecks, hclass, hpackage]
  rfl

end Match

end BannedApi
