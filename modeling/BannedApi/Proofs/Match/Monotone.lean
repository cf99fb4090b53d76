import BannedApi.Proofs.Match.Sound

/-!
More bans find no less.

With more bans another check may be the first that hits: an earlier one, or the same one with a
longer package. So the two runs report different things, but a node that is reported with some bans
is reported with more of them. A check that hits still hits (`Kept`), the first hit is then not lost
(`first_kept`), and what comes before it ends in no fault that would hide it: a message fails only
where a signature cannot be shown, and then the messages after it fail with both registries
(`first_append_kept`).
-/
namespace BannedApi

/-- The registry has every ban of another one, if perhaps for another reason. -/
structure Registry.Covers (s r : Registry) : Prop where
  classes : ∀ name ∈ r.classes.keys, name ∈ s.classes.keys
  packages : ∀ name ∈ r.packages.keys, name ∈ s.packages.keys
  methods : ∀ {owner table}, r.methods.get? owner = some table → ∀ name ∈ table.keys,
    ∃ more, s.methods.get? owner = some more ∧ name ∈ more.keys

/-- If a method is called, its name can be looked up. -/
def Construct.isNamed : Construct → Bool
  | .call (some method) _ _ _ => method.name.isKey
  | _ => true

/-! ### Bans that are still there -/

namespace Registry

theorem mem_keys_of_stated {m : ReasonTable} {name : String} (h : (stated (m.get? name)).isSome) :
    name ∈ m.keys := by
  by_contra hmem
  rw [OrderedMap.get?_eq_none_iff.2 hmem] at h
  cases h

/-- A name with a text for its reason is banned. -/
theorem isSome_stated {m : ReasonTable} (htext : ∀ {name reason}, m.get? name = some reason →
    ∃ text, reason = .text text) {name : String} (h : name ∈ m.keys) :
    (stated (m.get? name)).isSome := by
  cases hget : m.get? name with
  | none => exact absurd h (OrderedMap.get?_eq_none_iff.1 hget)
  | some reason =>
    obtain ⟨text, rfl⟩ := htext hget
    rfl

/-- The banned methods of a class. -/
def methodsOf (r : Registry) (owner : String) : ReasonTable := (r.methods.get? owner).getD .empty

theorem methodBan_eq_lookup (r : Registry) (owner : String) {name : Value}
    (h : name.isKey = true) :
    r.methodBan (.text owner) name = ((r.methodsOf owner).lookup name).map stated := by
  simp only [methodBan, methodsOf, OrderedMap.lookup, bind, Except.bind]
  cases r.methods.get? owner with
  | some table => rfl
  | none =>
    cases name with
    | scalar x => cases x <;> rfl
    | _ => cases h

/-- What cannot be looked up is a fault as soon as there is a table to look it up in. -/
theorem methodBan_of_parts (r : Registry) (owner : String) {name : Value}
    (h : name.isKey = false) :
    r.methodBan (.text owner) name = .ok none
      ∨ ∃ fault, r.methodBan (.text owner) name = .error fault := by
  simp only [methodBan, OrderedMap.lookup, bind, Except.bind]
  cases r.methods.get? owner with
  | none => exact .inl rfl
  | some table =>
    cases name with
    | scalar x => cases h
    | _ => exact .inr ⟨_, rfl⟩

theorem Covers.methodsOf {r s : Registry} (h : s.Covers r) (owner : String) :
    ∀ name ∈ (r.methodsOf owner).keys, name ∈ (s.methodsOf owner).keys := by
  intro name hname
  unfold Registry.methodsOf at hname ⊢
  cases howner : r.methods.get? owner with
  | none =>
    rw [howner] at hname
    cases hname
  | some table =>
    rw [howner] at hname
    obtain ⟨more, hmore, hmem⟩ := h.methods howner name hname
    rw [hmore]
    exact hmem

theorem Worded.methodsOf {s : Registry} (hs : s.Worded) {owner name : String} {reason : Value}
    (h : (s.methodsOf owner).get? name = some reason) : ∃ text, reason = .text text := by
  unfold Registry.methodsOf at h
  cases howner : s.methods.get? owner with
  | none =>
    rw [howner] at h
    cases h
  | some table =>
    rw [howner] at h
    exact hs.methods howner h

end Registry

namespace Match

/-! ### Findings that are kept -/

/-- Something is reported, or there is a fault instead, and `P` holds. -/
def Reports (P : Prop) (f : Finding) : Prop := (∃ h, f = .ok (some h)) ∨ P ∧ ∃ fault, f = .error fault

/-- Where one finding reports something the other does too, and where it gives a result the other is
no fault, unless `P` holds. -/
structure Kept (P : Prop) (f g : Finding) : Prop where
  hit : ∀ h, f = .ok (some h) → Reports P g
  clear : f = .ok none → g = .ok none ∨ Reports P g

theorem kept_of_error {P : Prop} (fault : ValueFault) (g : Finding) : Kept P (.error fault) g where
  hit _ h := by cases h
  clear h := by cases h

theorem kept_of_clear {P : Prop} {g : Finding} (h : g = .ok none ∨ Reports P g) :
    Kept P (.ok none) g where
  hit _ h := by cases h
  clear _ := h

/-- The first hit is the first of the one part, or of the other if that has none. -/
theorem first_append_eq (fs gs : List Finding) :
    first (fs ++ gs)
      = match first fs with
        | .ok none => first gs
        | f => f := by
  induction fs with
  | nil => rfl
  | cons f fs ih =>
    cases f with
    | error fault => rfl
    | ok found =>
      cases found with
      | none => exact ih
      | some h => rfl

theorem first_cons_of_reports {P : Prop} {f : Finding} (h : Reports P f) (fs : List Finding) :
    Reports P (first (f :: fs)) := by
  rcases h with ⟨h, rfl⟩ | ⟨hP, fault, rfl⟩
  · exact .inl ⟨h, rfl⟩
  · exact .inr ⟨hP, fault, rfl⟩

theorem first_append_of_reports {P : Prop} {fs : List Finding} (h : Reports P (first fs))
    (gs : List Finding) : Reports P (first (fs ++ gs)) := by
  rw [first_append_eq]
  rcases h with ⟨h, hfirst⟩ | ⟨hP, fault, hfirst⟩
  · exact .inl ⟨h, by rw [hfirst]⟩
  · exact .inr ⟨hP, fault, by rw [hfirst]⟩

theorem mem_of_first {fs : List Finding} {h : Hit} (hfirst : first fs = .ok (some h)) :
    .ok (some h) ∈ fs := by
  induction fs with
  | nil => cases hfirst
  | cons f fs ih =>
    cases f with
    | error fault => cases hfirst
    | ok found =>
      cases found with
      | none => exact List.mem_cons_of_mem _ (ih hfirst)
      | some k =>
        cases hfirst
        exact List.mem_cons_self ..

/-- The first hit is kept if every hit is. -/
theorem first_kept {P : Prop} {fs gs : List Finding} (h : List.Forall₂ (Kept P) fs gs) :
    Kept P (first fs) (first gs) := by
  induction h with
  | nil => exact kept_of_clear (.inl rfl)
  | @cons f g fs gs hfg _ ih =>
    cases f with
    | error fault => exact kept_of_error fault _
    | ok found =>
      cases found with
      | some k =>
        have hreports := first_cons_of_reports (hfg.hit k rfl) gs
        exact ⟨fun _ _ => hreports, fun hnone => by cases hnone⟩
      | none =>
        rcases hfg.clear rfl with rfl | hg
        · exact ih
        · have hreports := first_cons_of_reports hg gs
          exact ⟨fun _ _ => hreports, fun _ => .inr hreports⟩

/-- What follows counts only if it can report something at all. -/
theorem first_append_kept {P : Prop} (fs fs' : List Finding) {gs gs' : List Finding} {h : Hit}
    (hfs : List.Forall₂ (Kept P) fs fs')
    (hgs : List.Forall₂ (Kept P) gs gs' ∨ ∀ h, .ok (some h) ∉ gs)
    (hfirst : first (fs ++ gs) = .ok (some h)) : Reports P (first (fs' ++ gs')) := by
  rcases hgs with hgs | hgs
  · exact (first_kept (List.rel_append hfs hgs)).hit h hfirst
  · have hhit : first fs = .ok (some h) := by
      rw [first_append_eq] at hfirst
      split at hfirst
      · exact absurd (mem_of_first hfirst) (hgs h)
      · exact hfirst
    exact first_append_of_reports ((first_kept hfs).hit h hhit) gs'

/-! ### Wordings -/

/-- The wording never gives a message. -/
def Mute (write : Wording) : Prop := ∀ target reason m, write target reason ≠ .ok m

section Wordings

variable {label : Value} (h : label.isShort = false)

include h

theorem mute_call : Mute (Message.call label) := by
  obtain ⟨fault, hfault⟩ := shown_eq_error_iff.2 h
  intro target reason m hm
  rw [Message.call, hfault] at hm
  cases hm

theorem mute_construction : Mute (Message.construction label) := by
  obtain ⟨fault, hfault⟩ := shown_eq_error_iff.2 h
  intro target reason m hm
  rw [Message.construction, hfault] at hm
  cases hm

theorem mute_direct : Mute fun _ reason => Message.direct label reason := by
  obtain ⟨fault, hfault⟩ := shown_eq_error_iff.2 h
  intro target reason m hm
  simp only [Message.direct, hfault] at hm
  cases hm

end Wordings

section Muted

variable {r : Registry} {rule : Rule} {write : Wording} (hwrite : Mute write) {h : Hit}

include hwrite

theorem hitOf_ne_hit (ban : Option (Value × Value)) : hitOf rule write ban ≠ .ok (some h) := by
  cases ban with
  | none => exact fun h => by cases h
  | some b =>
    rw [hitOf]
    cases hmessage : write b.1 b.2 with
    | error fault => exact fun h => by cases h
    | ok m => exact absurd hmessage (hwrite b.1 b.2 m)

theorem classCheck_ne_hit (type : Value) : classCheck r rule type write ≠ .ok (some h) := by
  unfold classCheck
  cases TypeKey.ofValue type with
  | error fault => exact fun h => by cases h
  | ok key => exact hitOf_ne_hit hwrite _

theorem prefixCheck_ne_hit (type : Value) : prefixCheck r rule type write ≠ .ok (some h) := by
  unfold prefixCheck
  cases TypeKey.ofValue type with
  | error fault => exact fun h => by cases h
  | ok key => exact hitOf_ne_hit hwrite _

theorem packageCheck_ne_hit (package : Value) :
    packageCheck r rule package write ≠ .ok (some h) := by
  unfold packageCheck
  split
  · exact fun h => by cases h
  · cases r.packageBanOf package with
    | error fault => exact fun h => by cases h
    | ok ban => exact hitOf_ne_hit hwrite _

end Muted

/-! ### Checks -/

theorem diagnose_eq_some {r : Registry} {n : Node} {d : Diagnostic} :
    diagnose r n = .ok (some d) ↔ ∃ h place, hit r n = .ok (some h) ∧ n.location.text = .ok place
      ∧ d = ⟨n.location, h.message, some n.construct.kindName, some h.rule.name, checkName⟩ := by
  unfold diagnose
  rw [Outcome.bind_eq_ok]
  constructor
  · rintro ⟨found, hfound, hd⟩
    cases found with
    | none => cases hd
    | some h =>
      obtain ⟨place, hplace, hd⟩ := Outcome.bind_eq_ok.1 hd
      cases hd
      exact ⟨h, place, hfound, hplace, rfl⟩
  · rintro ⟨h, place, hhit, hplace, rfl⟩
    exact ⟨some h, hhit, Outcome.bind_eq_ok.2 ⟨place, hplace, rfl⟩⟩

section Checks

variable {r s : Registry} (hcovers : s.Covers r) (hs : s.Worded) {P : Prop} {rule : Rule}
  {write : Wording}

theorem hitOf_kept (hwrite : Writes write) {ban ban' : Option (Value × Value)}
    (hban : ban.isSome → ban'.isSome)
    (htext : ∀ b, ban' = some b → ∃ target reason, b = (.text target, .text reason)) :
    Kept P (hitOf rule write ban) (hitOf rule write ban') := by
  cases ban' with
  | none =>
    obtain rfl : ban = none := by simpa using hban
    exact kept_of_clear (.inl rfl)
  | some b =>
    obtain ⟨target, reason, rfl⟩ := htext b rfl
    obtain ⟨m, hm⟩ := hwrite target reason
    have hreports : Reports P (hitOf rule write (some (.text target, .text reason))) :=
      .inl ⟨⟨rule, m⟩, by rw [hitOf, hm]; rfl⟩
    exact ⟨fun _ _ => hreports, fun _ => .inr hreports⟩

/-- A name that is looked up in a table that has all names of another one. -/
theorem lookup_kept {t u : ReasonTable} (hnames : ∀ name ∈ t.keys, name ∈ u.keys)
    (htext : ∀ {name reason}, u.get? name = some reason → ∃ text, reason = .text text)
    (hwrite : Writes write) {v target : Value}
    (htarget : ∀ name, v = .text name → ∃ name, target = .text name) :
    Kept P
      ((t.lookup v).map Registry.stated >>= fun ban =>
        hitOf rule write (ban.map fun reason => (target, reason)))
      ((u.lookup v).map Registry.stated >>= fun ban =>
        hitOf rule write (ban.map fun reason => (target, reason))) := by
  cases v with
  | scalar x =>
    cases x with
    | text name =>
      refine hitOf_kept hwrite (fun hban => ?_) fun b hb => ?_
      · rw [Option.isSome_map] at hban ⊢
        exact Registry.isSome_stated htext (hnames name (Registry.mem_keys_of_stated hban))
      · obtain ⟨reason, hreason, rfl⟩ := Option.map_eq_some_iff.1 hb
        obtain ⟨text, rfl⟩ := htext (eq_some_of_stated hreason)
        obtain ⟨shown, rfl⟩ := htarget name rfl
        exact ⟨shown, text, rfl⟩
    | _ => exact kept_of_clear (.inl rfl)
  | _ => exact kept_of_error _ _

include hcovers hs

theorem classCheck_kept (hwrite : Writes write) (type : Value) :
    Kept P (classCheck r rule type write) (classCheck s rule type write) := by
  unfold classCheck
  cases TypeKey.ofValue type with
  | error fault => exact kept_of_error fault _
  | ok key =>
    exact lookup_kept (v := .text key) hcovers.classes hs.classes hwrite fun name _ => ⟨key, rfl⟩

theorem nameCheck_kept (name : Value) : Kept P (nameCheck r rule name) (nameCheck s rule name) :=
  lookup_kept hcovers.classes hs.classes writes_direct fun text h => ⟨text, h⟩

theorem packageCheck_kept (hwrite : Writes write) (package : Value) :
    Kept P (packageCheck r rule package write) (packageCheck s rule package write) := by
  unfold packageCheck
  split
  · exact kept_of_clear (.inl rfl)
  · exact lookup_kept hcovers.packages hs.packages hwrite fun text h => ⟨text, h⟩

theorem prefixCheck_kept (hwrite : Writes write) (type : Value) :
    Kept P (prefixCheck r rule type write) (prefixCheck s rule type write) := by
  unfold prefixCheck
  cases TypeKey.ofValue type with
  | error fault => exact kept_of_error fault _
  | ok key =>
    refine hitOf_kept hwrite (fun hban => ?_) fun b hb => ?_
    · rw [Option.isSome_map] at hban ⊢
      obtain ⟨p, hp, hstarts⟩ := Registry.isSome_prefixBan_iff.1 hban
      exact Registry.isSome_prefixBan_iff.2 ⟨p, hcovers.packages p hp, hstarts⟩
    · obtain ⟨⟨package, reason⟩, hfound, rfl⟩ := Option.map_eq_some_iff.1 hb
      obtain ⟨text, rfl⟩ := hs.packages (Registry.prefixBan_eq_some_iff.1 hfound).2
      exact ⟨package, text, rfl⟩

/-- The name of the method is looked up only if its class has banned methods, so with more bans it
may be a fault that it cannot be looked up. -/
theorem methodCheck_kept (owner name : Value) :
    Kept (name.isKey = false) (methodCheck r rule owner name) (methodCheck s rule owner name) := by
  unfold methodCheck
  cases TypeKey.ofValue owner with
  | error fault => exact kept_of_error fault _
  | ok key =>
    show Kept _ (r.methodBan (.text key) name >>= _) (s.methodBan (.text key) name >>= _)
    cases hname : name.isKey with
    | true =>
      rw [r.methodBan_eq_lookup key hname, s.methodBan_eq_lookup key hname]
      exact lookup_kept (hcovers.methodsOf key) hs.methodsOf (writes_call rfl)
        fun _ _ => ⟨key, rfl⟩
    | false =>
      rcases r.methodBan_of_parts key hname with hr | ⟨fault, hr⟩
      · rw [hr]
        rcases s.methodBan_of_parts key hname with hsban | ⟨fault, hsban⟩
        · rw [hsban]
          exact kept_of_clear (.inl rfl)
        · rw [hsban]
          exact kept_of_clear (.inr (.inr ⟨rfl, fault, rfl⟩))
      · rw [hr]
        exact kept_of_error fault _

/-! ### Constructs -/

theorem typeChecks_kept (classRule packageRule : Rule) (type : Value) :
    List.Forall₂ (Kept P) (typeChecks r classRule packageRule type)
      (typeChecks s classRule packageRule type) :=
  .cons (classCheck_kept hcovers hs writes_direct type)
    (.cons (prefixCheck_kept hcovers hs writes_direct type) .nil)

theorem argumentChecks_kept {method : Symbol} (h : method.label.isShort = true) (a : Argument) :
    List.Forall₂ (Kept P) (argumentChecks r method a) (argumentChecks s method a) := by
  have hwrite : Writes fun _ reason => Message.direct method.label reason :=
    fun _ reason => direct_isOk h reason
  unfold argumentChecks
  cases a.symbol with
  | none => exact .nil
  | some symbol =>
    exact .cons (classCheck_kept hcovers hs hwrite a.type)
      (.cons (packageCheck_kept hcovers hs hwrite symbol.package) .nil)

theorem parameterChecks_kept {callee : Symbol} (h : callee.label.isShort = true) (p : Parameter) :
    List.Forall₂ (Kept P) (parameterChecks r callee p) (parameterChecks s callee p) :=
  .cons (classCheck_kept hcovers hs (writes_construction h) p.type)
    (.cons (packageCheck_kept hcovers hs (writes_construction h) p.package) .nil)

omit hcovers hs in
theorem forall₂_flatMap {α : Type} {f g : α → List Finding} {xs : List α}
    (h : ∀ x, List.Forall₂ (Kept P) (f x) (g x)) :
    List.Forall₂ (Kept P) (xs.flatMap f) (xs.flatMap g) := by
  induction xs with
  | nil => exact .nil
  | cons x xs ih =>
    rw [List.flatMap_cons, List.flatMap_cons]
    exact List.rel_append (h x) ih

/-- The checks of a call that show its method, or none of them can report anything. -/
theorem checks_call_kept (method : Symbol) (result : Value) (arguments : List Argument) :
    let shown := fun r : Registry =>
      [classCheck r .callResultClass result (Message.call method.label),
        prefixCheck r .callResultPackage result (Message.call method.label)]
        ++ arguments.flatMap (argumentChecks r method)
    List.Forall₂ (Kept P) (shown r) (shown s) ∨ ∀ h, .ok (some h) ∉ shown r := by
  cases hlabel : method.label.isShort with
  | true =>
    refine .inl (List.rel_append ?_ (forall₂_flatMap (argumentChecks_kept hcovers hs hlabel)))
    exact .cons (classCheck_kept hcovers hs (writes_call hlabel) result)
      (.cons (prefixCheck_kept hcovers hs (writes_call hlabel) result) .nil)
  | false =>
    refine .inr fun h hmem => ?_
    simp only [List.mem_append, List.mem_cons, List.not_mem_nil, or_false, List.mem_flatMap] at hmem
    rcases hmem with (hmem | hmem) | ⟨a, -, hmem⟩
    · exact classCheck_ne_hit (mute_call hlabel) result hmem.symm
    · exact prefixCheck_ne_hit (mute_call hlabel) result hmem.symm
    · unfold argumentChecks at hmem
      split at hmem
      · cases hmem
      · simp only [List.mem_cons, List.not_mem_nil, or_false] at hmem
        rcases hmem with hmem | hmem
        · exact classCheck_ne_hit (mute_direct hlabel) a.type hmem.symm
        · exact packageCheck_ne_hit (mute_direct hlabel) _ hmem.symm

theorem checks_construction_kept (callee : Symbol) (parameters : List Parameter) :
    List.Forall₂ (Kept P) (parameters.flatMap (parameterChecks r callee))
        (parameters.flatMap (parameterChecks s callee))
      ∨ ∀ h, .ok (some h) ∉ parameters.flatMap (parameterChecks r callee) := by
  cases hlabel : callee.label.isShort with
  | true => exact .inl (forall₂_flatMap (parameterChecks_kept hcovers hs hlabel))
  | false =>
    refine .inr fun h hmem => ?_
    obtain ⟨p, -, hmem⟩ := List.mem_flatMap.1 hmem
    simp only [parameterChecks, List.mem_cons, List.not_mem_nil, or_false] at hmem
    rcases hmem with hmem | hmem
    · exact classCheck_ne_hit (mute_construction hlabel) p.type hmem.symm
    · exact packageCheck_ne_hit (mute_construction hlabel) p.package hmem.symm

/-- A construct that is reported is reported with more bans. -/
theorem checks_reports : ∀ {c : Construct} {h : Hit}, first (checks r c) = .ok (some h) →
    Reports (c.isNamed = false) (first (checks s c))
  | .call none _ _ _, _, hfirst => by cases hfirst
  | .call (some method) receiver result arguments, _, hfirst => by
    refine first_append_kept [_, _, _] [_, _, _] ?_
      (checks_call_kept hcovers hs method result arguments) hfirst
    exact .cons (classCheck_kept hcovers hs writes_direct receiver)
      (.cons (packageCheck_kept hcovers hs writes_direct method.package)
        (.cons (methodCheck_kept hcovers hs receiver method.name) .nil))
  | .construction none _ _, _, hfirst => by cases hfirst
  | .construction (some callee) type parameters, _, hfirst => by
    refine first_append_kept [_, _] [_, _] ?_
      (checks_construction_kept hcovers hs callee parameters) hfirst
    exact .cons (classCheck_kept hcovers hs writes_direct type)
      (.cons (packageCheck_kept hcovers hs writes_direct callee.package) .nil)
  | .importing name package, h, hfirst => by
    refine (first_kept ?_).hit h hfirst
    exact .cons (nameCheck_kept hcovers hs name)
      (.cons (packageCheck_kept hcovers hs writes_direct package) .nil)
  | .variableDecl _ type, h, hfirst =>
    (first_kept (typeChecks_kept hcovers hs _ _ type)).hit h hfirst
  | .methodDecl _ type resolved, h, hfirst => by
    rw [checks] at hfirst ⊢
    split at hfirst
    · next hresolved =>
      rw [if_pos hresolved]
      exact (first_kept (typeChecks_kept hcovers hs _ _ type)).hit h hfirst
    · cases hfirst

/-- A node that is reported is reported with more bans, at the same place and as the same kind of
node. Only a method name that cannot be looked up may be a fault instead. -/
theorem diagnose_reports {n : Node} {d : Diagnostic} (h : diagnose r n = .ok (some d)) :
    (∃ d', diagnose s n = .ok (some d') ∧ d'.location = d.location ∧ d'.nodeKind = d.nodeKind)
      ∨ n.construct.isNamed = false ∧ ∃ fault, diagnose s n = .error fault := by
  obtain ⟨k, place, hhit, hplace, rfl⟩ := diagnose_eq_some.1 h
  have hscope : n.scope.isSuppressed = false := by
    by_contra hscope
    rw [hit, if_pos (by simpa using hscope)] at hhit
    cases hhit
  rw [hit, hscope] at hhit
  rcases checks_reports hcovers hs hhit with ⟨k', hhit'⟩ | ⟨hname, fault, hhit'⟩
  · refine .inl ⟨_, diagnose_eq_some.2 ⟨k', place, ?_, hplace, rfl⟩, rfl, rfl⟩
    rw [hit, hscope]
    exact hhit'
  · refine .inr ⟨hname, fault, ?_⟩
    rw [diagnose, hit, hscope]
    simp only [Bool.false_eq_true, if_false, hhit']
    rfl

end Checks

end Match

end BannedApi
