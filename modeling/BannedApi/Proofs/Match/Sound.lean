import BannedApi.Proofs.Match.Basic
import BannedApi.Proofs.Outcome
import BannedApi.Registry.Load

/-!
Nodes that no ban list can turn into a fault.

A tree hands types, packages, signatures and positions on as they are. `Node.isSound` says of which
form they must be: a type is a text or counts as not known, a package can be looked up, and what a
message or a place shows has no number with too many digits. The reasons of a loaded registry are
texts, so every check of a sound node gives a result (`checks_isOk`), and so does the node
(`diagnose_isOk`).
-/
namespace BannedApi

/-! ### Sound values and nodes -/

namespace Value

/-- The value is a text or counts as not known. -/
def isType (v : Value) : Bool := !v.truthy || v.text?.isSome

theorem exists_eq_text {v : Value} (h : v.text?.isSome = true) : ∃ s, v = .text s := by
  cases v with
  | scalar s =>
    cases s with
    | text t => exact ⟨t, rfl⟩
    | _ => cases h
  | _ => cases h

/-- The value can be looked up. -/
def isKey (v : Value) : Bool := v.key.toOption.isSome

/-- The value can be shown. -/
def isShort (v : Value) : Bool := !v.isLongIn []

end Value

/-- The place can be put into words. -/
def Location.isSound (l : Location) : Bool :=
  l.file.text?.isSome && (l.line.isNull || l.line.isShort && l.column.isShort)

/-- The symbol can be looked up and shown. -/
def Symbol.isSound (s : Symbol) : Bool := s.name.isKey && s.package.isKey && s.label.isShort

theorem Symbol.isSound_iff {s : Symbol} :
    s.isSound = true ↔ s.name.isKey = true ∧ s.package.isKey = true ∧ s.label.isShort = true := by
  simp [isSound, and_assoc]

/-- The argument can be looked up, if it is looked at. -/
def Argument.isSound (a : Argument) : Bool := a.symbol.all fun s => a.type.isType && s.package.isKey

/-- The parameter can be looked up. -/
def Parameter.isSound (p : Parameter) : Bool := p.type.isType && p.package.isKey

/-- What is looked at of the construct has the form that it must have. -/
def Construct.isSound : Construct → Bool
  | .call none _ _ _ => true
  | .call (some method) receiver result arguments =>
    method.isSound && receiver.isType && result.isType && arguments.all (·.isSound)
  | .construction none _ _ => true
  | .construction (some callee) type parameters =>
    callee.isSound && type.isType && parameters.all (·.isSound)
  | .importing name package => name.isKey && package.isKey
  | .variableDecl _ type => type.isType
  | .methodDecl _ type resolved => !resolved.truthy || type.isType

/-- The node is suppressed, or it has a place and a construct of the form they must have. -/
def Node.isSound (n : Node) : Bool :=
  n.scope.isSuppressed || n.location.isSound && n.construct.isSound

/-- All nodes are sound, and the file can be shown. -/
def CompilationUnit.isSound (u : CompilationUnit) : Bool :=
  u.file.isShort && u.nodes.all (·.isSound)

/-! ### Reasons of a loaded registry -/

/-- All reasons are texts. -/
structure Registry.Worded (r : Registry) : Prop where
  classes : ∀ {key reason}, r.classes.get? key = some reason → ∃ s, reason = .text s
  packages : ∀ {key reason}, r.packages.get? key = some reason → ∃ s, reason = .text s
  methods : ∀ {owner table name reason}, r.methods.get? owner = some table →
    table.get? name = some reason → ∃ s, reason = .text s

theorem exists_text_of_get?_map {m : OrderedMap String} {key : String} {reason : Value}
    (h : (m.map Value.text).get? key = some reason) : ∃ s, reason = .text s := by
  rw [OrderedMap.get?_map] at h
  obtain ⟨s, -, rfl⟩ := Option.map_eq_some_iff.1 h
  exact ⟨s, rfl⟩

theorem Loader.worded_build (l : Loader) : l.build.Worded where
  classes h := exists_text_of_get?_map h
  packages h := exists_text_of_get?_map h
  methods howner h := by
    rw [build, OrderedMap.get?_map] at howner
    obtain ⟨table, -, rfl⟩ := Option.map_eq_some_iff.1 howner
    exact exists_text_of_get?_map h

namespace Match

/-! ### Messages and places -/

/-- The wording gives a message for every name and every reason. -/
def Writes (write : Wording) : Prop :=
  ∀ target reason : String, ∃ m, write (.text target) (.text reason) = .ok m

theorem shown_of_isShort {v : Value} (h : v.isShort = true) : v.shown = .ok v.display := by
  have hlong : v.isLongIn [] = false := by simpa [Value.isShort] using h
  rw [Value.shown, hlong]
  rfl

theorem shown_eq_error_iff {v : Value} : (∃ f, v.shown = .error f) ↔ v.isShort = false := by
  unfold Value.shown Value.isShort
  cases v.isLongIn [] with
  | true => simp
  | false => simp

theorem shown_text (s : String) : (Value.text s).shown = .ok s := rfl

theorem reasonOr_text (reason : String) : ∃ m, Message.reasonOr (.text reason) = .ok m := by
  unfold Message.reasonOr
  split
  · exact ⟨reason, rfl⟩
  · exact ⟨_, rfl⟩

theorem direct_isOk {label : Value} (h : label.isShort = true) (reason : String) :
    ∃ m, Message.direct label (.text reason) = .ok m := by
  obtain ⟨m, hm⟩ := reasonOr_text reason
  exact ⟨_, by rw [Message.direct, shown_of_isShort h, hm]; rfl⟩

theorem writes_direct : Writes Message.direct := fun _ reason => direct_isOk rfl reason

theorem writes_call {label : Value} (h : label.isShort = true) : Writes (Message.call label) := by
  intro target reason
  obtain ⟨m, hm⟩ := reasonOr_text reason
  exact ⟨_, by rw [Message.call, shown_of_isShort h, shown_text, hm]; rfl⟩

theorem writes_construction {label : Value} (h : label.isShort = true) :
    Writes (Message.construction label) := by
  intro target reason
  obtain ⟨m, hm⟩ := reasonOr_text reason
  exact ⟨_, by rw [Message.construction, shown_of_isShort h, shown_text, hm]; rfl⟩

theorem position_isOk {v : Value} (h : v.isShort = true) :
    ∃ text, Location.position v = .ok text := by
  unfold Location.position
  split
  · exact ⟨"", rfl⟩
  · exact ⟨_, by rw [shown_of_isShort h]; rfl⟩

theorem text_isOk {l : Location} (h : l.isSound = true) : ∃ text, l.text = .ok text := by
  obtain ⟨file, line, column⟩ := l
  simp only [Location.isSound, Bool.and_eq_true, Bool.or_eq_true] at h
  obtain ⟨hfile, hplace⟩ := h
  obtain ⟨name, rfl⟩ := Value.exists_eq_text hfile
  cases hnull : line.isNull with
  | true =>
    have hline : Location.position line = .ok "" := by rw [Location.position, hnull]; rfl
    simp only [Location.text, hline, hnull, bind, Except.bind, if_true]
    exact ⟨_, rfl⟩
  | false =>
    obtain ⟨hline, hcolumn⟩ := hplace.resolve_left (by simp [hnull])
    obtain ⟨lineText, hlineText⟩ := position_isOk hline
    obtain ⟨columnText, hcolumnText⟩ := position_isOk hcolumn
    simp only [Location.text, hlineText, hcolumnText, hnull, bind, Except.bind, Bool.false_eq_true,
      if_false]
    exact ⟨_, rfl⟩

/-! ### Checks -/

theorem ofValue_of_isType {type : Value} (h : type.isType = true) :
    ∃ key, TypeKey.ofValue type = .ok key := by
  unfold Value.isType at h
  unfold TypeKey.ofValue
  split
  · next htruthy =>
    rw [htruthy] at h
    cases type with
    | scalar s =>
      cases s with
      | text t => exact ⟨_, rfl⟩
      | _ => cases h
    | _ => cases h
  · exact ⟨_, rfl⟩

/-- What can be looked up is found only if it is a text. -/
theorem lookup_of_isKey {α : Type} (m : OrderedMap α) {v : Value} (h : v.isKey = true) :
    ∃ found, m.lookup v = .ok found
      ∧ ∀ x, found = some x → ∃ s, v = .text s ∧ m.get? s = some x := by
  cases v with
  | scalar s =>
    cases s with
    | text t => exact ⟨_, rfl, fun x hx => ⟨t, rfl, hx⟩⟩
    | _ => exact ⟨none, rfl, fun x hx => by cases hx⟩
  | _ => cases h

theorem hitOf_isOk {rule : Rule} {write : Wording} (hwrite : Writes write)
    {ban : Option (Value × Value)}
    (h : ∀ b, ban = some b → ∃ target reason, b = (.text target, .text reason)) :
    ∃ found, hitOf rule write ban = .ok found := by
  cases ban with
  | none => exact ⟨none, rfl⟩
  | some b =>
    obtain ⟨target, reason, rfl⟩ := h b rfl
    obtain ⟨m, hm⟩ := hwrite target reason
    exact ⟨_, by rw [hitOf, hm]; rfl⟩

theorem eq_some_of_stated {reason : Option Value} {x : Value}
    (h : Registry.stated reason = some x) : reason = some x :=
  Option.eq_some_of_filter_eq_some h

theorem first_isOk {fs : List Finding} (h : ∀ f ∈ fs, ∃ found, f = .ok found) :
    ∃ found, first fs = .ok found := by
  induction fs with
  | nil => exact ⟨none, rfl⟩
  | cons f fs ih =>
    obtain ⟨found, rfl⟩ := h f (List.mem_cons_self ..)
    cases found with
    | none => exact ih fun g hg => h g (List.mem_cons_of_mem _ hg)
    | some hit => exact ⟨some hit, rfl⟩

section Checks

variable {r : Registry} (hr : r.Worded) {rule : Rule} {write : Wording}

include hr

theorem classCheck_isOk (hwrite : Writes write) {type : Value} (h : type.isType = true) :
    ∃ found, classCheck r rule type write = .ok found := by
  obtain ⟨key, hkey⟩ := ofValue_of_isType h
  rw [classCheck, hkey]
  refine hitOf_isOk hwrite fun b hb => ?_
  obtain ⟨reason, hban, rfl⟩ := Option.map_eq_some_iff.1 hb
  obtain ⟨s, rfl⟩ := hr.classes (eq_some_of_stated hban)
  exact ⟨key, s, rfl⟩

theorem prefixCheck_isOk (hwrite : Writes write) {type : Value} (h : type.isType = true) :
    ∃ found, prefixCheck r rule type write = .ok found := by
  obtain ⟨key, hkey⟩ := ofValue_of_isType h
  rw [prefixCheck, hkey]
  refine hitOf_isOk hwrite fun b hb => ?_
  obtain ⟨⟨package, reason⟩, hban, rfl⟩ := Option.map_eq_some_iff.1 hb
  obtain ⟨s, rfl⟩ := hr.packages (Registry.prefixBan_eq_some_iff.1 hban).2
  exact ⟨package, s, rfl⟩

theorem packageCheck_isOk (hwrite : Writes write) {package : Value} (h : package.isKey = true) :
    ∃ found, packageCheck r rule package write = .ok found := by
  unfold packageCheck
  split
  · exact ⟨none, rfl⟩
  · obtain ⟨ban, hban, htext⟩ := lookup_of_isKey r.packages h
    rw [Registry.packageBanOf, hban]
    refine hitOf_isOk hwrite fun b hb => ?_
    obtain ⟨reason, hreason, rfl⟩ := Option.map_eq_some_iff.1 hb
    obtain ⟨target, rfl, hget⟩ := htext reason (eq_some_of_stated hreason)
    obtain ⟨s, rfl⟩ := hr.packages hget
    exact ⟨target, s, rfl⟩

theorem nameCheck_isOk {name : Value} (h : name.isKey = true) :
    ∃ found, nameCheck r rule name = .ok found := by
  obtain ⟨ban, hban, htext⟩ := lookup_of_isKey r.classes h
  rw [nameCheck, Registry.classBanOf, hban]
  refine hitOf_isOk writes_direct fun b hb => ?_
  obtain ⟨reason, hreason, rfl⟩ := Option.map_eq_some_iff.1 hb
  obtain ⟨target, rfl, hget⟩ := htext reason (eq_some_of_stated hreason)
  obtain ⟨s, rfl⟩ := hr.classes hget
  exact ⟨target, s, rfl⟩

theorem methodBan_of_isKey (owner : String) {name : Value} (h : name.isKey = true) :
    ∃ ban, r.methodBan (.text owner) name = .ok ban
      ∧ ∀ reason, ban = some reason → ∃ s, reason = .text s := by
  have hlookup : r.methods.lookup (.text owner) = .ok (r.methods.get? owner) := rfl
  rw [Registry.methodBan, hlookup]
  cases howner : r.methods.get? owner with
  | none => exact ⟨none, rfl, fun _ h => by cases h⟩
  | some table =>
    obtain ⟨ban, hban, htext⟩ := lookup_of_isKey table h
    refine ⟨Registry.stated ban, ?_, fun reason hreason => ?_⟩
    · exact congrArg (Except.map Registry.stated) hban
    · obtain ⟨key, -, hget⟩ := htext reason (eq_some_of_stated hreason)
      exact hr.methods howner hget

theorem methodCheck_isOk {owner name : Value} (howner : owner.isType = true)
    (hname : name.isKey = true) : ∃ found, methodCheck r rule owner name = .ok found := by
  obtain ⟨key, hkey⟩ := ofValue_of_isType howner
  obtain ⟨ban, hban, htext⟩ := methodBan_of_isKey hr key hname
  have hlabel : Writes (Message.call (.text (name.display ++ "()"))) := writes_call rfl
  rw [methodCheck, hkey]
  simp only [bind, Except.bind, hban]
  refine hitOf_isOk hlabel fun b hb => ?_
  obtain ⟨reason, hreason, rfl⟩ := Option.map_eq_some_iff.1 hb
  obtain ⟨s, rfl⟩ := htext reason hreason
  exact ⟨key, s, rfl⟩

/-! ### Constructs -/

theorem argumentChecks_isOk {method : Symbol} (hmethod : method.isSound = true) {a : Argument}
    (ha : a.isSound = true) : ∀ f ∈ argumentChecks r method a, ∃ found, f = .ok found := by
  unfold argumentChecks
  unfold Argument.isSound at ha
  obtain ⟨-, -, hlabel⟩ := Symbol.isSound_iff.1 hmethod
  have hwrite : Writes fun _ reason => Message.direct method.label reason :=
    fun _ reason => direct_isOk hlabel reason
  cases hsymbol : a.symbol with
  | none => simp
  | some symbol =>
    rw [hsymbol] at ha
    simp only [Option.all_some, Bool.and_eq_true] at ha
    intro f hf
    simp only [List.mem_cons, List.not_mem_nil, or_false] at hf
    rcases hf with rfl | rfl
    · exact classCheck_isOk hr hwrite ha.1
    · exact packageCheck_isOk hr hwrite ha.2

theorem parameterChecks_isOk {callee : Symbol} (hcallee : callee.isSound = true) {p : Parameter}
    (hp : p.isSound = true) : ∀ f ∈ parameterChecks r callee p, ∃ found, f = .ok found := by
  unfold Parameter.isSound at hp
  simp only [Bool.and_eq_true] at hp
  obtain ⟨-, -, hlabel⟩ := Symbol.isSound_iff.1 hcallee
  have hwrite := writes_construction hlabel
  intro f hf
  simp only [parameterChecks, List.mem_cons, List.not_mem_nil, or_false] at hf
  rcases hf with rfl | rfl
  · exact classCheck_isOk hr hwrite hp.1
  · exact packageCheck_isOk hr hwrite hp.2

theorem typeChecks_isOk {classRule packageRule : Rule} {type : Value} (h : type.isType = true) :
    ∀ f ∈ typeChecks r classRule packageRule type, ∃ found, f = .ok found := by
  intro f hf
  simp only [typeChecks, List.mem_cons, List.not_mem_nil, or_false] at hf
  rcases hf with rfl | rfl
  · exact classCheck_isOk hr writes_direct h
  · exact prefixCheck_isOk hr writes_direct h

/-- Every check of a sound construct gives a result. -/
theorem checks_isOk : ∀ {c : Construct}, c.isSound = true → ∀ f ∈ checks r c, ∃ found, f = .ok found
  | .call none _ _ _, _ => by simp [checks]
  | .call (some method) receiver result arguments, h => by
    simp only [Construct.isSound, Bool.and_eq_true, List.all_eq_true] at h
    obtain ⟨⟨⟨hmethod, hreceiver⟩, hresult⟩, harguments⟩ := h
    obtain ⟨hname, hpackage, hlabel⟩ := Symbol.isSound_iff.1 hmethod
    intro f hf
    simp only [checks, List.mem_append, List.mem_cons, List.not_mem_nil, or_false] at hf
    rcases hf with (rfl | rfl | rfl | rfl | rfl) | hf
    · exact classCheck_isOk hr writes_direct hreceiver
    · exact packageCheck_isOk hr writes_direct hpackage
    · exact methodCheck_isOk hr hreceiver hname
    · exact classCheck_isOk hr (writes_call hlabel) hresult
    · exact prefixCheck_isOk hr (writes_call hlabel) hresult
    · obtain ⟨a, ha, hfa⟩ := List.mem_flatMap.1 hf
      exact argumentChecks_isOk hr hmethod (harguments a ha) f hfa
  | .construction none _ _, _ => by simp [checks]
  | .construction (some callee) type parameters, h => by
    simp only [Construct.isSound, Bool.and_eq_true, List.all_eq_true] at h
    obtain ⟨⟨hcallee, htype⟩, hparameters⟩ := h
    obtain ⟨-, hpackage, -⟩ := Symbol.isSound_iff.1 hcallee
    intro f hf
    simp only [checks, List.mem_append, List.mem_cons, List.not_mem_nil, or_false] at hf
    rcases hf with (rfl | rfl) | hf
    · exact classCheck_isOk hr writes_direct htype
    · exact packageCheck_isOk hr writes_direct hpackage
    · obtain ⟨p, hp, hfp⟩ := List.mem_flatMap.1 hf
      exact parameterChecks_isOk hr hcallee (hparameters p hp) f hfp
  | .importing name package, h => by
    simp only [Construct.isSound, Bool.and_eq_true] at h
    intro f hf
    simp only [checks, List.mem_cons, List.not_mem_nil, or_false] at hf
    rcases hf with rfl | rfl
    · exact nameCheck_isOk hr h.1
    · exact packageCheck_isOk hr writes_direct h.2
  | .variableDecl _ type, h => typeChecks_isOk hr h
  | .methodDecl _ type resolved, h => by
    simp only [Construct.isSound] at h
    rw [checks]
    cases hresolved : resolved.truthy with
    | true =>
      rw [hresolved] at h
      exact typeChecks_isOk hr h
    | false => simp

/-- A sound node gives a result, whatever the bans. -/
theorem diagnose_isOk {n : Node} (h : n.isSound = true) : ∃ found, diagnose r n = .ok found := by
  -- The place is put into words only if there is a hit, so it must be sound only then.
  have hhit : ∃ found, hit r n = .ok found
      ∧ (found.isSome → ∃ text, n.location.text = .ok text) := by
    unfold hit
    split
    · exact ⟨none, rfl, fun hsome => by cases hsome⟩
    · next hscope =>
      simp only [Node.isSound, hscope, Bool.false_or, Bool.and_eq_true] at h
      obtain ⟨found, hfound⟩ := first_isOk (checks_isOk hr h.2)
      exact ⟨found, hfound, fun _ => text_isOk h.1⟩
  obtain ⟨found, hfound, hplace⟩ := hhit
  rw [diagnose, hfound]
  cases found with
  | none => exact ⟨none, rfl⟩
  | some hit =>
    obtain ⟨text, htext⟩ := hplace rfl
    simp only [bind, Except.bind, htext]
    exact ⟨_, rfl⟩

end Checks

end Match

end BannedApi
