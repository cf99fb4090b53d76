import BannedApi.Proofs.Match.Agenda

/-!
Calls: which of the bans that concern a call is reported.

A call whose types and packages are texts, or not known, can break seven rules: by its receiver, by
the package and the name of its method, by its result, and by each argument that refers to a symbol.
The checks are ranked, those of the arguments one after the other, and what is reported is the first
ban that holds (`diagnose_call`).
-/
namespace BannedApi

/-- An argument with a text for its type, if that is known. -/
structure TypedArgument where
  type : Option String := none
  symbol : Option NamedSymbol := none

/-- The argument as it stands in a node. -/
def TypedArgument.toArgument (a : TypedArgument) : Argument :=
  ⟨Value.ofText? a.type, a.symbol.map NamedSymbol.toSymbol⟩

/-- A call of a resolved method, with texts for the types and packages that are known. -/
structure TypedCall where
  method : NamedSymbol
  receiver : Option String := none
  result : Option String := none
  arguments : List TypedArgument := []

/-- The call as it stands in a node. -/
def TypedCall.construct (c : TypedCall) : Construct :=
  .call (some c.method.toSymbol) (Value.ofText? c.receiver) (Value.ofText? c.result)
    (c.arguments.map TypedArgument.toArgument)

/-! ### The checks and their order -/

/-- The checks of a call; the arguments are counted. -/
inductive CallCheck where
  | receiverClass | methodPackage | bannedMethod | resultClass | resultPackage
  | argumentClass (i : Nat) | argumentPackage (i : Nat)
  deriving DecidableEq, Repr

namespace CallCheck

/-- The place of a check in the order of all checks. -/
def rank : CallCheck → Nat
  | .receiverClass => 0
  | .methodPackage => 1
  | .bannedMethod => 2
  | .resultClass => 3
  | .resultPackage => 4
  | .argumentClass i => 5 + 2 * i
  | .argumentPackage i => 6 + 2 * i

/-- The rule that a check stands for. -/
def rule : CallCheck → Rule
  | .receiverClass => .callReceiverClass
  | .methodPackage => .callMethodPackage
  | .bannedMethod => .callBannedMethod
  | .resultClass => .callResultClass
  | .resultPackage => .callResultPackage
  | .argumentClass _ => .callArgumentClass
  | .argumentPackage _ => .callArgumentPackage

end CallCheck

namespace TypedCall

open Message (because directText callText)

variable (r : Registry) (c : TypedCall)

/-- The check finds a ban: of this class or package, for this reason. -/
def Bans (check : CallCheck) (target : String) (reason : Value) : Prop :=
  match check with
  | .receiverClass => target = TypeKey.ofText? c.receiver ∧ r.classBan target = some reason
  | .methodPackage => c.method.package = some target ∧ r.packageBan target = some reason
  | .bannedMethod => target = TypeKey.ofText? c.receiver
      ∧ ∃ names, r.methods.get? target = some names ∧ Registry.stated (names.get? c.method.name)
        = some reason
  | .resultClass => target = TypeKey.ofText? c.result ∧ r.classBan target = some reason
  | .resultPackage => r.LongestPrefix (TypeKey.ofText? c.result) target
      ∧ r.packages.get? target = some reason
  | .argumentClass i => ∃ a, c.arguments[i]? = some a ∧ a.symbol.isSome
      ∧ target = TypeKey.ofText? a.type ∧ r.classBan target = some reason
  | .argumentPackage i => ∃ a symbol, c.arguments[i]? = some a ∧ a.symbol = some symbol
      ∧ symbol.package = some target ∧ r.packageBan target = some reason

/-- The check finds a ban, and no check before it does. -/
def BansFirst (check : CallCheck) (target : String) (reason : Value) : Prop :=
  c.Bans r check target reason
    ∧ ∀ other : CallCheck, other.rank < check.rank → ∀ t x, ¬ c.Bans r other t x

/-! ### What is said -/

/-- What is said when a check is the first that finds a ban. -/
def message (check : CallCheck) (target : String) (reason : Value) : String :=
  match check with
  | .receiverClass | .methodPackage => directText target (because reason)
  | .bannedMethod => callText (c.method.name ++ "()") target (because reason)
  | .resultClass | .resultPackage => callText c.method.label.display target (because reason)
  | .argumentClass _ | .argumentPackage _ => directText c.method.label.display (because reason)

/-- The values that a message puts into words. -/
def shown (check : CallCheck) (reason : Value) : List Value :=
  let reasons := if reason.truthy then [reason] else []
  match check with
  | .receiverClass | .methodPackage | .bannedMethod => reasons
  | .resultClass | .resultPackage => c.method.label :: reasons
  | .argumentClass _ | .argumentPackage _ => c.method.label :: reasons

/-- How the message of a check is made. -/
def wording : CallCheck → Match.Wording
  | .receiverClass | .methodPackage => Message.direct
  | .bannedMethod => Message.call (.text (c.method.name ++ "()"))
  | .resultClass | .resultPackage => Message.call c.method.label
  | .argumentClass _ | .argumentPackage _ => fun _ reason => Message.direct c.method.label reason

theorem wording_eq (check : CallCheck) (target : String) (reason : Value) :
    c.wording check (.text target) reason
      = if (c.shown check reason).any (·.isLongIn []) then .error .tooManyDigits
        else .ok (c.message check target reason) := by
  have hreasons := Message.any_isLong_reasons reason
  cases check with
  | receiverClass | methodPackage =>
    simp only [shown, hreasons]
    exact Message.direct_eq (.text target) reason
  | bannedMethod =>
    simp only [shown, hreasons]
    exact Message.call_eq (.text (c.method.name ++ "()")) reason target
  | resultClass | resultPackage =>
    simp only [shown, List.any_cons, hreasons]
    exact Message.call_eq c.method.label reason target
  | argumentClass i | argumentPackage i =>
    simp only [shown, List.any_cons, hreasons]
    exact Message.direct_eq c.method.label reason

/-! ### What the checks find -/

/-- The ban that a check finds. -/
def ban? : CallCheck → Option (String × Value)
  | .receiverClass => r.banOfType? c.receiver
  | .methodPackage => r.banOfPackage? c.method.package
  | .bannedMethod => (r.methods.get? (TypeKey.ofText? c.receiver)).bind fun names =>
      (Registry.stated (names.get? c.method.name)).map (TypeKey.ofText? c.receiver, ·)
  | .resultClass => r.banOfType? c.result
  | .resultPackage => r.prefixBan (TypeKey.ofText? c.result)
  | .argumentClass i => c.arguments[i]?.bind fun a => a.symbol.bind fun _ => r.banOfType? a.type
  | .argumentPackage i =>
    c.arguments[i]?.bind fun a => a.symbol.bind fun s => r.banOfPackage? s.package

/-- The checks that are made for the argument with a number: none without a symbol. -/
def checksOf (a : TypedArgument × Nat) : List CallCheck :=
  if a.1.symbol.isSome then [.argumentClass a.2, .argumentPackage a.2] else []

/-- The checks that are made for a call, in order. -/
def checks : List CallCheck :=
  [.receiverClass, .methodPackage, .bannedMethod, .resultClass, .resultPackage]
    ++ c.arguments.zipIdx.flatMap checksOf

theorem ban?_eq_some_iff {check : CallCheck} {target : String} {reason : Value} :
    c.ban? r check = some (target, reason) ↔ c.Bans r check target reason := by
  cases check with
  | receiverClass => exact Registry.banOfType?_eq_some_iff
  | methodPackage => exact Registry.banOfPackage?_eq_some_iff
  | bannedMethod =>
    simp only [ban?, Bans, Option.bind_eq_some_iff, Option.map_eq_some_iff, Prod.mk.injEq]
    constructor
    · rintro ⟨names, hnames, x, hx, rfl, rfl⟩
      exact ⟨rfl, names, hnames, hx⟩
    · rintro ⟨rfl, names, hnames, hx⟩
      exact ⟨names, hnames, reason, hx, rfl, rfl⟩
  | resultClass => exact Registry.banOfType?_eq_some_iff
  | resultPackage => exact Registry.prefixBan_eq_some_iff
  | argumentClass i =>
    simp only [ban?, Bans, Option.bind_eq_some_iff, Registry.banOfType?_eq_some_iff,
      exists_and_right, Option.isSome_iff_exists]
  | argumentPackage i =>
    simp only [ban?, Bans, Option.bind_eq_some_iff, Registry.banOfPackage?_eq_some_iff,
      exists_and_left]

theorem mem_checksOf {a : TypedArgument × Nat} {check : CallCheck} (h : check ∈ checksOf a) :
    check = .argumentClass a.2 ∨ check = .argumentPackage a.2 := by
  unfold checksOf at h
  split at h
  · simpa using h
  · cases h

/-- The checks are made in the order of their ranks. -/
theorem pairwise_checks : c.checks.Pairwise fun a b => a.rank < b.rank := by
  refine List.pairwise_append.2 ⟨by decide, List.pairwise_flatMap.2 ⟨?_, ?_⟩, ?_⟩
  · intro a _
    unfold checksOf
    split
    · simp [CallCheck.rank]
    · exact .nil
  · refine (Match.pairwise_zipIdx c.arguments).imp fun {a b} hlt x hx y hy => ?_
    rcases mem_checksOf hx with rfl | rfl <;> rcases mem_checksOf hy with rfl | rfl <;>
      simp only [CallCheck.rank] <;> omega
  · intro x hx y hy
    obtain ⟨a, -, ha⟩ := List.mem_flatMap.1 hy
    have hx : x.rank < 5 := by
      revert x
      decide
    have hy : 5 ≤ y.rank := by
      rcases mem_checksOf ha with rfl | rfl <;> simp only [CallCheck.rank] <;> omega
    omega

theorem mem_checks_of_bans {check : CallCheck} {target : String} {reason : Value}
    (h : c.Bans r check target reason) : check ∈ c.checks := by
  rw [checks, List.mem_append, List.mem_flatMap]
  cases check with
  | argumentClass i =>
    obtain ⟨a, ha, hsymbol, -⟩ := h
    exact .inr ⟨(a, i), List.mk_mem_zipIdx_iff_getElem?.2 ha, by simp [checksOf, hsymbol]⟩
  | argumentPackage i =>
    obtain ⟨a, symbol, ha, hsymbol, -⟩ := h
    exact .inr ⟨(a, i), List.mk_mem_zipIdx_iff_getElem?.2 ha, by simp [checksOf, hsymbol]⟩
  | _ => exact .inl (by decide)

/-! ### The first check that finds a ban -/

/-- The checks of a call, ranked. -/
def agenda : Match.Agenda CallCheck where
  rank := CallCheck.rank
  rule := CallCheck.rule
  ban? := c.ban? r
  wording := c.wording
  checks := c.checks
  ordered := c.pairwise_checks
  complete _ _ h := c.mem_checks_of_bans r ((c.ban?_eq_some_iff r).1 h)

theorem ban?_agenda (check : CallCheck) (target : String) (reason : Value) :
    (c.agenda r).ban? check = some (target, reason) ↔ c.Bans r check target reason :=
  c.ban?_eq_some_iff r

theorem ban?_eq_none_iff {check : CallCheck} :
    c.ban? r check = none ↔ ∀ target reason, ¬ c.Bans r check target reason :=
  Match.Agenda.ban?_eq_none_iff (c.ban?_agenda r)

theorem bansFirst_iff {check : CallCheck} {target : String} {reason : Value} :
    c.BansFirst r check target reason ↔ (c.agenda r).FindsFirst check (target, reason) :=
  (Match.Agenda.findsFirst_iff (c.ban?_agenda r)).symm

theorem methodCheck_eq :
    Match.methodCheck r .callBannedMethod (Value.ofText? c.receiver) (.text c.method.name)
      = (c.agenda r).finding .bannedMethod := by
  rw [Match.methodCheck, TypeKey.ofValue_ofText?, Match.Agenda.finding]
  simp only [agenda, ban?, Registry.methodBan, OrderedMap.lookup, bind, Except.bind]
  cases r.methods.get? (TypeKey.ofText? c.receiver) with
  | none => rfl
  | some names =>
    rw [Option.bind_some, Option.map_map]
    rfl

theorem argumentChecks_eq {a : TypedArgument × Nat} (h : c.arguments[a.2]? = some a.1) :
    Match.argumentChecks r c.method.toSymbol a.1.toArgument
      = (checksOf a).map (c.agenda r).finding := by
  obtain ⟨⟨type, symbol⟩, i⟩ := a
  cases symbol with
  | none => rfl
  | some symbol =>
    simp only [Match.argumentChecks, TypedArgument.toArgument, Option.map_some,
      NamedSymbol.toSymbol, Match.classCheck_eq, Match.packageCheck_eq, checksOf,
      Option.isSome_some, if_true, List.map_cons, List.map_nil, Match.Agenda.finding, agenda, ban?,
      h, Option.bind_some]
    rfl

/-- The checks of the construct are those of the agenda. -/
theorem checks_construct :
    Match.checks r c.construct = (c.agenda r).checks.map (c.agenda r).finding := by
  show _ = c.checks.map (c.agenda r).finding
  rw [checks, List.map_append]
  refine congrArg₂ (· ++ ·) ?_ ?_
  · simp only [Match.prefixCheck_eq, NamedSymbol.toSymbol, Match.classCheck_eq,
      Match.packageCheck_eq, methodCheck_eq]
    rfl
  · rw [List.map_flatMap, List.flatMap_map]
    exact Match.flatMap_eq_zipIdx c.arguments fun a ha => argumentChecks_eq r c ha

theorem hit_of_not_bans {n : Node} (hn : n.construct = c.construct)
    (h : ∀ check target reason, ¬ c.Bans r check target reason) : Match.hit r n = .ok none := by
  unfold Match.hit
  split
  · rfl
  · rw [hn, checks_construct]
    exact (c.agenda r).first_of_none fun check => (c.ban?_eq_none_iff r).2 (h check)

/-- Where a check finds a ban there is a first one. -/
theorem exists_bansFirst {check : CallCheck} {target : String} {reason : Value}
    (h : c.Bans r check target reason) :
    ∃ first target reason, c.BansFirst r first target reason := by
  obtain ⟨first, ⟨t, x⟩, hfirst⟩ :=
    Match.Agenda.exists_findsFirst (a := c.agenda r) ((c.ban?_eq_some_iff r).2 h)
  exact ⟨first, t, x, (c.bansFirst_iff r).2 hfirst⟩

/-- The check on the package of the result finds a ban where the result starts with any banned
package. -/
theorem bans_resultPackage_iff :
    (∃ target reason, c.Bans r .resultPackage target reason)
      ↔ ∃ p ∈ r.packages.keys, p.toList <+: (TypeKey.ofText? c.result).toList := by
  rw [← Registry.isSome_prefixBan_iff, Option.isSome_iff_exists, Prod.exists]
  exact exists₂_congr fun target reason => Registry.prefixBan_eq_some_iff.symm

theorem BansFirst.unique {r : Registry} {c : TypedCall} {a b : CallCheck} {s t : String}
    {x y : Value} (ha : c.BansFirst r a s x) (hb : c.BansFirst r b t y) : a = b :=
  ((c.bansFirst_iff r).1 ha).unique ((c.bansFirst_iff r).1 hb)

theorem diagnose_of_bansFirst (location : Location) {scope : Scope}
    (hscope : scope.isSuppressed = false) {check : CallCheck} {target : String} {reason : Value}
    (h : c.BansFirst r check target reason) :
    Match.diagnose r ⟨location, scope, c.construct⟩
      = if (c.shown check reason).any (·.isLongIn []) then .error .tooManyDigits
        else location.text.map fun _ =>
          some ⟨location, c.message check target reason, some "call", some check.rule.name,
            "XplatBans"⟩ := by
  have hwording := c.wording_eq check target reason
  exact Match.Agenda.diagnose_of_wording (c.checks_construct r) hscope location
    ((c.bansFirst_iff r).1 h) hwording

theorem diagnose_ne_none (location : Location) {scope : Scope}
    (hscope : scope.isSuppressed = false) {check : CallCheck} {target : String} {reason : Value}
    (h : c.Bans r check target reason) :
    Match.diagnose r ⟨location, scope, c.construct⟩ ≠ .ok none := by
  intro hnone
  have hnot := (Match.Agenda.diagnose_eq_none_iff (a := c.agenda r) (c.checks_construct r) hscope
    location).1 hnone check
  exact (c.ban?_eq_none_iff r).1 hnot target reason h

/-- The precedence of the bans on a call. Outside suppressed declarations a call has no diagnostic
if and only if no check finds a ban. If some do, one of them is the first, and the diagnostic is
made from what that one finds: its rule, the place of the call and the message of its target and its
reason. There is none only when the message would hold a number with too many digits or when the
place cannot be put into words, and then the fault says so. For the package of the result any banned
package that the result starts with counts, and the longest is named. -/
theorem diagnose_call (location : Location) (scope : Scope) (hscope : scope.isSuppressed = false) :
    (Match.diagnose r ⟨location, scope, c.construct⟩ = .ok none
        ↔ ∀ check target reason, ¬ c.Bans r check target reason)
      ∧ ((∃ check target reason, c.Bans r check target reason) →
          ∃! check, ∃ target reason, c.BansFirst r check target reason)
      ∧ (∀ check target reason, c.BansFirst r check target reason →
          Match.diagnose r ⟨location, scope, c.construct⟩
            = if (c.shown check reason).any (·.isLongIn []) then .error .tooManyDigits
              else location.text.map fun _ =>
                some ⟨location, c.message check target reason, some "call", some check.rule.name,
                  "XplatBans"⟩)
      ∧ ((∃ target reason, c.Bans r .resultPackage target reason)
          ↔ ∃ p ∈ r.packages.keys, p.toList <+: (TypeKey.ofText? c.result).toList) := by
  refine ⟨⟨fun hnone check target reason hbans => ?_, fun hnot => ?_⟩, ?_,
    fun check target reason h => ?_, c.bans_resultPackage_iff r⟩
  · exact c.diagnose_ne_none r location hscope hbans hnone
  · rw [Match.diagnose, hit_of_not_bans r c rfl hnot]
    rfl
  · rintro ⟨check, target, reason, hbans⟩
    obtain ⟨first, t, x, h⟩ := c.exists_bansFirst r hbans
    refine ⟨first, ⟨t, x, h⟩, ?_⟩
    rintro other ⟨t', x', h'⟩
    exact h'.unique h
  · exact c.diagnose_of_bansFirst r location hscope h

/-- A registry that bans a class and a package, neither of them with a reason. -/
def sampleBans : Registry :=
  { classes := .ofList [("x.Y", .text "")], packages := .ofList [("p.q", .text "")] }

/-- A call with a literal of the banned class and then a variable of the banned package. -/
def sampleCall : TypedCall :=
  { method := { name := "run" }, result := some "z.Z<x.Y>"
    arguments := [{ type := some "x.Y" },
      { type := some "z.Z", symbol := some { name := "f", package := some "p.q" } }] }

/-- The literal has no symbol, so what is reported is the package of the variable. -/
theorem diagnose_call_argument :
    Scope.isSuppressed [] = false
      ∧ Match.diagnose sampleBans ⟨⟨.text "T.java", .null, .null⟩, [], sampleCall.construct⟩
        = .ok (some ⟨⟨.text "T.java", .null, .null⟩,
            "Use of run has been banned due to cross platform incompatibility.", some "call",
            some "call-argument-package", "XplatBans"⟩) := by
  have hbans : sampleCall.Bans sampleBans (.argumentPackage 1) "p.q" (.text "") :=
    ⟨_, _, rfl, rfl, rfl, rfl⟩
  have hbefore : ∀ other : CallCheck, other.rank < 8 → ∀ t x,
      ¬ sampleCall.Bans sampleBans other t x := by
    intro other hrank t x hother
    rw [← ban?_eq_some_iff] at hother
    have hnone : sampleCall.ban? sampleBans other = none := by
      cases other with
      | argumentClass i =>
        obtain rfl | rfl : i = 0 ∨ i = 1 := by
          simp only [CallCheck.rank] at hrank
          omega
        · rfl
        · rfl
      | argumentPackage i =>
        obtain rfl : i = 0 := by
          simp only [CallCheck.rank] at hrank
          omega
        rfl
      | _ => with_unfolding_all rfl
    rw [hnone] at hother
    cases hother
  have h := (diagnose_call sampleBans sampleCall ⟨.text "T.java", .null, .null⟩ [] rfl).2.2.1
    (.argumentPackage 1) "p.q" (.text "") ⟨hbans, hbefore⟩
  refine ⟨rfl, h.trans ?_⟩
  with_unfolding_all rfl

end TypedCall

end BannedApi
