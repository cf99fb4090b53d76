import BannedApi.Proofs.Match.Agenda

/-!
Constructions: which of the bans that concern an object construction is reported.

A construction whose types and packages are texts, or not known, can break four rules: by the class
that is constructed, by the package of its constructor, and by the class and the package of each
declared parameter. The parameters are looked at one after the other, both checks of one before those
of the next, and what is reported is the first ban that holds (`diagnose_construction`).
-/
namespace BannedApi

/-- A declared parameter with texts for its type and its package, if they are known. -/
structure TypedParameter where
  type : Option String := none
  package : Option String := none
  name : Value := .null

/-- The parameter as it stands in a node. -/
def TypedParameter.toParameter (p : TypedParameter) : Parameter :=
  ⟨Value.ofText? p.type, Value.ofText? p.package, p.name⟩

/-- A construction with a resolved constructor, and texts for the types and packages that are
known. -/
structure TypedConstruction where
  callee : NamedSymbol
  type : Option String := none
  parameters : List TypedParameter := []

/-- The construction as it stands in a node. -/
def TypedConstruction.construct (c : TypedConstruction) : Construct :=
  .construction (some c.callee.toSymbol) (Value.ofText? c.type)
    (c.parameters.map TypedParameter.toParameter)

/-! ### The checks and their order -/

/-- The checks of a construction; the parameters are counted. -/
inductive ConstructionCheck where
  | constructedClass | constructorPackage
  | parameterClass (i : Nat) | parameterPackage (i : Nat)
  deriving DecidableEq, Repr

namespace ConstructionCheck

/-- The place of a check in the order of all checks. -/
def rank : ConstructionCheck → Nat
  | .constructedClass => 0
  | .constructorPackage => 1
  | .parameterClass i => 2 + 2 * i
  | .parameterPackage i => 3 + 2 * i

/-- The rule that a check stands for. -/
def rule : ConstructionCheck → Rule
  | .constructedClass => .newConstructedClass
  | .constructorPackage => .newConstructorPackage
  | .parameterClass _ => .newParameterClass
  | .parameterPackage _ => .newParameterPackage

end ConstructionCheck

namespace TypedConstruction

open Message (because directText constructionText)

variable (r : Registry) (c : TypedConstruction)

/-- The check finds a ban: of this class or package, for this reason. -/
def Bans (check : ConstructionCheck) (target : String) (reason : Value) : Prop :=
  match check with
  | .constructedClass => target = TypeKey.ofText? c.type ∧ r.classBan target = some reason
  | .constructorPackage => c.callee.package = some target ∧ r.packageBan target = some reason
  | .parameterClass i => ∃ p, c.parameters[i]? = some p
      ∧ target = TypeKey.ofText? p.type ∧ r.classBan target = some reason
  | .parameterPackage i => ∃ p, c.parameters[i]? = some p
      ∧ p.package = some target ∧ r.packageBan target = some reason

/-- The check finds a ban, and no check before it does. -/
def BansFirst (check : ConstructionCheck) (target : String) (reason : Value) : Prop :=
  c.Bans r check target reason
    ∧ ∀ other : ConstructionCheck, other.rank < check.rank → ∀ t x, ¬ c.Bans r other t x

/-! ### What is said -/

/-- What is said when a check is the first that finds a ban. -/
def message (check : ConstructionCheck) (target : String) (reason : Value) : String :=
  match check with
  | .constructedClass | .constructorPackage => directText target (because reason)
  | .parameterClass _ | .parameterPackage _ =>
    constructionText c.callee.label.display target (because reason)

/-- The values that a message puts into words. -/
def shown (check : ConstructionCheck) (reason : Value) : List Value :=
  let reasons := if reason.truthy then [reason] else []
  match check with
  | .constructedClass | .constructorPackage => reasons
  | .parameterClass _ | .parameterPackage _ => c.callee.label :: reasons

/-- How the message of a check is made. -/
def wording : ConstructionCheck → Match.Wording
  | .constructedClass | .constructorPackage => Message.direct
  | .parameterClass _ | .parameterPackage _ => Message.construction c.callee.label

theorem wording_eq (check : ConstructionCheck) (target : String) (reason : Value) :
    c.wording check (.text target) reason
      = if (c.shown check reason).any (·.isLongIn []) then .error .tooManyDigits
        else .ok (c.message check target reason) := by
  have hreasons := Message.any_isLong_reasons reason
  cases check with
  | constructedClass | constructorPackage =>
    simp only [shown, hreasons]
    exact Message.direct_eq (.text target) reason
  | parameterClass i | parameterPackage i =>
    simp only [shown, List.any_cons, hreasons]
    exact Message.construction_eq c.callee.label reason target

/-! ### What the checks find -/

/-- The ban that a check finds. -/
def ban? : ConstructionCheck → Option (String × Value)
  | .constructedClass => r.banOfType? c.type
  | .constructorPackage => r.banOfPackage? c.callee.package
  | .parameterClass i => c.parameters[i]?.bind fun p => r.banOfType? p.type
  | .parameterPackage i => c.parameters[i]?.bind fun p => r.banOfPackage? p.package

/-- The checks that are made for the parameter with a number. -/
def checksOf (p : TypedParameter × Nat) : List ConstructionCheck :=
  [.parameterClass p.2, .parameterPackage p.2]

/-- The checks that are made for a construction, in order. -/
def checks : List ConstructionCheck :=
  [.constructedClass, .constructorPackage] ++ c.parameters.zipIdx.flatMap checksOf

theorem ban?_eq_some_iff {check : ConstructionCheck} {target : String} {reason : Value} :
    c.ban? r check = some (target, reason) ↔ c.Bans r check target reason := by
  cases check with
  | constructedClass => exact Registry.banOfType?_eq_some_iff
  | constructorPackage => exact Registry.banOfPackage?_eq_some_iff
  | parameterClass i =>
    simp only [ban?, Bans, Option.bind_eq_some_iff, Registry.banOfType?_eq_some_iff]
  | parameterPackage i =>
    simp only [ban?, Bans, Option.bind_eq_some_iff, Registry.banOfPackage?_eq_some_iff]

theorem mem_checksOf {p : TypedParameter × Nat} {check : ConstructionCheck} :
    check ∈ checksOf p ↔ check = .parameterClass p.2 ∨ check = .parameterPackage p.2 := by
  simp [checksOf]

/-- The checks are made in the order of their ranks. -/
theorem pairwise_checks : c.checks.Pairwise fun a b => a.rank < b.rank := by
  refine List.pairwise_append.2 ⟨by decide, List.pairwise_flatMap.2 ⟨?_, ?_⟩, ?_⟩
  · intro p _
    simp [checksOf, ConstructionCheck.rank]
  · -- both checks of one parameter come before those of the next
    refine (Match.pairwise_zipIdx c.parameters).imp fun {p q} hlt x hx y hy => ?_
    rcases mem_checksOf.1 hx with rfl | rfl <;> rcases mem_checksOf.1 hy with rfl | rfl <;>
      simp only [ConstructionCheck.rank] <;> omega
  · intro x hx y hy
    obtain ⟨p, -, hp⟩ := List.mem_flatMap.1 hy
    have hx : x.rank < 2 := by
      revert x
      decide
    have hy : 2 ≤ y.rank := by
      rcases mem_checksOf.1 hp with rfl | rfl <;> simp only [ConstructionCheck.rank] <;> omega
    omega

theorem mem_checks_of_bans {check : ConstructionCheck} {target : String} {reason : Value}
    (h : c.Bans r check target reason) : check ∈ c.checks := by
  rw [checks, List.mem_append, List.mem_flatMap]
  cases check with
  | constructedClass | constructorPackage => exact .inl (by decide)
  | parameterClass i | parameterPackage i =>
    obtain ⟨p, hp, -⟩ := h
    exact .inr ⟨(p, i), List.mk_mem_zipIdx_iff_getElem?.2 hp, by simp [checksOf]⟩

/-! ### The first check that finds a ban -/

/-- The checks of a construction, ranked. -/
def agenda : Match.Agenda ConstructionCheck where
  rank := ConstructionCheck.rank
  rule := ConstructionCheck.rule
  ban? := c.ban? r
  wording := c.wording
  checks := c.checks
  ordered := c.pairwise_checks
  complete _ _ h := c.mem_checks_of_bans r ((c.ban?_eq_some_iff r).1 h)

theorem ban?_agenda (check : ConstructionCheck) (target : String) (reason : Value) :
    (c.agenda r).ban? check = some (target, reason) ↔ c.Bans r check target reason :=
  c.ban?_eq_some_iff r

theorem ban?_eq_none_iff {check : ConstructionCheck} :
    c.ban? r check = none ↔ ∀ target reason, ¬ c.Bans r check target reason :=
  Match.Agenda.ban?_eq_none_iff (c.ban?_agenda r)

theorem bansFirst_iff {check : ConstructionCheck} {target : String} {reason : Value} :
    c.BansFirst r check target reason ↔ (c.agenda r).FindsFirst check (target, reason) :=
  (Match.Agenda.findsFirst_iff (c.ban?_agenda r)).symm

theorem parameterChecks_eq {p : TypedParameter × Nat} (h : c.parameters[p.2]? = some p.1) :
    Match.parameterChecks r c.callee.toSymbol p.1.toParameter
      = (checksOf p).map (c.agenda r).finding := by
  simp only [Match.parameterChecks, TypedParameter.toParameter, Match.classCheck_eq,
    Match.packageCheck_eq, checksOf, List.map_cons, List.map_nil, Match.Agenda.finding, agenda, ban?,
    h, Option.bind_some]
  rfl

/-- The checks of the construct are those of the agenda. -/
theorem checks_construct :
    Match.checks r c.construct = (c.agenda r).checks.map (c.agenda r).finding := by
  show _ = c.checks.map (c.agenda r).finding
  rw [checks, List.map_append]
  refine congrArg₂ (· ++ ·) ?_ ?_
  · simp only [NamedSymbol.toSymbol, Match.classCheck_eq, Match.packageCheck_eq]
    rfl
  · rw [List.map_flatMap, List.flatMap_map]
    exact Match.flatMap_eq_zipIdx c.parameters fun p hp => c.parameterChecks_eq r hp

theorem diagnose_of_bansFirst (location : Location) {scope : Scope}
    (hscope : scope.isSuppressed = false) {check : ConstructionCheck} {target : String}
    {reason : Value} (h : c.BansFirst r check target reason) :
    Match.diagnose r ⟨location, scope, c.construct⟩
      = if (c.shown check reason).any (·.isLongIn []) then .error .tooManyDigits
        else location.text.map fun _ =>
          some ⟨location, c.message check target reason, some "new_class", some check.rule.name,
            "XplatBans"⟩ := by
  have hwording := c.wording_eq check target reason
  exact Match.Agenda.diagnose_of_wording (c.checks_construct r) hscope location
    ((c.bansFirst_iff r).1 h) hwording

/-- The precedence of the bans on a construction. Outside suppressed declarations it has no
diagnostic if and only if no check finds a ban. If some do, one of them is the first, in the order of
the parameters and for each parameter its class before its package, and the diagnostic is made from
what that one finds: its rule, the place of the construction and the message of its target and its
reason. There is none only when the message would hold a number with too many digits or when the
place cannot be put into words, and then the fault says so. -/
theorem diagnose_construction (location : Location) (scope : Scope)
    (hscope : scope.isSuppressed = false) :
    (Match.diagnose r ⟨location, scope, c.construct⟩ = .ok none
        ↔ ∀ check target reason, ¬ c.Bans r check target reason)
      ∧ ((∃ check target reason, c.Bans r check target reason) →
          ∃! check, ∃ target reason, c.BansFirst r check target reason)
      ∧ (∀ check target reason, c.BansFirst r check target reason →
          Match.diagnose r ⟨location, scope, c.construct⟩
            = if (c.shown check reason).any (·.isLongIn []) then .error .tooManyDigits
              else location.text.map fun _ =>
                some ⟨location, c.message check target reason, some "new_class",
                  some check.rule.name, "XplatBans"⟩) := by
  refine ⟨?_, ?_, ?_⟩
  · rw [Match.Agenda.diagnose_eq_none_iff (a := c.agenda r) (c.checks_construct r) hscope location]
    exact forall_congr' fun check => c.ban?_eq_none_iff r
  · rintro ⟨check, target, reason, hbans⟩
    obtain ⟨first, ⟨t, x⟩, hfirst⟩ :=
      Match.Agenda.exists_findsFirst (a := c.agenda r) ((c.ban?_eq_some_iff r).2 hbans)
    refine ⟨first, ⟨t, x, (c.bansFirst_iff r).2 hfirst⟩, ?_⟩
    rintro other ⟨t', x', hother⟩
    exact ((c.bansFirst_iff r).1 hother).unique hfirst
  · intro check target reason h
    exact c.diagnose_of_bansFirst r location hscope h

/-- A registry that bans a class for a reason, and a package without one. -/
def bansOfParameters : Registry :=
  { classes := .ofList [("x.Y", .text "time")], packages := .ofList [("p.q", .text "")] }

/-- A construction with a parameter of the banned package, and then one of the banned class. -/
def sampleConstruction : TypedConstruction :=
  { callee := { name := "Pair" }, type := some "z.Pair<x.Y>"
    parameters := [{ type := some "p.q.Z", package := some "p.q" }, { type := some "x.Y" }] }

/-- The package of the first parameter goes before the class of the second. -/
theorem diagnose_construction_parameter :
    Scope.isSuppressed [] = false
      ∧ Match.diagnose bansOfParameters
          ⟨⟨.text "T.java", .null, .null⟩, [], sampleConstruction.construct⟩
        = .ok (some ⟨⟨.text "T.java", .null, .null⟩,
            "Use of this constructor (Pair) is not allowed, as p.q is banned due to "
              ++ "cross platform incompatibility.",
            some "new_class", some "new-parameter-package", "XplatBans"⟩) := by
  have hbans : sampleConstruction.Bans bansOfParameters (.parameterPackage 0) "p.q" (.text "") :=
    ⟨_, rfl, rfl, rfl⟩
  have hbefore : ∀ other : ConstructionCheck, other.rank < 3 → ∀ t x,
      ¬ sampleConstruction.Bans bansOfParameters other t x := by
    intro other hrank t x hother
    rw [← ban?_eq_some_iff] at hother
    have hnone : sampleConstruction.ban? bansOfParameters other = none := by
      cases other with
      | constructedClass | constructorPackage => with_unfolding_all rfl
      | parameterClass i =>
        obtain rfl : i = 0 := by
          simp only [ConstructionCheck.rank] at hrank
          omega
        with_unfolding_all rfl
      | parameterPackage i =>
        simp only [ConstructionCheck.rank] at hrank
        omega
    rw [hnone] at hother
    cases hother
  have h := (diagnose_construction bansOfParameters sampleConstruction
    ⟨.text "T.java", .null, .null⟩ [] rfl).2.2 (.parameterPackage 0) "p.q" (.text "")
    ⟨hbans, hbefore⟩
  refine ⟨rfl, h.trans ?_⟩
  with_unfolding_all rfl

end TypedConstruction

end BannedApi
