import BannedApi.Match
import BannedApi.Proofs.Registry.Prefix

/-!
The checks on types and packages that are texts or not known.

Such a type always has a key, so a check comes down to a lookup (`classCheck_eq`, `packageCheck_eq`,
`prefixCheck_eq`), and its message to a template, as long as nothing in it has too many digits
(`direct_eq`, `call_eq`, `construction_eq`). Of several checks the first that finds something counts
(`first_append`).
-/
namespace BannedApi

/-- A text that may not be known, as it stands in a tree. -/
def Value.ofText? : Option String → Value
  | none => .null
  | some s => .text s

/-- The key of a type that is a text or not known. -/
def TypeKey.ofText? : Option String → String
  | none => unknown
  | some s => if s = "" then unknown else ofText s

theorem TypeKey.ofValue_ofText? (type : Option String) :
    ofValue (Value.ofText? type) = .ok (ofText? type) := by
  cases type with
  | none => rfl
  | some s =>
    by_cases h : s = ""
    · subst h
      rfl
    · have htruthy : (Value.text s).truthy = true := by simpa [Value.truthy] using h
      simp only [ofValue, Value.ofText?, ofText?, htruthy, if_true, if_neg h]

/-- A symbol with a text for its package, if that is known. -/
structure NamedSymbol where
  name : String
  package : Option String := none
  signature : Value := .null

/-- The symbol as it stands in a node. -/
def NamedSymbol.toSymbol (s : NamedSymbol) : Symbol :=
  ⟨.text s.name, Value.ofText? s.package, s.signature⟩

/-- How a symbol is called: by its signature if it has one. -/
def NamedSymbol.label (s : NamedSymbol) : Value :=
  if s.signature.truthy then s.signature else .text s.name

namespace Message

/-- The reason in words; one that is empty or nothing is the default one. -/
def because (reason : Value) : String :=
  if reason.truthy then reason.display else "cross platform incompatibility."

/-- What is said of something that is banned itself. -/
def directText (target reason : String) : String :=
  s!"Use of {target} has been banned due to {reason}"

/-- What is said of a method because of something else that is banned. -/
def callText (method target reason : String) : String :=
  s!"Use of {method} is not allowed, as {target} has been banned due to {reason}"

/-- What is said of a constructor because of a parameter that is banned. -/
def constructionText (constructor target reason : String) : String :=
  s!"Use of this constructor ({constructor}) is not allowed, as {target} is banned due to {reason}"

/-- The reason cannot be put into words. -/
def isLongReason (reason : Value) : Bool := reason.truthy && reason.isLongIn []

theorem reasonOr_eq (reason : Value) :
    reasonOr reason
      = if isLongReason reason then .error .tooManyDigits else .ok (because reason) := by
  unfold reasonOr because isLongReason
  cases reason.truthy with
  | false => rfl
  | true => rfl

theorem direct_eq (target reason : Value) :
    direct target reason
      = if target.isLongIn [] || isLongReason reason then .error .tooManyDigits
        else .ok (directText target.display (because reason)) := by
  rw [direct, reasonOr_eq, Value.shown]
  cases target.isLongIn [] with
  | true => rfl
  | false => cases isLongReason reason <;> rfl

theorem call_eq (method reason : Value) (target : String) :
    call method (.text target) reason
      = if method.isLongIn [] || isLongReason reason then .error .tooManyDigits
        else .ok (callText method.display target (because reason)) := by
  rw [call, reasonOr_eq, Value.shown]
  cases method.isLongIn [] with
  | true => rfl
  | false => cases isLongReason reason <;> rfl

theorem construction_eq (constructor reason : Value) (target : String) :
    construction constructor (.text target) reason
      = if constructor.isLongIn [] || isLongReason reason then .error .tooManyDigits
        else .ok (constructionText constructor.display target (because reason)) := by
  rw [construction, reasonOr_eq, Value.shown]
  cases constructor.isLongIn [] with
  | true => rfl
  | false => cases isLongReason reason <;> rfl

theorem any_isLong_reasons (reason : Value) :
    (if reason.truthy then [reason] else []).any (·.isLongIn []) = isLongReason reason := by
  unfold isLongReason
  cases reason.truthy with
  | false => rfl
  | true => simp

end Message

namespace Registry

/-- The ban of the class of a type. -/
def banOfType? (r : Registry) (type : Option String) : Option (String × Value) :=
  (r.classBan (TypeKey.ofText? type)).map (TypeKey.ofText? type, ·)

/-- The ban of a package, if that is known. -/
def banOfPackage? (r : Registry) (package : Option String) : Option (String × Value) :=
  package.bind fun p => (r.packageBan p).map (p, ·)

theorem banOfType?_eq_some_iff {r : Registry} {type : Option String} {target : String}
    {reason : Value} :
    r.banOfType? type = some (target, reason)
      ↔ target = TypeKey.ofText? type ∧ r.classBan target = some reason := by
  unfold banOfType?
  rw [Option.map_eq_some_iff]
  constructor
  · rintro ⟨x, hx, hpair⟩
    cases hpair
    exact ⟨rfl, hx⟩
  · rintro ⟨rfl, hban⟩
    exact ⟨reason, hban, rfl⟩

theorem banOfPackage?_eq_some_iff {r : Registry} {package : Option String} {target : String}
    {reason : Value} :
    r.banOfPackage? package = some (target, reason)
      ↔ package = some target ∧ r.packageBan target = some reason := by
  cases package with
  | none => simp [banOfPackage?]
  | some p =>
    simp only [banOfPackage?, Option.bind_some, Option.map_eq_some_iff, Option.some.injEq]
    constructor
    · rintro ⟨x, hx, hpair⟩
      cases hpair
      exact ⟨rfl, hx⟩
    · rintro ⟨rfl, hban⟩
      exact ⟨reason, hban, rfl⟩

end Registry

namespace Match

/-- What comes before the first check that finds something has no influence. -/
theorem first_append {xs rest : List Finding} {x : Finding} (hxs : ∀ y ∈ xs, y = .ok none)
    (hx : x ≠ .ok none) : first (xs ++ x :: rest) = x := by
  induction xs with
  | nil =>
    unfold first
    split
    · next heq => cases heq
    · next heq => cases heq; exact absurd rfl hx
    · next heq => cases heq; rfl
  | cons y ys ih =>
    obtain rfl := hxs y (List.mem_cons_self ..)
    exact ih fun z hz => hxs z (List.mem_cons_of_mem _ hz)

theorem first_of_forall {xs : List Finding} (hxs : ∀ y ∈ xs, y = .ok none) :
    first xs = .ok none := by
  induction xs with
  | nil => rfl
  | cons y ys ih =>
    obtain rfl := hxs y (List.mem_cons_self ..)
    exact ih fun z hz => hxs z (List.mem_cons_of_mem _ hz)

theorem classCheck_eq (r : Registry) (rule : Rule) (write : Wording) (type : Option String) :
    classCheck r rule (Value.ofText? type) write
      = hitOf rule write ((r.banOfType? type).map fun b => (.text b.1, b.2)) := by
  rw [classCheck, TypeKey.ofValue_ofText?, Registry.banOfType?, Option.map_map]
  rfl

theorem packageCheck_eq (r : Registry) (rule : Rule) (write : Wording) (package : Option String) :
    packageCheck r rule (Value.ofText? package) write
      = hitOf rule write ((r.banOfPackage? package).map fun b => (.text b.1, b.2)) := by
  cases package with
  | none => rfl
  | some p =>
    rw [Registry.banOfPackage?, Option.bind_some, Option.map_map]
    rfl

theorem prefixCheck_eq (r : Registry) (rule : Rule) (write : Wording) (type : Option String) :
    prefixCheck r rule (Value.ofText? type) write
      = hitOf rule write ((r.prefixBan (TypeKey.ofText? type)).map fun b => (.text b.1, b.2)) := by
  rw [prefixCheck, TypeKey.ofValue_ofText?]
  rfl

end Match

end BannedApi
