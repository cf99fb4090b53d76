import BannedApi.Proofs.Tree.Blame
import BannedApi.Proofs.Value.Whole

/-!
Trees that hold themselves.

A unit is read if and only if it is well formed. If it is not, its walk ends with a refusal, or it
comes to a mapping that is not written out any more, and then would go on without end. That never
happens in a whole unit, since every way in it leads to a whole value (`not_endless_of_whole`). It
does happen to a mapping that is its own body, however deep it is written out (`fault_circle`).
-/
namespace BannedApi.Tree

/-! ### Whole trees -/

theorem Segment.whole_of_part? {s : Segment} {v w : Value} (hv : v.Whole)
    (h : s.part? v = some w) : w.Whole := by
  cases s with
  | field key => exact hv.of_field? h
  | item key index =>
    obtain ⟨items, h, hw⟩ := Option.bind_eq_some_iff.1 h
    obtain ⟨list, hlist, hitems⟩ := Option.bind_eq_some_iff.1 h
    exact (hv.of_field? hlist).of_items? hitems w (List.mem_of_getElem? hw)

/-- Every way in a whole value leads to a whole value. -/
theorem whole_of_at? {way : List Segment} {v w : Value} (hv : v.Whole) (h : at? way v = some w) :
    w.Whole := by
  induction way generalizing v with
  | nil =>
    cases h
    exact hv
  | cons s way ih =>
    obtain ⟨part, hpart, h⟩ := Option.bind_eq_some_iff.1 h
    exact ih (Segment.whole_of_part? hv hpart) h

theorem BadSymbol.ne_endless {v : Value} {p : Problem} (h : BadSymbol v p) : p ≠ .endless := by
  rintro rfl
  cases h

theorem Flaw.ne_endless {use : Use} {v : Value} {p : Problem} (h : Flaw use v p) :
    p ≠ .endless := by
  rintro rfl
  cases h with
  | method hmap hshape hbad => exact hbad.ne_endless rfl
  | construction hmap hshape hbad => exact hbad.ne_endless rfl
  | argument hmap hkey hbad => exact hbad.ne_endless rfl

/-- Only what is not written out stops a walk that would go on without end. -/
theorem Stops.not_whole {use : Use} {v : Value} (h : Stops use v .endless) : ¬ v.Whole := by
  intro hv
  cases h with
  | flaw hflaw => exact hflaw.ne_endless rfl
  | here hend => exact hv.kind_ne_unwritten hend
  | symbol hend => exact (hv.field _).kind_ne_unwritten hend

theorem ne_endless_of_whole {setting : Setting} {raw : Value} {m : Malformed} (hraw : raw.Whole)
    (h : (Walker.yieldOf setting .unit raw).fault = some m) : m.problem ≠ .endless := by
  intro hends
  -- the unit is looked at in a document that holds nothing else
  have hunit : Reached (.object [("compilation_units", .list [raw])])
      [.item "compilation_units" 0] (.walked .unit) raw := .unit rfl rfl
  have hdocument : (Value.object [("compilation_units", .list [raw])]).Whole :=
    .map (List.forall_mem_singleton.2 (.list (List.forall_mem_singleton.2 hraw)))
  obtain ⟨use, w, hw, hstops⟩ := blames_yieldOf hunit h
  rw [hends] at hstops
  exact hstops.not_whole (whole_of_at? hdocument hw.at?)

/-! ### Units -/

section Units

variable (markers : Markers) (document : String) (index : Nat) (raw : Value)

/-- The unit is refused for something that is wrong with it. -/
def Refused : Prop :=
  ∃ fault, unitOf markers document index raw = .error fault ∧ fault.problem ≠ .endless

/-- The walk of the unit goes on without end. -/
def Endless : Prop :=
  ∃ fault, unitOf markers document index raw = .error fault ∧ fault.problem = .endless

end Units

variable {markers : Markers} {document : String} {index : Nat} {raw : Value}

theorem not_endless_of_whole (h : raw.Whole) : ¬ Endless markers document index raw := by
  rintro ⟨fault, hfault, hends⟩
  rcases unitOf_cases markers document index raw with ⟨-, unit, hunit⟩ | ⟨-, m, hm, heq⟩
  · cases hfault.symm.trans hunit
  · cases hfault.symm.trans heq
    exact ne_endless_of_whole h hm hends

theorem Endless.not_refused (h : Endless markers document index raw) :
    ¬ Refused markers document index raw := by
  rintro ⟨fault, hfault, hne⟩
  obtain ⟨m, hm, hends⟩ := h
  cases hm.symm.trans hfault
  exact hne hends

theorem not_wellFormed_iff_refused_or_endless :
    ¬ WellFormedUnit raw
      ↔ Refused markers document index raw ∨ Endless markers document index raw := by
  rcases unitOf_cases markers document index raw with ⟨hformed, unit, hunit⟩ | ⟨hnot, m, -, hm⟩
  · simp [Refused, Endless, hformed, hunit]
  · simp only [Refused, Endless, hm, Except.error.injEq, exists_eq_left', hnot, not_false_iff,
      true_iff]
    exact ne_or_eq _ _

/-- The walk of a unit accepts exactly what the grammar allows. For every value, whatever the markers,
the document and the place in it, the unit is read if and only if it is well formed. If it is not, it
is refused, or its walk goes on without end; and a unit that does not hold itself is always refused. -/
theorem unitOf_accepts_grammar (markers : Markers) (document : String) (index : Nat) (raw : Value) :
    ((∃ unit, unitOf markers document index raw = .ok unit) ↔ WellFormedUnit raw)
      ∧ (¬ WellFormedUnit raw
        ↔ Refused markers document index raw ∨ Endless markers document index raw)
      ∧ (raw.Whole → (Refused markers document index raw ↔ ¬ WellFormedUnit raw)) := by
  refine ⟨?_, not_wellFormed_iff_refused_or_endless, fun h => ?_⟩
  · rcases unitOf_cases markers document index raw with ⟨hformed, hunit⟩ | ⟨hnot, m, -, hm⟩
    · exact iff_of_true hunit hformed
    · exact iff_of_false (by simp [hm]) hnot
  · rw [not_wellFormed_iff_refused_or_endless, or_iff_left (not_endless_of_whole h)]

/-! ### A mapping that is its own body -/

/-- If all there is to do is to visit one part, then the fault is that of the part. -/
theorem fault_of_outline_visit (setting : Setting) {role inner : Role} {v part : Value}
    {segment : Segment} (h : outline role v = plainly [.visit segment inner part]) :
    (Walker.yieldOf setting role v).fault
      = (Walker.yieldOf setting inner part).fault.map (·.below [segment]) := by
  rw [Walker.yieldOf_eq, h]
  cases hfault : (Walker.yieldOf setting inner part).fault <;>
    simp [plainly, Walker.stepYield, Walker.actYield, Yield.inside, Yield.below, Yield.andThen,
      hfault]

/-- The mapping, written out so many levels deep. -/
def circle : Nat → Value
  | 0 => .unwritten
  | n + 1 => .knot 0 (.object [("kind", .text "other"), ("body", circle n)])

theorem isNull_circle (n : Nat) : (circle n).isNull = false := by
  cases n <;> rfl

theorem outline_circle (n : Nat) :
    outline .statement (circle (n + 1)) = plainly [.visit (.field "body") .statement (circle n)] := by
  have hbody : (circle (n + 1)).field "body" = circle n := rfl
  have hparts : visitParts "body" (circle (n + 1))
      = [.visit (.field "body") .statement (circle n)] := by
    have hfield : visitField "body" (circle (n + 1))
        = [.visit (.field "body") .statement (circle n)] := by
      rw [visitField, hbody, isNull_circle]
      rfl
    rw [← hfield, visitParts, hbody]
    cases n <;> rfl
  rw [outline, mapping_eq_ok rfl]
  show plainly (partKeys.flatMap fun key => visitParts key (circle (n + 1))) = _
  simp only [partKeys, List.flatMap_cons, List.flatMap_nil, hparts]
  rfl

/-- However deep the mapping is written out, its walk comes to the end of that. -/
theorem fault_circle (setting : Setting) (n : Nat) :
    (Walker.yieldOf setting .statement (circle n)).fault
      = some ⟨List.replicate n (.field "body"), .endless⟩ := by
  induction n with
  | zero => rw [Walker.yieldOf_eq]; rfl
  | succ n ih =>
    rw [fault_of_outline_visit setting (outline_circle n), ih]
    rfl

/-- A unit with the mapping in it. -/
def circleUnit (n : Nat) : Value := .object [("declarations", .list [circle n])]

theorem endless_circleUnit (markers : Markers) (document : String) (index n : Nat) :
    Endless markers document index (circleUnit n) := by
  have houtline : outline .unit (circleUnit n)
      = plainly [.visit (.item "declarations" 0) .statement (circle n)] := rfl
  have hfault : (Walker.yieldOf ⟨markers, unitFile document (circleUnit n)⟩ .unit
      (circleUnit n)).fault
        = some ⟨.item "declarations" 0 :: List.replicate n (.field "body"), .endless⟩ := by
    rw [fault_of_outline_visit _ houtline, fault_circle]
    rfl
  rcases unitOf_cases markers document index (circleUnit n) with ⟨hformed, -⟩ | ⟨-, m, hm, heq⟩
  · cases hfault.symm.trans ((fault_yieldOf_iff _ .unit _).2 hformed)
  · cases hfault.symm.trans hm
    exact ⟨_, heq, rfl⟩

/-- The mapping in a file, where it has a name. -/
def circleFiles : Store :=
  ⟨[(["tree.yaml"], .file (.text
    "compilation_units:\n- declarations:\n  - &b\n    kind: other\n    body: *b\n"))]⟩

/-- A mapping that is its own body is neither read nor refused: no depth of writing it out is enough
for its walk. In a file it ends the run. -/
theorem circle_neither_read_nor_refused :
    (∀ n : Nat, Endless .standard "tree.yaml" 0 (circleUnit n)
      ∧ ¬ Refused .standard "tree.yaml" 0 (circleUnit n) ∧ ¬ WellFormedUnit (circleUnit n))
    ∧ (ofFile .standard circleFiles "tree.yaml").units = .error (.fatal .endless) := by
  constructor
  · intro n
    have hends := endless_circleUnit .standard "tree.yaml" 0 n
    exact ⟨hends, hends.not_refused, not_wellFormed_iff_refused_or_endless.2 (.inr hends)⟩
  · have hcount : (ofFile .standard circleFiles "tree.yaml").units.map List.length
        = .error (.fatal .endless) := by decide +kernel
    exact Outcome.map_eq_error.1 hcount

end BannedApi.Tree
