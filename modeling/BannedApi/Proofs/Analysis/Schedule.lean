import BannedApi.Proofs.Analysis.Files
import Mathlib.Data.List.Forall2
import Mathlib.Logic.Function.Basic

/-!
Schedules: in which order the workers of a pool may get through their items.

A worker that has nothing to do picks up any item that is still waiting, and puts the result into the
slot of its place when it is done. Meanwhile the results are delivered in the order of the places, as
far as they have come in. The first fault that is met ends the delivery; items that are still waiting
then may be dropped.

            pick               finish              deliver
  waiting ────────▶ a worker ──────────▶ its slot ──────────▶ delivered
     │ drop                                 │ raise
     ▼                                      ▼
  nothing                                 the fault

No schedule goes on for ever (`Steps.length_le`), none gets stuck before the work is over
(`Sound.progress`), and when it is over the outcome is that of going through the items one by one
(`Sound.outcome_eq`).
-/
namespace BannedApi

namespace Pool

variable {α β ε : Type}

/-- A pool at work. -/
structure State (ε β : Type) where
  /-- The places of the items that nobody has picked up. -/
  waiting : List Nat
  /-- What each worker is at: the place of an item, or nothing. -/
  workers : List (Option Nat)
  /-- The results that have come in, by the places of their items. -/
  slots : Nat → Option (Except ε β) := fun _ => none
  /-- The results that were delivered. -/
  delivered : List β := []
  /-- The fault that has ended the delivery. -/
  raised : Option ε := none

namespace State

variable (s : State ε β)

/-- A worker picks up the item at a place. -/
def pick (w i : Nat) : State ε β :=
  { s with waiting := s.waiting.erase i, workers := s.workers.set w (some i) }

/-- A worker is done with the item at a place. -/
def finish (w i : Nat) (result : Except ε β) : State ε β :=
  { s with workers := s.workers.set w none, slots := Function.update s.slots i (some result) }

/-- One more result is delivered. -/
def deliver (b : β) : State ε β := { s with delivered := s.delivered ++ [b] }

/-- A fault ends the delivery. -/
def raise (e : ε) : State ε β := { s with raised := some e }

/-- The item at a place is not worked on any more. -/
def drop (i : Nat) : State ε β := { s with waiting := s.waiting.erase i }

/-- The number of workers that are at an item. -/
def busy : Nat := s.workers.countP Option.isSome

/-- Nothing is waiting, nobody is at work, and everything was delivered or a fault was raised. -/
def IsOver (count : Nat) : Prop :=
  s.waiting = [] ∧ (∀ w ∈ s.workers, w = none) ∧ (s.raised.isSome ∨ s.delivered.length = count)

/-- What the caller gets: the fault that was raised, else all that was delivered. -/
def outcome : Except ε (List β) :=
  match s.raised with
  | some e => .error e
  | none => .ok s.delivered

/-- How much is left to do at most. Picking up an item takes one of the two that it counts for while
it is waiting. -/
def left (count : Nat) : Nat :=
  2 * s.waiting.length + s.busy + (count - s.delivered.length) + s.raised.isNone.toNat

end State

/-- A pool before anybody has started. -/
def start (workers count : Nat) : State ε β :=
  { waiting := List.range count, workers := List.replicate workers none }

section Steps

variable (f : α → Except ε β) (items : List α)

/-- One thing that can happen next. -/
inductive Step : State ε β → State ε β → Prop
  | pick {s : State ε β} {w i : Nat} (hidle : s.workers[w]? = some none) (hi : i ∈ s.waiting) :
    Step s (s.pick w i)
  | finish {s : State ε β} {w i : Nat} {x : α} (hbusy : s.workers[w]? = some (some i))
    (hx : items[i]? = some x) : Step s (s.finish w i (f x))
  | deliver {s : State ε β} {b : β} (hraised : s.raised = none)
    (hslot : s.slots s.delivered.length = some (.ok b)) : Step s (s.deliver b)
  | raise {s : State ε β} {e : ε} (hraised : s.raised = none)
    (hslot : s.slots s.delivered.length = some (.error e)) : Step s (s.raise e)
  | drop {s : State ε β} {i : Nat} (hraised : s.raised.isSome) (hi : i ∈ s.waiting) :
    Step s (s.drop i)

/-- So many things happen one after the other. -/
inductive Steps : Nat → State ε β → State ε β → Prop
  | none (s : State ε β) : Steps 0 s s
  | more {k : Nat} {s t u : State ε β} (hsteps : Steps k s t) (hstep : Step f items t u) :
    Steps (k + 1) s u

/-- What holds of a pool whatever has happened. -/
structure Sound (s : State ε β) : Prop where
  /-- Only places of items are waiting. -/
  waiting : ∀ i ∈ s.waiting, i < items.length
  /-- Only places of items are worked on. -/
  workers : ∀ i, some i ∈ s.workers → i < items.length
  /-- A slot holds the result of the item at its place. -/
  slots : ∀ i result, s.slots i = some result → ∃ x, items[i]? = some x ∧ result = f x
  /-- The results of the first items were delivered. -/
  delivered : List.Forall₂ (fun x b => f x = .ok b) (items.take s.delivered.length) s.delivered
  /-- The fault is that of the item behind those. -/
  raised : ∀ e, s.raised = some e → ∃ x, items[s.delivered.length]? = some x ∧ f x = .error e
  /-- Before there is a fault, every item is waiting, at a worker, or done. -/
  covered : s.raised = none → ∀ i < items.length,
    i ∈ s.waiting ∨ some i ∈ s.workers ∨ ∃ result, s.slots i = some result

end Steps

/-! ### What a step keeps -/

section Keeping

variable {f : α → Except ε β} {items : List α} {s t : State ε β}

theorem mem_workers_of_set {workers : List (Option Nat)} {w i : Nat} {v : Option Nat}
    (h : some i ∈ workers.set w v) : some i ∈ workers ∨ v = some i := by
  rcases List.mem_or_eq_of_mem_set h with hmem | heq
  · exact .inl hmem
  · exact .inr heq.symm

/-- The others are still at what they were at. -/
theorem mem_set_of_ne {workers : List (Option Nat)} {w j : Nat} {u v : Option Nat}
    (hw : workers[w]? = some u) (hne : some j ≠ u) (h : some j ∈ workers) :
    some j ∈ workers.set w v := by
  obtain ⟨k, hk, hget⟩ := List.getElem_of_mem h
  have hkw : w ≠ k := by
    rintro rfl
    rw [List.getElem?_eq_getElem hk, hget] at hw
    exact hne (Option.some.inj hw)
  refine List.mem_of_getElem? (i := k) ?_
  rw [List.getElem?_set_ne hkw, List.getElem?_eq_getElem hk, hget]

theorem sound_start (workers : Nat) : Sound f items (start workers items.length) where
  waiting := fun i hi => List.mem_range.1 hi
  workers := fun i hi => by cases List.eq_of_mem_replicate hi
  slots := fun i result h => by cases h
  delivered := .nil
  raised := fun e h => by cases h
  covered := fun _ i hi => .inl (List.mem_range.2 hi)

namespace Sound

theorem pick (hs : Sound f items s) {w i : Nat} (hidle : s.workers[w]? = some none)
    (hi : i ∈ s.waiting) : Sound f items (s.pick w i) where
  waiting := fun j hj => hs.waiting j (List.mem_of_mem_erase hj)
  workers := fun j hj => by
    rcases mem_workers_of_set hj with hmem | heq
    · exact hs.workers j hmem
    · cases heq
      exact hs.waiting i hi
  slots := hs.slots
  delivered := hs.delivered
  raised := hs.raised
  covered := fun hraised j hj => by
    have hw : w < s.workers.length := (List.getElem?_eq_some_iff.1 hidle).1
    rcases hs.covered hraised j hj with hwait | hwork | hdone
    · by_cases hji : j = i
      · subst hji
        exact .inr (.inl (List.mem_set hw _))
      · exact .inl ((List.mem_erase_of_ne hji).2 hwait)
    · exact .inr (.inl (mem_set_of_ne hidle (by simp) hwork))
    · exact .inr (.inr hdone)

theorem finish (hs : Sound f items s) {w i : Nat} {x : α}
    (hbusy : s.workers[w]? = some (some i)) (hx : items[i]? = some x) :
    Sound f items (s.finish w i (f x)) where
  waiting := hs.waiting
  workers := fun j hj => by
    rcases mem_workers_of_set hj with hmem | heq
    · exact hs.workers j hmem
    · cases heq
  slots := fun j result h => by
    simp only [State.finish, Function.update_apply] at h
    split at h
    · next hji =>
      subst hji
      exact ⟨x, hx, (Option.some.inj h).symm⟩
    · exact hs.slots j result h
  delivered := hs.delivered
  raised := hs.raised
  covered := fun hraised j hj => by
    simp only [State.finish, Function.update_apply]
    by_cases hji : j = i
    · exact .inr (.inr ⟨f x, if_pos hji⟩)
    · rw [if_neg hji]
      rcases hs.covered hraised j hj with hwait | hwork | hdone
      · exact .inl hwait
      · exact .inr (.inl (mem_set_of_ne hbusy (by simpa using hji) hwork))
      · exact .inr (.inr hdone)

theorem deliver (hs : Sound f items s) {b : β}
    (hslot : s.slots s.delivered.length = some (.ok b)) (hraised : s.raised = none) :
    Sound f items (s.deliver b) where
  waiting := hs.waiting
  workers := hs.workers
  slots := hs.slots
  delivered := by
    obtain ⟨x, hx, hresult⟩ := hs.slots _ _ hslot
    rw [State.deliver, List.length_append, List.length_singleton, List.take_add_one, hx]
    exact List.rel_append hs.delivered (.cons hresult.symm .nil)
  raised := fun e he => by
    rw [State.deliver, hraised] at he
    cases he
  covered := hs.covered

theorem raise (hs : Sound f items s) {e : ε}
    (hslot : s.slots s.delivered.length = some (.error e)) : Sound f items (s.raise e) where
  waiting := hs.waiting
  workers := hs.workers
  slots := hs.slots
  delivered := hs.delivered
  raised := fun e' he => by
    obtain ⟨x, hx, hresult⟩ := hs.slots _ _ hslot
    cases he
    exact ⟨x, hx, hresult.symm⟩
  covered := fun hraised => by cases hraised

theorem drop (hs : Sound f items s) {i : Nat} (hraised : s.raised.isSome) :
    Sound f items (s.drop i) where
  waiting := fun j hj => hs.waiting j (List.mem_of_mem_erase hj)
  workers := hs.workers
  slots := hs.slots
  delivered := hs.delivered
  raised := hs.raised
  covered := fun hnone => by
    have hnone : s.raised = none := hnone
    rw [hnone] at hraised
    cases hraised

theorem step (hs : Sound f items s) (h : Step f items s t) : Sound f items t := by
  cases h with
  | pick hidle hi => exact hs.pick hidle hi
  | finish hbusy hx => exact hs.finish hbusy hx
  | deliver hraised hslot => exact hs.deliver hslot hraised
  | raise hraised hslot => exact hs.raise hslot
  | drop hraised hi => exact hs.drop hraised

theorem steps (hs : Sound f items s) {k : Nat} (h : Steps f items k s t) : Sound f items t := by
  induction h with
  | none => exact hs
  | more _ hstep ih => exact (ih hs).step hstep

/-- A result that can be delivered next is that of an item. -/
theorem length_lt (hs : Sound f items s) {result : Except ε β}
    (hslot : s.slots s.delivered.length = some result) : s.delivered.length < items.length := by
  obtain ⟨x, hx, -⟩ := hs.slots _ _ hslot
  exact (List.getElem?_eq_some_iff.1 hx).1

end Sound

/-! ### Every schedule comes to an end -/

theorem busy_set {workers : List (Option Nat)} {w : Nat} {u v : Option Nat}
    (hw : workers[w]? = some u) :
    (workers.set w v).countP Option.isSome + u.isSome.toNat
      = workers.countP Option.isSome + v.isSome.toNat := by
  obtain ⟨hlt, hget⟩ := List.getElem?_eq_some_iff.1 hw
  have hpos : u.isSome = true → 0 < workers.countP Option.isSome := fun hu =>
    List.countP_pos_iff.2 ⟨u, hget ▸ List.getElem_mem hlt, hu⟩
  rw [List.countP_set hlt, hget]
  cases u with
  | none => cases v <;> simp
  | some i =>
    have := hpos rfl
    cases v <;> simp <;> omega

theorem left_lt_of_step (hs : Sound f items s) (h : Step f items s t) :
    t.left items.length < s.left items.length := by
  cases h with
  | @pick w i hidle hi =>
    have hbusy := busy_set (v := some i) hidle
    have hpos := List.length_pos_of_mem hi
    simp only [Option.isSome_none, Option.isSome_some, Bool.toNat_false, Bool.toNat_true] at hbusy
    simp only [State.left, State.pick, State.busy, List.length_erase_of_mem hi]
    omega
  | @finish w i x hbusy hx =>
    have hcount := busy_set (v := none) hbusy
    simp only [Option.isSome_none, Option.isSome_some, Bool.toNat_false, Bool.toNat_true] at hcount
    simp only [State.left, State.finish, State.busy]
    omega
  | deliver hraised hslot =>
    have hlt := hs.length_lt hslot
    simp only [State.left, State.deliver, State.busy, List.length_append, List.length_singleton]
    omega
  | raise hraised hslot =>
    simp only [State.left, State.raise, State.busy, hraised, Option.isNone_none,
      Option.isNone_some, Bool.toNat_false, Bool.toNat_true]
    omega
  | drop hraised hi =>
    have hpos := List.length_pos_of_mem hi
    simp only [State.left, State.drop, State.busy, List.length_erase_of_mem hi]
    omega

theorem Steps.add_left_le (hs : Sound f items s) {k : Nat} (h : Steps f items k s t) :
    k + t.left items.length ≤ s.left items.length := by
  induction h with
  | none => omega
  | more hsteps hstep ih =>
    have hlt := left_lt_of_step (hs.steps hsteps) hstep
    have hle := ih hs
    omega

/-- A schedule has at most three steps for each item and one for a fault. -/
theorem Steps.length_le {workers k : Nat}
    (h : Steps f items k (start workers items.length) s) : k ≤ 3 * items.length + 1 := by
  have hle := h.add_left_le (sound_start workers)
  simp [State.left, start, State.busy, List.countP_replicate] at hle
  omega

/-! ### No schedule gets stuck -/

/-- There are always the same workers. -/
theorem Steps.length_workers {k : Nat} (h : Steps f items k s t) :
    t.workers.length = s.workers.length := by
  induction h with
  | none => rfl
  | more _ hstep ih =>
    rw [← ih]
    cases hstep with
    | pick => exact List.length_set
    | finish => exact List.length_set
    | deliver => rfl
    | raise => rfl
    | drop => rfl

namespace Sound

/-- A worker that is at an item can finish it. -/
theorem step_of_busy (hs : Sound f items s) {i : Nat} (h : some i ∈ s.workers) :
    ∃ t, Step f items s t := by
  obtain ⟨w, hw⟩ := List.getElem?_of_mem h
  have hx := List.getElem?_eq_getElem (hs.workers i h)
  exact ⟨_, .finish hw hx⟩

/-- While an item is waiting something can happen: a worker is at an item or can pick one up. -/
theorem step_of_waiting (hs : Sound f items s) (hworkers : 0 < s.workers.length) {i : Nat}
    (hi : i ∈ s.waiting) : ∃ t, Step f items s t := by
  have hfirst := List.getElem?_eq_getElem hworkers
  cases hget : s.workers[0] with
  | none =>
    rw [hget] at hfirst
    exact ⟨_, .pick hfirst hi⟩
  | some j =>
    rw [hget] at hfirst
    exact hs.step_of_busy (List.mem_of_getElem? hfirst)

/-- A schedule goes on until the work is over. -/
theorem progress (hs : Sound f items s) (hworkers : 0 < s.workers.length) :
    s.IsOver items.length ∨ ∃ t, Step f items s t := by
  by_cases hwaiting : ∃ i, i ∈ s.waiting
  · obtain ⟨i, hi⟩ := hwaiting
    exact .inr (hs.step_of_waiting hworkers hi)
  · by_cases hbusy : ∃ i, some i ∈ s.workers
    · obtain ⟨i, hi⟩ := hbusy
      exact .inr (hs.step_of_busy hi)
    · -- Everything that was picked up is done, so the next result is there unless it is the last.
      have hidle : ∀ w ∈ s.workers, w = none := by
        intro w hw
        cases w with
        | none => rfl
        | some i => exact absurd ⟨i, hw⟩ hbusy
      have hempty : s.waiting = [] := List.eq_nil_iff_forall_not_mem.2 fun i hi => hwaiting ⟨i, hi⟩
      cases hraised : s.raised with
      | some e => exact .inl ⟨hempty, hidle, .inl (by rw [hraised]; rfl)⟩
      | none =>
        have hle : s.delivered.length ≤ items.length := by
          have hlength := hs.delivered.length_eq
          rw [List.length_take] at hlength
          omega
        rcases Nat.lt_or_eq_of_le hle with hlt | heq
        · rcases hs.covered hraised _ hlt with hwait | hwork | ⟨result, hslot⟩
          · exact absurd ⟨_, hwait⟩ hwaiting
          · exact absurd ⟨_, hwork⟩ hbusy
          · cases result with
            | ok b => exact .inr ⟨_, .deliver hraised hslot⟩
            | error e => exact .inr ⟨_, .raise hraised hslot⟩
        · exact .inl ⟨hempty, hidle, .inr heq⟩

/-- When the work is over, the outcome is that of going through the items one by one. -/
theorem outcome_eq (hs : Sound f items s) (hover : s.IsOver items.length) :
    s.outcome = items.mapM f := by
  obtain ⟨-, -, hend⟩ := hover
  unfold State.outcome
  cases hraised : s.raised with
  | some e =>
    obtain ⟨x, hx, hfault⟩ := hs.raised e hraised
    refine (Outcome.mapM_eq_error_iff.2 ⟨items.take s.delivered.length, x,
      items.drop (s.delivered.length + 1), ?_, ?_, hfault⟩).symm
    · obtain ⟨hlt, rfl⟩ := List.getElem?_eq_some_iff.1 hx
      rw [← List.drop_eq_getElem_cons hlt, List.take_append_drop]
    · exact Outcome.exists_mapM_eq_ok.1 ⟨_, Outcome.mapM_eq_ok_iff.2 hs.delivered⟩
  | none =>
    have hall : s.delivered.length = items.length := by simpa [hraised] using hend
    have hdelivered := hs.delivered
    rw [hall, List.take_length] at hdelivered
    exact (Outcome.mapM_eq_ok_iff.2 hdelivered).symm

end Sound

end Keeping

end Pool

/-! ### Analyses -/

namespace Analysis

/-- The analysis of units when this was found in each of them. -/
def concluded (r : Registry) (elapsed : Number) (units : List CompilationUnit)
    (errors inputs : List String) (found : List (List Diagnostic)) : Analysis :=
  { diagnostics := found.flatten
    filesAnalyzed := units.length
    nodesVisited := nodeCount units
    errors, elapsed, inputs
    banSources := r.sources }

theorem ofUnits_eq_concluded (r : Registry) (jobs : Int) (elapsed : Number)
    (units : List CompilationUnit) (errors inputs : List String) :
    (ofUnits r jobs elapsed units errors inputs).map (·.1)
      = (units.mapM (unitDiagnostics r)).map (concluded r elapsed units errors inputs) := by
  rw [analysis_ofUnits, diagnosticsOfUnits]
  cases units.mapM (unitDiagnostics r) with
  | error fault => rfl
  | ok found => rfl

theorem ofUnits_eq_error_iff {r : Registry} {jobs : Int} {elapsed : Number}
    {units : List CompilationUnit} {errors inputs : List String} {fault : ValueFault} :
    ofUnits r jobs elapsed units errors inputs = .error fault
      ↔ units.mapM (unitDiagnostics r) = .error fault := by
  rw [← Outcome.map_eq_error, ofUnits_eq_concluded, Outcome.map_eq_error]

/-- A pool gives what going through the units one by one gives. Whatever the number of workers, and
in whatever order they pick up and finish units, the work comes to an end, and then the analysis is
that of one worker: the diagnostics of each unit once and in the order of the units, with the same
numbers of units and nodes. If units have faults, the fault of the first of them is that of the
analysis. -/
theorem ofUnits_scheduled (r : Registry) (jobs : Int) (hjobs : 1 ≤ jobs) (elapsed : Number)
    (units : List CompilationUnit) (errors inputs : List String) :
    (∀ k s, Pool.Steps (unitDiagnostics r) units k (Pool.start jobs.toNat units.length) s →
      k ≤ 3 * units.length + 1
      ∧ (s.IsOver units.length ∨ ∃ t, Pool.Step (unitDiagnostics r) units s t)
      ∧ (s.IsOver units.length →
        s.outcome.map (concluded r elapsed units errors inputs)
          = (ofUnits r 1 elapsed units errors inputs).map (·.1)))
    ∧ (ofUnits r jobs elapsed units errors inputs).map (·.1)
        = (ofUnits r 1 elapsed units errors inputs).map (·.1)
    ∧ (∀ analysis records, ofUnits r 1 elapsed units errors inputs = .ok (analysis, records) →
      ∃ found, List.Forall₂ (fun u ds => unitDiagnostics r u = .ok ds) units found
        ∧ analysis.diagnostics = found.flatten
        ∧ analysis.filesAnalyzed = units.length
        ∧ analysis.nodesVisited = nodeCount units)
    ∧ ∀ fault, ofUnits r jobs elapsed units errors inputs = .error fault
      ↔ ∃ before u after, units = before ++ u :: after
        ∧ (∀ v ∈ before, ∃ found, unitDiagnostics r v = .ok found)
        ∧ unitDiagnostics r u = .error fault := by
  refine ⟨fun k s hsteps => ?_, ?_, fun analysis records hresult => ?_, fun fault => ?_⟩
  · have hsound := (Pool.sound_start jobs.toNat).steps hsteps
    have hworkers : 0 < s.workers.length := by
      rw [hsteps.length_workers, Pool.start, List.length_replicate]
      omega
    refine ⟨hsteps.length_le, hsound.progress hworkers, fun hover => ?_⟩
    rw [hsound.outcome_eq hover, ofUnits_eq_concluded]
  · rw [ofUnits_eq_concluded, ofUnits_eq_concluded]
  · have heq := ofUnits_eq_concluded r 1 elapsed units errors inputs
    rw [hresult] at heq
    obtain ⟨found, hfound, hconcluded⟩ := Outcome.map_eq_ok.1 heq.symm
    obtain rfl : concluded r elapsed units errors inputs found = analysis := hconcluded
    exact ⟨found, Outcome.mapM_eq_ok_iff.1 hfound, rfl, rfl, rfl⟩
  · rw [ofUnits_eq_error_iff]
    exact Outcome.mapM_eq_error_iff

/-- A unit with a variable of a type that is no text. -/
def sampleFaulty (type : Value) : CompilationUnit :=
  ⟨.text "T.java", [⟨⟨.text "T.java", .null, .null⟩, [], .variableDecl (.text "x") type⟩]⟩

/-- Two such units, one after the other. -/
def sampleFaults : List CompilationUnit := [sampleFaulty (.list [.null]), sampleFaulty (.int 5)]

/-- The second unit is picked up first, and its fault has come in before the first unit is even
looked at. -/
def sampleEarly : Pool.State ValueFault (List Diagnostic) :=
  ((Pool.start 2 2).pick 0 1).finish 0 1 (.error (.noOperation .int "find"))

/-- Then the first unit is done as well, and its fault is raised. -/
def sampleLate : Pool.State ValueFault (List Diagnostic) :=
  ((sampleEarly.pick 1 0).finish 1 0 (.error (.noOperation .list "find"))).raise
    (.noOperation .list "find")

theorem ofUnits_scheduled_late :
    Pool.Steps (unitDiagnostics {}) sampleFaults 5 (Pool.start 2 sampleFaults.length) sampleLate
      ∧ sampleLate.IsOver sampleFaults.length
      ∧ ofUnits {} 2 (.int 0) sampleFaults [] [] = .error (.noOperation .list "find")
      ∧ (ofUnits {} 1 (.int 0) sampleFaults [] []).map (·.1)
        = .error (.noOperation .list "find") := by
  have hfirst : unitDiagnostics {} (sampleFaulty (.list [.null]))
      = .error (.noOperation .list "find") := by with_unfolding_all rfl
  have hsecond : unitDiagnostics {} (sampleFaulty (.int 5))
      = .error (.noOperation .int "find") := by with_unfolding_all rfl
  have hearly : Pool.Steps (unitDiagnostics {}) sampleFaults 2 (Pool.start 2 sampleFaults.length)
      sampleEarly := by
    refine .more (.more (.none _) (.pick (w := 0) (i := 1) rfl (by decide))) ?_
    rw [sampleEarly, ← hsecond]
    exact .finish rfl rfl
  have hlate : Pool.Steps (unitDiagnostics {}) sampleFaults 5 (Pool.start 2 sampleFaults.length)
      sampleLate := by
    refine .more (.more (.more hearly (.pick (w := 1) (i := 0) rfl (by decide))) ?_)
      (.raise rfl rfl)
    rw [← hfirst]
    exact .finish rfl rfl
  have hover : sampleLate.IsOver sampleFaults.length := ⟨rfl, by decide, .inl rfl⟩
  obtain ⟨hpool, -, -, hfault⟩ := ofUnits_scheduled {} 2 (by decide) (.int 0) sampleFaults [] []
  refine ⟨hlate, hover, ?_, ?_⟩
  · exact (hfault _).2 ⟨[], sampleFaulty (.list [.null]), [sampleFaulty (.int 5)], rfl, by simp,
      hfirst⟩
  · exact ((hpool 5 _ hlate).2.2 hover).symm

end Analysis

end BannedApi
