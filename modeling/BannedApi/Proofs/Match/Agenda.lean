import BannedApi.Proofs.Match.Basic
import BannedApi.Proofs.Outcome
import Mathlib.Data.List.Nodup

/-!
Agendas: the checks of a construct, ranked.

A construct can break several rules at once, and the checks for them are made in a fixed order. An
agenda lists them with their ranks. What is reported is what the first check that finds a ban makes
of it (`diagnose_of_findsFirst`), whatever the later ones would find; there is one first check where
any finds a ban (`exists_findsFirst`, `FindsFirst.unique`), and nothing is reported where none does
(`diagnose_eq_none_iff`).
-/
namespace BannedApi.Match

/-! ### Numbered parts -/

section Numbered

variable {α β : Type} (parts : List α)

/-- The parts of a construct are numbered in their order. -/
theorem pairwise_zipIdx : parts.zipIdx.Pairwise fun a b => a.2 < b.2 := by
  rw [← List.pairwise_map (f := Prod.snd) (R := (· < ·)), List.zipIdx_map_snd]
  exact List.pairwise_lt_range'

/-- What is made of the parts one after the other can be made of them with their numbers. -/
theorem flatMap_eq_zipIdx {f : α → List β} {g : α × Nat → List β}
    (h : ∀ part : α × Nat, parts[part.2]? = some part.1 → f part.1 = g part) :
    parts.flatMap f = parts.zipIdx.flatMap g := by
  nth_rewrite 1 [← List.zipIdx_map_fst 0 parts]
  rw [List.flatMap_map]
  exact List.flatMap_congr fun part hpart => h part (List.mem_zipIdx_iff_getElem?.1 hpart)

end Numbered

/-! ### Ranked checks -/

/-- The checks of a construct: the rank and the rule of each, the class or package that it finds
banned and for what reason, and how that is said. The checks that are made come in the order of
their ranks, and those that are not made find nothing. -/
structure Agenda (κ : Type) where
  rank : κ → Nat
  rule : κ → Rule
  ban? : κ → Option (String × Value)
  wording : κ → Wording
  checks : List κ
  ordered : checks.Pairwise fun a b => rank a < rank b
  complete : ∀ check ban, ban? check = some ban → check ∈ checks

namespace Agenda

variable {κ : Type} (a : Agenda κ) {check other : κ} {ban ban' : String × Value}

/-- What becomes of a check: the hit of its rule, if it finds a ban. -/
def finding (check : κ) : Finding :=
  hitOf (a.rule check) (a.wording check) ((a.ban? check).map fun b => (.text b.1, b.2))

/-- The check finds a ban, and no check before it does. -/
def FindsFirst (check : κ) (ban : String × Value) : Prop :=
  a.ban? check = some ban ∧ ∀ other, a.rank other < a.rank check → a.ban? other = none

variable {a}

theorem finding_of_none (h : a.ban? check = none) : a.finding check = .ok none := by
  rw [finding, h]
  rfl

theorem finding_of_some (h : a.ban? check = some ban) :
    a.finding check
      = (a.wording check (.text ban.1) ban.2).map fun message => some ⟨a.rule check, message⟩ := by
  rw [finding, h]
  rfl

theorem finding_ne_none (h : a.ban? check = some ban) : a.finding check ≠ .ok none := by
  rw [finding_of_some h]
  cases a.wording check (.text ban.1) ban.2 with
  | error fault => exact fun heq => by cases heq
  | ok message => exact fun heq => by cases heq

/-! ### The first check that finds a ban -/

theorem first_of_findsFirst (h : a.FindsFirst check ban) :
    first (a.checks.map a.finding) = a.finding check := by
  obtain ⟨hban, hbefore⟩ := h
  obtain ⟨done, rest, hsplit⟩ := List.append_of_mem (a.complete check ban hban)
  have hordered := a.ordered
  rw [hsplit] at hordered
  -- the checks before it have smaller ranks, so they find nothing
  have hdone : ∀ finding ∈ done.map a.finding, finding = .ok none := by
    intro finding hmem
    obtain ⟨other, hother, rfl⟩ := List.mem_map.1 hmem
    have hrank := (List.pairwise_append.1 hordered).2.2 other hother check (List.mem_cons_self ..)
    exact finding_of_none (hbefore other hrank)
  rw [hsplit, List.map_append, List.map_cons]
  exact first_append hdone (finding_ne_none hban)

theorem first_of_none (h : ∀ check, a.ban? check = none) :
    first (a.checks.map a.finding) = .ok none := by
  refine first_of_forall ?_
  intro finding hmem
  obtain ⟨check, -, rfl⟩ := List.mem_map.1 hmem
  exact finding_of_none (h check)

/-- Where a check finds a ban there is a first one. -/
theorem exists_findsFirst {check : κ} {ban : String × Value} (h : a.ban? check = some ban) :
    ∃ first ban, a.FindsFirst first ban := by
  by_cases hearlier : ∃ other, a.rank other < a.rank check ∧ ∃ b, a.ban? other = some b
  · obtain ⟨other, hrank, b, hother⟩ := hearlier
    exact exists_findsFirst hother
  · refine ⟨check, ban, h, fun other hrank => ?_⟩
    exact Option.eq_none_iff_forall_ne_some.2 fun b hb => hearlier ⟨other, hrank, b, hb⟩
termination_by a.rank check

/-- No two checks that are made have one rank. -/
theorem eq_of_rank (hcheck : check ∈ a.checks) (hother : other ∈ a.checks)
    (h : a.rank check = a.rank other) : check = other := by
  have hranks : (a.checks.map a.rank).Pairwise (· < ·) := List.pairwise_map.2 a.ordered
  exact List.inj_on_of_nodup_map (hranks.imp Nat.ne_of_lt) hcheck hother h

theorem FindsFirst.unique (h : a.FindsFirst check ban) (h' : a.FindsFirst other ban') :
    check = other := by
  rcases Nat.lt_trichotomy (a.rank check) (a.rank other) with hlt | heq | hgt
  · cases h.1.symm.trans (h'.2 check hlt)
  · exact eq_of_rank (a.complete check ban h.1) (a.complete other ban' h'.1) heq
  · cases h'.1.symm.trans (h.2 other hgt)

section Bans

variable {Bans : κ → String → Value → Prop}
  (hbans : ∀ check target reason, a.ban? check = some (target, reason) ↔ Bans check target reason)

include hbans

theorem ban?_eq_none_iff :
    a.ban? check = none ↔ ∀ target reason, ¬ Bans check target reason := by
  rw [Option.eq_none_iff_forall_ne_some, Prod.forall]
  exact forall₂_congr fun target reason => not_congr (hbans check target reason)

/-- What it is to be the first, in words of what the checks find. -/
theorem findsFirst_iff {target : String} {reason : Value} :
    a.FindsFirst check (target, reason)
      ↔ Bans check target reason
        ∧ ∀ other, a.rank other < a.rank check → ∀ t x, ¬ Bans other t x :=
  and_congr (hbans check target reason) (forall₂_congr fun _ _ => ban?_eq_none_iff hbans)

end Bans

/-! ### What is reported -/

section Report

variable {r : Registry} {construct : Construct} {scope : Scope}
  (hchecks : Match.checks r construct = a.checks.map a.finding)
  (hscope : scope.isSuppressed = false) (location : Location)

include hchecks hscope

theorem hit_eq_first :
    hit r ⟨location, scope, construct⟩ = first (a.checks.map a.finding) := by
  rw [hit, hscope, ← hchecks]
  rfl

/-- What is reported is what the first check that finds a ban makes of it. -/
theorem diagnose_of_findsFirst (h : a.FindsFirst check ban) :
    diagnose r ⟨location, scope, construct⟩
      = (a.wording check (.text ban.1) ban.2 >>= fun message => location.text.map fun _ =>
          some ⟨location, message, some construct.kindName, some (a.rule check).name,
            checkName⟩) := by
  rw [diagnose, hit_eq_first hchecks hscope, first_of_findsFirst h, finding_of_some h.1]
  cases a.wording check (.text ban.1) ban.2 with
  | error fault => rfl
  | ok message => cases location.text <;> rfl

/-- The same where it is known what the message is and when it cannot be made. -/
theorem diagnose_of_wording {long : Bool} {message : String} (h : a.FindsFirst check ban)
    (hwording : a.wording check (.text ban.1) ban.2
      = if long then .error .tooManyDigits else .ok message) :
    diagnose r ⟨location, scope, construct⟩
      = if long then .error .tooManyDigits
        else location.text.map fun _ =>
          some ⟨location, message, some construct.kindName, some (a.rule check).name, checkName⟩ := by
  rw [diagnose_of_findsFirst hchecks hscope location h, hwording]
  cases long with
  | true => rfl
  | false => rfl

theorem diagnose_eq_none_iff :
    diagnose r ⟨location, scope, construct⟩ = .ok none ↔ ∀ check, a.ban? check = none := by
  constructor
  · intro hnone check
    refine Option.eq_none_iff_forall_ne_some.2 fun ban hban => ?_
    obtain ⟨first, b, hfirst⟩ := exists_findsFirst hban
    rw [diagnose_of_findsFirst hchecks hscope location hfirst] at hnone
    obtain ⟨message, -, hplace⟩ := Outcome.bind_eq_ok.1 hnone
    obtain ⟨place, -, hsome⟩ := Outcome.map_eq_ok.1 hplace
    cases hsome
  · intro hnone
    rw [diagnose, hit_eq_first hchecks hscope, first_of_none hnone]
    rfl

end Report

end Agenda

end BannedApi.Match
