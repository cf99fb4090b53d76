import BannedApi.Value.Basic

/-!
Keys of a mapping.

Two scalars are one key when they have one value, whatever kind of number or truth value writes it
down and whatever offset a moment is told with. `Scalar.keyed` is this value: being one key is to
have equal values (`Scalar.sameKey_iff`), so keys fall into classes, and `Scalar.distinct` takes the
first of each class.
-/
namespace BannedApi

namespace Number

theorem scale_two_pos (e : Int) : 0 < (scale 2 e).1 ∧ 0 < (scale 2 e).2 := by
  unfold scale
  split
  · exact ⟨Nat.pow_pos (by decide), Nat.one_pos⟩
  · exact ⟨Nat.one_pos, Nat.pow_pos (by decide)⟩

theorem Binary64.ratio_den_ne_zero (m : Nat) (e : Int) : (ratio m e).2 ≠ 0 :=
  Nat.ne_of_gt (scale_two_pos e).2

theorem Binary64.ratio_num_eq_zero_iff {m : Nat} {e : Int} : (ratio m e).1 = 0 ↔ m = 0 := by
  have hpos := (scale_two_pos e).1
  simp only [ratio, Nat.mul_eq_zero]
  omega

/-- A number of either sign. -/
def signed (negative : Bool) (n : Nat) : Int := if negative then -n else n

theorem signed_mul (negative : Bool) (m n : Nat) :
    signed negative m * n = signed negative (m * n) := by
  cases negative with
  | true => rw [signed, signed, if_pos rfl, if_pos rfl, Int.neg_mul, Int.natCast_mul]
  | false => simp [signed]

theorem signed_eq_signed_iff {negative negative' : Bool} {m n : Nat} :
    signed negative m = signed negative' n ↔ m = n ∧ (m = 0 ∨ negative = negative') := by
  cases negative <;> cases negative' <;> simp only [signed] <;> grind

theorem eq_signed_iff {negative : Bool} {n : Int} {m : Nat} :
    n = signed negative m ↔ m = n.natAbs ∧ (n = 0 ∨ decide (n < 0) = negative) := by
  cases negative <;> simp [signed] <;> omega

/-- What a number stands for as a key: a value on the line of numbers, or a number beyond it. -/
def keyed : Number → Rat ⊕ Binary64
  | .int n => .inl (mkRat n 1)
  | .float (.finite negative m e) =>
    .inl (mkRat (signed negative (Binary64.ratio m e).1) (Binary64.ratio m e).2)
  | .float x => .inr x

theorem equalsInt_iff {n : Int} {negative : Bool} {m : Nat} {e : Int} :
    Binary64.equalsInt n (.finite negative m e) = true
      ↔ n * ((Binary64.ratio m e).2 : Nat) = signed negative (Binary64.ratio m e).1 := by
  have hden := Binary64.ratio_den_ne_zero m e
  have hsign : n * ((Binary64.ratio m e).2 : Nat) < 0 ↔ n < 0 := by
    constructor
    · intro h
      refine Int.not_le.1 fun hn => ?_
      have := Int.mul_nonneg hn (Int.natCast_nonneg (Binary64.ratio m e).2)
      omega
    · intro h
      exact Int.mul_neg_of_neg_of_pos h (by omega)
  rw [eq_signed_iff, Int.natAbs_mul, Int.natAbs_natCast]
  simp only [Binary64.equalsInt, Bool.and_eq_true, beq_iff_eq, Bool.or_eq_true, hsign,
    Int.mul_eq_zero, Int.natCast_eq_zero, hden, or_false]

theorem sameValue_finite_iff {negative negative' : Bool} {m m' : Nat} {e e' : Int} :
    Binary64.sameValue (.finite negative m e) (.finite negative' m' e') = true
      ↔ signed negative (Binary64.ratio m e).1 * ((Binary64.ratio m' e').2 : Nat)
        = signed negative' (Binary64.ratio m' e').1 * ((Binary64.ratio m e).2 : Nat) := by
  have hden := Binary64.ratio_den_ne_zero m' e'
  rw [signed_mul, signed_mul, signed_eq_signed_iff]
  simp only [Binary64.sameValue, Bool.and_eq_true, beq_iff_eq, Bool.or_eq_true, Nat.mul_eq_zero,
    hden, or_false, Binary64.ratio_num_eq_zero_iff]

theorem sameKey_iff {m n : Number} : m.sameKey n = true ↔ m.keyed = n.keyed := by
  cases m with
  | int m =>
    cases n with
    | int n => simp [sameKey, sameValue, isNan, keyed, Rat.mkRat_eq_iff]
    | float y =>
      cases y with
      | finite negative k e =>
        simp [sameKey, sameValue, isNan, keyed, equalsInt_iff,
          Rat.mkRat_eq_iff Nat.one_ne_zero (Binary64.ratio_den_ne_zero k e)]
      | infinite negative => simp [sameKey, sameValue, isNan, keyed, Binary64.equalsInt]
      | nan => simp [sameKey, sameValue, isNan, keyed, Binary64.equalsInt]
  | float x =>
    cases x with
    | finite negative k e =>
      cases n with
      | int n =>
        simpa [sameKey, sameValue, isNan, keyed, equalsInt_iff,
          Rat.mkRat_eq_iff (Binary64.ratio_den_ne_zero k e) Nat.one_ne_zero] using eq_comm
      | float y =>
        cases y with
        | finite negative' k' e' =>
          simp [sameKey, sameValue, isNan, keyed, sameValue_finite_iff,
            Rat.mkRat_eq_iff (Binary64.ratio_den_ne_zero k e) (Binary64.ratio_den_ne_zero k' e')]
        | infinite negative' => simp [sameKey, sameValue, isNan, keyed, Binary64.sameValue]
        | nan => simp [sameKey, sameValue, isNan, keyed, Binary64.sameValue]
    | infinite negative =>
      cases n with
      | int n => simp [sameKey, sameValue, isNan, keyed, Binary64.equalsInt]
      | float y => cases y <;> simp [sameKey, sameValue, isNan, keyed, Binary64.sameValue]
    | nan =>
      cases n with
      | int n => simp [sameKey, sameValue, isNan, keyed, Binary64.equalsInt]
      | float y => cases y <;> simp [sameKey, sameValue, isNan, keyed, Binary64.sameValue]

end Number

/-- What a moment stands for as a key: an instant if it is told with an offset, else itself. -/
def Moment.keyed : Moment → Int ⊕ Moment
  | .dateTime y m d hh mm ss us (some offset) => .inl (instant y m d hh mm ss us offset)
  | m => .inr m

theorem Moment.same_iff {m n : Moment} : m.same n = true ↔ m.keyed = n.keyed := by
  rcases m with _ | ⟨_, _, _, _, _, _, _, _ | _⟩ <;>
    rcases n with _ | ⟨_, _, _, _, _, _, _, _ | _⟩ <;>
      simp [same, keyed]

/-- What a scalar stands for as a key. -/
inductive KeyValue where
  | number (v : Rat ⊕ Number.Binary64)
  | moment (v : Int ⊕ Moment)
  | itself (s : Scalar)

namespace Scalar

/-- The value of a scalar as a key. A truth value stands for a number. -/
def keyed : Scalar → KeyValue
  | .bool b => .number (Number.int (if b then 1 else 0)).keyed
  | .number n => .number n.keyed
  | .moment m => .moment m.keyed
  | s => .itself s

theorem sameKey_iff {a b : Scalar} : a.sameKey b = true ↔ a.keyed = b.keyed := by
  cases a <;> cases b <;> simp [sameKey, keyed, numeric?, Number.sameKey_iff, Moment.same_iff]

/-! ### Different keys -/

/-- The keys in the order in which they first come, each of them once. -/
def distinct : List Scalar → List Scalar
  | [] => []
  | k :: ks => k :: (distinct ks).filter fun l => !k.sameKey l

theorem distinct_concat (ks : List Scalar) (k : Scalar) :
    distinct (ks ++ [k]) = if ks.any (·.sameKey k) then distinct ks else distinct ks ++ [k] := by
  induction ks with
  | nil => rfl
  | cons j ks ih =>
    simp only [List.cons_append, distinct, ih, List.any_cons]
    by_cases hj : j.sameKey k = true
    · split <;> simp [hj]
    · split <;> simp [*]

theorem mem_of_mem_distinct {ks : List Scalar} {k : Scalar} (h : k ∈ distinct ks) : k ∈ ks := by
  induction ks with
  | nil => exact h
  | cons j ks ih =>
    rcases List.mem_cons.1 h with rfl | h
    · exact List.mem_cons_self ..
    · exact List.mem_cons_of_mem j (ih (List.mem_filter.1 h).1)

theorem exists_mem_distinct {ks : List Scalar} {k : Scalar} (h : k ∈ ks) :
    ∃ l ∈ distinct ks, l.keyed = k.keyed := by
  induction ks with
  | nil => cases h
  | cons j ks ih =>
    rcases List.mem_cons.1 h with rfl | h
    · exact ⟨k, List.mem_cons_self .., rfl⟩
    · obtain ⟨l, hl, hlk⟩ := ih h
      by_cases hjl : j.sameKey l = true
      · exact ⟨j, List.mem_cons_self .., (sameKey_iff.1 hjl).trans hlk⟩
      · exact ⟨l, List.mem_cons_of_mem j (List.mem_filter.2 ⟨hl, by simp [hjl]⟩), hlk⟩

theorem pairwise_distinct (ks : List Scalar) :
    (distinct ks).Pairwise fun k l => k.keyed ≠ l.keyed := by
  induction ks with
  | nil => exact .nil
  | cons j ks ih =>
    refine List.pairwise_cons.2 ⟨fun l hl => ?_, ih.filter _⟩
    have hjl := (List.mem_filter.1 hl).2
    exact fun hkeyed => by simp [sameKey_iff.2 hkeyed] at hjl

theorem any_distinct (ks : List Scalar) (k : Scalar) :
    (distinct ks).any (·.sameKey k) = ks.any (·.sameKey k) := by
  rw [Bool.eq_iff_iff]
  simp only [List.any_eq_true, sameKey_iff]
  constructor
  · rintro ⟨l, hl, hlk⟩
    exact ⟨l, mem_of_mem_distinct hl, hlk⟩
  · rintro ⟨l, hl, hlk⟩
    obtain ⟨j, hj, hjl⟩ := exists_mem_distinct hl
    exact ⟨j, hj, hjl.trans hlk⟩

end Scalar

end BannedApi
