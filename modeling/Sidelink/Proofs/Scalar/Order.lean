import Sidelink.Proofs.Scalar.Rational

/-!
# Laws of comparison

What is asked of the comparisons of a scalar. Binary64 keeps these laws as the rationals do, since they say nothing
of a scalar that is no number but that it is neither below nor above another.
-/

namespace Sidelink.Scalar

class LawfulOrder (α : Type) [Scalar α] : Prop where
  lt_irrefl (x : α) : ¬x < x
  lt_trans {x y z : α} : x < y → y < z → x < z
  lt_of_lt_of_le {x y z : α} : x < y → y ≤ z → x < z
  le_trans {x y z : α} : x ≤ y → y ≤ z → x ≤ z
  le_of_lt {x y : α} : x < y → x ≤ y
  le_of_not_lt {x y : α} : isNaN x = false → isNaN y = false → ¬x < y → y ≤ x
  not_lt_of_isNaN {x y : α} : isNaN x = true → ¬x < y ∧ ¬y < x

instance : LawfulOrder ℚ where
  lt_irrefl x := Rat.lt_irrefl
  lt_trans h h' := Std.lt_trans h h'
  lt_of_lt_of_le h h' := Std.lt_of_lt_of_le h h'
  le_trans := Rat.le_trans
  le_of_lt := Rat.le_of_lt
  le_of_not_lt _ _ := Rat.not_lt.1
  not_lt_of_isNaN h := by simp [isNaN] at h

class LawfulRanking (α : Type) [Scalar α] : Prop extends LawfulOrder α where
  not_le_of_isNaN {x y : α} : isNaN x = true → ¬x ≤ y

instance : LawfulRanking ℚ where
  not_le_of_isNaN h := by simp [isNaN] at h

/-- Two scalars of which none is the larger are equal, as the two zeros of binary64 are. -/
class LawfulEquality (α : Type) [Scalar α] : Prop where
  beq_of_le_of_le {x y : α} : x ≤ y → y ≤ x → x == y

instance : LawfulEquality ℚ where
  beq_of_le_of_le h h' := beq_iff_eq.2 (Rat.le_antisymm h h')

variable {α : Type} [Scalar α] [LawfulOrder α]

open LawfulOrder

/-! ## The larger of two -/

theorem le_refl {x : α} (h : isNaN x = false) : x ≤ x := le_of_not_lt h h (lt_irrefl x)

theorem left_le_larger {x y : α} (hx : isNaN x = false) : x ≤ larger x y := by
  unfold larger
  rw [if_neg (by simp [hx])]
  split
  · exact le_of_lt ‹_›
  · exact le_refl hx

theorem right_le_larger {x y : α} (hx : isNaN x = false) (hy : isNaN y = false) : y ≤ larger x y := by
  unfold larger
  rw [if_neg (by simp [hx])]
  split
  · exact le_refl hy
  · exact le_of_not_lt hx hy ‹_›

/-! ## The largest of many -/

theorem not_foldl_larger_lt (p : α) (rest : List α) : ∀ c ∈ p :: rest, ¬rest.foldl larger p < c := by
  induction rest generalizing p with
  | nil => simpa using lt_irrefl p
  | cons q rest ih =>
    rw [List.foldl_cons]
    have hlarger := ih (larger p q) (larger p q) (by simp)
    have hboth : ¬rest.foldl larger (larger p q) < p ∧ ¬rest.foldl larger (larger p q) < q := by
      generalize rest.foldl larger (larger p q) = m at hlarger ⊢
      unfold larger at hlarger
      split at hlarger
      · rename_i hnan
        exact ⟨(not_lt_of_isNaN hnan).2, hlarger⟩
      · rename_i hp
        split at hlarger
        · rename_i hlt
          exact ⟨fun hmp => hlarger (lt_trans hmp hlt), hlarger⟩
        · rename_i hlt
          refine ⟨hlarger, fun hmq => ?_⟩
          cases hq : isNaN q with
          | true => exact (not_lt_of_isNaN hq).2 hmq
          | false => exact hlarger (lt_of_lt_of_le hmq (le_of_not_lt (by simpa using hp) hq hlt))
    intro c hc
    rcases List.mem_cons.1 hc with rfl | hc
    · exact hboth.1
    · rcases List.mem_cons.1 hc with rfl | hc
      · exact hboth.2
      · exact ih _ c (List.mem_cons_of_mem _ hc)

/-! ## The unit interval -/

/-- The ends of the unit interval are numbers, in this order. -/
class LawfulUnit (α : Type) [Scalar α] : Prop where
  isNaN_zero : isNaN (0.0 : α) = false
  isNaN_one : isNaN (1.0 : α) = false
  zero_le_one : (0.0 : α) ≤ 1.0

instance : LawfulUnit ℚ where
  isNaN_zero := by simp [isNaN]
  isNaN_one := by simp [isNaN]
  zero_le_one := by decide +kernel

structure InUnit {α : Type} [Scalar α] (x : α) : Prop where
  isNaN_eq : isNaN x = false
  nonneg : 0.0 ≤ x
  le_one : x ≤ 1.0

variable [LawfulUnit α]

open LawfulUnit

theorem InUnit.one : InUnit (1.0 : α) := ⟨isNaN_one, zero_le_one, le_refl isNaN_one⟩

theorem InUnit.clampUnit {x : α} (h : isNaN x = false) : InUnit (clampUnit x) := by
  unfold Scalar.clampUnit
  split
  · exact ⟨isNaN_zero, le_refl isNaN_zero, zero_le_one⟩
  · split
    · exact InUnit.one
    · exact ⟨h, le_of_not_lt h isNaN_zero ‹_›, le_of_not_lt isNaN_one h ‹_›⟩

/-! ## Reciprocals -/

/-- The reciprocal of a positive scalar is not negative. -/
class LawfulReciprocal (α : Type) [Scalar α] : Prop where
  zero_le_reciprocal {x : α} : 0.0 < x → 0.0 ≤ 1.0 / x

instance : LawfulReciprocal ℚ where
  zero_le_reciprocal {x} h := by
    have hzero : (0.0 : ℚ) = 0 := by decide +kernel
    have hone : (1.0 : ℚ) = 1 := by decide +kernel
    rw [hzero] at h ⊢
    rw [hone]
    exact div_nonneg zero_le_one h.le

end Sidelink.Scalar
