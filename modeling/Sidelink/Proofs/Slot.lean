import Sidelink.Slot

/-!
# Distances on the ring

A slot is at most one turn of the ring after another. Until the turn is complete the distance grows by one with every
slot, and it stays the same when both slots are shifted.
-/

namespace Sidelink.Slot

variable {a b s : Slot}

theorem since_lt (a b : Slot) : a.since b < 10240 := Nat.mod_lt _ (by decide)

@[simp] theorem since_self (a : Slot) : a.since a = 0 := by
  simp [since]

theorem since_left_inj : a.since s = b.since s ↔ a = b := by
  constructor
  · intro h
    have := a.isLt
    have := b.isLt
    have := s.isLt
    apply ext_index
    simp only [since] at h
    omega
  · rintro rfl
    rfl

theorem since_eq_zero : a.since b = 0 ↔ a = b := by
  rw [← since_self b, since_left_inj]

theorem since_add (s : Slot) (n : Nat) : (s + n).since s = n % 10240 := by
  have := s.isLt
  simp only [since, index_later]
  omega

theorem add_since (a s : Slot) : s + a.since s = a := by
  rw [← since_left_inj (s := s), since_add, Nat.mod_eq_of_lt (since_lt a s)]

theorem since_add_of_lt {n : Nat} (h : a.since b + n < 10240) : (a + n).since b = a.since b + n := by
  have := a.isLt
  have := b.isLt
  simp only [since, index_later] at h ⊢
  omega

theorem since_add_of_le {n : Nat} (hn : n < 10240) (h : 10240 ≤ a.since b + n) :
    (a + n).since b = a.since b + n - 10240 := by
  have := a.isLt
  have := b.isLt
  simp only [since, index_later] at h ⊢
  omega

theorem add_right_inj_of_lt {m n : Nat} (hm : m < 10240) (hn : n < 10240) : s + m = s + n ↔ m = n := by
  constructor
  · intro h
    have hsince := congrArg (·.since s) h
    simp only [since_add] at hsince
    rwa [Nat.mod_eq_of_lt hm, Nat.mod_eq_of_lt hn] at hsince
  · rintro rfl
    rfl

theorem add_ne_add_of_lt {m n : Nat} (hlt : m < n) (hturn : n < m + 10240) : s + m ≠ s + n := by
  intro h
  have hrest : s + m + 0 = s + m + (n - m) := by
    rw [add_zero, add_add, Nat.add_sub_cancel' (Nat.le_of_lt hlt)]
    exact h
  rw [add_right_inj_of_lt (by decide) (by omega)] at hrest
  omega

@[simp] theorem add_since_add (a b : Slot) (n : Nat) : (a + n).since (b + n) = a.since b := by
  have := a.isLt
  have := b.isLt
  simp only [since, index_later]
  omega

@[simp] theorem add_left_inj (n : Nat) : a + n = b + n ↔ a = b := by
  rw [← since_eq_zero, add_since_add, since_eq_zero]

theorem next_since (h : a.since b + 1 < 10240) : a.next.since b = a.since b + 1 := by
  have := a.isLt
  have := b.isLt
  simp only [next, since, index_later] at h ⊢
  omega

theorem since_next (h : a ≠ b) : a.since b = a.since b.next + 1 := by
  have := a.isLt
  have := b.isLt
  have hne : a.index ≠ b.index := fun heq => h (ext_index heq)
  simp only [next, since, index_later]
  omega

theorem since_eq_sub (h : a ≠ b) : a.since b = 10240 - b.since a := by
  have := a.isLt
  have := b.isLt
  have hne : a.index ≠ b.index := fun heq => h (ext_index heq)
  simp only [since]
  omega

theorem since_sub (h : b.since s ≤ a.since s) : a.since b = a.since s - b.since s := by
  have := a.isLt
  have := b.isLt
  have := s.isLt
  simp only [since] at h ⊢
  omega

end Sidelink.Slot
