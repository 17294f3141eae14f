import Sidelink.Proofs.Selection.Draw

/-!
# Every entry can be drawn

A draw leaves nothing out. For each place of a list there is a word that is accepted and leads there, the lowest of those
whose product with the length begins with the place.
-/

namespace Sidelink

/-- The random source that gives the same words over and over. -/
structure SameWords where
  narrow : UInt32
  wide : UInt64

instance : RandomSource SameWords := ⟨fun g => (g.narrow, g), fun g => (g.wide, g)⟩

namespace Random

theorem wordCount_pos (bits : Nat) : 0 < wordCount bits := by
  rw [wordCount, Nat.shiftLeft_eq, Nat.one_mul]
  exact Nat.two_pow_pos bits

/-- The lowest word that leads to place `i` of `n`. -/
def leastWord (bits n i : Nat) : Nat := (i * wordCount bits + (n - 1)) / n

theorem le_acceptZone (bits : Nat) {n : Nat} (h : 0 < n) : n - 1 ≤ acceptZone bits n := by
  have hshift : n ≤ n <<< (bits - 1 - Nat.log2 n) := by
    rw [Nat.shiftLeft_eq]
    exact Nat.le_mul_of_pos_right n (Nat.two_pow_pos _)
  unfold acceptZone
  omega

theorem leastWord_mul (bits : Nat) {n i : Nat} (h : 0 < n) :
    ∃ rest, rest ≤ n - 1 ∧ leastWord bits n i * n = rest + i * wordCount bits := by
  have hsplit := Nat.div_add_mod' (i * wordCount bits + (n - 1)) n
  have hmod := Nat.mod_lt (i * wordCount bits + (n - 1)) h
  exact ⟨n - 1 - (i * wordCount bits + (n - 1)) % n, by omega, by unfold leastWord; omega⟩

variable {bits n i : Nat}

theorem leastWord_lt (hi : i < n) (hn : n ≤ wordCount bits) : leastWord bits n i < wordCount bits := by
  obtain ⟨rest, hrest, hproduct⟩ := leastWord_mul bits (i := i) (show 0 < n by omega)
  refine Nat.lt_of_mul_lt_mul_right (a := n) ?_
  calc leastWord bits n i * n = rest + i * wordCount bits := hproduct
    _ < (i + 1) * wordCount bits := by rw [Nat.succ_mul]; omega
    _ ≤ n * wordCount bits := Nat.mul_le_mul_right _ hi
    _ = wordCount bits * n := Nat.mul_comm ..

theorem leastWord_accepted (hi : i < n) (hn : n ≤ wordCount bits) :
    leastWord bits n i * n % wordCount bits ≤ acceptZone bits n ∧ leastWord bits n i * n / wordCount bits = i := by
  have hpos : 0 < n := by omega
  obtain ⟨rest, hrest, hproduct⟩ := leastWord_mul bits (i := i) hpos
  have hzone := le_acceptZone bits hpos
  have hlt : rest < wordCount bits := by omega
  rw [hproduct, Nat.add_mul_mod_self_right, Nat.mod_eq_of_lt hlt, Nat.add_mul_div_right _ _ (wordCount_pos bits),
    Nat.div_eq_of_lt hlt]
  omega

theorem uniform_leastWord {γ : Type} {word : γ → Nat × γ} {g g' : γ} (hi : i < n) (hn : n ≤ wordCount bits)
    (hword : word g = (leastWord bits n i, g')) : uniform bits word 0 (n - 1) g = (i, g') := by
  obtain ⟨haccepted, hplace⟩ := leastWord_accepted hi hn
  have hrange : n - 1 + 1 - 0 = n := by omega
  unfold uniform
  rw [hrange]
  split
  · rename_i hfull
    rw [← hfull, Nat.mul_div_cancel _ (by omega)] at hplace
    rw [hword, hplace]
  · have hfirst : below bits word n attempts g = (i, g') := by
      rw [show attempts = 999 + 1 from rfl, below, hword]
      dsimp only
      rw [if_pos haccepted, hplace]
    rw [hfirst]
    simp

theorem exists_place (hi : i < n) (hn : n ≤ limit64) : ∃ g : SameWords, place n g = (i, g) := by
  unfold place
  split
  · rename_i hshort
    have hlt : leastWord 32 n i < wordCount 32 := leastWord_lt hi (Nat.le_of_lt hshort)
    refine ⟨⟨.ofNat (leastWord 32 n i), 0⟩, uniform_leastWord hi (Nat.le_of_lt hshort) ?_⟩
    exact Prod.ext (UInt32.toNat_ofNat_of_lt' hlt) rfl
  · have hlt : leastWord 64 n i < wordCount 64 := leastWord_lt hi hn
    refine ⟨⟨0, .ofNat (leastWord 64 n i)⟩, uniform_leastWord hi hn ?_⟩
    exact Prod.ext (UInt64.toNat_ofNat_of_lt' hlt) rfl

theorem exists_choose {β : Type} {xs : List β} {x : β} (hx : x ∈ xs) (hlength : xs.length ≤ limit64) :
    ∃ g : SameWords, choose xs g = (some x, g) := by
  obtain ⟨i, hi, hat⟩ := List.mem_iff_getElem.1 hx
  obtain ⟨g, hplace⟩ := exists_place hi hlength
  cases xs with
  | nil => cases hx
  | cons first rest =>
    refine ⟨g, ?_⟩
    rw [List.length_cons] at hplace
    unfold choose
    dsimp only
    rw [hplace]
    exact Prod.ext ((List.getElem?_eq_getElem hi).trans (congrArg some hat)) rfl

end Random

end Sidelink
