import Sidelink.Selection.Draw

/-!
# What is drawn

A draw of a number gives one within its bounds, and a draw of a resource one of those that it is made from.
-/

namespace Sidelink

variable {γ : Type} [RandomSource γ]

/-! ## Numbers -/

namespace Random

variable {bits : Nat} {word : γ → Nat × γ}

omit [RandomSource γ] in
theorem below_lt (hword : ∀ g, (word g).1 < wordCount bits) {range : Nat} (h : 0 < range) (fuel : Nat) (g : γ) :
    (below bits word range fuel g).1 < range := by
  induction fuel generalizing g with
  | zero => exact h
  | succ fuel ih =>
    unfold below
    dsimp only
    split
    · apply Nat.div_lt_of_lt_mul
      exact Nat.mul_lt_mul_of_pos_right (hword g) h
    · exact ih _

theorem count32_lt (g : γ) : (count32 g).1 < wordCount 32 := UInt32.toNat_lt (RandomSource.next32 g).1

theorem count64_lt (g : γ) : (count64 g).1 < wordCount 64 := UInt64.toNat_lt (RandomSource.next64 g).1

omit [RandomSource γ] in
theorem uniform_between (hword : ∀ g, (word g).1 < wordCount bits) {low high : Nat} (h : low ≤ high)
    (hfits : low = 0 ∨ high < wordCount bits) (g : γ) :
    low ≤ (uniform bits word low high g).1 ∧ (uniform bits word low high g).1 ≤ high := by
  unfold uniform
  split
  · have := hword g
    omega
  · have := below_lt hword (show 0 < high + 1 - low by omega) attempts g
    dsimp only
    omega

theorem uniform32_between {low high : Nat} (h : low ≤ high) (hword : high < limit32) (g : γ) :
    low ≤ (uniform32 low high g).1 ∧ (uniform32 low high g).1 ≤ high :=
  uniform_between count32_lt h (.inr hword) g

theorem place_lt {n : Nat} (h : 0 < n) (g : γ) : (place n g).1 < n := by
  unfold place
  split
  · have := uniform_between count32_lt (Nat.zero_le (n - 1)) (.inl rfl) g
    unfold uniform32
    omega
  · have := uniform_between count64_lt (Nat.zero_le (n - 1)) (.inl rfl) g
    unfold uniform64
    omega

end Random

theorem drawCounter_between (rriMs : Nat) (g : γ) : 5 ≤ (drawCounter rriMs g).1 ∧ (drawCounter rriMs g).1 ≤ 75 := by
  unfold drawCounter
  split
  · have := Random.uniform32_between (show 5 ≤ 15 by omega) (by decide) g
    omega
  · rename_i hshort
    have hlow : 1 ≤ 100 / max rriMs 20 := (Nat.le_div_iff_mul_le (by omega)).2 (by omega)
    have hhigh : 100 / max rriMs 20 ≤ 5 := Nat.div_le_of_le_mul (by omega)
    have hrange : 5 * (100 / max rriMs 20) ≤ 15 * (100 / max rriMs 20) := by omega
    have hword : 15 * (100 / max rriMs 20) < limit32 := by
      unfold limit32
      omega
    have := Random.uniform32_between hrange hword g
    dsimp only
    omega

/-! ## Resources -/

theorem mem_of_choose {β : Type} {xs : List β} {x : β} {g g' : γ} (h : Random.choose xs g = (some x, g')) :
    x ∈ xs := by
  cases xs with
  | nil => cases h
  | cons first rest =>
    unfold Random.choose at h
    exact List.mem_of_getElem? (congrArg Prod.fst h)

theorem choose_of_ne_nil {β : Type} {xs : List β} (h : xs ≠ []) (g : γ) :
    ∃ x g', Random.choose xs g = (some x, g') := by
  cases xs with
  | nil => exact absurd rfl h
  | cons first rest =>
    have hlt : (Random.place (rest.length + 1) g).1 < (first :: rest).length := Random.place_lt (Nat.succ_pos _) g
    exact ⟨_, _, Prod.ext (List.getElem?_eq_getElem hlt) rfl⟩

theorem choose_eq_none_iff {β : Type} {xs : List β} {g : γ} : (Random.choose xs g).1 = none ↔ xs = [] := by
  cases xs with
  | nil => simp [Random.choose]
  | cons first rest =>
    obtain ⟨x, g', hsome⟩ := choose_of_ne_nil (List.cons_ne_nil first rest) g
    simp [hsome]

theorem mem_of_drawRetransmission {resources : List Resource} {initial c : Resource} {g g' : γ}
    (h : drawRetransmission resources initial g = (some c, g')) : c ∈ resources := by
  unfold drawRetransmission at h
  dsimp only at h
  split at h
  · exact (List.mem_filter.1 (mem_of_choose h)).1
  · exact (List.mem_filter.1 (List.mem_filter.1 (mem_of_choose h)).1).1

theorem slot_ne_of_drawRetransmission {resources : List Resource} {initial c : Resource} {g g' : γ}
    (h : drawRetransmission resources initial g = (some c, g')) : c.slot ≠ initial.slot := by
  have hother : ∀ x ∈ resources.filter fun c => c.slot ≠ initial.slot, x.slot ≠ initial.slot := by
    simp
  unfold drawRetransmission at h
  dsimp only at h
  split at h
  · exact hother c (mem_of_choose h)
  · exact hother c (List.mem_filter.1 (mem_of_choose h)).1

variable {α : Type} [Analysis α]

theorem mem_of_mem_best {β : Type} {ranked : List (α × β)} {x : β} (h : x ∈ best ranked) :
    ∃ level, (level, x) ∈ ranked := by
  unfold best at h
  split at h
  · obtain ⟨⟨level, y⟩, hy, rfl⟩ := List.mem_map.1 h
    exact ⟨level, List.takeWhile_subset _ hy⟩
  · cases h

theorem mem_of_eligible {history : History α} {slotsPerMs : Nat} {resources drawable : List Resource}
    {ranking : Ranking} (h : eligible history slotsPerMs resources ranking = .ok drawable) {c : Resource}
    (hc : c ∈ drawable) : c ∈ resources := by
  cases ranking with
  | random =>
    cases h
    exact hc
  | lowestInterference =>
    unfold eligible at h
    cases hlevels : resources.mapM fun c => history.averageInterference (ε := FlowError) c slotsPerMs with
    | error e => rw [hlevels] at h; cases h
    | ok levels =>
      rw [hlevels] at h
      cases h
      obtain ⟨level, hmem⟩ := mem_of_mem_best hc
      exact (List.of_mem_zip (List.mem_mergeSort.1 hmem)).2

theorem drawResource_of_eligible {resources drawable : List Resource} {ranking : Ranking} {history : History α}
    {slotsPerMs : Nat} {c : Resource} {g g' : γ}
    (heligible : eligible history slotsPerMs resources ranking = .ok drawable)
    (hchoose : Random.choose drawable g = (some c, g')) :
    drawResource resources ranking history slotsPerMs g = (.ok c, g') := by
  rw [drawResource, heligible]
  dsimp only
  rw [hchoose]

theorem mem_of_drawResource {resources : List Resource} {ranking : Ranking} {history : History α} {slotsPerMs : Nat}
    {c : Resource} {g g' : γ} (h : drawResource resources ranking history slotsPerMs g = (.ok c, g')) :
    c ∈ resources := by
  unfold drawResource at h
  split at h
  · cases h
  · rename_i drawable hdrawable
    split at h
    · rename_i hchoose
      cases h
      exact mem_of_eligible hdrawable (mem_of_choose hchoose)
    · cases h

end Sidelink
