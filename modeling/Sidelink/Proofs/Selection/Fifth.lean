import Sidelink.Proofs.Random.Places
import Sidelink.Proofs.Scalar.Nearest
import Sidelink.Proofs.Selection.Ranking

/-!
# The least interfered fifth

A draw by interference is one from all candidates whose level is at most that of the last of the best fifth. Those with
the same level as this one are drawn from as well, wherever they come in the list. So there is always something to draw
from.
-/

namespace Sidelink

/-! ## Places in an order -/

theorem takeWhile_eq_filter {β : Type} {p : β → Bool} {xs : List β}
    (h : xs.Pairwise fun a b => p b = true → p a = true) : xs.takeWhile p = xs.filter p := by
  induction xs with
  | nil => rfl
  | cons x rest ih =>
    obtain ⟨hx, hrest⟩ := List.pairwise_cons.1 h
    cases hp : p x with
    | true => rw [List.takeWhile_cons_of_pos hp, List.filter_cons_of_pos hp, ih hrest]
    | false =>
      have hnone : rest.filter p = [] := List.filter_eq_nil_iff.2 fun y hy hpy => by simp [hx y hy hpy] at hp
      rw [List.takeWhile_cons_of_neg (by simp [hp]), List.filter_cons_of_neg (by simp [hp]), hnone]

/-- A value that comes in place `k` of a list, counted from one, when smaller values come first. -/
structure IsSmallest {α : Type} [Scalar α] (k : Nat) (xs : List α) (x : α) : Prop where
  mem : x ∈ xs
  below : xs.countP (fun y => decide (y < x)) < k
  upTo : k ≤ xs.countP (fun y => decide (y ≤ x))

section

variable {α : Type} [Scalar α]

theorem IsSmallest.of_perm {k : Nat} {xs ys : List α} {x : α} (h : IsSmallest k xs x) (hperm : xs.Perm ys) :
    IsSmallest k ys x :=
  ⟨hperm.mem_iff.1 h.mem, hperm.countP_eq _ ▸ h.below, hperm.countP_eq _ ▸ h.upTo⟩

variable [Scalar.LawfulOrder α]

open Scalar LawfulOrder

theorem IsSmallest.of_sorted {xs : List α} (hsorted : xs.Pairwise (· ≤ ·)) (hnumbers : ∀ x ∈ xs, isNaN x = false)
    {k : Nat} (hk : k < xs.length) : IsSmallest (k + 1) xs xs[k] := by
  have hmem : xs[k] ∈ xs := List.getElem_mem hk
  have hself := le_refl (hnumbers _ hmem)
  have hsplit : xs.take k ++ xs[k] :: xs.drop (k + 1) = xs := by
    rw [List.getElem_cons_drop, List.take_append_drop]
  rw [← hsplit, List.pairwise_append, List.pairwise_cons] at hsorted
  obtain ⟨-, ⟨hafter, -⟩, hbefore⟩ := hsorted
  generalize xs[k] = x at *
  have hlength : (xs.take k).length = k := List.length_take_of_le (Nat.le_of_lt hk)
  refine ⟨hmem, ?_, ?_⟩
  · have hnone : (x :: xs.drop (k + 1)).countP (fun y => decide (y < x)) = 0 := by
      refine List.countP_eq_zero.2 fun y hy hlt => ?_
      rw [decide_eq_true_eq] at hlt
      rcases List.mem_cons.1 hy with rfl | hy
      · exact lt_irrefl y hlt
      · exact lt_irrefl y (lt_of_lt_of_le hlt (hafter y hy))
    have hbound := List.countP_le_length (p := fun y => decide (y < x)) (l := xs.take k)
    rw [← hsplit, List.countP_append, hnone]
    omega
  · have hall : (xs.take k).countP (fun y => decide (y ≤ x)) = k := by
      rw [List.countP_eq_length.2 fun y hy => decide_eq_true (hbefore y hy x (by simp)), hlength]
    rw [← hsplit, List.countP_append, List.countP_cons_of_pos (by simpa using hself), hall]
    omega

end

/-! ## The candidates that are drawn from -/

theorem bestCount_eq {n : Nat} (h : 0 < n) : bestCount n = ⌈(n : ℚ) / 5⌉₊ := by
  rw [Binary64.ceil_fifth h]
  unfold bestCount
  omega

theorem bestCount_eq_of_nearest {n : Nat} (h : 0 < n) (hn : n ≤ 2 ^ 50) {share product : ℚ}
    (hshare : Binary64.Nearest (1 / 5) share) (hproduct : Binary64.Nearest (n * share) product) :
    bestCount n = max ⌈product⌉₊ 1 := by
  rw [Binary64.ceil_of_nearest h hn hshare hproduct, ← bestCount_eq h, Nat.max_eq_left (bestCount_le h).1]

section

variable {α : Type} [Analysis α] [Scalar.LawfulRanking α]

open Scalar

theorem best_of_sorted {β : Type} {ranked : List (α × β)} (hne : ranked ≠ [])
    (hsorted : ranked.Pairwise fun a b => a.1 ≤ b.1) (hnumbers : ∀ x ∈ ranked, isNaN x.1 = false) :
    ∃ cut, IsSmallest ⌈(ranked.length : ℚ) / 5⌉₊ (ranked.map Prod.fst) cut ∧
      best ranked = (ranked.filter fun x => decide (x.1 ≤ cut)).map Prod.snd := by
  have hpos := List.length_pos_iff.2 hne
  obtain ⟨hone, hcount⟩ := bestCount_le hpos
  have hk : bestCount ranked.length - 1 < ranked.length := by omega
  refine ⟨ranked[bestCount ranked.length - 1].1, ?_, ?_⟩
  · have hplace := IsSmallest.of_sorted (List.pairwise_map.2 hsorted) (List.forall_mem_map.2 hnumbers)
      (k := bestCount ranked.length - 1) (by rwa [List.length_map])
    rw [List.getElem_map, Nat.sub_add_cancel hone] at hplace
    rw [← bestCount_eq hpos]
    exact hplace
  · unfold best
    rw [List.getElem?_eq_getElem hk]
    refine congrArg _ (takeWhile_eq_filter (hsorted.imp fun hle hb => ?_))
    rw [decide_eq_true_eq] at hb ⊢
    exact LawfulOrder.le_trans hle hb

theorem best_perm {β : Type} {level : β → α} {xs : List β} (hne : xs ≠ [])
    (hnumbers : ∀ x ∈ xs, isNaN (level x) = false) :
    ∃ cut, IsSmallest ⌈(xs.length : ℚ) / 5⌉₊ (xs.map level) cut ∧
      (best ((xs.map fun x => (level x, x)).mergeSort fun a b => rankLe a.1 b.1)).Perm
        (xs.filter fun x => decide (level x ≤ cut)) := by
  have hnumbers' : ∀ x ∈ xs.map fun x => (level x, x), isNaN x.1 = false := by
    rw [List.forall_mem_map]
    exact hnumbers
  have hsorted := pairwise_le_of_ranked hnumbers'
  have hperm := List.mergeSort_perm (xs.map fun x => (level x, x)) fun a b => rankLe a.1 b.1
  generalize ((xs.map fun x => (level x, x)).mergeSort fun a b => rankLe a.1 b.1) = ranked at hsorted hperm ⊢
  have hranked : ranked ≠ [] := by
    rintro rfl
    exact hne (List.map_eq_nil_iff.1 hperm.nil_eq.symm)
  obtain ⟨cut, hcut, hbest⟩ := best_of_sorted hranked hsorted fun x hx => hnumbers' x (hperm.mem_iff.1 hx)
  have hlevels := hperm.map Prod.fst
  rw [List.map_map] at hlevels
  rw [hperm.length_eq, List.length_map] at hcut
  refine ⟨cut, hcut.of_perm hlevels, ?_⟩
  rw [hbest]
  refine ((hperm.filter _).map _).trans (.of_eq ?_)
  rw [List.filter_map, List.map_map]
  exact List.map_id _

variable {history : History α} {resources : List Resource} {slotsPerMs : Nat} {level : Resource → α}

theorem eligible_lowest (hne : resources ≠ [])
    (hlevel : ∀ r ∈ resources, history.averageInterference (ε := FlowError) r slotsPerMs = .ok (level r) ∧
      isNaN (level r) = false) :
    ∃ cut drawable, IsSmallest ⌈(resources.length : ℚ) / 5⌉₊ (resources.map level) cut ∧
      eligible history slotsPerMs resources .lowestInterference = .ok drawable ∧ drawable ≠ [] ∧
      drawable.Perm (resources.filter fun r => decide (level r ≤ cut)) := by
  have hgives (r : Resource) (hr : r ∈ resources) :
      Gives (history.averageInterference (ε := FlowError) r slotsPerMs) (level r) True := .inl (hlevel r hr).1
  have hlevels : (resources.mapM fun r => history.averageInterference (ε := FlowError) r slotsPerMs) =
      .ok (resources.map level) := (Gives.mapM resources hgives).ok fun _ _ => trivial
  have hzip : (resources.map level).zip resources = resources.map fun r => (level r, r) := by
    simpa using List.zip_map' (f := level) (g := id) (l := resources)
  obtain ⟨cut, hcut, hperm⟩ := best_perm hne fun r hr => (hlevel r hr).2
  refine ⟨cut, _, hcut, ?_, ?_, hperm⟩
  · rw [eligible, hlevels, ok_bind, hzip]
    rfl
  · obtain ⟨r, hr, hat⟩ := List.mem_map.1 hcut.mem
    have hself : level r ≤ cut := hat ▸ le_refl (hlevel r hr).2
    exact List.ne_nil_of_mem (hperm.mem_iff.2 (List.mem_filter.2 ⟨hr, decide_eq_true hself⟩))

/-! ## Draws -/

/-- A draw by interference gives a candidate of the best fifth, and each of these for some source of randomness. -/
theorem lowest_fifth_drawn (hne : resources ≠ [])
    (hlevel : ∀ r ∈ resources, history.averageInterference (ε := FlowError) r slotsPerMs = .ok (level r) ∧
      isNaN (level r) = false) :
    (bestCount resources.length = ⌈(resources.length : ℚ) / 5⌉₊ ∧ (resources.length ≤ 2 ^ 50 → ∀ share product : ℚ,
      Binary64.Nearest (1 / 5) share → Binary64.Nearest (resources.length * share) product →
        bestCount resources.length = max ⌈product⌉₊ 1)) ∧
    ∃ cut, IsSmallest ⌈(resources.length : ℚ) / 5⌉₊ (resources.map level) cut ∧
      (∀ {γ : Type} [RandomSource γ] (g : γ), ∃ r g',
        drawResource resources .lowestInterference history slotsPerMs g = (.ok r, g') ∧ r ∈ resources ∧ level r ≤ cut ∧
          resources.countP (fun r' => decide (level r' < level r)) < ⌈(resources.length : ℚ) / 5⌉₊) ∧
      (resources.length ≤ limit64 → ∀ r ∈ resources, level r ≤ cut →
        ∃ g : SameWords, drawResource resources .lowestInterference history slotsPerMs g = (.ok r, g)) := by
  have hpos := List.length_pos_iff.2 hne
  refine ⟨⟨bestCount_eq hpos, fun hlength share product => bestCount_eq_of_nearest hpos hlength⟩, ?_⟩
  obtain ⟨cut, drawable, hcut, heligible, hdrawable, hperm⟩ := eligible_lowest hne hlevel
  have hmem (r : Resource) : r ∈ drawable ↔ r ∈ resources ∧ level r ≤ cut := by
    rw [hperm.mem_iff, List.mem_filter, decide_eq_true_eq]
  refine ⟨cut, hcut, fun g => ?_, fun hlength r hr hle => ?_⟩
  · obtain ⟨r, g', hchoose⟩ := choose_of_ne_nil hdrawable g
    obtain ⟨hr, hle⟩ := (hmem r).1 (mem_of_choose hchoose)
    refine ⟨r, g', drawResource_of_eligible heligible hchoose, hr, hle, Nat.lt_of_le_of_lt ?_ hcut.below⟩
    rw [List.countP_map]
    refine List.countP_mono_left fun r' _ hlt => ?_
    rw [decide_eq_true_eq] at hlt
    exact decide_eq_true (LawfulOrder.lt_of_lt_of_le hlt hle)
  · have hshort : drawable.length ≤ limit64 := by
      have := List.length_filter_le (fun r => decide (level r ≤ cut)) resources
      rw [hperm.length_eq]
      omega
    obtain ⟨g, hchoose⟩ := Random.exists_choose ((hmem r).2 ⟨hr, hle⟩) hshort
    exact ⟨g, drawResource_of_eligible heligible hchoose⟩

end

section

variable {α : Type} [Analysis α] [Scalar.LawfulMeans α] {history : History α} {resources : List Resource}
  {slotsPerMs : Nat}

open Scalar

theorem eligible_ne_nil (ranking : Ranking) (hfinite : history.Finite) (hslots : 1000 * slotsPerMs < limit32)
    (hwords : ∀ r ∈ resources, r.start + r.count < limit16) (hne : resources ≠ []) :
    ∃ drawable, eligible history slotsPerMs resources ranking = .ok drawable ∧ drawable ≠ [] := by
  cases ranking with
  | random => exact ⟨resources, rfl, hne⟩
  | lowestInterference =>
    have hlevel (r : Resource) (hr : r ∈ resources) :
        history.averageInterference (ε := FlowError) r slotsPerMs = .ok (history.level slotsPerMs r) ∧
          isNaN (history.level slotsPerMs r) = false := by
      have hword := hwords r hr
      exact ⟨(history.averageInterference_gives r slotsPerMs).ok ⟨hslots, hword⟩,
        (hfinite.level (by omega) slotsPerMs).isNaN_eq⟩
    obtain ⟨_, drawable, -, heligible, hdrawable, -⟩ := eligible_lowest hne hlevel
    exact ⟨drawable, heligible, hdrawable⟩

theorem drawResource_ok {γ : Type} [RandomSource γ] (ranking : Ranking) (g : γ) (hfinite : history.Finite)
    (hslots : 1000 * slotsPerMs < limit32) (hwords : ∀ r ∈ resources, r.start + r.count < limit16)
    (hne : resources ≠ []) : ∃ r g', drawResource resources ranking history slotsPerMs g = (.ok r, g') := by
  obtain ⟨drawable, heligible, hdrawable⟩ := eligible_ne_nil ranking hfinite hslots hwords hne
  obtain ⟨r, g', hchoose⟩ := choose_of_ne_nil hdrawable g
  exact ⟨r, g', drawResource_of_eligible heligible hchoose⟩

end

/-! ## A busy slot -/

/-- A message was heard 100 ms before the first of the slots that follow. -/
def busyHistory : History ℚ where
  sensed := [⟨1, .ofIndex 400, 400000, 0, -90, 100, 5, false⟩]

def nextSlots : List Resource := (List.range 6).map fun n => ⟨.ofIndex (500 + n), 0, 1⟩

/-- Two of six are the best fifth, and five with nothing heard tie for it. -/
theorem lowest_fifth_drawn_busy :
    (∀ r ∈ nextSlots, busyHistory.averageInterference (ε := FlowError) r 1 = .ok (busyHistory.level 1 r) ∧
      Scalar.isNaN (busyHistory.level 1 r) = false) ∧
    (∀ g : Script, ∃ r g', drawResource nextSlots .lowestInterference busyHistory 1 g = (.ok r, g') ∧
      r.slot ≠ .ofIndex 500) ∧
    ∀ n ∈ [1, 2, 3, 4, 5], ∃ g : SameWords,
      drawResource nextSlots .lowestInterference busyHistory 1 g = (.ok ⟨.ofIndex (500 + n), 0, 1⟩, g) := by
  have hlevel : ∀ r ∈ nextSlots, busyHistory.averageInterference (ε := FlowError) r 1 = .ok (busyHistory.level 1 r) ∧
      Scalar.isNaN (busyHistory.level 1 r) = false := by
    intro r hr
    have hwords : ∀ r ∈ nextSlots, r.start + r.count < limit16 := by decide
    exact ⟨(busyHistory.averageInterference_gives r 1).ok ⟨by decide, hwords r hr⟩, by simp [Scalar.isNaN]⟩
  have htwo : ⌈(nextSlots.length : ℚ) / 5⌉₊ = 2 := Binary64.ceil_fifth (by decide)
  obtain ⟨-, cut, hcut, hdrawn, hreached⟩ := lowest_fifth_drawn (by decide) hlevel
  rw [htwo] at hcut hdrawn
  refine ⟨hlevel, fun g => ?_, fun n hn => ?_⟩
  · obtain ⟨r, g', hdraw, hr, -, hfewer⟩ := hdrawn g
    refine ⟨r, g', hdraw, fun hslot => ?_⟩
    have hbusy : ∀ r ∈ nextSlots, r.slot = .ofIndex 500 →
        nextSlots.countP (fun r' => decide (busyHistory.level 1 r' < busyHistory.level 1 r)) = 5 := by decide +kernel
    rw [hbusy r hr hslot] at hfewer
    omega
  · have hquiet : ∀ n ∈ [1, 2, 3, 4, 5], ⟨.ofIndex (500 + n), 0, 1⟩ ∈ nextSlots ∧
        ∀ x ∈ nextSlots.map (busyHistory.level 1), busyHistory.level 1 ⟨.ofIndex (500 + n), 0, 1⟩ ≤ x := by
      decide +kernel
    exact hreached (by decide) _ (hquiet n hn).1 ((hquiet n hn).2 cut hcut.mem)

end Sidelink
