import Mathlib.Data.List.Sort
import Sidelink.Proofs.Config.Rules
import Sidelink.Proofs.Scalar.Order
import Sidelink.Traffic.Generator

/-!
# Who sends what

Every node gets one generator, whoever is drawn for which, and no section that validation lets through is refused.
-/

namespace Sidelink

namespace Random

variable {β γ : Type} [RandomSource γ]

theorem swapIfInBounds_perm (xs : Array β) (i j : Nat) : (xs.swapIfInBounds i j).Perm xs := by
  unfold Array.swapIfInBounds
  split
  · split
    · exact Array.swap_perm ..
    · exact .refl xs
  · exact .refl xs

theorem shuffleFrom_perm (i : Nat) (xs : Array β) (g : γ) : (shuffleFrom i xs g).1.Perm xs := by
  induction i generalizing xs g with
  | zero => exact .refl xs
  | succ i ih => exact (ih _ _).trans (swapIfInBounds_perm ..)

theorem shuffle_perm (xs : List β) (g : γ) : (shuffle xs g).1.Perm xs :=
  Array.perm_iff_toList_perm.1 (shuffleFrom_perm (xs.length - 1) xs.toArray g)

end Random

/-! ## The same generator for all -/

section

variable {ε β : Type} {x : Except ε β} {b : β}

theorem tagAll_ids {ids : List Nat} {tagged : List (Nat × β)}
    (h : (ids.mapM fun id => do return (id, ← x)) = .ok tagged) : tagged.map Prod.fst = ids := by
  induction ids generalizing tagged with
  | nil => cases h; rfl
  | cons id rest ih =>
    rw [List.mapM_cons] at h
    obtain ⟨first, hfirst, h⟩ := ok_of_bind h
    obtain ⟨others, hothers, h⟩ := ok_of_bind h
    obtain ⟨c, -, hc⟩ := ok_of_bind hfirst
    cases hc
    cases h
    rw [List.map_cons, ih hothers]

theorem tagAll_of_ok (h : x = .ok b) (ids : List Nat) :
    (ids.mapM fun id => do return (id, ← x)) = .ok (ids.map fun id => (id, b)) := by
  subst h
  exact List.mapM_pure

end

variable {α γ : Type} [Scalar α] [RandomSource γ] {model : TrafficModel} {s : TrafficSection α} {ids : List Nat}
  {g g' : γ}

theorem Generator.ofAperiodic_ok [Scalar.LawfulReciprocal α] (hmean : 0.0 < s.aperiodicMeanMs)
    (hsizes : s.aperiodicSizes ≠ []) (hfits : s.aperiodicMinIntervalMs * 1000 < limit64) :
    ofAperiodic s =
      .ok (.aperiodic (s.aperiodicMinIntervalMs * 1000) (1.0 / (1.0 / s.aperiodicMeanMs)) s.aperiodicSizes) := by
  have hrate := Scalar.LawfulReciprocal.zero_le_reciprocal hmean
  unfold ofAperiodic
  simp [hmean, hrate, hsizes, word64, hfits]

theorem sorted_ids {β : Type} (tagged : List (Nat × β)) {ids : List Nat} (h : (tagged.map Prod.fst).Perm ids) :
    (tagged.mergeSort fun a b => a.1 ≤ b.1).map Prod.fst = ids.mergeSort := by
  have hsorted : (tagged.mergeSort fun a b => a.1 ≤ b.1).Pairwise fun a b => decide (a.1 ≤ b.1) = true := by
    apply List.pairwise_mergeSort
    · simp only [decide_eq_true_eq]
      omega
    · simp only [Bool.or_eq_true, decide_eq_true_eq]
      omega
  apply List.Perm.eq_of_pairwise' (r := (· ≤ ·))
  · exact List.pairwise_map.2 (hsorted.imp of_decide_eq_true)
  · exact List.sortedLE_mergeSort.pairwise
  · exact ((List.mergeSort_perm ..).map _).trans (h.trans (List.mergeSort_perm ..).symm)

theorem Config.Accepted.generator [Scalar.LawfulReciprocal α] {c : Config α} (h : c.Accepted)
    (hmodel : c.traffic.model = .ok model) (hfits : c.traffic.aperiodicMinIntervalMs * 1000 < limit64)
    (hdrawn : model = .aperiodic ∨ ∃ p, model = .mixed p) :
    Generator.ofAperiodic c.traffic = .ok (.aperiodic (c.traffic.aperiodicMinIntervalMs * 1000)
      (1.0 / (1.0 / c.traffic.aperiodicMeanMs)) c.traffic.aperiodicSizes) := by
  obtain ⟨haperiodic, hmixed⟩ := switch_of_model hmodel
  have hswitch : c.traffic.aperiodic = true ∨ c.traffic.mixed = true := by
    rcases hdrawn with rfl | ⟨p, rfl⟩
    · exact .inl (haperiodic rfl)
    · exact .inr (hmixed p rfl).1
  exact Generator.ofAperiodic_ok (h.mean hswitch) (h.sizes hswitch) hfits

theorem assignTraffic_ids {generators : List (Nat × Generator α)}
    (h : assignTraffic model s ids g = .ok (generators, g')) : generators.map Prod.fst = ids.mergeSort := by
  unfold assignTraffic at h
  cases model with
  | periodic =>
    cases h
    simp [Function.comp_def]
  | etsi =>
    cases h
    simp [Function.comp_def]
  | aperiodic =>
    obtain ⟨tagged, htagged, h⟩ := ok_of_bind h
    cases h
    exact tagAll_ids htagged
  | mixed percentage =>
    dsimp only at h
    obtain ⟨aperiodic, haperiodic, h⟩ := ok_of_bind h
    cases h
    apply sorted_ids
    rw [List.map_append, tagAll_ids haperiodic, List.map_map]
    simp only [Function.comp_def, List.map_id', List.take_append_drop]
    exact (Random.shuffle_perm ..).trans (List.mergeSort_perm ..)

theorem assignTraffic_ok {generator : Generator α}
    (h : (model = .aperiodic ∨ ∃ p, model = .mixed p) → Generator.ofAperiodic s = .ok generator) (ids : List Nat)
    (g : γ) : ∃ generators g', assignTraffic model s ids g = .ok (generators, g') := by
  unfold assignTraffic
  cases model with
  | periodic => exact ⟨_, _, rfl⟩
  | etsi => exact ⟨_, _, rfl⟩
  | aperiodic =>
    dsimp only
    rw [tagAll_of_ok (h (.inl rfl))]
    exact ⟨_, _, rfl⟩
  | mixed percentage =>
    dsimp only
    rw [tagAll_of_ok (h (.inr ⟨percentage, rfl⟩))]
    exact ⟨_, _, rfl⟩

end Sidelink
