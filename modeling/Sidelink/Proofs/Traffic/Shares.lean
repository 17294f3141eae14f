import Sidelink.Proofs.Traffic.Delays

/-!
# Shares of traffic

An assignment has every node once, in ascending order. In mixed traffic the periodic nodes are the first of a shuffled
list, so whichever they are there are as many as the percentage says.
-/

namespace Sidelink

variable {α γ : Type} [Scalar α] [RandomSource γ] {model : TrafficModel} {s : TrafficSection α} {ids : List Nat}
  {g g' : γ} {generators : List (Nat × Generator α)}

omit [Scalar α] in
theorem Generator.trafficType_ofPeriodic (s : TrafficSection α) : (ofPeriodic s).trafficType = .periodic := rfl

theorem Generator.trafficType_of_ofAperiodic {t : Generator α} (h : ofAperiodic s = .ok t) :
    t.trafficType = .aperiodic := by
  obtain ⟨-, meanGapMs, sizes, rfl⟩ := of_ofAperiodic h
  rfl

theorem periodicCount_le (n : Nat) {percentage : Nat} (h : percentage ≤ 100) : periodicCount n percentage ≤ n := by
  have hall : n * percentage ≤ n * 100 := Nat.mul_le_mul_left n h
  unfold periodicCount
  omega

theorem assignTraffic_ascending (hdistinct : ids.Nodup) (h : assignTraffic model s ids g = .ok (generators, g')) :
    (generators.map Prod.fst).Pairwise (· < ·) := by
  rw [assignTraffic_ids h]
  have hsorted : ids.mergeSort.Pairwise (· ≤ ·) := List.sortedLE_mergeSort.pairwise
  have hne : ids.mergeSort.Pairwise (· ≠ ·) := (List.mergeSort_perm ..).nodup_iff.2 hdistinct
  exact (hsorted.and hne).imp fun ⟨hle, hne⟩ => Nat.lt_of_le_of_ne hle hne

theorem exists_parts {percentage : Nat} (h : assignTraffic (.mixed percentage) s ids g = .ok (generators, g')) :
    ∃ periodic aperiodic, generators.Perm (periodic ++ aperiodic) ∧
      periodic.length = min (periodicCount ids.length percentage) ids.length ∧
      (∀ x ∈ periodic, x.2 = .ofPeriodic s) ∧ ∀ x ∈ aperiodic, Generator.ofAperiodic s = .ok x.2 := by
  unfold assignTraffic at h
  dsimp only at h
  obtain ⟨aperiodic, haperiodic, h⟩ := ok_of_bind h
  cases h
  refine ⟨_, aperiodic, List.mergeSort_perm .., ?_, ?_, of_mem_tagAll haperiodic⟩
  · rw [List.length_map, List.length_take, shuffle_length]
  · intro x hx
    obtain ⟨id, -, rfl⟩ := List.mem_map.1 hx
    rfl

theorem mixed_split {percentage : Nat} (hpercentage : percentage ≤ 100)
    (h : assignTraffic (.mixed percentage) s ids g = .ok (generators, g')) :
    (generators.countP fun x => x.2.trafficType = .periodic) = periodicCount ids.length percentage ∧
    ∀ x ∈ generators,
      if x.2.trafficType = .periodic then x.2 = .ofPeriodic s else Generator.ofAperiodic s = .ok x.2 := by
  obtain ⟨periodic, aperiodic, hperm, hlength, hperiodic, haperiodic⟩ := exists_parts h
  have hfirst (x : Nat × Generator α) (hx : x ∈ periodic) : x.2.trafficType = .periodic := by
    rw [hperiodic x hx, Generator.trafficType_ofPeriodic]
  have hsecond (x : Nat × Generator α) (hx : x ∈ aperiodic) : x.2.trafficType ≠ .periodic := by
    simp [Generator.trafficType_of_ofAperiodic (haperiodic x hx)]
  constructor
  · calc
      generators.countP (fun x => x.2.trafficType = .periodic)
      _ = periodic.countP (fun x => x.2.trafficType = .periodic) +
          aperiodic.countP (fun x => x.2.trafficType = .periodic) := by rw [hperm.countP_eq, List.countP_append]
      _ = periodic.length + 0 := by
        rw [List.countP_eq_length.2 fun x hx => decide_eq_true (hfirst x hx),
          List.countP_eq_zero.2 fun x hx => by simpa using hsecond x hx]
      _ = periodicCount ids.length percentage := by
        rw [hlength, Nat.add_zero, Nat.min_eq_left (periodicCount_le _ hpercentage)]
  · intro x hx
    rcases List.mem_append.1 (hperm.mem_iff.1 hx) with hx | hx
    · rw [if_pos (hfirst x hx)]
      exact hperiodic x hx
    · rw [if_neg (hsecond x hx)]
      exact haperiodic x hx

/-- How generators are spread over nodes. -/
structure Shares (model : TrafficModel) (s : TrafficSection α) (ids : List Nat) (generators : List (Nat × Generator α)) :
    Prop where
  /-- Every node has one. -/
  nodes : (generators.map Prod.fst).Perm ids
  ascending : (generators.map Prod.fst).Pairwise (· < ·)
  periodic : model = .periodic → ∀ x ∈ generators, x.2 = .ofPeriodic s
  aperiodic : model = .aperiodic → ∀ x ∈ generators, Generator.ofAperiodic s = .ok x.2
  etsi : model = .etsi → ∀ x ∈ generators, x.2 = .ofCam s
  mixed : ∀ percentage, model = .mixed percentage → percentage ≤ 100 →
    (generators.countP fun x => x.2.trafficType = .periodic) = (ids.length * percentage + 50) / 100 ∧
    ∀ x ∈ generators,
      if x.2.trafficType = .periodic then x.2 = .ofPeriodic s else Generator.ofAperiodic s = .ok x.2

/-- Whatever is drawn, every node has one generator, and in mixed traffic the percentage of them is periodic, a half
rounded up. -/
theorem assignTraffic_shares (hdistinct : ids.Nodup) (h : assignTraffic model s ids g = .ok (generators, g')) :
    Shares model s ids generators := by
  constructor
  case nodes =>
    rw [assignTraffic_ids h]
    exact List.mergeSort_perm ..
  case ascending => exact assignTraffic_ascending hdistinct h
  case periodic =>
    rintro rfl
    cases h
    simp
  case etsi =>
    rintro rfl
    cases h
    simp
  case aperiodic =>
    rintro rfl
    unfold assignTraffic at h
    obtain ⟨tagged, htagged, h⟩ := ok_of_bind h
    cases h
    exact of_mem_tagAll htagged
  case mixed =>
    rintro percentage rfl hpercentage
    exact mixed_split hpercentage h

/-- Of five nodes three are periodic at one half. -/
theorem assignTraffic_shares_fiveNodes : [8, 3, 5, 1, 9].Nodup ∧
    ∃ generators g', assignTraffic (.mixed 50) (.ofDefaults : TrafficSection ℚ) [8, 3, 5, 1, 9] Zeros.zeros =
      .ok (generators, g') ∧ Shares (.mixed 50) .ofDefaults [8, 3, 5, 1, 9] generators := by
  have hdistinct : [8, 3, 5, 1, 9].Nodup := by decide
  have hgenerator : ∃ t, Generator.ofAperiodic (.ofDefaults : TrafficSection ℚ) = .ok t :=
    ⟨_, Generator.ofAperiodic_ok (by decide +kernel) (by decide) (by decide +kernel)⟩
  obtain ⟨t, ht⟩ := hgenerator
  have hok : ∃ generators g', assignTraffic (.mixed 50) (.ofDefaults : TrafficSection ℚ) [8, 3, 5, 1, 9] Zeros.zeros =
      .ok (generators, g') := assignTraffic_ok (fun _ => ht) _ _
  obtain ⟨generators, g', h⟩ := hok
  exact ⟨hdistinct, generators, g', h, assignTraffic_shares hdistinct h⟩

end Sidelink
