import Sidelink.Config.Rules
import Sidelink.Proofs.Fault

/-!
# Configurations that keep the rules

The rules are checked one after the other. Here they are taken together, with what follows for the parameters that a
configuration gives to its flows.
-/

namespace Sidelink

variable {α : Type}

namespace Config

theorem rule_of_demand {rule : Bool} {e : ConfigError α} (h : demand rule e = .ok ()) : rule = true := by
  unfold demand at h
  split at h
  · assumption
  · cases h

theorem of_demand {β : Type} {rule : Bool} {e : ConfigError α} {k : Unit → Except (ConfigError α) β} {b : β}
    (h : demand rule e >>= k = .ok b) : rule = true ∧ k () = .ok b := by
  obtain ⟨_, hrule, h⟩ := ok_of_bind h
  exact ⟨rule_of_demand hrule, h⟩

theorem mem_of_switchedOn {β : Type} {switches : List (Bool × String × β)} {name : String} {b : β}
    (h : (name, b) ∈ switchedOn switches) : (true, name, b) ∈ switches := by
  simpa [switchedOn] using h

theorem switch_of_model {t : TrafficSection α} {m : TrafficModel} (h : t.model = .ok m) :
    (m = .aperiodic → t.aperiodic = true) ∧ ∀ p, m = .mixed p → t.mixed = true ∧ p ∈ mixedPercentages := by
  unfold TrafficSection.model at h
  dsimp only at h
  split at h
  · rename_i name percentage hon
    split at h <;> cases h
    have hmem := mem_of_switchedOn (hon ▸ List.mem_singleton_self _)
    simp_all
  · rename_i name model hnot hon
    cases h
    have hmem := mem_of_switchedOn (hon ▸ List.mem_singleton_self _)
    refine ⟨?_, ?_⟩
    · rintro rfl
      simp_all
    · rintro p rfl
      exact absurd rfl (hnot p)
  · cases h

variable [Scalar α] {c : Config α}

theorem isPositive_iff {x : α} : isPositive x = true ↔ 0.0 < x := decide_eq_true_iff

/-- All rules together. -/
structure Accepted (c : Config α) : Prop where
  model : ∃ m, c.traffic.model = .ok m
  strategy : ∃ s, c.traffic.strategy = .ok s
  counters : c.scheduler.followCounters = true → c.scheduler.checkOwnOccasions = true
  subchannels : ∃ rbs, c.bandwidthRbs = .ok rbs ∧ 0 < c.scheduler.subchannelSize ∧ c.scheduler.subchannelSize ≤ rbs
  mcs : c.phy.mcs ≤ maxMcs ∧ c.phy.mcs ≤ (c.phy.linkCurves.dataChannel true c.scheduler.subchannelSize).maxMcs
  interval : c.traffic.rriMs ∈ allowedIntervalsMs
  repeats : c.traffic.periodic = true ∨ c.traffic.mixed = true → 0 < c.traffic.rriMs
  intervals : ∀ ms ∈ c.scheduler.allowedIntervalsMs, ms ∈ Sidelink.allowedIntervalsMs
  budget : 0 < c.traffic.pdbMs ∧ c.traffic.pdbMs < delayBudgetLimitMs ∧
    (0 < c.traffic.rriMs → c.traffic.pdbMs ≤ c.traffic.rriMs)
  keepProbability : 0.0 ≤ c.scheduler.keepProbability ∧ c.scheduler.keepProbability < 1.0
  sizeThreshold : 0.0 < c.scheduler.sizeThreshold ∧ c.scheduler.sizeThreshold ≤ 1.0
  sizes : c.traffic.aperiodic = true ∨ c.traffic.mixed = true → c.traffic.aperiodicSizes ≠ []
  mean : c.traffic.aperiodic = true ∨ c.traffic.mixed = true → 0.0 < c.traffic.aperiodicMeanMs
  thresholdStep : 0.0 < c.scheduler.thresholdStepDb
  duration : 0 < c.simulation.durationMs
  mobility : 0 < c.simulation.mobilityIntervalMs
  report : 0 < c.simulation.reportIntervalMs
  bin : 0.0 < c.simulation.prrBinM
  large : c.traffic.etsi = true → 0 < c.traffic.camLargeEvery

theorem accepted_of_validate (h : c.validate = .ok ()) : c.Accepted := by
  unfold validate at h
  obtain ⟨m, hmodel, h⟩ := ok_of_bind h
  obtain ⟨s, hstrategy, h⟩ := ok_of_bind h
  obtain ⟨hcounters, h⟩ := of_demand h
  obtain ⟨rbs, hrbs, h⟩ := ok_of_bind h
  obtain ⟨hsubchannels, h⟩ := of_demand h
  obtain ⟨hmcs, h⟩ := of_demand h
  obtain ⟨hinterval, h⟩ := of_demand h
  obtain ⟨hrepeats, h⟩ := of_demand h
  dsimp only at h
  split at h
  · cases h
  rename_i hintervals
  obtain ⟨hbudget, h⟩ := of_demand h
  obtain ⟨hkeep, h⟩ := of_demand h
  obtain ⟨hshare, h⟩ := of_demand h
  obtain ⟨hsizes, h⟩ := of_demand h
  obtain ⟨hmean, h⟩ := of_demand h
  obtain ⟨hstep, h⟩ := of_demand h
  obtain ⟨hduration, h⟩ := of_demand h
  obtain ⟨hmobility, h⟩ := of_demand h
  obtain ⟨hreport, h⟩ := of_demand h
  obtain ⟨hbin, hlarge⟩ := of_demand h
  replace hlarge := rule_of_demand hlarge
  simp only [Bool.and_eq_true, decide_eq_true_eq, List.contains_iff_mem, Nat.le_min] at hsubchannels hmcs hinterval
  simp only [isPositive_iff, Bool.and_eq_true, decide_eq_true_eq] at hkeep hshare hstep hbin
  simp only [decide_eq_true_eq] at hduration hmobility hreport
  constructor
  case model => exact ⟨m, hmodel⟩
  case strategy => exact ⟨s, hstrategy⟩
  case counters => simpa [Decidable.imp_iff_not_or] using hcounters
  case subchannels => exact ⟨rbs, hrbs, hsubchannels⟩
  case mcs => exact hmcs
  case interval => exact hinterval
  case repeats =>
    rintro (h | h) <;> simpa [h] using hrepeats
  case intervals => simpa using hintervals
  case budget =>
    simp only [Bool.and_eq_true, Bool.or_eq_true, decide_eq_true_eq] at hbudget
    exact ⟨hbudget.1.1, hbudget.1.2, fun hpos => hbudget.2.resolve_left (Nat.ne_of_gt hpos)⟩
  case keepProbability => exact hkeep
  case sizeThreshold => exact hshare
  case sizes => rintro (h | h) <;> simpa [h] using hsizes
  case mean => rintro (h | h) <;> simpa [h, isPositive_iff] using hmean
  case thresholdStep => exact hstep
  case duration => exact hduration
  case mobility => exact hmobility
  case report => exact hreport
  case bin => exact hbin
  case large =>
    intro h
    simpa [h] using hlarge

end Config

/-! ## Parameters of flows -/

/-- The parameters lie in the ranges for which a flow is made. -/
structure FlowParams.Sound [Scalar α] (p : FlowParams α) : Prop where
  subchannelSize : 0 < p.subchannelSize
  mcs : p.mcs ≤ 27
  thresholdStep : 0.0 < p.thresholdStepDb
  sizeThreshold : 0.0 < p.sizeThreshold ∧ p.sizeThreshold ≤ 1.0
  keepProbability : 0.0 ≤ p.keepProbability ∧ p.keepProbability < 1.0
  intervals : ∀ ms ∈ p.allowedIntervalsMs, ms ∈ Sidelink.allowedIntervalsMs

namespace Config

variable [Scalar α] {c : Config α}

theorem Accepted.numerology (h : c.Accepted) : ∃ n, c.numerology = .ok n := by
  obtain ⟨rbs, hrbs, -⟩ := h.subchannels
  obtain ⟨n, hn, -⟩ := ok_of_bind hrbs
  exact ⟨n, hn⟩

theorem Accepted.flowParams (h : c.Accepted) : ∃ params, c.flowParams = .ok params ∧ params.Sound ∧
    (0 < c.traffic.rriMs → c.traffic.rriMs ∈ params.allowedIntervalsMs) := by
  obtain ⟨n, hn⟩ := h.numerology
  obtain ⟨s, hs⟩ := h.strategy
  unfold Config.flowParams
  rw [hn, hs]
  obtain ⟨_, -, hpos, -⟩ := h.subchannels
  refine ⟨_, rfl, ⟨hpos, h.mcs.1, h.thresholdStep, h.sizeThreshold, h.keepProbability, ?_⟩, ?_⟩
  · dsimp only
    split
    · exact h.intervals
    · intro ms hms
      rcases List.mem_append.1 hms with hms | hms
      · exact h.intervals ms hms
      · rw [List.mem_singleton.1 hms]
        exact h.interval
  · intro hpos
    dsimp only
    split
    · rename_i hlisted
      simpa [Nat.ne_of_gt hpos] using hlisted
    · simp

end Config

end Sidelink
