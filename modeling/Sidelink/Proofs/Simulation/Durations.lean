import Sidelink.Proofs.Simulation.Beginning
import Sidelink.Proofs.Simulation.Turns
import Sidelink.Proofs.Traffic.Delays

/-!
# Durations of a run

A configuration gives its times in milliseconds, and a run counts microseconds in 64-bit words. Validation asks that
the times are positive and not that they fit. Those of the beginning that do not fit end the start in an overflow, the
duration of the run ends the run in one, and a drawn gap ends the delay of a timer in one.
-/

namespace Sidelink

variable {α γ : Type}

/-- How many of `n` nodes get an aperiodic generator. -/
def TrafficSection.aperiodicNodes (t : TrafficSection α) (n : Nat) : Nat :=
  match t.model with
  | .ok model => model.aperiodicNodes n
  | .error _ => 0

/-- The times that a run of so many nodes begins with fit a word in microseconds. -/
structure Config.TimesFit (c : Config α) (n : Nat) : Prop where
  mobility : c.simulation.mobilityIntervalMs * 1000 < limit64
  report : c.simulation.reportIntervalMs * 1000 < limit64
  aperiodic : 0 < c.traffic.aperiodicNodes n → c.traffic.aperiodicMinIntervalMs * 1000 < limit64

theorem switch_of_drawn {t : TrafficSection α} {model : TrafficModel} {n : Nat} (hmodel : t.model = .ok model)
    (hdrawn : 0 < model.aperiodicNodes n) : t.aperiodic = true ∨ t.mixed = true := by
  obtain ⟨haperiodic, hmixed⟩ := Config.switch_of_model hmodel
  cases model with
  | periodic => cases hdrawn
  | etsi => cases hdrawn
  | aperiodic => exact .inl (haperiodic rfl)
  | mixed percentage => exact .inr (hmixed percentage rfl).1

namespace World

section

variable [Scalar α] [RandomSource γ] {config : Config α} {scene : Scene α} {sourceOfSeed : Nat → γ}
  {model : TrafficModel}

/-! ## The start -/

theorem start_of_not_assigned (hconfig : config.validate = .ok ()) (hscene : scene.validate = .ok ())
    (hmodel : config.traffic.model = .ok model)
    (hassigned : assignTraffic model config.traffic (scene.nodes.map (·.id)) (firstSource config sourceOfSeed) =
      .error (.fault .overflow)) (trace : Trace α) :
    start config scene trace sourceOfSeed = .error (.fault .overflow) := by
  have haccepted := Config.accepted_of_validate hconfig
  obtain ⟨params, hparams, -⟩ := haccepted.flowParams
  obtain ⟨numerology, hnumerology⟩ := haccepted.numerology
  obtain ⟨pool, hpool⟩ := (Scene.accepted_of_validate hscene).pool
  obtain ⟨region, hregion⟩ := (Scene.accepted_of_validate hscene).region
  unfold firstSource at hassigned
  unfold start
  rw [hconfig, hparams, hnumerology, hpool, hregion, hmodel]
  simp only [bind, Except.bind, Except.mapError, hassigned]
  rfl

theorem start_fits [Scalar.LawfulReciprocal α] (hconfig : config.validate = .ok ())
    (hscene : scene.validate = .ok ()) (trace : Trace α) (sourceOfSeed : Nat → γ) :
    (config.TimesFit scene.nodes.length → ∃ w, start config scene trace sourceOfSeed = .ok w) ∧
    (¬config.TimesFit scene.nodes.length → start config scene trace sourceOfSeed = .error (.fault .overflow)) := by
  have haccepted := Config.accepted_of_validate hconfig
  obtain ⟨model, hmodel⟩ := haccepted.model
  let ids := scene.nodes.map (·.id)
  have hcount : config.traffic.aperiodicNodes scene.nodes.length = model.aperiodicNodes ids.length := by
    unfold TrafficSection.aperiodicNodes
    rw [hmodel, List.length_map]
  by_cases hdrawn : 0 < model.aperiodicNodes ids.length
  · by_cases haperiodic : config.traffic.aperiodicMinIntervalMs * 1000 < limit64
    · obtain ⟨generators, g, hassigned⟩ := assignTraffic_ok (haccepted.generator hmodel haperiodic) ids
        (firstSource config sourceOfSeed)
      obtain ⟨hfits, hnot⟩ := start_of_assigned hconfig hscene hmodel hassigned trace
      refine ⟨fun h => hfits ⟨h.mobility, h.report⟩, fun h => hnot fun hboth => h ?_⟩
      exact ⟨hboth.1, hboth.2, fun _ => haperiodic⟩
    · have hswitch := switch_of_drawn hmodel hdrawn
      have hover := Generator.ofAperiodic_overflow (haccepted.mean hswitch) (haccepted.sizes hswitch)
        (Nat.not_lt.1 haperiodic)
      have hstart := start_of_not_assigned hconfig hscene hmodel
        (assignTraffic_of_error (g := firstSource config sourceOfSeed) hover hdrawn) trace
      exact ⟨fun h => absurd (h.aperiodic (hcount ▸ hdrawn)) haperiodic, fun _ => hstart⟩
  · obtain ⟨generators, g, hassigned⟩ := assignTraffic_of_none (s := config.traffic)
      (g := firstSource config sourceOfSeed) (Nat.eq_zero_of_not_pos hdrawn)
    obtain ⟨hfits, hnot⟩ := start_of_assigned hconfig hscene hmodel hassigned trace
    refine ⟨fun h => hfits ⟨h.mobility, h.report⟩, fun h => hnot fun hboth => h ⟨hboth.1, hboth.2, fun hpos => ?_⟩⟩
    exact absurd (hcount ▸ hpos) hdrawn

end

/-! ## Generators in a run -/

/-- Every node has a generator that a section gives. -/
def GeneratorsOf [Scalar α] (s : TrafficSection α) (w : World α γ) : Prop := ∀ n ∈ w.nodes, n.generator.OfSection s

section

variable [RandomSource γ]

theorem placeNodes_generators (params : FlowParams α) (generators : List (Nat × Generator α))
    (specs : List (NodeSpec α)) (agenda : Agenda Event) (g : γ) :
    ∀ n ∈ (placeNodes params generators specs agenda g).1, ∃ x ∈ generators, x.2 = n.generator := by
  induction specs generalizing agenda g with
  | nil => simp [placeNodes]
  | cons spec rest ih =>
    unfold placeNodes
    split
    · exact ih agenda g
    · rename_i generator hlookup
      intro n hn
      rcases List.mem_cons.1 hn with rfl | hn
      · obtain ⟨before, after, hsplit, -⟩ := List.lookup_eq_some_iff.1 hlookup
        exact ⟨(spec.id, generator), by simp [hsplit], rfl⟩
      · exact ih _ _ n hn

theorem start_generators [Scalar α] {config : Config α} {scene : Scene α} {trace : Trace α} {sourceOfSeed : Nat → γ}
    {w : World α γ} (h : start config scene trace sourceOfSeed = .ok w) : w.GeneratorsOf config.traffic := by
  unfold start at h
  iterate 6 obtain ⟨_, -, h⟩ := ok_of_bind h
  obtain ⟨⟨generators, g⟩, hassigned, h⟩ := ok_of_bind h
  obtain ⟨_, -, h⟩ := ok_of_bind h
  obtain ⟨_, -, h⟩ := ok_of_bind h
  cases h
  intro n hn
  obtain ⟨x, hx, heq⟩ := placeNodes_generators _ generators scene.nodes {} g n (List.mem_mergeSort.1 hn)
  rw [← heq]
  exact ofSection_of_assignTraffic (ok_of_mapError hassigned) x hx

end

section

variable [Analysis α] [RandomSource γ] {s : TrafficSection α} {w w' : World α γ} {n : Node α}

omit [RandomSource γ] in
theorem GeneratorsOf.setNode (h : w.GeneratorsOf s) (hn : n.generator.OfSection s) :
    (w.setNode n).GeneratorsOf s := by
  intro m hm
  rcases of_mem_setNode hm with rfl | ⟨hm, -⟩
  · exact hn
  · exact h m hm

theorem GeneratorsOf.moveAll (h : w.GeneratorsOf s) : w.moveAll.GeneratorsOf s := by
  refine moveAll_keeps h (fun w place h m hm => ?_) (fun w id h m hm => ?_) fun _ _ _ h => h
  · obtain ⟨n, hn, rfl⟩ := List.mem_map.1 hm
    exact h n hn
  · unfold removeNode at hm
    split at hm
    · exact h m hm
    · exact h m (List.mem_filter.1 hm).1

theorem GeneratorsOf.generate (h : w.GeneratorsOf s) (hn : n ∈ w.nodes) : (w.generate n).GeneratorsOf s := by
  unfold World.generate
  split
  · have hgenerator := (h n hn).onTimer w.nowUs n.position n.velocity w.shared.source
    rcases hfired : n.generator.onTimer w.nowUs n.position n.velocity w.shared.source with ⟨size, generator, g⟩
    rw [hfired] at hgenerator
    have hset : (w.setNode { n with generator }).GeneratorsOf s := h.setNode hgenerator
    cases size with
    | none => exact hset
    | some size => exact GeneratorsOf.setNode hset hgenerator
  · exact h

theorem GeneratorsOf.fireTimer {id : Nat} (h : w.GeneratorsOf s) (hok : w.fireTimer id = (.ok (), w')) :
    w'.GeneratorsOf s := by
  obtain ⟨-, rfl⟩ | ⟨n, n', hn, hn', hrearm⟩ := of_fireTimer hok
  · exact h
  · have hgenerated := h.generate (mem_of_node? hn).1
    obtain ⟨delay, g, -, rfl⟩ := of_rearm hrearm
    exact hgenerated.setNode (hgenerated n' (mem_of_node? hn').1)

theorem GeneratorsOf.receiveAll (h : w.GeneratorsOf s) : w.receiveAll.2.GeneratorsOf s := by
  unfold World.receiveAll
  split
  · exact h
  · refine stepEach_keeps (P := GeneratorsOf s) (fun id w₁ h₁ => ?_) _ _ h
    rcases receiveAt_received _ id w₁ with hsame | ⟨n, r, hn, hr, hset⟩
    · rwa [hsame]
    · obtain ⟨history, phase, blocks, hnode⟩ := hr.node
      rw [hset]
      exact h₁.setNode (by rw [hnode]; exact h₁ n (mem_of_node? hn).1)

theorem GeneratorsOf.serveAll (h : w.GeneratorsOf s) (hok : w.serveAll = (.ok (), w')) : w'.GeneratorsOf s := by
  obtain ⟨now, w₁, -, hserved, rfl⟩ := of_serveAll hok
  suffices hafter : w₁.GeneratorsOf s from hafter
  refine stepEach_ok (P := fun _ w₁ => GeneratorsOf s w₁) (fun id _ w₁ w₂ h₁ hstep => ?_) h hserved
  rcases of_serveAt hstep with ⟨-, rfl⟩ | ⟨n, r, r', sent, hn, hdelivered, hsend, rfl⟩
  · exact h₁
  · obtain ⟨⟨flow, arrivals, hnode⟩, -⟩ := AtNode.of_serve hdelivered hsend
    exact h₁.setNode (by rw [hnode]; exact h₁ n (mem_of_node? hn).1)

theorem GeneratorsOf.handle {e : Event} (h : w.GeneratorsOf s) (hok : handle e w = (.ok (), w')) :
    w'.GeneratorsOf s := by
  cases e with
  | reception =>
    have hafter := h.receiveAll
    rwa [show w.receiveAll = _ from hok] at hafter
  | mobility =>
    cases hok
    exact h.moveAll
  | traffic id => exact h.fireTimer hok
  | mac => exact h.serveAll hok
  | report =>
    cases hok
    exact h

theorem generators_of_reached {config : Config α} {scene : Scene α} {trace : Trace α} {sourceOfSeed : Nat → γ}
    {endUs : Nat} {w₀ : World α γ} (hstart : start config scene trace sourceOfSeed = .ok w₀)
    (hreached : Reached endUs w₀ w) : w.GeneratorsOf config.traffic :=
  hreached.keeps (fun w _ agenda _ h hok => GeneratorsOf.handle (w := { w with agenda }) h hok)
    (start_generators hstart)

/-! ## All the times of a run -/

/-- The times of a run that has started are those of its configuration, and its end is the only one that may not fit. -/
structure Timed (config : Config α) (w₀ : World α γ) : Prop where
  mobility : w₀.setup.mobilityUs = config.simulation.mobilityIntervalMs * 1000
  report : w₀.setup.reportUs = config.simulation.reportIntervalMs * 1000
  intervals : 0 < w₀.setup.mobilityUs ∧ w₀.setup.mobilityUs < limit64 ∧ 0 < w₀.setup.reportUs ∧
    w₀.setup.reportUs < limit64
  duration : config.simulation.durationMs * 1000 < limit64 →
    w₀.run = handleUntil (config.simulation.durationMs * 1000)
      (budget (config.simulation.durationMs * 1000) w₀.agenda) w₀
  overflow : limit64 ≤ config.simulation.durationMs * 1000 → w₀.run = (.error (.fault .overflow), w₀)

variable {config : Config α} {scene : Scene α} {trace : Trace α} {sourceOfSeed : Nat → γ} {w₀ : World α γ}

theorem run_of_fits (h : w.setup.config.simulation.durationMs * 1000 < limit64) :
    w.run = handleUntil (w.setup.config.simulation.durationMs * 1000)
      (budget (w.setup.config.simulation.durationMs * 1000) w.agenda) w := by
  unfold run runUntil word64
  rw [if_pos h]

theorem run_of_not_fits (h : limit64 ≤ w.setup.config.simulation.durationMs * 1000) :
    w.run = (.error (.fault .overflow), w) := by
  unfold run runUntil word64
  rw [if_neg (Nat.not_lt.2 h)]
  rfl

theorem timed_of_start (hstart : start config scene trace sourceOfSeed = .ok w₀) : w₀.Timed config := by
  obtain ⟨hmobility, hreport, hmobilityFits, hreportFits⟩ := start_intervals hstart
  obtain ⟨hpositive, hpositive'⟩ := intervals_of_start hstart
  have hconfig := (of_start hstart).2.1
  constructor
  case mobility => exact hmobility
  case report => exact hreport
  case intervals => exact ⟨hpositive, hmobilityFits, hpositive', hreportFits⟩
  case duration =>
    intro hfits
    rw [← hconfig] at hfits ⊢
    exact run_of_fits hfits
  case overflow =>
    intro hlarge
    rw [← hconfig] at hlarge
    exact run_of_not_fits hlarge

/-- What validation lets through starts if its times fit and overflows if they do not. A timer never runs for less than
a microsecond or the least interval of its generator, and overflows when a drawn gap takes it out of its word. -/
theorem fits_or_overflows [Scalar.LawfulReciprocal α] (hconfig : config.validate = .ok ())
    (hscene : scene.validate = .ok ()) (trace : Trace α) (sourceOfSeed : Nat → γ) :
    (config.TimesFit scene.nodes.length → ∃ w₀, start config scene trace sourceOfSeed = .ok w₀) ∧
    (¬config.TimesFit scene.nodes.length → start config scene trace sourceOfSeed = .error (.fault .overflow)) ∧
    (∀ t, Generator.ofAperiodic config.traffic = .ok t → t.span = config.traffic.aperiodicMinIntervalMs * 1000) ∧
    (∀ t : Generator α, t.OfSection config.traffic → ∀ g : γ, t.Delayed (SimulationError α) g) ∧
    ∀ w₀, start config scene trace sourceOfSeed = .ok w₀ → w₀.Timed config ∧
      ∀ endUs w, Reached endUs w₀ w → w.GeneratorsOf config.traffic := by
  have hinterval := (Config.accepted_of_validate hconfig).interval
  obtain ⟨hfits, hnot⟩ := start_fits hconfig hscene trace sourceOfSeed
  refine ⟨hfits, hnot, ?_, ?_, ?_⟩
  · intro t hmade
    obtain ⟨-, _, _, rfl⟩ := Generator.of_ofAperiodic hmade
    rfl
  · intro t hsection g
    exact Generator.delayed_of_span_lt (hsection.span_lt hinterval) g
  · intro w₀ hstart
    exact ⟨timed_of_start hstart, fun endUs w hreached => generators_of_reached hstart hreached⟩

end

theorem fits_or_overflows_mixedTraffic : mixedTraffic.validate = .ok () ∧ loneScene.validate = .ok () ∧
    mixedTraffic.TimesFit loneScene.nodes.length ∧ 0 < mixedTraffic.traffic.aperiodicNodes loneScene.nodes.length ∧
    ∃ (w₀ : World ℚ Zeros) (t : Generator ℚ), start mixedTraffic loneScene .disabled (fun _ => .zeros) = .ok w₀ ∧
      w₀.Timed mixedTraffic ∧ w₀.GeneratorsOf mixedTraffic.traffic ∧
      Generator.ofAperiodic mixedTraffic.traffic = .ok t ∧ t.span = 100000 ∧
      t.Delayed (SimulationError ℚ) Zeros.zeros := by
  have hvalid : mixedTraffic.validate = .ok () := ok_of_toOption (by decide +kernel)
  have hfit : mixedTraffic.TimesFit loneScene.nodes.length :=
    ⟨by decide +kernel, by decide +kernel, fun _ => by decide +kernel⟩
  obtain ⟨hstarts, -, hspan, hdelays, hworlds⟩ :=
    fits_or_overflows hvalid loneScene_valid (.disabled : Trace ℚ) fun _ => Zeros.zeros
  obtain ⟨w₀, hstart⟩ := hstarts hfit
  obtain ⟨htimed, hgenerators⟩ := hworlds w₀ hstart
  have hmade : Generator.ofAperiodic mixedTraffic.traffic = .ok _ :=
    Generator.ofAperiodic_ok (by decide +kernel) (by decide +kernel) (by decide +kernel)
  exact ⟨hvalid, loneScene_valid, hfit, by decide +kernel, w₀, _, hstart, htimed, hgenerators 0 w₀ .start, hmade,
    hspan _ hmade, hdelays _ (.aperiodic hmade) _⟩

/-! ## Times that validation lets through and that do not fit -/

/-- The least number of milliseconds that does not fit a word in microseconds. -/
def overlongMs : Nat := 18446744073709552

def rareMoves : Config ℚ :=
  let c : Config ℚ := .standard
  { c with simulation := { c.simulation with mobilityIntervalMs := overlongMs } }

def endlessRun : Config ℚ :=
  let c : Config ℚ := .standard
  { c with simulation := { c.simulation with durationMs := overlongMs } }

/-- Aperiodic traffic with gaps that are long on average. -/
def rareTraffic : Config ℚ :=
  let c : Config ℚ := .standard
  { c with traffic := { c.traffic with periodic := false, aperiodic := true, aperiodicMeanMs := 1e300 } }

/-- Movement, the end of the run and a drawn gap overflow, each in a configuration that is validated. -/
theorem accepted_times_overflow :
    (rareMoves.validate = .ok () ∧
      start rareMoves loneScene .disabled (fun _ => Zeros.zeros) = .error (.fault .overflow)) ∧
    (endlessRun.validate = .ok () ∧ ∃ w₀ : World ℚ Zeros,
      start endlessRun loneScene .disabled (fun _ => .zeros) = .ok w₀ ∧ w₀.run = (.error (.fault .overflow), w₀)) ∧
    rareTraffic.validate = .ok () ∧ ∃ t, Generator.ofAperiodic rareTraffic.traffic = .ok t ∧
      t.nextDelayUs (ε := SimulationError ℚ) Zeros.zeros = .error (.fault .overflow) := by
  have hmoves : rareMoves.validate = .ok () := ok_of_toOption (by decide +kernel)
  have hendless : endlessRun.validate = .ok () := ok_of_toOption (by decide +kernel)
  have hrare : rareTraffic.validate = .ok () := ok_of_toOption (by decide +kernel)
  refine ⟨⟨hmoves, ?_⟩, ⟨hendless, ?_⟩, hrare, ?_⟩
  · apply (start_fits hmoves loneScene_valid _ _).2
    intro h
    exact absurd h.mobility (by decide)
  · have hfit : endlessRun.TimesFit loneScene.nodes.length :=
      ⟨by decide +kernel, by decide +kernel, fun h => absurd h (by decide +kernel)⟩
    obtain ⟨w₀, hstart⟩ := (start_fits hendless loneScene_valid .disabled fun _ => Zeros.zeros).1 hfit
    exact ⟨w₀, hstart, (timed_of_start hstart).overflow (by decide)⟩
  · have hmade : Generator.ofAperiodic rareTraffic.traffic = .ok _ :=
      Generator.ofAperiodic_ok (by decide +kernel) (by decide +kernel) (by decide +kernel)
    exact ⟨_, hmade, Generator.nextDelayUs_of_le (by decide +kernel) (by decide +kernel)⟩

end World

end Sidelink
