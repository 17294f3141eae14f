import Sidelink.Proofs.Simulation.Accounts
import Sidelink.Proofs.Traffic.Assignment

/-!
# The beginning of a run

A configuration and a scene that keep their rules can be run: whatever is built from them asks for no more. The world
that is built has every node of the scene, in its place and with the parameters of the configuration.
-/

namespace Sidelink

variable {α γ : Type}

/-- The node as a scene would place it. -/
def Node.spec (n : Node α) : NodeSpec α := ⟨n.id, n.position, n.velocity, n.txPowerDbm⟩

namespace World

variable [RandomSource γ]

theorem placeNodes_specs {params : FlowParams α} {generators : List (Nat × Generator α)} {specs : List (NodeSpec α)}
    (h : ∀ spec ∈ specs, spec.id ∈ generators.map Prod.fst) (agenda : Agenda Event) (g : γ) :
    (placeNodes params generators specs agenda g).1.map Node.spec = specs := by
  induction specs generalizing agenda g with
  | nil => rfl
  | cons spec rest ih =>
    rw [List.forall_mem_cons] at h
    unfold placeNodes
    split
    · rename_i hnone
      obtain ⟨x, hx, hid⟩ := List.mem_map.1 h.1
      have hne := List.lookup_eq_none_iff.1 hnone x hx
      simp [hid] at hne
    · dsimp only
      rw [List.map_cons, ih h.2]
      rfl

variable [Scalar α] {config : Config α} {scene : Scene α} {trace : Trace α} {sourceOfSeed : Nat → γ}

theorem start_specs {w : World α γ} (h : start config scene trace sourceOfSeed = .ok w) :
    (w.nodes.map Node.spec).Perm scene.nodes := by
  unfold start at h
  iterate 6 obtain ⟨_, -, h⟩ := ok_of_bind h
  obtain ⟨⟨generators, g⟩, hassigned, h⟩ := ok_of_bind h
  obtain ⟨_, -, h⟩ := ok_of_bind h
  obtain ⟨_, -, h⟩ := ok_of_bind h
  cases h
  have hids := assignTraffic_ids (ok_of_mapError hassigned)
  refine ((List.mergeSort_perm ..).map _).trans (.of_eq (placeNodes_specs (fun spec hspec => ?_) ..))
  rw [hids, List.mem_mergeSort]
  exact List.mem_map_of_mem hspec

/-- What the random source is at the start. -/
def firstSource (config : Config α) (sourceOfSeed : Nat → γ) : γ :=
  sourceOfSeed (config.simulation.seed ^^^ config.simulation.run)

theorem start_of_assigned {model : TrafficModel} (hconfig : config.validate = .ok ()) (hscene : scene.validate = .ok ())
    (hmodel : config.traffic.model = .ok model) {generators : List (Nat × Generator α)} {g : γ}
    (hassigned : assignTraffic model config.traffic (scene.nodes.map (·.id)) (firstSource config sourceOfSeed) =
      .ok (generators, g)) (trace : Trace α) :
    (config.simulation.mobilityIntervalMs * 1000 < limit64 ∧ config.simulation.reportIntervalMs * 1000 < limit64 →
      ∃ w, start config scene trace sourceOfSeed = .ok w) ∧
    (¬(config.simulation.mobilityIntervalMs * 1000 < limit64 ∧ config.simulation.reportIntervalMs * 1000 < limit64) →
      start config scene trace sourceOfSeed = .error (.fault .overflow)) := by
  have haccepted := Config.accepted_of_validate hconfig
  obtain ⟨params, hparams, -⟩ := haccepted.flowParams
  obtain ⟨numerology, hnumerology⟩ := haccepted.numerology
  obtain ⟨pool, hpool⟩ := (Scene.accepted_of_validate hscene).pool
  obtain ⟨region, hregion⟩ := (Scene.accepted_of_validate hscene).region
  unfold firstSource at hassigned
  unfold start
  rw [hconfig, hparams, hnumerology, hpool, hregion, hmodel]
  simp only [bind, Except.bind, Except.mapError, hassigned, word64]
  constructor
  · rintro ⟨hmobility, hreport⟩
    simp only [hmobility, hreport, if_true]
    exact ⟨_, rfl⟩
  · intro hnot
    by_cases hmobility : config.simulation.mobilityIntervalMs * 1000 < limit64
    · have hreport : ¬config.simulation.reportIntervalMs * 1000 < limit64 := fun hreport => hnot ⟨hmobility, hreport⟩
      simp only [hmobility, hreport, if_true, if_false]
      rfl
    · simp only [hmobility, if_false]
      rfl

theorem start_ok [Scalar.LawfulReciprocal α] (hconfig : config.validate = .ok ()) (hscene : scene.validate = .ok ())
    (hmobility : config.simulation.mobilityIntervalMs * 1000 < limit64)
    (hreport : config.simulation.reportIntervalMs * 1000 < limit64)
    (haperiodic : config.traffic.aperiodicMinIntervalMs * 1000 < limit64) (trace : Trace α)
    (sourceOfSeed : Nat → γ) : ∃ w, start config scene trace sourceOfSeed = .ok w := by
  have haccepted := Config.accepted_of_validate hconfig
  obtain ⟨model, hmodel⟩ := haccepted.model
  obtain ⟨generators, g, hassigned⟩ := assignTraffic_ok (haccepted.generator hmodel haperiodic) (scene.nodes.map (·.id))
    (firstSource config sourceOfSeed)
  exact (start_of_assigned hconfig hscene hmodel hassigned trace).1 ⟨hmobility, hreport⟩

/-- What validation lets through can be run, unless a time does not fit its word. Every node of the scene is there, and
its parameters lie in their ranges. -/
theorem start_of_valid [Scalar.LawfulReciprocal α] (hconfig : config.validate = .ok ())
    (hscene : scene.validate = .ok ()) (hmobility : config.simulation.mobilityIntervalMs * 1000 < limit64)
    (hreport : config.simulation.reportIntervalMs * 1000 < limit64)
    (haperiodic : config.traffic.aperiodicMinIntervalMs * 1000 < limit64) (trace : Trace α)
    (sourceOfSeed : Nat → γ) :
    ∃ w params, start config scene trace sourceOfSeed = .ok w ∧ (w.nodes.map Node.spec).Perm scene.nodes ∧
      config.flowParams = .ok params ∧ (∀ n ∈ w.nodes, n.flow.params = params) ∧ params.Sound ∧
      (0 < config.traffic.rriMs → config.traffic.rriMs ∈ params.allowedIntervalsMs) := by
  obtain ⟨w, hstart⟩ := start_ok hconfig hscene hmobility hreport haperiodic trace sourceOfSeed
  obtain ⟨params, hparams, hsound, hlisted⟩ := (Config.accepted_of_validate hconfig).flowParams
  refine ⟨w, params, hstart, start_specs hstart, hparams, fun n hn => ?_, hsound, hlisted⟩
  obtain ⟨-, -, -, -, params', generators, nodes, agenda, g, g', hparams', hplaced, hnodes, -⟩ := of_start hstart
  rw [hparams] at hparams'
  cases hparams'
  rw [hnodes, List.mem_mergeSort] at hn
  have hfresh := (placeNodes_fresh params generators scene.nodes {} g).2 n (by rwa [hplaced])
  rw [hfresh.1]

/-- A tenth of the nodes is periodic, which of a single node is none. -/
def mixedTraffic : Config ℚ :=
  let c : Config ℚ := .standard
  { c with traffic := { c.traffic with periodic := false, mixed := true, periodicPercentage := 10 } }

theorem start_of_valid_mixedTraffic : mixedTraffic.validate = .ok () ∧ loneScene.validate = .ok () ∧
    ∃ w params, start mixedTraffic loneScene .disabled (fun _ => Zeros.zeros) = .ok w ∧
      (w.nodes.map Node.spec).Perm loneScene.nodes ∧ mixedTraffic.flowParams = .ok params ∧
      (∀ n ∈ w.nodes, n.flow.params = params) ∧ params.Sound ∧
      (0 < mixedTraffic.traffic.rriMs → mixedTraffic.traffic.rriMs ∈ params.allowedIntervalsMs) := by
  have hvalid : mixedTraffic.validate = .ok () := ok_of_toOption (by decide +kernel)
  exact ⟨hvalid, loneScene_valid,
    start_of_valid hvalid loneScene_valid (by decide +kernel) (by decide +kernel) (by decide +kernel) _ _⟩

end World

end Sidelink
