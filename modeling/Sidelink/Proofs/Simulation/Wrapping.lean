import Sidelink.Proofs.Scene.Wrap
import Sidelink.Proofs.Simulation.Beginning
import Sidelink.Proofs.Simulation.Runs

/-!
# Runs in a world that wraps

No event but a move changes where a node stands. A move brings a node that leaves the world back into it, and takes out
none. In a world without height this fails for the nodes that move across it.
-/

namespace Sidelink

open Scalar Exact

/-- A node whose coordinates are confined to the bounds of the world, each with its velocity. -/
structure NodeSpec.Kept {α : Type} [Scalar α] [ExactRemainder α] (x₁ x₂ y₁ y₂ : ℝ) (n : NodeSpec α) : Prop where
  x : Confined x₁ x₂ n.position.x n.velocity.x
  y : Confined y₁ y₂ n.position.y n.velocity.y

namespace World

variable {α γ : Type}

/-! ## Events that move no node -/

/-- The nodes stand where they stood. -/
structure Still (w w' : World α γ) : Prop where
  setup : w'.setup = w.setup
  ids : w'.nodes.map (·.id) = w.nodes.map (·.id)
  specs : ∀ m ∈ w'.nodes, ∃ n ∈ w.nodes, m.spec = n.spec

variable {w w' w'' : World α γ}

theorem Still.of_nodes (hsetup : w'.setup = w.setup) (hnodes : w'.nodes = w.nodes) : Still w w' := by
  refine ⟨hsetup, by rw [hnodes], fun n hn => ⟨n, ?_, rfl⟩⟩
  rwa [← hnodes]

theorem Still.setNode (h : Still w w') {n n' : Node α} (hn : n ∈ w'.nodes) (hspec : n'.spec = n.spec)
    (hsetup : w''.setup = w'.setup) (hnodes : w''.nodes = (w'.setNode n').nodes) : Still w w'' := by
  constructor
  case setup => rw [hsetup, h.setup]
  case ids => rw [hnodes, setNode_ids, h.ids]
  case specs =>
    rw [hnodes]
    intro m hm
    rcases of_mem_setNode hm with rfl | ⟨hm, -⟩
    · rw [hspec]
      exact h.specs n hn
    · exact h.specs m hm

section

variable [Analysis α] [RandomSource γ]

theorem receiveAll_still (w : World α γ) : Still w w.receiveAll.2 := by
  unfold receiveAll
  split
  · exact .of_nodes rfl rfl
  · refine stepEach_keeps (P := Still w) (fun id w' hw => ?_) _ _ (.of_nodes rfl rfl)
    rcases receiveAt_received w.onAir id w' with hsame | ⟨n, r, hn, hr, hset⟩
    · rw [hsame]
      exact hw
    · obtain ⟨history, phase, blocks, hnode⟩ := hr.node
      rw [hset]
      have hspec : r.node.spec = n.spec := by rw [hnode]; rfl
      exact hw.setNode (mem_of_node? hn).1 hspec rfl rfl

theorem generate_setup (w : World α γ) (n : Node α) : (w.generate n).setup = w.setup := by
  unfold generate
  split
  · rcases n.generator.onTimer w.nowUs n.position n.velocity w.shared.source with ⟨_ | size, generator, g⟩ <;> rfl
  · rfl

theorem fireTimer_still {id : Nat} (hok : w.fireTimer id = (.ok (), w')) : Still w w' := by
  obtain ⟨-, rfl⟩ | ⟨n, n', hn, hn', hrearm⟩ := of_fireTimer hok
  · exact .of_nodes rfl rfl
  · have hgenerated := generate_generated (mem_of_node? hn).1
    have hstill : Still w (w.generate n) := by
      refine ⟨generate_setup w n, hgenerated.ids, fun m hm => ?_⟩
      obtain ⟨n, hn, generator, arrivals, rfl⟩ := hgenerated.nodes m hm
      exact ⟨n, hn, rfl⟩
    obtain ⟨delay, g, -, rfl⟩ := of_rearm hrearm
    have hspec : Node.spec { n' with timer := (w.generate n).agenda.nextTicket } = n'.spec := rfl
    exact hstill.setNode (mem_of_node? hn').1 hspec rfl rfl

theorem serveAll_still (hok : w.serveAll = (.ok (), w')) : Still w w' := by
  obtain ⟨now, w₁, -, hserved, rfl⟩ := of_serveAll hok
  have hstill := stepEach_ok (P := fun _ w₁ => Still w w₁)
    (fun id _ w₁ w₂ hw hstep => by
      rcases of_serveAt hstep with ⟨-, rfl⟩ | ⟨n, r, r', sent, hn, hdelivered, hsend, rfl⟩
      · exact hw
      · obtain ⟨⟨flow, arrivals, hnode⟩, -⟩ := AtNode.of_serve hdelivered hsend
        have hspec : r'.node.spec = n.spec := by rw [hnode]; rfl
        exact hw.setNode (mem_of_node? hn).1 hspec rfl rfl)
    (.of_nodes rfl rfl) hserved
  exact ⟨hstill.setup, hstill.ids, hstill.specs⟩

theorem handle_still {e : Event} (he : e ≠ .mobility) (hok : handle e w = (.ok (), w')) : Still w w' := by
  cases e with
  | reception =>
    have hstill := receiveAll_still w
    rw [show w.receiveAll = _ from hok] at hstill
    exact hstill
  | mobility => exact absurd rfl he
  | traffic id => exact fireTimer_still hok
  | mac => exact serveAll_still hok
  | report =>
    cases hok
    exact .of_nodes rfl rfl

end

/-! ## Moves -/

section

variable [Analysis α] [ExactRemainder α] {sc : Scene α} {x₁ x₂ y₁ y₂ : ℝ}

theorem moved_kept (hspans : sc.Spans x₁ x₂ y₁ y₂) {s : Setup α} (hscene : s.scene = sc)
    (hwrap : s.config.simulation.wrap = true) {seconds : α} {t : ℝ} (hseconds : Is seconds t) {n : Node α}
    (hn : n.spec.Kept x₁ x₂ y₁ y₂) :
    ∃ p, moved? s seconds n = some p ∧ (Node.spec { n with position := p }).Kept x₁ x₂ y₁ y₂ := by
  obtain ⟨x, hx⟩ := hn.x.ahead hseconds
  obtain ⟨y, hy⟩ := hn.y.ahead hseconds
  unfold moved?
  dsimp only
  rw [hscene, if_pos hwrap]
  split
  · rename_i hinside
    obtain ⟨hx', hy'⟩ := (hspans.contains_iff (p := ahead n seconds) hx hy).1 hinside
    exact ⟨_, rfl, hn.x.moved hx hx', hn.y.moved hy hy'⟩
  · exact ⟨_, rfl, hn.x.wrapped hseconds hspans.left hspans.is_width, hn.y.wrapped hseconds hspans.top hspans.is_height⟩

omit [ExactRemainder α] in
theorem moveAll_nodes [RandomSource γ] {seconds : α}
    (hseconds : seconds = Scalar.ofNat w.setup.config.simulation.mobilityIntervalMs / 1000.0)
    (h : ∀ n ∈ w.nodes, moved? w.setup seconds n ≠ none) : w.moveAll.setup = w.setup ∧
      w.moveAll.nodes = w.nodes.map fun n => { n with position := (moved? w.setup seconds n).getD n.position } := by
  subst hseconds
  unfold moveAll
  dsimp only
  rw [List.filter_eq_nil_iff.2 fun n hn => by simpa using h n hn]
  exact ⟨rfl, rfl⟩

end

/-! ## Runs -/

section

variable [Analysis α] [ExactRemainder α] [RandomSource γ] {config : Config α} {scene : Scene α} {trace : Trace α}
  {sourceOfSeed : Nat → γ} {endUs : Nat} {w₀ : World α γ} {x₁ x₂ y₁ y₂ : ℝ}

/-- The nodes are those of the scene with their velocities, and each is kept inside. -/
structure Wraps (scene : Scene α) (x₁ x₂ y₁ y₂ : ℝ) (w : World α γ) : Prop where
  world : w.setup.scene = scene
  wrap : w.setup.config.simulation.wrap = true
  ids : (w.nodes.map (·.id)).Perm (scene.nodes.map (·.id))
  nodes : ∀ n ∈ w.nodes, (∃ spec ∈ scene.nodes, n.id = spec.id ∧ n.velocity = spec.velocity) ∧
    n.spec.Kept x₁ x₂ y₁ y₂

omit [RandomSource γ] in
theorem Wraps.still (h : Wraps scene x₁ x₂ y₁ y₂ w) (hstill : Still w w') : Wraps scene x₁ x₂ y₁ y₂ w' := by
  obtain ⟨hsetup, hids, hspecs⟩ := hstill
  constructor
  case world => rw [hsetup]; exact h.world
  case wrap => rw [hsetup]; exact h.wrap
  case ids => rw [hids]; exact h.ids
  case nodes =>
    intro m hm
    obtain ⟨n, hn, hspec⟩ := hspecs m hm
    have hid : m.id = n.id := congrArg NodeSpec.id hspec
    have hvelocity : m.velocity = n.velocity := congrArg NodeSpec.velocity hspec
    rw [hspec, hid, hvelocity]
    exact h.nodes n hn

theorem Wraps.moveAll (h : Wraps scene x₁ x₂ y₁ y₂ w) (hspans : scene.Spans x₁ x₂ y₁ y₂) :
    Wraps scene x₁ x₂ y₁ y₂ w.moveAll := by
  have hseconds : Is (Scalar.ofNat w.setup.config.simulation.mobilityIntervalMs / 1000.0 : α) _ :=
    is_div (is_ofNat _) (is_ofScientific ..) (by norm_num)
  have hmoved (n : Node α) (hn : n ∈ w.nodes) := moved_kept hspans h.world h.wrap hseconds (h.nodes n hn).2
  obtain ⟨hsetup, hnodes⟩ := moveAll_nodes (w := w) rfl fun n hn => by
    obtain ⟨p, hp, -⟩ := hmoved n hn
    simp [hp]
  constructor
  case world => rw [hsetup]; exact h.world
  case wrap => rw [hsetup]; exact h.wrap
  case ids =>
    rw [hnodes, List.map_map]
    exact h.ids
  case nodes =>
    rw [hnodes]
    intro m hm
    obtain ⟨n, hn, rfl⟩ := List.mem_map.1 hm
    obtain ⟨p, hp, hkept⟩ := hmoved n hn
    refine ⟨(h.nodes n hn).1, ?_⟩
    rw [hp]
    exact hkept

theorem start_wraps (hscene : scene.validate = .ok ()) (hspans : scene.Spans x₁ x₂ y₁ y₂)
    (hwrap : config.simulation.wrap = true) (hstart : start config scene trace sourceOfSeed = .ok w₀) :
    Wraps scene x₁ x₂ y₁ y₂ w₀ := by
  have haccepted := Scene.accepted_of_validate hscene
  have hspecs := start_specs hstart
  constructor
  case world =>
    unfold start at hstart
    iterate 9 obtain ⟨_, -, hstart⟩ := ok_of_bind hstart
    cases hstart
    rfl
  case wrap => rw [(of_start hstart).2.1]; exact hwrap
  case ids =>
    have hids := hspecs.map NodeSpec.id
    rwa [List.map_map] at hids
  case nodes =>
    intro n hn
    have hspec : n.spec ∈ scene.nodes := hspecs.mem_iff.1 (List.mem_map_of_mem hn)
    have hinside : scene.contains n.position = true := haccepted.inside _ hspec
    obtain ⟨hfinite, hfinite'⟩ := haccepted.velocities _ hspec
    obtain ⟨d, hd⟩ := ExactRemainder.is_of_isFinite hfinite
    obtain ⟨d', hd'⟩ := ExactRemainder.is_of_isFinite hfinite'
    obtain ⟨x, y, hx, hy⟩ := hspans.is_of_contains hinside
    obtain ⟨hinx, hiny⟩ := (hspans.contains_iff hx hy).1 hinside
    exact ⟨⟨n.spec, hspec, rfl, rfl⟩, ⟨x, d, hx, hd, fun _ => hinx⟩, ⟨y, d', hy, hd', fun _ => hiny⟩⟩

theorem wraps_of_reached (hscene : scene.validate = .ok ()) (hspans : scene.Spans x₁ x₂ y₁ y₂)
    (hwrap : config.simulation.wrap = true) (hstart : start config scene trace sourceOfSeed = .ok w₀)
    (hreached : Reached endUs w₀ w) : Wraps scene x₁ x₂ y₁ y₂ w := by
  refine hreached.keeps (fun w e agenda w' hw hok => ?_) (start_wraps hscene hspans hwrap hstart)
  have hw' : Wraps scene x₁ x₂ y₁ y₂ { w with agenda } := hw.still (.of_nodes rfl rfl)
  by_cases hmove : e = .mobility
  · subst hmove
    cases hok
    exact hw'.moveAll hspans
  · exact hw'.still (handle_still hmove hok)

/-- In a world with a height a point that left it comes back inside. In one without it does so if it is on the line of
that world. So in a run that wraps every node of the scene is there, never beyond the left and the right side, and
inside unless the world is without height and the node moves across it. -/
theorem inside_of_reached (hscene : scene.validate = .ok ()) (hfinite : scene.Finite)
    (hwrap : config.simulation.wrap = true) (hstart : start config scene trace sourceOfSeed = .ok w₀) :
    (∀ p : Point α, isFinite p.x = true → isFinite p.y = true →
      (scene.contains (scene.wrap p) = true ↔ 0.0 < scene.height ∨ (p.y == scene.topLeft.y) = true)) ∧
      ∀ w, Reached endUs w₀ w → (w.nodes.map (·.id)).Perm (scene.nodes.map (·.id)) ∧
        ∀ n ∈ w.nodes, (∃ spec ∈ scene.nodes, n.id = spec.id ∧ n.velocity = spec.velocity) ∧
          (scene.topLeft.x ≤ n.position.x ∧ n.position.x ≤ scene.bottomRight.x) ∧
          (0.0 < scene.height ∨ (n.velocity.y == 0.0) = true → scene.contains n.position = true) := by
  obtain ⟨x₁, x₂, y₁, y₂, hspans⟩ := Scene.spans_of_accepted (Scene.accepted_of_validate hscene) hfinite
  constructor
  · intro p hpx hpy
    obtain ⟨x, hx⟩ := ExactRemainder.is_of_isFinite hpx
    obtain ⟨y, hy⟩ := ExactRemainder.is_of_isFinite hpy
    rw [hspans.contains_wrap_iff hx hy, hspans.height_pos_iff, beq_iff hy hspans.top]
  · intro w hreached
    have hwraps := wraps_of_reached hscene hspans hwrap hstart hreached
    refine ⟨hwraps.ids, fun n hn => ?_⟩
    obtain ⟨hspec, ⟨x, dx, hx, -, hinx⟩, ⟨y, dy, hy, hdy, hiny⟩⟩ := hwraps.nodes n hn
    replace hinx := hinx (.inl hspans.wide)
    refine ⟨hspec, ⟨(le_iff hspans.left hx).2 hinx.1, (le_iff hx hspans.right).2 hinx.2⟩, fun hcase => ?_⟩
    have hcase' : y₁ < y₂ ∨ dy = 0 := hcase.imp hspans.height_pos_iff.1 (beq_iff hdy is_zero).1
    exact (hspans.contains_iff (p := n.position) hx hy).2 ⟨hinx, hiny hcase'⟩

end

/-- A world whose node stands in its last corner and leaves it to both sides. -/
def cornerScene (top : ℚ) : Scene Extended where
  topLeft := ⟨.finite 0, .finite top⟩
  bottomRight := ⟨.finite 100, .finite 10⟩
  nodes := [⟨7, ⟨.finite 100, .finite 10⟩, ⟨.finite 20, .finite 20⟩, .finite 23⟩]
  pool := narrowRecord
  propagation := .ofScenario .highway
  regions := {}

/-- Nodes move every millisecond. -/
def restlessRun : Config Extended :=
  let c : Config Extended := .standard
  { c with simulation := { c.simulation with mobilityIntervalMs := 1 } }

/-- After its first move the node is inside again, at the opposite corner. -/
theorem inside_of_reached_corner : ∃ w₀ w : World Extended Zeros,
    (cornerScene 0).validate = .ok () ∧ (cornerScene 0).Finite ∧ restlessRun.simulation.wrap = true ∧
      start restlessRun (cornerScene 0) .disabled (fun _ => .zeros) = .ok w₀ ∧ Reached 10000000 w₀ w ∧
      (w.nodes.map fun n => (n.position.x.toRat, n.position.y.toRat)) = [(1 / 50, 1 / 50)] ∧
      (w.nodes.map (·.id)).Perm [7] ∧ ∀ n ∈ w.nodes, (cornerScene 0).contains n.position = true := by
  have hmoved : ((start restlessRun (cornerScene 0) .disabled fun _ => Zeros.zeros).toOption.bind fun w₀ =>
      (handleUntil 10000000 5 w₀).ok?.map fun w => w.nodes.map fun n => (n.position.x.toRat, n.position.y.toRat)) =
      some [(1 / 50, 1 / 50)] := by decide +kernel
  obtain ⟨w₀, hstart, hmoved⟩ := Option.bind_eq_some_iff.1 hmoved
  obtain ⟨w, hok, hpositions⟩ := Option.map_eq_some_iff.1 hmoved
  replace hstart := ok_of_toOption hstart
  have hscene : (cornerScene 0).validate = .ok () := ok_of_toOption (by decide +kernel)
  have hfinite : (cornerScene 0).Finite := ⟨⟨rfl, rfl⟩, rfl, rfl⟩
  have hreached : Reached 10000000 w₀ w := reached_of_handleUntil .start (Stepped.of_ok? hok)
  obtain ⟨hids, hinside⟩ := (inside_of_reached hscene hfinite rfl hstart).2 w hreached
  exact ⟨w₀, w, hscene, hfinite, rfl, hstart, hreached, hpositions, hids,
    fun n hn => (hinside n hn).2.2 (.inl (by decide +kernel))⟩

/-- In a world without height the node is outside after its first move, although nodes wrap. -/
theorem outside_flat_world : ∃ w₀ w : World Extended Zeros, ∃ n ∈ w.nodes,
    (cornerScene 10).validate = .ok () ∧ (cornerScene 10).Finite ∧ restlessRun.simulation.wrap = true ∧
      start restlessRun (cornerScene 10) .disabled (fun _ => .zeros) = .ok w₀ ∧ Reached 10000000 w₀ w ∧
      (n.position.x.toRat, n.position.y.toRat) = (1 / 50, 501 / 50) ∧
      (cornerScene 10).contains n.position = false := by
  have hmoved : ((start restlessRun (cornerScene 10) .disabled fun _ => Zeros.zeros).toOption.bind fun w₀ =>
      (handleUntil 10000000 5 w₀).ok?.bind fun w => w.nodes.head?.map fun n =>
        ((n.position.x.toRat, n.position.y.toRat), (cornerScene 10).contains n.position)) =
      some ((1 / 50, 501 / 50), false) := by decide +kernel
  simp only [Option.bind_eq_some_iff, Option.map_eq_some_iff] at hmoved
  obtain ⟨w₀, hstart, w, hok, n, hn, hposition⟩ := hmoved
  obtain ⟨hposition, houtside⟩ := Prod.mk.inj hposition
  have hscene : (cornerScene 10).validate = .ok () := ok_of_toOption (by decide +kernel)
  exact ⟨w₀, w, n, List.mem_of_head? hn, hscene, ⟨⟨rfl, rfl⟩, rfl, rfl⟩, rfl, ok_of_toOption hstart,
    reached_of_handleUntil .start (Stepped.of_ok? hok), hposition, houtside⟩

end World

end Sidelink
