import Sidelink.Proofs.Fault
import Sidelink.Scene.Basic

/-!
# Scenes that keep the rules

All rules of a scene taken together.
-/

namespace Sidelink.Scene

variable {α : Type} [Scalar α]

structure Accepted (s : Scene α) : Prop where
  bounds : ¬(s.width ≤ 0.0 ∨ s.height < 0.0)
  count : s.nodes ≠ [] ∧ s.nodes.length ≤ maxNodes
  distinct : (s.nodes.map (·.id)).Nodup
  inside : ∀ n ∈ s.nodes, s.contains n.position = true
  velocities : ∀ n ∈ s.nodes, Scalar.isFinite n.velocity.x = true ∧ Scalar.isFinite n.velocity.y = true
  powers : ∀ n ∈ s.nodes, (-50.0 : α) ≤ n.txPowerDbm ∧ n.txPowerDbm ≤ 50.0
  pool : ∃ p, s.resourcePool = .ok p
  region : ∃ r, s.region = .ok r

theorem of_checkNode {s : Scene α} {seen : List Nat} {n : NodeSpec α} (h : s.checkNode seen n = .ok ()) :
    n.id ∉ seen ∧ s.contains n.position = true ∧
      (Scalar.isFinite n.velocity.x = true ∧ Scalar.isFinite n.velocity.y = true) ∧
      (-50.0 : α) ≤ n.txPowerDbm ∧ n.txPowerDbm ≤ 50.0 := by
  unfold checkNode at h
  dsimp only at h
  split at h
  · cases h
  rename_i hseen
  split at h
  · cases h
  rename_i hinside
  split at h
  · cases h
  rename_i hvelocity
  split at h
  · cases h
  rename_i hpower
  exact ⟨by simpa using hseen, by simpa using hinside, Decidable.not_not.1 hvelocity, Decidable.not_not.1 hpower⟩

theorem of_checkNodes {s : Scene α} {seen : List Nat} {nodes : List (NodeSpec α)}
    (h : s.checkNodes seen nodes = .ok ()) : (nodes.map (·.id)).Nodup ∧ (∀ n ∈ nodes, n.id ∉ seen) ∧
      ∀ n ∈ nodes, s.contains n.position = true ∧
        (Scalar.isFinite n.velocity.x = true ∧ Scalar.isFinite n.velocity.y = true) ∧
        (-50.0 : α) ≤ n.txPowerDbm ∧ n.txPowerDbm ≤ 50.0 := by
  induction nodes generalizing seen with
  | nil => simp
  | cons n rest ih =>
    obtain ⟨_, hcheck, hrest⟩ := ok_of_bind h
    obtain ⟨hfirst, hn⟩ := of_checkNode hcheck
    obtain ⟨hdistinct, hunseen, hall⟩ := ih hrest
    refine ⟨?_, ?_, ?_⟩
    · rw [List.map_cons, List.nodup_cons]
      refine ⟨fun hmem => ?_, hdistinct⟩
      obtain ⟨m, hm, heq⟩ := List.mem_map.1 hmem
      exact hunseen m hm (by rw [heq]; exact List.mem_cons_self)
    · rw [List.forall_mem_cons]
      exact ⟨hfirst, fun m hm hseen => hunseen m hm (List.mem_cons_of_mem _ hseen)⟩
    · rw [List.forall_mem_cons]
      exact ⟨hn, hall⟩

theorem accepted_of_validate {s : Scene α} (h : s.validate = .ok ()) : s.Accepted := by
  unfold validate at h
  dsimp only at h
  split at h
  · cases h
  rename_i hbounds
  split at h
  · cases h
  rename_i hsome
  split at h
  · cases h
  rename_i hmany
  obtain ⟨_, hnodes, h⟩ := ok_of_bind h
  obtain ⟨p, hpool, h⟩ := ok_of_bind h
  obtain ⟨r, hregion, -⟩ := ok_of_bind h
  obtain ⟨hdistinct, -, hall⟩ := of_checkNodes hnodes
  constructor
  case bounds => exact hbounds
  case count => exact ⟨by simpa using hsome, Nat.not_lt.1 hmany⟩
  case distinct => exact hdistinct
  case inside => exact fun n hn => (hall n hn).1
  case velocities => exact fun n hn => (hall n hn).2.1
  case powers => exact fun n hn => (hall n hn).2.2
  case pool => exact ⟨p, ok_of_mapError hpool⟩
  case region => exact ⟨r, ok_of_mapError hregion⟩

end Sidelink.Scene
