import Mathlib.Data.List.Rotate
import Sidelink.Proofs.Geometry.Extent

/-!
# One polygon written in many ways

A list of vertices names a polygon from one vertex on and in one direction. With another first vertex the edges rotate
as the vertices do, and in the other direction each edge leads from its end to its start. What an edge says about a
point is the same from both ends, and the order of the edges does not matter.
-/

namespace Sidelink.Polygon

section

variable {α : Type}

/-- The polygon from a later vertex on. -/
def rotate (polygon : Polygon α) (k : Nat) : Polygon α where
  vertices := polygon.vertices.rotate k
  three_le := by rw [List.length_rotate]; exact polygon.three_le

/-- The polygon in the other direction. -/
def reverse (polygon : Polygon α) : Polygon α where
  vertices := polygon.vertices.reverse
  three_le := by rw [List.length_reverse]; exact polygon.three_le

/-! ## Edges of the vertices in another order -/

theorem edges_eq_zip_rotate (vertices : List (Point α)) : edges vertices = vertices.zip (vertices.rotate 1) := by
  cases vertices with
  | nil => rfl
  | cons first rest => rw [edges_cons, List.rotate_cons_succ, List.rotate_zero]

theorem edges_rotate (vertices : List (Point α)) (k : Nat) : edges (vertices.rotate k) = (edges vertices).rotate k := by
  have hturn : (vertices.rotate k).rotate 1 = (vertices.rotate 1).rotate k := by
    rw [List.rotate_rotate, List.rotate_rotate, Nat.add_comm]
  rw [edges_eq_zip_rotate, edges_eq_zip_rotate, hturn]
  exact (List.zipWith_rotate_distrib Prod.mk vertices _ k (List.length_rotate ..).symm).symm

theorem edges_reverse (vertices : List (Point α)) :
    edges vertices.reverse = ((edges vertices).map Prod.swap).reverse.rotate 1 := by
  have hback : vertices.reverse = (vertices.rotate 1).reverse.rotate 1 := by
    cases vertices with
    | nil => rfl
    | cons first rest => simp
  calc edges vertices.reverse
    _ = vertices.reverse.zip (vertices.reverse.rotate 1) := edges_eq_zip_rotate _
    _ = ((vertices.rotate 1).reverse.rotate 1).zip (vertices.reverse.rotate 1) := by rw [← hback]
    _ = ((vertices.rotate 1).reverse.zip vertices.reverse).rotate 1 :=
      (List.zipWith_rotate_distrib Prod.mk _ _ 1 (by simp)).symm
    _ = ((vertices.rotate 1).zip vertices).reverse.rotate 1 :=
      congrArg (List.rotate · 1) (List.reverse_zipWith (by simp)).symm
    _ = ((edges vertices).map Prod.swap).reverse.rotate 1 := by rw [edges_eq_zip_rotate, List.zip_swap]

end

/-! ## An edge from either end -/

section

variable {α : Type} [Scalar α]

theorem changesSide_swap (p : Point α) (e : Point α × Point α) : changesSide p e.swap = changesSide p e :=
  bne_comm

/-- The edges may be taken in any order, such as from the one that leads back on. -/
theorem contains_eq_of_perm (polygon : Polygon α) (p : Point α) {es : List (Point α × Point α)}
    (h : es.Perm (edges polygon.vertices)) : polygon.contains p =
      (es.any (onEdge p) || es.foldl (fun inside e => if crosses p e then !inside else inside) false) := by
  unfold contains
  dsimp only
  rw [foldl_flip, foldl_flip, h.any_eq, h.countP_eq]

end

variable {p : Point ℚ}

theorem onEdge_swap (p : Point ℚ) (e : Point ℚ × Point ℚ) : onEdge p e.swap = onEdge p e := by
  obtain ⟨u, v⟩ := e
  have hturn : turn v p u = -turn u p v := by
    unfold turn
    ring
  rw [Prod.swap_prod_mk, Bool.eq_iff_iff, onEdge_iff, onEdge_iff, hturn, neg_eq_zero, Set.uIcc_comm v.x,
    Set.uIcc_comm v.y]

theorem abscissa_swap {e : Point ℚ × Point ℚ} (h : changesSide p e = true) : abscissa p e.swap = abscissa p e := by
  obtain ⟨u, v⟩ := e
  -- A level edge stays on one side, so there is a slope to divide by.
  have hlevel : u.y ≠ v.y := by
    intro heq
    simp [changesSide, heq] at h
  have hdown : u.y - v.y ≠ 0 := sub_ne_zero.2 hlevel
  have hup : v.y - u.y ≠ 0 := sub_ne_zero.2 hlevel.symm
  simp only [abscissa, Prod.swap_prod_mk]
  field_simp
  ring

theorem crosses_swap (p : Point ℚ) (e : Point ℚ × Point ℚ) : crosses p e.swap = crosses p e := by
  rw [crosses_eq, crosses_eq, changesSide_swap]
  cases h : changesSide p e with
  | false => rfl
  | true => rw [abscissa_swap h]

/-! ## The polygon as a whole -/

/-- What a polygon contains does not depend on the vertex that its list begins with, nor on the direction. -/
theorem contains_rotate_reverse (polygon : Polygon ℚ) (p : Point ℚ) :
    (∀ k, (polygon.rotate k).contains p = polygon.contains p) ∧ polygon.reverse.contains p = polygon.contains p := by
  constructor
  · intro k
    have hperm : (edges (polygon.vertices.rotate k)).Perm (edges polygon.vertices) := by
      rw [edges_rotate]
      exact List.rotate_perm _ k
    rw [contains_eq_of_perm polygon p hperm]
    rfl
  · have hperm : ((edges polygon.vertices.reverse).map Prod.swap).Perm (edges polygon.vertices) := by
      rw [edges_reverse, List.map_rotate, List.map_reverse, List.map_map, Prod.swap_swap_eq, List.map_id]
      exact (List.rotate_perm _ 1).trans (List.reverse_perm _)
    rw [contains_eq_of_perm polygon p hperm, List.any_map, List.foldl_map]
    simp only [Function.comp_def, onEdge_swap, crosses_swap]
    rfl

end Sidelink.Polygon
