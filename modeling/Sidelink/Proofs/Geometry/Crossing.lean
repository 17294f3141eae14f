import Mathlib.Algebra.Group.Int.Even
import Mathlib.Algebra.Group.Nat.Even
import Mathlib.Analysis.Convex.Segment
import Sidelink.Geometry.Polygon
import Sidelink.Proofs.Scalar.Rational

/-!
# Crossings

What decides on a point that is on no edge is how many edges the ray to its right crosses, odd or even. Such an edge
leads from one side of the ray to the other, and a closed way has an even number of edges that change sides.
-/

namespace Sidelink

namespace Polygon

/-! ## Edges -/

section

variable {α : Type} {vertices : List (Point α)} {e : Point α × Point α} {u v : Point α}

theorem edges_cons (first : Point α) (rest : List (Point α)) :
    edges (first :: rest) = (first :: rest).zip (rest ++ [first]) := rfl

theorem getElem?_turned (vertices : List (Point α)) {i : Nat} (hi : i < vertices.length) :
    (vertices.tail ++ vertices.head?.toList)[i]? = vertices[(i + 1) % vertices.length]? := by
  obtain ⟨first, rest, rfl⟩ := List.exists_cons_of_length_pos (Nat.zero_lt_of_lt hi)
  simp only [List.length_cons] at hi
  simp only [List.tail_cons, List.head?_cons, Option.toList_some, List.length_cons]
  rcases Nat.lt_or_ge i rest.length with hlt | hge
  · rw [List.getElem?_append_left hlt, Nat.mod_eq_of_lt (by omega), List.getElem?_cons_succ]
  · have hlast : i = rest.length := by omega
    subst hlast
    rw [List.getElem?_append_right hge, Nat.sub_self, Nat.mod_self]
    rfl

theorem mem_edges_iff : (u, v) ∈ edges vertices ↔
    ∃ i < vertices.length, vertices[i]? = some u ∧ vertices[(i + 1) % vertices.length]? = some v := by
  rw [List.mem_iff_getElem?]
  constructor
  · rintro ⟨i, hi⟩
    obtain ⟨hu, hv⟩ := List.getElem?_zip_eq_some.1 hi
    have hlt : i < vertices.length := (List.getElem?_eq_some_iff.1 hu).1
    rw [getElem?_turned vertices hlt] at hv
    exact ⟨i, hlt, hu, hv⟩
  · rintro ⟨i, hlt, hu, hv⟩
    refine ⟨i, List.getElem?_zip_eq_some.2 ⟨hu, ?_⟩⟩
    rw [getElem?_turned vertices hlt]
    exact hv

theorem ends_of_mem_edges (h : e ∈ edges vertices) : e.1 ∈ vertices ∧ e.2 ∈ vertices := by
  obtain ⟨i, -, hu, hv⟩ := mem_edges_iff.1 h
  exact ⟨List.mem_of_getElem? hu, List.mem_of_getElem? hv⟩

end

/-! ## Odd and even -/

section

variable {β : Type}

theorem foldl_flip (flips : β → Bool) (xs : List β) (start : Bool) :
    xs.foldl (fun inside x => if flips x then !inside else inside) start =
      (start != decide (Odd (xs.countP flips))) := by
  induction xs generalizing start with
  | nil => simp
  | cons x rest ih =>
    rw [List.foldl_cons, ih, List.countP_cons]
    cases hx : flips x with
    | true =>
      rw [if_pos rfl, if_pos rfl]
      cases start <;> simp [Nat.odd_add_one, -Nat.not_odd_iff_even]
    | false => simp

theorem even_changes_iff (side : β → Bool) (first last : β) (between : List β) :
    Even (((first :: between).zip (between ++ [last])).countP fun e => side e.1 != side e.2) ↔
      side first = side last := by
  induction between generalizing first with
  | nil => cases hfirst : side first <;> cases hlast : side last <;> simp [hfirst, hlast]
  | cons next rest ih =>
    rw [List.cons_append, List.zip_cons_cons, List.countP_cons, Nat.even_add, ih]
    cases side first <;> cases side next <;> cases side last <;> simp

theorem even_changes_edges {α : Type} (side : Point α → Bool) (vertices : List (Point α)) :
    Even ((edges vertices).countP fun e => side e.1 != side e.2) := by
  cases vertices with
  | nil => simp [edges]
  | cons first rest =>
    rw [edges_cons, even_changes_iff]

end

theorem contains_iff {α : Type} [Scalar α] (polygon : Polygon α) (p : Point α) : polygon.contains p = true ↔
    (∃ e ∈ edges polygon.vertices, onEdge p e = true) ∨ Odd ((edges polygon.vertices).countP (crosses p)) := by
  unfold contains
  dsimp only
  rw [Bool.or_eq_true, List.any_eq_true, foldl_flip]
  simp

/-! ## The crossing of one edge -/

section

variable {α : Type} [Scalar α]

/-- The ends of an edge are on different sides of the line through a point along the axis. -/
def changesSide (p : Point α) (e : Point α × Point α) : Bool := decide (p.y < e.1.y) != decide (p.y < e.2.y)

/-- Where an edge meets the line through a point along the axis. -/
def abscissa (p : Point α) (e : Point α × Point α) : α :=
  e.2.x + (p.y - e.2.y) * (e.1.x - e.2.x) / (e.1.y - e.2.y)

theorem crosses_eq (p : Point α) (e : Point α × Point α) :
    crosses p e = (changesSide p e && decide (p.x < abscissa p e)) := by
  obtain ⟨u, v⟩ := e
  unfold crosses changesSide
  rw [bne_comm]
  rfl

end

variable {p u v : Point ℚ}

theorem abscissa_mem_uIcc (h : changesSide p (u, v) = true) : abscissa p (u, v) ∈ Set.uIcc u.x v.x := by
  have hside : p.y < u.y ∧ v.y ≤ p.y ∨ u.y ≤ p.y ∧ p.y < v.y := by
    unfold changesSide at h
    by_cases hu : p.y < u.y <;> by_cases hv : p.y < v.y <;> simp_all
  have hshare : 0 ≤ (p.y - v.y) / (u.y - v.y) ∧ (p.y - v.y) / (u.y - v.y) ≤ 1 := by
    rcases hside with ⟨hu, hv⟩ | ⟨hu, hv⟩
    · exact ⟨div_nonneg (by linarith) (by linarith), (div_le_one (by linarith)).2 (by linarith)⟩
    · exact ⟨div_nonneg_of_nonpos (by linarith) (by linarith), (div_le_one_of_neg (by linarith)).2 (by linarith)⟩
  rw [Set.uIcc_comm, ← segment_eq_uIcc, segment_eq_image']
  refine ⟨(p.y - v.y) / (u.y - v.y), hshare, ?_⟩
  dsimp only [abscissa]
  rw [smul_eq_mul, mul_div_right_comm]

end Polygon

end Sidelink
