import Sidelink.Proofs.Geometry.Crossing

/-!
# The extent of a polygon

A polygon contains every point of its edges, and no point past all of its vertices. A point to the left of them is the
one case in which the ray crosses any edge at all, and then it crosses all edges that change sides.
-/

namespace Sidelink

/-- On the straight line from one point to another, both of them included. -/
def Point.OnSegment (p u v : Point ℚ) : Prop :=
  ∃ t ∈ Set.Icc (0 : ℚ) 1, p.x = u.x + t * (v.x - u.x) ∧ p.y = u.y + t * (v.y - u.y)

/-- Outside the range of some points along one of the two axes. -/
def Point.Past (p : Point ℚ) (vertices : List (Point ℚ)) : Prop :=
  (∀ v ∈ vertices, p.x < v.x) ∨ (∀ v ∈ vertices, v.x < p.x) ∨ (∀ v ∈ vertices, p.y < v.y) ∨ ∀ v ∈ vertices, v.y < p.y

namespace Polygon

variable {vertices : List (Point ℚ)} {p u v : Point ℚ} {e : Point ℚ × Point ℚ}

/-! ## On an edge -/

theorem aligned_iff (a b c : Point ℚ) : aligned a b c = true ↔ turn a b c = 0 := by
  have hzero : (0.0 : ℚ) = 0 := by decide +kernel
  unfold aligned
  simp only [hzero, Bool.and_eq_true, Bool.not_eq_true', decide_eq_false_iff_not, not_lt]
  exact le_antisymm_iff.symm

theorem between_iff (a b c : Point ℚ) : between a b c = true ↔ b.x ∈ Set.uIcc a.x c.x ∧ b.y ∈ Set.uIcc a.y c.y := by
  have hsmaller (x y : ℚ) : Scalar.smaller x y = min x y := by
    simp [Scalar.smaller, Scalar.isNaN, min_def_lt']
  have hlarger (x y : ℚ) : Scalar.larger x y = max x y := by
    simp [Scalar.larger, Scalar.isNaN, max_def_lt]
  unfold between
  simp only [hsmaller, hlarger, Bool.and_eq_true, decide_eq_true_eq, Set.uIcc, Set.mem_Icc]
  tauto

theorem onEdge_iff (p u v : Point ℚ) :
    onEdge p (u, v) = true ↔ turn u p v = 0 ∧ p.x ∈ Set.uIcc u.x v.x ∧ p.y ∈ Set.uIcc u.y v.y := by
  unfold onEdge
  rw [Bool.and_eq_true, aligned_iff, between_iff]

theorem onEdge_of_onSegment (h : p.OnSegment u v) : onEdge p (u, v) = true := by
  obtain ⟨t, ht, hx, hy⟩ := h
  have hbetween (a b : ℚ) : a + t * (b - a) ∈ Set.uIcc a b := by
    rw [← segment_eq_uIcc, segment_eq_image']
    exact ⟨t, ht, rfl⟩
  rw [onEdge_iff, hx, hy]
  refine ⟨?_, hbetween _ _, hbetween _ _⟩
  unfold turn
  rw [hx, hy]
  ring

/-! ## Past all vertices -/

theorem not_onEdge_of_past (h : p.Past vertices) (he : e ∈ edges vertices) : onEdge p e = false := by
  obtain ⟨u, v⟩ := e
  obtain ⟨hu, hv⟩ := ends_of_mem_edges he
  rw [← Bool.not_eq_true, onEdge_iff]
  rintro ⟨-, hx, hy⟩
  rcases h with h | h | h | h
  · exact lt_irrefl p.x (Set.ordConnected_Ioi.uIcc_subset (h u hu) (h v hv) hx)
  · exact lt_irrefl p.x (Set.ordConnected_Iio.uIcc_subset (h u hu) (h v hv) hx)
  · exact lt_irrefl p.y (Set.ordConnected_Ioi.uIcc_subset (h u hu) (h v hv) hy)
  · exact lt_irrefl p.y (Set.ordConnected_Iio.uIcc_subset (h u hu) (h v hv) hy)

theorem crosses_of_left (h : ∀ v ∈ vertices, p.x < v.x) (he : e ∈ edges vertices) :
    crosses p e = changesSide p e := by
  obtain ⟨u, v⟩ := e
  obtain ⟨hu, hv⟩ := ends_of_mem_edges he
  rw [crosses_eq]
  cases hside : changesSide p (u, v) with
  | false => rfl
  | true =>
    have hahead : p.x < abscissa p (u, v) :=
      Set.ordConnected_Ioi.uIcc_subset (h u hu) (h v hv) (abscissa_mem_uIcc hside)
    rw [decide_eq_true hahead]
    rfl

theorem not_crosses_of_right (h : ∀ v ∈ vertices, v.x < p.x) (he : e ∈ edges vertices) : crosses p e = false := by
  obtain ⟨u, v⟩ := e
  obtain ⟨hu, hv⟩ := ends_of_mem_edges he
  rw [crosses_eq]
  cases hside : changesSide p (u, v) with
  | false => rfl
  | true =>
    have hbehind : abscissa p (u, v) < p.x :=
      Set.ordConnected_Iio.uIcc_subset (h u hu) (h v hv) (abscissa_mem_uIcc hside)
    rw [decide_eq_false (not_lt.2 hbehind.le)]
    rfl

theorem not_crosses_of_same_side (h : (∀ v ∈ vertices, p.y < v.y) ∨ ∀ v ∈ vertices, v.y < p.y)
    (he : e ∈ edges vertices) : crosses p e = false := by
  obtain ⟨hu, hv⟩ := ends_of_mem_edges he
  have hside : changesSide p e = false := by
    unfold changesSide
    rcases h with h | h
    · simp [h e.1 hu, h e.2 hv]
    · simp [not_lt.2 (h e.1 hu).le, not_lt.2 (h e.2 hv).le]
  rw [crosses_eq, hside]
  rfl

theorem even_crosses_of_past (h : p.Past vertices) : Even ((edges vertices).countP (crosses p)) := by
  have hnone (hnot : ∀ e ∈ edges vertices, crosses p e = false) : Even ((edges vertices).countP (crosses p)) := by
    rw [List.countP_eq_zero.2 fun e he => by simp [hnot e he]]
    exact Even.zero
  rcases h with h | h | h | h
  · rw [List.countP_congr fun e he => by rw [crosses_of_left h he]]
    exact even_changes_edges (fun v => decide (p.y < v.y)) vertices
  · exact hnone fun e he => not_crosses_of_right h he
  · exact hnone fun e he => not_crosses_of_same_side (.inl h) he
  · exact hnone fun e he => not_crosses_of_same_side (.inr h) he

/-- A polygon contains no point outside the range of its vertices, and every point of its edges, of which the last one
leads back to the first vertex. -/
theorem contains_extent (polygon : Polygon ℚ) (p : Point ℚ) :
    (p.Past polygon.vertices → polygon.contains p = false) ∧
    ∀ i u v, polygon.vertices[i]? = some u → polygon.vertices[(i + 1) % polygon.vertices.length]? = some v →
      p.OnSegment u v → polygon.contains p = true := by
  constructor
  · intro hpast
    rw [← Bool.not_eq_true, contains_iff]
    rintro (⟨e, he, hon⟩ | hodd)
    · rw [not_onEdge_of_past hpast he] at hon
      cases hon
    · exact Nat.not_odd_iff_even.2 (even_crosses_of_past hpast) hodd
  · intro i u v hu hv hon
    have hlt : i < polygon.vertices.length := (List.getElem?_eq_some_iff.1 hu).1
    exact (contains_iff polygon p).2 (.inl ⟨(u, v), mem_edges_iff.2 ⟨i, hlt, hu, hv⟩, onEdge_of_onSegment hon⟩)

/-- Two triangles that meet in a point, with one vertex written twice. -/
def bowTie : Polygon ℚ where
  vertices := [⟨0, 0⟩, ⟨4, 2⟩, ⟨4, 2⟩, ⟨4, 0⟩, ⟨0, 2⟩]
  three_le := by decide

/-- To the left of all vertices, where the ray crosses four edges, and on the edge that leads back. -/
theorem contains_extent_bowTie :
    (Point.Past ⟨-1, 1⟩ bowTie.vertices ∧ bowTie.contains ⟨-1, 1⟩ = false) ∧
    (bowTie.vertices[4]? = some ⟨0, 2⟩ ∧ bowTie.vertices[(4 + 1) % bowTie.vertices.length]? = some ⟨0, 0⟩ ∧
      Point.OnSegment ⟨0, 1⟩ ⟨0, 2⟩ ⟨0, 0⟩ ∧ bowTie.contains ⟨0, 1⟩ = true) := by
  have hpast : Point.Past ⟨-1, 1⟩ bowTie.vertices := .inl (by decide +kernel)
  have hon : Point.OnSegment ⟨0, 1⟩ ⟨0, 2⟩ ⟨0, 0⟩ := ⟨1 / 2, by norm_num, by norm_num, by norm_num⟩
  exact ⟨⟨hpast, (contains_extent bowTie _).1 hpast⟩,
    rfl, rfl, hon, (contains_extent bowTie _).2 4 _ _ rfl rfl hon⟩

end Polygon

end Sidelink
