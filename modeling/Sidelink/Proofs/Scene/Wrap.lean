import Sidelink.Proofs.Scalar.Remainder
import Sidelink.Proofs.Scene.Rules

/-!
# Coming back into the world

A coordinate that is brought back lies between the bounds of its axis, unless these coincide. Then it is left where it
is.
-/

namespace Sidelink

open Scalar Exact

section

variable {α : Type} [Scalar α] [ExactRemainder α]

/-! ## An axis -/

/-- A coordinate and the velocity along its axis. Between bounds that are apart the coordinate is inside. Where they
coincide it is so if it does not move. -/
def Confined (low high : ℝ) (v velocity : α) : Prop :=
  ∃ r d, Is v r ∧ Is velocity d ∧ (low < high ∨ d = 0 → low ≤ r ∧ r ≤ high)

variable {low high : ℝ} {v velocity seconds bound span : α} {r s : ℝ}

theorem is_wrapAxis (hv : Is v r) (hbound : Is bound low) (hspan : Is span (high - low)) (happart : low < high) :
    ∃ q : ℤ, Is (Scene.wrapAxis v bound span) (r - (high - low) * q) ∧
      low ≤ r - (high - low) * q ∧ r - (high - low) * q < high := by
  have hpos : 0 < high - low := sub_pos.2 happart
  obtain ⟨q, hrem, hnonneg, hless⟩ := is_remEuclid (is_sub hv hbound) hspan hpos
  have hsum : low + (r - low - (high - low) * q) = r - (high - low) * q := by ring
  unfold Scene.wrapAxis
  rw [if_pos ((lt_iff is_zero hspan).2 hpos)]
  refine ⟨q, ?_, ?_, ?_⟩
  · rw [← hsum]
    exact is_add hbound hrem
  · linarith
  · linarith

theorem wrapAxis_eq (hspan : Is span (high - low)) (hmeet : ¬low < high) : Scene.wrapAxis v bound span = v := by
  unfold Scene.wrapAxis
  rw [if_neg (by rw [lt_iff is_zero hspan, sub_pos]; exact hmeet)]

theorem Confined.ahead (h : Confined low high v velocity) (hseconds : Is seconds s) :
    ∃ r, Is (v + velocity * seconds) r := by
  obtain ⟨r, d, hv, hvelocity, -⟩ := h
  exact ⟨_, is_add hv (is_mul hvelocity hseconds)⟩

theorem Confined.moved (h : Confined low high v velocity) {v' : α} (hv' : Is v' r) (hinside : low ≤ r ∧ r ≤ high) :
    Confined low high v' velocity := by
  obtain ⟨-, d, -, hvelocity, -⟩ := h
  exact ⟨r, d, hv', hvelocity, fun _ => hinside⟩

theorem Confined.wrapped (h : Confined low high v velocity) (hseconds : Is seconds s) (hbound : Is bound low)
    (hspan : Is span (high - low)) :
    Confined low high (Scene.wrapAxis (v + velocity * seconds) bound span) velocity := by
  obtain ⟨r, d, hv, hvelocity, hinside⟩ := h
  have hnext := is_add hv (is_mul hvelocity hseconds)
  by_cases happart : low < high
  · obtain ⟨q, hwrapped, hle, hlt⟩ := is_wrapAxis hnext hbound hspan happart
    exact ⟨_, d, hwrapped, hvelocity, fun _ => ⟨hle, hlt.le⟩⟩
  · rw [wrapAxis_eq hspan happart]
    refine ⟨_, d, hnext, hvelocity, fun hcase => ?_⟩
    have hstill : d = 0 := hcase.resolve_left happart
    rw [hstill, zero_mul, add_zero]
    exact hinside (.inr hstill)

/-! ## The world -/

/-- The corners of the world are finite. -/
def Scene.Finite (s : Scene α) : Prop :=
  (isFinite s.topLeft.x = true ∧ isFinite s.topLeft.y = true) ∧
    isFinite s.bottomRight.x = true ∧ isFinite s.bottomRight.y = true

namespace Scene

/-- The numbers between which the world lies. It has a width, but it may be without height. -/
structure Spans (s : Scene α) (x₁ x₂ y₁ y₂ : ℝ) : Prop where
  left : Is s.topLeft.x x₁
  right : Is s.bottomRight.x x₂
  top : Is s.topLeft.y y₁
  bottom : Is s.bottomRight.y y₂
  wide : x₁ < x₂
  upright : y₁ ≤ y₂

theorem spans_of_accepted {s : Scene α} (h : s.Accepted) (hfinite : s.Finite) :
    ∃ x₁ x₂ y₁ y₂, s.Spans x₁ x₂ y₁ y₂ := by
  obtain ⟨⟨hx, hy⟩, hx', hy'⟩ := hfinite
  obtain ⟨x₁, hleft⟩ := ExactRemainder.is_of_isFinite hx
  obtain ⟨x₂, hright⟩ := ExactRemainder.is_of_isFinite hx'
  obtain ⟨y₁, htop⟩ := ExactRemainder.is_of_isFinite hy
  obtain ⟨y₂, hbottom⟩ := ExactRemainder.is_of_isFinite hy'
  obtain ⟨hwidth, hheight⟩ := not_or.1 h.bounds
  rw [width, le_iff (is_sub hright hleft) is_zero, not_le, sub_pos] at hwidth
  rw [height, lt_iff (is_sub hbottom htop) is_zero, not_lt, sub_nonneg] at hheight
  exact ⟨x₁, x₂, y₁, y₂, hleft, hright, htop, hbottom, hwidth, hheight⟩

namespace Spans

variable {sc : Scene α} {x₁ x₂ y₁ y₂ : ℝ} {p : Point α} {x y : ℝ}

theorem is_width (h : sc.Spans x₁ x₂ y₁ y₂) : Is sc.width (x₂ - x₁) := is_sub h.right h.left

theorem is_height (h : sc.Spans x₁ x₂ y₁ y₂) : Is sc.height (y₂ - y₁) := is_sub h.bottom h.top

theorem contains_iff (h : sc.Spans x₁ x₂ y₁ y₂) (hx : Is p.x x) (hy : Is p.y y) :
    sc.contains p = true ↔ (x₁ ≤ x ∧ x ≤ x₂) ∧ y₁ ≤ y ∧ y ≤ y₂ := by
  simp only [contains, Bool.and_eq_true, decide_eq_true_eq, le_iff h.left hx, le_iff hx h.right, le_iff h.top hy,
    le_iff hy h.bottom, and_assoc]

theorem is_of_contains (h : sc.Spans x₁ x₂ y₁ y₂) (hp : sc.contains p = true) :
    ∃ x y, Is p.x x ∧ Is p.y y := by
  simp only [contains, Bool.and_eq_true, decide_eq_true_eq] at hp
  obtain ⟨x, hx⟩ := ExactRemainder.is_of_between h.left h.right hp.1.1.1 hp.1.1.2
  obtain ⟨y, hy⟩ := ExactRemainder.is_of_between h.top h.bottom hp.1.2 hp.2
  exact ⟨x, y, hx, hy⟩

theorem height_pos_iff (h : sc.Spans x₁ x₂ y₁ y₂) : 0.0 < sc.height ↔ y₁ < y₂ := by
  rw [lt_iff is_zero h.is_height, sub_pos]

theorem contains_wrap_iff (h : sc.Spans x₁ x₂ y₁ y₂) (hx : Is p.x x) (hy : Is p.y y) :
    sc.contains (sc.wrap p) = true ↔ y₁ < y₂ ∨ y = y₁ := by
  obtain ⟨q, hx', hlow, hhigh⟩ := is_wrapAxis hx h.left h.is_width h.wide
  by_cases happart : y₁ < y₂
  · obtain ⟨q', hy', hlow', hhigh'⟩ := is_wrapAxis hy h.top h.is_height happart
    rw [h.contains_iff (p := sc.wrap p) hx' hy']
    exact iff_of_true ⟨⟨hlow, hhigh.le⟩, hlow', hhigh'.le⟩ (.inl happart)
  · have hmeet : y₁ = y₂ := le_antisymm h.upright (not_lt.1 happart)
    have hy' : Is (sc.wrap p).y y := by
      rw [wrap, wrapAxis_eq h.is_height happart]
      exact hy
    rw [h.contains_iff (p := sc.wrap p) hx' hy', ← hmeet]
    constructor
    · exact fun hinside => .inr (le_antisymm hinside.2.2 hinside.2.1)
    · intro hcase
      rw [hcase.resolve_left (lt_irrefl y₁)]
      exact ⟨⟨hlow, hhigh.le⟩, le_rfl, le_rfl⟩

end Spans

end Scene

end

end Sidelink
