import Mathlib.Data.List.Forall2
import Mathlib.Order.Bounds.Defs
import Sidelink.Proofs.BlockError.Tables
import Sidelink.Proofs.Scalar.Binary64

/-!
# The running minimum

The samples of a row without their rises are the minimum of the samples so far, each moved into the unit interval. This
is the largest row that never rises and is nowhere above those samples. Comparisons alone decide it, and no arithmetic,
so it holds of every scalar with a lawful order, floats and their infinities among them.
-/

namespace Sidelink

namespace Scalar

variable {α : Type} [Scalar α] {x y : α}

open LawfulOrder

/-! ## The smaller of two -/

theorem smaller_eq_or (x y : α) : smaller x y = x ∨ smaller x y = y := by
  unfold smaller
  split
  · exact .inr rfl
  · split
    · exact .inr rfl
    · exact .inl rfl

theorem InUnit.smaller (hx : InUnit x) (hy : InUnit y) : InUnit (smaller x y) := by
  rcases smaller_eq_or x y with h | h
  · rwa [h]
  · rwa [h]

variable [LawfulOrder α]

theorem smaller_le_left (hx : isNaN x = false) : smaller x y ≤ x := by
  unfold smaller
  rw [if_neg (by simp [hx])]
  split
  · exact le_of_lt ‹_›
  · exact le_refl hx

theorem smaller_le_right (hx : isNaN x = false) (hy : isNaN y = false) : smaller x y ≤ y := by
  unfold smaller
  rw [if_neg (by simp [hx])]
  split
  · exact le_refl hy
  · exact le_of_not_lt hy hx ‹_›

/-! ## Moved into the unit interval -/

/-- The scalar of the unit interval that is the next one to another scalar. -/
structure Clamped (x c : α) : Prop where
  inUnit : InUnit c
  eq_or : c = x ∨ (x < 0.0 ∧ c = 0.0) ∨ (1.0 < x ∧ c = 1.0)

theorem clamped_clampUnit [LawfulUnit α] (h : isNaN x = false) : Clamped x (clampUnit x) where
  inUnit := .clampUnit h
  eq_or := by
    unfold clampUnit
    split
    · exact .inr (.inl ⟨‹_›, rfl⟩)
    · split
      · exact .inr (.inr ⟨‹_›, rfl⟩)
      · exact .inl rfl

theorem InUnit.clampUnit_eq (h : InUnit x) : Scalar.clampUnit x = x := by
  unfold Scalar.clampUnit
  rw [if_neg fun hlt => lt_irrefl x (lt_of_lt_of_le hlt h.nonneg),
    if_neg fun hlt => lt_irrefl (1.0 : α) (lt_of_lt_of_le hlt h.le_one)]

end Scalar

namespace BlockError

open Scalar LawfulOrder

variable {α : Type} [Scalar α] {samples other : List α}

/-! ## The samples so far -/

/-- What the minimum at a place is taken of: a ceiling and the samples up to there, moved into the unit interval. -/
def SoFar (ceiling : α) (samples : List α) (i : Nat) : Set α :=
  {x | x = ceiling ∨ ∃ j ≤ i, ∃ b, samples[j]? = some b ∧ x = clampUnit b}

theorem mem_soFar_zero {ceiling b x : α} {rest : List α} :
    x ∈ SoFar ceiling (b :: rest) 0 ↔ x = ceiling ∨ x = clampUnit b := by
  simp [SoFar]

theorem mem_soFar_succ {ceiling b x : α} {rest : List α} {i : Nat} :
    x ∈ SoFar ceiling (b :: rest) (i + 1) ↔
      x = ceiling ∨ x = clampUnit b ∨ ∃ j ≤ i, ∃ c, rest[j]? = some c ∧ x = clampUnit c := by
  constructor
  · rintro (rfl | ⟨j, hj, c, hc, rfl⟩)
    · exact .inl rfl
    · cases j with
      | zero =>
        cases hc
        exact .inr (.inl rfl)
      | succ j => exact .inr (.inr ⟨j, by omega, c, hc, rfl⟩)
  · rintro (rfl | rfl | ⟨j, hj, c, hc, rfl⟩)
    · exact .inl rfl
    · exact .inr ⟨0, by omega, b, rfl, rfl⟩
    · exact .inr ⟨j + 1, by omega, c, hc, rfl⟩

theorem soFar_mono (ceiling : α) (samples : List α) {i j : Nat} (h : i ≤ j) :
    SoFar ceiling samples i ⊆ SoFar ceiling samples j := by
  rintro x (rfl | ⟨k, hk, b, hb, rfl⟩)
  · exact .inl rfl
  · exact .inr ⟨k, hk.trans h, b, hb, rfl⟩

/-! ## Rows that never rise -/

/-- A row that never rises, with nothing above the samples, each moved into the unit interval. -/
structure FallsBelow (other samples : List α) : Prop where
  falling : other.Pairwise (· ≥ ·)
  below : List.Forall₂ (fun o b => o ≤ clampUnit b) other samples

theorem beq_of_forall₂_le [LawfulEquality α] (h : List.Forall₂ (· ≤ ·) samples other)
    (h' : List.Forall₂ (· ≤ ·) other samples) : samples == other := by
  induction h with
  | nil => rfl
  | cons hle _ ih =>
    obtain ⟨hge, h'⟩ := List.forall₂_cons.1 h'
    rw [List.cons_beq_cons, Bool.and_eq_true]
    exact ⟨LawfulEquality.beq_of_le_of_le hle hge, ih h'⟩

variable [LawfulOrder α]

theorem FallsBelow.le_clampUnit (hother : FallsBelow other samples) {i j : Nat} (hji : j ≤ i)
    {o b : α} (ho : other[i]? = some o) (hb : samples[j]? = some b) : o ≤ clampUnit b := by
  obtain ⟨hlength, hbelow⟩ := List.forall₂_iff_get.1 hother.below
  obtain ⟨hi, rfl⟩ := List.getElem?_eq_some_iff.1 ho
  obtain ⟨hj, rfl⟩ := List.getElem?_eq_some_iff.1 hb
  have hbelow_j : other[j] ≤ clampUnit samples[j] := hbelow j (hji.trans_lt hi) hj
  rcases hji.eq_or_lt with rfl | hlt
  · exact hbelow_j
  · exact le_trans (List.pairwise_iff_getElem.1 hother.falling j i _ hi hlt) hbelow_j

theorem FallsBelow.le_samples (hother : FallsBelow other samples) (hunit : ∀ b ∈ samples, InUnit b) :
    List.Forall₂ (· ≤ ·) other samples := by
  obtain ⟨hlength, hbelow⟩ := List.forall₂_iff_get.1 hother.below
  refine List.forall₂_iff_get.2 ⟨hlength, fun i hi hi' => ?_⟩
  have hle := hbelow i hi hi'
  rwa [(hunit _ (List.get_mem ..)).clampUnit_eq] at hle

theorem FallsBelow.self (hfalling : samples.Pairwise (· ≥ ·)) (hunit : ∀ b ∈ samples, InUnit b) :
    FallsBelow samples samples where
  falling := hfalling
  below := List.forall₂_same.2 fun b hb => by
    rw [(hunit b hb).clampUnit_eq]
    exact le_refl (hunit b hb).isNaN_eq

/-! ## The envelope -/

variable [LawfulUnit α]

theorem isLeast_envelopeBelow {ceiling : α} (hceiling : InUnit ceiling) (h : ∀ b ∈ samples, isNaN b = false)
    {i : Nat} {e : α} (he : (envelopeBelow ceiling samples)[i]? = some e) : IsLeast (SoFar ceiling samples i) e := by
  induction samples generalizing ceiling i with
  | nil => cases he
  | cons b rest ih =>
    obtain ⟨hb, hrest⟩ := List.forall_mem_cons.1 h
    have hclamp : InUnit (clampUnit b) := .clampUnit hb
    have hleft : smaller ceiling (clampUnit b) ≤ ceiling := smaller_le_left hceiling.isNaN_eq
    have hright : smaller ceiling (clampUnit b) ≤ clampUnit b := smaller_le_right hceiling.isNaN_eq hclamp.isNaN_eq
    cases i with
    | zero =>
      cases he
      refine ⟨mem_soFar_zero.2 (smaller_eq_or ..), fun x hx => ?_⟩
      rcases mem_soFar_zero.1 hx with rfl | rfl
      · exact hleft
      · exact hright
    | succ i =>
      obtain ⟨hmem, hlower⟩ := ih (hceiling.smaller hclamp) hrest he
      have hlow : e ≤ smaller ceiling (clampUnit b) := hlower (.inl rfl)
      constructor
      · rw [mem_soFar_succ]
        rcases hmem with rfl | hmem
        · rcases smaller_eq_or ceiling (clampUnit b) with heq | heq
          · exact .inl heq
          · exact .inr (.inl heq)
        · exact .inr (.inr hmem)
      · intro x hx
        rcases mem_soFar_succ.1 hx with rfl | rfl | hx
        · exact le_trans hlow hleft
        · exact le_trans hlow hright
        · exact hlower (.inr hx)

theorem isLeast_envelope (h : ∀ b ∈ samples, isNaN b = false) {i : Nat} {e : α}
    (he : (envelope samples)[i]? = some e) : IsLeast (SoFar 1.0 samples i) e :=
  isLeast_envelopeBelow .one h he

-- What follows is read off the minimum, without another induction.

theorem inUnit_envelope (h : ∀ b ∈ samples, isNaN b = false) : ∀ e ∈ envelope samples, InUnit e := by
  intro e hmem
  obtain ⟨i, he⟩ := List.mem_iff_getElem?.1 hmem
  rcases (isLeast_envelope h he).1 with rfl | ⟨j, -, b, hb, rfl⟩
  · exact .one
  · exact .clampUnit (h b (List.mem_of_getElem? hb))

theorem fallsBelow_envelope (h : ∀ b ∈ samples, isNaN b = false) : FallsBelow (envelope samples) samples where
  falling := by
    rw [List.pairwise_iff_getElem]
    intro i j hi hj hij
    have hleast_i := isLeast_envelope h (List.getElem?_eq_getElem hi)
    have hleast_j := isLeast_envelope h (List.getElem?_eq_getElem hj)
    exact hleast_j.2 (soFar_mono 1.0 samples hij.le hleast_i.1)
  below := by
    refine List.forall₂_iff_get.2 ⟨envelope_length samples, fun i hi hi' => ?_⟩
    have hleast := isLeast_envelope h (List.getElem?_eq_getElem hi)
    exact hleast.2 (.inr ⟨i, Nat.le_refl i, samples[i], List.getElem?_eq_getElem hi', rfl⟩)

theorem FallsBelow.le_envelope (h : ∀ b ∈ samples, isNaN b = false) (hother : FallsBelow other samples) :
    List.Forall₂ (· ≤ ·) other (envelope samples) := by
  have hlength := hother.below.length_eq
  refine List.forall₂_iff_get.2 ⟨hlength.trans (envelope_length samples).symm, fun i hi hi' => ?_⟩
  have ho := List.getElem?_eq_getElem hi
  have hlt : i < samples.length := hlength ▸ hi
  show other[i] ≤ (envelope samples)[i]
  rcases (isLeast_envelope h (List.getElem?_eq_getElem hi')).1 with heq | ⟨j, hji, b, hb, heq⟩
  · rw [heq]
    exact le_trans (hother.le_clampUnit (Nat.le_refl i) ho (List.getElem?_eq_getElem hlt))
      (InUnit.clampUnit (h _ (List.getElem_mem hlt))).le_one
  · rw [heq]
    exact hother.le_clampUnit hji ho hb

/-- A row is the running minimum of samples. -/
structure RunningMinimum (lows samples : List α) : Prop where
  clamped : ∀ b ∈ samples, Clamped b (clampUnit b)
  length_eq : lows.length = samples.length
  isLeast (i : Nat) (e : α) : lows[i]? = some e → IsLeast (SoFar 1.0 samples i) e
  inUnit : ∀ e ∈ lows, InUnit e
  fallsBelow : FallsBelow lows samples
  /-- Any row that never rises and is nowhere above the samples is nowhere above this one. -/
  greatest (other : List α) : FallsBelow other samples → List.Forall₂ (· ≤ ·) other lows
  /-- Samples that do not rise and lie in the unit interval stay as they are. -/
  unchanged : samples.Pairwise (· ≥ ·) → (∀ b ∈ samples, InUnit b) → lows == samples

/-- Samples that are all numbers, infinities among them, become their running minimum. -/
theorem envelope_runningMinimum [LawfulEquality α] (h : ∀ b ∈ samples, isNaN b = false) :
    RunningMinimum (envelope samples) samples where
  clamped b hb := clamped_clampUnit (h b hb)
  length_eq := envelope_length samples
  isLeast _ _ he := isLeast_envelope h he
  inUnit := inUnit_envelope h
  fallsBelow := fallsBelow_envelope h
  greatest _ hother := hother.le_envelope h
  unchanged hfalling hunit :=
    beq_of_forall₂_le ((fallsBelow_envelope h).le_samples hunit) ((FallsBelow.self hfalling hunit).le_envelope h)

/-- A rise, an infinity, and samples past both ends of the unit interval. -/
def noisy : List Float := [1.5, 0.75, 1.0 / 0.0, 0.5, 0.625, -0.25]

theorem envelope_runningMinimum_noisy :
    (∀ b ∈ noisy, isNaN b = false) ∧ RunningMinimum (envelope noisy) noisy ∧
    envelope noisy == [1.0, 0.75, 0.75, 0.5, 0.5, 0.0] := by
  have hnumbers : ∀ b ∈ noisy, isNaN b = false := by decide +kernel
  exact ⟨hnumbers, envelope_runningMinimum hnumbers, by decide +kernel⟩

end BlockError

end Sidelink
