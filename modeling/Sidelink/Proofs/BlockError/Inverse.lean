import Sidelink.Proofs.BlockError.Monotone
import Sidelink.Proofs.Scalar.Powers

/-!
# Levels found from rates

The search for a rate stops at the first knot that is at or below it, and the knot before it is above the rate. The
level between the two is where their chord has the rate, so that the curve gives the rate back at this level.
-/

namespace Sidelink.BlockError

open Scalar Exact ExactLevels ExactRounding

variable {x b : ℕ → ℝ} {i : ℕ} {edge t u y : ℝ}

/-! ## Places of rates -/

theorem chord_chord (hx : x i < x (i + 1)) (hb : b (i + 1) < b i) (t : ℝ) : chord x b i (chord b x i t) = t := by
  have hx' := (sub_pos.2 hx).ne'
  have hb' := (sub_neg.2 hb).ne
  unfold chord
  field_simp
  ring

theorem chord_between (hx : x i < x (i + 1)) (hlow : b (i + 1) < t) (hhigh : t < b i) :
    x i < chord b x i t ∧ chord b x i t < x (i + 1) := by
  have hb := hlow.trans hhigh
  have hplace := chord_chord hx hb t
  constructor
  · by_contra hle
    have hrate := chord_antitone hx hb.le (not_lt.1 hle)
    rw [chord_left, hplace] at hrate
    linarith
  · by_contra hle
    have hrate := chord_antitone hx hb.le (not_lt.1 hle)
    rw [chord_right hx, hplace] at hrate
    linarith

theorem Falling.eq_chord (hfall : Falling x b) (h : Height x b edge u y) (hlow : x i ≤ u) (hhigh : u < x (i + 1))
    (hedge : u ≤ edge) : y = chord x b i u := by
  cases h with
  | before hbefore =>
    have hfirst := hfall.places.monotone i.zero_le
    linarith
  | beyond _ hbeyond => linarith
  | between j hjlow hjhigh =>
    have hij : i < j + 1 := hfall.places.lt_iff_lt.1 (by linarith)
    have hji : j < i + 1 := hfall.places.lt_iff_lt.1 (by linarith)
    rw [show j = i by omega]

/-! ## The search -/

theorem Curve.eq_knotAt {α : Type} {c : Curve α} {p : Knot α} (h : c.knots[i]? = some p) : p = c.knotAt i := by
  obtain ⟨hlt, rfl⟩ := List.getElem?_eq_some_iff.1 h
  have hi : i ≤ c.rest.length := Nat.lt_succ_iff.1 hlt
  simp [knotAt, min_eq_left hi]

section

variable {α : Type} [Analysis α] {c : Curve α}

theorem Curve.reach_cases (target : α) (before : Option (Knot α)) (k : Knot α) (rest : List (Knot α)) :
    (k.bler ≤ target ∨ rest = []) ∧ reach target before k rest = (before, k) ∨
      ∃ i p l, (k :: rest)[i]? = some p ∧ rest[i]? = some l ∧ reach target before k rest = (some p, l) ∧
        ¬p.bler ≤ target ∧ (l.bler ≤ target ∨ i + 1 = rest.length) := by
  induction rest generalizing before k with
  | nil => exact .inl ⟨.inr rfl, rfl⟩
  | cons l rest ih =>
    unfold reach
    by_cases hk : k.bler ≤ target
    · rw [if_pos hk]
      exact .inl ⟨.inl hk, rfl⟩
    · rw [if_neg hk]
      refine .inr ?_
      rcases ih (some k) l with ⟨hstop, heq⟩ | ⟨i, p, q, hp, hq, heq, habove, hstop⟩
      · refine ⟨0, k, l, rfl, rfl, heq, hk, hstop.imp id ?_⟩
        rintro rfl
        rfl
      · exact ⟨i + 1, p, q, hp, hq, heq, habove, hstop.imp id (congrArg (· + 1))⟩

theorem Curve.reach_knots {target : α} (hlow : c.last.bler ≤ target) :
    c.first.bler ≤ target ∧ reach target none c.first c.rest = (none, c.first) ∨
      ∃ i < c.rest.length, reach target none c.first c.rest = (some (c.knotAt i), c.knotAt (i + 1)) ∧
        ¬(c.knotAt i).bler ≤ target ∧ (c.knotAt (i + 1)).bler ≤ target := by
  rcases reach_cases target none c.first c.rest with ⟨hstop, heq⟩ | ⟨i, p, l, hp, hl, heq, habove, hstop⟩
  · refine .inl ⟨hstop.elim id fun hnil => ?_, heq⟩
    have hlast : c.last = c.first := by simp [last, knotAt, knots, hnil]
    rwa [hlast] at hlow
  · obtain ⟨hi, -⟩ := List.getElem?_eq_some_iff.1 hl
    obtain rfl := eq_knotAt (c := c) (i := i) hp
    obtain rfl := eq_knotAt (c := c) (i := i + 1) hl
    refine .inr ⟨i, hi, heq, habove, hstop.elim id fun hend => ?_⟩
    rwa [last, ← hend] at hlow

theorem Curve.sinrFor_first {target : α} (hreach : reach target none c.first c.rest = (none, c.first)) :
    c.sinrFor target = (c.knotAt 0).sinr := by
  unfold sinrFor
  rw [hreach]
  rfl

theorem Curve.sinrFor_knot {target : α}
    (hreach : reach target none c.first c.rest = (some (c.knotAt i), c.knotAt (i + 1)))
    (hat : target ≤ (c.knotAt (i + 1)).bler) : c.sinrFor target = (c.knotAt (i + 1)).sinr := by
  unfold sinrFor
  rw [hreach]
  exact if_pos hat

theorem Curve.sinrFor_between {target : α}
    (hreach : reach target none c.first c.rest = (some (c.knotAt i), c.knotAt (i + 1)))
    (habove : ¬target ≤ (c.knotAt (i + 1)).bler) :
    c.sinrFor target = match c.axis with
      | .grid .. => line (c.knotAt i).bler (c.knotAt i).sinr (c.knotAt (i + 1)).bler (c.knotAt (i + 1)).sinr target
      | .points =>
        ofDb (line (c.knotAt i).bler (c.knotAt i).db (c.knotAt (i + 1)).bler (c.knotAt (i + 1)).db target) := by
  unfold sinrFor
  rw [hreach]
  exact if_neg habove

end

/-! ## Curves with their places -/

variable {α : Type} [Analysis α] [ExactLevels α] {c : Curve α} {s target : α} {r d : ℝ}

/-- A curve together with its graph: which levels are at which places, and where its knots and its chords lead. -/
structure Curve.Drawn (c : Curve α) (x b : ℕ → ℝ) (edge : ℝ) (At : α → ℝ → Prop) : Prop where
  falling : Falling x b
  heights : c.Heights b
  last_le : x c.rest.length ≤ edge
  positive {s : α} {u : ℝ} : At s u → ∃ r, 0 < r ∧ Is s r
  height {s : α} {u : ℝ} : At s u → ∃ y, Is (c.blerAt s) y ∧ Height x b edge u y
  at_knot {i : ℕ} (hi : i ≤ c.rest.length) : At (c.knotAt i).sinr (x i)
  at_chord {i : ℕ} {target : α} {t : ℝ} (hi : i < c.rest.length) (htarget : Is target t) (hlow : b (i + 1) < t)
    (hhigh : t < b i) (hreach : reach target none c.first c.rest = (some (c.knotAt i), c.knotAt (i + 1)))
    (habove : ¬target ≤ (c.knotAt (i + 1)).bler) : At (c.sinrFor target) (chord b x i t)

namespace Curve.Drawn

variable {At : α → ℝ → Prop}

theorem is_chord (hdrawn : c.Drawn x b edge At) (hs : At s u) (hlow : x i ≤ u) (hhigh : u < x (i + 1))
    (hedge : u ≤ edge) : Is (c.blerAt s) (chord x b i u) := by
  obtain ⟨y, hy, hheight⟩ := hdrawn.height hs
  rwa [hdrawn.falling.eq_chord hheight hlow hhigh hedge] at hy

theorem is_knot (hdrawn : c.Drawn x b edge At) (hi : i ≤ c.rest.length) : Is (c.blerAt (c.knotAt i).sinr) (b i) := by
  have hedge := (hdrawn.falling.places.monotone hi).trans hdrawn.last_le
  have hchord := hdrawn.is_chord (hdrawn.at_knot hi) le_rfl (hdrawn.falling.places i.lt_succ_self) hedge
  rwa [chord_left] at hchord

/-- At the level found for a rate between those of the last knot and of the first, the curve has this rate. -/
theorem is_sinrFor (hdrawn : c.Drawn x b edge At) (htarget : Is target t) (hlow : c.last.bler ≤ target)
    (hhigh : target ≤ c.first.bler) :
    ∃ r, 0 < r ∧ Is (c.sinrFor target) r ∧ Is (c.blerAt (c.sinrFor target)) t := by
  suffices hfound : (∃ u, At (c.sinrFor target) u) ∧ Is (c.blerAt (c.sinrFor target)) t by
    obtain ⟨⟨u, hu⟩, ht⟩ := hfound
    obtain ⟨r, hr, hs⟩ := hdrawn.positive hu
    exact ⟨r, hr, hs, ht⟩
  rcases reach_knots hlow with ⟨hfirst, hreach⟩ | ⟨i, hi, hreach, hbefore, hbelow⟩
  · have hrate : t = b 0 := le_antisymm ((le_iff htarget (hdrawn.heights.is 0)).1 hhigh)
      ((le_iff (hdrawn.heights.is 0) htarget).1 hfirst)
    rw [sinrFor_first hreach, hrate]
    exact ⟨⟨_, hdrawn.at_knot (Nat.zero_le _)⟩, hdrawn.is_knot (Nat.zero_le _)⟩
  · rw [le_iff (hdrawn.heights.is _) htarget] at hbefore hbelow
    rcases hbelow.eq_or_lt with hrate | hlt
    · rw [sinrFor_knot hreach ((le_iff htarget (hdrawn.heights.is _)).2 hrate.ge), ← hrate]
      exact ⟨⟨_, hdrawn.at_knot hi⟩, hdrawn.is_knot hi⟩
    · have hx := hdrawn.falling.places i.lt_succ_self
      obtain ⟨hfrom, hto⟩ := chord_between hx hlt (not_le.1 hbefore)
      have hedge := (hdrawn.falling.places.monotone (Nat.succ_le_of_lt hi)).trans hdrawn.last_le
      have hplace := hdrawn.at_chord hi htarget hlt (not_le.1 hbefore) hreach
        (mt (le_iff htarget (hdrawn.heights.is _)).1 hlt.not_ge)
      have hchord := hdrawn.is_chord hplace hfrom.le hto (hto.le.trans hedge)
      rw [chord_chord hx (hlt.trans (not_le.1 hbefore))] at hchord
      exact ⟨⟨_, hplace⟩, hchord⟩

end Curve.Drawn

theorem Curve.OnGrid.exists_drawn {lo hi step : α} {l h w : ℝ} (hgrid : c.OnGrid lo hi step l h w) (hb : c.Heights b)
    (hlast : l + c.rest.length * w ≤ h) : ∃ x edge, c.Drawn x b edge fun s u => 0 < u ∧ Is s u := by
  obtain ⟨x, edge, hfall, hx, hedge, hgraph⟩ := hgrid.exists_graph hb
  have hknot {i : ℕ} (hi : i ≤ c.rest.length) : Is (c.knotAt i).sinr (x i) := by
    unfold Knot.sinr
    rw [hgrid.db hi]
    exact (hx i).2
  refine ⟨x, edge, hfall, hb, ?_, fun ⟨hu, hs⟩ => ⟨_, hu, hs⟩, fun ⟨hu, hs⟩ => hgraph hs hu,
    fun hi => ⟨(hx _).1, hknot hi⟩, fun {i target t} hi htarget hlow hhigh hreach habove => ?_⟩
  · rw [← not_lt, ← lt_iff hedge (hx _).2, ofDb_lt_ofDb hgrid.is_hi (hgrid.is_level _),
      lt_iff hgrid.is_hi (hgrid.is_level _), not_lt]
    exact hlast
  · rw [sinrFor_between hreach habove, hgrid.axis]
    have hbetween := (chord_between (hfall.places i.lt_succ_self) hlow hhigh).1
    exact ⟨(hx i).1.trans hbetween, is_line (hb.is i) (hknot hi.le) (hb.is (i + 1)) (hknot hi) htarget
      (hlow.trans hhigh).ne⟩

theorem Curve.OnPoints.drawn {z : ℕ → ℝ} (hpoints : c.OnPoints z) (hb : c.Heights b) :
    c.Drawn z b (z c.rest.length) fun s d => ∃ r, 0 < r ∧ Is s r ∧ Is (toDb s) d where
  falling := ⟨hpoints.places, hb.antitone, hb.nonneg, hb.le_one⟩
  heights := hb
  last_le := le_rfl
  positive := fun ⟨r, hr, hs, _⟩ => ⟨r, hr, hs⟩
  height := by
    rintro s u ⟨r, hr, hs, hu⟩
    obtain ⟨d, y, hd, hy, hheight⟩ := hpoints.exists_height hb hs hr
    rw [eq_of_is hu hd]
    exact ⟨y, hy, hheight⟩
  at_knot hi := by
    obtain ⟨r, hr, hs⟩ := exists_ofDb (hpoints.is_level hi)
    refine ⟨r, hr, hs, ?_⟩
    rw [Knot.sinr, toDb_ofDb (hpoints.is_level hi)]
    exact hpoints.is_level hi
  at_chord {i target t} hi htarget hlow hhigh hreach habove := by
    have hline := is_line (hb.is i) (hpoints.is_level hi.le) (hb.is (i + 1)) (hpoints.is_level hi) htarget
      (hlow.trans hhigh).ne
    obtain ⟨r, hr, hs⟩ := exists_ofDb hline
    rw [sinrFor_between hreach habove, hpoints.axis]
    refine ⟨r, hr, hs, ?_⟩
    dsimp only
    rw [toDb_ofDb hline]
    exact hline

/-! ## Curves of the tables -/

theorem GridRow.exists_whole : ∀ row ∈ gridRows, ∃ n : ℕ, row.maxDb.toRat = row.minDb.toRat + n * row.stepDb.toRat := by
  have h : ∀ row ∈ gridRows, row.maxDb.toRat =
      row.minDb.toRat + ((row.maxDb.toRat - row.minDb.toRat) / row.stepDb.toRat).num.toNat * row.stepDb.toRat := by
    decide +kernel
  exact fun row hrow => ⟨_, h row hrow⟩

theorem GridRow.last_le [ExactRounding α] {row : GridRow} (hrow : row ∈ gridRows) {first : Knot α}
    {rest : List (Knot α)} (hknots : row.knots = first :: rest) :
    (row.minDb.toRat : ℝ) + rest.length * (row.stepDb.toRat : ℝ) ≤ (row.maxDb.toRat : ℝ) := by
  obtain ⟨n, hn⟩ := exists_whole row hrow
  have hstep : (0 : ℝ) < row.stepDb.toRat := mod_cast (sound_of_mem_gridRows row hrow).step_pos
  have hmax : (row.maxDb.toRat : ℝ) = row.minDb.toRat + n * (row.stepDb.toRat : ℝ) := mod_cast hn
  have hquotient : ((row.maxDb.toRat : ℝ) - row.minDb.toRat) / row.stepDb.toRat = n := by
    rw [hmax, add_sub_cancel_left, mul_div_cancel_right₀ _ hstep.ne']
  have hcount : row.count α = n + 1 := by
    have hwhole := is_div (α := α) (is_sub row.maxDb.is_toScalar row.minDb.is_toScalar) row.stepDb.is_toScalar hstep.ne'
    rw [hquotient] at hwhole
    have hround := is_round hwhole n.cast_nonneg
    rw [← round_eq, round_natCast] at hround
    unfold count
    rw [toNat_eq hround, Int.cast_natCast, Nat.floor_natCast]
  have hlength : rest.length + 1 ≤ row.count α := by
    rw [← List.length_cons, ← hknots]
    simp [knots, envelope_length]
  have hle : (rest.length : ℝ) ≤ n := by
    rw [hcount] at hlength
    exact_mod_cast Nat.le_of_succ_le_succ hlength
  rw [hmax]
  gcongr

theorem Tabulated.exists_drawn [ExactRounding α] (h : Tabulated c) : ∃ x b edge At, c.Drawn x b edge At := by
  obtain ⟨b, hb⟩ := h.exists_heights
  cases h with
  | grid hrow hknots =>
    obtain ⟨x, edge, hdrawn⟩ := (GridRow.onGrid (sound_of_mem_gridRows _ hrow) hknots).exists_drawn hb
      (GridRow.last_le hrow hknots)
    exact ⟨_, _, _, _, hdrawn⟩
  | points hrow hknots =>
    obtain ⟨z, hpoints⟩ := PointRow.onPoints (sound_of_mem_pointRows _ hrow) hknots
    exact ⟨_, _, _, _, hpoints.drawn hb⟩

theorem sanitize_eq {b : α} (hb : Is b y) (hlow : 0 ≤ y) (hhigh : y ≤ 1) : sanitize b = b := by
  have hneg : ¬b < 0.0 := by
    rw [lt_iff hb is_zero]
    exact not_lt.2 hlow
  have hone : ¬1.0 < b := by
    rw [lt_iff is_one hb]
    exact not_lt.2 hhigh
  simp [sanitize, clampUnit, isNaN_eq hb, hneg, hone]

/-- The level found for a rate between the last and the first of the knots of a first attempt is one at which this
attempt has the rate. -/
theorem sinrForBler_inverts [ExactRounding α] {channel : Channel} {mcs : Nat} (hmcs : mcs ≤ channel.maxMcs)
    (hsupported : channel.isSupported) :
    ∃ c : Curve α, curve channel mcs 0 = .ok c ∧
      ∀ target t, Is target t → c.last.bler ≤ target → target ≤ c.first.bler →
        ∃ s r e, sinrForBler channel mcs target = .ok s ∧ Is s r ∧ 0 < r ∧ evaluate channel mcs s [] = .ok e ∧
          Is (c.blerAt s) t ∧ Is e.bler t := by
  obtain ⟨c, hc, htab⟩ := exists_curve (α := α) hmcs hsupported 0
  obtain ⟨x, b, edge, At, hdrawn⟩ := htab.exists_drawn
  refine ⟨c, hc, fun target t htarget hlow hhigh => ?_⟩
  have hnonneg : 0 ≤ t := (hdrawn.heights.nonneg _).trans ((le_iff (hdrawn.heights.is _) htarget).1 hlow)
  have hunit : t ≤ 1 := ((le_iff htarget (hdrawn.heights.is 0)).1 hhigh).trans (hdrawn.heights.le_one 0)
  obtain ⟨r, hr, hs, hrate⟩ := hdrawn.is_sinrFor htarget hlow hhigh
  refine ⟨c.sinrFor target, r, ⟨c.blerAt (c.sinrFor target), c.sinrFor target⟩, ?_, hs, hr, ?_, hrate, hrate⟩
  · unfold sinrForBler
    rw [hc, sanitize_eq htarget hnonneg hunit]
    rfl
  · unfold evaluate
    rw [List.length_nil, hc]
    show Except.ok (Evaluation.mk (sanitize _) _) = _
    rw [sanitize_eq hrate hnonneg hunit]

/-- On a flat stretch, where two knots have the same rate. -/
theorem sinrForBler_inverts_flat :
    ∃ c : Curve Extended, ∃ target : Extended, curve .ltePssch 5 0 = .ok c ∧ Is target (1249 / 1250) ∧
      (c.knotAt 2).bler == target ∧ (c.knotAt 3).bler == target ∧ c.last.bler ≤ target ∧ target ≤ c.first.bler ∧
      ∃ s e, sinrForBler .ltePssch 5 target = .ok s ∧ evaluate .ltePssch 5 s [] = .ok e ∧ Is e.bler (1249 / 1250) := by
  have htarget : Is (Extended.finite (1249 / 1250)) (1249 / 1250) := ⟨_, rfl, by norm_num⟩
  obtain ⟨c, hc, hinverts⟩ := sinrForBler_inverts (α := Extended) (show 5 ≤ Channel.ltePssch.maxMcs by decide) rfl
  have hknots : (match (curve .ltePssch 5 0 : Except _ (Curve Extended)) with
      | .ok c => (c.knotAt 2).bler == .finite (1249 / 1250) && (c.knotAt 3).bler == .finite (1249 / 1250) &&
          decide (c.last.bler ≤ .finite (1249 / 1250)) && decide (.finite (1249 / 1250) ≤ c.first.bler)
      | .error _ => false) = true := by decide +kernel
  rw [hc] at hknots
  simp only [Bool.and_eq_true, decide_eq_true_eq] at hknots
  obtain ⟨⟨⟨hthird, hfourth⟩, hlow⟩, hhigh⟩ := hknots
  obtain ⟨s, r, e, hs, -, -, he, -, hrate⟩ := hinverts _ _ htarget hlow hhigh
  exact ⟨c, _, hc, htarget, hthird, hfourth, hlow, hhigh, s, e, hs, he, hrate⟩

end Sidelink.BlockError
