import Mathlib.Data.Rat.Defs
import Sidelink.BlockError.Attempt
import Sidelink.Proofs.Fault

/-!
# What the tables hold

Every curve comes from one of finitely many rows. What the proofs need of the rows is checked once over all of them,
and what they need of a choice of curve is that it ends at one of these rows.
-/

namespace Sidelink

/-- The number that a decimal stands for. -/
def Decimal.toRat (d : Decimal) : ℚ := d.mantissa / 10 ^ d.places

namespace BlockError

/-! ## The rows -/

def gridRows : List GridRow := sharedRows.flatten ++ discoveryRows ++ [controlRow, broadcastRow]

def pointRows : List PointRow :=
  [radioData, radioControl, fadedControlLos, fadedControlNlos] ++
    [8, 18, 28, 38, 48].flatMap fun prbs => [fadedRow true prbs, fadedRow false prbs]

structure GridRow.Sound (row : GridRow) : Prop where
  samples_ne_nil : row.samples ≠ []
  step_pos : 0 < row.stepDb.toRat

structure PointRow.Sound (row : PointRow) : Prop where
  two_le_length : 2 ≤ row.length
  rising : row.IsChain fun p q => p.1.toRat < q.1.toRat

theorem sound_of_mem_gridRows : ∀ row ∈ gridRows, row.Sound := by
  have h : ∀ row ∈ gridRows, row.samples ≠ [] ∧ 0 < row.stepDb.toRat := by decide +kernel
  intro row hrow
  exact ⟨(h row hrow).1, (h row hrow).2⟩

theorem sound_of_mem_pointRows : ∀ row ∈ pointRows, PointRow.Sound row := by
  have h : ∀ row ∈ pointRows, 2 ≤ row.length ∧ row.IsChain fun p q => p.1.toRat < q.1.toRat := by decide +kernel
  intro row hrow
  exact ⟨(h row hrow).1, (h row hrow).2⟩

theorem sharedRows_length : sharedRows.length = 29 := by decide +kernel

theorem length_of_mem_sharedRows : ∀ rows ∈ sharedRows, rows.length = 4 := by decide +kernel

theorem discoveryRows_length : discoveryRows.length = 4 := rfl

theorem fadedRow_mem (los : Bool) {allocated prbs : Nat} (h : fadedPrbs allocated = some prbs) :
    fadedRow los prbs ∈ pointRows := by
  have hprbs : prbs ∈ [8, 18, 28, 38, 48] := by
    unfold fadedPrbs at h
    split at h <;> simp_all
  refine List.mem_append_right _ (List.mem_flatMap.2 ⟨prbs, hprbs, ?_⟩)
  cases los with
  | true => exact List.mem_cons_self
  | false => exact List.mem_cons_of_mem _ List.mem_cons_self

theorem exists_entry {β : Type} {xs : List β} {i : Nat} (h : i < xs.length) :
    ∃ x ∈ xs, entry (ε := BlockErrorFailure) xs i = .ok x := by
  refine ⟨xs[i], List.getElem_mem h, ?_⟩
  rw [entry, List.getElem?_eq_getElem h]

/-! ## Curves of rows -/

variable {α : Type} [Scalar α]

theorem envelopeBelow_length (ceiling : α) (samples : List α) :
    (envelopeBelow ceiling samples).length = samples.length := by
  induction samples generalizing ceiling with
  | nil => rfl
  | cons b rest ih => rw [envelopeBelow, List.length_cons, ih, List.length_cons]

theorem envelope_length (samples : List α) : (envelope samples).length = samples.length :=
  envelopeBelow_length ..

/-- The number of samples of a row up to its last level. -/
def GridRow.count (α : Type) [Scalar α] (row : GridRow) : Nat :=
  Scalar.toNat (Scalar.round ((row.maxDb.toScalar - row.minDb.toScalar : α) / row.stepDb.toScalar)) + 1

def GridRow.knots (row : GridRow) : List (Knot α) :=
  (envelope ((row.samples.take (row.count α)).map Decimal.toScalar)).zipIdx.map fun (b, i) =>
    Knot.mk (row.minDb.toScalar + Scalar.ofNat i * row.stepDb.toScalar) b

def PointRow.knots (row : PointRow) : List (Knot α) :=
  (row.zip (envelope (row.map fun (_, b) => b.toScalar))).map fun ((db, _), b) => Knot.mk db.toScalar b

theorem GridRow.curve?_eq (row : GridRow) {first : Knot α} {rest : List (Knot α)} (h : row.knots = first :: rest) :
    row.curve? = some ⟨.grid row.minDb.toScalar row.maxDb.toScalar row.stepDb.toScalar, first, rest⟩ := by
  unfold knots count at h
  unfold curve?
  simp only [h]

theorem PointRow.curve?_eq (row : PointRow) {first : Knot α} {rest : List (Knot α)} (h : row.knots = first :: rest) :
    PointRow.curve? row = some ⟨.points, first, rest⟩ := by
  unfold knots at h
  unfold curve?
  simp only [h]

theorem GridRow.knots_ne_nil {row : GridRow} (h : row.Sound) : row.knots (α := α) ≠ [] := by
  have hpos := List.length_pos_iff.2 h.samples_ne_nil
  refine List.ne_nil_of_length_pos ?_
  simp only [knots, count, List.length_map, List.length_zipIdx, envelope_length, List.length_take]
  omega

theorem PointRow.knots_length (row : PointRow) : (PointRow.knots row : List (Knot α)).length = row.length := by
  simp [knots, envelope_length]

theorem GridRow.knots_bler (row : GridRow) :
    (row.knots : List (Knot α)).map Knot.bler = envelope ((row.samples.take (row.count α)).map Decimal.toScalar) := by
  rw [knots, List.map_map]
  exact List.zipIdx_map_fst ..

theorem GridRow.knots_db (row : GridRow) {i : Nat} (h : i < (row.knots : List (Knot α)).length) :
    (row.knots[i] : Knot α).db = row.minDb.toScalar + Scalar.ofNat i * row.stepDb.toScalar := by
  simp [knots]

theorem PointRow.knots_bler (row : PointRow) :
    (PointRow.knots row).map Knot.bler = envelope ((row.map Prod.snd).map Decimal.toScalar : List α) := by
  rw [knots, List.map_map, List.map_map]
  refine List.map_snd_zip ?_
  rw [envelope_length, List.length_map]

theorem PointRow.knots_db (row : PointRow) {i : Nat} (h : i < (PointRow.knots row : List (Knot α)).length)
    (hi : i < row.length) : ((PointRow.knots row)[i] : Knot α).db = row[i].1.toScalar := by
  simp [knots]

/-- A curve that comes from one of the rows. -/
inductive Tabulated : Curve α → Prop where
  | grid {row : GridRow} {first : Knot α} {rest : List (Knot α)} (hrow : row ∈ gridRows)
      (hknots : row.knots = first :: rest) :
      Tabulated ⟨.grid row.minDb.toScalar row.maxDb.toScalar row.stepDb.toScalar, first, rest⟩
  | points {row : PointRow} {first : Knot α} {rest : List (Knot α)} (hrow : row ∈ pointRows)
      (hknots : PointRow.knots row = first :: rest) : Tabulated ⟨.points, first, rest⟩

theorem GridRow.exists_tabulated {row : GridRow} (hrow : row ∈ gridRows) :
    ∃ c : Curve α, tabulated row.curve? = .ok c ∧ Tabulated c := by
  obtain ⟨first, rest, hknots⟩ := List.exists_cons_of_ne_nil (knots_ne_nil (α := α) (sound_of_mem_gridRows row hrow))
  refine ⟨_, ?_, .grid hrow hknots⟩
  rw [row.curve?_eq hknots]
  rfl

theorem PointRow.exists_tabulated {row : PointRow} (hrow : row ∈ pointRows) :
    ∃ c : Curve α, tabulated (PointRow.curve? row) = .ok c ∧ Tabulated c := by
  have hlength : 0 < (PointRow.knots row : List (Knot α)).length := by
    have htwo := (sound_of_mem_pointRows row hrow).two_le_length
    rw [knots_length]
    omega
  obtain ⟨first, rest, hknots⟩ := List.exists_cons_of_length_pos hlength
  refine ⟨_, ?_, .points hrow hknots⟩
  rw [row.curve?_eq hknots]
  rfl

theorem exists_tabulated_of_entries {rows : List GridRow} (hrows : ∀ row ∈ rows, row ∈ gridRows) {i : Nat}
    (hi : i < rows.length) :
    ∃ c : Curve α, (do let row ← entry rows i; tabulated row.curve? : Except BlockErrorFailure (Curve α)) = .ok c ∧
      Tabulated c := by
  obtain ⟨row, hrow, hentry⟩ := exists_entry hi
  rw [hentry]
  exact GridRow.exists_tabulated (hrows row hrow)

end BlockError

/-! ## The choice of a curve -/

/-- Whether a channel has a curve for its number of PRBs. Only that of data under fading depends on it. -/
def Channel.isSupported : Channel → Bool
  | .cdlPssch _ prbs => (BlockError.fadedPrbs prbs).isSome
  | _ => true

theorem Channel.exists_of_unsupported {channel : Channel} (h : ¬channel.isSupported) :
    ∃ los prbs, channel = .cdlPssch los prbs ∧ BlockError.fadedPrbs prbs = none := by
  cases channel with
  | cdlPssch los prbs => exact ⟨los, prbs, rfl, Option.not_isSome_iff_eq_none.1 h⟩
  | _ => exact absurd rfl h

namespace BlockError

variable {α : Type} [Scalar α] {channel : Channel} {mcs : Nat}

theorem exists_shared_curve (hmcs : mcs ≤ 28) (attempts : Nat) :
    ∃ c : Curve α, (do
        let rows ← entry sharedRows mcs
        let row ← entry rows (min attempts 3)
        tabulated row.curve? : Except BlockErrorFailure (Curve α)) = .ok c ∧ Tabulated c := by
  have hlt : mcs < sharedRows.length := by rw [sharedRows_length]; omega
  obtain ⟨rows, hrows, hentry⟩ := exists_entry hlt
  rw [hentry]
  refine exists_tabulated_of_entries (fun row hrow => ?_) (by rw [length_of_mem_sharedRows rows hrows]; omega)
  simp only [gridRows, List.append_assoc, List.mem_append]
  exact .inl (List.mem_flatten.2 ⟨rows, hrows, hrow⟩)

theorem exists_curve (hmcs : mcs ≤ channel.maxMcs) (hsupported : channel.isSupported) (attempts : Nat) :
    ∃ c : Curve α, curve channel mcs attempts = .ok c ∧ Tabulated c := by
  unfold curve
  rw [if_neg (Nat.not_lt.2 hmcs)]
  cases channel with
  | pssch => exact PointRow.exists_tabulated (by simp [pointRows])
  | pscch => exact PointRow.exists_tabulated (by simp [pointRows])
  | ltePssch => exact exists_shared_curve (hmcs.trans (by decide)) attempts
  | pusch => exact exists_shared_curve hmcs attempts
  | psdch =>
    exact exists_tabulated_of_entries (fun row hrow => by simp [gridRows, hrow]) (by rw [discoveryRows_length]; omega)
  | ltePscch => exact GridRow.exists_tabulated (by simp [gridRows])
  | psbch => exact GridRow.exists_tabulated (by simp [gridRows])
  | cdlPssch los prbs =>
    obtain ⟨simulated, hsimulated⟩ := Option.isSome_iff_exists.1 hsupported
    simp only [hsimulated]
    exact PointRow.exists_tabulated (fadedRow_mem los hsimulated)
  | cdlPscch los => exact PointRow.exists_tabulated (by cases los <;> simp [pointRows])

theorem curve_of_maxMcs_lt (h : channel.maxMcs < mcs) (attempts : Nat) :
    (curve channel mcs attempts : Except _ (Curve α)) = .error (.mcsOutOfRange channel mcs channel.maxMcs) := by
  unfold curve
  rw [if_pos h]
  rfl

theorem curve_of_unsupported {los : Bool} {prbs : Nat} (hmcs : mcs ≤ (Channel.cdlPssch los prbs).maxMcs)
    (hprbs : fadedPrbs prbs = none) (attempts : Nat) :
    (curve (.cdlPssch los prbs) mcs attempts : Except _ (Curve α)) = .error (.unsupportedPrbCount prbs) := by
  unfold curve
  rw [if_neg (Nat.not_lt.2 hmcs)]
  simp only [hprbs]

theorem tabulated_of_curve {attempts : Nat} {c : Curve α} (h : curve channel mcs attempts = .ok c) : Tabulated c := by
  have hmcs : mcs ≤ channel.maxMcs := by
    by_contra hlt
    rw [curve_of_maxMcs_lt (Nat.not_le.1 hlt)] at h
    cases h
  have hsupported : channel.isSupported := by
    by_contra hnot
    obtain ⟨los, prbs, rfl, hprbs⟩ := Channel.exists_of_unsupported hnot
    rw [curve_of_unsupported hmcs hprbs] at h
    cases h
  obtain ⟨c', hc', htabulated⟩ := exists_curve (α := α) hmcs hsupported attempts
  rw [h] at hc'
  cases hc'
  exact htabulated

theorem curve_error_iff (attempts : Nat) (e : BlockErrorFailure) :
    (curve channel mcs attempts : Except _ (Curve α)) = .error e ↔
      (channel.maxMcs < mcs ∧ e = .mcsOutOfRange channel mcs channel.maxMcs) ∨
      (mcs ≤ channel.maxMcs ∧ ∃ los prbs, channel = .cdlPssch los prbs ∧ fadedPrbs prbs = none ∧
        e = .unsupportedPrbCount prbs) := by
  constructor
  · intro h
    rcases Nat.lt_or_ge channel.maxMcs mcs with hmcs | hmcs
    · rw [curve_of_maxMcs_lt hmcs] at h
      cases h
      exact .inl ⟨hmcs, rfl⟩
    · by_cases hsupported : channel.isSupported
      · obtain ⟨c, hc, -⟩ := exists_curve (α := α) hmcs hsupported attempts
        rw [h] at hc
        cases hc
      · obtain ⟨los, prbs, rfl, hprbs⟩ := Channel.exists_of_unsupported hsupported
        rw [curve_of_unsupported hmcs hprbs] at h
        cases h
        exact .inr ⟨hmcs, los, prbs, rfl, hprbs, rfl⟩
  · rintro (⟨hmcs, rfl⟩ | ⟨hmcs, los, prbs, rfl, hprbs, rfl⟩)
    · exact curve_of_maxMcs_lt hmcs attempts
    · exact curve_of_unsupported hmcs hprbs attempts

end BlockError

end Sidelink
