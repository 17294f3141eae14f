import Sidelink.Proofs.Simulation.Hearings

/-!
# Tallies

What a run counts are the tallies of its hearings, one after the other. What its statistics say of them are numbers of
tallies of one kind.
-/

namespace Sidelink

variable {α γ : Type}

/-! ## Statistics -/

namespace RunStats

def counter (s : RunStats α) : ReceptionOutcome → Nat
  | .success => s.successes
  | .halfDuplex => s.halfDuplexFailures
  | .propagation => s.propagationFailures
  | .collision => s.collisionFailures

def bin (s : RunStats α) (i : Nat) : DistanceBin := s.bins.getD i {}

/-- The successes of all bins. -/
def binSuccesses (s : RunStats α) : Nat := (s.bins.toList.map fun (_, b) => b.successes).sum

theorem counter_count (s : RunStats α) (o o' : ReceptionOutcome) :
    (s.count o).counter o' = s.counter o' + if o = o' then 1 else 0 := by
  cases o <;> cases o' <;> rfl

theorem counter_uncount (s : RunStats α) (o o' : ReceptionOutcome) :
    (s.uncount o).counter o' = s.counter o' - if o = o' then 1 else 0 := by
  cases o <;> cases o' <;> rfl

theorem count_bins (s : RunStats α) (o : ReceptionOutcome) : (s.count o).binM = s.binM ∧ (s.count o).bins = s.bins := by
  cases o <;> exact ⟨rfl, rfl⟩

theorem uncount_bins (s : RunStats α) (o : ReceptionOutcome) :
    (s.uncount o).binM = s.binM ∧ (s.uncount o).bins = s.bins := by
  cases o <;> exact ⟨rfl, rfl⟩

/-- A change in one bin, or in none. -/
def atBin (s : RunStats α) (index : Option Nat) (change : DistanceBin → DistanceBin) : RunStats α :=
  match index with
  | none => s
  | some i => { s with bins := s.bins.insert i (change (s.bin i)) }

/-- The bin of a distance, if it has one. -/
def binAt? [Scalar α] (binM distanceM : α) : Option Nat :=
  match binIndex? (ε := SimulationError α) binM distanceM with
  | .ok index => index
  | .error _ => none

section

variable (s : RunStats α) (index : Option Nat) (change : DistanceBin → DistanceBin)

theorem inBin_eq [Scalar α] {ε : Type} [OfFault ε] (distanceM : α) :
    s.inBin (ε := ε) distanceM change = do
      let index ← binIndex? s.binM distanceM
      return s.atBin index change := by
  unfold inBin
  congr 1
  funext index
  cases index <;> rfl

theorem atBin_binM : (s.atBin index change).binM = s.binM := by
  cases index <;> rfl

theorem atBin_counter (o : ReceptionOutcome) : (s.atBin index change).counter o = s.counter o := by
  cases index <;> cases o <;> rfl

theorem atBin_bin (i : Nat) :
    (s.atBin index change).bin i = if index = some i then change (s.bin i) else s.bin i := by
  cases index with
  | none => simp [atBin]
  | some j =>
    simp only [atBin, bin, Std.TreeMap.getD_insert, Std.LawfulEqCmp.compare_eq_iff_eq, Option.some.injEq]
    split
    · rename_i hij
      rw [hij]
    · rfl

end

theorem sum_insert (bins : Std.TreeMap Nat DistanceBin) (i : Nat) (b : DistanceBin) :
    ((bins.insert i b).toList.map fun (_, b) => b.successes).sum + (bins.getD i {}).successes =
      (bins.toList.map fun (_, b) => b.successes).sum + b.successes := by
  have hinsert (b : DistanceBin) : ((bins.insert i b).toList.map fun (_, b) => b.successes).sum =
      b.successes + ((bins.toList.filter fun x => ¬(i == x.1) = true).map fun (_, b) => b.successes).sum := by
    rw [((Std.TreeMap.toList_insert_perm (t := bins) (k := i) (v := b)).map _).sum_eq, List.map_cons, List.sum_cons]
  have hrest : ((bins.toList.filter fun x => ¬(i == x.1) = true).map fun (_, b) => b.successes).sum +
      (bins.getD i {}).successes = (bins.toList.map fun (_, b) => b.successes).sum := by
    rw [Std.TreeMap.getD_eq_getD_getElem?]
    cases hi : bins[i]? with
    | some old =>
      have hsame : (bins.insert i old).Equiv bins := .of_forall_constGet?_eq fun k => by
        rw [Std.TreeMap.getElem?_insert]
        split
        · rename_i hk
          rw [← hi, Std.LawfulEqCmp.eq_of_compare hk]
        · rfl
      have hold := hinsert old
      rw [hsame.toList_eq] at hold
      rw [hold]
      exact Nat.add_comm ..
    | none =>
      rw [List.filter_eq_self.2]
      · rfl
      · intro x hx
        have hget := Std.TreeMap.mem_toList_iff_getElem?_eq_some.1 hx
        simp only [beq_iff_eq, decide_not, Bool.not_eq_true', decide_eq_false_iff_not]
        rintro rfl
        rw [hi] at hget
        cases hget
  rw [hinsert]
  omega

theorem atBin_binSuccesses (s : RunStats α) (index : Option Nat) (change : DistanceBin → DistanceBin) :
    (s.atBin index change).binSuccesses + index.elim 0 (fun i => (s.bin i).successes) =
      s.binSuccesses + index.elim 0 fun i => (change (s.bin i)).successes := by
  cases index with
  | none => rfl
  | some i => exact sum_insert s.bins i _

/-- Nothing that counts receptions may have changed. -/
structure SameReceptions (s s' : RunStats α) : Prop where
  binM : s'.binM = s.binM
  counter (o : ReceptionOutcome) : s'.counter o = s.counter o
  bins : s'.bins = s.bins

theorem SameReceptions.refl (s : RunStats α) : SameReceptions s s := ⟨rfl, fun _ => rfl, rfl⟩

theorem SameReceptions.trans {s s' s'' : RunStats α} (h : SameReceptions s s') (h' : SameReceptions s' s'') :
    SameReceptions s s'' where
  binM := h'.binM.trans h.binM
  counter o := (h'.counter o).trans (h.counter o)
  bins := h'.bins.trans h.bins

end RunStats

/-! ## Tallies -/

namespace Tally

def distanceM : Tally α → α
  | reception distanceM _ => distanceM
  | recovery distanceM _ => distanceM

def succeeded : Tally α → Bool
  | reception _ outcome => outcome = .success
  | recovery .. => true

def receives (o : ReceptionOutcome) : Tally α → Bool
  | reception _ outcome => outcome = o
  | recovery .. => false

def repairs (o : ReceptionOutcome) : Tally α → Bool
  | reception .. => false
  | recovery _ earlier => earlier = o

def recount (s : RunStats α) : Tally α → RunStats α
  | reception _ outcome => s.count outcome
  | recovery _ earlier => (s.uncount earlier).count .success

def change (b : DistanceBin) : Tally α → DistanceBin
  | reception _ outcome =>
    { attempts := b.attempts + 1, successes := if outcome = .success then b.successes + 1 else b.successes }
  | recovery .. => { b with successes := b.successes + 1 }

theorem change_attempts (b : DistanceBin) (t : Tally α) :
    (t.change b).attempts = b.attempts + if t.isReception then 1 else 0 := by
  cases t <;> rfl

theorem change_successes (b : DistanceBin) (t : Tally α) :
    (t.change b).successes = b.successes + if t.succeeded then 1 else 0 := by
  cases t with
  | reception d o =>
    simp only [change, succeeded, decide_eq_true_eq]
    split <;> rfl
  | recovery d o => rfl

theorem recount_bins (s : RunStats α) (t : Tally α) : (t.recount s).binM = s.binM ∧ (t.recount s).bins = s.bins := by
  cases t with
  | reception d o => exact s.count_bins o
  | recovery d o =>
    obtain ⟨hbinM, hbins⟩ := (s.uncount o).count_bins .success
    exact ⟨hbinM.trans (s.uncount_bins o).1, hbins.trans (s.uncount_bins o).2⟩

theorem recount_success {t : Tally α} (ht : t.repairs .success = false) (s : RunStats α) :
    (t.recount s).counter .success = s.counter .success + if t.succeeded then 1 else 0 := by
  cases t with
  | reception d o => simp [recount, succeeded, RunStats.counter_count]
  | recovery d o =>
    simp only [repairs, decide_eq_false_iff_not] at ht
    simp [recount, succeeded, RunStats.counter_count, RunStats.counter_uncount, ht]

theorem recount_failure {o : ReceptionOutcome} (ho : o ≠ .success) (s : RunStats α) (t : Tally α) :
    (t.recount s).counter o = s.counter o - (if t.repairs o then 1 else 0) + if t.receives o then 1 else 0 := by
  cases t with
  | reception d o' => simp [recount, repairs, receives, RunStats.counter_count]
  | recovery d o' =>
    simp [recount, repairs, receives, RunStats.counter_count, RunStats.counter_uncount, Ne.symm ho]

section

variable [Scalar α]

/-- The bin in which it is counted. -/
def bin? (binM : α) (t : Tally α) : Option Nat := RunStats.binAt? binM t.distanceM

theorem of_apply {t : Tally α} {s s' : RunStats α} (ht : t.repairs .success = false)
    (hok : t.apply (ε := SimulationError α) s = .ok s') :
    RunStats.binIndex? (ε := SimulationError α) s.binM t.distanceM = .ok (t.bin? s.binM) ∧
      s' = (t.recount s).atBin (t.bin? s.binM) fun b => t.change b := by
  have hchange : t.apply (ε := SimulationError α) s = (t.recount s).inBin t.distanceM fun b => t.change b := by
    cases t with
    | reception d o => rfl
    | recovery d o => exact if_neg (by simpa [repairs] using ht)
  rw [hchange, RunStats.inBin_eq, (t.recount_bins s).1] at hok
  obtain ⟨index, hindex, hok⟩ := ok_of_bind hok
  cases hok
  rw [bin?, RunStats.binAt?, hindex]
  exact ⟨rfl, rfl⟩

end

end Tally

/-- The statistics count some tallies one after the other, each with one call, and no other reception. -/
inductive Counts [Scalar α] : RunStats α → List (Tally α) → RunStats α → Prop where
  | none (s : RunStats α) : Counts s [] s
  | other {s s₁ s₂ : RunStats α} {ts : List (Tally α)} :
      Counts s ts s₁ → RunStats.SameReceptions s₁ s₂ → Counts s ts s₂
  | tally {s s₁ s₂ : RunStats α} {ts : List (Tally α)} {t : Tally α} :
      Counts s ts s₁ → t.apply (ε := SimulationError α) s₁ = .ok s₂ → Counts s (ts ++ [t]) s₂

theorem Counts.trans [Scalar α] {s s₁ s₂ : RunStats α} {ts ts' : List (Tally α)} (h : Counts s ts s₁)
    (h' : Counts s₁ ts' s₂) : Counts s (ts ++ ts') s₂ := by
  induction h' with
  | none => rwa [List.append_nil]
  | other _ hsame ih => exact ih.other hsame
  | tally _ happly ih =>
    rw [← List.append_assoc]
    exact ih.tally happly

/-- What the statistics say of a list of tallies. -/
structure Reflects [Scalar α] (binM : α) (ts : List (Tally α)) (s : RunStats α) : Prop where
  width : s.binM = binM
  indexed : ∀ t ∈ ts, RunStats.binIndex? (ε := SimulationError α) binM t.distanceM = .ok (t.bin? binM)
  attempts (i : Nat) : (s.bin i).attempts = ts.countP fun t => t.bin? binM = some i && t.isReception
  binned (i : Nat) : (s.bin i).successes = ts.countP fun t => t.bin? binM = some i && t.succeeded
  allBinned : s.binSuccesses = ts.countP fun t => (t.bin? binM).isSome && t.succeeded
  successes : s.successes = ts.countP (·.succeeded)
  /-- A failure counts until it is repaired, if repairs were at no time more than the failures that they take back. -/
  failures (o : ReceptionOutcome) : o ≠ .success →
    (∀ earlier, earlier <+: ts → earlier.countP (·.repairs o) ≤ earlier.countP (·.receives o)) →
      s.counter o + ts.countP (·.repairs o) = ts.countP (·.receives o)

namespace Reflects

variable [Scalar α] {binM : α} {ts : List (Tally α)} {t : Tally α} {s s' : RunStats α}

theorem empty (binM : α) : Reflects binM [] { binM } where
  width := rfl
  indexed := by simp
  attempts _ := rfl
  binned _ := rfl
  allBinned := rfl
  successes := rfl
  failures o _ _ := by cases o <;> rfl

theorem congr (h : Reflects binM ts s) (hs : RunStats.SameReceptions s s') : Reflects binM ts s' where
  width := hs.binM.trans h.width
  indexed := h.indexed
  attempts i := by rw [RunStats.bin, hs.bins]; exact h.attempts i
  binned i := by rw [RunStats.bin, hs.bins]; exact h.binned i
  allBinned := by rw [RunStats.binSuccesses, hs.bins]; exact h.allBinned
  successes := (hs.counter .success).trans h.successes
  failures o ho := by rw [hs.counter]; exact h.failures o ho

theorem snoc (h : Reflects binM ts s) (ht : t.repairs .success = false)
    (hok : t.apply (ε := SimulationError α) s = .ok s') : Reflects binM (ts ++ [t]) s' := by
  obtain ⟨hindexed, hs'⟩ := Tally.of_apply ht hok
  rw [h.width] at hindexed hs'
  have hbin (i : Nat) : (t.recount s).bin i = s.bin i := by rw [RunStats.bin, (t.recount_bins s).2]; rfl
  have hcounter (o : ReceptionOutcome) : s'.counter o = (t.recount s).counter o := by rw [hs', RunStats.atBin_counter]
  constructor
  case width => rw [hs', RunStats.atBin_binM, (t.recount_bins s).1, h.width]
  case indexed => exact List.forall_mem_append.2 ⟨h.indexed, List.forall_mem_singleton.2 hindexed⟩
  case attempts =>
    intro i
    rw [hs', RunStats.atBin_bin, hbin, List.countP_append, ← h.attempts, List.countP_singleton]
    split <;> simp [*, Tally.change_attempts]
  case binned =>
    intro i
    rw [hs', RunStats.atBin_bin, hbin, List.countP_append, ← h.binned, List.countP_singleton]
    split <;> simp [*, Tally.change_successes]
  case allBinned =>
    have hsum := (t.recount s).atBin_binSuccesses (t.bin? binM) fun b => t.change b
    have hrecount : (t.recount s).binSuccesses = s.binSuccesses := by
      rw [RunStats.binSuccesses, (t.recount_bins s).2]
      rfl
    rw [← hs', hrecount] at hsum
    rw [List.countP_append, ← h.allBinned, List.countP_singleton]
    cases hindex : t.bin? binM with
    | none => simpa [hindex] using hsum
    | some i =>
      simp only [hindex, Option.elim, hbin, Tally.change_successes] at hsum
      simp only [Option.isSome_some, Bool.true_and]
      omega
  case successes =>
    rw [List.countP_append, ← h.successes, List.countP_singleton]
    exact (hcounter .success).trans (t.recount_success ht s)
  case failures =>
    intro o ho hrepairs
    have hfailures := h.failures o ho fun earlier hearlier => hrepairs earlier (hearlier.trans (List.prefix_append ..))
    replace hrepairs := hrepairs _ List.prefix_rfl
    rw [List.countP_append, List.countP_append, List.countP_singleton, List.countP_singleton] at hrepairs ⊢
    rw [hcounter, t.recount_failure ho]
    have hkind : (if t.repairs o then 1 else 0) = 0 ∨ (if t.receives o then 1 else 0) = 0 := by
      cases t
      · exact .inl rfl
      · exact .inr rfl
    omega

end Reflects

theorem Counts.reflects [Scalar α] {binM : α} {ts : List (Tally α)} {s s' : RunStats α} (h : Counts s ts s')
    (hs : Reflects binM [] s) (hts : ∀ t ∈ ts, t.repairs .success = false) : Reflects binM ts s' := by
  induction h with
  | none => exact hs
  | other _ hsame ih => exact (ih hts).congr hsame
  | tally _ happly ih =>
    obtain ⟨hbefore, hlast⟩ := List.forall_mem_append.1 hts
    exact (ih hbefore).snoc (hlast _ (List.mem_singleton_self _)) happly

/-! ## Hearings -/

section

variable [Analysis α] [RandomSource γ] {h : Hearing α γ} {r r' : AtNode α γ}

theorem AtNode.stats_listen {s : Setup α} {heard : List (Heard α)} {i : Nat} {a : OnAir α} {key : BlockKey}
    {nowUs : Nat} {los : Bool} {signalMw : α} {attempt : Attempt α}
    (hok : listen s r heard i a key nowUs los signalMw = (.ok attempt, r')) :
    RunStats.SameReceptions r.shared.stats r'.shared.stats := by
  obtain ⟨source, sciFailures, hshared⟩ := shared_listen hok
  rw [hshared]
  exact ⟨rfl, fun o => by cases o <;> rfl, rfl⟩

theorem Hearing.stats_of_result (hok : h.result = (.ok (), r')) :
    ∃ s, RunStats.SameReceptions h.before.shared.stats s ∧
      match h.tally? with
      | none => r'.shared.stats = s
      | some t => t.apply (ε := SimulationError α) s = .ok r'.shared.stats := by
  rw [result_eq] at hok
  unfold tally? outcome?
  cases hattempt : h.attempt? with
  | none =>
    rw [hattempt] at hok
    cases hok
    exact ⟨_, .refl _, rfl⟩
  | some attempted =>
    rw [hattempt] at hok
    obtain ⟨attempt, r₁, r₂, rfl, hsettle, -, hstats⟩ := of_finish hok
    have hsame : RunStats.SameReceptions h.before.shared.stats r₁.shared.stats := by
      rcases of_attempt hattempt with ⟨-, hsends⟩ | ⟨-, los, signalMw, hlisten⟩
      · cases hsends
        exact .refl _
      · exact AtNode.stats_listen hlisten
    have hsettled : (r₁.settled h.onAir.key h.earlier attempt.outcome h.nowUs).shared = r₁.shared :=
      r₁.shared_settled ..
    refine ⟨r₁.shared.stats, hsame, ?_⟩
    rw [hstats]
    rw [AtNode.settle_eq] at hsettle
    simp only [Option.bind_some, Except.toOption, Option.map_some]
    generalize (if h.counted = true then _ else _ : Option (Tally α)) = tally at hsettle ⊢
    cases tally with
    | none =>
      cases hsettle
      exact congrArg (·.stats) hsettled
    | some t =>
      dsimp only at hsettle
      cases happly : t.apply (ε := SimulationError α) r₁.shared.stats with
      | error e =>
        rw [happly] at hsettle
        cases hsettle
      | ok s =>
        rw [happly] at hsettle
        cases hsettle
        exact happly

def tallies (log : List (Hearing α γ)) : List (Tally α) := log.filterMap (·.tally?)

theorem tallies_append (log later : List (Hearing α γ)) : tallies (log ++ later) = tallies log ++ tallies later :=
  List.filterMap_append

theorem tallies_singleton (h : Hearing α γ) : tallies [h] = h.tally?.toList := by
  rw [tallies, List.filterMap_cons, List.filterMap_nil]
  cases h.tally? <;> rfl

theorem Hearing.counts_of_result (hok : h.result = (.ok (), r')) :
    Counts h.before.shared.stats h.tally?.toList r'.shared.stats := by
  obtain ⟨s, hsame, hcounted⟩ := stats_of_result hok
  have hbefore := (Counts.none _).other hsame
  cases htally : h.tally? with
  | none =>
    rw [htally] at hcounted
    rwa [← hcounted] at hbefore
  | some t =>
    rw [htally] at hcounted
    exact hbefore.tally hcounted

theorem Hearing.Chain.counts {hs : List (Hearing α γ)} (hchain : Chain r hs r') :
    Counts r.shared.stats (tallies hs) r'.shared.stats := by
  induction hchain with
  | nil => exact .none _
  | snoc _ hresult ih =>
    rw [tallies_append, tallies_singleton]
    exact ih.trans (counts_of_result hresult)

end

/-! ## The world -/

namespace World

variable [Analysis α] [RandomSource γ] {w w' : World α γ} {id : Nat}

/-! ### A reception -/

theorem receiveAt_counts {onAir : List (OnAir α)} (hok : receiveAt onAir id w = (.ok (), w')) :
    Counts w.shared.stats (tallies (hearingsAt onAir id w)) w'.shared.stats := by
  cases hn : w.node? id with
  | none =>
    rw [receiveAt, hn] at hok
    cases hok
    rw [hearingsAt, hn]
    exact .none _
  | some n =>
    obtain ⟨r, hchain, -, rfl⟩ := of_receiveAt hn hok
    have hcounts := hchain.counts
    rwa [show Shared.stats _ = w.shared.stats from heardAt_stats n onAir w.shared] at hcounts

theorem receiveAll_counts (hok : w.receiveAll = (.ok (), w')) :
    Counts w.shared.stats (tallies w.hearings) w'.shared.stats := by
  rcases of_receiveAll hok with ⟨-, rfl, hlog⟩ | ⟨-, hsteps, hlog⟩
  · rw [hlog]
    exact .none _
  · rw [hlog]
    refine logEach_ok (P := fun log (w₁ : World α γ) => Counts w.shared.stats (tallies log) w₁.shared.stats)
      (fun done id w₁ w₂ hw₁ hstep => ?_) (.none _) hsteps
    rw [tallies_append]
    exact hw₁.trans (receiveAt_counts hstep)

/-! ### Any other event -/

theorem generate_receptions (w : World α γ) (n : Node α) :
    RunStats.SameReceptions w.shared.stats (w.generate n).shared.stats := by
  unfold generate
  split
  · rcases n.generator.onTimer w.nowUs n.position n.velocity w.shared.source with ⟨_ | size, generator, g⟩
    · exact .refl _
    · exact ⟨rfl, fun o => by cases o <;> rfl, rfl⟩
  · exact .refl _

theorem fireTimer_receptions (hok : w.fireTimer id = (.ok (), w')) :
    RunStats.SameReceptions w.shared.stats w'.shared.stats := by
  obtain ⟨-, rfl⟩ | ⟨n, n', -, -, hrearm⟩ := of_fireTimer hok
  · exact .refl _
  · obtain ⟨delay, g, -, rfl⟩ := of_rearm hrearm
    exact w.generate_receptions n

theorem serveAt_receptions {now : Slot} (hok : serveAt now id w = (.ok (), w')) :
    RunStats.SameReceptions w.shared.stats w'.shared.stats := by
  obtain ⟨-, rfl⟩ | ⟨n, r, r', sent, -, hdelivered, hsend, rfl⟩ := of_serveAt hok
  · exact .refl _
  · have hr : RunStats.SameReceptions w.shared.stats r.shared.stats := by
      refine stepEach_ok (P := fun _ (r : AtNode α γ) => RunStats.SameReceptions w.shared.stats r.shared.stats)
        (fun p _ r r' hr hok => hr.trans ?_) (.refl _) hdelivered
      unfold AtNode.deliver at hok
      dsimp only at hok
      split at hok
      · cases hok
        exact ⟨rfl, fun o => by cases o <;> rfl, rfl⟩
      · obtain ⟨decision, flow, g, -, -, hstats, -⟩ := AtNode.of_handOver hok
        rw [hstats]
        exact .refl _
    obtain ⟨tx, flow, g, -, -, -, hstats, -⟩ := AtNode.of_send hsend
    refine hr.trans ?_
    rw [hstats]
    exact ⟨rfl, fun o => by cases o <;> rfl, rfl⟩

theorem receptions_of_handle {e : Event} (he : e ≠ .reception) (hok : handle e w = (.ok (), w')) :
    RunStats.SameReceptions w.shared.stats w'.shared.stats := by
  cases e with
  | reception => exact absurd rfl he
  | mobility =>
    cases hok
    refine moveAll_keeps (P := fun w' : World α γ => RunStats.SameReceptions w.shared.stats w'.shared.stats)
      (.refl _) (fun _ _ hw₁ => hw₁) (fun w₁ id hw₁ => hw₁.trans ?_) (fun _ _ _ hw₁ => hw₁)
    unfold removeNode
    split
    · exact .refl _
    · exact ⟨rfl, fun o => by cases o <;> rfl, rfl⟩
  | traffic id => exact fireTimer_receptions hok
  | mac =>
    obtain ⟨now, w₁, -, hserved, rfl⟩ := of_serveAll hok
    change RunStats.SameReceptions w.shared.stats w₁.shared.stats
    exact stepEach_ok (P := fun _ (w₁ : World α γ) => RunStats.SameReceptions w.shared.stats w₁.shared.stats)
      (fun _ _ _ _ hw₁ hstep => hw₁.trans (serveAt_receptions hstep)) (.refl _) hserved
  | report =>
    cases hok
    exact .refl _

/-- What a run counts are the tallies of its hearings. -/
theorem counts_of_course {endUs : Nat} {w₀ : World α γ} {turns : List (Turn α γ)}
    {r : Stepped (SimulationError α) (World α γ)} (hcourse : Course endUs w₀ turns r) :
    ∀ w, r = (.ok (), w) → Counts w₀.shared.stats (tallies (heardIn turns)) w.shared.stats := by
  induction hcourse with
  | start =>
    rintro w ⟨⟩
    exact .none _
  | @turn turns w m e agenda _ hpop hbefore ih =>
    intro w' hok
    have hw := ih w rfl
    rw [heardIn_snoc]
    by_cases he : e = .reception
    · subst he
      rw [if_pos rfl, tallies_append]
      exact hw.trans (receiveAll_counts (w := { w with agenda }) hok)
    · rw [if_neg he, List.append_nil]
      exact hw.other (receptions_of_handle (w := { w with agenda }) he hok)

end World

end Sidelink
