import Sidelink.Proofs.Simulation.Repeats

/-!
# Hearings

Every time that a receiver gets to a transmission, with the state that it finds. What it then counts, and what it keeps
of the packet, is said here for one such time, and a log of all of them is taken from a run.
-/

namespace Sidelink

variable {α γ : Type}

instance : Std.LawfulEqCmp BlockKey.order where
  eq_of_compare {a b} h := by
    simp only [compareLex, Ordering.then_eq_eq, compareOn, Nat.compare_eq_eq] at h
    cases a
    cases b
    simpa using h

/-! ## Logs -/

section

variable {ε σ β δ : Type} {step : β → σ → Stepped ε σ} {log : β → σ → List δ}

/-- What is logged in the steps of a loop, up to the first error. -/
def logEach (step : β → σ → Stepped ε σ) (log : β → σ → List δ) : List β → σ → List δ
  | [], _ => []
  | x :: rest, s =>
    log x s ++ match step x s with
      | (.ok (), s) => logEach step log rest s
      | (.error _, _) => []

theorem logEach_keeps {P : List δ → σ → Prop} {Q B : List δ → Prop}
    (hbounds : ∀ done later, B (done ++ later) → B done)
    (hstep : ∀ done x s, P done s → Q done → B (done ++ log x s) →
      Q (done ++ log x s) ∧ ∀ s', step x s = (.ok (), s') → P (done ++ log x s) s')
    {done : List δ} {xs : List β} {s : σ} (hP : P done s) (hQ : Q done)
    (hall : B (done ++ logEach step log xs s)) :
    Q (done ++ logEach step log xs s) ∧
      ∀ s', stepEach step xs s = (.ok (), s') → P (done ++ logEach step log xs s) s' := by
  induction xs generalizing done s with
  | nil =>
    rw [logEach, List.append_nil]
    refine ⟨hQ, ?_⟩
    rintro s' ⟨⟩
    exact hP
  | cons x rest ih =>
    rw [logEach, ← List.append_assoc] at hall ⊢
    obtain ⟨hQ', hP'⟩ := hstep done x s hP hQ (hbounds _ _ hall)
    rw [stepEach]
    rcases hx : step x s with ⟨_ | _, s₁⟩
    · rw [hx] at hP'
      rw [List.append_nil]
      exact ⟨hQ', fun s' hok => by cases hok⟩
    · rw [hx] at hall
      exact ih (hP' s₁ hx) hQ' hall

theorem stepEach_cons_ok {x : β} {rest : List β} {s s' : σ} : stepEach step (x :: rest) s = (.ok (), s') ↔
    ∃ s₁, step x s = (.ok (), s₁) ∧ stepEach step rest s₁ = (.ok (), s') := by
  rw [stepEach]
  rcases step x s with ⟨_ | _, s₁⟩ <;> simp

theorem stepEach_append_ok {xs ys : List β} {s s' : σ} : stepEach step (xs ++ ys) s = (.ok (), s') ↔
    ∃ s₁, stepEach step xs s = (.ok (), s₁) ∧ stepEach step ys s₁ = (.ok (), s') := by
  induction xs generalizing s with
  | nil => simp [stepEach]
  | cons x rest ih =>
    rw [List.cons_append, stepEach_cons_ok]
    simp only [stepEach_cons_ok, ih]
    constructor
    · rintro ⟨s₁, hx, s₂, hxs, hys⟩
      exact ⟨s₂, ⟨s₁, hx, hxs⟩, hys⟩
    · rintro ⟨s₂, ⟨s₁, hx, hxs⟩, hys⟩
      exact ⟨s₁, hx, s₂, hxs, hys⟩

theorem logEach_cons {x : β} {rest : List β} {s s₁ : σ} (hx : step x s = (.ok (), s₁)) :
    logEach step log (x :: rest) s = log x s ++ logEach step log rest s₁ := by
  rw [logEach, hx]

theorem logEach_append {xs : List β} (ys : List β) {s s₁ : σ} (hok : stepEach step xs s = (.ok (), s₁)) :
    logEach step log (xs ++ ys) s = logEach step log xs s ++ logEach step log ys s₁ := by
  induction xs generalizing s with
  | nil =>
    cases hok
    rfl
  | cons x rest ih =>
    obtain ⟨s₂, hx, hrest⟩ := stepEach_cons_ok.1 hok
    rw [List.cons_append, logEach_cons hx, logEach_cons hx, ih hrest, List.append_assoc]

theorem logEach_ok {P : List δ → σ → Prop} (hstep : ∀ done x s s', P done s → step x s = (.ok (), s') →
    P (done ++ log x s) s') {xs : List β} {s s' : σ} (hs : P [] s) (hok : stepEach step xs s = (.ok (), s')) :
    P (logEach step log xs s) s' :=
  (logEach_keeps (P := P) (Q := fun _ => True) (B := fun _ => True) (fun _ _ h => h)
    (fun done x s h _ _ => ⟨trivial, fun s' => hstep done x s s' h⟩) hs trivial trivial).2 s' hok

theorem map_logEach {κ : Type} {f : δ → κ} {g : β → List κ} {P : σ → Prop} {xs : List β} {s s' : σ}
    (hstep : ∀ x ∈ xs, ∀ s s', P s → step x s = (.ok (), s') → P s' ∧ (log x s).map f = g x) (hs : P s)
    (hok : stepEach step xs s = (.ok (), s')) : (logEach step log xs s).map f = xs.flatMap g := by
  induction xs generalizing s with
  | nil => rfl
  | cons x rest ih =>
    obtain ⟨hx, hrest⟩ := List.forall_mem_cons.1 hstep
    obtain ⟨s₁, hs₁, hok⟩ := stepEach_cons_ok.1 hok
    obtain ⟨hkept, hlogged⟩ := hx s s₁ hs hs₁
    rw [logEach_cons hs₁, List.map_append, List.flatMap_cons, hlogged, ih hrest hkept hok]

theorem mem_of_logEach {xs : List β} {s : σ} {a : δ} {P : σ → Prop}
    (hstep : ∀ x s s', P s → step x s = (.ok (), s') → P s')
    (hs : P s) (ha : a ∈ logEach step log xs s) : ∃ x ∈ xs, ∃ s, P s ∧ a ∈ log x s := by
  induction xs generalizing s with
  | nil => cases ha
  | cons x rest ih =>
    rw [logEach] at ha
    rcases List.mem_append.1 ha with ha | ha
    · exact ⟨x, List.mem_cons_self, s, hs, ha⟩
    · rcases hx : step x s with ⟨_ | _, s₁⟩
      · rw [hx] at ha
        cases ha
      · rw [hx] at ha
        obtain ⟨y, hy, h⟩ := ih (hstep x s s₁ hs hx) ha
        exact ⟨y, .tail _ hy, h⟩

end

/-! ## What is counted -/

/-- What is counted of an attempt. -/
inductive Tally (α : Type) where
  | reception (distanceM : α) (outcome : ReceptionOutcome)
  | recovery (distanceM : α) (earlier : ReceptionOutcome)

namespace Tally

def apply [Scalar α] {ε : Type} [OfFault ε] (s : RunStats α) : Tally α → Except ε (RunStats α)
  | reception distanceM outcome => s.recordReception distanceM outcome
  | recovery distanceM earlier => s.recordRecovery distanceM earlier

def isReception : Tally α → Bool
  | reception .. => true
  | recovery .. => false

/-- What is counted of an attempt after an earlier one: the first of all attempts, and a success after a failure. -/
def ofAttempt (earlier : Option ReceptionOutcome) (outcome : ReceptionOutcome) (distanceM : α) : Option (Tally α) :=
  match earlier with
  | none => some (.reception distanceM outcome)
  | some previous => if outcome = .success then some (.recovery distanceM previous) else none

end Tally

/-- How a packet stands after an attempt. A failure changes nothing when there was an attempt before. -/
def ReceptionOutcome.after (earlier : Option ReceptionOutcome) (outcome : ReceptionOutcome) : ReceptionOutcome :=
  match earlier with
  | none => outcome
  | some previous => if outcome = .success then .success else previous

/-! ## What is kept -/

/-- What a node keeps of a packet: how its attempts ended, and the time of the first. -/
def Node.known (n : Node α) (key : BlockKey) : Option (ReceptionOutcome × Nat) :=
  n.blocks[key]?.map fun b => (b.outcome, b.firstUs)

namespace AtNode

variable {r r' : AtNode α γ} {key k : BlockKey} {b : BlockState α} {nowUs : Nat}

theorem known_setBlock (r : AtNode α γ) (key : BlockKey) (b : BlockState α) (k : BlockKey) :
    (r.setBlock key b).node.known k = if key = k then some (b.outcome, b.firstUs) else r.node.known k := by
  simp only [setBlock, Node.known, Std.TreeMap.getElem?_insert, Std.LawfulEqCmp.compare_eq_iff_eq]
  split <;> rfl

theorem known_withSource (r : AtNode α γ) (g : γ) (key : BlockKey) :
    (r.withSource g).node.known key = r.node.known key := rfl

theorem known_forgetBlocks (r : AtNode α γ) (nowUs : Nat) (key : BlockKey) :
    (r.forgetBlocks nowUs).node.known key =
      (r.node.known key).filter fun x => decide (nowUs < x.2 + blockLifetimeUs) := by
  simp only [forgetBlocks, Node.known, Std.TreeMap.getElem?_filter]
  cases r.node.blocks[key]? with
  | none => rfl
  | some b => by_cases h : nowUs < b.firstUs + blockLifetimeUs <;> simp [Option.pfilter, Option.filter, h]

/-- What is kept of a packet after an attempt: the first outcome, or a success in its place. -/
def settled (r : AtNode α γ) (key : BlockKey) (earlier : Option ReceptionOutcome) (outcome : ReceptionOutcome)
    (nowUs : Nat) : AtNode α γ :=
  if earlier = none ∨ outcome = .success then
    r.setBlock key { r.node.blocks.getD key ⟨[], outcome, nowUs⟩ with outcome }
  else r

theorem shared_settled (r : AtNode α γ) (key : BlockKey) (earlier : Option ReceptionOutcome)
    (outcome : ReceptionOutcome) (nowUs : Nat) : (r.settled key earlier outcome nowUs).shared = r.shared := by
  unfold settled
  split <;> rfl

theorem settle_eq [Analysis α] (r : AtNode α γ) (key : BlockKey) (earlier : Option ReceptionOutcome)
    (outcome : ReceptionOutcome) (nowUs : Nat) (counted : Bool) (distanceM : α) :
    r.settle key earlier outcome nowUs counted distanceM =
      match if counted then Tally.ofAttempt earlier outcome distanceM else none with
      | none => (.ok (), r.settled key earlier outcome nowUs)
      | some tally =>
        match tally.apply r.shared.stats with
        | .ok s => (.ok (), (r.settled key earlier outcome nowUs).withStats s)
        | .error e => (.error e, r.settled key earlier outcome nowUs) := by
  cases earlier with
  | none => cases counted <;> rfl
  | some previous => cases outcome <;> cases counted <;> rfl

theorem of_settle [Analysis α] {earlier : Option ReceptionOutcome} {outcome : ReceptionOutcome} {counted : Bool}
    {distanceM : α} (h : r.settle key earlier outcome nowUs counted distanceM = (.ok (), r')) :
    ∃ stats, r' = (r.settled key earlier outcome nowUs).withStats stats := by
  rw [settle_eq] at h
  split at h
  · cases h
    exact ⟨_, rfl⟩
  · split at h
    · cases h
      exact ⟨_, rfl⟩
    · cases h

/-- What is known of a packet after it was listened to, with the state before that. -/
def Listened (known : Option (ReceptionOutcome × Nat)) (nowUs : Nat)
    (known' : Option (ReceptionOutcome × Nat)) : Prop :=
  known' = known ∨ known = none ∧ ∃ outcome, known' = some (outcome, nowUs)

theorem known_settled {known : Option (ReceptionOutcome × Nat)} (h : Listened known nowUs (r.node.known key))
    (outcome : ReceptionOutcome) (k : BlockKey) :
    (r.settled key (known.map Prod.fst) outcome nowUs).node.known k =
      if key = k then some (.after (known.map Prod.fst) outcome, (known.map Prod.snd).getD nowUs)
      else r.node.known k := by
  unfold settled
  have hfirst : (r.node.blocks.getD key ⟨[], outcome, nowUs⟩).firstUs =
      ((r.node.known key).map Prod.snd).getD nowUs := by
    rw [Std.TreeMap.getD_eq_getD_getElem?, Node.known]
    cases r.node.blocks[key]? <;> rfl
  cases known with
  | none =>
    have hnow : ((r.node.known key).map Prod.snd).getD nowUs = nowUs := by
      rcases h with h | ⟨-, o, h⟩ <;> rw [h] <;> rfl
    rw [if_pos (.inl rfl), known_setBlock]
    dsimp only
    rw [hfirst, hnow]
    rfl
  | some x =>
    obtain ⟨previous, firstUs⟩ := x
    have hsame : r.node.known key = some (previous, firstUs) := h.resolve_right (by simp)
    by_cases hsuccess : outcome = .success
    · rw [if_pos (.inr hsuccess), known_setBlock]
      dsimp only
      rw [hfirst, hsame, hsuccess]
      rfl
    · rw [if_neg (by simp [hsuccess])]
      by_cases hk : key = k
      · subst hk
        simp [hsame, ReceptionOutcome.after, hsuccess]
      · rw [if_neg hk]

section

variable [Analysis α]

variable [RandomSource γ] {s : Setup α} {a : OnAir α} {los : Bool} {attempt : Attempt α}

theorem of_decodeData {rbs : Nat} {failure : ReceptionOutcome} {sinr : α}
    (h : decodeData s r a key nowUs rbs los failure sinr = (.ok attempt, r')) :
    (attempt.outcome = .success ∨ attempt.outcome = failure) ∧
      ∃ levels source, let b := r.node.blocks.getD key ⟨[], failure, nowUs⟩
        r' = ((r.setBlock key b).setBlock key { b with levels }).withSource source := by
  unfold decodeData at h
  dsimp only at h
  split at h
  · cases h
  · cases h
    refine ⟨?_, _, _, rfl⟩
    dsimp only
    split
    · exact .inr rfl
    · exact .inl rfl

/-- Of a transmission either the control message is lost, or it is heard and the data are decoded. -/
theorem of_listen {heard : List (Heard α)} {i : Nat} {signalMw : α}
    (h : listen s r heard i a key nowUs los signalMw = (.ok attempt, r')) :
    ∃ source failure, failure = (if 0.0 < interference heard i (.ofRbs a.tx.rbStart (max a.tx.rbCount 1)) then
        ReceptionOutcome.collision else .propagation) ∧
      ((∃ sciFailures, attempt.outcome = failure ∧
          r' = (r.withSource source).withStats { r.shared.stats with sciFailures }) ∨
        ∃ r₁ sinr, (r.withSource source).hear a nowUs (max a.tx.rbCount 1) signalMw = .ok r₁ ∧
          decodeData s r₁ a key nowUs (max a.tx.rbCount 1) los failure sinr = (.ok attempt, r')) := by
  unfold listen at h
  dsimp only at h
  split at h
  · cases h
  · rename_i lost source _
    refine ⟨source, _, rfl, ?_⟩
    split at h
    · cases h
      exact .inl ⟨_, rfl, rfl⟩
    · split at h
      · cases h
      · rename_i r₁ hhear
        exact .inr ⟨r₁, _, hhear, h⟩

theorem known_listen {heard : List (Heard α)} {i : Nat} {signalMw : α}
    (h : listen s r heard i a key nowUs los signalMw = (.ok attempt, r')) :
    Listened (r.node.known key) nowUs (r'.node.known key) ∧ ∀ k, key ≠ k → r'.node.known k = r.node.known k := by
  obtain ⟨source, failure, -, ⟨_, -, rfl⟩ | ⟨r₁, sinr, hhear, hdecoded⟩⟩ := of_listen h
  · exact ⟨.inl rfl, fun _ _ => rfl⟩
  · obtain ⟨report, flow, -, -, rfl⟩ := of_hear hhear
    obtain ⟨-, levels, source', rfl⟩ := of_decodeData hdecoded
    constructor
    · rw [known_withSource, known_setBlock, if_pos rfl]
      dsimp only [withSource]
      rw [Std.TreeMap.getD_eq_getD_getElem?, Node.known]
      cases r.node.blocks[key]? with
      | none => exact .inr ⟨rfl, _, rfl⟩
      | some b => exact .inl rfl
    · intro k hk
      rw [known_withSource, known_setBlock, if_neg hk, known_setBlock, if_neg hk]
      rfl

theorem shared_listen {heard : List (Heard α)} {i : Nat} {signalMw : α}
    (h : listen s r heard i a key nowUs los signalMw = (.ok attempt, r')) :
    ∃ source sciFailures,
      r'.shared = { r.shared with source, stats := { r.shared.stats with sciFailures } } := by
  obtain ⟨source, failure, -, ⟨_, -, rfl⟩ | ⟨r₁, sinr, hhear, hdecoded⟩⟩ := of_listen h
  · exact ⟨source, _, rfl⟩
  · obtain ⟨report, flow, -, -, rfl⟩ := of_hear hhear
    obtain ⟨-, levels, source', rfl⟩ := of_decodeData hdecoded
    exact ⟨source', r.shared.stats.sciFailures, rfl⟩

theorem flow_listen {heard : List (Heard α)} {i : Nat} {signalMw : α}
    (h : listen s r heard i a key nowUs los signalMw = (.ok attempt, r')) :
    r'.node.flow = r.node.flow ∨
      ∃ report, reportOf a nowUs (max a.tx.rbCount 1) signalMw = .ok report ∧
        r.node.flow.sense report = .ok r'.node.flow := by
  obtain ⟨source, failure, -, ⟨_, -, rfl⟩ | ⟨r₁, sinr, hhear, hdecoded⟩⟩ := of_listen h
  · exact .inl rfl
  · obtain ⟨report, flow, hreport, hsense, rfl⟩ := of_hear hhear
    obtain ⟨-, levels, source', rfl⟩ := of_decodeData hdecoded
    exact .inr ⟨report, hreport, hsense⟩

end

end AtNode

/-! ## Hearings -/

/-- A receiver as it gets to a transmission. -/
structure Hearing (α γ : Type) where
  setup : Setup α
  nowUs : Nat
  /-- All transmissions of the slot. -/
  heard : List (Heard α)
  transmitting : Bool
  /-- The receiver is where receptions count. -/
  countedHere : Bool
  entry : Heard α × Nat
  before : AtNode α γ

/-- A packet and one of its receivers. -/
structure Delivery where
  packet : BlockKey
  receiver : Nat
deriving Repr, DecidableEq

namespace Hearing

section

variable (h : Hearing α γ)

def onAir : OnAir α := h.entry.1.onAir

def delivery : Delivery := ⟨h.onAir.key, h.before.node.id⟩

/-- How the packet stands at the receiver before. -/
def earlier : Option ReceptionOutcome := (h.before.node.known h.onAir.key).map Prod.fst

variable [Analysis α] [RandomSource γ]

def counted : Bool := h.countedHere && h.setup.region.isInside .tx h.onAir.position

def distanceM : α := h.onAir.position.distance h.before.node.position

/-- What the receiver does. -/
def result : Stepped (SimulationError α) (AtNode α γ) :=
  AtNode.receive h.setup h.heard h.nowUs h.transmitting h.countedHere h.entry h.before

/-- The attempt at the packet. There is none at one's own packet, and none after a success. -/
def attempt? : Option (Except (SimulationError α) (Attempt α) × AtNode α γ) :=
  match h.entry.1.powerMw with
  | none => none
  | some signalMw =>
    if h.earlier = some .success then none
    else
      let los := match h.before.shared.links.get? h.onAir.node h.before.node.id with
        | some l => l.los
        | none => true
      some (if h.transmitting then (.ok ⟨.halfDuplex, 0.0⟩, h.before)
        else AtNode.listen h.setup h.before h.heard h.entry.2 h.onAir h.onAir.key h.nowUs los signalMw)

/-- What is done with an attempt: it is settled, and a row is kept where receptions count. -/
def finish (attempted : Except (SimulationError α) (Attempt α) × AtNode α γ) :
    Stepped (SimulationError α) (AtNode α γ) :=
  match attempted with
  | (.error e, r) => (.error e, r)
  | (.ok attempt, r) =>
    match r.settle h.onAir.key h.earlier attempt.outcome h.nowUs h.counted h.distanceM with
    | (.error e, r) => (.error e, r)
    | (.ok (), r) =>
      if h.counted then
        let sinrDb := if 0.0 < attempt.sinr then 10.0 * Analysis.log10 attempt.sinr else Analysis.negInfinity
        (.ok (), { r with shared := { r.shared with trace := r.shared.trace.reception ⟨h.nowUs, h.onAir.node,
          r.node.id, h.onAir.tx.packet, h.onAir.tx.isRetransmission, h.distanceM, sinrDb, attempt.outcome⟩ } })
      else (.ok (), r)

def outcome? : Option ReceptionOutcome := h.attempt?.bind fun (attempt, _) => attempt.toOption.map (·.outcome)

/-- What is counted. -/
def tally? : Option (Tally α) :=
  h.outcome?.bind fun outcome => if h.counted then Tally.ofAttempt h.earlier outcome h.distanceM else none

end

variable [Analysis α] [RandomSource γ] {h : Hearing α γ} {r' : AtNode α γ}

theorem result_eq (h : Hearing α γ) :
    h.result = match h.attempt? with
      | none => (.ok (), h.before)
      | some attempted => h.finish attempted := by
  have hearlier : h.before.node.blocks[h.onAir.key]?.map (·.outcome) = h.earlier := by
    rw [earlier, Node.known, Option.map_map]
    rfl
  revert hearlier
  obtain ⟨setup, nowUs, heard, transmitting, countedHere, ⟨⟨a, powerMw⟩, i⟩, before⟩ := h
  intro hearlier
  cases powerMw with
  | none => rfl
  | some signalMw =>
    simp only [result, AtNode.receive, attempt?, finish, onAir, counted, distanceM] at hearlier ⊢
    rw [show (⟨a.node, a.tx.packet⟩ : BlockKey) = a.key from rfl, hearlier]
    generalize (Hearing.earlier _ : Option ReceptionOutcome) = earlier
    by_cases hsuccess : earlier = some .success
    · rw [if_pos hsuccess, if_pos hsuccess]
    · rw [if_neg hsuccess, if_neg hsuccess]
      dsimp only
      generalize (if transmitting = true then _ else _ :
        Except (SimulationError α) (Attempt α) × AtNode α γ) = attempted
      obtain ⟨_ | attempt, r⟩ := attempted
      · rfl
      · dsimp only
        generalize r.settle a.key earlier attempt.outcome nowUs _ _ = settled
        obtain ⟨_ | _, r⟩ := settled <;> rfl

omit [RandomSource γ] in
theorem of_finish {attempted : Except (SimulationError α) (Attempt α) × AtNode α γ}
    (hok : h.finish attempted = (.ok (), r')) :
    ∃ attempt r₁ r₂, attempted = (.ok attempt, r₁) ∧
      r₁.settle h.onAir.key h.earlier attempt.outcome h.nowUs h.counted h.distanceM = (.ok (), r₂) ∧
      r'.node = r₂.node ∧ r'.shared.stats = r₂.shared.stats := by
  unfold finish at hok
  split at hok
  · cases hok
  · rename_i attempt r₁
    split at hok
    · cases hok
    · rename_i r₂ hsettle
      refine ⟨attempt, r₁, r₂, rfl, hsettle, ?_⟩
      split at hok <;> cases hok <;> exact ⟨rfl, rfl⟩

theorem of_attempt {attempted : Except (SimulationError α) (Attempt α) × AtNode α γ}
    (hattempt : h.attempt? = some attempted) :
    h.transmitting = true ∧ attempted = (.ok ⟨.halfDuplex, 0.0⟩, h.before) ∨
      h.transmitting = false ∧ ∃ los signalMw,
        AtNode.listen h.setup h.before h.heard h.entry.2 h.onAir h.onAir.key h.nowUs los signalMw = attempted := by
  unfold attempt? at hattempt
  split at hattempt
  · cases hattempt
  · split at hattempt
    · cases hattempt
    · replace hattempt := Option.some.inj hattempt
      split at hattempt
      · rename_i hsends
        exact .inl ⟨hsends, hattempt.symm⟩
      · rename_i hlistens
        exact .inr ⟨Bool.eq_false_of_not_eq_true hlistens, _, _, hattempt⟩

theorem listened_of_attempt {attempt : Attempt α} {r₁ : AtNode α γ} (hattempt : h.attempt? = some (.ok attempt, r₁)) :
    AtNode.Listened (h.before.node.known h.onAir.key) h.nowUs (r₁.node.known h.onAir.key) ∧
      ∀ k, h.onAir.key ≠ k → r₁.node.known k = h.before.node.known k := by
  rcases of_attempt hattempt with ⟨-, hsends⟩ | ⟨-, los, signalMw, hlisten⟩
  · cases hsends
    exact ⟨.inl rfl, fun _ _ => rfl⟩
  · exact AtNode.known_listen hlisten

theorem id_of_result (h : Hearing α γ) : h.result.2.node.id = h.before.node.id := by
  obtain ⟨history, phase, blocks, hnode⟩ := (AtNode.receive_received h.setup h.before h.heard h.nowUs h.transmitting
    h.countedHere h.entry).node
  rw [result, hnode]

theorem known_of_result (hok : h.result = (.ok (), r')) (k : BlockKey) :
    r'.node.known k =
      match h.outcome? with
      | none => h.before.node.known k
      | some outcome =>
        if h.onAir.key = k then
          some (.after h.earlier outcome, ((h.before.node.known k).map Prod.snd).getD h.nowUs)
        else h.before.node.known k := by
  rw [result_eq] at hok
  unfold outcome?
  cases hattempt : h.attempt? with
  | none =>
    rw [hattempt] at hok
    cases hok
    rfl
  | some attempted =>
    rw [hattempt] at hok
    obtain ⟨attempt, r₁, r₂, rfl, hsettle, hnode, -⟩ := of_finish hok
    obtain ⟨hlistened, hother⟩ := listened_of_attempt hattempt
    have hsettled : r₂.node = (r₁.settled h.onAir.key h.earlier attempt.outcome h.nowUs).node := by
      obtain ⟨stats, rfl⟩ := AtNode.of_settle hsettle
      rfl
    rw [hnode, hsettled, earlier, AtNode.known_settled hlistened]
    change _ = if _ then _ else _
    by_cases hk : h.onAir.key = k
    · subst hk
      rw [if_pos rfl, if_pos rfl]
    · rw [if_neg hk, if_neg hk, hother k hk]

end Hearing

/-! ## The log of a run -/

/-- Hearings of one node, each of which finds what the one before it left. -/
inductive Hearing.Chain [Analysis α] [RandomSource γ] : AtNode α γ → List (Hearing α γ) → AtNode α γ → Prop where
  | nil (r : AtNode α γ) : Chain r [] r
  | snoc {r r' : AtNode α γ} {hs : List (Hearing α γ)} {h : Hearing α γ} :
      Chain r hs h.before → h.result = (.ok (), r') → Chain r (hs ++ [h]) r'

namespace World

variable [Analysis α] [RandomSource γ] {onAir : List (OnAir α)} {id : Nat} {w : World α γ} {h : Hearing α γ}

/-- The hearings of one receiver. -/
def hearingsAt (onAir : List (OnAir α)) (id : Nat) (w : World α γ) : List (Hearing α γ) :=
  match w.node? id with
  | none => []
  | some node =>
    let (heard, shared) := heardAt node onAir w.shared
    let transmitting := onAir.any fun a => a.node = id
    let counted := w.setup.region.isInside .rx node.position
    logEach (AtNode.receive w.setup heard w.nowUs transmitting counted)
      (fun entry r => [⟨w.setup, w.nowUs, heard, transmitting, counted, entry, r⟩]) heard.zipIdx ⟨node, shared⟩

/-- The hearings of a reception. -/
def hearings (w : World α γ) : List (Hearing α γ) :=
  match w.onAir with
  | [] => []
  | onAir => logEach (receiveAt onAir) (hearingsAt onAir) (w.nodes.map (·.id)) { w with onAir := [] }

def heardIn (turns : List (Turn α γ)) : List (Hearing α γ) :=
  (turnsOf .reception turns).flatMap fun t => t.before.hearings

theorem heardAt_onAir (n : Node α) (onAir : List (OnAir α)) (s : Shared α γ) :
    (heardAt n onAir s).1.map (·.onAir) = onAir := by
  induction onAir generalizing s with
  | nil => rfl
  | cons a rest ih =>
    unfold heardAt
    split
    · exact congrArg (a :: ·) (ih s)
    · exact congrArg (a :: ·) (ih _)

theorem heardAt_powerMw (n : Node α) (onAir : List (OnAir α)) (s : Shared α γ) :
    ∀ x ∈ (heardAt n onAir s).1, x.powerMw = none ↔ x.onAir.node = n.id := by
  induction onAir generalizing s with
  | nil => simp [heardAt]
  | cons a rest ih =>
    unfold heardAt
    split
    · exact List.forall_mem_cons.2 ⟨by simpa, ih s⟩
    · exact List.forall_mem_cons.2 ⟨by simpa, ih _⟩

/-- A hearing of a node among all transmissions of the slot. -/
structure HeardAmong (onAir : List (OnAir α)) (id nowUs : Nat) (h : Hearing α γ) : Prop where
  mem : h.onAir ∈ onAir
  receiver : h.before.node.id = id
  nowUs : h.nowUs = nowUs
  heard : h.heard.map (·.onAir) = onAir
  own : h.entry.1.powerMw = none ↔ h.onAir.node = id

theorem of_mem_hearingsAt (hh : h ∈ hearingsAt onAir id w) : HeardAmong onAir id w.nowUs h := by
  unfold hearingsAt at hh
  split at hh
  · cases hh
  · rename_i n hn
    have hstep (heard : List (Heard α)) (transmitting counted : Bool) (entry : Heard α × Nat) (r r' : AtNode α γ)
        (hr : r.node.id = n.id)
        (hok : AtNode.receive w.setup heard w.nowUs transmitting counted entry r = (.ok (), r')) :
        r'.node.id = n.id := by
      rw [← hr, ← Hearing.id_of_result ⟨w.setup, w.nowUs, heard, transmitting, counted, entry, r⟩, Hearing.result,
        hok]
    obtain ⟨entry, hentry, r, hr, hh⟩ := mem_of_logEach (hstep _ _ _) rfl hh
    rw [List.mem_singleton] at hh
    subst hh
    have hid := (mem_of_node? hn).2
    have hmem := List.fst_mem_of_mem_zipIdx hentry
    have honAir := heardAt_onAir n onAir w.shared
    refine ⟨?_, hr.trans hid, rfl, honAir, ?_⟩
    · rw [← honAir]
      exact List.mem_map_of_mem hmem
    · rw [← hid]
      exact heardAt_powerMw n onAir w.shared _ hmem

theorem of_receiveAt {w' : World α γ} {n : Node α} (hn : w.node? id = some n)
    (hok : receiveAt onAir id w = (.ok (), w')) : ∃ r,
      Hearing.Chain ⟨n, (heardAt n onAir w.shared).2⟩ (hearingsAt onAir id w) r ∧
      (hearingsAt onAir id w).map (·.entry) = (heardAt n onAir w.shared).1.zipIdx ∧
      w' = { w.setNode (r.forgetBlocks w.nowUs).node with shared := r.shared } := by
  unfold receiveAt at hok
  unfold hearingsAt
  rw [hn] at hok ⊢
  dsimp only at hok ⊢
  split at hok
  · cases hok
  · rename_i r hsteps
    cases hok
    refine ⟨r, ?_, ?_, rfl⟩
    · refine logEach_ok (P := fun hs r => Hearing.Chain _ hs r) (fun done entry r r' hchain hresult => ?_) (.nil _)
        hsteps
      exact hchain.snoc (h := ⟨_, _, _, _, _, entry, r⟩) hresult
    · rw [map_logEach (g := fun entry => [entry]) (P := fun _ => True) (fun _ _ _ _ _ _ => ⟨trivial, rfl⟩) trivial
        hsteps]
      simp

theorem map_onAir_hearingsAt {w' : World α γ} {n : Node α} (hn : w.node? id = some n)
    (hok : receiveAt onAir id w = (.ok (), w')) : (hearingsAt onAir id w).map (·.onAir) = onAir := by
  obtain ⟨r, -, hentries, -⟩ := of_receiveAt hn hok
  calc (hearingsAt onAir id w).map (·.onAir)
      = (((hearingsAt onAir id w).map (·.entry)).map Prod.fst).map (·.onAir) := by
        rw [List.map_map, List.map_map]
        rfl
    _ = onAir := by rw [hentries, List.zipIdx_map_fst, heardAt_onAir]

theorem receiveAt_nowUs (onAir : List (OnAir α)) (id : Nat) (w : World α γ) :
    (receiveAt onAir id w).2.nowUs = w.nowUs := by
  rcases receiveAt_received onAir id w with hsame | ⟨n, r, -, -, hset⟩
  · rw [hsame]
  · rw [hset]
    rfl

theorem of_mem_hearings (hh : h ∈ w.hearings) : HeardAmong w.onAir h.before.node.id w.nowUs h := by
  unfold hearings at hh
  split at hh
  · cases hh
  · obtain ⟨id, -, w', hw', hh⟩ := mem_of_logEach (P := fun w' : World α γ => w'.nowUs = w.nowUs)
      (fun id w' w'' hw' hok => by rw [← hw', ← receiveAt_nowUs w.onAir id w', hok])
      (show World.nowUs { w with onAir := [] } = w.nowUs from rfl) hh
    have hamong := of_mem_hearingsAt hh
    rwa [hw', ← hamong.receiver] at hamong

theorem of_receiveAll {w' : World α γ} (hok : w.receiveAll = (.ok (), w')) :
    (w.onAir = [] ∧ w' = w ∧ w.hearings = []) ∨
      w.onAir ≠ [] ∧ stepEach (receiveAt w.onAir) (w.nodes.map (·.id)) { w with onAir := [] } = (.ok (), w') ∧
        w.hearings = logEach (receiveAt w.onAir) (hearingsAt w.onAir) (w.nodes.map (·.id)) { w with onAir := [] } := by
  unfold receiveAll at hok
  unfold hearings
  cases honAir : w.onAir with
  | nil =>
    rw [honAir] at hok
    cases hok
    exact .inl ⟨rfl, rfl, rfl⟩
  | cons a rest =>
    rw [honAir] at hok
    exact .inr ⟨List.cons_ne_nil a rest, hok, rfl⟩

theorem heardIn_append (turns later : List (Turn α γ)) : heardIn (turns ++ later) = heardIn turns ++ heardIn later := by
  rw [heardIn, turnsOf, List.filter_append, List.flatMap_append]
  rfl

theorem heardIn_snoc (turns : List (Turn α γ)) (t : Turn α γ) :
    heardIn (turns ++ [t]) = heardIn turns ++ if t.event = .reception then t.before.hearings else [] := by
  unfold heardIn
  rw [turnsOf_snoc]
  split
  · rw [List.flatMap_append, List.flatMap_singleton]
  · rw [List.append_nil]

end World

end Sidelink
