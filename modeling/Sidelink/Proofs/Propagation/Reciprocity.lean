import Mathlib.Data.Set.Card
import Mathlib.Data.Sym.Sym2
import Sidelink.Proofs.Propagation.Link
import Sidelink.Proofs.Scalar.Rational

/-!
# Reciprocal links

Which node of a link is named first makes no difference to what is evaluated, stored or drawn. A table has a link for
each pair of nodes that was evaluated and of which none was forgotten since, and it draws nothing for a pair it has.
-/

namespace Sidelink

/-! ## Pairs without order -/

namespace NodePair

variable {p q : NodePair} {a b c d : Nat}

/-- The nodes of a pair. -/
def ends (p : NodePair) : Sym2 Nat := s(p.low, p.high)

/-- The lower node stands first, as in every pair that is made of two nodes. -/
def Ordered (p : NodePair) : Prop := p.low ≤ p.high

theorem of_comm (a b : Nat) : NodePair.of a b = NodePair.of b a := by
  unfold NodePair.of
  rcases Nat.lt_trichotomy a b with hlt | rfl | hlt
  · rw [if_pos (Nat.le_of_lt hlt), if_neg (Nat.not_le.2 hlt)]
  · rfl
  · rw [if_neg (Nat.not_le.2 hlt), if_pos (Nat.le_of_lt hlt)]

theorem ends_of (a b : Nat) : (NodePair.of a b).ends = s(a, b) := by
  unfold NodePair.of
  split
  · rfl
  · exact Sym2.eq_swap

theorem ordered_of (a b : Nat) : (NodePair.of a b).Ordered := by
  unfold NodePair.of Ordered
  split
  · assumption
  · exact Nat.le_of_not_le ‹_›

theorem Ordered.of_ends (h : p.Ordered) : NodePair.of p.low p.high = p := if_pos h

theorem of_eq_iff : NodePair.of a b = NodePair.of c d ↔ s(a, b) = s(c, d) := by
  constructor
  · intro h
    have hends := congrArg ends h
    rwa [ends_of, ends_of] at hends
  · intro h
    rcases Sym2.eq_iff.1 h with ⟨rfl, rfl⟩ | ⟨rfl, rfl⟩
    · rfl
    · exact of_comm a b

theorem Ordered.eq_of_ends (hp : p.Ordered) (hq : q.Ordered) (h : p.ends = q.ends) : p = q := by
  rw [← hp.of_ends, ← hq.of_ends]
  exact of_eq_iff.2 h

end NodePair

namespace LinkTable

variable {α : Type} {t : LinkTable α}

/-- Every stored pair has its lower node first. -/
def Ordered (t : LinkTable α) : Prop := ∀ pair ∈ t.links, pair.Ordered

/-- The table has a link between two nodes. -/
def Has (t : LinkTable α) (a b : Nat) : Prop := NodePair.of a b ∈ t.links

theorem has_iff {a b : Nat} : t.Has a b ↔ ∃ l, t.get? a b = some l := by
  unfold Has get?
  rw [Std.TreeMap.mem_iff_isSome_getElem?, Option.isSome_iff_exists]

theorem get?_congr {a b c d : Nat} (h : s(a, b) = s(c, d)) : t.get? a b = t.get? c d := by
  unfold get?
  rw [NodePair.of_eq_iff.2 h]

theorem get?_comm (t : LinkTable α) (a b : Nat) : t.get? a b = t.get? b a := get?_congr Sym2.eq_swap

theorem get?_forget (t : LinkTable α) (id a b : Nat) :
    (t.forget id).get? a b = if a = id ∨ b = id then none else t.get? a b := by
  unfold forget get?
  rw [Std.TreeMap.getElem?_filter']
  split
  · rename_i hend
    have hmentions := NodePair.mentions_of.2 hend
    simp [hmentions]
  · rename_i hend
    have hmentions : (NodePair.of a b).mentions id = false :=
      Bool.eq_false_iff.2 fun hmentions => hend (NodePair.mentions_of.1 hmentions)
    cases t.links[NodePair.of a b]? with
    | none => rfl
    | some l => simp [hmentions]

theorem has_forget {id a b : Nat} : (t.forget id).Has a b ↔ t.Has a b ∧ ¬(a = id ∨ b = id) := by
  rw [has_iff, has_iff, get?_forget]
  split
  · rename_i hend
    simp [hend]
  · rename_i hend
    simp [hend]

theorem Ordered.forget (h : t.Ordered) (id : Nat) : (t.forget id).Ordered := by
  intro pair hpair
  exact h pair (Std.TreeMap.mem_filter.1 hpair).1

/-! ## Counting -/

theorem count_eq_ncard (h : t.Ordered) : t.count = {p : Sym2 Nat | ∃ a b, p = s(a, b) ∧ t.Has a b}.ncard := by
  have hset : {p : Sym2 Nat | ∃ a b, p = s(a, b) ∧ t.Has a b} = ↑(t.links.keys.map NodePair.ends).toFinset := by
    ext p
    rw [Set.mem_ofPred_eq, Finset.mem_coe, List.mem_toFinset, List.mem_map]
    constructor
    · rintro ⟨a, b, rfl, hhas⟩
      exact ⟨NodePair.of a b, Std.TreeMap.mem_keys.2 hhas, NodePair.ends_of a b⟩
    · rintro ⟨pair, hpair, rfl⟩
      have hmem := Std.TreeMap.mem_keys.1 hpair
      refine ⟨pair.low, pair.high, rfl, ?_⟩
      unfold Has
      rwa [(h pair hmem).of_ends]
  have hnodup : (t.links.keys.map NodePair.ends).Nodup := by
    refine List.Nodup.map_on ?_ Std.TreeMap.nodup_keys
    intro p hp q hq hends
    exact (h p (Std.TreeMap.mem_keys.1 hp)).eq_of_ends (h q (Std.TreeMap.mem_keys.1 hq)) hends
  rw [hset, Set.ncard_coe_finset, List.toFinset_card_of_nodup hnodup, List.length_map, Std.TreeMap.length_keys]
  rfl

/-! ## Calls -/

/-- What can be done with a table. -/
inductive Call (α : Type) where
  | update (a : Nat) (posA : Point α) (b : Nat) (posB : Point α)
  | loss (a : Nat) (posA : Point α) (b : Nat) (posB : Point α)
  | refresh (position? : Nat → Option (Point α))
  | forget (id : Nat)

/-- The call asks for the loss between two nodes. -/
def Call.Evaluates : Call α → Sym2 Nat → Prop
  | .update a _ b _, p => p = s(a, b)
  | .loss a _ b _, p => p = s(a, b)
  | .refresh _, _ => False
  | .forget _, _ => False

/-- The call forgets one of two nodes. -/
def Call.Forgets : Call α → Sym2 Nat → Prop
  | .forget id, p => id ∈ p
  | _, _ => False

/-- The call evaluates the stored link of two nodes anew, or forgets one of them. -/
def Call.Touches : Call α → Sym2 Nat → Prop
  | .update a _ b _, p => p = s(a, b)
  | .loss .., _ => False
  | .refresh position?, p => ∀ id ∈ p, position? id ≠ none
  | .forget id, p => id ∈ p

/-- The loss between two nodes was asked for, and no later call forgot one of them. -/
def Stands (calls : List (Call α)) (p : Sym2 Nat) : Prop :=
  ∃ before c after, calls = before ++ c :: after ∧ c.Evaluates p ∧ ∀ c' ∈ after, ¬c'.Forgets p

theorem not_stands_nil {p : Sym2 Nat} : ¬Stands ([] : List (Call α)) p := by
  rintro ⟨before, c, after, hcalls, -, -⟩
  simp at hcalls

theorem stands_snoc {calls : List (Call α)} {c : Call α} {p : Sym2 Nat} :
    Stands (calls ++ [c]) p ↔ c.Evaluates p ∨ (Stands calls p ∧ ¬c.Forgets p) := by
  constructor
  · rintro ⟨before, c', after, hcalls, hasked, hkept⟩
    rcases List.eq_nil_or_concat after with rfl | ⟨init, last, rfl⟩
    · obtain ⟨-, hlast⟩ := List.append_inj' hcalls rfl
      cases hlast
      exact .inl hasked
    · rw [List.concat_eq_append, ← List.cons_append, ← List.append_assoc] at hcalls
      obtain ⟨hinit, hlast⟩ := List.append_inj' hcalls rfl
      cases hlast
      refine .inr ⟨⟨before, c', init, hinit, hasked, ?_⟩, ?_⟩
      · intro c'' hc''
        exact hkept c'' (by simp [hc''])
      · exact hkept c (by simp)
  · rintro (hasked | ⟨⟨before, c', after, rfl, hasked, hkept⟩, hlast⟩)
    · exact ⟨calls, c, [], rfl, hasked, by simp⟩
    · refine ⟨before, c', after ++ [c], by simp, hasked, ?_⟩
      intro c'' hc''
      rcases List.mem_append.1 hc'' with hc'' | hc''
      · exact hkept c'' hc''
      · rw [List.mem_singleton.1 hc'']
        exact hlast

/-! ## Evaluating one link -/

variable [Analysis α] {γ : Type} [RandomSource γ] {t' : LinkTable α} {a b c d : Nat} {posA posB : Point α} {g : γ}
  {l : LinkState α}

theorem update_comm (hne : a ≠ b) : t.update b posB a posA g = t.update a posA b posB g := by
  unfold update
  rw [NodePair.of_comm b a]
  rcases Nat.lt_or_gt_of_ne hne with hlt | hlt
  · rw [if_neg (Nat.not_le.2 hlt), if_pos (Nat.le_of_lt hlt)]
  · rw [if_pos (Nat.le_of_lt hlt), if_neg (Nat.not_le.2 hlt)]

theorem loss_comm (hne : a ≠ b) : t.loss b posB a posA g = t.loss a posA b posB g := by
  unfold loss
  rw [get?_comm t b a, update_comm hne]

theorem update_links : (t.update a posA b posB g).2.1.links =
    t.links.insert (NodePair.of a b) (t.update a posA b posB g).1 := rfl

theorem get?_update : (t.update a posA b posB g).2.1.get? c d =
    if s(a, b) = s(c, d) then some (t.update a posA b posB g).1 else t.get? c d := by
  unfold get?
  rw [update_links, Std.TreeMap.getElem?_insert]
  simp only [Std.LawfulEqCmp.compare_eq_iff_eq, NodePair.of_eq_iff]

theorem has_update : (t.update a posA b posB g).2.1.Has c d ↔ s(a, b) = s(c, d) ∨ t.Has c d := by
  unfold Has
  rw [update_links, Std.TreeMap.mem_insert, Std.LawfulEqCmp.compare_eq_iff_eq, NodePair.of_eq_iff]

theorem loss_of_get? (h : t.get? a b = some l) : t.loss a posA b posB g = (l.lossDb, t, g) := by
  unfold loss
  rw [h]

theorem loss_of_get?_none (h : t.get? a b = none) : t.loss a posA b posB g =
    ((t.update a posA b posB g).1.lossDb, (t.update a posA b posB g).2) := by
  unfold loss
  rw [h]

theorem exists_get?_loss : ∃ l, (t.loss a posA b posB g).2.1.get? a b = some l ∧
    (t.loss a posA b posB g).1 = l.lossDb := by
  cases hget : t.get? a b with
  | none =>
    rw [loss_of_get?_none hget]
    exact ⟨_, by rw [get?_update, if_pos rfl], rfl⟩
  | some l =>
    rw [loss_of_get? hget]
    exact ⟨l, hget, rfl⟩

theorem get?_loss_of_get? (h : t.get? c d = some l) : (t.loss a posA b posB g).2.1.get? c d = some l := by
  cases hget : t.get? a b with
  | none =>
    rw [loss_of_get?_none hget, get?_update]
    split
    · rename_i hpair
      rw [get?_congr hpair, h] at hget
      cases hget
    · exact h
  | some l' =>
    rw [loss_of_get? hget]
    exact h

theorem has_loss : (t.loss a posA b posB g).2.1.Has c d ↔ s(a, b) = s(c, d) ∨ t.Has c d := by
  cases hget : t.get? a b with
  | none =>
    rw [loss_of_get?_none hget]
    exact has_update
  | some l =>
    rw [loss_of_get? hget]
    constructor
    · intro h
      exact .inr h
    · rintro (hpair | h)
      · rw [has_iff, ← get?_congr hpair]
        exact ⟨l, hget⟩
      · exact h

theorem Ordered.update (h : t.Ordered) : (t.update a posA b posB g).2.1.Ordered := by
  intro pair hpair
  rw [update_links, Std.TreeMap.mem_insert, Std.LawfulEqCmp.compare_eq_iff_eq] at hpair
  rcases hpair with rfl | hpair
  · exact NodePair.ordered_of a b
  · exact h pair hpair

theorem Ordered.loss (h : t.Ordered) : (t.loss a posA b posB g).2.1.Ordered := by
  cases hget : t.get? a b with
  | none =>
    rw [loss_of_get?_none hget]
    exact h.update
  | some l =>
    rw [loss_of_get? hget]
    exact h

/-! ## Evaluating every link anew -/

variable {position? : Nat → Option (Point α)}

/-- What holds of a table holds after its links are evaluated anew, if each evaluation of a stored link keeps it. -/
theorem refresh_induction {P : LinkTable α → Prop} (h : P t)
    (hstep : ∀ t', P t' → ∀ pair ∈ t.links, ∀ p q, position? pair.low = some p → position? pair.high = some q →
      ∀ g' : γ, P (t'.update pair.low p pair.high q g').2.1) : P (t.refresh position? g).1 := by
  unfold refresh
  refine List.foldlRecOn (motive := fun s : LinkTable α × γ => P s.1) t.links.keys _ h fun s hs pair hpair => ?_
  dsimp only
  split
  · rename_i p q hlow hhigh
    exact hstep s.1 hs pair (Std.TreeMap.mem_keys.1 hpair) p q hlow hhigh s.2
  · exact hs

theorem Ordered.refresh (h : t.Ordered) : (t.refresh position? g).1.Ordered := by
  apply refresh_induction h
  intro t' ht' pair _ p q _ _ g'
  exact ht'.update

theorem has_refresh (h : t.Ordered) : (t.refresh position? g).1.Has c d ↔ t.Has c d := by
  apply refresh_induction (P := fun t' => t'.Has c d ↔ t.Has c d) Iff.rfl
  intro t' ht' pair hpair p q _ _ g'
  rw [has_update, ht']
  constructor
  · rintro (hsame | hhas)
    · -- the link that is evaluated is one of the table
      unfold Has
      rwa [← NodePair.of_eq_iff.2 hsame, (h pair hpair).of_ends]
    · exact hhas
  · intro hhas
    exact .inr hhas

theorem get?_refresh_of_unknown {id : Nat} (hid : id ∈ s(c, d)) (hunknown : position? id = none) :
    (t.refresh position? g).1.get? c d = t.get? c d := by
  apply refresh_induction (P := fun t' => t'.get? c d = t.get? c d) rfl
  intro t' ht' pair _ p q hlow hhigh g'
  rw [get?_update, if_neg, ht']
  intro hsame
  rw [← hsame, Sym2.mem_iff] at hid
  rcases hid with rfl | rfl
  · rw [hunknown] at hlow
    cases hlow
  · rw [hunknown] at hhigh
    cases hhigh

/-! ## Runs -/

section

variable (γ)

/-- A call with any random outcome. -/
inductive Step (t : LinkTable α) : Call α → LinkTable α → Prop where
  | update {a b : Nat} {posA posB : Point α} (g : γ) :
      Step t (.update a posA b posB) (t.update a posA b posB g).2.1
  | loss {a b : Nat} {posA posB : Point α} (g : γ) : Step t (.loss a posA b posB) (t.loss a posA b posB g).2.1
  | refresh {position? : Nat → Option (Point α)} (g : γ) : Step t (.refresh position?) (t.refresh position? g).1
  | forget {id : Nat} : Step t (.forget id) (t.forget id)

inductive Run (t : LinkTable α) : List (Call α) → LinkTable α → Prop where
  | none : Run t [] t
  | snoc {calls : List (Call α)} {t' t'' : LinkTable α} {c : Call α} : Run t calls t' → Step γ t' c t'' →
      Run t (calls ++ [c]) t''

end

/-! ## One call -/

variable {call : Call α} {calls : List (Call α)} {params : PropagationParams α}

theorem Step.ordered (h : Step γ t call t') (hordered : t.Ordered) : t'.Ordered := by
  cases h with
  | update => exact hordered.update
  | loss => exact hordered.loss
  | refresh => exact hordered.refresh
  | forget => exact hordered.forget _

theorem Step.has_iff (h : Step γ t call t') (hordered : t.Ordered) :
    t'.Has a b ↔ call.Evaluates s(a, b) ∨ (t.Has a b ∧ ¬call.Forgets s(a, b)) := by
  cases h with
  | update =>
    rw [has_update]
    simp [Call.Evaluates, Call.Forgets, eq_comm]
  | loss =>
    rw [has_loss]
    simp [Call.Evaluates, Call.Forgets, eq_comm]
  | refresh =>
    rw [has_refresh hordered]
    simp [Call.Evaluates, Call.Forgets]
  | forget =>
    rw [has_forget]
    simp [Call.Evaluates, Call.Forgets, eq_comm]

theorem Step.get?_of_not_touches (h : Step γ t call t') (hget : t.get? a b = some l)
    (htouches : ¬call.Touches s(a, b)) : t'.get? a b = some l := by
  cases h with
  | update =>
    rw [get?_update, if_neg, hget]
    intro hsame
    exact htouches hsame.symm
  | loss => exact get?_loss_of_get? hget
  | refresh =>
    simp only [Call.Touches, not_forall, not_not] at htouches
    obtain ⟨id, hid, hunknown⟩ := htouches
    rw [get?_refresh_of_unknown hid hunknown, hget]
  | forget =>
    rw [get?_forget, if_neg, hget]
    intro hend
    exact htouches (Sym2.mem_iff.2 (hend.imp Eq.symm Eq.symm))

/-! ## Any number of calls -/

theorem Run.ordered (h : Run γ (ofParams params) calls t) : t.Ordered := by
  induction h with
  | none =>
    intro pair hpair
    simp [ofParams] at hpair
  | snoc _ hstep ih => exact hstep.ordered ih

theorem Run.has_iff (h : Run γ (ofParams params) calls t) : t.Has a b ↔ Stands calls s(a, b) := by
  induction h with
  | none => simp [Has, ofParams, not_stands_nil]
  | snoc hrun hstep ih => rw [stands_snoc, hstep.has_iff hrun.ordered, ih]

theorem Run.get?_of_not_touches (h : Run γ t calls t') (hget : t.get? a b = some l)
    (htouches : ∀ c ∈ calls, ¬c.Touches s(a, b)) : t'.get? a b = some l := by
  induction h with
  | none => exact hget
  | snoc _ hstep ih =>
    have hbefore := ih fun c hc => htouches c (List.mem_append_left _ hc)
    exact hstep.get?_of_not_touches hbefore (htouches _ (by simp))

theorem Run.count_eq (h : Run γ (ofParams params) calls t) : t.count = {p | Stands calls p}.ncard := by
  rw [count_eq_ncard h.ordered]
  congr 1
  ext p
  induction p using Sym2.ind with
  | h a b =>
    constructor
    · rintro ⟨c, d, hsame, hhas⟩
      rw [Set.mem_ofPred_eq, hsame]
      exact h.has_iff.1 hhas
    · intro hstands
      exact ⟨a, b, rfl, h.has_iff.2 hstands⟩

/-- Naming the two nodes the other way round gives the same value, the same table and the same random state. The table
counts the pairs that were asked for and not forgotten since. The loss that is given is that of the stored link, and
once a link is stored it is given in both directions, without a draw, until the link is touched. Forgetting a node
removes the links of that node and no others. -/
theorem reciprocal_and_cached (h : Run γ (ofParams params) calls t) :
    (∀ (a b : Nat) (posA posB : Point α) (g : γ), a ≠ b →
      t.update b posB a posA g = t.update a posA b posB g ∧ t.loss b posB a posA g = t.loss a posA b posB g) ∧
    t.count = {p | Stands calls p}.ncard ∧
    (∀ (a b : Nat) (posA posB : Point α) (g : γ),
      (t.update a posA b posB g).2.1.get? a b = some (t.update a posA b posB g).1 ∧
      ∃ l, (t.loss a posA b posB g).2.1.get? a b = some l ∧ (t.loss a posA b posB g).1 = l.lossDb) ∧
    (∀ a b, Stands calls s(a, b) → ∃ l, t.get? a b = some l ∧
      ∀ later t', Run γ t later t' → (∀ c ∈ later, ¬c.Touches s(a, b)) → ∀ (posA posB : Point α) (g : γ),
        t'.loss a posA b posB g = (l.lossDb, t', g) ∧ t'.loss b posB a posA g = (l.lossDb, t', g)) ∧
    ∀ id a b, (t.forget id).get? a b = if a = id ∨ b = id then none else t.get? a b := by
  refine ⟨?_, h.count_eq, ?_, ?_, get?_forget t⟩
  · intro a b posA posB g hne
    exact ⟨update_comm hne, loss_comm hne⟩
  · intro a b posA posB g
    exact ⟨by rw [get?_update, if_pos rfl], exists_get?_loss⟩
  · intro a b hstands
    obtain ⟨l, hget⟩ := has_iff.1 (h.has_iff.2 hstands)
    refine ⟨l, hget, ?_⟩
    intro later t' hlater htouches posA posB g
    have hkept := hlater.get?_of_not_touches hget htouches
    exact ⟨loss_of_get? hkept, loss_of_get? (by rw [get?_comm, hkept])⟩

/-! ## A run -/

def streetEnd : Point ℚ := ⟨0, 0⟩

def streetCorner : Point ℚ := ⟨90, 0⟩

def twoCalls : List (Call ℚ) := [.update 7 streetEnd 3 streetCorner, .loss 3 streetCorner 9 streetEnd]

def oneLink : LinkTable ℚ := ((ofParams (.ofScenario .urban)).update 7 streetEnd 3 streetCorner Zeros.zeros).2.1

def twoLinks : LinkTable ℚ := (oneLink.loss 3 streetCorner 9 streetEnd Zeros.zeros).2.1

theorem twoLinks_run : Run Zeros (ofParams (.ofScenario .urban)) twoCalls twoLinks := by
  have hfirst : Run Zeros (ofParams (.ofScenario .urban)) ([] ++ [.update 7 streetEnd 3 streetCorner]) oneLink := by
    unfold oneLink
    exact .snoc .none (.update Zeros.zeros)
  have hsecond : Step Zeros oneLink (.loss 3 streetCorner 9 streetEnd) twoLinks := by
    unfold twoLinks
    exact .loss Zeros.zeros
  exact hfirst.snoc hsecond

theorem twoCalls_stands : Stands twoCalls s(7, 3) := by
  refine ⟨[], _, [.loss 3 streetCorner 9 streetEnd], rfl, rfl, ?_⟩
  simp [Call.Forgets]

/-- The two links are counted. The first one is named in both directions, and its loss stays when the other node of the
second one is forgotten. -/
theorem reciprocal_and_cached_case :
    twoLinks.count = {p | Stands twoCalls p}.ncard ∧
      twoLinks.update 3 streetCorner 7 streetEnd Zeros.zeros = twoLinks.update 7 streetEnd 3 streetCorner .zeros ∧
      ∃ l, twoLinks.get? 7 3 = some l ∧
        (twoLinks.forget 9).loss 3 streetEnd 7 streetEnd Zeros.zeros = (l.lossDb, twoLinks.forget 9, .zeros) := by
  obtain ⟨hswap, hcount, -, hcached, -⟩ := reciprocal_and_cached twoLinks_run
  obtain ⟨l, hget, hlater⟩ := hcached 7 3 twoCalls_stands
  have hforget : Run Zeros twoLinks [.forget 9] (twoLinks.forget 9) := Run.none.snoc .forget
  have htouches : ∀ c ∈ [Call.forget (α := ℚ) 9], ¬c.Touches s(7, 3) := by simp [Call.Touches]
  refine ⟨hcount, (hswap 7 3 streetEnd streetCorner .zeros (by decide)).1, l, hget, ?_⟩
  exact (hlater _ _ hforget htouches streetEnd streetEnd .zeros).2

end LinkTable

end Sidelink
