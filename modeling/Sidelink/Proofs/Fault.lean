import Sidelink.Fault

/-!
# Results within words

A computation on counts gives the result that it has on numbers of any size, or it ends in a fault because some count
does not fit its word.
-/

namespace Sidelink

variable {ε β δ : Type}

theorem ok_bind (b : β) (k : β → Except ε δ) : (Except.ok b >>= k) = k b := rfl

theorem ok_of_bind {x : Except ε β} {k : β → Except ε δ} {d : δ} (h : x >>= k = .ok d) :
    ∃ b, x = .ok b ∧ k b = .ok d := by
  cases x with
  | error e => cases h
  | ok b => exact ⟨b, rfl, h⟩

theorem error_of_bind {x : Except ε β} {k : β → Except ε δ} {e : ε} (h : x >>= k = .error e) :
    x = .error e ∨ ∃ b, x = .ok b ∧ k b = .error e := by
  cases x with
  | error e' =>
    cases h
    exact .inl rfl
  | ok b => exact .inr ⟨b, rfl, h⟩

theorem ok_of_map {x : Except ε β} {f : β → δ} {d : δ} (h : x.map f = .ok d) : ∃ b, x = .ok b ∧ f b = d := by
  cases x with
  | error e => cases h
  | ok b => exact ⟨b, rfl, Except.ok.inj h⟩

theorem ok_of_mapError {ε' : Type} {x : Except ε β} {f : ε → ε'} {b : β} (h : x.mapError f = .ok b) : x = .ok b := by
  cases x with
  | error e => cases h
  | ok b' => cases h; rfl

theorem ok_of_toOption {x : Except ε β} {b : β} (h : x.toOption = some b) : x = .ok b := by
  cases x with
  | error e => cases h
  | ok b' => cases h; rfl

theorem ok_of_mapM {f : β → Except ε δ} {xs : List β} {ys : List δ} (h : xs.mapM f = .ok ys) :
    ∀ x ∈ xs, ∃ y, f x = .ok y := by
  induction xs generalizing ys with
  | nil => simp
  | cons x rest ih =>
    rw [List.mapM_cons] at h
    obtain ⟨y, hy, h⟩ := ok_of_bind h
    obtain ⟨ys', hys', -⟩ := ok_of_bind h
    intro z hz
    rcases List.mem_cons.1 hz with rfl | hz
    · exact ⟨y, hy⟩
    · exact ih hys' z hz

theorem of_mem_mapM {f : β → Except ε δ} {xs : List β} {ys : List δ} (h : xs.mapM f = .ok ys) :
    ∀ y ∈ ys, ∃ x ∈ xs, f x = .ok y := by
  induction xs generalizing ys with
  | nil => cases h; simp
  | cons x rest ih =>
    rw [List.mapM_cons] at h
    obtain ⟨y, hy, h⟩ := ok_of_bind h
    obtain ⟨ys', hys', h⟩ := ok_of_bind h
    cases h
    intro z hz
    rcases List.mem_cons.1 hz with rfl | hz
    · exact ⟨x, by simp, hy⟩
    · obtain ⟨x', hx', hz⟩ := ih hys' z hz
      exact ⟨x', by simp [hx'], hz⟩

theorem ok_of_mapM_perm {f : β → Except ε δ} {xs xs' : List β} {ys : List δ} (hperm : xs.Perm xs')
    (h : xs.mapM f = .ok ys) : ∃ ys', xs'.mapM f = .ok ys' ∧ ys.Perm ys' := by
  induction hperm generalizing ys with
  | nil => exact ⟨ys, h, .refl _⟩
  | cons x _ ih =>
    rw [List.mapM_cons] at h ⊢
    obtain ⟨y, hy, h⟩ := ok_of_bind h
    obtain ⟨rest, hrest, h⟩ := ok_of_bind h
    cases h
    obtain ⟨rest', hrest', hperm⟩ := ih hrest
    exact ⟨y :: rest', by rw [hy, hrest']; rfl, hperm.cons y⟩
  | swap x x' rest =>
    simp only [List.mapM_cons] at h ⊢
    obtain ⟨y', hy', h⟩ := ok_of_bind h
    obtain ⟨tail, htail, h⟩ := ok_of_bind h
    obtain ⟨y, hy, htail⟩ := ok_of_bind htail
    obtain ⟨rest', hrest', htail⟩ := ok_of_bind htail
    cases htail
    cases h
    exact ⟨y :: y' :: rest', by rw [hy, hy', hrest']; rfl, .swap _ _ _⟩
  | trans _ _ ih ih' =>
    obtain ⟨zs, hzs, hperm⟩ := ih h
    obtain ⟨ys', hys', hperm'⟩ := ih' hzs
    exact ⟨ys', hys', hperm.trans hperm'⟩

variable [OfFault ε]

theorem of_word16 {n m : Nat} (h : word16 (ε := ε) n = .ok m) : m = n ∧ n < limit16 := by
  unfold word16 at h
  split at h
  · cases h
    exact ⟨rfl, ‹_›⟩
  · cases h

theorem of_word64 {n m : Nat} (h : word64 (ε := ε) n = .ok m) : m = n ∧ n < limit64 := by
  unfold word64 at h
  split at h
  · cases h
    exact ⟨rfl, ‹_›⟩
  · cases h

theorem of_entry {xs : List β} {i : Nat} {x : β} (h : entry (ε := ε) xs i = .ok x) : xs[i]? = some x := by
  unfold entry at h
  split at h
  · cases h
    assumption
  · cases h

/-- The computation gives `b`, or it ends in a fault and the counts do not fit. -/
def Gives (x : Except ε β) (b : β) (fits : Prop) : Prop :=
  x = .ok b ∨ ((∃ f, x = .error (OfFault.ofFault f)) ∧ ¬fits)

namespace Gives

variable {x : Except ε β} {b : β} {fits fits' : Prop}

theorem ok (h : Gives x b fits) (hfits : fits) : x = .ok b := h.resolve_right fun hfault => hfault.2 hfits

theorem of_ok (h : Gives x b fits) {c : β} (hok : x = .ok c) : c = b := by
  rcases h with h | ⟨⟨f, h⟩, -⟩
  · rw [h] at hok
    exact (Except.ok.inj hok).symm
  · rw [h] at hok
    cases hok

theorem mono (h : Gives x b fits) (hweaker : fits' → fits) : Gives x b fits' :=
  h.imp_right fun ⟨hfault, hnot⟩ => ⟨hfault, fun hfits => hnot (hweaker hfits)⟩

theorem pure (b : β) (fits : Prop) : Gives (.ok b : Except ε β) b fits := .inl rfl

theorem word16 (n : Nat) : Gives (ε := ε) (word16 n) n (n < limit16) := by
  unfold Sidelink.word16
  split
  · exact .inl rfl
  · exact .inr ⟨⟨.overflow, rfl⟩, ‹_›⟩

theorem word32 (n : Nat) : Gives (ε := ε) (word32 n) n (n < limit32) := by
  unfold Sidelink.word32
  split
  · exact .inl rfl
  · exact .inr ⟨⟨.overflow, rfl⟩, ‹_›⟩

theorem quotient (n d : Nat) : Gives (ε := ε) (quotient n d) (n / d) (d ≠ 0) := by
  unfold Sidelink.quotient
  split
  · exact .inr ⟨⟨.divisionByZero, rfl⟩, fun hne => hne ‹_›⟩
  · exact .inl rfl

theorem remainder (n d : Nat) : Gives (ε := ε) (remainder n d) (n % d) (d ≠ 0) := by
  unfold Sidelink.remainder
  split
  · exact .inr ⟨⟨.divisionByZero, rfl⟩, fun hne => hne ‹_›⟩
  · exact .inl rfl

theorem bind {k : β → Except ε δ} {d : δ} (h : Gives x b fits) (hk : Gives (k b) d fits') :
    Gives (x >>= k) d (fits ∧ fits') := by
  rcases h with rfl | ⟨⟨f, rfl⟩, hnot⟩
  · exact hk.mono And.right
  · exact .inr ⟨⟨f, rfl⟩, fun hfits => hnot hfits.1⟩

theorem map (h : Gives x b fits) (k : β → δ) : Gives (x.map k) (k b) fits := by
  rcases h with rfl | ⟨⟨f, rfl⟩, hnot⟩
  · exact .inl rfl
  · exact .inr ⟨⟨f, rfl⟩, hnot⟩

theorem anyM {f : β → Except ε Bool} {g : β → Bool} {fits : β → Prop} (xs : List β)
    (h : ∀ x ∈ xs, Gives (f x) (g x) (fits x)) : Gives (xs.anyM f) (xs.any g) (∀ x ∈ xs, fits x) := by
  induction xs with
  | nil => exact .inl rfl
  | cons x rest ih =>
    have hx := h x (by simp)
    have hrest := ih fun y hy => h y (by simp [hy])
    rcases hx with hx | ⟨⟨e, hx⟩, hnot⟩
    · rw [List.anyM, List.any_cons, hx]
      cases g x with
      | true => exact .inl rfl
      | false => exact hrest.mono fun hfits y hy => hfits y (by simp [hy])
    · refine .inr ⟨⟨e, ?_⟩, fun hfits => hnot (hfits x (by simp))⟩
      rw [List.anyM, hx]
      rfl

theorem mapM {f : β → Except ε δ} {g : β → δ} {fits : β → Prop} (xs : List β)
    (h : ∀ x ∈ xs, Gives (f x) (g x) (fits x)) : Gives (xs.mapM f) (xs.map g) (∀ x ∈ xs, fits x) := by
  induction xs with
  | nil => exact .inl rfl
  | cons x rest ih =>
    rw [List.mapM_cons, List.map_cons]
    have hx := h x (by simp)
    have hrest := ih fun y hy => h y (by simp [hy])
    have hall := hx.bind (k := fun y => rest.mapM f >>= fun ys => Except.ok (y :: ys))
      (hrest.bind (.pure (g x :: rest.map g) True))
    exact hall.mono fun hfits => ⟨hfits x (by simp), fun y hy => hfits y (by simp [hy]), trivial⟩

end Gives

end Sidelink
