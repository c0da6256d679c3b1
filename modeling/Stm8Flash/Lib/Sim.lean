import Stm8Flash.Lib.Drv

/-! # Runs that simulate each other

A program over one kind of state does what another program does over another kind, when from states
that belong together both return or stop with the same, in states that belong together again. The
rules are those of `Triple`: one for each way a program is put together, and one for each loop.
-/

namespace Drv

variable {σ τ ε α β ρ : Type}

/-- From states that `R` relates, the runs end alike and in states that `R` relates. -/
def Sim (R : σ → τ → Prop) (m : Drv σ ε α) (n : Drv τ ε α) : Prop :=
  ∀ s t, R s t → (m s).1 = (n t).1 ∧ R (m s).2 (n t).2

variable {R : σ → τ → Prop}

theorem Sim.pure (a : α) : Sim R (pure a : Drv σ ε α) (pure a : Drv τ ε α) := by
  intro s t h
  exact ⟨rfl, h⟩

theorem Sim.stop (e : ε) : Sim R (stop e : Drv σ ε α) (stop e : Drv τ ε α) := by
  intro s t h
  exact ⟨rfl, h⟩

theorem Sim.bind {m : Drv σ ε α} {n : Drv τ ε α} {f : α → Drv σ ε β} {g : α → Drv τ ε β}
    (hm : Sim R m n) (hf : ∀ a, Sim R (f a) (g a)) : Sim R (m >>= f) (n >>= g) := by
  intro s t h
  have hfirst := hm s t h
  rw [bind_run, bind_run]
  rcases hs : m s with ⟨e | a, s'⟩
  · rcases ht : n t with ⟨e' | b, t'⟩
    · rw [hs, ht] at hfirst
      exact ⟨congrArg _ (Except.error.inj hfirst.1), hfirst.2⟩
    · rw [hs, ht] at hfirst
      cases hfirst.1
  · rcases ht : n t with ⟨e' | b, t'⟩
    · rw [hs, ht] at hfirst
      cases hfirst.1
    · rw [hs, ht] at hfirst
      cases hfirst.1
      exact hf a s' t' hfirst.2

theorem Sim.ite {c : Prop} [Decidable c] {m m' : Drv σ ε α} {n n' : Drv τ ε α}
    (h : c → Sim R m n) (h' : ¬c → Sim R m' n') :
    Sim R (if c then m else m') (if c then n else n') := by
  by_cases hc : c
  · rw [if_pos hc, if_pos hc]
    exact h hc
  · rw [if_neg hc, if_neg hc]
    exact h' hc

theorem Sim.raise {ε' : Type} {m : Drv σ ε α} {n : Drv τ ε α} (h : Sim R m n) (f : ε → ε') :
    Sim R (raise f m) (raise f n) := by
  intro s t hst
  have hrun := h s t hst
  unfold Drv.raise
  rcases hm : m s with ⟨e | a, s'⟩
  · rcases hn : n t with ⟨e' | b, t'⟩
    · rw [hm, hn] at hrun
      cases hrun.1
      exact ⟨rfl, hrun.2⟩
    · rw [hm, hn] at hrun
      cases hrun.1
  · rcases hn : n t with ⟨e' | b, t'⟩
    · rw [hm, hn] at hrun
      cases hrun.1
    · rw [hm, hn] at hrun
      cases hrun.1
      exact ⟨rfl, hrun.2⟩

theorem Sim.loopFrom {m : Nat → Drv σ ε (Option ρ)} {n : Nat → Drv τ ε (Option ρ)}
    (h : ∀ i, Sim R (m i) (n i)) (rounds i : Nat) :
    Sim R (loopFrom m rounds i) (loopFrom n rounds i) := by
  induction rounds generalizing i with
  | zero => exact Sim.pure _
  | succ rounds ih =>
    refine (h i).bind fun r => ?_
    cases r with
    | none => exact ih (i + 1)
    | some v => exact Sim.pure _

theorem Sim.forFrom {m : Nat → Drv σ ε Unit} {n : Nat → Drv τ ε Unit}
    (h : ∀ i, Sim R (m i) (n i)) (rounds i : Nat) :
    Sim R (forFrom m rounds i) (forFrom n rounds i) := by
  induction rounds generalizing i with
  | zero => exact Sim.pure _
  | succ rounds ih => exact (h i).bind fun _ => ih (i + 1)

end Drv
