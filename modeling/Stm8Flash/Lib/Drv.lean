import Mathlib.Data.List.Forall2
import Mathlib.Logic.Basic

/-! # Runs that stop or return, and their triples

`Drv σ ε α` is a program that changes a state `σ` and either returns an `α` or
stops with an `ε`. Unlike an exception that rolls back, a stop keeps the state
it happened in, so what was done before it can still be looked at.

`Triple P m Q E` says: from any state with `P`, the program `m` returns a value
and a state with `Q`, or stops in a state with `E`. With `E := fun _ _ => False`
it is a total statement. The rules below are the ones the loops and the
straight-line code of a driver need: one for each way a program is put together,
and an invariant rule for each loop.
-/

/-- A program over the state `σ` that returns an `α` or stops with an `ε`. -/
def Drv (σ ε α : Type) : Type := σ → Except ε α × σ

namespace Drv

variable {σ ε α β ρ ι : Type}

instance : Monad (Drv σ ε) where
  pure a := fun s => (.ok a, s)
  bind m f := fun s => match m s with
    | (.ok a, t) => f a t
    | (.error e, t) => (.error e, t)

/-- Stop here. -/
def stop (e : ε) : Drv σ ε α := fun s => (.error e, s)

/-- The current state. -/
def state : Drv σ ε σ := fun s => (.ok s, s)

/-- Change the state. -/
def change (f : σ → σ) : Drv σ ε Unit := fun s => (.ok (), f s)

/-- `m`, if `c` holds; its value is dropped. -/
def when (c : Prop) [Decidable c] (m : Drv σ ε α) : Drv σ ε Unit :=
  if c then m >>= fun _ => pure () else pure ()

/-- `m`, where the ways to stop are some of `ε'`. -/
def raise {ε' : Type} (f : ε → ε') (m : Drv σ ε α) : Drv σ ε' α := fun s => match m s with
  | (.ok a, t) => (.ok a, t)
  | (.error e, t) => (.error (f e), t)

/-! ## What a run computes -/

@[simp] theorem pure_run (a : α) (s : σ) : (pure a : Drv σ ε α) s = (.ok a, s) := rfl

@[simp] theorem stop_run (e : ε) (s : σ) : (stop e : Drv σ ε α) s = (.error e, s) := rfl

@[simp] theorem state_run (s : σ) : (state : Drv σ ε σ) s = (.ok s, s) := rfl

@[simp] theorem change_run (f : σ → σ) (s : σ) : (change f : Drv σ ε Unit) s = (.ok (), f s) := rfl

theorem bind_run (m : Drv σ ε α) (f : α → Drv σ ε β) (s : σ) :
    (m >>= f) s = match m s with
      | (.ok a, t) => f a t
      | (.error e, t) => (.error e, t) := rfl

theorem bind_ok {m : Drv σ ε α} {s t : σ} {a : α} (h : m s = (.ok a, t))
    (f : α → Drv σ ε β) : (m >>= f) s = f a t := by
  rw [bind_run, h]

theorem bind_error {m : Drv σ ε α} {s t : σ} {e : ε} (h : m s = (.error e, t))
    (f : α → Drv σ ε β) : (m >>= f) s = (.error e, t) := by
  rw [bind_run, h]

@[simp] theorem pure_bind_run (a : α) (f : α → Drv σ ε β) (s : σ) :
    ((pure a : Drv σ ε α) >>= f) s = f a s := rfl

@[simp] theorem state_bind_run (f : σ → Drv σ ε β) (s : σ) :
    ((state : Drv σ ε σ) >>= f) s = f s s := rfl

@[simp] theorem change_bind_run (g : σ → σ) (f : Unit → Drv σ ε β) (s : σ) :
    ((change g : Drv σ ε Unit) >>= f) s = f () (g s) := rfl

@[simp] theorem stop_bind_run (e : ε) (f : α → Drv σ ε β) (s : σ) :
    ((stop e : Drv σ ε α) >>= f) s = (.error e, s) := rfl

/-- A composed run that returns went through a first part that returned. -/
theorem bind_eq_ok {m : Drv σ ε α} {f : α → Drv σ ε β} {s u : σ} {b : β} :
    (m >>= f) s = (.ok b, u) ↔ ∃ a t, m s = (.ok a, t) ∧ f a t = (.ok b, u) := by
  rw [bind_run]
  constructor
  · intro h
    rcases hm : m s with ⟨_ | a, t⟩
    · rw [hm] at h
      simp at h
    · rw [hm] at h
      exact ⟨a, t, rfl, h⟩
  · rintro ⟨a, t, hm, hf⟩
    rw [hm]
    exact hf

theorem raise_eq_ok {ε' : Type} {f : ε → ε'} {m : Drv σ ε α} {s t : σ} {a : α} :
    raise f m s = (.ok a, t) ↔ m s = (.ok a, t) := by
  unfold raise
  rcases m s with ⟨_ | b, u⟩ <;> simp

/-- The value of a result says that it is one. -/
theorem ok_of_toOption {r : Except ε α × σ} {a : α} (h : r.1.toOption = some a) :
    ∃ t, r = (.ok a, t) := by
  rcases r with ⟨_ | b, t⟩
  · cases h
  · cases h
    exact ⟨t, rfl⟩

theorem run_of_toOption {m : Drv σ ε α} {s : σ} {a : α} (h : (m s).1.toOption = some a) :
    ∃ t, m s = (.ok a, t) := ok_of_toOption h

/-- The run returns, with a value and a state that pass the check `p`. -/
def returnsWith (p : α → σ → Bool) (m : Drv σ ε α) (s : σ) : Bool :=
  match m s with
  | (.ok a, t) => p a t
  | (.error _, _) => false

theorem run_of_returnsWith {p : α → σ → Bool} {m : Drv σ ε α} {s : σ}
    (h : returnsWith p m s = true) : ∃ a t, m s = (.ok a, t) ∧ p a t = true := by
  unfold returnsWith at h
  rcases hm : m s with ⟨_ | a, t⟩
  · rw [hm] at h
    cases h
  · rw [hm] at h
    exact ⟨a, t, rfl, h⟩

theorem bind_assoc_run (m : Drv σ ε α) (f : α → Drv σ ε β) (g : β → Drv σ ε ρ) (s : σ) :
    (m >>= f >>= g) s = (m >>= fun a => f a >>= g) s := by
  rw [bind_run, bind_run, bind_run]
  rcases m s with ⟨_ | a, t⟩ <;> rfl

theorem id_map_run (m : Drv σ ε α) : id <$> m = m := by
  funext s
  show (match m s with
    | (.ok a, t) => (.ok (id a), t)
    | (.error e, t) => (.error e, t)) = m s
  rcases m s with ⟨_ | a, t⟩ <;> rfl

instance : LawfulMonad (Drv σ ε) :=
  @LawfulMonad.mk' (Drv σ ε) _ id_map_run (fun _ _ => rfl)
    (fun m f g => funext (bind_assoc_run m f g)) (fun _ _ => rfl) (fun _ _ => rfl)
    (fun _ _ => rfl) (fun _ _ => rfl) (fun _ _ => rfl)

/-! ## Loops -/

/-- One run of `body` for each element, in order. -/
def forEach (body : ι → Drv σ ε Unit) : List ι → Drv σ ε Unit
  | [] => pure ()
  | x :: xs => body x >>= fun _ => forEach body xs

/-- `body i`, `body (i + 1)`, … for `n` rounds, left early by a round that gives a
value. -/
def loopFrom (body : Nat → Drv σ ε (Option ρ)) : Nat → Nat → Drv σ ε (Option ρ)
  | 0, _ => pure none
  | n + 1, i => body i >>= fun r => match r with
    | some v => pure (some v)
    | none => loopFrom body n (i + 1)

/-- `body i`, `body (i + 1)`, … for `n` rounds. -/
def forFrom (body : Nat → Drv σ ε Unit) : Nat → Nat → Drv σ ε Unit
  | 0, _ => pure ()
  | n + 1, i => body i >>= fun _ => forFrom body n (i + 1)

/-- `body i`, `body (i + 1)`, … for `n` rounds, each with the value of the one before. -/
def foldFrom (body : Nat → α → Drv σ ε α) : Nat → Nat → α → Drv σ ε α
  | 0, _, a => pure a
  | n + 1, i, a => body i a >>= fun b => foldFrom body n (i + 1) b

@[simp] theorem forEach_nil (body : ι → Drv σ ε Unit) (s : σ) :
    forEach body [] s = (.ok (), s) := rfl

theorem forEach_cons (body : ι → Drv σ ε Unit) (x : ι) (xs : List ι) (s : σ) :
    forEach body (x :: xs) s = (body x >>= fun _ => forEach body xs) s := rfl

theorem forEach_append (body : ι → Drv σ ε Unit) (xs ys : List ι) (s : σ) :
    forEach body (xs ++ ys) s = (forEach body xs >>= fun _ => forEach body ys) s := by
  induction xs generalizing s with
  | nil => rfl
  | cons x xs ih =>
    rw [List.cons_append, forEach_cons, bind_run, bind_run, forEach_cons, bind_run]
    -- a stop in the first list ends both sides alike
    rcases body x s with ⟨_ | a, t⟩
    · rfl
    · exact ih t

/-- A run over a list that stops, stops in one of its rounds. -/
theorem forEach_eq_error {body : ι → Drv σ ε Unit} {xs : List ι} {s u : σ} {e : ε}
    (h : forEach body xs s = (.error e, u)) :
    ∃ pre x post t, xs = pre ++ x :: post ∧ forEach body pre s = (.ok (), t) ∧
      body x t = (.error e, u) := by
  induction xs generalizing s with
  | nil => cases h
  | cons x xs ih =>
    rw [forEach_cons] at h
    rcases hx : body x s with ⟨e' | a, t⟩
    · rw [bind_error hx] at h
      cases h
      exact ⟨[], x, xs, s, rfl, rfl, hx⟩
    · rw [bind_ok hx] at h
      rcases ih h with ⟨pre, y, post, v, rfl, hpre, hy⟩
      refine ⟨x :: pre, y, post, v, rfl, ?_, hy⟩
      rw [forEach_cons, bind_ok hx, hpre]

/-- Only the rounds that are made matter. -/
theorem forFrom_congr {body body' : Nat → Drv σ ε Unit} {n i : Nat}
    (h : ∀ j, i ≤ j → j < i + n → body j = body' j) : forFrom body n i = forFrom body' n i := by
  induction n generalizing i with
  | zero => rfl
  | succ n ih =>
    have hrest := @ih (i + 1) fun j hi hj => h j (by omega) (by omega)
    unfold forFrom
    rw [h i (Nat.le_refl i) (by omega), hrest]

theorem loopFrom_congr {body body' : Nat → Drv σ ε (Option ρ)} {n i : Nat}
    (h : ∀ j, i ≤ j → j < i + n → body j = body' j) : loopFrom body n i = loopFrom body' n i := by
  induction n generalizing i with
  | zero => rfl
  | succ n ih =>
    have hrest := @ih (i + 1) fun j hi hj => h j (by omega) (by omega)
    unfold loopFrom
    rw [h i (Nat.le_refl i) (by omega), hrest]

/-- A round that stops, stops the loop; `u` is the state in which it begins. -/
theorem forFrom_error {body : Nat → Drv σ ε Unit} {n i j : Nat} {s t u : σ} {e : ε} (hj : j < n)
    (hpre : forFrom body j i s = (.ok (), u)) (hround : body (i + j) u = (.error e, t)) :
    forFrom body n i s = (.error e, t) := by
  induction j generalizing n i s with
  | zero =>
    obtain ⟨n, rfl⟩ : ∃ m, n = m + 1 := ⟨n - 1, by omega⟩
    cases hpre
    exact bind_error hround _
  | succ j ih =>
    obtain ⟨n, rfl⟩ : ∃ m, n = m + 1 := ⟨n - 1, by omega⟩
    rcases bind_eq_ok.mp hpre with ⟨_, v, hfirst, hrest⟩
    have hnext : i + (j + 1) = i + 1 + j := by omega
    rw [hnext] at hround
    exact (bind_ok hfirst _).trans (ih (by omega) hrest hround)

theorem loopFrom_error {body : Nat → Drv σ ε (Option ρ)} {n i j : Nat} {s t u : σ} {e : ε}
    (hj : j < n) (hpre : loopFrom body j i s = (.ok none, u))
    (hround : body (i + j) u = (.error e, t)) : loopFrom body n i s = (.error e, t) := by
  induction j generalizing n i s with
  | zero =>
    obtain ⟨n, rfl⟩ : ∃ m, n = m + 1 := ⟨n - 1, by omega⟩
    cases hpre
    exact bind_error hround _
  | succ j ih =>
    obtain ⟨n, rfl⟩ : ∃ m, n = m + 1 := ⟨n - 1, by omega⟩
    rcases bind_eq_ok.mp hpre with ⟨r, v, hfirst, hrest⟩
    have hnext : i + (j + 1) = i + 1 + j := by omega
    rw [hnext] at hround
    cases r with
    -- the first rounds have not left the loop
    | some r => cases hrest
    | none => exact (bind_ok hfirst _).trans (ih (by omega) hrest hround)

/-! ## The values of a list of runs -/

theorem mapM_cons_ok {body : ι → Drv σ ε α} {x : ι} {xs : List ι} {s t : σ} {as : List α} :
    (x :: xs).mapM body s = (.ok as, t) ↔
      ∃ a u bs, body x s = (.ok a, u) ∧ xs.mapM body u = (.ok bs, t) ∧ as = a :: bs := by
  rw [List.mapM_cons, bind_eq_ok]
  constructor
  · rintro ⟨a, u, hx, h⟩
    rcases bind_eq_ok.mp h with ⟨bs, v, hxs, h⟩
    cases h
    exact ⟨a, u, bs, hx, hxs, rfl⟩
  · rintro ⟨a, u, bs, hx, hxs, rfl⟩
    exact ⟨a, u, hx, bind_eq_ok.mpr ⟨bs, t, hxs, rfl⟩⟩

/-- A loop whose rounds each make a value for the one that is passed on, makes these values. -/
theorem foldFrom_mapM {body : Nat → α → Drv σ ε α} {fetch : Nat → Drv σ ε β} {f : α → β → α}
    (h : ∀ j a, body j a = fetch j >>= fun b => pure (f a b)) (n i : Nat) (a : α) :
    foldFrom body n i a = (List.range' i n).mapM fetch >>= fun bs => pure (bs.foldl f a) := by
  induction n generalizing i a with
  | zero => rfl
  | succ n ih =>
    rw [List.range'_succ, List.mapM_cons]
    show (body i a >>= fun b => foldFrom body n (i + 1) b) = _
    simp only [h, bind_assoc, pure_bind, ih, List.foldl_cons]

/-! ## Other errors -/

section Raise

variable {ε' : Type} {f : ε → ε'}

theorem raise_pure (a : α) : raise f (pure a : Drv σ ε α) = pure a := rfl

theorem raise_bind (m : Drv σ ε α) (k : α → Drv σ ε β) :
    raise f (m >>= k) = raise f m >>= fun a => raise f (k a) := by
  funext s
  rw [bind_run]
  unfold raise
  rw [bind_run]
  rcases m s with ⟨_ | a, t⟩
  · rfl
  · rfl

/-- A part of the raised program for each part of the program. -/
theorem raise_bind_of {m : Drv σ ε α} {k : α → Drv σ ε β} {m' : Drv σ ε' α} {k' : α → Drv σ ε' β}
    (hm : m' = raise f m) (hk : ∀ a, k' a = raise f (k a)) : m' >>= k' = raise f (m >>= k) := by
  rw [hm, funext hk, raise_bind]

theorem raise_ite {c : Prop} [Decidable c] (m m' : Drv σ ε α) :
    raise f (if c then m else m') = if c then raise f m else raise f m' := by
  split <;> rfl

theorem raise_forFrom {body : Nat → Drv σ ε Unit} {body' : Nat → Drv σ ε' Unit} {n i : Nat}
    (h : ∀ j, i ≤ j → j < i + n → body' j = raise f (body j)) :
    forFrom body' n i = raise f (forFrom body n i) := by
  induction n generalizing i with
  | zero => rfl
  | succ n ih =>
    show (body' i >>= fun _ => forFrom body' n (i + 1)) = _
    rw [h i (Nat.le_refl i) (by omega), ih fun j hj hlt => h j (by omega) (by omega)]
    exact (raise_bind _ _).symm

theorem raise_loopFrom {body : Nat → Drv σ ε (Option ρ)} {body' : Nat → Drv σ ε' (Option ρ)}
    {n i : Nat} (h : ∀ j, i ≤ j → j < i + n → body' j = raise f (body j)) :
    loopFrom body' n i = raise f (loopFrom body n i) := by
  induction n generalizing i with
  | zero => rfl
  | succ n ih =>
    have hrest := ih fun j (hj : i + 1 ≤ j) hlt => h j (by omega) (by omega)
    unfold loopFrom
    rw [h i (Nat.le_refl i) (by omega), raise_bind]
    congr 1
    funext r
    cases r with
    | some v => rfl
    | none => exact hrest

end Raise

/-! ## What a program leaves alone -/

/-- The program leaves the part `f` of the state alone, also when it stops. -/
def Keeps (f : σ → β) (m : Drv σ ε α) : Prop := ∀ s, f (m s).2 = f s

section Keeps

variable {f : σ → β}

theorem Keeps.pure (a : α) : Keeps f (pure a : Drv σ ε α) := fun _ => rfl

theorem Keeps.stop (e : ε) : Keeps f (stop e : Drv σ ε α) := fun _ => rfl

theorem Keeps.state : Keeps f (state : Drv σ ε σ) := fun _ => rfl

theorem Keeps.change {g : σ → σ} (h : ∀ s, f (g s) = f s) : Keeps f (change g : Drv σ ε Unit) := h

/-- A second part that leaves `f` alone does not show in the whole. -/
theorem Keeps.bind_right {m : Drv σ ε α} {k : α → Drv σ ε ρ} (h : ∀ a, Keeps f (k a)) (s : σ) :
    f ((m >>= k) s).2 = f (m s).2 := by
  rw [bind_run]
  rcases m s with ⟨_ | a, t⟩
  · rfl
  · exact h a t

theorem Keeps.bind {m : Drv σ ε α} {k : α → Drv σ ε ρ} (hm : Keeps f m)
    (hk : ∀ a, Keeps f (k a)) : Keeps f (m >>= k) :=
  fun s => (Keeps.bind_right hk s).trans (hm s)

theorem Keeps.ite {c : Prop} [Decidable c] {m m' : Drv σ ε α} (h : Keeps f m) (h' : Keeps f m') :
    Keeps f (if c then m else m') := by
  split
  · exact h
  · exact h'

/-- A part of what is left alone is left alone. -/
theorem Keeps.comp {m : Drv σ ε α} (h : Keeps f m) (g : β → ρ) : Keeps (fun s => g (f s)) m :=
  fun s => congrArg g (h s)

/-- A run of what leaves `f` alone. -/
theorem Keeps.of_run {m : Drv σ ε α} (h : Keeps f m) {r : Except ε α} {s t : σ}
    (hrun : m s = (r, t)) : f t = f s := by
  rw [← h s, hrun]

theorem Keeps.forFrom {body : Nat → Drv σ ε Unit} {i : Nat} (n : Nat)
    (h : ∀ j, i ≤ j → j < i + n → Keeps f (body j)) : Keeps f (forFrom body n i) := by
  induction n generalizing i with
  | zero => exact Keeps.pure ()
  | succ n ih =>
    exact (h i (Nat.le_refl i) (by omega)).bind fun _ =>
      ih fun j hj hlt => h j (by omega) (by omega)

theorem Keeps.loopFrom {body : Nat → Drv σ ε (Option ρ)} {i : Nat} (n : Nat)
    (h : ∀ j, i ≤ j → j < i + n → Keeps f (body j)) : Keeps f (loopFrom body n i) := by
  induction n generalizing i with
  | zero => exact Keeps.pure none
  | succ n ih =>
    refine (h i (Nat.le_refl i) (by omega)).bind fun r => ?_
    cases r with
    | some v => exact Keeps.pure (some v)
    | none => exact ih fun j hj hlt => h j (by omega) (by omega)

end Keeps

/-! ## Invariants -/

/-- What holds before the program holds after it, also when it stops. -/
def Preserves (I : σ → Prop) (m : Drv σ ε α) : Prop := ∀ s, I s → I (m s).2

section Preserves

variable {I : σ → Prop}

theorem Preserves.pure (a : α) : Preserves I (pure a : Drv σ ε α) := fun _ hs => hs

theorem Preserves.stop (e : ε) : Preserves I (stop e : Drv σ ε α) := fun _ hs => hs

theorem Preserves.state : Preserves I (state : Drv σ ε σ) := fun _ hs => hs

theorem Preserves.change {g : σ → σ} (h : ∀ s, I s → I (g s)) :
    Preserves I (change g : Drv σ ε Unit) := h

theorem Preserves.bind {m : Drv σ ε α} {k : α → Drv σ ε ρ} (hm : Preserves I m)
    (hk : ∀ a, Preserves I (k a)) : Preserves I (m >>= k) := by
  intro s hs
  have hfirst := hm s hs
  rw [bind_run]
  rcases h : m s with ⟨_ | a, t⟩
  · rw [h] at hfirst
    exact hfirst
  · rw [h] at hfirst
    exact hk a t hfirst

theorem Preserves.ite {c : Prop} [Decidable c] {m m' : Drv σ ε α} (h : c → Preserves I m)
    (h' : ¬c → Preserves I m') : Preserves I (if c then m else m') := by
  split
  · exact h ‹_›
  · exact h' ‹_›

theorem Preserves.when {c : Prop} [Decidable c] {m : Drv σ ε α} (h : Preserves I m) :
    Preserves I (when c m) :=
  Preserves.ite (fun _ => h.bind fun _ => Preserves.pure ()) fun _ => Preserves.pure ()

theorem Preserves.forFrom {body : Nat → Drv σ ε Unit} {i : Nat} (n : Nat)
    (h : ∀ j, i ≤ j → j < i + n → Preserves I (body j)) : Preserves I (forFrom body n i) := by
  induction n generalizing i with
  | zero => exact Preserves.pure ()
  | succ n ih =>
    exact (h i (Nat.le_refl i) (by omega)).bind fun _ =>
      ih fun j hj hlt => h j (by omega) (by omega)

theorem Preserves.loopFrom {body : Nat → Drv σ ε (Option ρ)} {i : Nat} (n : Nat)
    (h : ∀ j, i ≤ j → j < i + n → Preserves I (body j)) : Preserves I (loopFrom body n i) := by
  induction n generalizing i with
  | zero => exact Preserves.pure none
  | succ n ih =>
    refine (h i (Nat.le_refl i) (by omega)).bind fun r => ?_
    cases r with
    | some v => exact Preserves.pure (some v)
    | none => exact ih fun j hj hlt => h j (by omega) (by omega)

theorem Preserves.foldFrom {body : Nat → α → Drv σ ε α} {i : Nat} (n : Nat)
    (h : ∀ j a, i ≤ j → j < i + n → Preserves I (body j a)) (a : α) :
    Preserves I (foldFrom body n i a) := by
  induction n generalizing i a with
  | zero => exact Preserves.pure a
  | succ n ih =>
    exact (h i a (Nat.le_refl i) (by omega)).bind fun b =>
      ih (fun j b hj hlt => h j b (by omega) (by omega)) b

theorem Preserves.raise {ε' : Type} {f : ε → ε'} {m : Drv σ ε α} (h : Preserves I m) :
    Preserves I (raise f m) := by
  intro s hs
  have hrun := h s hs
  unfold Drv.raise
  rcases hm : m s with ⟨_ | a, t⟩
  · rw [hm] at hrun
    exact hrun
  · rw [hm] at hrun
    exact hrun

/-- What is known of a part that is left alone is an invariant. -/
theorem Keeps.preserves {f : σ → β} {m : Drv σ ε α} (h : Keeps f m) (R : β → Prop) :
    Preserves (fun s => R (f s)) m := by
  intro s hs
  rw [h s]
  exact hs

end Preserves

/-! ## Programs that do not stop -/

/-- The program returns from every state. -/
def Returns (m : Drv σ ε α) : Prop := ∀ s, ∃ a t, m s = (.ok a, t)

theorem Returns.pure (a : α) : Returns (pure a : Drv σ ε α) := fun s => ⟨a, s, rfl⟩

theorem Returns.state : Returns (state : Drv σ ε σ) := fun s => ⟨s, s, rfl⟩

theorem Returns.change (f : σ → σ) : Returns (change f : Drv σ ε Unit) := fun s => ⟨(), f s, rfl⟩

theorem Returns.bind {m : Drv σ ε α} {f : α → Drv σ ε β} (hm : Returns m)
    (hf : ∀ a, Returns (f a)) : Returns (m >>= f) := by
  intro s
  rcases hm s with ⟨a, t, hrun⟩
  rcases hf a t with ⟨b, u, hrest⟩
  exact ⟨b, u, (bind_ok hrun f).trans hrest⟩

theorem Returns.ite {c : Prop} [Decidable c] {m m' : Drv σ ε α} (ht : c → Returns m)
    (hf : ¬c → Returns m') : Returns (if c then m else m') := by
  split
  · exact ht ‹_›
  · exact hf ‹_›

theorem Returns.when {c : Prop} [Decidable c] {m : Drv σ ε α} (h : Returns m) :
    Returns (when c m) :=
  Returns.ite (fun _ => h.bind fun _ => Returns.pure ()) fun _ => Returns.pure ()

theorem Returns.forEach {body : ι → Drv σ ε Unit} (h : ∀ x, Returns (body x)) (xs : List ι) :
    Returns (forEach body xs) := by
  induction xs with
  | nil => exact Returns.pure ()
  | cons x xs ih => exact (h x).bind fun _ => ih

theorem Returns.forFrom {body : Nat → Drv σ ε Unit} {i : Nat} (n : Nat)
    (h : ∀ j, i ≤ j → j < i + n → Returns (body j)) : Returns (forFrom body n i) := by
  induction n generalizing i with
  | zero => exact Returns.pure ()
  | succ n ih =>
    exact (h i (Nat.le_refl i) (by omega)).bind fun _ =>
      ih fun j hj hlt => h j (by omega) (by omega)

theorem Returns.foldFrom {body : Nat → α → Drv σ ε α} {i : Nat} (n : Nat)
    (h : ∀ j a, i ≤ j → j < i + n → Returns (body j a)) (a : α) :
    Returns (foldFrom body n i a) := by
  induction n generalizing i a with
  | zero => exact Returns.pure a
  | succ n ih =>
    exact (h i a (Nat.le_refl i) (by omega)).bind fun b =>
      ih (fun j b hj hlt => h j b (by omega) (by omega)) b

theorem Returns.mapM {body : ι → Drv σ ε α} {xs : List ι} (h : ∀ x ∈ xs, Returns (body x)) :
    Returns (xs.mapM body) := by
  induction xs with
  | nil => exact Returns.pure []
  | cons x xs ih =>
    rw [List.mapM_cons]
    refine (h x List.mem_cons_self).bind fun a => ?_
    exact (ih fun y hy => h y (List.mem_cons_of_mem x hy)).bind fun as => Returns.pure (a :: as)

/-! ## What a program adds to a trace -/

/-- A run that returns has added `l` to the trace `f`. -/
def Emits (f : σ → List β) (m : Drv σ ε α) (l : List β) : Prop :=
  ∀ s a t, m s = (.ok a, t) → f t = f s ++ l

section Emits

variable {f : σ → List β} {l l₁ l₂ : List β}

theorem Emits.pure (a : α) : Emits f (pure a : Drv σ ε α) [] := by
  intro s b t hrun
  cases hrun
  exact (List.append_nil _).symm

theorem Emits.stop (e : ε) : Emits f (stop e : Drv σ ε α) l := by
  intro s b t hrun
  cases hrun

theorem Emits.change {g : σ → σ} (h : ∀ s, f (g s) = f s ++ l) :
    Emits f (change g : Drv σ ε Unit) l := by
  intro s b t hrun
  cases hrun
  exact h s

theorem Keeps.emits {m : Drv σ ε α} (h : Keeps f m) : Emits f m [] := by
  intro s a t hrun
  rw [List.append_nil]
  exact h.of_run hrun

theorem Emits.bind {m : Drv σ ε α} {k : α → Drv σ ε ρ} (hm : Emits f m l₁)
    (hk : ∀ a, Emits f (k a) l₂) : Emits f (m >>= k) (l₁ ++ l₂) := by
  intro s b t hrun
  rcases bind_eq_ok.mp hrun with ⟨a, u, hfirst, hrest⟩
  rw [hk a u b t hrest, hm s a u hfirst, List.append_assoc]

/-- A first part that adds nothing does not show in the whole. -/
theorem Emits.bind_right {m : Drv σ ε α} {k : α → Drv σ ε ρ} (hm : Emits f m [])
    (hk : ∀ a, Emits f (k a) l) : Emits f (m >>= k) l := hm.bind hk

/-- A second part that adds nothing does not show in the whole. -/
theorem Emits.bind_left {m : Drv σ ε α} {k : α → Drv σ ε ρ} (hm : Emits f m l)
    (hk : ∀ a, Emits f (k a) []) : Emits f (m >>= k) l := by
  have h := hm.bind hk
  rwa [List.append_nil] at h

theorem Emits.ite {c : Prop} [Decidable c] {m m' : Drv σ ε α} (ht : c → Emits f m l)
    (hf : ¬c → Emits f m' l) : Emits f (if c then m else m') l := by
  split
  · exact ht ‹_›
  · exact hf ‹_›

theorem Emits.filter {m : Drv σ ε α} (h : Emits f m l) (p : β → Bool) :
    Emits (fun s => (f s).filter p) m (l.filter p) := by
  intro s a t hrun
  show (f t).filter p = (f s).filter p ++ l.filter p
  rw [h s a t hrun, List.filter_append]

theorem Emits.forFrom {body : Nat → Drv σ ε Unit} {e : Nat → List β} {i : Nat} (n : Nat)
    (h : ∀ j, i ≤ j → j < i + n → Emits f (body j) (e j)) :
    Emits f (forFrom body n i) ((List.range' i n).flatMap e) := by
  induction n generalizing i with
  | zero => exact Emits.pure ()
  | succ n ih =>
    rw [List.range'_succ, List.flatMap_cons]
    refine (h i (Nat.le_refl i) (by omega)).bind fun _ => ?_
    exact ih fun j hj hlt => h j (by omega) (by omega)

/-- The trace of a loop that no round has left. -/
theorem loopFrom_emits {body : Nat → Drv σ ε (Option ρ)} {e : Nat → List β} {i n : Nat} {s t : σ}
    (h : ∀ j, i ≤ j → j < i + n → ∀ s t, body j s = (.ok none, t) → f t = f s ++ e j)
    (hrun : loopFrom body n i s = (.ok none, t)) : f t = f s ++ (List.range' i n).flatMap e := by
  induction n generalizing i s with
  | zero =>
    cases hrun
    exact (List.append_nil _).symm
  | succ n ih =>
    rcases bind_eq_ok.mp hrun with ⟨r, u, hround, hrest⟩
    cases r with
    | some v => cases hrest
    | none =>
      have hlater := ih (fun j hj hlt => h j (by omega) (by omega)) hrest
      rw [hlater, h i (Nat.le_refl i) (by omega) s u hround, List.range'_succ, List.flatMap_cons,
        List.append_assoc]

end Emits

/-! ## Triples -/

/-- From `P`, the program returns in `Q` or stops in `E`. -/
def Triple (P : σ → Prop) (m : Drv σ ε α) (Q : α → σ → Prop) (E : ε → σ → Prop) : Prop :=
  ∀ s, P s → match m s with
    | (.ok a, t) => Q a t
    | (.error e, t) => E e t

variable {P P' : σ → Prop} {Q Q' : α → σ → Prop} {R : β → σ → Prop} {E E' : ε → σ → Prop}

theorem Triple.of_ok {m : Drv σ ε α} (h : Triple P m Q E) {s t : σ} {a : α} (hs : P s)
    (hm : m s = (.ok a, t)) : Q a t := by
  have := h s hs
  rwa [hm] at this

theorem Triple.of_error {m : Drv σ ε α} (h : Triple P m Q E) {s t : σ} {e : ε} (hs : P s)
    (hm : m s = (.error e, t)) : E e t := by
  have := h s hs
  rwa [hm] at this

/-- What holds however a program ends. -/
theorem Triple.always {m : Drv σ ε α} {R : σ → Prop} (h : Triple P m (fun _ => R) (fun _ => R))
    {s : σ} (hs : P s) : R (m s).2 := by
  have hrun := h s hs
  rcases hm : m s with ⟨e | a, t⟩
  · rw [hm] at hrun
    exact hrun
  · rw [hm] at hrun
    exact hrun

/-- An invariant as a triple. -/
theorem Preserves.triple {m : Drv σ ε α} {I : σ → Prop} (h : Preserves I m) :
    Triple I m (fun _ => I) (fun _ => I) := by
  intro s hs
  have hrun := h s hs
  rcases hm : m s with ⟨e | a, t⟩
  · rw [hm] at hrun
    exact hrun
  · rw [hm] at hrun
    exact hrun

/-- Where a program stops, its invariants hold. -/
theorem Triple.stops {m : Drv σ ε α} {I : σ → Prop} (h : Triple P m Q E) (hI : Preserves I m)
    (hP : ∀ s, P s → I s) : Triple P m Q (fun _ => I) := by
  intro s hs
  have hspec := h s hs
  have hkept := hI s (hP s hs)
  rcases hm : m s with ⟨e | a, t⟩
  · rw [hm] at hkept
    exact hkept
  · rw [hm] at hspec
    exact hspec

/-- A program that cannot stop returns. -/
theorem Triple.returns {m : Drv σ ε α} (h : Triple P m Q (fun _ _ => False)) {s : σ} (hs : P s) :
    ∃ a t, m s = (.ok a, t) ∧ Q a t := by
  have := h s hs
  rcases hm : m s with ⟨e | a, t⟩
  · rw [hm] at this
    exact this.elim
  · rw [hm] at this
    exact ⟨a, t, rfl, this⟩

/-- What is known of the value of a program that does not stop is known of all its runs. -/
theorem Triple.total {m : Drv σ ε α} (h : Triple P m Q E) (hm : Returns m) :
    Triple P m Q (fun _ _ => False) := by
  intro s hs
  rcases hm s with ⟨a, t, hrun⟩
  have hq := h.of_ok hs hrun
  rw [hrun]
  exact hq

/-- What does not speak about the state survives a program that does not stop. -/
theorem Returns.triple {m : Drv σ ε α} (h : Returns m) (p : Prop) :
    Triple (fun _ => p) m (fun _ _ => p) E := by
  intro s hs
  rcases h s with ⟨a, t, hrun⟩
  rw [hrun]
  exact hs

/-- Nothing is claimed of a program. -/
theorem Triple.trivial (m : Drv σ ε α) :
    Triple (fun _ => True) m (fun _ _ => True) (fun _ _ => True) := by
  intro s _
  rcases m s with ⟨_ | a, t⟩
  · exact True.intro
  · exact True.intro

theorem Triple.conseq {m : Drv σ ε α} (h : Triple P m Q E) (hP : ∀ s, P' s → P s)
    (hQ : ∀ a s, Q a s → Q' a s) (hE : ∀ e s, E e s → E' e s) : Triple P' m Q' E' := by
  intro s hs
  have := h s (hP s hs)
  rcases hm : m s with ⟨e | a, t⟩
  · rw [hm] at this
    exact hE e t this
  · rw [hm] at this
    exact hQ a t this

theorem Triple.pre {m : Drv σ ε α} (h : Triple P m Q E) (hP : ∀ s, P' s → P s) :
    Triple P' m Q E :=
  h.conseq hP (fun _ _ hq => hq) (fun _ _ he => he)

theorem Triple.post {m : Drv σ ε α} (h : Triple P m Q E) (hQ : ∀ a s, Q a s → Q' a s) :
    Triple P m Q' E :=
  h.conseq (fun _ hp => hp) hQ (fun _ _ he => he)

theorem Triple.pure {a : α} (h : ∀ s, P s → Q a s) : Triple P (pure a : Drv σ ε α) Q E :=
  fun s hs => h s hs

theorem Triple.stop {e : ε} (h : ∀ s, P s → E e s) : Triple P (stop e : Drv σ ε α) Q E :=
  fun s hs => h s hs

theorem Triple.state {Q : σ → σ → Prop} (h : ∀ s, P s → Q s s) :
    Triple P (state : Drv σ ε σ) Q E :=
  fun s hs => h s hs

theorem Triple.change {Q : Unit → σ → Prop} {f : σ → σ} (h : ∀ s, P s → Q () (f s)) :
    Triple P (change f : Drv σ ε Unit) Q E :=
  fun s hs => h s hs

/-- A precondition on a part of the state is one on each value of that part. -/
theorem Triple.of_part {γ : Type} {f : σ → γ} {P : γ → Prop} {m : Drv σ ε α}
    (h : ∀ x, P x → Triple (fun s => f s = x) m Q E) : Triple (fun s => P (f s)) m Q E :=
  fun s hs => h (f s) hs s rfl

/-- Two specifications of one program. -/
theorem Triple.and {m : Drv σ ε α} (h : Triple P m Q E) (h' : Triple P' m Q' E') :
    Triple (fun s => P s ∧ P' s) m (fun a s => Q a s ∧ Q' a s) (fun e s => E e s ∧ E' e s) := by
  intro s hs
  have hleft := h s hs.1
  have hright := h' s hs.2
  rcases hm : m s with ⟨e | a, t⟩
  · rw [hm] at hleft hright
    exact ⟨hleft, hright⟩
  · rw [hm] at hleft hright
    exact ⟨hleft, hright⟩

/-- A fact that does not speak about the state. -/
theorem Triple.and_pre {p : Prop} {m : Drv σ ε α} (h : p → Triple P m Q E) :
    Triple (fun s => p ∧ P s) m Q E := fun s hs => h hs.1 s hs.2

theorem Triple.bind {m : Drv σ ε α} {f : α → Drv σ ε β} (hm : Triple P m Q E)
    (hf : ∀ a, Triple (Q a) (f a) R E) : Triple P (m >>= f) R E := by
  intro s hs
  have h := hm s hs
  rw [bind_run]
  rcases he : m s with ⟨e | a, t⟩
  · rw [he] at h
    exact h
  · rw [he] at h
    exact hf a t h

theorem Triple.ite {c : Prop} [Decidable c] {m m' : Drv σ ε α}
    (ht : c → Triple P m Q E) (hf : ¬c → Triple P m' Q E) :
    Triple P (if c then m else m') Q E := by
  split
  · exact ht ‹_›
  · exact hf ‹_›

theorem Triple.when {c : Prop} [Decidable c] {m : Drv σ ε α} {Q : σ → Prop}
    (ht : c → Triple P m (fun _ => Q) E) (hf : ¬c → ∀ s, P s → Q s) :
    Triple P (when c m) (fun _ => Q) E :=
  Triple.ite (fun h => (ht h).bind fun _ => Triple.pure fun _ hs => hs)
    fun h => Triple.pure (hf h)

/-- A program that keeps a part of the state keeps what is known of it. -/
theorem Keeps.triple {f : σ → β} {m : Drv σ ε α} (h : Keeps f m) (R : β → Prop) :
    Triple (fun s => R (f s)) m (fun _ s => R (f s)) (fun _ s => R (f s)) := by
  intro s hs
  -- a stop keeps the state it happened in, so both ends are alike
  have hkeep := h s
  rcases hm : m s with ⟨e | a, t⟩
  · rw [hm] at hkeep
    show R (f t)
    rw [show f t = f s from hkeep]
    exact hs
  · rw [hm] at hkeep
    show R (f t)
    rw [show f t = f s from hkeep]
    exact hs

/-- The same, where nothing is asked of a stop. -/
theorem Keeps.partial_triple {f : σ → β} {m : Drv σ ε α} (h : Keeps f m) (R : β → Prop) :
    Triple (fun s => R (f s)) m (fun _ s => R (f s)) (fun _ _ => True) :=
  (h.triple R).conseq (fun _ hs => hs) (fun _ _ hs => hs) fun _ _ _ => True.intro

/-- What every round keeps, the loop keeps. -/
theorem Triple.forEach_keeps {body : ι → Drv σ ε Unit} {xs : List ι}
    (h : ∀ x ∈ xs, Triple P (body x) (fun _ => P) E) :
    Triple P (Drv.forEach body xs) (fun _ => P) E := by
  induction xs with
  | nil => exact Triple.pure fun _ hs => hs
  | cons x xs ih =>
    apply Triple.bind (h x List.mem_cons_self)
    intro _
    apply ih
    intro y hy
    exact h y (List.mem_cons_of_mem x hy)

/-- Invariant rule for a counted loop: each round takes the invariant one further. -/
theorem Triple.forFrom {body : Nat → Drv σ ε Unit} {I : Nat → σ → Prop} {i : Nat} (n : Nat)
    (step : ∀ j, i ≤ j → j < i + n → Triple (I j) (body j) (fun _ => I (j + 1)) E) :
    Triple (I i) (forFrom body n i) (fun _ => I (i + n)) E := by
  induction n generalizing i with
  | zero => exact Triple.pure fun _ h => h
  | succ n ih =>
    apply Triple.bind (step i (Nat.le_refl i) (by omega))
    intro _
    -- the last index stays put while the first moves up
    have hi : i + (n + 1) = i + 1 + n := by omega
    rw [hi]
    exact ih fun j hj hlt => step j (by omega) (by omega)

/-- Invariant rule for a loop that passes a value on. -/
theorem Triple.foldFrom {body : Nat → α → Drv σ ε α} {I : Nat → α → σ → Prop} {i : Nat} (n : Nat)
    (step : ∀ j a, i ≤ j → j < i + n → Triple (I j a) (body j a) (I (j + 1)) E) (a : α) :
    Triple (I i a) (foldFrom body n i a) (I (i + n)) E := by
  induction n generalizing i a with
  | zero => exact Triple.pure fun _ h => h
  | succ n ih =>
    apply Triple.bind (step i a (Nat.le_refl i) (by omega))
    intro b
    have hi : i + (n + 1) = i + 1 + n := by omega
    rw [hi]
    exact ih (fun j b hj hlt => step j b (by omega) (by omega)) b

/-- After a loop with an early exit: `X` of the value it was left with, or `J`. -/
def LeftOr (X : ρ → σ → Prop) (J : σ → Prop) : Option ρ → σ → Prop
  | some v => X v
  | none => J

/-- Invariant rule for a counted loop with an early exit: each round either keeps
the invariant or leaves with a value that satisfies `X`. -/
theorem Triple.loopFrom {body : Nat → Drv σ ε (Option ρ)} {I : Nat → σ → Prop}
    {X : ρ → σ → Prop} {i : Nat} (n : Nat)
    (step : ∀ j, i ≤ j → j < i + n → Triple (I j) (body j) (LeftOr X (I (j + 1))) E) :
    Triple (I i) (loopFrom body n i) (LeftOr X (I (i + n))) E := by
  induction n generalizing i with
  | zero => exact Triple.pure fun _ h => h
  | succ n ih =>
    apply Triple.bind (step i (Nat.le_refl i) (by omega))
    intro r
    -- a round that gives a value ends the loop, any other goes on
    cases r with
    | some v => exact Triple.pure fun _ h => h
    | none =>
      have hi : i + (n + 1) = i + 1 + n := by omega
      rw [hi]
      exact ih fun j hj hlt => step j (by omega) (by omega)

/-- What every run of a list of runs keeps. -/
theorem Triple.mapM {body : ι → Drv σ ε α} {I : σ → Prop} {xs : List ι}
    (h : ∀ x ∈ xs, Triple I (body x) (fun _ => I) E) : Triple I (xs.mapM body) (fun _ => I) E := by
  induction xs with
  | nil => exact Triple.pure fun _ hs => hs
  | cons x xs ih =>
    rw [List.mapM_cons]
    refine (h x List.mem_cons_self).bind fun a => ?_
    refine (ih fun y hy => h y (List.mem_cons_of_mem x hy)).bind fun as => ?_
    exact Triple.pure fun _ hs => hs

/-- What every run of a list of runs says about its value. -/
theorem mapM_forall₂ {body : ι → Drv σ ε α} {R : ι → α → Prop} {xs : List ι}
    (h : ∀ x ∈ xs, Triple (fun _ => True) (body x) (fun a _ => R x a) (fun _ _ => True)) {s t : σ}
    {as : List α} (hrun : xs.mapM body s = (.ok as, t)) : List.Forall₂ R xs as := by
  induction xs generalizing s as with
  | nil =>
    cases hrun
    exact List.Forall₂.nil
  | cons x xs ih =>
    rcases mapM_cons_ok.mp hrun with ⟨a, u, bs, hx, hxs, rfl⟩
    have hfirst := (h x List.mem_cons_self).of_ok trivial hx
    exact List.Forall₂.cons hfirst (ih (fun y hy => h y (List.mem_cons_of_mem x hy)) hxs)

end Drv
