import Mathlib.Logic.Basic

/-! # Steps on separate parts of a state

A state has parts, and two states may agree on a part. A step works on a part when it sees nothing
else of the state and changes nothing else. After any number of such steps a part is what the steps
on this part alone make of it, and they give the same (`run_filter`): what comes between them does
not matter (`run_apart`).
-/

namespace Parts

variable {σ α ω ι : Type}

/-- The steps one after the other, and what each of them gives. -/
def run (step : α → σ → ω × σ) : List α → σ → List ω × σ
  | [], s => ([], s)
  | a :: as, s =>
    let e := step a s
    let rest := run step as e.2
    (e.1 :: rest.1, rest.2)

theorem run_cons (step : α → σ → ω × σ) (a : α) (as : List α) (s : σ) :
    run step (a :: as) s =
      ((step a s).1 :: (run step as (step a s).2).1, (run step as (step a s).2).2) := rfl

/-- The steps on the part `i`, with what they give. -/
def given [DecidableEq ι] (owner : α → ι) (i : ι) (as : List α) (os : List ω) : List (α × ω) :=
  (as.zip os).filter fun p => owner p.1 = i

/-- The step works on the part `i`. -/
structure On (agree : ι → σ → σ → Prop) (step : σ → ω × σ) (i : ι) : Prop where
  sees : ∀ s t, agree i s t → (step s).1 = (step t).1 ∧ agree i (step s).2 (step t).2
  leaves : ∀ j, j ≠ i → ∀ s, agree j (step s).2 s

section Run

variable [DecidableEq ι] {agree : ι → σ → σ → Prop} {step : α → σ → ω × σ} {owner : α → ι} {i : ι}

theorem given_cons_own {a : α} (h : owner a = i) (as : List α) (o : ω) (os : List ω) :
    given owner i (a :: as) (o :: os) = (a, o) :: given owner i as os := by
  unfold given
  rw [List.zip_cons_cons, List.filter_cons_of_pos (by simpa using h)]

theorem given_cons_other {a : α} (h : owner a ≠ i) (as : List α) (o : ω) (os : List ω) :
    given owner i (a :: as) (o :: os) = given owner i as os := by
  unfold given
  rw [List.zip_cons_cons, List.filter_cons_of_neg (by simpa using h)]

/-- The steps on the other parts can be left out. -/
theorem run_filter (hagree : ∀ j, Equivalence (agree j)) {as : List α}
    (has : ∀ a ∈ as, On agree (step a) (owner a)) {s t : σ} (hst : agree i s t) :
    given owner i as (run step as s).1 =
        (as.filter (owner · = i)).zip (run step (as.filter (owner · = i)) t).1 ∧
      agree i (run step as s).2 (run step (as.filter (owner · = i)) t).2 := by
  induction as generalizing s t with
  | nil => exact ⟨rfl, hst⟩
  | cons a as ih =>
    have hstep := has a (List.mem_cons_self ..)
    have hrest : ∀ b ∈ as, On agree (step b) (owner b) := fun b hb =>
      has b (List.mem_cons_of_mem _ hb)
    by_cases hown : owner a = i
    · have hfilter : (a :: as).filter (owner · = i) = a :: as.filter (owner · = i) :=
        List.filter_cons_of_pos (by simpa using hown)
      rw [hown] at hstep
      rcases hstep.sees s t hst with ⟨hout, hnext⟩
      rcases ih hrest hnext with ⟨hgiven, hafter⟩
      rw [hfilter]
      refine ⟨?_, hafter⟩
      rw [run_cons, run_cons, given_cons_own hown, hgiven, hout, List.zip_cons_cons]
    · have hfilter : (a :: as).filter (owner · = i) = as.filter (owner · = i) :=
        List.filter_cons_of_neg (by simpa using hown)
      have hnext : agree i (step a s).2 t :=
        (hagree i).trans (hstep.leaves i (Ne.symm hown) s) hst
      rcases ih hrest hnext with ⟨hgiven, hafter⟩
      rw [hfilter]
      refine ⟨?_, hafter⟩
      rw [run_cons, given_cons_other hown, hgiven]

/-- Only the steps on a part and their order matter to it. -/
theorem run_apart (hagree : ∀ j, Equivalence (agree j)) {as bs : List α}
    (has : ∀ a ∈ as, On agree (step a) (owner a)) (hbs : ∀ b ∈ bs, On agree (step b) (owner b))
    (hsame : as.filter (owner · = i) = bs.filter (owner · = i)) {s t : σ} (hst : agree i s t) :
    given owner i as (run step as s).1 = given owner i bs (run step bs t).1 ∧
      agree i (run step as s).2 (run step bs t).2 := by
  rcases run_filter hagree has ((hagree i).refl s) with ⟨hgiven, hafter⟩
  rcases run_filter hagree hbs ((hagree i).symm hst) with ⟨hgiven', hafter'⟩
  rw [hsame] at hgiven hafter
  exact ⟨hgiven.trans hgiven'.symm, (hagree i).trans hafter ((hagree i).symm hafter')⟩

end Run

end Parts
