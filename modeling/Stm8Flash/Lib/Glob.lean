import Mathlib.Data.List.Basic
import Mathlib.Data.List.Forall2

/-! # The first pattern that accepts a name

A pattern accepts every name that it agrees with place by place as far as it goes. Where a list of
patterns is searched for the first that accepts, an earlier pattern can take a name that is made
from a later one. By `accepts_of_accepts` the two patterns then agree as well, which can be checked
without the name, and `find?_of_pairwise` carries a check of the pairs over to the search.
-/

namespace Glob

variable {α β γ : Type}

/-- The pattern agrees with the front of the name, `ok` place by place. -/
def accepts (ok : α → β → Bool) : List α → List β → Bool
  | [], _ => true
  | _ :: _, [] => false
  | e :: pattern, s :: name => ok e s && accepts ok pattern name

theorem accepts_of_forall₂ {ok : α → β → Bool} {pattern : List α} {name : List β}
    (h : List.Forall₂ (fun e s => ok e s = true) pattern name) : accepts ok pattern name = true := by
  induction h with
  | nil => rfl
  | cons hhead _ ih => rw [accepts, hhead, ih, Bool.and_self]

/-- A pattern that accepts a name made from another pattern agrees with that pattern. -/
theorem accepts_of_accepts {ok : α → β → Bool} {both : α → γ → Bool} {made : γ → β → Prop}
    (hboth : ∀ e c s, made c s → ok e s = true → both e c = true) {pattern : List α}
    {other : List γ} {name : List β} (hmade : List.Forall₂ made other name)
    (h : accepts ok pattern name = true) : accepts both pattern other = true := by
  induction hmade generalizing pattern with
  | nil =>
    cases pattern with
    | nil => rfl
    | cons e pattern => cases h
  | cons hhead _ ih =>
    cases pattern with
    | nil => rfl
    | cons e pattern =>
      rw [accepts, Bool.and_eq_true] at h
      rw [accepts, hboth e _ _ hhead h.1, ih h.2, Bool.and_self]

/-- The first entry that takes a name stands, to every entry that takes it, as the earlier of two
entries stands to the later one. -/
theorem find?_of_pairwise {entries : List α} {rel : α → α → Prop} (hpairs : entries.Pairwise rel)
    {takes : α → Bool} {d : α} (hd : d ∈ entries) (htakes : takes d = true) :
    ∃ e, entries.find? takes = some e ∧ takes e = true ∧ (e = d ∨ rel e d) := by
  induction hpairs with
  | nil => cases hd
  | @cons e entries hhead _ ih =>
    cases he : takes e with
    | true =>
      refine ⟨e, List.find?_cons_of_pos he, he, ?_⟩
      rcases List.mem_cons.mp hd with heq | hmem
      · exact Or.inl heq.symm
      · exact Or.inr (hhead d hmem)
    | false =>
      rw [List.find?_cons_of_neg (by simp [he])]
      rcases List.mem_cons.mp hd with rfl | hmem
      · rw [he] at htakes
        cases htakes
      · exact ih hmem

end Glob
