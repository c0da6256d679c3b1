import Mathlib.Tactic.SplitIfs

/-! # Ranges cut into pieces

A list of pieces, each an offset and a length, *tiles* a range when the pieces follow each
other without gaps and overlaps, in increasing order, from one end of the range to the other.
Then every point of the range is in exactly one piece (`Tiles.countP`).
-/

/-- The pieces tile the range from `a` to `b`. No piece is empty. -/
inductive Tiles : Nat → Nat → List (Nat × Nat) → Prop
  | nil {a : Nat} : Tiles a a []
  | cons {a b n : Nat} {l : List (Nat × Nat)} :
      0 < n → Tiles (a + n) b l → Tiles a b ((a, n) :: l)

namespace Tiles

variable {a b : Nat} {l : List (Nat × Nat)}

theorem le (h : Tiles a b l) : a ≤ b := by
  induction h with
  | nil => exact Nat.le_refl _
  | cons _ _ ih => omega

/-- A piece lies in the range. -/
theorem mem_range (h : Tiles a b l) {p : Nat × Nat} (hp : p ∈ l) :
    a ≤ p.1 ∧ 0 < p.2 ∧ p.1 + p.2 ≤ b := by
  induction h with
  | nil => cases hp
  | cons hn hrest ih =>
    have hle := hrest.le
    rcases List.mem_cons.mp hp with rfl | hp
    · exact ⟨Nat.le_refl _, hn, hle⟩
    · have := ih hp
      omega

/-- The point `x` is in the piece `p`. -/
def Within (x : Nat) (p : Nat × Nat) : Prop := p.1 ≤ x ∧ x < p.1 + p.2

instance (x : Nat) (p : Nat × Nat) : Decidable (Within x p) :=
  inferInstanceAs (Decidable (_ ∧ _))

/-- A point of the range is in exactly one piece, any other in none. -/
theorem countP (h : Tiles a b l) (x : Nat) :
    (l.countP fun p => Within x p) = if a ≤ x ∧ x < b then 1 else 0 := by
  induction h with
  | nil =>
    rw [if_neg (by omega)]
    rfl
  | @cons a b n l hn hrest ih =>
    have hle := hrest.le
    rw [List.countP_cons, ih]
    by_cases hx : Within x (a, n)
    · -- the point is in the first piece, and no later one begins before its end
      have hbounds : a ≤ x ∧ x < a + n := hx
      rw [if_pos (decide_eq_true hx), if_neg (by omega), if_pos (by omega)]
    · have hbounds : ¬(a ≤ x ∧ x < a + n) := hx
      rw [if_neg fun h => hx (of_decide_eq_true h), Nat.add_zero]
      split_ifs <;> omega

/-- Where the pieces begin, when they lead to `b`. -/
def first (b : Nat) : List (Nat × Nat) → Nat
  | [] => b
  | p :: _ => p.1

/-- Pieces that are taken apart tile what lies before and what lies behind the cut. -/
theorem split {l₁ l₂ : List (Nat × Nat)} (h : Tiles a b (l₁ ++ l₂)) :
    Tiles a (first b l₂) l₁ ∧ Tiles (first b l₂) b l₂ := by
  induction l₁ generalizing a with
  | nil => cases h with
    | nil => exact ⟨nil, nil⟩
    | cons hn hrest => exact ⟨nil, cons hn hrest⟩
  | cons p l₁ ih => cases h with
    | cons hn hrest => exact ⟨cons hn (ih hrest).1, (ih hrest).2⟩

/-- Something is left exactly when the pieces begin before the end. -/
theorem first_eq_iff {l : List (Nat × Nat)} (h : Tiles (first b l) b l) : first b l = b ↔ l = [] := by
  constructor
  · intro hend
    cases l with
    | nil => rfl
    | cons p l =>
      have hrange := h.mem_range List.mem_cons_self
      change p.1 = b at hend
      omega
  · rintro rfl
    rfl

/-! ## Cutting a range up -/

/-- The pieces that a loop takes from `a` on, with `n` points still to come: each is as long as
it can be, but for `limit`. -/
def cut (limit : Nat) : Nat → Nat → Nat → List (Nat × Nat)
  | 0, _, _ => []
  | fuel + 1, a, n =>
    if n = 0 then [] else (a, min n limit) :: cut limit fuel (a + min n limit) (n - min n limit)

/-- The pieces tile what is cut up, and none is longer than allowed. -/
theorem cut_tiles {limit fuel n : Nat} (hlimit : 0 < limit) (hfuel : n ≤ fuel) (a : Nat) :
    Tiles a (a + n) (cut limit fuel a n) ∧ ∀ p ∈ cut limit fuel a n, p.2 ≤ limit := by
  induction fuel generalizing a n with
  | zero =>
    obtain rfl : n = 0 := by omega
    exact ⟨Tiles.nil, by simp [cut]⟩
  | succ fuel ih =>
    unfold cut
    by_cases hn : n = 0
    · rw [if_pos hn, hn]
      exact ⟨Tiles.nil, by simp⟩
    · obtain ⟨htiles, hsize⟩ := @ih (n - min n limit) (by omega) (a + min n limit)
      have hend : a + min n limit + (n - min n limit) = a + n := by omega
      rw [hend] at htiles
      rw [if_neg hn]
      refine ⟨Tiles.cons (by omega) htiles, fun p hp => ?_⟩
      rcases List.mem_cons.mp hp with rfl | hp
      · exact Nat.min_le_right _ _
      · exact hsize p hp

/-- No more pieces than rounds. -/
theorem cut_length (limit fuel a n : Nat) : (cut limit fuel a n).length ≤ fuel := by
  induction fuel generalizing a n with
  | zero => exact Nat.le_refl 0
  | succ fuel ih =>
    unfold cut
    split
    · exact Nat.zero_le _
    · exact Nat.succ_le_succ (ih _ _)

end Tiles
