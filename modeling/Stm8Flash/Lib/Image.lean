import Mathlib.Logic.Function.Basic
import Mathlib.Data.List.Induction

/-! # Memory images

A memory is a function from addresses to values. This file has the two ways a
memory is changed by a program that stores into it: a list of single stores,
oldest first (`storeAll`), and a block of values at consecutive addresses
(`block`), together with the abstract description of the result: the *last
writer* of an address decides what it holds (`lastWriter`).
-/

namespace Image

variable {α β : Type*} [DecidableEq α]

/-! ## Lists of stores -/

/-- Perform the stores of `l`, oldest first. -/
def storeAll (m : α → β) (l : List (α × β)) : α → β :=
  l.foldl (fun m p => Function.update m p.1 p.2) m

@[simp] theorem storeAll_nil (m : α → β) : storeAll m [] = m := rfl

@[simp] theorem storeAll_cons (m : α → β) (p : α × β) (l : List (α × β)) :
    storeAll m (p :: l) = storeAll (Function.update m p.1 p.2) l := rfl

theorem storeAll_append (m : α → β) (l₁ l₂ : List (α × β)) :
    storeAll m (l₁ ++ l₂) = storeAll (storeAll m l₁) l₂ := by
  simp [storeAll, List.foldl_append]

/-- An address that is not stored to keeps its value. -/
theorem storeAll_of_forall_ne (m : α → β) (l : List (α × β)) (a : α)
    (h : ∀ p ∈ l, p.1 ≠ a) : storeAll m l a = m a := by
  induction l generalizing m with
  | nil => rfl
  | cons p l ih =>
    have hp : a ≠ p.1 := fun e => h p (by simp) e.symm
    rw [storeAll_cons, ih _ (fun q hq => h q (by simp [hq])), Function.update_of_ne hp]

/-- An address that is stored to at least once ends up with a value that does not
depend on what the memory held at first. -/
theorem storeAll_congr_of_mem (m m' : α → β) (l : List (α × β)) (a : α)
    (h : ∃ p ∈ l, p.1 = a) : storeAll m l a = storeAll m' l a := by
  induction l generalizing m m' with
  | nil => simp at h
  | cons p l ih =>
    -- the last store to `a` is either in the tail or it is `p`
    by_cases htail : ∃ q ∈ l, q.1 = a
    · exact ih _ _ htail
    · have hne : ∀ q ∈ l, q.1 ≠ a := fun q hq e => htail ⟨q, hq, e⟩
      have hp : p.1 = a := by
        rcases h with ⟨q, hq, rfl⟩
        rcases List.mem_cons.mp hq with rfl | hq
        · rfl
        · exact absurd rfl (hne q hq)
      rw [storeAll_cons, storeAll_cons, storeAll_of_forall_ne _ _ _ hne,
        storeAll_of_forall_ne _ _ _ hne, hp, Function.update_self, Function.update_self]

/-- Two memories that agree at `a` agree there after the same stores. -/
theorem storeAll_congr (m m' : α → β) (l : List (α × β)) (a : α) (h : m a = m' a) :
    storeAll m l a = storeAll m' l a := by
  by_cases hmem : ∃ p ∈ l, p.1 = a
  · exact storeAll_congr_of_mem m m' l a hmem
  · have hne : ∀ p ∈ l, p.1 ≠ a := fun p hp e => hmem ⟨p, hp, e⟩
    rw [storeAll_of_forall_ne _ _ _ hne, storeAll_of_forall_ne _ _ _ hne, h]

/-! ## Last writer wins -/

/-- What the address `a` holds when the last store of `l` to it decides, and `m`
where there is none. -/
def lastWriter (m : α → β) (l : List (α × β)) (a : α) : β :=
  match l.reverse.find? (fun p => p.1 = a) with
  | some p => p.2
  | none => m a

/-- Storing in order is the last-writer-wins image. -/
theorem storeAll_eq_lastWriter (m : α → β) (l : List (α × β)) :
    storeAll m l = lastWriter m l := by
  funext a
  -- from the right: the newest store is found first
  induction l using List.reverseRecOn with
  | nil => rfl
  | append_singleton l p ih =>
    rw [storeAll_append, storeAll_cons, storeAll_nil]
    unfold lastWriter at ih ⊢
    rw [List.reverse_append, List.reverse_singleton, List.singleton_append]
    by_cases hp : p.1 = a
    · simp [hp]
    · rw [List.find?_cons_of_neg (by simpa using hp), Function.update_of_ne (Ne.symm hp), ih]

/-- Renaming the addresses by a map that is injective on them renames the image. -/
theorem storeAll_map {γ : Type*} [DecidableEq γ] (f : γ → α) (m : α → β)
    (l : List (γ × β)) (c : γ) (hf : ∀ p ∈ l, f p.1 = f c → p.1 = c) :
    storeAll m (l.map fun p => (f p.1, p.2)) (f c) = storeAll (fun x => m (f x)) l c := by
  induction l generalizing m with
  | nil => rfl
  | cons p l ih =>
    rw [List.map_cons, storeAll_cons, storeAll_cons, ih _ (fun q hq => hf q (by simp [hq]))]
    apply storeAll_congr
    by_cases hp : p.1 = c
    · simp [hp]
    · have hfp : f c ≠ f p.1 := fun e => hp (hf p (by simp) e.symm)
      rw [Function.update_of_ne hfp, Function.update_of_ne (Ne.symm hp)]

/-! ## Blocks at consecutive addresses -/

/-- The stores that put the values `d` at `a`, `a + 1`, and so on. -/
def block (a : Nat) : List β → List (Nat × β)
  | [] => []
  | x :: d => (a, x) :: block (a + 1) d

@[simp] theorem block_nil (a : Nat) : block a ([] : List β) = [] := rfl

@[simp] theorem block_cons (a : Nat) (x : β) (d : List β) :
    block a (x :: d) = (a, x) :: block (a + 1) d := rfl

theorem block_append (a : Nat) (d₁ d₂ : List β) :
    block a (d₁ ++ d₂) = block a d₁ ++ block (a + d₁.length) d₂ := by
  induction d₁ generalizing a with
  | nil => simp
  | cons x d₁ ih => simp [ih, Nat.add_assoc, Nat.add_comm 1]

theorem mem_block {a : Nat} {d : List β} {p : Nat × β} :
    p ∈ block a d ↔ ∃ k, ∃ h : k < d.length, p = (a + k, d[k]) := by
  induction d generalizing a with
  | nil => simp
  | cons x d ih =>
    rw [block_cons, List.mem_cons, ih]
    constructor
    · rintro (rfl | ⟨k, hk, rfl⟩)
      · exact ⟨0, by simp, by simp⟩
      · exact ⟨k + 1, by simpa using hk, by simp [Nat.add_assoc, Nat.add_comm 1]⟩
    · rintro ⟨k, hk, rfl⟩
      cases k with
      | zero => left; simp
      | succ k => right; exact ⟨k, by simpa using hk, by simp [Nat.add_assoc, Nat.add_comm 1]⟩

/-- A block stores inside its own range. -/
theorem block_addr {a : Nat} {d : List β} {p : Nat × β} (h : p ∈ block a d) :
    a ≤ p.1 ∧ p.1 < a + d.length := by
  rcases mem_block.mp h with ⟨k, hk, rfl⟩
  exact ⟨Nat.le_add_right a k, Nat.add_lt_add_left hk a⟩

/-- Inside the block, the block decides. -/
theorem storeAll_block_at (m : Nat → β) (a : Nat) (d : List β) (k : Nat) (h : k < d.length) :
    storeAll m (block a d) (a + k) = d[k] := by
  induction d generalizing a m k with
  | nil => simp at h
  | cons x d ih =>
    rw [block_cons, storeAll_cons]
    cases k with
    | zero =>
      -- the rest of the block lies behind `a` and leaves it alone
      have hne : ∀ p ∈ block (a + 1) d, p.1 ≠ a := by
        intro p hp e
        rcases mem_block.mp hp with ⟨j, _, rfl⟩
        simp at e
        omega
      rw [Nat.add_zero a, storeAll_of_forall_ne _ _ a hne]
      simp
    | succ k =>
      have hk : k < d.length := by simpa using h
      have haddr : a + (k + 1) = a + 1 + k := by omega
      rw [haddr, ih _ (a + 1) k hk]
      simp

/-- Storing what is there already changes nothing. -/
theorem storeAll_block_self (m : Nat → β) (a : Nat) (d : List β)
    (h : ∀ k, (hk : k < d.length) → m (a + k) = d[k]) : storeAll m (block a d) = m := by
  induction d generalizing a with
  | nil => rfl
  | cons x d ih =>
    have hx : Function.update m a x = m := by
      have h0 : m a = x := h 0 (by simp)
      rw [← h0, Function.update_eq_self]
    rw [block_cons, storeAll_cons, hx]
    apply ih
    intro k hk
    rw [Nat.add_assoc, Nat.add_comm 1 k]
    exact h (k + 1) (by simpa using hk)

/-- Outside the block, nothing changes. -/
theorem storeAll_block_off (m : Nat → β) (a : Nat) (d : List β) (b : Nat)
    (h : b < a ∨ a + d.length ≤ b) : storeAll m (block a d) b = m b := by
  apply storeAll_of_forall_ne
  intro p hp e
  have := block_addr hp
  omega

/-! ## Slices -/

/-- The `n` values of `m` from address `a` on. -/
def slice (m : Nat → β) (a n : Nat) : List β :=
  (List.range n).map fun k => m (a + k)

@[simp] theorem slice_length (m : Nat → β) (a n : Nat) : (slice m a n).length = n := by
  simp [slice]

@[simp] theorem slice_getElem (m : Nat → β) (a n k : Nat) (h : k < (slice m a n).length) :
    (slice m a n)[k] = m (a + k) := by
  simp [slice]

theorem slice_eq_iff (m m' : Nat → β) (a b n : Nat) :
    slice m a n = slice m' b n ↔ ∀ k < n, m (a + k) = m' (b + k) := by
  constructor
  · intro h k hk
    have hget := congrArg (fun l => l[k]?) h
    simpa [slice, hk] using hget
  · intro h
    apply List.ext_getElem (by simp)
    intro k hk _
    simpa using h k (by simpa using hk)

theorem slice_append (m : Nat → β) (a n k : Nat) :
    slice m a (n + k) = slice m a n ++ slice m (a + n) k := by
  simp [slice, List.range_add, Function.comp_def, Nat.add_assoc]

/-- Storing a slice of a memory back where it came from changes nothing. -/
theorem storeAll_block_slice_at (m m' : Nat → β) (a b n k : Nat) (h : k < n) :
    storeAll m (block a (slice m' b n)) (a + k) = m' (b + k) := by
  rw [storeAll_block_at _ _ _ _ (by simpa using h), slice_getElem]

end Image
