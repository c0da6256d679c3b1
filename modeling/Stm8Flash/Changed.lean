import Stm8Flash.Programming

/-! # The blocks that differ

A write is to program the blocks of its range that differ from what is to be there: the buffer
over the old content (`changedBlocks`). The loops of the back ends compare with what they have
read before, and with a buffer whose last block they have completed; that comes to the same
(`changedBlocks_loop`).
-/

namespace Stm8Flash

open Hex

/-- What the elements that pass the test contribute, where the others contribute nothing. -/
theorem flatMap_filter {α β : Type} {l : List α} {p : α → Bool} {f g : α → List β}
    (h : ∀ x ∈ l, f x = if p x then g x else []) : l.flatMap f = (l.filter p).flatMap g := by
  induction l with
  | nil => rfl
  | cons x l ih =>
    rw [List.flatMap_cons, h x List.mem_cons_self, ih fun y hy => h y (List.mem_cons_of_mem x hy),
      List.filter_cons]
    by_cases hx : p x = true
    · rw [if_pos hx, if_pos hx, List.flatMap_cons]
    · rw [if_neg hx, if_neg hx, List.nil_append]

/-- What the block at `a` holds. -/
def blockAt (d : Stm8Device) (m : Nat → Byte) (a : Nat) : List Byte := Image.slice m a d.flashBlockSize

/-- The numbers of the blocks of the range whose content in `m` is not the one that it is to have:
`length` bytes of the buffer, and as before behind them. -/
def changedBlocks (d : Stm8Device) (m buffer : Nat → Byte) (start length : Nat) : List Nat :=
  (List.range (blockRounds d length)).filter fun j =>
    blockAt d m (start + j * d.flashBlockSize) ≠
      blockAt d (written m buffer start length) (start + j * d.flashBlockSize)

section Changed

variable {d : Stm8Device} {m buffer current : Nat → Byte} {start length : Nat}

/-- A range that holds the buffer has no block to program. -/
theorem changedBlocks_nil (h : ∀ k < length, m (start + k) = buffer k) :
    changedBlocks d m buffer start length = [] := by
  have hsame : written m buffer start length = m := by
    have hwritten := @written_same m buffer start 0 length fun k hk => by
      rw [Nat.add_zero, Nat.zero_add]
      exact h k hk
    rwa [Nat.zero_add, written_zero] at hwritten
  unfold changedBlocks
  rw [hsame]
  exact List.filter_eq_nil_iff.mpr fun j _ => by simp

/-- A block that has been read. -/
theorem slice_read {i n : Nat} (h : ∀ k < n, current (i + k) = m (start + i + k)) :
    Image.slice current i n = Image.slice m (start + i) n :=
  (Image.slice_eq_iff _ _ _ _ _).mpr h

/-- A block of the completed buffer is the block as it is to be. -/
theorem slice_mergeTail {rounded i n : Nat} (hcur : ∀ k < rounded, current k = m (start + k))
    (hi : i + n ≤ rounded) :
    Image.slice (mergeTail buffer current length rounded) i n =
      Image.slice (written m buffer start length) (start + i) n := by
  apply (Image.slice_eq_iff _ _ _ _ _).mpr
  intro k hk
  unfold mergeTail
  rw [Nat.add_assoc]
  by_cases hlow : i + k < length
  · rw [if_neg (by omega), written_at hlow]
  · -- behind the data there is what was there before
    rw [if_pos (by omega), written_off (Or.inr (by omega)), hcur _ (by omega)]

/-- What the block loop adds to a trace, with `e` for a block that is programmed. -/
theorem changedBlocks_loop {β : Type} {rounded : Nat}
    (hrounded : rounded = blockRounds d length * d.flashBlockSize)
    (hcur : ∀ k < rounded, current k = m (start + k)) (e : Byte → List Byte → Nat → List β) :
    ((List.range' 0 (blockRounds d length)).flatMap fun j =>
      if Image.slice current (j * d.flashBlockSize) d.flashBlockSize =
          Image.slice (mergeTail buffer current length rounded) (j * d.flashBlockSize)
            d.flashBlockSize then []
      else e (prgmode d current (j * d.flashBlockSize))
        (Image.slice (mergeTail buffer current length rounded) (j * d.flashBlockSize)
          d.flashBlockSize) (start + j * d.flashBlockSize)) =
      (changedBlocks d m buffer start length).flatMap fun j =>
        e (prgmode d m (start + j * d.flashBlockSize))
          (blockAt d (written m buffer start length) (start + j * d.flashBlockSize))
          (start + j * d.flashBlockSize) := by
  unfold changedBlocks
  rw [List.range_eq_range']
  refine flatMap_filter fun j hj => ?_
  have hin := round_in_range (show j < blockRounds d length by
    have hrange := List.mem_range'_1.mp hj
    omega)
  have hread : Image.slice current (j * d.flashBlockSize) d.flashBlockSize =
      blockAt d m (start + j * d.flashBlockSize) :=
    slice_read fun k hk => by
      rw [Nat.add_assoc]
      exact hcur _ (by omega)
  have hmerged := @slice_mergeTail m buffer current start length rounded (j * d.flashBlockSize)
    d.flashBlockSize hcur (by omega)
  have hmode : prgmode d current (j * d.flashBlockSize) = prgmode d m (start + j * d.flashBlockSize) := by
    unfold prgmode
    rw [hread]
    rfl
  rw [hmode, hmerged, hread]
  show (if blockAt d m _ = blockAt d (written m buffer start length) _ then [] else _) = _
  by_cases hsame : blockAt d m (start + j * d.flashBlockSize) =
      blockAt d (written m buffer start length) (start + j * d.flashBlockSize)
  · rw [if_pos hsame]
    exact (if_neg fun hne => absurd hsame (of_decide_eq_true hne)).symm
  · rw [if_neg hsame]
    exact (if_pos (decide_eq_true hsame)).symm

end Changed

end Stm8Flash
