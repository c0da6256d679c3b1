import Stm8Flash.Lib.Image
import Stm8Flash.Lib.Tiles

/-! # What comes in for a buffer

A read of a range fills its buffer piece by piece. `stored` is the buffer after the pieces have
come in, each at its offset; `CameIn` says that they leave nothing of it as it was.
-/

namespace Stm8Flash

/-- The bytes that came in for an offset. -/
abbrev Piece (β : Type) : Type := Nat × List β

section Pieces

variable {β : Type}

/-- The buffer with the pieces in it. -/
def stored (buffer : Nat → β) (pieces : List (Piece β)) : Nat → β :=
  Image.storeAll buffer (pieces.flatMap fun p => Image.block p.1 p.2)

/-- Every one of the first `length` bytes of the buffer lies in a piece. -/
def CameIn (pieces : List (Piece β)) (length : Nat) : Prop :=
  ∀ k < length, ∃ p ∈ pieces, Tiles.Within k (p.1, p.2.length)

instance (pieces : List (Piece β)) (length : Nat) : Decidable (CameIn pieces length) :=
  inferInstanceAs (Decidable (∀ k < length, ∃ p ∈ pieces, _))

theorem stored_cons (buffer : Nat → β) (p : Piece β) (pieces : List (Piece β)) :
    stored buffer (p :: pieces) = stored (Image.storeAll buffer (Image.block p.1 p.2)) pieces := by
  unfold stored
  rw [List.flatMap_cons, Image.storeAll_append]

theorem stored_eq_foldl (buffer : Nat → β) (pieces : List (Piece β)) :
    stored buffer pieces =
      pieces.foldl (fun buffer p => Image.storeAll buffer (Image.block p.1 p.2)) buffer := by
  induction pieces generalizing buffer with
  | nil => rfl
  | cons p pieces ih => rw [stored_cons, ih, List.foldl_cons]

/-- Bytes that have come in do not depend on what the buffer held. -/
theorem CameIn.stored_eq {pieces : List (Piece β)} {length : Nat} (h : CameIn pieces length)
    (buffer buffer' : Nat → β) {k : Nat} (hk : k < length) :
    stored buffer pieces k = stored buffer' pieces k := by
  rcases h k hk with ⟨p, hp, hlow, hhigh⟩
  apply Image.storeAll_congr_of_mem
  refine ⟨(k, p.2[k - p.1]), List.mem_flatMap.mpr ⟨p, hp, ?_⟩, rfl⟩
  apply Image.mem_block.mpr
  exact ⟨k - p.1, by simp at hhigh; omega, by rw [Nat.add_sub_of_le hlow]⟩

/-- Pieces of what is there already change nothing. -/
theorem stored_self {buffer : Nat → β} {pieces : List (Piece β)}
    (h : ∀ p ∈ pieces, ∀ j, (hj : j < p.2.length) → buffer (p.1 + j) = p.2[j]) :
    stored buffer pieces = buffer := by
  induction pieces with
  | nil => rfl
  | cons p pieces ih =>
    rw [stored_cons, Image.storeAll_block_self _ _ _ (h p List.mem_cons_self)]
    exact ih fun q hq => h q (List.mem_cons_of_mem p hq)

/-- Bytes that have come in are what their pieces hold. -/
theorem CameIn.stored_at {pieces : List (Piece β)} {length : Nat} (h : CameIn pieces length)
    {f : Nat → β} (hf : ∀ p ∈ pieces, ∀ j, (hj : j < p.2.length) → f (p.1 + j) = p.2[j])
    (buffer : Nat → β) {k : Nat} (hk : k < length) : stored buffer pieces k = f k := by
  rw [h.stored_eq buffer f hk, stored_self hf]

/-- Pieces that tile the range leave nothing out. -/
theorem cameIn_of_tiles {pieces : List (Piece β)} {length : Nat}
    (h : Tiles 0 length (pieces.map fun p => (p.1, p.2.length))) : CameIn pieces length := by
  intro k hk
  have hcount := h.countP k
  rw [if_pos ⟨Nat.zero_le k, hk⟩] at hcount
  have hpos : 0 < (pieces.map fun p => (p.1, p.2.length)).countP fun p => Tiles.Within k p := by
    omega
  obtain ⟨q, hq, hwithin⟩ := List.countP_pos_iff.mp hpos
  rcases List.mem_map.mp hq with ⟨p, hp, rfl⟩
  exact ⟨p, hp, of_decide_eq_true hwithin⟩

end Pieces

end Stm8Flash
