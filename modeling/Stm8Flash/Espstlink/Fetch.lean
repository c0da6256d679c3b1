import Stm8Flash.Espstlink.Commands
import Stm8Flash.Pieces

/-! # ESP: what comes in for a read

`espstlink_swim_read_range` asks for 255 bytes at a time and goes no further than the first
command that fails. `EspstlinkFetched` follows it from chunk to chunk; what the loop returns and
what it leaves in the buffer are read off there (`espstlinkReadLoop_fetch`).
-/

namespace Stm8Flash

open Hex Word

section Fetch

variable (d : Stm8Device) (env : EspstlinkEnv)

/-- The chunks of a read, each an offset and a size. -/
def espstlinkChunks (length : Nat) : List (Nat × Nat) := Tiles.cut 255 length 0 length

/-- From the state `s` on, the chunks are asked for one by one until a command fails: the pieces
that come in, and the chunks that do not, with the state `t` then. -/
inductive EspstlinkFetched (start : Nat) : EspstlinkState → List (Nat × Nat) →
    List (Piece Byte) → List (Nat × Nat) → EspstlinkState → Prop
  | done {s : EspstlinkState} : EspstlinkFetched start s [] [] [] s
  | chunk {s u t : EspstlinkState} {c : Nat × Nat} {cs rest : List (Nat × Nat)} {bs : List Byte}
      {ps : List (Piece Byte)} :
      (espSwim d env).swimRead (u32 (start + c.1)) c.2 s = (.ok (some bs), u) →
      EspstlinkFetched start u cs ps rest t →
      EspstlinkFetched start s (c :: cs) ((c.1, bs) :: ps) rest t
  | failed {s t : EspstlinkState} {c : Nat × Nat} {cs : List (Nat × Nat)} :
      (espSwim d env).swimRead (u32 (start + c.1)) c.2 s = (.ok none, t) →
      EspstlinkFetched start s (c :: cs) [] (c :: cs) t

variable {d} {env}

theorem espstlinkSwimRead_returns (addr size : Nat) :
    Drv.Returns ((espSwim d env).swimRead addr size) :=
  (Drv.Returns.state.bind fun _ => (Drv.Returns.change _).bind fun _ => Drv.Returns.pure _).bind
    fun _ => Drv.Returns.pure _

/-- The loop follows its chunks. -/
theorem espstlinkReadLoop_fetch {start length fuel i : Nat} (hlength : length < 2147483648)
    (hi : i ≤ length) (hfuel : length - i ≤ fuel) (buffer : Nat → Byte) (s : EspstlinkState) :
    ∃ ps rest t, EspstlinkFetched d env start s (Tiles.cut 255 fuel i (length - i)) ps rest t ∧
      (espSwim d env).readLoop start length fuel i buffer s =
        (.ok (Tiles.first length rest, stored buffer ps), t) := by
  induction fuel generalizing i buffer s with
  | zero =>
    obtain rfl : i = length := by omega
    exact ⟨[], [], s, EspstlinkFetched.done, rfl⟩
  | succ fuel ih =>
    unfold Tiles.cut EspSwim.readLoop
    by_cases hlt : i < length
    · have hsize : (if length - i > 255 then 255 else length - i) = min (length - i) 255 := by
        split <;> omega
      rw [if_neg (by omega), if_pos hlt, if_pos (by omega), hsize]
      generalize hn : min (length - i) 255 = n
      obtain ⟨bytes, u, hread⟩ :=
        @espstlinkSwimRead_returns d env (u32 (start + i)) n s
      rw [Drv.bind_ok hread]
      cases bytes with
      | none => exact ⟨[], _, u, EspstlinkFetched.failed hread, rfl⟩
      | some bs =>
        obtain ⟨ps, rest, t, hfetched, hrun⟩ := @ih (i + n) (by omega) (by omega)
          (Image.storeAll buffer (Image.block i bs)) u
        rw [Nat.sub_add_eq] at hfetched
        refine ⟨(i, bs) :: ps, rest, t, EspstlinkFetched.chunk hread hfetched, ?_⟩
        rw [stored_cons]
        exact hrun
    · rw [if_pos (by omega), if_neg hlt]
      obtain rfl : i = length := by omega
      exact ⟨[], [], s, EspstlinkFetched.done, rfl⟩

/-- The range read follows its chunks. -/
theorem espstlinkSwimReadRange_fetch {start length : Nat} (hlength : length < 2147483648)
    (buffer : Nat → Byte) (s : EspstlinkState) :
    ∃ ps rest t, EspstlinkFetched d env start s (espstlinkChunks length) ps rest t ∧
      espstlinkSwimReadRange d env buffer start length s =
        (.ok (toInt32 (Tiles.first length rest), stored buffer ps), t) := by
  obtain ⟨ps, rest, t, hfetched, hrun⟩ := @espstlinkReadLoop_fetch d env start length length 0
    hlength (Nat.zero_le length) (Nat.le_refl _) buffer s
  refine ⟨ps, rest, t, hfetched, ?_⟩
  unfold espstlinkSwimReadRange EspSwim.readRange
  rw [Drv.bind_ok hrun]
  rfl

/-- A length that is negative as `int` does not come back. -/
theorem espstlinkSwimReadRange_length {start length : Nat} {buffer buf : Nat → Byte} {v : Int}
    {s t : EspstlinkState}
    (hrun : espstlinkSwimReadRange d env buffer start length s = (.ok (v, buf), t)) :
    length < 2147483648 := by
  by_contra hbig
  obtain ⟨fuel, rfl⟩ : ∃ fuel, length = fuel + 1 := ⟨length - 1, by omega⟩
  unfold espstlinkSwimReadRange EspSwim.readRange EspSwim.readLoop at hrun
  rw [if_pos (by omega), if_neg (by omega)] at hrun
  cases hrun

/-! ## What is read off -/

section Derivation

variable {start : Nat} {s t : EspstlinkState} {cs rest : List (Nat × Nat)}
  {ps : List (Piece Byte)}

/-- The pieces are the first chunks, each of them whole. -/
theorem EspstlinkFetched.chunks (h : EspstlinkFetched d env start s cs ps rest t)
    (hsize : ∀ c ∈ cs, c.2 ≤ 255) : cs = (ps.map fun p => (p.1, p.2.length)) ++ rest := by
  induction h with
  | done => rfl
  | @chunk s u t c cs rest bs ps hread _ ih =>
    have hlen := espstlinkSwimRead_length (Nat.lt_succ_of_le (hsize c List.mem_cons_self)) hread
    rw [List.map_cons, List.cons_append, ← ih fun c hc => hsize c (List.mem_cons_of_mem _ hc), hlen]
  | failed => rfl

/-- A read that leaves no chunk out has brought in the whole buffer. -/
theorem EspstlinkFetched.cameIn {length : Nat}
    (h : EspstlinkFetched d env start s (espstlinkChunks length) ps [] t) : CameIn ps length := by
  obtain ⟨htiles, hsize⟩ := Tiles.cut_tiles (show 0 < 255 by decide) (Nat.le_refl length) 0
  rw [Nat.zero_add] at htiles
  have hchunks := h.chunks hsize
  rw [List.append_nil] at hchunks
  refine cameIn_of_tiles ?_
  rw [← hchunks]
  exact htiles

/-- The value returned is `length` exactly when no chunk is left out. -/
theorem EspstlinkFetched.first_eq_iff {length : Nat}
    (h : EspstlinkFetched d env start s (espstlinkChunks length) ps rest t) :
    Tiles.first length rest ≤ length ∧ (Tiles.first length rest = length ↔ rest = []) := by
  obtain ⟨htiles, hsize⟩ := Tiles.cut_tiles (show 0 < 255 by decide) (Nat.le_refl length) 0
  rw [Nat.zero_add] at htiles
  have hchunks := h.chunks hsize
  unfold espstlinkChunks at hchunks
  rw [hchunks] at htiles
  have hrest := htiles.split.2
  exact ⟨hrest.le, Tiles.first_eq_iff hrest⟩

end Derivation

end Fetch

end Stm8Flash
