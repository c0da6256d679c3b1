import Stm8Flash.Pieces
import Stm8Flash.Stlinkv2.Model

/-! # ST-Link V2: what comes in for a read

The loop of `stlink2_swim_read_range` asks for the range in pieces of `read_buf_size` bytes, and
each piece comes in whole or stops the program (`stlink2ReadLoop_fetch`).
-/

namespace Stm8Flash

open Hex Word

section Fetch

variable (d : Stm8Device) (env : Stlinkv2Env)

/-- The commands for `c.2` bytes at `buffer + c.1`, and what comes in. -/
def stlink2FetchChunk (start : Nat) (c : Nat × Nat) : Stlinkv2 (Piece Byte) := do
  swimCmdInternal d env (swimMemArgs 0x0b (HI c.2) (LO c.2) 0x00 (EX (start + c.1))
    (HI (start + c.1)) (LO (start + c.1))) []
  stlink2CmdInternal d env [0xf4, 0x0c] []
  let bs ← stlink2MsgRecv env c.2
  pure (c.1, bs)

/-- The pieces that a read asks for. -/
def stlink2Chunks (length : Nat) : List (Nat × Nat) := Tiles.cut env.readBufSize length 0 length

variable {d} {env}

/-- The address that is passed on gives the same packet as the offset does. -/
def SameBytes (a b : Nat) : Prop := EX a = EX b ∧ HI a = HI b ∧ LO a = LO b

theorem SameBytes.add {a b : Nat} (h : SameBytes a b) (n : Nat) : SameBytes (u32 (a + n)) (b + n) := by
  unfold SameBytes u32 at *
  simp only [EX_eq, HI_eq, LO_eq] at *
  omega

/-- The rounds that the loop goes through with `remaining` bytes to come at `buffer + i`: the
pieces it asks for, up to the round that finds nothing left. -/
inductive Stlink2Rounds (readBufSize : Nat) : Nat → Nat → List (Nat × Nat) → Prop
  | done {i : Nat} : Stlink2Rounds readBufSize i 0 []
  | round {i remaining size : Nat} {cs : List (Nat × Nat)} : 0 < remaining →
      size = (if remaining > readBufSize then readBufSize else remaining) →
      Stlink2Rounds readBufSize (i + size) (remaining - size) cs →
      Stlink2Rounds readBufSize i remaining ((i, size) :: cs)

/-- The loop is its rounds, what comes in stored one after the other. -/
theorem Stlink2Rounds.fetch {i remaining : Nat} {cs : List (Nat × Nat)}
    (h : Stlink2Rounds env.readBufSize i remaining cs) {fuel a start : Nat}
    (hfuel : cs.length ≤ fuel) (ha : SameBytes a (start + i)) (buffer : Nat → Byte) :
    stlink2ReadLoop d env fuel i a remaining buffer =
      (cs.mapM (stlink2FetchChunk d env start) >>= fun ps => pure (stored buffer ps)) := by
  induction h generalizing fuel a buffer with
  | done => cases fuel <;> rfl
  | @round i remaining size cs hpos hsize _ ih =>
    obtain ⟨fuel, rfl⟩ : ∃ k, fuel = k + 1 := ⟨fuel - 1, by simp at hfuel; omega⟩
    have hnext := ha.add size
    rw [Nat.add_assoc] at hnext
    have hrest := fun buffer => @ih fuel _ (by simpa using hfuel) hnext buffer
    rcases ha with ⟨hex, hhi, hlo⟩
    unfold stlink2ReadLoop
    rw [if_neg (by omega), ← hsize, List.mapM_cons]
    simp only [stlink2FetchChunk, bind_assoc, pure_bind, hrest, stored_cons, hex, hhi, hlo]

/-- A buffer that takes something leads to the end of the range. -/
theorem stlink2Rounds_cut {readBufSize : Nat} (hpos : 0 < readBufSize) {fuel remaining : Nat}
    (hfuel : remaining ≤ fuel) (i : Nat) :
    Stlink2Rounds readBufSize i remaining (Tiles.cut readBufSize fuel i remaining) := by
  induction fuel generalizing i remaining with
  | zero =>
    obtain rfl : remaining = 0 := by omega
    exact .done
  | succ fuel ih =>
    unfold Tiles.cut
    by_cases hzero : remaining = 0
    · rw [if_pos hzero, hzero]
      exact .done
    · have hsize : min remaining readBufSize =
          if remaining > readBufSize then readBufSize else remaining := by
        split <;> omega
      rw [if_neg hzero]
      exact .round (by omega) hsize (ih (by omega) _)

/-- The loop is its pieces, stored one after the other. -/
theorem stlink2ReadLoop_fetch (hpos : 0 < env.readBufSize) {fuel i a remaining start : Nat}
    (hfuel : remaining ≤ fuel) (ha : SameBytes a (start + i)) (buffer : Nat → Byte) :
    stlink2ReadLoop d env fuel i a remaining buffer =
      ((Tiles.cut env.readBufSize fuel i remaining).mapM (stlink2FetchChunk d env start) >>=
        fun ps => pure (stored buffer ps)) :=
  (stlink2Rounds_cut hpos hfuel i).fetch (Tiles.cut_length _ _ _ _) ha buffer

/-- A piece comes in whole. -/
theorem stlink2FetchChunk_whole (start : Nat) (c : Nat × Nat) :
    Drv.Triple (fun _ => True) (stlink2FetchChunk d env start c)
      (fun p _ => c = (p.1, p.2.length)) (fun _ _ => True) := by
  refine (Drv.Triple.trivial _).bind fun _ => (Drv.Triple.trivial _).bind fun _ => ?_
  refine Drv.Triple.bind (Q := fun bs _ => bs.length = c.2) ?_ fun bs =>
    Drv.Triple.pure fun _ hbs => by rw [hbs]
  unfold stlink2MsgRecv
  refine Drv.Triple.ite (fun hzero => Drv.Triple.pure fun _ _ => hzero.symm) fun _ => ?_
  refine (Drv.Triple.trivial _).bind fun _ => ?_
  intro s _
  rw [Drv.state_bind_run]
  -- the transfer has to be complete
  by_cases hshort : s.readbuf.length < c.2
  · rw [if_pos hshort]
    trivial
  · rw [if_neg hshort]
    show (s.readbuf.take c.2).length = c.2
    rw [List.length_take]
    omega

/-- Without a buffer nothing is asked for, again and again: no number of rounds is enough. -/
theorem stlink2ReadLoop_endless (hzero : env.readBufSize = 0) {remaining : Nat}
    (hpos : 0 < remaining) (fuel i a : Nat) (buffer : Nat → Byte) (s : Stlinkv2State) :
    ∃ e t, stlink2ReadLoop d env fuel i a remaining buffer s = (.error e, t) := by
  induction fuel generalizing i a buffer s with
  | zero =>
    unfold stlink2ReadLoop
    rw [if_neg (by omega)]
    exact ⟨_, _, rfl⟩
  | succ fuel ih =>
    unfold stlink2ReadLoop
    rw [if_neg (by omega), hzero, if_pos hpos]
    rcases hcmd : swimCmdInternal d env (swimMemArgs 0x0b (HI 0) (LO 0) 0x00 (EX a) (HI a) (LO a))
      [] s with ⟨e | _, s₁⟩
    · exact ⟨e, s₁, Drv.bind_error hcmd _⟩
    · rw [Drv.bind_ok hcmd]
      rcases hbuf : stlink2CmdInternal d env [0xf4, 0x0c] [] s₁ with ⟨e | _, s₂⟩
      · exact ⟨e, s₂, Drv.bind_error hbuf _⟩
      · rw [Drv.bind_ok hbuf]
        -- the round ends where it began
        exact ih (i + 0) (u32 (a + 0)) _ s₂

/-- What a read that returns has brought in. -/
theorem stlink2SwimReadRange_fetch {start length : Nat} {buffer buf : Nat → Byte} {v : Int}
    {s t : Stlinkv2State}
    (hrun : stlink2SwimReadRange d env buffer start length s = (.ok (v, buf), t)) :
    ∃ ps, (stlink2Chunks env length).mapM (stlink2FetchChunk d env start) s = (.ok ps, t) ∧
      buf = stored buffer ps ∧ CameIn ps length := by
  unfold stlink2SwimReadRange at hrun
  rcases Drv.bind_eq_ok.mp hrun with ⟨buf', u, hloop, hend⟩
  cases hend
  rcases Nat.eq_zero_or_pos length with rfl | hlength
  · cases hloop
    exact ⟨[], rfl, rfl, fun k hk => absurd hk (Nat.not_lt_zero k)⟩
  · have hpos : 0 < env.readBufSize := by
      rcases Nat.eq_zero_or_pos env.readBufSize with hzero | hpos
      · obtain ⟨e, w, herror⟩ := @stlink2ReadLoop_endless d env hzero length hlength length 0 start
          buffer s
        rw [herror] at hloop
        cases hloop
      · exact hpos
    rw [@stlink2ReadLoop_fetch d env hpos length 0 start length start (Nat.le_refl _)
      ⟨rfl, rfl, rfl⟩] at hloop
    rcases Drv.bind_eq_ok.mp hloop with ⟨ps, w, hfetch, hend⟩
    cases hend
    have hwhole := Drv.mapM_forall₂ (fun c _ => stlink2FetchChunk_whole start c) hfetch
    have hsame := List.forall₂_map_right_iff.mpr hwhole
    rw [List.forall₂_eq_eq_eq] at hsame
    refine ⟨ps, hfetch, rfl, cameIn_of_tiles ?_⟩
    rw [← hsame]
    have htiles := (Tiles.cut_tiles hpos (Nat.le_refl length) 0).1
    rwa [Nat.zero_add] at htiles

end Fetch

end Stm8Flash
