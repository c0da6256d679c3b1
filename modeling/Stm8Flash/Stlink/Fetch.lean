import Stm8Flash.Pieces
import Stm8Flash.Stlink.Read

/-! # ST-Link V1: what comes in for a read

`stlink_cmd` ignores how many bytes `stlink_read` has got. So a read returns `length` whatever
the data phases of its chunks have brought, and the buffer is filled exactly when none of them
was short (`stlinkFetches_cameIn_iff`).
-/

namespace Stm8Flash

open Hex Word

/-- A data phase: the offset in the buffer, the number of the transfer and what came in. -/
structure StlinkFetch where
  offset : Nat
  transfer : Nat
  bytes : List Byte
deriving DecidableEq, Repr

def StlinkFetch.piece (f : StlinkFetch) : Piece Byte := (f.offset, f.bytes)

section Fetch

variable (d : Stm8Device) (env : StlinkEnv)

/-- The size of the chunk at `buffer + i`. -/
def stlinkChunkSize (length i : Nat) : Nat :=
  if length - i > stlkReadBufferSize then stlkReadBufferSize else length - i

/-- The commands for the chunk at `buffer + i`, with its data phase. -/
def stlinkFetchChunk (start length i : Nat) : Stlink StlinkFetch :=
  if length - i < 2147483648 then do
    let _ ← stlinkCmd d env 0 0x80
      (stlinkReadArgs 0x0b (u32 (start + i)) (stlinkChunkSize length i)) []
    let _ ← stlinkSwimWait d env
    let s ← Drv.state
    let args := stlinkReadArgs 0x0c (u32 (start + i)) (stlinkChunkSize length i)
    stlinkSendCbw env ⟨stlinkChunkSize length i, 0x80, args.length, stlinkCb args⟩
    Drv.change fun s => stlinkReceive d env.hw
      (packUsbCbw ⟨stlinkChunkSize length i, 0x80, args.length, stlinkCb args⟩) [] s
    let u ← Drv.state
    let bytes ← stlinkDataPhase env s.readbuf (stlinkChunkSize length i)
    let _ ← stlinkReadCsw env
    pure ⟨i, u.transfers, bytes⟩
  else Drv.stop .overrun

/-- The data phases of a read. -/
def stlinkFetches (start length : Nat) : Stlink (List StlinkFetch) := do
  stlinkInitSession d env
  let _ ← stlinkSwimWriteByte d env 0x00 d.regs.clkCkdivr
  (List.range (stlinkReadRounds length)).mapM fun j =>
    stlinkFetchChunk d env start length (j * stlkReadBufferSize)

variable {d} {env}

theorem stlinkChunkSize_eq (length i : Nat) : stlinkChunkSize length i = min (length - i) 6144 := by
  unfold stlinkChunkSize stlkReadBufferSize
  split <;> omega

theorem stlinkReadChunk_fetch (start length i : Nat) (buffer : Nat → Byte) :
    stlinkReadChunk d env start length i buffer =
      stlinkFetchChunk d env start length i >>= fun f =>
        pure (Image.storeAll buffer (Image.block f.offset f.bytes)) := by
  unfold stlinkReadChunk stlinkFetchChunk
  by_cases hlen : length - i < 2147483648
  · rw [if_pos hlen, if_pos hlen]
    simp only [stlinkCmd, bind_assoc, pure_bind]
    -- the number of the transfer is not looked at
    rfl
  · rw [if_neg hlen, if_neg hlen]
    rfl

/-- The read is its data phases, stored one after the other, and the end of the session. -/
theorem stlinkSwimReadRange_fetch (buffer : Nat → Byte) (start length : Nat) :
    stlinkSwimReadRange d env buffer start length =
      (stlinkFetches d env start length >>= fun fs =>
        stlinkFinishSession d env >>= fun _ =>
          pure (toInt32 length, fs.foldl (fun buffer f =>
            Image.storeAll buffer (Image.block f.offset f.bytes)) buffer)) := by
  have hloop := Drv.foldFrom_mapM (fun j a => @stlinkReadChunk_fetch d env start length
    (j * stlkReadBufferSize) a) (stlinkReadRounds length) 0 buffer
  unfold stlinkSwimReadRange stlinkFetches
  rw [hloop, List.range_eq_range']
  simp only [bind_assoc, pure_bind]

/-- A data phase brings in what was asked for, less what is missing. -/
theorem stlinkFetchChunk_bytes (start : Nat) {length i : Nat} (hi : i < length) :
    Drv.Triple (fun _ => True) (stlinkFetchChunk d env start length i)
      (fun f _ => f.offset = i ∧
        f.bytes.length = stlinkChunkSize length i - env.missing f.transfer)
      (fun _ _ => True) := by
  have hsize : 0 < stlinkChunkSize length i ∧ stlinkChunkSize length i < 65536 := by
    rw [stlinkChunkSize_eq]
    omega
  refine Drv.Triple.ite (fun _ => ?_) fun _ => Drv.Triple.stop fun _ _ => trivial
  -- the programmer has as many bytes as it was asked to read
  have hhas {α : Type} {prog : Stlink α} (h : Drv.Keeps StlinkState.kept prog) :
      Drv.Triple (fun s => s.readbuf.length = stlinkChunkSize length i) prog
        (fun _ s => s.readbuf.length = stlinkChunkSize length i) (fun _ _ => True) :=
    (h.comp fun k => k.2.1.length).partial_triple (· = stlinkChunkSize length i)
  refine Drv.Triple.bind (Q := fun _ s => s.readbuf.length = stlinkChunkSize length i) ?_
    fun _ => ?_
  · intro s _
    refine ((stlinkCmd_read 0x80 (u32 (start + i)) hsize.2).post fun _ u hu => ?_) s rfl
    rw [hu.2, Target.read_length]
  refine (hhas stlinkSwimWait_kept).bind fun _ => ?_
  intro s hs
  rw [Drv.state_bind_run]
  refine Drv.Triple.bind (Drv.Triple.trivial _) (fun _ => Drv.Triple.bind (Drv.Triple.trivial _)
    fun _ => ?_) s trivial
  intro u _
  rw [Drv.state_bind_run]
  unfold stlinkDataPhase
  rw [if_pos (by omega)]
  refine Drv.Triple.bind (Q := fun bytes _ => bytes.length =
    stlinkChunkSize length i - env.missing u.transfers) ?_ (fun bytes => ?_) u rfl
  · -- the data phase is the next transfer
    unfold stlinkRead
    refine Drv.Triple.bind (P := fun w => u = w) (Q := fun k _ => k = u.transfers) ?_
      fun k => Drv.Triple.pure fun _ hk => ?_
    · rintro w rfl
      unfold stlinkTransfer
      rw [Drv.state_bind_run, Drv.change_bind_run]
      by_cases hmoved : env.transferred u.transfers = true
      · rw [if_pos hmoved]
        exact rfl
      · rw [if_neg hmoved]
        trivial
    · rw [List.length_take, hs, hk]
      omega
  · intro w hbytes
    refine (Drv.Triple.bind (Q := fun _ _ => True) (Drv.Triple.trivial _) fun _ =>
      Drv.Triple.pure fun _ _ => ⟨rfl, hbytes⟩) w trivial

/-- The data phases of a read, chunk by chunk. -/
theorem stlinkFetches_bytes {start length : Nat} {s t : StlinkState} {fs : List StlinkFetch}
    (hrun : stlinkFetches d env start length s = (.ok fs, t)) :
    List.Forall₂ (fun j f => f.offset = j * stlkReadBufferSize ∧
      f.bytes.length = stlinkChunkSize length (j * stlkReadBufferSize) -
        env.missing f.transfer) (List.range (stlinkReadRounds length)) fs := by
  unfold stlinkFetches at hrun
  rcases Drv.bind_eq_ok.mp hrun with ⟨_, u, -, hrun⟩
  rcases Drv.bind_eq_ok.mp hrun with ⟨_, w, -, hrun⟩
  refine Drv.mapM_forall₂ (fun j hj => ?_) hrun
  exact stlinkFetchChunk_bytes start (stlinkReadRound_next (List.mem_range.mp hj)).1

/-- The data phases fill the buffer exactly when none of them is short. -/
theorem stlinkFetches_cameIn_iff {start length : Nat} {s t : StlinkState} {fs : List StlinkFetch}
    (hrun : stlinkFetches d env start length s = (.ok fs, t)) :
    CameIn (fs.map StlinkFetch.piece) length ↔ ∀ f ∈ fs, env.missing f.transfer = 0 := by
  obtain ⟨hlen, hall⟩ := List.forall₂_iff_get.mp (stlinkFetches_bytes hrun)
  rw [List.length_range] at hlen
  have hfetch (j : Nat) (hj : j < fs.length) : fs[j].offset = j * stlkReadBufferSize ∧
      fs[j].bytes.length = stlinkChunkSize length (j * stlkReadBufferSize) -
        env.missing fs[j].transfer := by
    simpa using hall j (by rw [List.length_range]; omega) hj
  constructor
  · intro hcame f hf
    by_contra hmissing
    obtain ⟨j, hj, rfl⟩ := List.getElem_of_mem hf
    obtain ⟨hlt, -⟩ := @stlinkReadRound_next length j (by omega)
    have hsize := stlinkChunkSize_eq length (j * stlkReadBufferSize)
    have hbytes := (hfetch j hj).2
    -- the first byte of the chunk that is missing
    obtain ⟨p, hp, hwithin⟩ := hcame (j * stlkReadBufferSize + fs[j].bytes.length) (by omega)
    obtain ⟨f', hf', rfl⟩ := List.mem_map.mp hp
    obtain ⟨j', hj', rfl⟩ := List.getElem_of_mem hf'
    rcases hfetch j' hj' with ⟨hoffset, hbytes'⟩
    have hsize' := stlinkChunkSize_eq length (j' * stlkReadBufferSize)
    unfold Tiles.Within StlinkFetch.piece at hwithin
    simp only [hoffset] at hwithin
    have hsame : j' = j := by
      unfold stlkReadBufferSize at *
      omega
    subst hsame
    omega
  · intro hcomplete k hk
    have hround : k / stlkReadBufferSize < stlinkReadRounds length := by
      unfold stlinkReadRounds stlkReadBufferSize
      omega
    have hj : k / stlkReadBufferSize < fs.length := by omega
    have hsize := stlinkChunkSize_eq length (k / stlkReadBufferSize * stlkReadBufferSize)
    rcases hfetch _ hj with ⟨hoffset, hbytes⟩
    rw [hcomplete _ (List.getElem_mem hj), hsize, Nat.sub_zero] at hbytes
    refine ⟨fs[k / stlkReadBufferSize].piece, List.mem_map_of_mem (List.getElem_mem hj), ?_⟩
    unfold Tiles.Within StlinkFetch.piece
    simp only [hoffset, hbytes]
    unfold stlkReadBufferSize
    omega

end Fetch

end Stm8Flash
