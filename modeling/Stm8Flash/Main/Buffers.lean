import Stm8Flash.DiffWrite
import Stm8Flash.Main.Model

/-! # The buffers of a WRITE

`main` allocates `bytes_count_align` bytes for `buffer`, the write range `rounded_size` bytes
for `current`. Here the write ranges check every access to the two arrays before they make it,
and stop with `overrun` when it is not inside. `writeRange_in_buffers` says that no check fails:
the checked programs are the programs. `writeRange_sees_buffers` says that no access has been left
unchecked: what is behind the arrays makes no difference.
-/

namespace Stm8Flash

open Hex Word

section Touch

variable {σ ε : Type}

/-- An access to `n` bytes at `i` of an array of `size` bytes. -/
def touch (size i n : Nat) : Drv σ (MainError ε) Unit :=
  if i + n ≤ size then pure () else Drv.stop .overrun

/-- An access inside the array does nothing. -/
theorem touch_bind {α : Type} {size i n : Nat} (h : i + n ≤ size)
    (m : Drv σ (MainError ε) α) : (do touch size i n; m) = m := by
  unfold touch
  rw [if_pos h]
  rfl

/-- What the programmer does is no access outside a buffer. -/
theorem raise_no_overrun {α : Type} (m : Drv σ ε α) (s t : σ) :
    Drv.raise MainError.programmer m s ≠ (.error .overrun, t) := by
  unfold Drv.raise
  rcases m s with ⟨e | a, u⟩
  · intro h
    cases h
  · intro h
    cases h

end Touch

/-! ## ST-Link V2 with checked accesses -/

section Stlinkv2

variable (d : Stm8Device) (env : Stlinkv2Env)

/-- `stlink2ReadLoop` into an array of `size` bytes. -/
def stlink2ReadLoopIn (size : Nat) : Nat → Nat → Nat → Nat → (Nat → Byte) →
    Drv Stlinkv2State (MainError Stlinkv2Error) (Nat → Byte)
  | 0, _, _, remaining, buffer =>
    if remaining = 0 then pure buffer else Drv.stop (.programmer .endless)
  | fuel + 1, i, start, remaining, buffer =>
    if remaining = 0 then pure buffer
    else do
      let n := if remaining > env.readBufSize then env.readBufSize else remaining
      Drv.raise .programmer (swimCmdInternal d env
        (swimMemArgs 0x0b (HI n) (LO n) 0x00 (EX start) (HI start) (LO start)) [])
      Drv.raise .programmer (stlink2CmdInternal d env [0xf4, 0x0c] [])
      touch size i n
      let bs ← Drv.raise .programmer (stlink2MsgRecv env n)
      stlink2ReadLoopIn size fuel (i + n) (u32 (start + n)) (remaining - n)
        (Image.storeAll buffer (Image.block i bs))

/-- `stlink2SwimReadRange` into an array of `size` bytes. -/
def stlink2SwimReadRangeIn (size : Nat) (buffer : Nat → Byte) (start length : Nat) :
    Drv Stlinkv2State (MainError Stlinkv2Error) (Int × (Nat → Byte)) := do
  let buffer ← stlink2ReadLoopIn d env size length 0 start length buffer
  pure (toInt32 length, buffer)

/-- `stlink2OptByte`, with `size` bytes at `buffer`. -/
def stlink2OptByteIn (size : Nat) (buffer : Nat → Byte) (start i : Nat) :
    Drv Stlinkv2State (MainError Stlinkv2Error) Unit := do
  touch size i 1
  Drv.raise .programmer (stlink2OptByte d env buffer start i)

/-- `stlink2WriteBlock`, with `size` bytes at `buffer` and `rounded` bytes at `current`: the
comparison of the block, the zero scan, which looks at the whole block at most, and the
transfer. -/
def stlink2WriteBlockIn (size rounded : Nat) (memtype : Memtype) (buffer current : Nat → Byte)
    (start i : Nat) : Drv Stlinkv2State (MainError Stlinkv2Error) Unit := do
  touch rounded i d.flashBlockSize
  touch size i d.flashBlockSize
  if Image.slice current i d.flashBlockSize = Image.slice buffer i d.flashBlockSize then pure ()
  else do
    touch rounded i d.flashBlockSize
    Drv.raise .programmer (stlink2EnterBlock d env memtype current i)
    touch size i d.flashBlockSize
    Drv.raise .programmer (stlink2SendBlock d env buffer start i)
    Drv.raise .programmer (stlink2WaitBlock d env memtype)

/-- `stlink2WriteBlocks`: the read into `current`, the copy of its tail, the blocks. -/
def stlink2WriteBlocksIn (size : Nat) (memtype : Memtype) (buffer : Nat → Byte)
    (start length : Nat) : Drv Stlinkv2State (MainError Stlinkv2Error) Unit := do
  let (_, current) ← stlink2SwimReadRangeIn d env (roundedSize d length) env.stackCurrent start
    (roundedSize d length)
  touch (roundedSize d length) length (sub32 (roundedSize d length) length)
  touch size length (sub32 (roundedSize d length) length)
  Drv.forFrom (fun j => stlink2WriteBlockIn d env size (roundedSize d length) memtype
    (mergeTail buffer current length (roundedSize d length)) current start
    (j * d.flashBlockSize)) (blockRounds d length) 0

/-- `stlink2WriteOpt`, with `size` bytes at `buffer`. -/
def stlink2WriteOptIn (size : Nat) (buffer : Nat → Byte) (start length : Nat) :
    Drv Stlinkv2State (MainError Stlinkv2Error) Unit := do
  Drv.raise .programmer (swimWriteByte d env 0x80 d.regs.flashCr2)
  Drv.raise .programmer (swimWriteNcr2 d env 0x7F)
  Drv.forFrom (stlink2OptByteIn d env size buffer start) length 0

/-- `stlink2WriteData`, with `size` bytes at `buffer`. -/
def stlink2WriteDataIn (size : Nat) (memtype : Memtype) (buffer : Nat → Byte)
    (start length : Nat) : Drv Stlinkv2State (MainError Stlinkv2Error) Unit :=
  if memtype = .opt then stlink2WriteOptIn d env size buffer start length
  else stlink2WriteBlocksIn d env size memtype buffer start length

/-- `stlink2SwimWriteRange`, with `size` bytes at `buffer`. -/
def stlink2SwimWriteRangeIn (size : Nat) (buffer : Nat → Byte) (start length : Nat)
    (memtype : Memtype) : Drv Stlinkv2State (MainError Stlinkv2Error) Int := do
  Drv.raise .programmer (swimWriteByte d env 0x00 d.regs.clkCkdivr)
  Drv.raise .programmer (stlink2Unlock d env memtype)
  stlink2WriteDataIn d env size memtype buffer start length
  Drv.raise .programmer (stlink2Lock d env memtype)
  pure (toInt32 length)

theorem stlink2ReadLoopIn_eq {size fuel i start remaining : Nat} {buffer : Nat → Byte}
    (h : i + remaining ≤ size) :
    stlink2ReadLoopIn d env size fuel i start remaining buffer =
      Drv.raise .programmer (stlink2ReadLoop d env fuel i start remaining buffer) := by
  induction fuel generalizing i start remaining buffer with
  | zero =>
    unfold stlink2ReadLoopIn stlink2ReadLoop
    rw [Drv.raise_ite]
    rfl
  | succ fuel ih =>
    unfold stlink2ReadLoopIn stlink2ReadLoop
    rw [Drv.raise_ite]
    split
    · rfl
    · have hle : (if remaining > env.readBufSize then env.readBufSize else remaining) ≤
          remaining := by
        split <;> omega
      simp only [Drv.raise_bind]
      rw [touch_bind (by omega)]
      congr 1
      funext _
      congr 1
      funext _
      congr 1
      funext bs
      exact ih (by omega)

theorem stlink2SwimReadRangeIn_eq {size length : Nat} (h : length ≤ size) (buffer : Nat → Byte)
    (start : Nat) :
    stlink2SwimReadRangeIn d env size buffer start length =
      Drv.raise .programmer (stlink2SwimReadRange d env buffer start length) := by
  unfold stlink2SwimReadRangeIn stlink2SwimReadRange
  rw [stlink2ReadLoopIn_eq d env (by omega), Drv.raise_bind]
  rfl

theorem stlink2WriteBlockIn_eq {size rounded : Nat} {memtype : Memtype}
    {buffer current : Nat → Byte} {start i : Nat} (hsize : i + d.flashBlockSize ≤ size)
    (hrounded : i + d.flashBlockSize ≤ rounded) :
    stlink2WriteBlockIn d env size rounded memtype buffer current start i =
      Drv.raise .programmer (stlink2WriteBlock d env memtype buffer current start i) := by
  unfold stlink2WriteBlockIn stlink2WriteBlock
  simp only [touch_bind hsize, touch_bind hrounded, Drv.raise_ite, Drv.raise_bind, Drv.raise_pure]

/-- A length whose blocks lie in both arrays. -/
structure FitsBuffers (d : Stm8Device) (size length : Nat) : Prop where
  block_pos : 0 < d.flashBlockSize
  exact_size : roundedSize d length = blockRounds d length * d.flashBlockSize
  covers : length ≤ roundedSize d length
  fits : roundedSize d length ≤ size
  bounded : size < 2147483648

/-- The copied tail ends where `current` ends. -/
theorem FitsBuffers.tail {d : Stm8Device} {size length : Nat} (h : FitsBuffers d size length) :
    length + sub32 (roundedSize d length) length = roundedSize d length := by
  have hcovers := h.covers
  have hfits := h.fits
  have hbounded := h.bounded
  rw [sub32_of_le hcovers (by omega)]
  omega

/-- The blocks lie inside. -/
theorem FitsBuffers.round {d : Stm8Device} {size length : Nat} (h : FitsBuffers d size length) :
    ∀ j < blockRounds d length,
      j * d.flashBlockSize + d.flashBlockSize ≤ roundedSize d length := by
  intro j hj
  rw [h.exact_size]
  exact round_in_range hj

theorem stlink2WriteBlocksIn_eq {size length : Nat} (h : FitsBuffers d size length)
    (memtype : Memtype) (buffer : Nat → Byte) (start : Nat) :
    stlink2WriteBlocksIn d env size memtype buffer start length =
      Drv.raise .programmer (stlink2WriteBlocks d env memtype buffer start length) := by
  have htail := h.tail
  have hfits := h.fits
  have hround := h.round
  unfold stlink2WriteBlocksIn stlink2WriteBlocks
  refine Drv.raise_bind_of (stlink2SwimReadRangeIn_eq d env (Nat.le_refl _) _ _) ?_
  rintro ⟨_, current⟩
  simp only
  rw [touch_bind (by omega), touch_bind (by omega)]
  refine Drv.raise_forFrom fun j _ hj => ?_
  have hin := hround j (by omega)
  exact stlink2WriteBlockIn_eq d env (by omega) hin

theorem stlink2WriteOptIn_eq {size length : Nat} (h : length ≤ size) (buffer : Nat → Byte)
    (start : Nat) :
    stlink2WriteOptIn d env size buffer start length =
      Drv.raise .programmer (stlink2WriteOpt d env buffer start length) := by
  unfold stlink2WriteOptIn stlink2WriteOpt
  refine Drv.raise_bind_of rfl fun _ => ?_
  refine Drv.raise_bind_of rfl fun _ => ?_
  refine Drv.raise_forFrom fun i _ hi => ?_
  exact touch_bind (by omega) _

/-- With arrays that are large enough the checks change nothing. -/
theorem stlink2SwimWriteRangeIn_eq {size length : Nat} (h : FitsBuffers d size length)
    (buffer : Nat → Byte) (start : Nat) (memtype : Memtype) :
    stlink2SwimWriteRangeIn d env size buffer start length memtype =
      Drv.raise .programmer (stlink2SwimWriteRange d env buffer start length memtype) := by
  have hcovers := h.covers
  have hfits := h.fits
  have hdata : stlink2WriteDataIn d env size memtype buffer start length =
      Drv.raise .programmer (stlink2WriteData d env memtype buffer start length) := by
    unfold stlink2WriteDataIn stlink2WriteData
    rw [Drv.raise_ite, stlink2WriteBlocksIn_eq d env h, stlink2WriteOptIn_eq d env (by omega)]
  unfold stlink2SwimWriteRangeIn stlink2SwimWriteRange
  refine Drv.raise_bind_of rfl fun _ => ?_
  refine Drv.raise_bind_of rfl fun _ => ?_
  refine Drv.raise_bind_of hdata fun _ => ?_
  exact Drv.raise_bind_of rfl fun _ => rfl

end Stlinkv2

/-! ## ESP with checked accesses -/

section Espstlink

variable (d : Stm8Device) (env : EspstlinkEnv)

/-- `EspSwim.readLoop` into an array of `size` bytes; a chunk whose `int` size would be
negative is an access outside it. -/
def espstlinkReadLoopIn (size start length : Nat) : Nat → Nat → (Nat → Byte) →
    Drv EspstlinkState (MainError EspstlinkError) (Nat × (Nat → Byte))
  | 0, i, buffer => pure (i, buffer)
  | fuel + 1, i, buffer =>
    if i < length then
      if length - i < 2147483648 then do
        let n := if length - i > 255 then 255 else length - i
        touch size i n
        let bytes ← Drv.raise .programmer ((espSwim d env).swimRead (u32 (start + i)) n)
        match bytes with
        | some bs =>
          espstlinkReadLoopIn size start length fuel (i + n)
            (Image.storeAll buffer (Image.block i bs))
        | none => pure (i, buffer)
      else Drv.stop .overrun
    else pure (i, buffer)

/-- `espstlinkSwimReadRange` into an array of `size` bytes. -/
def espstlinkSwimReadRangeIn (size : Nat) (buffer : Nat → Byte) (start length : Nat) :
    Drv EspstlinkState (MainError EspstlinkError) (Int × (Nat → Byte)) := do
  let (i, buffer) ← espstlinkReadLoopIn d env size start length length 0 buffer
  pure (toInt32 i, buffer)

/-- `EspSwim.optByte`, with `size` bytes at `buffer`. -/
def espstlinkOptByteIn (size : Nat) (buffer : Nat → Byte) (start i : Nat) :
    Drv EspstlinkState (MainError EspstlinkError) Unit := do
  touch size i 1
  Drv.raise .programmer ((espSwim d env).optByte d buffer start i)

/-- `EspSwim.writeBlock`, with `size` bytes at `buffer` and `rounded` bytes at `current`. The
zero scan is made for `FLASH` and `EEPROM` only. -/
def espstlinkWriteBlockIn (size rounded : Nat) (memtype : Memtype)
    (buffer current : Nat → Byte) (start i : Nat) :
    Drv EspstlinkState (MainError EspstlinkError) (Option Nat) := do
  touch rounded i d.flashBlockSize
  touch size i d.flashBlockSize
  if Image.slice current i d.flashBlockSize = Image.slice buffer i d.flashBlockSize then pure none
  else do
    touch rounded i (if memtype.isBlock then d.flashBlockSize else 0)
    Drv.raise .programmer ((espSwim d env).enterBlock d memtype current i)
    touch size i d.flashBlockSize
    let ok ← Drv.raise .programmer ((espSwim d env).swimWrite
      (Image.slice buffer i d.flashBlockSize) (u32 (start + i)) d.flashBlockSize)
    if ok then do
      Drv.raise .programmer ((espSwim d env).waitBlock d memtype)
      pure none
    else pure (some i)

/-- `EspSwim.writeBlocks`, with `size` bytes at `buffer`. -/
def espstlinkWriteBlocksIn (size : Nat) (memtype : Memtype) (buffer : Nat → Byte)
    (start length : Nat) : Drv EspstlinkState (MainError EspstlinkError) (Option Nat) := do
  let (_, current) ← espstlinkSwimReadRangeIn d env (roundedSize d length) env.stackCurrent start
    (roundedSize d length)
  touch (roundedSize d length) length (sub32 (roundedSize d length) length)
  touch size length (sub32 (roundedSize d length) length)
  Drv.loopFrom (fun j => espstlinkWriteBlockIn d env size (roundedSize d length) memtype
    (mergeTail buffer current length (roundedSize d length)) current start
    (j * d.flashBlockSize)) (blockRounds d length) 0

/-- `EspSwim.writeOpt`, with `size` bytes at `buffer`. -/
def espstlinkWriteOptIn (size : Nat) (buffer : Nat → Byte) (start length : Nat) :
    Drv EspstlinkState (MainError EspstlinkError) Unit := do
  let _ ← Drv.raise .programmer ((espSwim d env).writeByte 0x80 d.regs.flashCr2)
  Drv.raise .programmer ((espSwim d env).writeNcr2 d 0x7F)
  Drv.forFrom (espstlinkOptByteIn d env size buffer start) length 0

/-- `espstlinkSwimWriteRange`, with `size` bytes at `buffer`. -/
def espstlinkSwimWriteRangeIn (size : Nat) (buffer : Nat → Byte) (start length : Nat)
    (memtype : Memtype) : Drv EspstlinkState (MainError EspstlinkError) Int := do
  let _ ← Drv.raise .programmer ((espSwim d env).prepareForFlash d memtype)
  if memtype = .opt then do
    espstlinkWriteOptIn d env size buffer start length
    Drv.raise .programmer ((espSwim d env).lock d memtype)
    pure (toInt32 length)
  else do
    let failed ← espstlinkWriteBlocksIn d env size memtype buffer start length
    match failed with
    | some i => pure (toInt32 i)
    | none => do
      Drv.raise .programmer ((espSwim d env).lock d memtype)
      pure (toInt32 (blockRounds d length * d.flashBlockSize))

theorem espstlinkReadLoopIn_eq {size start length fuel i : Nat} {buffer : Nat → Byte}
    (hle : length ≤ size) (hlt : length < 2147483648) :
    espstlinkReadLoopIn d env size start length fuel i buffer =
      Drv.raise .programmer ((espSwim d env).readLoop start length fuel i buffer) := by
  induction fuel generalizing i buffer with
  | zero => rfl
  | succ fuel ih =>
    unfold espstlinkReadLoopIn EspSwim.readLoop
    by_cases hi : i < length
    · have hchunk : i + (if length - i > 255 then 255 else length - i) ≤ size := by
        split <;> omega
      have hint : length - i < 2147483648 := by omega
      rw [if_pos hi, if_pos hi, if_pos hint, if_pos hint]
      simp only
      rw [touch_bind hchunk]
      refine Drv.raise_bind_of rfl fun bytes => ?_
      cases bytes with
      | some bs => exact ih
      | none => rfl
    · rw [if_neg hi, if_neg hi]
      rfl

theorem espstlinkSwimReadRangeIn_eq {size length : Nat} (hle : length ≤ size)
    (hlt : length < 2147483648) (buffer : Nat → Byte) (start : Nat) :
    espstlinkSwimReadRangeIn d env size buffer start length =
      Drv.raise .programmer (espstlinkSwimReadRange d env buffer start length) := by
  unfold espstlinkSwimReadRangeIn espstlinkSwimReadRange EspSwim.readRange
  rw [espstlinkReadLoopIn_eq d env hle hlt, Drv.raise_bind]
  rfl

theorem espstlinkWriteBlockIn_eq {size rounded : Nat} {memtype : Memtype}
    {buffer current : Nat → Byte} {start i : Nat} (hsize : i + d.flashBlockSize ≤ size)
    (hrounded : i + d.flashBlockSize ≤ rounded) :
    espstlinkWriteBlockIn d env size rounded memtype buffer current start i =
      Drv.raise .programmer ((espSwim d env).writeBlock d memtype buffer current start i) := by
  have hscan : i + (if memtype.isBlock then d.flashBlockSize else 0) ≤ rounded := by
    split <;> omega
  unfold espstlinkWriteBlockIn EspSwim.writeBlock
  simp only [touch_bind hsize, touch_bind hrounded, touch_bind hscan, Drv.raise_ite,
    Drv.raise_bind, Drv.raise_pure]

theorem espstlinkWriteBlocksIn_eq {size length : Nat} (h : FitsBuffers d size length)
    (memtype : Memtype) (buffer : Nat → Byte) (start : Nat) :
    espstlinkWriteBlocksIn d env size memtype buffer start length =
      Drv.raise .programmer
        ((espSwim d env).writeBlocks d env.stackCurrent memtype buffer start length) := by
  have htail := h.tail
  have hfits := h.fits
  have hbounded := h.bounded
  have hround := h.round
  unfold espstlinkWriteBlocksIn EspSwim.writeBlocks
  refine Drv.raise_bind_of (espstlinkSwimReadRangeIn_eq d env (Nat.le_refl _) (by omega) _ _) ?_
  rintro ⟨_, current⟩
  simp only
  rw [touch_bind (by omega), touch_bind (by omega)]
  refine Drv.raise_loopFrom fun j _ hj => ?_
  have hin := hround j (by omega)
  exact espstlinkWriteBlockIn_eq d env (by omega) hin

theorem espstlinkWriteOptIn_eq {size length : Nat} (h : length ≤ size) (buffer : Nat → Byte)
    (start : Nat) :
    espstlinkWriteOptIn d env size buffer start length =
      Drv.raise .programmer ((espSwim d env).writeOpt d buffer start length) := by
  unfold espstlinkWriteOptIn EspSwim.writeOpt
  refine Drv.raise_bind_of rfl fun _ => ?_
  refine Drv.raise_bind_of rfl fun _ => ?_
  refine Drv.raise_forFrom fun i _ hi => ?_
  exact touch_bind (by omega) _

/-- With arrays that are large enough the checks change nothing. -/
theorem espstlinkSwimWriteRangeIn_eq {size length : Nat} (h : FitsBuffers d size length)
    (buffer : Nat → Byte) (start : Nat) (memtype : Memtype) :
    espstlinkSwimWriteRangeIn d env size buffer start length memtype =
      Drv.raise .programmer (espstlinkSwimWriteRange d env buffer start length memtype) := by
  have hcovers := h.covers
  have hfits := h.fits
  unfold espstlinkSwimWriteRangeIn espstlinkSwimWriteRange EspSwim.writeRange
  refine Drv.raise_bind_of rfl fun _ => ?_
  rw [Drv.raise_ite]
  congr 1
  · refine Drv.raise_bind_of (espstlinkWriteOptIn_eq d env (by omega) _ _) fun _ => ?_
    exact Drv.raise_bind_of rfl fun _ => rfl
  · refine Drv.raise_bind_of (espstlinkWriteBlocksIn_eq d env h _ _ _) fun failed => ?_
    cases failed with
    | some i => rfl
    | none => exact Drv.raise_bind_of rfl fun _ => rfl

end Espstlink

/-! ## What a run depends on -/

/-- The arrays hold the same bytes below `n`. -/
def SameBelow (n : Nat) (buffer buffer' : Nat → Byte) : Prop := ∀ k < n, buffer k = buffer' k

namespace SameBelow

variable {n : Nat} {buffer buffer' current current' : Nat → Byte}

theorem slice (h : SameBelow n buffer buffer') {i m : Nat} (hin : i + m ≤ n) :
    Image.slice buffer i m = Image.slice buffer' i m := by
  rw [Image.slice_eq_iff]
  intro k hk
  exact h (i + k) (by omega)

theorem store (h : SameBelow n buffer buffer') (stores : List (Nat × Byte)) :
    SameBelow n (Image.storeAll buffer stores) (Image.storeAll buffer' stores) :=
  fun k hk => Image.storeAll_congr _ _ _ _ (h k hk)

/-- The copied tail hides what `buffer` holds behind the length. -/
theorem mergeTail {length : Nat} (h : SameBelow length buffer buffer')
    (hcurrent : SameBelow n current current') :
    SameBelow n (mergeTail buffer current length n) (mergeTail buffer' current' length n) := by
  intro k hk
  unfold Stm8Flash.mergeTail
  by_cases htail : length ≤ k
  · rw [if_pos ⟨htail, hk⟩, if_pos ⟨htail, hk⟩]
    exact hcurrent k hk
  · rw [if_neg fun hboth => htail hboth.1, if_neg fun hboth => htail hboth.1]
    exact h k (by omega)

theorem prgmode (h : SameBelow n current current') {d : Stm8Device} {i : Nat}
    (hin : i + d.flashBlockSize ≤ n) : prgmode d current i = prgmode d current' i := by
  unfold Stm8Flash.prgmode
  rw [h.slice hin]

end SameBelow

section Congr

variable {d : Stm8Device} {buffer buffer' current current' : Nat → Byte} {start length : Nat}

/-- What follows the loop gets two arrays that are the same where they were before. -/
theorem stlink2ReadLoop_congr {α : Type} {env : Stlinkv2Env} {n : Nat}
    {k k' : (Nat → Byte) → Stlinkv2 α} (hk : ∀ c c', SameBelow n c c' → k c = k' c')
    (fuel i start remaining : Nat) (h : SameBelow n buffer buffer') :
    stlink2ReadLoop d env fuel i start remaining buffer >>= k =
      stlink2ReadLoop d env fuel i start remaining buffer' >>= k' := by
  induction fuel generalizing i start remaining buffer buffer' with
  | zero =>
    unfold stlink2ReadLoop
    split
    · exact hk _ _ h
    · rfl
  | succ fuel ih =>
    unfold stlink2ReadLoop
    split
    · exact hk _ _ h
    · simp only [bind_assoc]
      congr 1
      funext _
      congr 1
      funext _
      congr 1
      funext bs
      exact ih _ _ _ (h.store _)

theorem stlink2ReadLoop_stackCurrent (env : Stlinkv2Env) (current : Nat → Byte) :
    stlink2ReadLoop d { env with stackCurrent := current } = stlink2ReadLoop d env := by
  funext fuel i start remaining buffer
  induction fuel generalizing i start remaining buffer with
  | zero => rfl
  | succ fuel ih =>
    unfold stlink2ReadLoop
    simp only [ih]
    rfl

theorem stlink2SwimReadRange_congr {α : Type} {env : Stlinkv2Env} {n : Nat}
    {k k' : Int × (Nat → Byte) → Stlinkv2 α}
    (hk : ∀ v c c', SameBelow n c c' → k (v, c) = k' (v, c')) (h : SameBelow n buffer buffer') :
    stlink2SwimReadRange d { env with stackCurrent := current } buffer start length >>= k =
      stlink2SwimReadRange d { env with stackCurrent := current' } buffer' start length >>= k' := by
  unfold stlink2SwimReadRange
  rw [bind_assoc, bind_assoc, stlink2ReadLoop_stackCurrent env current,
    stlink2ReadLoop_stackCurrent env current']
  exact stlink2ReadLoop_congr (fun c c' hc => hk (toInt32 length) c c' hc) _ _ _ _ h

theorem stlink2WriteBlock_stackCurrent (env : Stlinkv2Env) (current : Nat → Byte) :
    stlink2WriteBlock d { env with stackCurrent := current } = stlink2WriteBlock d env := rfl

/-- A block depends on the bytes of the block in both arrays. -/
theorem stlink2WriteBlock_congr {env : Stlinkv2Env} {n i : Nat} (h : SameBelow n buffer buffer')
    (hcurrent : SameBelow n current current') (hin : i + d.flashBlockSize ≤ n)
    (memtype : Memtype) :
    stlink2WriteBlock d env memtype buffer current start i =
      stlink2WriteBlock d env memtype buffer' current' start i := by
  unfold stlink2WriteBlock stlink2EnterBlock stlink2SendBlock
  rw [h.slice hin, hcurrent.slice hin, hcurrent.prgmode hin]

theorem espstlinkReadLoop_congr {σ α : Type} {lib : EspSwim σ EspstlinkError} {n : Nat}
    {k k' : Nat × (Nat → Byte) → Drv σ EspstlinkError α}
    (hk : ∀ i c c', SameBelow n c c' → k (i, c) = k' (i, c')) (fuel i : Nat)
    (h : SameBelow n buffer buffer') :
    lib.readLoop start length fuel i buffer >>= k =
      lib.readLoop start length fuel i buffer' >>= k' := by
  induction fuel generalizing i buffer buffer' with
  | zero => exact hk i _ _ h
  | succ fuel ih =>
    unfold EspSwim.readLoop
    split
    · split
      · simp only [bind_assoc]
        congr 1
        funext bytes
        cases bytes with
        | some bs => exact ih _ (h.store _)
        | none => exact hk i _ _ h
      · rfl
    · exact hk i _ _ h

theorem espstlinkReadRange_congr {σ α : Type} {lib : EspSwim σ EspstlinkError} {n : Nat}
    {k k' : Int × (Nat → Byte) → Drv σ EspstlinkError α}
    (hk : ∀ v c c', SameBelow n c c' → k (v, c) = k' (v, c')) (h : SameBelow n buffer buffer') :
    lib.readRange buffer start length >>= k = lib.readRange buffer' start length >>= k' := by
  unfold EspSwim.readRange
  rw [bind_assoc, bind_assoc]
  exact espstlinkReadLoop_congr (fun i c c' hc => hk (toInt32 i) c c' hc) _ _ h

theorem espstlinkWriteBlock_congr {σ : Type} {lib : EspSwim σ EspstlinkError} {n i : Nat}
    (h : SameBelow n buffer buffer') (hcurrent : SameBelow n current current')
    (hin : i + d.flashBlockSize ≤ n) (memtype : Memtype) :
    lib.writeBlock d memtype buffer current start i =
      lib.writeBlock d memtype buffer' current' start i := by
  unfold EspSwim.writeBlock EspSwim.enterBlock
  rw [h.slice hin, hcurrent.slice hin, hcurrent.prgmode hin]

variable {size : Nat} (hfits : FitsBuffers d size length) (h : SameBelow length buffer buffer')
  (hcurrent : SameBelow (roundedSize d length) current current')

include hfits h hcurrent

theorem espstlinkWriteBlocks_congr {σ : Type} (lib : EspSwim σ EspstlinkError)
    (memtype : Memtype) :
    lib.writeBlocks d current memtype buffer start length =
      lib.writeBlocks d current' memtype buffer' start length := by
  unfold EspSwim.writeBlocks
  refine espstlinkReadRange_congr (fun _ c c' hc => ?_) hcurrent
  refine Drv.loopFrom_congr fun j _ hj => ?_
  have hin := hfits.round j (by omega)
  exact espstlinkWriteBlock_congr (h.mergeTail hc) hc hin memtype

theorem espstlinkWriteRange_congr {σ : Type} (lib : EspSwim σ EspstlinkError)
    (memtype : Memtype) :
    lib.writeRange d current buffer start length memtype =
      lib.writeRange d current' buffer' start length memtype := by
  have hblocks := @espstlinkWriteBlocks_congr d buffer buffer' current current' start length size
    hfits h hcurrent σ lib memtype
  have hopt : lib.writeOpt d buffer start length = lib.writeOpt d buffer' start length := by
    have hbytes (i : Nat) (hi : i < 0 + length) :
        lib.optByte d buffer start i = lib.optByte d buffer' start i := by
      unfold EspSwim.optByte
      rw [h i (by omega)]
    unfold EspSwim.writeOpt
    rw [Drv.forFrom_congr fun i _ hi => hbytes i hi]
  unfold EspSwim.writeRange
  rw [hblocks, hopt]

theorem stlink2WriteBlocks_congr (env : Stlinkv2Env) (memtype : Memtype) :
    stlink2WriteBlocks d { env with stackCurrent := current } memtype buffer start length =
      stlink2WriteBlocks d { env with stackCurrent := current' } memtype buffer' start length := by
  unfold stlink2WriteBlocks
  refine stlink2SwimReadRange_congr (fun _ c c' hc => ?_) hcurrent
  refine Drv.forFrom_congr fun j _ hj => ?_
  have hin := hfits.round j (by omega)
  rw [stlink2WriteBlock_stackCurrent env current, stlink2WriteBlock_stackCurrent env current']
  exact stlink2WriteBlock_congr (h.mergeTail hc) hc hin memtype

omit hfits hcurrent in
theorem stlink2WriteOpt_congr (env : Stlinkv2Env) :
    stlink2WriteOpt d { env with stackCurrent := current } buffer start length =
      stlink2WriteOpt d { env with stackCurrent := current' } buffer' start length := by
  have hbytes (i : Nat) (hi : i < 0 + length) :
      stlink2OptByte d { env with stackCurrent := current } buffer start i =
        stlink2OptByte d { env with stackCurrent := current' } buffer' start i := by
    unfold stlink2OptByte
    rw [h i (by omega)]
    rfl
  unfold stlink2WriteOpt
  rw [Drv.forFrom_congr fun i _ hi => hbytes i hi]
  rfl

theorem stlink2SwimWriteRange_congr (env : Stlinkv2Env) (memtype : Memtype) :
    stlink2SwimWriteRange d { env with stackCurrent := current } buffer start length memtype =
      stlink2SwimWriteRange d { env with stackCurrent := current' } buffer' start length
        memtype := by
  have hdata : stlink2WriteData d { env with stackCurrent := current } memtype buffer start length =
      stlink2WriteData d { env with stackCurrent := current' } memtype buffer' start length := by
    unfold stlink2WriteData
    rw [stlink2WriteBlocks_congr hfits h hcurrent, stlink2WriteOpt_congr h]
  unfold stlink2SwimWriteRange
  rw [hdata]
  rfl

end Congr

/-! ## The two roundings -/

section Rounding

variable {d : Stm8Device}

/-- The rounds cover the length. -/
theorem length_le_blockRounds (hpos : 0 < d.flashBlockSize) (length : Nat) :
    length ≤ blockRounds d length * d.flashBlockSize := by
  unfold blockRounds
  have hdiv := Nat.div_add_mod (length + d.flashBlockSize - 1) d.flashBlockSize
  have hmod := Nat.mod_lt (length + d.flashBlockSize - 1) hpos
  rw [Nat.mul_comm] at hdiv
  omega

/-- They end less than one block behind it. -/
theorem blockRounds_lt (hpos : 0 < d.flashBlockSize) (length : Nat) :
    blockRounds d length * d.flashBlockSize < length + d.flashBlockSize := by
  unfold blockRounds
  have hdiv := Nat.div_mul_le_self (length + d.flashBlockSize - 1) d.flashBlockSize
  omega

/-- A longer request has as many rounds or more. -/
theorem blockRounds_mono {n k : Nat} (h : n ≤ k) :
    blockRounds d n * d.flashBlockSize ≤ blockRounds d k * d.flashBlockSize := by
  unfold blockRounds
  exact Nat.mul_le_mul_right _ (Nat.div_le_div_right (by omega))

/-- The unsigned rounding is exact where the size of the blocks divides 2^32: at 0 the
subtraction wraps to the last word, and the rounded size wraps back. -/
theorem roundedSize_exact (hpos : 0 < d.flashBlockSize) (hdvd : d.flashBlockSize ∣ 4294967296)
    {length : Nat} (h : blockRounds d length * d.flashBlockSize < 4294967296) :
    roundedSize d length = blockRounds d length * d.flashBlockSize := by
  have hle := length_le_blockRounds hpos length
  rcases Nat.eq_zero_or_pos length with rfl | hlen
  · obtain ⟨c, hc⟩ := hdvd
    have hrounds : blockRounds d 0 = 0 := by
      unfold blockRounds
      exact Nat.div_eq_of_lt (by omega)
    have hdiv : sub32 0 1 / d.flashBlockSize + 1 = c := by
      rw [← Nat.add_div_right _ hpos]
      apply Nat.div_eq_of_lt_le
      · rw [Nat.mul_comm, ← hc]
        unfold sub32
        omega
      · rw [Nat.add_mul, Nat.mul_comm, ← hc]
        unfold sub32
        omega
    unfold roundedSize
    rw [hdiv, hrounds, Nat.mul_comm, ← hc, Nat.zero_mul]
    rfl
  · have hdiv : sub32 length 1 / d.flashBlockSize + 1 = blockRounds d length := by
      unfold blockRounds
      rw [sub32_of_le hlen (by omega), ← Nat.add_div_right _ hpos]
      congr 1
      omega
    unfold roundedSize
    rw [hdiv, u32_of_lt h]

end Rounding

/-- For every number of bytes up to `count` both arrays are large enough. -/
theorem fitsBuffers {d : Stm8Device} (hdvd : d.flashBlockSize ∣ 4294967296)
    (hlt : d.flashBlockSize < 4294967296) {count length size : Nat} (hint : count < 2147483648)
    (hle : length ≤ count) (hsize : toInt32 (roundedSize d count) = size) :
    FitsBuffers d size length := by
  have hpos : 0 < d.flashBlockSize := Nat.pos_of_dvd_of_pos hdvd (by omega)
  -- a proper divisor of 2^32 is at most its half
  have hhalf : d.flashBlockSize ≤ 2147483648 := by
    obtain ⟨c, hc⟩ := hdvd
    have hc2 : 2 ≤ c := by
      by_contra hsmall
      have : c = 0 ∨ c = 1 := by omega
      rcases this with rfl | rfl
      · omega
      · omega
    have hmul := Nat.mul_le_mul_left d.flashBlockSize hc2
    omega
  have hcount := blockRounds_lt hpos count
  have hmono := blockRounds_mono (d := d) hle
  have hlength := length_le_blockRounds hpos length
  have hlast : blockRounds d count * d.flashBlockSize < 4294967296 := by omega
  rw [roundedSize_exact hpos hdvd hlast] at hsize
  refine ⟨hpos, roundedSize_exact hpos hdvd (by omega), ?_, ?_, ?_⟩
  · rw [roundedSize_exact hpos hdvd (by omega)]
    exact hlength
  · rw [roundedSize_exact hpos hdvd (by omega)]
    unfold toInt32 at hsize
    split at hsize <;> omega
  · have hmax := toInt32_lt (blockRounds d count * d.flashBlockSize)
    omega

/-- In the memory areas of the table `bytes_count_align` is no negative number, which `malloc`
would refuse. -/
theorem bytesCountAlign_nonneg {d : Stm8Device} (hd : d ∈ stm8Devices) {kind : Memtype}
    {a areaSize count : Nat} (harea : memtypeArea d kind = some (a, areaSize))
    (hle : count ≤ areaSize) : 0 ≤ toInt32 (roundedSize d count) := by
  have hsound := stm8Devices_sound d hd
  have hall : ∀ d ∈ stm8Devices, d.ramSize ≤ 0x20000 ∧ d.eepromSize ≤ 0x20000 ∧
      d.flashSize ≤ 0x20000 := by decide
  rcases hall d hd with ⟨hram, heeprom, hflash⟩
  have hsize : areaSize ≤ 0x20000 := by
    cases kind with
    | ram =>
      cases harea
      exact hram
    | eeprom =>
      cases harea
      exact heeprom
    | flash =>
      cases harea
      exact hflash
    | opt =>
      cases harea
      split <;> omega
    | unknown => cases harea
  have hrounds := rounds_lt hsound count
  rw [roundedSize_eq hsound (by omega), toInt32_of_lt (by omega)]
  omega

/-- `main`'s `bytes_count_align` bytes at `buffer` and the `rounded_size` bytes at `current` are
enough for every number of bytes up to `bytes_count`: the last block ends at the rounded size,
also for 0 bytes, and neither `stlink2_swim_write_range` nor `espstlink_swim_write_range`
touches a byte behind an array. -/
theorem writeRange_in_buffers {d : Stm8Device} (hdvd : d.flashBlockSize ∣ 4294967296)
    (hlt : d.flashBlockSize < 4294967296) {count length : Nat}
    (hint : count < 2147483648) (hle : length ≤ count) :
    (∀ o : MainOptions, o.part = d → o.count = count →
      writeAlign o = toInt32 (roundedSize d count)) ∧
    (d ∈ stm8Devices → ∀ kind a areaSize, memtypeArea d kind = some (a, areaSize) →
      count ≤ areaSize → 0 ≤ toInt32 (roundedSize d count)) ∧
    ∀ size : Nat, toInt32 (roundedSize d count) = size →
      roundedSize d length = blockRounds d length * d.flashBlockSize ∧
      length ≤ roundedSize d length ∧ roundedSize d length ≤ size ∧
      (∀ env buffer start memtype,
        stlink2SwimWriteRangeIn d env size buffer start length memtype =
          Drv.raise .programmer (stlink2SwimWriteRange d env buffer start length memtype) ∧
        ∀ s t, stlink2SwimWriteRangeIn d env size buffer start length memtype s ≠
          (.error .overrun, t)) ∧
      ∀ env buffer start memtype,
        espstlinkSwimWriteRangeIn d env size buffer start length memtype =
          Drv.raise .programmer (espstlinkSwimWriteRange d env buffer start length memtype) ∧
        ∀ s t, espstlinkSwimWriteRangeIn d env size buffer start length memtype s ≠
          (.error .overrun, t) := by
  refine ⟨?_, fun hd kind a areaSize harea hsize => bytesCountAlign_nonneg hd harea hsize, ?_⟩
  · intro o hpart hcount
    unfold writeAlign
    rw [hpart, hcount, ofInt32_natCast (by omega)]
  · intro size hsize
    have h := fitsBuffers hdvd hlt hint hle hsize
    refine ⟨h.exact_size, h.covers, h.fits, fun env buffer start memtype => ?_,
      fun env buffer start memtype => ?_⟩
    · have heq := stlink2SwimWriteRangeIn_eq d env h buffer start memtype
      refine ⟨heq, fun s t => ?_⟩
      rw [heq]
      exact raise_no_overrun _ s t
    · have heq := espstlinkSwimWriteRangeIn_eq d env h buffer start memtype
      refine ⟨heq, fun s t => ?_⟩
      rw [heq]
      exact raise_no_overrun _ s t

/-- 100 of 129 bytes, with 256 bytes at `buffer`. -/
theorem writeRange_in_buffers_flash :
    roundedSize stm8Devices[0] 100 ≤ 256 ∧
    (∀ s t, stlink2SwimWriteRangeIn stm8Devices[0] .answering 256 (fun _ => 0) 0x8000 100 .flash s ≠
      (.error .overrun, t)) ∧
    ∀ s t, espstlinkSwimWriteRangeIn stm8Devices[0] .answering 256 (fun _ => 0) 0x8000 100 .flash
      s ≠ (.error .overrun, t) := by
  obtain ⟨-, -, hfits⟩ := @writeRange_in_buffers stm8Devices[0] (by decide) (by decide) 129 100
    (by decide) (by decide)
  obtain ⟨-, -, hle, hv2, hesp⟩ := hfits 256 (by decide)
  exact ⟨hle, (hv2 _ _ _ _).2, (hesp _ _ _ _).2⟩

/-- What the run does depends on the `length` bytes at `buffer` and the `rounded_size` bytes at
`current`, and on nothing behind them. -/
theorem writeRange_sees_buffers {d : Stm8Device} (hdvd : d.flashBlockSize ∣ 4294967296)
    (hlt : d.flashBlockSize < 4294967296) {count length size : Nat}
    (hint : count < 2147483648) (hle : length ≤ count)
    (hsize : toInt32 (roundedSize d count) = size) {buffer buffer' current current' : Nat → Byte}
    (h : SameBelow length buffer buffer')
    (hcurrent : SameBelow (roundedSize d length) current current') (start : Nat)
    (memtype : Memtype) :
    (∀ env : Stlinkv2Env,
      stlink2SwimWriteRange d { env with stackCurrent := current } buffer start length memtype =
        stlink2SwimWriteRange d { env with stackCurrent := current' } buffer' start length
          memtype) ∧
    ∀ env : EspstlinkEnv,
      espstlinkSwimWriteRange d { env with stackCurrent := current } buffer start length memtype =
        espstlinkSwimWriteRange d { env with stackCurrent := current' } buffer' start length
          memtype := by
  have hfits := fitsBuffers hdvd hlt hint hle hsize
  constructor
  · intro env
    exact stlink2SwimWriteRange_congr hfits h hcurrent env memtype
  · intro env
    exact espstlinkWriteRange_congr hfits h hcurrent (espSwim d env) memtype

end Stm8Flash
