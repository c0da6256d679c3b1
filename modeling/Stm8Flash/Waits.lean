import Stm8Flash.Stlinkv2.Model
import Stm8Flash.Espstlink.Model

/-! # Waiting for the end of programming

A block of the flash or the EEPROM, and an option byte, is programmed when a byte with `EOP`
has been read from `FLASH_IAPSR`. The loops that wait for it (`waitEop`, `tryEop`) take five
readings at most; `eop_awaited_iff` says for which readings a run goes on only after such a
byte. `TRY` stops the program after five readings without `EOP`, the loop for the blocks goes
on; and `espstlink_read_byte` gives `-1` for a reading that fails, in which every bit is set.
-/

namespace Stm8Flash

open Hex Word

section Waits

variable {σ ε : Type}

/-- The readings that a loop of `n` takes: up to one that ends it, where there is one. -/
def samples (read : Drv σ ε Nat) (ends : Nat → Bool) : Nat → σ → List Nat
  | 0, _ => []
  | n + 1, s =>
    match read s with
    | (.ok v, t) => v :: if ends v then [] else samples read ends n t
    | (.error _, _) => []

/-- What `n` readings come to. -/
inductive Decision where
  /-- a reading ended the program -/
  | stopped
  /-- none of the readings ends the loop -/
  | undecided
  /-- the first reading that ends the loop -/
  | reading (v : Nat)
deriving DecidableEq, Repr

/-- What the first `n` readings from `s` on come to. -/
def decision (read : Drv σ ε Nat) (ends : Nat → Bool) : Nat → σ → Decision
  | 0, _ => .undecided
  | n + 1, s =>
    match read s with
    | (.ok v, t) => if ends v then .reading v else decision read ends n t
    | (.error _, _) => .stopped

/-- `EOP` or `WR_PG_DIS` ends the wait after a block. -/
def endsBlockWait (v : Nat) : Bool := v &&& 0x04 ≠ 0 || v &&& 0x01 ≠ 0

/-- `EOP` ends `TRY`. -/
def endsTry (v : Nat) : Bool := v &&& 0x04 ≠ 0

/-- What `espstlink_read_byte` gives for a reading that fails. -/
def failedReading : Nat := 0xFFFFFFFF

/-- A byte with `EOP` is among the readings. -/
def SeenEop (readings : List Nat) : Prop := ∃ v ∈ readings, v < 256 ∧ v &&& 0x04 ≠ 0

/-- One of the five readings ends the wait, and it has not failed; or one ended the program. -/
def BlockDecided (read : Drv σ ε Nat) (s : σ) : Prop :=
  decision read endsBlockWait 5 s ≠ .undecided ∧
    decision read endsBlockWait 5 s ≠ .reading failedReading

/-- The reading that ends `TRY`, where there is one, has not failed. -/
def ByteDecided (read : Drv σ ε Nat) (s : σ) : Prop :=
  decision read endsTry 5 s ≠ .reading failedReading

/-- A run waits in the state `w`: the wait is left only when it has read a byte with `EOP`, and
otherwise the run stops as the wait does. -/
def Awaits {α : Type} (run : Except ε α × σ) (wait : Drv σ ε Unit) (readings : List Nat)
    (w : σ) : Prop :=
  (∀ t, wait w = (.ok (), t) → SeenEop readings) ∧
    ∀ e t, wait w = (.error e, t) → run = (.error e, t)

/-! ## One wait -/

/-- What is read is a byte, or a failure. -/
def ReadsByte (read : Drv σ ε Nat) : Prop :=
  ∀ s v t, read s = (.ok v, t) → v < 256 ∨ v = failedReading

theorem seenEop_singleton {v : Nat} : SeenEop [v] ↔ v < 256 ∧ v &&& 0x04 ≠ 0 := by
  unfold SeenEop
  constructor
  · rintro ⟨x, hx, h⟩
    rw [List.mem_singleton] at hx
    rwa [hx] at h
  · intro h
    exact ⟨v, List.mem_singleton.mpr rfl, h⟩

/-- A reading without `EOP` does not count. -/
theorem seenEop_cons {v : Nat} {readings : List Nat} (h : ¬v &&& 0x04 ≠ 0) :
    SeenEop (v :: readings) ↔ SeenEop readings := by
  unfold SeenEop
  constructor
  · rintro ⟨x, hx, hlt, heop⟩
    rcases List.mem_cons.mp hx with rfl | hx
    · exact absurd heop h
    · exact ⟨x, hx, hlt, heop⟩
  · rintro ⟨x, hx, heop⟩
    exact ⟨x, List.mem_cons_of_mem v hx, heop⟩

/-- The wait is left after a reading with `EOP`: it counts unless it has failed. -/
theorem seenEop_last_iff {v : Nat} (hv : v < 256 ∨ v = failedReading) (heop : v &&& 0x04 ≠ 0) :
    SeenEop [v] ↔ Decision.reading v ≠ .reading failedReading := by
  rw [seenEop_singleton]
  constructor
  · rintro ⟨hlt, -⟩ hfailed
    cases hfailed
    exact absurd hlt (by decide)
  · intro hne
    rcases hv with hlt | rfl
    · exact ⟨hlt, heop⟩
    · exact absurd rfl hne

variable {read : Drv σ ε Nat} {err : ε}

theorem waitEop_seen_iff (hread : ReadsByte read) (n : Nat) (s : σ) :
    (∀ t, waitEop read err n s = (.ok (), t) → SeenEop (samples read endsBlockWait n s)) ↔
      decision read endsBlockWait n s ≠ .undecided ∧
        decision read endsBlockWait n s ≠ .reading failedReading := by
  induction n generalizing s with
  | zero =>
    -- no reading is left, and the program goes on
    refine iff_of_false (fun h => ?_) fun h => absurd rfl h.1
    rcases h s rfl with ⟨v, hv, -⟩
    cases hv
  | succ n ih =>
    unfold waitEop samples decision
    rcases hr : read s with ⟨e | v, t⟩
    · rw [Drv.bind_error hr]
      exact iff_of_true (fun t ht => by cases ht) ⟨by simp, by simp⟩
    · rw [Drv.bind_ok hr]
      simp only
      by_cases heop : v &&& 0x04 ≠ 0
      · have hends : endsBlockWait v = true := by
          unfold endsBlockWait
          rw [decide_eq_true heop, Bool.true_or]
        rw [if_pos heop, hends, if_pos rfl, if_pos rfl, ← seenEop_last_iff (hread s v t hr) heop]
        exact ⟨fun h => ⟨by simp, h t rfl⟩, fun h _ _ => h.2⟩
      · rw [if_neg heop]
        by_cases hprot : v &&& 0x01 ≠ 0
        · -- the program stops; a failed reading has `EOP` as well
          have hends : endsBlockWait v = true := by
            unfold endsBlockWait
            rw [decide_eq_true hprot, Bool.or_true]
          rw [if_pos hprot, hends, if_pos rfl, if_pos rfl]
          refine iff_of_true (fun u hu => by cases hu) ⟨by simp, fun hfailed => ?_⟩
          cases hfailed
          exact heop (by decide)
        · have hends : endsBlockWait v = false := by
            unfold endsBlockWait
            rw [decide_eq_false heop, decide_eq_false hprot, Bool.or_false]
          rw [if_neg hprot, hends, if_neg (by decide), if_neg (by decide), seenEop_cons heop]
          exact ih t

theorem tryEop_seen_iff (hread : ReadsByte read) (n : Nat) (s : σ) :
    (∀ t, tryEop read err n s = (.ok (), t) → SeenEop (samples read endsTry n s)) ↔
      decision read endsTry n s ≠ .reading failedReading := by
  induction n generalizing s with
  | zero => exact iff_of_true (fun t ht => by cases ht) (by simp [decision])
  | succ n ih =>
    unfold tryEop samples decision
    rcases hr : read s with ⟨e | v, t⟩
    · rw [Drv.bind_error hr]
      exact iff_of_true (fun t ht => by cases ht) (by simp)
    · rw [Drv.bind_ok hr]
      simp only
      by_cases heop : v &&& 0x04 ≠ 0
      · have hends : endsTry v = true := decide_eq_true heop
        rw [if_pos heop, hends, if_pos rfl, if_pos rfl, ← seenEop_last_iff (hread s v t hr) heop]
        exact ⟨fun h => h t rfl, fun h _ _ => h⟩
      · have hends : endsTry v = false := decide_eq_false heop
        rw [if_neg heop, hends, if_neg (by decide), if_neg (by decide), seenEop_cons heop]
        exact ih t

end Waits

/-! ## The readings of the back ends -/

theorem headD_lt (bs : List Byte) : (bs.headD 0).toNat < 256 := (bs.headD 0).toNat_lt

theorem swimReadByte_readsByte (d : Stm8Device) (env : Stlinkv2Env) (addr : Nat) :
    ReadsByte (swimReadByte d env addr) := by
  intro s v t h
  unfold swimReadByte at h
  rcases Drv.bind_eq_ok.mp h with ⟨-, _, -, h⟩
  rcases Drv.bind_eq_ok.mp h with ⟨-, _, -, h⟩
  rcases Drv.bind_eq_ok.mp h with ⟨bs, _, -, h⟩
  cases h
  exact Or.inl (headD_lt bs)

theorem espstlinkReadByte_readsByte (d : Stm8Device) (env : EspstlinkEnv) (addr : Nat) :
    ReadsByte ((espSwim d env).readByte addr) := by
  intro s v t h
  unfold EspSwim.readByte at h
  rcases Drv.bind_eq_ok.mp h with ⟨bytes, _, -, h⟩
  cases bytes with
  | none =>
    cases h
    exact Or.inr rfl
  | some bs =>
    cases h
    exact Or.inl (headD_lt bs)

/-! ## The waits of a run -/

section Runs

variable (d : Stm8Device)

/-- In the run of `stlink2_swim_write_range` from `s`, a block of the flash or the EEPROM has
been sent, and is waited for in the state `w`. -/
def Stlink2BlockSent (env : Stlinkv2Env) (buffer : Nat → Byte) (start length : Nat)
    (memtype : Memtype) (s w : Stlinkv2State) : Prop :=
  memtype.isBlock = true ∧ ∃ j v current t u, j < blockRounds d length ∧
    (do
      swimWriteByte d env 0x00 d.regs.clkCkdivr
      stlink2Unlock d env memtype
      stlink2SwimReadRange d env env.stackCurrent start (roundedSize d length)) s =
        (.ok (v, current), t) ∧
    -- the rounds before, and the block of this one
    Drv.forFrom (fun j => stlink2WriteBlock d env memtype
      (mergeTail buffer current length (roundedSize d length)) current start
      (j * d.flashBlockSize)) j 0 t = (.ok (), u) ∧
    Image.slice current (j * d.flashBlockSize) d.flashBlockSize ≠
      Image.slice (mergeTail buffer current length (roundedSize d length))
        (j * d.flashBlockSize) d.flashBlockSize ∧
    (do
      stlink2EnterBlock d env memtype current (j * d.flashBlockSize)
      stlink2SendBlock d env (mergeTail buffer current length (roundedSize d length)) start
        (j * d.flashBlockSize)) u = (.ok (), w)

/-- The same for `espstlink_swim_write_range`. -/
def EspstlinkBlockSent (env : EspstlinkEnv) (buffer : Nat → Byte) (start length : Nat)
    (memtype : Memtype) (s w : EspstlinkState) : Prop :=
  memtype.isBlock = true ∧ ∃ j v current t u, j < blockRounds d length ∧
    (do
      let _ ← (espSwim d env).prepareForFlash d memtype
      espstlinkSwimReadRange d env env.stackCurrent start (roundedSize d length)) s =
        (.ok (v, current), t) ∧
    Drv.loopFrom (fun j => (espSwim d env).writeBlock d memtype
      (mergeTail buffer current length (roundedSize d length)) current start
      (j * d.flashBlockSize)) j 0 t = (.ok none, u) ∧
    Image.slice current (j * d.flashBlockSize) d.flashBlockSize ≠
      Image.slice (mergeTail buffer current length (roundedSize d length))
        (j * d.flashBlockSize) d.flashBlockSize ∧
    (do
      (espSwim d env).enterBlock d memtype current (j * d.flashBlockSize)
      (espSwim d env).swimWrite
        (Image.slice (mergeTail buffer current length (roundedSize d length))
          (j * d.flashBlockSize) d.flashBlockSize)
        (u32 (start + j * d.flashBlockSize)) d.flashBlockSize) u = (.ok true, w)

/-- In the run of `espstlink_swim_write_range` from `s`, an option byte has been written, and
is waited for in the state `w`. -/
def EspstlinkByteSent (env : EspstlinkEnv) (buffer : Nat → Byte) (start length : Nat)
    (s w : EspstlinkState) : Prop :=
  ∃ j ok t u, j < length ∧
    (do
      let _ ← (espSwim d env).prepareForFlash d .opt
      let _ ← (espSwim d env).writeByte 0x80 d.regs.flashCr2
      (espSwim d env).writeNcr2 d 0x7F) s = (.ok (), t) ∧
    Drv.forFrom ((espSwim d env).optByte d buffer start) j 0 t = (.ok (), u) ∧
    (espSwim d env).writeByte (buffer j) (u32 (start + j)) u = (.ok ok, w)

/-! ## A wait that stops, stops the run -/

theorem Memtype.isBlock_ne_opt {memtype : Memtype} (h : memtype.isBlock = true) :
    memtype ≠ .opt := by
  rintro rfl
  exact absurd h (by decide)

variable {d} {buffer : Nat → Byte} {start length : Nat} {memtype : Memtype}

theorem Stlink2BlockSent.stops {env : Stlinkv2Env} {s w t' : Stlinkv2State} {e : Stlinkv2Error}
    (h : Stlink2BlockSent d env buffer start length memtype s w)
    (hwait : stlink2WaitBlock d env memtype w = (.error e, t')) :
    stlink2SwimWriteRange d env buffer start length memtype s = (.error e, t') := by
  rcases h with ⟨hblock, j, v, current, t, u, hj, hbefore, hrounds, hdiffers, hsent⟩
  rcases Drv.bind_eq_ok.mp hbefore with ⟨_, s₁, hckdivr, hbefore⟩
  rcases Drv.bind_eq_ok.mp hbefore with ⟨_, s₂, hunlock, hread⟩
  rcases Drv.bind_eq_ok.mp hsent with ⟨_, u₁, henter, hblockSent⟩
  have hround : stlink2WriteBlock d env memtype
      (mergeTail buffer current length (roundedSize d length)) current start
      ((0 + j) * d.flashBlockSize) u = (.error e, t') := by
    rw [stlink2WriteBlock, Nat.zero_add, if_neg hdiffers, Drv.bind_ok henter,
      Drv.bind_ok hblockSent, hwait]
  have hblocks : stlink2WriteBlocks d env memtype buffer start length s₂ = (.error e, t') := by
    rw [stlink2WriteBlocks, Drv.bind_ok hread]
    exact Drv.forFrom_error hj hrounds hround
  have hdata : stlink2WriteData d env memtype buffer start length s₂ = (.error e, t') := by
    rw [stlink2WriteData, if_neg (Memtype.isBlock_ne_opt hblock), hblocks]
  rw [stlink2SwimWriteRange, Drv.bind_ok hckdivr, Drv.bind_ok hunlock, Drv.bind_error hdata]

theorem EspstlinkBlockSent.stops {env : EspstlinkEnv} {s w t' : EspstlinkState}
    {e : EspstlinkError} (h : EspstlinkBlockSent d env buffer start length memtype s w)
    (hwait : (espSwim d env).waitBlock d memtype w = (.error e, t')) :
    espstlinkSwimWriteRange d env buffer start length memtype s = (.error e, t') := by
  rcases h with ⟨hblock, j, v, current, t, u, hj, hbefore, hrounds, hdiffers, hsent⟩
  rcases Drv.bind_eq_ok.mp hbefore with ⟨ok, s₁, hprepare, hread⟩
  rcases Drv.bind_eq_ok.mp hsent with ⟨_, u₁, henter, hblockSent⟩
  unfold espstlinkSwimReadRange at hread
  have hround : (espSwim d env).writeBlock d memtype
      (mergeTail buffer current length (roundedSize d length)) current start
      ((0 + j) * d.flashBlockSize) u = (.error e, t') := by
    rw [EspSwim.writeBlock, Nat.zero_add, if_neg hdiffers, Drv.bind_ok henter,
      Drv.bind_ok hblockSent, if_pos rfl, Drv.bind_error hwait]
  have hblocks : (espSwim d env).writeBlocks d env.stackCurrent memtype buffer start length s₁ =
      (.error e, t') := by
    rw [EspSwim.writeBlocks, Drv.bind_ok hread]
    exact Drv.loopFrom_error hj hrounds hround
  rw [espstlinkSwimWriteRange, EspSwim.writeRange, Drv.bind_ok hprepare,
    if_neg (Memtype.isBlock_ne_opt hblock), Drv.bind_error hblocks]

theorem EspstlinkByteSent.stops {env : EspstlinkEnv} {s w t' : EspstlinkState}
    {e : EspstlinkError} (h : EspstlinkByteSent d env buffer start length s w)
    (hwait : tryEop ((espSwim d env).readByte d.regs.flashIapsr) .triesExceeded 5 w =
      (.error e, t')) :
    espstlinkSwimWriteRange d env buffer start length .opt s = (.error e, t') := by
  rcases h with ⟨j, ok, t, u, hj, hbefore, hrounds, hsent⟩
  rcases Drv.bind_eq_ok.mp hbefore with ⟨_, s₁, hprepare, hbefore⟩
  rcases Drv.bind_eq_ok.mp hbefore with ⟨_, s₂, hcr2, hncr2⟩
  have hround : (espSwim d env).optByte d buffer start (0 + j) u = (.error e, t') := by
    rw [EspSwim.optByte, Nat.zero_add, Drv.bind_ok hsent, hwait]
  have hopt : (espSwim d env).writeOpt d buffer start length s₁ = (.error e, t') := by
    rw [EspSwim.writeOpt, Drv.bind_ok hcr2, Drv.bind_ok hncr2]
    exact Drv.forFrom_error hj hrounds hround
  rw [espstlinkSwimWriteRange, EspSwim.writeRange, Drv.bind_ok hprepare, if_pos rfl,
    Drv.bind_error hopt]

/-! ## Which runs await the end of programming -/

theorem stlink2_awaits_iff {env : Stlinkv2Env} {s w : Stlinkv2State}
    (h : Stlink2BlockSent d env buffer start length memtype s w) :
    Awaits (stlink2SwimWriteRange d env buffer start length memtype s)
        (stlink2WaitBlock d env memtype)
        (samples (swimReadByte d env d.regs.flashIapsr) endsBlockWait 5 w) w ↔
      BlockDecided (swimReadByte d env d.regs.flashIapsr) w := by
  have hseen := @waitEop_seen_iff _ _ _ Stlinkv2Error.writeProtected
    (swimReadByte_readsByte d env d.regs.flashIapsr) 5 w
  have hwait : stlink2WaitBlock d env memtype =
      waitEop (swimReadByte d env d.regs.flashIapsr) .writeProtected 5 := if_pos h.1
  unfold BlockDecided Awaits
  rw [← hseen, ← hwait]
  exact ⟨fun hboth => hboth.1, fun hok => ⟨hok, fun e t he => h.stops he⟩⟩

theorem espstlink_awaits_iff {env : EspstlinkEnv} {s w : EspstlinkState}
    (h : EspstlinkBlockSent d env buffer start length memtype s w) :
    Awaits (espstlinkSwimWriteRange d env buffer start length memtype s)
        ((espSwim d env).waitBlock d memtype)
        (samples ((espSwim d env).readByte d.regs.flashIapsr) endsBlockWait 5 w) w ↔
      BlockDecided ((espSwim d env).readByte d.regs.flashIapsr) w := by
  have hseen := @waitEop_seen_iff _ _ _ EspstlinkError.writeProtected
    (espstlinkReadByte_readsByte d env d.regs.flashIapsr) 5 w
  have hwait : (espSwim d env).waitBlock d memtype =
      waitEop ((espSwim d env).readByte d.regs.flashIapsr) .writeProtected 5 := if_pos h.1
  unfold BlockDecided Awaits
  rw [← hseen, ← hwait]
  exact ⟨fun hboth => hboth.1, fun hok => ⟨hok, fun e t he => h.stops he⟩⟩

theorem espstlinkByte_awaits_iff {env : EspstlinkEnv} {s w : EspstlinkState}
    (h : EspstlinkByteSent d env buffer start length s w) :
    Awaits (espstlinkSwimWriteRange d env buffer start length .opt s)
        (tryEop ((espSwim d env).readByte d.regs.flashIapsr) .triesExceeded 5)
        (samples ((espSwim d env).readByte d.regs.flashIapsr) endsTry 5 w) w ↔
      ByteDecided ((espSwim d env).readByte d.regs.flashIapsr) w := by
  have hseen := @tryEop_seen_iff _ _ _ EspstlinkError.triesExceeded
    (espstlinkReadByte_readsByte d env d.regs.flashIapsr) 5 w
  unfold ByteDecided Awaits
  rw [← hseen]
  exact ⟨fun hboth => hboth.1, fun hok => ⟨hok, fun e t he => h.stops he⟩⟩

end Runs

/-- A run goes on from a block, or from an option byte on the ESP programmer, only after a byte
with `EOP` has been read, and otherwise stops, exactly when each of its waits is decided: after
a block one of the five readings has `EOP` or `WR_PG_DIS`, and on the ESP programmer the
reading that ends the wait has not failed. -/
theorem eop_awaited_iff (d : Stm8Device) (buffer : Nat → Byte) (start length : Nat)
    (memtype : Memtype) :
    (∀ (env : Stlinkv2Env) (s : Stlinkv2State),
      (∀ w, Stlink2BlockSent d env buffer start length memtype s w →
        Awaits (stlink2SwimWriteRange d env buffer start length memtype s)
          (stlink2WaitBlock d env memtype)
          (samples (swimReadByte d env d.regs.flashIapsr) endsBlockWait 5 w) w) ↔
      ∀ w, Stlink2BlockSent d env buffer start length memtype s w →
        BlockDecided (swimReadByte d env d.regs.flashIapsr) w) ∧
    (∀ (env : EspstlinkEnv) (s : EspstlinkState),
      (∀ w, EspstlinkBlockSent d env buffer start length memtype s w →
        Awaits (espstlinkSwimWriteRange d env buffer start length memtype s)
          ((espSwim d env).waitBlock d memtype)
          (samples ((espSwim d env).readByte d.regs.flashIapsr) endsBlockWait 5 w) w) ↔
      ∀ w, EspstlinkBlockSent d env buffer start length memtype s w →
        BlockDecided ((espSwim d env).readByte d.regs.flashIapsr) w) ∧
    ∀ (env : EspstlinkEnv) (s : EspstlinkState),
      (∀ w, EspstlinkByteSent d env buffer start length s w →
        Awaits (espstlinkSwimWriteRange d env buffer start length .opt s)
          (tryEop ((espSwim d env).readByte d.regs.flashIapsr) .triesExceeded 5)
          (samples ((espSwim d env).readByte d.regs.flashIapsr) endsTry 5 w) w) ↔
      ∀ w, EspstlinkByteSent d env buffer start length s w →
        ByteDecided ((espSwim d env).readByte d.regs.flashIapsr) w := by
  refine ⟨fun env s => ?_, fun env s => ?_, fun env s => ?_⟩
  · exact forall₂_congr fun w hsent => stlink2_awaits_iff hsent
  · exact forall₂_congr fun w hsent => espstlink_awaits_iff hsent
  · exact forall₂_congr fun w hsent => espstlinkByte_awaits_iff hsent

/-! ## Runs that do not wait -/

/-- An ST-Link V2 that answers every command, on silent hardware. -/
def Stlinkv2Env.silent : Stlinkv2Env where
  hw := .silent
  readBufSize := 6144
  transferred := fun _ => true
  replies := fun _ => [(0, 0, 0, 0)]
  stackStatus := fun _ => (0, 0, 0, 0)
  stackCurrent := fun _ => 0

/-- An ESP programmer that answers seven commands: an option byte is written with the last. -/
def EspstlinkEnv.lost : EspstlinkEnv where
  hw := .silent
  answered := fun k => k < 7
  carriedOut := fun _ => false
  stackCurrent := fun _ => 0

/-- After five readings without `EOP` the program goes on with the next block; and after a
reading that has failed it goes on with the next option byte. -/
theorem eop_not_awaited :
    (∃ w, Stlink2BlockSent stm8Devices[0] .silent (fun _ => 0x55) 0x8000 2 .flash
        ⟨.idle fun _ => 0xff, [], 0, 0, []⟩ w ∧
      ¬Awaits (stlink2SwimWriteRange stm8Devices[0] .silent (fun _ => 0x55) 0x8000 2 .flash
          ⟨.idle fun _ => 0xff, [], 0, 0, []⟩)
        (stlink2WaitBlock stm8Devices[0] .silent .flash)
        (samples (swimReadByte stm8Devices[0] .silent stm8Devices[0].regs.flashIapsr)
          endsBlockWait 5 w) w) ∧
    ∃ w, EspstlinkByteSent stm8Devices[0] .lost (fun _ => 0x55) 0x4800 1
        ⟨.idle fun _ => 0xff, 0, []⟩ w ∧
      ¬Awaits (espstlinkSwimWriteRange stm8Devices[0] .lost (fun _ => 0x55) 0x4800 1 .opt
          ⟨.idle fun _ => 0xff, 0, []⟩)
        (tryEop ((espSwim stm8Devices[0] .lost).readByte stm8Devices[0].regs.flashIapsr)
          .triesExceeded 5)
        (samples ((espSwim stm8Devices[0] .lost).readByte stm8Devices[0].regs.flashIapsr)
          endsTry 5 w) w := by
  constructor
  · -- the part before the loop, then the first block
    obtain ⟨⟨v, current⟩, t, hbefore, hcheck⟩ := Drv.run_of_returnsWith (m := do
        swimWriteByte stm8Devices[0] .silent 0x00 stm8Devices[0].regs.clkCkdivr
        stlink2Unlock stm8Devices[0] .silent .flash
        stlink2SwimReadRange stm8Devices[0] .silent Stlinkv2Env.silent.stackCurrent 0x8000
          (roundedSize stm8Devices[0] 2))
      (s := ⟨.idle fun _ => 0xff, [], 0, 0, []⟩) (p := fun r t =>
        Image.slice r.2 0 128 != Image.slice (mergeTail (fun _ => 0x55) r.2 2 128) 0 128 &&
        Drv.returnsWith (fun _ w => decision (swimReadByte stm8Devices[0] .silent
            stm8Devices[0].regs.flashIapsr) endsBlockWait 5 w == .undecided) (do
          stlink2EnterBlock stm8Devices[0] .silent .flash r.2 0
          stlink2SendBlock stm8Devices[0] .silent (mergeTail (fun _ => 0x55) r.2 2 128) 0x8000
            0) t) (by decide +kernel)
    rw [Bool.and_eq_true, bne_iff_ne] at hcheck
    rcases hcheck with ⟨hdiffers, hcheck⟩
    obtain ⟨_, w, hsent, hdecision⟩ := Drv.run_of_returnsWith hcheck
    have hblock : Stlink2BlockSent stm8Devices[0] .silent (fun _ => 0x55) 0x8000 2 .flash
        ⟨.idle fun _ => 0xff, [], 0, 0, []⟩ w :=
      ⟨rfl, 0, v, current, t, t, by decide, hbefore, rfl, hdiffers, hsent⟩
    refine ⟨w, hblock, fun hawaits => ?_⟩
    exact ((stlink2_awaits_iff hblock).mp hawaits).1 (beq_iff_eq.mp hdecision)
  · -- the part before the loop, then the option byte
    obtain ⟨_, t, hbefore, hcheck⟩ := Drv.run_of_returnsWith (m := do
        let _ ← (espSwim stm8Devices[0] .lost).prepareForFlash stm8Devices[0] .opt
        let _ ← (espSwim stm8Devices[0] .lost).writeByte 0x80 stm8Devices[0].regs.flashCr2
        (espSwim stm8Devices[0] .lost).writeNcr2 stm8Devices[0] 0x7F)
      (s := ⟨.idle fun _ => 0xff, 0, []⟩) (p := fun _ t =>
        Drv.returnsWith (fun _ w => decision ((espSwim stm8Devices[0] .lost).readByte
            stm8Devices[0].regs.flashIapsr) endsTry 5 w == .reading failedReading)
          ((espSwim stm8Devices[0] .lost).writeByte 0x55 0x4800) t) (by decide +kernel)
    obtain ⟨ok, w, hsent, hdecision⟩ := Drv.run_of_returnsWith hcheck
    have hbyte : EspstlinkByteSent stm8Devices[0] .lost (fun _ => 0x55) 0x4800 1
        ⟨.idle fun _ => 0xff, 0, []⟩ w :=
      ⟨0, ok, t, t, by decide, hbefore, rfl, hsent⟩
    refine ⟨w, hbyte, fun hawaits => ?_⟩
    exact (espstlinkByte_awaits_iff hbyte).mp hawaits (beq_iff_eq.mp hdecision)

end Stm8Flash
