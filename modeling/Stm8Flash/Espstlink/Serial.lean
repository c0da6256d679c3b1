import Stm8Flash.Lib.Drv
import Stm8Flash.Lib.Image
import Stm8Flash.Lib.Hex
import Mathlib.Tactic.SplitIfs

/-! # Responses on the serial line

`error_check` of `libespstlink.c` over `read()`. The line is the list of bytes that the
device still sends; a call of `read` takes some of the next bytes, one at least while there
are any, and which number is up to the line (`chunk`). The data of `espstlink_error_t` are
those of the error; `strerror(errno)` is left out of the messages.

`error_check` takes what one `read` returns for all there is to read, and its receive loop
asks for `size` bytes in every round, so its result depends on the split of the stream
(`errorCheck_split_iff`). A complete answer with nothing behind it is read alike in every
split (`serialSwimRead_answer`).
-/

namespace Stm8Flash

open Hex

/-- The errors that `error_check` sets. -/
inductive SerialError where
  /-- `Didn't get a response from the device: %s` -/
  | noResponse
  /-- `Unexpected data: %02x`, and `error.data` -/
  | unexpectedData (byte : Byte) (data : List Byte)
  /-- `Device didn't finish command 0x%02x (%s): %s` -/
  | unfinished (command : Byte)
  /-- `Incomplete response for command 0x%02x (%s): expected %d bytes, but got %d bytes
  (%s)` -/
  | incomplete (command : Byte) (size len : Nat)
  /-- `Device didn't finish sending error code for command 0x%02x (%s): %s` -/
  | unfinishedCode (command : Byte)
  /-- `Command 0x%02x (%s) failed with code: 0x%02x (%s)` -/
  | failed (command : Byte) (code : Nat)
  /-- `Unexpected error code for command 0x%02x (%s): 0x%02x`, and `error.data` -/
  | unexpectedCode (command status : Byte) (data : List Byte)
deriving DecidableEq, Repr

structure SerialState where
  /-- what the device still sends -/
  stream : List Byte
  /-- calls of `read` -/
  calls : Nat
  /-- stores into `resp_buf`, oldest first -/
  stores : List (Nat × Byte)

/-- The state when `error_check` is called. -/
def SerialState.init (stream : List Byte) : SerialState :=
  { stream := stream, calls := 0, stores := [] }

/-- A run of the functions on the line. -/
abbrev Serial (α : Type) : Type := Drv SerialState SerialError α

section Serial

variable (chunk : Nat → Nat)

/-- `read(fd, buf, n)`: the `k`-th call takes `chunk k` of the next bytes, but one at least
and `n` at most, and none at the end of the stream. -/
def serialRead (n : Nat) : Serial (List Byte) := do
  let s ← Drv.state
  let bytes := s.stream.take (min (max 1 (chunk s.calls)) n)
  Drv.change fun s => { s with stream := s.stream.drop bytes.length, calls := s.calls + 1 }
  pure bytes

/-- The receive loop from `total` on. A round gets a byte at least, so `size` rounds are
enough. -/
def errorCheckReceive (command : Byte) (size : Nat) : Nat → Nat → Serial Unit
  | 0, _ => pure ()
  | fuel + 1, total =>
    if total < size then do
      let bytes ← serialRead chunk size
      Drv.change fun s => { s with stores := s.stores ++ Image.block total bytes }
      if bytes.length < 1 then Drv.stop (.incomplete command size bytes.length)
      else errorCheckReceive command size fuel (total + bytes.length)
    else pure ()

/-- `error_check(fd, command, resp_buf, size)`; `resp` says that `resp_buf` is not `NULL`.
It stops with the error it sets when it returns 0. `error.data` has 256 bytes. -/
def errorCheck (command : Byte) (resp : Bool) (size : Nat) : Serial Unit := do
  let first ← serialRead chunk 1
  match first with
  | [] => Drv.stop .noResponse
  | b0 :: _ =>
    if b0 ≠ command then do
      let data ← serialRead chunk 255
      Drv.stop (.unexpectedData b0 (b0 :: data))
    else do
      let second ← serialRead chunk 1
      match second with
      | [] => Drv.stop (.unfinished b0)
      | b1 :: _ =>
        if b1 = 0 then
          if resp ∧ size ≠ 0 then errorCheckReceive chunk b0 size size 0 else pure ()
        else if b1 = 0xFF then do
          let code ← serialRead chunk 2
          match code with
          | [b2, b3] => Drv.stop (.failed b0 (b2.toNat <<< 8 ||| b3.toNat))
          | _ => Drv.stop (.unfinishedCode b0)
        else do
          let data ← serialRead chunk 254
          Drv.stop (.unexpectedCode b0 b1 (b0 :: b1 :: data))

/-- `espstlink_swim_read(pgm, buffer, addr, size)` behind its `write`: the bytes copied to
`buffer`, from a `resp_buf` that held `stack`. -/
def serialSwimRead (stack : Nat → Byte) (size : Nat) : Serial (List Byte) := do
  errorCheck chunk 1 true ((UInt8.ofNat size).toNat + 4)
  let s ← Drv.state
  -- len and three bytes of address come before the data
  pure (Image.slice (Image.storeAll stack s.stores) 4 size)

end Serial

/-- The run of `error_check` on the stream. -/
def errorCheckRun (chunk : Nat → Nat) (command : Byte) (resp : Bool) (size : Nat)
    (stream : List Byte) : Except SerialError Unit × SerialState :=
  errorCheck chunk command resp size (SerialState.init stream)

/-- The verdict, the stores and the number of bytes consumed do not depend on how `read`
splits the stream; no store lies behind `size`, and on success `2 + size` bytes are
consumed. -/
def SplitIndependent (command : Byte) (resp : Bool) (size : Nat) (stream : List Byte) : Prop :=
  ∀ chunk chunk',
    let r := errorCheckRun chunk command resp size stream
    let r' := errorCheckRun chunk' command resp size stream
    r.1.toBool = r'.1.toBool ∧ r.2.stores = r'.2.stores ∧ (∀ p ∈ r.2.stores, p.1 < size) ∧
      r.2.stream.length = r'.2.stream.length ∧
      (r.1.toBool = true → r.2.stream.length + (2 + size) = stream.length)

/-- No call of `read` has a choice that matters: the stream ends with the answer, or one
byte is all that is asked for. -/
def SplitSafe (command : Byte) (resp : Bool) (size : Nat) : List Byte → Prop
  | [] => True
  | b0 :: rest =>
    if b0 ≠ command then rest.length ≤ 1
    else match rest with
      | [] => True
      | b1 :: rest =>
        if b1 = 0 then
          if resp ∧ size ≠ 0 then size = 1 ∨ rest.length ≤ size else size = 0
        else rest.length ≤ 1

/-! ## One call of `read` -/

theorem serialRead_run (chunk : Nat → Nat) (n : Nat) (s : SerialState) :
    serialRead chunk n s = (.ok (s.stream.take (min (max 1 (chunk s.calls)) n)),
      { s with stream := s.stream.drop (min (max 1 (chunk s.calls)) n), calls := s.calls + 1 }) := by
  unfold serialRead
  rw [Drv.state_bind_run, Drv.change_bind_run, List.length_take]
  generalize min (max 1 (chunk s.calls)) n = k
  have hdrop : s.stream.drop (min k s.stream.length) = s.stream.drop k := by
    by_cases hk : k ≤ s.stream.length
    · rw [Nat.min_eq_left hk]
    · rw [Nat.min_eq_right (by omega), List.drop_eq_nil_of_le (Nat.le_refl _),
        List.drop_eq_nil_of_le (by omega)]
  rw [hdrop]
  rfl

/-- Where one byte is asked for, one byte is read. -/
theorem serialRead_one (chunk : Nat → Nat) {b : Byte} {rest : List Byte} {s : SerialState}
    (h : s.stream = b :: rest) :
    serialRead chunk 1 s = (.ok [b], { s with stream := rest, calls := s.calls + 1 }) := by
  have hone : min (max 1 (chunk s.calls)) 1 = 1 := by omega
  rw [serialRead_run, hone, h]
  rfl

theorem serialRead_nil (chunk : Nat → Nat) (n : Nat) {s : SerialState} (h : s.stream = []) :
    serialRead chunk n s = (.ok [], { s with calls := s.calls + 1 }) := by
  rw [serialRead_run, h, List.take_nil, List.drop_nil, ← h]

/-! ## The ways through `error_check` -/

section Ways

variable (chunk : Nat → Nat) (command : Byte) (resp : Bool) (size : Nat)

theorem errorCheck_nil :
    errorCheckRun chunk command resp size [] = (.error .noResponse, ⟨[], 1, []⟩) := by
  unfold errorCheckRun errorCheck
  rw [Drv.bind_ok (serialRead_nil chunk 1 rfl)]
  rfl

/-- Another byte than the command: what follows goes to `error.data`. -/
theorem errorCheck_unexpected {b0 : Byte} (h : b0 ≠ command) (rest : List Byte) :
    ∃ e, errorCheckRun chunk command resp size (b0 :: rest) =
      (.error e, ⟨rest.drop (min (max 1 (chunk 1)) 255), 2, []⟩) := by
  unfold errorCheckRun errorCheck
  rw [Drv.bind_ok (serialRead_one chunk rfl)]
  simp only
  rw [if_pos h, Drv.bind_ok (serialRead_run chunk 255 _)]
  exact ⟨_, rfl⟩

theorem errorCheck_unfinished :
    errorCheckRun chunk command resp size [command] = (.error (.unfinished command), ⟨[], 2, []⟩) := by
  unfold errorCheckRun errorCheck
  rw [Drv.bind_ok (serialRead_one chunk rfl)]
  simp only
  rw [if_neg (not_not.mpr rfl), Drv.bind_ok (serialRead_nil chunk 1 rfl)]
  rfl

/-- The command and the status 0: the response follows. -/
theorem errorCheck_accepted (rest : List Byte) :
    errorCheckRun chunk command resp size (command :: 0 :: rest) =
      (if resp ∧ size ≠ 0 then errorCheckReceive chunk command size size 0 else pure ())
        ⟨rest, 2, []⟩ := by
  unfold errorCheckRun errorCheck
  rw [Drv.bind_ok (serialRead_one chunk rfl)]
  simp only
  rw [if_neg (not_not.mpr rfl), Drv.bind_ok (serialRead_one chunk rfl)]
  rfl

/-- The error that a code of two bytes, or of fewer, leads to. -/
def codeError (command : Byte) : List Byte → SerialError
  | [b2, b3] => .failed command (b2.toNat <<< 8 ||| b3.toNat)
  | _ => .unfinishedCode command

theorem errorCode_stops (code : List Byte) (s : SerialState) :
    (match code with
      | [b2, b3] => Drv.stop (.failed command (b2.toNat <<< 8 ||| b3.toNat))
      | _ => Drv.stop (.unfinishedCode command) : Serial Unit) s =
      (.error (codeError command code), s) := by
  rcases code with _ | ⟨b2, _ | ⟨b3, _ | ⟨b4, code⟩⟩⟩ <;> rfl

/-- The command and another status: what follows is an error code, or goes to
`error.data`. -/
theorem errorCheck_status {b1 : Byte} (h : b1 ≠ 0) (rest : List Byte) :
    ∃ e n, 2 ≤ n ∧ errorCheckRun chunk command resp size (command :: b1 :: rest) =
      (.error e, ⟨rest.drop (min (max 1 (chunk 2)) n), 3, []⟩) := by
  unfold errorCheckRun errorCheck
  rw [Drv.bind_ok (serialRead_one chunk rfl)]
  simp only
  rw [if_neg (not_not.mpr rfl), Drv.bind_ok (serialRead_one chunk rfl)]
  simp only
  rw [if_neg h]
  by_cases hcode : b1 = 0xFF
  · rw [if_pos hcode, Drv.bind_ok (serialRead_run chunk 2 _)]
    refine ⟨_, 2, Nat.le_refl 2, errorCode_stops command (rest.take (min (max 1 (chunk 2)) 2)) _⟩
  · rw [if_neg hcode, Drv.bind_ok (serialRead_run chunk 254 _)]
    exact ⟨_, 254, by decide, rfl⟩

/-- A response that is not followed by anything is read to its end in every split. -/
theorem errorCheckReceive_fits {fuel total : Nat} {s : SerialState}
    (hfit : total + s.stream.length ≤ size) (hfuel : size ≤ fuel + total) :
    ∃ c, errorCheckReceive chunk command size fuel total s =
      (if total + s.stream.length = size then .ok () else .error (.incomplete command size 0),
        ⟨[], c, s.stores ++ Image.block total s.stream⟩) := by
  induction fuel generalizing total s with
  | zero =>
    have hnil : s.stream = [] := List.eq_nil_of_length_eq_zero (by omega)
    rw [if_pos (by omega)]
    exact ⟨s.calls, by rw [hnil, Image.block_nil, List.append_nil, ← hnil]; rfl⟩
  | succ fuel ih =>
    unfold errorCheckReceive
    by_cases hlt : total < size
    · rw [if_pos hlt, Drv.bind_ok (serialRead_run chunk size s), Drv.change_bind_run]
      generalize hk : min (max 1 (chunk s.calls)) size = k
      have hpos : 1 ≤ k := by omega
      by_cases hnil : s.stream = []
      · -- the stream is at its end, and bytes are missing
        rw [hnil, List.take_nil, List.drop_nil, if_pos (by decide), List.length_nil,
          if_neg (by omega)]
        exact ⟨_, rfl⟩
      · have hlen : 0 < s.stream.length := List.length_pos_iff.mpr hnil
        have htake : (s.stream.take k).length = min k s.stream.length := List.length_take
        rw [if_neg (by omega), htake]
        obtain ⟨c, hrun⟩ := @ih (total + min k s.stream.length)
          { stream := s.stream.drop k, calls := s.calls + 1
            stores := s.stores ++ Image.block total (s.stream.take k) }
          (by rw [List.length_drop]; omega) (by omega)
        refine ⟨c, ?_⟩
        have hsum : total + min k s.stream.length + (s.stream.length - k) =
            total + s.stream.length := by omega
        have hblock : Image.block total (s.stream.take k) ++
            Image.block (total + min k s.stream.length) (s.stream.drop k) =
            Image.block total s.stream := by
          rw [← htake, ← Image.block_append, List.take_append_drop]
        rw [hrun, List.length_drop, hsum, List.append_assoc, hblock]
    · have hnil : s.stream = [] := List.eq_nil_of_length_eq_zero (by omega)
      rw [if_neg hlt, if_pos (by omega)]
      exact ⟨s.calls, by rw [hnil, Image.block_nil, List.append_nil, ← hnil]; rfl⟩

end Ways

/-- An answer that does not begin with the command and the status 0 is refused, and nothing is
stored. -/
theorem errorCheck_refused (chunk : Nat → Nat) {command : Byte} (resp : Bool) (size : Nat)
    {stream : List Byte} (h : ¬[command, 0] <+: stream) :
    ∃ e t, errorCheckRun chunk command resp size stream = (.error e, t) ∧ t.stores = [] := by
  rcases stream with _ | ⟨b0, rest⟩
  · exact ⟨_, _, errorCheck_nil chunk command resp size, rfl⟩
  by_cases hb0 : b0 = command
  · subst hb0
    rcases rest with _ | ⟨b1, rest⟩
    · exact ⟨_, _, errorCheck_unfinished chunk b0 resp size, rfl⟩
    have hb1 : b1 ≠ 0 := by
      rintro rfl
      exact h ⟨rest, rfl⟩
    obtain ⟨e, n, -, hrun⟩ := errorCheck_status chunk b0 resp size hb1 rest
    exact ⟨_, _, hrun, rfl⟩
  · obtain ⟨e, hrun⟩ := errorCheck_unexpected chunk command resp size hb0 rest
    exact ⟨_, _, hrun, rfl⟩

/-- Where no more than the response comes, all of it goes into its place, whatever the verdict. -/
theorem errorCheck_stores_lt (chunk : Nat → Nat) (command : Byte) (resp : Bool) {size : Nat}
    {stream : List Byte} (hstream : stream.length ≤ 2 + size) :
    ∀ p ∈ (errorCheckRun chunk command resp size stream).2.stores, p.1 < size := by
  by_cases hstart : [command, 0] <+: stream
  · obtain ⟨rest, rfl⟩ : ∃ rest, stream = command :: 0 :: rest := hstart.imp fun _ h => h.symm
    rw [errorCheck_accepted]
    split
    · obtain ⟨c, hrun⟩ := @errorCheckReceive_fits chunk command size size 0 ⟨rest, 2, []⟩
        (by simp at hstream ⊢; omega) (Nat.le_refl _)
      rw [hrun]
      intro p hp
      have hlt := (Image.block_addr hp).2
      simp at hstream hlt
      omega
    · simp
  · obtain ⟨e, t, hrun, hstores⟩ := errorCheck_refused chunk resp size hstart
    rw [hrun, hstores]
    simp

/-! ## Which streams may be split in any way -/

/-- Where the rest of the stream goes to one `read` of two bytes or more. -/
theorem splitIndependent_drain {command : Byte} {resp : Bool} {size j : Nat}
    {stream rest : List Byte}
    (h : ∀ chunk, ∃ e n c, 2 ≤ n ∧ errorCheckRun chunk command resp size stream =
      (.error e, ⟨rest.drop (min (max 1 (chunk j)) n), c, []⟩)) :
    SplitIndependent command resp size stream ↔ rest.length ≤ 1 := by
  constructor
  · intro hsplit
    by_contra hlong
    rcases h fun _ => 1 with ⟨e, n, c, hn, hrun⟩
    rcases h fun _ => 2 with ⟨e', n', c', hn', hrun'⟩
    have heq := (hsplit (fun _ => 1) fun _ => 2).2.2.2.1
    rw [hrun, hrun'] at heq
    simp only [List.length_drop] at heq
    omega
  · intro hshort chunk chunk'
    rcases h chunk with ⟨e, n, c, hn, hrun⟩
    rcases h chunk' with ⟨e', n', c', hn', hrun'⟩
    rw [hrun, hrun']
    refine ⟨rfl, rfl, by simp, ?_, fun hok => by cases hok⟩
    simp only [List.length_drop]
    omega

/-- One round of the receive loop that gets bytes. -/
theorem errorCheckReceive_round (chunk : Nat → Nat) (command : Byte) {size fuel total k : Nat}
    {s : SerialState} (hlt : total < size) (hk : min (max 1 (chunk s.calls)) size = k)
    (hlen : k ≤ s.stream.length) :
    errorCheckReceive chunk command size (fuel + 1) total s =
      errorCheckReceive chunk command size fuel (total + k)
        { stream := s.stream.drop k, calls := s.calls + 1
          stores := s.stores ++ Image.block total (s.stream.take k) } := by
  have htake : (s.stream.take k).length = k := by
    rw [List.length_take]
    omega
  conv_lhs => unfold errorCheckReceive
  rw [if_pos hlt, Drv.bind_ok (serialRead_run chunk size s), hk, Drv.change_bind_run, htake,
    if_neg (by omega)]

/-- Once the bytes are there, the loop is left. -/
theorem errorCheckReceive_done (chunk : Nat → Nat) (command : Byte) {size fuel total : Nat}
    (s : SerialState) (hge : size ≤ total) :
    errorCheckReceive chunk command size fuel total s = (.ok (), s) := by
  cases fuel with
  | zero => rfl
  | succ fuel =>
    unfold errorCheckReceive
    rw [if_neg (by omega)]
    rfl

/-- Bytes behind a response of two bytes or more are taken with it, when a `read` comes
back with less than it asked for. -/
theorem not_splitIndependent_of_long {command : Byte} {resp : Bool} {size : Nat}
    {rest : List Byte} (hresp : resp = true) (hsize : 2 ≤ size) (hlong : size < rest.length) :
    ¬SplitIndependent command resp size (command :: 0 :: rest) := by
  intro hsplit
  -- the first round gets one byte, the second one `size`
  let chunk : Nat → Nat := fun k => if k = 2 then 1 else size
  have hcount := (hsplit chunk chunk).2.2.2.2
  have hrun : errorCheckRun chunk command resp size (command :: 0 :: rest) =
      (.ok (), { stream := (rest.drop 1).drop size, calls := 4
                 stores := [] ++ Image.block 0 (rest.take 1) ++
                   Image.block (0 + 1) ((rest.drop 1).take size) }) := by
    obtain ⟨fuel, hfuel⟩ : ∃ fuel, size = fuel + 1 + 1 := ⟨size - 2, by omega⟩
    have hfirst : min (max 1 (chunk 2)) size = 1 := by
      have : chunk 2 = 1 := if_pos rfl
      omega
    have hsecond : min (max 1 (chunk 3)) size = size := by
      have : chunk 3 = size := if_neg (by decide)
      omega
    have hone : 1 ≤ rest.length := by omega
    have hrest : size ≤ (rest.drop 1).length := by
      rw [List.length_drop]
      omega
    have hfuelRun : errorCheckReceive chunk command size size 0 ⟨rest, 2, []⟩ =
        errorCheckReceive chunk command size (fuel + 1 + 1) 0 ⟨rest, 2, []⟩ := by rw [← hfuel]
    rw [errorCheck_accepted, if_pos ⟨hresp, by omega⟩, hfuelRun,
      errorCheckReceive_round chunk command (by omega) hfirst hone,
      errorCheckReceive_round chunk command (by omega) hsecond hrest,
      errorCheckReceive_done chunk command _ (by omega)]
  rw [hrun] at hcount
  have hleft := hcount rfl
  rw [List.length_drop, List.length_drop, List.length_cons, List.length_cons] at hleft
  omega

/-- A response with nothing behind it, whole or not. -/
theorem splitIndependent_of_fits {command : Byte} {resp : Bool} {size : Nat}
    {rest : List Byte} (hresp : resp ∧ size ≠ 0) (hfit : rest.length ≤ size) :
    SplitIndependent command resp size (command :: 0 :: rest) := by
  have hrun : ∀ chunk, ∃ c, errorCheckRun chunk command resp size (command :: 0 :: rest) =
      (if rest.length = size then .ok () else .error (.incomplete command size 0),
        ⟨[], c, Image.block 0 rest⟩) := by
    intro chunk
    rcases @errorCheckReceive_fits chunk command size size 0 ⟨rest, 2, []⟩ (by simpa using hfit) (Nat.le_refl size) with ⟨c, hc⟩
    refine ⟨c, ?_⟩
    rw [errorCheck_accepted, if_pos hresp, hc, Nat.zero_add, List.nil_append]
  intro chunk chunk'
  rcases hrun chunk with ⟨c, hc⟩
  rcases hrun chunk' with ⟨c', hc'⟩
  rw [hc, hc']
  refine ⟨rfl, rfl, ?_, rfl, ?_⟩
  · intro p hp
    have := Image.block_addr hp
    omega
  · intro hok
    by_cases hfull : rest.length = size
    · simp only [List.length_nil, List.length_cons]
      omega
    · rw [if_neg hfull] at hok
      cases hok

/-- A response of one byte: what follows it is left on the line. -/
theorem splitIndependent_of_one {command : Byte} {resp : Bool} {rest : List Byte}
    (hresp : resp = true) : SplitIndependent command resp 1 (command :: 0 :: rest) := by
  rcases rest with _ | ⟨b, rest⟩
  · exact splitIndependent_of_fits ⟨hresp, by decide⟩ (Nat.zero_le 1)
  · have hrun : ∀ chunk, errorCheckRun chunk command resp 1 (command :: 0 :: b :: rest) =
        (.ok (), ⟨rest, 3, Image.block 0 [b]⟩) := by
      intro chunk
      rw [errorCheck_accepted, if_pos ⟨hresp, by decide⟩,
        errorCheckReceive_round chunk command (by decide) (by omega : _ = 1)
          (by rw [List.length_cons]; omega)]
      rfl
    intro chunk chunk'
    rw [hrun, hrun]
    refine ⟨rfl, rfl, ?_, rfl, fun _ => ?_⟩
    · intro p hp
      exact (Image.block_addr hp).2
    · simp only [List.length_cons]

/-- Where nothing is received, `size` should be what is consumed. -/
theorem splitIndependent_unreceived {command : Byte} {resp : Bool} {size : Nat}
    {rest : List Byte} (hresp : ¬(resp ∧ size ≠ 0)) :
    SplitIndependent command resp size (command :: 0 :: rest) ↔ size = 0 := by
  have hrun : ∀ chunk, errorCheckRun chunk command resp size (command :: 0 :: rest) =
      (.ok (), ⟨rest, 2, []⟩) := by
    intro chunk
    rw [errorCheck_accepted, if_neg hresp]
    rfl
  constructor
  · intro hsplit
    have hcount := (hsplit (fun _ => 1) fun _ => 1).2.2.2.2
    rw [hrun] at hcount
    have := hcount rfl
    simp only [List.length_cons] at this
    omega
  · intro hzero chunk chunk'
    rw [hrun, hrun]
    refine ⟨rfl, rfl, by simp, rfl, fun _ => ?_⟩
    simp only [List.length_cons]
    omega

/-- What `error_check` does is independent of the split of the stream exactly where no
`read` has a choice that matters. -/
theorem errorCheck_split_iff (command : Byte) (resp : Bool) (size : Nat) (stream : List Byte) :
    SplitIndependent command resp size stream ↔ SplitSafe command resp size stream := by
  rcases stream with _ | ⟨b0, rest⟩
  · have hdrain := @splitIndependent_drain command resp size 0 [] [] fun chunk =>
      ⟨_, 2, _, Nat.le_refl 2, by rw [errorCheck_nil, List.drop_nil]⟩
    rw [hdrain]
    simp [SplitSafe]
  · by_cases hb0 : b0 = command
    · subst hb0
      rcases rest with _ | ⟨b1, rest⟩
      · have hdrain := @splitIndependent_drain b0 resp size 0 [b0] [] fun chunk =>
          ⟨_, 2, _, Nat.le_refl 2, by rw [errorCheck_unfinished, List.drop_nil]⟩
        rw [hdrain]
        simp [SplitSafe]
      · by_cases hb1 : b1 = 0
        · subst hb1
          have hsafe : SplitSafe b0 resp size (b0 :: 0 :: rest) ↔
              if resp ∧ size ≠ 0 then size = 1 ∨ rest.length ≤ size else size = 0 := by
            simp [SplitSafe]
          rw [hsafe]
          by_cases hresp : resp ∧ size ≠ 0
          · rw [if_pos hresp]
            constructor
            · intro hsplit
              by_contra hneither
              exact not_splitIndependent_of_long hresp.1 (by omega) (by omega) hsplit
            · rintro (rfl | hfit)
              · exact splitIndependent_of_one hresp.1
              · exact splitIndependent_of_fits hresp hfit
          · rw [if_neg hresp]
            exact splitIndependent_unreceived hresp
        · have hdrain := @splitIndependent_drain b0 resp size 2 (b0 :: b1 :: rest) rest
            fun chunk => by
              rcases errorCheck_status chunk b0 resp size hb1 rest with ⟨e, n, hn, hrun⟩
              exact ⟨e, n, _, hn, hrun⟩
          rw [hdrain]
          simp [SplitSafe, hb1]
    · have hdrain := @splitIndependent_drain command resp size 1 (b0 :: rest) rest
        fun chunk => by
          rcases errorCheck_unexpected chunk command resp size hb0 rest with ⟨e, hrun⟩
          exact ⟨e, 255, _, by decide, hrun⟩
      rw [hdrain]
      simp [SplitSafe, hb0]

/-- A code of two bytes that arrives one by one is not recognised, and its second byte is
left for the next command; and a `read` that asks for `size` in the second round stores
behind `resp_buf` and takes a byte that does not belong to the response. -/
theorem errorCheck_depends_on_split :
    ¬SplitIndependent 1 true 5 [1, 0xFF, 0xFF, 0xFC] ∧
      ¬SplitIndependent 1 true 5 [1, 0, 1, 0, 0x50, 0xC6, 0x18, 2] := by
  constructor
  · intro h
    have hconsumed := (h (fun _ => 1) fun _ => 2).2.2.2.1
    exact absurd hconsumed (by decide)
  · intro h
    have hstores := (h (fun k => if k = 2 then 1 else 5) fun _ => 5).2.2.1
    exact absurd hstores (by decide)

/-- A complete answer with nothing behind it: the data arrive in every split. -/
theorem serialSwimRead_answer (chunk : Nat → Nat) (stack : Nat → Byte) {header data : List Byte}
    (hheader : header.length = 4) (hdata : data.length ≤ 255) :
    ∃ c, serialSwimRead chunk stack data.length
      (SerialState.init (1 :: 0 :: (header ++ data))) =
      (.ok data, ⟨[], c, Image.block 0 (header ++ data)⟩) := by
  have hsize : (UInt8.ofNat data.length).toNat + 4 = (header ++ data).length := by
    rw [UInt8.toNat_ofNat_of_lt' (Nat.lt_succ_of_le hdata), List.length_append]
    omega
  rcases @errorCheckReceive_fits chunk 1 (header ++ data).length (header ++ data).length 0
    ⟨header ++ data, 2, []⟩ (Nat.le_of_eq (Nat.zero_add _))
    (Nat.le_refl _) with ⟨c, hc⟩
  have hcheck : errorCheck chunk 1 true (header ++ data).length
      (SerialState.init (1 :: 0 :: (header ++ data))) =
      (.ok (), ⟨[], c, Image.block 0 (header ++ data)⟩) := by
    have := errorCheck_accepted chunk 1 true (header ++ data).length (header ++ data)
    unfold errorCheckRun at this
    rw [this, if_pos ⟨rfl, by rw [List.length_append]; omega⟩, hc, if_pos (Nat.zero_add _),
      List.nil_append]
  refine ⟨c, ?_⟩
  unfold serialSwimRead
  rw [hsize, Drv.bind_ok hcheck, Drv.state_bind_run]
  have hslice : Image.slice (Image.storeAll stack (Image.block 0 (header ++ data))) 4
      data.length = data := by
    apply List.ext_getElem
    · rw [Image.slice_length]
    · intro k hk hk'
      have hlt : 4 + k < (header ++ data).length := by
        rw [List.length_append]
        omega
      have hat := Image.storeAll_block_at stack 0 (header ++ data) (4 + k) hlt
      rw [Nat.zero_add] at hat
      rw [Image.slice_getElem, hat, List.getElem_append_right (by omega)]
      simp [hheader]
  rw [hslice]
  rfl

/-! ## Responses that are accepted -/

/-- A receive loop that is left has stored the next bytes of the stream, enough of them. -/
theorem errorCheckReceive_stores {chunk : Nat → Nat} {command : Byte} {size fuel total : Nat}
    {s t : SerialState} (hfuel : size ≤ fuel + total)
    (hrun : errorCheckReceive chunk command size fuel total s = (.ok (), t)) :
    ∃ m, m ≤ s.stream.length ∧ size ≤ total + m ∧
      t.stores = s.stores ++ Image.block total (s.stream.take m) := by
  have hdone (hge : size ≤ total) (hsame : t = s) : ∃ m, m ≤ s.stream.length ∧
      size ≤ total + m ∧ t.stores = s.stores ++ Image.block total (s.stream.take m) :=
    ⟨0, Nat.zero_le _, hge, by rw [hsame, List.take_zero, Image.block_nil, List.append_nil]⟩
  induction fuel generalizing total s with
  | zero =>
    cases hrun
    exact hdone (by omega) rfl
  | succ fuel ih =>
    unfold errorCheckReceive at hrun
    by_cases hlt : total < size
    · rw [if_pos hlt, Drv.bind_ok (serialRead_run chunk size s), Drv.change_bind_run] at hrun
      generalize min (max 1 (chunk s.calls)) size = k at hrun
      by_cases hempty : (s.stream.take k).length < 1
      · rw [if_pos hempty] at hrun
        cases hrun
      · rw [if_neg hempty] at hrun
        have hlen : (s.stream.take k).length = min k s.stream.length := List.length_take
        obtain ⟨m, hm, hsize, hstores⟩ := ih (by omega) hrun (fun hge hsame =>
          ⟨0, Nat.zero_le _, hge, by rw [hsame, List.take_zero, Image.block_nil, List.append_nil]⟩)
        simp only [List.length_drop] at hm
        refine ⟨(s.stream.take k).length + m, by omega, by omega, ?_⟩
        -- the bytes of this round come before those of the later ones
        rw [hstores, List.append_assoc, ← Image.block_append]
        congr 2
        rw [hlen, List.take_add]
        by_cases hk : k ≤ s.stream.length
        · rw [Nat.min_eq_left hk]
        · rw [Nat.min_eq_right (by omega), List.take_of_length_le (Nat.le_refl _),
            List.take_of_length_le (by omega), List.drop_eq_nil_of_le (Nat.le_refl _),
            List.drop_eq_nil_of_le (by omega)]
    · rw [if_neg hlt] at hrun
      cases hrun
      exact hdone (by omega) rfl

/-- An answer that is accepted begins with the command and the status 0, and what is stored are
the bytes that follow. -/
theorem errorCheck_stores {chunk : Nat → Nat} {command : Byte} {size : Nat} (hsize : 0 < size)
    {stream : List Byte} {t : SerialState}
    (hrun : errorCheckRun chunk command true size stream = (.ok (), t)) :
    ∃ rest m, stream = command :: 0 :: rest ∧ size ≤ m ∧ m ≤ rest.length ∧
      t.stores = Image.block 0 (rest.take m) := by
  by_cases hstart : [command, 0] <+: stream
  · obtain ⟨rest, rfl⟩ : ∃ rest, stream = command :: 0 :: rest := hstart.imp fun _ h => h.symm
    rw [errorCheck_accepted, if_pos ⟨rfl, by omega⟩] at hrun
    obtain ⟨m, hm, henough, hstores⟩ := errorCheckReceive_stores (Nat.le_refl size) hrun
    rw [Nat.zero_add] at henough
    exact ⟨rest, m, rfl, henough, hm, hstores⟩
  · obtain ⟨e, u, herror, -⟩ := errorCheck_refused chunk true size hstart
    rw [herror] at hrun
    cases hrun

/-- The data of a read that is accepted have all come from the line: they stand behind the
command, the status and the header. -/
theorem serialSwimRead_delivers {chunk : Nat → Nat} {stack : Nat → Byte} {size : Nat}
    (hsize : size < 256) {stream bs : List Byte} {t : SerialState}
    (hrun : serialSwimRead chunk stack size (SerialState.init stream) = (.ok bs, t)) :
    bs.length = size ∧ bs = (stream.drop 6).take size := by
  unfold serialSwimRead at hrun
  rw [UInt8.toNat_ofNat_of_lt' hsize] at hrun
  rcases Drv.bind_eq_ok.mp hrun with ⟨_, u, hcheck, hend⟩
  rw [Drv.state_bind_run] at hend
  obtain ⟨rest, m, rfl, henough, hm, hstores⟩ := errorCheck_stores (by omega) hcheck
  cases hend
  refine ⟨Image.slice_length _ _ _, ?_⟩
  rw [hstores, List.drop_succ_cons, List.drop_succ_cons]
  apply List.ext_getElem
  · rw [Image.slice_length, List.length_take, List.length_drop]
    omega
  · intro k hk hk'
    rw [Image.slice_length] at hk
    have hlt : 4 + k < (rest.take m).length := by
      rw [List.length_take]
      omega
    have hat := Image.storeAll_block_at stack 0 (rest.take m) (4 + k) hlt
    rw [Nat.zero_add] at hat
    rw [Image.slice_getElem, hat, List.getElem_take, List.getElem_take, List.getElem_drop]

end Stm8Flash
