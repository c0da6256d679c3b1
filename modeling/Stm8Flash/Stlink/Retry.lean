import Stm8Flash.Stlink.Range

/-! # ST-Link V1: the tries of a byte write

`stlink_swim_write_byte` sends its byte and asks for a status word, up to five times. The
`continue` on `STLK_FLAG_BUFFER_FULL` goes to the condition of the `do`-`while`, which asks for
`STLK_FLAG_ERR`; without that flag the byte is not sent again. `stlinkSwimWriteByte_retries_iff`
says for which status words the loop does what it is for.
-/

namespace Stm8Flash

open Hex Word

/-- `STLK_FLAG_ERR` is set. -/
def FlagErr (result : Nat) : Prop := result &&& 0x01 ≠ 0

/-- `STLK_FLAG_BUFFER_FULL` is set. -/
def FlagBufferFull (result : Nat) : Prop := result &&& 0x04 ≠ 0

instance (result : Nat) : Decidable (FlagErr result) := inferInstanceAs (Decidable (_ ≠ _))

instance (result : Nat) : Decidable (FlagBufferFull result) := inferInstanceAs (Decidable (_ ≠ _))

/-! ## Status words -/

/-- The loop makes `n` tries, of `limit` at most, when the `k`-th status word is `word k`. -/
structure StlinkTries (word : Nat → Nat) (limit n : Nat) : Prop where
  pos : 1 ≤ n
  le : n ≤ limit
  again : ∀ k, k + 1 < n → FlagBufferFull (word k) ∧ FlagErr (word k)
  last : n < limit → ¬(FlagBufferFull (word (n - 1)) ∧ FlagErr (word (n - 1)))

/-- What the tries are for: the byte goes out again for every status with `BUFFER_FULL` set that
is not the fifth, so that the last status is one without it or the fifth. -/
def RetriesOnFull (word : Nat → Nat) (n : Nat) : Prop :=
  (¬FlagBufferFull (word (n - 1)) ∨ n = 5) ∧
    ∀ k < n, k + 1 < 5 → FlagBufferFull (word k) → k + 1 < n

/-- Where the loop is left at a status that is not the fifth, `BUFFER_FULL` is clear: with
`BUFFER_FULL` comes `ERR`. -/
def FullWithErr (word : Nat → Nat) : Prop :=
  ∀ k < 4, (∀ j < k, FlagBufferFull (word j) ∧ FlagErr (word j)) →
    FlagBufferFull (word k) → FlagErr (word k)

namespace StlinkTries

variable {word : Nat → Nat} {limit n : Nat}

/-- The last try. -/
theorem one (h : 1 < limit → ¬(FlagBufferFull (word 0) ∧ FlagErr (word 0))) (hlimit : 1 ≤ limit) :
    StlinkTries word limit 1 where
  pos := Nat.le_refl 1
  le := hlimit
  again := by
    intro k hk
    omega
  last := h

/-- One more try before the others. -/
theorem succ (h : StlinkTries (fun k => word (k + 1)) limit n)
    (hagain : FlagBufferFull (word 0) ∧ FlagErr (word 0)) :
    StlinkTries word (limit + 1) (n + 1) where
  pos := Nat.le_add_left 1 n
  le := Nat.succ_le_succ h.le
  again := by
    intro k hk
    cases k with
    | zero => exact hagain
    | succ k => exact h.again k (by omega)
  last := by
    intro hlt
    have hpos := h.pos
    have hlast := h.last (by omega)
    rw [Nat.sub_add_cancel hpos] at hlast
    exact hlast

theorem retriesOnFull_iff (h : StlinkTries word 5 n) : RetriesOnFull word n ↔ FullWithErr word := by
  have hpos := h.pos
  have hle := h.le
  constructor
  · rintro ⟨-, hall⟩ k hk hbefore hfull
    have hkn : k < n := by
      by_contra hout
      -- the loop would have been left at a status that asks for another try
      exact h.last (by omega) (hbefore (n - 1) (by omega))
    exact (h.again k (hall k hkn (by omega) hfull)).2
  · intro hwith
    have hall : ∀ k < n, k + 1 < 5 → FlagBufferFull (word k) → k + 1 < n := by
      intro k hk hk5 hfull
      by_contra hlast
      obtain rfl : k = n - 1 := by omega
      have herr := hwith (n - 1) (by omega) (fun j hj => h.again j (by omega)) hfull
      exact h.last (by omega) ⟨hfull, herr⟩
    refine ⟨?_, hall⟩
    by_cases hfull : FlagBufferFull (word (n - 1))
    · right
      by_contra hne
      have := hall (n - 1) (by omega) (by omega) hfull
      omega
    · exact Or.inl hfull

end StlinkTries

/-! ## The tries of a call -/

section Calls

variable (d : Stm8Device) (env : StlinkEnv)

/-- The status word of the try that begins with the `n`-th transfer. -/
def stlinkTryStatus (n : Nat) : Nat :=
  unpackInt16Le (stlinkBuf (env.stackBuf (n + 2))
    ((env.status (n + 2)).take (4 - env.missing (n + 3))))

/-- The packets of one try. -/
def stlinkTryPackets (byte : Byte) (start : Nat) : List (List Byte) :=
  [packUsbCbw ⟨0, 0x00, 16, stlinkCb (stlinkByteArgs byte start)⟩,
    packUsbCbw ⟨4, 0x80, 10, stlinkCb ([0xf4, 0x09, 0x00, 0x01, 0, 0] ++ packInt16 start ++
      [byte, 0])⟩]

variable {d} {env}

/-- The `n`-th transfer comes next, after the packets `sent`. -/
def StlinkState.Next (n : Nat) (sent : List (List Byte)) (s : StlinkState) : Prop :=
  s.transfers = n ∧ s.sent = sent

theorem stlinkTransfer_next (n : Nat) (sent : List (List Byte)) :
    Drv.Triple (StlinkState.Next n sent) (stlinkTransfer env)
      (fun k s => k = n ∧ StlinkState.Next (n + 1) sent s) (fun _ _ => True) := by
  intro s hs
  unfold stlinkTransfer
  rw [Drv.state_bind_run, Drv.change_bind_run]
  by_cases hmoved : env.transferred s.transfers = true
  · rw [if_pos hmoved]
    exact ⟨hs.1, congrArg (· + 1) hs.1, hs.2⟩
  · rw [if_neg hmoved]
    trivial

theorem stlinkReceive_next (n : Nat) (sent : List (List Byte)) (p rest : List Byte)
    {s : StlinkState} (hs : StlinkState.Next n sent s) :
    StlinkState.Next n sent (stlinkReceive d env.hw p rest s) := by
  unfold stlinkReceive
  split
  · exact hs
  · split
    · exact hs
    · exact hs

/-- A packet goes out. -/
theorem stlinkSendCbw_next (n : Nat) (sent : List (List Byte)) (cbw : ScsiUsbCbw) :
    Drv.Triple (StlinkState.Next n sent) (do
        stlinkSendCbw env cbw
        Drv.change fun s => stlinkReceive d env.hw (packUsbCbw cbw) [] s)
      (fun _ => StlinkState.Next (n + 1) (sent ++ [packUsbCbw cbw])) (fun _ _ => True) := by
  refine Drv.Triple.bind (Q := fun _ => StlinkState.Next (n + 1) (sent ++ [packUsbCbw cbw])) ?_
    fun _ => Drv.Triple.change fun s hs => stlinkReceive_next _ _ _ _ hs
  refine (stlinkTransfer_next n sent).bind fun _ => Drv.Triple.change fun s hs => ?_
  exact ⟨hs.2.1, congrArg (· ++ [packUsbCbw cbw]) hs.2.2⟩

theorem stlinkRead_next (n : Nat) (sent : List (List Byte)) (data : List Byte) (count : Nat) :
    Drv.Triple (StlinkState.Next n sent) (stlinkRead env data count)
      (fun bytes s => bytes = data.take (count - env.missing n) ∧ StlinkState.Next (n + 1) sent s)
      (fun _ _ => True) :=
  (stlinkTransfer_next n sent).bind fun _ => Drv.Triple.pure fun _ hs => ⟨by rw [hs.1], hs.2⟩

theorem stlinkReadCsw_next (n : Nat) (sent : List (List Byte)) :
    Drv.Triple (StlinkState.Next n sent) (stlinkReadCsw env)
      (fun _ => StlinkState.Next (n + 1) sent) (fun _ _ => True) :=
  (stlinkTransfer_next n sent).bind fun _ => Drv.Triple.pure fun _ hs => hs.2

/-- A command without a data phase: two transfers. -/
theorem stlinkCmd_none_next (n : Nat) (sent : List (List Byte)) (flags : Byte)
    (args data : List Byte) :
    Drv.Triple (StlinkState.Next n sent) (stlinkCmd d env 0 flags args data)
      (fun _ => StlinkState.Next (n + 2)
        (sent ++ [packUsbCbw ⟨0, flags, args.length, stlinkCb args⟩])) (fun _ _ => True) := by
  unfold stlinkCmd
  rw [← bind_assoc]
  refine (stlinkSendCbw_next n sent _).bind fun _ => ?_
  exact (stlinkReadCsw_next (n + 1) _).bind fun _ => Drv.Triple.pure fun _ hs => hs

/-- A command with a data phase: three transfers. -/
theorem stlinkCmd_data_next (n : Nat) (sent : List (List Byte)) {count : Nat} (hcount : count ≠ 0)
    (flags : Byte) (args data : List Byte) :
    Drv.Triple (StlinkState.Next n sent) (stlinkCmd d env count flags args data)
      (fun bytes s => bytes = data.take (count - env.missing (n + 1)) ∧
        StlinkState.Next (n + 3)
          (sent ++ [packUsbCbw ⟨count, flags, args.length, stlinkCb args⟩]) s)
      (fun _ _ => True) := by
  unfold stlinkCmd stlinkDataPhase
  rw [← bind_assoc, if_pos hcount]
  refine (stlinkSendCbw_next n sent _).bind fun _ => ?_
  refine (stlinkRead_next (n + 1) _ data count).bind fun bytes => ?_
  refine Drv.Triple.and_pre fun hbytes => ?_
  exact (stlinkReadCsw_next (n + 2) _).bind fun _ => Drv.Triple.pure fun _ hs => ⟨hbytes, hs⟩

/-- A try: five transfers, two packets and the status word. -/
theorem stlinkTryByte_next (n : Nat) (sent : List (List Byte)) (byte : Byte) (start : Nat) :
    Drv.Triple (StlinkState.Next n sent) (stlinkTryByte d env byte start)
      (fun v s => v = stlinkTryStatus env n ∧
        StlinkState.Next (n + 5) (sent ++ stlinkTryPackets byte start) s) (fun _ _ => True) := by
  unfold stlinkTryByte
  refine (stlinkCmd_none_next n sent _ _ _).bind fun _ => ?_
  intro s hs
  rw [Drv.state_bind_run, hs.1]
  refine Drv.Triple.bind (stlinkCmd_data_next (n + 2) _ (show 4 ≠ 0 by decide) _ _ _) (fun bytes =>
    Drv.Triple.pure fun u hu => ?_) s hs
  rcases hu with ⟨rfl, hnext⟩
  refine ⟨rfl, hnext.1, ?_⟩
  rw [hnext.2, List.append_assoc]
  rfl

/-- Up to `limit` tries have been made from the `n`-th transfer on, after the packets `sent`, and
the last of them gave `v`. -/
def StlinkTried (env : StlinkEnv) (byte : Byte) (start limit n : Nat) (sent : List (List Byte))
    (v : Nat) (s : StlinkState) : Prop :=
  ∃ k, StlinkTries (fun j => stlinkTryStatus env (n + 5 * j)) limit k ∧
    v = stlinkTryStatus env (n + 5 * (k - 1)) ∧
    s.sent = sent ++ (List.replicate k (stlinkTryPackets byte start)).flatten

section Tried

variable {byte : Byte} {start limit n v : Nat} {sent : List (List Byte)} {s : StlinkState}

theorem stlinkTried_one (hlimit : 1 ≤ limit)
    (hlast : 1 < limit → ¬(FlagBufferFull (stlinkTryStatus env n) ∧ FlagErr (stlinkTryStatus env n)))
    (hv : v = stlinkTryStatus env n) (hsent : s.sent = sent ++ stlinkTryPackets byte start) :
    StlinkTried env byte start limit n sent v s := by
  refine ⟨1, StlinkTries.one hlast hlimit, hv, ?_⟩
  rw [hsent]
  simp

/-- One more try before the others. -/
theorem stlinkTried_succ
    (hagain : FlagBufferFull (stlinkTryStatus env n) ∧ FlagErr (stlinkTryStatus env n))
    (h : StlinkTried env byte start limit (n + 5) (sent ++ stlinkTryPackets byte start) v s) :
    StlinkTried env byte start (limit + 1) n sent v s := by
  rcases h with ⟨k, htries, hv, hsent⟩
  have hshift : (fun j => stlinkTryStatus env (n + 5 + 5 * j)) =
      fun j => stlinkTryStatus env (n + 5 * (j + 1)) := by
    funext j
    congr 1
    omega
  rw [hshift] at htries
  have hpos := htries.pos
  refine ⟨k + 1, htries.succ hagain, ?_, ?_⟩
  · rw [hv]
    congr 1
    omega
  · rw [hsent, List.replicate_succ, List.flatten_cons, List.append_assoc]

end Tried

/-- The loop makes its tries. -/
theorem stlinkWriteByteLoop_tries (byte : Byte) (start tries n : Nat) (sent : List (List Byte)) :
    Drv.Triple (StlinkState.Next n sent) (stlinkWriteByteLoop d env byte start tries)
      (StlinkTried env byte start (tries + 1) n sent) (fun _ _ => True) := by
  induction tries generalizing n sent with
  | zero =>
    refine (stlinkTryByte_next n sent byte start).post fun v s hs => ?_
    exact stlinkTried_one (Nat.le_refl 1) (fun h => absurd h (by decide)) hs.1 hs.2.2
  | succ tries ih =>
    unfold stlinkWriteByteLoop
    refine (stlinkTryByte_next n sent byte start).bind fun result => ?_
    refine Drv.Triple.and_pre fun hresult => ?_
    -- the loop is left, or goes on behind this try
    have hleave (hno : ¬(FlagBufferFull result ∧ FlagErr result)) :
        Drv.Triple (StlinkState.Next (n + 5) (sent ++ stlinkTryPackets byte start))
          (pure result : Stlink Nat) (StlinkTried env byte start (tries + 1 + 1) n sent)
          (fun _ _ => True) := by
      refine Drv.Triple.pure fun s hs => ?_
      exact stlinkTried_one (by omega) (fun _ => hresult ▸ hno) hresult hs.2
    refine Drv.Triple.ite (fun hfull => Drv.Triple.ite (fun herr => ?_) fun hok => ?_) fun hok => ?_
    · refine (ih (n + 5) (sent ++ stlinkTryPackets byte start)).post fun v s hs => ?_
      exact stlinkTried_succ (hresult ▸ ⟨hfull, herr⟩) hs
    · exact hleave fun h => hok h.2
    · exact hleave fun h => hok h.1

/-- A call that returns has made between one and five tries, and returns the status word of the
last one. It has sent the byte again for every status with `BUFFER_FULL` set, up to the fifth,
exactly when `ERR` is set with `BUFFER_FULL` where it matters. -/
theorem stlinkSwimWriteByte_retries_iff (d : Stm8Device) (env : StlinkEnv) (byte : Byte)
    (start : Nat) {s t : StlinkState} {v : Nat}
    (hrun : stlinkSwimWriteByte d env byte start s = (.ok v, t)) :
    ∃ n, 1 ≤ n ∧ n ≤ 5 ∧
      t.sent = s.sent ++ (List.replicate n (stlinkTryPackets byte start)).flatten ∧
      v = stlinkTryStatus env (s.transfers + 5 * (n - 1)) ∧
      (RetriesOnFull (fun k => stlinkTryStatus env (s.transfers + 5 * k)) n ↔
        FullWithErr fun k => stlinkTryStatus env (s.transfers + 5 * k)) := by
  obtain ⟨n, htries, hv, hsent⟩ :=
    (stlinkWriteByteLoop_tries byte start 4 s.transfers s.sent).of_ok ⟨rfl, rfl⟩ hrun
  exact ⟨n, htries.pos, htries.le, hsent, hv, htries.retriesOnFull_iff⟩

end Calls

/-! ## A buffer that stays full -/

/-- A programmer that answers every status request alike. -/
def StlinkEnv.saying (status : List Byte) : StlinkEnv :=
  { StlinkEnv.answering with status := fun _ => status }

theorem StlinkEnv.saying_noFailure (status : List Byte) : (StlinkEnv.saying status).NoFailure where
  transferred := StlinkEnv.answering_noFailure.transferred
  missing := StlinkEnv.answering_noFailure.missing
  csw := StlinkEnv.answering_noFailure.csw
  waits := StlinkEnv.answering_noFailure.waits

/-- With `ERR` and `BUFFER_FULL` set the byte is sent again. -/
theorem stlinkSwimWriteByte_retries_iff_both :
    ∃ v t n, stlinkSwimWriteByte stm8Devices[0] (.saying [5, 0, 0, 0]) 0x56 0x5062
        (.fresh fun _ => 0) = (.ok v, t) ∧
      t.sent = [] ++ (List.replicate n (stlinkTryPackets 0x56 0x5062)).flatten ∧
      RetriesOnFull (fun k => stlinkTryStatus (.saying [5, 0, 0, 0]) (0 + 5 * k)) n := by
  obtain ⟨v, t, hrun⟩ := @stlinkWriteByteLoop_returns stm8Devices[0] (.saying [5, 0, 0, 0])
    (StlinkEnv.saying_noFailure _) 0x56 0x5062 4 (.fresh fun _ => 0)
  obtain ⟨n, -, -, hsent, -, hiff⟩ := stlinkSwimWriteByte_retries_iff stm8Devices[0] _ 0x56 0x5062 hrun
  exact ⟨v, t, n, hrun, hsent, hiff.mpr fun k _ _ _ => show FlagErr 5 by decide⟩

/-- With `BUFFER_FULL` alone the first key of the flash is sent once, and the call returns. -/
theorem stlinkSwimWriteByte_drops :
    ∃ v t, stlinkSwimWriteByte stm8Devices[0] (.saying [4, 0, 0, 0]) 0x56 0x5062
        (.fresh fun _ => 0) = (.ok v, t) ∧
      v = 4 ∧ FlagBufferFull v ∧ t.sent = stlinkTryPackets 0x56 0x5062 ∧
      ¬RetriesOnFull (fun k => stlinkTryStatus (.saying [4, 0, 0, 0]) (0 + 5 * k)) 1 := by
  obtain ⟨v, t, hrun, hvalue⟩ := @Drv.run_of_returnsWith _ _ _
    (fun (v : Nat) (t : StlinkState) => v == 4 && t.sent == stlinkTryPackets 0x56 0x5062)
    (stlinkSwimWriteByte stm8Devices[0] (.saying [4, 0, 0, 0]) 0x56 0x5062)
    (.fresh fun _ => 0) (by decide +kernel)
  have hboth : v = 4 ∧ t.sent = stlinkTryPackets 0x56 0x5062 := by simpa using hvalue
  refine ⟨v, t, hrun, hboth.1, ?_, hboth.2, ?_⟩
  · rw [hboth.1]
    decide
  · rintro ⟨hlast, -⟩
    rcases hlast with hclear | hfive
    · exact hclear (show FlagBufferFull 4 by decide)
    · cases hfive

end Stm8Flash
