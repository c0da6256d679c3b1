import Stm8Flash.DiffWrite
import Stm8Flash.Espstlink.Fetch
import Stm8Flash.Espstlink.Serial
import Stm8Flash.Stlink.Fetch
import Stm8Flash.Stlinkv2.Fetch

/-! # What a read that reports success has brought in

`main` looks at the value that a range read returns and at nothing else. `msg_recv` and
`error_check` do not let a short transfer pass, so with these back ends the buffer is full;
`stlink_cmd` does, and a data phase that is short leaves a gap in the buffer
(`readRange_delivered_iff`).
-/

namespace Stm8Flash

open Hex Word

/-- A read that returns `length` or more has filled the buffer with what has come in during the
call: with ST-Link V2 and with the ESP programmer in every run, with ST-Link V1 in those runs in
which no data phase is short. Behind a command of the ESP programmer that succeeds, all the bytes
have come over the line. -/
theorem readRange_delivered_iff (d : Stm8Device) (start length : Nat) (buffer : Nat → Byte) :
    (∀ (env : StlinkEnv) s v buf t,
      stlinkSwimReadRange d env buffer start length s = (.ok (v, buf), t) → (length : Int) ≤ v →
      ∃ fs u, stlinkFetches d env start length s = (.ok fs, u) ∧
        buf = stored buffer (fs.map StlinkFetch.piece) ∧
        (CameIn (fs.map StlinkFetch.piece) length ↔ ∀ f ∈ fs, env.missing f.transfer = 0)) ∧
    (∀ (env : Stlinkv2Env) s v buf t,
      stlink2SwimReadRange d env buffer start length s = (.ok (v, buf), t) → (length : Int) ≤ v →
      ∃ ps, (stlink2Chunks env length).mapM (stlink2FetchChunk d env start) s = (.ok ps, t) ∧
        buf = stored buffer ps ∧ CameIn ps length) ∧
    (∀ (env : EspstlinkEnv) s v buf t,
      espstlinkSwimReadRange d env buffer start length s = (.ok (v, buf), t) → (length : Int) ≤ v →
      ∃ ps, EspstlinkFetched d env start s (espstlinkChunks length) ps [] t ∧
        buf = stored buffer ps ∧ CameIn ps length) ∧
    ∀ chunk stack size stream bs t, size ≤ 255 →
      serialSwimRead chunk stack size (SerialState.init stream) = (.ok bs, t) →
      bs.length = size ∧ bs = (stream.drop 6).take size := by
  refine ⟨?_, ?_, ?_, ?_⟩
  · intro env s v buf t hrun _
    rw [stlinkSwimReadRange_fetch] at hrun
    rcases Drv.bind_eq_ok.mp hrun with ⟨fs, u, hfetches, hend⟩
    rcases Drv.bind_eq_ok.mp hend with ⟨_, w, -, hend⟩
    cases hend
    refine ⟨fs, u, hfetches, ?_, stlinkFetches_cameIn_iff hfetches⟩
    rw [stored_eq_foldl, List.foldl_map]
    rfl
  · intro env s v buf t hrun _
    exact stlink2SwimReadRange_fetch hrun
  · intro env s v buf t hrun hv
    have hlength := espstlinkSwimReadRange_length hrun
    obtain ⟨ps, rest, t', hfetched, hrange⟩ :=
      @espstlinkSwimReadRange_fetch d env start length hlength buffer s
    rw [hrange] at hrun
    cases hrun
    obtain ⟨hle, hall⟩ := hfetched.first_eq_iff
    rw [toInt32_of_lt (by omega)] at hv
    -- no chunk is left out
    obtain rfl := hall.mp (by omega)
    exact ⟨ps, hfetched, rfl, hfetched.cameIn⟩
  · intro chunk stack size stream bs t hsize hrun
    exact serialSwimRead_delivers (Nat.lt_succ_of_le hsize) hrun

/-- An ST-Link V1 with one short transfer, the `k`-th, that is `n` bytes short. -/
def StlinkEnv.short (k n : Nat) : StlinkEnv :=
  { StlinkEnv.answering with missing := fun j => if j = k then n else 0 }

/-- Two bytes of flash with each back end; nothing is short. -/
theorem readRange_delivered_iff_two :
    (∃ v buf t fs u, stlinkSwimReadRange stm8Devices[0] .answering (fun _ => 0) 0x8000 2
        (.fresh fun _ => 0x55) = (.ok (v, buf), t) ∧ ((2 : Nat) : Int) ≤ v ∧
      stlinkFetches stm8Devices[0] .answering 0x8000 2 (.fresh fun _ => 0x55) = (.ok fs, u) ∧
      CameIn (fs.map StlinkFetch.piece) 2) ∧
    (∃ v buf t ps, stlink2SwimReadRange stm8Devices[0] .answering (fun _ => 0) 0x8000 2
        ⟨.idle fun _ => 0x55, [], 0, 0, []⟩ = (.ok (v, buf), t) ∧ ((2 : Nat) : Int) ≤ v ∧
      buf = stored (fun _ => 0) ps ∧ CameIn ps 2) ∧
    (∃ v buf t ps, espstlinkSwimReadRange stm8Devices[0] .answering (fun _ => 0) 0x8000 2
        ⟨.idle fun _ => 0x55, 0, []⟩ = (.ok (v, buf), t) ∧ ((2 : Nat) : Int) ≤ v ∧
      buf = stored (fun _ => 0) ps ∧ CameIn ps 2) ∧
    ∃ bs t, serialSwimRead (fun _ => 3) (fun _ => 0) 2
        (SerialState.init [1, 0, 2, 0, 0x80, 0, 0x55, 0x55]) = (.ok bs, t) ∧ bs.length = 2 := by
  refine ⟨?_, ?_, ?_, ?_⟩
  · obtain ⟨⟨v, buf⟩, t, hrun, hv⟩ := Drv.run_of_returnsWith (p := fun r _ =>
        decide (((2 : Nat) : Int) ≤ r.1))
      (m := stlinkSwimReadRange stm8Devices[0] .answering (fun _ => 0) 0x8000 2)
      (s := .fresh fun _ => 0x55) (by decide +kernel)
    obtain ⟨fs, u, hfetches, -, hcame⟩ := (readRange_delivered_iff _ _ _ _).1 _ _ _ _ _ hrun
      (of_decide_eq_true hv)
    exact ⟨v, buf, t, fs, u, hrun, of_decide_eq_true hv, hfetches, hcame.mpr fun _ _ => rfl⟩
  · obtain ⟨⟨v, buf⟩, t, hrun, hv⟩ := Drv.run_of_returnsWith (p := fun r _ =>
        decide (((2 : Nat) : Int) ≤ r.1))
      (m := stlink2SwimReadRange stm8Devices[0] .answering (fun _ => 0) 0x8000 2)
      (s := ⟨.idle fun _ => 0x55, [], 0, 0, []⟩) (by decide +kernel)
    obtain ⟨ps, -, hcame⟩ := (readRange_delivered_iff _ _ _ _).2.1 _ _ _ _ _ hrun
      (of_decide_eq_true hv)
    exact ⟨v, buf, t, ps, hrun, of_decide_eq_true hv, hcame⟩
  · obtain ⟨⟨v, buf⟩, t, hrun, hv⟩ := Drv.run_of_returnsWith (p := fun r _ =>
        decide (((2 : Nat) : Int) ≤ r.1))
      (m := espstlinkSwimReadRange stm8Devices[0] .answering (fun _ => 0) 0x8000 2)
      (s := ⟨.idle fun _ => 0x55, 0, []⟩) (by decide +kernel)
    obtain ⟨ps, -, hcame⟩ := (readRange_delivered_iff _ _ _ _).2.2.1 _ _ _ _ _ hrun
      (of_decide_eq_true hv)
    exact ⟨v, buf, t, ps, hrun, of_decide_eq_true hv, hcame⟩
  · obtain ⟨bs, t, hrun, -⟩ := Drv.run_of_returnsWith (p := fun _ _ => true)
      (m := serialSwimRead (fun _ => 3) (fun _ => 0) 2)
      (s := SerialState.init [1, 0, 2, 0, 0x80, 0, 0x55, 0x55]) (by decide +kernel)
    exact ⟨bs, t, hrun, ((readRange_delivered_iff stm8Devices[0] 0 0 fun _ => 0).2.2.2 _ _ _ _ _ _
      (by decide) hrun).1⟩

/-- With ST-Link V1 the data phase of a read of two bytes is a byte short: the read returns 2, and
the second byte is what the buffer held. -/
theorem readRange_undelivered :
    ∃ v buf t fs u, stlinkSwimReadRange stm8Devices[0] (.short 79 1) (fun _ => 0) 0x8000 2
        (.fresh fun _ => 0x55) = (.ok (v, buf), t) ∧ ((2 : Nat) : Int) ≤ v ∧
      buf 0 = 0x55 ∧ buf 1 = 0 ∧
      stlinkFetches stm8Devices[0] (.short 79 1) 0x8000 2 (.fresh fun _ => 0x55) = (.ok fs, u) ∧
      ¬CameIn (fs.map StlinkFetch.piece) 2 := by
  obtain ⟨⟨v, buf⟩, t, hrun, hcheck⟩ := Drv.run_of_returnsWith (p := fun r _ =>
      decide (((2 : Nat) : Int) ≤ r.1 ∧ r.2 0 = 0x55 ∧ r.2 1 = 0))
    (m := stlinkSwimReadRange stm8Devices[0] (.short 79 1) (fun _ => 0) 0x8000 2)
    (s := .fresh fun _ => 0x55) (by decide +kernel)
  obtain ⟨fs, u, hfetches, hgap⟩ := Drv.run_of_returnsWith (p := fun fs _ =>
      decide ¬CameIn (fs.map StlinkFetch.piece) 2)
    (m := stlinkFetches stm8Devices[0] (.short 79 1) 0x8000 2)
    (s := .fresh fun _ => 0x55) (by decide +kernel)
  rcases of_decide_eq_true hcheck with ⟨hv, hfirst, hsecond⟩
  exact ⟨v, buf, t, fs, u, hrun, hv, hfirst, hsecond, hfetches, of_decide_eq_true hgap⟩

end Stm8Flash
