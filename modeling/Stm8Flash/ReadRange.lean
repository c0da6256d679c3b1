import Stm8Flash.DiffWrite
import Stm8Flash.Stlink.Read

/-! # The three ways to read a range

`stlink2_swim_read_range` and `espstlink_swim_read_range` deliver what the target shows, in
chunks of `read_buf_size` and of 255 bytes; `stlink_swim_read_range`, in chunks of 6144 bytes,
does so at every address but those of the two registers that it writes before it reads
(`readRange_agree`).
-/

namespace Stm8Flash

open Hex Word

/-- The run returns `length`, and `buffer` holds what the target shows at the addresses that
`seen` speaks of. -/
def Delivers {σ ε : Type} (d : Stm8Device) (hw : Hardware) (t : Target) (start length : Nat)
    (seen : Nat → Prop) (run : Except ε (Int × (Nat → Byte)) × σ) : Prop :=
  ∃ buffer s', run = (.ok ((length : Int), buffer), s') ∧
    ∀ k < length, seen (start + k) → buffer k = t.peek d hw (start + k)

/-- A specification of a read as a statement about its runs. -/
theorem delivers_of_spec {σ ε : Type} {tgt : σ → Target} {d : Stm8Device} {hw : Hardware}
    {t : Target} {start length : Nat} {seen : Nat → Prop} {prog : Drv σ ε (Int × (Nat → Byte))}
    (hlen : length ≤ 65536)
    (h : Drv.Triple (fun s => tgt s = t) prog
      (fun r _ => r.1 = toInt32 length ∧
        ∀ k < length, seen (start + k) → r.2 k = t.peek d hw (start + k)) (fun _ _ => False))
    {s : σ} (hs : tgt s = t) : Delivers d hw t start length seen (prog s) := by
  obtain ⟨⟨v, buffer⟩, s', hrun, hv, hdata⟩ := h.returns hs
  refine ⟨buffer, s', ?_, hdata⟩
  rw [hrun]
  simp only at hv
  rw [hv, toInt32_of_lt (by omega)]

/-- Where nothing fails, the three back ends deliver the same bytes of a range: those that the
target shows. Only the ST-Link V1 writes to `CLK_CKDIVR` and `SWIM_CSR` first. -/
theorem readRange_agree {d : Stm8Device} (hd : d ∈ stm8Devices) (hw : Hardware) (t : Target)
    {start length : Nat} (hlim : start + length ≤ 0x10000) :
    (∀ env : StlinkEnv, env.NoFailure → env.hw = hw → ∀ s : StlinkState, s.target = t →
      ∀ buffer, Delivers d hw t start length (fun a => a ≠ d.regs.clkCkdivr ∧ a ≠ 0x7f80)
        (stlinkSwimReadRange d env buffer start length s)) ∧
    (∀ env : Stlinkv2Env, env.NoFailure → env.hw = hw → ∀ s : Stlinkv2State, s.target = t →
      ∀ buffer, Delivers d hw t start length (fun _ => True)
        (stlink2SwimReadRange d env buffer start length s)) ∧
    ∀ env : EspstlinkEnv, env.NoFailure → env.hw = hw → ∀ s : EspstlinkState, s.target = t →
      ∀ buffer, Delivers d hw t start length (fun _ => True)
        (espstlinkSwimReadRange d env buffer start length s) := by
  have hsound := stm8Devices_sound d hd
  refine ⟨?_, ?_, ?_⟩
  · rintro env hok rfl s hs buffer
    refine delivers_of_spec (by omega) ?_ hs
    apply (stlinkSwimReadRange_read hsound hok hlim buffer).post
    intro r u hu
    exact ⟨hu.1, fun k hk hseen => hu.2 k hk (not_or.mpr hseen)⟩
  · rintro env hok rfl s hs buffer
    refine delivers_of_spec (by omega) ?_ hs
    apply (stlink2SwimReadRange_read hok (by omega) buffer).post
    intro r u hu
    exact ⟨hu.1.1, fun k hk _ => hu.1.2 k hk⟩
  · rintro env hok rfl s hs buffer
    refine delivers_of_spec (by omega) ?_ hs
    apply (espstlinkSwimReadRange_read hok (by omega) buffer).post
    intro r u hu
    exact ⟨hu.1.1, fun k hk _ => hu.1.2 k hk⟩

/-- 6500 bytes of flash: two chunks of the ST-Link V1, twenty-six of the ESP programmer. -/
theorem readRange_agree_flash :
    Delivers stm8Devices[0] .ready (.idle UInt8.ofNat) 0x8000 6500
        (fun a => a ≠ stm8Devices[0].regs.clkCkdivr ∧ a ≠ 0x7f80)
        (stlinkSwimReadRange stm8Devices[0] .answering (fun _ => 0) 0x8000 6500
          (.fresh UInt8.ofNat)) ∧
      Delivers stm8Devices[0] .ready (.idle UInt8.ofNat) 0x8000 6500 (fun _ => True)
        (stlink2SwimReadRange stm8Devices[0] .answering (fun _ => 0) 0x8000 6500
          ⟨.idle UInt8.ofNat, [], 0, 0, []⟩) ∧
      Delivers stm8Devices[0] .ready (.idle UInt8.ofNat) 0x8000 6500 (fun _ => True)
        (espstlinkSwimReadRange stm8Devices[0] .answering (fun _ => 0) 0x8000 6500
          ⟨.idle UInt8.ofNat, 0, []⟩) := by
  have hall := readRange_agree (List.getElem_mem (by decide : 0 < stm8Devices.length)) .ready
    (.idle UInt8.ofNat) (show 0x8000 + 6500 ≤ 0x10000 by decide)
  refine ⟨?_, ?_, ?_⟩
  · exact hall.1 .answering StlinkEnv.answering_noFailure rfl _ rfl _
  · exact hall.2.1 .answering Stlinkv2Env.answering_noFailure rfl _ rfl _
  · exact hall.2.2 .answering (fun _ => rfl) rfl _ rfl _

/-- A read of `CLK_CKDIVR` with the ST-Link V1 gives the 0 that it has written there. -/
theorem readRange_clkCkdivr :
    ¬∀ (t : Target) (start length : Nat), start + length ≤ 0x10000 →
      ∀ env : StlinkEnv, env.NoFailure → env.hw = .ready → ∀ s : StlinkState, s.target = t →
        ∀ buffer, Delivers stm8Devices[0] .ready t start length (fun _ => True)
          (stlinkSwimReadRange stm8Devices[0] env buffer start length s) := by
  intro h
  obtain ⟨buffer, s', hrun, hdata⟩ := h (.idle fun _ => 0x18) 0x50c6 1 (by decide) .answering
    StlinkEnv.answering_noFailure rfl (.fresh fun _ => 0x18) rfl fun _ => 0xff
  have hbyte : (Drv.returnsWith (fun r _ => r.2 0 == 0)
      (stlinkSwimReadRange stm8Devices[0] .answering (fun _ => 0xff) 0x50c6 1)
      (.fresh fun _ => 0x18)) = true := by decide +kernel
  unfold Drv.returnsWith at hbyte
  rw [hrun] at hbyte
  have hzero : buffer 0 = 0 := beq_iff_eq.mp hbyte
  have hshown : buffer 0 = 0x18 := hdata 0 (by decide) trivial
  rw [hzero] at hshown
  exact absurd hshown (by decide)

end Stm8Flash
