import Stm8Flash.Espstlink.Fetch
import Stm8Flash.Espstlink.Serial

/-! # ESP: a read that stops early

`espstlink_swim_read_range` returns at the first command that fails. What it returns is where
that chunk begins, and the buffer holds the target up to there
(`espstlinkSwimReadRange_front`).
-/

namespace Stm8Flash

open Hex Word

section Partial

variable {d : Stm8Device} {env : EspstlinkEnv} {start : Nat} {s t : EspstlinkState}
  {cs rest : List (Nat × Nat)} {ps : List (Piece Byte)}

/-- A chunk that a READ command can ask for. -/
def Requestable (start : Nat) (c : Nat × Nat) : Prop :=
  c.2 ≤ 255 ∧ start + c.1 + c.2 ≤ 16777216

/-- The READ command for a chunk. -/
def espstlinkRequest (start : Nat) (c : Nat × Nat) : List Byte :=
  espstlinkCmd 1 c.2 (start + c.1)

theorem Requestable.run {c : Nat × Nat} (h : Requestable start c) (hpos : 0 < c.2)
    (s : EspstlinkState) :
    (espSwim d env).swimRead (u32 (start + c.1)) c.2 s =
      (.ok (if env.answered s.commands then some (s.target.read d env.hw (start + c.1) c.2)
          else none),
        s.command (espstlinkRequest start c) (env.answered s.commands)
          (if env.Effective s.commands then s.target.afterRead d (start + c.1) c.2
            else s.target)) := by
  have hsize := h.1
  have hend := h.2
  rw [u32_of_lt (by omega)]
  exact espstlinkSwimRead_run (by omega) (by omega) s

/-- What has come in is what the target showed at the beginning: the chunks before do not show
in a later one. -/
theorem EspstlinkFetched.data {a b : Nat} (h : EspstlinkFetched d env start s cs ps rest t)
    (htiles : Tiles a b cs) (hfit : ∀ c ∈ cs, Requestable start c) :
    ∀ p ∈ ps, ∀ j, (hj : j < p.2.length) →
      s.target.peek d env.hw (start + (p.1 + j)) = p.2[j] := by
  induction h generalizing a with
  | done => simp
  | @chunk s u t c cs rest bs ps hread hrest ih =>
    cases htiles with
    | @cons _ _ n _ hpos htiles =>
      have hall : ∀ c ∈ cs, Requestable start c := fun c hc => hfit c (List.mem_cons_of_mem _ hc)
      rw [(hfit _ List.mem_cons_self).run hpos] at hread
      by_cases hanswered : env.answered s.commands = true
      · rw [if_pos hanswered, if_pos (show env.Effective s.commands from Or.inl hanswered)] at hread
        injection hread with hbytes hstate
        injection hbytes with hbytes
        injection hbytes with hbytes
        subst hbytes hstate
        intro p hp j hj
        rcases List.mem_cons.mp hp with rfl | hp
        · -- the bytes of this chunk
          simp only [Target.read, Image.slice_getElem]
          rw [Nat.add_assoc]
        · -- a later chunk lies behind this one
          have hlater := ih htiles hall p hp j hj
          have hchunks := hrest.chunks fun c hc => (hall c hc).1
          have hmem : (p.1, p.2.length) ∈ cs := by
            rw [hchunks]
            exact List.mem_append_left _ (List.mem_map.mpr ⟨p, hp, rfl⟩)
          have hrange := htiles.mem_range hmem
          simp only at hrange
          rw [← hlater, EspstlinkState.command_target, Target.peek_afterRead]
          exact Or.inr (by simp only; omega)
      · rw [if_neg hanswered] at hread
        cases hread
  | failed => simp

/-- The commands are those for the chunks up to the first failure. -/
theorem EspstlinkFetched.requests {a b : Nat} (h : EspstlinkFetched d env start s cs ps rest t)
    (htiles : Tiles a b cs) (hfit : ∀ c ∈ cs, Requestable start c) :
    ∃ done, cs = done ++ rest ∧ (∀ j < done.length, env.answered (s.commands + j) = true) ∧
      (rest ≠ [] → env.answered (s.commands + done.length) = false) ∧
      t.sent = s.sent ++ (done.map fun c => (espstlinkRequest start c, true)) ++
        (rest.take 1).map fun c => (espstlinkRequest start c, false) := by
  induction h generalizing a with
  | done => exact ⟨[], rfl, by simp, by simp, by simp⟩
  | @chunk s u t c cs rest bs ps hread hrest ih =>
    cases htiles with
    | @cons _ _ n _ hpos htiles =>
      rw [(hfit _ List.mem_cons_self).run hpos] at hread
      by_cases hanswered : env.answered s.commands = true
      · rw [if_pos hanswered] at hread
        injection hread with _ hstate
        subst hstate
        obtain ⟨done, hcs, hok, hfail, hsent⟩ := ih htiles fun c hc =>
          hfit c (List.mem_cons_of_mem _ hc)
        rw [EspstlinkState.command_commands] at hok hfail
        refine ⟨(a, n) :: done, by rw [hcs]; rfl, fun j hj => ?_, fun hne => ?_, ?_⟩
        · cases j with
          | zero => exact hanswered
          | succ j =>
            have hnext := hok j (by simpa using hj)
            rw [Nat.add_assoc, Nat.add_comm 1 j] at hnext
            exact hnext
        · have hnext := hfail hne
          rw [Nat.add_assoc, Nat.add_comm 1] at hnext
          exact hnext
        · rw [hsent, EspstlinkState.command_sent, hanswered]
          simp
      · rw [if_neg hanswered] at hread
        cases hread
  | @failed s t c cs hread =>
    cases htiles with
    | @cons _ _ n _ hpos htiles =>
      rw [(hfit _ List.mem_cons_self).run hpos] at hread
      by_cases hanswered : env.answered s.commands = true
      · rw [if_pos hanswered] at hread
        cases hread
      · rw [if_neg hanswered] at hread
        injection hread with _ hstate
        subst hstate
        have hno : env.answered s.commands = false := by simpa using hanswered
        refine ⟨[], rfl, by simp, fun _ => hno, ?_⟩
        rw [EspstlinkState.command_sent, hno]
        simp

/-- The chunks of a read tile it, and each fits the fields of its command. -/
theorem espstlinkChunks_fit {length : Nat} (hlim : start + length ≤ 16777216) :
    Tiles 0 length (espstlinkChunks length) ∧
      ∀ c ∈ espstlinkChunks length, 0 < c.2 ∧ Requestable start c := by
  obtain ⟨htiles, hsize⟩ := Tiles.cut_tiles (show 0 < 255 by decide) (Nat.le_refl length) 0
  rw [Nat.zero_add] at htiles
  refine ⟨htiles, fun c hc => ?_⟩
  have hrange := htiles.mem_range hc
  exact ⟨hrange.2.1, hsize c hc, by omega⟩

theorem espstlinkRequest_fields {c : Nat × Nat} (h : Requestable start c) (hpos : 0 < c.2) :
    espstlinkSize (espstlinkRequest start c) = c.2 ∧
      espstlinkAddr (espstlinkRequest start c) = start + c.1 := by
  have hsize := h.1
  have hend := h.2
  exact ⟨espstlinkSize_cmd (by omega), espstlinkAddr_cmd (by omega)⟩

/-- A response that is no longer than announced lies in its part of `resp_buf`. -/
theorem serialSwimRead_stores_lt (chunk : Nat → Nat) (stack : Nat → Byte) {size : Nat}
    (hsize : size ≤ 255) {stream : List Byte} (hstream : stream.length ≤ 6 + size) :
    ∀ p ∈ (serialSwimRead chunk stack size (SerialState.init stream)).2.stores, p.1 < 4 + size := by
  have hstores := @errorCheck_stores_lt chunk 1 true (size + 4) stream (by omega)
  unfold errorCheckRun at hstores
  unfold serialSwimRead
  rw [UInt8.toNat_ofNat_of_lt' (show size < 256 by omega), Drv.bind_run]
  rcases hcheck : errorCheck chunk 1 true (size + 4) (SerialState.init stream) with ⟨e | _, u⟩
  · rw [hcheck] at hstores
    intro p hp
    have hlt := hstores p hp
    omega
  · rw [hcheck] at hstores
    intro p hp
    have hlt := hstores p hp
    omega

/-- Whatever commands fail, a read delivers a correct front part. The chunks tile the range, and
each fits its command; the value returned is `length` or where the first chunk begins whose
command fails, no later one is asked for, and the buffer holds what the target showed up to
there. On the line the answer to a chunk is read whole in every split, and an answer no longer
than announced stays inside the 512 bytes of `resp_buf`. -/
theorem espstlinkSwimReadRange_front (d : Stm8Device) (env : EspstlinkEnv) {start length : Nat}
    (hlim : start + length ≤ 16777216) (buffer : Nat → Byte) (s : EspstlinkState) :
    (Tiles 0 length (espstlinkChunks length) ∧ ∀ c ∈ espstlinkChunks length, 0 < c.2 ∧
      espstlinkSize (espstlinkRequest start c) = c.2 ∧
      espstlinkAddr (espstlinkRequest start c) = start + c.1) ∧
    (∃ done rest r buf t, espstlinkChunks length = done ++ rest ∧
      espstlinkSwimReadRange d env buffer start length s = (.ok (((r : Nat) : Int), buf), t) ∧
      r = Tiles.first length rest ∧ r ≤ length ∧
      (∀ k < r, buf k = s.target.peek d env.hw (start + k)) ∧
      (r = length ↔ ∀ j < (espstlinkChunks length).length,
        env.answered (s.commands + j) = true) ∧
      (rest ≠ [] → env.answered (s.commands + done.length) = false) ∧
      t.sent = s.sent ++ (done.map fun c => (espstlinkRequest start c, true)) ++
        (rest.take 1).map fun c => (espstlinkRequest start c, false)) ∧
    ∀ c ∈ espstlinkChunks length, ∀ (chunk : Nat → Nat) (stack : Nat → Byte),
      (∀ header data : List Byte, header.length = 4 → data.length = c.2 →
        ∃ u, serialSwimRead chunk stack c.2 (SerialState.init (1 :: 0 :: (header ++ data))) =
          (.ok data, u)) ∧
      ∀ stream : List Byte, stream.length ≤ 6 + c.2 →
        ∀ p ∈ (serialSwimRead chunk stack c.2 (SerialState.init stream)).2.stores, p.1 < 512 := by
  obtain ⟨htiles, hfit⟩ := @espstlinkChunks_fit start length hlim
  refine ⟨⟨htiles, fun c hc => ?_⟩, ?_, fun c hc chunk stack => ⟨?_, ?_⟩⟩
  · obtain ⟨hpos, hreq⟩ := hfit c hc
    exact ⟨hpos, espstlinkRequest_fields hreq hpos⟩
  · have hall : ∀ c ∈ espstlinkChunks length, Requestable start c := fun c hc => (hfit c hc).2
    obtain ⟨ps, rest, t, hfetched, hrun⟩ := @espstlinkSwimReadRange_fetch d env start length
      (by omega) buffer s
    obtain ⟨done, hchunks, hok, hfail, hsent⟩ := hfetched.requests htiles hall
    obtain ⟨hle, hend⟩ := hfetched.first_eq_iff
    -- the pieces are the chunks before the first failure
    have hpieces := hfetched.chunks fun c hc => (hall c hc).1
    have hcame : CameIn ps (Tiles.first length rest) := by
      refine cameIn_of_tiles ?_
      rw [hpieces] at htiles
      exact htiles.split.1
    refine ⟨done, rest, Tiles.first length rest, stored buffer ps, t, hchunks, ?_, rfl, hle,
      fun k hk => ?_, ?_, hfail, hsent⟩
    · rw [hrun, toInt32_of_lt (by omega)]
    · exact hcame.stored_at (f := fun k => s.target.peek d env.hw (start + k))
        (hfetched.data htiles hall) buffer hk
    · rw [hend, hchunks, List.length_append]
      constructor
      · rintro rfl j hj
        exact hok j (by simpa using hj)
      · intro hanswered
        by_contra hne
        have hpos := List.length_pos_iff.mpr hne
        have hno := hfail hne
        rw [hanswered done.length (by omega)] at hno
        cases hno
  · intro header data hheader hdata
    have hsize := (hfit c hc).2.1
    obtain ⟨calls, hrun⟩ :=
      serialSwimRead_answer chunk stack hheader (show data.length ≤ 255 by omega)
    rw [hdata] at hrun
    exact ⟨_, hrun⟩
  · intro stream hstream p hp
    have hsize := (hfit c hc).2.1
    have hlt := serialSwimRead_stores_lt chunk stack hsize hstream p hp
    omega

/-- 300 bytes, and the command for the second chunk fails. -/
theorem espstlinkSwimReadRange_front_second :
    ∃ r buf t, espstlinkSwimReadRange stm8Devices[0] (.losing 1 0) (fun _ => 0) 0x8000 300
        ⟨.idle fun a => UInt8.ofNat a, 0, []⟩ = (.ok (((r : Nat) : Int), buf), t) ∧
      r ≠ 300 ∧ ∀ k < r, buf k =
        (Target.idle fun a => UInt8.ofNat a).peek stm8Devices[0] .ready (0x8000 + k) := by
  obtain ⟨-, ⟨done, rest, r, buf, t, -, hrun, -, -, hdata, hiff, -, -⟩, -⟩ :=
    @espstlinkSwimReadRange_front stm8Devices[0] (.losing 1 0) 0x8000 300 (by decide)
      (fun _ => 0) ⟨.idle fun a => UInt8.ofNat a, 0, []⟩
  refine ⟨r, buf, t, hrun, fun hr => ?_, hdata⟩
  have hsecond := hiff.mp hr 1 (by decide)
  exact absurd hsecond (by decide)

end Partial

end Stm8Flash
