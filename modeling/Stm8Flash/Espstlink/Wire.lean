import Stm8Flash.Espstlink.Effects
import Stm8Flash.Espstlink.Serial

/-! # The ESP back end on the serial line

`espstlink_swim_read`, `espstlink_swim_write` and `espstlink_swim_srst` send their command, and
`error_check` reads its verdict from what the programmer sends back, in whatever pieces `read`
returns it and behind what earlier answers have left on the line. The model of `espstlink.c` takes
the verdict of every command from its environment instead. `wireLib_sim` says when this is right: of
a programmer that sends complete answers, and refusals that leave nothing on the line, the functions
of the back end see the verdicts only, however the line splits what is sent. With any other
programmer they may read what is not there, but they still send their commands only
(`wireLib_obeys`).
-/

namespace Stm8Flash

open Hex Word

/-- The serial line and the programmer at its other end. -/
structure EspWire where
  /-- the programmer carries the `k`-th command out -/
  carriesOut : Nat → Bool
  /-- what it sends for the `k`-th command, with the target as it is when the command arrives -/
  reply : Nat → List Byte → Target → List Byte
  /-- of the bytes that are there, the `k`-th `read` takes so many at most -/
  chunk : Nat → Nat
  /-- `resp_buf` before an answer -/
  stackResp : Nat → Byte

structure WireState where
  target : Target
  commands : Nat
  /-- what the programmer has sent and `read` has not taken -/
  stream : List Byte
  /-- calls of `read` -/
  calls : Nat

section Wire

variable (d : Stm8Device) (wire : EspWire)

/-- The command `p` with the bytes `data` after it, and `check` for its answer, which has `room`
bytes in `resp_buf`. A store behind `resp_buf` ends the run. -/
def wireCommand {α : Type} (p data : List Byte) (room : Nat) (check : (Nat → Nat) → Serial α) :
    Drv WireState EspstlinkError (Option α) := do
  let s ← Drv.state
  let r := check (fun k => wire.chunk (s.calls + k))
    (SerialState.init (s.stream ++ wire.reply s.commands (p ++ data) s.target))
  Drv.change fun s =>
    { target := if wire.carriesOut s.commands then espstlinkReceive d p data s.target
        else s.target
      commands := s.commands + 1
      stream := r.2.stream
      calls := s.calls + r.2.calls }
  if ∃ q ∈ r.2.stores, room ≤ q.1 then Drv.stop .overrun else pure r.1.toOption

/-- A command whose response of `size` bytes nobody looks at. -/
def wireSend (p data : List Byte) (size : Nat) : Drv WireState EspstlinkError Bool := do
  let ok ← wireCommand d wire p data size fun chunk =>
    errorCheck chunk (p.getD 0 0) (size != 0) size
  pure ok.isSome

/-- The response to `GET_VERSION` -/
def serialVersion (chunk : Nat → Nat) : Serial (List Byte) := do
  errorCheck chunk 0xFF true 2
  let s ← Drv.state
  pure (Image.slice (Image.storeAll wire.stackResp s.stores) 0 2)

/-- `libespstlink.c` on the line. -/
def wireLib : EspLib WireState where
  fetchVersion := do
    let response ← wireCommand d wire [0xFF] [] 2 (serialVersion wire)
    pure (response.bind EspLib.versionOf)
  reset input enableReset := wireSend d wire (EspLib.resetCmd input enableReset) [] 0
  swimEntry := wireSend d wire [0xFE] [] 2
  swimRead addr size :=
    wireCommand d wire (espstlinkCmd 1 size addr) [] 512 fun chunk =>
      serialSwimRead chunk wire.stackResp size
  swimWrite buffer addr size :=
    wireSend d wire (espstlinkCmd 2 size addr)
      (buffer.take (espstlinkSize (espstlinkCmd 2 size addr))) 4
  swimSrst := wireSend d wire [0] [] 0

/-- `espstlink_pgm_open`, when the port can be opened: `tcflush` drops what has been sent before. -/
def wirePgmOpen : Drv WireState EspstlinkError Bool := do
  Drv.change fun s => { s with stream := [] }
  (wireLib d wire).pgmOpen

end Wire

/-! ## Programmers that keep in step -/

/-- How many bytes the library wants behind the status of an answer to `p`. -/
def responseSize (p : List Byte) : Nat :=
  if p.getD 0 0 = 1 then espstlinkSize p + 4
  else if p.getD 0 0 = 2 then 4
  else if p.getD 0 0 = 0xFE ∨ p.getD 0 0 = 0xFF then 2
  else 0

/-- The command, the status 0 and the response; that of a read ends with the data. -/
def CompleteAnswer (d : Stm8Device) (hw : Hardware) (version p : List Byte) (t : Target)
    (bytes : List Byte) : Prop :=
  ∃ response, bytes = p.getD 0 0 :: 0 :: response ∧ response.length = responseSize p ∧
    (p.getD 0 0 = 1 → response.drop 4 = t.read d hw (espstlinkAddr p) (espstlinkSize p)) ∧
    (p.getD 0 0 = 0xFF → response = version)

/-- Answers that are refused and of which `error_check` leaves nothing on the line. -/
inductive Refusal (chunk : Nat → Nat) (command : Byte) (size : Nat) : List Byte → Prop
  | silent : Refusal chunk command size []
  | unexpected {b : Byte} {rest : List Byte} (hb : b ≠ command) (hrest : rest.length ≤ 1) :
      Refusal chunk command size (b :: rest)
  | unfinished : Refusal chunk command size [command]
  | status {b : Byte} {rest : List Byte} (hb : b ≠ 0) (hrest : rest.length ≤ 1) :
      Refusal chunk command size (command :: b :: rest)
  /-- a whole error code, where `read` does not return one byte when there are two -/
  | code {high low : Byte} (hchunk : ∀ k, 2 ≤ chunk k) :
      Refusal chunk command size [command, 0xFF, high, low]
  | short {response : List Byte} (hshort : response.length < size) :
      Refusal chunk command size (command :: 0 :: response)

/-- The programmer, of the version `version`, carries out and answers what `env` says. -/
structure EspWire.Realizes (wire : EspWire) (d : Stm8Device) (env : EspstlinkEnv)
    (version : List Byte) : Prop where
  carries : ∀ k, wire.carriesOut k = (env.answered k || env.carriedOut k)
  answers : ∀ k p t, env.answered k = true →
    CompleteAnswer d env.hw version p t (wire.reply k p t)
  refuses : ∀ k p t, env.answered k = false →
    Refusal wire.chunk (p.getD 0 0) (responseSize p) (wire.reply k p t)

/-- The same target after the same number of commands, and nothing left on the line. -/
structure InStep (s : WireState) (t : EspstlinkState) : Prop where
  target : s.target = t.target
  commands : s.commands = t.commands
  stream : s.stream = []

/-! ## One answer -/

section Answers

variable (chunk : Nat → Nat) {command : Byte} {size : Nat}

theorem errorCheck_complete {response : List Byte} (hlen : response.length = size) :
    ∃ n, errorCheckRun chunk command (size != 0) size (command :: 0 :: response) =
      (.ok (), ⟨[], n, Image.block 0 response⟩) := by
  rw [errorCheck_accepted]
  by_cases hsize : size = 0
  · obtain rfl : response = [] := List.eq_nil_of_length_eq_zero (by omega)
    rw [if_neg (by simp [hsize])]
    exact ⟨2, rfl⟩
  · obtain ⟨n, hrun⟩ := @errorCheckReceive_fits chunk command size size 0 ⟨response, 2, []⟩
      (by simp; omega) (by omega)
    rw [if_pos (by simp [hsize]), hrun, if_pos (by simp; omega)]
    exact ⟨n, rfl⟩

/-- A refusal is taken from the line, and what it stores is where the response would be. -/
theorem errorCheck_refusal {bytes : List Byte} (off : Nat) (h : Refusal chunk command size bytes) :
    ∃ e n stores, errorCheckRun (fun k => chunk (off + k)) command (size != 0) size bytes =
      (.error e, ⟨[], n, stores⟩) ∧ ∀ q ∈ stores, q.1 < size := by
  have hone (n : Nat) {rest : List Byte} (hrest : rest.length ≤ 1) (hn : 1 ≤ n) (k : Nat) :
      rest.drop (min (max 1 k) n) = [] := List.drop_eq_nil_of_le (by omega)
  have hnone : ∀ q ∈ ([] : List (Nat × Byte)), q.1 < size := by simp
  cases h with
  | silent => exact ⟨_, _, _, errorCheck_nil _ _ _ _, hnone⟩
  | unexpected hb hrest =>
    obtain ⟨e, hrun⟩ := errorCheck_unexpected (fun k => chunk (off + k)) command (size != 0) size
      hb _
    rw [hone 255 hrest (by decide)] at hrun
    exact ⟨e, _, _, hrun, hnone⟩
  | unfinished => exact ⟨_, _, _, errorCheck_unfinished _ _ _ _, hnone⟩
  | status hb hrest =>
    obtain ⟨e, n, hn, hrun⟩ := errorCheck_status (fun k => chunk (off + k)) command (size != 0)
      size hb _
    rw [hone n hrest (by omega)] at hrun
    exact ⟨e, _, _, hrun, hnone⟩
  | @code high low hchunk =>
    obtain ⟨e, n, hn, hrun⟩ := errorCheck_status (fun k => chunk (off + k)) command (size != 0)
      size (by decide : (0xFF : Byte) ≠ 0) [high, low]
    have hboth := hchunk (off + 2)
    rw [List.drop_eq_nil_of_le (by simp; omega)] at hrun
    exact ⟨e, _, _, hrun, hnone⟩
  | @short response hshort =>
    obtain ⟨n, hrun⟩ := @errorCheckReceive_fits (fun k => chunk (off + k)) command size size 0
      ⟨response, 2, []⟩ (by simp; omega) (by omega)
    rw [errorCheck_accepted, if_pos (by simp; omega), hrun, if_neg (by simp; omega)]
    refine ⟨_, n, _, rfl, fun q hq => ?_⟩
    rw [List.nil_append] at hq
    have hlt := (Image.block_addr hq).2
    dsimp only at hlt
    omega

end Answers

/-! ## One command -/

section Commands

variable {d : Stm8Device} {env : EspstlinkEnv} {wire : EspWire} {version : List Byte}

/-- A command whose check tells an answer from a refusal, and takes both from the line, is a command
of the model. -/
theorem wireCommand_sim {α : Type} (hreal : wire.Realizes d env version) {p data : List Byte}
    {room : Nat} {check : (Nat → Nat) → Serial α} {f : Target → α}
    (hanswer : ∀ off t bytes, CompleteAnswer d env.hw version (p ++ data) t bytes →
      ∃ n stores, check (fun k => wire.chunk (off + k)) (SerialState.init bytes) =
        (.ok (f t), ⟨[], n, stores⟩) ∧ ∀ q ∈ stores, q.1 < room)
    (hrefuse : ∀ off bytes,
      Refusal wire.chunk ((p ++ data).getD 0 0) (responseSize (p ++ data)) bytes →
      ∃ e n stores, check (fun k => wire.chunk (off + k)) (SerialState.init bytes) =
        (.error e, ⟨[], n, stores⟩) ∧ ∀ q ∈ stores, q.1 < room) :
    Drv.Sim InStep (wireCommand d wire p data room check)
      (espstlinkCommand d env p data >>= fun target => pure (target.map f)) := by
  intro s t h
  have hroom {stores : List (Nat × Byte)} (hin : ∀ q ∈ stores, q.1 < room) :
      ¬∃ q ∈ stores, room ≤ q.1 := by
    rintro ⟨q, hq, hge⟩
    exact absurd (hin q hq) (by omega)
  have hcarries := hreal.carries t.commands
  unfold wireCommand espstlinkCommand
  rw [Drv.state_bind_run, h.stream, List.nil_append, h.commands, h.target]
  cases hanswered : env.answered t.commands with
  | true =>
    obtain ⟨n, stores, hrun, hin⟩ := hanswer s.calls t.target _
      (hreal.answers t.commands (p ++ data) t.target hanswered)
    rw [hrun]
    simp only [Drv.bind_run, Drv.change_run, Drv.state_run, Drv.pure_run, if_neg (hroom hin),
      h.commands, h.target, hcarries, hanswered]
    exact ⟨rfl, rfl, rfl, rfl⟩
  | false =>
    obtain ⟨e, n, stores, hrun, hin⟩ := hrefuse s.calls _
      (hreal.refuses t.commands (p ++ data) t.target hanswered)
    rw [hrun]
    simp only [Drv.bind_run, Drv.change_run, Drv.state_run, Drv.pure_run, if_neg (hroom hin),
      h.commands, h.target, hcarries, hanswered]
    exact ⟨rfl, by simp, rfl, rfl⟩

/-- `espstlink_swim_read` on the line. -/
theorem wireSwimRead_sim (hreal : wire.Realizes d env version) {addr size : Nat}
    (hsize : size < 256) :
    Drv.Sim InStep ((wireLib d wire).swimRead addr size) ((espSwim d env).swimRead addr size) := by
  have hresponse : responseSize (espstlinkCmd 1 size addr ++ []) = size + 4 := by
    show (UInt8.ofNat size).toNat + 4 = size + 4
    rw [UInt8.toNat_ofNat_of_lt' hsize]
  refine wireCommand_sim hreal (fun off t bytes hanswer => ?_) fun off bytes hrefusal => ?_
  · obtain ⟨response, rfl, hlen, hdata, -⟩ := hanswer
    rw [hresponse] at hlen
    have hheader : (response.take 4).length = 4 := by rw [List.length_take]; omega
    have hrest : (response.drop 4).length = size := by rw [List.length_drop]; omega
    obtain ⟨n, hrun⟩ := serialSwimRead_answer (fun k => wire.chunk (off + k)) wire.stackResp
      hheader (show (response.drop 4).length ≤ 255 by omega)
    rw [hrest, List.take_append_drop] at hrun
    refine ⟨n, Image.block 0 response, ?_, fun q hq => ?_⟩
    · rw [← List.append_nil (espstlinkCmd 1 size addr), ← hdata rfl]
      exact hrun
    · have hlt := (Image.block_addr hq).2
      omega
  · rw [hresponse] at hrefusal
    obtain ⟨e, n, stores, hrun, hin⟩ := errorCheck_refusal wire.chunk off hrefusal
    refine ⟨e, n, stores, ?_, fun q hq => lt_of_lt_of_le (hin q hq) (by omega)⟩
    unfold serialSwimRead
    rw [UInt8.toNat_ofNat_of_lt' hsize]
    exact Drv.bind_error hrun _

/-- A command whose response nobody looks at. -/
theorem wireSend_sim (hreal : wire.Realizes d env version) {p data : List Byte} {size : Nat}
    (hsize : responseSize (p ++ data) = size) (hp : (p ++ data).getD 0 0 = p.getD 0 0) :
    Drv.Sim InStep (wireSend d wire p data size)
      (espstlinkCommand d env p data >>= fun target => pure target.isSome) := by
  have hsim : Drv.Sim InStep
      (wireCommand d wire p data size fun chunk =>
        errorCheck chunk (p.getD 0 0) (size != 0) size)
      (espstlinkCommand d env p data >>= fun target => pure (target.map fun _ => ())) := by
    refine wireCommand_sim hreal (fun off t bytes hanswer => ?_) fun off bytes hrefusal => ?_
    · obtain ⟨response, rfl, hlen, -, -⟩ := hanswer
      rw [hsize] at hlen
      obtain ⟨n, hrun⟩ :=
        @errorCheck_complete (fun k => wire.chunk (off + k)) (p.getD 0 0) size _ hlen
      rw [hp]
      refine ⟨n, _, hrun, fun q hq => ?_⟩
      have hlt := (Image.block_addr hq).2
      omega
    · rw [hsize, hp] at hrefusal
      exact errorCheck_refusal wire.chunk off hrefusal
  have hsame : (espstlinkCommand d env p data >>= fun target => pure target.isSome) =
      (espstlinkCommand d env p data >>= fun target => pure (target.map fun _ => ())) >>=
        fun ok => pure ok.isSome := by
    simp only [bind_assoc, pure_bind, Option.isSome_map]
  rw [hsame]
  exact hsim.bind fun ok => Drv.Sim.pure ok.isSome

/-- `espstlink_fetch_version` on the line. -/
theorem wireFetchVersion_sim (hreal : wire.Realizes d env version) :
    Drv.Sim InStep (wireLib d wire).fetchVersion
      (EspLib.ofCommands d env version).fetchVersion := by
  have hsim : Drv.Sim InStep (wireCommand d wire [0xFF] [] 2 (serialVersion wire))
      (espstlinkCommand d env [0xFF] [] >>= fun target => pure (target.map fun _ => version)) := by
    refine wireCommand_sim hreal (fun off t bytes hanswer => ?_) fun off bytes hrefusal => ?_
    · obtain ⟨response, rfl, hlen, -, hversion⟩ := hanswer
      obtain rfl : response = version := hversion rfl
      have hlen2 : response.length = 2 := hlen
      obtain ⟨n, hrun⟩ := @errorCheck_complete (fun k => wire.chunk (off + k)) 0xFF 2 _ hlen2
      refine ⟨n, Image.block 0 response, ?_, fun q hq => ?_⟩
      · unfold serialVersion
        refine (Drv.bind_ok hrun _).trans ?_
        rw [Drv.state_bind_run, Drv.pure_run]
        have hslice : Image.slice (Image.storeAll wire.stackResp (Image.block 0 response)) 0 2 =
            response := by
          apply List.ext_getElem
          · rw [Image.slice_length, hlen2]
          · intro k hk hk'
            have hat := Image.storeAll_block_at wire.stackResp 0 response k hk'
            rw [Image.slice_getElem, hat]
        rw [hslice]
      · have hlt := (Image.block_addr hq).2
        omega
    · obtain ⟨e, n, stores, hrun, hin⟩ := errorCheck_refusal wire.chunk off hrefusal
      exact ⟨e, n, stores, Drv.bind_error hrun _, hin⟩
  have hsame : (EspLib.ofCommands d env version).fetchVersion =
      (espstlinkCommand d env [0xFF] [] >>= fun target => pure (target.map fun _ => version)) >>=
        fun response => pure (response.bind EspLib.versionOf) := by
    simp only [bind_assoc, pure_bind, Option.bind_map]
    rfl
  rw [hsame]
  exact hsim.bind fun response => Drv.Sim.pure _

/-- The library on the line simulates the commands of the model. -/
theorem wireLib_sim (hreal : wire.Realizes d env version) :
    EspLib.Sim InStep (wireLib d wire) (EspLib.ofCommands d env version) where
  fetchVersion := wireFetchVersion_sim hreal
  reset _ _ := wireSend_sim hreal rfl rfl
  swimEntry := wireSend_sim hreal rfl rfl
  swimRead _ _ hsize := wireSwimRead_sim hreal hsize
  swimWrite _ _ _ := wireSend_sim hreal rfl rfl
  swimSrst := wireSend_sim hreal rfl rfl

/-- Whatever has been left on the line: the opening begins in step. -/
theorem wirePgmOpen_run (hreal : wire.Realizes d env version) {s : WireState} {t : EspstlinkState}
    (htarget : s.target = t.target) (hcommands : s.commands = t.commands) :
    (wirePgmOpen d wire s).1 = ((EspLib.ofCommands d env version).pgmOpen t).1 ∧
      InStep (wirePgmOpen d wire s).2 ((EspLib.ofCommands d env version).pgmOpen t).2 :=
  (wireLib_sim hreal).pgmOpen { s with stream := [] } t ⟨htarget, hcommands, rfl⟩

/-! ## Whatever comes back -/

/-- A command reaches the target or it does not, whatever `check` makes of the line. -/
theorem wireCommand_effect {α : Type} {I : Target → Prop} {p data : List Byte} {room : Nat}
    {check : (Nat → Nat) → Serial α} (h : ∀ t, I t → I (espstlinkReceive d p data t)) :
    Drv.Preserves (fun s => I s.target) (wireCommand d wire p data room check) := by
  refine Drv.Preserves.state.bind fun s => Drv.Preserves.bind (Drv.Preserves.change fun s' hs => ?_)
    fun _ => Drv.Preserves.ite (fun _ => Drv.Preserves.stop _) fun _ => Drv.Preserves.pure _
  show I (if wire.carriesOut s'.commands then espstlinkReceive d p data s'.target else s'.target)
  split
  · exact h _ hs
  · exact hs

theorem wireLib_obeys : (wireLib d wire).Obeys d WireState.target := by
  have hplain (I : Target → Prop) (p : List Byte) (size : Nat)
      (hp : ∀ t, espstlinkReceive d p [] t = t) :
      Drv.Preserves (fun s => I s.target) (wireSend d wire p [] size) := by
    refine (wireCommand_effect fun t ht => ?_).bind fun _ => Drv.Preserves.pure _
    rw [hp]
    exact ht
  refine ⟨fun I => ?_, fun I input enable => hplain I _ _ fun _ => rfl,
    fun I => hplain I _ _ fun _ => rfl, fun I => hplain I _ _ fun _ => rfl,
    fun I addr size hread => wireCommand_effect fun t ht => hread t _ _ ht,
    fun I buffer addr size hwrite => (wireCommand_effect hwrite).bind fun _ => Drv.Preserves.pure _⟩
  exact (wireCommand_effect fun t ht => ht).bind fun _ => Drv.Preserves.pure _

end Commands

/-! ## A programmer for every environment -/

/-- The response to a command that is answered. -/
def wireResponse (d : Stm8Device) (hw : Hardware) (version p : List Byte) (t : Target) :
    List Byte :=
  if p.getD 0 0 = 1 then [0, 0, 0, 0] ++ t.read d hw (espstlinkAddr p) (espstlinkSize p)
  else if p.getD 0 0 = 2 then [0, 0, 0, 0]
  else if p.getD 0 0 = 0xFE then [5, 0]
  else if p.getD 0 0 = 0xFF then version
  else []

/-- It is silent where the environment has no answer, and every byte comes by itself. -/
def EspWire.ofEnv (d : Stm8Device) (env : EspstlinkEnv) (version : List Byte) : EspWire where
  carriesOut k := env.answered k || env.carriedOut k
  reply k p t :=
    if env.answered k then p.getD 0 0 :: 0 :: wireResponse d env.hw version p t else []
  chunk _ := 1
  stackResp _ := 0

theorem EspWire.ofEnv_realizes (d : Stm8Device) (env : EspstlinkEnv) {version : List Byte}
    (hversion : version.length = 2) : (EspWire.ofEnv d env version).Realizes d env version := by
  refine ⟨fun k => rfl, fun k p t hanswered => ?_, fun k p t hrefused => ?_⟩
  · refine ⟨wireResponse d env.hw version p t, if_pos hanswered, ?_, fun hp => ?_, fun hp => ?_⟩
    · unfold wireResponse responseSize
      split_ifs <;> simp_all
    · unfold wireResponse
      rw [if_pos hp]
      rfl
    · unfold wireResponse
      rw [hp]
      rfl
  · show Refusal _ _ _ (if env.answered k then _ else [])
    rw [if_neg (by rw [hrefused]; decide)]
    exact Refusal.silent

end Stm8Flash
