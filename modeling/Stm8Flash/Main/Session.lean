import Stm8Flash.Espstlink.Wire
import Stm8Flash.Main.History

/-! # Runs of the program on the serial line

Every run of `main` with the ESP programmer opens the port, which drops what is left on the line,
reconnects the target and carries out its action. With a programmer that keeps in step, any sequence
of runs on the line ends like the same sequence on the model of the commands
(`wireSessions_refine`); with any programmer at all, whatever it sends, the runs leave the data
outside their ranges alone (`wireSessions_frame`).
-/

namespace Stm8Flash

open Hex Word

/-! ## The actions over two programmers -/

section Sim

variable {σ τ ε : Type}

/-- The methods of the two programmers simulate each other. -/
structure Programmer.Sim (R : σ → τ → Prop) (pgm : Programmer σ ε) (pgm' : Programmer τ ε) :
    Prop where
  readRange : ∀ buffer start length,
    Drv.Sim R (pgm.readRange buffer start length) (pgm'.readRange buffer start length)
  writeRange : ∀ buffer start length memtype,
    Drv.Sim R (pgm.writeRange buffer start length memtype)
      (pgm'.writeRange buffer start length memtype)
  writeNegative : ∀ buffer start size memtype,
    Drv.Sim R (pgm.writeNegative buffer start size memtype)
      (pgm'.writeNegative buffer start size memtype)
  reset : Drv.Sim R pgm.reset pgm'.reset
  close : Drv.Sim R pgm.close pgm'.close

variable {R : σ → τ → Prop} {pgm : Programmer σ ε} {pgm' : Programmer τ ε} (h : pgm.Sim R pgm')
  (o : MainOptions)

include h

theorem mainRead_sim (heap : Nat → Byte) (opens : Bool) (fails : Nat → Bool) :
    Drv.Sim R (mainRead pgm o heap opens fails) (mainRead pgm' o heap opens fails) := by
  refine Drv.Sim.ite (fun _ => Drv.Sim.stop _) fun _ => ?_
  refine ((h.readRange _ _ _).raise _).bind fun r => ?_
  refine Drv.Sim.ite (fun _ => Drv.Sim.stop _) fun _ => ?_
  refine Drv.Sim.ite (fun _ => Drv.Sim.stop _) fun _ => ?_
  refine Drv.Sim.ite (fun _ => ?_) fun _ => Drv.Sim.stop _
  cases writeFile fails o r.2 with
  | none => exact Drv.Sim.stop _
  | some file => exact (h.close.raise _).bind fun _ => Drv.Sim.pure _

theorem mainVerify_sim (heap heap2 : Nat → Byte) (file : Option (List Byte)) :
    Drv.Sim R (mainVerify pgm o heap heap2 file) (mainVerify pgm' o heap heap2 file) := by
  refine Drv.Sim.ite (fun _ => Drv.Sim.stop _) fun _ => ?_
  refine ((h.readRange _ _ _).raise _).bind fun r => ?_
  refine Drv.Sim.ite (fun _ => Drv.Sim.stop _) fun _ => ?_
  cases file with
  | none => exact Drv.Sim.stop _
  | some content =>
    refine Drv.Sim.ite (fun _ => Drv.Sim.stop _) fun _ => ?_
    cases readFile o content with
    | error e => exact Drv.Sim.stop _
    | ok p =>
      refine Drv.Sim.ite (fun _ => ?_) fun _ => Drv.Sim.stop _
      refine Drv.Sim.ite (fun _ => ?_) fun _ => Drv.Sim.stop _
      exact (h.close.raise _).bind fun _ => Drv.Sim.pure _

theorem mainWrite_sim (file : Option (List Byte)) :
    Drv.Sim R (mainWrite pgm o file) (mainWrite pgm' o file) := by
  cases file with
  | none => exact Drv.Sim.stop _
  | some content =>
    refine Drv.Sim.ite (fun _ => Drv.Sim.stop _) fun _ => ?_
    cases readFile o content with
    | error e => exact Drv.Sim.stop _
    | ok p =>
      refine Drv.Sim.ite (fun _ => ?_) fun _ => Drv.Sim.ite (fun _ => ?_) fun _ => Drv.Sim.stop _
      · refine ((h.writeRange _ _ _ _).raise _).bind fun _ => (h.reset.raise _).bind fun _ => ?_
        exact (h.close.raise _).bind fun _ => Drv.Sim.pure _
      · exact ((h.writeNegative _ _ _ _).raise _).bind fun _ => Drv.Sim.stop _

theorem mainUnlock_sim (fills : Bool) :
    Drv.Sim R (mainUnlock pgm o fills) (mainUnlock pgm' o fills) := by
  have hsend (n : Nat) (buffer : Nat → Byte) :
      Drv.Sim R (Drv.raise UnlockError.programmer (pgm.writeRange buffer o.start n o.kind))
        (Drv.raise UnlockError.programmer (pgm'.writeRange buffer o.start n o.kind)) :=
    (h.writeRange _ _ _ _).raise _
  have hend (sent : Int) : Drv.Sim R
      (do Drv.raise UnlockError.programmer pgm.reset
          Drv.raise UnlockError.programmer pgm.close
          pure sent : Drv σ (UnlockError ε) Int)
      (do Drv.raise UnlockError.programmer pgm'.reset
          Drv.raise UnlockError.programmer pgm'.close
          pure sent : Drv τ (UnlockError ε) Int) :=
    (h.reset.raise _).bind fun _ => (h.close.raise _).bind fun _ => Drv.Sim.pure _
  unfold mainUnlock
  cases o.part.readOutProtectionMode with
  | unknown => exact Drv.Sim.stop _
  | stm8s => exact Drv.Sim.ite (fun _ => (hsend _ _).bind hend) fun _ => Drv.Sim.stop _
  | stm8l =>
    refine Drv.Sim.ite (fun _ => ?_) fun _ => Drv.Sim.stop _
    exact (hsend _ _).bind fun _ => (hsend _ _).bind hend

omit o in
theorem mainReset_sim : Drv.Sim R (mainReset pgm) (mainReset pgm') :=
  h.reset.bind fun _ => h.close

/-- An action ends alike with both programmers, and in states that `R` relates. -/
theorem Action.run_sim (fills : Bool) (a : Action) {s : σ} {t : τ} (hst : R s t) :
    (a.run pgm o fills s).1 = (a.run pgm' o fills t).1 ∧
      R (a.run pgm o fills s).2 (a.run pgm' o fills t).2 := by
  cases a with
  | read heap opens fails =>
    obtain ⟨hend, hstate⟩ := mainRead_sim h o heap opens fails s t hst
    exact ⟨congrArg Ending.read hend, hstate⟩
  | verify heap heap2 file =>
    obtain ⟨hend, hstate⟩ := mainVerify_sim h o heap heap2 file s t hst
    exact ⟨congrArg Ending.verify hend, hstate⟩
  | write file =>
    obtain ⟨hend, hstate⟩ := mainWrite_sim h o file s t hst
    exact ⟨congrArg Ending.write hend, hstate⟩
  | unlock =>
    obtain ⟨hend, hstate⟩ := mainUnlock_sim h o fills s t hst
    exact ⟨congrArg Ending.unlock hend, hstate⟩
  | reset =>
    obtain ⟨hend, hstate⟩ := mainReset_sim h s t hst
    exact ⟨congrArg Ending.reset hend, hstate⟩

end Sim

/-! ## Runs of the program -/

/-- How a run ends, from the opening of the programmer on. -/
inductive SessionEnd (ε : Type) where
  /-- `Error communicating with MCU. Please check your SWIM connection.` -/
  | noConnection
  /-- while the programmer is opened -/
  | stopped (e : ε)
  | action (ending : Ending ε)

section Sessions

variable {σ ε : Type} {d : Stm8Device}

/-- `pgm->open(pgm)`, and the action. -/
def session (openPgm : Drv σ ε Bool) (pgm : Programmer σ ε) (fills : Bool) (j : Job d) (s : σ) :
    SessionEnd ε × σ :=
  match openPgm s with
  | (.ok true, t) =>
    let r := j.action.run pgm j.options fills t
    (.action r.1, r.2)
  | (.ok false, t) => (.noConnection, t)
  | (.error e, t) => (.stopped e, t)

/-- The runs `jobs`, one after the other. -/
def sessions (run : Job d → σ → SessionEnd ε × σ) : List (Job d) → σ → List (SessionEnd ε) × σ
  | [], s => ([], s)
  | j :: jobs, s =>
    let r := run j s
    let rest := sessions run jobs r.2
    (r.1 :: rest.1, rest.2)

/-- A run changes nothing outside the range of its job, when the opening does not. -/
theorem session_spares {openPgm : Drv σ ε Bool} {pgm : Programmer σ ε} {target : σ → Target}
    {limit : Nat} (hpgm : pgm.Obeys d target limit) {j : Job d}
    (hreach : j.options.start + j.size ≤ limit) (fills : Bool) {a : Nat} (ha : ¬d.IsControl a)
    (hout : j.Spares a) (hopen : ∀ s, (target (openPgm s).2).mem a = (target s).mem a) (s : σ) :
    (target (session openPgm pgm fills j s).2).mem a = (target s).mem a := by
  have hdata := hopen s
  unfold session
  rcases hrun : openPgm s with ⟨e | ok, u⟩
  · rw [hrun] at hdata
    exact hdata
  · rw [hrun] at hdata
    cases ok with
    | false => exact hdata
    | true => exact (Job.run_spares hpgm hreach fills u ha hout).trans hdata

end Sessions

section Wire

variable (d : Stm8Device)

/-- `espstlink` with the library on the line. -/
def pgmWire (wire : EspWire) (stackCurrent : Nat → Byte) : Programmer WireState EspstlinkError where
  readRange := (wireLib d wire).readRange
  writeRange := (wireLib d wire).writeRange d stackCurrent
  writeNegative := (wireLib d wire).writeNegative d
  reset := (wireLib d wire).srst
  close := pure ()

/-- A run on the line. -/
def wireSession (wire : EspWire) (stackCurrent : Nat → Byte) (j : Job d) (s : WireState) :
    SessionEnd EspstlinkError × WireState :=
  session (wirePgmOpen d wire) (pgmWire d wire stackCurrent) true j s

/-- A run on the model of the commands. -/
def commandSession (env : EspstlinkEnv) (version : List Byte) (j : Job d) (t : EspstlinkState) :
    SessionEnd EspstlinkError × EspstlinkState :=
  session (EspLib.ofCommands d env version).pgmOpen (pgmEspstlink d env) true j t

end Wire

/-- WRITE of two bytes. -/
def sampleJob : Job sampleOptions.part where
  options := sampleOptions
  action := .write (some [0x55, 0xAA])
  part := rfl

section Results

variable {d : Stm8Device} {wire : EspWire}

theorem pgmWire_sim {env : EspstlinkEnv} {version : List Byte}
    (hreal : wire.Realizes d env version) :
    (pgmWire d wire env.stackCurrent).Sim InStep (pgmEspstlink d env) := by
  have hlib := wireLib_sim hreal
  refine ⟨fun buffer start length => ?_, fun buffer start length memtype => ?_,
    fun buffer start size memtype => ?_, ?_, Drv.Sim.pure ()⟩
  · exact hlib.readRange buffer start length
  · exact hlib.writeRange d env.stackCurrent buffer start length memtype
  · exact hlib.writeNegative d buffer start size memtype
  · exact hlib.srst

/-- One run: whatever is on the line before, the ends are the same, and so are the targets. -/
theorem wireSession_run {env : EspstlinkEnv} {version : List Byte}
    (hreal : wire.Realizes d env version) (j : Job d) {s : WireState} {t : EspstlinkState}
    (htarget : s.target = t.target) (hcommands : s.commands = t.commands) :
    (wireSession d wire env.stackCurrent j s).1 = (commandSession d env version j t).1 ∧
      InStep (wireSession d wire env.stackCurrent j s).2 (commandSession d env version j t).2 := by
  have hopen := wirePgmOpen_run hreal htarget hcommands
  unfold wireSession commandSession session
  rcases hs : wirePgmOpen d wire s with ⟨e | ok, u⟩
  · rcases ht : (EspLib.ofCommands d env version).pgmOpen t with ⟨e' | ok', v⟩
    · rw [hs, ht] at hopen
      cases hopen.1
      exact ⟨rfl, hopen.2⟩
    · rw [hs, ht] at hopen
      cases hopen.1
  · rcases ht : (EspLib.ofCommands d env version).pgmOpen t with ⟨e' | ok', v⟩
    · rw [hs, ht] at hopen
      cases hopen.1
    · rw [hs, ht] at hopen
      cases hopen.1
      cases ok with
      | false => exact ⟨rfl, hopen.2⟩
      | true =>
        obtain ⟨hend, hstate⟩ := Action.run_sim (pgmWire_sim hreal) j.options true j.action hopen.2
        exact ⟨congrArg SessionEnd.action hend, hstate⟩

/-- With a programmer that keeps in step, all runs on the line end as they do on the model of the
commands and leave the target as they do there, however the line splits the answers and whatever is
left on it at the beginning. -/
theorem wireSessions_refine {env : EspstlinkEnv} {version : List Byte}
    (hreal : wire.Realizes d env version) (jobs : List (Job d)) {s : WireState}
    {t : EspstlinkState} (htarget : s.target = t.target) (hcommands : s.commands = t.commands) :
    (sessions (wireSession d wire env.stackCurrent) jobs s).1 =
        (sessions (commandSession d env version) jobs t).1 ∧
      (sessions (wireSession d wire env.stackCurrent) jobs s).2.target =
        (sessions (commandSession d env version) jobs t).2.target := by
  induction jobs generalizing s t with
  | nil => exact ⟨rfl, htarget⟩
  | cons j jobs ih =>
    obtain ⟨hend, hstep⟩ := wireSession_run hreal j htarget hcommands
    obtain ⟨hends, htargets⟩ := ih hstep.target hstep.commands
    exact ⟨congrArg₂ List.cons hend hends, htargets⟩

/-- A WRITE and another one, byte by byte, with a programmer that is silent when it is sent the
eighth command and a line on which something is left. -/
theorem wireSessions_refine_two :
    (sessions (wireSession sampleOptions.part (.ofEnv sampleOptions.part .refusesBlock [0, 1])
        EspstlinkEnv.refusesBlock.stackCurrent) [sampleJob, sampleJob]
        ⟨.idle fun _ => 0xff, 0, [0x17], 0⟩).1 =
      (sessions (commandSession sampleOptions.part .refusesBlock [0, 1]) [sampleJob, sampleJob]
        ⟨.idle fun _ => 0xff, 0, []⟩).1 ∧
    (sessions (wireSession sampleOptions.part (.ofEnv sampleOptions.part .refusesBlock [0, 1])
        EspstlinkEnv.refusesBlock.stackCurrent) [sampleJob, sampleJob]
        ⟨.idle fun _ => 0xff, 0, [0x17], 0⟩).2.target =
      (sessions (commandSession sampleOptions.part .refusesBlock [0, 1]) [sampleJob, sampleJob]
        ⟨.idle fun _ => 0xff, 0, []⟩).2.target :=
  wireSessions_refine (EspWire.ofEnv_realizes sampleOptions.part .refusesBlock rfl)
    [sampleJob, sampleJob] rfl rfl

/-! ## Where every command is answered -/

section Answered

variable {env : EspstlinkEnv} {version : List Byte} (hok : env.NoFailure)

include hok

theorem espstlinkCommand_answered (p data : List Byte) (t : EspstlinkState) :
    ∃ u, espstlinkCommand d env p data t = (.ok (some t.target), u) := by
  unfold espstlinkCommand
  rw [Drv.state_bind_run, Drv.change_bind_run, Drv.pure_run, if_pos (hok t.commands)]
  exact ⟨_, rfl⟩

theorem ofCommand_answered (p : List Byte) (t : EspstlinkState) :
    ∃ u, espCommand d env p t = (.ok true, u) := by
  obtain ⟨u, hrun⟩ := @espstlinkCommand_answered d env hok p [] t
  exact ⟨u, Drv.bind_ok hrun _⟩

theorem resetPin_answered (v : Int) (input enable : Bool) (t : EspstlinkState) :
    ∃ u, (EspLib.ofCommands d env version).connect.resetPin v input enable t = (.ok true, u) := by
  unfold EspConnect.resetPin
  split
  · exact ofCommand_answered hok _ t
  · exact ⟨t, rfl⟩

/-- The opening succeeds, when the version is supported. -/
theorem pgmOpen_answered (hversion : (EspLib.versionOf version).isSome) (t : EspstlinkState) :
    ∃ u, (EspLib.ofCommands d env version).pgmOpen t = (.ok true, u) := by
  obtain ⟨v, hv⟩ := Option.isSome_iff_exists.mp hversion
  obtain ⟨t₁, hfetch⟩ := @espstlinkCommand_answered d env hok [0xFF] [] t
  obtain ⟨t₂, hlow⟩ := @resetPin_answered d env version hok v false true t₁
  obtain ⟨t₃, hentry⟩ := @ofCommand_answered d env hok [0xFE] t₂
  obtain ⟨t₄, hsrst⟩ := @ofCommand_answered d env hok [0] t₃
  obtain ⟨t₅, hwrite⟩ := @espstlinkCommand_answered d env hok (espstlinkCmd 2 1 0x7f80) [0xA0] t₄
  obtain ⟨t₆, hhigh⟩ := @resetPin_answered d env version hok v true false t₅
  have hbyte : (EspLib.ofCommands d env version).writeByte 0xA0 0x7f80 t₄ = (.ok true, t₅) :=
    Drv.bind_ok hwrite _
  have hversion : (EspLib.ofCommands d env version).fetchVersion t = (.ok (some v), t₁) := by
    refine (Drv.bind_ok hfetch _).trans ?_
    rw [Option.bind_some, hv]
    rfl
  have hrest : (EspLib.ofCommands d env version).connect.reconnectEntry v t₂ = (.ok true, t₆) := by
    refine (Drv.bind_ok hentry _).trans ((Drv.bind_ok hsrst _).trans ?_)
    exact (Drv.bind_ok hbyte _).trans (Drv.bind_ok hhigh _)
  exact ⟨t₆, (Drv.bind_ok hversion _).trans ((Drv.bind_ok hlow _).trans hrest)⟩

/-- Behind the opening the action begins on the same data. -/
theorem commandSession_opened (hd : d.Sound) (hversion : (EspLib.versionOf version).isSome)
    (j : Job d) (t : EspstlinkState) : ∃ u, t.target.Untouched d u.target ∧
      commandSession d env version j t =
        (.action (j.action.run (pgmEspstlink d env) j.options true u).1,
          (j.action.run (pgmEspstlink d env) j.options true u).2) := by
  obtain ⟨u, hopen⟩ := @pgmOpen_answered d env version hok hversion t
  have huntouched := (@ofCommands_obeys d env version).pgmOpen hd (Target.Untouched.pokeClosed hd) t
    (Target.Untouched.refl d t.target)
  rw [hopen] at huntouched
  refine ⟨u, huntouched, ?_⟩
  unfold commandSession session
  rw [hopen]

end Answered

/-! ## Whatever the programmer sends -/

theorem pgmWire_obeys (hd : d.Sound) (stackCurrent : Nat → Byte) :
    (pgmWire d wire stackCurrent).Obeys d WireState.target 16777216 where
  readRange hread _ := wireLib_obeys.readRange hread
  writeRange hread hpoke _ _ hwrite hlim memtype buffer :=
    wireLib_obeys.writeRange hd hread hpoke hwrite hlim memtype stackCurrent buffer
  writeNegative hread hpoke _ _ hwrite hlim memtype buffer :=
    wireLib_obeys.writeNegative hd hread hpoke hwrite hlim memtype buffer
  reset hread hpoke := by
    refine wireLib_obeys.srst hd hread (hpoke.mono fun a ha => ?_)
    rw [ha]
    exact ⟨d.control_flashDmCsr2, hd.ne_cr2.2.2.2.2.2⟩
  close _ := Drv.Preserves.pure ()

/-- The opening writes to `SWIM_CSR` at most. -/
theorem wirePgmOpen_data (hd : d.Sound) (s : WireState) {a : Nat} (ha : ¬d.IsControl a) :
    (wirePgmOpen d wire s).2.target.mem a = s.target.mem a := by
  have hsession : PokeClosed d d.SessionReg fun t => t.HoldsOutside d s.target.mem 0 0 :=
    (Target.HoldsOutside.pokeClosed d s.target.mem 0 0).mono fun _ hreg => hreg.control
  have hopen := (@wireLib_obeys d wire).pgmOpen hd hsession { s with stream := [] }
    fun _ _ _ => rfl
  exact hopen a ha (by omega)

/-- A run changes nothing outside the range of its job. -/
theorem wireSession_spares {j : Job d} (hreach : j.options.start + j.size ≤ 16777216)
    (stackCurrent : Nat → Byte) (s : WireState) {a : Nat} (ha : ¬d.IsControl a)
    (hout : j.Spares a) :
    (wireSession d wire stackCurrent j s).2.target.mem a = s.target.mem a := by
  have hd : d.Sound := j.part ▸ stm8Devices_sound j.options.part j.options.part_mem
  exact session_spares (pgmWire_obeys hd stackCurrent) hreach true ha hout
    (fun s => wirePgmOpen_data hd s ha) s

/-- Whatever a programmer sends and carries out, in or out of step, the runs change no data outside
the ranges of their jobs. -/
theorem wireSessions_frame (wire : EspWire) (stackCurrent : Nat → Byte) {jobs : List (Job d)}
    (hreach : ∀ j ∈ jobs, j.options.start + j.size ≤ 16777216) (s : WireState) {a : Nat}
    (ha : ¬d.IsControl a) (hout : ∀ j ∈ jobs, j.Spares a) :
    (sessions (wireSession d wire stackCurrent) jobs s).2.target.mem a = s.target.mem a := by
  induction jobs generalizing s with
  | nil => rfl
  | cons j jobs ih =>
    have hone := @wireSession_spares d wire j (hreach j (List.mem_cons_self ..)) stackCurrent s a ha
      (hout j (List.mem_cons_self ..))
    have hrest := ih (fun i hi => hreach i (List.mem_cons_of_mem _ hi))
      (wireSession d wire stackCurrent j s).2 fun i hi => hout i (List.mem_cons_of_mem _ hi)
    exact hrest.trans hone

/-- The same WRITEs with a programmer that answers every command with the same byte. -/
theorem wireSessions_frame_noise :
    (sessions (wireSession sampleOptions.part
      ⟨fun _ => true, fun _ _ _ => [0x17], fun _ => 1, fun _ => 0⟩ fun _ => 0)
      [sampleJob, sampleJob] ⟨.idle fun _ => 0xff, 0, [], 0⟩).2.target.mem 0x8080 = 0xff :=
  wireSessions_frame _ _ (by decide) _ (by decide) (by decide)

end Results

/-! ## WRITE and VERIFY -/

section WriteVerify

variable {o : MainOptions} {wire : EspWire} {env : EspstlinkEnv} {version content : List Byte}
  {n : Int} {stores : List (Nat × Byte)}

/-- A run on the line, where every command is answered: the action on the model of the commands,
from the same data on. -/
theorem wireSession_answered (hreal : wire.Realizes o.part env version) (hok : env.NoFailure)
    (hversion : (EspLib.versionOf version).isSome) (a : Action) (s : WireState) :
    ∃ u t, s.target.Untouched o.part u.target ∧
      wireSession o.part wire env.stackCurrent ⟨o, a, rfl⟩ s =
        (.action (a.run (pgmEspstlink o.part env) o true u).1, t) ∧
      t.target = (a.run (pgmEspstlink o.part env) o true u).2.target := by
  have hd := stm8Devices_sound o.part o.part_mem
  obtain ⟨u, huntouched, hsession⟩ := commandSession_opened hok hd hversion
    (⟨o, a, rfl⟩ : Job o.part) ⟨s.target, s.commands, []⟩
  obtain ⟨hend, hstep⟩ := wireSession_run hreal (⟨o, a, rfl⟩ : Job o.part)
    (s := s) (t := ⟨s.target, s.commands, []⟩) rfl rfl
  rw [hsession] at hend hstep
  exact ⟨u, _, huntouched, Prod.ext hend rfl, hstep.target⟩

theorem wireSession_write (hreal : wire.Realizes o.part env version) (hok : env.NoFailure)
    (hsees : env.hw.SeesEop) (hversion : (EspLib.versionOf version).isSome)
    (hfile : readFile o content = .ok (n, stores)) (hin : InBuffer (writeAlign o) n stores)
    (hreq : DataRange o.part o.start n.toNat) (s : WireState) (hclear : s.target.Clear) :
    ∃ r t, wireSession o.part wire env.stackCurrent ⟨o, .write (some content), rfl⟩ s =
        (.action (.write (.ok r)), t) ∧ r.bytesToWrite = n ∧ n ≤ r.sent ∧
      ∀ k < n.toNat, ¬o.part.IsControl (o.start + k) →
        t.target.mem (o.start + k) = Image.storeAll (fun _ => 0) stores k := by
  obtain ⟨u, t, huntouched, hsession, htarget⟩ :=
    wireSession_answered hreal hok hversion (.write (some content)) s
  obtain ⟨r, w, m', hwrite, hbytes, hsent, hready, hwritten, -⟩ :=
    mainWrite_value (b := .espstlink env) ⟨hok, hsees⟩ hfile hin hreq hreq.below
      (huntouched.ready ⟨fun _ _ => rfl, hclear⟩)
  have hrun : Action.run (pgmEspstlink o.part env) o true (.write (some content)) u =
      (.write (.ok r), w) := by
    have hwrite' : mainWrite (pgmEspstlink o.part env) o (some content) u = (.ok r, w) := hwrite
    simp only [Action.run, hwrite']
    rfl
  rw [hrun] at hsession htarget
  refine ⟨r, t, hsession, hbytes, hsent, fun k hk hctl => ?_⟩
  rw [htarget, ← hwritten k hk]
  exact hready.1 _ hctl

theorem wireSession_verify (hreal : wire.Realizes o.part env version) (hok : env.NoFailure)
    (hsees : env.hw.SeesEop) (hversion : (EspLib.versionOf version).isSome)
    (hfile : readFile o content = .ok (n, stores)) (hin : InBuffer o.count n stores)
    (hread : ReadRequest o 16777216) (heap₁ heap₂ : Nat → Byte) {s : WireState}
    (himage : ∀ k < n.toNat, s.target.mem (o.start + k) = Image.storeAll (fun _ => 0) stores k) :
    ∃ v t, wireSession o.part wire env.stackCurrent ⟨o, .verify heap₁ heap₂ (some content), rfl⟩ s =
        (.action (.verify v), t) ∧ s.target.Untouched o.part t.target ∧
      (v = .ok n ↔ ∀ k < n.toNat, (∀ p ∈ stores, p.1 ≠ k) → heap₂ k = 0) := by
  have hd := stm8Devices_sound o.part o.part_mem
  obtain ⟨u, t, huntouched, hsession, htarget⟩ :=
    wireSession_answered hreal hok hversion (.verify heap₁ heap₂ (some content)) s
  have hafter := mainVerify_untouched ((Backend.espstlink env).obeys hd) heap₁ heap₂ (some content)
    s.target u huntouched
  have hdata : ∀ k < n.toNat, u.target.mem (o.start + k) =
      Image.storeAll (fun _ => 0) stores k := by
    intro k hk
    have hle := hin.2.1
    rw [huntouched.data _ (hread.data k (by omega)), himage k hk]
  have hverify := mainVerify_image_iff (b := .espstlink env) (s := u) ⟨hok, hsees⟩ hfile hin hread
    hdata heap₁ heap₂
  refine ⟨_, t, hsession, ?_, ?_⟩
  · rw [htarget]
    exact hafter
  · rw [← hverify]
    constructor
    · exact fun hv => ⟨_, Prod.ext hv rfl⟩
    · rintro ⟨w, hrun⟩
      exact congrArg Prod.fst hrun

/-- On the serial line of a programmer that answers every command, a WRITE and then a VERIFY with
the same options and file both reach their end: the WRITE reports all bytes and leaves the image of
the file, and the VERIFY reports `OK` if and only if the memory that `malloc` gives it holds zeros
where the file leaves gaps. -/
theorem wireSessions_write_verify (hreal : wire.Realizes o.part env version) (hok : env.NoFailure)
    (hsees : env.hw.SeesEop) (hversion : (EspLib.versionOf version).isSome)
    (hfile : readFile o content = .ok (n, stores)) (hin : InBuffer o.count n stores)
    (hreq : DataRange o.part o.start o.count.toNat) (hread : ReadRequest o 16777216)
    (heap₁ heap₂ : Nat → Byte) (s : WireState) (hclear : s.target.Clear) :
    ∃ r v t, sessions (wireSession o.part wire env.stackCurrent)
        [⟨o, .write (some content), rfl⟩, ⟨o, .verify heap₁ heap₂ (some content), rfl⟩] s =
          ([.action (.write (.ok r)), .action (.verify v)], t) ∧
      r.bytesToWrite = n ∧ n ≤ r.sent ∧
      (∀ k < n.toNat, t.target.mem (o.start + k) = Image.storeAll (fun _ => 0) stores k) ∧
      (v = .ok n ↔ ∀ k < n.toNat, (∀ p ∈ stores, p.1 ≠ k) → heap₂ k = 0) := by
  have hle := hin.2.1
  obtain ⟨r, u, hwrite, hbytes, hsent, hwritten⟩ := wireSession_write hreal hok hsees hversion hfile
    (hin.of_count hreq) (hreq.mono (by omega)) s hclear
  have himage : ∀ k < n.toNat, u.target.mem (o.start + k) =
      Image.storeAll (fun _ => 0) stores k := by
    intro k hk
    exact hwritten k hk (hread.data k (by omega))
  obtain ⟨v, t, hverify, huntouched, hiff⟩ := wireSession_verify hreal hok hsees hversion hfile hin
    hread heap₁ heap₂ himage
  refine ⟨r, v, t, ?_, hbytes, hsent, fun k hk => ?_, hiff⟩
  · unfold sessions sessions sessions
    rw [hwrite]
    simp only [hverify]
  · rw [huntouched.data _ (hread.data k (by omega)), himage k hk]

/-- The two bytes are written and verified, byte by byte. -/
theorem wireSessions_write_verify_two :
    ∃ r v t, sessions (wireSession sampleOptions.part
        (.ofEnv sampleOptions.part .answering [0, 1]) EspstlinkEnv.answering.stackCurrent)
        [⟨sampleOptions, .write (some [0x55, 0xAA]), rfl⟩,
          ⟨sampleOptions, .verify (fun _ => 1) (fun _ => 1) (some [0x55, 0xAA]), rfl⟩]
        ⟨.idle fun _ => 0xff, 0, [], 0⟩ =
          ([.action (.write (.ok r)), .action (.verify v)], t) ∧
      r.bytesToWrite = 2 ∧ 2 ≤ r.sent ∧
      (∀ k < (2 : Int).toNat, t.target.mem (sampleOptions.start + k) =
        Image.storeAll (fun _ => 0) [(0, 0x55), (1, 0xAA)] k) ∧
      (v = .ok 2 ↔ ∀ k < (2 : Int).toNat,
        (∀ p ∈ [((0 : Nat), (0x55 : Byte)), (1, 0xAA)], p.1 ≠ k) → (1 : Byte) = 0) :=
  wireSessions_write_verify (EspWire.ofEnv_realizes sampleOptions.part .answering rfl)
    (fun _ => rfl) Hardware.ready_seesEop (by decide) rfl (by decide)
    sampleOptions_restoreRequest.range sampleOptions_readRequest (fun _ => 1) (fun _ => 1)
    ⟨.idle fun _ => 0xff, 0, [], 0⟩ (Or.inl rfl)

end WriteVerify

end Stm8Flash
