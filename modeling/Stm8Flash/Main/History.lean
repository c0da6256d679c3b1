import Stm8Flash.Main.Interrupt
import Stm8Flash.Main.Unlock

/-! # Many runs on one target

A target is read, written, verified, unlocked and reset by many runs of the program, with
different programmers; every run may fail or be broken off anywhere. Nothing changes outside the
blocks of the WRITEs and UNLOCKs (`History.frame`), and so the image of a WRITE that has succeeded
is there, and verified, until another run writes to its range (`verify_after_history`).
-/

namespace Stm8Flash

open Hex Word

/-- `action`, with the environment of its run. -/
inductive Action where
  | read (heap : Nat → Byte) (opens : Bool) (fails : Nat → Bool)
  | verify (heap heap2 : Nat → Byte) (file : Option (List Byte))
  | write (file : Option (List Byte))
  | unlock
  | reset

/-- How a run ends, from the action on. -/
inductive Ending (ε : Type) where
  | read (r : Except (ReadError ε) ReadReport)
  | verify (r : Except (MainError ε) Int)
  | write (r : Except (MainError ε) WriteReport)
  | unlock (r : Except (UnlockError ε) Int)
  | reset (r : Except ε Unit)

/-- The action, with the programmer `pgm`. -/
def Action.run {σ ε : Type} (pgm : Programmer σ ε) (o : MainOptions) (fills : Bool) (a : Action)
    (s : σ) : Ending ε × σ :=
  match a with
  | .read heap opens fails =>
    let r := mainRead pgm o heap opens fails s
    (.read r.1, r.2)
  | .verify heap heap2 file =>
    let r := mainVerify pgm o heap heap2 file s
    (.verify r.1, r.2)
  | .write file =>
    let r := mainWrite pgm o file s
    (.write r.1, r.2)
  | .unlock =>
    let r := mainUnlock pgm o fills s
    (.unlock r.1, r.2)
  | .reset =>
    let r := mainReset pgm s
    (.reset r.1, r.2)

/-- A run of the program on a part `d`. -/
structure Job (d : Stm8Device) where
  options : MainOptions
  action : Action
  part : options.part = d

namespace Job

variable {d : Stm8Device}

/-- The state that the run leaves, however it ends. -/
def after (b : Backend) (j : Job d) (s : b.State) : b.State :=
  match j.action with
  | .read heap opens fails => (mainRead (b.pgm d) j.options heap opens fails s).2
  | .verify heap heap2 file => (mainVerify (b.pgm d) j.options heap heap2 file s).2
  | .write file => (mainWrite (b.pgm d) j.options file s).2
  | .unlock => (mainUnlock (b.pgm d) j.options b.fills s).2
  | .reset => (mainReset (b.pgm d) s).2

/-- How many bytes from the start on the run may write. -/
def size (j : Job d) : Nat :=
  match j.action with
  | .write _ => (writeAlign j.options).toNat
  | .unlock => blockRounds d d.unlockSize * d.flashBlockSize
  | _ => 0

/-- The run does not write to `a`. -/
def Spares (j : Job d) (a : Nat) : Prop := a < j.options.start ∨ j.options.start + j.size ≤ a

instance (j : Job d) (a : Nat) : Decidable (j.Spares a) := inferInstanceAs (Decidable (_ ∨ _))

end Job

/-- The runs `jobs`, one after the other, lead from the data `m` to the data `m'`. Between two runs
the programmer may be changed and the target may lose everything but its data. -/
inductive History (d : Stm8Device) : List (Job d) → (Nat → Byte) → (Nat → Byte) → Prop
  | nil (m : Nat → Byte) : History d [] m m
  | cons {j : Job d} {jobs : List (Job d)} {m m' : Nat → Byte} (b : Backend) (s : b.State)
      (reach : j.options.start + j.size ≤ b.limit) (data : (b.target s).Holds d m)
      (rest : History d jobs (b.target (j.after b s)).mem m') : History d (j :: jobs) m m'

/-! ## What many runs keep -/

/-- An action changes nothing outside the range of its job. -/
theorem Job.run_spares {d : Stm8Device} {σ ε : Type} {pgm : Programmer σ ε} {target : σ → Target}
    {limit : Nat} (h : pgm.Obeys d target limit) {j : Job d}
    (hreach : j.options.start + j.size ≤ limit) (fills : Bool) (s : σ) {a : Nat}
    (ha : ¬d.IsControl a) (hout : j.Spares a) :
    (target (j.action.run pgm j.options fills s).2).mem a = (target s).mem a := by
  rcases j with ⟨o, action, rfl⟩
  unfold Spares size at hout
  unfold size at hreach
  cases action with
  | read heap opens fails =>
    exact (mainRead_untouched h heap opens fails _ s (Target.Untouched.refl _ _)).data a ha
  | verify heap heap2 file =>
    exact (mainVerify_untouched h heap heap2 file _ s (Target.Untouched.refl _ _)).data a ha
  | write file =>
    have hlim (h0 : 0 ≤ writeAlign o) : o.start + writeAlign o ≤ limit := by
      simp only at hreach
      omega
    exact mainWrite_holdsOutside h hlim file _ s (fun _ _ _ => rfl) a ha hout
  | unlock =>
    exact mainUnlock_effect h (Target.HoldsOutside.readClosed o.part (target s).mem o.start _)
      (Target.HoldsOutside.pokeClosed o.part (target s).mem o.start _)
      (Target.HoldsOutside.writeClosed o.part (target s).mem o.start _) hreach fills s
      (fun _ _ _ => rfl) a ha hout
  | reset =>
    exact mainReset_effect h (Target.HoldsOutside.readClosed o.part (target s).mem 0 0)
      (Target.HoldsOutside.pokeClosed o.part (target s).mem 0 0) s (fun _ _ _ => rfl) a ha
      (by omega)

theorem Job.after_spares {d : Stm8Device} {b : Backend} {j : Job d}
    (hreach : j.options.start + j.size ≤ b.limit) (s : b.State) {a : Nat} (ha : ¬d.IsControl a)
    (hout : j.Spares a) : (b.target (j.after b s)).mem a = (b.target s).mem a := by
  have hafter : j.after b s = (j.action.run (b.pgm d) j.options b.fills s).2 := by
    unfold after Action.run
    cases j.action <;> rfl
  have hd : d.Sound := j.part ▸ stm8Devices_sound j.options.part j.options.part_mem
  rw [hafter]
  exact Job.run_spares (b.obeys hd) hreach b.fills s ha hout

/-- So do many runs, with all their failures. -/
theorem History.frame {d : Stm8Device} {jobs : List (Job d)} {m m' : Nat → Byte}
    (h : History d jobs m m') {a : Nat} (ha : ¬d.IsControl a) (hout : ∀ j ∈ jobs, j.Spares a) :
    m' a = m a := by
  induction h with
  | nil => rfl
  | cons b s reach data rest ih =>
    have hone := Job.after_spares reach s ha (hout _ (List.mem_cons_self ..))
    have hrest := ih fun j hj => hout j (List.mem_cons_of_mem _ hj)
    rw [hrest, hone, data a ha]

/-- Two fillings of a buffer agree at a byte if the file has it or if they did so before. -/
theorem storeAll_agree {stores : List (Nat × Byte)} {base : Nat → Byte} {k : Nat} :
    Image.storeAll (fun _ => 0) stores k = Image.storeAll base stores k ↔
      ((∀ p ∈ stores, p.1 ≠ k) → base k = 0) := by
  by_cases hgap : ∀ p ∈ stores, p.1 ≠ k
  · rw [Image.storeAll_of_forall_ne _ _ _ hgap, Image.storeAll_of_forall_ne _ _ _ hgap]
    constructor
    · exact fun h _ => h.symm
    · exact fun h => (h hgap).symm
  · have hmem : ∃ p ∈ stores, p.1 = k := by
      simpa only [not_forall, not_not, exists_prop] using hgap
    constructor
    · exact fun _ h => absurd h hgap
    · exact fun _ => Image.storeAll_congr_of_mem _ _ _ _ hmem

/-- On a target that holds the image of the file, a VERIFY succeeds exactly when the memory of
`malloc` agrees with it where the file leaves gaps. -/
theorem mainVerify_image_iff {b : Backend} {o : MainOptions} {content : List Byte} {n : Int}
    {stores : List (Nat × Byte)} (hok : b.NoFailure) (hfile : readFile o content = .ok (n, stores))
    (hin : InBuffer o.count n stores) (hread : ReadRequest o b.limit) {s : b.State}
    (himage : ∀ k < n.toNat,
      (b.target s).mem (o.start + k) = Image.storeAll (fun _ => 0) stores k)
    (heap₁ heap₂ : Nat → Byte) :
    (∃ t, mainVerify (b.pgm o.part) o heap₁ heap₂ (some content) s = (.ok n, t)) ↔
      ∀ k < n.toNat, (∀ p ∈ stores, p.1 ≠ k) → heap₂ k = 0 := by
  have hd := stm8Devices_sound o.part o.part_mem
  have hpos := hread.count_pos
  have halign := hread.align_nonneg
  have hcount := hread.count_le
  have hbound := b.limit_le
  have hbelow := hread.below
  rcases hin with ⟨h0, hle, hstores⟩
  obtain ⟨buf, w, hrange, hdata, -⟩ := @Backend.readRange_value _ _ _ hd hok o.start
    (readAlign o).toNat (by omega) heap₁ s fun _ _ => rfl
  have hbuf {k : Nat} (hk : k < n.toNat) :
      buf k = Image.storeAll (fun _ => 0) stores k := by
    rw [hdata k (by omega) (hread.data k (by omega)), himage k hk]
  constructor
  · rintro ⟨u, hverify⟩ k hk
    rcases mainVerify_ok.mp hverify with ⟨-, _, _, _, hrun, -, hcompare⟩
    rw [hrange] at hrun
    cases hrun
    rcases mainCompare_ok.mp hcompare with ⟨-, stores', hfile', -, hbytes, -⟩
    rw [hfile] at hfile'
    cases hfile'
    exact storeAll_agree.mp ((hbuf hk).symm.trans (hbytes k hk))
  · intro hgaps
    rcases Backend.close_returns (d := o.part) hok w with ⟨_, u, hclose⟩
    refine ⟨u, mainVerify_ok.mpr ⟨halign, _, buf, w, hrange, ?_, mainCompare_ok.mpr
      ⟨by omega, stores, hfile, ⟨h0, hle, hstores⟩, fun k hk => ?_, hclose⟩⟩⟩
    · rw [toInt32_of_lt (by omega)]
      omega
    · rw [hbuf hk]
      exact storeAll_agree.mpr (hgaps k hk)

end Stm8Flash
