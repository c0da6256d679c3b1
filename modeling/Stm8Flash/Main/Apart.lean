import Stm8Flash.Lib.Parts
import Stm8Flash.Main.Outcome

/-! # Runs that have nothing to do with each other

Several people use the program on one desk, each with targets and files of their own. Whatever the
others do in between, and in whatever order the runs come, everyone finds the targets and the files
as if there had been nobody else (`programs_apart`).
-/

namespace Stm8Flash

open Hex

/-- Whom the targets and the files belong to. -/
structure Owners (ι : Type) where
  target : Place → ι
  file : List Byte → ι

/-- The targets and the files of `i` are the same. -/
def World.Agree {ι : Type} (o : Owners ι) (i : ι) (w w' : World) : Prop :=
  (∀ p, o.target p = i → w.target p = w'.target p) ∧ ∀ f, o.file f = i → w.file f = w'.file f

/-- The action opens the file. -/
def ActionName.OpensFile : ActionName → Prop
  | .read | .write | .verify => True
  | .reset | .unlock => False

/-- What the run asks for belongs to `i`. -/
def Invocation.StaysWith {ι : Type} (r : Invocation) (usb : Libusb) (o : Owners ι) (i : ι) : Prop :=
  ∀ c, r.setup = .ok c →
    (∀ p, r.place usb c = .ok p → o.target p = i) ∧
      (c.action.OpensFile → o.file c.filename = i)

section Apart

variable {ι : Type} {o : Owners ι} {i : ι} {w w' : World} {usb : Libusb} {r : Invocation}

theorem World.agree_equivalence (o : Owners ι) (i : ι) : Equivalence (World.Agree o i) where
  refl _ := ⟨fun _ _ => rfl, fun _ _ => rfl⟩
  symm h := ⟨fun p hp => (h.1 p hp).symm, fun f hf => (h.2 f hf).symm⟩
  trans h h' := ⟨fun p hp => (h.1 p hp).trans (h'.1 p hp), fun f hf => (h.2 f hf).trans (h'.2 f hf)⟩

theorem World.Agree.put (h : w.Agree o i w') (p : Place) (t : Target) :
    (w.put p t).Agree o i (w'.put p t) := by
  refine ⟨fun q hq => ?_, h.2⟩
  by_cases hsame : q = p
  · rw [hsame, World.put_target_self, World.put_target_self]
  · rw [World.put_target_of_ne w hsame, World.put_target_of_ne w' hsame]
    exact h.1 q hq

theorem World.Agree.save (h : w.Agree o i w') (name : List Byte)
    (contents : Option (List Byte)) : (w.save name contents).Agree o i (w'.save name contents) := by
  refine ⟨h.1, fun f hf => ?_⟩
  by_cases hsame : f = name
  · cases contents with
    | none => exact h.2 f hf
    | some contents => rw [hsame, World.save_file_self, World.save_file_self]
  · rw [World.save_file_of_ne w hsame, World.save_file_of_ne w' hsame]
    exact h.2 f hf

/-- An action that does not open the file does not depend on it. -/
theorem Invocation.action_congr (r : Invocation) {name : ActionName}
    {file file' : Option (List Byte)} (h : name.OpensFile → file = file') :
    r.action name file = r.action name file' := by
  cases name with
  | read => rfl
  | write => exact congrArg _ (h trivial)
  | verify => exact congrArg _ (h trivial)
  | reset => rfl
  | unlock => rfl

/-- A run that stays with its owner sees and changes nothing else. -/
theorem program_on (h : r.StaysWith usb o i) :
    Parts.On (World.Agree o) (program usb r) i where
  sees := by
    intro w w' hw
    unfold program
    rcases hq : r.request with e | q
    · exact ⟨rfl, hw⟩
    rcases hp : r.place usb q.setup with e | p
    · simp only [hp]
      exact ⟨trivial, hw⟩
    · obtain ⟨htarget, hfile⟩ := h q.setup (mainRequest_ok hq)
      have hjob : r.job q (w.file q.setup.filename) = r.job q (w'.file q.setup.filename) := by
        unfold Invocation.job
        rw [r.action_congr fun hopens => hw.2 _ (hfile hopens)]
      simp only [hp, hjob, hw.1 p (htarget p hp)]
      exact ⟨trivial, (hw.put _ _).save _ _⟩
  leaves := by
    intro j hj w
    refine ⟨fun p hp => ?_, fun f hf => ?_⟩
    · refine program_elsewhere (fun c hc hplace => hj ?_) w
      rw [← hp]
      exact (h c hc).1 p hplace
    · refine program_file ?_ w
      rintro ⟨c, hc, hread, hname⟩
      have hopens : c.action.OpensFile := by
        rw [hread]
        trivial
      refine hj ?_
      rw [← hf, ← hname]
      exact (h c hc).2 hopens

theorem programs_eq_run (usb : Libusb) (rs : List Invocation) (w : World) :
    programs usb rs w = Parts.run (program usb) rs w := by
  induction rs generalizing w with
  | nil => rfl
  | cons r rs ih =>
    unfold programs Parts.run
    simp only [ih]

/-- Two orders of runs, on two desks, in which the runs of `i` and the order of these are the same,
and at first the targets and the files of `i`: in the end these are the same again, and each run of
`i` has ended in the same way, whatever the runs of the others are and do. -/
theorem programs_apart [DecidableEq ι] (o : Owners ι) (owner : Invocation → ι)
    {rs rs' : List Invocation} (hrs : ∀ r ∈ rs, r.StaysWith usb o (owner r))
    (hrs' : ∀ r ∈ rs', r.StaysWith usb o (owner r))
    (hsame : rs.filter (owner · = i) = rs'.filter (owner · = i)) (hw : w.Agree o i w') :
    ((rs.zip (programs usb rs w).1).filter fun e => owner e.1 = i) =
        ((rs'.zip (programs usb rs' w').1).filter fun e => owner e.1 = i) ∧
      (programs usb rs w).2.Agree o i (programs usb rs' w').2 := by
  rw [programs_eq_run, programs_eq_run]
  exact Parts.run_apart (World.agree_equivalence o) (fun r hr => program_on (hrs r hr))
    (fun r hr => program_on (hrs' r hr)) hsame hw

/-! ## Two people -/

/-- A WRITE to the first programmer. -/
def sampleFirst : Invocation := sampleRun (sampleArgs [text "-w", text "f.bin"])

/-- A READ from the second one. -/
def sampleSecond : Invocation :=
  sampleRun [text "-c", text "stlinkv2", text "-p", text "stlux385", text "-S", text "ABCD",
    text "-b", text "2", text "-r", text "g.bin"]

/-- What the READ asks for. -/
def sampleSecondSetup : Setup :=
  { sampleSetup .read (text "g.bin") with serialno := some (text "ABCD") }

/-- The first programmer and `f.bin` belong to one of them, everything else to the other. -/
def sampleOwners : Owners Bool where
  target p := decide (p = .usb 0)
  file f := decide (f = text "f.bin")

def sampleOwner (r : Invocation) : Bool := decide (r.args = sampleFirst.args)

theorem sampleFirst_stays :
    sampleFirst.StaysWith (.showing sampleDevices) sampleOwners (sampleOwner sampleFirst) := by
  intro c hc
  rw [show sampleFirst.setup = .ok (sampleSetup .write (text "f.bin")) from
    sampleRun_setup_write] at hc
  cases hc
  refine ⟨fun p hp => ?_, fun _ => by decide⟩
  rw [show sampleFirst.place (.showing sampleDevices) (sampleSetup .write (text "f.bin")) =
    .ok (.usb 0) from sampleRun_place _ _ _] at hp
  cases hp
  decide

theorem sampleSecond_stays :
    sampleSecond.StaysWith (.showing sampleDevices) sampleOwners (sampleOwner sampleSecond) := by
  have hsetup : sampleSecond.setup = .ok sampleSecondSetup := by decide +kernel
  have hfound : usbInit PgmName.stlinkv2.ids (some (cstring (text "ABCD")))
      (.showing sampleDevices) = .opened 1 := by
    decide +kernel
  intro c hc
  rw [hsetup] at hc
  cases hc
  refine ⟨fun p hp => ?_, fun _ => by decide⟩
  unfold Invocation.place at hp
  rw [show usbInit sampleSecondSetup.pgm.ids (sampleSecondSetup.serialno.map cstring)
    (.showing sampleDevices) = .opened 1 from hfound] at hp
  cases hp
  decide

/-- It does not matter to the first of them when the other one reads, and what has been in the
other's file. -/
theorem programs_apart_two :
    (([sampleFirst, sampleSecond].zip (programs (.showing sampleDevices)
        [sampleFirst, sampleSecond] sampleWorld).1).filter fun e => sampleOwner e.1 = true) =
      (([sampleSecond, sampleFirst].zip (programs (.showing sampleDevices)
        [sampleSecond, sampleFirst] (sampleWorld.save (text "g.bin") (some []))).1).filter
          fun e => sampleOwner e.1 = true) ∧
    (programs (.showing sampleDevices) [sampleFirst, sampleSecond] sampleWorld).2.Agree
      sampleOwners true (programs (.showing sampleDevices) [sampleSecond, sampleFirst]
        (sampleWorld.save (text "g.bin") (some []))).2 := by
  refine programs_apart sampleOwners sampleOwner ?_ ?_ ?_ ?_
  · rintro r hr
    rcases List.mem_pair.mp hr with rfl | rfl
    · exact sampleFirst_stays
    · exact sampleSecond_stays
  · rintro r hr
    rcases List.mem_pair.mp hr with rfl | rfl
    · exact sampleSecond_stays
    · exact sampleFirst_stays
  · have hfirst : sampleOwner sampleFirst = true := by decide
    have hsecond : sampleOwner sampleSecond = false := by decide
    simp [hfirst, hsecond]
  · refine ⟨fun _ _ => rfl, fun f hf => ?_⟩
    rw [World.save_file_of_ne]
    rintro rfl
    exact absurd hf (by decide)

end Apart

end Stm8Flash
