import Mathlib.Logic.Function.Basic
import Stm8Flash.Stlinkv2.Model

/-! # ST-Link V2: the status loop

`swim_cmd_internal` keeps the last two status replies in two buffers, which it fills in turn, and
gives up when they have been alike four times in a row. At the first reply the other buffer has
not been filled; what it holds counts as a reply. `swimPoll` is the loop with the last reply in
place of the buffers (`swimStatusLoop_result`), and `swimStatus_polls_iff` says when the buffer that
has not been filled makes no difference.
-/

namespace Stm8Flash

open Hex

/-- The variables of the loop. -/
structure SwimStatusVars where
  /-- `status[2][4]` -/
  status : Bool → SwimStatus
  set : Bool
  stalls : Nat

/-- Where the loop is after some replies. -/
inductive SwimStatusEnd where
  | returned
  /-- `SWIM error 0x%02x` -/
  | failed (status : Byte)
  | polling (s : SwimStatusVars)

/-- One round of the loop. -/
def swimStatusRound (s : SwimStatusVars) (reply : SwimStatus) : SwimStatusEnd :=
  let status := Function.update s.status s.set reply
  if (status s.set).1 = 0 then .returned
  else
    let stalls := if status false ≠ status true then 0 else s.stalls + 1
    let set := !s.set
    if stalls < 4 then .polling ⟨status, set, stalls⟩ else .failed (status set).1

/-- The loop on the replies so far. -/
def swimStatusLoop : SwimStatusVars → List SwimStatus → SwimStatusEnd
  | s, [] => .polling s
  | s, reply :: replies => match swimStatusRound s reply with
    | .polling t => swimStatusLoop t replies
    | .returned => .returned
    | .failed status => .failed status

/-! ## The last reply in place of the buffers -/

def SwimStatusEnd.result : SwimStatusEnd → Except Stlinkv2Error Unit
  | .returned => .ok ()
  | .failed status => .error (.swim status)
  | .polling _ => .error .noStatus

/-- A round compares the reply with what the other buffer holds, and fills the buffers in turn. -/
theorem swimStatusRound_eq (s : SwimStatusVars) (reply : SwimStatus) :
    ∃ t : SwimStatusVars, t.status (!t.set) = reply ∧
      t.stalls = (if reply = s.status (!s.set) then s.stalls + 1 else 0) ∧
      swimStatusRound s reply =
        (if reply.1 = 0 then .returned
          else if t.stalls < 4 then .polling t else .failed reply.1) := by
  refine ⟨⟨Function.update s.status s.set reply, !s.set,
    if reply = s.status (!s.set) then s.stalls + 1 else 0⟩, by simp, rfl, ?_⟩
  have hself : Function.update s.status s.set reply s.set = reply := Function.update_self _ _ _
  have hother : Function.update s.status s.set reply (!s.set) = s.status (!s.set) :=
    Function.update_of_ne (by simp) _ _
  have hstalls : (if Function.update s.status s.set reply false ≠
        Function.update s.status s.set reply true then 0 else s.stalls + 1) =
      if reply = s.status (!s.set) then s.stalls + 1 else 0 := by
    cases hset : s.set with
    | false =>
      rw [hset] at hself hother
      rw [hself, show Function.update s.status false reply true = s.status true from hother, ite_not]
      rfl
    | true =>
      rw [hset] at hself hother
      rw [hself, show Function.update s.status true reply false = s.status false from hother, ite_not]
      simp only [Bool.not_true, eq_comm]
  unfold swimStatusRound
  simp only [hself, hstalls, hother]
  by_cases hdone : reply.1 = 0
  · rw [if_pos hdone, if_pos hdone]
  · rw [if_neg hdone, if_neg hdone]
    by_cases halike : reply = s.status (!s.set)
    · rw [← halike]
    · rw [if_neg halike, if_pos (by decide), if_pos (by decide)]

theorem swimStatusLoop_result (s : SwimStatusVars) (replies : List SwimStatus) :
    (swimStatusLoop s replies).result = swimPoll (s.status (!s.set)) s.stalls replies := by
  induction replies generalizing s with
  | nil => rfl
  | cons reply replies ih =>
    obtain ⟨t, hlast, hstalls, hround⟩ := swimStatusRound_eq s reply
    rw [swimStatusLoop, swimPoll, hround, ← hstalls]
    by_cases hdone : reply.1 = 0
    · rw [if_pos hdone, if_pos hdone]
      rfl
    · rw [if_neg hdone, if_neg hdone]
      by_cases hfew : t.stalls < 4
      · have hrest := ih t
        rw [hlast] at hrest
        simp only [if_pos hfew]
        exact hrest
      · simp only [if_neg hfew]
        rfl

/-- `swim_cmd_internal` with the two buffers. -/
theorem swimCmdInternal_eq (d : Stm8Device) (env : Stlinkv2Env) (args buf : List Byte) :
    swimCmdInternal d env args buf = (do
      stlink2CmdInternal d env args buf
      let s ← Drv.state
      Drv.change fun s => s.countSwimCmd
      match (swimStatusLoop ⟨fun _ => env.stackStatus s.swimCmds, false, 0⟩
          (env.replies s.swimCmds)).result with
      | .ok () => pure ()
      | .error e => Drv.stop e) := by
  simp only [swimStatusLoop_result]
  rfl

/-! ## Replies that are alike -/

section Alike

variable {α : Type}

/-- The entry `n` of the sequence and the four before it are alike. -/
def FiveAlike (seq : Nat → α) (n : Nat) : Prop := 4 ≤ n ∧ ∀ j ≤ 4, seq (n - j) = seq n

/-- Up to the entry `n` the last `k` comparisons of neighbours have been equal, and the one before
them, if there is one, was not. -/
structure AlikeSince (seq : Nat → α) (n k : Nat) : Prop where
  le : k ≤ n
  alike : ∀ j ≤ k, seq (n - j) = seq n
  change : k < n → seq (n - k - 1) ≠ seq n

theorem AlikeSince.zero (seq : Nat → α) : AlikeSince seq 0 0 where
  le := Nat.le_refl 0
  alike := by
    intro j hj
    rw [Nat.le_zero.mp hj]
  change := fun h => absurd h (Nat.lt_irrefl 0)

variable {seq : Nat → α} {n k : Nat}

/-- One more entry that is alike. -/
theorem AlikeSince.succ (h : AlikeSince seq n k) (halike : seq (n + 1) = seq n) :
    AlikeSince seq (n + 1) (k + 1) where
  le := Nat.succ_le_succ h.le
  alike := by
    intro j hj
    cases j with
    | zero => rfl
    | succ j =>
      rw [Nat.succ_sub_succ, h.alike j (by omega), halike]
  change := by
    intro hlt
    rw [show n + 1 - (k + 1) - 1 = n - k - 1 by omega, halike]
    exact h.change (by omega)

/-- An entry that is not. -/
theorem AlikeSince.reset (hother : seq (n + 1) ≠ seq n) : AlikeSince seq (n + 1) 0 where
  le := Nat.zero_le _
  alike := by
    intro j hj
    rw [Nat.le_zero.mp hj, Nat.sub_zero]
  change := fun _ => fun heq => hother heq.symm

/-- Four equal comparisons are five entries alike. -/
theorem AlikeSince.five_iff (h : AlikeSince seq n k) : FiveAlike seq n ↔ 4 ≤ k := by
  constructor
  · rintro ⟨h4, hall⟩
    by_contra hfew
    have hchange := h.change (by omega)
    rw [Nat.sub_sub] at hchange
    exact hchange (hall (k + 1) (by omega))
  · intro h4
    exact ⟨Nat.le_trans h4 h.le, fun j hj => h.alike j (Nat.le_trans hj h4)⟩

end Alike

/-! ## The loop on a sequence of replies -/

section Replies

/-- Where the loop is after `n` replies; `status` is what the buffers hold at first. -/
def swimStatusAfter (status : Bool → SwimStatus) (replies : Nat → SwimStatus) (n : Nat) :
    SwimStatusEnd :=
  swimStatusLoop ⟨status, false, 0⟩ ((List.range n).map replies)

variable (status : Bool → SwimStatus) (replies : Nat → SwimStatus)

/-- The loop returns at the reply `n`. -/
def ReturnsAt (n : Nat) : Prop :=
  (∃ t, swimStatusAfter status replies n = .polling t) ∧
    swimStatusAfter status replies (n + 1) = .returned

/-- The program stops with an error at the reply `n`. -/
def FailsAt (n : Nat) : Prop :=
  (∃ t, swimStatusAfter status replies n = .polling t) ∧
    swimStatusAfter status replies (n + 1) = .failed (replies n).1

/-- No reply before `n` is OK or the fifth of five that are alike. -/
def Undecided (n : Nat) : Prop := ∀ i < n, (replies i).1 ≠ 0 ∧ ¬FiveAlike replies i

/-- The loop returns at the first OK, and stops with an error at the fifth of five replies that are
alike and not OK, whichever comes first. -/
structure PollsReplies : Prop where
  returns : ∀ n, ReturnsAt status replies n ↔ Undecided replies n ∧ (replies n).1 = 0
  fails : ∀ n, FailsAt status replies n ↔
    Undecided replies n ∧ (replies n).1 ≠ 0 ∧ FiveAlike replies n

/-- What is compared: the replies, and before them what the second buffer holds. -/
def compared : Nat → SwimStatus
  | 0 => status true
  | n + 1 => replies n

variable {status} {replies}

theorem swimStatusLoop_append (s : SwimStatusVars) (front : List SwimStatus) (reply : SwimStatus) :
    swimStatusLoop s (front ++ [reply]) =
      match swimStatusLoop s front with
      | .polling t => swimStatusRound t reply
      | .returned => .returned
      | .failed status => .failed status := by
  induction front generalizing s with
  | nil =>
    simp only [List.nil_append, swimStatusLoop]
    cases swimStatusRound s reply <;> rfl
  | cons r front ih =>
    rw [List.cons_append, swimStatusLoop, swimStatusLoop]
    cases swimStatusRound s r with
    | returned => rfl
    | failed status => rfl
    | polling t => exact ih t

theorem swimStatusAfter_succ (n : Nat) :
    swimStatusAfter status replies (n + 1) =
      match swimStatusAfter status replies n with
      | .polling t => swimStatusRound t (replies n)
      | .returned => .returned
      | .failed status => .failed status := by
  unfold swimStatusAfter
  rw [List.range_succ, List.map_append]
  exact swimStatusLoop_append _ _ _

/-- The loop is still polling after `n` replies: the reply before the next is in the other buffer,
and the stalls count the equal comparisons. -/
structure PollingAfter (status : Bool → SwimStatus) (replies : Nat → SwimStatus) (n : Nat)
    (t : SwimStatusVars) : Prop where
  run : swimStatusAfter status replies n = .polling t
  last : t.status (!t.set) = compared status replies n
  since : AlikeSince (compared status replies) n t.stalls
  few : t.stalls < 4

theorem PollingAfter.zero : PollingAfter status replies 0 ⟨status, false, 0⟩ where
  run := rfl
  last := rfl
  since := AlikeSince.zero _
  few := Nat.zero_lt_succ 3

/-- The next reply decides, or the loop goes on polling. -/
theorem PollingAfter.next {n : Nat} {t : SwimStatusVars} (h : PollingAfter status replies n t) :
    ((replies n).1 = 0 ∧ swimStatusAfter status replies (n + 1) = .returned) ∨
    ((replies n).1 ≠ 0 ∧ FiveAlike (compared status replies) (n + 1) ∧
      swimStatusAfter status replies (n + 1) = .failed (replies n).1) ∨
    ((replies n).1 ≠ 0 ∧ ¬FiveAlike (compared status replies) (n + 1) ∧
      ∃ u, PollingAfter status replies (n + 1) u) := by
  obtain ⟨u, hlast, hstalls, hround⟩ := swimStatusRound_eq t (replies n)
  have hafter := @swimStatusAfter_succ status replies n
  rw [h.run] at hafter
  dsimp only at hafter
  rw [hround] at hafter
  by_cases hdone : (replies n).1 = 0
  · rw [if_pos hdone] at hafter
    exact Or.inl ⟨hdone, hafter⟩
  · rw [if_neg hdone] at hafter
    rw [h.last] at hstalls
    have hsince : AlikeSince (compared status replies) (n + 1) u.stalls := by
      rw [hstalls]
      by_cases halike : replies n = compared status replies n
      · rw [if_pos halike]
        exact h.since.succ halike
      · rw [if_neg halike]
        exact AlikeSince.reset halike
    by_cases hfew : u.stalls < 4
    · rw [if_pos hfew] at hafter
      exact Or.inr (Or.inr ⟨hdone, fun hfive => absurd (hsince.five_iff.mp hfive) (by omega),
        u, hafter, hlast, hsince, hfew⟩)
    · rw [if_neg hfew] at hafter
      exact Or.inr (Or.inl ⟨hdone, hsince.five_iff.mpr (by omega), hafter⟩)

/-- No reply before `n` is OK or the fifth alike, the first buffer counted. -/
def UndecidedFrom (status : Bool → SwimStatus) (replies : Nat → SwimStatus) (n : Nat) : Prop :=
  ∀ i < n, (replies i).1 ≠ 0 ∧ ¬FiveAlike (compared status replies) (i + 1)

theorem UndecidedFrom.polling {n : Nat} (h : UndecidedFrom status replies n) :
    ∃ t, PollingAfter status replies n t := by
  induction n with
  | zero => exact ⟨_, PollingAfter.zero⟩
  | succ n ih =>
    obtain ⟨t, ht⟩ := ih fun i hi => h i (by omega)
    obtain ⟨hbusy, hnot⟩ := h n (by omega)
    rcases ht.next with ⟨hdone, -⟩ | ⟨-, hfive, -⟩ | ⟨-, -, hnext⟩
    · exact absurd hdone hbusy
    · exact absurd hfive hnot
    · exact hnext

/-- A loop that is polling has had no reply that decides. -/
theorem pollingAfter_of_run {n : Nat} {t : SwimStatusVars}
    (h : swimStatusAfter status replies n = .polling t) :
    PollingAfter status replies n t ∧ UndecidedFrom status replies n := by
  induction n generalizing t with
  | zero =>
    cases h
    exact ⟨PollingAfter.zero, fun i hi => absurd hi (Nat.not_lt_zero i)⟩
  | succ n ih =>
    obtain ⟨u, hu⟩ : ∃ u, swimStatusAfter status replies n = .polling u := by
      have hsucc := @swimStatusAfter_succ status replies n
      cases hrun : swimStatusAfter status replies n with
      | polling u => exact ⟨u, rfl⟩
      | returned =>
        rw [hrun, h] at hsucc
        cases hsucc
      | failed status =>
        rw [hrun, h] at hsucc
        cases hsucc
    obtain ⟨hpolling, hbefore⟩ := ih hu
    rcases hpolling.next with ⟨-, hend⟩ | ⟨-, -, hend⟩ | ⟨hbusy, hnot, v, hv⟩
    · rw [h] at hend
      cases hend
    · rw [h] at hend
      cases hend
    · have hsame := hv.run
      rw [h] at hsame
      cases hsame
      refine ⟨hv, fun i hi => ?_⟩
      rcases Nat.lt_succ_iff_lt_or_eq.mp hi with hlt | rfl
      · exact hbefore i hlt
      · exact ⟨hbusy, hnot⟩

theorem returnsAt_iff (n : Nat) :
    ReturnsAt status replies n ↔ UndecidedFrom status replies n ∧ (replies n).1 = 0 := by
  constructor
  · rintro ⟨⟨t, ht⟩, hend⟩
    obtain ⟨hpolling, hbefore⟩ := pollingAfter_of_run ht
    refine ⟨hbefore, ?_⟩
    rcases hpolling.next with ⟨hdone, -⟩ | ⟨-, -, hfailed⟩ | ⟨-, -, u, hu⟩
    · exact hdone
    · rw [hend] at hfailed
      cases hfailed
    · have hrun := hu.run
      rw [hend] at hrun
      cases hrun
  · rintro ⟨hbefore, hdone⟩
    obtain ⟨t, ht⟩ := hbefore.polling
    refine ⟨⟨t, ht.run⟩, ?_⟩
    rcases ht.next with ⟨-, hend⟩ | ⟨hbusy, -⟩ | ⟨hbusy, -⟩
    · exact hend
    · exact absurd hdone hbusy
    · exact absurd hdone hbusy

theorem failsAt_iff (n : Nat) :
    FailsAt status replies n ↔ UndecidedFrom status replies n ∧ (replies n).1 ≠ 0 ∧
      FiveAlike (compared status replies) (n + 1) := by
  constructor
  · rintro ⟨⟨t, ht⟩, hend⟩
    obtain ⟨hpolling, hbefore⟩ := pollingAfter_of_run ht
    refine ⟨hbefore, ?_⟩
    rcases hpolling.next with ⟨-, hreturned⟩ | ⟨hbusy, hfive, -⟩ | ⟨-, -, u, hu⟩
    · rw [hend] at hreturned
      cases hreturned
    · exact ⟨hbusy, hfive⟩
    · have hrun := hu.run
      rw [hend] at hrun
      cases hrun
  · rintro ⟨hbefore, hbusy, hfive⟩
    obtain ⟨t, ht⟩ := hbefore.polling
    refine ⟨⟨t, ht.run⟩, ?_⟩
    rcases ht.next with ⟨hdone, -⟩ | ⟨-, -, hend⟩ | ⟨-, hnot, -⟩
    · exact absurd hdone hbusy
    · exact hend
    · exact absurd hfive hnot

/-! ## The buffer that has not been filled -/

/-- Four first replies that are not OK and alike with what the second buffer holds. -/
def MatchesStack (status : Bool → SwimStatus) (replies : Nat → SwimStatus) : Prop :=
  (replies 0).1 ≠ 0 ∧ ∀ k < 4, replies k = status true

/-- Five of what is compared are alike when five replies are, or the first four are alike with the
buffer. -/
theorem fiveAlike_compared_iff (n : Nat) :
    FiveAlike (compared status replies) (n + 1) ↔
      FiveAlike replies n ∨ (n = 3 ∧ ∀ k < 4, replies k = status true) := by
  constructor
  · rintro ⟨h4, hall⟩
    by_cases hn : n = 3
    · subst hn
      have hstack : status true = replies 3 := hall 4 (by decide)
      refine Or.inr ⟨rfl, fun k hk => ?_⟩
      have hk3 := hall (3 - k) (by omega)
      rw [show 3 + 1 - (3 - k) = k + 1 by omega] at hk3
      exact hk3.trans hstack.symm
    · refine Or.inl ⟨by omega, fun j hj => ?_⟩
      have hj4 := hall j hj
      rw [show n + 1 - j = n - j + 1 by omega] at hj4
      exact hj4
  · rintro (⟨h4, hall⟩ | ⟨rfl, hall⟩)
    · refine ⟨by omega, fun j hj => ?_⟩
      rw [show n + 1 - j = n - j + 1 by omega]
      exact hall j hj
    · refine ⟨by decide, fun j hj => ?_⟩
      have h3 : compared status replies (3 + 1) = status true := hall 3 (by decide)
      rw [h3]
      cases hk : 3 + 1 - j with
      | zero => rfl
      | succ k => exact hall k (by omega)

theorem undecidedFrom_iff (h : ¬MatchesStack status replies) (n : Nat) :
    UndecidedFrom status replies n ↔ Undecided replies n := by
  constructor
  · intro hfrom i hi
    obtain ⟨hbusy, hnot⟩ := hfrom i hi
    exact ⟨hbusy, fun hfive => hnot ((fiveAlike_compared_iff i).mpr (Or.inl hfive))⟩
  · intro hall i hi
    obtain ⟨hbusy, hnot⟩ := hall i hi
    refine ⟨hbusy, fun hfive => ?_⟩
    rcases (fiveAlike_compared_iff i).mp hfive with hfive | ⟨-, hmatch⟩
    · exact hnot hfive
    · exact h ⟨(hall 0 (by omega)).1, hmatch⟩

/-- The status loop does what it is for, with any sequence of replies, exactly when the first four
replies are not alike with what the second buffer happens to hold. -/
theorem swimStatus_polls_iff (status : Bool → SwimStatus) (replies : Nat → SwimStatus) :
    PollsReplies status replies ↔ ¬MatchesStack status replies := by
  constructor
  · rintro hpolls ⟨hbusy, hmatch⟩
    have hall : ∀ k < 4, (replies k).1 ≠ 0 := by
      intro k hk
      rw [hmatch k hk, ← hmatch 0 (by decide)]
      exact hbusy
    -- the error comes at the fourth reply
    have hfails : FailsAt status replies 3 := by
      refine (failsAt_iff 3).mpr ⟨fun i hi => ⟨hall i (by omega), ?_⟩, hall 3 (by decide), ?_⟩
      · rintro ⟨h4, -⟩
        omega
      · exact (fiveAlike_compared_iff 3).mpr (Or.inr ⟨rfl, hmatch⟩)
    have hfive := ((hpolls.fails 3).mp hfails).2.2.1
    omega
  · intro h
    constructor
    · intro n
      rw [returnsAt_iff, undecidedFrom_iff h]
    · intro n
      rw [failsAt_iff, undecidedFrom_iff h]
      refine and_congr_right fun hall => and_congr_right fun hbusy => ?_
      rw [fiveAlike_compared_iff]
      refine ⟨fun hcases => hcases.resolve_right ?_, Or.inl⟩
      rintro ⟨rfl, hmatch⟩
      exact h ⟨(hall 0 (by decide)).1, hmatch⟩

/-- A programmer that answers `01` all the time is given up at the fifth reply, or at the fourth
when the second buffer happens to hold the same. -/
theorem swimStatus_gives_up_early :
    FailsAt (fun _ => (0, 0, 0, 0)) (fun _ => (1, 0, 0, 0)) 4 ∧
      FailsAt (fun _ => (1, 0, 0, 0)) (fun _ => (1, 0, 0, 0)) 3 ∧
      ¬PollsReplies (fun _ => (1, 0, 0, 0)) (fun _ => (1, 0, 0, 0)) := by
  have hearly : FailsAt (fun _ => (1, 0, 0, 0)) (fun _ => (1, 0, 0, 0)) 3 := ⟨⟨_, rfl⟩, rfl⟩
  refine ⟨⟨⟨_, rfl⟩, rfl⟩, hearly, fun hpolls => ?_⟩
  exact absurd ((hpolls.fails 3).mp hearly).2.2.1 (by decide)

end Replies

end Stm8Flash
