import Stm8Flash.Espstlink.Model
import Stm8Flash.Espstlink.Serial

/-! # `espstlink_swim_reconnect` and the reset pin

With a programmer of version 1 the connect begins with the reset pin of the target held low and
ends with the pin released. The three exchanges before the release return early when their answer
is not accepted, and leave the pin as it is; the write of `SWIM_CSR` does not.
`espstlinkSwimReconnect_releases_iff` says for which answers the pin is released.
-/

namespace Stm8Flash

open Hex

/-- The serial line and what `libespstlink.c` keeps. -/
structure EspLine where
  /-- what the programmer still sends -/
  stream : List Byte
  /-- calls of `read` -/
  calls : Nat
  /-- the bytes of each `write` -/
  sent : List (List Byte)
  /-- `error` -/
  lastError : Option SerialError

/-- A run of the functions on the line; none of them ends the program. -/
abbrev OnLine (α : Type) : Type := Drv EspLine Empty α

section Line

variable (chunk : Nat → Nat)

/-- `write(pgm->fd, p, …)` -/
def lineWrite (p : List Byte) : OnLine Unit :=
  Drv.change fun s => { s with sent := s.sent ++ [p] }

/-- `error_check`, with its answer and the error it sets. -/
def lineErrorCheck (command : Byte) (resp : Bool) (size : Nat) : OnLine Bool := do
  let s ← Drv.state
  let r := errorCheckRun (fun k => chunk (s.calls + k)) command resp size s.stream
  Drv.change fun s =>
    { s with
      stream := r.2.stream
      calls := s.calls + r.2.calls
      lastError := match r.1 with
        | .ok _ => s.lastError
        | .error e => some e }
  pure r.1.toBool

/-- A command and `error_check` for its answer. -/
def lineExchange (cmd : List Byte) (resp : Bool) (size : Nat) : OnLine Bool := do
  lineWrite cmd
  lineErrorCheck chunk (cmd.headD 0) resp size

/-- `espstlink_reset` -/
def espstlinkReset (input enableReset : Bool) : OnLine Bool :=
  lineExchange chunk [0xFD, if input then 0xFF else if enableReset then 1 else 0] false 0

/-- `espstlink_swim_entry`; of the duration in the answer it prints a warning at most. -/
def espstlinkSwimEntry : OnLine Bool := lineExchange chunk [0xFE] true 2

/-- `espstlink_swim_srst` -/
def espstlinkSwimSrst : OnLine Bool := lineExchange chunk [0] false 0

/-- `espstlink_write_byte`: `espstlink_swim_write` sends the command and the byte. -/
def lineWriteByte (byte : Byte) (addr : Nat) : OnLine Bool := do
  lineWrite (espstlinkCmd 2 1 addr)
  lineWrite [byte]
  lineErrorCheck chunk 2 true 4

/-- What `espstlink_swim_reconnect` calls, on the line. -/
def lineConnect : EspConnect EspLine Empty where
  reset := espstlinkReset chunk
  swimEntry := espstlinkSwimEntry chunk
  swimSrst := espstlinkSwimSrst chunk
  writeByte := lineWriteByte chunk

/-- `espstlink_swim_reconnect` -/
def espstlinkSwimReconnect (version : Int) : OnLine Bool :=
  (lineConnect chunk).swimReconnect version

theorem lineConnect_reset (input enableReset : Bool) :
    (lineConnect chunk).reset input enableReset = espstlinkReset chunk input enableReset := rfl

theorem lineConnect_swimEntry :
    (lineConnect chunk).swimEntry = lineExchange chunk [0xFE] true 2 := rfl

theorem lineConnect_swimSrst : (lineConnect chunk).swimSrst = lineExchange chunk [0] false 0 := rfl

theorem lineConnect_writeByte (byte : Byte) (addr : Nat) :
    (lineConnect chunk).writeByte byte addr = lineWriteByte chunk byte addr := rfl

end Line

/-! ## When the pin is released -/

/-- The command that drives the reset pin low. -/
def resetLow : List Byte := [0xFD, 1]

/-- The command that gives the reset pin back. -/
def resetRelease : List Byte := [0xFD, 0xFF]

/-- After every command that drives the pin low there is one that releases it. -/
def ReleasesReset (sent : List (List Byte)) : Prop :=
  ∀ pre post, sent = pre ++ resetLow :: post → resetRelease ∈ post

/-- How many bytes `espstlink_swim_entry` takes for its answer of two, from the `k`-th `read` on:
when that gets one of them, the next asks for two again. -/
def entryTaken (chunk : Nat → Nat) (k : Nat) : Nat :=
  if 2 ≤ chunk k then 2 else if 2 ≤ chunk (k + 1) then 3 else 2

/-- The line goes on with the answers to the entry and the soft reset. -/
def AnswersEntry (chunk : Nat → Nat) (stream : List Byte) : Prop :=
  ∃ rest, stream = 0xFE :: 0 :: rest ∧ [0, 0] <+: rest.drop (entryTaken chunk 2)

/-- The line goes on with the answers to the reset, the entry and the soft reset. -/
def AnswersConnect (chunk : Nat → Nat) (stream : List Byte) : Prop :=
  ∃ rest, stream = 0xFD :: 0 :: rest ∧ AnswersEntry (fun k => chunk (2 + k)) rest

/-! ## The checks -/

section Checks

variable {chunk : Nat → Nat} {command : Byte} {resp : Bool} {size : Nat}

/-- A response of two bytes that is cut short is refused. -/
theorem errorCheck_short {rest : List Byte} (h : rest.length < 2) :
    ∃ e t, errorCheckRun chunk command true 2 (command :: 0 :: rest) = (.error e, t) := by
  obtain ⟨c, hrun⟩ := @errorCheckReceive_fits chunk command 2 2 0 ⟨rest, 2, []⟩
    (by simp; omega) (by decide)
  rw [errorCheck_accepted, if_pos ⟨rfl, by decide⟩, hrun, if_neg (by simp; omega)]
  exact ⟨_, _, rfl⟩

/-- A response of two bytes is accepted. -/
theorem errorCheck_entry {rest : List Byte} (h : 2 ≤ rest.length) :
    ∃ t, errorCheckRun chunk command true 2 (command :: 0 :: rest) = (.ok (), t) ∧
      t.stream = rest.drop (entryTaken chunk 2) := by
  unfold entryTaken
  rw [errorCheck_accepted, if_pos ⟨rfl, by decide⟩]
  by_cases hlen : rest.length = 2
  · -- nothing behind the response: it is read in every split
    obtain ⟨c, hrun⟩ := @errorCheckReceive_fits chunk command 2 2 0 ⟨rest, 2, []⟩
      (by simp; omega) (by decide)
    rw [hrun, if_pos (by simp; omega)]
    refine ⟨_, rfl, (List.drop_eq_nil_of_le ?_).symm⟩
    split
    · omega
    · split <;> omega
  by_cases hfirst : 2 ≤ chunk 2
  · have hk : min (max 1 (chunk 2)) 2 = 2 := by omega
    rw [errorCheckReceive_round chunk command (by decide) hk h, if_pos hfirst]
    exact ⟨_, rfl, rfl⟩
  · have hk : min (max 1 (chunk 2)) 2 = 1 := by omega
    rw [errorCheckReceive_round chunk command (by decide) hk (by simp; omega), if_neg hfirst]
    by_cases hsecond : 2 ≤ chunk 3
    · have hk3 : min (max 1 (chunk 3)) 2 = 2 := by omega
      rw [errorCheckReceive_round chunk command (by decide) hk3 (by simp; omega), if_pos hsecond]
      exact ⟨_, rfl, List.drop_drop⟩
    · have hk3 : min (max 1 (chunk 3)) 2 = 1 := by omega
      rw [errorCheckReceive_round chunk command (by decide) hk3 (by simp; omega), if_neg hsecond]
      exact ⟨_, rfl, List.drop_drop⟩

/-- Without a response the answer is the command and the status 0. -/
theorem errorCheck_plain (rest : List Byte) :
    errorCheckRun chunk command false 0 (command :: 0 :: rest) = (.ok (), ⟨rest, 2, []⟩) := by
  rw [errorCheck_accepted, if_neg (by decide)]
  rfl

/-! ## The commands -/

variable {cmd : List Byte} {s : EspLine}

theorem lineExchange_run (chunk : Nat → Nat) (cmd : List Byte) (resp : Bool) (size : Nat)
    (s : EspLine) :
    ∃ v u, lineExchange chunk cmd resp size s = (.ok v, u) ∧ u.sent = s.sent ++ [cmd] :=
  ⟨_, _, rfl, rfl⟩

theorem lineExchange_accepted {t : SerialState}
    (h : errorCheckRun (fun k => chunk (s.calls + k)) (cmd.headD 0) resp size s.stream =
      (.ok (), t)) :
    ∃ u, lineExchange chunk cmd resp size s = (.ok true, u) ∧ u.stream = t.stream ∧
      u.calls = s.calls + t.calls ∧ u.sent = s.sent ++ [cmd] := by
  unfold lineExchange lineWrite lineErrorCheck
  rw [Drv.change_bind_run, Drv.state_bind_run, h]
  exact ⟨_, rfl, rfl, rfl, rfl⟩

theorem lineExchange_refused
    (h : ∃ e t, errorCheckRun (fun k => chunk (s.calls + k)) (cmd.headD 0) resp size s.stream =
      (.error e, t)) :
    ∃ u, lineExchange chunk cmd resp size s = (.ok false, u) ∧ u.sent = s.sent ++ [cmd] := by
  rcases h with ⟨e, t, hrun⟩
  unfold lineExchange lineWrite lineErrorCheck
  rw [Drv.change_bind_run, Drv.state_bind_run, hrun]
  exact ⟨_, rfl, rfl⟩

end Checks

theorem lineWriteByte_run (chunk : Nat → Nat) (byte : Byte) (addr : Nat) (s : EspLine) :
    ∃ v u, lineWriteByte chunk byte addr s = (.ok v, u) ∧
      u.sent = s.sent ++ [espstlinkCmd 2 1 addr, [byte]] := by
  refine ⟨_, _, rfl, ?_⟩
  exact List.append_assoc s.sent [espstlinkCmd 2 1 addr] [[byte]]

/-! ## The connect -/

/-- Two bytes of an answer make a response of the entry. -/
theorem AnswersEntry.length {chunk : Nat → Nat} {rest : List Byte}
    (h : [0, 0] <+: rest.drop (entryTaken chunk 2)) : 2 ≤ rest.length := by
  have hlen := h.length_le
  have htaken : 2 ≤ entryTaken chunk 2 := by
    unfold entryTaken
    split
    · omega
    · split <;> omega
  rw [List.length_drop] at hlen
  simp at hlen
  omega

/-- The entry is answered, and the line goes on behind the answer; or it is refused, and the line
does not go on with the answers to the entry and the soft reset. -/
theorem errorCheck_entry_cases (chunk : Nat → Nat) (stream : List Byte) :
    (∃ t, errorCheckRun chunk 0xFE true 2 stream = (.ok (), t) ∧
      (AnswersEntry chunk stream ↔ [0, 0] <+: t.stream)) ∨
    (∃ e t, errorCheckRun chunk 0xFE true 2 stream = (.error e, t)) ∧
      ¬AnswersEntry chunk stream := by
  by_cases hstart : [0xFE, 0] <+: stream
  · obtain ⟨rest, rfl⟩ : ∃ rest, stream = 0xFE :: 0 :: rest := hstart.imp fun _ h => h.symm
    by_cases hlen : 2 ≤ rest.length
    · obtain ⟨t, hrun, hstream⟩ := @errorCheck_entry chunk 0xFE rest hlen
      refine Or.inl ⟨t, hrun, ?_⟩
      rw [hstream]
      constructor
      · rintro ⟨rest', heq, hnext⟩
        obtain rfl : rest = rest' := by simpa using heq
        exact hnext
      · intro hnext
        exact ⟨rest, rfl, hnext⟩
    · refine Or.inr ⟨errorCheck_short (by omega), ?_⟩
      rintro ⟨rest', heq, hnext⟩
      obtain rfl : rest = rest' := by simpa using heq
      exact hlen (AnswersEntry.length hnext)
  · obtain ⟨e, t, hrun, -⟩ := errorCheck_refused chunk true 2 hstart
    refine Or.inr ⟨⟨e, t, hrun⟩, ?_⟩
    rintro ⟨rest, rfl, -⟩
    exact hstart ⟨rest, rfl⟩

/-- Behind an answered soft reset the pin is released, whatever becomes of the write. -/
theorem lineWriteByte_release_run (chunk : Nat → Nat) (version : Int) (s : EspLine) :
    ∃ ret t new,
      (do
        let ret ← lineWriteByte chunk 0xA0 0x7f80
        let high ← (lineConnect chunk).resetPin version true false
        if high then pure ret else pure false : OnLine Bool) s = (.ok ret, t) ∧
      t.sent = s.sent ++ new ∧ resetLow ∉ new ∧ (0 < version → resetRelease ∈ new) := by
  obtain ⟨ret, w, hwrite, hwsent⟩ := lineWriteByte_run chunk 0xA0 0x7f80 s
  unfold EspConnect.resetPin
  rw [Drv.bind_ok hwrite, lineConnect_reset]
  by_cases hversion : 0 < version
  · obtain ⟨high, x, hhigh, hreleased⟩ := lineExchange_run chunk resetRelease false 0 w
    rw [if_pos hversion, Drv.bind_ok (show espstlinkReset chunk true false w = _ from hhigh)]
    refine ⟨if high then ret else false, x, [espstlinkCmd 2 1 0x7f80, [0xA0], resetRelease], ?_, ?_,
      by decide, fun _ => by decide⟩
    · cases high <;> rfl
    · rw [hreleased, hwsent]
      simp
  · rw [if_neg hversion, Drv.pure_bind_run]
    exact ⟨ret, w, [espstlinkCmd 2 1 0x7f80, [0xA0]], rfl, hwsent, by decide,
      fun h => absurd h hversion⟩

/-- Behind the first `espstlink_reset` the pin is not driven low, and with a version above 0 it is
released when the entry and the soft reset are answered. -/
theorem espstlinkReconnectEntry_run (chunk : Nat → Nat) (version : Int) (s : EspLine) :
    ∃ ret t new, (lineConnect chunk).reconnectEntry version s = (.ok ret, t) ∧
      t.sent = s.sent ++ new ∧ resetLow ∉ new ∧ (0 < version →
        (resetRelease ∈ new ↔ AnswersEntry (fun k => chunk (s.calls + k)) s.stream)) := by
  unfold EspConnect.reconnectEntry
  rw [lineConnect_swimEntry, lineConnect_swimSrst, lineConnect_writeByte]
  rcases errorCheck_entry_cases (fun k => chunk (s.calls + k)) s.stream with
    ⟨t, hentry, hanswers⟩ | ⟨hentry, hanswers⟩
  · obtain ⟨u, hentered, hstream, -, husent⟩ :=
      @lineExchange_accepted chunk true 2 [0xFE] s t hentry
    rw [Drv.bind_ok hentered, hanswers, ← hstream]
    rw [if_pos rfl]
    by_cases hsrst : [0, 0] <+: u.stream
    · obtain ⟨rest, hrest⟩ : ∃ rest, u.stream = 0 :: 0 :: rest := hsrst.imp fun _ h => h.symm
      have hcheck := @errorCheck_plain (fun k => chunk (u.calls + k)) 0 rest
      rw [← hrest] at hcheck
      obtain ⟨v, hreset, -, -, hvsent⟩ := @lineExchange_accepted chunk false 0 [0] u _ hcheck
      rw [Drv.bind_ok hreset, if_pos rfl]
      obtain ⟨ret, t, new, hrun, hsent, hnew, hrelease⟩ :=
        lineWriteByte_release_run chunk version v
      rw [hrun]
      refine ⟨ret, t, [[0xFE], [0]] ++ new, rfl, ?_, ?_, fun hversion => ?_⟩
      · rw [hsent, hvsent, husent]
        simp
      · rw [List.mem_append, not_or]
        exact ⟨by decide, hnew⟩
      · exact ⟨fun _ => hsrst, fun _ => List.mem_append_right _ (hrelease hversion)⟩
    · -- the soft reset is not answered
      obtain ⟨e, r, hcheck, -⟩ := errorCheck_refused (fun k => chunk (u.calls + k)) false 0 hsrst
      obtain ⟨v, hrefused, hvsent⟩ := @lineExchange_refused chunk false 0 [0] u ⟨e, r, hcheck⟩
      rw [Drv.bind_ok hrefused]
      refine ⟨false, v, [[0xFE], [0]], rfl, ?_, by decide, fun _ => ?_⟩
      · rw [hvsent, husent]
        simp
      · exact ⟨fun hmem => absurd hmem (by decide), fun h => absurd h hsrst⟩
  · -- the entry is not answered
    obtain ⟨u, hrefused, hsent⟩ := @lineExchange_refused chunk true 2 [0xFE] s hentry
    rw [Drv.bind_ok hrefused]
    refine ⟨false, u, [[0xFE]], rfl, hsent, by decide, fun _ => ?_⟩
    exact ⟨fun hmem => absurd hmem (by decide), fun h => absurd h hanswers⟩

theorem releasesReset_cons {new : List (List Byte)} (h : resetLow ∉ new) :
    ReleasesReset (resetLow :: new) ↔ resetRelease ∈ new := by
  constructor
  · intro hall
    exact hall [] new rfl
  · intro hrelease pre post heq
    cases pre with
    | nil =>
      obtain ⟨-, rfl⟩ := List.cons.inj heq
      exact hrelease
    | cons p pre =>
      obtain ⟨-, rfl⟩ := List.cons.inj heq
      exact absurd (by simp) h

/-- Behind an answered reset the line goes on with the entry. -/
theorem answersConnect_iff (chunk : Nat → Nat) (rest : List Byte) :
    AnswersConnect chunk (0xFD :: 0 :: rest) ↔ AnswersEntry (fun k => chunk (2 + k)) rest := by
  constructor
  · rintro ⟨rest', heq, hentry⟩
    obtain rfl : rest = rest' := by simpa using heq
    exact hentry
  · intro hentry
    exact ⟨rest, rfl, hentry⟩

/-- Whatever the programmer sends, `espstlink_swim_reconnect` returns. It has released the reset pin
when it has driven it low, exactly when there is no pin to drive or the reset, the entry and the
soft reset are answered. -/
theorem espstlinkSwimReconnect_releases_iff (chunk : Nat → Nat) (version : Int) (s : EspLine) :
    ∃ ret t new, espstlinkSwimReconnect chunk version s = (.ok ret, t) ∧ t.sent = s.sent ++ new ∧
      (ReleasesReset new ↔
        version ≤ 0 ∨ AnswersConnect (fun k => chunk (s.calls + k)) s.stream) := by
  unfold espstlinkSwimReconnect EspConnect.swimReconnect EspConnect.resetPin
  rw [lineConnect_reset]
  by_cases hversion : 0 < version
  · rw [if_pos hversion]
    by_cases hreset : [0xFD, 0] <+: s.stream
    · obtain ⟨rest, hrest⟩ : ∃ rest, s.stream = 0xFD :: 0 :: rest := hreset.imp fun _ h => h.symm
      have hcheck := @errorCheck_plain (fun k => chunk (s.calls + k)) 0xFD rest
      rw [← hrest] at hcheck
      obtain ⟨u, hlow, hstream, hcalls, husent⟩ :=
        @lineExchange_accepted chunk false 0 resetLow s _ hcheck
      obtain ⟨ret, t, new, hrun, hsent, hnew, hreleased⟩ :=
        espstlinkReconnectEntry_run chunk version u
      rw [Drv.bind_ok (show espstlinkReset chunk false true s = _ from hlow)]
      refine ⟨ret, t, resetLow :: new, hrun, by rw [hsent, husent]; simp, ?_⟩
      have hchunk : (fun k => chunk (s.calls + (2 + k))) = fun k => chunk (u.calls + k) := by
        funext k
        rw [hcalls, Nat.add_assoc]
      rw [hrest, answersConnect_iff, hchunk, releasesReset_cons hnew, hreleased hversion, hstream]
      exact ⟨Or.inr, fun h => h.resolve_left (by omega)⟩
    · -- the reset is not answered
      obtain ⟨e, r, hcheck, -⟩ := errorCheck_refused (fun k => chunk (s.calls + k)) false 0 hreset
      obtain ⟨u, hrefused, hsent⟩ := @lineExchange_refused chunk false 0 resetLow s ⟨e, r, hcheck⟩
      rw [Drv.bind_ok (show espstlinkReset chunk false true s = _ from hrefused)]
      refine ⟨false, u, [resetLow], rfl, hsent, ?_⟩
      constructor
      · intro h
        exact absurd (h [] [] rfl) (by decide)
      · rintro (hzero | ⟨rest, hrest, -⟩)
        · omega
        · exact absurd ⟨rest, hrest.symm⟩ hreset
  · obtain ⟨ret, t, new, hrun, hsent, hlow, -⟩ := espstlinkReconnectEntry_run chunk version s
    rw [if_neg hversion, Drv.pure_bind_run]
    refine ⟨ret, t, new, hrun, hsent, fun _ => Or.inl (by omega), fun _ pre post heq => ?_⟩
    exact absurd (by rw [heq]; simp) hlow

/-- A target that does not answer the entry stays in reset: the connect fails, and the pin is
low. -/
theorem espstlinkSwimReconnect_stays_low :
    ∃ t, espstlinkSwimReconnect (fun _ => 1) 1 ⟨[0xFD, 0, 0xFE, 0xFF, 0xFF, 0xFB], 0, [], none⟩ =
        (.ok false, t) ∧ t.sent = [resetLow, [0xFE]] ∧ ¬ReleasesReset t.sent := by
  refine ⟨_, rfl, rfl, fun h => ?_⟩
  exact absurd (h [] [[0xFE]] rfl) (by decide)

end Stm8Flash
