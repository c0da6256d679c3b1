import Stm8Flash.Srec.Read

/-! # What `srec_read` does with one line

`srecLine_data` and `srecLine_other` say what a line stores: a data record stores the
bytes of its leading readable fields (`fieldBytes`) when its address passes the range
tests, from the index that its type shifts; every other line stores nothing.
-/

namespace Stm8Flash

open Hex Stdio Word

/-- The bytes that the fields at the columns `i`, `i + 2`, … hold, `n` at most, up to the
first one that cannot be read. -/
def srecBytes (line : LineBuf 516) : Nat → Nat → List Byte
  | 0, _ => []
  | n + 1, i => match srecAt line i with
    | none => []
    | some v => UInt8.ofNat v :: srecBytes line n (i + 2)

/-- Stores of the bytes `bs` from the index `x` on, modulo 2^32. -/
def srecStores (x : Nat) (bs : List Byte) : List (Nat × Byte) :=
  (Image.block x bs).map fun p => (u32 p.1, p.2)

/-- The address of a data record of type `t` whose header scan gave `a`. -/
def srecAddr (t a : Nat) : Nat := a >>> (8 * (3 - t))

/-- `data_len` of a data record. -/
def srecDataLen (t n : Nat) : Nat := sub32 (sub32 n t) 2

/-- How many fields the data loop of a record of type `t` and length `n` goes through. -/
def srecFieldCount (t n : Nat) : Nat := srecRounds (2 * (t + 3)) (u32 (2 * (n + 1)))

/-- The bytes of the leading readable fields of a data record of type `t` and length `n`. -/
def SrecState.fieldBytes (s : SrecState) (piece : List Byte) (t n : Nat) : List Byte :=
  srecBytes (s.readLine piece).line (srecFieldCount t n) (2 * (t + 3))

theorem srecAt_of_ge (line : LineBuf 516) {i : Nat} (h : 516 ≤ i) : srecAt line i = none := by
  have hdrop : line.chars.drop i = [] := List.drop_eq_nil_of_le (by rw [line.length_eq]; exact h)
  unfold srecAt LineBuf.cstr
  rw [hdrop]
  rfl

theorem srecBytes_length_le (line : LineBuf 516) (n i : Nat) : (srecBytes line n i).length ≤ n := by
  induction n generalizing i with
  | zero => exact Nat.le_refl 0
  | succ n ih =>
    unfold srecBytes
    rcases srecAt line i with _ | v
    · exact Nat.zero_le _
    · exact Nat.succ_le_succ (ih (i + 2))

/-! ## One field -/

theorem srecByte_some (e : Nat → Nat → SrecError) {i v : Nat} (s : SrecState)
    (h : srecAt s.line i = some v) :
    srecByte e i s = (.ok v, s.setChecksum (u32 (s.checksum + v))) := by
  have hi : ¬i ≥ 516 := by
    intro hge
    rw [srecAt_of_ge s.line hge] at h
    cases h
  unfold srecByte
  rw [Drv.state_bind_run, if_neg hi, h]
  rfl

/-- A field that cannot be read ends the run, with a message when it lies in `line`. -/
theorem srecByte_none (e : Nat → Nat → SrecError) {i : Nat} (s : SrecState)
    (h : srecAt s.line i = none) :
    srecByte e i s = (.error (if i ≥ 516 then .outsideLine i else e s.lineNo i), s) := by
  unfold srecByte
  rw [Drv.state_bind_run]
  by_cases hi : i ≥ 516
  · rw [if_pos hi, if_pos hi]
    rfl
  · rw [if_neg hi, if_neg hi, h]
    rfl

/-- The line, the stores and the greatest end address. -/
def SrecState.placed (s : SrecState) : LineBuf 516 × List (Nat × Byte) × Nat :=
  (s.line, s.stores, s.greatestAddr)

theorem srecByte_keeps (e : Nat → Nat → SrecError) (i : Nat) :
    Drv.Keeps SrecState.placed (srecByte e i) := by
  intro s
  rcases h : srecAt s.line i with _ | v
  · rw [srecByte_none e s h]
  · rw [srecByte_some e s h]
    rfl

/-! ## The data loop -/

/-- The range tests of the data loop. -/
def SrecTests (start end_ a d : Nat) : Prop := start ≤ a ∧ u32 (a + d) ≤ end_

instance (start end_ a d : Nat) : Decidable (SrecTests start end_ a d) :=
  inferInstanceAs (Decidable (start ≤ a ∧ u32 (a + d) ≤ end_))

theorem srecStore_passes {start end_ a d : Nat} (h : SrecTests start end_ a d) (i v : Nat)
    (s : SrecState) :
    srecStore start end_ true a d i v s =
      (.ok (), (s.reach (u32 (a + d))).store (u32 (sub32 a start + (i - 8) / 2))
        (UInt8.ofNat v)) := by
  rcases h with ⟨hstart, hend⟩
  unfold srecStore
  rw [Drv.state_bind_run, if_neg (by decide), if_neg (by omega), if_neg (by omega)]
  rfl

theorem srecStore_fails {start end_ a d : Nat} (h : ¬SrecTests start end_ a d) (i v : Nat)
    (s : SrecState) :
    ∃ e, e.IsMessage ∧ srecStore start end_ true a d i v s = (.error e, s) := by
  unfold srecStore
  rw [Drv.state_bind_run, if_neg (by decide)]
  by_cases hstart : a < start
  · rw [if_pos hstart]
    exact ⟨.belowStart a s.lineNo, trivial, rfl⟩
  · have hend : u32 (a + d) > end_ := by
      by_contra hle
      exact h ⟨by omega, by omega⟩
    rw [if_neg hstart, if_pos hend]
    exact ⟨.aboveEnd a d s.lineNo, trivial, rfl⟩

/-- The data loop stores the leading readable fields, when the range tests pass. -/
theorem srecFields_stores (start end_ a d n i : Nat) (hi : 8 ≤ i) (s : SrecState) :
    (srecFields start end_ true a d n i s).2.stores = s.stores ++
      if SrecTests start end_ a d then
        srecStores (sub32 a start + (i - 8) / 2) (srecBytes s.line n i)
      else [] := by
  induction n generalizing i s with
  | zero => simp [srecFields, srecBytes, srecStores]
  | succ n ih =>
    unfold srecFields srecBytes
    rcases h : srecAt s.line i with _ | v
    · rw [Drv.bind_error (srecByte_none _ _ h)]
      simp [srecStores]
    · rw [Drv.bind_ok (srecByte_some _ _ h)]
      by_cases htests : SrecTests start end_ a d
      · -- the next column stores one index further
        have hidx : (i + 2 - 8) / 2 = (i - 8) / 2 + 1 := by omega
        rw [Drv.bind_ok (srecStore_passes htests i v _), ih (i + 2) (by omega), if_pos htests,
          if_pos htests, hidx]
        simp [srecStores, Nat.add_assoc]
      · -- the tests do not depend on the round, so the first one already fails
        rcases srecStore_fails htests i v (s.setChecksum (u32 (s.checksum + v))) with ⟨e, -, hrun⟩
        rw [Drv.bind_error hrun, if_neg htests]
        simp

/-- A data loop that goes through all its rounds read all its fields. -/
theorem srecFields_of_ok {start end_ a d n i : Nat} {s t : SrecState}
    (h : srecFields start end_ true a d n i s = (.ok (), t)) :
    (srecBytes s.line n i).length = n ∧ (n ≠ 0 → SrecTests start end_ a d) := by
  induction n generalizing i s with
  | zero => exact ⟨rfl, fun hn => absurd rfl hn⟩
  | succ n ih =>
    unfold srecFields at h
    unfold srecBytes
    rcases hat : srecAt s.line i with _ | v
    · rw [Drv.bind_error (srecByte_none _ _ hat)] at h
      cases h
    · rw [Drv.bind_ok (srecByte_some _ _ hat)] at h
      by_cases htests : SrecTests start end_ a d
      · rw [Drv.bind_ok (srecStore_passes htests i v _)] at h
        have hlen := (ih h).1
        refine ⟨?_, fun _ => htests⟩
        rw [SrecState.store_line, SrecState.reach_line] at hlen
        simpa using hlen
      · rcases srecStore_fails htests i v (s.setChecksum (u32 (s.checksum + v))) with ⟨e, -, hrun⟩
        rw [Drv.bind_error hrun] at h
        cases h

theorem srecFields_false_keeps (start end_ a d n i : Nat) :
    Drv.Keeps SrecState.placed (srecFields start end_ false a d n i) := by
  induction n generalizing i with
  | zero => exact Drv.Keeps.pure ()
  | succ n ih =>
    exact (srecByte_keeps _ i).bind fun v => Drv.Keeps.bind (fun _ => rfl) fun _ => ih (i + 2)

/-! ## One record -/

theorem u32_fieldColumn {t : Nat} (ht : t ≤ 3) : u32 (2 * (t + 3)) = 2 * (t + 3) :=
  u32_of_lt (by omega)

/-- The column behind the data is the one that the length byte alone gives. -/
theorem u32_checksumColumn {t : Nat} (ht : t ≤ 3) (n : Nat) :
    u32 (2 * (t + 3 + srecDataLen t n)) = u32 (2 * (n + 1)) := by
  unfold u32 srecDataLen sub32
  omega

theorem srecRecordEnd_keeps (dataRecord : Bool) (i : Nat) :
    Drv.Keeps SrecState.placed (srecRecordEnd dataRecord i) := by
  unfold srecRecordEnd
  refine Drv.Keeps.bind (Drv.Keeps.change ?_) fun _ => (srecByte_keeps _ i).bind fun _ => ?_
  · intro s
    split <;> rfl
  · exact Drv.Keeps.state.bind fun _ => Drv.Keeps.ite (Drv.Keeps.stop _) (Drv.Keeps.pure ())

theorem srecRecord_run (start end_ t n a d : Nat) (s : SrecState) :
    srecRecord start end_ true t n a d s =
      (srecFields start end_ true a d (srecRounds (u32 (2 * (t + 3))) (u32 (2 * (t + 3 + d))))
        (u32 (2 * (t + 3))) >>= fun _ => srecRecordEnd true (u32 (2 * (t + 3 + d))))
        (s.setChecksum (srecSum n a)) := by
  unfold srecRecord
  rw [Drv.change_bind_run]

theorem srecRecord_data {start end_ t : Nat} (ht : t ≤ 3) (n a : Nat) (s : SrecState) :
    srecRecord start end_ true t n a (srecDataLen t n) s =
      (srecFields start end_ true a (srecDataLen t n) (srecFieldCount t n) (2 * (t + 3)) >>=
        fun _ => srecRecordEnd true (u32 (2 * (n + 1)))) (s.setChecksum (srecSum n a)) := by
  have hrun := srecRecord_run start end_ t n a (srecDataLen t n) s
  rw [u32_checksumColumn ht, u32_fieldColumn ht] at hrun
  exact hrun

/-- A record that is not a data record stores nothing. -/
theorem srecRecord_false_keeps (start end_ t n a d : Nat) :
    Drv.Keeps SrecState.placed (srecRecord start end_ false t n a d) := by
  unfold srecRecord
  refine Drv.Keeps.bind (Drv.Keeps.change ?_) fun _ => ?_
  · intro s
    rfl
  · exact (srecFields_false_keeps _ _ _ _ _ _).bind fun _ => srecRecordEnd_keeps _ _

/-! ## One line -/

theorem isDataType_bounds {t : Nat} (h : isDataType t = true) : 1 ≤ t ∧ t ≤ 3 := by
  simp [isDataType] at h
  omega

/-- A line with the header of a data record. -/
theorem srecLine_dataRecord {start end_ t n a : Nat} {s : SrecState} {piece : List Byte}
    (h : srecHeader (s.str piece) = some (t, n, a)) (ht : isDataType t = true) :
    srecLine start end_ piece s =
      (srecFields start end_ true (srecAddr t a) (srecDataLen t n) (srecFieldCount t n)
          (2 * (t + 3)) >>= fun _ => srecRecordEnd true (u32 (2 * (n + 1))))
        ((s.readLine piece).setChecksum (srecSum n (srecAddr t a))) := by
  have hbounds := isDataType_bounds ht
  rw [← srecRecord_data hbounds.2 n (srecAddr t a) (s.readLine piece)]
  unfold srecLine
  rw [Drv.change_bind_run, Drv.state_bind_run]
  unfold SrecState.str at h
  rw [h]
  simp only
  rw [if_neg (by omega), if_neg (by omega), if_pos ht]
  rfl

/-- A data record stores the leading readable fields when the range tests pass. -/
theorem srecLine_data (start end_ : Nat) {t n a : Nat} {s : SrecState} {piece : List Byte}
    (h : srecHeader (s.str piece) = some (t, n, a)) (ht : isDataType t = true) :
    (srecLine start end_ piece s).2.stores = s.stores ++
      if SrecTests start end_ (srecAddr t a) (srecDataLen t n) then
        srecStores (sub32 (srecAddr t a) start + (t - 1)) (s.fieldBytes piece t n)
      else [] := by
  have hbounds := isDataType_bounds ht
  have hcol : (2 * (t + 3) - 8) / 2 = t - 1 := by omega
  have hend : ∀ i, Drv.Keeps SrecState.stores (srecRecordEnd true i) :=
    fun i => (srecRecordEnd_keeps true i).comp fun p => p.2.1
  rw [srecLine_dataRecord h ht, Drv.Keeps.bind_right fun _ => hend _,
    srecFields_stores _ _ _ _ _ _ (by omega), hcol]
  rfl

/-- A line without the header of a data record places nothing. -/
theorem srecLine_other_placed (start end_ : Nat) {s : SrecState} {piece : List Byte}
    (h : ∀ t n a, srecHeader (s.str piece) = some (t, n, a) → isDataType t = false) :
    (srecLine start end_ piece s).2.placed = (s.readLine piece).placed := by
  unfold srecLine
  rw [Drv.change_bind_run, Drv.state_bind_run]
  unfold SrecState.str at h
  rcases hh : srecHeader ((s.readLine piece).line.cstr 0) with _ | ⟨t, n, a⟩
  · -- no header: only a line that starts with `S` is refused
    have hkeeps : Drv.Keeps SrecState.placed (Drv.state >>= fun s : SrecState =>
        if s.temp ≠ ascii 'S' then pure () else Drv.stop (SrecError.parse s.lineNo)) :=
      Drv.Keeps.state.bind fun _ => Drv.Keeps.ite (Drv.Keeps.pure ()) (Drv.Keeps.stop _)
    simp only
    rw [Drv.change_bind_run]
    exact hkeeps _
  · simp only
    -- a header of another type: S0 and S4 are skipped, S5 checks its count
    by_cases h04 : t = 0 ∨ t = 4
    · rw [if_pos h04]
      rfl
    · rw [if_neg h04]
      by_cases h5 : t = 5
      · rw [if_pos h5, Drv.change_bind_run]
        have hkeeps : Drv.Keeps SrecState.placed
            (if n ≠ 3 then Drv.stop (SrecError.parseS5 (s.readLine piece).lineNo)
            else (Drv.change fun s => { s with expectedDataRecords := a >>> 8 }) >>= fun _ =>
              srecRecord start end_ false 1 n (a >>> 8) 0) := by
          refine Drv.Keeps.ite (Drv.Keeps.stop _) (Drv.Keeps.bind (Drv.Keeps.change ?_) fun _ => ?_)
          · intro s
            rfl
          · exact srecRecord_false_keeps _ _ _ _ _ _
        exact hkeeps _
      · rw [if_neg h5, h t n a hh]
        rfl

theorem srecLine_other (start end_ : Nat) {s : SrecState} {piece : List Byte}
    (h : ∀ t n a, srecHeader (s.str piece) = some (t, n, a) → isDataType t = false) :
    (srecLine start end_ piece s).2.stores = s.stores :=
  congrArg (fun p => p.2.1) (srecLine_other_placed start end_ h)

/-! ## A run over lines -/

/-- A line only adds stores. -/
theorem srecLine_stores (start end_ : Nat) (s : SrecState) (piece : List Byte) :
    ∃ new, (srecLine start end_ piece s).2.stores = s.stores ++ new := by
  by_cases h : ∃ t n a, srecHeader (s.str piece) = some (t, n, a) ∧ isDataType t = true
  · rcases h with ⟨t, n, a, hh, ht⟩
    exact ⟨_, srecLine_data start end_ hh ht⟩
  · refine ⟨[], ?_⟩
    rw [List.append_nil]
    apply srecLine_other
    intro t n a hh
    by_contra ht
    exact h ⟨t, n, a, hh, by simpa using ht⟩

/-- What a line stores is among the stores of the run. -/
theorem srecLines_mono {start end_ : Nat} {pre post : List (List Byte)} {piece : List Byte}
    {s t : SrecState} (hpre : srecLines start end_ pre s = (.ok (), t)) :
    ∀ p ∈ (srecLine start end_ piece t).2.stores,
      p ∈ (srecLines start end_ (pre ++ piece :: post) s).2.stores := by
  -- stores that are there stay there
  have hkeep : ∀ (ls : List (List Byte)) (u : SrecState) (p : Nat × Byte), p ∈ u.stores →
      p ∈ (srecLines start end_ ls u).2.stores := by
    intro ls
    induction ls with
    | nil => exact fun u p hp => hp
    | cons l ls ih =>
      intro u p hp
      rcases srecLine_stores start end_ u l with ⟨new, hnew⟩
      have hline : p ∈ (srecLine start end_ l u).2.stores := by
        rw [hnew]
        exact List.mem_append_left _ hp
      rw [srecLines_cons, Drv.bind_run]
      rcases hrun : srecLine start end_ l u with ⟨_ | _, v⟩
      · rw [hrun] at hline
        exact hline
      · rw [hrun] at hline
        exact ih v p hline
  intro p hp
  rw [srecLines_append, Drv.bind_ok hpre, srecLines_cons, Drv.bind_run]
  rcases hrun : srecLine start end_ piece t with ⟨_ | _, v⟩
  · rw [hrun] at hp
    exact hp
  · rw [hrun] at hp
    exact hkeep post v p hp

end Stm8Flash
