import Stm8Flash.Srec.Record

/-! # Which lines `srec_read` accepts

The verdict on one line, whatever the state: a data record is accepted when all its
fields can be read, the range tests pass if there is a field at all, and the sum is right
(`srecLine_data_run`, `srecLine_data_of_ok`); a count record when its length is 3 and the sum is
right (`srecLine_count_run`, `srecLine_count_of_ok`); a line of another type always
(`srecLine_skip`). What an accepted line does to the counters is said beside it.
-/

namespace Stm8Flash

open Hex Stdio Word

/-- The sum of the bytes of a 32-bit address. -/
def addrSum (a : Nat) : Nat := LO a + HI a + EX a + EH a

/-- `number_of_records`, `found_S5_rec` and `expected_data_records`. -/
def SrecState.counts (s : SrecState) : Nat × Bool × Nat :=
  (s.numberOfRecords, s.foundS5Rec, s.expectedDataRecords)

theorem srecSum_mod (n a : Nat) : srecSum n a % 256 = (n + addrSum a) % 256 := by
  unfold srecSum addrSum u32
  omega

theorem u32_mod_256 (n : Nat) : u32 n % 256 = n % 256 := by
  unfold u32
  omega

/-! ## The data loop -/

/-- A data loop that can read all its fields, within the range tests, goes through and
adds the bytes to the checksum. -/
theorem srecFields_run {start end_ a d n i : Nat} {s : SrecState}
    (hread : (srecBytes s.line n i).length = n) (htests : n ≠ 0 → SrecTests start end_ a d) :
    ∃ t, srecFields start end_ true a d n i s = (.ok (), t) ∧ t.line = s.line ∧
      t.counts = s.counts ∧
      t.checksum % 256 = (s.checksum + byteSum (srecBytes s.line n i)) % 256 := by
  induction n generalizing i s with
  | zero => exact ⟨s, rfl, rfl, rfl, rfl⟩
  | succ n ih =>
    unfold srecBytes at hread ⊢
    unfold srecFields
    rcases hat : srecAt s.line i with _ | v
    · rw [hat] at hread
      simp at hread
    · have hpass := htests (Nat.succ_ne_zero n)
      have hrest : (srecBytes s.line n (i + 2)).length = n := by
        rw [hat] at hread
        simpa using hread
      rw [Drv.bind_ok (srecByte_some _ _ hat), Drv.bind_ok (srecStore_passes hpass i v _)]
      -- the rest of the loop, from the state behind this field
      generalize hu : ((s.setChecksum (u32 (s.checksum + v))).reach (u32 (a + d))).store
        (u32 (sub32 a start + (i - 8) / 2)) (UInt8.ofNat v) = u
      have hline : u.line = s.line := by
        rw [← hu]
        simp
      have hcounts : u.counts = s.counts := by
        rw [← hu]
        unfold SrecState.reach
        split <;> rfl
      have hsum : u.checksum = u32 (s.checksum + v) := by
        rw [← hu]
        unfold SrecState.reach
        split <;> rfl
      obtain ⟨t, hrun, htline, htcounts, htsum⟩ := ih (i := i + 2) (s := u)
        (by rw [hline]; exact hrest) (fun _ => hpass)
      refine ⟨t, hrun, htline.trans hline, htcounts.trans hcounts, ?_⟩
      rw [htsum, hsum, hline, byteSum_cons, UInt8.toNat_ofNat']
      have hmod := u32_mod_256 (s.checksum + v)
      omega

/-! ## The end of a record -/

theorem srecRecordEnd_run {dataRecord : Bool} {i v : Nat} {s : SrecState}
    (hat : srecAt s.line i = some v) (hsum : (s.checksum + v) % 256 = 255) :
    ∃ t, srecRecordEnd dataRecord i s = (.ok (), t) ∧
      t.counts = (if dataRecord then s.countRecord else s).counts := by
  generalize hu : (if dataRecord then s.countRecord else s) = u
  have hline : u.line = s.line := by
    rw [← hu]
    split <;> rfl
  have hcheck : u.checksum = s.checksum := by
    rw [← hu]
    split <;> rfl
  rw [← hline] at hat
  have hok : LO (u32 (u.checksum + v)) = 0xff := by
    rw [LO_eq, u32_mod_256, hcheck, hsum]
  refine ⟨u.setChecksum (u32 (u.checksum + v)), ?_, rfl⟩
  unfold srecRecordEnd
  rw [Drv.change_bind_run, hu, Drv.bind_ok (srecByte_some _ u hat), Drv.state_bind_run,
    SrecState.setChecksum_checksum, if_neg (not_not.mpr hok)]
  rfl

theorem srecRecordEnd_of_ok {dataRecord : Bool} {i : Nat} {s t : SrecState}
    (h : srecRecordEnd dataRecord i s = (.ok (), t)) :
    ∃ v, srecAt s.line i = some v ∧ (s.checksum + v) % 256 = 255 := by
  generalize hu : (if dataRecord then s.countRecord else s) = u
  have hline : u.line = s.line := by
    rw [← hu]
    split <;> rfl
  have hcheck : u.checksum = s.checksum := by
    rw [← hu]
    split <;> rfl
  unfold srecRecordEnd at h
  rw [Drv.change_bind_run, hu] at h
  rcases hat : srecAt u.line i with _ | v
  · rw [Drv.bind_error (srecByte_none _ u hat)] at h
    cases h
  · rw [Drv.bind_ok (srecByte_some _ u hat), Drv.state_bind_run,
      SrecState.setChecksum_checksum] at h
    by_cases hbad : LO (u32 (u.checksum + v)) ≠ 0xff
    · rw [if_pos hbad] at h
      cases h
    · have hok := not_not.mp hbad
      rw [LO_eq, u32_mod_256, hcheck] at hok
      exact ⟨v, hline ▸ hat, hok⟩

/-! ## One line -/

/-- A line with the header of a data record passes: its fields can be read, the range
tests pass if there is a field, the checksum can be read and the sum is right. -/
def SrecDataPasses (start end_ : Nat) (s : SrecState) (piece : List Byte) (t n a : Nat) : Prop :=
  (s.fieldBytes piece t n).length = srecFieldCount t n ∧
  (srecFieldCount t n ≠ 0 → SrecTests start end_ (srecAddr t a) (srecDataLen t n)) ∧
  ∃ v, srecAt (s.readLine piece).line (u32 (2 * (n + 1))) = some v ∧
    (n + addrSum (srecAddr t a) + byteSum (s.fieldBytes piece t n) + v) % 256 = 255

/-- A line with the header of a count record passes. -/
def SrecCountPasses (s : SrecState) (piece : List Byte) (n a : Nat) : Prop :=
  n = 3 ∧ ∃ v, srecAt (s.readLine piece).line 8 = some v ∧
    (n + addrSum (a >>> 8) + v) % 256 = 255

theorem srecLine_data_run {start end_ t n a : Nat} {s : SrecState} {piece : List Byte}
    (h : srecHeader (s.str piece) = some (t, n, a)) (ht : isDataType t = true)
    (hpass : SrecDataPasses start end_ s piece t n a) :
    ∃ u, srecLine start end_ piece s = (.ok (), u) ∧ u.counts = s.countRecord.counts := by
  rcases hpass with ⟨hread, htests, v, hat, hsum⟩
  obtain ⟨u, hrun, hline, hcounts, hcheck⟩ := @srecFields_run start end_ (srecAddr t a)
    (srecDataLen t n) (srecFieldCount t n) (2 * (t + 3))
    ((s.readLine piece).setChecksum (srecSum n (srecAddr t a))) hread htests
  have hmod := srecSum_mod n (srecAddr t a)
  have hbytes : srecBytes ((s.readLine piece).setChecksum (srecSum n (srecAddr t a))).line
      (srecFieldCount t n) (2 * (t + 3)) = s.fieldBytes piece t n := rfl
  rw [hbytes, SrecState.setChecksum_checksum] at hcheck
  rw [← SrecState.setChecksum_line _ (srecSum n (srecAddr t a)), ← hline] at hat
  obtain ⟨w, hend, hwcounts⟩ := @srecRecordEnd_run true _ _ _ hat (by omega)
  refine ⟨w, ?_, ?_⟩
  · rw [srecLine_dataRecord h ht, Drv.bind_ok hrun, hend]
  · rw [hwcounts, if_pos rfl]
    unfold SrecState.counts at hcounts ⊢
    simp only [SrecState.countRecord, Prod.mk.injEq] at hcounts ⊢
    rcases hcounts with ⟨hnum, hfound, hexp⟩
    rw [hnum, hfound, hexp]
    exact ⟨rfl, rfl, rfl⟩

theorem srecLine_data_of_ok {start end_ t n a : Nat} {s u : SrecState} {piece : List Byte}
    (h : srecHeader (s.str piece) = some (t, n, a)) (ht : isDataType t = true)
    (hrun : srecLine start end_ piece s = (.ok (), u)) :
    SrecDataPasses start end_ s piece t n a := by
  rw [srecLine_dataRecord h ht] at hrun
  rcases Drv.bind_eq_ok.mp hrun with ⟨_, w, hfields, hend⟩
  rcases srecFields_of_ok hfields with ⟨hread, htests⟩
  rcases srecRecordEnd_of_ok hend with ⟨v, hat, hsum⟩
  -- the loop is deterministic: its end state is the one of `srecFields_run`
  obtain ⟨w', hrun', hline, -, hcheck⟩ := srecFields_run hread htests
  rw [hfields] at hrun'
  cases hrun'
  have hmod := srecSum_mod n (srecAddr t a)
  have hbytes : srecBytes ((s.readLine piece).setChecksum (srecSum n (srecAddr t a))).line
      (srecFieldCount t n) (2 * (t + 3)) = s.fieldBytes piece t n := rfl
  rw [hbytes, SrecState.setChecksum_checksum] at hcheck
  rw [hline, SrecState.setChecksum_line] at hat
  exact ⟨hread, htests, v, hat, by omega⟩

/-- The run of a line with the header of a count record. -/
theorem srecLine_count {start end_ n a : Nat} {s : SrecState} {piece : List Byte}
    (h : srecHeader (s.str piece) = some (5, n, a)) :
    srecLine start end_ piece s =
      (if n ≠ 3 then Drv.stop (.parseS5 (s.readLine piece).lineNo)
      else (do
        Drv.change fun s => { s with expectedDataRecords := a >>> 8 }
        srecRecord start end_ false 1 n (a >>> 8) 0 : Drv SrecState SrecError Unit))
        { s.readLine piece with foundS5Rec := true } := by
  unfold srecLine
  rw [Drv.change_bind_run, Drv.state_bind_run]
  unfold SrecState.str at h
  rw [h]
  simp only
  rw [if_neg (by decide), if_pos trivial, Drv.change_bind_run]

/-- A record without data columns that is not a data record goes straight to its end. -/
theorem srecRecord_count (start end_ n a : Nat) (s : SrecState) :
    srecRecord start end_ false 1 n a 0 s =
      srecRecordEnd false 8 (s.setChecksum (srecSum n a)) := by
  unfold srecRecord
  rw [Drv.change_bind_run]
  have hcol : u32 (2 * (1 + 3)) = 8 := by decide
  have hrounds : srecRounds 8 8 = 0 := by decide
  rw [hcol, hrounds]
  rfl

theorem srecLine_count_run {start end_ n a : Nat} {s : SrecState} {piece : List Byte}
    (h : srecHeader (s.str piece) = some (5, n, a)) (hpass : SrecCountPasses s piece n a) :
    ∃ u, srecLine start end_ piece s = (.ok (), u) ∧
      u.counts = (s.numberOfRecords, true, a >>> 8) := by
  rcases hpass with ⟨rfl, v, hat, hsum⟩
  rw [srecLine_count h, if_neg (by decide), Drv.change_bind_run, srecRecord_count]
  have hmod := srecSum_mod 3 (a >>> 8)
  rw [← SrecState.setChecksum_line _ (srecSum 3 (a >>> 8))] at hat
  obtain ⟨u, hrun, hcounts⟩ := @srecRecordEnd_run false 8 v
    (({ s.readLine piece with foundS5Rec := true, expectedDataRecords := a >>> 8 } :
      SrecState).setChecksum (srecSum 3 (a >>> 8))) hat
    (by rw [SrecState.setChecksum_checksum]; omega)
  refine ⟨u, hrun, ?_⟩
  rw [hcounts, if_neg (by decide)]
  rfl

theorem srecLine_count_of_ok {start end_ n a : Nat} {s u : SrecState} {piece : List Byte}
    (h : srecHeader (s.str piece) = some (5, n, a))
    (hrun : srecLine start end_ piece s = (.ok (), u)) : SrecCountPasses s piece n a := by
  rw [srecLine_count h] at hrun
  by_cases hn : n = 3
  · rw [if_neg (not_not.mpr hn), Drv.change_bind_run, srecRecord_count] at hrun
    rcases srecRecordEnd_of_ok hrun with ⟨v, hat, hsum⟩
    have hmod := srecSum_mod n (a >>> 8)
    rw [SrecState.setChecksum_checksum] at hsum
    exact ⟨hn, v, hat, by omega⟩
  · rw [if_pos hn] at hrun
    cases hrun

/-- A line of any other type is skipped. -/
theorem srecLine_skip {start end_ t n a : Nat} {s : SrecState} {piece : List Byte}
    (h : srecHeader (s.str piece) = some (t, n, a)) (ht : isDataType t = false) (h5 : t ≠ 5) :
    srecLine start end_ piece s = (.ok (), s.readLine piece) := by
  unfold srecLine
  rw [Drv.change_bind_run, Drv.state_bind_run]
  unfold SrecState.str at h
  rw [h]
  simp only
  by_cases h04 : t = 0 ∨ t = 4
  · rw [if_pos h04]
    rfl
  · rw [if_neg h04, if_neg h5, ht]
    rfl

/-- A line without a header is skipped when it does not start with `S`, and neither did
the last such line in case it is empty. -/
theorem srecLine_none {start end_ : Nat} {s : SrecState} {piece : List Byte}
    (h : srecHeader (s.str piece) = none) :
    srecLine start end_ piece s =
      (if (s.str piece).head?.getD s.temp ≠ ascii 'S' then
        (.ok (), { s.readLine piece with temp := (s.str piece).head?.getD s.temp })
      else (.error (.parse (s.lineNo + 1)),
        { s.readLine piece with temp := (s.str piece).head?.getD s.temp })) := by
  unfold srecLine
  rw [Drv.change_bind_run, Drv.state_bind_run]
  unfold SrecState.str at h ⊢
  rw [h]
  simp only
  rw [Drv.change_bind_run, Drv.state_bind_run]
  by_cases hne : ((s.readLine piece).line.cstr 0).head?.getD s.temp ≠ ascii 'S'
  · rw [if_pos hne]
    exact congrFun (if_pos hne) _
  · rw [if_neg hne]
    exact congrFun (if_neg hne) _

end Stm8Flash
