import Stm8Flash.Srec.Line

/-! # Where `srec_read` stores

The range tests of `srec_read` compare the record's address and end, but the store index
counts from column 8 whatever the type, so an S2 or S3 record is stored one or two bytes
above its address (`srecRead_shifts`). The sums also wrap, and a record without data
columns never meets the tests. `srecRead_storesInRange_iff` says exactly on which files
every store is in range and every record beyond `end` is refused.
-/

namespace Stm8Flash

open Hex Stdio Word

/-- The run of `srec_read` on the file comes to `piece` in the state `s`. -/
def SrecReaches (line : LineBuf 516) (file : List Byte) (start end_ : Nat) (s : SrecState)
    (piece : List Byte) : Prop :=
  ∃ pre post, pieces 516 file = pre ++ piece :: post ∧
    srecLines start end_ pre (SrecState.init line) = (.ok (), s)

/-- The piece makes `srec_read` end with a message, before any byte of it is stored. -/
def SrecRefuses (line : LineBuf 516) (file : List Byte) (start end_ : Nat) (s : SrecState)
    (piece : List Byte) : Prop :=
  ∃ e t, e.IsMessage ∧ srecLine start end_ piece s = (.error e, t) ∧
    srecRead line file start end_ = (.error e, t) ∧ t.stores = s.stores

/-- The exact end address `A + (LL - t - 2)` of a data record is above `end`. -/
def SrecBeyond (end_ t n a : Nat) : Prop := end_ + t + 2 < srecAddr t a + n

/-- Every index stored to lies in `buf`, and a data record beyond `end` is refused. -/
def SrecStoresInRange (line : LineBuf 516) (file : List Byte) (start end_ : Nat) : Prop :=
  (∀ p ∈ (srecRead line file start end_).2.stores, p.1 < end_ - start) ∧
  ∀ s piece, SrecReaches line file start end_ s piece →
    ∀ t n a, srecHeader (s.str piece) = some (t, n, a) → isDataType t = true →
      SrecBeyond end_ t n a → SrecRefuses line file start end_ s piece

/-- A record beyond `end` is caught: it has a first data column, and this field cannot be
read or one of the range tests fails; or it has none, and its checksum field cannot be
read or is wrong. -/
def SrecCaught (start end_ : Nat) (s : SrecState) (piece : List Byte) (t n a : Nat) : Prop :=
  if srecFieldCount t n ≠ 0 then
    srecAt (s.readLine piece).line (2 * (t + 3)) = none ∨
      ¬SrecTests start end_ (srecAddr t a) (srecDataLen t n)
  else
    ∀ v, srecAt (s.readLine piece).line (u32 (2 * (n + 1))) = some v →
      LO (u32 (srecSum n (srecAddr t a) + v)) ≠ 0xff

/-- A record that is not beyond `end` leaves room for its shift: its leading readable
fields are none, or they end below `end` when they are moved up by `t - 1`, or the shift
carries the record past 2^32 to the front of `buf`. -/
def SrecShiftFits (start end_ : Nat) (s : SrecState) (piece : List Byte) (t n a : Nat) : Prop :=
  start ≤ srecAddr t a → s.fieldBytes piece t n = [] ∨
    srecAddr t a + (t - 1) + (s.fieldBytes piece t n).length ≤ end_ ∨
    start + 4294967296 ≤ srecAddr t a + (t - 1)

/-! ## Records beyond `end` -/

theorem srecFieldCount_pos {t n : Nat} (h : srecFieldCount t n ≠ 0) :
    ∃ m, srecFieldCount t n = m + 1 := ⟨srecFieldCount t n - 1, by omega⟩

/-- Where there is no data column, the checksum column is inside `line`. -/
theorem checksumColumn_lt {t n : Nat} (ht : t ≤ 3) (h : srecFieldCount t n = 0) :
    u32 (2 * (n + 1)) < 516 := by
  unfold srecFieldCount srecRounds at h
  omega

theorem srecRecordEnd_refuses {i : Nat} (hi : i < 516) (s : SrecState)
    (h : ∀ v, srecAt s.line i = some v → LO (u32 (s.checksum + v)) ≠ 0xff) :
    ∃ e t, e.IsMessage ∧ srecRecordEnd true i s = (.error e, t) ∧ t.stores = s.stores := by
  unfold srecRecordEnd
  rw [Drv.change_bind_run, if_pos rfl]
  rcases hat : srecAt s.line i with _ | v
  · rw [Drv.bind_error (srecByte_none _ s.countRecord hat), if_neg (by omega)]
    exact ⟨.readChecksum s.lineNo i, _, trivial, rfl, rfl⟩
  · have hsum := h v hat
    rw [Drv.bind_ok (srecByte_some _ s.countRecord hat), Drv.state_bind_run,
      SrecState.setChecksum_checksum, SrecState.countRecord_checksum, if_pos hsum]
    exact ⟨.invalidChecksum s.lineNo, _, trivial, rfl, rfl⟩

/-- A record that is caught ends the run with a message, without a store. -/
theorem srecLine_of_caught {start end_ t n a : Nat} {s : SrecState} {piece : List Byte}
    (h : srecHeader (s.str piece) = some (t, n, a)) (ht : isDataType t = true)
    (hc : SrecCaught start end_ s piece t n a) :
    ∃ e u, e.IsMessage ∧ srecLine start end_ piece s = (.error e, u) ∧ u.stores = s.stores := by
  have hbounds := isDataType_bounds ht
  unfold SrecCaught at hc
  rw [srecLine_dataRecord h ht]
  -- without a field only the checksum is looked at
  by_cases hcount : srecFieldCount t n = 0
  · rw [if_neg (by simpa using hcount)] at hc
    rw [hcount]
    exact srecRecordEnd_refuses (checksumColumn_lt hbounds.2 hcount) _ hc
  · rw [if_pos hcount] at hc
    rcases srecFieldCount_pos hcount with ⟨m, hm⟩
    rw [hm]
    unfold srecFields
    rw [Drv.bind_assoc_run]
    generalize hr : (s.readLine piece).setChecksum (srecSum n (srecAddr t a)) = r
    have hline : r.line = (s.readLine piece).line := by rw [← hr]; rfl
    have hstores : r.stores = s.stores := by rw [← hr]; rfl
    rw [← hline] at hc
    rcases hat : srecAt r.line (2 * (t + 3)) with _ | v
    · rw [Drv.bind_error (srecByte_none _ _ hat), if_neg (by omega)]
      exact ⟨.parseByte r.lineNo _, _, trivial, rfl, hstores⟩
    · have htests := hc.resolve_left (by simp [hat])
      rw [Drv.bind_ok (srecByte_some _ _ hat), Drv.bind_assoc_run]
      obtain ⟨e, he, hrun⟩ := srecStore_fails htests (2 * (t + 3)) v
        (r.setChecksum (u32 (r.checksum + v)))
      rw [Drv.bind_error hrun]
      exact ⟨e, _, he, rfl, hstores⟩

/-- A data record that ends the run without a store is caught. -/
theorem caught_of_srecLine {start end_ t n a : Nat} {s u : SrecState} {piece : List Byte}
    {e : SrecError} (h : srecHeader (s.str piece) = some (t, n, a)) (ht : isDataType t = true)
    (hrun : srecLine start end_ piece s = (.error e, u)) (hst : u.stores = s.stores) :
    SrecCaught start end_ s piece t n a := by
  unfold SrecCaught
  by_cases hcount : srecFieldCount t n = 0
  · rw [if_neg (by simpa using hcount)]
    -- with a right checksum the line would be accepted
    intro v hat hsum
    rw [srecLine_dataRecord h ht, hcount] at hrun
    unfold srecFields srecRecordEnd at hrun
    generalize hr : (s.readLine piece).setChecksum (srecSum n (srecAddr t a)) = r at hrun
    have hat' : srecAt r.countRecord.line (u32 (2 * (n + 1))) = some v := by rw [← hr]; exact hat
    have hsum' : LO (u32 (r.countRecord.checksum + v)) = 0xff := by rw [← hr]; exact hsum
    rw [Drv.pure_bind_run, Drv.change_bind_run, if_pos rfl,
      Drv.bind_ok (srecByte_some _ r.countRecord hat'), Drv.state_bind_run,
      SrecState.setChecksum_checksum, if_neg (not_not.mpr hsum')] at hrun
    cases hrun
  · rw [if_pos hcount]
    by_contra hpass
    rcases not_or.mp hpass with ⟨hread, htests⟩
    have hstores := srecLine_data start end_ h ht
    -- the first field is read and the tests pass, so a byte is stored
    rcases srecFieldCount_pos hcount with ⟨m, hm⟩
    rcases Option.ne_none_iff_exists'.mp hread with ⟨v, hv⟩
    rw [hrun, hst, if_pos (not_not.mp htests)] at hstores
    unfold SrecState.fieldBytes at hstores
    rw [hm, srecBytes, hv] at hstores
    simp [srecStores] at hstores

/-! ## Records that are not beyond `end` -/

theorem mem_srecStores {x : Nat} {bs : List Byte} {i : Nat} :
    (∃ p ∈ srecStores x bs, p.1 = i) ↔ ∃ k < bs.length, i = u32 (x + k) := by
  unfold srecStores
  constructor
  · intro h
    rcases h with ⟨p, hp, rfl⟩
    rcases List.mem_map.mp hp with ⟨q, hq, rfl⟩
    rcases Image.mem_block.mp hq with ⟨k, hk, rfl⟩
    exact ⟨k, hk, rfl⟩
  · intro h
    rcases h with ⟨k, hk, rfl⟩
    exact ⟨_, List.mem_map.mpr ⟨_, Image.mem_block.mpr ⟨k, hk, rfl⟩, rfl⟩, rfl⟩

/-- A record whose exact end is not above `end` passes the upper range test, and has no
more fields than data bytes. -/
theorem srec_not_beyond {end_ t n a : Nat} (hend : end_ < 4294967296) (ht : 1 ≤ t ∧ t ≤ 3)
    (hb : ¬SrecBeyond end_ t n a) (hcount : srecFieldCount t n ≠ 0) :
    srecAddr t a + srecDataLen t n ≤ end_ ∧ srecFieldCount t n ≤ srecDataLen t n := by
  unfold SrecBeyond at hb
  unfold srecFieldCount srecRounds u32 at *
  unfold srecDataLen sub32
  omega

/-- The shifted indices lie in `buf` exactly when the shift fits. -/
theorem shifted_inRange_iff {start end_ a d m x : Nat} (hend : end_ < 4294967296)
    (hstart : start ≤ a) (hfit : a + d ≤ end_) (hm : m ≤ d) (hx : x ≤ 2) :
    (∀ k < m, u32 (sub32 a start + x + k) < end_ - start) ↔
      m = 0 ∨ a + x + m ≤ end_ ∨ start + 4294967296 ≤ a + x := by
  rw [sub32_of_le hstart (by omega)]
  constructor
  · intro h
    by_contra hno
    rcases not_or.mp hno with ⟨hm0, hrest⟩
    rcases not_or.mp hrest with ⟨hover, hwrap⟩
    -- the last index, or the last one that does not wrap, is out of range
    by_cases hlast : a - start + x + (m - 1) < 4294967296
    · have := h (m - 1) (by omega)
      rw [u32_of_lt hlast] at this
      omega
    · have := h (4294967295 - (a - start + x)) (by omega)
      rw [u32_of_lt (by omega)] at this
      omega
  · intro h k hk
    unfold u32
    rcases h with h | h | h <;> omega

/-- The stores of a data record that is not beyond `end` lie in `buf` exactly when its
shift fits. -/
theorem srecLine_inRange_iff {start end_ t n a : Nat} {s : SrecState} {piece : List Byte}
    (hend : end_ < 4294967296) (h : srecHeader (s.str piece) = some (t, n, a))
    (ht : isDataType t = true) (hb : ¬SrecBeyond end_ t n a)
    (hs : ∀ p ∈ s.stores, p.1 < end_ - start) :
    (∀ p ∈ (srecLine start end_ piece s).2.stores, p.1 < end_ - start) ↔
      SrecShiftFits start end_ s piece t n a := by
  have hbounds := isDataType_bounds ht
  have hlen : (s.fieldBytes piece t n).length ≤ srecFieldCount t n := srecBytes_length_le _ _ _
  rw [srecLine_data start end_ h ht]
  unfold SrecShiftFits
  by_cases hcount : srecFieldCount t n = 0
  · have hnil : s.fieldBytes piece t n = [] := List.eq_nil_of_length_eq_zero (by omega)
    rw [hnil]
    constructor
    · exact fun _ _ => Or.inl rfl
    · intro _ p hp
      exact hs p (by simpa [srecStores] using hp)
  · rcases srec_not_beyond hend hbounds hb hcount with ⟨hfit, hle⟩
    -- below `start` nothing is stored, whatever the shift
    by_cases hstart : start ≤ srecAddr t a
    · have htests : SrecTests start end_ (srecAddr t a) (srecDataLen t n) :=
        ⟨hstart, by rw [u32_of_lt (by omega)]; exact hfit⟩
      have hshift := shifted_inRange_iff (m := (s.fieldBytes piece t n).length) (x := t - 1)
        hend hstart hfit (by omega) (by omega)
      rw [if_pos htests, ← List.length_eq_zero_iff]
      constructor
      · intro hall _
        apply hshift.mp
        intro k hk
        rcases mem_srecStores.mpr ⟨k, hk, rfl⟩ with ⟨p, hp, heq⟩
        rw [← heq]
        exact hall p (List.mem_append_right _ hp)
      · intro hfits p hp
        rcases List.mem_append.mp hp with hp | hp
        · exact hs p hp
        · rcases mem_srecStores.mp ⟨p, hp, rfl⟩ with ⟨k, hk, hidx⟩
          rw [hidx]
          exact hshift.mpr (hfits hstart) k hk
    · rw [if_neg (fun htests => hstart htests.1), List.append_nil]
      constructor
      · exact fun _ hle' => absurd hle' hstart
      · exact fun _ => hs

/-! ## A run over lines -/

/-- If every record beyond `end` that the run comes to is caught and every other one
leaves room for its shift, every store of the run lies in `buf`. -/
theorem srecLines_inRange {start end_ : Nat} (hend : end_ < 4294967296) (ls : List (List Byte))
    (s : SrecState) (hs : ∀ p ∈ s.stores, p.1 < end_ - start)
    (hlines : ∀ pre piece post u, ls = pre ++ piece :: post →
      srecLines start end_ pre s = (.ok (), u) →
      ∀ t n a, srecHeader (u.str piece) = some (t, n, a) → isDataType t = true →
        (SrecBeyond end_ t n a → SrecCaught start end_ u piece t n a) ∧
        (¬SrecBeyond end_ t n a → SrecShiftFits start end_ u piece t n a)) :
    ∀ p ∈ (srecLines start end_ ls s).2.stores, p.1 < end_ - start := by
  induction ls generalizing s with
  | nil => exact hs
  | cons l ls ih =>
    -- one line: caught without a store, shifted inside `buf`, or not a data record
    have hline : ∀ p ∈ (srecLine start end_ l s).2.stores, p.1 < end_ - start := by
      by_cases hdata : ∃ t n a, srecHeader (s.str l) = some (t, n, a) ∧ isDataType t = true
      · rcases hdata with ⟨t, n, a, hh, ht⟩
        rcases hlines [] l ls s rfl rfl t n a hh ht with ⟨hcaught, hfits⟩
        by_cases hb : SrecBeyond end_ t n a
        · rcases srecLine_of_caught hh ht (hcaught hb) with ⟨e, u, -, hrun, hst⟩
          rw [hrun]
          simpa [hst] using hs
        · exact (srecLine_inRange_iff hend hh ht hb hs).mpr (hfits hb)
      · rw [srecLine_other]
        · exact hs
        · intro t n a hh
          by_contra ht
          exact hdata ⟨t, n, a, hh, by simpa using ht⟩
    rw [srecLines_cons]
    rcases hrun : srecLine start end_ l s with ⟨_ | _, u⟩
    · rw [Drv.bind_error hrun]
      rw [hrun] at hline
      exact hline
    · rw [Drv.bind_ok hrun]
      rw [hrun] at hline
      apply ih u hline
      intro pre piece post v hsplit hpre
      refine hlines (l :: pre) piece post v (by rw [hsplit]; rfl) ?_
      rw [srecLines_cons, Drv.bind_ok hrun, hpre]

/-- `srec_read` stores in range and refuses every record beyond `end` exactly on the files
where each record beyond `end` that the run comes to is caught and each other one leaves
room for the shift of its type. -/
theorem srecRead_storesInRange_iff (line : LineBuf 516) (file : List Byte) (start end_ : Nat)
    (hend : end_ < 2 ^ 32) :
    SrecStoresInRange line file start end_ ↔
      ∀ s piece, SrecReaches line file start end_ s piece →
        ∀ t n a, srecHeader (s.str piece) = some (t, n, a) → isDataType t = true →
          (SrecBeyond end_ t n a → SrecCaught start end_ s piece t n a) ∧
          (¬SrecBeyond end_ t n a → SrecShiftFits start end_ s piece t n a) := by
  constructor
  · intro hrange s piece hreach t n a hh ht
    rcases hrange with ⟨hstores, hrefuse⟩
    constructor
    · intro hb
      rcases hrefuse s piece hreach t n a hh ht hb with ⟨e, u, -, hrun, -, hst⟩
      exact caught_of_srecLine hh ht hrun hst
    · intro hb
      rcases hreach with ⟨pre, post, hsplit, hpre⟩
      have hline : ∀ p ∈ (srecLine start end_ piece s).2.stores, p.1 < end_ - start := by
        intro p hp
        apply hstores
        rw [srecRead_state, hsplit]
        exact srecLines_mono hpre p hp
      have hbefore : ∀ p ∈ s.stores, p.1 < end_ - start := by
        intro p hp
        rcases srecLine_stores start end_ s piece with ⟨new, hnew⟩
        apply hline
        rw [hnew]
        exact List.mem_append_left _ hp
      exact (srecLine_inRange_iff hend hh ht hb hbefore).mp hline
  · intro hlines
    constructor
    · rw [srecRead_state]
      refine srecLines_inRange hend _ _ (by simp [SrecState.init]) ?_
      intro pre piece post u hsplit hpre
      exact hlines u piece ⟨pre, post, hsplit, hpre⟩
    · intro s piece hreach t n a hh ht hb
      obtain ⟨e, u, he, hrun, hst⟩ :=
        srecLine_of_caught hh ht ((hlines s piece hreach t n a hh ht).1 hb)
      rcases hreach with ⟨pre, post, hsplit, hpre⟩
      refine ⟨e, u, he, hrun, ?_, hst⟩
      apply srecRead_of_error
      rw [hsplit]
      exact srecLines_error hpre hrun

/-- The S2 record with the byte 0x55 at the last address of the range, 0x80FF, is stored
at `buf[0x100]`, behind a buffer of 0x100 bytes. -/
theorem srecRead_shifts :
    ¬SrecStoresInRange (LineBuf.zero 515) (text "S2050080FF5526\n") 0x8000 0x8100 := by
  intro hrange
  have hmem : (0x100, 0x55) ∈ (srecRead (LineBuf.zero 515) (text "S2050080FF5526\n")
      0x8000 0x8100).2.stores := by decide +kernel
  exact absurd (hrange.1 _ hmem) (by decide)

/-- A file with one S1 record at the end of the range. -/
theorem srecRead_storesInRange_iff_last :
    SrecStoresInRange (LineBuf.zero 515) (text "S10480FF5527\n") 0x8000 0x8100 ↔
      ∀ s piece, SrecReaches (LineBuf.zero 515) (text "S10480FF5527\n") 0x8000 0x8100 s piece →
        ∀ t n a, srecHeader (s.str piece) = some (t, n, a) → isDataType t = true →
          (SrecBeyond 0x8100 t n a → SrecCaught 0x8000 0x8100 s piece t n a) ∧
          (¬SrecBeyond 0x8100 t n a → SrecShiftFits 0x8000 0x8100 s piece t n a) :=
  srecRead_storesInRange_iff _ _ _ _ (by decide)

end Stm8Flash
