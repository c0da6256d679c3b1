import Stm8Flash.Ihex.Write
import Stm8Flash.Srec.WellFormed

/-! # `srec_write`, and reading its text back

The S-record writer of `srec.c`. It ignores the results of `fprintf`; the text is the one
that comes out when all of them succeed. `srecWrite_records` says that the text is
well-formed but for one thing: the count record has 16 bits, so `srec_read` accepts the
text exactly when there are at most 65535 data records (`srecRead_srecWrite_iff`).
-/

namespace Stm8Flash

open Hex Stdio Word

/-- `data_rectype` and `addr_width`. -/
def srecDataRectype (end_ : Nat) : Nat × Nat :=
  if end_ ≥ 0x10000 then
    if end_ ≥ 0x1000000 then (3, 8) else (2, 6)
  else (1, 4)

/-- The data record for the chunk of `chunk_len` bytes at `chunk_start`. -/
def srecWriteChunk (buf : Nat → Byte) (start dataRectype addrWidth chunkStart chunkLen : Nat) :
    List Byte :=
  text "S" ++ printX 1 dataRectype ++ printX 2 (chunkLen + addrWidth / 2 + 1) ++
    printX addrWidth chunkStart ++
    printBytes (Image.slice buf (chunkStart - start) chunkLen) ++
    printX 2 (srecCsum (Image.slice buf (chunkStart - start) chunkLen)
      (chunkLen + addrWidth / 2 + 1) chunkStart) ++ text "\n"

/-- The `while(chunk_start < end)` loop: its text and `num_records` behind it. A chunk has
at least one byte, so `end - start` rounds are enough. -/
def srecWriteLoop (buf : Nat → Byte) (start end_ dataRectype addrWidth : Nat) :
    Nat → Nat → Nat → List Byte × Nat
  | 0, _, numRecords => ([], numRecords)
  | fuel + 1, chunkStart, numRecords =>
    if chunkStart < end_ then
      let chunkLen := sub32 end_ chunkStart
      let chunkLen := if chunkLen > 32 then 32 else chunkLen
      let rest := srecWriteLoop buf start end_ dataRectype addrWidth fuel
        (u32 (chunkStart + chunkLen)) (u32 (numRecords + 1))
      (srecWriteChunk buf start dataRectype addrWidth chunkStart chunkLen ++ rest.1, rest.2)
    else ([], numRecords)

/-- The text that `srec_write(pFile, buf, start, end)` writes. -/
def srecWrite (buf : Nat → Byte) (start end_ : Nat) : List Byte :=
  let (dataRectype, addrWidth) := srecDataRectype end_
  let (chunks, numRecords) :=
    srecWriteLoop buf start end_ dataRectype addrWidth (end_ - start) start 0
  text "S0030000FC\n" ++ chunks ++
    -- S5 record, for the count of data records
    text "S503" ++ printX 4 (numRecords &&& 0xffff) ++
    printX 2 (srecCsum [] 3 (numRecords &&& 0xffff)) ++ text "\n" ++
    -- end record
    text "S" ++ printX 1 (10 - dataRectype) ++ printX 2 (addrWidth / 2 + 1) ++
    printX addrWidth 0 ++ printX 2 (srecCsum [] (addrWidth / 2 + 1) 0) ++ text "\n"

/-! ## Records as text -/

namespace SrecRecord

/-- The record as a line in upper-case digits. -/
def print (r : SrecRecord) : List Byte :=
  ascii 'S' :: (printX 1 r.type ++ (printX 2 r.len ++
    ((printX (2 * srecAddrWidth r.type) r.addr ++ (printBytes r.data ++ printX 2 r.csum.toNat)) ++
      [ascii '\n'])))

theorem spells_print (r : SrecRecord) : r.Spells r.print where
  fields := by
    have ht := r.type_le
    have hl : r.len ≤ 255 := r.length_le
    have hw : 1 ≤ 2 * srecAddrWidth r.type := by
      unfold srecAddrWidth
      split_ifs <;> omega
    exact ⟨_, _, _, _, _, _, rfl, field_printX (by decide) (by omega),
      field_printX (by decide) (by omega), field_printX hw r.addr_lt, bytes_printBytes _,
      field_printX (by decide) r.csum.toNat_lt, Or.inr (Or.inl rfl)⟩

theorem print_getLast (r : SrecRecord) : r.print.getLast? = some (ascii '\n') := by
  have hsplit : r.print = (ascii 'S' :: (printX 1 r.type ++ (printX 2 r.len ++
      (printX (2 * srecAddrWidth r.type) r.addr ++ (printBytes r.data ++
        printX 2 r.csum.toNat))))) ++ [ascii '\n'] := by
    simp [print, List.append_assoc]
  rw [hsplit, List.getLast?_concat]

end SrecRecord

theorem srecCsum_lt (data : List Byte) (n a : Nat) : srecCsum data n a < 256 := LO_lt _

/-- The checksum completes the sum to 0xFF. -/
theorem srecCsum_sum (data : List Byte) (n a : Nat) :
    (n + addrSum a + byteSum data + srecCsum data n a) % 256 = 255 := by
  unfold srecCsum addrSum not32
  rw [LO_eq (4294967295 - _)]
  omega

theorem SrecRecord.make_sumRight {type addr : Nat} {data : List Byte} {h1 h2 h3} :
    (SrecRecord.make type addr data h1 h2 h3).SumRight := by
  have hsum := srecCsum_sum data (srecAddrWidth type + data.length + 1) addr
  unfold SrecRecord.SumRight
  simp only [make, len, ofNat_toNat_of_lt (srecCsum_lt _ _ _)]
  exact hsum

/-- A text of printed records. -/
theorem srecText_print (rs : List SrecRecord) :
    SrecText rs (rs.map SrecRecord.print).flatten := by
  induction rs with
  | nil => exact SrecText.nil
  | cons r rs ih => exact SrecText.cons r.spells_print r.print_getLast ih

/-! ## The records that come out -/

/-- Type and width of the data records go together, and the addresses of the range fit. -/
theorem srecDataRectype_spec (end_ : Nat) (hend : end_ < 4294967296) :
    ∃ t, srecDataRectype end_ = (t, 2 * srecAddrWidth t) ∧ isDataType t = true ∧
      srecAddrWidth (10 - t) = srecAddrWidth t ∧ end_ ≤ 16 ^ (2 * srecAddrWidth t) := by
  unfold srecDataRectype
  split_ifs with h16 h24
  · exact ⟨3, rfl, rfl, rfl, Nat.le_of_lt hend⟩
  · exact ⟨2, rfl, rfl, rfl, by simp [srecAddrWidth]; omega⟩
  · exact ⟨1, rfl, rfl, rfl, by simp [srecAddrWidth]; omega⟩

/-- The chunk is the text of a data record. -/
theorem srecWriteChunk_eq (buf : Nat → Byte) (start : Nat) {t chunkStart chunkLen : Nat}
    (htype : t ≤ 9) (haddr : chunkStart < 16 ^ (2 * srecAddrWidth t))
    (hlen : srecAddrWidth t + (Image.slice buf (chunkStart - start) chunkLen).length + 1 ≤ 255) :
    srecWriteChunk buf start t (2 * srecAddrWidth t) chunkStart chunkLen =
      (SrecRecord.make t chunkStart (Image.slice buf (chunkStart - start) chunkLen) htype haddr
        hlen).print := by
  have hhalf : 2 * srecAddrWidth t / 2 = srecAddrWidth t := by omega
  have hsum : chunkLen + srecAddrWidth t + 1 = srecAddrWidth t + chunkLen + 1 := by omega
  have hS : text "S" = [ascii 'S'] := rfl
  have hnl : text "\n" = [ascii '\n'] := rfl
  unfold srecWriteChunk SrecRecord.print
  simp only [SrecRecord.make, SrecRecord.len, Image.slice_length, hhalf, hsum, hS, hnl,
    ofNat_toNat_of_lt (srecCsum_lt _ _ _), List.append_assoc, List.cons_append, List.nil_append]

/-- The data records of `[chunkStart, end)` as the loop writes them: chunks of 32 bytes, and
the last one as long as it has to be. -/
inductive SrecChunked (buf : Nat → Byte) (start end_ t : Nat) : Nat → List SrecRecord → Prop
  | done {c : Nat} : end_ ≤ c → SrecChunked buf start end_ t c []
  | data {c n : Nat} {rs : List SrecRecord} : 0 < n → n ≤ 32 → c + n ≤ end_ →
      (n = 32 ∨ c + n = end_) → (htype : t ≤ 9) → (haddr : c < 16 ^ (2 * srecAddrWidth t)) →
      (hlen : srecAddrWidth t + (Image.slice buf (c - start) n).length + 1 ≤ 255) →
      SrecChunked buf start end_ t (c + n) rs →
      SrecChunked buf start end_ t c
        (SrecRecord.make t c (Image.slice buf (c - start) n) htype haddr hlen :: rs)

/-- What the loop has to say about the records of `[chunkStart, end)`. -/
structure SrecCovers (chunkStart end_ : Nat) (rs : List SrecRecord) : Prop where
  sum : ∀ r ∈ rs, r.SumRight
  data : ∀ r ∈ rs, r.IsData ∧ r.data ≠ []
  inRange : ∀ r ∈ rs, chunkStart ≤ r.addr ∧ r.addr + r.data.length ≤ end_
  length_eq : rs.length = (end_ - chunkStart + 31) / 32

/-- Behind the range there is nothing to say. -/
theorem SrecCovers.nil {chunkStart end_ : Nat} (h : end_ ≤ chunkStart) :
    SrecCovers chunkStart end_ [] where
  sum := by simp
  data := by simp
  inRange := by simp
  length_eq := by
    rw [List.length_nil]
    omega

/-- A chunk goes in front of the records behind it: it is a full one, or the last one. -/
theorem SrecCovers.cons {c end_ : Nat} {r : SrecRecord} {rs : List SrecRecord}
    (hsum : r.SumRight) (hdata : r.IsData) (haddr : r.addr = c) (hpos : 0 < r.data.length)
    (hend : c + r.data.length ≤ end_)
    (hlen : r.data.length = 32 ∨ r.data.length ≤ 32 ∧ c + r.data.length = end_)
    (h : SrecCovers (c + r.data.length) end_ rs) : SrecCovers c end_ (r :: rs) where
  sum := List.forall_mem_cons.mpr ⟨hsum, h.sum⟩
  data := List.forall_mem_cons.mpr ⟨⟨hdata, List.length_pos_iff.mp hpos⟩, h.data⟩
  inRange := by
    refine List.forall_mem_cons.mpr ⟨⟨Nat.le_of_eq haddr.symm, haddr ▸ hend⟩, fun q hq => ?_⟩
    have := h.inRange q hq
    omega
  length_eq := by
    rw [List.length_cons, h.length_eq]
    omega

theorem SrecChunked.covers {buf : Nat → Byte} {start end_ t c : Nat} {rs : List SrecRecord}
    (h : SrecChunked buf start end_ t c rs) (ht : isDataType t = true) :
    SrecCovers c end_ rs := by
  induction h with
  | done hend => exact SrecCovers.nil hend
  | @data c n rs hpos h32 hend hlast htype haddr hlen hrest ih =>
    have hdata : (Image.slice buf (c - start) n).length = n := Image.slice_length _ _ _
    refine SrecCovers.cons SrecRecord.make_sumRight ht rfl ?_ ?_ ?_ ?_
    · exact Nat.lt_of_lt_of_eq hpos hdata.symm
    · exact Nat.le_trans (Nat.add_le_add_left (Nat.le_of_eq hdata) _) hend
    · simp only [SrecRecord.make, hdata]
      omega
    · simp only [SrecRecord.make, hdata]
      exact ih

theorem srecWriteLoop_records (buf : Nat → Byte) (start : Nat) {end_ t : Nat}
    (hend : end_ < 4294967296) (ht : isDataType t = true)
    (hfit : end_ ≤ 16 ^ (2 * srecAddrWidth t)) {fuel chunkStart n : Nat}
    (hfuel : end_ - chunkStart ≤ fuel) (hn : n < 4294967296) :
    ∃ rs, srecWriteLoop buf start end_ t (2 * srecAddrWidth t) fuel chunkStart n =
        ((rs.map SrecRecord.print).flatten, u32 (n + rs.length)) ∧
      SrecChunked buf start end_ t chunkStart rs := by
  have hbounds := isDataType_bounds ht
  induction fuel generalizing chunkStart n with
  | zero =>
    refine ⟨[], ?_, SrecChunked.done (by omega)⟩
    rw [List.length_nil, Nat.add_zero, u32_of_lt hn]
    rfl
  | succ fuel ih =>
    unfold srecWriteLoop
    by_cases hlt : chunkStart < end_
    · rw [if_pos hlt, sub32_of_le (by omega) hend]
      simp only
      generalize hk : (if end_ - chunkStart > 32 then 32 else end_ - chunkStart) = k
      have hkle : 0 < k ∧ k ≤ 32 ∧ chunkStart + k ≤ end_ ∧ (k = 32 ∨ chunkStart + k = end_) := by
        rw [← hk]
        split_ifs <;> omega
      rcases hkle with ⟨hpos, hk32, hkend, hlast⟩
      have hw := srecAddrWidth_le t
      have hdata : (Image.slice buf (chunkStart - start) k).length = k := Image.slice_length _ _ _
      have hlen : srecAddrWidth t + (Image.slice buf (chunkStart - start) k).length + 1 ≤ 255 := by
        omega
      have ht9 : t ≤ 9 := by omega
      have haddr : chunkStart < 16 ^ (2 * srecAddrWidth t) := by omega
      have hchunk := srecWriteChunk_eq buf start ht9 haddr hlen
      obtain ⟨rs, hrest, hchunked⟩ := @ih (chunkStart + k) (u32 (n + 1))
        (by omega) (Nat.mod_lt _ (by decide))
      rw [u32_of_lt (by omega : chunkStart + k < 4294967296), hrest, hchunk]
      refine ⟨SrecRecord.make t chunkStart (Image.slice buf (chunkStart - start) k) ht9 haddr hlen ::
        rs, ?_, SrecChunked.data hpos hk32 hkend hlast ht9 haddr hlen hchunked⟩
      have hnum : u32 (u32 (n + 1) + rs.length) = u32 (n + (rs.length + 1)) := by
        unfold u32
        omega
      rw [hnum]
      rfl
    · rw [if_neg hlt]
      refine ⟨[], ?_, SrecChunked.done (by omega)⟩
      rw [List.length_nil, Nat.add_zero, u32_of_lt hn]
      rfl

/-- The header record. -/
def srecHeaderRecord : SrecRecord := SrecRecord.make 0 0 [] (by decide) (by decide) (by decide)

/-- The end record for data records of type `t`. -/
def srecEndRecord (t : Nat) (h : 10 - t ≤ 9) : SrecRecord :=
  SrecRecord.make (10 - t) 0 [] h (Nat.pow_pos (by decide)) (by
    have hw := srecAddrWidth_le (10 - t)
    rw [List.length_nil]
    omega)

/-- The records of the whole text: header, data, count modulo 2^16, and end. -/
theorem srecWrite_records (buf : Nat → Byte) (start : Nat) {end_ : Nat}
    (hend : end_ < 4294967296) :
    ∃ t rs, ∃ h : 10 - t ≤ 9, srecDataRectype end_ = (t, 2 * srecAddrWidth t) ∧
      isDataType t = true ∧ end_ ≤ 16 ^ (2 * srecAddrWidth t) ∧
      srecWrite buf start end_ = ((srecHeaderRecord :: (rs ++ [srecCountRecord (u32 rs.length),
        srecEndRecord t h])).map SrecRecord.print).flatten ∧
      SrecChunked buf start end_ t start rs := by
  rcases srecDataRectype_spec end_ hend with ⟨t, htype, ht, hw, hfit⟩
  have hbounds := isDataType_bounds ht
  obtain ⟨rs, hloop, hchunked⟩ := srecWriteLoop_records buf start hend ht hfit
    (Nat.le_refl (end_ - start)) (by decide : 0 < 4294967296)
  rw [Nat.zero_add] at hloop
  refine ⟨t, rs, by omega, htype, ht, hfit, ?_, hchunked⟩
  have hhead : text "S0030000FC\n" = srecHeaderRecord.print := by decide
  have hS : text "S" = [ascii 'S'] := rfl
  have hnl : text "\n" = [ascii '\n'] := rfl
  have hS5 : text "S503" = ascii 'S' :: (printX 1 5 ++ printX 2 3) := by decide
  have hhalf : 2 * srecAddrWidth t / 2 = srecAddrWidth t := by omega
  have hw5 : srecAddrWidth 5 = 2 := rfl
  unfold srecWrite
  rw [htype]
  simp only [hloop, List.map_cons, List.map_append, List.flatten_cons, List.flatten_append,
    List.map_nil, List.flatten_nil, List.append_nil, hhead, and_ffff]
  simp only [SrecRecord.print, srecCountRecord, srecEndRecord, SrecRecord.make, SrecRecord.len, hw,
    hw5, hS, hnl, hS5, hhalf, List.length_nil, Nat.add_zero, printBytes, List.map_nil,
    List.flatten_nil, ofNat_toNat_of_lt (srecCsum_lt _ _ _), List.append_assoc, List.cons_append,
    List.nil_append]

/-! ## Reading the text back -/

/-- What reading asks of the records of the whole text: the data records are those of the
range, and the count record has their number modulo 2^16. -/
structure SrecWritten (start end_ : Nat) (rs all : List SrecRecord) : Prop where
  covers : SrecCovers start end_ rs
  sum : ∀ r ∈ all, r.SumRight
  data : ∀ r ∈ all, r.IsData → r ∈ rs
  count : ∀ r ∈ all, r.type = 5 → r.data = [] ∧ r.addr = u32 rs.length % 65536
  counted : ∃ r ∈ all, r.type = 5
  number : (all.countP fun r => isDataType r.type) = rs.length

theorem srecWrite_written (buf : Nat → Byte) (start : Nat) {end_ : Nat}
    (hend : end_ < 4294967296) :
    ∃ rs all, srecWrite buf start end_ = (all.map SrecRecord.print).flatten ∧
      SrecWritten start end_ rs all := by
  obtain ⟨t, rs, h9, -, ht, -, htext, hchunked⟩ := srecWrite_records buf start hend
  have hcov := hchunked.covers ht
  have hbounds := isDataType_bounds ht
  have hf : isDataType (10 - t) = false := by
    rcases hd : isDataType (10 - t) with _ | _
    · rfl
    · have := isDataType_bounds hd
      omega
  have hfd : ¬(srecEndRecord t h9).IsData := by
    unfold SrecRecord.IsData
    rw [show (srecEndRecord t h9).type = 10 - t from rfl, hf]
    decide
  have hf5 : (srecEndRecord t h9).type ≠ 5 := by
    show 10 - t ≠ 5
    omega
  have hrs : ∀ r ∈ rs, r.type ≠ 5 := by
    intro r hr h
    have ht := (hcov.data r hr).1.bounds
    omega
  refine ⟨rs, _, htext, hcov, ?_, ?_, ?_, ⟨srecCountRecord (u32 rs.length), by simp, rfl⟩, ?_⟩
  · simp only [List.forall_mem_cons, List.forall_mem_append]
    exact ⟨SrecRecord.make_sumRight, hcov.sum, SrecRecord.make_sumRight, SrecRecord.make_sumRight,
      nofun⟩
  · simp only [List.forall_mem_cons, List.forall_mem_append]
    exact ⟨fun h => absurd h (by decide), fun _ hr _ => hr, fun h => absurd h Bool.false_ne_true,
      fun h => absurd h hfd, nofun⟩
  · simp only [List.forall_mem_cons, List.forall_mem_append]
    exact ⟨fun h => absurd h (by decide), fun r hr h => absurd h (hrs r hr),
      fun _ => ⟨rfl, rfl⟩, fun h => absurd h hf5, nofun⟩
  · have hdata : (rs.countP fun r => isDataType r.type) = rs.length :=
      List.countP_eq_length.mpr fun r hr => (hcov.data r hr).1
    have h0 : isDataType 0 = false := rfl
    have h5 : isDataType 5 = false := rfl
    simp [srecHeaderRecord, srecCountRecord, srecEndRecord, SrecRecord.make, h0, h5, hf, hdata]

section Written

variable {start end_ : Nat} {rs all : List SrecRecord}

theorem SrecWritten.inRange (h : SrecWritten start end_ rs all) :
    ∀ r ∈ all, r.IsData → ∀ k < r.data.length, start ≤ r.addr + k ∧ r.addr + k < end_ := by
  intro r hr hd k hk
  have := h.covers.inRange r (h.data r hr hd)
  omega

theorem SrecWritten.not_misread (h : SrecWritten start end_ rs all) :
    ∀ r ∈ all, ¬r.Misread := by
  rintro r hr ⟨ht, hempty, -⟩
  have hd : r.IsData := by
    unfold SrecRecord.IsData
    rw [ht]
    rfl
  exact (h.covers.data r (h.data r hr hd)).2 hempty

end Written

/-- `srec_read` accepts the text of `srec_write` when the count record holds the number of
data records. -/
theorem srecAccepts_srecWrite (line : LineBuf 516) (buf : Nat → Byte) {start end_ : Nat}
    (hend : end_ < 4294967296) :
    SrecAccepts line (srecWrite buf start end_) start end_ ↔
      (end_ - start + 31) / 32 = (end_ - start + 31) / 32 % 65536 := by
  obtain ⟨rs, all, htext, hw⟩ := srecWrite_written buf start hend
  obtain ⟨u, hrun, hcounts⟩ := srecLines_text hend (htext ▸ srecText_print all) hw.sum
    (fun r hr h => (hw.count r hr h).1) hw.inRange hw.not_misread (SrecState.init line)
  rw [srecAccepts_of_lines hrun]
  have hzero : (SrecState.init line).counts = (0, false, 0) := rfl
  rw [hzero] at hcounts
  -- what the three counters hold behind the last record
  have hnumber := tally_number all (c := (0, false, 0)) (by decide)
  have hexpected := @tally_expected all _ (fun r hr h => (hw.count r hr h).2)
    (0, false, 0) (fun hf => by cases hf)
  have hfound := (@tally_found all (0, false, 0)).mpr (Or.inr hw.counted)
  rw [← hcounts] at hnumber hexpected hfound
  have hlen := hw.covers.length_eq
  have hnum : u.numberOfRecords = u32 (0 + rs.length) := by
    rw [← hw.number]
    exact hnumber
  have hexp : u.expectedDataRecords = u32 rs.length % 65536 := hexpected hfound
  rw [hnum, hexp, Nat.zero_add, u32_of_lt (by omega), hlen]
  exact ⟨fun h => h hfound, fun h _ => h⟩

/-- `srec_read` accepts the text of `srec_write` with the same range exactly when the range
needs at most 65535 data records. -/
theorem srecRead_srecWrite_iff (line : LineBuf 516) (buf : Nat → Byte) {start end_ : Nat}
    (hend : end_ < 2 ^ 32) :
    SrecAccepts line (srecWrite buf start end_) start end_ ↔ end_ - start ≤ 65535 * 32 := by
  rw [srecAccepts_srecWrite line buf hend]
  omega

/-- A range of 2 MiB needs 65536 data records, and the count record says 0. -/
theorem srecRead_refuses_srecWrite :
    ¬SrecAccepts (LineBuf.zero 515) (srecWrite (fun _ => 0) 0 2097152) 0 2097152 := by
  rw [srecAccepts_srecWrite _ _ (by decide)]
  decide

/-- Four bytes across 0x10000, in S2 records. -/
theorem srecRead_srecWrite_iff_boundary :
    SrecAccepts (LineBuf.zero 515) (srecWrite (fun i => UInt8.ofNat (i + 1)) 0xFFFE 0x10002)
        0xFFFE 0x10002 ↔ 0x10002 - 0xFFFE ≤ 65535 * 32 :=
  srecRead_srecWrite_iff _ _ (by decide)

end Stm8Flash
