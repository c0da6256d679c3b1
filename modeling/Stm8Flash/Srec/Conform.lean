import Stm8Flash.Lib.Tiles
import Stm8Flash.Srec.Write

/-! # What `srec_write` writes is an S-record file

`SrecConforms` says, without the reader, when the lines of a text are a valid S-record file
for the buffer at `[start, end)`. `srecWrite_conforms`: the text of `srec_write` is one, in the
width that `end` asks for, as long as 16 bits can hold the number of data records.
-/

namespace Stm8Flash

open Hex Word

namespace SrecRecord

/-- The sum of the bytes that the address field shows. -/
def addrBytes (r : SrecRecord) : Nat :=
  ((List.range (srecAddrWidth r.type)).map fun i => r.addr / 256 ^ i % 256).sum

/-- The checksum is the ones complement of the low byte of the sum over length, address and
data. -/
def OnesComplement (r : SrecRecord) : Prop :=
  r.csum.toNat = 255 - (r.len + r.addrBytes + byteSum r.data) % 256

/-- Where a data record stands. -/
def piece (r : SrecRecord) : Nat × Nat := (r.addr, r.data.length)

end SrecRecord

/-- The smallest type of data records whose addresses reach `end`. -/
def srecType (end_ : Nat) : Nat :=
  if end_ < 2 ^ 16 then 1 else if end_ < 2 ^ 24 then 2 else 3

/-- The records are a valid S-record file for the buffer at `[start, end)`: an S0 record, the
data records `rs`, an S5 record with their number and the end record of their type, all with a
right checksum; the data records are of one type that can hold every address of the range, have
1 to 32 bytes, tile the range in order, and hold the bytes of the buffer. -/
structure SrecConforms (buf : Nat → Byte) (start end_ : Nat) (all : List SrecRecord) : Prop where
  sum : ∀ r ∈ all, r.OnesComplement
  type : isDataType (srecType end_) = true ∧ ∀ a < end_, a < 256 ^ srecAddrWidth (srecType end_)
  parts : ∃ header rs count fin, all = header :: (rs ++ [count, fin]) ∧
    (header.type = 0 ∧ header.addr = 0 ∧ header.data = []) ∧
    (∀ r ∈ rs, r.type = srecType end_ ∧ 0 < r.data.length ∧ r.data.length ≤ 32 ∧
      r.data = Image.slice buf (r.addr - start) r.data.length) ∧
    Tiles start end_ (rs.map SrecRecord.piece) ∧
    (count.type = 5 ∧ count.addr = rs.length ∧ count.data = []) ∧
    (fin.type = 10 - srecType end_ ∧ fin.addr = 0 ∧ fin.data = [])

/-- Every address of the range is in exactly one data record, any other in none. -/
theorem SrecConforms.once {buf : Nat → Byte} {start end_ : Nat} {all : List SrecRecord}
    (h : SrecConforms buf start end_ all) (x : Nat) :
    (all.countP fun r => r.IsData ∧ Tiles.Within x r.piece) =
      if start ≤ x ∧ x < end_ then 1 else 0 := by
  rcases h.parts with ⟨header, rs, count, fin, rfl, ⟨h0, -, -⟩, hrs, htiles, ⟨h5, -, -⟩, hfin, -, -⟩
  have ht := isDataType_bounds h.type.1
  have hskip : ∀ r : SrecRecord, (r.type = 0 ∨ r.type = 5 ∨ r.type = 10 - srecType end_) →
      ¬r.IsData := by
    intro r hr hd
    have := hd.bounds
    omega
  have hdata : ∀ r ∈ rs, (decide (r.IsData ∧ Tiles.Within x r.piece) = true ↔
      decide (Tiles.Within x r.piece) = true) := by
    intro r hr
    have hd : r.IsData := by
      unfold SrecRecord.IsData
      rw [(hrs r hr).1]
      exact h.type.1
    simp [hd]
  rw [List.countP_cons_of_neg (by simp [hskip header (Or.inl h0)]), List.countP_append,
    List.countP_congr hdata, List.countP_cons_of_neg (by simp [hskip count (Or.inr (Or.inl h5))]),
    List.countP_cons_of_neg (by simp [hskip fin (Or.inr (Or.inr hfin))]), List.countP_nil,
    Nat.add_zero, ← htiles.countP x, List.countP_map]
  rfl

/-! ## Checksums -/

/-- The four bytes that the writer adds are those that the address field shows. -/
theorem SrecRecord.addrBytes_eq (r : SrecRecord) : r.addrBytes = addrSum r.addr := by
  have hlt := r.addr_lt
  have hw : srecAddrWidth r.type = 2 ∨ srecAddrWidth r.type = 3 ∨ srecAddrWidth r.type = 4 := by
    unfold srecAddrWidth
    split_ifs <;> simp
  unfold addrBytes addrSum
  rw [LO_eq, HI_eq, EX_eq, EH_eq]
  rcases hw with hw | hw | hw
  · rw [hw] at hlt ⊢
    simp [List.range_succ]
    omega
  · rw [hw] at hlt ⊢
    simp [List.range_succ]
    omega
  · rw [hw] at hlt ⊢
    simp [List.range_succ]
    omega

theorem SrecRecord.SumRight.onesComplement {r : SrecRecord} (h : r.SumRight) :
    r.OnesComplement := by
  have hc := r.csum.toNat_lt
  unfold SumRight at h
  unfold OnesComplement
  rw [r.addrBytes_eq]
  omega

/-! ## The records of the writer -/

section Chunked

variable {buf : Nat → Byte} {start end_ t c : Nat} {rs : List SrecRecord}

theorem SrecChunked.fits (h : SrecChunked buf start end_ t c rs) :
    ∀ r ∈ rs, r.type = t ∧ 0 < r.data.length ∧ r.data.length ≤ 32 ∧
      r.data = Image.slice buf (r.addr - start) r.data.length := by
  induction h with
  | done _ => simp
  | data hpos h32 _ _ _ _ _ _ ih =>
    refine List.forall_mem_cons.mpr ⟨?_, ih⟩
    simp only [SrecRecord.make, Image.slice_length]
    exact ⟨trivial, hpos, h32, trivial⟩

/-- The chunks follow each other, from where the writer stands to the end. -/
theorem SrecChunked.tiles (h : SrecChunked buf start end_ t c rs) (hle : c ≤ end_) :
    Tiles c end_ (rs.map SrecRecord.piece) := by
  induction h with
  | @done c hend =>
    obtain rfl : c = end_ := by omega
    exact Tiles.nil
  | data hpos _ hend _ _ _ _ _ ih =>
    simp only [List.map_cons, SrecRecord.piece, SrecRecord.make, Image.slice_length]
    exact Tiles.cons hpos (ih hend)

end Chunked

/-- The writer's type is the smallest one that reaches `end`. -/
theorem srecDataRectype_type (end_ : Nat) : (srecDataRectype end_).1 = srecType end_ := by
  unfold srecDataRectype srecType
  split_ifs <;> first | rfl | omega

/-- The text of `srec_write` is a valid S-record file for the buffer. -/
theorem srecWrite_conforms (buf : Nat → Byte) {start end_ : Nat} (hlt : start < end_)
    (hend : end_ < 2 ^ 32) (hnum : (end_ - start + 31) / 32 ≤ 65535) :
    ∃ all, srecWrite buf start end_ = (all.map SrecRecord.print).flatten ∧
      SrecConforms buf start end_ all := by
  obtain ⟨t, rs, h9, hrect, ht, hfit, htext, hchunked⟩ := srecWrite_records buf start hend
  have htype : t = srecType end_ := by
    rw [← srecDataRectype_type, hrect]
  have hcov := hchunked.covers ht
  have hlen := hcov.length_eq
  refine ⟨_, htext, ?_, ?_, _, rs, _, _, rfl, ⟨rfl, rfl, rfl⟩, ?_,
    hchunked.tiles (Nat.le_of_lt hlt), ⟨rfl, ?_, rfl⟩, ?_, rfl, rfl⟩
  · intro r hr
    apply SrecRecord.SumRight.onesComplement
    simp only [List.mem_cons, List.mem_append, List.not_mem_nil, or_false] at hr
    rcases hr with rfl | hr | rfl | rfl
    · exact SrecRecord.make_sumRight
    · exact hcov.sum r hr
    · exact SrecRecord.make_sumRight
    · exact SrecRecord.make_sumRight
  · rw [← htype]
    refine ⟨ht, fun a ha => ?_⟩
    have hpow : 256 ^ srecAddrWidth t = 16 ^ (2 * srecAddrWidth t) := by
      rw [Nat.pow_mul]
    omega
  · rw [← htype]
    exact hchunked.fits
  · -- the number of records fits in 16 bits, so nothing is cut off
    show u32 rs.length % 65536 = rs.length
    rw [u32_of_lt (by omega)]
    omega
  · show 10 - t = 10 - srecType end_
    rw [htype]

/-- Seventy bytes across the boundary at 0x10000, in S2 records. -/
theorem srecWrite_conforms_boundary :
    ∃ all, srecWrite (fun i => UInt8.ofNat i) 0xFFF0 0x10036 =
        (all.map SrecRecord.print).flatten ∧
      SrecConforms (fun i => UInt8.ofNat i) 0xFFF0 0x10036 all :=
  srecWrite_conforms _ (by decide) (by decide) (by decide)

end Stm8Flash
