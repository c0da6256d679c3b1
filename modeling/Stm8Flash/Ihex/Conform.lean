import Stm8Flash.Ihex.Write
import Stm8Flash.Lib.Tiles

/-! # What `ihex_write` writes is Intel HEX

`IhexConforms` says, without the reader, when records are a valid file for the buffer at
`[start, end)`. `ihexWrite_conforms`: the text of `ihex_write` spells such records, whatever
the alignment of `start` and however many 64 KiB boundaries the range crosses.
-/

namespace Stm8Flash

open Hex Word

namespace IhexRecord

/-- All bytes of the record add up to 0 modulo 256. -/
def SumZero (r : IhexRecord) : Prop :=
  (r.data.length + (r.addr / 256 + r.addr % 256) + r.type + byteSum r.data + r.csum.toNat) % 256 = 0

end IhexRecord

/-- The data records with their full addresses: the base is that of the latest address record,
and `base` before the first one. -/
def ihexChunks : Nat → List IhexRecord → List (Nat × List Byte)
  | _, [] => []
  | base, r :: rs =>
    (if r.type = 0 then [(base + r.addr, r.data)] else []) ++ ihexChunks (r.newBase base) rs

/-- Where the chunks stand. -/
def chunkPieces (chunks : List (Nat × List Byte)) : List (Nat × Nat) :=
  chunks.map fun c => (c.1, c.2.length)

/-- The records are a valid Intel HEX file for the buffer at `[start, end)`: each has a right
checksum; there are data records, 04 records and the 01 record in the last line; the data
records have 1 to 32 bytes, do not cross a 64 KiB boundary, tile the range in order, and hold
the bytes of the buffer. -/
structure IhexConforms (buf : Nat → Byte) (start end_ : Nat) (rs : List IhexRecord) : Prop where
  sum : ∀ r ∈ rs, r.SumZero
  last : ∃ pre e, rs = pre ++ [e] ∧ e.type = 1 ∧ e.data = [] ∧ ∀ r ∈ pre, r.type = 0 ∨ r.type = 4
  size : ∀ r ∈ rs, r.type = 0 → 0 < r.data.length ∧ r.data.length ≤ 32
  block : ∀ r ∈ rs, r.type = 0 → r.addr + r.data.length ≤ 65536
  tiles : Tiles start end_ (chunkPieces (ihexChunks 0 rs))
  bytes : ∀ c ∈ ihexChunks 0 rs, c.2 = Image.slice buf (c.1 - start) c.2.length

/-- Every address of the range is in exactly one data record, any other in none. -/
theorem IhexConforms.once {buf : Nat → Byte} {start end_ : Nat} {rs : List IhexRecord}
    (h : IhexConforms buf start end_ rs) (x : Nat) :
    ((chunkPieces (ihexChunks 0 rs)).countP fun p => Tiles.Within x p) =
      if start ≤ x ∧ x < end_ then 1 else 0 := h.tiles.countP x

/-! ## Checksums -/

theorem foldl_byteSum (data : List Byte) (n : Nat) :
    data.foldl (fun sum b => sum + b.toNat) n = n + byteSum data := by
  induction data generalizing n with
  | nil => rfl
  | cons b data ih =>
    rw [List.foldl_cons, ih, byteSum_cons]
    omega

/-- The checksum of the writer completes the sum to 0. -/
theorem ihexChecksum_sum (data : List Byte) (n a t : Nat) :
    (n + a % 256 + a / 256 % 256 + t + byteSum data + ihexChecksum data n a t) % 256 = 0 := by
  unfold ihexChecksum not32 u32
  simp only
  rw [foldl_byteSum, LO_eq, LO_eq, HI_eq]
  omega

theorem ihexElaRecord_sumZero (ela : Nat) : (ihexElaRecord ela).SumZero := by
  have hsum := ihexChecksum_sum [UInt8.ofNat (HI ela), UInt8.ofNat (LO ela)] 2 0 4
  unfold IhexRecord.SumZero
  simp only [ihexElaRecord, ofNat_toNat_of_lt (ihexChecksum_lt _ _ _ _)]
  simp only [List.length_cons, List.length_nil]
  omega

theorem ihexDataRecord_sumZero (addr : Nat) (data : List Byte) (h : data.length ≤ 255) :
    (ihexDataRecord addr data h).SumZero := by
  have hsum := ihexChecksum_sum data data.length addr 0
  unfold IhexRecord.SumZero
  simp only [ihexDataRecord, ofNat_toNat_of_lt (ihexChecksum_lt _ _ _ _)]
  omega

theorem ihexEndRecord_sumZero : ihexEndRecord.SumZero := by
  unfold IhexRecord.SumZero
  decide

/-! ## The records of the writer -/

section Written

variable {buf : Nat → Byte} {start end_ chunkStart base : Nat} {rs : List IhexRecord}

theorem IhexWritten.sum (h : IhexWritten buf start end_ chunkStart base rs) :
    ∀ r ∈ rs, r.SumZero := by
  induction h with
  | done _ => simpa using ihexEndRecord_sumZero
  | ela _ _ ih => exact List.forall_mem_cons.mpr ⟨ihexElaRecord_sumZero _, ih⟩
  | data _ _ _ _ _ hlen _ ih => exact List.forall_mem_cons.mpr ⟨ihexDataRecord_sumZero _ _ hlen, ih⟩

theorem IhexWritten.last (h : IhexWritten buf start end_ chunkStart base rs) :
    ∃ pre e, rs = pre ++ [e] ∧ e.type = 1 ∧ e.data = [] ∧
      ∀ r ∈ pre, r.type = 0 ∨ r.type = 4 := by
  induction h with
  | done _ => exact ⟨[], ihexEndRecord, rfl, rfl, rfl, by simp⟩
  | ela _ _ ih =>
    rcases ih with ⟨pre, e, rfl, htype, hdata, hpre⟩
    exact ⟨_ :: pre, e, rfl, htype, hdata, List.forall_mem_cons.mpr ⟨Or.inr rfl, hpre⟩⟩
  | data _ _ _ _ _ _ _ ih =>
    rcases ih with ⟨pre, e, rfl, htype, hdata, hpre⟩
    exact ⟨_ :: pre, e, rfl, htype, hdata, List.forall_mem_cons.mpr ⟨Or.inl rfl, hpre⟩⟩

/-- A data record holds one chunk, in its block. -/
theorem IhexWritten.fits (h : IhexWritten buf start end_ chunkStart base rs) :
    ∀ r ∈ rs, r.type = 0 → (0 < r.data.length ∧ r.data.length ≤ 32) ∧
      r.addr + r.data.length ≤ 65536 := by
  induction h with
  | done _ => simp [ihexEndRecord]
  | ela _ _ ih => exact List.forall_mem_cons.mpr ⟨fun htype => absurd htype (show 4 ≠ 0 by decide), ih⟩
  | data hpos h32 _ _ hblock _ _ ih =>
    refine List.forall_mem_cons.mpr ⟨fun _ => ?_, ih⟩
    simp only [ihexDataRecord, Image.slice_length]
    exact ⟨⟨hpos, h32⟩, hblock⟩

/-- The chunks follow each other, from where the writer stands to the end. -/
theorem IhexWritten.chunks (h : IhexWritten buf start end_ chunkStart base rs)
    (hle : chunkStart ≤ end_) :
    Tiles chunkStart end_ (chunkPieces (ihexChunks base rs)) ∧
      ∀ c ∈ ihexChunks base rs, c.2 = Image.slice buf (c.1 - start) c.2.length := by
  induction h with
  | @done c base hend =>
    obtain rfl : c = end_ := by omega
    exact ⟨Tiles.nil, by simp [ihexChunks, ihexEndRecord]⟩
  | ela he _ ih =>
    rw [ihexChunks, ihexElaRecord_newBase he]
    exact ih hle
  | @data c n rs hpos _ _ hend _ hlen _ ih =>
    rcases ih hend with ⟨htiles, hbytes⟩
    have haddr : c / 65536 * 65536 + c % 65536 = c := by omega
    have hhead : ihexChunks (c / 65536 * 65536)
        (ihexDataRecord c (Image.slice buf (c - start) n) hlen :: rs) =
        (c, Image.slice buf (c - start) n) :: ihexChunks (c / 65536 * 65536) rs := by
      rw [ihexChunks, ihexDataRecord_newBase]
      simp only [ihexDataRecord, haddr]
      rfl
    rw [hhead]
    constructor
    · simp only [chunkPieces, List.map_cons, Image.slice_length]
      exact Tiles.cons hpos htiles
    · refine List.forall_mem_cons.mpr ⟨?_, hbytes⟩
      rw [Image.slice_length]

end Written

/-- The text of `ihex_write` is a valid Intel HEX file for the buffer. -/
theorem ihexWrite_conforms (buf : Nat → Byte) {start end_ : Nat} (hlt : start < end_)
    (hend : end_ < 2 ^ 32) :
    ∃ rs, ihexWrite (fun _ => false) buf start end_ = (0, ihexPrint rs) ∧
      IhexConforms buf start end_ rs := by
  rcases ihexWrite_written buf start hend with ⟨rs, hwrite, hwritten⟩
  rcases hwritten.chunks (Nat.le_of_lt hlt) with ⟨htiles, hbytes⟩
  refine ⟨rs, hwrite, hwritten.sum, hwritten.last, ?_, ?_, htiles, hbytes⟩
  · exact fun r hr htype => (hwritten.fits r hr htype).1
  · exact fun r hr htype => (hwritten.fits r hr htype).2

/-- Seventy bytes across the boundary at 0x10000. -/
theorem ihexWrite_conforms_boundary :
    ∃ rs, ihexWrite (fun _ => false) (fun i => UInt8.ofNat i) 0xFFF0 0x10036 =
        (0, ihexPrint rs) ∧
      IhexConforms (fun i => UInt8.ofNat i) 0xFFF0 0x10036 rs :=
  ihexWrite_conforms _ (by decide) (by decide)

end Stm8Flash
