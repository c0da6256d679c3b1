import Stm8Flash.Lib.Hex
import Stm8Flash.Lib.Image
import Stm8Flash.Lib.Word

/-! # The Intel HEX format

What the format means, said without the reader: records (`IhexRecord`), the lines
that spell them (`IhexRecord.Line`), and the memory a sequence of records describes;
and the records that the writer of `ihex.c` emits, with its `checksum`.
An extended segment (02) or linear (04) address record sets the base of the data
records after it (`newBase`); the data bytes of a file are the stores `placements`,
and the image of a file is their last-writer-wins image.
-/

namespace Stm8Flash

open Hex Word

/-- A record `:LLAAAATTDD…DDCC`: address, type, data and checksum byte. The field `LL`
is the length of the data. -/
structure IhexRecord where
  addr : Nat
  type : Nat
  data : List Byte
  csum : Byte
  addr_lt : addr < 65536
  type_le : type ≤ 5
  length_le : data.length ≤ 255
  base_length : type = 2 ∨ type = 4 → data.length = 2

namespace IhexRecord

/-- `l` spells the record `r`, in fixed-width hex digits of either case. -/
structure Line (r : IhexRecord) (l : List Byte) : Prop where
  fields : ∃ ll aa tt dd cc, l = ascii ':' :: (ll ++ (aa ++ (tt ++ (dd ++ cc)))) ∧
    Field 2 r.data.length ll ∧ Field 4 r.addr aa ∧ Field 2 r.type tt ∧
    Bytes r.data dd ∧ Field 2 r.csum.toNat cc

/-- The record as `printf` writes it, in upper-case digits. -/
def print (r : IhexRecord) : List Byte :=
  ascii ':' :: (printX 2 r.data.length ++ (printX 4 r.addr ++ (printX 2 r.type ++
    (printBytes r.data ++ printX 2 r.csum.toNat))))

theorem line_print (r : IhexRecord) : r.Line r.print where
  fields := by
    have hlen := r.length_le
    have htype := r.type_le
    exact ⟨_, _, _, _, _, rfl, field_printX (by decide) (by omega),
      field_printX (by decide) (by have := r.addr_lt; omega),
      field_printX (by decide) (by omega), bytes_printBytes r.data,
      field_printX (by decide) r.csum.toNat_lt⟩

theorem Line.length_eq {r : IhexRecord} {l : List Byte} (h : r.Line l) :
    l.length = 11 + 2 * r.data.length := by
  rcases h.fields with ⟨ll, aa, tt, dd, cc, rfl, hll, haa, htt, hdd, hcc⟩
  simp only [List.length_cons, List.length_append, hll.length_eq, haa.length_eq, htt.length_eq,
    hdd.length_eq, hcc.length_eq]
  omega

/-- Every character of a record is a digit or the colon. -/
theorem Line.code_ge {r : IhexRecord} {l : List Byte} (h : r.Line l) : ∀ b ∈ l, 48 ≤ b.toNat := by
  rcases h.fields with ⟨ll, aa, tt, dd, cc, rfl, hll, haa, htt, hdd, hcc⟩
  intro b hb
  simp only [List.mem_cons, List.mem_append] at hb
  rcases hb with rfl | hb | hb | hb | hb | hb
  · decide
  · exact (isXDigit_range (hll.digits b hb)).1
  · exact (isXDigit_range (haa.digits b hb)).1
  · exact (isXDigit_range (htt.digits b hb)).1
  · exact (isXDigit_range (hdd.digits b hb)).1
  · exact (isXDigit_range (hcc.digits b hb)).1

theorem Line.no_newline {r : IhexRecord} {l : List Byte} (h : r.Line l) : ascii '\n' ∉ l :=
  fun hmem => absurd (h.code_ge _ hmem) (by decide)

theorem Line.no_nul {r : IhexRecord} {l : List Byte} (h : r.Line l) : (0 : Byte) ∉ l :=
  fun hmem => absurd (h.code_ge _ hmem) (by decide)

/-- The base address after the record, `base` before it. -/
def newBase (r : IhexRecord) (base : Nat) : Nat :=
  match r.data with
  | [a, b] =>
    if r.type = 2 then be16 a.toNat b.toNat * 16
    else if r.type = 4 then be16 a.toNat b.toNat * 65536
    else base
  | _ => base

/-- A data record with at least one byte. -/
def HasData (r : IhexRecord) : Prop := r.type = 0 ∧ r.data ≠ []

instance (r : IhexRecord) : Decidable r.HasData :=
  inferInstanceAs (Decidable (r.type = 0 ∧ r.data ≠ []))

/-- The bytes the record stores, with their addresses. -/
def bytesAt (r : IhexRecord) (base : Nat) : List (Nat × Byte) :=
  if r.type = 0 then Image.block (base + r.addr) r.data else []

theorem newBase_of_type {r : IhexRecord} (h2 : r.type ≠ 2) (h4 : r.type ≠ 4) (base : Nat) :
    r.newBase base = base := by
  unfold newBase
  split <;> simp [h2, h4]

end IhexRecord

/-- A text with LF line ends whose lines spell the records; the last LF may be left out. -/
def IhexText (rs : List IhexRecord) (file : List Byte) : Prop :=
  ∃ ls, List.Forall₂ IhexRecord.Line rs ls ∧
    (file = (ls.map (· ++ [ascii '\n'])).flatten ∨
      file ++ [ascii '\n'] = (ls.map (· ++ [ascii '\n'])).flatten)

/-! ## The records that are written -/

/-- `checksum(buf, length, chunk_len, chunk_addr, chunk_type)` of `ihex.c`, on the bytes
`buf[0 .. length - 1]`. -/
def ihexChecksum (data : List Byte) (chunkLen chunkAddr chunkType : Nat) : Nat :=
  let sum := data.foldl (fun sum b => sum + b.toNat)
    (chunkLen + LO chunkAddr + HI chunkAddr + chunkType)
  LO (u32 (not32 sum + 1))

/-- The extended linear address record the writer emits for `ela`. -/
def ihexElaRecord (ela : Nat) : IhexRecord where
  addr := 0
  type := 4
  data := [UInt8.ofNat (HI ela), UInt8.ofNat (LO ela)]
  csum := UInt8.ofNat (ihexChecksum [UInt8.ofNat (HI ela), UInt8.ofNat (LO ela)] 2 0 4)
  addr_lt := by decide
  type_le := by decide
  length_le := by simp
  base_length _ := rfl

/-- The data record the writer emits for the bytes `data` at `addr`. -/
def ihexDataRecord (addr : Nat) (data : List Byte) (h : data.length ≤ 255) : IhexRecord where
  addr := addr % 65536
  type := 0
  data := data
  csum := UInt8.ofNat (ihexChecksum data data.length addr 0)
  addr_lt := Nat.mod_lt _ (by decide)
  type_le := by decide
  length_le := h
  base_length h := by omega

/-- The end record. -/
def ihexEndRecord : IhexRecord where
  addr := 0
  type := 1
  data := []
  csum := 0xFF
  addr_lt := by decide
  type_le := by decide
  length_le := by simp
  base_length h := by omega

/-! ## The image of a sequence of records -/

/-- The data bytes of the records with their addresses, in file order. -/
def ihexPlacements : Nat → List IhexRecord → List (Nat × Byte)
  | _, [] => []
  | base, r :: rs => r.bytesAt base ++ ihexPlacements (r.newBase base) rs

/-- The greatest end address of a non-empty data record, `g` so far. -/
def ihexGreatest : Nat → Nat → List IhexRecord → Nat
  | _, g, [] => g
  | base, g, r :: rs =>
    ihexGreatest (r.newBase base)
      (if r.HasData then max g (base + r.addr + r.data.length) else g) rs

/-- Every non-empty data record lies in `[start, end)`, in exact arithmetic, and does
not cross its 64 KiB block. -/
def IhexInRange (start end_ : Nat) : Nat → List IhexRecord → Prop
  | _, [] => True
  | base, r :: rs =>
    (r.HasData → start ≤ base + r.addr ∧ base + r.addr + r.data.length ≤ end_ ∧
      r.addr + r.data.length ≤ 65536) ∧
    IhexInRange start end_ (r.newBase base) rs

/-- With a non-empty data record in range, the greatest end address lies above `start`
and not above `end`. -/
theorem ihexGreatest_bounds {start end_ base g : Nat} {rs : List IhexRecord}
    (hr : IhexInRange start end_ base rs) (hg : g ≤ end_)
    (hsome : start < g ∨ ∃ r ∈ rs, r.HasData) :
    start < ihexGreatest base g rs ∧ ihexGreatest base g rs ≤ end_ := by
  induction rs generalizing base g with
  | nil =>
    obtain h | ⟨r, hmem, _⟩ := hsome
    · exact ⟨h, hg⟩
    · simp at hmem
  | cons r rs ih =>
    rcases hr with ⟨hhead, htail⟩
    unfold ihexGreatest
    -- a data record moves the greatest address above `start`, any other keeps it
    by_cases hd : r.HasData
    · rcases hhead hd with ⟨h1, h2, _⟩
      have hpos : 0 < r.data.length := List.length_pos_iff.mpr hd.2
      rw [if_pos hd]
      exact ih htail (by omega) (Or.inl (by omega))
    · rw [if_neg hd]
      refine ih htail hg ?_
      obtain h | ⟨r', hmem, hd'⟩ := hsome
      · exact Or.inl h
      · rcases List.mem_cons.mp hmem with rfl | hmem
        · exact absurd hd' hd
        · exact Or.inr ⟨r', hmem, hd'⟩

/-- Every placed byte lies at or above `start` and below `end`. -/
theorem ihexPlacements_range {start end_ base : Nat} {rs : List IhexRecord}
    (hr : IhexInRange start end_ base rs) :
    ∀ p ∈ ihexPlacements base rs, start ≤ p.1 ∧ p.1 < end_ := by
  induction rs generalizing base with
  | nil => simp [ihexPlacements]
  | cons r rs ih =>
    rcases hr with ⟨hhead, htail⟩
    intro p hp
    unfold ihexPlacements at hp
    rcases List.mem_append.mp hp with hp | hp
    · unfold IhexRecord.bytesAt at hp
      split at hp
      · rename_i htype
        rcases Image.mem_block.mp hp with ⟨k, hk, rfl⟩
        have hne : r.data ≠ [] := by
          intro e
          simp [e] at hk
        rcases hhead ⟨htype, hne⟩ with ⟨h1, h2, _⟩
        simp only
        omega
      · simp at hp
    · exact ih htail p hp

end Stm8Flash
