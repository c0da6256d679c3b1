import Stm8Flash.Ihex.Decode

/-! # `ihex_write` and the round trip

The Intel HEX writer of `ihex.c`. The file written to is the list of bytes that came
out so far; whether the `n`-th `fprintf` succeeds is an input of the model, as the
function returns early when one does not. Without such a failure the text spells the
records of the buffer (`ihexWrite_text`), and reading it back restores the buffer
(`ihex_roundTrip`).
-/

namespace Stm8Flash

open Hex Stdio Word

/-- A file open for writing: what came out, and how many `fprintf` calls were made. -/
structure OutFile where
  out : List Byte
  calls : Nat

/-- `fprintf(pFile, …)` of a text: `true` when the result is not negative. -/
def fprintf {ε : Type} (fails : Nat → Bool) (t : List Byte) : Drv OutFile ε Bool := fun f =>
  if fails f.calls then (.ok false, { f with calls := f.calls + 1 })
  else (.ok true, { out := f.out ++ t, calls := f.calls + 1 })

/-- The message before `-1` is returned. -/
inductive IhexWriteError where
  /-- `I/O error during IHEX write` -/
  | io
deriving DecidableEq, Repr

/-- `fprintf`, with a return when it fails. -/
def fprintfOrStop (fails : Nat → Bool) (t : List Byte) : Drv OutFile IhexWriteError Unit := do
  if ← fprintf fails t then pure () else Drv.stop .io

/-- The length of the next chunk: at most 32 bytes, and not past the 64 KiB block. -/
def ihexChunkLen (chunkStart end_ : Nat) : Nat :=
  let chunkLen := sub32 end_ chunkStart
  let chunkLen := if chunkLen > 32 then 32 else chunkLen
  if (chunkStart &&& 0xffff) + chunkLen > 0xffff then 0x10000 - (chunkStart &&& 0xffff)
  else chunkLen

/-- The extended linear address record for the block `ela`. -/
def ihexWriteEla (fails : Nat → Bool) (ela : Nat) : Drv OutFile IhexWriteError Unit :=
  fprintfOrStop fails (text ":02000004" ++ printX 4 ela ++
    printX 2 (ihexChecksum [UInt8.ofNat (HI ela), UInt8.ofNat (LO ela)] 2 0 4) ++ text "\n")

/-- The data record of the chunk; the result of the first `fprintf` is not looked at. -/
def ihexWriteChunk (fails : Nat → Bool) (buf : Nat → Byte) (start chunkStart chunkLen : Nat) :
    Drv OutFile IhexWriteError Unit := do
  let _ ← fprintf fails
    (text ":" ++ printX 2 chunkLen ++ printX 4 (chunkStart &&& 0xffff) ++ text "00")
  Drv.forEach (fun b => fprintfOrStop fails (printX 2 b.toNat))
    (Image.slice buf (chunkStart - start) chunkLen)
  fprintfOrStop fails (printX 2 (ihexChecksum (Image.slice buf (chunkStart - start) chunkLen)
    chunkLen chunkStart 0) ++ text "\n")

/-- The `while(chunk_start < end)` loop. A chunk has at least one byte, so `end - start`
rounds are enough (`ihexChunkLen_bounds`). For the comparison `cur_ela` is converted to
`unsigned int`. -/
def ihexWriteLoop (fails : Nat → Bool) (buf : Nat → Byte) (start end_ : Nat) :
    Nat → Nat → Int → Drv OutFile IhexWriteError Unit
  | 0, _, _ => pure ()
  | fuel + 1, chunkStart, curEla =>
    if chunkStart < end_ then
      (if ofInt32 curEla ≠ chunkStart >>> 16
        then ihexWriteEla fails (chunkStart >>> 16) else pure ()) >>= fun _ =>
      ihexWriteChunk fails buf start chunkStart (ihexChunkLen chunkStart end_) >>= fun _ =>
      ihexWriteLoop fails buf start end_ fuel
        (u32 (chunkStart + ihexChunkLen chunkStart end_)) ((chunkStart >>> 16 : Nat) : Int)
    else pure ()

/-- `ihex_write(pFile, buf, start, end)`. -/
def ihexWriteBody (fails : Nat → Bool) (buf : Nat → Byte) (start end_ : Nat) :
    Drv OutFile IhexWriteError Unit := do
  ihexWriteLoop fails buf start end_ (end_ - start) start (if end_ > 65535 then -1 else 0)
  fprintfOrStop fails (text ":00000001FF\n")

/-- The value returned by `ihex_write` and the text it wrote. -/
def ihexWrite (fails : Nat → Bool) (buf : Nat → Byte) (start end_ : Nat) : Int × List Byte :=
  match ihexWriteBody fails buf start end_ { out := [], calls := 0 } with
  | (.ok _, f) => (0, f.out)
  | (.error _, f) => (-1, f.out)

/-! ## Text that comes out when no `fprintf` fails -/

/-- Without failures the program writes `t` and returns. -/
def Emits {α : Type} (m : Drv OutFile IhexWriteError α) (t : List Byte) : Prop :=
  ∀ f, ∃ a c, m f = (.ok a, { out := f.out ++ t, calls := c })

theorem Emits.bind {α β : Type} {m : Drv OutFile IhexWriteError α}
    {k : α → Drv OutFile IhexWriteError β} {t u : List Byte} (hm : Emits m t)
    (hk : ∀ a, Emits (k a) u) : Emits (m >>= k) (t ++ u) := by
  intro f
  rcases hm f with ⟨a, c, hrun⟩
  obtain ⟨b, d, hrun'⟩ := hk a { out := f.out ++ t, calls := c }
  exact ⟨b, d, by rw [Drv.bind_ok hrun, hrun', List.append_assoc]⟩

theorem Emits.pure : Emits (pure () : Drv OutFile IhexWriteError Unit) [] :=
  fun f => ⟨(), f.calls, by simp⟩

theorem Emits.fprintf (t : List Byte) : Emits (fprintf (fun _ => false) t) t :=
  fun f => ⟨true, f.calls + 1, rfl⟩

theorem Emits.fprintfOrStop (t : List Byte) : Emits (fprintfOrStop (fun _ => false) t) t :=
  fun f => ⟨(), f.calls + 1, rfl⟩

theorem Emits.forEach {ι : Type} {body : ι → Drv OutFile IhexWriteError Unit}
    {t : ι → List Byte} (h : ∀ x, Emits (body x) (t x)) (xs : List ι) :
    Emits (Drv.forEach body xs) (xs.map t).flatten := by
  induction xs with
  | nil => exact Emits.pure
  | cons x xs ih => exact (h x).bind fun _ => ih

/-! ## The records that come out -/

theorem ihexChecksum_lt (data : List Byte) (a b c : Nat) : ihexChecksum data a b c < 256 := by
  unfold ihexChecksum
  rw [LO_eq]
  omega

theorem and_ffff (x : Nat) : x &&& 0xffff = x % 65536 := Nat.and_two_pow_sub_one_eq_mod x 16

/-- A chunk is not empty, has at most 32 bytes, and stays below `end` and in its block. -/
theorem ihexChunkLen_bounds {chunkStart end_ : Nat} (h : chunkStart < end_)
    (hend : end_ < 4294967296) :
    0 < ihexChunkLen chunkStart end_ ∧ ihexChunkLen chunkStart end_ ≤ 32 ∧
      chunkStart + ihexChunkLen chunkStart end_ ≤ end_ ∧
      chunkStart % 65536 + ihexChunkLen chunkStart end_ ≤ 65536 := by
  unfold ihexChunkLen
  rw [sub32_of_le (by omega) hend, and_ffff]
  simp only
  split_ifs <;> omega

theorem ihexElaRecord_newBase {ela : Nat} (h : ela < 65536) (base : Nat) :
    (ihexElaRecord ela).newBase base = ela * 65536 := by
  have hbytes : be16 (HI ela % 256) (LO ela % 256) = ela := by
    rw [be16, HI_eq, LO_eq]
    omega
  simp [IhexRecord.newBase, ihexElaRecord, hbytes]

theorem ihexDataRecord_newBase (addr : Nat) {data : List Byte} (h : data.length ≤ 255)
    (base : Nat) : (ihexDataRecord addr data h).newBase base = base :=
  IhexRecord.newBase_of_type (by simp [ihexDataRecord]) (by simp [ihexDataRecord]) base

/-- Four digits are the two digits of each byte. -/
theorem printX_four {e : Nat} (h : e < 65536) :
    printX 4 e = printBytes [UInt8.ofNat (HI e), UInt8.ofNat (LO e)] := by
  have hhi : (UInt8.ofNat (HI e)).toNat = e / 256 := by
    rw [UInt8.toNat_ofNat', HI_eq]
    omega
  have hlo : (UInt8.ofNat (LO e)).toNat = e % 256 := by
    rw [UInt8.toNat_ofNat', LO_eq]
    omega
  simp only [printBytes, List.map_cons, List.map_nil, List.flatten_cons, List.flatten_nil, hhi, hlo]
  rw [printX_eq_fixed (by decide) (by omega), printX_eq_fixed (by decide) (by omega),
    printX_eq_fixed (by decide) (by omega)]
  have h1 : e / 16 / 16 / 16 % 16 = e / 256 / 16 % 16 := by omega
  have h2 : e / 16 / 16 % 16 = e / 256 % 16 := by omega
  have h3 : e / 16 % 16 = e % 256 / 16 % 16 := by omega
  have h4 : e % 16 = e % 256 % 16 := by omega
  simp only [fixed, h1, h2, h3, ← h4, List.nil_append, List.append_assoc, List.append_nil]

theorem ihexWriteEla_emits {ela : Nat} (h : ela < 65536) :
    Emits (ihexWriteEla (fun _ => false) ela) ((ihexElaRecord ela).print ++ [ascii '\n']) := by
  -- the literal `:02000004` is the head of the record
  have htext : text ":02000004" ++ printX 4 ela ++ printX 2 (ihexChecksum
      [UInt8.ofNat (HI ela), UInt8.ofNat (LO ela)] 2 0 4) ++ text "\n" =
      (ihexElaRecord ela).print ++ [ascii '\n'] := by
    have hcsum := ihexChecksum_lt [UInt8.ofNat (HI ela), UInt8.ofNat (LO ela)] 2 0 4
    have hhead : text ":02000004" = ascii ':' :: (printX 2 2 ++ (printX 4 0 ++ printX 2 4)) := by
      decide
    rw [hhead, printX_four h]
    simp only [IhexRecord.print, ihexElaRecord, UInt8.toNat_ofNat', Nat.mod_eq_of_lt hcsum,
      List.length_cons, List.length_nil, List.cons_append, List.append_assoc]
    rfl
  rw [← htext]
  exact Emits.fprintfOrStop _

theorem ihexWriteChunk_emits (buf : Nat → Byte) {start chunkStart chunkLen : Nat}
    (h : (Image.slice buf (chunkStart - start) chunkLen).length ≤ 255) :
    Emits (ihexWriteChunk (fun _ => false) buf start chunkStart chunkLen)
      ((ihexDataRecord chunkStart (Image.slice buf (chunkStart - start) chunkLen) h).print ++
        [ascii '\n']) := by
  have hcsum := ihexChecksum_lt (Image.slice buf (chunkStart - start) chunkLen) chunkLen
    chunkStart 0
  -- three calls of `fprintf`: the head, one for each byte, the checksum
  have hemit := (Emits.fprintf (text ":" ++ printX 2 chunkLen ++
      printX 4 (chunkStart &&& 0xffff) ++ text "00")).bind fun _ =>
    (Emits.forEach (fun b => Emits.fprintfOrStop (printX 2 (b : Byte).toNat))
      (Image.slice buf (chunkStart - start) chunkLen)).bind fun _ =>
    Emits.fprintfOrStop (printX 2 (ihexChecksum
      (Image.slice buf (chunkStart - start) chunkLen) chunkLen chunkStart 0) ++ text "\n")
  have htext : (ihexDataRecord chunkStart (Image.slice buf (chunkStart - start) chunkLen)
      h).print ++ [ascii '\n'] = (text ":" ++ printX 2 chunkLen ++ printX 4 (chunkStart &&& 0xffff) ++
        text "00") ++ (((Image.slice buf (chunkStart - start) chunkLen).map
          fun b => printX 2 b.toNat).flatten ++ (printX 2 (ihexChecksum
        (Image.slice buf (chunkStart - start) chunkLen) chunkLen chunkStart 0) ++ text "\n")) := by
    have hzero : text "00" = printX 2 0 := by decide
    have hcolon : text ":" = [ascii ':'] := rfl
    have hnl : text "\n" = [ascii '\n'] := rfl
    simp only [IhexRecord.print, ihexDataRecord, printBytes, UInt8.toNat_ofNat', Image.slice_length,
      Nat.mod_eq_of_lt hcsum, and_ffff, hzero, hcolon, hnl, List.cons_append, List.nil_append,
      List.append_assoc]
  rw [htext]
  exact hemit

/-- The lines of records, each with its line feed. -/
def ihexPrint (rs : List IhexRecord) : List Byte :=
  (rs.map fun r => r.print ++ [ascii '\n']).flatten

/-- The records that the writer emits for the range `[chunkStart, end)`, read from the base
`base` on: an address record sets the base, and every data record stands on the base of its
64 KiB block. -/
inductive IhexWritten (buf : Nat → Byte) (start end_ : Nat) : Nat → Nat → List IhexRecord → Prop
  | done {chunkStart base : Nat} :
      end_ ≤ chunkStart → IhexWritten buf start end_ chunkStart base [ihexEndRecord]
  | ela {chunkStart base ela : Nat} {rs : List IhexRecord} :
      ela < 65536 → IhexWritten buf start end_ chunkStart (ela * 65536) rs →
      IhexWritten buf start end_ chunkStart base (ihexElaRecord ela :: rs)
  | data {chunkStart n : Nat} {rs : List IhexRecord} :
      0 < n → n ≤ 32 → start ≤ chunkStart → chunkStart + n ≤ end_ →
      chunkStart % 65536 + n ≤ 65536 →
      (hlen : (Image.slice buf (chunkStart - start) n).length ≤ 255) →
      IhexWritten buf start end_ (chunkStart + n) (chunkStart / 65536 * 65536) rs →
      IhexWritten buf start end_ chunkStart (chunkStart / 65536 * 65536)
        (ihexDataRecord chunkStart (Image.slice buf (chunkStart - start) n) hlen :: rs)

/-- What the records of the range `[chunkStart, end)` have to say, read from the base `base`
on: they place the bytes of the buffer at their addresses, in range, and the greatest end
address is `end`. -/
structure IhexCovers (buf : Nat → Byte) (start chunkStart end_ base : Nat)
    (rs : List IhexRecord) : Prop where
  inRange : IhexInRange start end_ base rs
  placements : ihexPlacements base rs =
    Image.block chunkStart (Image.slice buf (chunkStart - start) (end_ - chunkStart))
  greatest : ∀ g ≤ end_, ihexGreatest base g rs = if chunkStart < end_ then end_ else g
  hasData : chunkStart < end_ → ∃ r ∈ rs, r.HasData

/-- An address record that sets the base the rest is read from. -/
theorem IhexCovers.cons_ela {buf : Nat → Byte} {start chunkStart end_ base ela : Nat}
    {rs : List IhexRecord} (he : ela < 65536)
    (h : IhexCovers buf start chunkStart end_ (ela * 65536) rs) :
    IhexCovers buf start chunkStart end_ base (ihexElaRecord ela :: rs) := by
  have hbase := ihexElaRecord_newBase he base
  have hnd : ¬(ihexElaRecord ela).HasData := by simp [IhexRecord.HasData, ihexElaRecord]
  have hnone : (ihexElaRecord ela).bytesAt base = [] := by
    simp [IhexRecord.bytesAt, ihexElaRecord]
  constructor
  · exact ⟨fun hd => absurd hd hnd, by rw [hbase]; exact h.inRange⟩
  · rw [ihexPlacements, hnone, hbase, List.nil_append, h.placements]
  · intro g hg
    rw [ihexGreatest, if_neg hnd, hbase, h.greatest g hg]
  · intro hlt
    rcases h.hasData hlt with ⟨r, hmem, hd⟩
    exact ⟨r, List.mem_cons_of_mem _ hmem, hd⟩

/-- One chunk in front of the rest. -/
theorem IhexCovers.cons_data {buf : Nat → Byte} {start chunkStart n end_ : Nat}
    {rs : List IhexRecord} (hn : 0 < n) (hstart : start ≤ chunkStart)
    (hend : chunkStart + n ≤ end_) (hblock : chunkStart % 65536 + n ≤ 65536)
    (hlen : (Image.slice buf (chunkStart - start) n).length ≤ 255)
    (h : IhexCovers buf start (chunkStart + n) end_ (chunkStart / 65536 * 65536) rs) :
    IhexCovers buf start chunkStart end_ (chunkStart / 65536 * 65536)
      (ihexDataRecord chunkStart (Image.slice buf (chunkStart - start) n) hlen :: rs) := by
  have haddr : chunkStart / 65536 * 65536 + chunkStart % 65536 = chunkStart := by omega
  -- `base + addr` is the address of the chunk, which does not cross its block
  have hd : (ihexDataRecord chunkStart (Image.slice buf (chunkStart - start) n) hlen).HasData := by
    refine ⟨rfl, List.length_pos_iff.mp ?_⟩
    simpa [ihexDataRecord] using hn
  have hbase := ihexDataRecord_newBase chunkStart hlen
  constructor
  · refine ⟨fun _ => ?_, by rw [hbase]; exact h.inRange⟩
    simp only [ihexDataRecord, Image.slice_length]
    omega
  · -- the chunk and the rest are one slice of the buffer
    have hsplit : end_ - chunkStart = n + (end_ - (chunkStart + n)) := by omega
    have hoff : chunkStart - start + n = chunkStart + n - start := by omega
    rw [ihexPlacements, hbase, h.placements, hsplit, Image.slice_append, Image.block_append,
      Image.slice_length, hoff]
    simp [IhexRecord.bytesAt, ihexDataRecord, haddr]
  · intro g hg
    rw [ihexGreatest, if_pos hd, hbase]
    have hreach : chunkStart / 65536 * 65536 +
        (ihexDataRecord chunkStart (Image.slice buf (chunkStart - start) n) hlen).addr +
        (ihexDataRecord chunkStart (Image.slice buf (chunkStart - start) n) hlen).data.length =
        chunkStart + n := by
      simp only [ihexDataRecord, Image.slice_length, haddr]
    rw [hreach, h.greatest _ (by omega), if_pos (by omega : chunkStart < end_)]
    split_ifs <;> omega
  · intro _
    exact ⟨_, List.mem_cons_self, hd⟩

/-- The end record covers the empty range. -/
theorem IhexCovers.nil {buf : Nat → Byte} {start chunkStart end_ base : Nat}
    (h : end_ ≤ chunkStart) : IhexCovers buf start chunkStart end_ base [ihexEndRecord] := by
  have hnd : ¬ihexEndRecord.HasData := by simp [IhexRecord.HasData, ihexEndRecord]
  have hempty : end_ - chunkStart = 0 := by omega
  constructor
  · exact ⟨fun hd => absurd hd hnd, trivial⟩
  · simp [ihexPlacements, IhexRecord.bytesAt, ihexEndRecord, hempty, Image.slice]
  · intro g _
    rw [ihexGreatest, if_neg hnd, if_neg (by omega)]
    rfl
  · omega

theorem IhexWritten.covers {buf : Nat → Byte} {start end_ chunkStart base : Nat}
    {rs : List IhexRecord} (h : IhexWritten buf start end_ chunkStart base rs) :
    IhexCovers buf start chunkStart end_ base rs := by
  induction h with
  | done hle => exact IhexCovers.nil hle
  | ela he _ ih => exact ih.cons_ela he
  | data hpos _ hstart hend hblock hlen _ ih => exact ih.cons_data hpos hstart hend hblock hlen

/-- The loop writes the records of the rest of the range. The reader's base is `base` when
the loop stands at `chunk_start`, and `cur_ela` is its upper half, or `-1`, which is
no upper half. -/
theorem ihexWriteLoop_emits (buf : Nat → Byte) (start : Nat) {end_ : Nat} (hend : end_ < 4294967296)
    {fuel chunkStart base : Nat} {curEla : Int} (hfuel : end_ - chunkStart ≤ fuel)
    (hstart : start ≤ chunkStart)
    (hela : curEla = -1 ∨ (curEla = ((base / 65536 : Nat) : Int) ∧ base % 65536 = 0 ∧
      base < 4294967296)) :
    ∃ rs, Emits (ihexWriteLoop (fun _ => false) buf start end_ fuel chunkStart curEla)
        (ihexPrint rs) ∧
      IhexWritten buf start end_ chunkStart base (rs ++ [ihexEndRecord]) := by
  induction fuel generalizing chunkStart base curEla with
  | zero => exact ⟨[], Emits.pure, IhexWritten.done (by omega)⟩
  | succ fuel ih =>
    unfold ihexWriteLoop
    by_cases hlt : chunkStart < end_
    · rw [if_pos hlt]
      rcases ihexChunkLen_bounds hlt hend with ⟨hpos, hle32, hle, hblock⟩
      have hshift : chunkStart >>> 16 = chunkStart / 65536 := Nat.shiftRight_eq_div_pow _ _
      have hnext : u32 (chunkStart + ihexChunkLen chunkStart end_) =
          chunkStart + ihexChunkLen chunkStart end_ := u32_of_lt (by omega)
      -- behind the chunk the reader stands at its block, and so does `cur_ela`
      obtain ⟨rs, hemit, hwritten⟩ := @ih
        (chunkStart + ihexChunkLen chunkStart end_) (chunkStart / 65536 * 65536)
        ((chunkStart / 65536 : Nat) : Int)
        (by omega) (by omega) (Or.inr ⟨by congr 1; omega, by omega, by omega⟩)
      have hlen : (Image.slice buf (chunkStart - start)
          (ihexChunkLen chunkStart end_)).length ≤ 255 := by
        rw [Image.slice_length]
        omega
      have hchunk := (ihexWriteChunk_emits buf hlen).bind fun _ => hemit
      have hdata := IhexWritten.data hpos hle32 hstart hle hblock hlen hwritten
      rw [hshift, hnext]
      by_cases hneed : ofInt32 curEla ≠ chunkStart / 65536
      · -- the block is new: an address record comes first
        rw [if_pos hneed]
        refine ⟨ihexElaRecord (chunkStart / 65536) :: ihexDataRecord chunkStart _ hlen :: rs,
          ?_, IhexWritten.ela (by omega) hdata⟩
        exact (ihexWriteEla_emits (by omega)).bind fun _ => hchunk
      · rw [if_neg hneed]
        -- `-1` converts to 2^32 - 1, which is no upper half of an address
        have hbase : base = chunkStart / 65536 * 65536 := by
          rcases hela with rfl | ⟨rfl, hmod, hblt⟩
          · have hno : ofInt32 (-1) = 4294967295 := by decide
            omega
          · rw [ofInt32_natCast (by omega)] at hneed
            omega
        refine ⟨ihexDataRecord chunkStart _ hlen :: rs, ?_, hbase ▸ hdata⟩
        exact Emits.pure.bind fun _ => hchunk
    · rw [if_neg hlt]
      exact ⟨[], Emits.pure, IhexWritten.done (by omega)⟩

theorem ihexText_print (rs : List IhexRecord) : IhexText rs (ihexPrint rs) := by
  refine ⟨rs.map IhexRecord.print, ?_, Or.inl ?_⟩
  · induction rs with
    | nil => exact List.Forall₂.nil
    | cons r rs ih => exact List.Forall₂.cons r.line_print ih
  · rw [ihexPrint, List.map_map]
    rfl

/-- Without I/O errors `ihex_write` returns 0, and its text is that of the records. -/
theorem ihexWrite_written (buf : Nat → Byte) (start : Nat) {end_ : Nat}
    (hend : end_ < 4294967296) :
    ∃ rs, ihexWrite (fun _ => false) buf start end_ = (0, ihexPrint rs) ∧
      IhexWritten buf start end_ start 0 rs := by
  have hela : (if end_ > 65535 then -1 else 0 : Int) = -1 ∨
      ((if end_ > 65535 then -1 else 0 : Int) = ((0 / 65536 : Nat) : Int) ∧ 0 % 65536 = 0 ∧
        0 < 4294967296) := by
    split
    · exact Or.inl rfl
    · exact Or.inr ⟨rfl, rfl, by decide⟩
  obtain ⟨rs, hemit, hwritten⟩ := ihexWriteLoop_emits buf start hend
    (Nat.le_refl _) (Nat.le_refl start) hela
  refine ⟨rs ++ [ihexEndRecord], ?_, hwritten⟩
  have hend_text : text ":00000001FF\n" = ihexEndRecord.print ++ [ascii '\n'] := by decide
  obtain ⟨_, _, hrun⟩ := (hemit.bind fun _ => Emits.fprintfOrStop (text ":00000001FF\n"))
    { out := [], calls := 0 }
  unfold ihexWrite ihexWriteBody
  rw [hrun]
  simp [ihexPrint, hend_text]

/-- The records cover the range. -/
theorem ihexWrite_text (buf : Nat → Byte) (start : Nat) {end_ : Nat} (hend : end_ < 4294967296) :
    ∃ rs, ihexWrite (fun _ => false) buf start end_ = (0, ihexPrint rs) ∧
      IhexCovers buf start start end_ 0 rs := by
  rcases ihexWrite_written buf start hend with ⟨rs, hwrite, hwritten⟩
  exact ⟨rs, hwrite, hwritten.covers⟩

/-! ## The round trip -/

/-- Reading the text of `ihex_write` with the same range returns the length of the range and
leaves the bytes of the buffer in the target buffer, whatever the line buffer and the
target held, and nothing else of the target changes. -/
theorem ihex_roundTrip (line : LineBuf 523) (buf target : Nat → Byte) {start end_ : Nat}
    (hlt : start < end_) (hend : end_ < 2 ^ 32) (hlen : end_ - start < 2 ^ 31) :
    ∃ file s, ihexWrite (fun _ => false) buf start end_ = (0, file) ∧
      ihexRead line file start end_ = (.ok ((end_ - start : Nat) : Int), s) ∧
      (∀ i < end_ - start, s.buf target i = buf i) ∧
      (∀ i, end_ - start ≤ i → s.buf target i = target i) := by
  rcases ihexWrite_text buf start hend with ⟨rs, hwrite, hcov⟩
  obtain ⟨s, hread, hst⟩ := ihexRead_records line (ihexText_spells (ihexText_print rs))
    (hcov.hasData hlt) hcov.inRange hend hlen
  have hgreatest := hcov.greatest 0 (Nat.zero_le _)
  rw [if_pos hlt] at hgreatest
  have hstores : s.stores = Image.block 0 (Image.slice buf 0 (end_ - start)) := by
    rw [hst, hcov.placements, block_map_sub (Nat.le_refl start), Nat.sub_self]
  refine ⟨ihexPrint rs, s, hwrite, ?_, ?_, ?_⟩
  · rw [hread, hgreatest, Int.ofNat_sub (Nat.le_of_lt hlt)]
  · intro i hi
    have h := Image.storeAll_block_slice_at target buf 0 0 (end_ - start) i hi
    rw [Nat.zero_add] at h
    rw [IhexState.buf, hstores, h]
  · intro i hi
    rw [IhexState.buf, hstores]
    exact Image.storeAll_block_off _ _ _ _ (Or.inr (by simpa using hi))

/-- Four bytes across the boundary at 0x10000. -/
theorem ihex_roundTrip_boundary :
    ∃ file s, ihexWrite (fun _ => false) (fun i => UInt8.ofNat (i + 1)) 0xFFFE 0x10002 =
        (0, file) ∧
      ihexRead (LineBuf.zero 522) file 0xFFFE 0x10002 = (.ok 4, s) ∧
      (∀ i < 4, s.buf (fun _ => 0xEE) i = UInt8.ofNat (i + 1)) ∧
      (∀ i, 4 ≤ i → s.buf (fun _ => 0xEE) i = 0xEE) :=
  ihex_roundTrip (LineBuf.zero 522) (fun i => UInt8.ofNat (i + 1)) (fun _ => 0xEE)
    (by decide) (by decide) (by decide)

end Stm8Flash
