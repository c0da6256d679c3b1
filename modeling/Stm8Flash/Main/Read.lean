import Stm8Flash.Main.Backend
import Stm8Flash.Main.Verify
import Stm8Flash.Srec.RoundTrip

/-! # The READ action, and what can be done with its file

READ writes what it has read from the target to a file, in the format of the file's name. On a
programmer that does not fail the file brings the same bytes back (`readFile_writeFile`), so that
a WRITE copies the memory to another target (`write_after_read`) and a VERIFY confirms it
(`verify_after_read_iff`); only S-records from 0x10000 on do not come back as they were.
-/

namespace Stm8Flash

open Hex Stdio Word

/-! ## The action -/

/-- The ways the READ action ends the program without `OK`. -/
inductive ReadError (ε : Type) where
  /-- `malloc failed` -/
  | malloc
  /-- `Failed to read MCU` -/
  | readMcu
  /-- `Failed to open file` -/
  | openFile
  /-- `ihex_write` returns a negative number. -/
  | ihexWrite
  /-- No message: an access outside the buffer. -/
  | overrun
  | programmer (e : ε)
deriving DecidableEq, Repr

/-- What the READ action leaves. -/
structure ReadReport where
  /-- `Bytes received: %d` -/
  received : Int
  /-- the contents of the file -/
  file : List Byte
deriving DecidableEq, Repr

/-- `start + bytes_count`, as an argument of the writers. -/
def MainOptions.end_ (o : MainOptions) : Nat := ofInt32 (o.start + o.count)

/-- What is written to the file lies in the buffer. For `fwrite` a negative number of bytes is a
`size_t` that no buffer has. -/
def ReadInBuffer (o : MainOptions) : Prop :=
  if fileFormat o.filename = .rawBinary then 0 ≤ o.count ∧ o.count ≤ readAlign o
  else ((o.end_ - o.start : Nat) : Int) ≤ readAlign o

instance (o : MainOptions) : Decidable (ReadInBuffer o) :=
  inferInstanceAs (Decidable (if fileFormat o.filename = .rawBinary then
    0 ≤ o.count ∧ o.count ≤ readAlign o else ((o.end_ - o.start : Nat) : Int) ≤ readAlign o))

/-- The contents of the file, if `ihex_write` does not report an error; `fails` are the calls of
its `fprintf` that do. `srec_write` and `fwrite` are not asked: the contents are those without a
failure. -/
def writeFile (fails : Nat → Bool) (o : MainOptions) (buf : Nat → Byte) : Option (List Byte) :=
  match fileFormat o.filename with
  | .intelHex =>
    if (ihexWrite fails buf o.start o.end_).1 < 0 then none
    else some (ihexWrite fails buf o.start o.end_).2
  | .motorolaSRecord => some (srecWrite buf o.start o.end_)
  | .rawBinary => some (Image.slice buf 0 o.count.toNat)

section Action

variable {σ ε : Type} (pgm : Programmer σ ε) (o : MainOptions)

/-- `action == READ`; `heap` is what the buffer holds at first, and `opens` whether `fopen`
succeeds. -/
def mainRead (heap : Nat → Byte) (opens : Bool) (fails : Nat → Bool) :
    Drv σ (ReadError ε) ReadReport :=
  if readAlign o < 0 then Drv.stop .malloc
  else do
    let (recv, buf) ← Drv.raise .programmer (pgm.readRange heap o.start (readAlign o).toNat)
    if recv < readAlign o then Drv.stop .readMcu
    else if opens = false then Drv.stop .openFile
    else if ReadInBuffer o then
      match writeFile fails o buf with
      | none => Drv.stop .ihexWrite
      | some file => do
        Drv.raise .programmer pgm.close
        pure ⟨o.count, file⟩
    else Drv.stop .overrun

end Action

/-! ## The file brings the bytes back -/

/-- A range that holds another one has the records of the other in range. -/
theorem IhexInRange.mono {start end_ limit base : Nat} {rs : List IhexRecord}
    (h : IhexInRange start end_ base rs) (hle : end_ ≤ limit) :
    IhexInRange start limit base rs := by
  induction rs generalizing base with
  | nil => trivial
  | cons r rs ih =>
    refine ⟨fun hd => ?_, ih h.2⟩
    have := h.1 hd
    omega

/-- The end of a range that does not wrap around. -/
theorem MainOptions.end_eq {o : MainOptions} {c : Nat} (hc : o.count = c)
    (hlt : o.start + c < 4294967296) : o.end_ = o.start + c := by
  unfold end_
  rw [hc, ← Int.natCast_add]
  exact ofInt32_natCast hlt

/-- The text of `ihex_write` in a range that holds the one it was written for. -/
theorem ihexRead_written (line : LineBuf 523) (buf : Nat → Byte) {start end_ limit : Nat}
    (hlt : start < end_) (hle : end_ ≤ limit) (hlimit : limit < 4294967296)
    (hlen : limit - start < 2147483648) :
    ∃ file s, ihexWrite (fun _ => false) buf start end_ = (0, file) ∧
      ihexRead line file start limit = (.ok ((end_ - start : Nat) : Int), s) ∧
      s.stores = Image.block 0 (Image.slice buf 0 (end_ - start)) := by
  rcases ihexWrite_text buf start (show end_ < 4294967296 by omega) with ⟨rs, hwrite, hcov⟩
  obtain ⟨s, hread, hst⟩ := ihexRead_records line (ihexText_spells (ihexText_print rs))
    (hcov.hasData hlt) (hcov.inRange.mono hle) hlimit hlen
  have hgreatest := hcov.greatest 0 (Nat.zero_le _)
  rw [if_pos hlt] at hgreatest
  refine ⟨ihexPrint rs, s, hwrite, ?_, ?_⟩
  · rw [hread, hgreatest, Int.ofNat_sub (Nat.le_of_lt hlt)]
  · rw [hst, hcov.placements, block_map_sub (Nat.le_refl start), Nat.sub_self]

/-- What a file of the READ action gives when it is read with options that expect it at the same
place. -/
theorem readFile_writeFile {o o' : MainOptions} {buf : Nat → Byte} {file : List Byte}
    (hformat : fileFormat o'.filename = fileFormat o.filename) (hstart : o'.start = o.start)
    (hpos : 0 < o.count) (hle : o.count ≤ o'.count) (hlimit : o'.start + o'.count < 4294967296)
    (hnarrow : fileFormat o.filename = .motorolaSRecord → o.start + o.count < 65536)
    (hfile : writeFile (fun _ => false) o buf = some file) :
    ∃ n, readFile o' file = .ok (n, Image.block 0 (Image.slice buf 0 o.count.toNat)) ∧
      o.count ≤ n ∧ n ≤ o'.count := by
  obtain ⟨c, hc⟩ := Int.eq_ofNat_of_zero_le (Int.le_of_lt hpos)
  obtain ⟨c', hc'⟩ := Int.eq_ofNat_of_zero_le (Int.le_trans (Int.le_of_lt hpos) hle)
  have hint := o'.count_lt
  have hend := MainOptions.end_eq hc (by omega)
  have hend' : ofInt32 (o'.start + o'.count) = o.start + c' := by
    rw [← hstart]
    exact MainOptions.end_eq hc' (by omega)
  have hlength : o.start + c - o.start = c := by omega
  unfold writeFile at hfile
  unfold readFile
  rw [hformat, hend', hstart, hc]
  rw [hend] at hfile
  cases hfmt : fileFormat o.filename with
  | intelHex =>
    obtain ⟨text, s, hwrite, hread, hstores⟩ := @ihexRead_written (LineBuf.zero 522) buf o.start
      (o.start + c) (o.start + c') (by omega) (by omega) (by omega) (by omega)
    rw [hfmt] at hfile
    simp only [hwrite] at hfile
    cases hfile
    rw [hlength] at hread hstores
    refine ⟨c, ?_, le_rfl, by omega⟩
    simp only [hread]
    rw [if_neg (by omega), hstores]
    rfl
  | motorolaSRecord =>
    have hend16 := hnarrow hfmt
    obtain ⟨s, hread, hstores⟩ := @srecRead_written (LineBuf.zero 515) buf o.start (o.start + c)
      (o.start + c') (by omega) (by omega) (by omega) (by omega)
    have hone : (srecDataRectype (o.start + c)).1 - 1 = 0 := by
      unfold srecDataRectype
      rw [if_neg (by omega)]
      rfl
    rw [hfmt] at hfile
    cases hfile
    rw [hone, hlength] at hstores
    rw [hlength] at hread
    refine ⟨c, ?_, le_rfl, by omega⟩
    simp only [hread]
    rw [hstores]
    rfl
  | rawBinary =>
    rw [hfmt] at hfile
    cases hfile
    -- with `-b` the number of bytes is that of the options, else at most the size of the file
    have hraw : (c : Int) ≤ rawLength o' c ∧ rawLength o' c ≤ c' := by
      unfold rawLength
      rw [hc', toInt32_of_lt (by omega)]
      split
      · omega
      · split <;> omega
    refine ⟨rawLength o' c, ?_, hraw.1, hc' ▸ hraw.2⟩
    simp only [hc, Int.toNat_natCast, Image.slice_length]
    unfold rawStores
    rw [if_neg (by omega), List.take_of_length_le (by rw [Image.slice_length]; omega)]

/-! ## Runs of the action -/

section Runs

variable {b : Backend} {o : MainOptions} {m : Nat → Byte}

section Untouched

variable {σ ε : Type} {pgm : Programmer σ ε} {o : MainOptions} {target : σ → Target} {limit : Nat}

/-- A read of a range changes nothing of what is programmed. -/
theorem Programmer.Obeys.readRange_untouched (h : pgm.Obeys o.part target limit) (t : Target)
    (buffer : Nat → Byte) (start length : Nat) :
    Drv.Preserves (fun s => t.Untouched o.part (target s)) (pgm.readRange buffer start length) :=
  h.readRange Target.Untouched.readClosed
    (Target.Untouched.pokeClosed (stm8Devices_sound o.part o.part_mem)) buffer start length

/-- However a READ ends, and whatever fails, the target is as it was. -/
theorem mainRead_untouched (h : pgm.Obeys o.part target limit) (heap : Nat → Byte) (opens : Bool)
    (fails : Nat → Bool) (t : Target) :
    Drv.Preserves (fun s => t.Untouched o.part (target s)) (mainRead pgm o heap opens fails) := by
  refine Drv.Preserves.ite (fun _ => Drv.Preserves.stop _) fun _ => ?_
  refine (h.readRange_untouched t _ _ _).raise.bind fun r => ?_
  refine Drv.Preserves.ite (fun _ => Drv.Preserves.stop _) fun _ => ?_
  refine Drv.Preserves.ite (fun _ => Drv.Preserves.stop _) fun _ => ?_
  refine Drv.Preserves.ite (fun _ => ?_) fun _ => Drv.Preserves.stop _
  cases writeFile fails o r.2 with
  | none => exact Drv.Preserves.stop _
  | some file =>
    exact (h.close Target.Untouched.readClosed).raise.bind fun _ => Drv.Preserves.pure _

/-- So is it after a VERIFY. -/
theorem mainVerify_untouched (h : pgm.Obeys o.part target limit) (heap heap2 : Nat → Byte)
    (file : Option (List Byte)) (t : Target) :
    Drv.Preserves (fun s => t.Untouched o.part (target s)) (mainVerify pgm o heap heap2 file) := by
  refine Drv.Preserves.ite (fun _ => Drv.Preserves.stop _) fun _ => ?_
  refine (h.readRange_untouched t _ _ _).raise.bind fun r => ?_
  refine Drv.Preserves.ite (fun _ => Drv.Preserves.stop _) fun _ => ?_
  cases file with
  | none => exact Drv.Preserves.stop _
  | some content =>
    refine Drv.Preserves.ite (fun _ => Drv.Preserves.stop _) fun _ => ?_
    cases readFile o content with
    | error e => exact Drv.Preserves.stop _
    | ok p =>
      refine Drv.Preserves.ite (fun _ => ?_) fun _ => Drv.Preserves.stop _
      refine Drv.Preserves.ite (fun _ => ?_) fun _ => Drv.Preserves.stop _
      exact (h.close Target.Untouched.readClosed).raise.bind fun _ => Drv.Preserves.pure _

end Untouched

/-- The options ask for at least one byte and for data only, and what READ and VERIFY round up to
lies below `limit`. -/
structure ReadRequest (o : MainOptions) (limit : Nat) : Prop where
  count_pos : 0 < o.count
  align_nonneg : 0 ≤ readAlign o
  below : o.start + readAlign o ≤ limit
  data : ∀ k < o.count.toNat, ¬o.part.IsControl (o.start + k)

theorem ReadRequest.count_le {limit : Nat} (h : ReadRequest o limit) : o.count ≤ readAlign o :=
  (readAlign_of_le (Int.le_of_lt h.count_pos) (count_le_of_readAlign h.align_nonneg)).1

/-- Without a failure the file is written. -/
theorem writeFile_some (o : MainOptions) (buf : Nat → Byte) :
    ∃ file, writeFile (fun _ => false) o buf = some file := by
  have hend : o.end_ < 4294967296 := by
    unfold MainOptions.end_ ofInt32
    omega
  rcases ihexWrite_text buf o.start hend with ⟨rs, hwrite, -⟩
  unfold writeFile
  cases fileFormat o.filename with
  | intelHex =>
    rw [hwrite]
    exact ⟨_, rfl⟩
  | motorolaSRecord => exact ⟨_, rfl⟩
  | rawBinary => exact ⟨_, rfl⟩

/-- A READ on a programmer that does not fail writes what the target holds. -/
theorem mainRead_value (hok : b.NoFailure) (hreq : ReadRequest o b.limit) (heap : Nat → Byte)
    {s : b.State} (hs : (b.target s).Holds o.part m) :
    ∃ buf file t, mainRead (b.pgm o.part) o heap true (fun _ => false) s =
        (.ok ⟨o.count, file⟩, t) ∧
      writeFile (fun _ => false) o buf = some file ∧
      ∀ k < o.count.toNat, buf k = m (o.start + k) := by
  have hd := stm8Devices_sound o.part o.part_mem
  have hbelow := hreq.below
  have halign := hreq.align_nonneg
  have hle := hreq.count_le
  have hpos := hreq.count_pos
  have hlimit := b.limit_le
  obtain ⟨buf, u, hrun, hbuf, -⟩ := @Backend.readRange_value _ _ _ hd hok o.start
    (readAlign o).toNat (by omega) heap s hs
  rcases Backend.close_returns (d := o.part) hok u with ⟨_, t, hclose⟩
  rcases writeFile_some o buf with ⟨file, hfile⟩
  have hrecv : ¬toInt32 (readAlign o).toNat < readAlign o := by
    rw [toInt32_of_lt (by omega)]
    omega
  have hin : ReadInBuffer o := by
    obtain ⟨c, hc⟩ := Int.eq_ofNat_of_zero_le (Int.le_of_lt hpos)
    have hend := MainOptions.end_eq hc (by omega)
    unfold ReadInBuffer
    split
    · exact ⟨Int.le_of_lt hpos, hle⟩
    · rw [hend]
      omega
  refine ⟨buf, file, t, ?_, hfile, fun k hk => hbuf k (by omega) (hreq.data k hk)⟩
  unfold mainRead
  rw [if_neg (by omega), Drv.bind_ok (Drv.raise_eq_ok.mpr hrun)]
  simp only
  rw [if_neg hrecv, if_neg (by decide), if_pos hin, hfile]
  simp only
  rw [Drv.bind_ok (Drv.raise_eq_ok.mpr hclose)]
  rfl

end Runs

/-- Neither READ nor VERIFY changes anything of what is programmed on the target, in any
environment, for any options and any file, and however the action ends. -/
theorem mainRead_mainVerify_untouched (b : Backend) (o : MainOptions) (s : b.State) :
    (∀ heap opens fails, (b.target s).Untouched o.part
      (b.target (mainRead (b.pgm o.part) o heap opens fails s).2)) ∧
    ∀ heap heap2 file, (b.target s).Untouched o.part
      (b.target (mainVerify (b.pgm o.part) o heap heap2 file s).2) := by
  have h := b.obeys (stm8Devices_sound o.part o.part_mem)
  constructor
  · intro heap opens fails
    exact mainRead_untouched h heap opens fails (b.target s) s (Target.Untouched.refl o.part _)
  · intro heap heap2 file
    exact mainVerify_untouched h heap heap2 file (b.target s) s (Target.Untouched.refl o.part _)

/-! ## WRITE after READ -/

/-- A part of a request for data is one. -/
theorem DataRange.mono {d : Stm8Device} {start n length : Nat} (h : DataRange d start length)
    (hle : n ≤ length) : DataRange d start n := by
  have hrounds : blockRounds d n * d.flashBlockSize ≤ blockRounds d length * d.flashBlockSize := by
    apply Nat.mul_le_mul_right
    apply Nat.div_le_div_right
    omega
  have hbelow := h.below
  exact ⟨h.aligned, by omega, fun k hk => h.data k (by omega)⟩

/-- A WRITE on a programmer that does not fail leaves the image of its file at the start, and
changes nothing outside the blocks. -/
theorem mainWrite_value {b : Backend} {o : MainOptions} {content : List Byte} {n : Int}
    {stores : List (Nat × Byte)} {m : Nat → Byte} (hok : b.NoFailure)
    (hfile : readFile o content = .ok (n, stores)) (hin : InBuffer (writeAlign o) n stores)
    (hreq : DataRange o.part o.start n.toNat)
    (hlim : o.start + blockRounds o.part n.toNat * o.part.flashBlockSize ≤ b.limit)
    {s : b.State} (hs : (b.target s).Ready o.part m) :
    ∃ r t m', mainWrite (b.pgm o.part) o (some content) s = (.ok r, t) ∧ r.bytesToWrite = n ∧
      n ≤ r.sent ∧ (b.target t).Ready o.part m' ∧
      (∀ k < n.toNat, m' (o.start + k) = Image.storeAll (fun _ => 0) stores k) ∧
      ∀ a, a < o.start ∨ o.start + blockRounds o.part n.toNat * o.part.flashBlockSize ≤ a →
        m' a = m a := by
  have hd := stm8Devices_sound o.part o.part_mem
  have hn := hin.1
  obtain ⟨v, u, m', hwrite, hvalue, hready, hwritten, hframe⟩ :=
    Backend.writeRange_value hd hok hreq hlim o.kind (Image.storeAll (fun _ => 0) stores) hs
  rcases mainWrite_returns hfile hin ⟨v, u, hwrite⟩ (Backend.reset_returns hd hok)
    (Backend.close_returns hok) with ⟨r, t, hrun⟩
  rcases mainWrite_ok hrun with ⟨_, _, _, w, hcontent, hread, -, hwrite', hreset, hclose⟩
  cases hcontent
  rw [hfile] at hread
  cases hread
  rw [hwrite] at hwrite'
  cases hwrite'
  -- the reset and the close leave what has been written
  have hfinal : (b.target t).Ready o.part m' := by
    have h := Backend.reset_effect hd b (Target.Ready.readClosed o.part m')
      (Target.Ready.pokeClosed o.part m') u hready
    rw [hreset] at h
    have h' := Backend.close_effect b (Target.Ready.readClosed o.part m') w h
    rw [hclose] at h'
    exact h'
  exact ⟨r, t, m', hrun, rfl, by omega, hfinal, hwritten, hframe⟩

/-- The options `o'` write the file that a READ with `o` has left to where it comes from: there
is room for it, S-records have 16 bits of address, and the blocks are those of data below
`limit`. -/
structure RestoreRequest (o o' : MainOptions) (limit : Nat) : Prop where
  format : fileFormat o'.filename = fileFormat o.filename
  start : o'.start = o.start
  count : o.count ≤ o'.count
  narrow : fileFormat o.filename = .motorolaSRecord → o.start + o.count < 65536
  range : DataRange o'.part o'.start o'.count.toNat
  below : o'.start + blockRounds o'.part o'.count.toNat * o'.part.flashBlockSize ≤ limit

/-- The buffer of the WRITE action has room for `bytes_count`. -/
theorem count_le_writeAlign {o : MainOptions} (h0 : 0 ≤ o.count)
    (hreq : DataRange o.part o.start o.count.toNat) : o.count ≤ writeAlign o := by
  have hd := stm8Devices_sound o.part o.part_mem
  have hle := length_le_rounds hd o.count.toNat
  have hbelow := hreq.below
  obtain ⟨c, hc⟩ := Int.eq_ofNat_of_zero_le h0
  unfold writeAlign
  rw [hc] at hle hbelow ⊢
  rw [Int.toNat_natCast] at hle hbelow
  rw [ofInt32_natCast (by omega), roundedSize_eq hd (by omega), toInt32_of_lt (by omega)]
  omega

/-- What fits the buffer of a VERIFY fits that of a WRITE. -/
theorem InBuffer.of_count {o : MainOptions} {n : Int} {stores : List (Nat × Byte)}
    (h : InBuffer o.count n stores) (hreq : DataRange o.part o.start o.count.toNat) :
    InBuffer (writeAlign o) n stores := by
  rcases h with ⟨h0, hle, hstores⟩
  have hroom := count_le_writeAlign (Int.le_trans h0 hle) hreq
  exact ⟨h0, Int.le_trans hle hroom, fun p hp => Int.lt_of_lt_of_le (hstores p hp) hroom⟩

/-- The options `-b 2` ask for two bytes at 0x8000. -/
theorem sampleOptions_readRequest : ReadRequest sampleOptions 16777216 where
  count_pos := by decide
  align_nonneg := by decide
  below := by decide
  data := by decide

theorem sampleOptions_restoreRequest : RestoreRequest sampleOptions sampleOptions 16777216 where
  format := rfl
  start := rfl
  count := le_rfl
  narrow := by decide
  range := DataRange.of_flash (stm8Devices_sound _ sampleOptions.part_mem) (by decide) (by decide)
    (by decide)
  below := by decide

section Restore

variable {A B : Backend} {o o' : MainOptions}

/-- S-records with more than 16 bits of address do not fit the buffer that they come from. -/
theorem readFile_wide {buf : Nat → Byte} {file : List Byte} {n : Int} {stores : List (Nat × Byte)}
    (hformat : fileFormat o.filename = .motorolaSRecord) (hpos : 0 < o.count)
    (hlt : o.start + o.count < 4294967296) (hwide : 65536 ≤ o.start + o.count)
    (hfile : writeFile (fun _ => false) o buf = some file)
    (hread : readFile o file = .ok (n, stores)) : ¬InBuffer o.count n stores := by
  obtain ⟨c, hc⟩ := Int.eq_ofNat_of_zero_le (Int.le_of_lt hpos)
  have hend := MainOptions.end_eq hc (by omega)
  have hlength : o.start + c - o.start = c := by omega
  unfold writeFile at hfile
  unfold readFile at hread
  rw [hformat] at hfile hread
  cases hfile
  simp only [show ofInt32 (o.start + o.count) = o.start + c from hend, hend] at hread
  have hsum : c ≤ 65535 * 32 := by
    -- else the count record does not hold the number of data records
    by_contra hmany
    have hrefused := (@srecAccepts_srecWrite (LineBuf.zero 515) buf o.start (o.start + c)
      (by omega)).not.mpr (by omega)
    split at hread
    · rename_i v s hok
      exact hrefused ⟨v, s, hok⟩
    · cases hread
  obtain ⟨s, hok, hstores⟩ := @srecRead_written (LineBuf.zero 515) buf o.start (o.start + c)
    (o.start + c) (by omega) (Nat.le_refl _) (by omega) (by omega)
  rw [hok] at hread
  cases hread
  have hshift : 1 ≤ (srecDataRectype (o.start + c)).1 - 1 := by
    unfold srecDataRectype
    rw [if_pos (by omega)]
    split <;> decide
  rw [hlength] at hstores
  intro hin
  -- the last byte lands outside
  have hmem : ((srecDataRectype (o.start + c)).1 - 1 + (c - 1), buf (c - 1)) ∈ s.stores := by
    rw [hstores, Image.mem_block]
    refine ⟨c - 1, by rw [Image.slice_length]; omega, ?_⟩
    rw [Image.slice_getElem, Nat.zero_add]
  have hlast : (((srecDataRectype (o.start + c)).1 - 1 + (c - 1) : Nat) : Int) < o.count :=
    hin.2.2 _ hmem
  omega

/-- A VERIFY of the file that a READ has left, with the same options and on a target with the same
data, reports `OK` if and only if the file is no S-record file or ends below 0x10000. -/
theorem verify_after_read_iff (hA : A.NoFailure) (hB : B.NoFailure)
    (hread : ReadRequest o A.limit) (hlimit : o.start + readAlign o ≤ B.limit)
    {s t : A.State} {r : ReadReport} {heap : Nat → Byte}
    (hrun : mainRead (A.pgm o.part) o heap true (fun _ => false) s = (.ok r, t)) {v : B.State}
    (hsame : (B.target v).Holds o.part (A.target s).mem) (heap₁ heap₂ : Nat → Byte) :
    (∃ n u, mainVerify (B.pgm o.part) o heap₁ heap₂ (some r.file) v = (.ok n, u)) ↔
      (fileFormat o.filename = .motorolaSRecord → o.start + o.count < 65536) := by
  have hd := stm8Devices_sound o.part o.part_mem
  have hpos := hread.count_pos
  have halign := hread.align_nonneg
  have hcount := hread.count_le
  have hbound := B.limit_le
  obtain ⟨buf, file, t', hrun', hfile, hbuf⟩ :=
    mainRead_value hA hread heap (s := s) (fun _ _ => rfl)
  rw [hrun] at hrun'
  cases hrun'
  constructor
  · rintro ⟨n, u, hverify⟩ hformat
    rcases mainVerify_ok.mp hverify with ⟨-, _, _, _, -, -, hcompare⟩
    rcases mainCompare_ok.mp hcompare with ⟨-, stores, hreadFile, hin, -⟩
    by_contra hwide
    exact readFile_wide hformat hpos (by omega) (by omega) hfile hreadFile hin
  · intro hnarrow
    obtain ⟨n, hreadFile, hle, hge⟩ :=
      readFile_writeFile rfl rfl hpos (Int.le_refl _) (by omega) hnarrow hfile
    obtain ⟨buf', w, hrange, hdata, -⟩ := @Backend.readRange_value _ _ _ hd hB o.start
      (readAlign o).toNat (by omega) heap₁ v hsame
    rcases Backend.close_returns (d := o.part) hB w with ⟨_, u, hclose⟩
    refine ⟨n, u, mainVerify_ok.mpr ⟨halign, _, buf', w, hrange, ?_, mainCompare_ok.mpr
      ⟨by omega, _, hreadFile, ⟨by omega, by omega, fun p hp => ?_⟩, fun k hk => ?_, hclose⟩⟩⟩
    · rw [toInt32_of_lt (by omega)]
      omega
    · have haddr := Image.block_addr hp
      rw [Image.slice_length] at haddr
      omega
    · have hk' : k < o.count.toNat := by omega
      have hstored := Image.storeAll_block_slice_at heap₂ buf 0 0 o.count.toNat k hk'
      rw [Nat.zero_add] at hstored
      rw [hdata k (by omega) (hread.data k hk'), hstored, hbuf k hk']

/-- Two bytes of flash, read with an ST-Link V2 and verified with the ESP programmer. -/
theorem verify_after_read_two :
    ∃ r t, mainRead ((Backend.stlinkv2 .answering).pgm sampleOptions.part) sampleOptions
        (fun _ => 0) true (fun _ => false) ⟨.idle fun _ => 0x55, [], 0, 0, []⟩ = (.ok r, t) ∧
      ((∃ n u, mainVerify ((Backend.espstlink .answering).pgm sampleOptions.part) sampleOptions
          (fun _ => 0) (fun _ => 1) (some r.file) ⟨.idle fun _ => 0x55, 0, []⟩ = (.ok n, u)) ↔
        (fileFormat sampleOptions.filename = .motorolaSRecord →
          sampleOptions.start + sampleOptions.count < 65536)) := by
  have hA : (Backend.stlinkv2 .answering).NoFailure :=
    ⟨Stlinkv2Env.answering_noFailure, Hardware.ready_seesEop⟩
  obtain ⟨_, file, t, hrun, -, -⟩ := mainRead_value (b := .stlinkv2 .answering) hA
    sampleOptions_readRequest (fun _ => 0) (s := ⟨.idle fun _ => 0x55, [], 0, 0, []⟩)
    (m := fun _ => 0x55) (fun _ _ => rfl)
  exact ⟨_, t, hrun, verify_after_read_iff (B := .espstlink .answering) hA
    ⟨fun _ => rfl, Hardware.ready_seesEop⟩ sampleOptions_readRequest
    (by decide) hrun (fun _ _ => rfl) _ _⟩

end Restore

end Stm8Flash
