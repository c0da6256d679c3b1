import Stm8Flash.DiffWrite
import Stm8Flash.Ihex.Write
import Stm8Flash.Main.Verify
import Stm8Flash.Readers
import Stm8Flash.Srec.Write
import Stm8Flash.Stlinkv2.Sends

/-! # The addresses that a WRITE programs

`main` clamps the number of bytes to the size of the memory area, the readers refuse records
behind `start + bytes_count`, and `stlink2_swim_write_range` rounds up to whole blocks. None of
them subtracts what `start` lies behind the beginning of the area, and the rounding looks at no
area at all. `write_inside_iff` says for which options no file is programmed outside the area.
-/

namespace Stm8Flash

open Hex Stdio Word

/-- The options choose the memory area `[a, a + size)` of the part: its RAM, EEPROM or flash,
by name or by an address inside it. -/
structure MainOptions.Chooses (o : MainOptions) (a size : Nat) : Prop where
  kind : o.kind = .ram ∨ o.kind = .eeprom ∨ o.kind = .flash
  area : memtypeArea o.part o.kind = some (a, size)
  start_mem : ∀ s ∈ o.startAddr, a ≤ s ∧ s < a + size

/-- The WRITE action has `n` bytes of the file written at `start`. A negative number of bytes
is no request: blocks are programmed for none. -/
def WriteRequests (o : MainOptions) (content : List Byte) (n : Nat) : Prop :=
  ∃ stores, readFile o content = .ok ((n : Int), stores)

/-- The size of the blocks that `stlink2_swim_write_range` goes through. -/
def programmedSize (d : Stm8Device) (length : Nat) : Nat := blockRounds d length * d.flashBlockSize

/-- Every address that is programmed for `n` bytes lies in the area. -/
def StaysInside (o : MainOptions) (n a size : Nat) : Prop :=
  ∀ x, Stlink2Programs o.part o.start n x → a ≤ x ∧ x < a + size

/-! ## Rounding up -/

theorem programmedSize_zero {d : Stm8Device} (hd : d.Sound) : programmedSize d 0 = 0 := by
  unfold programmedSize blockRounds
  rcases hd.block_size with hb | hb <;> rw [hb]

theorem programmedSize_mono {d : Stm8Device} {n k : Nat} (h : n ≤ k) :
    programmedSize d n ≤ programmedSize d k := by
  unfold programmedSize blockRounds
  exact Nat.mul_le_mul_right _ (Nat.div_le_div_right (by omega))

theorem programmedSize_lt {d : Stm8Device} (hd : d.Sound) (n : Nat) :
    programmedSize d n < n + 128 := rounds_lt hd n

theorem programmedSize_of_dvd {d : Stm8Device} (hd : d.Sound) {n : Nat}
    (h : n % d.flashBlockSize = 0) : programmedSize d n = n := by
  unfold programmedSize blockRounds
  rcases hd.block_size with hb | hb <;> rw [hb] at h ⊢ <;> omega

/-- The blocks lie one behind the other. -/
theorem stlink2Programs_iff {d : Stm8Device} (hd : d.Sound) {start n x : Nat}
    (h : start + programmedSize d n ≤ 4294967296) :
    Stlink2Programs d start n x ↔ start ≤ x ∧ x < start + programmedSize d n := by
  have hpos := hd.one_lt
  unfold programmedSize at h ⊢
  constructor
  · rintro ⟨j, hj, hlow, hhigh⟩
    have hin := round_in_range hj
    rw [u32_of_lt (by omega)] at hlow hhigh
    omega
  · rintro ⟨hlow, hhigh⟩
    -- the round of `x`
    have hdiv : (x - start) / d.flashBlockSize * d.flashBlockSize ≤ x - start :=
      Nat.div_mul_le_self _ _
    have hmod := Nat.mod_lt (x - start) (show d.flashBlockSize > 0 by omega)
    have hsplit := Nat.div_add_mod (x - start) d.flashBlockSize
    rw [Nat.mul_comm] at hsplit
    have hj : (x - start) / d.flashBlockSize < blockRounds d n := by
      apply Nat.div_lt_of_lt_mul
      rw [Nat.mul_comm]
      omega
    refine ⟨_, hj, ?_, ?_⟩
    · rw [u32_of_lt (by omega)]
      omega
    · rw [u32_of_lt (by omega)]
      omega

/-! ## What `main` leaves of the options -/

namespace MainOptions.Chooses

variable {o : MainOptions} {a size : Nat}

/-- The areas are small and end below 0x28000. -/
theorem bound (h : o.Chooses a size) : a + size ≤ 0x28000 := by
  have hall : ∀ d ∈ stm8Devices, d.ramStart + d.ramSize ≤ 0x28000 ∧
      d.eepromStart + d.eepromSize ≤ 0x28000 ∧ d.flashStart + d.flashSize ≤ 0x28000 := by decide
  rcases hall o.part o.part_mem with ⟨hram, heeprom, hflash⟩
  have harea := h.area
  rcases h.kind with hk | hk | hk
  · rw [hk] at harea
    cases harea
    exact hram
  · rw [hk] at harea
    cases harea
    exact heeprom
  · rw [hk] at harea
    cases harea
    exact hflash

/-- `start` is the beginning of the area or an address inside it. -/
theorem start_bounds (h : o.Chooses a size) : a ≤ o.start ∧ o.start ≤ a + size := by
  have hmem := h.start_mem
  unfold MainOptions.start
  rw [h.area]
  simp only
  rcases hs : o.startAddr with _ | s
  · simp
  · have := hmem s (by rw [hs]; rfl)
    simp only [Option.getD_some]
    omega

/-- `bytes_count` lies between 0 and the size of the area: as an unsigned number a negative
`-b` is too large. -/
theorem count_bounds (h : o.Chooses a size) : 0 ≤ o.count ∧ o.count ≤ size := by
  have hbound := h.bound
  unfold MainOptions.count
  rw [h.area]
  simp only
  unfold clampCount
  rcases hb : o.bytesCount with _ | b
  · simp
  · have hint := o.count_int b (by rw [hb]; rfl)
    simp only
    unfold ofInt32
    split <;> omega

/-- The end that the readers are given. -/
theorem end_eq (h : o.Chooses a size) :
    ofInt32 (o.start + o.count) = o.start + o.count.toNat := by
  have hbound := h.bound
  have hstart := h.start_bounds
  have hcount := h.count_bounds
  unfold ofInt32
  omega

end MainOptions.Chooses

/-! ## How many bytes a file makes -/

section Requests

variable {o : MainOptions} {a size : Nat}

theorem rawLength_le {k : Nat} : rawLength o k ≤ o.count := by
  unfold rawLength
  split_ifs <;> omega

/-- No file makes more than `bytes_count` bytes. -/
theorem writeRequests_le (h : o.Chooses a size) {content : List Byte} {n : Nat}
    (hn : WriteRequests o content n) : n ≤ o.count.toNat := by
  have hbound := h.bound
  have hstart := h.start_bounds
  have hcount := h.count_bounds
  have hle : o.start ≤ o.start + o.count.toNat := Nat.le_add_right _ _
  have hend : o.start + o.count.toNat < 2147483648 := by omega
  rcases hn with ⟨stores, hread⟩
  unfold readFile at hread
  rw [h.end_eq] at hread
  cases hformat : fileFormat o.filename with
  | intelHex =>
    rw [hformat] at hread
    simp only at hread
    rcases hrun : ihexRead (LineBuf.zero 522) content o.start (o.start + o.count.toNat) with
      ⟨_ | v, s⟩
    · rw [hrun] at hread
      cases hread
    · rw [hrun] at hread
      simp only at hread
      split at hread
      · cases hread
      · injection hread with hpair
        injection hpair with hv
        have hvalue := ihexRead_le hle hend hrun
        omega
  | motorolaSRecord =>
    rw [hformat] at hread
    simp only at hread
    rcases hrun : srecRead (LineBuf.zero 515) content o.start (o.start + o.count.toNat) with
      ⟨_ | v, s⟩
    · rw [hrun] at hread
      cases hread
    · rw [hrun] at hread
      injection hread with hpair
      injection hpair with hv
      have hvalue := srecRead_le hle hend hrun
      omega
  | rawBinary =>
    rw [hformat] at hread
    injection hread with hpair
    injection hpair with hv
    have hraw := @rawLength_le o content.length
    omega

/-- An Intel HEX file that fills its range. -/
theorem ihexRead_full (line : LineBuf 523) {start end_ : Nat} (hlt : start < end_)
    (hend : end_ < 2147483648) :
    ∃ file s, ihexRead line file start end_ = (.ok ((end_ : Int) - start), s) := by
  obtain ⟨rs, -, hcov⟩ := ihexWrite_text (fun _ => 0) start (show end_ < 4294967296 by omega)
  obtain ⟨s, hread, -⟩ := ihexRead_records line (ihexText_spells (ihexText_print rs))
    (hcov.hasData hlt) hcov.inRange (by omega) (by omega)
  have hgreatest := hcov.greatest 0 (Nat.zero_le _)
  rw [if_pos hlt] at hgreatest
  rw [hgreatest] at hread
  exact ⟨_, s, hread⟩

/-- The extent of a line that spells a data record with data. -/
theorem srecExtent_spelled {r : SrecRecord} {piece : List Byte} (h : r.Spells piece)
    (hlen : piece.length < 516) (hd : r.IsData) (hne : r.data ≠ []) (line : LineBuf 516) :
    srecExtent (line.fill piece) = [(r.addr, r.data.length)] := by
  have htext : (line.fill piece).cstr 0 = piece :=
    LineBuf.cstr_fill line hlen h.no_nul (Nat.zero_le _)
  rcases srecHeader_spells h with ⟨a, hhead, haddr⟩
  rcases fieldBytes_spells h hd hlen (SrecState.init line) with ⟨-, hcount, hdlen⟩
  unfold srecExtent
  rw [htext, hhead]
  simp only
  rw [hcount, hdlen, haddr hd hne, if_pos ⟨hd, by simpa using hne⟩]

/-- A file of one data record that ends at the end of the range. -/
theorem srecRead_print (line : LineBuf 516) {r : SrecRecord} {start end_ : Nat}
    (hd : r.IsData) (hne : r.data ≠ []) (hsum : r.SumRight) (hstart : start ≤ r.addr)
    (hr : r.addr + r.data.length = end_) (hend : end_ < 2147483648) :
    ∃ s, srecRead line r.print start end_ = (.ok ((end_ : Int) - start), s) := by
  have htype := hd.bounds
  have hpos : 0 < r.data.length := List.length_pos_iff.mpr hne
  have hfile : ([r].map SrecRecord.print).flatten = r.print := by simp
  have htext := srecText_print [r]
  rw [hfile] at htext
  have hno5 : r.type ≠ 5 := by omega
  obtain ⟨u, hrun, hcounts⟩ := @srecLines_text start end_ (by omega) _ _ htext
    (by simpa using hsum) (by simpa using fun h => absurd h hno5)
    (by
      intro q hq _ k hk
      rw [List.mem_singleton.mp hq] at hk ⊢
      omega)
    (by simpa using fun hmis => hne hmis.2.1) (SrecState.init line)
  -- without a count record every file with such lines is accepted
  have haccepts : SrecAccepts line r.print start end_ := by
    apply (srecAccepts_of_lines hrun).mpr
    intro hfound
    have hnone : u.counts = (u32 (0 + 1), false, 0) := by
      rw [hcounts, List.foldl_cons, List.foldl_nil, SrecRecord.tally_data hd]
      rfl
    rw [show u.foundS5Rec = u.counts.2.1 from rfl, hnone] at hfound
    cases hfound
  rcases haccepts with ⟨v, s, hread⟩
  rcases srecRead_extents hread with ⟨hpass, hv⟩
  have hends : ∀ e ∈ (srecExtents line (pieces 516 r.print)).map fun p => u32 (p.1 + p.2),
      e ≤ end_ := by
    intro e he
    rcases List.mem_map.mp he with ⟨p, hp, rfl⟩
    exact (hpass p hp).2
  -- the first line holds the record
  obtain ⟨piece, skipped, hpieces, hspells, hlen, -⟩ :=
    pieces_spelled (f := []) r.spells_print (Or.inr rfl)
  rw [List.append_nil] at hpieces
  have hmem : (r.addr, r.data.length) ∈ srecExtents line (pieces 516 r.print) := by
    rw [hpieces]
    unfold srecExtents
    apply List.mem_append_left
    rw [srecExtent_spelled hspells hlen hd hne line]
    exact List.mem_singleton.mpr rfl
  have hlast : end_ ∈ (srecExtents line (pieces 516 r.print)).map fun p => u32 (p.1 + p.2) := by
    refine List.mem_map.mpr ⟨_, hmem, ?_⟩
    simp only
    rw [hr, u32_of_lt (by omega)]
  rw [readerValue_full (by omega) hend hends hlast] at hv
  exact ⟨s, by rw [hread, hv]⟩

/-- An S-record file that fills its range, with one data byte at its end. -/
theorem srecRead_full (line : LineBuf 516) {start end_ : Nat} (hlt : start < end_)
    (hend : end_ ≤ 16777216) :
    ∃ file s, srecRead line file start end_ = (.ok ((end_ : Int) - start), s) := by
  have hwidth : 16 ^ (2 * srecAddrWidth 2) = 16777216 := by decide
  obtain ⟨s, hread⟩ := @srecRead_print line
    (SrecRecord.make 2 (end_ - 1) [0] (by decide) (by omega) (by decide)) start end_ rfl
    (List.cons_ne_nil _ _) SrecRecord.make_sumRight (show start ≤ end_ - 1 by omega)
    (show end_ - 1 + 1 = end_ by omega) (by omega)
  exact ⟨_, s, hread⟩

/-- Some file makes all of `bytes_count` bytes. -/
theorem exists_writeRequests (h : o.Chooses a size) (hpos : 0 < o.count) :
    ∃ content, WriteRequests o content o.count.toNat := by
  have hbound := h.bound
  have hstart := h.start_bounds
  have hcount := h.count_bounds
  unfold WriteRequests readFile
  rw [h.end_eq]
  cases hformat : fileFormat o.filename with
  | intelHex =>
    obtain ⟨file, s, hread⟩ := ihexRead_full (LineBuf.zero 522)
      (show o.start < o.start + o.count.toNat by omega) (by omega)
    refine ⟨file, s.stores, ?_⟩
    rw [hread]
    simp only
    rw [if_neg (by omega)]
    congr 2
    omega
  | motorolaSRecord =>
    obtain ⟨file, s, hread⟩ := srecRead_full (LineBuf.zero 515)
      (show o.start < o.start + o.count.toNat by omega) (by omega)
    refine ⟨file, s.stores, ?_⟩
    rw [hread]
    simp only
    congr 2
    omega
  | rawBinary =>
    -- a file of that many bytes
    have hraw : rawLength o (List.replicate o.count.toNat (0 : Byte)).length =
        (o.count.toNat : Int) := by
      unfold rawLength
      rw [List.length_replicate, toInt32_of_lt (by omega)]
      split_ifs <;> omega
    refine ⟨List.replicate o.count.toNat 0,
      rawStores o.count.toNat (List.replicate o.count.toNat 0), ?_⟩
    simp only
    rw [hraw]

end Requests

/-! ## The options under which every file stays inside -/

section Inside

variable {o : MainOptions} {a size : Nat}

/-- What is programmed stays inside when the last block does. -/
theorem staysInside_iff (h : o.Chooses a size) {n : Nat} (hn : n ≤ o.count.toNat) :
    StaysInside o n a size ↔ o.start + programmedSize o.part n ≤ a + size := by
  have hsound := stm8Devices_sound _ o.part_mem
  have hbound := h.bound
  have hstart := h.start_bounds
  have hcount := h.count_bounds
  have hlt := programmedSize_lt hsound n
  have hiff := fun x => @stlink2Programs_iff _ hsound o.start n x (by omega)
  unfold StaysInside
  constructor
  · intro hall
    by_cases hzero : programmedSize o.part n = 0
    · omega
    · -- the last address
      have hlast := hall (o.start + programmedSize o.part n - 1)
        ((hiff _).mpr ⟨by omega, by omega⟩)
      omega
  · intro hle x hx
    have := (hiff x).mp hx
    omega

/-- From the beginning of an area of whole blocks nothing is programmed outside it. -/
theorem inside_of_area_start (h : o.Chooses a size) (hstart : o.start = a)
    (hblocks : size % o.part.flashBlockSize = 0) :
    o.start + programmedSize o.part o.count.toNat ≤ a + size := by
  have hcount := h.count_bounds
  have hmono := @programmedSize_mono o.part o.count.toNat size (by omega)
  rw [programmedSize_of_dvd (stm8Devices_sound _ o.part_mem) hblocks] at hmono
  omega

/-- A file is programmed inside the chosen area exactly when its last block ends inside the
area; this is so for every file exactly when `bytes_count`, rounded up to whole blocks, fits
between `start` and the end of the area. -/
theorem write_inside_iff (h : o.Chooses a size) :
    (∀ content n, WriteRequests o content n →
      (StaysInside o n a size ↔
        o.start + programmedSize o.part (fileLength o content).toNat ≤ a + size)) ∧
    ((∀ content n, WriteRequests o content n → StaysInside o n a size) ↔
      o.start + programmedSize o.part o.count.toNat ≤ a + size) := by
  have hsound := stm8Devices_sound _ o.part_mem
  have hstart := h.start_bounds
  have hcount := h.count_bounds
  refine ⟨fun content n hn => ?_, fun hall => ?_, fun hle content n hn => ?_⟩
  · rcases hn with ⟨stores, hread⟩
    have hlength := (readFile_ok hread (by omega)).1
    rw [← hlength, Int.toNat_natCast]
    exact staysInside_iff h (writeRequests_le h ⟨stores, hread⟩)
  · by_cases hpos : 0 < o.count
    · obtain ⟨content, hn⟩ := exists_writeRequests h hpos
      exact (staysInside_iff h (Nat.le_refl _)).mp (hall content _ hn)
    · have hzero : o.count.toNat = 0 := by omega
      rw [hzero, programmedSize_zero hsound]
      omega
  · have hmono := @programmedSize_mono o.part n o.count.toNat (writeRequests_le h hn)
    exact (staysInside_iff h (writeRequests_le h hn)).mpr (by omega)

/-! ## Whole runs -/

/-- A WRITE stops before it uses the programmer, or has a request of the file written, or comes to
a negative number of bytes. -/
theorem mainWrite_requests {σ ε : Type} (pgm : Programmer σ ε) (o : MainOptions)
    (file : Option (List Byte)) (s : σ) :
    (∃ e, mainWrite pgm o file s = (.error e, s)) ∨
      (∃ content n buffer, file = some content ∧ WriteRequests o content n ∧
        mainWrite pgm o file s = (do
          let sent ← Drv.raise .programmer (pgm.writeRange buffer o.start n o.kind)
          Drv.raise .programmer pgm.reset
          Drv.raise .programmer pgm.close
          pure ⟨n, sent⟩ : Drv σ (MainError ε) WriteReport) s) ∨
      ∃ buffer, mainWrite pgm o file s = (do
        Drv.raise .programmer (pgm.writeNegative buffer o.start (writeAlign o).toNat o.kind)
        Drv.stop .overrun : Drv σ (MainError ε) WriteReport) s := by
  unfold mainWrite
  rcases file with _ | content
  · exact Or.inl ⟨_, rfl⟩
  · simp only
    split
    · exact Or.inl ⟨_, rfl⟩
    · rcases hread : readFile o content with e | ⟨n, stores⟩
      · exact Or.inl ⟨_, rfl⟩
      · simp only
        by_cases hin : InBuffer (writeAlign o) n stores
        · rw [if_pos hin]
          rcases Int.eq_ofNat_of_zero_le hin.1 with ⟨m, rfl⟩
          exact Or.inr (Or.inl ⟨content, m, _, rfl, ⟨stores, hread⟩, rfl⟩)
        · rw [if_neg hin]
          by_cases hnegative : NegativeInBuffer (writeAlign o) n stores
          · rw [if_pos hnegative]
            exact Or.inr (Or.inr ⟨_, rfl⟩)
          · rw [if_neg hnegative]
            exact Or.inl ⟨_, rfl⟩

/-- Under options that leave every file inside, no run of a WRITE with the ST-Link V2 sends a
write to an address that is neither a control register nor inside the area. -/
theorem mainWrite_sends (h : o.Chooses a size)
    (hle : o.start + programmedSize o.part o.count.toNat ≤ a + size) (env : Stlinkv2Env)
    (file : Option (List Byte)) :
    Drv.Preserves (Stlinkv2State.SentOnly fun x => o.part.IsControl x ∨ a ≤ x ∧ x < a + size)
      (mainWrite (pgmStlinkv2 o.part env) o file) := by
  have hsound := stm8Devices_sound _ o.part_mem
  have hctl : ∀ x, o.part.IsControl x → o.part.IsControl x ∨ a ≤ x ∧ x < a + size :=
    fun x hx => Or.inl hx
  have hmem : o.kind ≠ .opt := by
    rcases h.kind with hk | hk | hk <;> rw [hk] <;> decide
  intro s hs
  rcases mainWrite_requests (pgmStlinkv2 o.part env) o file s with
    ⟨e, hstop⟩ | ⟨content, n, buffer, -, hn, hrun⟩ | ⟨buffer, hrun⟩
  · rw [hstop]
    exact hs
  · rw [hrun]
    have hmono := @programmedSize_mono o.part n o.count.toNat (writeRequests_le h hn)
    have hinside := (staysInside_iff h (writeRequests_le h hn)).mpr (by omega)
    have hwrite := @stlink2SwimWriteRange_sends o.part env _ hsound hctl o.kind hmem buffer
      o.start n fun x hx => Or.inr (hinside x hx)
    refine Drv.Preserves.bind (Drv.Preserves.raise hwrite) (fun sent => ?_) s hs
    refine Drv.Preserves.bind (Drv.Preserves.raise (stlink2Srst_sends hsound hctl)) fun _ => ?_
    exact (Drv.Preserves.raise stlink2Close_sends).bind fun _ => Drv.Preserves.pure _
  · rw [hrun]
    have hwrite := @stlink2WriteNegative_sends o.part env _ hsound hctl o.kind hmem buffer
      o.start (writeAlign o).toNat
    exact (Drv.Preserves.raise hwrite).bind (fun _ => Drv.Preserves.stop _) s hs

end Inside

/-! ## A start in the last block of the flash -/

/-- The options `-s 0x9FC0 -w f.bin`. -/
def lastBlockOptions : MainOptions where
  part := stm8Devices[42]
  memtype := .unknown
  startAddr := some 0x9FC0
  bytesCount := none
  filename := text "f.bin"
  part_mem := List.getElem_mem _
  start_some := fun _ => rfl
  start_lt := by simp
  count_int := by simp

theorem lastBlockOptions_chooses : lastBlockOptions.Chooses 0x8000 0x2000 where
  kind := Or.inr (Or.inr (by decide))
  area := by decide
  start_mem := by decide

/-- A file of 100 bytes goes on behind the flash, which ends at 0x9FFF: its run writes to
0xA010. -/
theorem write_leaves_area :
    lastBlockOptions.Chooses 0x8000 0x2000 ∧
      WriteRequests lastBlockOptions (List.replicate 100 0x55) 100 ∧
      Stlink2Programs lastBlockOptions.part lastBlockOptions.start 100 0xA010 ∧
      ¬StaysInside lastBlockOptions 100 0x8000 0x2000 ∧
      ∃ r t, mainWrite (pgmStlinkv2 lastBlockOptions.part .answering) lastBlockOptions
          (some (List.replicate 100 0x55)) ⟨.idle fun _ => 0, [], 0, 0, []⟩ = (.ok r, t) ∧
        t.target.mem 0xA010 = 0x55 := by
  have hprograms : Stlink2Programs lastBlockOptions.part lastBlockOptions.start 100 0xA010 :=
    ⟨1, by decide, by decide, by decide⟩
  have hraw : rawLength lastBlockOptions (List.replicate 100 (0x55 : Byte)).length = 100 := by
    rw [List.length_replicate]
    decide
  have hrequest : WriteRequests lastBlockOptions (List.replicate 100 0x55) 100 := by
    refine ⟨rawStores 100 (List.replicate 100 0x55), ?_⟩
    unfold readFile
    rw [show fileFormat lastBlockOptions.filename = .rawBinary by decide]
    simp only
    rw [hraw]
    rfl
  refine ⟨lastBlockOptions_chooses, hrequest, hprograms, fun hinside => ?_, ?_⟩
  · have := (hinside _ hprograms).2
    omega
  · obtain ⟨r, t, hrun, hmem⟩ := @Drv.run_of_returnsWith _ _ _
      (fun (_ : WriteReport) (t : Stlinkv2State) => t.target.mem 0xA010 == 0x55)
      (mainWrite (pgmStlinkv2 lastBlockOptions.part .answering) lastBlockOptions
        (some (List.replicate 100 0x55))) ⟨.idle fun _ => 0, [], 0, 0, []⟩ (by decide +kernel)
    exact ⟨r, t, hrun, by simpa using hmem⟩

/-- From the beginning of the flash all is well. -/
theorem write_inside_iff_flash :
    (∀ content n, WriteRequests sampleOptions content n →
      (StaysInside sampleOptions n 0x8000 0x8000 ↔
        sampleOptions.start +
          programmedSize sampleOptions.part (fileLength sampleOptions content).toNat ≤
            0x8000 + 0x8000)) ∧
    ((∀ content n, WriteRequests sampleOptions content n →
        StaysInside sampleOptions n 0x8000 0x8000) ↔
      sampleOptions.start + programmedSize sampleOptions.part sampleOptions.count.toNat ≤
        0x8000 + 0x8000) :=
  write_inside_iff ⟨Or.inr (Or.inr rfl), by decide, by decide⟩

end Stm8Flash
