import Stm8Flash.Srec.Write
import Stm8Flash.Spans

/-! # What becomes of a buffer that is written as S-records and read back

An accepted text stores the bytes of its data records in order, each record shifted by its type
(`srecLines_places`). So the text of `srec_write` comes back as one block, at the index 0 only
when the records are S1 records (`srec_roundTrip_iff`).
-/

namespace Stm8Flash

open Hex Stdio Word

/-! ## The stores of a text -/

/-- The stores of a record. -/
def SrecRecord.placements (start : Nat) (r : SrecRecord) : List (Nat × Byte) :=
  if r.IsData then srecStores (r.addr - start + (r.type - 1)) r.data else []

/-- The greatest end address behind a record. -/
def SrecRecord.reached (g : Nat) (r : SrecRecord) : Nat :=
  if r.IsData ∧ r.data ≠ [] then max g (u32 (r.addr + r.data.length)) else g

/-- An accepted line of a record. -/
theorem srecLine_places {start end_ : Nat} {s t : SrecState} {piece : List Byte} {r : SrecRecord}
    (hs : r.Spells piece) (hlen : piece.length < 516)
    (hrun : srecLine start end_ piece s = (.ok (), t)) :
    t.stores = s.stores ++ r.placements start ∧ t.greatestAddr = r.reached s.greatestAddr := by
  unfold SrecRecord.placements SrecRecord.reached
  rcases srecHeader_spells hs with ⟨a, hhead, haddr⟩
  have hstr : srecHeader (s.str piece) = some (r.type, r.len, a) := by
    rw [SrecState.str_spells hs hlen, hhead]
  by_cases hd : r.IsData
  · rw [if_pos hd]
    refine ⟨(srecLine_stores_spelled hs hd hlen hrun).1, ?_⟩
    rcases fieldBytes_spells hs hd hlen s with ⟨-, hcount, hdlen⟩
    have hreach := (srecLine_spans hrun).2.2
    unfold srecSpan at hreach
    rw [show (s.line.fill piece).cstr 0 = s.str piece from rfl, hstr] at hreach
    simp only at hreach
    rw [if_pos (show isDataType r.type = true from hd), spanReach_ofRecord, hcount] at hreach
    by_cases hnil : r.data = []
    · rw [hreach, hnil, if_pos List.length_nil, if_neg fun h => h.2 rfl]
    · have hne : r.data.length ≠ 0 := fun h => hnil (List.eq_nil_of_length_eq_zero h)
      rw [hreach, if_neg hne, if_pos ⟨hd, hnil⟩, haddr hd hnil, hdlen]
  · -- any other record leaves both alone
    have hother : (srecLine start end_ piece s).2.placed = (s.readLine piece).placed := by
      apply srecLine_other_placed
      intro y n b hh
      rw [hstr] at hh
      cases hh
      simpa [SrecRecord.IsData] using hd
    rw [hrun] at hother
    rw [if_neg hd, List.append_nil, if_neg fun h => hd h.1]
    exact ⟨congrArg (fun p => p.2.1) hother, congrArg (fun p => p.2.2) hother⟩

/-- A line feed that is skipped places nothing. -/
theorem srecLines_skipped_placed (start end_ : Nat) {skipped : List (List Byte)}
    (h : skipped = [] ∨ skipped = [[ascii '\n']]) (s : SrecState) :
    (srecLines start end_ skipped s).2.stores = s.stores ∧
      (srecLines start end_ skipped s).2.greatestAddr = s.greatestAddr := by
  rcases h with rfl | rfl
  · exact ⟨rfl, rfl⟩
  · have hstr : s.str [ascii '\n'] = [ascii '\n'] :=
      LineBuf.cstr_fill s.line (by decide) (by decide) (Nat.zero_le _)
    have hother := @srecLine_other_placed start end_ s [ascii '\n'] fun t n a hh => by
      rw [hstr] at hh
      cases hh
    rw [srecLines_cons]
    have hrest : ∀ u : Unit, Drv.Keeps SrecState.placed (srecLines start end_ []) :=
      fun _ => Drv.Keeps.pure ()
    have hall := (Drv.Keeps.bind_right hrest s).trans hother
    exact ⟨congrArg (fun p => p.2.1) hall, congrArg (fun p => p.2.2) hall⟩

/-- The lines of a text that is accepted store the bytes of its data records, in order. -/
theorem srecLines_places {start end_ : Nat} {rs : List SrecRecord} {file : List Byte}
    (ht : SrecText rs file) {s u : SrecState}
    (hrun : srecLines start end_ (pieces 516 file) s = (.ok (), u)) :
    u.stores = s.stores ++ rs.flatMap (SrecRecord.placements start) ∧
      u.greatestAddr = rs.foldl SrecRecord.reached s.greatestAddr := by
  induction rs generalizing file s with
  | nil =>
    rcases ht.uncons with ⟨-, rfl⟩ | ⟨r, rs, l, f, hcons, -⟩
    · cases hrun
      exact ⟨(List.append_nil _).symm, rfl⟩
    · cases hcons
  | cons r rs ih =>
    rcases ht.uncons with ⟨hnil, -⟩ | ⟨r', rs', l, f, hcons, rfl, hl, hlast, hf⟩
    · cases hnil
    · cases hcons
      obtain ⟨piece, skipped, hpieces, hspells, hlen, hskip⟩ := pieces_spelled hl hlast
      rw [hpieces, srecLines_cons] at hrun
      rcases Drv.bind_eq_ok.mp hrun with ⟨_, t, hline, hrest⟩
      rw [srecLines_append] at hrest
      rcases Drv.bind_eq_ok.mp hrest with ⟨_, v, hskipped, hrest⟩
      -- the record, what is skipped behind it, and the rest
      have hfirst := srecLine_places hspells hlen hline
      have hnone := srecLines_skipped_placed start end_ hskip t
      rw [hskipped] at hnone
      rcases ih hf hrest with ⟨hstores, hreach⟩
      rw [hstores, hreach, hnone.1, hnone.2, hfirst.1, hfirst.2, List.flatMap_cons,
        List.append_assoc]
      exact ⟨rfl, rfl⟩

/-! ## The text of `srec_write` -/

theorem srecStores_append (x : Nat) (bs cs : List Byte) :
    srecStores x (bs ++ cs) = srecStores x bs ++ srecStores (x + bs.length) cs := by
  unfold srecStores
  rw [Image.block_append, List.map_append]

/-- Below 2^32 the indices are those of a block. -/
theorem srecStores_of_lt {x : Nat} {bs : List Byte} (h : x + bs.length ≤ 4294967296) :
    srecStores x bs = Image.block x bs := by
  have hsame : srecStores x bs = (Image.block x bs).map id := by
    apply List.map_congr_left
    intro p hp
    have haddr := Image.block_addr hp
    rw [u32_of_lt (by omega)]
    rfl
  rw [hsame, List.map_id]

/-- The chunks of the loop are one block of the buffer, and reach its end. -/
theorem SrecChunked.places {buf : Nat → Byte} {start end_ t c : Nat} {rs : List SrecRecord}
    (h : SrecChunked buf start end_ t c rs) (ht : isDataType t = true) (hend : end_ < 4294967296)
    (hc : start ≤ c) :
    rs.flatMap (SrecRecord.placements start) =
        srecStores (c - start + (t - 1)) (Image.slice buf (c - start) (end_ - c)) ∧
      ∀ g, rs.foldl SrecRecord.reached g = if c < end_ then max g end_ else g := by
  induction h with
  | @done c hle =>
    have hzero : end_ - c = 0 := by omega
    rw [hzero]
    exact ⟨rfl, fun g => (if_neg (by omega)).symm⟩
  | @data c n rs hpos h32 hle hlast htype haddr hlen hrest ih =>
    rcases ih (by omega) with ⟨hstores, hreach⟩
    have hdata : (SrecRecord.make t c (Image.slice buf (c - start) n) htype haddr hlen).IsData := ht
    have hne : Image.slice buf (c - start) n ≠ [] := by
      apply List.ne_nil_of_length_pos
      rw [Image.slice_length]
      exact hpos
    constructor
    · -- the chunk and the rest are one slice of the buffer
      have hsplit : end_ - c = n + (end_ - (c + n)) := by omega
      have hoff : c - start + n = c + n - start := by omega
      have hidx : c - start + (t - 1) + n = c + n - start + (t - 1) := by omega
      rw [List.flatMap_cons, hstores, hsplit, Image.slice_append, srecStores_append,
        Image.slice_length, hoff, hidx]
      congr 1
      exact if_pos hdata
    · intro g
      have hfirst : (SrecRecord.make t c (Image.slice buf (c - start) n) htype haddr hlen).reached g
          = max g (c + n) := by
        unfold SrecRecord.reached
        rw [if_pos ⟨hdata, hne⟩]
        show max g (u32 (c + (Image.slice buf (c - start) n).length)) = _
        rw [Image.slice_length, u32_of_lt (by omega)]
      rw [List.foldl_cons, hfirst, hreach]
      split_ifs <;> omega

/-- The header, the count and the end record place nothing. -/
theorem SrecRecord.places_nothing {r : SrecRecord} (h : isDataType r.type = false) (start g : Nat) :
    r.placements start = [] ∧ r.reached g = g := by
  have hd : ¬r.IsData := by
    unfold SrecRecord.IsData
    rw [h]
    exact Bool.false_ne_true
  exact ⟨if_neg hd, if_neg fun hboth => hd hboth.1⟩

/-- The text is accepted for any range that holds the one it was written for, when the count
record has room for the number of data records. -/
theorem srecAccepts_written (line : LineBuf 516) (buf : Nat → Byte) {start end_ limit : Nat}
    (hle : end_ ≤ limit) (hlimit : limit < 4294967296) (hlen : end_ - start ≤ 65535 * 32) :
    SrecAccepts line (srecWrite buf start end_) start limit := by
  obtain ⟨rs, all, htext, hw⟩ := srecWrite_written buf start (show end_ < 4294967296 by omega)
  have hrange : ∀ r ∈ all, r.IsData → ∀ k < r.data.length,
      start ≤ r.addr + k ∧ r.addr + k < limit := by
    intro r hr hd k hk
    have := hw.inRange r hr hd k hk
    omega
  obtain ⟨u, hrun, hcounts⟩ := srecLines_text hlimit (htext ▸ srecText_print all) hw.sum
    (fun r hr h => (hw.count r hr h).1) hrange hw.not_misread (SrecState.init line)
  refine (srecAccepts_of_lines hrun).mpr fun hfound => ?_
  -- what the counters hold behind the last record
  have hnumber := tally_number all (c := (0, false, 0)) (by decide)
  have hexpected := @tally_expected all _ (fun r hr h => (hw.count r hr h).2)
    (0, false, 0) (fun hf => by cases hf)
  rw [show (SrecState.init line).counts = (0, false, 0) from rfl] at hcounts
  rw [← hcounts, hw.number] at hnumber
  rw [← hcounts] at hexpected
  have hrecords := hw.covers.length_eq
  have hnum : u.numberOfRecords = u32 (0 + rs.length) := hnumber
  have hexp : u.expectedDataRecords = u32 rs.length % 65536 := hexpected hfound
  rw [hnum, hexp, Nat.zero_add, u32_of_lt (by omega)]
  omega

/-- `srec_read` returns the length of the range that `srec_write` was given, and stores its bytes
as one block, as many bytes behind the start of the buffer as the addresses of the data records
are wider than those of S1 records. -/
theorem srecRead_written (line : LineBuf 516) (buf : Nat → Byte) {start end_ limit : Nat}
    (hlt : start < end_) (hle : end_ ≤ limit) (hlimit : limit < 4294967296)
    (hlen : end_ - start ≤ 65535 * 32) :
    ∃ s, srecRead line (srecWrite buf start end_) start limit =
        (.ok ((end_ - start : Nat) : Int), s) ∧
      s.stores = Image.block ((srecDataRectype end_).1 - 1) (Image.slice buf 0 (end_ - start)) := by
  have hend : end_ < 4294967296 := by omega
  rcases srecAccepts_written line buf hle hlimit hlen with ⟨v, s, hread⟩
  obtain ⟨t, rs, h9, htype, ht, -, htext, hchunked⟩ := srecWrite_records buf start hend
  have hbounds := isDataType_bounds ht
  have hother : isDataType (10 - t) = false := by
    rcases hd : isDataType (10 - t) with _ | _
    · rfl
    · have := isDataType_bounds hd
      omega
  rcases hchunked.places ht hend (Nat.le_refl start) with ⟨hstores, hreach⟩
  rcases srecLines_places (htext ▸ srecText_print _) (srecLines_of_ok hread) with ⟨hall, hgreatest⟩
  -- only the data records in the middle place something
  have hhead := fun g => @SrecRecord.places_nothing srecHeaderRecord rfl start g
  have hcount := fun g => @SrecRecord.places_nothing (srecCountRecord (u32 rs.length)) rfl start g
  have hlast := fun g => @SrecRecord.places_nothing (srecEndRecord t h9) hother start g
  rw [List.flatMap_cons, List.flatMap_append, List.flatMap_cons, List.flatMap_cons,
    List.flatMap_nil, (hhead 0).1, (hcount 0).1, (hlast 0).1, hstores, Nat.sub_self, Nat.zero_add] at hall
  rw [List.foldl_cons, List.foldl_append, List.foldl_cons, List.foldl_cons, List.foldl_nil,
    (hhead _).2, (hcount _).2, (hlast _).2, hreach, if_pos hlt] at hgreatest
  have hend_eq : s.greatestAddr = end_ := by
    rw [hgreatest]
    exact Nat.max_eq_right (Nat.zero_le _)
  have hblock : s.stores = Image.block (t - 1) (Image.slice buf 0 (end_ - start)) := by
    rw [hall, srecStores_of_lt (by rw [Image.slice_length]; omega)]
    simp [SrecState.init]
  refine ⟨s, ?_, ?_⟩
  · have hlines := srecLines_of_ok hread
    unfold srecRead at hread ⊢
    rw [Drv.bind_ok hlines, Drv.state_bind_run] at hread ⊢
    split at hread
    · cases hread
    · rename_i hcounts
      rw [if_neg hcounts, hend_eq, sub32_of_le (Nat.le_of_lt hlt) hend, toInt32_of_lt (by omega)]
      rfl
  · rw [hblock, htype]

/-! ## The round trip -/

/-- The range that a text was written for is read back with its length. Each byte lands behind its
place by the bytes that its address has more than two, so that the buffer is restored, whatever it
held, if and only if the range ends below 0x10000. -/
theorem srec_roundTrip_iff (line : LineBuf 516) (buf : Nat → Byte) {start end_ : Nat}
    (hlt : start < end_) (hend : end_ < 2 ^ 32) (hlen : end_ - start ≤ 65535 * 32) :
    ∃ s, srecRead line (srecWrite buf start end_) start end_ =
        (.ok ((end_ - start : Nat) : Int), s) ∧
      (∀ target, ∀ i < end_ - start,
        s.buf target (i + ((srecDataRectype end_).1 - 1)) = buf i) ∧
      (∀ target i, i < (srecDataRectype end_).1 - 1 ∨
        end_ - start + ((srecDataRectype end_).1 - 1) ≤ i → s.buf target i = target i) ∧
      ((∀ target, ∀ i < end_ - start, s.buf target i = buf i) ↔ end_ < 0x10000) := by
  obtain ⟨s, hread, hstores⟩ := srecRead_written line buf hlt (Nat.le_refl end_) hend hlen
  have hat : ∀ target, ∀ i < end_ - start,
      s.buf target (i + ((srecDataRectype end_).1 - 1)) = buf i := by
    intro target i hi
    have h := Image.storeAll_block_slice_at target buf ((srecDataRectype end_).1 - 1) 0
      (end_ - start) i hi
    rw [Nat.zero_add] at h
    rw [SrecState.buf, hstores, Nat.add_comm, h]
  have hoff : ∀ target i, i < (srecDataRectype end_).1 - 1 ∨
      end_ - start + ((srecDataRectype end_).1 - 1) ≤ i → s.buf target i = target i := by
    intro target i hi
    rw [SrecState.buf, hstores]
    apply Image.storeAll_block_off
    rw [Image.slice_length]
    omega
  refine ⟨s, hread, hat, hoff, ?_⟩
  constructor
  · -- the first byte of the buffer has to come from the file
    intro hsame
    by_contra hwide
    have hshift : 0 < (srecDataRectype end_).1 - 1 := by
      unfold srecDataRectype
      rw [if_pos (by omega)]
      split <;> decide
    have h0 := hsame (fun _ => buf 0 + 1) 0 (by omega)
    rw [hoff _ 0 (Or.inl hshift)] at h0
    exact absurd h0 (by simp)
  · intro hnarrow target i hi
    have hone : (srecDataRectype end_).1 - 1 = 0 := by
      unfold srecDataRectype
      rw [if_neg (by omega)]
      rfl
    have h := hat target i hi
    rwa [hone, Nat.add_zero] at h

/-- Four bytes across 0x10000 come back one place too high. -/
theorem srec_roundTrip_boundary :
    ∃ s, srecRead (LineBuf.zero 515) (srecWrite (fun i => UInt8.ofNat (i + 1)) 0xFFFE 0x10002)
        0xFFFE 0x10002 = (.ok ((0x10002 - 0xFFFE : Nat) : Int), s) ∧
      (∀ target, ∀ i < 0x10002 - 0xFFFE,
        s.buf target (i + ((srecDataRectype 0x10002).1 - 1)) = UInt8.ofNat (i + 1)) ∧
      (∀ target i, i < (srecDataRectype 0x10002).1 - 1 ∨
        0x10002 - 0xFFFE + ((srecDataRectype 0x10002).1 - 1) ≤ i → s.buf target i = target i) ∧
      ((∀ target, ∀ i < 0x10002 - 0xFFFE, s.buf target i = UInt8.ofNat (i + 1)) ↔
        0x10002 < 0x10000) :=
  srec_roundTrip_iff (LineBuf.zero 515) (fun i => UInt8.ofNat (i + 1)) (by decide) (by decide)
    (by decide)

end Stm8Flash
