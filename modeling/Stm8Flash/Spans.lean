import Stm8Flash.Ihex.Bounds
import Stm8Flash.Srec.Line

/-! # What a file fills

An accepted file seen without the run of its reader: each data record with a byte on its line
is a `Span`, some consecutive indices of `buf` (modulo 2^32) and the address behind the record.
`ihexRead_spans` and `srecRead_spans` say that the readers store to the indices of the spans, in
order, and return the greatest end address.
-/

namespace Stm8Flash

open Hex Stdio Word

/-- The data of one record: `count` bytes from the index `index` on, and the end address. -/
structure Span where
  index : Nat
  count : Nat
  reach : Nat
deriving DecidableEq, Repr

/-- The indices of `buf` that the span fills. -/
def Span.indices (p : Span) : List Nat := (List.range p.count).map fun j => u32 (p.index + j)

/-- A record without a byte fills nothing and reaches nowhere. -/
def Span.ofRecord (index count reach : Nat) : List Span :=
  if count = 0 then [] else [⟨index, count, reach⟩]

/-- The indices that the spans fill, in the order of the file. -/
def spanIndices (spans : List Span) : List Nat := spans.flatMap Span.indices

/-- The greatest end address of the spans, `g` so far. -/
def spanReach (g : Nat) (spans : List Span) : Nat := spans.foldl (fun g p => max g p.reach) g

theorem spanIndices_append (ps qs : List Span) :
    spanIndices (ps ++ qs) = spanIndices ps ++ spanIndices qs := by
  simp [spanIndices]

theorem spanReach_append (g : Nat) (ps qs : List Span) :
    spanReach g (ps ++ qs) = spanReach (spanReach g ps) qs := by
  simp [spanReach]

theorem spanIndices_ofRecord (index count reach : Nat) :
    spanIndices (Span.ofRecord index count reach) =
      (List.range count).map fun j => u32 (index + j) := by
  unfold Span.ofRecord
  split
  · rename_i h
    rw [h]
    rfl
  · simp [spanIndices, Span.indices]

theorem spanReach_ofRecord (g index count reach : Nat) :
    spanReach g (Span.ofRecord index count reach) = if count = 0 then g else max g reach := by
  unfold Span.ofRecord
  split <;> rfl

/-- The stores of a block, seen by their indices. -/
theorem block_indices (x : Nat) (bs : List Byte) :
    (Image.block x bs).map Prod.fst = (List.range bs.length).map fun j => x + j := by
  induction bs generalizing x with
  | nil => rfl
  | cons b bs ih =>
    rw [Image.block_cons, List.map_cons, ih, List.length_cons, List.range_succ_eq_map,
      List.map_cons, List.map_map]
    congr 1
    apply List.map_congr_left
    intro j _
    simp only [Function.comp_apply]
    omega

/-! ## Intel HEX -/

/-- The base address after a line, `base` before it. -/
def ihexNextBase (base : Nat) (line : LineBuf 523) : Nat :=
  match ihexHeader (line.cstr 0) with
  | some (_, _, t) =>
    match scanX 4 (line.cstr 9) with
    | some (v, _) =>
      if t = 2 then u32 (v * 16) else if t = 4 then u32 (v * 65536) else base
    | none => base
  | none => base

/-- The data fields that the loop takes from the text behind the header. -/
def ihexFieldCount (chunkLen : Nat) (fields : List Byte) : Nat := min chunkLen (fields.length / 2)

/-- The span of a line. -/
def ihexSpan (start base : Nat) (line : LineBuf 523) : List Span :=
  match ihexHeader (line.cstr 0) with
  | some (n, a, t) =>
    if t = 0 then
      Span.ofRecord (sub32 (u32 (a + base)) start) (ihexFieldCount n ((line.cstr 0).drop 9))
        (u32 (a + base + n))
    else []
  | none => []

/-- The spans of the lines of an Intel HEX file. -/
def ihexSpans (start : Nat) : LineBuf 523 → Nat → List (List Byte) → List Span
  | _, _, [] => []
  | line, base, l :: ls =>
    ihexSpan start base (line.fill l) ++
      ihexSpans start (line.fill l) (ihexNextBase base (line.fill l)) ls

/-- A round of the data loop that stores a byte and goes on. -/
theorem ihexData_round {start end_ n a k : Nat} {c₁ c₂ : Byte} {rest : List Byte}
    {s t : IhexState} (hk : k < n)
    (h : ihexData start end_ n a 0 k (c₁ :: c₂ :: rest) s = (.ok (), t)) :
    ∃ byte, ihexData start end_ n a 0 (k + 1) rest
      ((s.reach (u32 (a + s.offset + n))).store (u32 (sub32 (u32 (a + s.offset)) start + k))
        byte) = (.ok (), t) := by
  unfold ihexData at h
  rw [Drv.state_bind_run] at h
  rcases hscan : scanX 2 (c₁ :: c₂ :: rest) with _ | ⟨v, r⟩
  · rw [hscan] at h
    cases h
  · rw [hscan] at h
    simp only at h
    rw [if_neg (by simp), if_neg (by omega)] at h
    -- a test that fails returns -1
    by_cases hstart : u32 (a + s.offset) < start
    · rw [if_pos hstart] at h
      cases h
    · rw [if_neg hstart] at h
      by_cases hlast : u32 (a + s.offset + n) > end_
      · rw [if_pos hlast] at h
        cases h
      · rw [if_neg hlast, Drv.change_bind_run] at h
        exact ⟨UInt8.ofNat v, h⟩

/-- Behind the data nothing happens. -/
theorem ihexData_behind {start end_ n a k : Nat} {rest : List Byte} {s t : IhexState}
    (hk : min (n - k) (rest.length / 2) = 0)
    (h : ihexData start end_ n a 0 k rest s = (.ok (), t)) : t = s := by
  match rest with
  | [] =>
    cases h
    rfl
  | [_] =>
    cases h
    rfl
  | c₁ :: c₂ :: rest =>
    simp only [List.length_cons] at hk
    unfold ihexData at h
    rw [Drv.state_bind_run] at h
    rcases hscan : scanX 2 (c₁ :: c₂ :: rest) with _ | ⟨v, r⟩
    · rw [hscan] at h
      cases h
    · rw [hscan] at h
      simp only at h
      rw [if_neg (by simp), if_pos (by omega)] at h
      cases h
      rfl

/-- The data loop from the `k`-th field on, when it does not return `-1`. -/
theorem ihexData_covers {start end_ n a : Nat} (k : Nat) (rest : List Byte) {s t : IhexState}
    (h : ihexData start end_ n a 0 k rest s = (.ok (), t)) :
    t.line = s.line ∧ t.offset = s.offset ∧
      t.stores.map Prod.fst = s.stores.map Prod.fst ++
        (List.range' k (min (n - k) (rest.length / 2))).map
          (fun j => u32 (sub32 (u32 (a + s.offset)) start + j)) ∧
      t.greatestAddr = if min (n - k) (rest.length / 2) = 0 then s.greatestAddr
        else max s.greatestAddr (u32 (a + s.offset + n)) := by
  -- on the fields that are left
  induction hcount : min (n - k) (rest.length / 2) generalizing k rest s with
  | zero =>
    -- no field is left
    rw [ihexData_behind hcount h]
    simp
  | succ m ih =>
    match rest with
    | [] => simp at hcount
    | [_] => simp at hcount
    | c₁ :: c₂ :: rest =>
      simp only [List.length_cons] at hcount
      rcases ihexData_round (by omega) h with ⟨byte, hnext⟩
      rcases ih (k + 1) rest hnext (by omega) with ⟨hline, hoffset, hstores, hreach⟩
      refine ⟨by simpa using hline, by simpa using hoffset, ?_, ?_⟩
      · rw [hstores, List.range'_succ]
        simp
      · rw [hreach, if_neg (Nat.succ_ne_zero m)]
        simp only [IhexState.store_greatestAddr, IhexState.reach_greatestAddr,
          IhexState.store_offset, IhexState.reach_offset]
        split <;> omega

/-- Records of another type leave everything as it is. -/
theorem ihexData_other_run {start end_ n a t : Nat} (ht : t ≠ 0) (k : Nat) (rest : List Byte)
    {s u : IhexState} (h : ihexData start end_ n a t k rest s = (.ok (), u)) : u = s := by
  match rest with
  | [] =>
    cases h
    rfl
  | [_] =>
    cases h
    rfl
  | c₁ :: c₂ :: rest =>
    unfold ihexData at h
    rw [Drv.state_bind_run] at h
    rcases hscan : scanX 2 (c₁ :: c₂ :: rest) with _ | ⟨v, r⟩
    · rw [hscan] at h
      cases h
    · rw [hscan] at h
      simp only at h
      rw [if_pos ht] at h
      cases h
      rfl

theorem ihexBase_run_ok {scale : Nat} {s u : IhexState} (h : ihexBase scale s = (.ok (), u)) :
    ∃ v r, scanX 4 (s.line.cstr 9) = some (v, r) ∧ u = { s with offset := u32 (v * scale) } := by
  unfold ihexBase at h
  rw [Drv.state_bind_run] at h
  rcases hscan : scanX 4 (s.line.cstr 9) with _ | ⟨v, r⟩
  · rw [hscan] at h
    cases h
  · rw [hscan] at h
    cases h
    exact ⟨v, r, rfl, rfl⟩

/-- A base record sets the offset, and any other record but a data record changes nothing. -/
theorem ihexLine_other_run {start end_ n a ty : Nat} {piece : List Byte} {s t : IhexState}
    (hhead : ihexHeader (s.str piece) = some (n, a, ty)) (h0 : ty ≠ 0)
    (h : ihexLine start end_ piece s = (.ok (), t)) :
    t = { s.readLine piece with offset := ihexNextBase s.offset (s.line.fill piece) } := by
  have htext : s.str piece = (s.line.fill piece).cstr 0 := rfl
  unfold ihexNextBase
  rw [← htext, hhead]
  simp only
  unfold ihexLine at h
  rw [Drv.change_bind_run, Drv.state_bind_run] at h
  unfold IhexState.str at hhead
  rw [hhead] at h
  simp only at h
  -- at most one of the two address branches runs, and the data loop changes nothing
  have hbase : ∀ scale : Nat, (ihexBase scale >>= fun _ =>
      ihexData start end_ n a ty 0 (((s.readLine piece).line.cstr 0).drop 9))
      (s.readLine piece) = (.ok (), t) →
      ∃ v r, scanX 4 ((s.line.fill piece).cstr 9) = some (v, r) ∧
        t = { s.readLine piece with offset := u32 (v * scale) } := by
    intro scale hrun
    rcases Drv.bind_eq_ok.mp hrun with ⟨_, u, hfirst, hdata⟩
    rw [ihexData_other_run h0 0 _ hdata]
    exact ihexBase_run_ok hfirst
  by_cases h2 : ty = 2
  · rw [if_pos h2, if_neg (by omega)] at h
    rcases hbase 16 h with ⟨v, r, hscan, ht⟩
    rw [ht, hscan]
    simp only
    rw [if_pos h2]
  · by_cases h4 : ty = 4
    · rw [if_neg h2, if_pos h4] at h
      rcases hbase 65536 h with ⟨v, r, hscan, ht⟩
      rw [ht, hscan]
      simp only
      rw [if_neg h2, if_pos h4]
    · rw [if_neg h2, if_neg h4] at h
      rw [ihexData_other_run h0 0 _ h]
      split
      · rw [if_neg h2, if_neg h4]
        rfl
      · rfl

/-- What an accepted line adds. -/
theorem ihexLine_spans {start end_ : Nat} {piece : List Byte} {s t : IhexState}
    (h : ihexLine start end_ piece s = (.ok (), t)) :
    t.line = s.line.fill piece ∧ t.offset = ihexNextBase s.offset (s.line.fill piece) ∧
      t.stores.map Prod.fst = s.stores.map Prod.fst ++
        spanIndices (ihexSpan start s.offset (s.line.fill piece)) ∧
      t.greatestAddr = spanReach s.greatestAddr (ihexSpan start s.offset (s.line.fill piece)) := by
  have htext : s.str piece = (s.line.fill piece).cstr 0 := rfl
  rcases hhead : ihexHeader (s.str piece) with _ | ⟨n, a, ty⟩
  · rw [ihexLine_none hhead] at h
    cases h
  · unfold ihexSpan
    rw [← htext, hhead]
    simp only
    by_cases h0 : ty = 0
    · -- a data record keeps the base
      subst h0
      have hbase : ihexNextBase s.offset (s.line.fill piece) = s.offset := by
        unfold ihexNextBase
        rw [← htext, hhead]
        simp only
        split <;> rfl
      rw [ihexLine_dataRecord hhead] at h
      rcases ihexData_covers 0 _ h with ⟨hline, hoffset, hstores, hreach⟩
      rw [if_pos rfl, spanIndices_ofRecord, spanReach_ofRecord, hbase, hstores, hreach,
        Nat.sub_zero, List.range_eq_range']
      exact ⟨hline, hoffset, rfl, rfl⟩
    · rw [if_neg h0, ihexLine_other_run hhead h0 h]
      refine ⟨rfl, rfl, ?_, rfl⟩
      simp [IhexState.readLine, spanIndices]

/-- The stores of accepted lines go to the indices of their spans, in order. -/
theorem ihexLines_spans {start end_ : Nat} {ls : List (List Byte)} {s t : IhexState}
    (h : ihexLines start end_ ls s = (.ok (), t)) :
    t.stores.map Prod.fst = s.stores.map Prod.fst ++
        spanIndices (ihexSpans start s.line s.offset ls) ∧
      t.greatestAddr = spanReach s.greatestAddr (ihexSpans start s.line s.offset ls) := by
  induction ls generalizing s with
  | nil =>
    cases h
    exact ⟨by simp [ihexSpans, spanIndices], rfl⟩
  | cons l ls ih =>
    unfold ihexLines at h
    rw [Drv.forEach_cons] at h
    rcases Drv.bind_eq_ok.mp h with ⟨_, u, hline, hrest⟩
    rcases ihexLine_spans hline with ⟨hbuf, hbase, hstores, hreach⟩
    rcases ih hrest with ⟨hstores', hreach'⟩
    rw [hbuf, hbase] at hstores' hreach'
    unfold ihexSpans
    rw [spanIndices_append, spanReach_append, ← hreach, ← List.append_assoc, ← hstores]
    exact ⟨hstores', hreach'⟩

/-- An accepted Intel HEX file: where its bytes go, and the value returned. -/
theorem ihexRead_spans {line : LineBuf 523} {file : List Byte} {start end_ : Nat} {v : Int}
    {s : IhexState} (h : ihexRead line file start end_ = (.ok v, s)) :
    s.stores.map Prod.fst = spanIndices (ihexSpans start line 0 (pieces 523 file)) ∧
      v = toInt32 (sub32 (spanReach 0 (ihexSpans start line 0 (pieces 523 file))) start) := by
  unfold ihexRead at h
  rcases Drv.bind_eq_ok.mp h with ⟨_, t, hlines, hrest⟩
  cases hrest
  rcases ihexLines_spans hlines with ⟨hstores, hreach⟩
  rw [hreach]
  exact ⟨hstores, rfl⟩

/-! ## S-records -/

/-- The span of a line. -/
def srecSpan (start : Nat) (line : LineBuf 516) : List Span :=
  match srecHeader (line.cstr 0) with
  | some (t, n, a) =>
    if isDataType t then
      Span.ofRecord (sub32 (srecAddr t a) start + (t - 1)) (srecFieldCount t n)
        (u32 (srecAddr t a + srecDataLen t n))
    else []
  | none => []

/-- The spans of the lines of an S-record file. -/
def srecSpans (start : Nat) : LineBuf 516 → List (List Byte) → List Span
  | _, [] => []
  | line, l :: ls => srecSpan start (line.fill l) ++ srecSpans start (line.fill l) ls

theorem srecStores_indices (x : Nat) (bs : List Byte) :
    (srecStores x bs).map Prod.fst = (List.range bs.length).map fun j => u32 (x + j) := by
  have hfst : (srecStores x bs).map Prod.fst = ((Image.block x bs).map Prod.fst).map u32 := by
    simp [srecStores, Function.comp_def]
  rw [hfst, block_indices, List.map_map]
  rfl

/-- The line and the greatest end address after a data loop that goes through. -/
theorem srecFields_reach {start end_ a d n i : Nat} {s t : SrecState}
    (h : srecFields start end_ true a d n i s = (.ok (), t)) :
    t.line = s.line ∧
      t.greatestAddr = if n = 0 then s.greatestAddr else max s.greatestAddr (u32 (a + d)) := by
  induction n generalizing i s with
  | zero =>
    cases h
    exact ⟨rfl, rfl⟩
  | succ n ih =>
    have htests := (srecFields_of_ok h).2 (Nat.succ_ne_zero n)
    unfold srecFields at h
    rcases hat : srecAt s.line i with _ | v
    · rw [Drv.bind_error (srecByte_none _ _ hat)] at h
      cases h
    · rw [Drv.bind_ok (srecByte_some _ _ hat), Drv.bind_ok (srecStore_passes htests i v _)] at h
      have hmax : (((s.setChecksum (u32 (s.checksum + v))).reach (u32 (a + d))).store
          (u32 (sub32 a start + (i - 8) / 2)) (UInt8.ofNat v)).greatestAddr =
          max s.greatestAddr (u32 (a + d)) := by
        rw [SrecState.store_greatestAddr, SrecState.reach_greatestAddr]
        rfl
      rcases ih h with ⟨hline, hreach⟩
      refine ⟨by simpa using hline, ?_⟩
      rw [hreach, hmax, if_neg (Nat.succ_ne_zero n)]
      split <;> omega

/-- What an accepted line adds. -/
theorem srecLine_spans {start end_ : Nat} {piece : List Byte} {s t : SrecState}
    (h : srecLine start end_ piece s = (.ok (), t)) :
    t.line = s.line.fill piece ∧
      t.stores.map Prod.fst = s.stores.map Prod.fst ++
        spanIndices (srecSpan start (s.line.fill piece)) ∧
      t.greatestAddr = spanReach s.greatestAddr (srecSpan start (s.line.fill piece)) := by
  have htext : s.str piece = (s.line.fill piece).cstr 0 := rfl
  by_cases hdata : ∃ ty n a, srecHeader (s.str piece) = some (ty, n, a) ∧ isDataType ty = true
  · rcases hdata with ⟨ty, n, a, hhead, hty⟩
    have hstores := srecLine_data start end_ hhead hty
    rw [h] at hstores
    rw [srecLine_dataRecord hhead hty] at h
    rcases Drv.bind_eq_ok.mp h with ⟨_, u, hfields, hrecord⟩
    -- the end of the record places nothing
    have hend := srecRecordEnd_keeps true (u32 (2 * (n + 1))) u
    rw [hrecord] at hend
    rcases srecFields_reach hfields with ⟨hline, hreach⟩
    rcases srecFields_of_ok hfields with ⟨hcount, htests⟩
    unfold srecSpan
    rw [← htext, hhead]
    simp only
    rw [if_pos hty, spanIndices_ofRecord, spanReach_ofRecord]
    refine ⟨(congrArg Prod.fst hend).trans hline, ?_, ?_⟩
    · rw [hstores, List.map_append]
      by_cases hzero : srecFieldCount ty n = 0
      · have hnil : s.fieldBytes piece ty n = [] := by
          unfold SrecState.fieldBytes
          rw [hzero]
          rfl
        rw [hnil, hzero]
        split <;> rfl
      · have hlen : (s.fieldBytes piece ty n).length = srecFieldCount ty n := hcount
        rw [if_pos (htests hzero), srecStores_indices, hlen]
    · exact (congrArg (fun p => p.2.2) hend).trans hreach
  · -- a line without data
    have hother : (srecLine start end_ piece s).2.placed = (s.readLine piece).placed := by
      apply srecLine_other_placed
      intro ty n a hhead
      by_contra hty
      exact hdata ⟨ty, n, a, hhead, by simpa using hty⟩
    rw [h] at hother
    have hnone : srecSpan start (s.line.fill piece) = [] := by
      unfold srecSpan
      rw [← htext]
      rcases hhead : srecHeader (s.str piece) with _ | ⟨ty, n, a⟩
      · rfl
      · simp only
        rw [if_neg fun hty => hdata ⟨ty, n, a, hhead, hty⟩]
    rw [hnone]
    refine ⟨congrArg Prod.fst hother, ?_, congrArg (fun p => p.2.2) hother⟩
    have hstores : t.stores = s.stores := congrArg (fun p => p.2.1) hother
    rw [hstores]
    simp [spanIndices]

/-- The stores of accepted lines go to the indices of their spans, in order. -/
theorem srecLines_spans {start end_ : Nat} {ls : List (List Byte)} {s t : SrecState}
    (h : srecLines start end_ ls s = (.ok (), t)) :
    t.stores.map Prod.fst = s.stores.map Prod.fst ++
        spanIndices (srecSpans start s.line ls) ∧
      t.greatestAddr = spanReach s.greatestAddr (srecSpans start s.line ls) := by
  induction ls generalizing s with
  | nil =>
    cases h
    exact ⟨by simp [srecSpans, spanIndices], rfl⟩
  | cons l ls ih =>
    rw [srecLines_cons] at h
    rcases Drv.bind_eq_ok.mp h with ⟨_, u, hline, hrest⟩
    rcases srecLine_spans hline with ⟨hbuf, hstores, hreach⟩
    rcases ih hrest with ⟨hstores', hreach'⟩
    rw [hbuf] at hstores' hreach'
    unfold srecSpans
    rw [spanIndices_append, spanReach_append, ← hreach, ← List.append_assoc, ← hstores]
    exact ⟨hstores', hreach'⟩

/-- An accepted S-record file: where its bytes go, and the value returned. -/
theorem srecRead_spans {line : LineBuf 516} {file : List Byte} {start end_ : Nat} {v : Int}
    {s : SrecState} (h : srecRead line file start end_ = (.ok v, s)) :
    s.stores.map Prod.fst = spanIndices (srecSpans start line (pieces 516 file)) ∧
      v = toInt32 (sub32 (spanReach 0 (srecSpans start line (pieces 516 file))) start) := by
  rcases srecLines_spans (srecLines_of_ok h) with ⟨hstores, hreach⟩
  unfold srecRead at h
  rw [Drv.bind_ok (srecLines_of_ok h), Drv.state_bind_run] at h
  split at h
  · cases h
  · cases h
    refine ⟨hstores, ?_⟩
    rw [hreach]
    rfl

end Stm8Flash
