import Stm8Flash.Ihex.Sound
import Stm8Flash.Spans
import Stm8Flash.Srec.Accept
import Stm8Flash.Srec.Place

/-! # What the readers return

Both readers return `greatest_addr - start`, an unsigned difference, as an `int`. It is the
length of what was read when there is a data byte and no end address wraps; for a file
without a data byte it is `-start` (`readers_negative`). `readers_result_iff` says so for
both readers at once.
-/

namespace Stm8Flash

open Hex Stdio Word

/-- The greatest end address of records, each given by its address and length; 0 for none. -/
def greatestEnd (extents : List (Nat × Nat)) : Nat := (extents.map fun p => p.1 + p.2).foldl max 0

/-- The value is 0 for a file without a data byte, and else the greatest data end address
minus `start`; it lies between 0 and `end - start`. -/
structure ReaderResult (start end_ : Nat) (extents : List (Nat × Nat)) (v : Int) : Prop where
  value : v = if extents = [] then 0 else (greatestEnd extents : Int) - start
  nonneg : 0 ≤ v
  le : v ≤ (end_ : Int) - start

/-- Address and length of an Intel HEX record with a data byte on its line. -/
def ihexExtent (base : Nat) (line : LineBuf 523) : List (Nat × Nat) :=
  match ihexHeader (line.cstr 0) with
  | some (n, a, t) =>
    if t = 0 ∧ ihexFieldCount n ((line.cstr 0).drop 9) ≠ 0 then [(a + base, n)] else []
  | none => []

/-- The data records of an Intel HEX file that have a data byte on their line. -/
def ihexExtents : LineBuf 523 → Nat → List (List Byte) → List (Nat × Nat)
  | _, _, [] => []
  | line, base, l :: ls =>
    ihexExtent base (line.fill l) ++
      ihexExtents (line.fill l) (ihexNextBase base (line.fill l)) ls

/-- Address and length of an S-record with a data byte. -/
def srecExtent (line : LineBuf 516) : List (Nat × Nat) :=
  match srecHeader (line.cstr 0) with
  | some (t, n, a) =>
    if isDataType t ∧ srecFieldCount t n ≠ 0 then [(srecAddr t a, srecDataLen t n)] else []
  | none => []

/-- The data records of an S-record file that have a data byte. -/
def srecExtents : LineBuf 516 → List (List Byte) → List (Nat × Nat)
  | _, [] => []
  | line, l :: ls => srecExtent (line.fill l) ++ srecExtents (line.fill l) ls

/-! ## The greatest end address -/

theorem foldl_max_le_iff {l : List Nat} {g m : Nat} :
    l.foldl max g ≤ m ↔ g ≤ m ∧ ∀ x ∈ l, x ≤ m := by
  induction l generalizing g with
  | nil => simp
  | cons x l ih =>
    rw [List.foldl_cons, ih, List.forall_mem_cons, max_le_iff, and_assoc]

theorem le_greatestEnd {extents : List (Nat × Nat)} {p : Nat × Nat} (hp : p ∈ extents) :
    p.1 + p.2 ≤ greatestEnd extents :=
  (foldl_max_le_iff.mp (Nat.le_refl (greatestEnd extents))).2 _
    (List.mem_map_of_mem (f := fun p => p.1 + p.2) hp)

theorem spanReach_eq (spans : List Span) : spanReach 0 spans = (spans.map Span.reach).foldl max 0 := by
  unfold spanReach
  rw [List.foldl_map]

/-- The value returned, from what the records of an accepted file have passed: it is right
when there is a record, or `start` is 0, and no record ends above `end`. -/
theorem readerResult_iff {start end_ : Nat} {extents : List (Nat × Nat)} {v : Int}
    (hle : start ≤ end_) (hend : end_ < 4294967296) (hlen : end_ - start < 2147483648)
    (htests : ∀ p ∈ extents, p.1 ≤ end_ → start ≤ p.1)
    (hv : v = toInt32 (sub32 ((extents.map fun p => u32 (p.1 + p.2)).foldl max 0) start)) :
    ReaderResult start end_ extents v ↔
      (extents ≠ [] ∨ start = 0) ∧ ∀ p ∈ extents, p.1 + p.2 ≤ end_ := by
  constructor
  · rintro ⟨hvalue, -, hvle⟩
    by_cases hnil : extents = []
    · -- `0 - start` is 0 for `start = 0` only
      rw [if_pos hnil] at hvalue
      rw [hvalue, hnil, List.map_nil, List.foldl_nil] at hv
      refine ⟨Or.inr ?_, by simp [hnil]⟩
      unfold toInt32 sub32 at hv
      split at hv
      · omega
      · omega
    · rw [if_neg hnil] at hvalue
      refine ⟨Or.inl hnil, fun p hp => ?_⟩
      have := le_greatestEnd hp
      omega
  · rintro ⟨hsome, hends⟩
    by_cases hnil : extents = []
    · have hstart := hsome.resolve_left (not_not.mpr hnil)
      rw [hnil, hstart, List.map_nil, List.foldl_nil] at hv
      have hzero : v = 0 := hv
      rw [hzero, hstart]
      exact ⟨by rw [if_pos hnil], Int.le_refl 0, by omega⟩
    · -- no end wraps, so the sums are the exact ones
      have hmap : (extents.map fun p => u32 (p.1 + p.2)) = extents.map fun p => p.1 + p.2 := by
        refine List.map_congr_left fun p hp => ?_
        have := hends p hp
        exact u32_of_lt (by omega)
      have hg : greatestEnd extents ≤ end_ := by
        refine foldl_max_le_iff.mpr ⟨Nat.zero_le _, fun x hx => ?_⟩
        rcases List.mem_map.mp hx with ⟨p, hp, rfl⟩
        exact hends p hp
      obtain ⟨p, hp⟩ := List.exists_mem_of_ne_nil extents hnil
      have hstart : start ≤ greatestEnd extents := by
        have hpend := hends p hp
        have hfirst := htests p hp (by omega)
        have hpg := le_greatestEnd hp
        omega
      rw [hmap] at hv
      have hval : v = ((greatestEnd extents - start : Nat) : Int) := by
        rw [hv, ← toInt32_of_lt (by omega : greatestEnd extents - start < 2147483648),
          ← sub32_of_le hstart (by omega)]
        rfl
      refine ⟨?_, by omega, by omega⟩
      rw [if_neg hnil]
      omega

/-- The value that the readers make of ends that do not lie above `end`: below `start` it is
negative. -/
theorem readerValue_le {start end_ : Nat} (hle : start ≤ end_) (hend : end_ < 2147483648)
    {ends : List Nat} (hends : ∀ e ∈ ends, e ≤ end_) {v : Int}
    (hv : v = toInt32 (sub32 (ends.foldl max 0) start)) : v ≤ (end_ : Int) - start := by
  have hg : ends.foldl max 0 ≤ end_ := foldl_max_le_iff.mpr ⟨Nat.zero_le _, hends⟩
  generalize ends.foldl max 0 = g at hg hv
  rw [hv]
  unfold toInt32 sub32
  split <;> omega

/-- A record that ends at `end` makes it the whole range. -/
theorem readerValue_full {start end_ : Nat} (hle : start ≤ end_) (hend : end_ < 2147483648)
    {ends : List Nat} (hends : ∀ e ∈ ends, e ≤ end_) (hmem : end_ ∈ ends) :
    toInt32 (sub32 (ends.foldl max 0) start) = (end_ : Int) - start := by
  have hg : ends.foldl max 0 = end_ := by
    apply Nat.le_antisymm
    · exact foldl_max_le_iff.mpr ⟨Nat.zero_le _, hends⟩
    · exact (foldl_max_le_iff.mp (Nat.le_refl (ends.foldl max 0))).2 _ hmem
  rw [hg, sub32_of_le hle (by omega), toInt32_of_lt (by omega), Int.ofNat_sub hle]

/-! ## Intel HEX -/

theorem ihexSpan_extent (start base : Nat) (line : LineBuf 523) :
    (ihexSpan start base line).map Span.reach =
      (ihexExtent base line).map fun p => u32 (p.1 + p.2) := by
  unfold ihexSpan ihexExtent Span.ofRecord
  rcases ihexHeader (line.cstr 0) with _ | ⟨n, a, t⟩
  · rfl
  · simp only
    by_cases ht : t = 0
    · by_cases hcount : ihexFieldCount n ((line.cstr 0).drop 9) = 0
      · simp [ht, hcount]
      · simp [ht, hcount]
    · simp [ht]

theorem ihexSpans_extents (start : Nat) (line : LineBuf 523) (base : Nat) (ls : List (List Byte)) :
    (ihexSpans start line base ls).map Span.reach =
      (ihexExtents line base ls).map fun p => u32 (p.1 + p.2) := by
  induction ls generalizing line base with
  | nil => rfl
  | cons l ls ih =>
    unfold ihexSpans ihexExtents
    rw [List.map_append, List.map_append, ihexSpan_extent, ih]

/-- The record of an accepted line has passed both range tests. -/
theorem ihexExtent_passes {start end_ : Nat} {piece : List Byte} {s t : IhexState}
    (h : ihexLine start end_ piece s = (.ok (), t)) :
    ∀ p ∈ ihexExtent s.offset (s.line.fill piece),
      start ≤ u32 p.1 ∧ u32 (p.1 + p.2) ≤ end_ := by
  have htext : s.str piece = (s.line.fill piece).cstr 0 := rfl
  have hpass : ¬IhexRejects start end_ s piece := by
    intro hreject
    rcases ihexLine_error_iff.mpr hreject with ⟨e, u, herr⟩
    rw [h] at herr
    cases herr
  unfold ihexExtent
  unfold IhexRejects at hpass
  rw [← htext]
  rcases hhead : ihexHeader (s.str piece) with _ | ⟨n, a, ty⟩
  · simp
  · rw [hhead] at hpass
    simp only at hpass ⊢
    intro p hp
    split at hp
    · rename_i hdata
      rcases hdata with ⟨rfl, hcount⟩
      unfold ihexFieldCount at hcount
      rw [List.length_drop] at hcount
      rw [if_pos rfl] at hpass
      rw [List.mem_singleton.mp hp]
      -- there is a first field, so the range tests were made
      have hrange := (not_or.mp hpass).1
      simp only
      by_contra hfails
      exact hrange ⟨by omega, by omega, by omega⟩
    · cases hp

theorem ihexExtents_pass {start end_ : Nat} {ls : List (List Byte)} {s t : IhexState}
    (h : ihexLines start end_ ls s = (.ok (), t)) :
    ∀ p ∈ ihexExtents s.line s.offset ls, start ≤ u32 p.1 ∧ u32 (p.1 + p.2) ≤ end_ := by
  induction ls generalizing s with
  | nil => simp [ihexExtents]
  | cons l ls ih =>
    unfold ihexLines at h
    rw [Drv.forEach_cons] at h
    rcases Drv.bind_eq_ok.mp h with ⟨_, u, hline, hrest⟩
    rcases ihexLine_spans hline with ⟨hbuf, hbase, -, -⟩
    have hlater := ih hrest
    rw [hbuf, hbase] at hlater
    intro p hp
    unfold ihexExtents at hp
    rcases List.mem_append.mp hp with hp | hp
    · exact ihexExtent_passes hline p hp
    · exact hlater p hp

/-- An accepted Intel HEX file: its data records have passed the tests, and the value
returned is made from their ends. -/
theorem ihexRead_extents {line : LineBuf 523} {file : List Byte} {start end_ : Nat} {v : Int}
    {s : IhexState} (h : ihexRead line file start end_ = (.ok v, s)) :
    (∀ p ∈ ihexExtents line 0 (pieces 523 file), start ≤ u32 p.1 ∧ u32 (p.1 + p.2) ≤ end_) ∧
      v = toInt32 (sub32 (((ihexExtents line 0 (pieces 523 file)).map
        fun p => u32 (p.1 + p.2)).foldl max 0) start) := by
  refine ⟨?_, ?_⟩
  · unfold ihexRead at h
    rcases Drv.bind_eq_ok.mp h with ⟨_, t, hlines, -⟩
    exact ihexExtents_pass hlines
  · rw [(ihexRead_spans h).2, spanReach_eq, ihexSpans_extents]

/-- A file whose records have passed the tests does not make more than the range. -/
theorem ihexRead_le {line : LineBuf 523} {file : List Byte} {start end_ : Nat} (hle : start ≤ end_)
    (hend : end_ < 2147483648) {v : Int} {s : IhexState}
    (h : ihexRead line file start end_ = (.ok v, s)) : v ≤ (end_ : Int) - start := by
  rcases ihexRead_extents h with ⟨hpass, hv⟩
  refine readerValue_le hle hend (fun e he => ?_) hv
  rcases List.mem_map.mp he with ⟨p, hp, rfl⟩
  exact (hpass p hp).2

/-- The value that `ihex_read` returns. -/
theorem ihexRead_result_iff {start end_ : Nat} (hle : start ≤ end_) (hend : end_ < 4294967296)
    (hlen : end_ - start < 2147483648) {line : LineBuf 523} {file : List Byte} {v : Int}
    {s : IhexState} (h : ihexRead line file start end_ = (.ok v, s)) :
    ReaderResult start end_ (ihexExtents line 0 (pieces 523 file)) v ↔
      (ihexExtents line 0 (pieces 523 file) ≠ [] ∨ start = 0) ∧
        ∀ p ∈ ihexExtents line 0 (pieces 523 file), p.1 + p.2 ≤ end_ := by
  rcases ihexRead_extents h with ⟨hpass, hv⟩
  refine readerResult_iff hle hend hlen (fun p hp hple => ?_) hv
  -- an address up to `end` does not wrap
  have hstart := (hpass p hp).1
  rwa [u32_of_lt (by omega)] at hstart

/-! ## S-records -/

theorem srecSpan_extent (start : Nat) (line : LineBuf 516) :
    (srecSpan start line).map Span.reach =
      (srecExtent line).map fun p => u32 (p.1 + p.2) := by
  unfold srecSpan srecExtent Span.ofRecord
  rcases srecHeader (line.cstr 0) with _ | ⟨t, n, a⟩
  · rfl
  · simp only
    by_cases ht : isDataType t = true
    · by_cases hcount : srecFieldCount t n = 0
      · simp [ht, hcount]
      · simp [ht, hcount]
    · simp [ht]

theorem srecSpans_extents (start : Nat) (line : LineBuf 516) (ls : List (List Byte)) :
    (srecSpans start line ls).map Span.reach =
      (srecExtents line ls).map fun p => u32 (p.1 + p.2) := by
  induction ls generalizing line with
  | nil => rfl
  | cons l ls ih =>
    unfold srecSpans srecExtents
    rw [List.map_append, List.map_append, srecSpan_extent, ih]

/-- The record of an accepted line has passed both range tests. -/
theorem srecExtent_passes {start end_ : Nat} {piece : List Byte} {s t : SrecState}
    (h : srecLine start end_ piece s = (.ok (), t)) :
    ∀ p ∈ srecExtent (s.line.fill piece), start ≤ p.1 ∧ u32 (p.1 + p.2) ≤ end_ := by
  have htext : s.str piece = (s.line.fill piece).cstr 0 := rfl
  unfold srecExtent
  rw [← htext]
  rcases hhead : srecHeader (s.str piece) with _ | ⟨ty, n, a⟩
  · simp
  · simp only
    intro p hp
    split at hp
    · rename_i hdata
      rw [List.mem_singleton.mp hp]
      exact (srecLine_data_of_ok hhead hdata.1 h).2.1 hdata.2
    · cases hp

theorem srecExtents_pass {start end_ : Nat} {ls : List (List Byte)} {s t : SrecState}
    (h : srecLines start end_ ls s = (.ok (), t)) :
    ∀ p ∈ srecExtents s.line ls, start ≤ p.1 ∧ u32 (p.1 + p.2) ≤ end_ := by
  induction ls generalizing s with
  | nil => simp [srecExtents]
  | cons l ls ih =>
    rw [srecLines_cons] at h
    rcases Drv.bind_eq_ok.mp h with ⟨_, u, hline, hrest⟩
    rcases srecLine_spans hline with ⟨hbuf, -, -⟩
    have hlater := ih hrest
    rw [hbuf] at hlater
    intro p hp
    unfold srecExtents at hp
    rcases List.mem_append.mp hp with hp | hp
    · exact srecExtent_passes hline p hp
    · exact hlater p hp

/-- An accepted S-record file: its data records have passed the tests, and the value
returned is made from their ends. -/
theorem srecRead_extents {line : LineBuf 516} {file : List Byte} {start end_ : Nat} {v : Int}
    {s : SrecState} (h : srecRead line file start end_ = (.ok v, s)) :
    (∀ p ∈ srecExtents line (pieces 516 file), start ≤ p.1 ∧ u32 (p.1 + p.2) ≤ end_) ∧
      v = toInt32 (sub32 (((srecExtents line (pieces 516 file)).map
        fun p => u32 (p.1 + p.2)).foldl max 0) start) := by
  refine ⟨srecExtents_pass (srecLines_of_ok h), ?_⟩
  rw [(srecRead_spans h).2, spanReach_eq, srecSpans_extents]

theorem srecRead_le {line : LineBuf 516} {file : List Byte} {start end_ : Nat} (hle : start ≤ end_)
    (hend : end_ < 2147483648) {v : Int} {s : SrecState}
    (h : srecRead line file start end_ = (.ok v, s)) : v ≤ (end_ : Int) - start := by
  rcases srecRead_extents h with ⟨hpass, hv⟩
  refine readerValue_le hle hend (fun e he => ?_) hv
  rcases List.mem_map.mp he with ⟨p, hp, rfl⟩
  exact (hpass p hp).2

/-- The value that `srec_read` returns. -/
theorem srecRead_result_iff {start end_ : Nat} (hle : start ≤ end_) (hend : end_ < 4294967296)
    (hlen : end_ - start < 2147483648) {line : LineBuf 516} {file : List Byte} {v : Int}
    {s : SrecState} (h : srecRead line file start end_ = (.ok v, s)) :
    ReaderResult start end_ (srecExtents line (pieces 516 file)) v ↔
      (srecExtents line (pieces 516 file) ≠ [] ∨ start = 0) ∧
        ∀ p ∈ srecExtents line (pieces 516 file), p.1 + p.2 ≤ end_ := by
  rcases srecRead_extents h with ⟨hpass, hv⟩
  exact readerResult_iff hle hend hlen (fun p hp _ => (hpass p hp).1) hv

/-! ## Both readers -/

/-- The result of either reader is right exactly on the accepted files that have a data
record with a data byte, or are read for `start = 0`, and none of whose data records ends
above `end` in exact arithmetic. -/
theorem readers_result_iff {start end_ : Nat} (hle : start ≤ end_) (hend : end_ < 2 ^ 32)
    (hlen : end_ - start < 2 ^ 31) :
    (∀ line file v s, ihexRead line file start end_ = (.ok v, s) →
      (ReaderResult start end_ (ihexExtents line 0 (pieces 523 file)) v ↔
        (ihexExtents line 0 (pieces 523 file) ≠ [] ∨ start = 0) ∧
          ∀ p ∈ ihexExtents line 0 (pieces 523 file), p.1 + p.2 ≤ end_)) ∧
    ∀ line file v s, srecRead line file start end_ = (.ok v, s) →
      (ReaderResult start end_ (srecExtents line (pieces 516 file)) v ↔
        (srecExtents line (pieces 516 file) ≠ [] ∨ start = 0) ∧
          ∀ p ∈ srecExtents line (pieces 516 file), p.1 + p.2 ≤ end_) :=
  ⟨fun _ _ _ _ h => ihexRead_result_iff hle hend hlen h,
    fun _ _ _ _ h => srecRead_result_iff hle hend hlen h⟩

/-- Files of an end record alone are read with the result -0x8000. -/
theorem readers_negative :
    (ihexRead (LineBuf.zero 522) (text ":00000001FF\n") 0x8000 0x8100).1.toOption =
        some (-0x8000) ∧
      ¬ReaderResult 0x8000 0x8100
        (ihexExtents (LineBuf.zero 522) 0 (pieces 523 (text ":00000001FF\n"))) (-0x8000) ∧
      (srecRead (LineBuf.zero 515) (text "S9030000FC\n") 0x8000 0x8100).1.toOption =
        some (-0x8000) ∧
      ¬ReaderResult 0x8000 0x8100
        (srecExtents (LineBuf.zero 515) (pieces 516 (text "S9030000FC\n"))) (-0x8000) := by
  refine ⟨by decide +kernel, fun h => ?_, by decide +kernel, fun h => ?_⟩
  · exact absurd h.nonneg (by decide)
  · exact absurd h.nonneg (by decide)

/-- A file of one data record of each format, for the range of 256 bytes at 0x8000. -/
theorem readers_result_iff_8000 :
    ReaderResult 0x8000 0x8100
        (ihexExtents (LineBuf.zero 522) 0 (pieces 523 (text ":01800000552A\n:00000001FF\n"))) 1 ∧
      ReaderResult 0x8000 0x8100
        (srecExtents (LineBuf.zero 515) (pieces 516 (text "S10480005526\nS9030000FC\n"))) 1 := by
  have hvalue : (ihexRead (LineBuf.zero 522) (text ":01800000552A\n:00000001FF\n") 0x8000
      0x8100).1.toOption = some 1 := by decide +kernel
  have hvalue' : (srecRead (LineBuf.zero 515) (text "S10480005526\nS9030000FC\n") 0x8000
      0x8100).1.toOption = some 1 := by decide +kernel
  obtain ⟨s, hihex⟩ := Drv.ok_of_toOption hvalue
  obtain ⟨t, hsrec⟩ := Drv.ok_of_toOption hvalue'
  have hiff := @readers_result_iff 0x8000 0x8100 (by decide) (by decide) (by decide)
  exact ⟨(hiff.1 _ _ _ _ hihex).mpr (by decide +kernel),
    (hiff.2 _ _ _ _ hsrec).mpr (by decide +kernel)⟩

end Stm8Flash
