import Stm8Flash.Srec.WellFormed

/-! # What an accepted file is made of

`srec_read` never looks at the length of a line, nor at the shape of the fields: the
columns follow from the type and the length byte, which may be too small, and what stands
there may be a short field, or left over from an earlier line. So an accepted line need
not be a record (`srecRead_accepts_stale`). `srecRead_sound_iff` says on which accepted
files every line is one. A line here is what one `fgets` delivers, as the reader counts
lines.
-/

namespace Stm8Flash

open Hex Stdio Word

/-- The line starts with `S1`, `S2`, `S3` or `S5`: `S` and the digit of the type `t`. -/
def SrecStarts (t : Nat) (piece : List Byte) : Prop :=
  (isDataType t = true ∨ t = 5) ∧ piece.take 2 = [ascii 'S', digit t]

/-- What is stored for the line depends on its own characters only, not on the state that
the reader is in, which includes the line buffer. -/
def SrecOwn (start end_ : Nat) (piece : List Byte) : Prop :=
  ∀ s s', ∃ new, (srecLine start end_ piece s).2.stores = s.stores ++ new ∧
    (srecLine start end_ piece s').2.stores = s'.stores ++ new

/-- Every line that starts with `S1`, `S2`, `S3` or `S5` begins with a complete record of
its type with a right sum, and is stored by itself. -/
def SrecSound (file : List Byte) (start end_ : Nat) : Prop :=
  ∀ piece ∈ pieces 516 file, ∀ t, SrecStarts t piece →
    (∃ r : SrecRecord, r.type = t ∧ r.Heads piece ∧ r.SumRight) ∧ SrecOwn start end_ piece

/-- The hex digits behind the length byte, eight at most, as a number without its last
`3 - t` bytes, or its last byte for `S5`. -/
def srecLeadingAddr (t : Nat) (piece : List Byte) : Nat :=
  if t = 5 then value (leading 8 (piece.drop 4)) >>> 8
  else srecAddr t (value (leading 8 (piece.drop 4)))

/-! ## One line -/

/-- On an accepted line that begins with a record, the sum of the record is right exactly
when the address read has the sum of the address. -/
theorem srecLine_sumRight_iff {start end_ : Nat} {s u : SrecState} {piece : List Byte}
    {r : SrecRecord} (hr : r.Heads piece) (hlen : piece.length < 516)
    (ht : r.IsData ∨ r.type = 5) (hrun : srecLine start end_ piece s = (.ok (), u)) :
    r.SumRight ↔ addrSum (srecLeadingAddr r.type piece) % 256 = addrSum r.addr % 256 := by
  have hhead := srecHeader_str hr hlen s
  have hcsum := srecAt_csum hr hlen s
  unfold SrecRecord.SumRight srecLeadingAddr
  rcases ht with hd | h5
  · have hne : r.type ≠ 5 := by
      have := hd.bounds
      omega
    rcases fieldBytes_heads hr hd hlen s with ⟨hbytes, -, -⟩
    rcases srecLine_data_of_ok hhead hd hrun with ⟨-, -, v, hv, hsum⟩
    rw [hcsum] at hv
    cases hv
    rw [hbytes] at hsum
    rw [if_neg hne]
    omega
  · rw [h5] at hhead
    rcases srecLine_count_of_ok hhead hrun with ⟨hn, v, hv, hsum⟩
    have hdata : r.data = [] := by
      have hw : srecAddrWidth r.type = 2 := by
        rw [h5]
        rfl
      unfold SrecRecord.len at hn
      exact List.eq_nil_of_length_eq_zero (by omega)
    rw [hn] at hcsum hsum ⊢
    have hcol : u32 (2 * (3 + 1)) = 8 := by decide
    rw [hcol, hv] at hcsum
    cases hcsum
    rw [if_pos h5, hdata, byteSum_nil]
    omega

/-- A line that begins with a record is stored by itself. -/
theorem srecOwn_of_heads {start end_ : Nat} {piece : List Byte} {r : SrecRecord}
    (hr : r.Heads piece) (hlen : piece.length < 516) : SrecOwn start end_ piece := by
  intro s s'
  have hs := srecHeader_str hr hlen s
  have hs' := srecHeader_str hr hlen s'
  by_cases hd : r.IsData
  · rw [srecLine_data start end_ hs hd, srecLine_data start end_ hs' hd,
      (fieldBytes_heads hr hd hlen s).1, (fieldBytes_heads hr hd hlen s').1]
    exact ⟨_, rfl, rfl⟩
  · refine ⟨[], ?_, ?_⟩
    · rw [List.append_nil]
      refine srecLine_other start end_ fun t n a hh => ?_
      rw [hs] at hh
      cases hh
      simpa [SrecRecord.IsData] using hd
    · rw [List.append_nil]
      refine srecLine_other start end_ fun t n a hh => ?_
      rw [hs'] at hh
      cases hh
      simpa [SrecRecord.IsData] using hd

/-! ## An accepted file -/

/-- Every line of an accepted file is accepted in the state that the run comes to it in. -/
theorem srecLine_of_mem {line : LineBuf 516} {file : List Byte} {start end_ : Nat}
    (hok : SrecAccepts line file start end_) {piece : List Byte}
    (hmem : piece ∈ pieces 516 file) : ∃ s u, srecLine start end_ piece s = (.ok (), u) := by
  rcases List.append_of_mem hmem with ⟨pre, post, hsplit⟩
  rcases hok with ⟨v, w, hread⟩
  have hlines := srecLines_of_ok hread
  rw [hsplit, srecLines_append] at hlines
  rcases Drv.bind_eq_ok.mp hlines with ⟨_, s, -, hrest⟩
  rw [srecLines_cons] at hrest
  rcases Drv.bind_eq_ok.mp hrest with ⟨_, u, hline, -⟩
  exact ⟨s, u, hline⟩

/-- On an accepted file every line that starts with `S1`, `S2`, `S3` or `S5` is a complete
record by itself exactly when each such line begins with the fields of a record and the
leading digits behind the length, shifted, have the same sum as its address. -/
theorem srecRead_sound_iff (line : LineBuf 516) (file : List Byte) (start end_ : Nat)
    (hok : SrecAccepts line file start end_) :
    SrecSound file start end_ ↔
      ∀ piece ∈ pieces 516 file, ∀ t, SrecStarts t piece →
        ∃ r : SrecRecord, r.type = t ∧ r.Heads piece ∧
          addrSum (srecLeadingAddr t piece) % 256 = addrSum r.addr % 256 := by
  have hshort := pieces_length_lt (n := 516) (by decide) file
  constructor
  · intro hsound piece hmem t hstart
    rcases hsound piece hmem t hstart with ⟨⟨r, rfl, hr, hsum⟩, -⟩
    rcases srecLine_of_mem hok hmem with ⟨s, u, hrun⟩
    exact ⟨r, rfl, hr, (srecLine_sumRight_iff hr (hshort piece hmem) hstart.1 hrun).mp hsum⟩
  · intro hcond piece hmem t hstart
    rcases hcond piece hmem t hstart with ⟨r, rfl, hr, haddr⟩
    rcases srecLine_of_mem hok hmem with ⟨s, u, hrun⟩
    exact ⟨⟨r, rfl, hr, (srecLine_sumRight_iff hr (hshort piece hmem) hstart.1 hrun).mpr haddr⟩,
      srecOwn_of_heads hr (hshort piece hmem)⟩

/-- The second line ends in the middle of its only data byte. The checksum that the reader
finds behind it is the one of the first line. -/
theorem srecRead_accepts_stale :
    SrecAccepts (LineBuf.zero 515) (text "S10480008DEE\nS10480005") 0 0x10000 ∧
      ¬SrecSound (text "S10480008DEE\nS10480005") 0 0x10000 := by
  constructor
  · decide +kernel
  · intro hsound
    have hpieces : pieces 516 (text "S10480008DEE\nS10480005") =
        [text "S10480008DEE\n", text "S10480005"] := by decide
    have hmem : text "S10480005" ∈ pieces 516 (text "S10480008DEE\nS10480005") := by
      rw [hpieces]
      simp
    rcases hsound _ hmem 1 ⟨Or.inl rfl, by decide⟩ with ⟨⟨r, ht, hr, -⟩, -⟩
    -- an S1 record has ten characters at least
    rcases hr.fields with ⟨tt, ll, aa, dd, cc, tail, hpiece, htt, hll, haa, hdd, hcc⟩
    have hlen := congrArg List.length hpiece
    have haddr := haa.length_eq
    rw [ht] at haddr
    have hw : srecAddrWidth 1 = 2 := rfl
    have hnine : (text "S10480005").length = 9 := by decide
    simp only [List.length_cons, List.length_append, htt.length_eq, hll.length_eq,
      hcc.length_eq] at hlen
    omega

/-- A file of one S1 record. -/
theorem srecRead_sound_iff_S1 :
    SrecSound (text "S10480005526\n") 0x8000 0x8100 ↔
      ∀ piece ∈ pieces 516 (text "S10480005526\n"), ∀ t, SrecStarts t piece →
        ∃ r : SrecRecord, r.type = t ∧ r.Heads piece ∧
          addrSum (srecLeadingAddr t piece) % 256 = addrSum r.addr % 256 :=
  srecRead_sound_iff (LineBuf.zero 515) _ _ _ (by decide +kernel)

end Stm8Flash
