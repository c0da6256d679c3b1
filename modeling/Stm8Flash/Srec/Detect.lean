import Stm8Flash.Srec.Sound

/-! # A changed digit is detected

Take a file that `srec_read` accepts, and a record of it whose sum the reader looks at as a
whole. With one digit behind the length byte changed, the line still spells a record, of the
same type and length, but the sum is another one modulo 256 (`SrecRecord.Spells.set`). So the
changed file is refused, at that line if not before (`srecRead_detects`).
-/

namespace Stm8Flash

open Hex Stdio Word

namespace SrecRecord

/-- The record is one of those whose address the reader finds as it stands. -/
def Guarded (r : SrecRecord) : Prop :=
  (r.type = 1 ∧ r.data ≠ []) ∨ r.type = 2 ∨ r.type = 3 ∨ r.type = 5

/-- What the record adds to the sum behind the length. -/
def tailSum (r : SrecRecord) : Nat := addrSum r.addr + byteSum r.data + r.csum.toNat

theorem sumRight_iff_tailSum (r : SrecRecord) :
    r.SumRight ↔ (r.len + r.tailSum) % 256 = 255 := by
  unfold SumRight tailSum
  omega

end SrecRecord

/-- `file'` is `file` with one digit changed: a digit of the address, of the data or of the
checksum of the record `r` is another one there, of a different value. -/
def SrecCorrupts (file file' : List Byte) (r : SrecRecord) : Prop :=
  ∃ pre piece post i c d, pieces 516 file = pre ++ piece :: post ∧ r.Spells piece ∧
    4 ≤ i ∧ i < 2 * r.len + 4 ∧ piece[i]? = some c ∧ isXDigit d = true ∧ hexVal d ≠ hexVal c ∧
    file' = file.set (pre.flatten.length + i) d

/-! ## The digits of a record -/

/-- One more byte in an address adds to the sum of its bytes. -/
theorem addrSum_append {a b : Nat} (ha : a < 16777216) (hb : b < 256) :
    addrSum (a * 256 + b) = addrSum a + b := by
  unfold addrSum
  simp only [LO_eq, HI_eq, EX_eq, EH_eq]
  omega

/-- The bytes of an address add up to the same as its digits in pairs. -/
theorem addrSum_value {ds : List Byte} {n : Nat} (hn : n ≤ 4) (hlen : ds.length = 2 * n) :
    addrSum (value ds) = pairSum ds := by
  induction n generalizing ds with
  | zero =>
    obtain rfl : ds = [] := List.eq_nil_of_length_eq_zero (by omega)
    rfl
  | succ n ih =>
    -- the last two digits apart
    have hsplit : ds = ds.take (2 * n) ++ ds.drop (2 * n) := (List.take_append_drop _ _).symm
    have hfront : (ds.take (2 * n)).length = 2 * n := by
      rw [List.length_take]
      omega
    have hback : (ds.drop (2 * n)).length = 2 := by
      rw [List.length_drop]
      omega
    generalize ds.take (2 * n) = front at hsplit hfront
    generalize ds.drop (2 * n) = back at hsplit hback
    have hlt := value_lt front
    have hb := value_lt back
    rw [hfront] at hlt
    rw [hback] at hb
    have hpow : 16 ^ (2 * n) ≤ 16 ^ 6 := Nat.pow_le_pow_right (by decide) (by omega)
    have hpair : pairSum back = value back := by
      match back, hback with
      | [x, y], _ => rfl
    rw [hsplit, value_append, hback, pairSum_append hfront, hpair, ← ih (by omega) hfront]
    exact addrSum_append (by omega) hb

/-- Behind the length a line has the digits of address, data and checksum, and they add up
to the sum of the record. -/
theorem SrecRecord.Spells.digits {r : SrecRecord} {piece : List Byte} (h : r.Spells piece) :
    ∃ tt ll ds eol, piece = (ascii 'S' :: (tt ++ ll)) ++ (ds ++ eol) ∧ Field 1 r.type tt ∧
      Field 2 r.len ll ∧ IsEol eol ∧ ds.length = 2 * r.len ∧ (∀ b ∈ ds, isXDigit b = true) ∧
      pairSum ds = r.tailSum := by
  rcases h.fields with ⟨tt, ll, aa, dd, cc, eol, rfl, htt, hll, haa, hdd, hcc, heol⟩
  have hw := srecAddrWidth_le r.type
  refine ⟨tt, ll, aa ++ (dd ++ cc), eol, by simp [List.append_assoc], htt, hll, heol, ?_, ?_, ?_⟩
  · simp only [List.length_append, haa.length_eq, hdd.length_eq, hcc.length_eq]
    unfold len
    omega
  · intro b hb
    rcases List.mem_append.mp hb with hb | hb
    · exact haa.digits b hb
    · rcases List.mem_append.mp hb with hb | hb
      · exact hdd.digits b hb
      · exact hcc.digits b hb
  · unfold tailSum
    rw [pairSum_append haa.length_eq, pairSum_append hdd.length_eq, hdd.pairSum_eq, hcc.pairSum_eq,
      ← addrSum_value hw haa.length_eq, haa.value_eq, Nat.add_assoc]

/-- Any digits in the place of address, data and checksum are those of a record. -/
theorem SrecRecord.exists_spells {t n : Nat} (ht : t ≤ 9) (hn : srecAddrWidth t + n + 1 ≤ 255)
    {tt ll ds eol : List Byte} (htt : Field 1 t tt) (hll : Field 2 (srecAddrWidth t + n + 1) ll)
    (hlen : ds.length = 2 * (srecAddrWidth t + n + 1)) (hds : ∀ b ∈ ds, isXDigit b = true)
    (heol : IsEol eol) :
    ∃ r : SrecRecord, r.type = t ∧ r.data.length = n ∧
      r.Spells ((ascii 'S' :: (tt ++ ll)) ++ (ds ++ eol)) := by
  have hsplit : ds = ds.take (2 * srecAddrWidth t) ++ ((ds.drop (2 * srecAddrWidth t)).take (2 * n) ++
      (ds.drop (2 * srecAddrWidth t)).drop (2 * n)) := by
    rw [List.take_append_drop, List.take_append_drop]
  have haa : (ds.take (2 * srecAddrWidth t)).length = 2 * srecAddrWidth t := by
    rw [List.length_take]
    omega
  have hdd : ((ds.drop (2 * srecAddrWidth t)).take (2 * n)).length = 2 * n := by
    rw [List.length_take, List.length_drop]
    omega
  have hcc : ((ds.drop (2 * srecAddrWidth t)).drop (2 * n)).length = 2 := by
    rw [List.length_drop, List.length_drop]
    omega
  generalize ds.take (2 * srecAddrWidth t) = aa at hsplit haa
  generalize (ds.drop (2 * srecAddrWidth t)).take (2 * n) = dd at hsplit hdd
  generalize (ds.drop (2 * srecAddrWidth t)).drop (2 * n) = cc at hsplit hcc
  subst hsplit
  obtain ⟨data, hdata, hbytes⟩ := exists_bytes hdd fun b hb => hds b (by simp [hb])
  have haddr := value_lt aa
  have hcsum := value_lt cc
  rw [haa] at haddr
  rw [hcc] at hcsum
  refine ⟨⟨t, value aa, data, UInt8.ofNat (value cc), ht, haddr, by omega⟩, rfl, hdata, ?_⟩
  refine ⟨tt, ll, aa, dd, cc, eol, by simp [List.append_assoc], htt, ?_, ?_, hbytes, ?_, heol⟩
  · subst hdata
    exact hll
  · exact ⟨haa, fun b hb => hds b (by simp [hb]), rfl⟩
  · refine ⟨hcc, fun b hb => hds b (by simp [hb]), ?_⟩
    rw [ofNat_toNat_of_lt hcsum]

/-- With another digit behind the length the line spells another record, with another sum. -/
theorem SrecRecord.Spells.set {r : SrecRecord} {piece : List Byte} (h : r.Spells piece) {i : Nat}
    {c d : Byte} (hi : 4 ≤ i ∧ i < 2 * r.len + 4) (hc : piece[i]? = some c)
    (hd : isXDigit d = true) (hne : hexVal d ≠ hexVal c) :
    ∃ r' : SrecRecord, r'.Spells (piece.set i d) ∧ r'.type = r.type ∧
      r'.data.length = r.data.length ∧ r'.tailSum % 256 ≠ r.tailSum % 256 := by
  rcases h.digits with ⟨tt, ll, ds, eol, rfl, htt, hll, heol, hlen, hds, hsum⟩
  have hhead : (ascii 'S' :: (tt ++ ll)).length = 4 := by simp [htt.length_eq, hll.length_eq]
  have hj : i - 4 < ds.length := by omega
  -- the digit is in `ds`
  have hset : (((ascii 'S' :: (tt ++ ll)) ++ (ds ++ eol)).set i d) =
      (ascii 'S' :: (tt ++ ll)) ++ (ds.set (i - 4) d ++ eol) := by
    rw [List.set_append_right _ _ (by omega), hhead, List.set_append_left _ _ hj]
  have hcj : ds[i - 4]? = some c := by
    rw [List.getElem?_append_right (by omega), hhead, List.getElem?_append_left hj] at hc
    exact hc
  have hcdigit := hds c (List.mem_of_getElem? hcj)
  have hdigits : ∀ b ∈ ds.set (i - 4) d, isXDigit b = true := by
    intro b hb
    rcases List.mem_or_eq_of_mem_set hb with hb | rfl
    · exact hds b hb
    · exact hd
  have hvalue : (hexVal d).getD 0 ≠ (hexVal c).getD 0 := by
    rcases Option.isSome_iff_exists.mp hd with ⟨v, hv⟩
    rcases Option.isSome_iff_exists.mp hcdigit with ⟨w, hw⟩
    rw [hv, hw] at hne ⊢
    simpa using hne
  have hdiff := pairSum_set hlen hcj hvalue
  obtain ⟨r', htype, hdata, hspells⟩ := @exists_spells r.type r.data.length r.type_le r.length_le
    tt ll (ds.set (i - 4) d) eol htt hll (by rw [List.length_set, hlen]; rfl) hdigits heol
  refine ⟨r', hset ▸ hspells, htype, hdata, ?_⟩
  -- the digits of `r'` are the changed ones
  rcases hspells.digits with ⟨tt', ll', ds', eol', heq, htt', hll', -, hlen', -, hsum'⟩
  have hhead' : (ascii 'S' :: (tt' ++ ll')).length = 4 := by
    simp [htt'.length_eq, hll'.length_eq]
  rcases List.append_inj heq (by rw [hhead, hhead']) with ⟨-, htail⟩
  have hlens : (ds.set (i - 4) d).length = ds'.length := by
    rw [List.length_set, hlen, hlen']
    unfold len
    rw [htype, hdata]
  rcases List.append_inj htail hlens with ⟨hds', -⟩
  rw [← hsum', ← hds', ← hsum]
  exact hdiff

/-! ## An accepted line -/

/-- On an accepted line of one of these records the reader finds the address. -/
theorem SrecRecord.Guarded.leadingAddr {start end_ : Nat} {s u : SrecState} {piece : List Byte}
    {r : SrecRecord} (hg : r.Guarded) (hr : r.Spells piece) (hlen : piece.length < 516)
    (hrun : srecLine start end_ piece s = (.ok (), u)) :
    srecLeadingAddr r.type piece = r.addr := by
  have hhead := srecHeader_heads hr.heads
  unfold srecLeadingAddr
  by_cases h5 : r.type = 5
  · -- an accepted count record has no data
    have hstr := srecHeader_str hr.heads hlen s
    rw [h5] at hstr
    rcases srecLine_count_of_ok hstr hrun with ⟨hn, -⟩
    have hw : srecAddrWidth r.type = 2 := by
      rw [h5]
      rfl
    have hnil : r.data = [] := by
      unfold len at hn
      exact List.eq_nil_of_length_eq_zero (by omega)
    have hc := r.csum.toNat_lt
    have hempty := srecHeader_empty hr hnil
    rw [hhead, hw, if_neg (by decide)] at hempty
    simp only [Option.some.injEq, Prod.mk.injEq, true_and] at hempty
    rw [if_pos h5, hempty, Nat.shiftRight_eq_div_pow]
    omega
  · rw [if_neg h5]
    have hd : r.IsData := by
      unfold IsData isDataType
      rcases hg with ⟨h, -⟩ | h | h | h
      · simp [h]
      · simp [h]
      · simp [h]
      · exact absurd h h5
    by_cases hnil : r.data = []
    · have hempty := srecHeader_empty hr hnil
      rw [hhead] at hempty
      simp only [Option.some.injEq, Prod.mk.injEq, true_and] at hempty
      have hne : r.type ≠ 1 := by
        rcases hg with ⟨-, h⟩ | h | h | h
        · exact absurd hnil h
        · omega
        · omega
        · omega
      rw [hempty, srecAddr_empty hd, if_neg hne]
    · rcases srecHeader_spells hr with ⟨a, ha, haddr⟩
      rw [hhead] at ha
      simp only [Option.some.injEq, Prod.mk.injEq, true_and] at ha
      rw [ha]
      exact haddr hd hnil

/-- An accepted line of one of these records has a right sum. -/
theorem SrecRecord.Guarded.sumRight {start end_ : Nat} {s u : SrecState} {piece : List Byte}
    {r : SrecRecord} (hg : r.Guarded) (hr : r.Spells piece) (hlen : piece.length < 516)
    (hrun : srecLine start end_ piece s = (.ok (), u)) : r.SumRight := by
  have hkind : r.IsData ∨ r.type = 5 := by
    unfold IsData isDataType
    rcases hg with ⟨h, -⟩ | h | h | h
    · simp [h]
    · simp [h]
    · simp [h]
    · exact Or.inr h
  rw [srecLine_sumRight_iff hr.heads hlen hkind hrun, hg.leadingAddr hr hlen hrun]

/-- `srec_read` does not return on a file with a changed digit. The other lines of the file may
be anything that it accepts, and `line` may hold anything when the changed file is read. -/
theorem srecRead_detects {line : LineBuf 516} {file : List Byte} {start end_ : Nat}
    (hok : SrecAccepts line file start end_) {r : SrecRecord} (hr : r.Guarded) {file' : List Byte}
    (h : SrecCorrupts file file' r) (line' : LineBuf 516) :
    ¬SrecAccepts line' file' start end_ := by
  rcases h with ⟨pre, piece, post, i, c, d, hpieces, hs, hi4, hi, hc, hd, hne, rfl⟩
  intro hok'
  have hmem : piece ∈ pieces 516 file := by
    rw [hpieces]
    exact List.mem_append_right _ (List.mem_cons_self ..)
  have hshort := pieces_length_lt (n := 516) (by decide) file piece hmem
  rcases srecLine_of_mem hok hmem with ⟨s, u, hrun⟩
  have hsum := hr.sumRight hs hshort hrun
  -- the changed line is still a piece, and spells a record of the same kind
  rcases hs.set ⟨hi4, hi⟩ hc hd hne with ⟨r', hs', htype, hdata, hdiff⟩
  have hcdigit : c ≠ ascii '\n' := by
    rintro rfl
    rcases hs.digits with ⟨tt, ll, ds, eol, rfl, htt, hll, -, hlen, hds, -⟩
    have hhead : (ascii 'S' :: (tt ++ ll)).length = 4 := by simp [htt.length_eq, hll.length_eq]
    rw [List.getElem?_append_right (by omega), hhead, List.getElem?_append_left (by omega)] at hc
    exact absurd (hds _ (List.mem_of_getElem? hc)) (by decide)
  have hddigit : d ≠ ascii '\n' := by
    rintro rfl
    exact absurd hd (by decide)
  have hmem' : piece.set i d ∈ pieces 516 (file.set (pre.flatten.length + i) d) := by
    rw [pieces_set (by decide) hpieces hc hcdigit hddigit]
    exact List.mem_append_right _ (List.mem_cons_self ..)
  have hr' : r'.Guarded := by
    unfold SrecRecord.Guarded
    rw [htype, ← List.length_pos_iff, hdata, List.length_pos_iff]
    exact hr
  rcases srecLine_of_mem hok' hmem' with ⟨s', u', hrun'⟩
  have hsum' := hr'.sumRight hs' (by rw [List.length_set]; exact hshort) hrun'
  have hlen : r'.len = r.len := by
    unfold SrecRecord.len
    rw [htype, hdata]
  rw [r.sumRight_iff_tailSum] at hsum
  rw [r'.sumRight_iff_tailSum, hlen] at hsum'
  omega

/-- A data digit 5 of an S1 record turned into an A. -/
theorem srecRead_detects_S1 :
    ¬SrecAccepts (LineBuf.zero 515) (text "S10480005A26\n") 0x8000 0x8100 :=
  @srecRead_detects (LineBuf.zero 515) (text "S10480005526\n") 0x8000 0x8100 (by decide +kernel)
    srecSampleS1 (Or.inl ⟨rfl, by decide⟩) (text "S10480005A26\n")
    ⟨[], text "S10480005526\n", [], 9, ascii '5', ascii 'A', by decide, srecSampleS1_spells,
      by decide, by decide, by decide, by decide, by decide, by decide⟩ (LineBuf.zero 515)

end Stm8Flash
