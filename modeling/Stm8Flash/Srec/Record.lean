import Stm8Flash.Srec.Line

/-! # S-records, and how `srec_read` reads one

What a well-formed record is (`SrecRecord.Spells`), and that on a line that spells one
the header scan and the field loop of `srec_read` find its type, its address and its data
(`srecHeader_spells`, `fieldBytes_spells`). Lines are what `fgets` delivers. The checksum is
that of `srec_csum` in a record that `srec_write` emits (`SrecRecord.make`).
-/

namespace Stm8Flash

open Hex Stdio Word

/-- How many bytes the address field of a record of type `t` has. -/
def srecAddrWidth (t : Nat) : Nat :=
  if t = 2 ∨ t = 6 ∨ t = 8 then 3 else if t = 3 ∨ t = 7 then 4 else 2

theorem srecAddrWidth_le (t : Nat) : srecAddrWidth t ≤ 4 := by
  unfold srecAddrWidth
  split_ifs <;> omega

/-- A record `StLLAA…DD…CC`: type, address, data and checksum byte. The field `LL` counts
the bytes behind it. -/
structure SrecRecord where
  type : Nat
  addr : Nat
  data : List Byte
  csum : Byte
  type_le : type ≤ 9
  addr_lt : addr < 16 ^ (2 * srecAddrWidth type)
  length_le : srecAddrWidth type + data.length + 1 ≤ 255

/-- `srec_csum(buf, length, chunk_len, chunk_addr)` on the bytes `buf[0 .. length - 1]`. -/
def srecCsum (data : List Byte) (chunkLen chunkAddr : Nat) : Nat :=
  let sum := chunkLen + LO chunkAddr + HI chunkAddr + EX chunkAddr + EH chunkAddr
  LO (not32 (sum + byteSum data))

/-- A record with the checksum of the writer. -/
def SrecRecord.make (type addr : Nat) (data : List Byte) (htype : type ≤ 9)
    (haddr : addr < 16 ^ (2 * srecAddrWidth type))
    (hlen : srecAddrWidth type + data.length + 1 ≤ 255) : SrecRecord where
  type := type
  addr := addr
  data := data
  csum := UInt8.ofNat (srecCsum data (srecAddrWidth type + data.length + 1) addr)
  type_le := htype
  addr_lt := haddr
  length_le := hlen

/-- The count modulo 2^16 fits the field of its record. -/
theorem srecCount_lt (n : Nat) : n % 65536 < 16 ^ (2 * srecAddrWidth 5) :=
  Nat.mod_lt n (by decide)

/-- The count record for `n` data records. -/
def srecCountRecord (n : Nat) : SrecRecord :=
  SrecRecord.make 5 (n % 65536) [] (by decide) (srecCount_lt n) (by decide)

/-- What may stand behind a record on its line. -/
def IsEol (l : List Byte) : Prop :=
  l = [] ∨ l = [ascii '\n'] ∨ l = [ascii '\r'] ∨ l = [ascii '\r', ascii '\n']

namespace SrecRecord

/-- The value of the field `LL`. -/
def len (r : SrecRecord) : Nat := srecAddrWidth r.type + r.data.length + 1

/-- `piece` is a line with the record `r`, in fixed-width hex digits of either case. -/
structure Spells (r : SrecRecord) (piece : List Byte) : Prop where
  fields : ∃ tt ll aa dd cc eol,
    piece = ascii 'S' :: (tt ++ (ll ++ ((aa ++ (dd ++ cc)) ++ eol))) ∧
    Field 1 r.type tt ∧ Field 2 r.len ll ∧ Field (2 * srecAddrWidth r.type) r.addr aa ∧
    Bytes r.data dd ∧ Field 2 r.csum.toNat cc ∧ IsEol eol

/-- `piece` begins with the record `r`, whatever stands behind it. -/
structure Heads (r : SrecRecord) (piece : List Byte) : Prop where
  fields : ∃ tt ll aa dd cc tail,
    piece = ascii 'S' :: (tt ++ (ll ++ ((aa ++ (dd ++ cc)) ++ tail))) ∧
    Field 1 r.type tt ∧ Field 2 r.len ll ∧ Field (2 * srecAddrWidth r.type) r.addr aa ∧
    Bytes r.data dd ∧ Field 2 r.csum.toNat cc

theorem Spells.heads {r : SrecRecord} {piece : List Byte} (h : r.Spells piece) :
    r.Heads piece := by
  rcases h.fields with ⟨tt, ll, aa, dd, cc, eol, hpiece, htt, hll, haa, hdd, hcc, -⟩
  exact ⟨tt, ll, aa, dd, cc, eol, hpiece, htt, hll, haa, hdd, hcc⟩

/-- A data record: S1, S2 or S3. -/
def IsData (r : SrecRecord) : Prop := isDataType r.type = true

instance (r : SrecRecord) : Decidable r.IsData := inferInstanceAs (Decidable (_ = true))

theorem IsData.bounds {r : SrecRecord} (h : r.IsData) : 1 ≤ r.type ∧ r.type ≤ 3 :=
  isDataType_bounds h

theorem IsData.addrWidth {r : SrecRecord} (h : r.IsData) : srecAddrWidth r.type = r.type + 1 := by
  have ht := h.bounds
  unfold srecAddrWidth
  split_ifs <;> omega

/-- A data record's address is a 32-bit number. -/
theorem IsData.addr_lt {r : SrecRecord} (h : r.IsData) : r.addr < 4294967296 := by
  have ht := h.bounds
  have hlt := r.addr_lt
  rw [h.addrWidth] at hlt
  have hpow : 16 ^ (2 * (r.type + 1)) ≤ 16 ^ 8 := Nat.pow_le_pow_right (by decide) (by omega)
  omega

/-- The first character of a line end is not a digit. -/
theorem eol_head {eol : List Byte} (h : IsEol eol) : ∀ b ∈ eol.head?, isXDigit b = false := by
  intro b hb
  rcases h with rfl | rfl | rfl | rfl
  · cases hb
  · cases hb
    rfl
  · cases hb
    rfl
  · cases hb
    rfl

theorem eol_no_nul {eol : List Byte} (h : IsEol eol) : (0 : Byte) ∉ eol := by
  rcases h with rfl | rfl | rfl | rfl <;> decide

theorem Spells.no_nul {r : SrecRecord} {piece : List Byte} (h : r.Spells piece) :
    (0 : Byte) ∉ piece := by
  rcases h.fields with ⟨tt, ll, aa, dd, cc, eol, rfl, htt, hll, haa, hdd, hcc, heol⟩
  have hdigit : ∀ b : Byte, isXDigit b = true → b ≠ 0 := by
    intro b hb hzero
    subst hzero
    exact absurd hb (by decide)
  intro hmem
  simp only [List.mem_cons, List.mem_append] at hmem
  rcases hmem with h0 | h0 | h0 | (h0 | h0 | h0) | h0
  · exact absurd h0 (by decide)
  · exact hdigit 0 (htt.digits 0 h0) rfl
  · exact hdigit 0 (hll.digits 0 h0) rfl
  · exact hdigit 0 (haa.digits 0 h0) rfl
  · exact hdigit 0 (hdd.digits 0 h0) rfl
  · exact hdigit 0 (hcc.digits 0 h0) rfl
  · exact eol_no_nul heol h0

/-- The record stands in front of any NUL. -/
theorem Heads.takeWhile {r : SrecRecord} {piece : List Byte} (h : r.Heads piece) :
    r.Heads (piece.takeWhile (· ≠ 0)) := by
  rcases h.fields with ⟨tt, ll, aa, dd, cc, tail, rfl, htt, hll, haa, hdd, hcc⟩
  refine ⟨tt, ll, aa, dd, cc, tail.takeWhile (· ≠ 0), ?_, htt, hll, haa, hdd, hcc⟩
  have hdigit : ∀ b : Byte, isXDigit b = true → decide (b ≠ 0) = true := by
    intro b hb
    have hne : b ≠ 0 := by
      intro hzero
      subst hzero
      exact absurd hb (by decide)
    simpa using hne
  have hS : decide (ascii 'S' ≠ 0) = true := by decide
  rw [List.takeWhile_cons, hS, if_pos rfl,
    List.takeWhile_append_of_pos fun b hb => hdigit b (htt.digits b hb),
    List.takeWhile_append_of_pos fun b hb => hdigit b (hll.digits b hb),
    List.append_assoc, List.takeWhile_append_of_pos fun b hb => hdigit b (haa.digits b hb),
    List.append_assoc, List.takeWhile_append_of_pos fun b hb => hdigit b (hdd.digits b hb),
    List.takeWhile_append_of_pos fun b hb => hdigit b (hcc.digits b hb)]
  simp [List.append_assoc]

end SrecRecord

/-! ## The header -/

/-- The value of the first eight of a string of digits, without the digits behind the
first `w`, is the value of these. -/
theorem value_take_shift {f es : List Byte} {w k : Nat} (hf : f.length = w) (hk : w + k = 8)
    (hes : k ≤ es.length) : value ((f ++ es).take 8) >>> (4 * k) = value f := by
  have htake : (f ++ es).take 8 = f ++ es.take k := by
    rw [List.take_append, List.take_of_length_le (by omega), hf]
    congr 2
    omega
  -- the digits of the tail are worth less than one unit of the field
  have hlt := value_lt (es.take k)
  have hlen : (es.take k).length = k := by simp [hes]
  have hpow : (2 : Nat) ^ (4 * k) = 16 ^ k := by rw [Nat.pow_mul]
  rw [hlen] at hlt
  rw [htake, value_append, hlen, Nat.shiftRight_eq_div_pow, hpow, Nat.add_comm,
    Nat.add_mul_div_right _ _ (Nat.pow_pos (by decide)), Nat.div_eq_of_lt hlt, Nat.zero_add]

/-- Behind `S`, the type and the length. -/
theorem drop_srecHeader {c : Byte} {tt ll rest : List Byte} (htt : tt.length = 1)
    (hll : ll.length = 2) : (c :: (tt ++ (ll ++ rest))).drop 4 = rest := by
  have hfront : (c :: (tt ++ ll)).length = 4 := by simp [htt, hll]
  have hsplit : c :: (tt ++ (ll ++ rest)) = (c :: (tt ++ ll)) ++ rest := by simp
  rw [hsplit, ← hfront, List.drop_left]

/-- The header scan finds the type and the length of a record, and the number that the
digits behind the length give, eight at most. -/
theorem srecHeader_heads {r : SrecRecord} {piece : List Byte} (h : r.Heads piece) :
    srecHeader piece = some (r.type, r.len, value (leading 8 (piece.drop 4))) := by
  rcases h.fields with ⟨tt, ll, aa, dd, cc, tail, rfl, htt, hll, haa, hdd, hcc⟩
  have hdigits : ∀ b ∈ aa ++ (dd ++ cc), isXDigit b = true := by
    intro b hb
    rcases List.mem_append.mp hb with hb | hb
    · exact haa.digits b hb
    · rcases List.mem_append.mp hb with hb | hb
      · exact hdd.digits b hb
      · exact hcc.digits b hb
  have hdrop : (ascii 'S' :: (tt ++ (ll ++ ((aa ++ (dd ++ cc)) ++ tail)))).drop 4 =
      (aa ++ (dd ++ cc)) ++ tail := drop_srecHeader htt.length_eq hll.length_eq
  -- two digits at least, so the scan is plain
  have hlen : 2 ≤ (leading 8 ((aa ++ (dd ++ cc)) ++ tail)).length := by
    rw [leading_append 8 tail hdigits, List.length_append, List.length_take, List.length_append,
      List.length_append, hcc.length_eq]
    omega
  unfold srecHeader
  simp only [if_true]
  rw [scanX_field (by decide) htt, Option.bind_some, scanX_field (by decide) hll,
    Option.bind_some, scanX_leading hlen, hdrop]
  rfl

/-- On a line that spells a record these are the first eight of its digits, or all of them
if there are fewer. -/
theorem srecHeader_digits {r : SrecRecord} {piece : List Byte} (h : r.Spells piece) :
    ∃ aa dd cc, Field (2 * srecAddrWidth r.type) r.addr aa ∧ Bytes r.data dd ∧
      Field 2 r.csum.toNat cc ∧
      srecHeader piece = some (r.type, r.len, value ((aa ++ (dd ++ cc)).take 8)) := by
  have hhead := srecHeader_heads h.heads
  rcases h.fields with ⟨tt, ll, aa, dd, cc, eol, rfl, htt, hll, haa, hdd, hcc, heol⟩
  refine ⟨aa, dd, cc, haa, hdd, hcc, ?_⟩
  have hdigits : ∀ b ∈ aa ++ (dd ++ cc), isXDigit b = true := by
    intro b hb
    rcases List.mem_append.mp hb with hb | hb
    · exact haa.digits b hb
    · rcases List.mem_append.mp hb with hb | hb
      · exact hdd.digits b hb
      · exact hcc.digits b hb
  have hdrop : (ascii 'S' :: (tt ++ (ll ++ ((aa ++ (dd ++ cc)) ++ eol)))).drop 4 =
      (aa ++ (dd ++ cc)) ++ eol := drop_srecHeader htt.length_eq hll.length_eq
  rw [hhead, hdrop, leading_append 8 eol hdigits,
    leading_of_head _ (SrecRecord.eol_head heol), List.append_nil]

/-- The header scan finds the address of a data record with data. Without data the
address field of an S1 record is too short for `%08x`. -/
theorem srecHeader_spells {r : SrecRecord} {piece : List Byte} (h : r.Spells piece) :
    ∃ a, srecHeader piece = some (r.type, r.len, a) ∧
      (r.IsData → r.data ≠ [] → srecAddr r.type a = r.addr) := by
  rcases srecHeader_digits h with ⟨aa, dd, cc, haa, hdd, hcc, hhead⟩
  refine ⟨_, hhead, fun hdata hne => ?_⟩
  have ht := hdata.bounds
  have hpos : 0 < r.data.length := List.length_pos_iff.mpr hne
  have hrest : (dd ++ cc).length = 2 * r.data.length + 2 := by
    rw [List.length_append, hdd.length_eq, hcc.length_eq]
  have hshift : 8 * (3 - r.type) = 4 * (2 * (3 - r.type)) := by omega
  unfold srecAddr
  rw [hshift, value_take_shift haa.length_eq (by rw [hdata.addrWidth]; omega) (by omega),
    haa.value_eq]

/-! ## The data fields -/

theorem srecBytes_spelled {line : LineBuf 516} {piece : List Byte}
    (hline : ∀ p ≤ piece.length, line.cstr p = piece.drop p) {data dd : List Byte}
    (hdd : Bytes data dd) {i : Nat} {rest : List Byte} (hi : piece.drop i = dd ++ rest)
    (hle : i ≤ piece.length) : srecBytes line data.length i = data := by
  induction hdd generalizing i with
  | nil => rfl
  | @cons b bs f ss hf hs ih =>
    have hscan := scanX_field (by decide) hf (ss ++ rest)
    have hat : srecAt line i = some b.toNat := by
      unfold srecAt
      rw [hline i hle, hi, List.append_assoc, hscan]
      rfl
    -- there is a field at `i`, so the next column is still on the line
    have hlen : i + 2 ≤ piece.length := by
      have hcong := congrArg List.length hi
      simp only [List.length_drop, List.length_append, hf.length_eq] at hcong
      omega
    have hnext : piece.drop (i + 2) = ss ++ rest := by
      rw [← List.drop_drop, hi, List.append_assoc, ← hf.length_eq, List.drop_left]
    rw [List.length_cons, srecBytes, hat, ih hnext hlen]
    simp

/-- The string in `line` is the line just read. -/
theorem SrecState.str_spells {r : SrecRecord} {piece : List Byte} (h : r.Spells piece)
    (hlen : piece.length < 516) (s : SrecState) : s.str piece = piece :=
  LineBuf.cstr_fill s.line hlen h.no_nul (Nat.zero_le _)

/-- The string in `line` is what was read, up to a NUL. -/
theorem SrecState.str_eq (s : SrecState) {piece : List Byte} (hlen : piece.length < 516) :
    s.str piece = piece.takeWhile (· ≠ 0) := by
  unfold SrecState.str SrecState.readLine
  rw [LineBuf.cstr_fill_takeWhile s.line hlen (Nat.zero_le _), List.drop_zero]

/-- The digits behind the length stand in front of any NUL. -/
theorem SrecRecord.Heads.leading_takeWhile {r : SrecRecord} {piece : List Byte}
    (h : r.Heads piece) (w : Nat) :
    leading w ((piece.takeWhile (· ≠ 0)).drop 4) = leading w (piece.drop 4) := by
  rcases h.fields with ⟨tt, ll, aa, dd, cc, tail, hpiece, htt, hll, -, -, -⟩
  have hne : ∀ b ∈ piece.take 4, decide (b ≠ 0) = true := by
    have hfour : piece.take 4 = ascii 'S' :: (tt ++ ll) := by
      have hlen : (ascii 'S' :: (tt ++ ll)).length = 4 := by
        simp [htt.length_eq, hll.length_eq]
      have hsplit : piece = (ascii 'S' :: (tt ++ ll)) ++ ((aa ++ (dd ++ cc)) ++ tail) := by
        rw [hpiece]
        simp [List.append_assoc]
      rw [hsplit, ← hlen, List.take_left]
    have hdigit : ∀ b : Byte, isXDigit b = true → b ≠ 0 := by
      intro b hb hzero
      subst hzero
      exact absurd hb (by decide)
    intro b hb
    rw [hfour] at hb
    rcases List.mem_cons.mp hb with rfl | hb
    · decide
    · rcases List.mem_append.mp hb with hb | hb
      · simpa using hdigit b (htt.digits b hb)
      · simpa using hdigit b (hll.digits b hb)
  have hlen : 4 ≤ piece.length := by
    rw [hpiece]
    simp only [List.length_cons, List.length_append, htt.length_eq, hll.length_eq]
    omega
  have htrunc : piece.takeWhile (· ≠ 0) = piece.take 4 ++ (piece.drop 4).takeWhile (· ≠ 0) := by
    conv_lhs => rw [← List.take_append_drop 4 piece]
    rw [List.takeWhile_append_of_pos hne]
  have hfront : (piece.take 4).length = 4 := by
    rw [List.length_take]
    omega
  rw [htrunc, List.drop_append_of_le_length (by omega), List.drop_eq_nil_of_le (by omega),
    List.nil_append, Hex.leading_takeWhile]

/-- The header that the reader finds on a line that begins with a record. -/
theorem srecHeader_str {r : SrecRecord} {piece : List Byte} (h : r.Heads piece)
    (hlen : piece.length < 516) (s : SrecState) :
    srecHeader (s.str piece) = some (r.type, r.len, value (leading 8 (piece.drop 4))) := by
  rw [SrecState.str_eq s hlen, srecHeader_heads h.takeWhile, h.leading_takeWhile]

/-- The data loop sees the data of the record, and no more. -/
theorem fieldBytes_heads {r : SrecRecord} {piece : List Byte} (h : r.Heads piece)
    (hd : r.IsData) (hlen : piece.length < 516) (s : SrecState) :
    s.fieldBytes piece r.type r.len = r.data ∧ srecFieldCount r.type r.len = r.data.length ∧
      srecDataLen r.type r.len = r.data.length := by
  have ht := hd.bounds
  have hw := hd.addrWidth
  have hle := r.length_le
  have hlen_eq : r.len = r.type + r.data.length + 2 := by
    unfold SrecRecord.len
    omega
  have hcount : srecFieldCount r.type r.len = r.data.length := by
    unfold srecFieldCount srecRounds
    rw [hlen_eq, u32_of_lt (by omega)]
    omega
  have hdata : srecDataLen r.type r.len = r.data.length := by
    have hsub : sub32 (r.type + r.data.length + 2) r.type = r.data.length + 2 := by
      rw [sub32_of_le (by omega) (by omega)]
      omega
    unfold srecDataLen
    rw [hlen_eq, hsub, sub32_of_le (by omega) (by omega)]
    omega
  refine ⟨?_, hcount, hdata⟩
  have hline : ∀ p ≤ (piece.takeWhile (· ≠ 0)).length,
      (s.readLine piece).line.cstr p = (piece.takeWhile (· ≠ 0)).drop p :=
    fun p hp => LineBuf.cstr_fill_takeWhile s.line hlen hp
  unfold SrecState.fieldBytes
  rw [hcount]
  generalize hw' : piece.takeWhile (· ≠ 0) = str at hline
  have hstr := h.takeWhile
  rw [hw'] at hstr
  rcases hstr.fields with ⟨tt, ll, aa, dd, cc, tail, rfl, htt, hll, haa, hdd, hcc⟩
  -- the data stand behind `S`, the type, the length and the address
  have hcol : 2 * (r.type + 3) = (ascii 'S' :: (tt ++ (ll ++ aa))).length := by
    simp only [List.length_cons, List.length_append, htt.length_eq, hll.length_eq,
      haa.length_eq, hw]
    omega
  have hsplit : ascii 'S' :: (tt ++ (ll ++ ((aa ++ (dd ++ cc)) ++ tail))) =
      (ascii 'S' :: (tt ++ (ll ++ aa))) ++ (dd ++ (cc ++ tail)) := by
    simp [List.append_assoc]
  have hdrop : (ascii 'S' :: (tt ++ (ll ++ ((aa ++ (dd ++ cc)) ++ tail)))).drop (2 * (r.type + 3)) =
      dd ++ (cc ++ tail) := by
    rw [hcol, hsplit, List.drop_left]
  refine srecBytes_spelled hline hdd hdrop ?_
  rw [hcol, hsplit, List.length_append]
  omega

theorem fieldBytes_spells {r : SrecRecord} {piece : List Byte} (h : r.Spells piece)
    (hd : r.IsData) (hlen : piece.length < 516) (s : SrecState) :
    s.fieldBytes piece r.type r.len = r.data ∧ srecFieldCount r.type r.len = r.data.length ∧
      srecDataLen r.type r.len = r.data.length :=
  fieldBytes_heads h.heads hd hlen s

/-- The checksum field of a record stands where the length says. -/
theorem srecAt_csum {r : SrecRecord} {piece : List Byte} (h : r.Heads piece)
    (hlen : piece.length < 516) (s : SrecState) :
    srecAt (s.readLine piece).line (u32 (2 * (r.len + 1))) = some r.csum.toNat := by
  have hle : r.len ≤ 255 := r.length_le
  have hline : ∀ p ≤ (piece.takeWhile (· ≠ 0)).length,
      (s.readLine piece).line.cstr p = (piece.takeWhile (· ≠ 0)).drop p :=
    fun p hp => LineBuf.cstr_fill_takeWhile s.line hlen hp
  generalize hw' : piece.takeWhile (· ≠ 0) = str at hline
  have hstr := h.takeWhile
  rw [hw'] at hstr
  rcases hstr.fields with ⟨tt, ll, aa, dd, cc, tail, rfl, htt, hll, haa, hdd, hcc⟩
  have hcol : u32 (2 * (r.len + 1)) = (ascii 'S' :: (tt ++ (ll ++ (aa ++ dd)))).length := by
    rw [u32_of_lt (by omega)]
    simp only [List.length_cons, List.length_append, htt.length_eq, hll.length_eq,
      haa.length_eq, hdd.length_eq]
    unfold SrecRecord.len
    omega
  have hsplit : ascii 'S' :: (tt ++ (ll ++ ((aa ++ (dd ++ cc)) ++ tail))) =
      (ascii 'S' :: (tt ++ (ll ++ (aa ++ dd)))) ++ (cc ++ tail) := by
    simp [List.append_assoc]
  unfold srecAt
  rw [hline _ (by rw [hcol, hsplit, List.length_append]; omega), hcol, hsplit, List.drop_left,
    scanX_field (by decide) hcc]
  rfl

end Stm8Flash
