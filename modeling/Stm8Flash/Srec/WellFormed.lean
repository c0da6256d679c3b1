import Stm8Flash.Srec.Accept
import Stm8Flash.Srec.Place

/-! # Which well-formed files `srec_read` accepts

A well-formed file is a text of records with right sums whose count records give the
number of data records (`SrecFile`). The address of an S1 record without data is read
together with its checksum and then shifted as if two data digits followed, so its low
byte is lost, and the sum with it (`SrecRecord.Misread`). `srecRead_accepts_iff` says that
nothing else keeps a well-formed file in range from being accepted.
-/

namespace Stm8Flash

open Hex Stdio Word

namespace SrecRecord

/-- All bytes of the record, `LL` to `CC`, add up to 0xFF modulo 256. -/
def SumRight (r : SrecRecord) : Prop :=
  (r.len + addrSum r.addr + byteSum r.data + r.csum.toNat) % 256 = 255

instance (r : SrecRecord) : Decidable r.SumRight :=
  inferInstanceAs (Decidable (_ % 256 = 255))

/-- An S1 record without data whose address has a low byte: `%08x` finds only the four
digits of the address and the two of the checksum. -/
def Misread (r : SrecRecord) : Prop := r.type = 1 ∧ r.data = [] ∧ r.addr % 256 ≠ 0

/-- What the record does to `number_of_records`, `found_S5_rec` and
`expected_data_records`. -/
def tally (c : Nat × Bool × Nat) (r : SrecRecord) : Nat × Bool × Nat :=
  if isDataType r.type then (u32 (c.1 + 1), c.2)
  else if r.type = 5 then (c.1, true, r.addr)
  else c

theorem tally_data {r : SrecRecord} (hd : r.IsData) (c : Nat × Bool × Nat) :
    r.tally c = (u32 (c.1 + 1), c.2) := if_pos hd

theorem tally_count {r : SrecRecord} (h5 : r.type = 5) (c : Nat × Bool × Nat) :
    r.tally c = (c.1, true, r.addr) := by
  unfold tally
  rw [if_neg (by rw [h5]; decide), if_pos h5]

theorem tally_other {r : SrecRecord} (hd : ¬r.IsData) (h5 : r.type ≠ 5) (c : Nat × Bool × Nat) :
    r.tally c = c := by
  unfold IsData at hd
  unfold tally
  rw [if_neg hd, if_neg h5]

end SrecRecord

/-- A text of records, a line each with its LF or CRLF; the last line may do without. -/
inductive SrecText : List SrecRecord → List Byte → Prop
  | nil : SrecText [] []
  | last {r : SrecRecord} {l : List Byte} (h : r.Spells l) : SrecText [r] l
  | cons {r : SrecRecord} {rs : List SrecRecord} {l f : List Byte} (h : r.Spells l)
      (hend : l.getLast? = some (ascii '\n')) (hf : SrecText rs f) : SrecText (r :: rs) (l ++ f)

/-- A well-formed file of the records `rs` with all data bytes in `[start, end)`. -/
structure SrecFile (start end_ : Nat) (rs : List SrecRecord) (file : List Byte) : Prop where
  text : SrecText rs file
  sum : ∀ r ∈ rs, r.SumRight
  countRecord : ∀ r ∈ rs, r.type = 5 →
    r.data = [] ∧ r.addr = rs.countP fun r => isDataType r.type
  inRange : ∀ r ∈ rs, r.IsData → ∀ k < r.data.length, start ≤ r.addr + k ∧ r.addr + k < end_

/-! ## The pieces of a text -/

/-- A record and its line end. -/
theorem SrecRecord.Spells.split {r : SrecRecord} {l : List Byte} (h : r.Spells l) :
    ∃ body eol, l = body ++ eol ∧ IsEol eol ∧ ascii '\n' ∉ body ∧ body.length = 2 * r.len + 4 ∧
      ∀ e, IsEol e → r.Spells (body ++ e) := by
  rcases h.fields with ⟨tt, ll, aa, dd, cc, eol, rfl, htt, hll, haa, hdd, hcc, heol⟩
  refine ⟨ascii 'S' :: (tt ++ (ll ++ (aa ++ (dd ++ cc)))), eol, ?_, heol, ?_, ?_, ?_⟩
  · simp [List.append_assoc]
  · have hdigit : ∀ b : Byte, isXDigit b = true → b ≠ ascii '\n' := by
      intro b hb he
      subst he
      exact absurd hb (by decide)
    intro hmem
    simp only [List.mem_cons, List.mem_append] at hmem
    rcases hmem with h0 | h0 | h0 | h0 | h0 | h0
    · exact absurd h0 (by decide)
    · exact hdigit _ (htt.digits _ h0) rfl
    · exact hdigit _ (hll.digits _ h0) rfl
    · exact hdigit _ (haa.digits _ h0) rfl
    · exact hdigit _ (hdd.digits _ h0) rfl
    · exact hdigit _ (hcc.digits _ h0) rfl
  · simp only [List.length_cons, List.length_append, htt.length_eq, hll.length_eq,
      haa.length_eq, hdd.length_eq, hcc.length_eq]
    unfold len
    omega
  · intro e he
    refine ⟨tt, ll, aa, dd, cc, e, ?_, htt, hll, haa, hdd, hcc, he⟩
    simp [List.append_assoc]

/-- What `fgets` delivers of a record line: a line that spells the record, and where `LL`
is 255 and the line ends in CRLF, the line feed apart. -/
theorem pieces_spelled {r : SrecRecord} {l f : List Byte} (h : r.Spells l)
    (hend : l.getLast? = some (ascii '\n') ∨ f = []) :
    ∃ piece skipped, pieces 516 (l ++ f) = piece :: (skipped ++ pieces 516 f) ∧
      r.Spells piece ∧ piece.length < 516 ∧ (skipped = [] ∨ skipped = [[ascii '\n']]) := by
  rcases h.split with ⟨body, eol, rfl, heol, hbody, hlen, hspells⟩
  have hle : r.len ≤ 255 := r.length_le
  have hreturn : ascii '\n' ∉ body ++ [ascii '\r'] := by
    intro hmem
    rcases List.mem_append.mp hmem with hb | hb
    · exact hbody hb
    · exact absurd hb (by decide)
  have hlenr : (body ++ [ascii '\r']).length = 2 * r.len + 5 := by
    rw [List.length_append, hlen]
    rfl
  rcases heol with rfl | rfl | rfl | rfl
  · -- the last line of the file, without a line end
    rw [List.append_nil] at hend ⊢
    have hf := hend.resolve_left fun hlast => hbody (List.mem_of_getLast? hlast)
    subst hf
    have hne : body ≠ [] := List.ne_nil_of_length_pos (by omega)
    refine ⟨body, [], ?_, by simpa using hspells [] (Or.inl rfl), by omega, Or.inl rfl⟩
    rw [List.append_nil, pieces_last (by decide) hbody (by omega) hne]
    rfl
  · refine ⟨body ++ [ascii '\n'], [], ?_, hspells _ (Or.inr (Or.inl rfl)), ?_, Or.inl rfl⟩
    · rw [List.append_assoc]
      exact pieces_line (by decide) hbody (by omega) f
    · rw [List.length_append, hlen]
      show 2 * r.len + 4 + 1 < 516
      omega
  · -- the last line again, with a carriage return
    have hf := hend.resolve_left fun hlast => hreturn (List.mem_of_getLast? hlast)
    subst hf
    have hne : body ++ [ascii '\r'] ≠ [] := List.ne_nil_of_length_pos (by omega)
    refine ⟨body ++ [ascii '\r'], [], ?_, hspells _ (Or.inr (Or.inr (Or.inl rfl))), by omega,
      Or.inl rfl⟩
    rw [List.append_nil, pieces_last (by decide) hreturn (by omega) hne]
    rfl
  · have hsplit : body ++ [ascii '\r', ascii '\n'] ++ f =
        (body ++ [ascii '\r']) ++ ascii '\n' :: f := by simp
    rw [hsplit]
    by_cases hfit : 2 * r.len + 7 ≤ 516
    · refine ⟨body ++ [ascii '\r', ascii '\n'], [], ?_, hspells _ (Or.inr (Or.inr (Or.inr rfl))),
        ?_, Or.inl rfl⟩
      · rw [pieces_line (by decide) hreturn (by omega), List.append_assoc]
        rfl
      · rw [List.length_append, hlen]
        show 2 * r.len + 4 + 2 < 516
        omega
    · -- 514 characters and CR fill the buffer
      refine ⟨body ++ [ascii '\r'], [[ascii '\n']], ?_,
        hspells _ (Or.inr (Or.inr (Or.inl rfl))), by omega, Or.inr rfl⟩
      have hfeed := @pieces_line 516 (by decide) [] (by simp) (by simp) f
      rw [pieces_full (by decide) hreturn (by omega)]
      exact congrArg _ hfeed

/-! ## One record -/

theorem addrSum_of_lt {a : Nat} (h : a < 65536) : addrSum a = a % 256 + a / 256 := by
  unfold addrSum
  rw [LO_eq, HI_eq, EX_eq, EH_eq]
  omega

/-- The number that the header scan finds in a record without data. -/
theorem srecHeader_empty {r : SrecRecord} {piece : List Byte} (h : r.Spells piece)
    (hdata : r.data = []) :
    srecHeader piece = some (r.type, r.len,
      if srecAddrWidth r.type = 4 then r.addr else r.addr * 256 + r.csum.toNat) := by
  rcases srecHeader_digits h with ⟨aa, dd, cc, haa, hdd, hcc, hhead⟩
  have hnil : dd = [] := by
    have := hdd.length_eq
    rw [hdata] at this
    exact List.eq_nil_of_length_eq_zero this
  have hvalue : value ((aa ++ (dd ++ cc)).take 8) =
      if srecAddrWidth r.type = 4 then r.addr else r.addr * 256 + r.csum.toNat := by
    rw [hnil, List.nil_append]
    have hlen := haa.length_eq
    by_cases hw : srecAddrWidth r.type = 4
    · rw [if_pos hw, List.take_append_of_le_length (by omega), List.take_of_length_le (by omega),
        haa.value_eq]
    · have hle : srecAddrWidth r.type ≤ 3 := by
        unfold srecAddrWidth at hw ⊢
        split_ifs at hw ⊢ <;> omega
      have hboth := haa.append hcc
      have hpow : (16 : Nat) ^ 2 = 256 := by decide
      rw [if_neg hw, List.take_of_length_le (by rw [hboth.length_eq]; omega), hboth.value_eq, hpow]
  rw [hhead, hvalue]

/-- The address that a data record without data is read at. -/
theorem srecAddr_empty {r : SrecRecord} (hd : r.IsData) :
    srecAddr r.type (if srecAddrWidth r.type = 4 then r.addr
      else r.addr * 256 + r.csum.toNat) = if r.type = 1 then r.addr / 256 else r.addr := by
  have ht := hd.bounds
  have hw := hd.addrWidth
  have hc := r.csum.toNat_lt
  unfold srecAddr
  rw [hw, Nat.shiftRight_eq_div_pow]
  have htype : r.type = 1 ∨ r.type = 2 ∨ r.type = 3 := by omega
  rcases htype with h | h | h
  · rw [h]
    simp
    omega
  · rw [h]
    simp
    omega
  · rw [h]
    simp

/-- The sum over the address that a record without data is read at: from an S1 record the low
byte of the address is missing. -/
theorem srecSum_empty_iff {r : SrecRecord} (hd : r.IsData) (hnil : r.data = [])
    (hsum : r.SumRight) :
    (r.len + addrSum (if r.type = 1 then r.addr / 256 else r.addr) + byteSum r.data +
      r.csum.toNat) % 256 = 255 ↔ ¬r.Misread := by
  unfold SrecRecord.SumRight at hsum
  unfold SrecRecord.Misread
  by_cases ht : r.type = 1
  · have hlt := r.addr_lt
    rw [hd.addrWidth, ht] at hlt
    rw [addrSum_of_lt (by omega)] at hsum
    have hhi : r.addr / 256 % 256 + r.addr / 256 / 256 = r.addr / 256 := by omega
    rw [if_pos ht, addrSum_of_lt (by omega), hhi]
    constructor
    · rintro hok ⟨-, -, hlow⟩
      omega
    · intro hno
      have hlow : r.addr % 256 = 0 := by
        by_contra hlow
        exact hno ⟨ht, hnil, hlow⟩
      omega
  · rw [if_neg ht]
    exact ⟨fun _ hm => ht hm.1, fun _ => hsum⟩

/-- A spelled data record with a right sum and its data in range passes, unless its
address is misread. -/
theorem srecDataPasses_iff {start end_ : Nat} (hend : end_ < 4294967296) {r : SrecRecord}
    {piece : List Byte} (h : r.Spells piece) (hlen : piece.length < 516) (hd : r.IsData)
    (hsum : r.SumRight) (hrange : ∀ k < r.data.length, start ≤ r.addr + k ∧ r.addr + k < end_)
    (s : SrecState) :
    ∃ a, srecHeader (s.str piece) = some (r.type, r.len, a) ∧
      (SrecDataPasses start end_ s piece r.type r.len a ↔ ¬r.Misread) := by
  rcases fieldBytes_spells h hd hlen s with ⟨hbytes, hcount, hdlen⟩
  have hstr := SrecState.str_spells h hlen s
  have hcsum := srecAt_csum h.heads hlen s
  -- fields and tests are in order, so the sum decides
  have hdecides : ∀ a, (r.data ≠ [] → srecAddr r.type a = r.addr) →
      (SrecDataPasses start end_ s piece r.type r.len a ↔
        (r.len + addrSum (srecAddr r.type a) + byteSum r.data + r.csum.toNat) % 256 = 255) := by
    intro a haddr
    unfold SrecDataPasses
    rw [hbytes, hcount, hdlen, hcsum]
    constructor
    · rintro ⟨-, -, v, hv, hok⟩
      cases hv
      exact hok
    · intro hok
      refine ⟨rfl, fun hpos => ?_, _, rfl, hok⟩
      have hne : r.data ≠ [] := fun e => hpos (by rw [e]; rfl)
      have hfirst := hrange 0 (by omega)
      have hlast := hrange (r.data.length - 1) (by omega)
      rw [haddr hne]
      constructor
      · omega
      · rw [u32_of_lt (by omega)]
        omega
  by_cases hnil : r.data = []
  · have hhead := srecHeader_empty h hnil
    refine ⟨_, by rw [hstr, hhead], ?_⟩
    rw [hdecides _ fun hne => absurd hnil hne, srecAddr_empty hd]
    exact srecSum_empty_iff hd hnil hsum
  · rcases srecHeader_spells h with ⟨a, hhead, haddr⟩
    refine ⟨a, by rw [hstr, hhead], ?_⟩
    rw [hdecides a fun hne => haddr hd hne, haddr hd hnil]
    exact ⟨fun _ hm => hnil hm.2.1, fun _ => hsum⟩

/-- What an accepted record leaves in the counters. -/
theorem srecLine_spelled {start end_ : Nat} (hend : end_ < 4294967296) {r : SrecRecord}
    {piece : List Byte} (h : r.Spells piece) (hlen : piece.length < 516) (hsum : r.SumRight)
    (hcount : r.type = 5 → r.data = [])
    (hrange : r.IsData → ∀ k < r.data.length, start ≤ r.addr + k ∧ r.addr + k < end_)
    (hread : ¬r.Misread) (s : SrecState) :
    ∃ u, srecLine start end_ piece s = (.ok (), u) ∧ u.counts = r.tally s.counts := by
  have hstr := SrecState.str_spells h hlen s
  by_cases hd : r.IsData
  · obtain ⟨a, hhead, hpass⟩ := srecDataPasses_iff hend h hlen hd hsum (hrange hd) s
    rw [SrecRecord.tally_data hd]
    exact srecLine_data_run hhead hd (hpass.mpr hread)
  · by_cases h5 : r.type = 5
    · -- count and checksum fill six digits, of which the shift takes the last two away
      have hw : srecAddrWidth r.type = 2 := by
        rw [h5]
        rfl
      have hlen3 : r.len = 3 := by
        unfold SrecRecord.len
        rw [hw, hcount h5]
        rfl
      have hshift : (r.addr * 256 + r.csum.toNat) >>> 8 = r.addr := by
        have hc := r.csum.toNat_lt
        rw [Nat.shiftRight_eq_div_pow]
        omega
      have hhead := srecHeader_empty h (hcount h5)
      rw [hw, if_neg (by decide), ← hstr, h5] at hhead
      have hcsum := srecAt_csum h.heads hlen s
      rw [hlen3] at hcsum
      unfold SrecRecord.SumRight at hsum
      rw [hcount h5, byteSum_nil] at hsum
      obtain ⟨u, hrun, hu⟩ := @srecLine_count_run start end_ _ _ s piece hhead
        ⟨hlen3, _, hcsum, by rw [hshift]; omega⟩
      refine ⟨u, hrun, ?_⟩
      rw [SrecRecord.tally_count h5, hu, hshift]
      rfl
    · rcases srecHeader_spells h with ⟨a, hhead, -⟩
      rw [SrecRecord.tally_other hd h5]
      rw [← hstr] at hhead
      exact ⟨_, srecLine_skip hhead (by simpa [SrecRecord.IsData] using hd) h5, rfl⟩

/-- A misread record is refused. -/
theorem srecLine_misread {start end_ : Nat} (hend : end_ < 4294967296) {r : SrecRecord}
    {piece : List Byte} (h : r.Spells piece) (hlen : piece.length < 516) (hsum : r.SumRight)
    (hmis : r.Misread) (s : SrecState) : ∀ u, srecLine start end_ piece s ≠ (.ok (), u) := by
  intro u hrun
  have hd : r.IsData := by
    unfold SrecRecord.IsData
    rw [hmis.1]
    rfl
  obtain ⟨a, hhead, hpass⟩ := @srecDataPasses_iff start end_ hend r piece h hlen hd hsum
    (by rw [hmis.2.1]; intro k hk; exact absurd hk (Nat.not_lt_zero k)) s
  exact hpass.mp (srecLine_data_of_ok hhead hd hrun) hmis

/-- The line feed that a full buffer leaves over is skipped. -/
theorem srecLine_lineFeed (start end_ : Nat) (s : SrecState) :
    ∃ u, srecLine start end_ [ascii '\n'] s = (.ok (), u) ∧ u.counts = s.counts := by
  have hstr : s.str [ascii '\n'] = [ascii '\n'] :=
    LineBuf.cstr_fill s.line (by decide) (by decide) (Nat.zero_le _)
  have hhead : srecHeader (s.str [ascii '\n']) = none := by
    rw [hstr]
    rfl
  have hne : [ascii '\n'].head?.getD s.temp ≠ ascii 'S' := by
    rw [List.head?_cons, Option.getD_some]
    decide
  rw [srecLine_none hhead, hstr, if_pos hne]
  exact ⟨_, rfl, rfl⟩

theorem srecLines_skipped (start end_ : Nat) {skipped : List (List Byte)}
    (h : skipped = [] ∨ skipped = [[ascii '\n']]) (s : SrecState) :
    ∃ u, srecLines start end_ skipped s = (.ok (), u) ∧ u.counts = s.counts := by
  rcases h with rfl | rfl
  · exact ⟨s, rfl, rfl⟩
  · obtain ⟨u, hrun, hu⟩ := srecLine_lineFeed start end_ s
    refine ⟨u, ?_, hu⟩
    rw [srecLines_cons, Drv.bind_ok hrun]
    rfl

/-! ## A text -/

/-- A text is nothing, or a record line in front of a text. -/
theorem SrecText.uncons {rs : List SrecRecord} {file : List Byte} (h : SrecText rs file) :
    (rs = [] ∧ file = []) ∨ ∃ r rs' l f, rs = r :: rs' ∧ file = l ++ f ∧ r.Spells l ∧
      (l.getLast? = some (ascii '\n') ∨ f = []) ∧ SrecText rs' f := by
  cases h with
  | nil => exact Or.inl ⟨rfl, rfl⟩
  | @last r _ hl => exact Or.inr ⟨r, [], file, [], rfl, by simp, hl, Or.inr rfl, SrecText.nil⟩
  | @cons r rs l f hl hend hf => exact Or.inr ⟨r, rs, l, f, rfl, rfl, hl, Or.inl hend, hf⟩

/-- The lines of a text are accepted when no record is misread, and count its records. -/
theorem srecLines_text {start end_ : Nat} (hend : end_ < 4294967296) {rs : List SrecRecord}
    {file : List Byte} (ht : SrecText rs file) (hsum : ∀ r ∈ rs, r.SumRight)
    (hcount : ∀ r ∈ rs, r.type = 5 → r.data = [])
    (hrange : ∀ r ∈ rs, r.IsData → ∀ k < r.data.length, start ≤ r.addr + k ∧ r.addr + k < end_)
    (hread : ∀ r ∈ rs, ¬r.Misread) (s : SrecState) :
    ∃ u, srecLines start end_ (pieces 516 file) s = (.ok (), u) ∧
      u.counts = rs.foldl SrecRecord.tally s.counts := by
  induction rs generalizing file s with
  | nil =>
    rcases ht.uncons with ⟨-, rfl⟩ | ⟨r, rs, l, f, hcons, -⟩
    · exact ⟨s, rfl, rfl⟩
    · cases hcons
  | cons r rs ih =>
    rcases ht.uncons with ⟨hnil, -⟩ | ⟨r', rs', l, f, hcons, rfl, hl, hlast, hf⟩
    · cases hnil
    · cases hcons
      obtain ⟨piece, skipped, hpieces, hspells, hlen, hskip⟩ := pieces_spelled hl hlast
      -- the record, what is skipped behind it, and the rest
      obtain ⟨t, hrun, htcounts⟩ := srecLine_spelled hend hspells hlen (hsum r (by simp))
        (hcount r (by simp)) (hrange r (by simp)) (hread r (by simp)) s
      obtain ⟨v, hskiprun, hvcounts⟩ := srecLines_skipped start end_ hskip t
      obtain ⟨u, hrest, hucounts⟩ := ih hf (fun q hq => hsum q (by simp [hq]))
        (fun q hq => hcount q (by simp [hq])) (fun q hq => hrange q (by simp [hq]))
        (fun q hq => hread q (by simp [hq])) v
      refine ⟨u, ?_, ?_⟩
      · rw [hpieces, srecLines_cons, Drv.bind_ok hrun, srecLines_append, Drv.bind_ok hskiprun,
          hrest]
      · rw [hucounts, hvcounts, htcounts]
        rfl

/-- A text with accepted lines has no misread record. -/
theorem not_misread_of_srecLines {start end_ : Nat} (hend : end_ < 4294967296)
    {rs : List SrecRecord} {file : List Byte} (ht : SrecText rs file)
    (hsum : ∀ r ∈ rs, r.SumRight) {s u : SrecState}
    (hrun : srecLines start end_ (pieces 516 file) s = (.ok (), u)) :
    ∀ r ∈ rs, ¬r.Misread := by
  induction rs generalizing file s with
  | nil => simp
  | cons r rs ih =>
    rcases ht.uncons with ⟨hnil, -⟩ | ⟨r', rs', l, f, hcons, rfl, hl, hlast, hf⟩
    · cases hnil
    · cases hcons
      obtain ⟨piece, skipped, hpieces, hspells, hlen, -⟩ := pieces_spelled hl hlast
      rw [hpieces, srecLines_cons] at hrun
      rcases Drv.bind_eq_ok.mp hrun with ⟨_, t, hline, hrest⟩
      rw [srecLines_append] at hrest
      rcases Drv.bind_eq_ok.mp hrest with ⟨_, v, -, hrest⟩
      intro q hq
      rcases List.mem_cons.mp hq with rfl | hq
      · intro hmis
        exact srecLine_misread hend hspells hlen (hsum q (by simp)) hmis s t hline
      · exact ih hf (fun q hq => hsum q (by simp [hq])) hrest q hq

/-! ## The counters -/

theorem tally_number (rs : List SrecRecord) {c : Nat × Bool × Nat} (hc : c.1 < 4294967296) :
    (rs.foldl SrecRecord.tally c).1 = u32 (c.1 + rs.countP fun r => isDataType r.type) := by
  induction rs generalizing c with
  | nil => exact (u32_of_lt hc).symm
  | cons r rs ih =>
    rw [List.foldl_cons, List.countP_cons]
    by_cases hd : isDataType r.type = true
    · have hlt : u32 (c.1 + 1) < 4294967296 := Nat.mod_lt _ (by decide)
      rw [SrecRecord.tally_data hd, ih hlt, if_pos hd]
      unfold u32
      simp only
      omega
    · rw [if_neg hd, Nat.add_zero]
      by_cases h5 : r.type = 5
      · rw [SrecRecord.tally_count h5]
        exact ih hc
      · rw [SrecRecord.tally_other hd h5]
        exact ih hc

/-- When all count records agree, the count expected is theirs. -/
theorem tally_expected {rs : List SrecRecord} {n : Nat} (h : ∀ r ∈ rs, r.type = 5 → r.addr = n)
    {c : Nat × Bool × Nat} (hc : c.2.1 = true → c.2.2 = n)
    (hfound : (rs.foldl SrecRecord.tally c).2.1 = true) :
    (rs.foldl SrecRecord.tally c).2.2 = n := by
  induction rs generalizing c with
  | nil => exact hc hfound
  | cons r rs ih =>
    rw [List.foldl_cons] at hfound ⊢
    refine ih (fun q hq => h q (by simp [hq])) ?_ hfound
    by_cases h5 : r.type = 5
    · rw [SrecRecord.tally_count h5]
      exact fun _ => h r (by simp) h5
    · by_cases hd : r.IsData
      · rw [SrecRecord.tally_data hd]
        exact hc
      · rw [SrecRecord.tally_other hd h5]
        exact hc

/-- A count record is remembered. -/
theorem tally_found {rs : List SrecRecord} {c : Nat × Bool × Nat} :
    (rs.foldl SrecRecord.tally c).2.1 = true ↔ c.2.1 = true ∨ ∃ r ∈ rs, r.type = 5 := by
  induction rs generalizing c with
  | nil => simp
  | cons r rs ih =>
    rw [List.foldl_cons, ih]
    by_cases h5 : r.type = 5
    · rw [SrecRecord.tally_count h5]
      simp [h5]
    · by_cases hd : r.IsData
      · rw [SrecRecord.tally_data hd]
        simp [h5]
      · rw [SrecRecord.tally_other hd h5]
        simp [h5]

/-- The verdict of `srec_read` once its lines are accepted. -/
theorem srecAccepts_of_lines {line : LineBuf 516} {file : List Byte} {start end_ : Nat}
    {s : SrecState}
    (h : srecLines start end_ (pieces 516 file) (SrecState.init line) = (.ok (), s)) :
    SrecAccepts line file start end_ ↔
      (s.foundS5Rec = true → s.numberOfRecords = s.expectedDataRecords) := by
  unfold SrecAccepts srecRead
  rw [Drv.bind_ok h, Drv.state_bind_run]
  by_cases hbad : s.foundS5Rec = true ∧ s.numberOfRecords ≠ s.expectedDataRecords
  · rw [if_pos hbad]
    constructor
    · rintro ⟨v, u, hrun⟩
      cases hrun
    · intro hok
      exact absurd (hok hbad.1) hbad.2
  · rw [if_neg hbad]
    constructor
    · intro _ hfound
      by_contra hne
      exact hbad ⟨hfound, hne⟩
    · exact fun _ => ⟨_, _, rfl⟩

/-- `srec_read` accepts a well-formed file with its data in range exactly when every S1
record without data bytes has an address with low byte 0. -/
theorem srecRead_accepts_iff (line : LineBuf 516) {rs : List SrecRecord} {file : List Byte}
    {start end_ : Nat} (hend : end_ < 2 ^ 32) (h : SrecFile start end_ rs file) :
    SrecAccepts line file start end_ ↔
      ∀ r ∈ rs, r.type = 1 → r.data = [] → r.addr % 256 = 0 := by
  constructor
  · rintro ⟨v, s, hread⟩ r hr ht hdata
    by_contra hlow
    exact not_misread_of_srecLines hend h.text h.sum (srecLines_of_ok hread) r hr
      ⟨ht, hdata, hlow⟩
  · intro hlow
    obtain ⟨u, hrun, hcounts⟩ := srecLines_text hend h.text h.sum
      (fun r hr h5 => (h.countRecord r hr h5).1) h.inRange
      (fun r hr hm => hm.2.2 (hlow r hr hm.1 hm.2.1)) (SrecState.init line)
    apply (srecAccepts_of_lines hrun).mpr
    intro hfound
    have hzero : (SrecState.init line).counts = (0, false, 0) := rfl
    rw [hzero] at hcounts
    have hnumber := tally_number rs (c := (0, false, 0)) (by decide)
    have hexpected := @tally_expected rs _ (fun r hr h5 => (h.countRecord r hr h5).2)
      (0, false, 0) (fun hf => by cases hf)
    have hsome := @tally_found rs (0, false, 0)
    rw [← hcounts] at hnumber hexpected hsome
    have hnum : u.numberOfRecords = u32 (0 + rs.countP fun r => isDataType r.type) := hnumber
    have hexp : u.expectedDataRecords = rs.countP fun r => isDataType r.type := hexpected hfound
    -- a count record has room for the count, so the reader's counter did not wrap
    rcases hsome.mp hfound with hinit | ⟨r, hr, h5⟩
    · cases hinit
    · have hlt := r.addr_lt
      have hw : srecAddrWidth r.type = 2 := by
        rw [h5]
        rfl
      rw [hw, (h.countRecord r hr h5).2] at hlt
      rw [hnum, hexp, Nat.zero_add, u32_of_lt (by omega)]

/-- The S1 record without data at 0x8001. -/
def srecSampleEmpty : SrecRecord :=
  { srecSampleS1 with
    addr := 0x8001
    data := []
    csum := 0x7B
    addr_lt := by decide
    length_le := by decide }

theorem srecSampleEmpty_spells : srecSampleEmpty.Spells (text "S10380017B\n") where
  fields := ⟨text "1", text "03", text "8001", [], text "7B", text "\n", by decide,
    .of_all rfl rfl rfl, .of_all rfl rfl rfl, .of_all rfl rfl rfl, Bytes.nil,
    .of_all rfl rfl rfl, Or.inr (Or.inl rfl)⟩

/-- A well-formed file of one S1 record without data is refused. -/
theorem srecRead_refuses_empty :
    SrecFile 0x8000 0x8100 [srecSampleEmpty] (text "S10380017B\n") ∧
      ¬SrecAccepts (LineBuf.zero 515) (text "S10380017B\n") 0x8000 0x8100 := by
  constructor
  · constructor
    · exact SrecText.last srecSampleEmpty_spells
    · intro r hr
      rw [List.mem_singleton.mp hr]
      decide
    · intro r hr h5
      rw [List.mem_singleton.mp hr] at h5
      exact absurd h5 (by decide)
    · intro r hr _ k hk
      rw [List.mem_singleton.mp hr] at hk
      exact absurd hk (Nat.not_lt_zero k)
  · decide +kernel

/-- The count record for one data record. -/
def srecSampleS5 : SrecRecord := srecCountRecord 1

/-- A file of a data record and a count record, with both line ends. -/
theorem srecRead_accepts_iff_counted :
    SrecAccepts (LineBuf.zero 515) (text "S10480005526\r\n" ++ text "S5030001FB\n")
        0x8000 0x8100 ↔
      ∀ r ∈ [srecSampleS1, srecSampleS5], r.type = 1 → r.data = [] → r.addr % 256 = 0 := by
  have hS1 : srecSampleS1.Spells (text "S10480005526\r\n") :=
    ⟨text "1", text "04", text "8000", text "55", text "26", text "\r\n", by decide,
      .of_all rfl rfl rfl, .of_all rfl rfl rfl, .of_all rfl rfl rfl,
      Bytes.cons (f := text "55") (.of_all rfl rfl rfl) Bytes.nil, .of_all rfl rfl rfl,
      Or.inr (Or.inr (Or.inr rfl))⟩
  have hS5 : srecSampleS5.Spells (text "S5030001FB\n") :=
    ⟨text "5", text "03", text "0001", [], text "FB", text "\n", by decide,
      .of_all rfl rfl rfl, .of_all rfl rfl rfl, .of_all rfl rfl rfl, Bytes.nil,
      .of_all rfl rfl rfl, Or.inr (Or.inl rfl)⟩
  refine srecRead_accepts_iff _ (by decide) ⟨?_, ?_, ?_, ?_⟩
  · exact SrecText.cons hS1 (by decide) (SrecText.last hS5)
  · intro r hr
    rcases List.mem_cons.mp hr with rfl | hr'
    · decide
    · rw [List.mem_singleton.mp hr']
      decide
  · intro r hr h5
    rcases List.mem_cons.mp hr with rfl | hr'
    · exact absurd h5 (by decide)
    · rw [List.mem_singleton.mp hr']
      decide
  · intro r hr _ k hk
    rcases List.mem_cons.mp hr with rfl | hr'
    · have hk1 : k < 1 := hk
      have haddr : srecSampleS1.addr = 0x8000 := rfl
      omega
    · rw [List.mem_singleton.mp hr'] at hk
      exact absurd hk (Nat.not_lt_zero k)

end Stm8Flash
