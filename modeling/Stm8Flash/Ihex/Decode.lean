import Mathlib.Data.List.Basic
import Stm8Flash.Ihex.Read
import Stm8Flash.Ihex.Record

/-! # `ihex_read` decodes the format

One line of the reader depends on the record it spells only, however the line ends, as
long as it fits the line buffer (`ihexLine_read`). On a well-formed text whose data
records lie in range it does what the record says (`ihexLine_record`), and a run over
the lines of a file leaves the image of the records (`ihexLines_records`).
-/

namespace Stm8Flash

open Hex Stdio Word

/-! ## One line -/

theorem ihexHeader_line {ll aa tt rest : List Byte} {n a t : Nat} (hll : Field 2 n ll)
    (haa : Field 4 a aa) (htt : Field 2 t tt) :
    ihexHeader (ascii ':' :: (ll ++ (aa ++ (tt ++ rest)))) = some (n, a, t) := by
  unfold ihexHeader
  simp only [if_true]
  rw [scanX_field (by decide) hll]
  simp only [Option.bind_some]
  rw [scanX_field (by decide) haa]
  simp only [Option.bind_some]
  rw [scanX_field (by decide) htt]
  rfl

/-- The data loop stops at the first pair of characters when there is nothing to store. -/
theorem ihexData_skip {start end_ n a t k : Nat} {f rest : List Byte} {v : Nat}
    (hf : Field 2 v f) (h : t ≠ 0 ∨ n ≤ k) (s : IhexState) :
    ihexData start end_ n a t k (f ++ rest) s = (.ok (), s) := by
  rcases hf.two with ⟨x, y, rfl⟩
  have hscan := scanX_field (by decide) hf rest
  unfold ihexData
  simp only [List.cons_append, List.nil_append] at hscan ⊢
  rw [Drv.state_bind_run, hscan]
  simp only
  -- either not a data record, or the two characters are the checksum
  by_cases ht : t ≠ 0
  · rw [if_pos ht]
    rfl
  · rw [if_neg ht, if_pos (by omega)]
    rfl

/-- The state after the data of a record for `a`, ending at `e`, have been stored from the `k`-th
on. -/
def IhexState.takeData (s : IhexState) (start a e k : Nat) (data : List Byte) : IhexState :=
  { s with
    greatestAddr := if data = [] then s.greatestAddr else max s.greatestAddr e
    stores := s.stores ++ (data.zipIdx k).map fun p => (u32 (sub32 a start + p.2), p.1) }

theorem IhexState.takeData_nil (s : IhexState) (start a e k : Nat) :
    s.takeData start a e k [] = s := by
  simp [takeData]

theorem IhexState.takeData_cons (s : IhexState) (start a e k : Nat) (b : Byte) (bs : List Byte) :
    ((s.reach e).store (u32 (sub32 a start + k)) b).takeData start a e (k + 1) bs =
      s.takeData start a e k (b :: bs) := by
  have hgreatest : (if bs = [] then max s.greatestAddr e else max (max s.greatestAddr e) e) =
      max s.greatestAddr e := by
    split <;> omega
  simp only [takeData, store_greatestAddr, reach_greatestAddr, store_stores, reach_stores,
    store_line, reach_line, store_lineNo, reach_lineNo, store_offset, reach_offset, hgreatest,
    List.append_assoc, List.zipIdx_cons, List.map_cons, List.cons_append, List.nil_append,
    reduceCtorEq, if_false]

/-- The reader on the line of a record, once the line is in the buffer. -/
def IhexRecord.read (r : IhexRecord) (start end_ : Nat) (s : IhexState) :
    Except IhexError Unit × IhexState :=
  if r.HasData then
    if u32 (r.addr + s.offset) < start then (.error (.belowStart r.addr s.lineNo), s)
    else if u32 (r.addr + s.offset + r.data.length) > end_ then
      (.error (.aboveEnd r.addr r.data.length s.lineNo), s)
    else
      (.ok (), s.takeData start (u32 (r.addr + s.offset))
        (u32 (r.addr + s.offset + r.data.length)) 0 r.data)
  else (.ok (), { s with offset := r.newBase s.offset })

/-- The data loop on the data of a record in range. -/
theorem ihexData_accept {start end_ a n : Nat} {rest data dd cc : List Byte} {c k : Nat}
    (hdd : Bytes data dd) (hcc : Field 2 c cc) (hk : k + data.length = n) (s : IhexState)
    (hstart : ¬u32 (a + s.offset) < start) (hend : ¬u32 (a + s.offset + n) > end_) :
    ihexData start end_ n a 0 k (dd ++ (cc ++ rest)) s =
      (.ok (), s.takeData start (u32 (a + s.offset)) (u32 (a + s.offset + n)) k data) := by
  induction hdd generalizing k s with
  | nil =>
    rw [IhexState.takeData_nil]
    exact ihexData_skip hcc (Or.inr (by simp at hk; omega)) s
  | @cons b bs f ss hf hs ih =>
    rcases hf.two with ⟨x, y, rfl⟩
    have hscan := scanX_field (by decide) hf (ss ++ (cc ++ rest))
    have hkn : k + 1 + bs.length = n := by
      simp only [List.length_cons] at hk
      omega
    have hrest := ih hkn ((s.reach (u32 (a + s.offset + n))).store
      (u32 (sub32 (u32 (a + s.offset)) start + k)) b) (by simpa using hstart) (by simpa using hend)
    rw [IhexState.store_offset, IhexState.reach_offset, IhexState.takeData_cons] at hrest
    unfold ihexData
    simp only [List.cons_append, List.nil_append] at hscan ⊢
    rw [Drv.state_bind_run, hscan]
    simp only
    rw [if_neg (by simp), if_neg (by omega), if_neg hstart, if_neg hend, Drv.change_bind_run,
      UInt8.ofNat_toNat]
    exact hrest

/-- The data loop on data out of range stops at the first byte. -/
theorem ihexData_refuse {start end_ a : Nat} {rest data dd : List Byte} (hdd : Bytes data dd)
    (hne : data ≠ []) (s : IhexState)
    (h : u32 (a + s.offset) < start ∨ u32 (a + s.offset + data.length) > end_) :
    ihexData start end_ data.length a 0 0 (dd ++ rest) s =
      (if u32 (a + s.offset) < start then (.error (.belowStart a s.lineNo), s)
        else (.error (.aboveEnd a data.length s.lineNo), s)) := by
  cases hdd with
  | nil => exact absurd rfl hne
  | @cons b bs f ss hf hs =>
    rcases hf.two with ⟨x, y, rfl⟩
    have hscan := scanX_field (by decide) hf (ss ++ rest)
    unfold ihexData
    simp only [List.cons_append, List.nil_append] at hscan ⊢
    rw [Drv.state_bind_run, hscan]
    simp only
    rw [if_neg (by simp), if_neg (by simp)]
    split
    · rfl
    · rename_i hstart
      rw [if_pos (h.resolve_left hstart)]
      rfl

/-- The address field of an 02 or 04 record sets the base. -/
theorem ihexBase_run {scale : Nat} {x y : Byte} {dd rest : List Byte} (hdd : Bytes [x, y] dd)
    (s : IhexState) (hline : s.line.cstr 9 = dd ++ rest) (hscale : scale ≤ 65536) :
    ihexBase scale s = (.ok (), { s with offset := be16 x.toNat y.toNat * scale }) := by
  have hfield := hdd.field_pair
  have hx := x.toNat_lt
  have hy := y.toNat_lt
  have hlt : be16 x.toNat y.toNat * scale < 4294967296 := by
    have hle : be16 x.toNat y.toNat ≤ 65535 := by
      unfold be16
      omega
    calc be16 x.toNat y.toNat * scale ≤ 65535 * 65536 := Nat.mul_le_mul hle hscale
      _ < 4294967296 := by decide
  unfold ihexBase
  rw [Drv.state_bind_run, hline, scanX_field (by decide) hfield]
  simp only [Drv.change_run]
  have hval : x.toNat * 256 + y.toNat = be16 x.toNat y.toNat := by
    unfold be16
    omega
  rw [hval, u32_of_lt hlt]

/-- What a line of the reader does to the state, when the line spells `r`. -/
def IhexRecord.Effect (r : IhexRecord) (start : Nat) (s t : IhexState) : Prop :=
  t.offset = r.newBase s.offset ∧
  t.greatestAddr =
    (if r.HasData then max s.greatestAddr (s.offset + r.addr + r.data.length)
      else s.greatestAddr) ∧
  t.stores = s.stores ++ (r.bytesAt s.offset).map fun p => (p.1 - start, p.2)

/-- Shifting a block down by `start` is the block at the shifted address. -/
theorem block_map_sub {start a : Nat} (h : start ≤ a) (d : List Byte) :
    (Image.block a d).map (fun p => (p.1 - start, p.2)) = Image.block (a - start) d := by
  induction d generalizing a with
  | nil => rfl
  | cons x d ih =>
    have hsucc : a + 1 - start = a - start + 1 := by omega
    simp [ih (a := a + 1) (by omega), hsucc]

/-- Data stored place by place are a block. -/
theorem zipIdx_map_block {f : Nat → Nat} {a k n : Nat} {data : List Byte}
    (hf : ∀ i < n, f i = a + i) (hn : k + data.length = n) :
    ((data.zipIdx k).map fun p => (f p.2, p.1)) = Image.block (a + k) data := by
  induction data generalizing k with
  | nil => rfl
  | cons b data ih =>
    rw [List.length_cons] at hn
    rw [List.zipIdx_cons, List.map_cons, ih (by omega), Image.block_cons, hf k (by omega),
      Nat.add_assoc]

/-- Nine characters of header come before the data. -/
theorem drop_header {ll aa tt : List Byte} {n a t : Nat} (hll : Field 2 n ll)
    (haa : Field 4 a aa) (htt : Field 2 t tt) (z : List Byte) :
    (ascii ':' :: (ll ++ (aa ++ (tt ++ z)))).drop 9 = z := by
  have hpre : ascii ':' :: (ll ++ (aa ++ (tt ++ z))) = (ascii ':' :: (ll ++ (aa ++ tt))) ++ z := by
    simp
  rw [hpre, List.drop_left']
  simp [hll.length_eq, haa.length_eq, htt.length_eq]

/-- On a line that spells `r`, the reader runs the address branches and the data loop on the
fields of `r`. -/
theorem ihexLine_run (start end_ : Nat) {r : IhexRecord} {l eol : List Byte}
    (hl : r.Line l) (hnul : (0 : Byte) ∉ l ++ eol) (hlen : (l ++ eol).length < 523)
    (s : IhexState) :
    ∃ dd cc, Bytes r.data dd ∧ Field 2 r.csum.toNat cc ∧
      (s.readLine (l ++ eol)).line.cstr 9 = dd ++ (cc ++ eol) ∧
      ihexLine start end_ (l ++ eol) s =
        ((if r.type = 2 then ihexBase 16 else pure ()) >>= fun _ =>
          (if r.type = 4 then ihexBase 65536 else pure ()) >>= fun _ =>
          ihexData start end_ r.data.length r.addr r.type 0 (dd ++ (cc ++ eol)))
          (s.readLine (l ++ eol)) := by
  rcases hl.fields with ⟨ll, aa, tt, dd, cc, rfl, hll, haa, htt, hdd, hcc⟩
  have hassoc : ascii ':' :: (ll ++ (aa ++ (tt ++ (dd ++ cc)))) ++ eol =
      ascii ':' :: (ll ++ (aa ++ (tt ++ (dd ++ (cc ++ eol))))) := by simp
  have hstr : (s.readLine (ascii ':' :: (ll ++ (aa ++ (tt ++ (dd ++ cc)))) ++ eol)).line.cstr 0 =
      ascii ':' :: (ll ++ (aa ++ (tt ++ (dd ++ (cc ++ eol))))) := by
    rw [← hassoc]
    exact LineBuf.cstr_fill s.line hlen hnul (p := 0) (by simp)
  refine ⟨dd, cc, hdd, hcc, ?_, ?_⟩
  · have hcol := LineBuf.cstr_fill s.line hlen hnul (p := 9) (by
      simp [hll.length_eq, haa.length_eq, htt.length_eq]
      omega)
    rw [IhexState.readLine, hcol, hassoc, drop_header hll haa htt]
  · unfold ihexLine
    rw [Drv.change_bind_run, Drv.state_bind_run, hstr, ihexHeader_line hll haa htt]
    simp only [drop_header hll haa htt]
    split_ifs <;> rfl

/-- The address branches leave the base that the record sets. -/
theorem ihexBranches_run {r : IhexRecord} {dd rest : List Byte} (hdd : Bytes r.data dd)
    (s : IhexState) (hcol : s.line.cstr 9 = dd ++ rest) (k : Drv IhexState IhexError Unit) :
    ((if r.type = 2 then ihexBase 16 else pure ()) >>= fun _ =>
      (if r.type = 4 then ihexBase 65536 else pure ()) >>= fun _ => k) s =
      k { s with offset := r.newBase s.offset } := by
  by_cases hbase : r.type = 2 ∨ r.type = 4
  · obtain ⟨x, y, hxy⟩ : ∃ x y, r.data = [x, y] := by
      have hlen2 := r.base_length hbase
      match hdata : r.data, hlen2 with
      | [x, y], _ => exact ⟨x, y, rfl⟩
    rw [hxy] at hdd
    rcases hbase with h2 | h4
    · have hnew : r.newBase s.offset = be16 x.toNat y.toNat * 16 := by
        simp [IhexRecord.newBase, hxy, h2]
      rw [if_pos h2, if_neg (by omega), Drv.bind_ok (ihexBase_run hdd _ hcol (by decide)),
        Drv.pure_bind_run, hnew]
    · have hnew : r.newBase s.offset = be16 x.toNat y.toNat * 65536 := by
        simp [IhexRecord.newBase, hxy, h4]
      rw [if_neg (by omega), if_pos h4, Drv.pure_bind_run,
        Drv.bind_ok (ihexBase_run hdd _ hcol (by decide)), hnew]
  · rw [if_neg fun h => hbase (Or.inl h), if_neg fun h => hbase (Or.inr h), Drv.pure_bind_run,
      Drv.pure_bind_run, IhexRecord.newBase_of_type (fun h => hbase (Or.inl h))
        fun h => hbase (Or.inr h)]

/-- On a record without data the loop leaves at its first byte, or at the checksum. -/
theorem ihexData_idle {start end_ : Nat} {r : IhexRecord} (hd : ¬r.HasData)
    {c : Nat} {dd cc rest : List Byte} (hdd : Bytes r.data dd) (hcc : Field 2 c cc)
    (s : IhexState) :
    ihexData start end_ r.data.length r.addr r.type 0 (dd ++ (cc ++ rest)) s = (.ok (), s) := by
  cases hdata : r.data with
  | nil =>
    rw [hdata] at hdd
    cases hdd
    exact ihexData_skip hcc (Or.inr (by simp)) s
  | cons x xs =>
    have h0 : r.type ≠ 0 := fun h0 => hd ⟨h0, by simp [hdata]⟩
    rw [hdata] at hdd
    cases hdd with
    | cons hf _ =>
      rw [List.append_assoc]
      exact ihexData_skip hf (Or.inl h0) s

/-- A line that spells a record, whatever ends it, is read as the record. -/
theorem ihexLine_read (start end_ : Nat) {r : IhexRecord} {l eol : List Byte}
    (hl : r.Line l) (hnul : (0 : Byte) ∉ l ++ eol) (hlen : (l ++ eol).length < 523)
    (s : IhexState) :
    ihexLine start end_ (l ++ eol) s = r.read start end_ (s.readLine (l ++ eol)) := by
  rcases ihexLine_run start end_ hl hnul hlen s with ⟨dd, cc, hdd, hcc, hcol, hrun⟩
  generalize s.readLine (l ++ eol) = u at hcol hrun ⊢
  rw [hrun, ihexBranches_run hdd u hcol, IhexRecord.read]
  by_cases hd : r.HasData
  · have h0 : r.type = 0 := hd.1
    rw [if_pos hd, IhexRecord.newBase_of_type (by omega) (by omega), h0]
    by_cases hout : u32 (r.addr + u.offset) < start ∨ u32 (r.addr + u.offset + r.data.length) > end_
    · rw [ihexData_refuse hdd hd.2 u hout]
      split
      · rfl
      · rename_i hstart
        rw [if_pos (hout.resolve_left hstart)]
    · rw [not_or] at hout
      rw [if_neg hout.1, if_neg hout.2]
      exact ihexData_accept hdd hcc (Nat.zero_add _) u hout.1 hout.2
  · rw [if_neg hd]
    exact ihexData_idle hd hdd hcc _

/-- A line that spells a record in range does what the record says. -/
theorem ihexLine_record {start end_ : Nat} {r : IhexRecord} {l eol : List Byte}
    (hl : r.Line l) (hnul : (0 : Byte) ∉ l ++ eol) (hlen : (l ++ eol).length < 523)
    (s : IhexState) (hlim : end_ < 4294967296)
    (hrange : r.HasData → start ≤ s.offset + r.addr ∧ s.offset + r.addr + r.data.length ≤ end_) :
    ∃ t, ihexLine start end_ (l ++ eol) s = (.ok (), t) ∧ r.Effect start s t := by
  rw [ihexLine_read start end_ hl hnul hlen, IhexRecord.read]
  have hoffset : (s.readLine (l ++ eol)).offset = s.offset := rfl
  by_cases hd : r.HasData
  · obtain ⟨hstart, hend⟩ := hrange hd
    have h0 : r.type = 0 := hd.1
    -- in range no sum of the C code wraps
    have haddr : u32 (r.addr + s.offset) = s.offset + r.addr := by
      rw [Nat.add_comm]
      exact u32_of_lt (by omega)
    have hlast : u32 (r.addr + s.offset + r.data.length) = s.offset + r.addr + r.data.length := by
      rw [Nat.add_comm r.addr]
      exact u32_of_lt (by omega)
    rw [if_pos hd, hoffset, haddr, hlast, if_neg (by omega), if_neg (by omega)]
    refine ⟨_, rfl, ?_, ?_, ?_⟩
    · rw [IhexRecord.newBase_of_type (by omega) (by omega)]
      rfl
    · rw [if_pos hd]
      exact if_neg hd.2
    · rw [IhexRecord.bytesAt, if_pos h0, block_map_sub hstart]
      have hplace : ∀ i < r.data.length,
          u32 (sub32 (s.offset + r.addr) start + i) = s.offset + r.addr - start + i := by
        intro i hi
        rw [sub32_of_le hstart (by omega)]
        exact u32_of_lt (by omega)
      exact congrArg (s.stores ++ ·) (zipIdx_map_block hplace (Nat.zero_add _))
  · rw [if_neg hd]
    refine ⟨_, rfl, rfl, ?_, ?_⟩
    · rw [if_neg hd]
      rfl
    · have hbytes : r.bytesAt s.offset = [] := by
        unfold IhexRecord.bytesAt
        split
        · rename_i h0
          have hnil : r.data = [] := by
            by_contra hne
            exact hd ⟨h0, hne⟩
          rw [hnil, Image.block_nil]
        · rfl
      rw [hbytes]
      simp [IhexState.readLine]

/-! ## All lines -/

/-- The pieces of a file spell the records, whatever ends each of them. -/
def IhexSpells (rs : List IhexRecord) (ls : List (List Byte)) : Prop :=
  List.Forall₂ (fun r p => ∃ l eol, p = l ++ eol ∧ r.Line l ∧ (0 : Byte) ∉ p ∧ p.length < 523) rs ls

/-- A line of a record with its line feed is one piece. -/
theorem pieces_record {r : IhexRecord} {l : List Byte} (hl : r.Line l) (rest : List Byte) :
    pieces 523 (l ++ [ascii '\n'] ++ rest) = (l ++ [ascii '\n']) :: pieces 523 rest := by
  have hlen := hl.length_eq
  have hle := r.length_le
  rw [List.append_assoc, List.singleton_append]
  exact pieces_line (by decide) hl.no_newline (by omega) rest

/-- The pieces `fgets` delivers of a well-formed text are its lines. -/
theorem ihexText_spells {rs : List IhexRecord} {file : List Byte} (h : IhexText rs file) :
    IhexSpells rs (pieces 523 file) := by
  rcases h with ⟨ls, hls, htext⟩
  induction hls generalizing file with
  | nil =>
    rcases htext with rfl | hopen
    · exact List.Forall₂.nil
    · simp at hopen
  | @cons r l rs ls hl _ ih =>
    have hlen := hl.length_eq
    have hle := r.length_le
    have hwhole : ∃ l' eol, l ++ [ascii '\n'] = l' ++ eol ∧ r.Line l' ∧
        (0 : Byte) ∉ l ++ [ascii '\n'] ∧ (l ++ [ascii '\n']).length < 523 := by
      refine ⟨l, [ascii '\n'], rfl, hl, ?_, ?_⟩
      · intro hmem
        rcases List.mem_append.mp hmem with hmem | hmem
        · exact hl.no_nul hmem
        · exact absurd hmem (by decide)
      · simp only [List.length_append, List.length_singleton]
        omega
    rw [List.map_cons, List.flatten_cons] at htext
    rcases htext with rfl | hopen
    · rw [pieces_record hl]
      exact List.Forall₂.cons hwhole (ih (Or.inl rfl))
    · rcases List.eq_nil_or_concat' (ls.map (· ++ [ascii '\n'])).flatten with hnil | ⟨t, x, ht⟩
      · -- the last line has no line feed
        rw [hnil, List.append_nil] at hopen
        have hfile : file = l := List.append_cancel_right hopen
        have hne : l ≠ [] := by
          rintro rfl
          simp at hlen
          omega
        rw [hfile, pieces_last (by decide) hl.no_newline (by omega) hne]
        refine List.Forall₂.cons ⟨l, [], by simp, hl, hl.no_nul, by omega⟩ ?_
        exact @ih [] (Or.inl hnil.symm)
      · rw [ht, ← List.append_assoc] at hopen
        rcases List.append_inj' hopen rfl with ⟨hfile, hx⟩
        rw [hfile, pieces_record hl]
        exact List.Forall₂.cons hwhole (ih (Or.inr (by rw [ht, hx])))

/-- Reading the lines of records in range: the base, the greatest address and the stores
are those of the records. -/
theorem ihexLines_records {start end_ : Nat} {rs : List IhexRecord} {ls : List (List Byte)}
    (h : IhexSpells rs ls) (hlim : end_ < 4294967296) (s : IhexState)
    (hrange : IhexInRange start end_ s.offset rs) :
    ∃ t, ihexLines start end_ ls s = (.ok (), t) ∧
      t.greatestAddr = ihexGreatest s.offset s.greatestAddr rs ∧
      t.stores = s.stores ++ (ihexPlacements s.offset rs).map fun p => (p.1 - start, p.2) := by
  induction h generalizing s with
  | nil => exact ⟨s, rfl, rfl, by simp [ihexPlacements]⟩
  | @cons r p rs ls hp _ ih =>
    rcases hp with ⟨l, eol, rfl, hl, hnul, hlen⟩
    rcases hrange with ⟨hhead, htail⟩
    obtain ⟨t, hrun, hoff, hgr, hst⟩ := ihexLine_record hl hnul hlen s hlim
      fun hd => ⟨(hhead hd).1, (hhead hd).2.1⟩
    rw [← hoff] at htail
    rcases ih t htail with ⟨u, hruns, hgr', hst'⟩
    refine ⟨u, ?_, ?_, ?_⟩
    · unfold ihexLines at hruns ⊢
      rw [Drv.forEach_cons, Drv.bind_ok hrun, hruns]
    · rw [hgr', hgr, hoff]
      rfl
    · rw [hst', hst, hoff, ihexPlacements, List.map_append, List.append_assoc]

/-! ## A whole file -/

/-- Reading the lines of records in range, from the first line of a file on: the value
returned and the stores. -/
theorem ihexRead_records {rs : List IhexRecord} {file : List Byte} {start end_ : Nat}
    (line : LineBuf 523) (h : IhexSpells rs (pieces 523 file)) (hsome : ∃ r ∈ rs, r.HasData)
    (hrange : IhexInRange start end_ 0 rs) (hend : end_ < 2 ^ 32) (hlen : end_ - start < 2 ^ 31) :
    ∃ s, ihexRead line file start end_ = (.ok ((ihexGreatest 0 0 rs : Int) - start), s) ∧
      s.stores = (ihexPlacements 0 rs).map fun p => (p.1 - start, p.2) := by
  rcases ihexLines_records h hend (IhexState.init line) hrange with ⟨s, hrun, hgr, hst⟩
  obtain ⟨hlow, hhigh⟩ := ihexGreatest_bounds (g := 0) hrange (Nat.zero_le end_) (Or.inr hsome)
  refine ⟨s, ?_, by simpa [IhexState.init] using hst⟩
  rw [ihexRead_of_ok hrun, hgr]
  simp only [IhexState.init]
  rw [sub32_of_le (by omega) (by omega), toInt32_of_lt (by omega), Int.ofNat_sub (by omega)]

/-- The buffer after the stores of records in range is the image of the records. -/
theorem ihexPlacements_buf {rs : List IhexRecord} {start end_ : Nat}
    (hrange : IhexInRange start end_ 0 rs) (b : Nat → Byte) (i : Nat) :
    Image.storeAll b ((ihexPlacements 0 rs).map fun p => (p.1 - start, p.2)) i =
      Image.lastWriter (fun a => b (a - start)) (ihexPlacements 0 rs) (start + i) := by
  have hi : start + i - start = i := by omega
  have hmap := Image.storeAll_map (fun a => a - start) b (ihexPlacements 0 rs) (start + i)
    (fun p hp e => by
      have := (ihexPlacements_range hrange p hp).1
      omega)
  rw [hi] at hmap
  rw [hmap, Image.storeAll_eq_lastWriter]

/-- `ihex_read` equals the reference decoder: on a well-formed text with a non-empty data
record, whose data records lie in `[start, end)`, it succeeds, the buffer becomes the
last-writer-wins image of the data records, every other byte keeps its value, and the result
is the greatest data end address minus `start`. -/
theorem ihexRead_decodes {rs : List IhexRecord} {file : List Byte} {start end_ : Nat}
    (line : LineBuf 523) (b : Nat → Byte) (htext : IhexText rs file)
    (hsome : ∃ r ∈ rs, r.HasData) (hrange : IhexInRange start end_ 0 rs)
    (hend : end_ < 2 ^ 32) (hlen : end_ - start < 2 ^ 31) :
    ∃ s, ihexRead line file start end_ = (.ok ((ihexGreatest 0 0 rs : Int) - start), s) ∧
      (∀ i, s.buf b i =
        Image.lastWriter (fun a => b (a - start)) (ihexPlacements 0 rs) (start + i)) ∧
      (∀ i, (∀ p ∈ ihexPlacements 0 rs, p.1 ≠ start + i) → s.buf b i = b i) := by
  obtain ⟨s, hread, hst⟩ :=
    ihexRead_records line (ihexText_spells htext) hsome hrange hend hlen
  have hbuf : ∀ i, s.buf b i =
      Image.lastWriter (fun a => b (a - start)) (ihexPlacements 0 rs) (start + i) := by
    intro i
    rw [IhexState.buf, hst]
    exact ihexPlacements_buf hrange b i
  refine ⟨s, hread, hbuf, ?_⟩
  intro i hi
  rw [hbuf, ← Image.storeAll_eq_lastWriter, Image.storeAll_of_forall_ne _ _ _ hi]
  simp

/-- An 04 record for the block at 0x10000, two bytes at 0x10010 and the end record. -/
def ihexSample : List IhexRecord :=
  [ihexElaRecord 1, ihexDataRecord 0x10 [0xA5, 0x5A] (by decide), ihexEndRecord]

theorem ihexText_sample :
    IhexText ihexSample (text ":020000040001F9\n:02001000A55AEF\n:00000001FF") := by
  refine ⟨ihexSample.map IhexRecord.print, ?_, Or.inr (by decide +kernel)⟩
  exact .cons (IhexRecord.line_print _) (.cons (IhexRecord.line_print _)
    (.cons (IhexRecord.line_print _) .nil))

theorem ihexRead_decodes_sample :
    ∃ s, ihexRead (LineBuf.zero 522) (text ":020000040001F9\n:02001000A55AEF\n:00000001FF")
        0x10000 0x10020 = (.ok 18, s) ∧
      (∀ i, s.buf (fun _ => 0xFF) i = Image.lastWriter (fun _ => 0xFF)
        [(0x10010, 0xA5), (0x10011, 0x5A)] (0x10000 + i)) ∧
      (∀ i, (∀ p ∈ [((0x10010 : Nat), (0xA5 : Byte)), (0x10011, 0x5A)], p.1 ≠ 0x10000 + i) →
        s.buf (fun _ => 0xFF) i = 0xFF) := by
  have hgreatest : ihexGreatest 0 0 ihexSample = 0x10012 := by decide
  have hplace : ihexPlacements 0 ihexSample = [(0x10010, 0xA5), (0x10011, 0x5A)] := by decide
  have h := @ihexRead_decodes ihexSample _ 0x10000 0x10020
    (LineBuf.zero 522) (fun _ => 0xFF) ihexText_sample ⟨_, .tail _ (.head _), by decide⟩
    ⟨fun h => absurd h.1 (by decide), fun _ => by decide, fun h => absurd h.1 (by decide), trivial⟩
    (by decide) (by decide)
  rw [hgreatest, hplace] at h
  exact h

end Stm8Flash
