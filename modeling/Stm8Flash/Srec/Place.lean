import Stm8Flash.Srec.Bounds
import Stm8Flash.Srec.Record

/-! # Where `srec_read` places the data

The store index counts from column 8, where the data of an S1 record begin; those of an S2
or S3 record begin one or two bytes later, and so land one or two bytes above their
address (`srecLine_stores_spelled`). `srecRead_places_iff` says on which accepted files
the records are placed where they belong all the same; files of S1 records are among them
(`srecPlaces_of_S1`).
-/

namespace Stm8Flash

open Hex Stdio Word

/-- Every line that begins with `S` is a well-formed record. -/
def SrecWellFormed (file : List Byte) : Prop :=
  ∀ piece ∈ pieces 516 file, piece.head? = some (ascii 'S') → ∃ r : SrecRecord, r.Spells piece

/-- `srec_read` returns. -/
def SrecAccepts (line : LineBuf 516) (file : List Byte) (start end_ : Nat) : Prop :=
  ∃ v s, srecRead line file start end_ = (.ok v, s)

theorem srecAccepts_of_toBool {line : LineBuf 516} {file : List Byte} {start end_ : Nat}
    (h : (srecRead line file start end_).1.toBool = true) : SrecAccepts line file start end_ := by
  rcases hread : srecRead line file start end_ with ⟨e | v, s⟩
  · rw [hread] at h
    cases h
  · exact ⟨v, s, hread⟩

theorem srecAccepts_iff_toBool {line : LineBuf 516} {file : List Byte} {start end_ : Nat} :
    SrecAccepts line file start end_ ↔ (srecRead line file start end_).1.toBool = true := by
  refine ⟨?_, srecAccepts_of_toBool⟩
  rintro ⟨v, s, hread⟩
  rw [hread]
  rfl

instance (line : LineBuf 516) (file : List Byte) (start end_ : Nat) :
    Decidable (SrecAccepts line file start end_) := decidable_of_iff' _ srecAccepts_iff_toBool

/-- `buf[x]` is the place of a data byte of the file. -/
def SrecAddressed (file : List Byte) (start x : Nat) : Prop :=
  ∃ piece ∈ pieces 516 file, ∃ r : SrecRecord, r.Spells piece ∧ r.IsData ∧
    ∃ k < r.data.length, x = r.addr + k - start

/-- Right after a data record its bytes are at their places, and `buf` is left alone
elsewhere, whatever it held at first. -/
def SrecPlaces (line : LineBuf 516) (file : List Byte) (start end_ : Nat) : Prop :=
  (∀ s t piece, SrecReaches line file start end_ s piece →
    srecLine start end_ piece s = (.ok (), t) →
    ∀ r : SrecRecord, r.Spells piece → r.IsData →
      ∀ b k, (h : k < r.data.length) → t.buf b (r.addr + k - start) = r.data[k]) ∧
  ∀ b x, ¬SrecAddressed file start x → (srecRead line file start end_).2.buf b x = b x

/-- A shift by `type - 1` does not show on the record: each byte equals the one as many
places before it, and the first ones, and those past 2^32, are in `buf` already. -/
def SrecShiftHidden (start : Nat) (s : SrecState) (r : SrecRecord) : Prop :=
  ∀ k, (h : k < r.data.length) →
    if r.type - 1 ≤ k ∧ r.addr - start + k < 4294967296 then
      r.data[k] = r.data[k - (r.type - 1)]
    else ∀ b, s.buf b (r.addr - start + k) = r.data[k]

/-- The shifted bytes land on places of data bytes of the file. -/
def SrecShiftAddressed (file : List Byte) (start : Nat) (r : SrecRecord) : Prop :=
  ∀ k < r.data.length, SrecAddressed file start (u32 (r.addr - start + (r.type - 1) + k))

/-! ## Stores at indices modulo 2^32 -/

theorem storeAll_srecStores_at (m : Nat → Byte) (x : Nat) (bs : List Byte)
    (hlen : bs.length ≤ 4294967296) {k : Nat} (hk : k < bs.length) :
    Image.storeAll m (srecStores x bs) (u32 (x + k)) = bs[k] := by
  unfold srecStores
  rw [Image.storeAll_map u32, Image.storeAll_block_at _ _ _ _ hk]
  intro p hp heq
  rcases Image.mem_block.mp hp with ⟨j, hj, rfl⟩
  simp only [u32] at heq ⊢
  omega

theorem storeAll_srecStores_off (m : Nat → Byte) (x : Nat) (bs : List Byte) {y : Nat}
    (hy : ∀ k < bs.length, y ≠ u32 (x + k)) : Image.storeAll m (srecStores x bs) y = m y := by
  apply Image.storeAll_of_forall_ne
  intro p hp heq
  rcases mem_srecStores.mp ⟨p, hp, heq⟩ with ⟨k, hk, hidx⟩
  exact hy k hk hidx

/-! ## One line -/

/-- What an accepted line that spells a data record stores. -/
theorem srecLine_stores_spelled {start end_ : Nat} {s t : SrecState} {piece : List Byte}
    {r : SrecRecord} (hs : r.Spells piece) (hd : r.IsData) (hlen : piece.length < 516)
    (hrun : srecLine start end_ piece s = (.ok (), t)) :
    t.stores = s.stores ++ srecStores (r.addr - start + (r.type - 1)) r.data ∧
      (r.data ≠ [] → start ≤ r.addr) := by
  rcases srecHeader_spells hs with ⟨a, hhead, haddr⟩
  rcases fieldBytes_spells hs hd hlen s with ⟨hbytes, hcount, hdlen⟩
  have hstr : srecHeader (s.str piece) = some (r.type, r.len, a) := by
    rw [SrecState.str_spells hs hlen, hhead]
  have hstores := srecLine_data start end_ hstr hd
  rw [hrun, hbytes] at hstores
  by_cases hnil : r.data = []
  · refine ⟨?_, fun hne => absurd hnil hne⟩
    rw [hstores, hnil]
    simp [srecStores]
  · -- an accepted line with data went through the range tests
    have htests : SrecTests start end_ (srecAddr r.type a) (srecDataLen r.type r.len) := by
      rw [srecLine_dataRecord hstr hd] at hrun
      rcases Drv.bind_eq_ok.mp hrun with ⟨_, u, hfields, _⟩
      apply (srecFields_of_ok hfields).2
      rw [hcount]
      exact fun hzero => hnil (List.eq_nil_of_length_eq_zero hzero)
    have hstart := htests.1
    rw [haddr hd hnil] at hstart
    refine ⟨?_, fun _ => hstart⟩
    rw [hstores, if_pos htests, haddr hd hnil, sub32_of_le hstart hd.addr_lt]

/-- An accepted line of a well-formed file stores the data of a record, or nothing. -/
theorem srecLine_accepted {start end_ : Nat} {s t : SrecState} {piece : List Byte}
    (hwf : piece.head? = some (ascii 'S') → ∃ r : SrecRecord, r.Spells piece)
    (hlen : piece.length < 516) (hrun : srecLine start end_ piece s = (.ok (), t)) :
    (∃ r : SrecRecord, r.Spells piece ∧ r.IsData ∧
      t.stores = s.stores ++ srecStores (r.addr - start + (r.type - 1)) r.data) ∨
    t.stores = s.stores := by
  by_cases hdata : ∃ y n a, srecHeader (s.str piece) = some (y, n, a) ∧ isDataType y = true
  · rcases hdata with ⟨y, n, a, hh, hy⟩
    -- a header starts with `S`, so the line spells a record
    have hS : piece.head? = some (ascii 'S') := by
      have hstr : s.str piece = (piece ++ 0 :: s.line.chars.drop (piece.length + 1)).takeWhile
          (· ≠ 0) := by
        unfold SrecState.str LineBuf.cstr
        rw [List.drop_zero]
        exact congrArg _ (LineBuf.fill_chars s.line hlen)
      rcases piece with _ | ⟨c, p⟩
      · rw [hstr] at hh
        simp [srecHeader] at hh
      · by_cases hc : c = 0
        · rw [hstr] at hh
          simp [srecHeader, hc] at hh
        · rw [hstr] at hh
          by_cases hS : c = ascii 'S'
          · rw [hS]
            rfl
          · simp [srecHeader, hc, hS] at hh
    rcases hwf hS with ⟨r, hs⟩
    rcases srecHeader_spells hs with ⟨a', hhead, -⟩
    rw [SrecState.str_spells hs hlen, hhead] at hh
    cases hh
    exact Or.inl ⟨r, hs, hy, (srecLine_stores_spelled hs hy hlen hrun).1⟩
  · right
    have hother : (srecLine start end_ piece s).2.stores = s.stores := by
      apply srecLine_other
      intro y n a hh
      by_contra hy
      exact hdata ⟨y, n, a, hh, by simpa using hy⟩
    rw [hrun] at hother
    exact hother

/-- The byte at the `k`-th place of a data record right after its line. -/
theorem srecLine_buf {start : Nat} {s t : SrecState} {r : SrecRecord} (hd : r.IsData)
    (hstart : start ≤ r.addr)
    (hst : t.stores = s.stores ++ srecStores (r.addr - start + (r.type - 1)) r.data)
    (b : Nat → Byte) {k : Nat} (hk : k < r.data.length) :
    t.buf b (r.addr + k - start) =
      if r.type - 1 ≤ k ∧ r.addr - start + k < 4294967296 then
        r.data[k - (r.type - 1)]
      else s.buf b (r.addr - start + k) := by
  have ht := hd.bounds
  have hlt := hd.addr_lt
  have hle := r.length_le
  have hplace : r.addr + k - start = r.addr - start + k := by omega
  unfold SrecState.buf
  rw [hst, Image.storeAll_append, hplace]
  split
  · rename_i hin
    -- the place is hit by the byte `t - 1` places before it
    have hkey : r.addr - start + k = u32 (r.addr - start + (r.type - 1) + (k - (r.type - 1))) := by
      rw [u32_of_lt (by omega)]
      omega
    rw [hkey]
    exact storeAll_srecStores_at _ _ _ (by omega) (by omega)
  · rename_i hout
    apply storeAll_srecStores_off
    intro j hj heq
    unfold u32 at heq
    omega

/-! ## A run over lines -/

/-- Every store of an accepted run comes from the line of a data record. -/
theorem srecLines_stores {start end_ : Nat} {ls : List (List Byte)} {s u : SrecState}
    (hwf : ∀ piece ∈ ls, piece.head? = some (ascii 'S') → ∃ r : SrecRecord, r.Spells piece)
    (hlen : ∀ piece ∈ ls, piece.length < 516)
    (hrun : srecLines start end_ ls s = (.ok (), u)) :
    ∀ p ∈ u.stores, p ∈ s.stores ∨ ∃ pre piece post t, ls = pre ++ piece :: post ∧
      srecLines start end_ pre s = (.ok (), t) ∧ ∃ r : SrecRecord, r.Spells piece ∧ r.IsData ∧
        ∃ k < r.data.length, p.1 = u32 (r.addr - start + (r.type - 1) + k) := by
  induction ls generalizing s with
  | nil =>
    cases hrun
    exact fun p hp => Or.inl hp
  | cons l ls ih =>
    rw [srecLines_cons] at hrun
    rcases Drv.bind_eq_ok.mp hrun with ⟨_, t, hline, hrest⟩
    intro p hp
    -- the store is from the first line, or from a later one
    rcases ih (fun q hq => hwf q (List.mem_cons_of_mem _ hq))
      (fun q hq => hlen q (List.mem_cons_of_mem _ hq)) hrest p hp with hpt | hlater
    · rcases srecLine_accepted (hwf l (List.mem_cons_self ..)) (hlen l (List.mem_cons_self ..))
        hline with ⟨r, hs, hd, hst⟩ | hst
      · rw [hst] at hpt
        rcases List.mem_append.mp hpt with hpt | hpt
        · exact Or.inl hpt
        · rcases mem_srecStores.mp ⟨p, hpt, rfl⟩ with ⟨k, hk, hidx⟩
          exact Or.inr ⟨[], l, ls, s, rfl, rfl, r, hs, hd, k, hk, hidx⟩
      · rw [hst] at hpt
        exact Or.inl hpt
    · rcases hlater with ⟨pre, piece, post, v, hsplit, hpre, hr⟩
      refine Or.inr ⟨l :: pre, piece, post, v, by rw [hsplit]; rfl, ?_, hr⟩
      rw [srecLines_cons, Drv.bind_ok hline, hpre]

/-- What an accepted run comes to, it gets through. -/
theorem srecReaches_ok {line : LineBuf 516} {file : List Byte} {start end_ : Nat} {s : SrecState}
    {piece : List Byte} (hok : SrecAccepts line file start end_)
    (hreach : SrecReaches line file start end_ s piece) :
    piece ∈ pieces 516 file ∧ ∃ t, srecLine start end_ piece s = (.ok (), t) := by
  rcases hok with ⟨v, u, hread⟩
  rcases hreach with ⟨pre, post, hsplit, hpre⟩
  have hlines := srecLines_of_ok hread
  rw [hsplit, srecLines_append, Drv.bind_ok hpre, srecLines_cons] at hlines
  rcases Drv.bind_eq_ok.mp hlines with ⟨_, t, hline, _⟩
  refine ⟨?_, t, hline⟩
  rw [hsplit]
  exact List.mem_append_right _ (List.mem_cons_self ..)

/-- Where the records are placed right, no shift shows. -/
theorem shiftHidden_of_srecPlaces {line : LineBuf 516} {file : List Byte} {start end_ : Nat}
    (hok : SrecAccepts line file start end_) (hplaces : SrecPlaces line file start end_)
    {s : SrecState} {piece : List Byte} (hreach : SrecReaches line file start end_ s piece)
    {r : SrecRecord} (hs : r.Spells piece) (hd : r.IsData) :
    SrecShiftHidden start s r ∧ SrecShiftAddressed file start r := by
  have hshort := pieces_length_lt (n := 516) (by decide) file
  rcases hplaces with ⟨hat, hoff⟩
  rcases srecReaches_ok hok hreach with ⟨hmem, t, hline⟩
  rcases srecLine_stores_spelled hs hd (hshort piece hmem) hline with ⟨hst, hstart⟩
  constructor
  · intro k hk
    have hne : r.data ≠ [] := by
      intro e
      simp [e] at hk
    have hbuf := fun b => hat s t piece hreach hline r hs hd b k hk
    split
    · rename_i hin
      -- any contents of `buf` will do for a byte that the line itself stores
      have hzero := hbuf fun _ => 0
      rw [srecLine_buf hd (hstart hne) hst _ hk, if_pos hin] at hzero
      exact hzero.symm
    · rename_i hout
      intro b
      have hb := hbuf b
      rw [srecLine_buf hd (hstart hne) hst _ hk, if_neg hout] at hb
      exact hb
  · intro k hk
    by_contra hno
    -- the byte is stored there, so it cannot be what `buf` held, whatever that was
    rcases hreach with ⟨pre, post, hsplit, hpre⟩
    have hstored : ∃ p ∈ (srecRead line file start end_).2.stores,
        p.1 = u32 (r.addr - start + (r.type - 1) + k) := by
      rcases mem_srecStores.mpr ⟨k, hk, rfl⟩ with ⟨p, hp, hidx⟩
      refine ⟨p, ?_, hidx⟩
      rw [srecRead_state, hsplit]
      apply srecLines_mono hpre
      rw [hline, hst]
      exact List.mem_append_right _ hp
    have h0 := hoff (fun _ => 0) _ hno
    have h1 := hoff (fun _ => 1) _ hno
    unfold SrecState.buf at h0 h1
    rw [Image.storeAll_congr_of_mem _ (fun _ => 1) _ _ hstored, h1] at h0
    exact absurd h0 (by decide)

/-- Where no shift shows, the records are placed right. -/
theorem srecPlaces_of_shiftHidden {line : LineBuf 516} {file : List Byte} {start end_ : Nat}
    (hwf : SrecWellFormed file) (hok : SrecAccepts line file start end_)
    (hcond : ∀ s piece, SrecReaches line file start end_ s piece →
      ∀ r : SrecRecord, r.Spells piece → r.IsData →
        SrecShiftHidden start s r ∧ SrecShiftAddressed file start r) :
    SrecPlaces line file start end_ := by
  have hshort := pieces_length_lt (n := 516) (by decide) file
  constructor
  · intro s t piece hreach hline r hs hd b k hk
    rcases srecReaches_ok hok hreach with ⟨hmem, -⟩
    rcases srecLine_stores_spelled hs hd (hshort piece hmem) hline with ⟨hst, hstart⟩
    have hne : r.data ≠ [] := by
      intro e
      simp [e] at hk
    have hhidden := (hcond s piece hreach r hs hd).1 k hk
    rw [srecLine_buf hd (hstart hne) hst b hk]
    split
    · rename_i hin
      rw [if_pos hin] at hhidden
      exact hhidden.symm
    · rename_i hout
      rw [if_neg hout] at hhidden
      exact hhidden b
  · -- every store is at an address that some record addresses
    intro b x hx
    rcases hok with ⟨v, u, hread⟩
    have hlines := srecLines_of_ok hread
    rw [hread]
    apply Image.storeAll_of_forall_ne
    intro p hp heq
    rcases srecLines_stores hwf hshort hlines p hp with hinit | hfrom
    · simp [SrecState.init] at hinit
    · rcases hfrom with ⟨pre, piece, post, t, hsplit, hpre, r, hs, hd, k, hk, hidx⟩
      have haddr := (hcond t piece ⟨pre, post, hsplit, hpre⟩ r hs hd).2 k hk
      rw [← hidx, heq] at haddr
      exact hx haddr

/-- Files whose data records are all S1 are placed right. -/
theorem srecPlaces_of_S1 (line : LineBuf 516) (file : List Byte) (start end_ : Nat)
    (hwf : SrecWellFormed file) (hok : SrecAccepts line file start end_)
    (hS1 : ∀ piece ∈ pieces 516 file, ∀ r : SrecRecord, r.Spells piece → r.IsData → r.type = 1) :
    SrecPlaces line file start end_ := by
  refine srecPlaces_of_shiftHidden hwf hok ?_
  intro s piece hreach r hs hd
  rcases srecReaches_ok hok hreach with ⟨hmem, t, hline⟩
  have ht := hS1 piece hmem r hs hd
  have hlt : r.addr < 65536 := by
    have := r.addr_lt
    rw [hd.addrWidth, ht] at this
    exact this
  have hle := r.length_le
  constructor
  · intro k hk
    rw [if_pos ⟨by omega, by omega⟩]
    congr 1
    omega
  · intro k hk
    have hne : r.data ≠ [] := by
      intro e
      simp [e] at hk
    have hstart := (srecLine_stores_spelled hs hd
      (pieces_length_lt (by decide) file piece hmem) hline).2 hne
    refine ⟨piece, hmem, r, hs, hd, k, hk, ?_⟩
    rw [u32_of_lt (by omega)]
    omega

/-- An accepted file of well-formed records is placed right exactly when the shift of its
S2 and S3 records does not show on any of them and does not hit a byte that no record
addresses. -/
theorem srecRead_places_iff (line : LineBuf 516) (file : List Byte) (start end_ : Nat)
    (hwf : SrecWellFormed file) (hok : SrecAccepts line file start end_) :
    SrecPlaces line file start end_ ↔
      ∀ s piece, SrecReaches line file start end_ s piece →
        ∀ r : SrecRecord, r.Spells piece → r.IsData →
          SrecShiftHidden start s r ∧ SrecShiftAddressed file start r := by
  constructor
  · intro hplaces s piece hreach r hs hd
    exact shiftHidden_of_srecPlaces hok hplaces hreach hs hd
  · intro hcond
    exact srecPlaces_of_shiftHidden hwf hok hcond

/-! ## A record of each kind -/

/-- The S2 record with the byte 0x55 at 0x8000. -/
def srecSampleS2 : SrecRecord where
  type := 2
  addr := 0x8000
  data := [0x55]
  csum := 0x25
  type_le := by decide
  addr_lt := by decide
  length_le := by decide

theorem srecSampleS2_spells : srecSampleS2.Spells (text "S2050080005525\n") where
  fields := ⟨text "2", text "05", text "008000", text "55", text "25", text "\n", by decide,
    .of_all rfl rfl rfl, .of_all rfl rfl rfl, .of_all rfl rfl rfl,
    Bytes.cons (f := text "55") (.of_all rfl rfl rfl) Bytes.nil, .of_all rfl rfl rfl,
    Or.inr (Or.inl rfl)⟩

/-- The byte of an S2 record at 0x8000 is stored at `buf[1]` for `start = 0x8000`. -/
theorem srecRead_misplaces :
    SrecWellFormed (text "S2050080005525\n") ∧
    SrecAccepts (LineBuf.zero 515) (text "S2050080005525\n") 0x8000 0x8100 ∧
    ¬SrecPlaces (LineBuf.zero 515) (text "S2050080005525\n") 0x8000 0x8100 := by
  have hpieces : pieces 516 (text "S2050080005525\n") = [text "S2050080005525\n"] := by decide
  have hok : SrecAccepts (LineBuf.zero 515) (text "S2050080005525\n") 0x8000 0x8100 :=
    srecAccepts_of_toBool (by decide +kernel)
  refine ⟨?_, hok, ?_⟩
  · intro piece hmem _
    rw [hpieces] at hmem
    rw [List.mem_singleton.mp hmem]
    exact ⟨srecSampleS2, srecSampleS2_spells⟩
  · intro hplaces
    have hreach : SrecReaches (LineBuf.zero 515) (text "S2050080005525\n") 0x8000 0x8100
        (SrecState.init (LineBuf.zero 515)) (text "S2050080005525\n") := ⟨[], [], hpieces, rfl⟩
    rcases srecReaches_ok hok hreach with ⟨-, t, hline⟩
    rcases srecLine_stores_spelled srecSampleS2_spells rfl (by decide) hline with ⟨hst, -⟩
    have hat := hplaces.1 _ t _ hreach hline srecSampleS2 srecSampleS2_spells rfl (fun _ => 0) 0
      (by decide)
    unfold SrecState.buf at hat
    rw [hst] at hat
    exact absurd hat (by decide)

/-- The S1 record with the byte 0x55 at 0x8000. -/
def srecSampleS1 : SrecRecord where
  type := 1
  addr := 0x8000
  data := [0x55]
  csum := 0x26
  type_le := by decide
  addr_lt := by decide
  length_le := by decide

theorem srecSampleS1_spells : srecSampleS1.Spells (text "S10480005526\n") where
  fields := ⟨text "1", text "04", text "8000", text "55", text "26", text "\n", by decide,
    .of_all rfl rfl rfl, .of_all rfl rfl rfl, .of_all rfl rfl rfl,
    Bytes.cons (f := text "55") (.of_all rfl rfl rfl) Bytes.nil, .of_all rfl rfl rfl,
    Or.inr (Or.inl rfl)⟩

/-- The same byte in an S1 record. -/
theorem srecRead_places_iff_S1 :
    SrecPlaces (LineBuf.zero 515) (text "S10480005526\n") 0x8000 0x8100 ↔
      ∀ s piece,
        SrecReaches (LineBuf.zero 515) (text "S10480005526\n") 0x8000 0x8100 s piece →
        ∀ r : SrecRecord, r.Spells piece → r.IsData →
          SrecShiftHidden 0x8000 s r ∧
            SrecShiftAddressed (text "S10480005526\n") 0x8000 r := by
  have hpieces : pieces 516 (text "S10480005526\n") = [text "S10480005526\n"] := by decide
  refine srecRead_places_iff _ _ _ _ ?_ (srecAccepts_of_toBool (by decide +kernel))
  intro piece hmem _
  rw [hpieces] at hmem
  rw [List.mem_singleton.mp hmem]
  exact ⟨srecSampleS1, srecSampleS1_spells⟩

end Stm8Flash
