import Stm8Flash.Ihex.Read

/-! # Where `ihex_read` stores

The range tests of `ihex_read` are sums of `unsigned int`s. A data record whose last
address passes 2^32 wraps below `end`, passes the tests and is stored outside `buf`
(`ihexRead_wraps`), and a data record without data on its line never meets the tests.
`ihexRead_storesInRange_iff` says exactly on which files every store is in range and
every record beyond `end` is refused.
-/

namespace Stm8Flash

open Hex Stdio Word

/-- The run of `ihex_read` on the file comes to `piece` in the state `s`. -/
def IhexReaches (line : LineBuf 523) (file : List Byte) (start end_ : Nat) (s : IhexState)
    (piece : List Byte) : Prop :=
  ∃ pre post, pieces 523 file = pre ++ piece :: post ∧
    ihexLines start end_ pre (IhexState.init line) = (.ok (), s)

/-- The string in `line` when `piece` has been read. -/
def IhexState.str (s : IhexState) (piece : List Byte) : List Byte :=
  (s.readLine piece).line.cstr 0

/-- The piece makes `ihex_read` return `-1`, before any byte of it is stored. -/
def IhexRefuses (line : LineBuf 523) (file : List Byte) (start end_ : Nat) (s : IhexState)
    (piece : List Byte) : Prop :=
  ∃ e t, ihexLine start end_ piece s = (.error e, t) ∧
    ihexRead line file start end_ = (.error e, t) ∧ t.stores = s.stores

/-- Every index stored to lies in `buf`, and a data record whose exact end address
`base + address + LL` is above `end` is refused. -/
def IhexStoresInRange (line : LineBuf 523) (file : List Byte) (start end_ : Nat) : Prop :=
  (∀ p ∈ (ihexRead line file start end_).2.stores, p.1 < end_ - start) ∧
  ∀ s piece, IhexReaches line file start end_ s piece →
    ∀ n a, ihexHeader (s.str piece) = some (n, a, 0) → s.offset + a + n > end_ →
      IhexRefuses line file start end_ s piece

/-- The range tests see the record, and catch it: there is a first data field on the line
(columns 9 and 10), and it is not hex, or `LL` is not zero and the sums modulo 2^32 lie
outside `[start, end]` too. -/
def IhexCaught (start end_ : Nat) (s : IhexState) (piece : List Byte) (n a : Nat) : Prop :=
  11 ≤ (s.str piece).length ∧
  (scanX 2 ((s.str piece).drop 9) = none ∨
    n ≠ 0 ∧ (u32 (a + s.offset) < start ∨ u32 (a + s.offset + n) > end_))

/-! ## One line -/

theorem ihexLine_none {start end_ : Nat} {s : IhexState} {piece : List Byte}
    (h : ihexHeader (s.str piece) = none) :
    ihexLine start end_ piece s = (.error (.parse (s.lineNo + 1)), s.readLine piece) := by
  unfold ihexLine
  rw [Drv.change_bind_run, Drv.state_bind_run]
  unfold IhexState.str at h
  rw [h]
  rfl

theorem ihexLine_dataRecord {start end_ n a : Nat} {s : IhexState} {piece : List Byte}
    (h : ihexHeader (s.str piece) = some (n, a, 0)) :
    ihexLine start end_ piece s =
      ihexData start end_ n a 0 0 ((s.str piece).drop 9) (s.readLine piece) := by
  unfold ihexLine
  rw [Drv.change_bind_run, Drv.state_bind_run]
  unfold IhexState.str at h
  rw [h]
  rfl

/-- Records of another type store nothing. -/
theorem ihexData_other_stores {start end_ n a t : Nat} (ht : t ≠ 0) (k : Nat) (rest : List Byte)
    (s : IhexState) : (ihexData start end_ n a t k rest s).2.stores = s.stores := by
  match rest with
  | [] => rfl
  | [_] => rfl
  | c₁ :: c₂ :: rest =>
    unfold ihexData
    rw [Drv.state_bind_run]
    rcases scanX 2 (c₁ :: c₂ :: rest) with _ | ⟨v, r⟩
    · rfl
    · simp only
      rw [if_pos ht]
      rfl

theorem ihexBase_stores (scale : Nat) (s : IhexState) :
    (ihexBase scale s).2.stores = s.stores := by
  unfold ihexBase
  rw [Drv.state_bind_run]
  rcases scanX 4 (s.line.cstr 9) with _ | ⟨v, r⟩ <;> rfl

theorem ihexLine_other_stores {start end_ n a t : Nat} {s : IhexState} {piece : List Byte}
    (h : ihexHeader (s.str piece) = some (n, a, t)) (ht : t ≠ 0) :
    (ihexLine start end_ piece s).2.stores = s.stores := by
  -- at most one of the two address branches runs
  have hbase : ∀ scale : Nat, ((ihexBase scale >>= fun _ =>
      ihexData start end_ n a t 0 ((s.str piece).drop 9)) (s.readLine piece)).2.stores =
      s.stores := by
    intro scale
    have hstores := ihexBase_stores scale (s.readLine piece)
    rcases hrun : ihexBase scale (s.readLine piece) with ⟨_ | _, u⟩
    · rw [Drv.bind_error hrun]
      rw [hrun] at hstores
      exact hstores
    · rw [Drv.bind_ok hrun, ihexData_other_stores ht]
      rw [hrun] at hstores
      exact hstores
  unfold ihexLine
  rw [Drv.change_bind_run, Drv.state_bind_run]
  unfold IhexState.str at h hbase
  rw [h]
  simp only
  by_cases h2 : t = 2
  · rw [if_pos h2, if_neg (by omega)]
    exact hbase 16
  · by_cases h4 : t = 4
    · rw [if_neg h2, if_pos h4]
      exact hbase 65536
    · rw [if_neg h2, if_neg h4]
      exact ihexData_other_stores ht _ _ _

/-- The data loop only adds stores. -/
theorem ihexData_keeps_stores (start end_ n a t : Nat) (k : Nat) (rest : List Byte)
    (s : IhexState) : s.stores <+: (ihexData start end_ n a t k rest s).2.stores := by
  induction k, rest using ihexData.induct generalizing s with
  | case1 k c₁ c₂ rest ih =>
    unfold ihexData
    rw [Drv.state_bind_run]
    rcases scanX 2 (c₁ :: c₂ :: rest) with _ | ⟨v, r⟩
    · exact List.prefix_rfl
    · simp only
      split_ifs
      · exact List.prefix_rfl
      · exact List.prefix_rfl
      · exact List.prefix_rfl
      · exact List.prefix_rfl
      · refine List.IsPrefix.trans ?_ (ih _)
        simp
  | case2 rest k hne =>
    have hrun := @ihexData_short start end_ n a t k rest (no_field_left hne) s
    exact hrun.symm ▸ List.prefix_rfl

/-- When the exact end of the record is not above `end`, no sum wraps and every store of
the data loop lies in `buf`. -/
theorem ihexData_inRange {start end_ n a : Nat} (hend : end_ < 4294967296) (k : Nat)
    (rest : List Byte) (s : IhexState) (hfit : s.offset + a + n ≤ end_)
    (hs : ∀ p ∈ s.stores, p.1 < end_ - start) :
    ∀ p ∈ (ihexData start end_ n a 0 k rest s).2.stores, p.1 < end_ - start := by
  induction k, rest using ihexData.induct generalizing s with
  | case1 k c₁ c₂ rest ih =>
    have haddr : u32 (a + s.offset) = a + s.offset := u32_of_lt (by omega)
    unfold ihexData
    rw [Drv.state_bind_run]
    rcases scanX 2 (c₁ :: c₂ :: rest) with _ | ⟨v, r⟩
    · exact hs
    · simp only
      split_ifs with _ hk hstart hlast
      · exact hs
      · exact hs
      · exact hs
      · exact hs
      · rw [haddr] at hstart
        refine ih _ (by simpa using hfit) ?_
        intro p hp
        simp only [haddr, IhexState.store_stores, IhexState.reach_stores, List.mem_append,
          List.mem_singleton] at hp
        rcases hp with hp | rfl
        · exact hs p hp
        · -- `k < LL`, so the index is below `end - start`
          rw [sub32_of_le (by omega) (by omega), u32_of_lt (by omega)]
          omega
  | case2 rest k hne =>
    rw [ihexData_short (no_field_left hne)]
    exact hs

/-- A line of 11 characters has a first data field. -/
theorem drop_of_long {l : List Byte} (hlen : 11 ≤ l.length) :
    ∃ c₁ c₂ rest, l.drop 9 = c₁ :: c₂ :: rest := by
  have hdrop : 2 ≤ (l.drop 9).length := by
    rw [List.length_drop]
    omega
  match hd : l.drop 9, hdrop with
  | c₁ :: c₂ :: rest, _ => exact ⟨c₁, c₂, rest, rfl⟩

/-- A data record beyond `end` that is caught stops the run without a store. -/
theorem ihexLine_of_caught {start end_ n a : Nat} {s : IhexState} {piece : List Byte}
    (h : ihexHeader (s.str piece) = some (n, a, 0)) (hc : IhexCaught start end_ s piece n a) :
    ∃ e t, ihexLine start end_ piece s = (.error e, t) ∧ t.stores = s.stores := by
  rcases hc with ⟨hlen, hcatch⟩
  rw [ihexLine_dataRecord h]
  rcases drop_of_long hlen with ⟨c₁, c₂, rest, hrest⟩
  rw [hrest] at hcatch ⊢
  unfold ihexData
  rw [Drv.state_bind_run]
  rcases hscan : scanX 2 (c₁ :: c₂ :: rest) with _ | ⟨v, r⟩
  · exact ⟨_, _, rfl, rfl⟩
  · rw [hscan] at hcatch
    rcases hcatch.resolve_left (by simp) with ⟨hn, hwrap⟩
    simp only
    rw [if_neg (by simp), if_neg (by omega)]
    have hoff : (s.readLine piece).offset = s.offset := rfl
    rw [hoff]
    by_cases hstart : u32 (a + s.offset) < start
    · rw [if_pos hstart]
      exact ⟨_, _, rfl, rfl⟩
    · rw [if_neg hstart, if_pos (hwrap.resolve_left hstart)]
      exact ⟨_, _, rfl, rfl⟩

/-- A data record that is not caught does not stop the run before it stores a byte. -/
theorem caught_of_ihexLine {start end_ n a : Nat} {s t : IhexState} {piece : List Byte}
    {e : IhexError} (h : ihexHeader (s.str piece) = some (n, a, 0))
    (hrun : ihexLine start end_ piece s = (.error e, t)) (hst : t.stores = s.stores) :
    IhexCaught start end_ s piece n a := by
  rw [ihexLine_dataRecord h] at hrun
  have hlen : 11 ≤ (s.str piece).length := by
    by_contra hshort
    have hdrop : ((s.str piece).drop 9).length < 2 := by
      rw [List.length_drop]
      omega
    -- on a shorter line the loop does not start, and the line is accepted
    rcases hd : (s.str piece).drop 9 with _ | ⟨c₁, _ | ⟨c₂, rest⟩⟩
    · rw [hd] at hrun
      cases hrun
    · rw [hd] at hrun
      cases hrun
    · rw [hd, List.length_cons, List.length_cons] at hdrop
      omega
  refine ⟨hlen, ?_⟩
  rcases drop_of_long hlen with ⟨c₁, c₂, rest, hrest⟩
  rw [hrest] at hrun ⊢
  unfold ihexData at hrun
  rw [Drv.state_bind_run] at hrun
  rcases hscan : scanX 2 (c₁ :: c₂ :: rest) with _ | ⟨v, r⟩
  · exact Or.inl rfl
  · right
    rw [hscan] at hrun
    simp only at hrun
    rw [if_neg (by simp)] at hrun
    by_cases hn : n = 0
    · rw [if_pos (by omega)] at hrun
      cases hrun
    · refine ⟨hn, ?_⟩
      rw [if_neg (by omega)] at hrun
      by_contra hpass
      rcases not_or.mp hpass with ⟨hstart, hlast⟩
      -- the tests pass, so a byte is stored and stays stored
      have hoff : (s.readLine piece).offset = s.offset := rfl
      rw [hoff, if_neg hstart, if_neg hlast, Drv.change_bind_run] at hrun
      have hgrow := (ihexData_keeps_stores start end_ n a 0 1 rest _).length_le.trans_eq
        (congrArg (fun r => r.2.stores.length) hrun)
      simp [hst, IhexState.readLine] at hgrow

/-! ## A run over lines -/

/-- If every record beyond `end` that the run comes to is caught, every store of the run
lies in `buf`. -/
theorem ihexLines_inRange {start end_ : Nat} (hend : end_ < 4294967296) (ls : List (List Byte))
    (s : IhexState) (hs : ∀ p ∈ s.stores, p.1 < end_ - start)
    (hcatch : ∀ pre piece post t, ls = pre ++ piece :: post →
      ihexLines start end_ pre s = (.ok (), t) →
      ∀ n a, ihexHeader (t.str piece) = some (n, a, 0) → t.offset + a + n > end_ →
        IhexCaught start end_ t piece n a) :
    ∀ p ∈ (ihexLines start end_ ls s).2.stores, p.1 < end_ - start := by
  induction ls generalizing s with
  | nil => exact hs
  | cons l ls ih =>
    -- one line: a record that fits stores in range, one that does not is caught
    have hline : ∀ p ∈ (ihexLine start end_ l s).2.stores, p.1 < end_ - start := by
      rcases hh : ihexHeader (s.str l) with _ | ⟨n, a, t⟩
      · rw [ihexLine_none hh]
        exact hs
      · by_cases ht : t = 0
        · subst ht
          by_cases hfit : s.offset + a + n ≤ end_
          · rw [ihexLine_dataRecord hh]
            exact ihexData_inRange hend _ _ _ hfit hs
          · obtain ⟨e, u, hrun, hst⟩ :=
              ihexLine_of_caught hh (hcatch [] l ls s rfl rfl n a hh (by omega))
            rw [hrun]
            simpa [hst] using hs
        · rw [ihexLine_other_stores hh ht]
          exact hs
    unfold ihexLines
    rw [Drv.forEach_cons]
    rcases hrun : ihexLine start end_ l s with ⟨_ | _, u⟩
    · rw [Drv.bind_error hrun]
      rw [hrun] at hline
      exact hline
    · rw [Drv.bind_ok hrun]
      rw [hrun] at hline
      -- a later line is reached through this one
      apply ih u hline
      intro pre piece post t hsplit hpre
      refine hcatch (l :: pre) piece post t (by rw [hsplit]; rfl) ?_
      unfold ihexLines at hpre ⊢
      rw [Drv.forEach_cons, Drv.bind_ok hrun, hpre]

/-- `ihex_read` stores in range and refuses every record beyond `end` exactly on the files
where the range tests catch each record beyond `end` that the run comes to. -/
theorem ihexRead_storesInRange_iff (line : LineBuf 523) (file : List Byte) (start end_ : Nat)
    (hend : end_ < 2 ^ 32) :
    IhexStoresInRange line file start end_ ↔
      ∀ s piece, IhexReaches line file start end_ s piece →
        ∀ n a, ihexHeader (s.str piece) = some (n, a, 0) → s.offset + a + n > end_ →
          IhexCaught start end_ s piece n a := by
  constructor
  · rintro ⟨-, hrefuse⟩ s piece hreach n a hh hbeyond
    rcases hrefuse s piece hreach n a hh hbeyond with ⟨e, t, hrun, -, hst⟩
    exact caught_of_ihexLine hh hrun hst
  · intro hcatch
    constructor
    · rw [ihexRead_state]
      refine ihexLines_inRange hend _ _ (by simp [IhexState.init]) ?_
      intro pre piece post t hsplit hpre
      exact hcatch t piece ⟨pre, post, hsplit, hpre⟩
    · intro s piece hreach n a hh hbeyond
      rcases ihexLine_of_caught hh (hcatch s piece hreach n a hh hbeyond) with ⟨e, t, hrun, hst⟩
      rcases hreach with ⟨pre, post, hsplit, hpre⟩
      refine ⟨e, t, hrun, ?_, hst⟩
      apply ihexRead_of_error
      rw [hsplit]
      exact ihexLines_error hpre hrun

/-- The record `:02FFFF00…` under the base 0xFFFF0000 ends at 2^32 + 1; the sum wraps to 1
and its first byte goes to `buf[0xFFFFFFFF]`. -/
theorem ihexRead_wraps :
    ¬IhexStoresInRange (LineBuf.zero 522) (text ":02000004FFFFFC\n:02FFFF000102FD\n") 0 0x100 := by
  rintro ⟨hstores, -⟩
  have hmem : (4294967295, 1) ∈ (ihexRead (LineBuf.zero 522)
      (text ":02000004FFFFFC\n:02FFFF000102FD\n") 0 0x100).2.stores := by decide +kernel
  exact absurd (hstores _ hmem) (by decide)

/-- A file with one data record at the end of the range. -/
theorem ihexRead_storesInRange_iff_last :
    IhexStoresInRange (LineBuf.zero 522) (text ":0100FF00AA56\n") 0 0x100 ↔
      ∀ s piece, IhexReaches (LineBuf.zero 522) (text ":0100FF00AA56\n") 0 0x100 s piece →
        ∀ n a, ihexHeader (s.str piece) = some (n, a, 0) → s.offset + a + n > 0x100 →
          IhexCaught 0 0x100 s piece n a :=
  ihexRead_storesInRange_iff _ _ _ _ (by decide)

end Stm8Flash
