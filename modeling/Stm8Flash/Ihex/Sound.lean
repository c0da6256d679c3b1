import Stm8Flash.Ihex.Bounds
import Stm8Flash.Ihex.Decode
import Stm8Flash.Srec.Record

/-! # What a file that `ihex_read` accepts is made of

The reader checks neither the checksum nor that a line has its `LL` data bytes: a record
that is cut off is stored as far as it goes, and the result still grows by `LL`
(`ihexRead_truncated`). The tests that it does make are `IhexRejects`.
`ihexRead_sound_iff` says that the reader can be trusted with a file exactly when all its
lines are complete records, or one of these tests stops it.
-/

namespace Stm8Flash

open Hex Stdio Word

/-- The line is a record `:LLAAAATTDD…DDCC` and a line end: `LL` data bytes and a checksum
in hex, and all bytes add up to 0 modulo 256. -/
structure IhexComplete (piece : List Byte) : Prop where
  fields : ∃ ll aa tt dd cc eol n a t bs c,
    piece = ascii ':' :: (ll ++ (aa ++ (tt ++ (dd ++ (cc ++ eol))))) ∧
    Field 2 n ll ∧ Field 4 a aa ∧ Field 2 t tt ∧ Bytes bs dd ∧ bs.length = n ∧
    Field 2 c cc ∧ IsEol eol ∧ (n + (a / 256 + a % 256) + t + byteSum bs + c) % 256 = 0

/-- A data record stores the `LL` bytes that stand on its line behind the header, no less
and no more, in whatever state it is read. -/
def IhexSupplies (start end_ : Nat) (piece : List Byte) : Prop :=
  ∀ s u n a, ihexHeader (s.str piece) = some (n, a, 0) →
    ihexLine start end_ piece s = (.ok (), u) →
    ∃ bs dd rest, bs.length = n ∧ Bytes bs dd ∧ piece.drop 9 = dd ++ rest ∧
      u.stores.map Prod.snd = s.stores.map Prod.snd ++ bs

/-- If `ihex_read` succeeds, every line is a complete record, and every data record has
supplied its bytes. -/
def IhexSound (line : LineBuf 523) (file : List Byte) (start end_ : Nat) : Prop :=
  (∃ v s, ihexRead line file start end_ = (.ok v, s)) →
    ∀ piece ∈ pieces 523 file, IhexComplete piece ∧ IhexSupplies start end_ piece

/-- The tests of the reader stop it at the line: the header cannot be scanned; or, on a
data record, a first field is on the line and the record is out of range, or one of the
fields up to the one behind the data is on the line and cannot be scanned; or, on another
record, its address field, if the type has one, or its first field cannot be scanned. -/
def IhexRejects (start end_ : Nat) (s : IhexState) (piece : List Byte) : Prop :=
  match ihexHeader (s.str piece) with
  | none => True
  | some (n, a, t) =>
    if t = 0 then
      (11 ≤ (s.str piece).length ∧ n ≠ 0 ∧
        (u32 (a + s.offset) < start ∨ u32 (a + s.offset + n) > end_)) ∨
      ∃ k ≤ n, 11 + 2 * k ≤ (s.str piece).length ∧
        scanX 2 ((s.str piece).drop (9 + 2 * k)) = none
    else
      ((t = 2 ∨ t = 4) ∧ scanX 4 ((s.readLine piece).line.cstr 9) = none) ∨
      (11 ≤ (s.str piece).length ∧ scanX 2 ((s.str piece).drop 9) = none)

/-! ## Where the reader stops -/

/-- The data loop of another record stops at an unreadable first field only. -/
theorem ihexData_other_error_iff {start end_ n a t k : Nat} (ht : t ≠ 0) (rest : List Byte)
    (s : IhexState) :
    (∃ e u, ihexData start end_ n a t k rest s = (.error e, u)) ↔
      2 ≤ rest.length ∧ scanX 2 rest = none := by
  match rest with
  | [] => simp [ihexData]
  | [_] => simp [ihexData]
  | c₁ :: c₂ :: rest =>
    unfold ihexData
    rw [Drv.state_bind_run]
    rcases scanX 2 (c₁ :: c₂ :: rest) with _ | ⟨v, r⟩
    · simp
    · simp [ht]

/-- Behind a field that can be scanned, an unreadable field is a later one. -/
theorem unreadable_later {n k : Nat} {c₁ c₂ : Byte} {rest : List Byte}
    (hscan : scanX 2 (c₁ :: c₂ :: rest) ≠ none) :
    (∃ j, k + j ≤ n ∧ 2 * j + 2 ≤ (c₁ :: c₂ :: rest).length ∧
        scanX 2 ((c₁ :: c₂ :: rest).drop (2 * j)) = none) ↔
      ∃ j, k + 1 + j ≤ n ∧ 2 * j + 2 ≤ rest.length ∧ scanX 2 (rest.drop (2 * j)) = none := by
  constructor
  · rintro ⟨_ | j, hj, hlen, hnone⟩
    · exact absurd hnone hscan
    · simp only [List.length_cons] at hlen
      exact ⟨j, by omega, by omega, hnone⟩
  · rintro ⟨j, hj, hlen, hnone⟩
    refine ⟨j + 1, by omega, ?_, hnone⟩
    simp only [List.length_cons]
    omega

/-- The data loop of a data record stops at the range tests, or at an unreadable field. -/
theorem ihexData_error_iff {start end_ n a k : Nat} (hk : k ≤ n) (rest : List Byte)
    (s : IhexState) :
    (∃ e u, ihexData start end_ n a 0 k rest s = (.error e, u)) ↔
      (2 ≤ rest.length ∧ k < n ∧
        (u32 (a + s.offset) < start ∨ u32 (a + s.offset + n) > end_)) ∨
      ∃ j, k + j ≤ n ∧ 2 * j + 2 ≤ rest.length ∧ scanX 2 (rest.drop (2 * j)) = none := by
  induction k, rest using ihexData.induct generalizing s with
  | case2 rest k hne =>
    have hshort := no_field_left hne
    rw [ihexData_short hshort]
    constructor
    · rintro ⟨e, u, h⟩
      cases h
    · rintro (⟨h, -⟩ | ⟨j, -, h, -⟩)
      · omega
      · omega
  | case1 k c₁ c₂ rest ih =>
    unfold ihexData
    rw [Drv.state_bind_run]
    rcases hscan : scanX 2 (c₁ :: c₂ :: rest) with _ | ⟨v, r⟩
    · -- the field at hand is the unreadable one
      exact ⟨fun _ => Or.inr ⟨0, by omega, by simp, hscan⟩, fun _ => ⟨_, _, rfl⟩⟩
    · simp only
      rw [if_neg (by simp)]
      have hlater := @unreadable_later n k c₁ c₂ rest (by simp [hscan])
      by_cases hkn : k ≥ n
      · rw [if_pos hkn, hlater]
        constructor
        · rintro ⟨e, u, h⟩
          cases h
        · rintro (⟨-, h, -⟩ | ⟨j, h, -⟩)
          · omega
          · omega
      · rw [if_neg hkn]
        by_cases hstart : u32 (a + s.offset) < start
        · rw [if_pos hstart]
          exact ⟨fun _ => Or.inl ⟨by simp, by omega, Or.inl hstart⟩, fun _ => ⟨_, _, rfl⟩⟩
        · rw [if_neg hstart]
          by_cases hlast : u32 (a + s.offset + n) > end_
          · rw [if_pos hlast]
            exact ⟨fun _ => Or.inl ⟨by simp, by omega, Or.inr hlast⟩, fun _ => ⟨_, _, rfl⟩⟩
          · rw [if_neg hlast, Drv.change_bind_run, ih (by omega), hlater]
            simp only [IhexState.store_offset, IhexState.reach_offset]
            constructor
            · rintro (⟨-, -, h⟩ | h)
              · exact absurd h (not_or.mpr ⟨hstart, hlast⟩)
              · exact Or.inr h
            · rintro (⟨-, -, h⟩ | h)
              · exact absurd h (not_or.mpr ⟨hstart, hlast⟩)
              · exact Or.inr h

/-- The line of an extended address record goes on behind its address field. -/
theorem ihexBase_run_or (scale : Nat) (s : IhexState) :
    (scanX 4 (s.line.cstr 9) = none ∧ ∃ e, ihexBase scale s = (.error e, s)) ∨
      (scanX 4 (s.line.cstr 9) ≠ none ∧ ∃ u, ihexBase scale s = (.ok (), u)) := by
  unfold ihexBase
  rw [Drv.state_bind_run]
  rcases scanX 4 (s.line.cstr 9) with _ | ⟨v, r⟩
  · exact Or.inl ⟨rfl, _, rfl⟩
  · exact Or.inr ⟨by simp, _, rfl⟩

/-- The run of a line that is not a data record: the address branch, if it has one, and
the data loop. -/
theorem ihexLine_otherRecord {start end_ n a t : Nat} {s : IhexState} {piece : List Byte}
    (h : ihexHeader (s.str piece) = some (n, a, t)) :
    ihexLine start end_ piece s =
      (if t = 2 then ihexBase 16 >>= fun _ =>
          ihexData start end_ n a t 0 ((s.str piece).drop 9)
        else if t = 4 then ihexBase 65536 >>= fun _ =>
          ihexData start end_ n a t 0 ((s.str piece).drop 9)
        else ihexData start end_ n a t 0 ((s.str piece).drop 9)) (s.readLine piece) := by
  unfold ihexLine
  rw [Drv.change_bind_run, Drv.state_bind_run]
  unfold IhexState.str at h ⊢
  rw [h]
  simp only
  by_cases h2 : t = 2
  · subst h2
    rfl
  · by_cases h4 : t = 4
    · subst h4
      rfl
    · rw [if_neg h2, if_neg h4, if_neg h2]

/-- The reader stops at a line exactly when its tests reject it. -/
theorem ihexLine_error_iff {start end_ : Nat} {s : IhexState} {piece : List Byte} :
    (∃ e u, ihexLine start end_ piece s = (.error e, u)) ↔ IhexRejects start end_ s piece := by
  unfold IhexRejects
  rcases hh : ihexHeader (s.str piece) with _ | ⟨n, a, t⟩
  · rw [ihexLine_none hh]
    exact ⟨fun _ => trivial, fun _ => ⟨_, _, rfl⟩⟩
  · simp only
    have hlen : ∀ k, 2 * k + 2 ≤ ((s.str piece).drop 9).length ↔
        11 + 2 * k ≤ (s.str piece).length := by
      intro k
      rw [List.length_drop]
      omega
    by_cases ht : t = 0
    · subst ht
      rw [if_pos rfl, ihexLine_dataRecord hh, ihexData_error_iff (Nat.zero_le n)]
      have hoff : (s.readLine piece).offset = s.offset := rfl
      have hfirst := hlen 0
      simp only [Nat.mul_zero, Nat.zero_add, Nat.add_zero] at hfirst
      rw [hoff, hfirst, Nat.pos_iff_ne_zero]
      simp only [Nat.zero_add, hlen, List.drop_drop]
    · rw [if_neg ht, ihexLine_otherRecord hh]
      have hdata : ∀ u, (∃ e w, ihexData start end_ n a t 0 ((s.str piece).drop 9) u =
          (.error e, w)) ↔ 11 ≤ (s.str piece).length ∧ scanX 2 ((s.str piece).drop 9) = none := by
        intro u
        have hfirst := hlen 0
        simp only [Nat.mul_zero, Nat.zero_add, Nat.add_zero] at hfirst
        rw [ihexData_other_error_iff ht, hfirst]
      -- with an address branch, its field can stop the reader first
      have hbase : ∀ scale, (∃ e u, (ihexBase scale >>= fun _ =>
          ihexData start end_ n a t 0 ((s.str piece).drop 9)) (s.readLine piece) = (.error e, u)) ↔
          scanX 4 ((s.readLine piece).line.cstr 9) = none ∨
            (11 ≤ (s.str piece).length ∧ scanX 2 ((s.str piece).drop 9) = none) := by
        intro scale
        rcases ihexBase_run_or scale (s.readLine piece) with ⟨hnone, e, hrun⟩ | ⟨hsome, u, hrun⟩
        · rw [Drv.bind_error hrun]
          exact ⟨fun _ => Or.inl hnone, fun _ => ⟨_, _, rfl⟩⟩
        · rw [Drv.bind_ok hrun, hdata]
          exact ⟨Or.inr, fun h => h.resolve_left hsome⟩
      by_cases h2 : t = 2
      · rw [if_pos h2, hbase]
        simp [h2]
      · rw [if_neg h2]
        by_cases h4 : t = 4
        · rw [if_pos h4, hbase]
          simp [h4]
        · rw [if_neg h4, hdata]
          simp [h2, h4]

/-! ## Complete lines -/

/-- A complete line has no NUL in it. -/
theorem IhexComplete.no_nul {piece : List Byte} (h : IhexComplete piece) :
    (0 : Byte) ∉ piece := by
  rcases h.fields with ⟨ll, aa, tt, dd, cc, eol, n, a, t, bs, c, rfl, hll, haa, htt, hdd, -, hcc,
    heol, -⟩
  have hdigit : ∀ b : Byte, isXDigit b = true → b ≠ 0 := by
    intro b hb hzero
    subst hzero
    exact absurd hb (by decide)
  intro hmem
  simp only [List.mem_cons, List.mem_append] at hmem
  rcases hmem with h0 | h0 | h0 | h0 | h0 | h0 | h0
  · exact absurd h0 (by decide)
  · exact hdigit 0 (hll.digits 0 h0) rfl
  · exact hdigit 0 (haa.digits 0 h0) rfl
  · exact hdigit 0 (htt.digits 0 h0) rfl
  · exact hdigit 0 (hdd.digits 0 h0) rfl
  · exact hdigit 0 (hcc.digits 0 h0) rfl
  · exact SrecRecord.eol_no_nul heol h0

/-- A data loop that returns has stored the data that stand in front of the checksum. -/
theorem ihexData_supplies {start end_ n a c k : Nat} {bs dd cc rest : List Byte}
    (hdd : Bytes bs dd) (hcc : Field 2 c cc) (hk : k + bs.length = n) {s u : IhexState}
    (hrun : ihexData start end_ n a 0 k (dd ++ (cc ++ rest)) s = (.ok (), u)) :
    u.stores.map Prod.snd = s.stores.map Prod.snd ++ bs := by
  induction hdd generalizing k s with
  | nil =>
    rw [List.nil_append, ihexData_skip hcc (Or.inr (by simp at hk; omega))] at hrun
    cases hrun
    simp
  | @cons b bs f ss hf hs ih =>
    rcases hf.two with ⟨x, y, rfl⟩
    have hscan := scanX_field (by decide) hf (ss ++ (cc ++ rest))
    have hkn : k + 1 + bs.length = n := by
      simp only [List.length_cons] at hk
      omega
    unfold ihexData at hrun
    simp only [List.cons_append, List.nil_append] at hscan hrun
    rw [Drv.state_bind_run, hscan] at hrun
    simp only at hrun
    rw [if_neg (by simp), if_neg (by omega)] at hrun
    -- a loop that returns has passed the range tests
    split_ifs at hrun with hstart hlast
    · cases hrun
    · cases hrun
    · rw [Drv.change_bind_run] at hrun
      rw [ih hkn hrun]
      simp

/-- A complete line supplies its data bytes. -/
theorem IhexComplete.supplies {piece : List Byte} (h : IhexComplete piece)
    (hlen : piece.length < 523) (start end_ : Nat) : IhexSupplies start end_ piece := by
  intro s u n a hh hrun
  have hstr : s.str piece = piece := LineBuf.cstr_fill s.line hlen h.no_nul (Nat.zero_le _)
  rcases h.fields with ⟨ll, aa, tt, dd, cc, eol, n', a', t, bs, c, rfl, hll, haa, htt, hdd, hbs,
    hcc, -, -⟩
  rw [ihexLine_dataRecord hh] at hrun
  rw [hstr, ihexHeader_line hll haa htt] at hh
  cases hh
  rw [hstr, drop_header hll haa htt] at hrun
  have hstores := ihexData_supplies hdd hcc (by rw [hbs, Nat.zero_add]) hrun
  exact ⟨bs, dd, cc ++ eol, hbs, hdd, drop_header hll haa htt _, hstores⟩

/-! ## A file -/

/-- `ihex_read` fails exactly when the run comes to a line that its tests reject. -/
theorem ihexRead_fails_iff (line : LineBuf 523) (file : List Byte) (start end_ : Nat) :
    (¬∃ v s, ihexRead line file start end_ = (.ok v, s)) ↔
      ∃ s piece, IhexReaches line file start end_ s piece ∧ IhexRejects start end_ s piece := by
  constructor
  · intro hfail
    rcases hrun : ihexLines start end_ (pieces 523 file) (IhexState.init line) with ⟨e | _, u⟩
    · rcases Drv.forEach_eq_error hrun with ⟨pre, piece, post, s, hsplit, hpre, hpiece⟩
      exact ⟨s, piece, ⟨pre, post, hsplit, hpre⟩, ihexLine_error_iff.mp ⟨e, u, hpiece⟩⟩
    · exact absurd ⟨_, _, ihexRead_of_ok hrun⟩ hfail
  · rintro ⟨s, piece, ⟨pre, post, hsplit, hpre⟩, hreject⟩ ⟨v, u, hread⟩
    rcases ihexLine_error_iff.mpr hreject with ⟨e, w, hpiece⟩
    have hlines := @ihexLines_error start end_ pre post _ _ _ _ _ hpre hpiece
    rw [← hsplit] at hlines
    rw [ihexRead_of_error hlines] at hread
    cases hread

/-- `ihex_read` is sound on a file exactly when all lines are complete records, or its
tests reject a line that the run comes to. -/
theorem ihexRead_sound_iff (line : LineBuf 523) (file : List Byte) (start end_ : Nat) :
    IhexSound line file start end_ ↔
      (∀ piece ∈ pieces 523 file, IhexComplete piece) ∨
        ∃ s piece, IhexReaches line file start end_ s piece ∧
          IhexRejects start end_ s piece := by
  have hshort := pieces_length_lt (n := 523) (by decide) file
  rw [← ihexRead_fails_iff]
  constructor
  · intro hsound
    by_cases hok : ∃ v s, ihexRead line file start end_ = (.ok v, s)
    · exact Or.inl fun piece hmem => (hsound hok piece hmem).1
    · exact Or.inr hok
  · rintro (hall | hfail) hok piece hmem
    · exact ⟨hall piece hmem, (hall piece hmem).supplies (hshort piece hmem) start end_⟩
    · exact absurd hok hfail

/-- A data record that is cut off behind the first of its four bytes is accepted: one byte
is stored and the result is 4. -/
theorem ihexRead_truncated :
    (ihexRead (LineBuf.zero 522) (text ":0400000055\n") 0 0x100).1.toOption = some 4 ∧
      (ihexRead (LineBuf.zero 522) (text ":0400000055\n") 0 0x100).2.stores = [(0, 0x55)] ∧
      ¬IhexSound (LineBuf.zero 522) (text ":0400000055\n") 0 0x100 := by
  have hvalue : (ihexRead (LineBuf.zero 522) (text ":0400000055\n") 0 0x100).1.toOption =
      some 4 := by decide +kernel
  refine ⟨hvalue, by decide +kernel, ?_⟩
  intro hsound
  have hpieces : pieces 523 (text ":0400000055\n") = [text ":0400000055\n"] := by decide
  have hok : ∃ v s, ihexRead (LineBuf.zero 522) (text ":0400000055\n") 0 0x100 = (.ok v, s) := by
    rcases hrun : ihexRead (LineBuf.zero 522) (text ":0400000055\n") 0 0x100 with ⟨e | v, s⟩
    · rw [hrun] at hvalue
      cases hvalue
    · exact ⟨v, s, rfl⟩
  rcases (hsound hok (text ":0400000055\n") (by rw [hpieces]; simp)).1.fields with
    ⟨ll, aa, tt, dd, cc, eol, n, a, t, bs, c, hpiece, hll, haa, htt, hdd, hbs, hcc, -⟩
  -- the length says 4 bytes, and there are not as many characters
  have hfour : ll = text "04" := by
    have htake := congrArg (fun l => (l.drop 1).take 2) hpiece
    simp only [List.drop_succ_cons, List.drop_zero] at htake
    rw [← hll.length_eq, List.take_left] at htake
    rw [← htake, hll.length_eq]
    decide
  have hn : n = 4 := by
    rw [← hll.value_eq, hfour]
    decide
  have hlen := congrArg List.length hpiece
  have htwelve : (text ":0400000055\n").length = 12 := by decide
  simp only [List.length_cons, List.length_append, hll.length_eq, haa.length_eq, htt.length_eq,
    hdd.length_eq, hcc.length_eq] at hlen
  omega

end Stm8Flash
