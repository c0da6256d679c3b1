import Stm8Flash.Ihex.Bounds
import Stm8Flash.Ihex.Decode

/-! # `ihex_read` and CR LF

The comment on `line` counts the longest record with a carriage return and a line feed, 523
characters, and leaves no room for the NUL: `fgets` then cuts the line feed of such a record off
and delivers it as a line of its own. `ihexRead_crlf_iff` says for which texts LF and CR LF come to
the same all the same.
-/

namespace Stm8Flash

open Hex Stdio Word

/-- Every LF replaced by CR LF. -/
def crlf (file : List Byte) : List Byte :=
  file.flatMap fun b => if b = ascii '\n' then [ascii '\r', ascii '\n'] else [b]

/-- What the caller of `ihex_read` gets: the value and the buffer, or nothing when `-1` is returned
and the buffer is freed. -/
def ihexOutcome (line : LineBuf 523) (b : Nat → Byte) (file : List Byte) (start end_ : Nat) :
    Option (Int × (Nat → Byte)) :=
  match ihexRead line file start end_ with
  | (.ok v, s) => some (v, s.buf b)
  | (.error _, _) => none

/-- The records whose lines end in LF. -/
def ihexEnded (rs : List IhexRecord) (file : List Byte) : List IhexRecord :=
  if file.getLast? = some (ascii '\n') then rs else rs.dropLast

/-- The record is in range for the `unsigned int` arithmetic of the reader. -/
def IhexRecord.Accepted (r : IhexRecord) (start end_ base : Nat) : Prop :=
  r.HasData → start ≤ u32 (r.addr + base) ∧ u32 (r.addr + base + r.data.length) ≤ end_

/-- All records are. -/
def IhexAccepted (start end_ : Nat) : Nat → List IhexRecord → Prop
  | _, [] => True
  | base, r :: rs => r.Accepted start end_ base ∧ IhexAccepted start end_ (r.newBase base) rs

namespace IhexState

/-- The states differ in the line buffer only. -/
def Same (s t : IhexState) : Prop := ∃ line, t = { s with line := line }

theorem Same.readLine {s t : IhexState} (h : s.Same t) (piece piece' : List Byte) :
    (s.readLine piece).Same (t.readLine piece') := by
  rcases h with ⟨line, rfl⟩
  exact ⟨line.fill piece', rfl⟩

/-- What is read of a record does not depend on the line buffer. -/
theorem Same.read {s t : IhexState} (h : s.Same t) (r : IhexRecord) (start end_ : Nat) :
    (r.read start end_ t).1 = (r.read start end_ s).1 ∧
      (r.read start end_ s).2.Same (r.read start end_ t).2 := by
  rcases h with ⟨line, rfl⟩
  unfold IhexRecord.read
  split
  · split
    · exact ⟨rfl, line, rfl⟩
    · split
      · exact ⟨rfl, line, rfl⟩
      · exact ⟨rfl, line, rfl⟩
  · exact ⟨rfl, line, rfl⟩

end IhexState

/-- The line is accepted when the record is, and the base goes on. -/
theorem IhexRecord.read_ok_iff (r : IhexRecord) (start end_ : Nat) (s : IhexState) :
    (r.read start end_ s).1 = .ok () ↔ r.Accepted start end_ s.offset := by
  unfold IhexRecord.read IhexRecord.Accepted
  split
  · rename_i hd
    split
    · rename_i hlow
      constructor
      · intro h
        cases h
      · intro h
        have := (h hd).1
        omega
    · split
      · rename_i hhigh
        constructor
        · intro h
          cases h
        · intro h
          have := (h hd).2
          omega
      · exact ⟨fun _ _ => ⟨by omega, by omega⟩, fun _ => rfl⟩
  · rename_i hd
    exact ⟨fun _ h => absurd h hd, fun _ => rfl⟩

theorem IhexRecord.read_offset {r : IhexRecord} {start end_ : Nat} {s : IhexState}
    (h : (r.read start end_ s).1 = .ok ()) :
    (r.read start end_ s).2.offset = r.newBase s.offset := by
  unfold IhexRecord.read at h ⊢
  split
  · rename_i hd
    rw [if_pos hd] at h
    have h0 : r.type = 0 := hd.1
    split
    · rename_i hlow
      rw [if_pos hlow] at h
      cases h
    · split
      · rename_i hlow hhigh
        rw [if_neg hlow, if_pos hhigh] at h
        cases h
      · rw [IhexRecord.newBase_of_type (by omega) (by omega)]
        rfl
  · rfl

/-! ## Two runs over the lines of the same records -/

/-- Runs over lines of the same records end alike, whatever ends the lines. -/
theorem ihexLines_same {start end_ : Nat} {rs : List IhexRecord} {ls ls' : List (List Byte)}
    (h : IhexSpells rs ls) (h' : IhexSpells rs ls') {s t : IhexState} (hst : s.Same t) :
    (ihexLines start end_ ls' t).1 = (ihexLines start end_ ls s).1 ∧
      (ihexLines start end_ ls s).2.Same (ihexLines start end_ ls' t).2 := by
  induction h generalizing ls' s t with
  | nil =>
    cases h'
    exact ⟨rfl, hst⟩
  | @cons r p rs ls hp _ ih =>
    cases h' with
    | @cons _ p' _ ls' hp' htail =>
      rcases hp with ⟨l, eol, rfl, hl, hnul, hlen⟩
      rcases hp' with ⟨l', eol', rfl, hl', hnul', hlen'⟩
      have hread := (hst.readLine (l ++ eol) (l' ++ eol')).read r start end_
      rw [← ihexLine_read start end_ hl hnul hlen, ← ihexLine_read start end_ hl' hnul' hlen'] at hread
      unfold ihexLines at ih ⊢
      rw [Drv.forEach_cons, Drv.forEach_cons, Drv.bind_run, Drv.bind_run]
      -- both lines stop with one message, or both go on
      rcases hs : ihexLine start end_ (l ++ eol) s with ⟨_ | _, s'⟩ <;>
        rcases ht : ihexLine start end_ (l' ++ eol') t with ⟨_ | _, t'⟩ <;>
        rw [hs, ht] at hread
      · exact hread
      · exact absurd hread.1 (by simp)
      · exact absurd hread.1 (by simp)
      · exact ih htail hread.2

/-- A run over the lines of records is accepted when all records are. -/
theorem ihexLines_ok_iff {start end_ : Nat} {rs : List IhexRecord} {ls : List (List Byte)}
    (h : IhexSpells rs ls) (s : IhexState) :
    (ihexLines start end_ ls s).1 = .ok () ↔ IhexAccepted start end_ s.offset rs := by
  induction h generalizing s with
  | nil => exact ⟨fun _ => trivial, fun _ => rfl⟩
  | @cons r p rs ls hp _ ih =>
    rcases hp with ⟨l, eol, rfl, hl, hnul, hlen⟩
    have hoffset : (s.readLine (l ++ eol)).offset = s.offset := rfl
    have hok := r.read_ok_iff start end_ (s.readLine (l ++ eol))
    have hbase := @IhexRecord.read_offset r start end_ (s.readLine (l ++ eol))
    rw [← ihexLine_read start end_ hl hnul hlen, hoffset] at hok hbase
    unfold ihexLines at ih ⊢
    rw [Drv.forEach_cons, Drv.bind_run, IhexAccepted, ← hok]
    rcases hrun : ihexLine start end_ (l ++ eol) s with ⟨e | u, t⟩
    · constructor
      · intro hstop
        cases hstop
      · rintro ⟨hgo, -⟩
        cases hgo
    · rw [hrun] at hbase
      rw [← hbase rfl, ← ih t]
      exact ⟨fun hrest => ⟨rfl, hrest⟩, fun hboth => hboth.2⟩

/-! ## The lines of the two texts -/

/-- Lines with a line end each. -/
def withEnds (eol : List Byte) (ls : List (List Byte)) : List Byte := (ls.map (· ++ eol)).flatten

theorem withEnds_cons (eol l : List Byte) (ls : List (List Byte)) :
    withEnds eol (l :: ls) = l ++ eol ++ withEnds eol ls := rfl

theorem withEnds_concat (eol l : List Byte) (ls : List (List Byte)) :
    withEnds eol (ls ++ [l]) = withEnds eol ls ++ l ++ eol := by
  simp [withEnds]

theorem forall₂_concat {α β : Type} {R : α → β → Prop} {xs : List α} {x : α} {l : List β}
    (h : List.Forall₂ R (xs ++ [x]) l) : ∃ ys y, l = ys ++ [y] ∧ List.Forall₂ R xs ys ∧ R x y := by
  induction xs generalizing l with
  | nil =>
    obtain ⟨y, ys, hxy, hnil, rfl⟩ := List.forall₂_cons_left_iff.mp h
    cases hnil
    exact ⟨[], y, rfl, List.Forall₂.nil, hxy⟩
  | cons x' xs ih =>
    obtain ⟨y', l, hhead, htail, rfl⟩ := List.forall₂_cons_left_iff.mp h
    obtain ⟨ys, y, rfl, hys, hxy⟩ := ih htail
    exact ⟨y' :: ys, y, rfl, List.Forall₂.cons hhead hys, hxy⟩

/-- A text is lines with LF, and a last line without it when the last LF is left out. -/
theorem ihexText_split {rs : List IhexRecord} {file : List Byte} (h : IhexText rs file) :
    ∃ ls, List.Forall₂ IhexRecord.Line (ihexEnded rs file) ls ∧
      ((rs = ihexEnded rs file ∧ file = withEnds [ascii '\n'] ls) ∨
        ∃ r last, rs = ihexEnded rs file ++ [r] ∧ r.Line last ∧
          file = withEnds [ascii '\n'] ls ++ last) := by
  rcases h with ⟨ls, hls, htext⟩
  rcases List.eq_nil_or_concat' rs with rfl | ⟨init, r, rfl⟩
  · cases hls
    rcases htext with rfl | hopen
    · exact ⟨[], List.Forall₂.nil, Or.inl ⟨rfl, rfl⟩⟩
    · exact absurd hopen (by simp)
  · obtain ⟨linit, last, rfl, hinit, hlast⟩ := forall₂_concat hls
    have hflat : (((linit ++ [last]).map (· ++ [ascii '\n'])).flatten : List Byte) =
        withEnds [ascii '\n'] linit ++ last ++ [ascii '\n'] := withEnds_concat _ _ _
    rw [hflat] at htext
    rcases htext with rfl | hopen
    · have hended : ihexEnded (init ++ [r])
          (withEnds [ascii '\n'] linit ++ last ++ [ascii '\n']) = init ++ [r] := by
        rw [ihexEnded, if_pos (by rw [List.getLast?_append]; rfl)]
      rw [hended]
      exact ⟨linit ++ [last], hls, Or.inl ⟨rfl, (withEnds_concat _ _ _).symm⟩⟩
    · have hfile : file = withEnds [ascii '\n'] linit ++ last := List.append_cancel_right hopen
      have hended : ihexEnded (init ++ [r]) file = init := by
        rw [ihexEnded, if_neg, List.dropLast_concat]
        intro hlf
        -- the last character of a record is a digit
        have hne : last ≠ [] := by
          rintro rfl
          have hlen := hlast.length_eq
          simp at hlen
          omega
        rw [hfile, List.getLast?_append_of_ne_nil _ hne] at hlf
        exact hlast.no_newline (List.mem_of_getLast? hlf)
      rw [hended]
      exact ⟨linit, hinit, Or.inr ⟨r, last, rfl, hlast, hfile⟩⟩

theorem crlf_of_no_newline {l : List Byte} (h : ascii '\n' ∉ l) : crlf l = l := by
  induction l with
  | nil => rfl
  | cons b l ih =>
    have hb : b ≠ ascii '\n' := fun e => h (by simp [e])
    have hrest := ih fun hmem => h (List.mem_cons_of_mem b hmem)
    unfold crlf at hrest ⊢
    rw [List.flatMap_cons, if_neg hb, hrest]
    rfl

theorem crlf_append (l l' : List Byte) : crlf (l ++ l') = crlf l ++ crlf l' :=
  List.flatMap_append

/-- The lines of the text with CR LF. -/
theorem crlf_withEnds {rs : List IhexRecord} {ls : List (List Byte)}
    (h : List.Forall₂ IhexRecord.Line rs ls) :
    crlf (withEnds [ascii '\n'] ls) = withEnds [ascii '\r', ascii '\n'] ls := by
  induction h with
  | nil => rfl
  | cons hl _ ih =>
    rw [withEnds_cons, withEnds_cons, crlf_append, crlf_append, ih,
      crlf_of_no_newline hl.no_newline]
    rfl

/-- A record without the last of its 255 bytes leaves room for CR LF. -/
theorem pieces_crlf {r : IhexRecord} {l : List Byte} (hl : r.Line l) (hlen : r.data.length ≤ 254)
    (rest : List Byte) :
    pieces 523 (l ++ [ascii '\r', ascii '\n'] ++ rest) =
      (l ++ [ascii '\r', ascii '\n']) :: pieces 523 rest := by
  have hline := hl.length_eq
  have hcr : ascii '\n' ∉ l ++ [ascii '\r'] := by
    intro hmem
    rcases List.mem_append.mp hmem with hmem | hmem
    · exact hl.no_newline hmem
    · exact absurd hmem (by decide)
  have hpiece := pieces_line (n := 523) (by decide) hcr (by
    rw [List.length_append, List.length_singleton]
    omega) rest
  simpa using hpiece

/-- The longest record fills the buffer with its CR, and its LF comes alone. -/
theorem pieces_crlf_longest {r : IhexRecord} {l : List Byte} (hl : r.Line l)
    (hlen : r.data.length = 255) (rest : List Byte) :
    pieces 523 (l ++ [ascii '\r', ascii '\n'] ++ rest) =
      (l ++ [ascii '\r']) :: [ascii '\n'] :: pieces 523 rest := by
  have hline := hl.length_eq
  have hcr : ascii '\n' ∉ l ++ [ascii '\r'] := by
    intro hmem
    rcases List.mem_append.mp hmem with hmem | hmem
    · exact hl.no_newline hmem
    · exact absurd hmem (by decide)
  have hfull := pieces_full (n := 523) (by decide) hcr (by
    rw [List.length_append, List.length_singleton]
    omega) (ascii '\n' :: rest)
  have halone := pieces_line (n := 523) (l := []) (by decide) (by simp) (by decide) rest
  rw [List.nil_append, List.nil_append] at halone
  rw [halone] at hfull
  simpa using hfull

/-! ## The two texts -/

/-- Lines of up to 254 bytes are delivered whole with CR LF. -/
theorem pieces_withEnds_crlf {rs : List IhexRecord} {ls : List (List Byte)}
    (h : List.Forall₂ IhexRecord.Line rs ls) (hlen : ∀ r ∈ rs, r.data.length ≤ 254)
    (rest : List Byte) :
    pieces 523 (withEnds [ascii '\r', ascii '\n'] ls ++ rest) =
      ls.map (· ++ [ascii '\r', ascii '\n']) ++ pieces 523 rest := by
  induction h with
  | nil => rfl
  | cons hl _ ih =>
    rw [withEnds_cons, List.append_assoc, pieces_crlf hl (hlen _ List.mem_cons_self),
      ih fun r hr => hlen r (List.mem_cons_of_mem _ hr)]
    rfl

theorem spells_withEnds_crlf {rs : List IhexRecord} {ls : List (List Byte)}
    (h : List.Forall₂ IhexRecord.Line rs ls) (hlen : ∀ r ∈ rs, r.data.length ≤ 254) :
    IhexSpells rs (ls.map (· ++ [ascii '\r', ascii '\n'])) := by
  induction h with
  | nil => exact List.Forall₂.nil
  | @cons r l rs ls hl _ ih =>
    have hline := hl.length_eq
    have hle := hlen r List.mem_cons_self
    refine List.Forall₂.cons ⟨l, _, rfl, hl, ?_, ?_⟩ (ih fun r' hr => hlen r' (List.mem_cons_of_mem _ hr))
    · intro hmem
      rcases List.mem_append.mp hmem with hmem | hmem
      · exact hl.no_nul hmem
      · exact absurd hmem (by decide)
    · rw [List.length_append]
      simp
      omega

/-- Without a record of 255 bytes the text with CR LF spells the same records. -/
theorem crlf_spells {rs : List IhexRecord} {file : List Byte} (h : IhexText rs file)
    (hlen : ∀ r ∈ ihexEnded rs file, r.data.length ≤ 254) :
    IhexSpells rs (pieces 523 (crlf file)) := by
  obtain ⟨ls, hls, hcases⟩ := ihexText_split h
  generalize ihexEnded rs file = ended at hls hlen hcases
  have hspells := spells_withEnds_crlf hls hlen
  rcases hcases with ⟨rfl, rfl⟩ | ⟨r, last, rfl, hlast, rfl⟩
  · have hpieces := pieces_withEnds_crlf hls hlen []
    rw [List.append_nil, pieces_nil, List.append_nil] at hpieces
    rw [crlf_withEnds hls, hpieces]
    exact hspells
  · have hline := hlast.length_eq
    have hle := r.length_le
    have hne : last ≠ [] := by
      rintro rfl
      simp at hline
      omega
    rw [crlf_append, crlf_withEnds hls, crlf_of_no_newline hlast.no_newline,
      pieces_withEnds_crlf hls hlen, pieces_last (by decide) hlast.no_newline (by omega) hne]
    refine List.rel_append hspells (List.Forall₂.cons ?_ List.Forall₂.nil)
    exact ⟨last, [], by simp, hlast, hlast.no_nul, by omega⟩

/-- A record of 255 bytes with CR LF ends the run, if nothing before it does: the LF comes as a line
of its own, which is no record. -/
theorem ihexLines_crlf_longest {start end_ : Nat} {rs : List IhexRecord} {ls : List (List Byte)}
    (h : List.Forall₂ IhexRecord.Line rs ls) (hlong : ∃ r ∈ rs, r.data.length = 255)
    (rest : List Byte) (s : IhexState) :
    ∃ e t, ihexLines start end_ (pieces 523 (withEnds [ascii '\r', ascii '\n'] ls ++ rest)) s =
      (.error e, t) := by
  induction h generalizing s with
  | nil =>
    rcases hlong with ⟨r, hr, -⟩
    cases hr
  | @cons r l rs ls hl _ ih =>
    unfold ihexLines at ih ⊢
    rw [withEnds_cons, List.append_assoc]
    by_cases hr : r.data.length = 255
    · rw [pieces_crlf_longest hl hr, Drv.forEach_cons, Drv.bind_run]
      rcases ihexLine start end_ (l ++ [ascii '\r']) s with ⟨e | u, t⟩
      · exact ⟨e, t, rfl⟩
      · have hstr : t.str [ascii '\n'] = [ascii '\n'] :=
          LineBuf.cstr_fill (p := 0) t.line (by decide) (by decide) (by decide)
        have hnone : ihexHeader (t.str [ascii '\n']) = none := by
          rw [hstr]
          decide
        refine ⟨.parse (t.lineNo + 1), t.readLine [ascii '\n'], ?_⟩
        dsimp only
        rw [Drv.forEach_cons, Drv.bind_error (ihexLine_none hnone)]
    · have hle := r.length_le
      rw [pieces_crlf hl (by omega), Drv.forEach_cons, Drv.bind_run]
      rcases ihexLine start end_ (l ++ [ascii '\r', ascii '\n']) s with ⟨e | u, t⟩
      · exact ⟨e, t, rfl⟩
      · refine ih ?_ t
        rcases hlong with ⟨r', hr', hlen'⟩
        rcases List.mem_cons.mp hr' with rfl | hmem
        · exact absurd hlen' hr
        · exact ⟨r', hmem, hlen'⟩

/-! ## `ihex_read` on the two texts -/

theorem ihexOutcome_of_error {line : LineBuf 523} {b : Nat → Byte} {file : List Byte}
    {start end_ : Nat} {s : IhexState} {e : IhexError}
    (h : ihexLines start end_ (pieces 523 file) (IhexState.init line) = (.error e, s)) :
    ihexOutcome line b file start end_ = none := by
  rw [ihexOutcome, ihexRead_of_error h]

theorem ihexOutcome_of_ok {line : LineBuf 523} {b : Nat → Byte} {file : List Byte}
    {start end_ : Nat} {s : IhexState}
    (h : ihexLines start end_ (pieces 523 file) (IhexState.init line) = (.ok (), s)) :
    ihexOutcome line b file start end_ =
      some (toInt32 (sub32 s.greatestAddr start), s.buf b) := by
  rw [ihexOutcome, ihexRead_of_ok h]

/-- A text is accepted when its records are in range. -/
theorem ihexOutcome_isSome_iff {rs : List IhexRecord} {file : List Byte} (h : IhexText rs file)
    (line : LineBuf 523) (b : Nat → Byte) (start end_ : Nat) :
    (ihexOutcome line b file start end_).isSome ↔ IhexAccepted start end_ 0 rs := by
  have hok : (ihexLines start end_ (pieces 523 file) (IhexState.init line)).1 = .ok () ↔
      IhexAccepted start end_ 0 rs := ihexLines_ok_iff (ihexText_spells h) (IhexState.init line)
  rw [← hok]
  rcases hrun : ihexLines start end_ (pieces 523 file) (IhexState.init line) with ⟨e | u, s⟩
  · rw [ihexOutcome_of_error hrun]
    simp
  · rw [ihexOutcome_of_ok hrun]
    simp

/-- Texts that spell the same records give the same. -/
theorem ihexOutcome_same {rs : List IhexRecord} {file file' : List Byte}
    (h : IhexSpells rs (pieces 523 file)) (h' : IhexSpells rs (pieces 523 file'))
    (line line' : LineBuf 523) (b : Nat → Byte) (start end_ : Nat) :
    ihexOutcome line' b file' start end_ = ihexOutcome line b file start end_ := by
  obtain ⟨hend, hsame⟩ := @ihexLines_same start end_ rs _ _ h h' (IhexState.init line)
    (IhexState.init line') ⟨line', rfl⟩
  rcases hrun : ihexLines start end_ (pieces 523 file) (IhexState.init line) with ⟨e | u, s⟩ <;>
    rcases hrun' : ihexLines start end_ (pieces 523 file') (IhexState.init line') with ⟨e' | u', s'⟩ <;>
    rw [hrun, hrun'] at hend hsame
  · rw [ihexOutcome_of_error hrun, ihexOutcome_of_error hrun']
  · cases hend
  · cases hend
  · obtain ⟨buffer, rfl⟩ := hsame
    rw [ihexOutcome_of_ok hrun, ihexOutcome_of_ok hrun']
    rfl

/-- With a record of 255 bytes that ends in LF the text with CR LF is refused. -/
theorem ihexOutcome_crlf_longest {rs : List IhexRecord} {file : List Byte} (h : IhexText rs file)
    (hlong : ∃ r ∈ ihexEnded rs file, r.data.length = 255) (line : LineBuf 523) (b : Nat → Byte)
    (start end_ : Nat) : ihexOutcome line b (crlf file) start end_ = none := by
  obtain ⟨ls, hls, hcases⟩ := ihexText_split h
  obtain ⟨rest, hfile⟩ : ∃ rest, crlf file = withEnds [ascii '\r', ascii '\n'] ls ++ rest := by
    rw [← crlf_withEnds hls]
    rcases hcases with ⟨-, hfile⟩ | ⟨r, last, -, -, hfile⟩
    · exact ⟨[], by rw [List.append_nil, ← hfile]⟩
    · exact ⟨crlf last, by rw [← crlf_append, ← hfile]⟩
  obtain ⟨e, s, hrun⟩ := @ihexLines_crlf_longest start end_ _ _ hls hlong rest (IhexState.init line)
  rw [← hfile] at hrun
  exact ihexOutcome_of_error hrun

/-- A text and the same text with CR LF are both refused, or give the same value and the same
buffer, exactly when no record that ends in LF has 255 bytes of data or some record is out of
range. -/
theorem ihexRead_crlf_iff {rs : List IhexRecord} {file : List Byte} (h : IhexText rs file)
    (line line' : LineBuf 523) (b : Nat → Byte) (start end_ : Nat) :
    ihexOutcome line' b (crlf file) start end_ = ihexOutcome line b file start end_ ↔
      (∀ r ∈ ihexEnded rs file, r.data.length ≤ 254) ∨ ¬IhexAccepted start end_ 0 rs := by
  by_cases hlen : ∀ r ∈ ihexEnded rs file, r.data.length ≤ 254
  · have hsame := ihexOutcome_same (ihexText_spells h) (crlf_spells h hlen) line line' b start end_
    exact ⟨fun _ => Or.inl hlen, fun _ => hsame⟩
  · have hlong : ∃ r ∈ ihexEnded rs file, r.data.length = 255 := by
      simp only [not_forall] at hlen
      obtain ⟨r, hr, hmore⟩ := hlen
      have hle := r.length_le
      exact ⟨r, hr, by omega⟩
    rw [ihexOutcome_crlf_longest h hlong, ← ihexOutcome_isSome_iff h line b start end_]
    constructor
    · intro hrefused
      right
      rw [← hrefused]
      simp
    · rintro (hshort | hrefused)
      · exact absurd hshort hlen
      · exact (Option.not_isSome_iff_eq_none.mp hrefused).symm

/-! ## The longest record -/

/-- A data record of 255 bytes at 0. -/
def ihexLongest : IhexRecord :=
  ihexDataRecord 0 (List.replicate 255 0) (Nat.le_of_eq List.length_replicate)

theorem ihexText_longest : IhexText [ihexLongest] (ihexLongest.print ++ [ascii '\n']) := by
  refine ⟨[ihexLongest.print], .cons (IhexRecord.line_print _) .nil, Or.inl ?_⟩
  simp

theorem ihexEnded_longest :
    ihexEnded [ihexLongest] (ihexLongest.print ++ [ascii '\n']) = [ihexLongest] := by
  rw [ihexEnded, if_pos (by rw [List.getLast?_append]; rfl)]

theorem ihexLongest_length : ihexLongest.data.length = 255 := List.length_replicate

/-- The sample text gives the same with CR LF. -/
theorem ihexRead_crlf_iff_sample :
    ihexOutcome (LineBuf.zero 522) (fun _ => 0xFF)
        (crlf (text ":020000040001F9\n:02001000A55AEF\n:00000001FF")) 0x10000 0x10020 =
      ihexOutcome (LineBuf.zero 522) (fun _ => 0xFF)
        (text ":020000040001F9\n:02001000A55AEF\n:00000001FF") 0x10000 0x10020 :=
  (ihexRead_crlf_iff ihexText_sample _ _ _ _ _).mpr (Or.inl (by decide +kernel))

/-- A record of 255 bytes is read with LF, and refused with CR LF. -/
theorem ihexRead_crlf_refused :
    IhexText [ihexLongest] (ihexLongest.print ++ [ascii '\n']) ∧
      (ihexOutcome (LineBuf.zero 522) (fun _ => 0xFF) (ihexLongest.print ++ [ascii '\n'])
        0 0x100).isSome ∧
      ihexOutcome (LineBuf.zero 522) (fun _ => 0xFF) (crlf (ihexLongest.print ++ [ascii '\n']))
        0 0x100 = none := by
  refine ⟨ihexText_longest, ?_, ?_⟩
  · apply (ihexOutcome_isSome_iff ihexText_longest _ _ _ _).mpr
    refine ⟨fun _ => ?_, trivial⟩
    rw [ihexLongest_length]
    decide
  · apply ihexOutcome_crlf_longest ihexText_longest
    rw [ihexEnded_longest]
    exact ⟨ihexLongest, List.mem_singleton_self _, ihexLongest_length⟩

end Stm8Flash
