import Stm8Flash.Main.Model
import Stm8Flash.Spans

/-! # VERIFY after WRITE

The WRITE action clears its buffer before the file is read into it, the VERIFY action does not,
so the bytes that the file does not mention are compared with whatever fresh memory holds.
`verify_after_write_iff` says for which files and options a VERIFY confirms a WRITE: the file
fills every byte that is compared (`VerifyFills`).
-/

namespace Stm8Flash

open Hex Stdio Word

/-! ## What the file fills -/

/-- The indices of the buffer that a file fills. -/
def fileIndices (o : MainOptions) (content : List Byte) : List Nat :=
  match fileFormat o.filename with
  | .intelHex => spanIndices (ihexSpans o.start (LineBuf.zero 522) 0 (pieces 523 content))
  | .motorolaSRecord => spanIndices (srecSpans o.start (LineBuf.zero 515) (pieces 516 content))
  | .rawBinary => List.range (min (rawLength o content.length).toNat content.length)

/-- How many bytes an accepted file is written or verified with: up to the greatest end address
of its records. -/
def fileLength (o : MainOptions) (content : List Byte) : Int :=
  match fileFormat o.filename with
  | .intelHex =>
    toInt32 (sub32 (spanReach 0 (ihexSpans o.start (LineBuf.zero 522) 0 (pieces 523 content)))
      o.start)
  | .motorolaSRecord =>
    toInt32 (sub32 (spanReach 0 (srecSpans o.start (LineBuf.zero 515) (pieces 516 content)))
      o.start)
  | .rawBinary => rawLength o content.length

/-- The options leave a number of bytes that VERIFY can round up, and the file fills every byte
up to its length, and none outside the buffer. -/
structure VerifyFills (o : MainOptions) (content : List Byte) : Prop where
  count_nonneg : 0 ≤ o.count
  count_le : o.count ≤ 2147483392
  inside : ∀ i ∈ fileIndices o content, (i : Int) < o.count
  filled : ∀ k < (fileLength o content).toNat, k ∈ fileIndices o content

/-- What is read of an accepted file. -/
theorem readFile_ok {o : MainOptions} {content : List Byte} {n : Int} {stores : List (Nat × Byte)}
    (h : readFile o content = .ok (n, stores)) (hn : 0 ≤ n) :
    n = fileLength o content ∧ stores.map Prod.fst = fileIndices o content := by
  unfold readFile at h
  unfold fileLength fileIndices
  cases hformat : fileFormat o.filename with
  | intelHex =>
    rw [hformat] at h
    simp only at h ⊢
    rcases hread : ihexRead (LineBuf.zero 522) content o.start (ofInt32 (o.start + o.count)) with
      ⟨_ | v, s⟩
    · rw [hread] at h
      cases h
    · rw [hread] at h
      simp only at h
      split at h
      · cases h
      · cases h
        rcases ihexRead_spans hread with ⟨hstores, hlen⟩
        exact ⟨hlen, hstores⟩
  | motorolaSRecord =>
    rw [hformat] at h
    simp only at h ⊢
    rcases hread : srecRead (LineBuf.zero 515) content o.start (ofInt32 (o.start + o.count)) with
      ⟨_ | v, s⟩
    · rw [hread] at h
      cases h
    · rw [hread] at h
      cases h
      rcases srecRead_spans hread with ⟨hstores, hlen⟩
      exact ⟨hlen, hstores⟩
  | rawBinary =>
    rw [hformat] at h
    cases h
    refine ⟨rfl, ?_⟩
    unfold rawStores
    -- a raw file is read from the start of the buffer on
    rw [if_neg (by omega), block_indices, List.length_take]
    simp

/-! ## A programmer that stores what it is sent -/

/-- The programmer stores what it is sent in `mem` and reads it back; reset and close leave
`mem` alone. -/
structure Programmer.Stores {σ ε : Type} (pgm : Programmer σ ε) (mem : σ → Nat → Byte) :
    Prop where
  write : ∀ buffer start n memtype s sent t, n < 2147483648 →
    pgm.writeRange buffer start n memtype s = (.ok sent, t) →
    ∀ k < n, mem t (u32 (start + k)) = buffer k
  read : ∀ buffer start n s, n < 2147483648 →
    ∃ recv buf t, pgm.readRange buffer start n s = (.ok (recv, buf), t) ∧ (n : Int) ≤ recv ∧
      ∀ k < n, buf k = mem s (u32 (start + k))
  reset : Drv.Keeps mem pgm.reset
  close : Drv.Keeps mem pgm.close
  closes : Drv.Returns pgm.close

/-! ## The number of bytes -/

/-- `bytes_count` is an `int`. -/
theorem MainOptions.count_lt (o : MainOptions) : o.count < 2147483648 := by
  have hall : ∀ d ∈ stm8Devices, d.ramSize ≤ 0x20000 ∧ d.eepromSize ≤ 0x20000 ∧
      d.flashSize ≤ 0x20000 := by decide
  rcases hall o.part o.part_mem with ⟨hram, heeprom, hflash⟩
  have hclamp : ∀ size ≤ 0x20000, clampCount o.bytesCount size < 2147483648 := by
    intro size hsize
    unfold clampCount
    rcases hb : o.bytesCount with _ | b
    · simp only
      omega
    · have hint := o.count_int b (by rw [hb]; rfl)
      simp only
      split <;> omega
  unfold count
  cases o.kind with
  | unknown =>
    simp only [memtypeArea]
    rcases hb : o.bytesCount with _ | b
    · simp
    · have hint := o.count_int b (by rw [hb]; rfl)
      simpa using hint.2
  | ram => exact hclamp _ hram
  | eeprom => exact hclamp _ heeprom
  | flash => exact hclamp _ hflash
  | opt =>
    refine hclamp _ ?_
    split <;> decide

/-- VERIFY reads at least `bytes_count` bytes. -/
theorem readAlign_of_le {o : MainOptions} (h0 : 0 ≤ o.count) (hle : o.count ≤ 2147483392) :
    o.count ≤ readAlign o ∧ readAlign o < 2147483648 := by
  -- C rounds towards zero, which matters for no bytes only
  have hdiv : (o.count - 1).tdiv 256 = if o.count = 0 then 0 else (o.count - 1) / 256 := by
    split
    · rename_i hzero
      rw [hzero]
      rfl
    · exact Int.tdiv_eq_ediv_of_nonneg (by omega)
  refine ⟨?_, toInt32_lt _⟩
  unfold readAlign
  rw [hdiv]
  generalize hq : ((if o.count = 0 then 0 else (o.count - 1) / 256) + 1) * 256 = q
  -- the rounded count still fits an `int`
  have hbounds : o.count ≤ q ∧ 0 ≤ q ∧ q < 2147483648 := by
    split at hq <;> omega
  rcases Int.eq_ofNat_of_zero_le hbounds.2.1 with ⟨m, rfl⟩
  rw [ofInt32_natCast (by omega), toInt32_of_lt (by omega)]
  exact hbounds.1

/-- Above that, rounding up leaves the range of `int`. -/
theorem count_le_of_readAlign {o : MainOptions} (h : 0 ≤ readAlign o) : o.count ≤ 2147483392 := by
  have hlt := o.count_lt
  by_contra hbig
  have hdiv : (o.count - 1).tdiv 256 = (o.count - 1) / 256 :=
    Int.tdiv_eq_ediv_of_nonneg (by omega)
  have hq : ((o.count - 1) / 256 + 1) * 256 = 2147483648 := by omega
  have hneg : readAlign o = -2147483648 := by
    unfold readAlign
    rw [hdiv, hq]
    rfl
  omega

/-! ## When a VERIFY confirms a WRITE -/

section AfterWrite

variable {σ ε : Type} {pgm : Programmer σ ε} {mem : σ → Nat → Byte} {o : MainOptions}
  {content : List Byte} {s t v : σ} {r : WriteReport}

/-- After a WRITE the target holds the image of the file over a cleared buffer. -/
theorem mainWrite_stores (hp : pgm.Stores mem)
    (h : mainWrite pgm o (some content) s = (.ok r, t)) :
    ∃ stores, readFile o content = .ok (r.bytesToWrite, stores) ∧ 0 ≤ r.bytesToWrite ∧
      ∀ k < r.bytesToWrite.toNat,
        mem t (u32 (o.start + k)) = Image.storeAll (fun _ => 0) stores k := by
  rcases mainWrite_ok h with ⟨c, stores, u, w, hc, hread, ⟨hn, hle, -⟩, hwrite, hreset, hclose⟩
  cases hc
  have hlt := toInt32_lt (roundedSize o.part (ofInt32 o.count))
  have hsize : r.bytesToWrite.toNat < 2147483648 := by
    unfold writeAlign at hle
    omega
  -- neither the reset nor the close touches the memory
  have hkeep : mem t = mem u := by
    have hclose' := hp.close w
    have hreset' := hp.reset u
    rw [hclose] at hclose'
    rw [hreset] at hreset'
    exact hclose'.trans hreset'
  refine ⟨stores, hread, hn, fun k hk => ?_⟩
  rw [hkeep]
  exact hp.write _ _ _ _ _ _ _ hsize hwrite k hk

/-- A byte that the file fills is compared with itself. -/
theorem storeAll_filled {stores : List (Nat × Byte)} {k : Nat} (h : k ∈ stores.map Prod.fst)
    (m m' : Nat → Byte) : Image.storeAll m stores k = Image.storeAll m' stores k := by
  rcases List.mem_map.mp h with ⟨p, hp, hk⟩
  exact Image.storeAll_congr_of_mem m m' stores k ⟨p, hp, hk⟩

/-- A byte that the file leaves out is compared with what the fresh buffer holds. -/
theorem storeAll_unfilled {stores : List (Nat × Byte)} {k : Nat} (h : k ∉ stores.map Prod.fst)
    (m : Nat → Byte) : Image.storeAll m stores k = m k :=
  Image.storeAll_of_forall_ne m stores k fun p hp hk => h (List.mem_map.mpr ⟨p, hp, hk⟩)

/-- What a VERIFY that reports `OK` has compared. -/
theorem mainVerify_compared (hp : pgm.Stores mem) {heap heap2 : Nat → Byte} {n : Int} {u : σ}
    (h : mainVerify pgm o heap heap2 (some content) v = (.ok n, u)) :
    0 ≤ readAlign o ∧ 0 ≤ o.count ∧
      ∃ stores, readFile o content = .ok (n, stores) ∧ InBuffer o.count n stores ∧
        ∀ k < n.toNat, mem v (u32 (o.start + k)) = Image.storeAll heap2 stores k := by
  rcases mainVerify_ok.mp h with ⟨halign, recv, buf, w, hread, -, hcompare⟩
  rcases mainCompare_ok.mp hcompare with ⟨hcount, stores, hfile, hin, hsame, -⟩
  have hlt : readAlign o < 2147483648 := toInt32_lt _
  obtain ⟨recv', buf', w', hread', -, hdata⟩ :=
    hp.read heap o.start (readAlign o).toNat v (by omega)
  rw [hread'] at hread
  cases hread
  have hround := readAlign_of_le hcount (count_le_of_readAlign halign)
  have hle := hin.2.1
  refine ⟨halign, hcount, stores, hfile, hin, fun k hk => ?_⟩
  rw [← hdata k (by omega)]
  exact hsame k hk

/-- A VERIFY whose comparison finds no difference reports `OK`. -/
theorem mainVerify_of_same (hp : pgm.Stores mem) {n : Int} {stores : List (Nat × Byte)}
    (hfile : readFile o content = .ok (n, stores)) (hin : InBuffer o.count n stores)
    (hcount : 0 ≤ o.count) (hle : o.count ≤ 2147483392) (heap heap2 : Nat → Byte)
    (hsame : ∀ k < n.toNat, mem v (u32 (o.start + k)) = Image.storeAll heap2 stores k) :
    ∃ u, mainVerify pgm o heap heap2 (some content) v = (.ok n, u) := by
  rcases readAlign_of_le hcount hle with ⟨hround, hlt⟩
  obtain ⟨recv, buf, w, hread, hrecv, hdata⟩ :=
    hp.read heap o.start (readAlign o).toNat v (by omega)
  rcases hp.closes w with ⟨_, u, hclose⟩
  have hn := hin.2.1
  refine ⟨u, mainVerify_ok.mpr ⟨by omega, recv, buf, w, hread, by omega, ?_⟩⟩
  refine mainCompare_ok.mpr ⟨hcount, stores, hfile, hin, fun k hk => ?_, hclose⟩
  rw [hdata k (by omega)]
  exact hsame k hk

/-- After a WRITE that succeeded on a programmer that stores what it is sent, a VERIFY of the
same file on the unchanged target reports `OK`, whatever the fresh buffers hold, if and only if
the file fills what is compared. -/
theorem verify_after_write_iff (hp : pgm.Stores mem)
    (hwrite : mainWrite pgm o (some content) s = (.ok r, t)) :
    (∀ v, mem v = mem t → ∀ heap heap2,
      ∃ n u, mainVerify pgm o heap heap2 (some content) v = (.ok n, u)) ↔
    VerifyFills o content := by
  rcases mainWrite_stores hp hwrite with ⟨stores, hfile, hn, hmem⟩
  rcases readFile_ok hfile hn with ⟨hlen, hidx⟩
  constructor
  · intro h
    -- the target has 0 wherever the file leaves a gap; let the fresh memory be all 1
    obtain ⟨n, u, hverify⟩ := h t rfl (fun _ => 0) fun _ => 1
    rcases mainVerify_compared hp hverify with ⟨halign, hcount, stores', hfile', hin, hsame⟩
    rw [hfile] at hfile'
    cases hfile'
    refine ⟨hcount, count_le_of_readAlign halign, ?_, ?_⟩
    · intro i hi
      rw [← hidx] at hi
      rcases List.mem_map.mp hi with ⟨p, hp', rfl⟩
      exact hin.2.2 p hp'
    · intro k hk
      rw [← hlen] at hk
      by_contra hgap
      rw [← hidx] at hgap
      have hbyte := hsame k hk
      rw [hmem k hk, storeAll_unfilled hgap, storeAll_unfilled hgap] at hbyte
      cases hbyte
  · intro h v hv heap heap2
    have hinside : ∀ p ∈ stores, (p.1 : Int) < o.count := by
      intro p hp'
      apply h.inside
      rw [← hidx]
      exact List.mem_map.mpr ⟨p, hp', rfl⟩
    have hle : r.bytesToWrite ≤ o.count := by
      -- the last byte is filled, so it lies in the buffer
      have hlast := h.count_nonneg
      by_cases hzero : r.bytesToWrite = 0
      · omega
      · have hfilled := h.filled (r.bytesToWrite.toNat - 1) (by rw [← hlen]; omega)
        have := h.inside _ hfilled
        omega
    refine ⟨r.bytesToWrite, ?_⟩
    refine mainVerify_of_same hp hfile ⟨hn, hle, hinside⟩ h.count_nonneg h.count_le heap heap2 ?_
    intro k hk
    rw [hv, hmem k hk]
    apply storeAll_filled
    rw [hidx]
    exact h.filled k (by rw [← hlen]; exact hk)

end AfterWrite

/-! ## Two bytes of flash -/

/-- A programmer that has only a memory. -/
def Programmer.ideal : Programmer (Nat → Byte) Empty where
  readRange := fun buffer start n mem =>
    (.ok (n, fun k => if k < n then mem (u32 (start + k)) else buffer k), mem)
  writeRange := fun buffer start n _ mem =>
    (.ok n, fun a => if sub32 a start < n then buffer (sub32 a start) else mem a)
  writeNegative := fun _ _ _ _ => pure ()
  reset := pure ()
  close := pure ()

theorem Programmer.ideal_stores : Programmer.ideal.Stores id where
  write := by
    intro buffer start n memtype s sent t hn h k hk
    cases h
    have hsub : sub32 (u32 (start + k)) start = k := by
      unfold sub32 u32
      omega
    show (if sub32 (u32 (start + k)) start < n then _ else _) = _
    rw [hsub, if_pos hk]
  read := by
    intro buffer start n s _
    refine ⟨_, _, _, rfl, le_rfl, fun k hk => ?_⟩
    rw [if_pos hk]
    rfl
  reset := fun _ => rfl
  close := fun _ => rfl
  closes := Drv.Returns.pure ()

/-- A file of two bytes fills them. -/
theorem verify_after_write_two :
    ∃ r t, mainWrite Programmer.ideal sampleOptions (some [0x55, 0xAA]) (fun _ => 0xFF) =
        (.ok r, t) ∧
      ∀ v, id v = id t → ∀ heap heap2, ∃ n u,
        mainVerify Programmer.ideal sampleOptions heap heap2 (some [0x55, 0xAA]) v =
          (.ok n, u) := by
  obtain ⟨r, t, hwrite⟩ := @mainWrite_returns _ _ Programmer.ideal sampleOptions _ _ _
    (fun _ => 0xFF) (show readFile sampleOptions [0x55, 0xAA] = .ok (2, [(0, 0x55), (1, 0xAA)])
      from rfl) (by decide) ⟨_, _, rfl⟩ (Drv.Returns.pure ()) (Drv.Returns.pure ())
  have hfills : VerifyFills sampleOptions [0x55, 0xAA] :=
    ⟨by decide, by decide, by decide, by decide⟩
  exact ⟨r, t, hwrite, (verify_after_write_iff Programmer.ideal_stores hwrite).mpr hfills⟩

/-- A file of one byte does not, and a VERIFY that finds another byte in its fresh buffer
fails. -/
theorem mainVerify_fresh :
    ¬∀ (pgm : Programmer (Nat → Byte) Empty) (mem : (Nat → Byte) → Nat → Byte), pgm.Stores mem →
      ∀ o content s r t, mainWrite pgm o (some content) s = (.ok r, t) →
        ∀ v, mem v = mem t → ∀ heap heap2,
          ∃ n u, mainVerify pgm o heap heap2 (some content) v = (.ok n, u) := by
  intro hall
  have hread : readFile sampleOptions [0x55] = .ok (2, [(0, 0x55)]) := rfl
  obtain ⟨r, t, hwrite⟩ := @mainWrite_returns _ _ Programmer.ideal sampleOptions _ _ _
    (fun _ => 0xFF) hread (by decide) ⟨_, _, rfl⟩ (Drv.Returns.pure ()) (Drv.Returns.pure ())
  obtain ⟨n, u, hverify⟩ := hall _ _ Programmer.ideal_stores _ _ _ r t hwrite t rfl
    (fun _ => 0) fun _ => 1
  rcases mainWrite_stores Programmer.ideal_stores hwrite with ⟨stores, hfile, -, hmem⟩
  obtain ⟨-, -, stores', hfile', -, hsame⟩ :=
    mainVerify_compared Programmer.ideal_stores hverify
  rw [hread] at hfile hfile'
  injection hfile with hpair
  injection hpair with hlen hstores
  cases hfile'
  -- the second byte: 0 on the target, 1 in the fresh buffer
  have hbyte := hsame 1 (by decide)
  rw [hmem 1 (by rw [← hlen]; decide), ← hstores] at hbyte
  revert hbyte
  decide

end Stm8Flash
