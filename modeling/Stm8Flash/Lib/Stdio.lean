import Stm8Flash.Lib.Hex

/-! # Reading a text file line by line into a fixed buffer

`fgets` takes at most `n - 1` bytes and stops after a line feed; `pieces` is what
repeated calls deliver. A `LineBuf n` is the `char line[n]` of a reader: it keeps
what earlier calls left behind the NUL of the current string, and its last byte is
always NUL, which is why a string read from any position inside it ends inside it.
-/

namespace Stdio

open Hex

/-! ## `fgets` -/

/-- Take at most `k` bytes, up to and including the first line feed. -/
def takeLine : Nat → List Byte → List Byte × List Byte
  | 0, f => ([], f)
  | _ + 1, [] => ([], [])
  | k + 1, c :: f =>
    if c = ascii '\n' then ([c], f) else (c :: (takeLine k f).1, (takeLine k f).2)

/-- `fgets(line, n, f)`: the bytes stored before the NUL and the rest of the file, or
`none` at the end of the file. -/
def fgets (n : Nat) (f : List Byte) : Option (List Byte × List Byte) :=
  if f = [] then none else some (takeLine (n - 1) f)

/-- What at most `fuel` calls of `fgets` deliver. -/
def piecesFuel (n : Nat) : Nat → List Byte → List (List Byte)
  | 0, _ => []
  | fuel + 1, f => match fgets n f with
    | none => []
    | some (l, r) => l :: piecesFuel n fuel r

/-- What `while(fgets(line, n, f))` delivers. Every call takes at least one byte, so
the length of the file bounds the calls. -/
def pieces (n : Nat) (f : List Byte) : List (List Byte) := piecesFuel n f.length f

theorem takeLine_append (k : Nat) (f : List Byte) : (takeLine k f).1 ++ (takeLine k f).2 = f := by
  induction k, f using takeLine.induct with
  | case1 f => simp [takeLine]
  | case2 k => simp [takeLine]
  | case3 k f => simp [takeLine]
  | case4 k c f hc ih => simp [takeLine, hc, ih]

theorem takeLine_length_le (k : Nat) (f : List Byte) : (takeLine k f).1.length ≤ k := by
  induction k, f using takeLine.induct with
  | case1 f => simp [takeLine]
  | case2 k => simp [takeLine]
  | case3 k f => simp [takeLine]
  | case4 k c f hc ih =>
    simp [takeLine, hc]
    omega

theorem takeLine_ne_nil {k : Nat} {f : List Byte} (hk : 0 < k) (hf : f ≠ []) :
    (takeLine k f).1 ≠ [] := by
  cases k with
  | zero => omega
  | succ k =>
    cases f with
    | nil => exact absurd rfl hf
    | cons c f =>
      unfold takeLine
      split <;> simp

/-- A line that fits is taken whole, with its line feed. -/
theorem takeLine_line {k : Nat} {l rest : List Byte} (hl : ascii '\n' ∉ l)
    (hk : l.length + 1 ≤ k) :
    takeLine k (l ++ ascii '\n' :: rest) = (l ++ [ascii '\n'], rest) := by
  induction l generalizing k with
  | nil =>
    obtain ⟨k, rfl⟩ : ∃ j, k = j + 1 := ⟨k - 1, by simp at hk; omega⟩
    simp [takeLine]
  | cons c l ih =>
    obtain ⟨k, rfl⟩ : ∃ j, k = j + 1 := ⟨k - 1, by simp at hk; omega⟩
    have hc : c ≠ ascii '\n' := fun e => hl (by simp [e])
    have htail := ih (k := k) (fun h => hl (by simp [h])) (by simpa using hk)
    simp [takeLine, hc, htail]

/-- A last line without a line feed is taken whole. -/
theorem takeLine_last {k : Nat} {l : List Byte} (hl : ascii '\n' ∉ l) (hk : l.length ≤ k) :
    takeLine k l = (l, []) := by
  induction l generalizing k with
  | nil => cases k <;> rfl
  | cons c l ih =>
    obtain ⟨k, rfl⟩ : ∃ j, k = j + 1 := ⟨k - 1, by simp at hk; omega⟩
    have hc : c ≠ ascii '\n' := fun e => hl (by simp [e])
    have htail := ih (k := k) (fun h => hl (by simp [h])) (by simpa using hk)
    simp [takeLine, hc, htail]

/-- Without a line feed among them, `k` bytes are taken and the rest is left. -/
theorem takeLine_full {l rest : List Byte} (hl : ascii '\n' ∉ l) :
    takeLine l.length (l ++ rest) = (l, rest) := by
  induction l with
  | nil => rfl
  | cons c l ih =>
    have hc : c ≠ ascii '\n' := fun e => hl (by simp [e])
    have htail := ih fun h => hl (by simp [h])
    simp [takeLine, hc, htail]

/-- Another byte behind what is taken is left with the rest. -/
theorem takeLine_set_behind (k : Nat) (f : List Byte) {i : Nat} (d : Byte)
    (hi : (takeLine k f).1.length ≤ i) :
    takeLine k (f.set i d) =
      ((takeLine k f).1, (takeLine k f).2.set (i - (takeLine k f).1.length) d) := by
  induction k, f using takeLine.induct generalizing i with
  | case1 f => simp [takeLine]
  | case2 k => simp [takeLine]
  | case3 k f =>
    obtain ⟨i, rfl⟩ : ∃ j, i = j + 1 := ⟨i - 1, by simp [takeLine] at hi; omega⟩
    simp [takeLine]
  | case4 k c f hc ih =>
    obtain ⟨i, rfl⟩ : ∃ j, i = j + 1 := ⟨i - 1, by simp [takeLine, hc] at hi; omega⟩
    have hrest := @ih i (by simpa [takeLine, hc] using hi)
    simp [takeLine, hc, hrest]

/-- Another byte among those taken, neither of them a line feed, is taken in its place. -/
theorem takeLine_set_front {k : Nat} {f : List Byte} {i : Nat} {c d : Byte}
    (hi : (takeLine k f).1[i]? = some c) (hc : c ≠ ascii '\n') (hd : d ≠ ascii '\n') :
    takeLine k (f.set i d) = ((takeLine k f).1.set i d, (takeLine k f).2) := by
  induction k, f using takeLine.induct generalizing i with
  | case1 f => simp [takeLine] at hi
  | case2 k => simp [takeLine] at hi
  | case3 k f =>
    -- a line feed stands alone
    cases i with
    | zero =>
      simp [takeLine] at hi
      exact absurd hi.symm hc
    | succ i => simp [takeLine] at hi
  | case4 k b f hb ih =>
    cases i with
    | zero => simp [takeLine, hb, hd]
    | succ i =>
      have hrest := @ih i (by simpa [takeLine, hb] using hi)
      simp [takeLine, hb, hrest]

/-- More calls than there are bytes deliver nothing more. -/
theorem piecesFuel_eq {n : Nat} (hn : 2 ≤ n) {fuel : Nat} {f : List Byte}
    (h : f.length ≤ fuel) : piecesFuel n fuel f = pieces n f := by
  induction fuel using Nat.strong_induction_on generalizing f with
  | _ fuel ih =>
    cases f with
    | nil => cases fuel <;> simp [pieces, piecesFuel, fgets]
    | cons c f =>
      obtain ⟨fuel, rfl⟩ : ∃ k, fuel = k + 1 := ⟨fuel - 1, by simp at h; omega⟩
      have hne := takeLine_ne_nil (k := n - 1) (f := c :: f) (by omega) (by simp)
      -- one call takes a byte at least, so one unit of fuel less is enough
      have hlen : (takeLine (n - 1) (c :: f)).2.length ≤ f.length := by
        have happ := congrArg List.length (takeLine_append (n - 1) (c :: f))
        have hpos := List.length_pos_iff.mpr hne
        simp only [List.length_append, List.length_cons] at happ
        omega
      have hf : f.length ≤ fuel := by simpa using h
      have hrest := ih fuel (by omega) (Nat.le_trans hlen hf)
      have hself := ih f.length (by omega) hlen
      simp only [pieces, List.length_cons, piecesFuel, fgets, if_neg (List.cons_ne_nil c f)]
      rw [hrest, hself]

theorem pieces_nil (n : Nat) : pieces n [] = [] := rfl

theorem pieces_cons {n : Nat} (hn : 2 ≤ n) {f l r : List Byte} (h : fgets n f = some (l, r)) :
    pieces n f = l :: pieces n r := by
  cases f with
  | nil => simp [fgets] at h
  | cons c f =>
    have htake : takeLine (n - 1) (c :: f) = (l, r) := by simpa [fgets] using h
    have hne := takeLine_ne_nil (k := n - 1) (f := c :: f) (by omega) (by simp)
    have happ := congrArg List.length (takeLine_append (n - 1) (c :: f))
    rw [htake] at hne happ
    have hpos : 0 < l.length := List.length_pos_iff.mpr hne
    -- the rest is shorter than the file, whatever fuel is left over does not matter
    have hlen : r.length ≤ f.length := by
      simp only [List.length_append, List.length_cons] at happ
      omega
    rw [← piecesFuel_eq hn hlen]
    simp [pieces, piecesFuel, h]

/-- Every piece leaves room for its NUL. -/
theorem pieces_length_lt {n : Nat} (hn : 2 ≤ n) (f : List Byte) :
    ∀ l ∈ pieces n f, l.length < n := by
  unfold pieces
  generalize f.length = fuel
  induction fuel generalizing f with
  | zero => simp [piecesFuel]
  | succ fuel ih =>
    unfold piecesFuel fgets
    by_cases hf : f = []
    · simp [hf]
    · rw [if_neg hf]
      intro l hl
      rcases List.mem_cons.mp hl with rfl | hl
      · have := takeLine_length_le (n - 1) f
        omega
      · exact ih _ l hl

/-- A line that fits with its line feed is one piece. -/
theorem pieces_line {n : Nat} (hn : 2 ≤ n) {l : List Byte} (hl : ascii '\n' ∉ l)
    (hlen : l.length + 2 ≤ n) (rest : List Byte) :
    pieces n (l ++ ascii '\n' :: rest) = (l ++ [ascii '\n']) :: pieces n rest := by
  have hstep : fgets n (l ++ ascii '\n' :: rest) = some (l ++ [ascii '\n'], rest) := by
    have htake := @takeLine_line (n - 1) l rest hl (by omega)
    simp [fgets, htake]
  exact pieces_cons hn hstep

/-- A piece without a line feed fills the buffer, and the next one goes on behind it. -/
theorem pieces_full {n : Nat} (hn : 2 ≤ n) {l : List Byte} (hl : ascii '\n' ∉ l)
    (hlen : l.length + 1 = n) (rest : List Byte) :
    pieces n (l ++ rest) = l :: pieces n rest := by
  have hne : l ≠ [] := by
    rintro rfl
    simp at hlen
    omega
  have hstep : fgets n (l ++ rest) = some (l, rest) := by
    have htake := @takeLine_full l rest hl
    have hn1 : n - 1 = l.length := by omega
    simp [fgets, hne, hn1, htake]
  exact pieces_cons hn hstep

/-- A last line without a line feed is one piece, when it fits. -/
theorem pieces_last {n : Nat} (hn : 2 ≤ n) {l : List Byte} (hl : ascii '\n' ∉ l)
    (hlen : l.length < n) (hne : l ≠ []) : pieces n l = [l] := by
  have hstep : fgets n l = some (l, []) := by
    simp [fgets, hne, takeLine_last (k := n - 1) hl (by omega)]
  rw [pieces_cons hn hstep, pieces_nil]

/-- Another byte in a piece, neither of them a line feed, changes this piece only. -/
theorem pieces_set {n : Nat} (hn : 2 ≤ n) {f : List Byte} {pre post : List (List Byte)}
    {piece : List Byte} {i : Nat} {c d : Byte} (hf : pieces n f = pre ++ piece :: post)
    (hi : piece[i]? = some c) (hc : c ≠ ascii '\n') (hd : d ≠ ascii '\n') :
    pieces n (f.set (pre.flatten.length + i) d) = pre ++ piece.set i d :: post := by
  induction pre generalizing f with
  | nil =>
    have hne : f ≠ [] := by
      rintro rfl
      simp [pieces_nil] at hf
    rw [pieces_cons hn (if_neg hne)] at hf
    rcases List.cons.inj hf with ⟨hpiece, hpost⟩
    have htake := takeLine_set_front (hpiece ▸ hi) hc hd
    have hset : f.set i d ≠ [] := by simpa using hne
    rw [List.flatten_nil, List.length_nil, Nat.zero_add, pieces_cons hn (if_neg hset), htake,
      hpiece, hpost]
    rfl
  | cons l pre ih =>
    have hne : f ≠ [] := by
      rintro rfl
      simp [pieces_nil] at hf
    rw [pieces_cons hn (if_neg hne)] at hf
    rcases List.cons.inj hf with ⟨hl, hrest⟩
    have hset : f.set (l.length + (pre.flatten.length + i)) d ≠ [] := by simpa using hne
    have htake := takeLine_set_behind (n - 1) f d
      (i := l.length + (pre.flatten.length + i)) (by rw [hl]; omega)
    rw [List.flatten_cons, List.length_append, Nat.add_assoc, pieces_cons hn (if_neg hset), htake,
      hl, Nat.add_sub_cancel_left, ih hrest]
    rfl

/-! ## The line buffer -/

/-- A `char line[n]` that always ends in NUL. -/
structure LineBuf (n : Nat) where
  chars : List Byte
  length_eq : chars.length = n
  last_nul : chars.getLast? = some 0

namespace LineBuf

variable {n : Nat}

/-- A `static` buffer before its first use: all zero. -/
def zero (n : Nat) : LineBuf (n + 1) where
  chars := List.replicate (n + 1) 0
  length_eq := by simp
  last_nul := by simp [List.getLast?_replicate]

/-- Store a string and its NUL at the front, as `fgets` does; a string without room for
the NUL is never delivered. -/
def fill (b : LineBuf n) (l : List Byte) : LineBuf n :=
  if h : l.length < n then
    { chars := l ++ 0 :: b.chars.drop (l.length + 1)
      length_eq := by
        have := b.length_eq
        simp
        omega
      last_nul := by
        have hlen := b.length_eq
        have hnul := b.last_nul
        -- the byte behind the string: the new NUL, or the last byte of the buffer
        rcases hd : b.chars.drop (l.length + 1) with _ | ⟨c, t⟩
        · simp
        · have hlast : (b.chars.drop (l.length + 1)).getLast? = some 0 := by
            rw [List.getLast?_drop, if_neg, hnul]
            intro hle
            rw [List.drop_eq_nil_of_le hle] at hd
            simp at hd
          rw [hd] at hlast
          simp [List.getLast?_cons_cons, hlast] }
  else b

/-- The string that starts at `line[p]`. -/
def cstr (b : LineBuf n) (p : Nat) : List Byte := (b.chars.drop p).takeWhile (· ≠ 0)

theorem fill_chars (b : LineBuf n) {l : List Byte} (h : l.length < n) :
    (b.fill l).chars = l ++ 0 :: b.chars.drop (l.length + 1) := by
  rw [fill, dif_pos h]

/-- Inside the string just stored, which ends at the first NUL of what was stored, a string
starts at every position and runs to the end of it. -/
theorem cstr_fill_takeWhile (b : LineBuf n) {l : List Byte} (h : l.length < n) {p : Nat}
    (hp : p ≤ (l.takeWhile (· ≠ 0)).length) :
    (b.fill l).cstr p = (l.takeWhile (· ≠ 0)).drop p := by
  have hne : ∀ c ∈ (l.takeWhile (· ≠ 0)).drop p, (decide (c ≠ 0)) = true :=
    fun c hc => List.mem_takeWhile_imp (p := fun c => decide (c ≠ 0)) (List.mem_of_mem_drop hc)
  have hsplit : l = l.takeWhile (· ≠ 0) ++ l.dropWhile (· ≠ 0) :=
    List.takeWhile_append_dropWhile.symm
  -- behind the string stands a NUL of `l`, or the one that `fgets` adds
  have htail : ∀ rest, (l.dropWhile (· ≠ 0) ++ 0 :: rest).takeWhile (· ≠ 0) = [] := by
    intro rest
    generalize hd : l.dropWhile (· ≠ 0) = d
    rcases d with _ | ⟨c, t⟩
    · simp
    · have hc : c = 0 := by
        have := List.head?_dropWhile_not (p := (· ≠ 0)) (l := l)
        rw [hd] at this
        simpa using this
      simp [hc]
  have hchars : (b.fill l).chars = l.takeWhile (· ≠ 0) ++
      (l.dropWhile (· ≠ 0) ++ 0 :: b.chars.drop (l.length + 1)) := by
    rw [fill_chars b h, ← List.append_assoc, ← hsplit]
  rw [cstr, hchars, List.drop_append_of_le_length hp, List.takeWhile_append_of_pos hne, htail,
    List.append_nil]

/-- A string without NUL is stored whole. -/
theorem cstr_fill (b : LineBuf n) {l : List Byte} (h : l.length < n) (hl : (0 : Byte) ∉ l)
    {p : Nat} (hp : p ≤ l.length) : (b.fill l).cstr p = l.drop p := by
  have hself : l.takeWhile (· ≠ 0) = l := by
    rw [List.takeWhile_eq_self_iff]
    intro c hc
    have hne : c ≠ 0 := fun e => hl (e ▸ hc)
    simpa using hne
  have hfill := b.cstr_fill_takeWhile h (p := p) (by rw [hself]; exact hp)
  rw [hfill, hself]

end LineBuf

end Stdio
