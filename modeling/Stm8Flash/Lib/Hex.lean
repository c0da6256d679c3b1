import Mathlib.Data.List.Induction
import Mathlib.Data.List.TakeWhile
import Mathlib.Tactic.Ring
import Mathlib.Tactic.SplitIfs

/-! # Hexadecimal text as C reads and writes it

Bytes are `UInt8`; a text is a list of bytes. This file has the digits
(`hexVal`, `digit`), the fixed-width fields of a record format (`Field`), the
`%0wX` conversion of `printf` (`printX`) and the `%wx` conversion of `scanf`
(`scanX`), which is more liberal than a fixed-width field: it skips white space,
takes a sign and a `0x` prefix, and stops at the first character that is not a
digit. `scanX_field` says that on a fixed-width field it reads exactly the field.
-/

namespace Hex

/-- A byte of a file or of a text. -/
abbrev Byte : Type := UInt8

/-- The ASCII code of a character. -/
def ascii (c : Char) : Byte := c.toUInt8

/-- The bytes of an ASCII text. -/
def text (s : String) : List Byte := s.toList.map ascii

/-! ## Digits -/

/-- The value of a hex digit of either case. -/
def hexVal (b : Byte) : Option Nat :=
  if 48 ≤ b.toNat ∧ b.toNat ≤ 57 then some (b.toNat - 48)
  else if 65 ≤ b.toNat ∧ b.toNat ≤ 70 then some (b.toNat - 55)
  else if 97 ≤ b.toNat ∧ b.toNat ≤ 102 then some (b.toNat - 87)
  else none

/-- `isxdigit`. -/
def isXDigit (b : Byte) : Bool := (hexVal b).isSome

/-- `isspace` in the C locale. -/
def isSpace (b : Byte) : Bool := b.toNat = 32 || (9 ≤ b.toNat && b.toNat ≤ 13)

/-- The upper-case digit for a value below sixteen. -/
def digit (n : Nat) : Byte := if n < 10 then UInt8.ofNat (48 + n) else UInt8.ofNat (55 + n)

theorem digit_toNat {n : Nat} (h : n < 16) :
    (digit n).toNat = if n < 10 then 48 + n else 55 + n := by
  unfold digit
  split <;> simp <;> omega

theorem hexVal_digit {n : Nat} (h : n < 16) : hexVal (digit n) = some n := by
  unfold hexVal
  rw [digit_toNat h]
  by_cases h10 : n < 10
  · simp only [h10, if_true]
    rw [if_pos (by omega)]
    simp
  · simp only [h10, if_false]
    rw [if_neg (by omega), if_pos (by omega)]
    simp

theorem hexVal_lt {b : Byte} {v : Nat} (h : hexVal b = some v) : v < 16 := by
  unfold hexVal at h
  split_ifs at h <;> simp at h <;> omega

/-- A digit is neither white space, nor a sign, nor the letter of the `0x` prefix,
nor a line end or a NUL. -/
theorem isXDigit_range {b : Byte} (h : isXDigit b = true) :
    48 ≤ b.toNat ∧ b.toNat ≤ 102 ∧ b.toNat ≠ 88 ∧ b.toNat ≠ 58 ∧ b.toNat ≠ 83 := by
  unfold isXDigit hexVal at h
  split_ifs at h <;> simp at h <;> omega

theorem isXDigit_not_space {b : Byte} (h : isXDigit b = true) : isSpace b = false := by
  have := isXDigit_range h
  simp [isSpace]
  omega

/-- The number that a string of digits stands for, most significant digit first. -/
def value (ds : List Byte) : Nat := ds.foldl (fun acc b => 16 * acc + (hexVal b).getD 0) 0

theorem value_append_singleton (ds : List Byte) (b : Byte) :
    value (ds ++ [b]) = 16 * value ds + (hexVal b).getD 0 := by
  simp [value]

theorem value_lt (ds : List Byte) : value ds < 16 ^ ds.length := by
  induction ds using List.reverseRecOn with
  | nil => decide
  | append_singleton ds b ih =>
    have hb : (hexVal b).getD 0 < 16 := by
      rcases h : hexVal b with _ | v
      · simp
      · simpa using hexVal_lt h
    rw [value_append_singleton, List.length_append, List.length_singleton, Nat.pow_succ]
    omega

/-- Splitting a string of digits splits its value. -/
theorem value_append (ds es : List Byte) :
    value (ds ++ es) = value ds * 16 ^ es.length + value es := by
  induction es using List.reverseRecOn with
  | nil => simp [value]
  | append_singleton es b ih =>
    rw [← List.append_assoc, value_append_singleton, value_append_singleton, ih,
      List.length_append, List.length_singleton, Nat.pow_succ]
    ring

/-! ## Fixed-width fields -/

/-- `s` is the number `v` in exactly `w` hex digits of either case. -/
structure Field (w v : Nat) (s : List Byte) : Prop where
  length_eq : s.length = w
  digits : ∀ b ∈ s, isXDigit b = true
  value_eq : value s = v

theorem Field.of_all {w v : Nat} {s : List Byte} (hlen : s.length = w)
    (hall : s.all isXDigit = true) (hval : value s = v) : Field w v s :=
  ⟨hlen, List.all_eq_true.mp hall, hval⟩

/-- Two fields in a row are one field. -/
theorem Field.append {w v w' v' : Nat} {s s' : List Byte} (h : Field w v s)
    (h' : Field w' v' s') : Field (w + w') (v * 16 ^ w' + v') (s ++ s') where
  length_eq := by rw [List.length_append, h.length_eq, h'.length_eq]
  digits b hb := by
    rcases List.mem_append.mp hb with hb | hb
    · exact h.digits b hb
    · exact h'.digits b hb
  value_eq := by rw [value_append, h.value_eq, h'.value_eq, h'.length_eq]

/-- The last `w` digits of `n`, in upper case. -/
def fixed : Nat → Nat → List Byte
  | 0, _ => []
  | w + 1, n => fixed w (n / 16) ++ [digit (n % 16)]

theorem field_fixed {w n : Nat} (h : n < 16 ^ w) : Field w n (fixed w n) := by
  induction w generalizing n with
  | zero =>
    have hn : n = 0 := by simpa using h
    subst hn
    exact ⟨rfl, by simp [fixed], rfl⟩
  | succ w ih =>
    have hw : n / 16 < 16 ^ w := by
      rw [Nat.pow_succ] at h
      omega
    have hmod : n % 16 < 16 := Nat.mod_lt _ (by decide)
    rcases ih hw with ⟨hlen, hdig, hval⟩
    constructor
    · simp [fixed, hlen]
    · intro b hb
      rcases List.mem_append.mp hb with hb | hb
      · exact hdig b hb
      · rw [List.mem_singleton.mp hb, isXDigit, hexVal_digit hmod]
        rfl
    · -- `16 * (n / 16) + n % 16 = n`
      rw [fixed, value_append_singleton, hval, hexVal_digit hmod, Option.getD_some]
      omega

/-- A field of two digits is two characters. -/
theorem Field.two {v : Nat} {s : List Byte} (h : Field 2 v s) : ∃ a b, s = [a, b] := by
  have hlen := h.length_eq
  match s, hlen with
  | [a, b], _ => exact ⟨a, b, rfl⟩

/-- `s` is the bytes `bs`, two digits for each. -/
inductive Bytes : List Byte → List Byte → Prop
  | nil : Bytes [] []
  | cons {b : Byte} {bs f s : List Byte} (hf : Field 2 b.toNat f) (hs : Bytes bs s) :
      Bytes (b :: bs) (f ++ s)

theorem Bytes.length_eq {bs s : List Byte} (h : Bytes bs s) : s.length = 2 * bs.length := by
  induction h with
  | nil => rfl
  | cons hf _ ih =>
    rw [List.length_append, hf.length_eq, ih, List.length_cons]
    omega

theorem Bytes.digits {bs s : List Byte} (h : Bytes bs s) : ∀ b ∈ s, isXDigit b = true := by
  induction h with
  | nil => simp
  | cons hf _ ih =>
    intro b hb
    rcases List.mem_append.mp hb with hb | hb
    · exact hf.digits b hb
    · exact ih b hb

/-- The sum of the bytes. -/
def byteSum (bs : List Byte) : Nat := (bs.map UInt8.toNat).sum

@[simp] theorem byteSum_nil : byteSum [] = 0 := rfl

@[simp] theorem byteSum_cons (b : Byte) (bs : List Byte) :
    byteSum (b :: bs) = b.toNat + byteSum bs := by
  simp [byteSum]

/-- The sum of the bytes that a string of digits gives, two digits for each. -/
def pairSum : List Byte → Nat
  | a :: b :: ds => value [a, b] + pairSum ds
  | _ => 0

theorem pairSum_append {ds : List Byte} {n : Nat} (h : ds.length = 2 * n) (es : List Byte) :
    pairSum (ds ++ es) = pairSum ds + pairSum es := by
  induction n generalizing ds with
  | zero =>
    obtain rfl : ds = [] := List.eq_nil_of_length_eq_zero (by omega)
    simp [pairSum]
  | succ n ih =>
    match ds, h with
    | a :: b :: ds, h =>
      rw [List.cons_append, List.cons_append, pairSum, pairSum, ih (by simp at h; omega),
        Nat.add_assoc]

theorem Bytes.pairSum_eq {bs s : List Byte} (h : Bytes bs s) : pairSum s = byteSum bs := by
  induction h with
  | nil => rfl
  | @cons b bs f s hf hs ih =>
    rcases hf.two with ⟨x, y, rfl⟩
    rw [byteSum_cons, ← ih, ← hf.value_eq]
    rfl

theorem Field.pairSum_eq {v : Nat} {s : List Byte} (h : Field 2 v s) : pairSum s = v := by
  rcases h.two with ⟨x, y, rfl⟩
  rw [← h.value_eq]
  rfl

theorem value_two (a b : Byte) : value [a, b] = 16 * (hexVal a).getD 0 + (hexVal b).getD 0 := by
  simp [value]

theorem digit_lt {b : Byte} : (hexVal b).getD 0 < 16 := by
  rcases h : hexVal b with _ | v
  · decide
  · exact hexVal_lt h

/-- One digit of another value changes the sum by less than 256, and not by 0. -/
theorem pairSum_set {ds : List Byte} {n j : Nat} (hlen : ds.length = 2 * n) {c d : Byte}
    (hc : ds[j]? = some c) (hne : (hexVal d).getD 0 ≠ (hexVal c).getD 0) :
    pairSum (ds.set j d) % 256 ≠ pairSum ds % 256 := by
  induction n generalizing ds j with
  | zero =>
    obtain rfl : ds = [] := List.eq_nil_of_length_eq_zero (by omega)
    cases hc
  | succ n ih =>
    match ds, hlen, hc with
    | a :: b :: ds, hlen, hc =>
      have hlt := @digit_lt
      match j with
      | 0 =>
        -- the high digit of the first pair
        obtain rfl : a = c := by simpa using hc
        have ha := @hlt a
        have hd := @hlt d
        simp only [List.set_cons_zero, pairSum, value_two]
        omega
      | 1 =>
        obtain rfl : b = c := by simpa using hc
        have hb := @hlt b
        have hd := @hlt d
        simp only [List.set_cons_succ, List.set_cons_zero, pairSum, value_two]
        omega
      | j + 2 =>
        have hrest := @ih ds j (by simp at hlen; omega) (by simpa using hc)
        simp only [List.set_cons_succ, pairSum]
        omega

/-- Any digits, two for each, are bytes. -/
theorem exists_bytes {ds : List Byte} {n : Nat} (hlen : ds.length = 2 * n)
    (hds : ∀ b ∈ ds, isXDigit b = true) : ∃ bs, bs.length = n ∧ Bytes bs ds := by
  induction n generalizing ds with
  | zero =>
    obtain rfl : ds = [] := List.eq_nil_of_length_eq_zero (by omega)
    exact ⟨[], rfl, Bytes.nil⟩
  | succ n ih =>
    match ds, hlen, hds with
    | a :: b :: ds, hlen, hds =>
      rcases @ih ds (by simp at hlen; omega) (fun x hx => hds x (by simp [hx])) with ⟨bs, hn, hbs⟩
      have hlt : value [a, b] < 256 := value_lt [a, b]
      have hf : Field 2 (UInt8.ofNat (value [a, b])).toNat [a, b] := by
        refine ⟨rfl, fun x hx => hds x ?_, ?_⟩
        · rcases List.mem_cons.mp hx with rfl | hx
          · simp
          · rw [List.mem_singleton.mp hx]
            simp
        · rw [UInt8.toNat_ofNat']
          omega
      exact ⟨UInt8.ofNat (value [a, b]) :: bs, by simp [hn], Bytes.cons hf hbs⟩

/-- Two bytes in hex are one field of four digits. -/
theorem Bytes.field_pair {a b : Byte} {s : List Byte} (h : Bytes [a, b] s) :
    Field 4 (a.toNat * 256 + b.toNat) s := by
  cases h with
  | cons ha hs =>
    cases hs with
    | cons hb hnil =>
      cases hnil
      simpa using ha.append hb

/-! ## `printf`: the conversion `%0wX` -/

/-- How many digits a number needs, for a number below `16 ^ (k + 1)`. -/
def width : Nat → Nat → Nat
  | 0, _ => 1
  | k + 1, n => if n < 16 then 1 else width k (n / 16) + 1

/-- `printf` of an `unsigned int` with `%0wX`: upper-case digits, padded with zeros
to `w`, and as many as needed when `w` is too small. -/
def printX (w n : Nat) : List Byte := fixed (max w (width 7 n)) n

theorem width_le {k w n : Nat} (hw : 1 ≤ w) (h : n < 16 ^ w) : width k n ≤ w := by
  induction k generalizing w n with
  | zero => simpa [width] using hw
  | succ k ih =>
    unfold width
    split
    · exact hw
    · rename_i h16
      obtain ⟨w, rfl⟩ : ∃ v, w = v + 1 := ⟨w - 1, by omega⟩
      rw [Nat.pow_succ] at h
      -- a number of two digits or more does not fit a single digit
      have hw1 : 1 ≤ w := by
        rcases Nat.eq_zero_or_pos w with rfl | hpos
        · simp at h
          omega
        · exact hpos
      have := ih hw1 (n := n / 16) (by omega)
      omega

theorem printX_eq_fixed {w n : Nat} (hw : 1 ≤ w) (h : n < 16 ^ w) : printX w n = fixed w n := by
  unfold printX
  rw [Nat.max_eq_left (width_le hw h)]

theorem field_printX {w n : Nat} (hw : 1 ≤ w) (h : n < 16 ^ w) : Field w n (printX w n) := by
  rw [printX_eq_fixed hw h]
  exact field_fixed h

/-- The bytes `bs` as `printf` writes them one by one with `%02X`. -/
def printBytes (bs : List Byte) : List Byte := (bs.map fun b => printX 2 b.toNat).flatten

theorem bytes_printBytes (bs : List Byte) : Bytes bs (printBytes bs) := by
  induction bs with
  | nil => exact Bytes.nil
  | cons b bs ih => exact Bytes.cons (field_printX (by decide) b.toNat_lt) ih

/-! ## `scanf`: the conversion `%wx` -/

/-- The digits of a `%wx` conversion, after the sign: an optional `0x` and then at
least one digit, within the field width. A `0x` without a digit behind it is a matching failure,
as ISO C has it; older versions of glibc read 0 there. -/
def scanDigits (w : Nat) (s : List Byte) : Option (Nat × List Byte) :=
  let (w, s) := match s with
    | a :: x :: r =>
      if 2 ≤ w ∧ a = ascii '0' ∧ (x = ascii 'x' ∨ x = ascii 'X') then (w - 2, r) else (w, s)
    | _ => (w, s)
  let ds := (s.take w).takeWhile isXDigit
  if ds = [] then none else some (value ds, s.drop ds.length)

/-- `scanf` of an `unsigned int` with `%wx`: white space is skipped, a sign and a
prefix count for the field width, a negative number wraps around. The result is
the value and the text that is left. -/
def scanX (w : Nat) (s : List Byte) : Option (Nat × List Byte) :=
  match s.dropWhile isSpace with
  | [] => none
  | c :: t =>
    if c = ascii '-' then
      (scanDigits (w - 1) t).map fun p => ((2 ^ 32 - p.1 % 2 ^ 32) % 2 ^ 32, p.2)
    else if c = ascii '+' then scanDigits (w - 1) t
    else scanDigits w (c :: t)

theorem takeWhile_digits {f rest : List Byte} (hf : ∀ b ∈ f, isXDigit b = true) (w : Nat)
    (hw : f.length ≤ w) (hrest : f.length = w ∨ ∀ b ∈ rest.head?, isXDigit b = false) :
    ((f ++ rest).take w).takeWhile isXDigit = f := by
  rw [List.take_append, List.take_of_length_le hw, List.takeWhile_append_of_pos hf]
  -- the scan ends at the field width, or at the first character behind
  rcases hrest with heq | hhead
  · simp [heq]
  · cases rest with
    | nil => simp
    | cons b rest =>
      have hb : isXDigit b = false := hhead b rfl
      cases hk : w - f.length with
      | zero => simp
      | succ k => simp [hb]

/-- On two or more digits there is no `0x` prefix to find. -/
theorem scanDigits_of_digits {w : Nat} {f rest : List Byte} (hf : ∀ b ∈ f, isXDigit b = true)
    (hne : 2 ≤ f.length ∨ (f.length = 1 ∧ w = 1)) (hw : f.length ≤ w)
    (hrest : f.length = w ∨ ∀ b ∈ rest.head?, isXDigit b = false) :
    scanDigits w (f ++ rest) = some (value f, rest) := by
  have hnil : f ≠ [] := by
    rintro rfl
    simp at hne
  -- the second character is a digit, hence no `x`; a width of one has no room
  -- for a prefix at all
  have hskip : (match f ++ rest with
      | a :: x :: r =>
        if 2 ≤ w ∧ a = ascii '0' ∧ (x = ascii 'x' ∨ x = ascii 'X') then (w - 2, r)
        else (w, f ++ rest)
      | _ => (w, f ++ rest)) = (w, f ++ rest) := by
    rcases hne with h2 | ⟨_, rfl⟩
    · obtain ⟨a, x, t, rfl⟩ : ∃ a x t, f = a :: x :: t := by
        match f, h2 with
        | a :: x :: t, _ => exact ⟨a, x, t, rfl⟩
      have hx := isXDigit_range (hf x (by simp))
      have hnx : ¬(x = ascii 'x' ∨ x = ascii 'X') := by
        rintro (rfl | rfl)
        · exact absurd hx.2.1 (by decide)
        · exact hx.2.2.1 (by decide)
      simp [hnx]
    · split <;> simp
  unfold scanDigits
  rw [hskip]
  simp only [takeWhile_digits hf w hw hrest, hnil, if_false, List.drop_left]

/-- `%wx` on a string of at most `w` digits reads the digits. -/
theorem scanX_of_digits {w : Nat} {f rest : List Byte} (hf : ∀ b ∈ f, isXDigit b = true)
    (hne : 2 ≤ f.length ∨ (f.length = 1 ∧ w = 1)) (hw : f.length ≤ w)
    (hrest : f.length = w ∨ ∀ b ∈ rest.head?, isXDigit b = false) :
    scanX w (f ++ rest) = some (value f, rest) := by
  have hscan := scanDigits_of_digits hf hne hw hrest
  obtain ⟨c, t, rfl⟩ : ∃ c t, f = c :: t := by
    cases f with
    | nil => simp at hne
    | cons c t => exact ⟨c, t, rfl⟩
  have hc := hf c (by simp)
  have hr := isXDigit_range hc
  -- no sign and no white space in front of a digit
  have hm : c ≠ ascii '-' := by
    rintro rfl
    exact absurd hr.1 (by decide)
  have hp : c ≠ ascii '+' := by
    rintro rfl
    exact absurd hr.1 (by decide)
  have hdrop : (c :: t ++ rest).dropWhile isSpace = c :: (t ++ rest) := by
    rw [List.cons_append, List.dropWhile_cons, isXDigit_not_space hc]
    simp
  unfold scanX
  rw [hdrop]
  simp only [hm, hp, if_false]
  exact hscan

/-- `%wx` on a fixed-width field of `w` digits reads the field, whatever follows. -/
theorem scanX_field {w v : Nat} {f : List Byte} (hw : 1 ≤ w) (h : Field w v f)
    (rest : List Byte) : scanX w (f ++ rest) = some (v, rest) := by
  have hlen : 2 ≤ f.length ∨ (f.length = 1 ∧ w = 1) := by
    rw [h.length_eq]
    omega
  have hle : f.length ≤ w := Nat.le_of_eq h.length_eq
  rw [scanX_of_digits h.digits hlen hle (Or.inl h.length_eq), h.value_eq]

/-- The hex digits at the front, `w` at most. -/
def leading (w : Nat) (s : List Byte) : List Byte := (s.take w).takeWhile isXDigit

/-- They are a front part that ends at the width, at the end, or before another character. -/
theorem leading_split (w : Nat) (s : List Byte) :
    leading w s ++ s.drop (leading w s).length = s ∧ (leading w s).length ≤ w ∧
      ((leading w s).length = w ∨
        ∀ b ∈ (s.drop (leading w s).length).head?, isXDigit b = false) := by
  unfold leading
  induction s generalizing w with
  | nil => simp
  | cons c s ih =>
    cases w with
    | zero => simp
    | succ w =>
      rcases ih w with ⟨happ, hle, hend⟩
      by_cases hc : isXDigit c = true
      · simp only [List.take_succ_cons, List.takeWhile_cons, hc, if_true, List.length_cons,
          List.drop_succ_cons, List.cons_append]
        refine ⟨by rw [happ], by omega, ?_⟩
        rcases hend with heq | hhead
        · exact Or.inl (by omega)
        · exact Or.inr hhead
      · simp [hc]

theorem leading_digits (w : Nat) (s : List Byte) : ∀ b ∈ leading w s, isXDigit b = true :=
  fun _ hb => List.mem_takeWhile_imp hb

/-- Where two digits at least stand in front, `%wx` reads the digits there. -/
theorem scanX_leading {w : Nat} {s : List Byte} (h : 2 ≤ (leading w s).length) :
    scanX w s = some (value (leading w s), s.drop (leading w s).length) := by
  rcases leading_split w s with ⟨happ, hle, hend⟩
  have hscan := scanX_of_digits (leading_digits w s) (Or.inl h) hle hend
  rw [happ] at hscan
  exact hscan

/-- The digits of `f`, and those at the front of the rest as far as the width goes. -/
theorem leading_append {f : List Byte} (w : Nat) (rest : List Byte)
    (hf : ∀ b ∈ f, isXDigit b = true) :
    leading w (f ++ rest) = f.take w ++ leading (w - f.length) rest := by
  unfold leading
  rw [List.take_append, List.takeWhile_append_of_pos fun b hb => hf b (List.mem_of_mem_take hb)]

theorem leading_of_head {rest : List Byte} (w : Nat)
    (h : ∀ b ∈ rest.head?, isXDigit b = false) : leading w rest = [] := by
  unfold leading
  cases rest with
  | nil => simp
  | cons c rest =>
    have hc : isXDigit c = false := h c rfl
    cases w with
    | zero => rfl
    | succ w => simp [hc]

/-- A NUL is no digit, so what stands behind it does not matter. -/
theorem leading_takeWhile (w : Nat) (s : List Byte) :
    leading w (s.takeWhile (· ≠ 0)) = leading w s := by
  unfold leading
  induction s generalizing w with
  | nil => rfl
  | cons c s ih =>
    cases w with
    | zero => simp
    | succ w =>
      by_cases hc : c = 0
      · have hdigit : isXDigit 0 = false := by decide
        simp [hc, hdigit]
      · simp only [List.takeWhile_cons, hc, List.take_succ_cons, ne_eq, not_false_eq_true,
          decide_true, if_true, ih w]

end Hex
