import Stm8Flash.Lib.Drv
import Stm8Flash.Lib.Image
import Stm8Flash.Lib.Stdio
import Stm8Flash.Lib.Word

/-! # `ihex_read`

The Intel HEX reader of `ihex.c`. The state of the reader is what the C function
keeps from line to line, together with the list of its stores into `buf`, oldest
first: a store outside `buf` then shows as a store, whatever it would hit.

An `unsigned int` is a `Nat` with the wrap of C written out. The text from `line[i]`
on is the C string that starts there.
-/

namespace Stm8Flash

open Hex Stdio Word

/-- The messages `ihex_read` prints before it returns `-1`. -/
inductive IhexError where
  /-- `Error while parsing IHEX at line %d` -/
  | parse (lineNo : Nat)
  /-- `Error while parsing IHEX at line %d byte %d` -/
  | parseByte (lineNo i : Nat)
  /-- `Address %04x is out of range at line %d` -/
  | belowStart (chunkAddr lineNo : Nat)
  /-- `Address %04x + %d is out of range at line %d` -/
  | aboveEnd (chunkAddr chunkLen lineNo : Nat)
deriving DecidableEq, Repr

/-- The variables of `ihex_read` that live longer than one line. -/
structure IhexState where
  line : LineBuf 523
  lineNo : Nat
  greatestAddr : Nat
  offset : Nat
  stores : List (Nat × Byte)

namespace IhexState

/-- The state before the first line; `line` is whatever an earlier call left. -/
def init (line : LineBuf 523) : IhexState :=
  { line := line, lineNo := 0, greatestAddr := 0, offset := 0, stores := [] }

/-- `fgets` has stored a piece of the file into `line`. -/
def readLine (s : IhexState) (piece : List Byte) : IhexState :=
  { s with line := s.line.fill piece, lineNo := s.lineNo + 1 }

/-- The contents of `buf`, which held `b` at first. -/
def buf (s : IhexState) (b : Nat → Byte) : Nat → Byte := Image.storeAll b s.stores

/-- `greatest_addr` after a record that ends at `a`. -/
def reach (s : IhexState) (a : Nat) : IhexState :=
  if a > s.greatestAddr then { s with greatestAddr := a } else s

/-- `buf[i] = byte` -/
def store (s : IhexState) (i : Nat) (byte : Byte) : IhexState :=
  { s with stores := s.stores ++ [(i, byte)] }

@[simp] theorem reach_line (s : IhexState) (a : Nat) : (s.reach a).line = s.line := by
  unfold reach; split <;> rfl

@[simp] theorem reach_lineNo (s : IhexState) (a : Nat) : (s.reach a).lineNo = s.lineNo := by
  unfold reach; split <;> rfl

@[simp] theorem reach_offset (s : IhexState) (a : Nat) : (s.reach a).offset = s.offset := by
  unfold reach; split <;> rfl

@[simp] theorem reach_stores (s : IhexState) (a : Nat) : (s.reach a).stores = s.stores := by
  unfold reach; split <;> rfl

@[simp] theorem reach_greatestAddr (s : IhexState) (a : Nat) :
    (s.reach a).greatestAddr = max s.greatestAddr a := by
  unfold reach
  split <;> simp <;> omega

@[simp] theorem store_line (s : IhexState) (i : Nat) (b : Byte) : (s.store i b).line = s.line := rfl
@[simp] theorem store_lineNo (s : IhexState) (i : Nat) (b : Byte) :
    (s.store i b).lineNo = s.lineNo := rfl
@[simp] theorem store_offset (s : IhexState) (i : Nat) (b : Byte) :
    (s.store i b).offset = s.offset := rfl
@[simp] theorem store_greatestAddr (s : IhexState) (i : Nat) (b : Byte) :
    (s.store i b).greatestAddr = s.greatestAddr := rfl
@[simp] theorem store_stores (s : IhexState) (i : Nat) (b : Byte) :
    (s.store i b).stores = s.stores ++ [(i, b)] := rfl

end IhexState

/-- `sscanf(line, ":%02x%04x%02x", &chunk_len, &chunk_addr, &chunk_type)`, when it
gives 3. -/
def ihexHeader (line : List Byte) : Option (Nat × Nat × Nat) :=
  match line with
  | [] => none
  | c :: s =>
    if c = ascii ':' then
      (scanX 2 s).bind fun (chunkLen, s) =>
      (scanX 4 s).bind fun (chunkAddr, s) =>
      (scanX 2 s).bind fun (chunkType, _) =>
      some (chunkLen, chunkAddr, chunkType)
    else none

/-- The address field of an extended segment (`scale = 16`) or extended linear
(`scale = 65536`) address record. -/
def ihexBase (scale : Nat) : Drv IhexState IhexError Unit := do
  let s ← Drv.state
  match scanX 4 (s.line.cstr 9) with
  | none => Drv.stop (.parse s.lineNo)
  | some (v, _) => Drv.change fun s => { s with offset := u32 (v * scale) }

/-- The data loop from `i = 9 + 2 * k` on; the text is `&line[i]`, and
`i < strlen(line) - 1` says that it has two characters or more. -/
def ihexData (start end_ chunkLen chunkAddr chunkType : Nat) :
    Nat → List Byte → Drv IhexState IhexError Unit
  | k, c₁ :: c₂ :: rest => do
    let s ← Drv.state
    match scanX 2 (c₁ :: c₂ :: rest) with
    | none => Drv.stop (.parseByte s.lineNo (9 + 2 * k))
    | some (byte, _) =>
      -- only data records are processed
      if chunkType ≠ 0 then pure ()
      -- the checksum is not data
      else if k ≥ chunkLen then pure ()
      else if u32 (chunkAddr + s.offset) < start then
        Drv.stop (.belowStart chunkAddr s.lineNo)
      else if u32 (chunkAddr + s.offset + chunkLen) > end_ then
        Drv.stop (.aboveEnd chunkAddr chunkLen s.lineNo)
      else do
        Drv.change fun s =>
          (s.reach (u32 (chunkAddr + s.offset + chunkLen))).store
            (u32 (sub32 (u32 (chunkAddr + s.offset)) start + k)) (UInt8.ofNat byte)
        ihexData start end_ chunkLen chunkAddr chunkType (k + 1) rest
  | _, _ => pure ()

/-- One round of the `while(fgets(...))` loop. The test for a carriage return looks at
`line[strlen(line)]`, the NUL, so it never holds and nothing is stripped. -/
def ihexLine (start end_ : Nat) (piece : List Byte) : Drv IhexState IhexError Unit := do
  Drv.change fun s => s.readLine piece
  let s ← Drv.state
  match ihexHeader (s.line.cstr 0) with
  | none => Drv.stop (.parse s.lineNo)
  | some (chunkLen, chunkAddr, chunkType) => do
    if chunkType = 2 then ihexBase 16 else pure ()
    if chunkType = 4 then ihexBase 65536 else pure ()
    ihexData start end_ chunkLen chunkAddr chunkType 0 ((s.line.cstr 0).drop 9)

/-- All lines, from the state before the first one. -/
def ihexLines (start end_ : Nat) (ls : List (List Byte)) : Drv IhexState IhexError Unit :=
  Drv.forEach (ihexLine start end_) ls

/-- `ihex_read(pFile, buf, start, end)`: the value returned, or the message before
`-1` is returned, and the state at the return. -/
def ihexRead (line : LineBuf 523) (file : List Byte) (start end_ : Nat) :
    Except IhexError Int × IhexState :=
  (do
    ihexLines start end_ (pieces 523 file)
    let s ← Drv.state
    pure (toInt32 (sub32 s.greatestAddr start)) : Drv IhexState IhexError Int)
    (IhexState.init line)

/-! ## The end of the data loop -/

/-- The loop ends when no field is left. -/
theorem ihexData_short {start end_ n a t k : Nat} {rest : List Byte} (h : rest.length < 2)
    (s : IhexState) : ihexData start end_ n a t k rest s = (.ok (), s) := by
  match rest, h with
  | [], _ => rfl
  | [_], _ => rfl

theorem no_field_left {rest : List Byte}
    (h : ∀ (c₁ c₂ : Byte) (l : List Byte), rest = c₁ :: c₂ :: l → False) : rest.length < 2 := by
  rcases rest with _ | ⟨c₁, _ | ⟨c₂, rest⟩⟩
  · decide
  · simp
  · exact absurd rfl (h _ _ _)

/-! ## Runs over lines -/

theorem ihexRead_of_ok {line : LineBuf 523} {file : List Byte} {start end_ : Nat}
    {s : IhexState}
    (h : ihexLines start end_ (pieces 523 file) (IhexState.init line) = (.ok (), s)) :
    ihexRead line file start end_ = (.ok (toInt32 (sub32 s.greatestAddr start)), s) := by
  unfold ihexRead
  rw [Drv.bind_ok h]
  rfl

theorem ihexRead_of_error {line : LineBuf 523} {file : List Byte} {start end_ : Nat}
    {s : IhexState} {e : IhexError}
    (h : ihexLines start end_ (pieces 523 file) (IhexState.init line) = (.error e, s)) :
    ihexRead line file start end_ = (.error e, s) := by
  unfold ihexRead
  rw [Drv.bind_error h]

/-- The state of the reader when it returns is the one after its last line. -/
theorem ihexRead_state (line : LineBuf 523) (file : List Byte) (start end_ : Nat) :
    (ihexRead line file start end_).2 =
      (ihexLines start end_ (pieces 523 file) (IhexState.init line)).2 := by
  rcases h : ihexLines start end_ (pieces 523 file) (IhexState.init line) with ⟨_ | _, s⟩
  · rw [ihexRead_of_error h]
  · rw [ihexRead_of_ok h]

/-- A line that ends the run ends it for the whole file. -/
theorem ihexLines_error {start end_ : Nat} {pre post : List (List Byte)} {l : List Byte}
    {s t u : IhexState} {e : IhexError} (hpre : ihexLines start end_ pre s = (.ok (), t))
    (hl : ihexLine start end_ l t = (.error e, u)) :
    ihexLines start end_ (pre ++ l :: post) s = (.error e, u) := by
  unfold ihexLines at hpre ⊢
  rw [Drv.forEach_append, Drv.bind_ok hpre, Drv.forEach_cons, Drv.bind_error hl]

end Stm8Flash
