import Stm8Flash.Lib.Drv
import Stm8Flash.Lib.Image
import Stm8Flash.Lib.Stdio
import Stm8Flash.Lib.Word

/-! # `srec_read`

The S-record reader of `srec.c`, in the manner of `ihexRead`: the state is what the C
function keeps from line to line and the list of its stores into `buf`. The data loop
runs over columns of `line` that the record length alone fixes, so it can run behind
the NUL of the current string, into what an earlier line left there, and out of `line`.
-/

namespace Stm8Flash

open Hex Stdio Word

/-- The ways a run of `srec_read` ends the program. -/
inductive SrecError where
  /-- `Error while parsing SREC at line %d` -/
  | parse (lineNo : Nat)
  /-- `Error while parsing S5 Record at line %d` -/
  | parseS5 (lineNo : Nat)
  /-- `Error while parsing SREC at line %d byte %d` -/
  | parseByte (lineNo i : Nat)
  /-- `Address %08x is out of range at line %d` -/
  | belowStart (chunkAddr lineNo : Nat)
  /-- `Address %08x + %d is out of range at line %d` -/
  | aboveEnd (chunkAddr dataLen lineNo : Nat)
  /-- `Error while reading checksum at line %d byte %d` -/
  | readChecksum (lineNo i : Nat)
  /-- `Invalid checksum at line %d` -/
  | invalidChecksum (lineNo : Nat)
  /-- `Error while comparing S5 record (number of data records: %d) with the number
  actually read: %d` -/
  | countS5 (expected number : Nat)
  /-- No message: `line[i]` is read and lies outside `line`. -/
  | outsideLine (i : Nat)
deriving DecidableEq, Repr

/-- The program refuses the file with a message. -/
def SrecError.IsMessage : SrecError → Prop
  | .outsideLine _ => False
  | _ => True

/-- The variables of `srec_read` that live longer than one line, and the checksum. -/
structure SrecState where
  line : LineBuf 516
  lineNo : Nat
  greatestAddr : Nat
  numberOfRecords : Nat
  foundS5Rec : Bool
  expectedDataRecords : Nat
  temp : Byte
  checksum : Nat
  stores : List (Nat × Byte)

namespace SrecState

/-- The state before the first line; `line` is whatever an earlier call left. -/
def init (line : LineBuf 516) : SrecState :=
  { line := line, lineNo := 0, greatestAddr := 0, numberOfRecords := 0, foundS5Rec := false
    expectedDataRecords := 0, temp := ascii ' ', checksum := 0, stores := [] }

/-- `fgets` has stored a piece of the file into `line`. -/
def readLine (s : SrecState) (piece : List Byte) : SrecState :=
  { s with line := s.line.fill piece, lineNo := s.lineNo + 1 }

/-- The string in `line` when `piece` has been read. -/
def str (s : SrecState) (piece : List Byte) : List Byte := (s.readLine piece).line.cstr 0

/-- The contents of `buf`, which held `b` at first. -/
def buf (s : SrecState) (b : Nat → Byte) : Nat → Byte := Image.storeAll b s.stores

/-- `greatest_addr` after a record that ends at `a`. -/
def reach (s : SrecState) (a : Nat) : SrecState :=
  if a > s.greatestAddr then { s with greatestAddr := a } else s

/-- `buf[i] = byte` -/
def store (s : SrecState) (i : Nat) (byte : Byte) : SrecState :=
  { s with stores := s.stores ++ [(i, byte)] }

/-- `checksum = v` -/
def setChecksum (s : SrecState) (v : Nat) : SrecState := { s with checksum := v }

/-- `number_of_records++` -/
def countRecord (s : SrecState) : SrecState :=
  { s with numberOfRecords := u32 (s.numberOfRecords + 1) }

@[simp] theorem setChecksum_line (s : SrecState) (v : Nat) : (s.setChecksum v).line = s.line := rfl
@[simp] theorem setChecksum_stores (s : SrecState) (v : Nat) :
    (s.setChecksum v).stores = s.stores := rfl
@[simp] theorem setChecksum_checksum (s : SrecState) (v : Nat) :
    (s.setChecksum v).checksum = v := rfl
@[simp] theorem countRecord_line (s : SrecState) : s.countRecord.line = s.line := rfl
@[simp] theorem countRecord_stores (s : SrecState) : s.countRecord.stores = s.stores := rfl
@[simp] theorem countRecord_checksum (s : SrecState) : s.countRecord.checksum = s.checksum := rfl

@[simp] theorem reach_line (s : SrecState) (a : Nat) : (s.reach a).line = s.line := by
  unfold reach; split <;> rfl

@[simp] theorem reach_stores (s : SrecState) (a : Nat) : (s.reach a).stores = s.stores := by
  unfold reach; split <;> rfl

@[simp] theorem reach_greatestAddr (s : SrecState) (a : Nat) :
    (s.reach a).greatestAddr = max s.greatestAddr a := by
  unfold reach
  split <;> simp <;> omega

@[simp] theorem store_line (s : SrecState) (i : Nat) (b : Byte) : (s.store i b).line = s.line := rfl
@[simp] theorem store_greatestAddr (s : SrecState) (i : Nat) (b : Byte) :
    (s.store i b).greatestAddr = s.greatestAddr := rfl
@[simp] theorem store_stores (s : SrecState) (i : Nat) (b : Byte) :
    (s.store i b).stores = s.stores ++ [(i, b)] := rfl

end SrecState

/-- `sscanf(line, "S%01x%02x%08x", &chunk_type, &chunk_len, &chunk_addr)`, when it
gives 3. -/
def srecHeader (line : List Byte) : Option (Nat × Nat × Nat) :=
  match line with
  | [] => none
  | c :: s =>
    if c = ascii 'S' then
      (scanX 1 s).bind fun (chunkType, s) =>
      (scanX 2 s).bind fun (chunkLen, s) =>
      (scanX 8 s).bind fun (chunkAddr, _) =>
      some (chunkType, chunkLen, chunkAddr)
    else none

/-- `is_data_type` -/
def isDataType (chunkType : Nat) : Bool := chunkType = 1 || chunkType = 2 || chunkType = 3

/-- The number that `sscanf(&(line[i]), "%02x", &byte)` reads. -/
def srecAt (line : LineBuf 516) (i : Nat) : Option Nat := (scanX 2 (line.cstr i)).map Prod.fst

/-- `sscanf(&(line[i]), "%02x", &byte)`, with the message `e` when it does not give 1,
and `checksum += byte`. -/
def srecByte (e : Nat → Nat → SrecError) (i : Nat) : Drv SrecState SrecError Nat := do
  let s ← Drv.state
  if i ≥ 516 then Drv.stop (.outsideLine i)
  else match srecAt s.line i with
    | none => Drv.stop (e s.lineNo i)
    | some byte => do
      Drv.change fun s => s.setChecksum (u32 (s.checksum + byte))
      pure byte

/-- What the data loop does with the byte read at column `i`. -/
def srecStore (start end_ : Nat) (dataRecord : Bool) (chunkAddr dataLen i byte : Nat) :
    Drv SrecState SrecError Unit := do
  let s ← Drv.state
  -- only data records are processed
  if dataRecord = false then pure ()
  else if chunkAddr < start then Drv.stop (.belowStart chunkAddr s.lineNo)
  else if u32 (chunkAddr + dataLen) > end_ then
    Drv.stop (.aboveEnd chunkAddr dataLen s.lineNo)
  else
    Drv.change fun s =>
      (s.reach (u32 (chunkAddr + dataLen))).store
        (u32 (sub32 chunkAddr start + (i - 8) / 2)) (UInt8.ofNat byte)

/-- The data loop, `n` more rounds from column `i` on. -/
def srecFields (start end_ : Nat) (dataRecord : Bool) (chunkAddr dataLen : Nat) :
    Nat → Nat → Drv SrecState SrecError Unit
  | 0, _ => pure ()
  | n + 1, i => do
    let byte ← srecByte .parseByte i
    srecStore start end_ dataRecord chunkAddr dataLen i byte
    srecFields start end_ dataRecord chunkAddr dataLen n (i + 2)

/-- How often `for(; i < bound; i +=2)` runs its body. -/
def srecRounds (i bound : Nat) : Nat := (bound + 1 - i) / 2

/-- `checksum` before the data: the length and the bytes of the address. -/
def srecSum (chunkLen chunkAddr : Nat) : Nat :=
  u32 (chunkLen + LO chunkAddr + HI chunkAddr + EX chunkAddr + EH chunkAddr)

/-- The end of a record: it is counted, and its checksum is read at column `i`. -/
def srecRecordEnd (dataRecord : Bool) (i : Nat) : Drv SrecState SrecError Unit := do
  Drv.change fun s => if dataRecord then s.countRecord else s
  let _ ← srecByte .readChecksum i
  let s ← Drv.state
  if LO s.checksum ≠ 0xff then Drv.stop (.invalidChecksum s.lineNo) else pure ()

/-- The rest of the line after the header of a record that is read. -/
def srecRecord (start end_ : Nat) (dataRecord : Bool) (chunkType chunkLen chunkAddr dataLen : Nat) :
    Drv SrecState SrecError Unit := do
  Drv.change fun s => s.setChecksum (srecSum chunkLen chunkAddr)
  srecFields start end_ dataRecord chunkAddr dataLen
    (srecRounds (u32 (2 * (chunkType + 3))) (u32 (2 * (chunkType + 3 + dataLen))))
    (u32 (2 * (chunkType + 3)))
  srecRecordEnd dataRecord (u32 (2 * (chunkType + 3 + dataLen)))

/-- One round of the `while(fgets(...))` loop. -/
def srecLine (start end_ : Nat) (piece : List Byte) : Drv SrecState SrecError Unit := do
  Drv.change fun s => s.readLine piece
  let s ← Drv.state
  match srecHeader (s.line.cstr 0) with
  | none => do
    -- sscanf(line, "%c", &temp) leaves temp alone when the string is empty
    Drv.change fun s => { s with temp := (s.line.cstr 0).head?.getD s.temp }
    let s ← Drv.state
    if s.temp ≠ ascii 'S' then pure () else Drv.stop (.parse s.lineNo)
  | some (chunkType, chunkLen, chunkAddr) =>
    if chunkType = 0 ∨ chunkType = 4 then pure ()
    else if chunkType = 5 then do
      Drv.change fun s => { s with foundS5Rec := true }
      if chunkLen ≠ 3 then Drv.stop (.parseS5 s.lineNo)
      else do
        Drv.change fun s => { s with expectedDataRecords := chunkAddr >>> 8 }
        srecRecord start end_ false 1 chunkLen (chunkAddr >>> 8) 0
    else if isDataType chunkType then
      srecRecord start end_ true chunkType chunkLen (chunkAddr >>> (8 * (3 - chunkType)))
        (sub32 (sub32 chunkLen chunkType) 2)
    else pure ()

/-- All lines, from the state before the first one. -/
def srecLines (start end_ : Nat) (ls : List (List Byte)) : Drv SrecState SrecError Unit :=
  Drv.forEach (srecLine start end_) ls

/-- `srec_read(pFile, buf, start, end)`: the value returned, or the way the program ends,
and the state then. -/
def srecRead (line : LineBuf 516) (file : List Byte) (start end_ : Nat) :
    Except SrecError Int × SrecState :=
  (do
    srecLines start end_ (pieces 516 file)
    let s ← Drv.state
    if s.foundS5Rec ∧ s.numberOfRecords ≠ s.expectedDataRecords then
      Drv.stop (.countS5 s.expectedDataRecords s.numberOfRecords)
    else pure (toInt32 (sub32 s.greatestAddr start)) : Drv SrecState SrecError Int)
    (SrecState.init line)

/-! ## Runs over lines -/

theorem srecLines_cons (start end_ : Nat) (l : List Byte) (ls : List (List Byte)) (s : SrecState) :
    srecLines start end_ (l :: ls) s =
      (srecLine start end_ l >>= fun _ => srecLines start end_ ls) s := rfl

theorem srecLines_append (start end_ : Nat) (pre post : List (List Byte)) (s : SrecState) :
    srecLines start end_ (pre ++ post) s =
      (srecLines start end_ pre >>= fun _ => srecLines start end_ post) s :=
  Drv.forEach_append _ _ _ _

/-- A file that is accepted has all its lines accepted. -/
theorem srecLines_of_ok {line : LineBuf 516} {file : List Byte} {start end_ : Nat} {v : Int}
    {s : SrecState} (h : srecRead line file start end_ = (.ok v, s)) :
    srecLines start end_ (pieces 516 file) (SrecState.init line) = (.ok (), s) := by
  unfold srecRead at h
  rcases Drv.bind_eq_ok.mp h with ⟨_, t, hlines, hrest⟩
  rw [Drv.state_bind_run] at hrest
  split at hrest
  · cases hrest
  · cases hrest
    exact hlines

theorem srecRead_of_error {line : LineBuf 516} {file : List Byte} {start end_ : Nat}
    {s : SrecState} {e : SrecError}
    (h : srecLines start end_ (pieces 516 file) (SrecState.init line) = (.error e, s)) :
    srecRead line file start end_ = (.error e, s) := by
  unfold srecRead
  rw [Drv.bind_error h]

/-- What the reader stores it stores while it reads lines. -/
theorem srecRead_state (line : LineBuf 516) (file : List Byte) (start end_ : Nat) :
    (srecRead line file start end_).2 =
      (srecLines start end_ (pieces 516 file) (SrecState.init line)).2 := by
  rcases h : srecLines start end_ (pieces 516 file) (SrecState.init line) with ⟨_ | _, s⟩
  · rw [srecRead_of_error h]
  · unfold srecRead
    rw [Drv.bind_ok h, Drv.state_bind_run]
    split <;> rfl

/-- A line that ends the run ends it for the whole file. -/
theorem srecLines_error {start end_ : Nat} {pre post : List (List Byte)} {l : List Byte}
    {s t u : SrecState} {e : SrecError} (hpre : srecLines start end_ pre s = (.ok (), t))
    (hl : srecLine start end_ l t = (.error e, u)) :
    srecLines start end_ (pre ++ l :: post) s = (.error e, u) := by
  rw [srecLines_append, Drv.bind_ok hpre, srecLines_cons, Drv.bind_error hl]

end Stm8Flash
