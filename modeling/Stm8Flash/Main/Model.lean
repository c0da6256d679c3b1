import Stm8Flash.Espstlink.Model
import Stm8Flash.Ihex.Read
import Stm8Flash.Srec.Read
import Stm8Flash.Stlink.Model
import Stm8Flash.Stlinkv2.Model

/-! # `main`

What `main.c` does for `-w` and `-v` once the command line has been parsed and the programmer is
open: memory type, start and number of bytes from the options and the table, the format of the
file from its name, then the WRITE or the VERIFY action. An action returns when the program
prints `OK` and exits with status 0, and stops in every other case.

`malloc` gives memory for every size that is not negative; what fresh memory holds is an
argument. The model follows the program up to its first access outside a buffer, and stops there
(`overrun`).
-/

namespace Stm8Flash

open Hex Stdio Word

/-- `fileformat_t` -/
inductive FileFormat where
  | intelHex
  | motorolaSRecord
  | rawBinary
deriving DecidableEq, Repr

/-- The methods of `programmer_t` for one device. -/
structure Programmer (σ ε : Type) where
  readRange : (Nat → Byte) → Nat → Nat → Drv σ ε (Int × (Nat → Byte))
  writeRange : (Nat → Byte) → Nat → Nat → Memtype → Drv σ ε Int
  /-- `write_range` with a length that is negative as `int`, for a buffer of so many bytes, up to
  its first access outside a buffer -/
  writeNegative : (Nat → Byte) → Nat → Nat → Memtype → Drv σ ε Unit
  reset : Drv σ ε Unit
  close : Drv σ ε Unit

/-! ## `pgms` -/

/-- `stlink` -/
def pgmStlink (d : Stm8Device) (env : StlinkEnv) : Programmer StlinkState StlinkError where
  readRange := stlinkSwimReadRange d env
  writeRange := stlinkSwimWriteRange d env
  writeNegative _ _ _ := stlinkWriteNegative d env
  reset := stlinkSwimSrst d env
  close := pure ()

/-- `stlinkv2` -/
def pgmStlinkv2 (d : Stm8Device) (env : Stlinkv2Env) :
    Programmer Stlinkv2State Stlinkv2Error where
  readRange := stlink2SwimReadRange d env
  writeRange := stlink2SwimWriteRange d env
  writeNegative := stlink2WriteNegative d env
  reset := stlink2Srst d env
  close := stlink2Close d env

/-- `stlinkv21` and `stlinkv3`, which are closed with the empty `stlink_close`. -/
def pgmStlinkv21 (d : Stm8Device) (env : Stlinkv2Env) :
    Programmer Stlinkv2State Stlinkv2Error where
  readRange := stlink2SwimReadRange d env
  writeRange := stlink2SwimWriteRange d env
  writeNegative := stlink2WriteNegative d env
  reset := stlink2Srst d env
  close := pure ()

/-- `espstlink`; closing the serial line sends no command. -/
def pgmEspstlink (d : Stm8Device) (env : EspstlinkEnv) :
    Programmer EspstlinkState EspstlinkError where
  readRange := espstlinkSwimReadRange d env
  writeRange := espstlinkSwimWriteRange d env
  writeNegative := (espSwim d env).writeNegative d
  reset := espstlinkSrst d env
  close := pure ()

/-! ## The options -/

/-- The options of a run with `-w` or `-v`. -/
structure MainOptions where
  part : Stm8Device
  /-- `FLASH` without `-s`, `UNKNOWN` when the last `-s` gave an address -/
  memtype : Memtype
  /-- the last address given with `-s` -/
  startAddr : Option Nat
  /-- `-b`, as `atoi` reads it -/
  bytesCount : Option Int
  filename : List Byte
  part_mem : part ∈ stm8Devices
  start_some : memtype = .unknown → startAddr.isSome
  start_lt : ∀ a ∈ startAddr, a < 4294967296
  count_int : ∀ b ∈ bytesCount, -2147483648 ≤ b ∧ b < 2147483648

/-- The memory type by address. -/
def memtypeAt (d : Stm8Device) (start : Nat) : Memtype :=
  if start ≥ d.ramStart ∧ start < d.ramStart + d.ramSize then .ram
  else if start ≥ d.flashStart ∧ start < d.flashStart + d.flashSize then .flash
  else if start ≥ d.eepromStart ∧ start < d.eepromStart + d.eepromSize then .eeprom
  else if start ≥ 0x4800 ∧ start < 0x4880 then .opt
  else .unknown

/-- Start and size of the area of a memory type. -/
def memtypeArea (d : Stm8Device) : Memtype → Option (Nat × Nat)
  | .ram => some (d.ramStart, d.ramSize)
  | .eeprom => some (d.eepromStart, d.eepromSize)
  | .flash => some (d.flashStart, d.flashSize)
  | .opt => some (0x4800, if d.flashSize ≤ 8 * 1024 then 0x40 else 0x80)
  | .unknown => none

/-- `if(!bytes_count_specified || bytes_count > size) bytes_count = size`, a comparison of
unsigned numbers. -/
def clampCount (bytesCount : Option Int) (size : Nat) : Int :=
  match bytesCount with
  | none => size
  | some b => if ofInt32 b > size then size else b

namespace MainOptions

variable (o : MainOptions)

/-- `memtype` -/
def kind : Memtype :=
  if o.memtype = .unknown then memtypeAt o.part (o.startAddr.getD 0) else o.memtype

/-- `start` -/
def start : Nat :=
  match memtypeArea o.part o.kind with
  | some (areaStart, _) => o.startAddr.getD areaStart
  | none => o.startAddr.getD 0

/-- `bytes_count` -/
def count : Int :=
  match memtypeArea o.part o.kind with
  | some (_, size) => clampCount o.bytesCount size
  | none => o.bytesCount.getD 0

end MainOptions

/-- `strrchr(s, c)` -/
def strrchr (c : Byte) : List Byte → Option (List Byte)
  | [] => none
  | b :: s =>
    match strrchr c s with
    | some r => some r
    | none => if b = c then some (b :: s) else none

/-- `is_ext` -/
def isExt (filename ext : List Byte) : Bool := strrchr (ascii '.') filename == some ext

/-- `fileformat` -/
def fileFormat (filename : List Byte) : FileFormat :=
  if isExt filename (text ".ihx") || isExt filename (text ".hex") ||
      isExt filename (text ".i86") then .intelHex
  else if isExt filename (text ".s19") || isExt filename (text ".s8") ||
      isExt filename (text ".srec") then .motorolaSRecord
  else .rawBinary

/-! ## Reading the file -/

/-- The ways a file ends the program. -/
inductive FileError where
  /-- a message of `ihex_read` -/
  | ihex (e : IhexError)
  /-- No message: `ihex_read` returns a negative number. -/
  | ihexNegative
  /-- a message of `srec_read` -/
  | srec (e : SrecError)
deriving DecidableEq, Repr

/-- `bytes_to_write` and `bytes_to_verify` of a raw file of `size` bytes. -/
def rawLength (o : MainOptions) (size : Nat) : Int :=
  if o.bytesCount.isSome then o.count
  else if o.count < toInt32 size then o.count
  else toInt32 size

/-- `fread(buf, 1, n, f)`: a negative `n` becomes a `size_t` without an end. -/
def rawStores (n : Int) (file : List Byte) : List (Nat × Byte) :=
  Image.block 0 (if n < 0 then file else file.take n.toNat)

/-- `/* reading bytes to RAM */`: `bytes_to_write` or `bytes_to_verify`, and the stores into the
buffer. The program has just begun, so the `static` lines of the readers are all zero. -/
def readFile (o : MainOptions) (file : List Byte) : Except FileError (Int × List (Nat × Byte)) :=
  match fileFormat o.filename with
  | .intelHex =>
    match ihexRead (LineBuf.zero 522) file o.start (ofInt32 (o.start + o.count)) with
    | (.ok v, s) => if v < 0 then .error .ihexNegative else .ok (v, s.stores)
    | (.error e, _) => .error (.ihex e)
  | .motorolaSRecord =>
    match srecRead (LineBuf.zero 515) file o.start (ofInt32 (o.start + o.count)) with
    | (.ok v, s) => .ok (v, s.stores)
    | (.error e, _) => .error (.srec e)
  | .rawBinary => .ok (rawLength o file.length, rawStores (rawLength o file.length) file)

/-- The stores, and the first `n` bytes, lie in a buffer of `size` bytes. -/
def InBuffer (size n : Int) (stores : List (Nat × Byte)) : Prop :=
  0 ≤ n ∧ n ≤ size ∧ ∀ p ∈ stores, (p.1 : Int) < size

instance (size n : Int) (stores : List (Nat × Byte)) : Decidable (InBuffer size n stores) :=
  inferInstanceAs (Decidable (_ ∧ _ ∧ _))

/-- The stores lie in a buffer of `size` bytes, and there is a negative number of bytes to write. -/
def NegativeInBuffer (size n : Int) (stores : List (Nat × Byte)) : Prop :=
  n < 0 ∧ ∀ p ∈ stores, (p.1 : Int) < size

instance (size n : Int) (stores : List (Nat × Byte)) : Decidable (NegativeInBuffer size n stores) :=
  inferInstanceAs (Decidable (_ ∧ _))

/-! ## The actions -/

/-- The ways an action ends the program without `OK`, or after it. -/
inductive MainError (ε : Type) where
  /-- `Failed to open file` -/
  | openFile
  /-- `malloc failed` -/
  | malloc
  /-- `Failed to read MCU` -/
  | readMcu
  | file (e : FileError)
  /-- `FAILED` -/
  | failed
  /-- No message: an access outside a buffer. -/
  | overrun
  | programmer (e : ε)
deriving DecidableEq, Repr

/-- The numbers that the WRITE action prints. -/
structure WriteReport where
  /-- `%d bytes at 0x%x...` -/
  bytesToWrite : Int
  /-- `Bytes written: %d` -/
  sent : Int
deriving DecidableEq, Repr

/-- `bytes_count_align` of the WRITE action. -/
def writeAlign (o : MainOptions) : Int := toInt32 (roundedSize o.part (ofInt32 o.count))

/-- `bytes_count_align` of the READ and VERIFY actions. -/
def readAlign (o : MainOptions) : Int :=
  toInt32 (ofInt32 (((o.count - 1).tdiv 256 + 1) * 256))

section Actions

variable {σ ε : Type} (pgm : Programmer σ ε) (o : MainOptions)

/-- `action == WRITE`; `file` is what `fopen` finds under the name. -/
def mainWrite (file : Option (List Byte)) : Drv σ (MainError ε) WriteReport :=
  match file with
  | none => Drv.stop .openFile
  | some content =>
    if writeAlign o < 0 then Drv.stop .malloc
    else match readFile o content with
      | .error e => Drv.stop (.file e)
      | .ok (n, stores) =>
        if InBuffer (writeAlign o) n stores then do
          let sent ← Drv.raise .programmer
            (pgm.writeRange (Image.storeAll (fun _ => 0) stores) o.start n.toNat o.kind)
          Drv.raise .programmer pgm.reset
          Drv.raise .programmer pgm.close
          pure ⟨n, sent⟩
        else if NegativeInBuffer (writeAlign o) n stores then do
          Drv.raise .programmer (pgm.writeNegative (Image.storeAll (fun _ => 0) stores) o.start
            (writeAlign o).toNat o.kind)
          Drv.stop .overrun
        else Drv.stop .overrun

/-- The file side of the VERIFY action, after `buf` has been read from the target; `heap` is
what `buf2` holds at first. -/
def mainCompare (buf heap : Nat → Byte) (content : List Byte) : Drv σ (MainError ε) Int :=
  if o.count < 0 then Drv.stop .malloc
  else match readFile o content with
    | .error e => Drv.stop (.file e)
    | .ok (n, stores) =>
      if InBuffer o.count n stores then
        if Image.slice buf 0 n.toNat = Image.slice (Image.storeAll heap stores) 0 n.toNat then do
          Drv.raise .programmer pgm.close
          pure n
        else Drv.stop .failed
      else Drv.stop .overrun

/-- `action == VERIFY`: `Bytes verified: %d`; `heap` and `heap2` are what `buf` and `buf2` hold
at first. -/
def mainVerify (heap heap2 : Nat → Byte) (file : Option (List Byte)) :
    Drv σ (MainError ε) Int :=
  if readAlign o < 0 then Drv.stop .malloc
  else do
    let (recv, buf) ← Drv.raise .programmer (pgm.readRange heap o.start (readAlign o).toNat)
    if recv < readAlign o then Drv.stop .readMcu
    else match file with
      | none => Drv.stop .openFile
      | some content => mainCompare pgm o buf heap2 content

end Actions

/-! ## The runs that end with `OK` -/

section Runs

variable {σ ε : Type} {pgm : Programmer σ ε} {o : MainOptions}

/-- A WRITE that succeeds has gone through all its steps. -/
theorem mainWrite_ok {file : Option (List Byte)} {s t : σ} {r : WriteReport}
    (h : mainWrite pgm o file s = (.ok r, t)) :
    ∃ content stores u w, file = some content ∧
      readFile o content = .ok (r.bytesToWrite, stores) ∧
      InBuffer (writeAlign o) r.bytesToWrite stores ∧
      pgm.writeRange (Image.storeAll (fun _ => 0) stores) o.start r.bytesToWrite.toNat o.kind s =
        (.ok r.sent, u) ∧
      pgm.reset u = (.ok (), w) ∧ pgm.close w = (.ok (), t) := by
  unfold mainWrite at h
  rcases file with _ | content
  · cases h
  · simp only at h
    split at h
    · cases h
    · rcases hread : readFile o content with e | ⟨n, stores⟩
      · rw [hread] at h
        cases h
      · rw [hread] at h
        simp only at h
        split at h
        · -- write, reset and close have all returned
          rename_i hin
          rcases Drv.bind_eq_ok.mp h with ⟨sent, u, hwrite, h⟩
          rcases Drv.bind_eq_ok.mp h with ⟨_, w, hreset, h⟩
          rcases Drv.bind_eq_ok.mp h with ⟨_, x, hclose, h⟩
          cases h
          exact ⟨content, stores, u, w, rfl, hread, hin, Drv.raise_eq_ok.mp hwrite,
            Drv.raise_eq_ok.mp hreset, Drv.raise_eq_ok.mp hclose⟩
        · split at h
          · -- a negative number of bytes comes to no end
            rcases Drv.bind_eq_ok.mp h with ⟨_, u, -, h⟩
            cases h
          · cases h

/-- A file that fits its buffer is written, when the programmer does not stop. -/
theorem mainWrite_returns {content : List Byte} {n : Int} {stores : List (Nat × Byte)} {s : σ}
    (hread : readFile o content = .ok (n, stores)) (hin : InBuffer (writeAlign o) n stores)
    (hwrite : ∃ sent u, pgm.writeRange (Image.storeAll (fun _ => 0) stores) o.start n.toNat o.kind
      s = (.ok sent, u))
    (hreset : Drv.Returns pgm.reset) (hclose : Drv.Returns pgm.close) :
    ∃ r t, mainWrite pgm o (some content) s = (.ok r, t) := by
  rcases hwrite with ⟨sent, u, hsent⟩
  rcases hreset u with ⟨_, w, hw⟩
  rcases hclose w with ⟨_, t, ht⟩
  have hsize : ¬writeAlign o < 0 := by
    have hn := hin.1
    have hle := hin.2.1
    omega
  refine ⟨⟨n, sent⟩, t, ?_⟩
  unfold mainWrite
  simp only
  rw [if_neg hsize, hread]
  simp only
  rw [if_pos hin, Drv.bind_ok (Drv.raise_eq_ok.mpr hsent), Drv.bind_ok (Drv.raise_eq_ok.mpr hw),
    Drv.bind_ok (Drv.raise_eq_ok.mpr ht)]
  rfl

theorem mainCompare_ok {buf heap : Nat → Byte} {content : List Byte} {s t : σ} {n : Int} :
    mainCompare pgm o buf heap content s = (.ok n, t) ↔
      0 ≤ o.count ∧ ∃ stores, readFile o content = .ok (n, stores) ∧ InBuffer o.count n stores ∧
        (∀ k < n.toNat, buf k = Image.storeAll heap stores k) ∧ pgm.close s = (.ok (), t) := by
  unfold mainCompare
  by_cases hcount : o.count < 0
  · rw [if_pos hcount]
    constructor
    · intro h
      cases h
    · rintro ⟨hno, -⟩
      omega
  · rw [if_neg hcount]
    rcases hread : readFile o content with e | ⟨m, stores⟩
    · constructor
      · intro h
        cases h
      · rintro ⟨-, stores, hno, -⟩
        cases hno
    · simp only
      constructor
      · intro h
        split at h
        · rename_i hin
          split at h
          · rename_i hsame
            rcases Drv.bind_eq_ok.mp h with ⟨_, u, hclose, h⟩
            cases h
            have hbytes := (Image.slice_eq_iff _ _ _ _ _).mp hsame
            simp only [Nat.zero_add] at hbytes
            exact ⟨by omega, stores, rfl, hin, hbytes, Drv.raise_eq_ok.mp hclose⟩
          · cases h
        · cases h
      · rintro ⟨-, stores', hread', hin, hbytes, hclose⟩
        cases hread'
        have hsame : Image.slice buf 0 n.toNat =
            Image.slice (Image.storeAll heap stores) 0 n.toNat := by
          apply (Image.slice_eq_iff _ _ _ _ _).mpr
          simpa using hbytes
        rw [if_pos hin, if_pos hsame, Drv.bind_ok (Drv.raise_eq_ok.mpr hclose)]
        rfl

theorem mainVerify_ok {heap heap2 : Nat → Byte} {content : List Byte} {s t : σ} {n : Int} :
    mainVerify pgm o heap heap2 (some content) s = (.ok n, t) ↔
      0 ≤ readAlign o ∧ ∃ recv buf u,
        pgm.readRange heap o.start (readAlign o).toNat s = (.ok (recv, buf), u) ∧
        readAlign o ≤ recv ∧ mainCompare pgm o buf heap2 content u = (.ok n, t) := by
  unfold mainVerify
  by_cases halign : readAlign o < 0
  · rw [if_pos halign]
    constructor
    · intro h
      cases h
    · rintro ⟨hno, -⟩
      omega
  · rw [if_neg halign]
    constructor
    · intro h
      rcases Drv.bind_eq_ok.mp h with ⟨⟨recv, buf⟩, u, hread, h⟩
      simp only at h
      split at h
      · cases h
      · exact ⟨by omega, recv, buf, u, Drv.raise_eq_ok.mp hread, by omega, h⟩
    · rintro ⟨-, recv, buf, u, hread, hrecv, hcompare⟩
      rw [Drv.bind_ok (Drv.raise_eq_ok.mpr hread)]
      simp only
      rw [if_neg (by omega)]
      exact hcompare

end Runs

/-- The options `-b 2 -w f.bin` or `-b 2 -v f.bin`. -/
def sampleOptions : MainOptions where
  part := stm8Devices[0]
  memtype := .flash
  startAddr := none
  bytesCount := some 2
  filename := text "f.bin"
  part_mem := List.getElem_mem _
  start_some := fun h => nomatch h
  start_lt := by simp
  count_int := by simp

end Stm8Flash
