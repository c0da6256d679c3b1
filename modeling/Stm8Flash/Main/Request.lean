import Stm8Flash.Main.CommandLine
import Stm8Flash.Main.Verify

/-! # From the command line to the actions

Behind its checks `main` has memory type, start and number of bytes in variables; the actions are
given `MainOptions`, from which these are computed. A `Request` has both and says that they agree;
every command line that gets past the checks makes one (`mainRequest`).
-/

namespace Stm8Flash

open Getopt Hex Word

/-- What the actions of a run are given. -/
structure Request where
  setup : Setup
  options : MainOptions
  part : options.part = setup.part
  kind : options.kind = setup.memtype
  start : options.start = setup.start
  count : options.count = setup.bytesCount
  filename : options.filename = setup.filename

/-- `-b`, as far as the checks have left it -/
def Setup.given (c : Setup) (bytesCountSpecified : Bool) : Option Int :=
  if bytesCountSpecified then some c.bytesCount else none

/-- The number of bytes for an area, or without one. -/
def countIn (given : Option Int) : Option (Nat × Nat) → Int
  | some (_, size) => clampCount given size
  | none => given.getD 0

theorem MainOptions.count_eq (o : MainOptions) :
    o.count = countIn o.bytesCount (memtypeArea o.part o.kind) := by
  unfold count
  rcases memtypeArea o.part o.kind with _ | ⟨areaStart, size⟩
  · rfl
  · rfl

/-- The checks would leave these variables as they are. -/
structure Setup.Fits (c : Setup) (bytesCountSpecified : Bool) : Prop where
  part_mem : c.part ∈ stm8Devices
  start_lt : c.start < 4294967296
  count_int : -2147483648 ≤ c.bytesCount ∧ c.bytesCount < 2147483648
  kind : c.memtype = .unknown → memtypeAt c.part c.start = .unknown
  count : countIn (c.given bytesCountSpecified) (memtypeArea c.part c.memtype) = c.bytesCount

/-- The request with the memory type and the start that the checks have left. -/
def Setup.request (c : Setup) (bytesCountSpecified : Bool) (h : c.Fits bytesCountSpecified) :
    Request :=
  let o : MainOptions :=
    { part := c.part
      memtype := c.memtype
      startAddr := some c.start
      bytesCount := c.given bytesCountSpecified
      filename := c.filename
      part_mem := h.part_mem
      start_some := fun _ => rfl
      start_lt := fun a ha => by
        cases ha
        exact h.start_lt
      count_int := fun b hb => by
        unfold given at hb
        split at hb
        · cases hb
          exact h.count_int
        · cases hb }
  have hkind : o.kind = c.memtype := by
    unfold MainOptions.kind
    split
    · rename_i hunknown
      exact (h.kind hunknown).trans hunknown.symm
    · rfl
  { setup := c
    options := o
    part := rfl
    kind := hkind
    start := by
      unfold MainOptions.start
      cases memtypeArea o.part o.kind <;> rfl
    count := by
      rw [o.count_eq, hkind]
      exact h.count
    filename := rfl }

/-- `bytes_count_specified` -/
def bytesCountSpecified (permute : Bool) (args : List (List Byte)) : Bool :=
  ((scan (ascii '-') takesArg permute none args).1.map mainOptionOf).any fun o => o.setsBytes.isSome

/-! ## Every command line fits -/

theorem MainOptions.start_lt_word (o : MainOptions) : o.start < 4294967296 := by
  have hall : ∀ d ∈ stm8Devices, d.ramStart < 4294967296 ∧ d.eepromStart < 4294967296 ∧
      d.flashStart < 4294967296 := by decide
  rcases hall o.part o.part_mem with ⟨hram, heeprom, hflash⟩
  have hgiven {a : Nat} (ha : a < 4294967296) : o.startAddr.getD a < 4294967296 := by
    rcases hs : o.startAddr with _ | s
    · exact ha
    · exact o.start_lt s hs
  unfold start
  cases o.kind with
  | unknown => exact hgiven (by decide)
  | ram => exact hgiven hram
  | eeprom => exact hgiven heeprom
  | flash => exact hgiven hflash
  | opt => exact hgiven (by decide)

/-- A number of bytes that has been clamped stays as it is. -/
theorem countIn_idem (given : Option Int) (area : Option (Nat × Nat)) :
    countIn (if given.isSome then some (countIn given area) else none) area = countIn given area := by
  rcases area with _ | ⟨areaStart, size⟩
  · cases given <;> rfl
  · rcases given with _ | b
    · rfl
    · simp only [countIn, clampCount, Option.isSome_some, if_true]
      split
      · split <;> rfl
      · rfl

theorem MainOptions.le_count (o : MainOptions) : -2147483648 ≤ o.count := by
  have hint (b : Int) (hb : o.bytesCount = some b) := (o.count_int b hb).1
  rw [o.count_eq]
  unfold countIn clampCount
  rcases hb : o.bytesCount with _ | b
  · split <;> simp
  · have hle := hint b hb
    split
    · simp only
      split <;> omega
    · exact hle

/-- What the options ask for fits. -/
theorem Asks.fits {os : List MainOption} {c : Setup} (h : Asks os c) :
    c.Fits (lastOf MainOption.setsBytes os).isSome := by
  obtain ⟨o, hpart, -, -, hbytes, -, hkind, hstart, hcount⟩ := h.options
  refine ⟨hpart ▸ o.part_mem, hstart ▸ o.start_lt_word, hcount ▸ ⟨o.le_count, o.count_lt⟩, ?_, ?_⟩
  · intro hunknown
    rw [hunknown] at hkind
    have harea : o.start = o.startAddr.getD 0 := by
      unfold MainOptions.start
      rw [hkind]
      rfl
    unfold MainOptions.kind at hkind
    split at hkind
    · rw [← harea, hpart, hstart] at hkind
      exact hkind
    · rename_i hne
      exact absurd hkind hne
  · have hidem := countIn_idem o.bytesCount (memtypeArea o.part o.kind)
    rw [← o.count_eq, hpart, hkind, hcount, hbytes] at hidem
    exact hidem

theorem mainArgs_fits {permute : Bool} {start : Nat} {args : List (List Byte)} {c : Setup}
    (h : mainArgs permute start args = .ok c) : c.Fits (bytesCountSpecified permute args) := by
  obtain ⟨os, hargs⟩ := commandLine_of_mainArgs h
  have hasks := (mainArgs_commandLine hargs permute start c).mp h
  obtain ⟨items, hwritten, rfl⟩ := hargs
  have hscan := ((scan_eq_iff takesArg_dash permute).mpr hwritten).1
  have hspecified : bytesCountSpecified permute args =
      (lastOf MainOption.setsBytes (items.map mainOptionOf)).isSome := by
    unfold bytesCountSpecified
    rw [hscan, any_isSome]
  rw [hspecified]
  exact hasks.fits

/-- `main` from the command line to the programmer. -/
def mainRequest (permute : Bool) (start : Nat) (args : List (List Byte)) : Except Exit Request :=
  match h : mainArgs permute start args with
  | .error e => .error e
  | .ok c => .ok (c.request (bytesCountSpecified permute args) (mainArgs_fits h))

theorem mainRequest_ok {permute : Bool} {start : Nat} {args : List (List Byte)} {q : Request}
    (h : mainRequest permute start args = .ok q) : mainArgs permute start args = .ok q.setup := by
  unfold mainRequest at h
  split at h
  · cases h
  · rename_i hargs
    cases h
    exact hargs

end Stm8Flash
