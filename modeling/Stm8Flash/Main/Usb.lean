import Stm8Flash.Lib.Hex

/-! # `usb_init`: the programmer with a serial number

With `-S` the attached devices are tried one by one. `serialno_to_hex` writes the digits of a
serial number over those of the device before and does not end them with a NUL, so behind a
shorter serial number the end of an earlier one stays, and `strcmp` reads on into it.
`usbInit_selects_iff` says for which devices the right one is opened all the same.
-/

namespace Stm8Flash

open Hex

/-- A string of C: no NUL in it. -/
abbrev CString : Type := { s : List Byte // (0 : Byte) ∉ s }

/-- `usb_vid` and `usb_pid` of `programmer_t` -/
structure UsbIds where
  usbVid : Nat
  usbPid : Nat

/-- An attached device, as libusb shows it. -/
structure UsbDevice where
  idVendor : Nat
  idProduct : Nat
  /-- `libusb_open` succeeds -/
  opens : Bool
  /-- what `libusb_get_string_descriptor_ascii` stores -/
  serialno : List Byte
  /-- the NUL behind it fits into `char serialno[32]` as well -/
  serialno_le : serialno.length ≤ 31
  /-- `libusb_get_string_descriptor_ascii` returns no error for the serial number -/
  described : Bool
  /-- otherwise it stores nothing -/
  described_of_ne : serialno ≠ [] → described = true

/-- What `usb_init` is given by libusb. -/
structure Libusb where
  /-- `libusb_get_device_list` -/
  devices : Option (List UsbDevice)
  /-- `libusb_open_device_with_vid_pid`: the place of the device that it opens -/
  openWith : UsbIds → Option Nat

/-- How `usb_init` ends; a device is given by its place in the list. -/
inductive UsbOutcome where
  /-- `return(true)` at once: the programmer is not on USB -/
  | notUsb
  /-- `return(false)`: no list of devices -/
  | unlisted
  | opened (i : Nat)
  /-- `return(false)` after `No programmer with serial number ... found.` -/
  | notFound
  /-- `spawn_error("Could not open USB device.")` -/
  | notOpened
deriving DecidableEq, Repr

/-! ## The code -/

/-- `lk[n]` -/
def lk (n : Byte) : Byte := (text "0123456789ABCDEF").getD n.toNat 0

/-- The loop of `serialno_to_hex`, from `i` on. -/
def serialnoToHexFrom : Nat → List Byte → List Byte → List Byte
  | _, [], serialnoHex => serialnoHex
  | i, b :: serialno, serialnoHex =>
    serialnoToHexFrom (i + 1) serialno
      ((serialnoHex.set (i * 2 + 0) (lk ((b >>> 4) &&& 0x0f))).set (i * 2 + 1)
        (lk ((b >>> 0) &&& 0x0f)))

def serialnoToHex (serialno serialnoHex : List Byte) : List Byte :=
  serialnoToHexFrom 0 serialno serialnoHex

/-- `char serialno_hex[64 + 1] = {0}` -/
def serialnoHexInit : List Byte := List.replicate (64 + 1) 0

/-- `desc.idVendor == pgm->usb_vid && desc.idProduct == pgm->usb_pid` -/
def UsbIds.has (pgm : UsbIds) (d : UsbDevice) : Bool :=
  d.idVendor == pgm.usbVid && d.idProduct == pgm.usbPid

/-- The loop over the devices with `-S`: the place of the device that is kept open. -/
def usbSearch (pgm : UsbIds) (pgmSerialno : CString) : Nat → List Byte → List UsbDevice → Option Nat
  | _, _, [] => none
  | i, serialnoHex, d :: devs =>
    if pgm.has d then
      if d.opens then
        let serialnoHex := serialnoToHex d.serialno serialnoHex
        if serialnoHex.takeWhile (· ≠ 0) = pgmSerialno.1 then some i
        else usbSearch pgm pgmSerialno (i + 1) serialnoHex devs
      else usbSearch pgm pgmSerialno (i + 1) serialnoHex devs
    else usbSearch pgm pgmSerialno (i + 1) serialnoHex devs

/-- `usb_init`; `none` stands for a run without `-S`, and for a list that libusb does not give. -/
def usbInit (pgm : UsbIds) (pgmSerialno : Option CString) (usb : Libusb) : UsbOutcome :=
  if pgm.usbVid = 0 ∧ pgm.usbPid = 0 then .notUsb
  else
    match usb.devices, pgmSerialno with
    | none, _ => .unlisted
    | some _, none =>
      match usb.openWith pgm with
      | some i => .opened i
      | none => .notOpened
    | some devs, some pgmSerialno =>
      match usbSearch pgm pgmSerialno 0 serialnoHexInit devs with
      | some i => .opened i
      | none => .notFound

/-- `%.*s` with the precision `2*serialno_length`: the digits of the device, or the whole text when
the length is an error. -/
def UsbDevice.printed (d : UsbDevice) (serialnoHex : List Byte) : List Byte :=
  (if d.described then serialnoHex.take (2 * d.serialno.length) else serialnoHex).takeWhile (· ≠ 0)

/-- The loop over the devices without `-S`: the numbers and the serial numbers that are printed. -/
def usbListingFrom (pgm : UsbIds) : Nat → List Byte → List UsbDevice → List (Nat × List Byte)
  | _, _, [] => []
  | numOfProgrammers, serialnoHex, d :: devs =>
    if pgm.has d then
      if d.opens then
        let serialnoHex := serialnoToHex d.serialno serialnoHex
        (numOfProgrammers + 1, d.printed serialnoHex) ::
          usbListingFrom pgm (numOfProgrammers + 1) serialnoHex devs
      else usbListingFrom pgm (numOfProgrammers + 1) serialnoHex devs
    else usbListingFrom pgm numOfProgrammers serialnoHex devs

/-- What `usb_init` lists without `-S`. -/
def usbListing (pgm : UsbIds) (devs : List UsbDevice) : List (Nat × List Byte) :=
  if 1 < devs.countP pgm.has then usbListingFrom pgm 0 serialnoHexInit devs else []

/-! ## What a selection by serial number is for -/

/-- The programmer is on USB. -/
def UsbIds.OnUsb (pgm : UsbIds) : Prop := ¬(pgm.usbVid = 0 ∧ pgm.usbPid = 0)

instance (pgm : UsbIds) : Decidable pgm.OnUsb := inferInstanceAs (Decidable (¬_))

/-- The serial number in upper-case hex. -/
def UsbDevice.digits (d : UsbDevice) : List Byte := printBytes d.serialno

/-- The device has the ids of the programmer and can be opened. -/
def UsbIds.considers (pgm : UsbIds) (d : UsbDevice) : Bool := pgm.has d && d.opens

/-- Its own serial number is the one asked for. -/
def UsbIds.wants (pgm : UsbIds) (request : List Byte) (d : UsbDevice) : Bool :=
  pgm.considers d && d.digits == request

/-- The first device that is asked for. -/
def usbSelected (pgm : UsbIds) (pgmSerialno : CString) (devs : List UsbDevice) : UsbOutcome :=
  match devs.findIdx? (pgm.wants pgmSerialno.1) with
  | some i => .opened i
  | none => .notFound

/-- At each place of the request stands the digit of the first of the devices that has one
there. -/
def Spelled (latest : List UsbDevice) (request : List Byte) : Prop :=
  ∀ p : Nat, latest.findSome? (fun d => d.digits[p]?) = request[p]?

/-- Up to the first device that is asked for, no left-over digits mislead, when the devices `seen`,
the latest first, have been considered before: the device asked for comes behind no longer serial
number, and none of the others spells the request with the help of longer ones before it. -/
def UnmixedAfter (pgm : UsbIds) (request : List Byte) (seen devs : List UsbDevice) : Prop :=
  ∀ before d after, devs = before ++ d :: after → pgm.considers d →
    (∀ e ∈ before, pgm.considers e → e.digits ≠ request) →
    let earlier := (before.filter pgm.considers).reverse ++ seen
    (d.digits = request → ∀ e ∈ earlier, e.serialno.length ≤ d.serialno.length) ∧
      (d.digits ≠ request → ¬Spelled (d :: earlier) request)

def Unmixed (pgm : UsbIds) (request : List Byte) (devs : List UsbDevice) : Prop :=
  UnmixedAfter pgm request [] devs

/-! ## What the buffer holds -/

namespace UsbDevice

theorem digits_length (d : UsbDevice) : d.digits.length = 2 * d.serialno.length :=
  (bytes_printBytes d.serialno).length_eq

theorem zero_not_mem_digits (d : UsbDevice) : (0 : Byte) ∉ d.digits := by
  intro hzero
  have hdigit := (bytes_printBytes d.serialno).digits 0 hzero
  exact absurd hdigit (by decide)

/-- `%s` prints all digits. -/
theorem digits_takeWhile (d : UsbDevice) : d.digits.takeWhile (· ≠ 0) = d.digits := by
  rw [List.takeWhile_eq_self_iff]
  intro b hb
  apply decide_eq_true
  rintro rfl
  exact d.zero_not_mem_digits hb

end UsbDevice

/-- The text in `serialno_hex` after the devices, the latest first. -/
def remains : List UsbDevice → List Byte
  | [] => []
  | d :: seen => d.digits ++ (remains seen).drop d.digits.length

theorem remains_getElem? (seen : List UsbDevice) (p : Nat) :
    (remains seen)[p]? = seen.findSome? fun d => d.digits[p]? := by
  induction seen with
  | nil => rfl
  | cons d seen ih =>
    rw [List.findSome?_cons, remains]
    by_cases hp : p < d.digits.length
    · rw [List.getElem?_append_left hp, List.getElem?_eq_getElem hp]
    · have hnone : d.digits[p]? = none := List.getElem?_eq_none (by omega)
      rw [List.getElem?_append_right (by omega), List.getElem?_drop, hnone,
        Nat.add_sub_of_le (by omega), ih]

/-- The text is the request when every place of the request is spelled. -/
theorem remains_eq_iff (latest : List UsbDevice) (request : List Byte) :
    remains latest = request ↔ Spelled latest request := by
  rw [List.ext_getElem?_iff]
  simp only [remains_getElem?, Spelled]

theorem remains_length_le (seen : List UsbDevice) : (remains seen).length ≤ 62 := by
  induction seen with
  | nil => decide
  | cons d seen ih =>
    have hlen := d.digits_length
    have hle := d.serialno_le
    rw [remains, List.length_append, List.length_drop]
    omega

theorem zero_not_mem_remains (seen : List UsbDevice) : (0 : Byte) ∉ remains seen := by
  induction seen with
  | nil => exact List.not_mem_nil
  | cons d seen ih =>
    intro hzero
    rcases List.mem_append.mp hzero with hown | hleft
    · exact d.zero_not_mem_digits hown
    · exact ih (List.mem_of_mem_drop hleft)

/-- Behind serial numbers that are no longer, the text is that of the device alone. -/
theorem remains_of_le {d : UsbDevice} {seen : List UsbDevice}
    (h : ∀ e ∈ seen, e.serialno.length ≤ d.serialno.length) : remains (d :: seen) = d.digits := by
  have hle : (remains seen).length ≤ d.digits.length := by
    rw [d.digits_length]
    induction seen with
    | nil => exact Nat.zero_le _
    | cons e seen ih =>
      have hseen := ih fun f hf => h f (List.mem_cons_of_mem e hf)
      have hhead := h e List.mem_cons_self
      rw [remains, List.length_append, List.length_drop, e.digits_length]
      omega
  rw [remains, List.drop_eq_nil_of_le hle, List.append_nil]

/-- A text that is that of the device alone has no longer serial number before it. -/
theorem le_of_remains {d : UsbDevice} {seen : List UsbDevice} (h : remains (d :: seen) = d.digits) :
    ∀ e ∈ seen, e.serialno.length ≤ d.serialno.length := by
  have hnil : (remains seen).drop d.digits.length = [] := by
    rw [remains] at h
    exact List.append_right_eq_self.mp h
  have hle : (remains seen).length ≤ d.digits.length := List.drop_eq_nil_iff.mp hnil
  intro e he
  by_contra hlonger
  -- the longer serial number has a digit where the text has ended
  have hnone : (remains seen)[d.digits.length]? = none := List.getElem?_eq_none hle
  rw [remains_getElem?, List.findSome?_eq_none_iff] at hnone
  have hend := List.getElem?_eq_none_iff.mp (hnone e he)
  rw [d.digits_length, e.digits_length] at hend
  omega

/-- `serialno_hex` after the devices, the latest first. -/
def serialnoHexAfter (seen : List UsbDevice) : List Byte :=
  remains seen ++ List.replicate (65 - (remains seen).length) 0

theorem serialnoHexAfter_takeWhile (seen : List UsbDevice) :
    (serialnoHexAfter seen).takeWhile (· ≠ 0) = remains seen := by
  have hne : ∀ b ∈ remains seen, decide (b ≠ 0) = true := by
    intro b hb
    apply decide_eq_true
    rintro rfl
    exact zero_not_mem_remains seen hb
  obtain ⟨k, hk⟩ : ∃ k, 65 - (remains seen).length = k + 1 :=
    ⟨64 - (remains seen).length, by have := remains_length_le seen; omega⟩
  rw [serialnoHexAfter, List.takeWhile_append_of_pos hne, hk, List.replicate_succ]
  simp

theorem printX_two (b : Byte) :
    printX 2 b.toNat = [lk ((b >>> 4) &&& 0x0f), lk ((b >>> 0) &&& 0x0f)] := by
  have hall : ∀ n < 256, printX 2 n =
      [lk ((UInt8.ofNat n >>> 4) &&& 0x0f), lk ((UInt8.ofNat n >>> 0) &&& 0x0f)] := by
    decide +kernel
  have hb := hall b.toNat b.toNat_lt
  rw [UInt8.ofNat_toNat] at hb
  exact hb

/-- The loop writes the digits over what is there. -/
theorem serialnoToHexFrom_eq (serialno front rest : List Byte) {i : Nat}
    (hfront : front.length = 2 * i) (hrest : 2 * serialno.length ≤ rest.length) :
    serialnoToHexFrom i serialno (front ++ rest) =
      front ++ (printBytes serialno ++ rest.drop (2 * serialno.length)) := by
  induction serialno generalizing i front rest with
  | nil => rfl
  | cons b serialno ih =>
    rw [List.length_cons] at hrest
    match rest, hrest with
    | x :: y :: rest, hrest =>
      have hset : ((front ++ x :: y :: rest).set (i * 2 + 0) (lk ((b >>> 4) &&& 0x0f))).set (i * 2 + 1)
          (lk ((b >>> 0) &&& 0x0f)) = (front ++ printX 2 b.toNat) ++ rest := by
        rw [printX_two, List.set_append_right _ _ (by omega), List.set_append_right _ _ (by omega),
          show i * 2 + 0 - front.length = 0 by omega, show i * 2 + 1 - front.length = 1 by omega,
          List.append_assoc]
        rfl
      rw [serialnoToHexFrom, hset, ih _ rest ?_ ?_]
      · simp [printBytes, Nat.mul_add]
      · rw [List.length_append, hfront, printX_two]
        simp
        omega
      · simp at hrest
        omega

/-- One more device. -/
theorem serialnoToHex_after (d : UsbDevice) (seen : List UsbDevice) :
    serialnoToHex d.serialno (serialnoHexAfter seen) = serialnoHexAfter (d :: seen) := by
  have hroom := remains_length_le seen
  have hle := d.serialno_le
  have hlen := d.digits_length
  unfold serialnoToHex
  have hwrite := serialnoToHexFrom_eq d.serialno [] (serialnoHexAfter seen) (i := 0) rfl (by
    rw [serialnoHexAfter, List.length_append, List.length_replicate]
    omega)
  rw [List.nil_append, List.nil_append] at hwrite
  rw [hwrite, serialnoHexAfter, serialnoHexAfter, List.drop_append, List.drop_replicate, remains,
    List.append_assoc, List.length_append, List.length_drop, ← hlen]
  congr 3
  omega

/-! ## The search -/

theorem unmixedAfter_nil (pgm : UsbIds) (request : List Byte) (seen : List UsbDevice) :
    UnmixedAfter pgm request seen [] := by
  intro before d after heq
  exact absurd heq (by simp)

theorem unmixedAfter_cons_skip {pgm : UsbIds} {d : UsbDevice} (hd : pgm.considers d = false)
    (request : List Byte) (seen devs : List UsbDevice) :
    UnmixedAfter pgm request seen (d :: devs) ↔ UnmixedAfter pgm request seen devs := by
  constructor
  · intro h before e after heq he hbefore
    have hcons := h (d :: before) e after (by rw [heq, List.cons_append]) he (by
      intro f hf hcf
      rcases List.mem_cons.mp hf with rfl | hf
      · rw [hd] at hcf
        cases hcf
      · exact hbefore f hf hcf)
    rw [List.filter_cons_of_neg (by simp [hd])] at hcons
    exact hcons
  · intro h before e after heq he hbefore
    cases before with
    | nil =>
      obtain ⟨rfl, -⟩ := List.cons.inj heq
      rw [hd] at he
      cases he
    | cons f before =>
      obtain ⟨rfl, htail⟩ := List.cons.inj heq
      rw [List.filter_cons_of_neg (by simp [hd])]
      exact h before e after htail he fun g hg => hbefore g (List.mem_cons_of_mem d hg)

theorem unmixedAfter_cons_found {pgm : UsbIds} {d : UsbDevice} (hd : pgm.considers d = true)
    {request : List Byte} (hown : d.digits = request) (seen devs : List UsbDevice) :
    UnmixedAfter pgm request seen (d :: devs) ↔
      ∀ e ∈ seen, e.serialno.length ≤ d.serialno.length := by
  constructor
  · intro h
    exact (h [] d devs rfl hd fun _ he => absurd he List.not_mem_nil).1 hown
  · intro h before e after heq he hbefore
    cases before with
    | nil =>
      obtain ⟨rfl, -⟩ := List.cons.inj heq
      exact ⟨fun _ => h, fun hne => absurd hown hne⟩
    | cons f before =>
      obtain ⟨rfl, -⟩ := List.cons.inj heq
      exact absurd hown (hbefore d List.mem_cons_self hd)

theorem unmixedAfter_cons_other {pgm : UsbIds} {d : UsbDevice} (hd : pgm.considers d = true)
    {request : List Byte} (hother : d.digits ≠ request) (seen devs : List UsbDevice) :
    UnmixedAfter pgm request seen (d :: devs) ↔
      ¬Spelled (d :: seen) request ∧ UnmixedAfter pgm request (d :: seen) devs := by
  have hearlier (before : List UsbDevice) :
      ((d :: before).filter pgm.considers).reverse ++ seen =
        (before.filter pgm.considers).reverse ++ d :: seen := by
    rw [List.filter_cons_of_pos hd, List.reverse_cons, List.append_assoc]
    rfl
  constructor
  · intro h
    refine ⟨(h [] d devs rfl hd fun _ he => absurd he List.not_mem_nil).2 hother, ?_⟩
    intro before e after heq he hbefore
    have hcons := h (d :: before) e after (by rw [heq, List.cons_append]) he (by
      intro f hf hcf
      rcases List.mem_cons.mp hf with rfl | hf
      · exact hother
      · exact hbefore f hf hcf)
    rw [hearlier] at hcons
    exact hcons
  · rintro ⟨hhead, htail⟩ before e after heq he hbefore
    cases before with
    | nil =>
      obtain ⟨rfl, -⟩ := List.cons.inj heq
      exact ⟨fun hown => absurd hown hother, fun _ => hhead⟩
    | cons f before =>
      obtain ⟨rfl, hrest⟩ := List.cons.inj heq
      rw [hearlier]
      exact htail before e after hrest he fun g hg => hbefore g (List.mem_cons_of_mem d hg)

/-- The loop gives a place at or behind the one it starts from. -/
theorem usbSearch_ge {pgm : UsbIds} {request : CString} {i j : Nat} {hex : List Byte}
    {devs : List UsbDevice} (h : usbSearch pgm request i hex devs = some j) : i ≤ j := by
  induction devs generalizing i hex with
  | nil => cases h
  | cons d devs ih =>
    unfold usbSearch at h
    split at h
    · split at h
      · dsimp only at h
        split at h
        · exact Nat.le_of_eq (Option.some.inj h)
        · exact Nat.le_of_succ_le (ih h)
      · exact Nat.le_of_succ_le (ih h)
    · exact Nat.le_of_succ_le (ih h)

theorem usbSearch_cons_skip {pgm : UsbIds} {d : UsbDevice} (hd : pgm.considers d = false)
    (request : CString) (i : Nat) (hex : List Byte) (devs : List UsbDevice) :
    usbSearch pgm request i hex (d :: devs) = usbSearch pgm request (i + 1) hex devs := by
  rw [usbSearch]
  by_cases hhas : pgm.has d = true
  · have hopens : d.opens = false := by simpa [UsbIds.considers, hhas] using hd
    rw [if_pos hhas, hopens]
    rfl
  · rw [if_neg hhas]

/-- A device that is considered is taken when the text in the buffer is the request. -/
theorem usbSearch_cons_considers {pgm : UsbIds} {d : UsbDevice} (hd : pgm.considers d = true)
    (request : CString) (i : Nat) (seen devs : List UsbDevice) :
    usbSearch pgm request i (serialnoHexAfter seen) (d :: devs) =
      if remains (d :: seen) = request.1 then some i
      else usbSearch pgm request (i + 1) (serialnoHexAfter (d :: seen)) devs := by
  obtain ⟨hhas, hopens⟩ : pgm.has d = true ∧ d.opens = true := by
    simpa [UsbIds.considers] using hd
  rw [usbSearch, if_pos hhas, if_pos hopens]
  dsimp only
  rw [serialnoToHex_after, serialnoHexAfter_takeWhile]

/-- The device asked for is taken when no longer serial number came before it. -/
theorem usbSearch_found_iff {pgm : UsbIds} {d : UsbDevice} (hd : pgm.considers d = true)
    {request : CString} (hown : d.digits = request.1) (i : Nat) (seen devs : List UsbDevice) :
    usbSearch pgm request i (serialnoHexAfter seen) (d :: devs) = some i ↔
      ∀ e ∈ seen, e.serialno.length ≤ d.serialno.length := by
  rw [usbSearch_cons_considers hd]
  by_cases htext : remains (d :: seen) = request.1
  · rw [if_pos htext]
    exact ⟨fun _ => le_of_remains (htext.trans hown.symm), fun _ => rfl⟩
  · rw [if_neg htext]
    constructor
    · intro h
      have hlate := usbSearch_ge h
      omega
    · intro hle
      exact absurd ((remains_of_le hle).trans hown) htext

/-- Another device is left when its text is not the request; taken by mistake, its place is none of
the later ones. -/
theorem usbSearch_other_iff {pgm : UsbIds} {d : UsbDevice} (hd : pgm.considers d = true)
    (request : CString) (i : Nat) (seen devs : List UsbDevice) (o : Option Nat) :
    usbSearch pgm request i (serialnoHexAfter seen) (d :: devs) = o.map (· + (i + 1)) ↔
      ¬Spelled (d :: seen) request.1 ∧
        usbSearch pgm request (i + 1) (serialnoHexAfter (d :: seen)) devs = o.map (· + (i + 1)) := by
  rw [usbSearch_cons_considers hd, ← remains_eq_iff]
  by_cases htext : remains (d :: seen) = request.1
  · rw [if_pos htext]
    constructor
    · intro h
      obtain ⟨j, -, hj⟩ := Option.map_eq_some_iff.mp h.symm
      omega
    · rintro ⟨hne, -⟩
      exact absurd htext hne
  · rw [if_neg htext]
    exact ⟨fun h => ⟨htext, h⟩, fun h => h.2⟩

/-- The loop from a device on, with its buffer after the devices `seen`. -/
theorem usbSearch_after (pgm : UsbIds) (request : CString) (i : Nat) (seen devs : List UsbDevice) :
    usbSearch pgm request i (serialnoHexAfter seen) devs =
        (devs.findIdx? (pgm.wants request.1)).map (· + i) ↔
      UnmixedAfter pgm request.1 seen devs := by
  induction devs generalizing i seen with
  | nil => exact ⟨fun _ => unmixedAfter_nil _ _ _, fun _ => rfl⟩
  | cons d devs ih =>
    have hshift (o : Option Nat) : (o.map (· + 1)).map (· + i) = o.map (· + (i + 1)) := by
      rw [Option.map_map]
      congr 1
      funext j
      exact Nat.add_right_comm j 1 i
    rw [List.findIdx?_cons]
    cases hd : pgm.considers d with
    | false =>
      have hwants : pgm.wants request.1 d = false := by simp [UsbIds.wants, hd]
      rw [usbSearch_cons_skip hd, unmixedAfter_cons_skip hd, hwants, if_neg Bool.false_ne_true,
        hshift]
      exact ih (i + 1) seen
    | true =>
      by_cases hown : d.digits = request.1
      · have hwants : pgm.wants request.1 d = true := by simp [UsbIds.wants, hd, hown]
        rw [unmixedAfter_cons_found hd hown, hwants, if_pos rfl, Option.map_some, Nat.zero_add]
        exact usbSearch_found_iff hd hown i seen devs
      · have hwants : pgm.wants request.1 d = false := by simp [UsbIds.wants, hown]
        rw [unmixedAfter_cons_other hd hown, hwants, if_neg Bool.false_ne_true, hshift, ← ih]
        exact usbSearch_other_iff hd request i seen devs _

/-- The digits of a device that is described stand alone. -/
theorem UsbDevice.printed_own {d : UsbDevice} {serialnoHex : List Byte} (h : d.described = true)
    (hown : serialnoHex.take (2 * d.serialno.length) = d.digits) :
    d.printed serialnoHex = d.digits := by
  rw [printed, if_pos h, hown, d.digits_takeWhile]

/-- The list printed without `-S` is not misled: `%.*s` leaves out what stays of longer serial
numbers. -/
theorem usbListingFrom_own {pgm : UsbIds} {devs : List UsbDevice}
    (hdescribed : ∀ d ∈ devs, pgm.considers d → d.described) (n : Nat) (seen : List UsbDevice) :
    (usbListingFrom pgm n (serialnoHexAfter seen) devs).map Prod.snd =
      (devs.filter pgm.considers).map UsbDevice.digits := by
  induction devs generalizing n seen with
  | nil => rfl
  | cons d devs ih =>
    have hrest := ih fun e he => hdescribed e (List.mem_cons_of_mem d he)
    rw [usbListingFrom]
    by_cases hhas : pgm.has d = true
    · by_cases hopens : d.opens = true
      · have hd : pgm.considers d = true := by simp [UsbIds.considers, hhas, hopens]
        have htake : (serialnoHexAfter (d :: seen)).take (2 * d.serialno.length) = d.digits := by
          rw [serialnoHexAfter, remains, List.append_assoc, ← d.digits_length, List.take_left]
        have hprinted := UsbDevice.printed_own (hdescribed d List.mem_cons_self hd) htake
        rw [if_pos hhas, if_pos hopens, List.filter_cons_of_pos hd]
        dsimp only
        rw [serialnoToHex_after, hprinted, List.map_cons, List.map_cons, hrest]
      · have hd : ¬pgm.considers d = true := by simp [UsbIds.considers, hopens]
        rw [if_pos hhas, if_neg hopens, List.filter_cons_of_neg hd, hrest]
    · have hd : ¬pgm.considers d = true := by simp [UsbIds.considers, hhas]
      rw [if_neg hhas, List.filter_cons_of_neg hd, hrest]

theorem usbListing_own {pgm : UsbIds} {devs : List UsbDevice} (h : 1 < devs.countP pgm.has)
    (hdescribed : ∀ d ∈ devs, pgm.considers d → d.described) :
    (usbListing pgm devs).map Prod.snd = (devs.filter pgm.considers).map UsbDevice.digits := by
  rw [usbListing, if_pos h]
  exact usbListingFrom_own hdescribed 0 []

/-- Serial numbers that do not get shorter along the list cause no trouble. -/
theorem unmixed_of_pairwise {pgm : UsbIds} {devs : List UsbDevice}
    (h : (devs.filter pgm.considers).Pairwise fun d e => d.serialno.length ≤ e.serialno.length)
    (request : List Byte) : Unmixed pgm request devs := by
  intro before d after heq hd hbefore
  have hle : ∀ e ∈ (before.filter pgm.considers).reverse ++ [],
      e.serialno.length ≤ d.serialno.length := by
    intro e he
    rw [List.append_nil, List.mem_reverse] at he
    rw [heq, List.filter_append, List.pairwise_append] at h
    exact h.2.2 e he d (List.mem_filter.mpr ⟨List.mem_cons_self, hd⟩)
  refine ⟨fun _ => hle, fun hother hspelled => ?_⟩
  exact hother ((remains_of_le hle).symm.trans ((remains_eq_iff _ _).mpr hspelled))

/-- The first device with the serial number asked for is opened, or none when there is none,
exactly when no left-over digits mislead. -/
theorem usbInit_selects_iff (pgm : UsbIds) (hpgm : pgm.OnUsb) (request : CString)
    (devs : List UsbDevice) (openWith : UsbIds → Option Nat) :
    usbInit pgm (some request) ⟨some devs, openWith⟩ = usbSelected pgm request devs ↔
      Unmixed pgm request.1 devs := by
  have hsearch := usbSearch_after pgm request 0 [] devs
  rw [show serialnoHexAfter [] = serialnoHexInit from rfl] at hsearch
  have hself (o : Option Nat) : o.map (· + 0) = o := Option.map_id'
  unfold usbInit usbSelected
  rw [Unmixed, ← hsearch, hself, if_neg hpgm]
  dsimp only
  cases usbSearch pgm request 0 serialnoHexInit devs with
  | none => cases devs.findIdx? (pgm.wants request.1) <;> simp
  | some i => cases devs.findIdx? (pgm.wants request.1) <;> simp

/-- Where no left-over digits mislead, the device that is opened is the first one asked for. -/
theorem usbInit_opened_iff {pgm : UsbIds} {request : CString} {devs : List UsbDevice} {i : Nat}
    {openWith : UsbIds → Option Nat} (hunmixed : Unmixed pgm request.1 devs) :
    usbInit pgm (some request) ⟨some devs, openWith⟩ = .opened i ↔
      pgm.OnUsb ∧ devs.findIdx? (pgm.wants request.1) = some i := by
  have hsearch := (usbSearch_after pgm request 0 [] devs).mpr hunmixed
  rw [show serialnoHexAfter [] = serialnoHexInit from rfl] at hsearch
  have hself (o : Option Nat) : o.map (· + 0) = o := Option.map_id'
  rw [hself] at hsearch
  unfold usbInit UsbIds.OnUsb
  by_cases hnone : pgm.usbVid = 0 ∧ pgm.usbPid = 0
  · simp [hnone]
  · simp only [if_neg hnone, hsearch]
    cases devs.findIdx? (pgm.wants request.1) <;> simp [hnone]

/-- The first device asked for is one. -/
theorem UsbIds.wants_of_findIdx? {pgm : UsbIds} {request : List Byte} {devs : List UsbDevice}
    {i : Nat} (h : devs.findIdx? (pgm.wants request) = some i) :
    ∃ d, devs[i]? = some d ∧ d.digits = request := by
  obtain ⟨hlt, hwants, -⟩ := List.findIdx?_eq_some_iff_getElem.mp h
  refine ⟨devs[i], List.getElem?_eq_getElem hlt, ?_⟩
  simp only [wants, Bool.and_eq_true, beq_iff_eq] at hwants
  exact hwants.2

/-! ## Two programmers -/

/-- The ids of `stlinkv2` -/
def usbStlinkv2 : UsbIds := ⟨0x0483, 0x3748⟩

/-- A programmer of this kind that can be opened. -/
def usbAttached (serialno : List Byte) (h : serialno.length ≤ 31) : UsbDevice :=
  ⟨0x0483, 0x3748, true, serialno, h, true, fun _ => rfl⟩

/-- A libusb that shows `devs`, and opens the first of them that has the ids, if it can be
opened. -/
def Libusb.showing (devs : List UsbDevice) : Libusb where
  devices := some devs
  openWith pgm := (devs.findIdx? pgm.has).filter fun i => (devs[i]?.map UsbDevice.opens).getD false

/-- The shorter serial number first. -/
theorem usbInit_selects_iff_nondecreasing :
    usbInit usbStlinkv2 (some ⟨text "CC", by decide⟩)
        (.showing [usbAttached [0xCC] (by decide), usbAttached [0xAA, 0xBB] (by decide)]) =
      .opened 0 := by
  have hunmixed : Unmixed usbStlinkv2 (text "CC")
      [usbAttached [0xCC] (by decide), usbAttached [0xAA, 0xBB] (by decide)] :=
    unmixed_of_pairwise (by decide) _
  exact (usbInit_selects_iff usbStlinkv2 (by decide) ⟨text "CC", by decide⟩ _ _).mpr hunmixed

/-- The longer one first: `CC` is not found, and `CCBB`, which no device has, is. -/
theorem usbInit_mixes_serials :
    let devs := [usbAttached [0xAA, 0xBB] (by decide), usbAttached [0xCC] (by decide)]
    usbInit usbStlinkv2 (some ⟨text "CC", by decide⟩) (.showing devs) = .notFound ∧
      usbSelected usbStlinkv2 ⟨text "CC", by decide⟩ devs = .opened 1 ∧
      usbInit usbStlinkv2 (some ⟨text "CCBB", by decide⟩) (.showing devs) = .opened 1 ∧
      usbSelected usbStlinkv2 ⟨text "CCBB", by decide⟩ devs = .notFound := by
  decide +kernel

end Stm8Flash
