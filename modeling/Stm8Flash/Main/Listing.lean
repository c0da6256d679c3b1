import Stm8Flash.Main.CommandLine

/-! # The list of programmers

`-L` prints the serial numbers of the attached programmers, of all kinds. Each of them that can be
read from its device is the device's own one, whatever the buffer of `dump_stlink_programmers`
holds at first, and it is what `-S` wants (`dumpStlinkProgrammers_selects`). For a device without
one, `%.*s` gets a negative precision and prints what the buffer holds.
-/

namespace Stm8Flash

open Hex

/-- `is_interesting_usb`: the loop goes over the terminating entry of `pgms` as well. -/
def isInterestingUsb (vid pid : Nat) : Bool :=
  (PgmName.pgms.map PgmName.ids ++ [(⟨0, 0⟩ : UsbIds)]).any fun p =>
    p.usbPid == pid && p.usbVid == vid

/-- The loop of `dump_stlink_programmers`: the numbers and the serial numbers that are printed. -/
def dumpFrom : Nat → List Byte → List UsbDevice → List (Nat × List Byte)
  | _, _, [] => []
  | numOfProgrammers, serialnoHex, d :: devs =>
    if isInterestingUsb d.idVendor d.idProduct then
      if d.opens then
        let serialnoHex := serialnoToHex d.serialno serialnoHex
        (numOfProgrammers, d.printed serialnoHex) ::
          dumpFrom (numOfProgrammers + 1) serialnoHex devs
      else dumpFrom numOfProgrammers serialnoHex devs
    else dumpFrom numOfProgrammers serialnoHex devs

/-- `dump_stlink_programmers`; `serialnoHex` is what `char serialno_hex[64]` holds at first. -/
def dumpStlinkProgrammers (serialnoHex : List Byte) (usb : Libusb) : List (Nat × List Byte) :=
  match usb.devices with
  | none => []
  | some devs => dumpFrom 0 serialnoHex devs

/-- The devices that are listed. -/
def UsbDevice.listed (d : UsbDevice) : Bool :=
  isInterestingUsb d.idVendor d.idProduct && d.opens

/-- A listed device has the ids of a programmer on USB, or none. -/
theorem UsbDevice.listed_cases {d : UsbDevice} (h : d.listed = true) :
    (d.idVendor = 0 ∧ d.idProduct = 0) ∨
      ∃ pgm : PgmName, pgm.ids.OnUsb ∧ pgm.ids.considers d = true := by
  unfold listed at h
  rw [Bool.and_eq_true] at h
  rcases h with ⟨hids, hopens⟩
  have hpgm {pgm : PgmName} (hproduct : pgm.ids.usbPid = d.idProduct)
      (hvendor : pgm.ids.usbVid = d.idVendor) : pgm.ids.considers d = true := by
    simp [UsbIds.considers, UsbIds.has, hproduct, hvendor, hopens]
  simp only [isInterestingUsb, PgmName.pgms, List.map_cons, List.map_nil, List.cons_append,
    List.nil_append, List.any_cons, List.any_nil, Bool.or_false, Bool.or_eq_true, Bool.and_eq_true,
    beq_iff_eq] at hids
  rcases hids with ⟨hp, hv⟩ | ⟨hp, hv⟩ | ⟨hp, hv⟩ | ⟨hp, hv⟩ | ⟨hp, hv⟩ | ⟨hp, hv⟩
  · exact Or.inr ⟨.stlink, by decide, hpgm hp hv⟩
  · exact Or.inr ⟨.stlinkv2, by decide, hpgm hp hv⟩
  · exact Or.inr ⟨.stlinkv21, by decide, hpgm hp hv⟩
  · exact Or.inr ⟨.stlinkv3, by decide, hpgm hp hv⟩
  · exact Or.inl ⟨hv.symm, hp.symm⟩
  · exact Or.inl ⟨hv.symm, hp.symm⟩

/-- The digits of a device come first in the buffer, which keeps its size. -/
theorem serialnoToHex_own (d : UsbDevice) {serialnoHex : List Byte}
    (hlen : serialnoHex.length = 64) :
    (serialnoToHex d.serialno serialnoHex).take (2 * d.serialno.length) = d.digits ∧
      (serialnoToHex d.serialno serialnoHex).length = 64 := by
  have hle := d.serialno_le
  have hdigits := d.digits_length
  have hwrite := serialnoToHexFrom_eq d.serialno [] serialnoHex (i := 0) rfl (by omega)
  rw [List.nil_append, List.nil_append] at hwrite
  unfold serialnoToHex
  rw [hwrite]
  constructor
  · rw [← d.digits_length]
    exact List.take_left
  · have hprint : (printBytes d.serialno).length = 2 * d.serialno.length := hdigits
    rw [List.length_append, hprint, List.length_drop]
    omega

/-- The listed devices are printed one by one, with numbers from `n` on. -/
theorem dumpFrom_entry {serialnoHex : List Byte} (hlen : serialnoHex.length = 64) {n k : Nat}
    {devs : List UsbDevice} {e : Nat × List Byte}
    (h : (dumpFrom n serialnoHex devs)[k]? = some e) :
    e.1 = n + k ∧
      ∃ d, (devs.filter UsbDevice.listed)[k]? = some d ∧ (d.described → d.digits = e.2) := by
  induction devs generalizing n k serialnoHex with
  | nil => cases h
  | cons d devs ih =>
    rw [dumpFrom] at h
    by_cases hids : isInterestingUsb d.idVendor d.idProduct = true
    · by_cases hopens : d.opens = true
      · have hlisted : d.listed = true := by simp [UsbDevice.listed, hids, hopens]
        rcases serialnoToHex_own d hlen with ⟨hown, hsize⟩
        rw [if_pos hids, if_pos hopens] at h
        rw [List.filter_cons_of_pos hlisted]
        cases k with
        | zero =>
          cases h
          exact ⟨rfl, d, rfl, fun hd => (UsbDevice.printed_own hd hown).symm⟩
        | succ k =>
          obtain ⟨hnumber, e, he⟩ := ih hsize h
          exact ⟨by omega, e, he⟩
      · have hlisted : ¬d.listed = true := by simp [UsbDevice.listed, hopens]
        rw [if_pos hids, if_neg hopens] at h
        rw [List.filter_cons_of_neg hlisted]
        exact ih hlen h
    · have hlisted : ¬d.listed = true := by simp [UsbDevice.listed, hids]
      rw [if_neg hids] at h
      rw [List.filter_cons_of_neg hlisted]
      exact ih hlen h

/-- The entries that `-L` prints are those of the listed devices, in their order. Where the device
has a serial number that can be read, this one is printed; unless the device has no ids, it belongs
to a row of `pgms`, and with the serial number, where no left-over digits mislead, `-S` opens a
device with this serial number for the row. -/
theorem dumpStlinkProgrammers_selects (serialnoHex : List Byte) (hlen : serialnoHex.length = 64)
    {devs : List UsbDevice} (openWith : UsbIds → Option Nat) {n : Nat} {serialno : List Byte}
    (h : (n, serialno) ∈ dumpStlinkProgrammers serialnoHex ⟨some devs, openWith⟩) :
    ∃ d, (devs.filter UsbDevice.listed)[n]? = some d ∧
      (d.described → d.digits = serialno ∧ ((d.idVendor = 0 ∧ d.idProduct = 0) ∨
        ∃ pgm : PgmName, pgm.ids.considers d = true ∧ ∃ hzero : (0 : Byte) ∉ serialno,
          Unmixed pgm.ids serialno devs →
            ∃ i e, usbInit pgm.ids (some ⟨serialno, hzero⟩) ⟨some devs, openWith⟩ = .opened i ∧
              devs[i]? = some e ∧ e.digits = serialno)) := by
  obtain ⟨k, hk⟩ := List.mem_iff_getElem?.mp h
  obtain ⟨hnumber, d, hd, hown⟩ := dumpFrom_entry hlen hk
  dsimp only at hnumber hown
  rw [Nat.zero_add] at hnumber
  subst hnumber
  refine ⟨d, hd, fun hdescribed => ?_⟩
  have hfilter := List.mem_filter.mp (List.mem_of_getElem? hd)
  rcases hfilter with ⟨hmem, hlisted⟩
  cases hown hdescribed
  refine ⟨rfl, ?_⟩
  rcases UsbDevice.listed_cases hlisted with hnone | ⟨pgm, honUsb, hconsiders⟩
  · exact Or.inl hnone
  · refine Or.inr ⟨pgm, hconsiders, d.zero_not_mem_digits, fun hunmixed => ?_⟩
    have hown : pgm.ids.wants d.digits d = true := by simp [UsbIds.wants, hconsiders]
    rcases hfirst : devs.findIdx? (pgm.ids.wants d.digits) with _ | i
    · rw [List.findIdx?_eq_none_iff] at hfirst
      rw [hfirst d hmem] at hown
      cases hown
    · obtain ⟨e, he, hdigits⟩ := UsbIds.wants_of_findIdx? hfirst
      have hopened :
          usbInit pgm.ids (some ⟨d.digits, d.zero_not_mem_digits⟩) ⟨some devs, openWith⟩ =
            .opened i :=
        (usbInit_opened_iff hunmixed).mpr ⟨honUsb, hfirst⟩
      exact ⟨i, e, hopened, he, hdigits⟩

/-- A device without ids and without a serial number, then one of `stlinkv2`. -/
def usbListed : List UsbDevice :=
  [⟨0, 0, true, [], by decide, false, fun h => absurd rfl h⟩, usbAttached [0x5A] (by decide)]

/-- The serial number of the second device, in a buffer full of other bytes. -/
theorem dumpStlinkProgrammers_selects_second :
    ∃ d, (usbListed.filter UsbDevice.listed)[1]? = some d ∧
      (d.described → d.digits = text "5A" ∧ ((d.idVendor = 0 ∧ d.idProduct = 0) ∨
        ∃ pgm : PgmName, pgm.ids.considers d = true ∧ ∃ hzero : (0 : Byte) ∉ text "5A",
          Unmixed pgm.ids (text "5A") usbListed →
            ∃ i e, usbInit pgm.ids (some ⟨text "5A", hzero⟩) (.showing usbListed) = .opened i ∧
              usbListed[i]? = some e ∧ e.digits = text "5A")) :=
  dumpStlinkProgrammers_selects (List.replicate 64 0xff) (by decide) _ (n := 1) (by decide)

end Stm8Flash
