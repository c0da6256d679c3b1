import Stm8Flash.Device
import Stm8Flash.Lib.Glob
import Stm8Flash.Lib.Hex

/-! # `get_part`: the device with a name

`-p` takes the first entry of `stm8_devices` whose name, with `?` for any character and letters of
either case, is the front of the name given. Several entries can match;
`getPart_of_isNameOf` says that it does not matter which of them comes first.
-/

namespace Stm8Flash

open Hex

/-- `toupper` in the C locale. -/
def toupper (b : Byte) : Byte := if 97 ≤ b ∧ b ≤ 122 then b - 32 else b

/-- `*e == *s || toupper(*e) == *s || *e == '?'` -/
def getPartChar (e s : Byte) : Bool := e == s || toupper e == s || e == ascii '?'

/-- `get_part`. The inner loop runs on while the characters agree, and the entry is taken when it
has come to the end of the entry's name. -/
def getPart (name : List Byte) : Option Stm8Device :=
  stm8Devices.find? fun d => Glob.accepts getPartChar (text d.name) name

/-- A character that the place `e` of a pattern stands for. -/
def NameChar (e s : Byte) : Prop := (e = ascii '?' ∧ s ≠ 0) ∨ s = e ∨ s = toupper e

instance (e s : Byte) : Decidable (NameChar e s) := inferInstanceAs (Decidable (_ ∨ _))

/-- The name is the pattern with any characters for each `?` and some letters in upper case. -/
def IsNameOf (pattern name : List Byte) : Prop := List.Forall₂ NameChar pattern name

instance (pattern name : List Byte) : Decidable (IsNameOf pattern name) :=
  inferInstanceAs (Decidable (List.Forall₂ _ _ _))

/-- The entries agree in everything but the name. -/
def Stm8Device.SamePart (e d : Stm8Device) : Prop := { e with name := d.name } = d

instance (e d : Stm8Device) : Decidable (e.SamePart d) := inferInstanceAs (Decidable (_ = _))

/-! ## Patterns that share a name -/

theorem toupper_toupper (b : Byte) : toupper (toupper b) = toupper b := by
  have hall : ∀ n < 256, toupper (toupper (UInt8.ofNat n)) = toupper (UInt8.ofNat n) := by
    decide +kernel
  have hb := hall b.toNat b.toNat_lt
  rw [UInt8.ofNat_toNat] at hb
  exact hb

/-- Two places of patterns can stand for one character. -/
def sharedChar (e c : Byte) : Bool := e == ascii '?' || c == ascii '?' || toupper e == toupper c

theorem sharedChar_of_nameChar {e c s : Byte} (hname : NameChar c s)
    (htaken : getPartChar e s = true) : sharedChar e c = true := by
  simp only [getPartChar, sharedChar, Bool.or_eq_true, beq_iff_eq] at htaken ⊢
  rcases htaken with (htaken | htaken) | hany
  · have hup : toupper e = toupper s := congrArg toupper htaken
    rcases hname with ⟨hany, -⟩ | rfl | rfl
    · exact Or.inl (Or.inr hany)
    · exact Or.inr hup
    · exact Or.inr (hup.trans (toupper_toupper c))
  · have hup : toupper e = toupper s := by rw [← htaken, toupper_toupper]
    rcases hname with ⟨hany, -⟩ | rfl | rfl
    · exact Or.inl (Or.inr hany)
    · exact Or.inr hup
    · exact Or.inr (hup.trans (toupper_toupper c))
  · exact Or.inl (Or.inl hany)

/-- An entry that shares a name with a later one is like it. -/
theorem stm8Devices_pairwise :
    stm8Devices.Pairwise fun e d =>
      Glob.accepts sharedChar (text e.name) (text d.name) = true → e.SamePart d := by
  decide +kernel

/-! ## The lookup -/

theorem getPartChar_of_nameChar {e s : Byte} (h : NameChar e s) : getPartChar e s = true := by
  simp only [getPartChar, Bool.or_eq_true, beq_iff_eq]
  rcases h with ⟨hany, -⟩ | rfl | rfl
  · exact Or.inr hany
  · exact Or.inl (Or.inl rfl)
  · exact Or.inl (Or.inr rfl)

/-- An entry takes the names made from its pattern. -/
theorem accepts_of_isNameOf {pattern name : List Byte} (h : IsNameOf pattern name) :
    Glob.accepts getPartChar pattern name = true :=
  Glob.accepts_of_forall₂ (h.imp fun _ _ => getPartChar_of_nameChar)

/-- For a name of an entry the part found has the memory areas, sizes and registers of that
entry. -/
theorem getPart_of_isNameOf {d : Stm8Device} (hd : d ∈ stm8Devices) {name : List Byte}
    (hname : IsNameOf (text d.name) name) : ∃ e, getPart name = some e ∧ e.SamePart d := by
  obtain ⟨e, hfound, htaken, hpair⟩ :=
    @Glob.find?_of_pairwise _ _ _ stm8Devices_pairwise
      (fun d => Glob.accepts getPartChar (text d.name) name) d hd (accepts_of_isNameOf hname)
  refine ⟨e, hfound, ?_⟩
  rcases hpair with rfl | hpair
  · rfl
  · -- the two patterns share the name, and so a character at each place
    apply hpair
    refine Glob.accepts_of_accepts (fun e c s => ?_) hname htaken
    exact @sharedChar_of_nameChar e c s

/-- `STLUX385A` is a name of the second entry and is taken by the first. -/
theorem getPart_of_isNameOf_stlux :
    ∃ e, getPart (text "STLUX385A") = some e ∧ e.SamePart stm8Devices[1] :=
  getPart_of_isNameOf (List.getElem_mem _) (show IsNameOf (text "stlux???a") (text "STLUX385A") by
    decide +kernel)

end Stm8Flash
