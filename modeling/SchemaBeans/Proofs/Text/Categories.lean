import SchemaBeans.Text.Alphanumeric
import SchemaBeans.Text.Uppercase

/-! Which letters and numbers a Java name can have.

A Java name is made of letters, letter numbers, decimal digits, marks and underscores. Letters and numbers in the wider
sense are more than that: they include numbers of other kinds, such as fractions and superscripts, and letters in
circles and squares, which are symbols. Upper case neither adds nor removes any of these, and leaves decimal digits
alone. The tables list code points from U+0080 on as closed ranges in ascending order. -/

namespace SchemaBeans.Text

/-! ### Categories -/

/-- Decimal digits of all scripts, those of ASCII aside. -/
def decimalDigitRanges : List (Nat × Nat) := [
  (0x660, 0x669), (0x6F0, 0x6F9), (0x7C0, 0x7C9), (0x966, 0x96F), (0x9E6, 0x9EF), (0xA66, 0xA6F),
  (0xAE6, 0xAEF), (0xB66, 0xB6F), (0xBE6, 0xBEF), (0xC66, 0xC6F), (0xCE6, 0xCEF), (0xD66, 0xD6F),
  (0xDE6, 0xDEF), (0xE50, 0xE59), (0xED0, 0xED9), (0xF20, 0xF29), (0x1040, 0x1049), (0x1090, 0x1099),
  (0x17E0, 0x17E9), (0x1810, 0x1819), (0x1946, 0x194F), (0x19D0, 0x19D9), (0x1A80, 0x1A89), (0x1A90, 0x1A99),
  (0x1B50, 0x1B59), (0x1BB0, 0x1BB9), (0x1C40, 0x1C49), (0x1C50, 0x1C59), (0xA620, 0xA629), (0xA8D0, 0xA8D9),
  (0xA900, 0xA909), (0xA9D0, 0xA9D9), (0xA9F0, 0xA9F9), (0xAA50, 0xAA59), (0xABF0, 0xABF9), (0xFF10, 0xFF19),
  (0x104A0, 0x104A9), (0x10D30, 0x10D39), (0x10D40, 0x10D49), (0x11066, 0x1106F), (0x110F0, 0x110F9),
  (0x11136, 0x1113F), (0x111D0, 0x111D9), (0x112F0, 0x112F9), (0x11450, 0x11459), (0x114D0, 0x114D9),
  (0x11650, 0x11659), (0x116C0, 0x116C9), (0x116D0, 0x116E3), (0x11730, 0x11739), (0x118E0, 0x118E9),
  (0x11950, 0x11959), (0x11BF0, 0x11BF9), (0x11C50, 0x11C59), (0x11D50, 0x11D59), (0x11DA0, 0x11DA9),
  (0x11DE0, 0x11DE9), (0x11F50, 0x11F59), (0x16130, 0x16139), (0x16A60, 0x16A69), (0x16AC0, 0x16AC9),
  (0x16B50, 0x16B59), (0x16D70, 0x16D79), (0x1CCF0, 0x1CCF9), (0x1D7CE, 0x1D7FF), (0x1E140, 0x1E149),
  (0x1E2F0, 0x1E2F9), (0x1E4F0, 0x1E4F9), (0x1E5F1, 0x1E5FA), (0x1E950, 0x1E959), (0x1FBF0, 0x1FBF9)]

/-- Numbers that are neither decimal digits nor letter numbers. -/
def otherNumberRanges : List (Nat × Nat) := [
  (0xB2, 0xB3), (0xB9, 0xB9), (0xBC, 0xBE), (0x9F4, 0x9F9), (0xB72, 0xB77), (0xBF0, 0xBF2), (0xC78, 0xC7E),
  (0xD58, 0xD5E), (0xD70, 0xD78), (0xF2A, 0xF33), (0x1369, 0x137C), (0x17F0, 0x17F9), (0x19DA, 0x19DA),
  (0x2070, 0x2070), (0x2074, 0x2079), (0x2080, 0x2089), (0x2150, 0x215F), (0x2189, 0x2189), (0x2460, 0x249B),
  (0x24EA, 0x24FF), (0x2776, 0x2793), (0x2CFD, 0x2CFD), (0x3192, 0x3195), (0x3220, 0x3229), (0x3248, 0x324F),
  (0x3251, 0x325F), (0x3280, 0x3289), (0x32B1, 0x32BF), (0xA830, 0xA835), (0x10107, 0x10133),
  (0x10175, 0x10178), (0x1018A, 0x1018B), (0x102E1, 0x102FB), (0x10320, 0x10323), (0x10858, 0x1085F),
  (0x10879, 0x1087F), (0x108A7, 0x108AF), (0x108FB, 0x108FF), (0x10916, 0x1091B), (0x109BC, 0x109BD),
  (0x109C0, 0x109CF), (0x109D2, 0x109FF), (0x10A40, 0x10A48), (0x10A7D, 0x10A7E), (0x10A9D, 0x10A9F),
  (0x10AEB, 0x10AEF), (0x10B58, 0x10B5F), (0x10B78, 0x10B7F), (0x10BA9, 0x10BAF), (0x10CFA, 0x10CFF),
  (0x10E60, 0x10E7E), (0x10F1D, 0x10F26), (0x10F51, 0x10F54), (0x10FC5, 0x10FCB), (0x11052, 0x11065),
  (0x111E1, 0x111F4), (0x1173A, 0x1173B), (0x118EA, 0x118F2), (0x11C5A, 0x11C6C), (0x11FC0, 0x11FD4),
  (0x16B5B, 0x16B61), (0x16E80, 0x16E96), (0x1D2C0, 0x1D2D3), (0x1D2E0, 0x1D2F3), (0x1D360, 0x1D378),
  (0x1E8C7, 0x1E8CF), (0x1EC71, 0x1ECAB), (0x1ECAD, 0x1ECAF), (0x1ECB1, 0x1ECB4), (0x1ED01, 0x1ED2D),
  (0x1ED2F, 0x1ED3D), (0x1F100, 0x1F10C)]

/-- Letters in circles and squares. -/
def letterSymbolRanges : List (Nat × Nat) := [
  (0x24B6, 0x24E9), (0x1F130, 0x1F149), (0x1F150, 0x1F169), (0x1F170, 0x1F189)]

/-- Marks that are not letters in the wider sense. -/
def combiningMarkRanges : List (Nat × Nat) := [
  (0x300, 0x344), (0x346, 0x362), (0x483, 0x489), (0x591, 0x5AF), (0x658, 0x658), (0x6DF, 0x6E0),
  (0x6EA, 0x6EC), (0x740, 0x74A), (0x7EB, 0x7F3), (0x7FD, 0x7FD), (0x818, 0x819), (0x82D, 0x82D),
  (0x859, 0x85B), (0x898, 0x89F), (0x8CA, 0x8D3), (0x8E0, 0x8E1), (0x8EA, 0x8EF), (0x93C, 0x93C),
  (0x94D, 0x94D), (0x951, 0x954), (0x9BC, 0x9BC), (0x9CD, 0x9CD), (0x9FE, 0x9FE), (0xA3C, 0xA3C),
  (0xA4D, 0xA4D), (0xABC, 0xABC), (0xACD, 0xACD), (0xAFD, 0xAFF), (0xB3C, 0xB3C), (0xB4D, 0xB4D),
  (0xB55, 0xB55), (0xBCD, 0xBCD), (0xC3C, 0xC3C), (0xC4D, 0xC4D), (0xCBC, 0xCBC), (0xCCD, 0xCCD),
  (0xD3B, 0xD3C), (0xD4D, 0xD4D), (0xDCA, 0xDCA), (0xE47, 0xE4C), (0xE4E, 0xE4E), (0xEBA, 0xEBA),
  (0xEC8, 0xECC), (0xECE, 0xECE), (0xF18, 0xF19), (0xF35, 0xF35), (0xF37, 0xF37), (0xF39, 0xF39),
  (0xF3E, 0xF3F), (0xF84, 0xF84), (0xF86, 0xF87), (0xFC6, 0xFC6), (0x1037, 0x1037), (0x1039, 0x103A),
  (0x135D, 0x135F), (0x1714, 0x1715), (0x1734, 0x1734), (0x17B4, 0x17B5), (0x17C9, 0x17D3), (0x17DD, 0x17DD),
  (0x180B, 0x180D), (0x180F, 0x180F), (0x1939, 0x193B), (0x1A60, 0x1A60), (0x1A75, 0x1A7C), (0x1A7F, 0x1A7F),
  (0x1AB0, 0x1ABE), (0x1AC1, 0x1ACB), (0x1ACF, 0x1ADD), (0x1AE0, 0x1AEB), (0x1B34, 0x1B34), (0x1B44, 0x1B44),
  (0x1B6B, 0x1B73), (0x1BAA, 0x1BAB), (0x1BE6, 0x1BE6), (0x1BF2, 0x1BF3), (0x1C37, 0x1C37), (0x1CD0, 0x1CD2),
  (0x1CD4, 0x1CE8), (0x1CED, 0x1CED), (0x1CF4, 0x1CF4), (0x1CF7, 0x1CF9), (0x1DC0, 0x1DD2), (0x1DF5, 0x1DFF),
  (0x20D0, 0x20F0), (0x2CEF, 0x2CF1), (0x2D7F, 0x2D7F), (0x302A, 0x302F), (0x3099, 0x309A), (0xA66F, 0xA672),
  (0xA67C, 0xA67D), (0xA6F0, 0xA6F1), (0xA806, 0xA806), (0xA82C, 0xA82C), (0xA8C4, 0xA8C4), (0xA8E0, 0xA8F1),
  (0xA92B, 0xA92D), (0xA953, 0xA953), (0xA9B3, 0xA9B3), (0xA9C0, 0xA9C0), (0xAABF, 0xAABF), (0xAAC1, 0xAAC1),
  (0xAAF6, 0xAAF6), (0xABEC, 0xABED), (0xFE00, 0xFE0F), (0xFE20, 0xFE2F), (0x101FD, 0x101FD),
  (0x102E0, 0x102E0), (0x10A38, 0x10A3A), (0x10A3F, 0x10A3F), (0x10AE5, 0x10AE6), (0x10D6A, 0x10D6D),
  (0x10EFD, 0x10EFF), (0x10F46, 0x10F50), (0x10F82, 0x10F85), (0x11046, 0x11046), (0x11070, 0x11070),
  (0x1107F, 0x1107F), (0x110B9, 0x110BA), (0x11133, 0x11134), (0x11173, 0x11173), (0x111C0, 0x111C0),
  (0x111C9, 0x111CC), (0x11235, 0x11236), (0x112E9, 0x112EA), (0x1133B, 0x1133C), (0x1134D, 0x1134D),
  (0x11366, 0x1136C), (0x11370, 0x11374), (0x113CE, 0x113D0), (0x113D2, 0x113D2), (0x113E1, 0x113E2),
  (0x11442, 0x11442), (0x11446, 0x11446), (0x1145E, 0x1145E), (0x114C2, 0x114C3), (0x115BF, 0x115C0),
  (0x1163F, 0x1163F), (0x116B6, 0x116B7), (0x1172B, 0x1172B), (0x11839, 0x1183A), (0x1193D, 0x1193E),
  (0x11943, 0x11943), (0x119E0, 0x119E0), (0x11A33, 0x11A34), (0x11A47, 0x11A47), (0x11A98, 0x11A99),
  (0x11C3F, 0x11C3F), (0x11D42, 0x11D42), (0x11D44, 0x11D45), (0x11D97, 0x11D97), (0x11F41, 0x11F42),
  (0x11F5A, 0x11F5A), (0x13440, 0x13440), (0x13447, 0x13455), (0x1612F, 0x1612F), (0x16AF0, 0x16AF4),
  (0x16B30, 0x16B36), (0x16FE4, 0x16FE4), (0x1BC9D, 0x1BC9D), (0x1CF00, 0x1CF2D), (0x1CF30, 0x1CF46),
  (0x1D165, 0x1D169), (0x1D16D, 0x1D172), (0x1D17B, 0x1D182), (0x1D185, 0x1D18B), (0x1D1AA, 0x1D1AD),
  (0x1D242, 0x1D244), (0x1DA00, 0x1DA36), (0x1DA3B, 0x1DA6C), (0x1DA75, 0x1DA75), (0x1DA84, 0x1DA84),
  (0x1DA9B, 0x1DA9F), (0x1DAA1, 0x1DAAF), (0x1E130, 0x1E136), (0x1E2AE, 0x1E2AE), (0x1E2EC, 0x1E2EF),
  (0x1E4EC, 0x1E4EF), (0x1E5EE, 0x1E5EF), (0x1E8D0, 0x1E8D6), (0x1E944, 0x1E946), (0x1E948, 0x1E94A),
  (0xE0100, 0xE01EF)]

/-- A decimal digit of any script. -/
def isDecimalDigit (c : Char) : Bool := c.isDigit || inRanges decimalDigitRanges c.toNat

/-- A letter or number in the wider sense that no Java name has. -/
def isForeign (c : Char) : Bool := inRanges (otherNumberRanges ++ letterSymbolRanges) c.toNat

/-- A letter, letter number, decimal digit or mark, or an underscore. -/
def isIdentifierChar (c : Char) : Bool :=
  isAlphanumeric c && !isForeign c || c == '_' || inRanges combiningMarkRanges c.toNat

/-! ### Ranges -/

/-- One of the ranges has all code points of an interval. -/
def within (ranges : List (Nat × Nat)) (low high : Nat) : Bool := ranges.any fun r => r.1.ble low && high.ble r.2

/-- None of the ranges has a code point of an interval. -/
def outside (ranges : List (Nat × Nat)) (low high : Nat) : Bool := ranges.all fun r => high.blt r.1 || r.2.blt low

section Ranges
variable {ranges : List (Nat × Nat)} {low high code : Nat} (hlow : low ≤ code) (hhigh : code ≤ high)
include hlow hhigh

theorem inRanges_of_within (h : within ranges low high = true) : inRanges ranges code = true := by
  simp only [within, inRanges, List.any_eq_true, Bool.and_eq_true, Nat.ble_eq, decide_eq_true_eq] at h ⊢
  obtain ⟨r, hr, hfirst, hlast⟩ := h
  exact ⟨r, hr, by omega, by omega⟩

theorem not_inRanges_of_outside (h : outside ranges low high = true) : inRanges ranges code = false := by
  simp only [outside, inRanges, List.all_eq_true, List.any_eq_false, Bool.or_eq_true, Bool.and_eq_true, Nat.blt_eq,
    decide_eq_true_eq] at h ⊢
  intro r hr
  have := h r hr
  omega

end Ranges

/-! ### Letters with case -/

/-- Letters that upper case changes or leads to, those of ASCII and those in circles aside. -/
def casedRanges : List (Nat × Nat) := [
  (0xB5, 0xB5), (0xC0, 0xD6), (0xD8, 0xF6), (0xF8, 0x2BE), (0x345, 0x345), (0x370, 0x373), (0x376, 0x377),
  (0x37B, 0x37D), (0x37F, 0x37F), (0x386, 0x386), (0x388, 0x38A), (0x38C, 0x38C), (0x38E, 0x3A1),
  (0x3A3, 0x3F5), (0x3F7, 0x481), (0x48A, 0x52F), (0x531, 0x556), (0x561, 0x587), (0x10A0, 0x10C5),
  (0x10C7, 0x10C7), (0x10CD, 0x10CD), (0x10D0, 0x10FA), (0x10FD, 0x10FF), (0x13A0, 0x13F5), (0x13F8, 0x13FD),
  (0x1C80, 0x1C8A), (0x1C90, 0x1CBA), (0x1CBD, 0x1CBF), (0x1D79, 0x1D8E), (0x1E00, 0x1F15), (0x1F18, 0x1F1D),
  (0x1F20, 0x1F45), (0x1F48, 0x1F4D), (0x1F50, 0x1F57), (0x1F59, 0x1F59), (0x1F5B, 0x1F5B), (0x1F5D, 0x1F5D),
  (0x1F5F, 0x1F7D), (0x1F80, 0x1FB4), (0x1FB6, 0x1FBC), (0x1FBE, 0x1FBE), (0x1FC2, 0x1FC4), (0x1FC6, 0x1FCC),
  (0x1FD0, 0x1FD3), (0x1FD6, 0x1FDB), (0x1FE0, 0x1FEC), (0x1FF2, 0x1FF4), (0x1FF6, 0x1FFC), (0x2132, 0x2132),
  (0x214E, 0x214E), (0x2160, 0x2184), (0x2C00, 0x2CE3), (0x2CEB, 0x2CEE), (0x2CF2, 0x2CF3), (0x2D00, 0x2D25),
  (0x2D27, 0x2D27), (0x2D2D, 0x2D2D), (0xA640, 0xA66D), (0xA680, 0xA69B), (0xA722, 0xA787), (0xA78B, 0xA7DC),
  (0xA7F5, 0xA7F6), (0xAB53, 0xAB53), (0xAB70, 0xABBF), (0xFB00, 0xFB06), (0xFB13, 0xFB17), (0xFF21, 0xFF3A),
  (0xFF41, 0xFF5A), (0x10400, 0x1044F), (0x104B0, 0x104D3), (0x104D8, 0x104FB), (0x10570, 0x1057A),
  (0x1057C, 0x1058A), (0x1058C, 0x10592), (0x10594, 0x10595), (0x10597, 0x105A1), (0x105A3, 0x105B1),
  (0x105B3, 0x105B9), (0x105BB, 0x105BC), (0x10C80, 0x10CB2), (0x10CC0, 0x10CF2), (0x10D50, 0x10D65),
  (0x10D70, 0x10D85), (0x118A0, 0x118DF), (0x16E40, 0x16E7F), (0x16EA0, 0x16EB8), (0x16EBB, 0x16ED3),
  (0x1E900, 0x1E943)]

/-- Whether code points of an interval are characters outside ASCII. -/
def beyondAscii (low high : Nat) : Bool :=
  Nat.ble 0x80 low && (high.blt 0xD800 || Nat.blt 0xDFFF low && high.blt 0x110000)

theorem casedRanges_letters : casedRanges.all (fun r => beyondAscii r.1 r.2 && within alphanumericRanges r.1 r.2 &&
    outside decimalDigitRanges r.1 r.2 && outside (otherNumberRanges ++ letterSymbolRanges) r.1 r.2) = true := by
  decide +kernel

theorem letterSymbolRanges_symbols : letterSymbolRanges.all (fun r => beyondAscii r.1 r.2 &&
    outside decimalDigitRanges r.1 r.2 && outside combiningMarkRanges r.1 r.2) = true := by
  decide +kernel

theorem toNat_charOfNat {n : Nat} (h : n < 0xD800 ∨ 0xDFFF < n ∧ n < 0x110000) : (Char.ofNat n).toNat = n := by
  have hvalid : n.isValidChar := h
  rw [Char.ofNat, dif_pos hvalid]
  rfl

/-- What can be checked of all codes of ASCII holds of its characters. -/
theorem of_ascii_codes {P : Char → Prop} (h : ∀ n < 0x80, P (Char.ofNat n)) : ∀ c : Char, c.toNat < 0x80 → P c := by
  intro c hc
  have hcode := h c.toNat hc
  rwa [Char.ofNat_toNat] at hcode

theorem ascii_outside :
    (outside decimalDigitRanges 0 0x7F && outside (otherNumberRanges ++ letterSymbolRanges) 0 0x7F) = true := by
  decide +kernel

section Ascii
variable {c : Char} (h : c.toNat < 0x80)
include h

theorem isDecimalDigit_ascii : isDecimalDigit c = c.isDigit := by
  have houtside := (Bool.and_eq_true_iff.mp ascii_outside).1
  rw [isDecimalDigit, not_inRanges_of_outside (Nat.zero_le _) (by omega) houtside, Bool.or_false]

theorem isIdentifierChar_ascii (hc : c.isAlphanum = true) : isIdentifierChar c = true := by
  have houtside := (Bool.and_eq_true_iff.mp ascii_outside).2
  have hforeign : isForeign c = false := not_inRanges_of_outside (Nat.zero_le _) (by omega) houtside
  simp [isIdentifierChar, isAlphanumeric, h, hc, hforeign]

end Ascii

section BeyondAscii
variable {c : Char} (h : 0x80 ≤ c.toNat)
include h

theorem not_isLower_of_le : c.isLower = false := by
  have hz : ('z' : Char).val.toNat = 122 := rfl
  have hc : c.toNat = c.val.toNat := rfl
  have hlower : c.isLower = (decide (c.val ≥ 'a'.val) && decide (c.val ≤ 'z'.val)) := rfl
  simp only [hlower, Bool.and_eq_false_iff, decide_eq_false_iff_not, ge_iff_le, UInt32.le_iff_toNat_le]
  omega

theorem not_isDigit_of_le : c.isDigit = false := by
  have hnine : ('9' : Char).val.toNat = 57 := rfl
  have hc : c.toNat = c.val.toNat := rfl
  simp only [Char.isDigit, Bool.and_eq_false_iff, decide_eq_false_iff_not, ge_iff_le, UInt32.le_iff_toNat_le]
  omega

theorem ne_underscore_of_le : c ≠ '_' := by
  rintro rfl
  exact absurd h (by decide)

end BeyondAscii

/-- A letter that is not one of the small letters of ASCII. -/
structure IsLetter (c : Char) : Prop where
  identifier : isIdentifierChar c = true
  digit : isDecimalDigit c = false
  lower : c.isLower = false
  underscore : c ≠ '_'

theorem letter_of_cased {n : Nat} (h : inRanges casedRanges n = true) :
    (Char.ofNat n).toNat = n ∧ IsLetter (Char.ofNat n) := by
  obtain ⟨r, hr, hrange⟩ := List.any_eq_true.mp h
  have hletters := List.all_eq_true.mp casedRanges_letters r hr
  simp only [beyondAscii, Bool.and_eq_true, Bool.or_eq_true, Nat.ble_eq, Nat.blt_eq,
    decide_eq_true_eq] at hletters hrange
  obtain ⟨⟨⟨⟨hfirst, hvalid⟩, halphanumeric⟩, hdigit⟩, hforeign⟩ := hletters
  have hcode : (Char.ofNat n).toNat = n := toNat_charOfNat (by omega)
  have hfrom : 0x80 ≤ (Char.ofNat n).toNat := by omega
  have hwide : isAlphanumeric (Char.ofNat n) = true := by
    rw [isAlphanumeric, if_neg (by omega), hcode]
    exact inRanges_of_within hrange.1 hrange.2 halphanumeric
  have hnarrow : isForeign (Char.ofNat n) = false := by
    rw [isForeign, hcode]
    exact not_inRanges_of_outside hrange.1 hrange.2 hforeign
  refine ⟨hcode, by simp [isIdentifierChar, hwide, hnarrow], ?_, not_isLower_of_le hfrom, ne_underscore_of_le hfrom⟩
  rw [isDecimalDigit, not_isDigit_of_le hfrom, hcode]
  exact not_inRanges_of_outside hrange.1 hrange.2 hdigit

theorem symbol_of_letterSymbol {n : Nat} (h : inRanges letterSymbolRanges n = true) :
    (Char.ofNat n).toNat = n ∧ 0x80 ≤ n ∧ isIdentifierChar (Char.ofNat n) = false ∧
      isDecimalDigit (Char.ofNat n) = false := by
  obtain ⟨r, hr, hrange⟩ := List.any_eq_true.mp h
  have hsymbols := List.all_eq_true.mp letterSymbolRanges_symbols r hr
  simp only [beyondAscii, Bool.and_eq_true, Bool.or_eq_true, Nat.ble_eq, Nat.blt_eq,
    decide_eq_true_eq] at hsymbols hrange
  obtain ⟨⟨⟨hfirst, hvalid⟩, hdigit⟩, hmark⟩ := hsymbols
  have hcode : (Char.ofNat n).toNat = n := toNat_charOfNat (by omega)
  have hfrom : 0x80 ≤ (Char.ofNat n).toNat := by omega
  have hforeign : isForeign (Char.ofNat n) = true := by
    rw [isForeign, hcode, inRanges, List.any_append]
    exact Bool.or_eq_true_iff.mpr (Or.inr h)
  have hunmarked : inRanges combiningMarkRanges n = false := not_inRanges_of_outside hrange.1 hrange.2 hmark
  refine ⟨hcode, by omega, by simp [isIdentifierChar, hforeign, hcode, hunmarked, ne_underscore_of_le hfrom], ?_⟩
  rw [isDecimalDigit, not_isDigit_of_le hfrom, hcode]
  exact not_inRanges_of_outside hrange.1 hrange.2 hdigit

/-! ### Upper case -/

theorem uppercase_cases (c : Char) : c.toNat < 0x80 ∧ uppercase c = [c.toUpper] ∨ 0x80 ≤ c.toNat ∧
    ((∃ codes, (c.toNat, codes) ∈ upperExpansions ∧ uppercase c = codes.map Char.ofNat) ∨
      (∃ run ∈ upperRuns, run.covers c.toNat = true ∧ uppercase c = [Char.ofNat (c.toNat + run.offset).toNat]) ∨
      uppercase c = [c]) := by
  unfold uppercase
  dsimp only
  split
  · rename_i hascii
    exact Or.inl ⟨hascii, rfl⟩
  · rename_i hascii
    refine Or.inr ⟨Nat.le_of_not_lt hascii, ?_⟩
    split
    · rename_i codes hlookup
      obtain ⟨front, back, hlist, -⟩ := List.lookup_eq_some_iff.mp hlookup
      exact Or.inl ⟨codes, hlist ▸ List.mem_append_right front List.mem_cons_self, rfl⟩
    · split
      · rename_i run hrun
        have hcovers : run.covers c.toNat = true := by simpa using List.find?_some hrun
        exact Or.inr (Or.inl ⟨run, List.mem_of_find?_eq_some hrun, hcovers, rfl⟩)
      · exact Or.inr (Or.inr rfl)

/-- Capitals of ASCII, and letters with case outside of it. -/
def isCapitalCode (n : Nat) : Bool := Nat.ble 0x41 n && n.ble 0x5A || inRanges casedRanges n

theorem letter_of_capitalCode {n : Nat} (h : isCapitalCode n = true) : IsLetter (Char.ofNat n) := by
  rcases Bool.or_eq_true_iff.mp h with h | h
  · have hcapitals : ∀ i < 26, (Char.ofNat (0x41 + i)).toNat < 0x80 ∧ (Char.ofNat (0x41 + i)).isAlphanum = true ∧
        (Char.ofNat (0x41 + i)).isDigit = false ∧ (Char.ofNat (0x41 + i)).isLower = false ∧
        Char.ofNat (0x41 + i) ≠ '_' := by decide
    simp only [Bool.and_eq_true, Nat.ble_eq] at h
    obtain ⟨i, rfl⟩ := Nat.exists_eq_add_of_le h.1
    obtain ⟨hascii, halphanum, hdigit, hlower, hunderscore⟩ := hcapitals i (by omega)
    exact ⟨isIdentifierChar_ascii hascii halphanum, (isDecimalDigit_ascii hascii).trans hdigit, hlower, hunderscore⟩
  · exact (letter_of_cased h).2

/-- A run of letters is moved to letters, or one of letters in circles to letters in circles. -/
def CaseRun.staysLetters (r : CaseRun) : Bool :=
  match (r.first : Int) + r.offset, (r.last : Int) + r.offset with
  | .ofNat low, .ofNat high =>
    within casedRanges r.first r.last && (within casedRanges low high || Nat.ble 0x41 low && high.ble 0x5A ||
      (List.range ((r.last - r.first) / r.step + 1)).all fun i => inRanges casedRanges (low + r.step * i)) ||
    within letterSymbolRanges r.first r.last && within letterSymbolRanges low high
  | _, _ => false

theorem upperRuns_staysLetters : upperRuns.all CaseRun.staysLetters = true := by decide +kernel

theorem upperExpansions_letters : upperExpansions.all (fun e => inRanges casedRanges e.1 && !e.2.isEmpty &&
    isCapitalCode (e.2.headD 0) && e.2.tail.all fun n =>
      isCapitalCode n || n.blt 0xD800 && inRanges combiningMarkRanges n) = true := by
  decide +kernel

/-- What the first character of the upper case of a letter or number has in common with it. -/
structure Raised (c d : Char) : Prop where
  identifier : isIdentifierChar d = isIdentifierChar c
  digit : d = c ∨ isDecimalDigit c = false ∧ isDecimalDigit d = false
  lower : d.isLower = false
  underscore : d ≠ '_'

theorem Raised.of_letters {c d : Char} (hidentifier : isIdentifierChar c = true) (hdigit : isDecimalDigit c = false)
    (hd : IsLetter d) : Raised c d :=
  ⟨hd.identifier.trans hidentifier.symm, Or.inr ⟨hdigit, hd.digit⟩, hd.lower, hd.underscore⟩

theorem CaseRun.moves {r : CaseRun} (hr : r.staysLetters = true) {code : Nat} (hcode : r.covers code = true) :
    inRanges casedRanges code = true ∧ isCapitalCode (code + r.offset).toNat = true ∨
      inRanges letterSymbolRanges code = true ∧ inRanges letterSymbolRanges (code + r.offset).toNat = true := by
  simp only [CaseRun.covers, Bool.and_eq_true, decide_eq_true_eq, beq_iff_eq] at hcode
  obtain ⟨⟨hfirst, hlast⟩, hstep⟩ := hcode
  unfold staysLetters at hr
  split at hr
  · rename_i low high hlow hhigh
    -- The interval that the run is moved to starts at `low`.
    have hlow' : (r.first : Int) + r.offset = low := hlow
    have hhigh' : (r.last : Int) + r.offset = high := hhigh
    obtain ⟨target, htarget⟩ : ∃ target : Nat, (code + r.offset).toNat = target ∧ target = low + (code - r.first) :=
      ⟨_, rfl, by omega⟩
    rw [htarget.1]
    simp only [Bool.or_eq_true, Bool.and_eq_true] at hr
    rcases hr with ⟨hsource, hmoved⟩ | ⟨hsource, hmoved⟩
    · refine Or.inl ⟨inRanges_of_within hfirst hlast hsource, Bool.or_eq_true_iff.mpr ?_⟩
      rcases hmoved with (hmoved | ⟨hA, hZ⟩) | hmoved
      · exact Or.inr (inRanges_of_within (by omega) (by omega) hmoved)
      · simp only [Nat.ble_eq, Bool.and_eq_true] at hA hZ ⊢
        exact Or.inl (by omega)
      · -- The code points are spread over several ranges; one of the steps leads to this one.
        have hsteps : r.step * ((code - r.first) / r.step) = code - r.first :=
          Nat.mul_div_cancel' (Nat.dvd_of_mod_eq_zero hstep)
        have hmem : (code - r.first) / r.step ∈ List.range ((r.last - r.first) / r.step + 1) :=
          List.mem_range.mpr (Nat.lt_succ_of_le (Nat.div_le_div_right (by omega)))
        rw [htarget.2, ← hsteps]
        exact Or.inr (List.all_eq_true.mp hmoved _ hmem)
    · exact Or.inr ⟨inRanges_of_within hfirst hlast hsource, inRanges_of_within (by omega) (by omega) hmoved⟩
  · cases hr

theorem raised_of_ascii {c : Char} (hascii : c.toNat < 0x80) (hc : isAlphanumeric c = true) : Raised c c.toUpper := by
  have hupper : ∀ c : Char, c.toNat < 0x80 → c.isAlphanum = true → c.toUpper.toNat < 0x80 ∧ c.toUpper.isAlphanum = true ∧
      (c.toUpper = c ∨ c.isDigit = false ∧ c.toUpper.isDigit = false) ∧ c.toUpper.isLower = false ∧ c.toUpper ≠ '_' :=
    of_ascii_codes (by decide +kernel)
  rw [isAlphanumeric, if_pos hascii] at hc
  obtain ⟨hascii', hc', hdigit, hlower, hunderscore⟩ := hupper c hascii hc
  refine ⟨?_, ?_, hlower, hunderscore⟩
  · rw [isIdentifierChar_ascii hascii hc, isIdentifierChar_ascii hascii' hc']
  · rwa [isDecimalDigit_ascii hascii, isDecimalDigit_ascii hascii']

theorem raised_of_expansion {c : Char} {codes : List Nat} (h : (c.toNat, codes) ∈ upperExpansions) :
    ∃ d ds, codes.map Char.ofNat = d :: ds ∧ Raised c d ∧ ∀ x ∈ ds, isIdentifierChar x = true := by
  have hletters := List.all_eq_true.mp upperExpansions_letters _ h
  cases codes with
  | nil => simp at hletters
  | cons first rest =>
    simp only [List.isEmpty_cons, Bool.not_false, List.headD_cons, List.tail_cons, Bool.and_true, Bool.and_eq_true,
      List.all_eq_true] at hletters
    obtain ⟨⟨hsource, hfirst⟩, hrest⟩ := hletters
    obtain ⟨-, hletter⟩ := letter_of_cased hsource
    rw [Char.ofNat_toNat] at hletter
    refine ⟨_, _, rfl, .of_letters hletter.identifier hletter.digit (letter_of_capitalCode hfirst), fun x hx => ?_⟩
    obtain ⟨n, hn, rfl⟩ := List.mem_map.mp hx
    rcases Bool.or_eq_true_iff.mp (hrest n hn) with h | h
    · exact (letter_of_capitalCode h).identifier
    · simp only [Bool.and_eq_true, Nat.blt_eq] at h
      simp [isIdentifierChar, toNat_charOfNat (Or.inl h.1), h.2]

theorem raised_of_run {c : Char} {run : CaseRun} (hrun : run ∈ upperRuns) (hcovers : run.covers c.toNat = true) :
    Raised c (Char.ofNat (c.toNat + run.offset).toNat) := by
  have hself : Char.ofNat c.toNat = c := Char.ofNat_toNat c
  rcases CaseRun.moves (List.all_eq_true.mp upperRuns_staysLetters run hrun) hcovers with
    ⟨hsource, htarget⟩ | ⟨hsource, htarget⟩
  · obtain ⟨-, hletter⟩ := letter_of_cased hsource
    rw [hself] at hletter
    exact .of_letters hletter.identifier hletter.digit (letter_of_capitalCode htarget)
  · obtain ⟨-, -, hidentifier, hdigit⟩ := symbol_of_letterSymbol hsource
    obtain ⟨hcode, hhigh, hidentifier', hdigit'⟩ := symbol_of_letterSymbol htarget
    rw [hself] at hidentifier hdigit
    rw [← hcode] at hhigh
    exact ⟨hidentifier'.trans hidentifier.symm, Or.inr ⟨hdigit, hdigit'⟩, not_isLower_of_le hhigh,
      ne_underscore_of_le hhigh⟩

/-- Upper case keeps what matters in names. -/
theorem uppercase_raised {c : Char} (hc : isAlphanumeric c = true) : ∃ d ds, uppercase c = d :: ds ∧ Raised c d ∧
    ∀ x ∈ ds, isIdentifierChar x = true := by
  rcases uppercase_cases c with
    ⟨hascii, hupper⟩ | ⟨hfrom, ⟨codes, hcodes, hupper⟩ | ⟨run, hrun, hcovers, hupper⟩ | hupper⟩
  · exact ⟨_, [], hupper, raised_of_ascii hascii hc, by simp⟩
  · rw [hupper]
    exact raised_of_expansion hcodes
  · exact ⟨_, [], hupper, raised_of_run hrun hcovers, by simp⟩
  · exact ⟨c, [], hupper, ⟨rfl, Or.inl rfl, not_isLower_of_le hfrom, ne_underscore_of_le hfrom⟩, by simp⟩

end SchemaBeans.Text
