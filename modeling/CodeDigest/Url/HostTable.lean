/-!
# The characters of host names: the tables

In the name of a host many characters stand for others: letters and digits of another width or style
for plain ones, a ligature for its letters, a sign for what it abbreviates.  This is the data behind
`CodeDigest.Host.plainForm`, for the characters outside ASCII whose plain form is not their
lowercase form, and for those that are dropped or that no name holds.
-/

namespace CodeDigest.Host

/-- Characters `first, first + stride, …, last`, with the plain forms `image, image + step, …`. -/
structure PlainRun where
  first : Nat
  last : Nat
  stride : Nat
  image : Nat
  step : Nat

namespace PlainRun

/-- Whether a code point is one of the run. -/
def covers (r : PlainRun) (n : Nat) : Bool :=
  r.first ≤ n && n ≤ r.last && (n - r.first) % r.stride == 0

/-- The plain form of a code point of the run. -/
def imageOf (r : PlainRun) (n : Nat) : Nat := r.image + (n - r.first) / r.stride * r.step

end PlainRun

/-- Runs of characters with a plain form of one character. -/
def plainRuns : List PlainRun :=
  [⟨0xB2, 0xB3, 1, 0x32, 1⟩, ⟨0x2B4, 0x2B5, 1, 0x279, 2⟩, ⟨0x2B7, 0x2B8, 1, 0x77, 2⟩,
   ⟨0x340, 0x341, 1, 0x300, 1⟩, ⟨0x3F1, 0x3F2, 1, 0x3C1, 2⟩, ⟨0x13A0, 0x13F5, 1, 0x13A0, 1⟩,
   ⟨0x1C80, 0x1C81, 1, 0x432, 2⟩, ⟨0x1C83, 0x1C84, 1, 0x441, 1⟩, ⟨0x1D2E, 0x1D30, 2, 0x62, 2⟩,
   ⟨0x1D33, 0x1D3A, 1, 0x67, 1⟩, ⟨0x1D3E, 0x1D40, 1, 0x70, 2⟩, ⟨0x1D41, 0x1D42, 1, 0x75, 2⟩,
   ⟨0x1D44, 0x1D45, 1, 0x250, 1⟩, ⟨0x1D47, 0x1D48, 1, 0x62, 2⟩, ⟨0x1D4A, 0x1D4B, 1, 0x259, 2⟩,
   ⟨0x1D4F, 0x1D50, 1, 0x6B, 2⟩, ⟨0x1D57, 0x1D58, 1, 0x74, 1⟩, ⟨0x1D5D, 0x1D5F, 1, 0x3B2, 1⟩,
   ⟨0x1D60, 0x1D61, 1, 0x3C6, 1⟩, ⟨0x1D64, 0x1D65, 1, 0x75, 1⟩, ⟨0x1D66, 0x1D67, 1, 0x3B2, 1⟩,
   ⟨0x1D69, 0x1D6A, 1, 0x3C6, 1⟩, ⟨0x1DA1, 0x1DA2, 1, 0x25F, 2⟩, ⟨0x1DA4, 0x1DA6, 1, 0x268, 1⟩,
   ⟨0x1DAD, 0x1DAE, 1, 0x270, 2⟩, ⟨0x1DAF, 0x1DB1, 1, 0x273, 1⟩, ⟨0x1DB3, 0x1DB4, 1, 0x282, 1⟩,
   ⟨0x1DB6, 0x1DB7, 1, 0x289, 1⟩, ⟨0x1DB9, 0x1DBA, 1, 0x28B, 1⟩, ⟨0x1DBC, 0x1DBE, 1, 0x290, 1⟩,
   ⟨0x1F71, 0x1F77, 2, 0x3AC, 1⟩, ⟨0x1F79, 0x1F7D, 2, 0x3CC, 1⟩, ⟨0x1FC9, 0x1FCB, 2, 0x3AD, 1⟩,
   ⟨0x1FF9, 0x1FFB, 2, 0x3CC, 2⟩, ⟨0x2000, 0x200A, 1, 0x20, 0⟩, ⟨0x2074, 0x2079, 1, 0x34, 1⟩,
   ⟨0x207D, 0x207E, 1, 0x28, 1⟩, ⟨0x2080, 0x2089, 1, 0x30, 1⟩, ⟨0x208D, 0x208E, 1, 0x28, 1⟩,
   ⟨0x2096, 0x2099, 1, 0x6B, 1⟩, ⟨0x209B, 0x209C, 1, 0x73, 1⟩, ⟨0x210A, 0x210B, 1, 0x67, 1⟩,
   ⟨0x210C, 0x210E, 1, 0x68, 0⟩, ⟨0x2110, 0x2111, 1, 0x69, 0⟩, ⟨0x2112, 0x2113, 1, 0x6C, 0⟩,
   ⟨0x2119, 0x211B, 1, 0x70, 1⟩, ⟨0x211C, 0x211D, 1, 0x72, 0⟩, ⟨0x212C, 0x212D, 1, 0x62, 1⟩,
   ⟨0x212F, 0x2130, 1, 0x65, 0⟩, ⟨0x2133, 0x2134, 1, 0x6D, 2⟩, ⟨0x213D, 0x213E, 1, 0x3B3, 0⟩,
   ⟨0x2145, 0x2146, 1, 0x64, 0⟩, ⟨0x2148, 0x2149, 1, 0x69, 1⟩, ⟨0x216D, 0x216E, 1, 0x63, 1⟩,
   ⟨0x217D, 0x217E, 1, 0x63, 1⟩, ⟨0x2460, 0x2468, 1, 0x31, 1⟩, ⟨0x24B6, 0x24CF, 1, 0x61, 1⟩,
   ⟨0x24D0, 0x24E9, 1, 0x61, 1⟩, ⟨0xA69C, 0xA69D, 1, 0x44A, 2⟩, ⟨0xFE13, 0xFE14, 1, 0x3A, 1⟩,
   ⟨0xFE33, 0xFE34, 1, 0x5F, 0⟩, ⟨0xFE35, 0xFE36, 1, 0x28, 1⟩, ⟨0xFE37, 0xFE38, 1, 0x7B, 2⟩,
   ⟨0xFE47, 0xFE48, 1, 0x5B, 2⟩, ⟨0xFE4D, 0xFE4F, 1, 0x5F, 0⟩, ⟨0xFE59, 0xFE5A, 1, 0x28, 1⟩,
   ⟨0xFE5B, 0xFE5C, 1, 0x7B, 2⟩, ⟨0xFE61, 0xFE62, 1, 0x2A, 1⟩, ⟨0xFE64, 0xFE65, 1, 0x3C, 2⟩,
   ⟨0xFE69, 0xFE6A, 1, 0x24, 1⟩, ⟨0xFF01, 0xFF20, 1, 0x21, 1⟩, ⟨0xFF21, 0xFF3A, 1, 0x61, 1⟩,
   ⟨0xFF3B, 0xFF5E, 1, 0x5B, 1⟩, ⟨0xFF67, 0xFF6B, 1, 0x30A1, 2⟩, ⟨0xFF6C, 0xFF6E, 1, 0x30E3, 2⟩,
   ⟨0xFF71, 0xFF75, 1, 0x30A2, 2⟩, ⟨0xFF76, 0xFF81, 1, 0x30AB, 2⟩, ⟨0xFF82, 0xFF85, 1, 0x30C4, 2⟩,
   ⟨0xFF86, 0xFF8A, 1, 0x30CB, 1⟩, ⟨0xFF8F, 0xFF93, 1, 0x30DE, 1⟩, ⟨0xFF94, 0xFF96, 1, 0x30E4, 2⟩,
   ⟨0xFF97, 0xFF9B, 1, 0x30E9, 1⟩, ⟨0xFF9E, 0xFF9F, 1, 0x3099, 1⟩, ⟨0xFFE0, 0xFFE1, 1, 0xA2, 1⟩,
   ⟨0x10781, 0x10782, 1, 0x2D0, 1⟩, ⟨0x10787, 0x10789, 2, 0x2A3, 2⟩,
   ⟨0x1078B, 0x1078C, 1, 0x256, 1⟩, ⟨0x10799, 0x1079A, 1, 0x2AA, 1⟩,
   ⟨0x107A3, 0x107A4, 1, 0x276, 1⟩, ⟨0x107A8, 0x107A9, 1, 0x27D, 1⟩,
   ⟨0x107AC, 0x107AE, 2, 0x2A6, 1⟩, ⟨0x107B3, 0x107B4, 1, 0x2A1, 1⟩,
   ⟨0x107B6, 0x107B8, 1, 0x1C0, 1⟩, ⟨0x1D400, 0x1D419, 1, 0x61, 1⟩, ⟨0x1D41A, 0x1D433, 1, 0x61, 1⟩,
   ⟨0x1D434, 0x1D44D, 1, 0x61, 1⟩, ⟨0x1D44E, 0x1D454, 1, 0x61, 1⟩, ⟨0x1D456, 0x1D467, 1, 0x69, 1⟩,
   ⟨0x1D468, 0x1D481, 1, 0x61, 1⟩, ⟨0x1D482, 0x1D49B, 1, 0x61, 1⟩, ⟨0x1D49C, 0x1D49E, 2, 0x61, 2⟩,
   ⟨0x1D4A5, 0x1D4A6, 1, 0x6A, 1⟩, ⟨0x1D4A9, 0x1D4AC, 1, 0x6E, 1⟩, ⟨0x1D4AE, 0x1D4B5, 1, 0x73, 1⟩,
   ⟨0x1D4B6, 0x1D4B9, 1, 0x61, 1⟩, ⟨0x1D4BB, 0x1D4BD, 2, 0x66, 2⟩, ⟨0x1D4BE, 0x1D4C3, 1, 0x69, 1⟩,
   ⟨0x1D4C5, 0x1D4CF, 1, 0x70, 1⟩, ⟨0x1D4D0, 0x1D4E9, 1, 0x61, 1⟩, ⟨0x1D4EA, 0x1D503, 1, 0x61, 1⟩,
   ⟨0x1D504, 0x1D505, 1, 0x61, 1⟩, ⟨0x1D507, 0x1D50A, 1, 0x64, 1⟩, ⟨0x1D50D, 0x1D514, 1, 0x6A, 1⟩,
   ⟨0x1D516, 0x1D51C, 1, 0x73, 1⟩, ⟨0x1D51E, 0x1D537, 1, 0x61, 1⟩, ⟨0x1D538, 0x1D539, 1, 0x61, 1⟩,
   ⟨0x1D53B, 0x1D53E, 1, 0x64, 1⟩, ⟨0x1D540, 0x1D544, 1, 0x69, 1⟩, ⟨0x1D54A, 0x1D550, 1, 0x73, 1⟩,
   ⟨0x1D552, 0x1D56B, 1, 0x61, 1⟩, ⟨0x1D56C, 0x1D585, 1, 0x61, 1⟩, ⟨0x1D586, 0x1D59F, 1, 0x61, 1⟩,
   ⟨0x1D5A0, 0x1D5B9, 1, 0x61, 1⟩, ⟨0x1D5BA, 0x1D5D3, 1, 0x61, 1⟩, ⟨0x1D5D4, 0x1D5ED, 1, 0x61, 1⟩,
   ⟨0x1D5EE, 0x1D607, 1, 0x61, 1⟩, ⟨0x1D608, 0x1D621, 1, 0x61, 1⟩, ⟨0x1D622, 0x1D63B, 1, 0x61, 1⟩,
   ⟨0x1D63C, 0x1D655, 1, 0x61, 1⟩, ⟨0x1D656, 0x1D66F, 1, 0x61, 1⟩, ⟨0x1D670, 0x1D689, 1, 0x61, 1⟩,
   ⟨0x1D68A, 0x1D6A3, 1, 0x61, 1⟩, ⟨0x1D6A8, 0x1D6B8, 1, 0x3B1, 1⟩,
   ⟨0x1D6BA, 0x1D6C0, 1, 0x3C3, 1⟩, ⟨0x1D6C2, 0x1D6D2, 1, 0x3B1, 1⟩,
   ⟨0x1D6D3, 0x1D6D4, 1, 0x3C3, 0⟩, ⟨0x1D6D5, 0x1D6DA, 1, 0x3C4, 1⟩,
   ⟨0x1D6DD, 0x1D6DE, 1, 0x3B8, 2⟩, ⟨0x1D6E2, 0x1D6F2, 1, 0x3B1, 1⟩,
   ⟨0x1D6F4, 0x1D6FA, 1, 0x3C3, 1⟩, ⟨0x1D6FC, 0x1D70C, 1, 0x3B1, 1⟩,
   ⟨0x1D70D, 0x1D70E, 1, 0x3C3, 0⟩, ⟨0x1D70F, 0x1D714, 1, 0x3C4, 1⟩,
   ⟨0x1D717, 0x1D718, 1, 0x3B8, 2⟩, ⟨0x1D71C, 0x1D72C, 1, 0x3B1, 1⟩,
   ⟨0x1D72E, 0x1D734, 1, 0x3C3, 1⟩, ⟨0x1D736, 0x1D746, 1, 0x3B1, 1⟩,
   ⟨0x1D747, 0x1D748, 1, 0x3C3, 0⟩, ⟨0x1D749, 0x1D74E, 1, 0x3C4, 1⟩,
   ⟨0x1D751, 0x1D752, 1, 0x3B8, 2⟩, ⟨0x1D756, 0x1D766, 1, 0x3B1, 1⟩,
   ⟨0x1D768, 0x1D76E, 1, 0x3C3, 1⟩, ⟨0x1D770, 0x1D780, 1, 0x3B1, 1⟩,
   ⟨0x1D781, 0x1D782, 1, 0x3C3, 0⟩, ⟨0x1D783, 0x1D788, 1, 0x3C4, 1⟩,
   ⟨0x1D78B, 0x1D78C, 1, 0x3B8, 2⟩, ⟨0x1D790, 0x1D7A0, 1, 0x3B1, 1⟩,
   ⟨0x1D7A2, 0x1D7A8, 1, 0x3C3, 1⟩, ⟨0x1D7AA, 0x1D7BA, 1, 0x3B1, 1⟩,
   ⟨0x1D7BB, 0x1D7BC, 1, 0x3C3, 0⟩, ⟨0x1D7BD, 0x1D7C2, 1, 0x3C4, 1⟩,
   ⟨0x1D7C5, 0x1D7C6, 1, 0x3B8, 2⟩, ⟨0x1D7CA, 0x1D7CB, 1, 0x3DD, 0⟩,
   ⟨0x1D7CE, 0x1D7D7, 1, 0x30, 1⟩, ⟨0x1D7D8, 0x1D7E1, 1, 0x30, 1⟩, ⟨0x1D7E2, 0x1D7EB, 1, 0x30, 1⟩,
   ⟨0x1D7EC, 0x1D7F5, 1, 0x30, 1⟩, ⟨0x1D7F6, 0x1D7FF, 1, 0x30, 1⟩, ⟨0x1E030, 0x1E038, 1, 0x430, 1⟩,
   ⟨0x1E039, 0x1E03B, 1, 0x43A, 1⟩, ⟨0x1E03C, 0x1E046, 1, 0x43E, 1⟩,
   ⟨0x1E047, 0x1E048, 1, 0x44B, 2⟩, ⟨0x1E04C, 0x1E04D, 1, 0x456, 2⟩,
   ⟨0x1E051, 0x1E059, 1, 0x430, 1⟩, ⟨0x1E05A, 0x1E05B, 1, 0x43A, 1⟩,
   ⟨0x1E05C, 0x1E05D, 1, 0x43E, 1⟩, ⟨0x1E05E, 0x1E05F, 1, 0x441, 2⟩,
   ⟨0x1E060, 0x1E064, 1, 0x444, 1⟩, ⟨0x1E065, 0x1E066, 1, 0x44A, 1⟩,
   ⟨0x1F130, 0x1F149, 1, 0x61, 1⟩, ⟨0x1FBF0, 0x1FBF9, 1, 0x30, 1⟩]

/-- Other characters, with their plain forms. -/
def plainExpansions : List (Nat × String) :=
  [(0xA0, " "), (0xA8, " \u0308"), (0xAA, "a"), (0xAF, " \u0304"), (0xB4, " \u0301"),
   (0xB5, "\u03BC"), (0xB8, " \u0327"), (0xB9, "1"), (0xBA, "o"), (0x132, "ij"), (0x133, "ij"),
   (0x13F, "l\u00B7"), (0x140, "l\u00B7"), (0x149, "\u02BCn"), (0x17F, "s"), (0x1C4, "d\u017E"),
   (0x1C5, "d\u017E"), (0x1C6, "d\u017E"), (0x1C7, "lj"), (0x1C8, "lj"), (0x1C9, "lj"),
   (0x1CA, "nj"), (0x1CB, "nj"), (0x1CC, "nj"), (0x1F1, "dz"), (0x1F2, "dz"), (0x1F3, "dz"),
   (0x2B0, "h"), (0x2B1, "\u0266"), (0x2B2, "j"), (0x2B3, "r"), (0x2B6, "\u0281"),
   (0x2D8, " \u0306"), (0x2D9, " \u0307"), (0x2DA, " \u030A"), (0x2DB, " \u0328"),
   (0x2DC, " \u0303"), (0x2DD, " \u030B"), (0x2E0, "\u0263"), (0x2E1, "l"), (0x2E2, "s"),
   (0x2E3, "x"), (0x2E4, "\u0295"), (0x343, "\u0313"), (0x344, "\u0308\u0301"), (0x345, "\u03B9"),
   (0x374, "\u02B9"), (0x37A, " \u03B9"), (0x37E, ";"), (0x384, " \u0301"),
   (0x385, " \u0308\u0301"), (0x387, "\u00B7"), (0x3D0, "\u03B2"), (0x3D1, "\u03B8"),
   (0x3D2, "\u03C5"), (0x3D3, "\u03CD"), (0x3D4, "\u03CB"), (0x3D5, "\u03C6"), (0x3D6, "\u03C0"),
   (0x3F0, "\u03BA"), (0x3F5, "\u03B5"), (0x3F9, "\u03C3"), (0x1C82, "\u043E"), (0x1C85, "\u0442"),
   (0x1C86, "\u044A"), (0x1C87, "\u0463"), (0x1D2C, "a"), (0x1D2D, "\u00E6"), (0x1D31, "e"),
   (0x1D32, "\u01DD"), (0x1D3C, "o"), (0x1D3D, "\u0223"), (0x1D43, "a"), (0x1D49, "e"),
   (0x1D4C, "\u025C"), (0x1D4D, "g"), (0x1D51, "\u014B"), (0x1D52, "o"), (0x1D53, "\u0254"),
   (0x1D56, "p"), (0x1D5A, "\u026F"), (0x1D5B, "v"), (0x1D62, "i"), (0x1D63, "r"),
   (0x1D68, "\u03C1"), (0x1D78, "\u043D"), (0x1D9B, "\u0252"), (0x1D9C, "c"), (0x1D9D, "\u0255"),
   (0x1D9E, "\u00F0"), (0x1D9F, "\u025C"), (0x1DA0, "f"), (0x1DA3, "\u0265"), (0x1DA8, "\u029D"),
   (0x1DA9, "\u026D"), (0x1DAB, "\u029F"), (0x1DAC, "\u0271"), (0x1DB2, "\u0278"),
   (0x1DB5, "\u01AB"), (0x1DBB, "z"), (0x1DBF, "\u03B8"), (0x1E9A, "a\u02BE"),
   (0x1FB3, "\u03B1\u03B9"), (0x1FB4, "\u03AC\u03B9"), (0x1FBB, "\u03AC"),
   (0x1FBC, "\u03B1\u03B9"), (0x1FBD, " \u0313"), (0x1FBE, "\u03B9"), (0x1FBF, " \u0313"),
   (0x1FC0, " \u0342"), (0x1FC1, " \u0308\u0342"), (0x1FC3, "\u03B7\u03B9"),
   (0x1FC4, "\u03AE\u03B9"), (0x1FCC, "\u03B7\u03B9"), (0x1FCD, " \u0313\u0300"),
   (0x1FCE, " \u0313\u0301"), (0x1FCF, " \u0313\u0342"), (0x1FD3, "\u0390"), (0x1FDB, "\u03AF"),
   (0x1FDD, " \u0314\u0300"), (0x1FDE, " \u0314\u0301"), (0x1FDF, " \u0314\u0342"),
   (0x1FE3, "\u03B0"), (0x1FEB, "\u03CD"), (0x1FED, " \u0308\u0300"), (0x1FEE, " \u0308\u0301"),
   (0x1FEF, "`"), (0x1FF3, "\u03C9\u03B9"), (0x1FF4, "\u03CE\u03B9"), (0x1FFC, "\u03C9\u03B9"),
   (0x1FFD, " \u0301"), (0x1FFE, " \u0314"), (0x2017, " \u0333"), (0x202F, " "), (0x203C, "!!"),
   (0x203E, " \u0305"), (0x2047, "??"), (0x2048, "?!"), (0x2049, "!?"), (0x205F, " "),
   (0x2070, "0"), (0x2071, "i"), (0x207A, "+"), (0x207C, "="), (0x207F, "n"), (0x208A, "+"),
   (0x208C, "="), (0x2090, "a"), (0x2091, "e"), (0x2092, "o"), (0x2093, "x"), (0x2094, "\u0259"),
   (0x2095, "h"), (0x209A, "p"), (0x20A8, "rs"), (0x2100, "a/c"), (0x2101, "a/s"), (0x2102, "c"),
   (0x2103, "\u00B0c"), (0x2105, "c/o"), (0x2106, "c/u"), (0x2107, "\u025B"), (0x2109, "\u00B0f"),
   (0x210F, "\u0127"), (0x2115, "n"), (0x2116, "no"), (0x2120, "sm"), (0x2121, "tel"),
   (0x2122, "tm"), (0x2124, "z"), (0x2128, "z"), (0x2131, "f"), (0x2139, "i"), (0x213B, "fax"),
   (0x213C, "\u03C0"), (0x213F, "\u03C0"), (0x2147, "e"), (0x2160, "i"), (0x2161, "ii"),
   (0x2162, "iii"), (0x2163, "iv"), (0x2164, "v"), (0x2165, "vi"), (0x2166, "vii"),
   (0x2167, "viii"), (0x2168, "ix"), (0x2169, "x"), (0x216A, "xi"), (0x216B, "xii"), (0x216C, "l"),
   (0x216F, "m"), (0x2170, "i"), (0x2171, "ii"), (0x2172, "iii"), (0x2173, "iv"), (0x2174, "v"),
   (0x2175, "vi"), (0x2176, "vii"), (0x2177, "viii"), (0x2178, "ix"), (0x2179, "x"),
   (0x217A, "xi"), (0x217B, "xii"), (0x217C, "l"), (0x217F, "m"), (0x2469, "10"), (0x246A, "11"),
   (0x246B, "12"), (0x246C, "13"), (0x246D, "14"), (0x246E, "15"), (0x246F, "16"), (0x2470, "17"),
   (0x2471, "18"), (0x2472, "19"), (0x2473, "20"), (0x2474, "(1)"), (0x2475, "(2)"),
   (0x2476, "(3)"), (0x2477, "(4)"), (0x2478, "(5)"), (0x2479, "(6)"), (0x247A, "(7)"),
   (0x247B, "(8)"), (0x247C, "(9)"), (0x247D, "(10)"), (0x247E, "(11)"), (0x247F, "(12)"),
   (0x2480, "(13)"), (0x2481, "(14)"), (0x2482, "(15)"), (0x2483, "(16)"), (0x2484, "(17)"),
   (0x2485, "(18)"), (0x2486, "(19)"), (0x2487, "(20)"), (0x249C, "(a)"), (0x249D, "(b)"),
   (0x249E, "(c)"), (0x249F, "(d)"), (0x24A0, "(e)"), (0x24A1, "(f)"), (0x24A2, "(g)"),
   (0x24A3, "(h)"), (0x24A4, "(i)"), (0x24A5, "(j)"), (0x24A6, "(k)"), (0x24A7, "(l)"),
   (0x24A8, "(m)"), (0x24A9, "(n)"), (0x24AA, "(o)"), (0x24AB, "(p)"), (0x24AC, "(q)"),
   (0x24AD, "(r)"), (0x24AE, "(s)"), (0x24AF, "(t)"), (0x24B0, "(u)"), (0x24B1, "(v)"),
   (0x24B2, "(w)"), (0x24B3, "(x)"), (0x24B4, "(y)"), (0x24B5, "(z)"), (0x24EA, "0"),
   (0x2A74, "::="), (0x2A75, "=="), (0x2A76, "==="), (0x2C7C, "j"), (0x2C7D, "v"), (0x3000, " "),
   (0x3002, "."), (0x3250, "pte"), (0x3251, "21"), (0x3252, "22"), (0x3253, "23"), (0x3254, "24"),
   (0x3255, "25"), (0x3256, "26"), (0x3257, "27"), (0x3258, "28"), (0x3259, "29"), (0x325A, "30"),
   (0x325B, "31"), (0x325C, "32"), (0x325D, "33"), (0x325E, "34"), (0x325F, "35"), (0x32B1, "36"),
   (0x32B2, "37"), (0x32B3, "38"), (0x32B4, "39"), (0x32B5, "40"), (0x32B6, "41"), (0x32B7, "42"),
   (0x32B8, "43"), (0x32B9, "44"), (0x32BA, "45"), (0x32BB, "46"), (0x32BC, "47"), (0x32BD, "48"),
   (0x32BE, "49"), (0x32BF, "50"), (0x32CC, "hg"), (0x32CD, "erg"), (0x32CE, "ev"),
   (0x32CF, "ltd"), (0x3371, "hpa"), (0x3372, "da"), (0x3373, "au"), (0x3374, "bar"),
   (0x3375, "ov"), (0x3376, "pc"), (0x3377, "dm"), (0x3378, "dm2"), (0x3379, "dm3"),
   (0x337A, "iu"), (0x3380, "pa"), (0x3381, "na"), (0x3382, "\u03BCa"), (0x3383, "ma"),
   (0x3384, "ka"), (0x3385, "kb"), (0x3386, "mb"), (0x3387, "gb"), (0x3388, "cal"),
   (0x3389, "kcal"), (0x338A, "pf"), (0x338B, "nf"), (0x338C, "\u03BCf"), (0x338D, "\u03BCg"),
   (0x338E, "mg"), (0x338F, "kg"), (0x3390, "hz"), (0x3391, "khz"), (0x3392, "mhz"),
   (0x3393, "ghz"), (0x3394, "thz"), (0x3395, "\u03BCl"), (0x3396, "ml"), (0x3397, "dl"),
   (0x3398, "kl"), (0x3399, "fm"), (0x339A, "nm"), (0x339B, "\u03BCm"), (0x339C, "mm"),
   (0x339D, "cm"), (0x339E, "km"), (0x339F, "mm2"), (0x33A0, "cm2"), (0x33A1, "m2"),
   (0x33A2, "km2"), (0x33A3, "mm3"), (0x33A4, "cm3"), (0x33A5, "m3"), (0x33A6, "km3"),
   (0x33A9, "pa"), (0x33AA, "kpa"), (0x33AB, "mpa"), (0x33AC, "gpa"), (0x33AD, "rad"),
   (0x33B0, "ps"), (0x33B1, "ns"), (0x33B2, "\u03BCs"), (0x33B3, "ms"), (0x33B4, "pv"),
   (0x33B5, "nv"), (0x33B6, "\u03BCv"), (0x33B7, "mv"), (0x33B8, "kv"), (0x33B9, "mv"),
   (0x33BA, "pw"), (0x33BB, "nw"), (0x33BC, "\u03BCw"), (0x33BD, "mw"), (0x33BE, "kw"),
   (0x33BF, "mw"), (0x33C0, "k\u03C9"), (0x33C1, "m\u03C9"), (0x33C3, "bq"), (0x33C4, "cc"),
   (0x33C5, "cd"), (0x33C8, "db"), (0x33C9, "gy"), (0x33CA, "ha"), (0x33CB, "hp"), (0x33CC, "in"),
   (0x33CD, "kk"), (0x33CE, "km"), (0x33CF, "kt"), (0x33D0, "lm"), (0x33D1, "ln"), (0x33D2, "log"),
   (0x33D3, "lx"), (0x33D4, "mb"), (0x33D5, "mil"), (0x33D6, "mol"), (0x33D7, "ph"),
   (0x33D9, "ppm"), (0x33DA, "pr"), (0x33DB, "sr"), (0x33DC, "sv"), (0x33DD, "wb"),
   (0x33FF, "gal"), (0xA7F2, "c"), (0xA7F3, "f"), (0xA7F4, "q"), (0xA7F8, "\u0127"),
   (0xA7F9, "\u0153"), (0xAB5E, "\u026B"), (0xAB69, "\u028D"), (0xFB00, "ff"), (0xFB01, "fi"),
   (0xFB02, "fl"), (0xFB03, "ffi"), (0xFB04, "ffl"), (0xFB05, "st"), (0xFB06, "st"), (0xFB29, "+"),
   (0xFE10, ","), (0xFE15, "!"), (0xFE16, "?"), (0xFE49, " \u0305"), (0xFE4A, " \u0305"),
   (0xFE4B, " \u0305"), (0xFE4C, " \u0305"), (0xFE50, ","), (0xFE54, ";"), (0xFE55, ":"),
   (0xFE56, "?"), (0xFE57, "!"), (0xFE5F, "#"), (0xFE60, "&"), (0xFE63, "-"), (0xFE66, "="),
   (0xFE68, "\x5c"), (0xFE6B, "@"), (0xFF61, "."), (0xFF65, "\u30FB"), (0xFF66, "\u30F2"),
   (0xFF6F, "\u30C3"), (0xFF70, "\u30FC"), (0xFF8B, "\u30D2"), (0xFF8C, "\u30D5"),
   (0xFF8D, "\u30D8"), (0xFF8E, "\u30DB"), (0xFF9C, "\u30EF"), (0xFF9D, "\u30F3"),
   (0xFFE2, "\u00AC"), (0xFFE3, " \u0304"), (0xFFE4, "\u00A6"), (0xFFE5, "\u00A5"),
   (0x10783, "\u00E6"), (0x10784, "\u0299"), (0x10785, "\u0253"), (0x1078A, "\u02A4"),
   (0x1078E, "\u0258"), (0x1078F, "\u025E"), (0x10790, "\u02A9"), (0x10791, "\u0264"),
   (0x10792, "\u0262"), (0x10793, "\u0260"), (0x10794, "\u029B"), (0x10795, "\u0127"),
   (0x10796, "\u029C"), (0x10797, "\u0267"), (0x10798, "\u0284"), (0x1079B, "\u026C"),
   (0x1079E, "\u026E"), (0x107A0, "\u028E"), (0x107A2, "\u00F8"), (0x107A5, "q"),
   (0x107A6, "\u027A"), (0x107AA, "\u0280"), (0x107AB, "\u02A8"), (0x107AF, "\u0288"),
   (0x107B2, "\u028F"), (0x107B5, "\u0298"), (0x1D49F, "d"), (0x1D4A2, "g"), (0x1D546, "o"),
   (0x1D6A4, "\u0131"), (0x1D6A5, "\u0237"), (0x1D6B9, "\u03B8"), (0x1D6DC, "\u03B5"),
   (0x1D6DF, "\u03C6"), (0x1D6E0, "\u03C1"), (0x1D6E1, "\u03C0"), (0x1D6F3, "\u03B8"),
   (0x1D716, "\u03B5"), (0x1D719, "\u03C6"), (0x1D71A, "\u03C1"), (0x1D71B, "\u03C0"),
   (0x1D72D, "\u03B8"), (0x1D750, "\u03B5"), (0x1D753, "\u03C6"), (0x1D754, "\u03C1"),
   (0x1D755, "\u03C0"), (0x1D767, "\u03B8"), (0x1D78A, "\u03B5"), (0x1D78D, "\u03C6"),
   (0x1D78E, "\u03C1"), (0x1D78F, "\u03C0"), (0x1D7A1, "\u03B8"), (0x1D7C4, "\u03B5"),
   (0x1D7C7, "\u03C6"), (0x1D7C8, "\u03C1"), (0x1D7C9, "\u03C0"), (0x1E049, "\u044E"),
   (0x1E04B, "\u04D9"), (0x1E04E, "\u04E9"), (0x1E04F, "\u04AF"), (0x1E050, "\u04CF"),
   (0x1E067, "\u0491"), (0x1E068, "\u0456"), (0x1E069, "\u0455"), (0x1E06A, "\u045F"),
   (0x1E06B, "\u04AB"), (0x1E06D, "\u04B1"), (0x1F101, "0,"), (0x1F102, "1,"), (0x1F103, "2,"),
   (0x1F104, "3,"), (0x1F105, "4,"), (0x1F106, "5,"), (0x1F107, "6,"), (0x1F108, "7,"),
   (0x1F109, "8,"), (0x1F10A, "9,"), (0x1F110, "(a)"), (0x1F111, "(b)"), (0x1F112, "(c)"),
   (0x1F113, "(d)"), (0x1F114, "(e)"), (0x1F115, "(f)"), (0x1F116, "(g)"), (0x1F117, "(h)"),
   (0x1F118, "(i)"), (0x1F119, "(j)"), (0x1F11A, "(k)"), (0x1F11B, "(l)"), (0x1F11C, "(m)"),
   (0x1F11D, "(n)"), (0x1F11E, "(o)"), (0x1F11F, "(p)"), (0x1F120, "(q)"), (0x1F121, "(r)"),
   (0x1F122, "(s)"), (0x1F123, "(t)"), (0x1F124, "(u)"), (0x1F125, "(v)"), (0x1F126, "(w)"),
   (0x1F127, "(x)"), (0x1F128, "(y)"), (0x1F129, "(z)"), (0x1F12B, "c"), (0x1F12C, "r"),
   (0x1F12D, "cd"), (0x1F12E, "wz"), (0x1F14A, "hv"), (0x1F14B, "mv"), (0x1F14C, "sd"),
   (0x1F14D, "ss"), (0x1F14E, "ppv"), (0x1F14F, "wc"), (0x1F16A, "mc"), (0x1F16B, "md"),
   (0x1F16C, "mr"), (0x1F190, "dj")]

/-- The characters that are dropped from a name. -/
def ignoredRanges : List (Nat × Nat) :=
  [(0xAD, 0xAD), (0x34F, 0x34F), (0x180B, 0x180D), (0x180F, 0x180F), (0x200B, 0x200B),
   (0x2060, 0x2060), (0x2064, 0x2064), (0xFE00, 0xFE0F), (0xFEFF, 0xFEFF), (0x1BCA0, 0x1BCA3),
   (0xE0100, 0xE01EF)]

/-- Characters that no name holds: private ones, and those that only control how others are
shown. -/
def unheldRanges : List (Nat × Nat) :=
  [(0x80, 0x9F), (0x200E, 0x200F), (0x2028, 0x202E), (0x2061, 0x2063), (0x2066, 0x206F),
   (0xE000, 0xF8FF), (0xFFF9, 0xFFFD), (0xE0000, 0xE00FF), (0xE01F0, 0xE0FFE), (0xF0000, 0x10FFFF)]

end CodeDigest.Host
