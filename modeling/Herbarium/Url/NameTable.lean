import Herbarium.Text.Printable

/-!
The characters of domain names.

What a name has for a character beyond ASCII: another character, several, none, or the character itself; some can be in
no name. The tables hold the letters of all scripts that have cases, and the forms that stand for plain letters, digits
and signs of the Basic Multilingual Plane up to the punctuation, the small and the wide forms among them.
-/

namespace Herbarium.Url

/-- Runs of characters with one character each in their place: the first and the last of the run, the step from one to
the next, and what the first becomes; the distance is the same for all of a run. -/
def characterRuns : List (Nat × Nat × Nat × Nat) :=
  [(0xAA, 0xAA, 1, 0x61), (0xB2, 0xB3, 1, 0x32), (0xB5, 0xB5, 1, 0x3BC), (0xB9, 0xB9, 1, 0x31), (0xBA, 0xBA, 1, 0x6F),
   (0xC0, 0xD6, 1, 0xE0), (0xD8, 0xDE, 1, 0xF8), (0x100, 0x12E, 2, 0x101), (0x134, 0x136, 2, 0x135),
   (0x139, 0x13D, 2, 0x13A), (0x141, 0x147, 2, 0x142), (0x14A, 0x176, 2, 0x14B), (0x178, 0x178, 1, 0xFF),
   (0x179, 0x17D, 2, 0x17A), (0x17F, 0x17F, 1, 0x73), (0x181, 0x181, 1, 0x253), (0x182, 0x184, 2, 0x183),
   (0x186, 0x186, 1, 0x254), (0x187, 0x187, 1, 0x188), (0x189, 0x18A, 1, 0x256), (0x18B, 0x18B, 1, 0x18C),
   (0x18E, 0x18E, 1, 0x1DD), (0x18F, 0x18F, 1, 0x259), (0x190, 0x190, 1, 0x25B), (0x191, 0x191, 1, 0x192),
   (0x193, 0x193, 1, 0x260), (0x194, 0x194, 1, 0x263), (0x196, 0x196, 1, 0x269), (0x197, 0x197, 1, 0x268),
   (0x198, 0x198, 1, 0x199), (0x19C, 0x19C, 1, 0x26F), (0x19D, 0x19D, 1, 0x272), (0x19F, 0x19F, 1, 0x275),
   (0x1A0, 0x1A4, 2, 0x1A1), (0x1A6, 0x1A6, 1, 0x280), (0x1A7, 0x1A7, 1, 0x1A8), (0x1A9, 0x1A9, 1, 0x283),
   (0x1AC, 0x1AC, 1, 0x1AD), (0x1AE, 0x1AE, 1, 0x288), (0x1AF, 0x1AF, 1, 0x1B0), (0x1B1, 0x1B2, 1, 0x28A),
   (0x1B3, 0x1B5, 2, 0x1B4), (0x1B7, 0x1B7, 1, 0x292), (0x1B8, 0x1B8, 1, 0x1B9), (0x1BC, 0x1BC, 1, 0x1BD),
   (0x1CD, 0x1DB, 2, 0x1CE), (0x1DE, 0x1EE, 2, 0x1DF), (0x1F4, 0x1F4, 1, 0x1F5), (0x1F6, 0x1F6, 1, 0x195),
   (0x1F7, 0x1F7, 1, 0x1BF), (0x1F8, 0x21E, 2, 0x1F9), (0x220, 0x220, 1, 0x19E), (0x222, 0x232, 2, 0x223),
   (0x23A, 0x23A, 1, 0x2C65), (0x23B, 0x23B, 1, 0x23C), (0x23D, 0x23D, 1, 0x19A), (0x23E, 0x23E, 1, 0x2C66),
   (0x241, 0x241, 1, 0x242), (0x243, 0x243, 1, 0x180), (0x244, 0x244, 1, 0x289), (0x245, 0x245, 1, 0x28C),
   (0x246, 0x24E, 2, 0x247), (0x2B0, 0x2B2, 2, 0x68), (0x2B1, 0x2B1, 1, 0x266), (0x2B3, 0x2B3, 1, 0x72),
   (0x2B4, 0x2B4, 1, 0x279), (0x2B5, 0x2B5, 1, 0x27B), (0x2B6, 0x2B6, 1, 0x281), (0x2B7, 0x2B7, 1, 0x77),
   (0x2B8, 0x2B8, 1, 0x79), (0x2E0, 0x2E0, 1, 0x263), (0x2E1, 0x2E1, 1, 0x6C), (0x2E2, 0x2E2, 1, 0x73),
   (0x2E3, 0x2E3, 1, 0x78), (0x2E4, 0x2E4, 1, 0x295), (0x340, 0x341, 1, 0x300), (0x343, 0x343, 1, 0x313),
   (0x345, 0x345, 1, 0x3B9), (0x370, 0x372, 2, 0x371), (0x374, 0x374, 1, 0x2B9), (0x376, 0x376, 1, 0x377),
   (0x37E, 0x37E, 1, 0x3B), (0x37F, 0x37F, 1, 0x3F3), (0x386, 0x386, 1, 0x3AC), (0x387, 0x387, 1, 0xB7),
   (0x388, 0x38A, 1, 0x3AD), (0x38C, 0x38C, 1, 0x3CC), (0x38E, 0x38F, 1, 0x3CD), (0x391, 0x3A1, 1, 0x3B1),
   (0x3A3, 0x3AB, 1, 0x3C3), (0x3CF, 0x3CF, 1, 0x3D7), (0x3D0, 0x3D0, 1, 0x3B2), (0x3D1, 0x3D1, 1, 0x3B8),
   (0x3D2, 0x3D2, 1, 0x3C5), (0x3D3, 0x3D3, 1, 0x3CD), (0x3D4, 0x3D4, 1, 0x3CB), (0x3D5, 0x3D5, 1, 0x3C6),
   (0x3D6, 0x3D6, 1, 0x3C0), (0x3D8, 0x3EE, 2, 0x3D9), (0x3F0, 0x3F0, 1, 0x3BA), (0x3F1, 0x3F1, 1, 0x3C1),
   (0x3F2, 0x3F2, 1, 0x3C3), (0x3F4, 0x3F4, 1, 0x3B8), (0x3F5, 0x3F5, 1, 0x3B5), (0x3F7, 0x3F7, 1, 0x3F8),
   (0x3F9, 0x3F9, 1, 0x3C3), (0x3FA, 0x3FA, 1, 0x3FB), (0x3FD, 0x3FF, 1, 0x37B), (0x400, 0x40F, 1, 0x450),
   (0x410, 0x42F, 1, 0x430), (0x460, 0x480, 2, 0x461), (0x48A, 0x4BE, 2, 0x48B), (0x4C1, 0x4CD, 2, 0x4C2),
   (0x4D0, 0x52E, 2, 0x4D1), (0x531, 0x556, 1, 0x561), (0xF0C, 0xF0C, 1, 0xF0B), (0x10C7, 0x10C7, 1, 0x2D27),
   (0x10CD, 0x10CD, 1, 0x2D2D), (0x10FC, 0x10FC, 1, 0x10DC), (0x13F8, 0x13FD, 1, 0x13F0), (0x1C80, 0x1C80, 1, 0x432),
   (0x1C81, 0x1C81, 1, 0x434), (0x1C82, 0x1C82, 1, 0x43E), (0x1C83, 0x1C84, 1, 0x441), (0x1C85, 0x1C85, 1, 0x442),
   (0x1C86, 0x1C86, 1, 0x44A), (0x1C87, 0x1C87, 1, 0x463), (0x1C88, 0x1C88, 1, 0xA64B), (0x1C90, 0x1CBA, 1, 0x10D0),
   (0x1CBD, 0x1CBF, 1, 0x10FD), (0x1D2C, 0x1D2C, 1, 0x61), (0x1D2D, 0x1D2D, 1, 0xE6), (0x1D2E, 0x1D30, 2, 0x62),
   (0x1D31, 0x1D39, 2, 0x65), (0x1D32, 0x1D32, 1, 0x1DD), (0x1D34, 0x1D3A, 2, 0x68), (0x1D3C, 0x1D3C, 1, 0x6F),
   (0x1D3D, 0x1D3D, 1, 0x223), (0x1D3E, 0x1D3E, 1, 0x70), (0x1D3F, 0x1D3F, 1, 0x72), (0x1D40, 0x1D41, 1, 0x74),
   (0x1D42, 0x1D42, 1, 0x77), (0x1D43, 0x1D43, 1, 0x61), (0x1D44, 0x1D45, 1, 0x250), (0x1D46, 0x1D46, 1, 0x1D02),
   (0x1D47, 0x1D47, 1, 0x62), (0x1D48, 0x1D49, 1, 0x64), (0x1D4A, 0x1D4A, 1, 0x259), (0x1D4B, 0x1D4C, 1, 0x25B),
   (0x1D4D, 0x1D4D, 1, 0x67), (0x1D4F, 0x1D4F, 1, 0x6B), (0x1D50, 0x1D52, 2, 0x6D), (0x1D51, 0x1D51, 1, 0x14B),
   (0x1D53, 0x1D53, 1, 0x254), (0x1D54, 0x1D55, 1, 0x1D16), (0x1D56, 0x1D56, 1, 0x70), (0x1D57, 0x1D58, 1, 0x74),
   (0x1D59, 0x1D59, 1, 0x1D1D), (0x1D5A, 0x1D5A, 1, 0x26F), (0x1D5B, 0x1D5B, 1, 0x76), (0x1D5C, 0x1D5C, 1, 0x1D25),
   (0x1D5D, 0x1D5F, 1, 0x3B2), (0x1D60, 0x1D61, 1, 0x3C6), (0x1D62, 0x1D62, 1, 0x69), (0x1D63, 0x1D63, 1, 0x72),
   (0x1D64, 0x1D65, 1, 0x75), (0x1D66, 0x1D67, 1, 0x3B2), (0x1D68, 0x1D68, 1, 0x3C1), (0x1D69, 0x1D6A, 1, 0x3C6),
   (0x1D78, 0x1D78, 1, 0x43D), (0x1D9B, 0x1D9B, 1, 0x252), (0x1D9C, 0x1D9C, 1, 0x63), (0x1D9D, 0x1D9D, 1, 0x255),
   (0x1D9E, 0x1D9E, 1, 0xF0), (0x1D9F, 0x1D9F, 1, 0x25C), (0x1DA0, 0x1DA0, 1, 0x66), (0x1DA1, 0x1DA1, 1, 0x25F),
   (0x1DA2, 0x1DA2, 1, 0x261), (0x1DA3, 0x1DA3, 1, 0x265), (0x1DA4, 0x1DA6, 1, 0x268), (0x1DA7, 0x1DA7, 1, 0x1D7B),
   (0x1DA8, 0x1DA8, 1, 0x29D), (0x1DA9, 0x1DA9, 1, 0x26D), (0x1DAA, 0x1DAA, 1, 0x1D85), (0x1DAB, 0x1DAB, 1, 0x29F),
   (0x1DAC, 0x1DAC, 1, 0x271), (0x1DAD, 0x1DAD, 1, 0x270), (0x1DAE, 0x1DB1, 1, 0x272), (0x1DB2, 0x1DB2, 1, 0x278),
   (0x1DB3, 0x1DB4, 1, 0x282), (0x1DB5, 0x1DB5, 1, 0x1AB), (0x1DB6, 0x1DB7, 1, 0x289), (0x1DB8, 0x1DB8, 1, 0x1D1C),
   (0x1DB9, 0x1DBA, 1, 0x28B), (0x1DBB, 0x1DBB, 1, 0x7A), (0x1DBC, 0x1DBE, 1, 0x290), (0x1DBF, 0x1DBF, 1, 0x3B8),
   (0x1E00, 0x1E94, 2, 0x1E01), (0x1E9B, 0x1E9B, 1, 0x1E61), (0x1EA0, 0x1EFE, 2, 0x1EA1), (0x1F08, 0x1F0F, 1, 0x1F00),
   (0x1F18, 0x1F1D, 1, 0x1F10), (0x1F28, 0x1F2F, 1, 0x1F20), (0x1F38, 0x1F3F, 1, 0x1F30), (0x1F48, 0x1F4D, 1, 0x1F40),
   (0x1F59, 0x1F5F, 2, 0x1F51), (0x1F68, 0x1F6F, 1, 0x1F60), (0x1F71, 0x1F71, 1, 0x3AC), (0x1F73, 0x1F73, 1, 0x3AD),
   (0x1F75, 0x1F75, 1, 0x3AE), (0x1F77, 0x1F77, 1, 0x3AF), (0x1F79, 0x1F79, 1, 0x3CC), (0x1F7B, 0x1F7B, 1, 0x3CD),
   (0x1F7D, 0x1F7D, 1, 0x3CE), (0x1FB8, 0x1FB9, 1, 0x1FB0), (0x1FBA, 0x1FBA, 1, 0x1F70), (0x1FBB, 0x1FBB, 1, 0x3AC),
   (0x1FBE, 0x1FBE, 1, 0x3B9), (0x1FC8, 0x1FCA, 2, 0x1F72), (0x1FC9, 0x1FC9, 1, 0x3AD), (0x1FCB, 0x1FCB, 1, 0x3AE),
   (0x1FD3, 0x1FD3, 1, 0x390), (0x1FD8, 0x1FD9, 1, 0x1FD0), (0x1FDA, 0x1FDA, 1, 0x1F76), (0x1FDB, 0x1FDB, 1, 0x3AF),
   (0x1FE3, 0x1FE3, 1, 0x3B0), (0x1FE8, 0x1FE9, 1, 0x1FE0), (0x1FEA, 0x1FEA, 1, 0x1F7A), (0x1FEB, 0x1FEB, 1, 0x3CD),
   (0x1FEC, 0x1FEC, 1, 0x1FE5), (0x1FEF, 0x1FEF, 1, 0x60), (0x1FF8, 0x1FF8, 1, 0x1F78), (0x1FF9, 0x1FFB, 2, 0x3CC),
   (0x1FFA, 0x1FFA, 1, 0x1F7C), (0x2011, 0x2011, 1, 0x2010), (0x2070, 0x2070, 1, 0x30), (0x2071, 0x2071, 1, 0x69),
   (0x2074, 0x2079, 1, 0x34), (0x207A, 0x207A, 1, 0x2B), (0x207B, 0x207B, 1, 0x2212), (0x207C, 0x207C, 1, 0x3D),
   (0x207D, 0x207E, 1, 0x28), (0x207F, 0x207F, 1, 0x6E), (0x2080, 0x2089, 1, 0x30), (0x208A, 0x208A, 1, 0x2B),
   (0x208B, 0x208B, 1, 0x2212), (0x208C, 0x208C, 1, 0x3D), (0x208D, 0x208E, 1, 0x28), (0x2090, 0x2090, 1, 0x61),
   (0x2091, 0x2091, 1, 0x65), (0x2092, 0x2092, 1, 0x6F), (0x2093, 0x2093, 1, 0x78), (0x2094, 0x2094, 1, 0x259),
   (0x2095, 0x2095, 1, 0x68), (0x2096, 0x2099, 1, 0x6B), (0x209A, 0x209A, 1, 0x70), (0x209B, 0x209C, 1, 0x73),
   (0x2102, 0x2102, 1, 0x63), (0x2107, 0x2107, 1, 0x25B), (0x210A, 0x210B, 1, 0x67), (0x210C, 0x210C, 1, 0x68),
   (0x210D, 0x210D, 1, 0x68), (0x210E, 0x210E, 1, 0x68), (0x210F, 0x210F, 1, 0x127), (0x2110, 0x2110, 1, 0x69),
   (0x2111, 0x2111, 1, 0x69), (0x2112, 0x2112, 1, 0x6C), (0x2113, 0x2115, 2, 0x6C), (0x2119, 0x211B, 1, 0x70),
   (0x211C, 0x211C, 1, 0x72), (0x211D, 0x211D, 1, 0x72), (0x2124, 0x2124, 1, 0x7A), (0x2126, 0x2126, 1, 0x3C9),
   (0x2128, 0x2128, 1, 0x7A), (0x212A, 0x212A, 1, 0x6B), (0x212B, 0x212B, 1, 0xE5), (0x212C, 0x212D, 1, 0x62),
   (0x212F, 0x212F, 1, 0x65), (0x2130, 0x2131, 1, 0x65), (0x2133, 0x2133, 1, 0x6D), (0x2134, 0x2134, 1, 0x6F),
   (0x2135, 0x2138, 1, 0x5D0), (0x2139, 0x2139, 1, 0x69), (0x213C, 0x213C, 1, 0x3C0), (0x213D, 0x213D, 1, 0x3B3),
   (0x213E, 0x213E, 1, 0x3B3), (0x213F, 0x213F, 1, 0x3C0), (0x2140, 0x2140, 1, 0x2211), (0x2145, 0x2145, 1, 0x64),
   (0x2146, 0x2147, 1, 0x64), (0x2148, 0x2149, 1, 0x69), (0x2160, 0x2160, 1, 0x69), (0x2164, 0x2164, 1, 0x76),
   (0x2169, 0x2169, 1, 0x78), (0x216C, 0x216C, 1, 0x6C), (0x216D, 0x216E, 1, 0x63), (0x216F, 0x216F, 1, 0x6D),
   (0x2170, 0x2170, 1, 0x69), (0x2174, 0x2174, 1, 0x76), (0x2179, 0x2179, 1, 0x78), (0x217C, 0x217C, 1, 0x6C),
   (0x217D, 0x217E, 1, 0x63), (0x217F, 0x217F, 1, 0x6D), (0x2329, 0x232A, 1, 0x3008), (0x2460, 0x2468, 1, 0x31),
   (0x24B6, 0x24CF, 1, 0x61), (0x24D0, 0x24E9, 1, 0x61), (0x24EA, 0x24EA, 1, 0x30), (0x2C00, 0x2C2F, 1, 0x2C30),
   (0x2C60, 0x2C60, 1, 0x2C61), (0x2C62, 0x2C62, 1, 0x26B), (0x2C63, 0x2C63, 1, 0x1D7D), (0x2C64, 0x2C64, 1, 0x27D),
   (0x2C67, 0x2C6B, 2, 0x2C68), (0x2C6D, 0x2C6D, 1, 0x251), (0x2C6E, 0x2C6E, 1, 0x271), (0x2C6F, 0x2C6F, 1, 0x250),
   (0x2C70, 0x2C70, 1, 0x252), (0x2C72, 0x2C72, 1, 0x2C73), (0x2C75, 0x2C75, 1, 0x2C76), (0x2C7C, 0x2C7C, 1, 0x6A),
   (0x2C7D, 0x2C7D, 1, 0x76), (0x2C7E, 0x2C7F, 1, 0x23F), (0x2C80, 0x2CE2, 2, 0x2C81), (0x2CEB, 0x2CED, 2, 0x2CEC),
   (0x2CF2, 0x2CF2, 1, 0x2CF3), (0x2D6F, 0x2D6F, 1, 0x2D61), (0x2E9F, 0x2E9F, 1, 0x6BCD), (0x2EF3, 0x2EF3, 1, 0x9F9F),
   (0x3002, 0x3002, 1, 0x2E), (0xA640, 0xA66C, 2, 0xA641), (0xA680, 0xA69A, 2, 0xA681), (0xA69C, 0xA69C, 1, 0x44A),
   (0xA69D, 0xA69D, 1, 0x44C), (0xA722, 0xA72E, 2, 0xA723), (0xA732, 0xA76E, 2, 0xA733), (0xA770, 0xA770, 1, 0xA76F),
   (0xA779, 0xA77B, 2, 0xA77A), (0xA77D, 0xA77D, 1, 0x1D79), (0xA77E, 0xA786, 2, 0xA77F), (0xA78B, 0xA78B, 1, 0xA78C),
   (0xA78D, 0xA78D, 1, 0x265), (0xA790, 0xA792, 2, 0xA791), (0xA796, 0xA7A8, 2, 0xA797), (0xA7AA, 0xA7AA, 1, 0x266),
   (0xA7AB, 0xA7AB, 1, 0x25C), (0xA7AC, 0xA7AC, 1, 0x261), (0xA7AD, 0xA7AD, 1, 0x26C), (0xA7AE, 0xA7AE, 1, 0x26A),
   (0xA7B0, 0xA7B0, 1, 0x29E), (0xA7B1, 0xA7B1, 1, 0x287), (0xA7B2, 0xA7B2, 1, 0x29D), (0xA7B3, 0xA7B3, 1, 0xAB53),
   (0xA7B4, 0xA7C2, 2, 0xA7B5), (0xA7C4, 0xA7C4, 1, 0xA794), (0xA7C5, 0xA7C5, 1, 0x282), (0xA7C6, 0xA7C6, 1, 0x1D8E),
   (0xA7C7, 0xA7C9, 2, 0xA7C8), (0xA7D0, 0xA7D0, 1, 0xA7D1), (0xA7D6, 0xA7D8, 2, 0xA7D7), (0xA7F2, 0xA7F2, 1, 0x63),
   (0xA7F3, 0xA7F3, 1, 0x66), (0xA7F4, 0xA7F4, 1, 0x71), (0xA7F5, 0xA7F5, 1, 0xA7F6), (0xA7F8, 0xA7F8, 1, 0x127),
   (0xA7F9, 0xA7F9, 1, 0x153), (0xAB5C, 0xAB5C, 1, 0xA727), (0xAB5D, 0xAB5D, 1, 0xAB37), (0xAB5E, 0xAB5E, 1, 0x26B),
   (0xAB5F, 0xAB5F, 1, 0xAB52), (0xAB69, 0xAB69, 1, 0x28D), (0xAB70, 0xABBF, 1, 0x13A0), (0xFF01, 0xFF02, 1, 0x21),
   (0xFF04, 0xFF18, 2, 0x24), (0xFF07, 0xFF0D, 2, 0x27), (0xFF11, 0xFF1D, 2, 0x31), (0xFF21, 0xFF3A, 1, 0x61),
   (0xFF3F, 0xFF5B, 1, 0x5F), (0xFF5D, 0xFF5E, 1, 0x7D), (0xFF5F, 0xFF60, 1, 0x2985), (0xFF61, 0xFF61, 1, 0x2E),
   (0xFF62, 0xFF63, 1, 0x300C), (0xFF64, 0xFF64, 1, 0x3001), (0xFF65, 0xFF65, 1, 0x30FB), (0xFF66, 0xFF66, 1, 0x30F2),
   (0xFF67, 0xFF67, 1, 0x30A1), (0xFF68, 0xFF68, 1, 0x30A3), (0xFF69, 0xFF69, 1, 0x30A5), (0xFF6A, 0xFF6A, 1, 0x30A7),
   (0xFF6B, 0xFF6B, 1, 0x30A9), (0xFF6C, 0xFF6C, 1, 0x30E3), (0xFF6D, 0xFF6D, 1, 0x30E5), (0xFF6E, 0xFF6E, 1, 0x30E7),
   (0xFF6F, 0xFF6F, 1, 0x30C3), (0xFF70, 0xFF70, 1, 0x30FC), (0xFF71, 0xFF71, 1, 0x30A2), (0xFF72, 0xFF72, 1, 0x30A4),
   (0xFF73, 0xFF73, 1, 0x30A6), (0xFF74, 0xFF74, 1, 0x30A8), (0xFF75, 0xFF76, 1, 0x30AA), (0xFF77, 0xFF77, 1, 0x30AD),
   (0xFF78, 0xFF78, 1, 0x30AF), (0xFF79, 0xFF79, 1, 0x30B1), (0xFF7A, 0xFF7A, 1, 0x30B3), (0xFF7B, 0xFF7B, 1, 0x30B5),
   (0xFF7C, 0xFF7C, 1, 0x30B7), (0xFF7D, 0xFF7D, 1, 0x30B9), (0xFF7E, 0xFF7E, 1, 0x30BB), (0xFF7F, 0xFF7F, 1, 0x30BD),
   (0xFF80, 0xFF80, 1, 0x30BF), (0xFF81, 0xFF81, 1, 0x30C1), (0xFF82, 0xFF82, 1, 0x30C4), (0xFF83, 0xFF83, 1, 0x30C6),
   (0xFF84, 0xFF84, 1, 0x30C8), (0xFF85, 0xFF8A, 1, 0x30CA), (0xFF8B, 0xFF8B, 1, 0x30D2), (0xFF8C, 0xFF8C, 1, 0x30D5),
   (0xFF8D, 0xFF8D, 1, 0x30D8), (0xFF8E, 0xFF8E, 1, 0x30DB), (0xFF8F, 0xFF93, 1, 0x30DE), (0xFF94, 0xFF94, 1, 0x30E4),
   (0xFF95, 0xFF95, 1, 0x30E6), (0xFF96, 0xFF9B, 1, 0x30E8), (0xFF9C, 0xFF9C, 1, 0x30EF), (0xFF9D, 0xFF9D, 1, 0x30F3),
   (0xFF9E, 0xFF9F, 1, 0x3099), (0xFFA1, 0xFFA2, 1, 0x1100), (0xFFA3, 0xFFA5, 2, 0x11AA), (0xFFA4, 0xFFA4, 1, 0x1102),
   (0xFFA6, 0xFFA6, 1, 0x11AD), (0xFFA7, 0xFFA9, 1, 0x1103), (0xFFAA, 0xFFAF, 1, 0x11B0), (0xFFB0, 0xFFB0, 1, 0x111A),
   (0xFFB1, 0xFFB3, 1, 0x1106), (0xFFB4, 0xFFB4, 1, 0x1121), (0xFFB5, 0xFFBE, 1, 0x1109), (0xFFC2, 0xFFC7, 1, 0x1161),
   (0xFFCA, 0xFFCF, 1, 0x1167), (0xFFD2, 0xFFD7, 1, 0x116D), (0xFFDA, 0xFFDC, 1, 0x1173), (0xFFE0, 0xFFE1, 1, 0xA2),
   (0xFFE2, 0xFFE2, 1, 0xAC), (0xFFE4, 0xFFE4, 1, 0xA6), (0xFFE5, 0xFFE5, 1, 0xA5), (0xFFE6, 0xFFE6, 1, 0x20A9),
   (0xFFE8, 0xFFE8, 1, 0x2502), (0xFFE9, 0xFFEC, 1, 0x2190), (0xFFED, 0xFFED, 1, 0x25A0), (0xFFEE, 0xFFEE, 1, 0x25CB),
   (0x10400, 0x10427, 1, 0x10428), (0x104B0, 0x104D3, 1, 0x104D8),
   (0x4C0, 0x4C0, 1, 0x4CF), (0x10A0, 0x10C5, 1, 0x2D00), (0x2132, 0x2132, 1, 0x214E), (0x2183, 0x2183, 1, 0x2184)]

/-- Characters with several in their place. -/
def expansions : List (Nat × String) :=
  [(0xBC, "1\u20444"), (0xBD, "1\u20442"), (0xBE, "3\u20444"), (0x130, "i\u0307"), (0x132, "ij"), (0x133, "ij"),
   (0x13F, "l\u00b7"), (0x140, "l\u00b7"), (0x149, "\u02bcn"), (0x1C4, "d\u017e"), (0x1C5, "d\u017e"),
   (0x1C6, "d\u017e"), (0x1C7, "lj"), (0x1C8, "lj"), (0x1C9, "lj"), (0x1CA, "nj"), (0x1CB, "nj"), (0x1CC, "nj"),
   (0x1F1, "dz"), (0x1F2, "dz"), (0x1F3, "dz"), (0x344, "\u0308\u0301"), (0x587, "\u0565\u0582"),
   (0x675, "\u0627\u0674"), (0x676, "\u0648\u0674"), (0x677, "\u06c7\u0674"), (0x678, "\u064a\u0674"),
   (0x958, "\u0915\u093c"), (0x959, "\u0916\u093c"), (0x95A, "\u0917\u093c"), (0x95B, "\u091c\u093c"),
   (0x95C, "\u0921\u093c"), (0x95D, "\u0922\u093c"), (0x95E, "\u092b\u093c"), (0x95F, "\u092f\u093c"),
   (0x9DC, "\u09a1\u09bc"), (0x9DD, "\u09a2\u09bc"), (0x9DF, "\u09af\u09bc"), (0xA33, "\u0a32\u0a3c"),
   (0xA36, "\u0a38\u0a3c"), (0xA59, "\u0a16\u0a3c"), (0xA5A, "\u0a17\u0a3c"), (0xA5B, "\u0a1c\u0a3c"),
   (0xA5E, "\u0a2b\u0a3c"), (0xB5C, "\u0b21\u0b3c"), (0xB5D, "\u0b22\u0b3c"), (0xE33, "\u0e4d\u0e32"),
   (0xEB3, "\u0ecd\u0eb2"), (0xEDC, "\u0eab\u0e99"), (0xEDD, "\u0eab\u0ea1"), (0xF43, "\u0f42\u0fb7"),
   (0xF4D, "\u0f4c\u0fb7"), (0xF52, "\u0f51\u0fb7"), (0xF57, "\u0f56\u0fb7"), (0xF5C, "\u0f5b\u0fb7"),
   (0xF69, "\u0f40\u0fb5"), (0xF73, "\u0f71\u0f72"), (0xF75, "\u0f71\u0f74"), (0xF76, "\u0fb2\u0f80"),
   (0xF77, "\u0fb2\u0f71\u0f80"), (0xF78, "\u0fb3\u0f80"), (0xF79, "\u0fb3\u0f71\u0f80"), (0xF81, "\u0f71\u0f80"),
   (0xF93, "\u0f92\u0fb7"), (0xF9D, "\u0f9c\u0fb7"), (0xFA2, "\u0fa1\u0fb7"), (0xFA7, "\u0fa6\u0fb7"),
   (0xFAC, "\u0fab\u0fb7"), (0xFB9, "\u0f90\u0fb5"), (0x1E9A, "a\u02be"), (0x1E9E, "ss"), (0x1F80, "\u1f00\u03b9"),
   (0x1F81, "\u1f01\u03b9"), (0x1F82, "\u1f02\u03b9"), (0x1F83, "\u1f03\u03b9"), (0x1F84, "\u1f04\u03b9"),
   (0x1F85, "\u1f05\u03b9"), (0x1F86, "\u1f06\u03b9"), (0x1F87, "\u1f07\u03b9"), (0x1F88, "\u1f00\u03b9"),
   (0x1F89, "\u1f01\u03b9"), (0x1F8A, "\u1f02\u03b9"), (0x1F8B, "\u1f03\u03b9"), (0x1F8C, "\u1f04\u03b9"),
   (0x1F8D, "\u1f05\u03b9"), (0x1F8E, "\u1f06\u03b9"), (0x1F8F, "\u1f07\u03b9"), (0x1F90, "\u1f20\u03b9"),
   (0x1F91, "\u1f21\u03b9"), (0x1F92, "\u1f22\u03b9"), (0x1F93, "\u1f23\u03b9"), (0x1F94, "\u1f24\u03b9"),
   (0x1F95, "\u1f25\u03b9"), (0x1F96, "\u1f26\u03b9"), (0x1F97, "\u1f27\u03b9"), (0x1F98, "\u1f20\u03b9"),
   (0x1F99, "\u1f21\u03b9"), (0x1F9A, "\u1f22\u03b9"), (0x1F9B, "\u1f23\u03b9"), (0x1F9C, "\u1f24\u03b9"),
   (0x1F9D, "\u1f25\u03b9"), (0x1F9E, "\u1f26\u03b9"), (0x1F9F, "\u1f27\u03b9"), (0x1FA0, "\u1f60\u03b9"),
   (0x1FA1, "\u1f61\u03b9"), (0x1FA2, "\u1f62\u03b9"), (0x1FA3, "\u1f63\u03b9"), (0x1FA4, "\u1f64\u03b9"),
   (0x1FA5, "\u1f65\u03b9"), (0x1FA6, "\u1f66\u03b9"), (0x1FA7, "\u1f67\u03b9"), (0x1FA8, "\u1f60\u03b9"),
   (0x1FA9, "\u1f61\u03b9"), (0x1FAA, "\u1f62\u03b9"), (0x1FAB, "\u1f63\u03b9"), (0x1FAC, "\u1f64\u03b9"),
   (0x1FAD, "\u1f65\u03b9"), (0x1FAE, "\u1f66\u03b9"), (0x1FAF, "\u1f67\u03b9"), (0x1FB2, "\u1f70\u03b9"),
   (0x1FB3, "\u03b1\u03b9"), (0x1FB4, "\u03ac\u03b9"), (0x1FB7, "\u1fb6\u03b9"), (0x1FBC, "\u03b1\u03b9"),
   (0x1FC2, "\u1f74\u03b9"), (0x1FC3, "\u03b7\u03b9"), (0x1FC4, "\u03ae\u03b9"), (0x1FC7, "\u1fc6\u03b9"),
   (0x1FCC, "\u03b7\u03b9"), (0x1FF2, "\u1f7c\u03b9"), (0x1FF3, "\u03c9\u03b9"), (0x1FF4, "\u03ce\u03b9"),
   (0x1FF7, "\u1ff6\u03b9"), (0x1FFC, "\u03c9\u03b9"), (0x2033, "\u2032\u2032"), (0x2034, "\u2032\u2032\u2032"),
   (0x2036, "\u2035\u2035"), (0x2037, "\u2035\u2035\u2035"), (0x203C, "!!"), (0x2057, "\u2032\u2032\u2032\u2032"),
   (0x20A8, "rs"), (0x2103, "\u00b0c"), (0x2109, "\u00b0f"), (0x2116, "no"), (0x2120, "sm"), (0x2121, "tel"),
   (0x2122, "tm"), (0x213B, "fax"), (0x2150, "1\u20447"), (0x2151, "1\u20449"), (0x2152, "1\u204410"),
   (0x2153, "1\u20443"), (0x2154, "2\u20443"), (0x2155, "1\u20445"), (0x2156, "2\u20445"), (0x2157, "3\u20445"),
   (0x2158, "4\u20445"), (0x2159, "1\u20446"), (0x215A, "5\u20446"), (0x215B, "1\u20448"), (0x215C, "3\u20448"),
   (0x215D, "5\u20448"), (0x215E, "7\u20448"), (0x215F, "1\u2044"), (0x2161, "ii"), (0x2162, "iii"), (0x2163, "iv"),
   (0x2165, "vi"), (0x2166, "vii"), (0x2167, "viii"), (0x2168, "ix"), (0x216A, "xi"), (0x216B, "xii"), (0x2171, "ii"),
   (0x2172, "iii"), (0x2173, "iv"), (0x2175, "vi"), (0x2176, "vii"), (0x2177, "viii"), (0x2178, "ix"), (0x217A, "xi"),
   (0x217B, "xii"), (0x2189, "0\u20443"), (0x222C, "\u222b\u222b"), (0x222D, "\u222b\u222b\u222b"),
   (0x222F, "\u222e\u222e"), (0x2230, "\u222e\u222e\u222e"), (0x2469, "10"), (0x246A, "11"), (0x246B, "12"),
   (0x246C, "13"), (0x246D, "14"), (0x246E, "15"), (0x246F, "16"), (0x2470, "17"), (0x2471, "18"), (0x2472, "19"),
   (0x2473, "20"), (0x2474, "(1)"), (0x2475, "(2)"), (0x2476, "(3)"), (0x2477, "(4)"), (0x2478, "(5)"),
   (0x2479, "(6)"), (0x247A, "(7)"), (0x247B, "(8)"), (0x247C, "(9)"), (0x247D, "(10)"), (0x247E, "(11)"),
   (0x247F, "(12)"), (0x2480, "(13)"), (0x2481, "(14)"), (0x2482, "(15)"), (0x2483, "(16)"), (0x2484, "(17)"),
   (0x2485, "(18)"), (0x2486, "(19)"), (0x2487, "(20)"), (0x249C, "(a)"), (0x249D, "(b)"), (0x249E, "(c)"),
   (0x249F, "(d)"), (0x24A0, "(e)"), (0x24A1, "(f)"), (0x24A2, "(g)"), (0x24A3, "(h)"), (0x24A4, "(i)"),
   (0x24A5, "(j)"), (0x24A6, "(k)"), (0x24A7, "(l)"), (0x24A8, "(m)"), (0x24A9, "(n)"), (0x24AA, "(o)"),
   (0x24AB, "(p)"), (0x24AC, "(q)"), (0x24AD, "(r)"), (0x24AE, "(s)"), (0x24AF, "(t)"), (0x24B0, "(u)"),
   (0x24B1, "(v)"), (0x24B2, "(w)"), (0x24B3, "(x)"), (0x24B4, "(y)"), (0x24B5, "(z)"),
   (0x2A0C, "\u222b\u222b\u222b\u222b"), (0x2A75, "=="), (0x2A76, "==="), (0x2ADC, "\u2add\u0338"), (0xFB00, "ff"),
   (0xFB01, "fi"), (0xFB02, "fl"), (0xFB03, "ffi"), (0xFB04, "ffl"), (0xFB05, "st"), (0xFB06, "st")]

/-- Characters with none in their place. -/
def ignoredRanges : Text.Ranges :=
  [(0xAD, 0xAD), (0x34F, 0x34F), (0x180B, 0x180D), (0x180F, 0x180F), (0x200B, 0x200B), (0x2060, 0x2060),
   (0x2064, 0x2064), (0xFE00, 0xFE0F), (0xFEFF, 0xFEFF), (0x1BCA0, 0x1BCA3), (0xE0100, 0xE01EF)]

/-- Characters that show and can be in no name. -/
def refusedRanges : Text.Ranges :=
  [(0xA8, 0xA8), (0xAF, 0xAF), (0xB4, 0xB4), (0xB8, 0xB8), (0x2D8, 0x2DD), (0x37A, 0x37A), (0x384, 0x385),
   (0x115F, 0x1160), (0x17B4, 0x17B5), (0x1806, 0x1806), (0x1FBD, 0x1FBD), (0x1FBF, 0x1FC1), (0x1FCD, 0x1FCF),
   (0x1FDD, 0x1FDF), (0x1FED, 0x1FEE), (0x1FFD, 0x1FFE), (0x2017, 0x2017), (0x2024, 0x2026), (0x203E, 0x203E),
   (0x2047, 0x2049), (0x2100, 0x2101), (0x2105, 0x2106), (0x2488, 0x249B), (0x2A74, 0x2A74), (0x2FF0, 0x2FFF),
   (0x309B, 0x309C), (0x3164, 0x3164), (0xFDFA, 0xFDFB), (0xFE12, 0xFE13), (0xFE16, 0xFE16), (0xFE19, 0xFE19),
   (0xFE30, 0xFE30), (0xFE47, 0xFE4C), (0xFE52, 0xFE52), (0xFE55, 0xFE56), (0xFE5F, 0xFE5F), (0xFE64, 0xFE65),
   (0xFE68, 0xFE68), (0xFE6A, 0xFE6B), (0xFE70, 0xFE70), (0xFE72, 0xFE72), (0xFE74, 0xFE74), (0xFE76, 0xFE76),
   (0xFE78, 0xFE78), (0xFE7A, 0xFE7A), (0xFE7C, 0xFE7C), (0xFE7E, 0xFE7E), (0xFFA0, 0xFFA0), (0xFFE3, 0xFFE3),
   (0xFFFC, 0xFFFD)]

/-- The character a run has for a code point. -/
def inRuns? (n : Nat) : Option Nat :=
  (characterRuns.find? fun (first, last, step, _) => first ≤ n && n ≤ last && (n - first) % step == 0).map
    fun (first, _, _, target) => target + (n - first)

end Herbarium.Url
