import ApiBinding.Text.Unprintable

/-!
# Plain forms of characters

Many characters are another form of a plain one: capital letters, wide, small, raised,
circled and mathematical forms, ligatures.  A few do not count at all.  The plain form is
worked out where ASCII characters or marks belong to it; any other character beyond ASCII
stands for its plain form, which differs from it in nothing that matters to an address.
-/

namespace ApiBinding.Text

/-- Ranges of characters that do not count. -/
def ignoredRanges : List (Nat × Nat) := [
  (0xAD, 0xAD), (0x34F, 0x34F), (0x115F, 0x1160), (0x17B4, 0x17B5), (0x180B, 0x180F),
   (0x200B, 0x200B), (0x2060, 0x2064), (0x206A, 0x206F), (0x3164, 0x3164), (0xFE00, 0xFE0F),
   (0xFEFF, 0xFEFF), (0xFFA0, 0xFFA0), (0x1BCA0, 0x1BCA3), (0x1D173, 0x1D17A),
   (0xE0100, 0xE01EF)]

/-- Ranges of characters that have no plain form in an address: blanks, fillers, signs of
writing direction, signs that describe other characters, and forms of what an address
gives a meaning of its own. -/
def formlessRanges : List (Nat × Nat) := [
  (0xA0, 0xA0), (0xA8, 0xA8), (0xAF, 0xAF), (0xB4, 0xB4), (0xB8, 0xB8), (0x2D8, 0x2DD),
   (0x37A, 0x37A), (0x384, 0x385), (0x61C, 0x61C), (0x1FBD, 0x1FBD), (0x1FBF, 0x1FC1),
   (0x1FCD, 0x1FCF), (0x1FDD, 0x1FDF), (0x1FED, 0x1FEE), (0x1FFD, 0x200A), (0x200E, 0x200F),
   (0x2017, 0x2017), (0x2024, 0x2026), (0x202A, 0x202F), (0x203E, 0x203E), (0x2047, 0x2049),
   (0x205F, 0x205F), (0x2066, 0x2069), (0x2100, 0x2101), (0x2105, 0x2106), (0x2488, 0x249B),
   (0x2A74, 0x2A74), (0x2FF0, 0x3000), (0x309B, 0x309C), (0x31EF, 0x31EF), (0x33C2, 0x33C2),
   (0x33C7, 0x33C7), (0x33D8, 0x33D8), (0xFC5E, 0xFC63), (0xFDFA, 0xFDFB), (0xFE12, 0xFE13),
   (0xFE16, 0xFE16), (0xFE19, 0xFE19), (0xFE30, 0xFE30), (0xFE47, 0xFE4C), (0xFE52, 0xFE52),
   (0xFE55, 0xFE56), (0xFE5F, 0xFE5F), (0xFE64, 0xFE65), (0xFE68, 0xFE68), (0xFE6A, 0xFE70),
   (0xFE72, 0xFE72), (0xFE74, 0xFE76), (0xFE78, 0xFE78), (0xFE7A, 0xFE7A), (0xFE7C, 0xFE7C),
   (0xFE7E, 0xFE7E), (0xFF03, 0xFF03), (0xFF05, 0xFF05), (0xFF0F, 0xFF0F), (0xFF1A, 0xFF1A),
   (0xFF1C, 0xFF1C), (0xFF1E, 0xFF20), (0xFF3B, 0xFF3E), (0xFF5C, 0xFF5C), (0xFFE3, 0xFFE3),
   (0xFFFC, 0xFFFD), (0x1F100, 0x1F100)]

/-- Ranges of characters that are not plain. -/
def variantRanges : List (Nat × Nat) := [
  (0xAA, 0xAA), (0xAD, 0xAD), (0xB2, 0xB3), (0xB5, 0xB5), (0xB9, 0xBA), (0xBC, 0xBE),
   (0xC0, 0xD6), (0xD8, 0xDE), (0x100, 0x100), (0x102, 0x102), (0x104, 0x104), (0x106, 0x106),
   (0x108, 0x108), (0x10A, 0x10A), (0x10C, 0x10C), (0x10E, 0x10E), (0x110, 0x110),
   (0x112, 0x112), (0x114, 0x114), (0x116, 0x116), (0x118, 0x118), (0x11A, 0x11A),
   (0x11C, 0x11C), (0x11E, 0x11E), (0x120, 0x120), (0x122, 0x122), (0x124, 0x124),
   (0x126, 0x126), (0x128, 0x128), (0x12A, 0x12A), (0x12C, 0x12C), (0x12E, 0x12E),
   (0x130, 0x130), (0x132, 0x134), (0x136, 0x136), (0x139, 0x139), (0x13B, 0x13B),
   (0x13D, 0x13D), (0x13F, 0x141), (0x143, 0x143), (0x145, 0x145), (0x147, 0x147),
   (0x149, 0x14A), (0x14C, 0x14C), (0x14E, 0x14E), (0x150, 0x150), (0x152, 0x152),
   (0x154, 0x154), (0x156, 0x156), (0x158, 0x158), (0x15A, 0x15A), (0x15C, 0x15C),
   (0x15E, 0x15E), (0x160, 0x160), (0x162, 0x162), (0x164, 0x164), (0x166, 0x166),
   (0x168, 0x168), (0x16A, 0x16A), (0x16C, 0x16C), (0x16E, 0x16E), (0x170, 0x170),
   (0x172, 0x172), (0x174, 0x174), (0x176, 0x176), (0x178, 0x179), (0x17B, 0x17B),
   (0x17D, 0x17D), (0x17F, 0x17F), (0x181, 0x182), (0x184, 0x184), (0x186, 0x187),
   (0x189, 0x18B), (0x18E, 0x191), (0x193, 0x194), (0x196, 0x198), (0x19C, 0x19D),
   (0x19F, 0x1A0), (0x1A2, 0x1A2), (0x1A4, 0x1A4), (0x1A6, 0x1A7), (0x1A9, 0x1A9),
   (0x1AC, 0x1AC), (0x1AE, 0x1AF), (0x1B1, 0x1B3), (0x1B5, 0x1B5), (0x1B7, 0x1B8),
   (0x1BC, 0x1BC), (0x1C4, 0x1CD), (0x1CF, 0x1CF), (0x1D1, 0x1D1), (0x1D3, 0x1D3),
   (0x1D5, 0x1D5), (0x1D7, 0x1D7), (0x1D9, 0x1D9), (0x1DB, 0x1DB), (0x1DE, 0x1DE),
   (0x1E0, 0x1E0), (0x1E2, 0x1E2), (0x1E4, 0x1E4), (0x1E6, 0x1E6), (0x1E8, 0x1E8),
   (0x1EA, 0x1EA), (0x1EC, 0x1EC), (0x1EE, 0x1EE), (0x1F1, 0x1F4), (0x1F6, 0x1F8),
   (0x1FA, 0x1FA), (0x1FC, 0x1FC), (0x1FE, 0x1FE), (0x200, 0x200), (0x202, 0x202),
   (0x204, 0x204), (0x206, 0x206), (0x208, 0x208), (0x20A, 0x20A), (0x20C, 0x20C),
   (0x20E, 0x20E), (0x210, 0x210), (0x212, 0x212), (0x214, 0x214), (0x216, 0x216),
   (0x218, 0x218), (0x21A, 0x21A), (0x21C, 0x21C), (0x21E, 0x21E), (0x220, 0x220),
   (0x222, 0x222), (0x224, 0x224), (0x226, 0x226), (0x228, 0x228), (0x22A, 0x22A),
   (0x22C, 0x22C), (0x22E, 0x22E), (0x230, 0x230), (0x232, 0x232), (0x23A, 0x23B),
   (0x23D, 0x23E), (0x241, 0x241), (0x243, 0x246), (0x248, 0x248), (0x24A, 0x24A),
   (0x24C, 0x24C), (0x24E, 0x24E), (0x2B0, 0x2B8), (0x2E0, 0x2E4), (0x340, 0x341),
   (0x343, 0x345), (0x34F, 0x34F), (0x370, 0x370), (0x372, 0x372), (0x374, 0x374),
   (0x376, 0x376), (0x37E, 0x37F), (0x386, 0x38F), (0x391, 0x3AB), (0x3CF, 0x3D6),
   (0x3D8, 0x3D8), (0x3DA, 0x3DA), (0x3DC, 0x3DC), (0x3DE, 0x3DE), (0x3E0, 0x3E0),
   (0x3E2, 0x3E2), (0x3E4, 0x3E4), (0x3E6, 0x3E6), (0x3E8, 0x3E8), (0x3EA, 0x3EA),
   (0x3EC, 0x3EC), (0x3EE, 0x3EE), (0x3F0, 0x3F2), (0x3F4, 0x3F5), (0x3F7, 0x3F7),
   (0x3F9, 0x3FA), (0x3FD, 0x42F), (0x460, 0x460), (0x462, 0x462), (0x464, 0x464),
   (0x466, 0x466), (0x468, 0x468), (0x46A, 0x46A), (0x46C, 0x46C), (0x46E, 0x46E),
   (0x470, 0x470), (0x472, 0x472), (0x474, 0x474), (0x476, 0x476), (0x478, 0x478),
   (0x47A, 0x47A), (0x47C, 0x47C), (0x47E, 0x47E), (0x480, 0x480), (0x48A, 0x48A),
   (0x48C, 0x48C), (0x48E, 0x48E), (0x490, 0x490), (0x492, 0x492), (0x494, 0x494),
   (0x496, 0x496), (0x498, 0x498), (0x49A, 0x49A), (0x49C, 0x49C), (0x49E, 0x49E),
   (0x4A0, 0x4A0), (0x4A2, 0x4A2), (0x4A4, 0x4A4), (0x4A6, 0x4A6), (0x4A8, 0x4A8),
   (0x4AA, 0x4AA), (0x4AC, 0x4AC), (0x4AE, 0x4AE), (0x4B0, 0x4B0), (0x4B2, 0x4B2),
   (0x4B4, 0x4B4), (0x4B6, 0x4B6), (0x4B8, 0x4B8), (0x4BA, 0x4BA), (0x4BC, 0x4BC),
   (0x4BE, 0x4BE), (0x4C0, 0x4C1), (0x4C3, 0x4C3), (0x4C5, 0x4C5), (0x4C7, 0x4C7),
   (0x4C9, 0x4C9), (0x4CB, 0x4CB), (0x4CD, 0x4CD), (0x4D0, 0x4D0), (0x4D2, 0x4D2),
   (0x4D4, 0x4D4), (0x4D6, 0x4D6), (0x4D8, 0x4D8), (0x4DA, 0x4DA), (0x4DC, 0x4DC),
   (0x4DE, 0x4DE), (0x4E0, 0x4E0), (0x4E2, 0x4E2), (0x4E4, 0x4E4), (0x4E6, 0x4E6),
   (0x4E8, 0x4E8), (0x4EA, 0x4EA), (0x4EC, 0x4EC), (0x4EE, 0x4EE), (0x4F0, 0x4F0),
   (0x4F2, 0x4F2), (0x4F4, 0x4F4), (0x4F6, 0x4F6), (0x4F8, 0x4F8), (0x4FA, 0x4FA),
   (0x4FC, 0x4FC), (0x4FE, 0x4FE), (0x500, 0x500), (0x502, 0x502), (0x504, 0x504),
   (0x506, 0x506), (0x508, 0x508), (0x50A, 0x50A), (0x50C, 0x50C), (0x50E, 0x50E),
   (0x510, 0x510), (0x512, 0x512), (0x514, 0x514), (0x516, 0x516), (0x518, 0x518),
   (0x51A, 0x51A), (0x51C, 0x51C), (0x51E, 0x51E), (0x520, 0x520), (0x522, 0x522),
   (0x524, 0x524), (0x526, 0x526), (0x528, 0x528), (0x52A, 0x52A), (0x52C, 0x52C),
   (0x52E, 0x52E), (0x531, 0x556), (0x587, 0x587), (0x675, 0x678), (0x958, 0x95F),
   (0x9DC, 0x9DF), (0xA33, 0xA33), (0xA36, 0xA36), (0xA59, 0xA5B), (0xA5E, 0xA5E),
   (0xB5C, 0xB5D), (0xE33, 0xE33), (0xEB3, 0xEB3), (0xEDC, 0xEDD), (0xF0C, 0xF0C),
   (0xF43, 0xF43), (0xF4D, 0xF4D), (0xF52, 0xF52), (0xF57, 0xF57), (0xF5C, 0xF5C),
   (0xF69, 0xF69), (0xF73, 0xF73), (0xF75, 0xF79), (0xF81, 0xF81), (0xF93, 0xF93),
   (0xF9D, 0xF9D), (0xFA2, 0xFA2), (0xFA7, 0xFA7), (0xFAC, 0xFAC), (0xFB9, 0xFB9),
   (0x10A0, 0x10CD), (0x10FC, 0x10FC), (0x115F, 0x1160), (0x13F8, 0x13FD), (0x17B4, 0x17B5),
   (0x180B, 0x180F), (0x1C80, 0x1C89), (0x1C90, 0x1CBF), (0x1D2C, 0x1D2E), (0x1D30, 0x1D3A),
   (0x1D3C, 0x1D4D), (0x1D4F, 0x1D6A), (0x1D78, 0x1D78), (0x1D9B, 0x1DBF), (0x1E00, 0x1E00),
   (0x1E02, 0x1E02), (0x1E04, 0x1E04), (0x1E06, 0x1E06), (0x1E08, 0x1E08), (0x1E0A, 0x1E0A),
   (0x1E0C, 0x1E0C), (0x1E0E, 0x1E0E), (0x1E10, 0x1E10), (0x1E12, 0x1E12), (0x1E14, 0x1E14),
   (0x1E16, 0x1E16), (0x1E18, 0x1E18), (0x1E1A, 0x1E1A), (0x1E1C, 0x1E1C), (0x1E1E, 0x1E1E),
   (0x1E20, 0x1E20), (0x1E22, 0x1E22), (0x1E24, 0x1E24), (0x1E26, 0x1E26), (0x1E28, 0x1E28),
   (0x1E2A, 0x1E2A), (0x1E2C, 0x1E2C), (0x1E2E, 0x1E2E), (0x1E30, 0x1E30), (0x1E32, 0x1E32),
   (0x1E34, 0x1E34), (0x1E36, 0x1E36), (0x1E38, 0x1E38), (0x1E3A, 0x1E3A), (0x1E3C, 0x1E3C),
   (0x1E3E, 0x1E3E), (0x1E40, 0x1E40), (0x1E42, 0x1E42), (0x1E44, 0x1E44), (0x1E46, 0x1E46),
   (0x1E48, 0x1E48), (0x1E4A, 0x1E4A), (0x1E4C, 0x1E4C), (0x1E4E, 0x1E4E), (0x1E50, 0x1E50),
   (0x1E52, 0x1E52), (0x1E54, 0x1E54), (0x1E56, 0x1E56), (0x1E58, 0x1E58), (0x1E5A, 0x1E5A),
   (0x1E5C, 0x1E5C), (0x1E5E, 0x1E5E), (0x1E60, 0x1E60), (0x1E62, 0x1E62), (0x1E64, 0x1E64),
   (0x1E66, 0x1E66), (0x1E68, 0x1E68), (0x1E6A, 0x1E6A), (0x1E6C, 0x1E6C), (0x1E6E, 0x1E6E),
   (0x1E70, 0x1E70), (0x1E72, 0x1E72), (0x1E74, 0x1E74), (0x1E76, 0x1E76), (0x1E78, 0x1E78),
   (0x1E7A, 0x1E7A), (0x1E7C, 0x1E7C), (0x1E7E, 0x1E7E), (0x1E80, 0x1E80), (0x1E82, 0x1E82),
   (0x1E84, 0x1E84), (0x1E86, 0x1E86), (0x1E88, 0x1E88), (0x1E8A, 0x1E8A), (0x1E8C, 0x1E8C),
   (0x1E8E, 0x1E8E), (0x1E90, 0x1E90), (0x1E92, 0x1E92), (0x1E94, 0x1E94), (0x1E9A, 0x1E9B),
   (0x1E9E, 0x1E9E), (0x1EA0, 0x1EA0), (0x1EA2, 0x1EA2), (0x1EA4, 0x1EA4), (0x1EA6, 0x1EA6),
   (0x1EA8, 0x1EA8), (0x1EAA, 0x1EAA), (0x1EAC, 0x1EAC), (0x1EAE, 0x1EAE), (0x1EB0, 0x1EB0),
   (0x1EB2, 0x1EB2), (0x1EB4, 0x1EB4), (0x1EB6, 0x1EB6), (0x1EB8, 0x1EB8), (0x1EBA, 0x1EBA),
   (0x1EBC, 0x1EBC), (0x1EBE, 0x1EBE), (0x1EC0, 0x1EC0), (0x1EC2, 0x1EC2), (0x1EC4, 0x1EC4),
   (0x1EC6, 0x1EC6), (0x1EC8, 0x1EC8), (0x1ECA, 0x1ECA), (0x1ECC, 0x1ECC), (0x1ECE, 0x1ECE),
   (0x1ED0, 0x1ED0), (0x1ED2, 0x1ED2), (0x1ED4, 0x1ED4), (0x1ED6, 0x1ED6), (0x1ED8, 0x1ED8),
   (0x1EDA, 0x1EDA), (0x1EDC, 0x1EDC), (0x1EDE, 0x1EDE), (0x1EE0, 0x1EE0), (0x1EE2, 0x1EE2),
   (0x1EE4, 0x1EE4), (0x1EE6, 0x1EE6), (0x1EE8, 0x1EE8), (0x1EEA, 0x1EEA), (0x1EEC, 0x1EEC),
   (0x1EEE, 0x1EEE), (0x1EF0, 0x1EF0), (0x1EF2, 0x1EF2), (0x1EF4, 0x1EF4), (0x1EF6, 0x1EF6),
   (0x1EF8, 0x1EF8), (0x1EFA, 0x1EFA), (0x1EFC, 0x1EFC), (0x1EFE, 0x1EFE), (0x1F08, 0x1F0F),
   (0x1F18, 0x1F1D), (0x1F28, 0x1F2F), (0x1F38, 0x1F3F), (0x1F48, 0x1F4D), (0x1F59, 0x1F5F),
   (0x1F68, 0x1F6F), (0x1F71, 0x1F71), (0x1F73, 0x1F73), (0x1F75, 0x1F75), (0x1F77, 0x1F77),
   (0x1F79, 0x1F79), (0x1F7B, 0x1F7B), (0x1F7D, 0x1FAF), (0x1FB2, 0x1FB4), (0x1FB7, 0x1FBC),
   (0x1FBE, 0x1FBE), (0x1FC2, 0x1FC4), (0x1FC7, 0x1FCC), (0x1FD3, 0x1FD3), (0x1FD8, 0x1FDB),
   (0x1FE3, 0x1FE3), (0x1FE8, 0x1FEC), (0x1FEF, 0x1FF4), (0x1FF7, 0x1FFC), (0x200B, 0x200B),
   (0x2011, 0x2011), (0x2033, 0x2034), (0x2036, 0x2037), (0x203C, 0x203C), (0x2057, 0x2057),
   (0x2060, 0x2064), (0x206A, 0x209C), (0x20A8, 0x20A8), (0x2102, 0x2103), (0x2107, 0x2107),
   (0x2109, 0x2113), (0x2115, 0x2116), (0x2119, 0x211D), (0x2120, 0x2122), (0x2124, 0x2124),
   (0x2126, 0x2126), (0x2128, 0x2128), (0x212A, 0x212D), (0x212F, 0x2139), (0x213B, 0x2140),
   (0x2145, 0x2149), (0x2150, 0x217F), (0x2183, 0x2183), (0x2189, 0x2189), (0x222C, 0x222D),
   (0x222F, 0x2230), (0x2329, 0x232A), (0x2460, 0x2487), (0x249C, 0x24EA), (0x2A0C, 0x2A0C),
   (0x2A75, 0x2A76), (0x2ADC, 0x2ADC), (0x2C00, 0x2C2F), (0x2C60, 0x2C60), (0x2C62, 0x2C64),
   (0x2C67, 0x2C67), (0x2C69, 0x2C69), (0x2C6B, 0x2C6B), (0x2C6D, 0x2C70), (0x2C72, 0x2C72),
   (0x2C75, 0x2C75), (0x2C7C, 0x2C80), (0x2C82, 0x2C82), (0x2C84, 0x2C84), (0x2C86, 0x2C86),
   (0x2C88, 0x2C88), (0x2C8A, 0x2C8A), (0x2C8C, 0x2C8C), (0x2C8E, 0x2C8E), (0x2C90, 0x2C90),
   (0x2C92, 0x2C92), (0x2C94, 0x2C94), (0x2C96, 0x2C96), (0x2C98, 0x2C98), (0x2C9A, 0x2C9A),
   (0x2C9C, 0x2C9C), (0x2C9E, 0x2C9E), (0x2CA0, 0x2CA0), (0x2CA2, 0x2CA2), (0x2CA4, 0x2CA4),
   (0x2CA6, 0x2CA6), (0x2CA8, 0x2CA8), (0x2CAA, 0x2CAA), (0x2CAC, 0x2CAC), (0x2CAE, 0x2CAE),
   (0x2CB0, 0x2CB0), (0x2CB2, 0x2CB2), (0x2CB4, 0x2CB4), (0x2CB6, 0x2CB6), (0x2CB8, 0x2CB8),
   (0x2CBA, 0x2CBA), (0x2CBC, 0x2CBC), (0x2CBE, 0x2CBE), (0x2CC0, 0x2CC0), (0x2CC2, 0x2CC2),
   (0x2CC4, 0x2CC4), (0x2CC6, 0x2CC6), (0x2CC8, 0x2CC8), (0x2CCA, 0x2CCA), (0x2CCC, 0x2CCC),
   (0x2CCE, 0x2CCE), (0x2CD0, 0x2CD0), (0x2CD2, 0x2CD2), (0x2CD4, 0x2CD4), (0x2CD6, 0x2CD6),
   (0x2CD8, 0x2CD8), (0x2CDA, 0x2CDA), (0x2CDC, 0x2CDC), (0x2CDE, 0x2CDE), (0x2CE0, 0x2CE0),
   (0x2CE2, 0x2CE2), (0x2CEB, 0x2CEB), (0x2CED, 0x2CED), (0x2CF2, 0x2CF2), (0x2D6F, 0x2D6F),
   (0x2E9F, 0x2E9F), (0x2EF3, 0x2FD5), (0x3002, 0x3002), (0x3036, 0x3036), (0x3038, 0x303A),
   (0x309F, 0x309F), (0x30FF, 0x30FF), (0x3131, 0x318E), (0x3192, 0x319F), (0x3200, 0x3247),
   (0x3250, 0x327E), (0x3280, 0x33C1), (0x33C3, 0x33C6), (0x33C8, 0x33D7), (0x33D9, 0x33FF),
   (0xA640, 0xA640), (0xA642, 0xA642), (0xA644, 0xA644), (0xA646, 0xA646), (0xA648, 0xA648),
   (0xA64A, 0xA64A), (0xA64C, 0xA64C), (0xA64E, 0xA64E), (0xA650, 0xA650), (0xA652, 0xA652),
   (0xA654, 0xA654), (0xA656, 0xA656), (0xA658, 0xA658), (0xA65A, 0xA65A), (0xA65C, 0xA65C),
   (0xA65E, 0xA65E), (0xA660, 0xA660), (0xA662, 0xA662), (0xA664, 0xA664), (0xA666, 0xA666),
   (0xA668, 0xA668), (0xA66A, 0xA66A), (0xA66C, 0xA66C), (0xA680, 0xA680), (0xA682, 0xA682),
   (0xA684, 0xA684), (0xA686, 0xA686), (0xA688, 0xA688), (0xA68A, 0xA68A), (0xA68C, 0xA68C),
   (0xA68E, 0xA68E), (0xA690, 0xA690), (0xA692, 0xA692), (0xA694, 0xA694), (0xA696, 0xA696),
   (0xA698, 0xA698), (0xA69A, 0xA69A), (0xA69C, 0xA69D), (0xA722, 0xA722), (0xA724, 0xA724),
   (0xA726, 0xA726), (0xA728, 0xA728), (0xA72A, 0xA72A), (0xA72C, 0xA72C), (0xA72E, 0xA72E),
   (0xA732, 0xA732), (0xA734, 0xA734), (0xA736, 0xA736), (0xA738, 0xA738), (0xA73A, 0xA73A),
   (0xA73C, 0xA73C), (0xA73E, 0xA73E), (0xA740, 0xA740), (0xA742, 0xA742), (0xA744, 0xA744),
   (0xA746, 0xA746), (0xA748, 0xA748), (0xA74A, 0xA74A), (0xA74C, 0xA74C), (0xA74E, 0xA74E),
   (0xA750, 0xA750), (0xA752, 0xA752), (0xA754, 0xA754), (0xA756, 0xA756), (0xA758, 0xA758),
   (0xA75A, 0xA75A), (0xA75C, 0xA75C), (0xA75E, 0xA75E), (0xA760, 0xA760), (0xA762, 0xA762),
   (0xA764, 0xA764), (0xA766, 0xA766), (0xA768, 0xA768), (0xA76A, 0xA76A), (0xA76C, 0xA76C),
   (0xA76E, 0xA76E), (0xA770, 0xA770), (0xA779, 0xA779), (0xA77B, 0xA77B), (0xA77D, 0xA77E),
   (0xA780, 0xA780), (0xA782, 0xA782), (0xA784, 0xA784), (0xA786, 0xA786), (0xA78B, 0xA78B),
   (0xA78D, 0xA78D), (0xA790, 0xA790), (0xA792, 0xA792), (0xA796, 0xA796), (0xA798, 0xA798),
   (0xA79A, 0xA79A), (0xA79C, 0xA79C), (0xA79E, 0xA79E), (0xA7A0, 0xA7A0), (0xA7A2, 0xA7A2),
   (0xA7A4, 0xA7A4), (0xA7A6, 0xA7A6), (0xA7A8, 0xA7A8), (0xA7AA, 0xA7AE), (0xA7B0, 0xA7B4),
   (0xA7B6, 0xA7B6), (0xA7B8, 0xA7B8), (0xA7BA, 0xA7BA), (0xA7BC, 0xA7BC), (0xA7BE, 0xA7BE),
   (0xA7C0, 0xA7C0), (0xA7C2, 0xA7C2), (0xA7C4, 0xA7C7), (0xA7C9, 0xA7C9), (0xA7CB, 0xA7CC),
   (0xA7CE, 0xA7CE), (0xA7D0, 0xA7D0), (0xA7D2, 0xA7D2), (0xA7D4, 0xA7D4), (0xA7D6, 0xA7D6),
   (0xA7D8, 0xA7D8), (0xA7DA, 0xA7DA), (0xA7DC, 0xA7F5), (0xA7F8, 0xA7F9), (0xAB5C, 0xAB5F),
   (0xAB69, 0xAB69), (0xAB70, 0xABBF), (0xF900, 0xFA0D), (0xFA10, 0xFA10), (0xFA12, 0xFA12),
   (0xFA15, 0xFA1E), (0xFA20, 0xFA20), (0xFA22, 0xFA22), (0xFA25, 0xFA26), (0xFA2A, 0xFB1D),
   (0xFB1F, 0xFBB1), (0xFBD3, 0xFC5D), (0xFC64, 0xFD3D), (0xFD50, 0xFD8F), (0xFD92, 0xFDC7),
   (0xFDF0, 0xFDF9), (0xFDFC, 0xFDFC), (0xFE00, 0xFE11), (0xFE14, 0xFE15), (0xFE17, 0xFE18),
   (0xFE31, 0xFE44), (0xFE4D, 0xFE51), (0xFE54, 0xFE54), (0xFE57, 0xFE5E), (0xFE60, 0xFE63),
   (0xFE66, 0xFE66), (0xFE69, 0xFE69), (0xFE71, 0xFE71), (0xFE77, 0xFE77), (0xFE79, 0xFE79),
   (0xFE7B, 0xFE7B), (0xFE7D, 0xFE7D), (0xFE7F, 0xFF02), (0xFF04, 0xFF04), (0xFF06, 0xFF0E),
   (0xFF10, 0xFF19), (0xFF1B, 0xFF1B), (0xFF1D, 0xFF1D), (0xFF21, 0xFF3A), (0xFF3F, 0xFF5B),
   (0xFF5D, 0xFFE2), (0xFFE4, 0xFFEE), (0x10400, 0x10427), (0x104B0, 0x104D3),
   (0x10570, 0x10595), (0x10781, 0x107BA), (0x10C80, 0x10CB2), (0x10D50, 0x10D65),
   (0x118A0, 0x118BF), (0x16E40, 0x16E5F), (0x16EA0, 0x16EB8), (0x1BCA0, 0x1BCA3),
   (0x1CCD6, 0x1CCF9), (0x1D15E, 0x1D164), (0x1D173, 0x1D17A), (0x1D1BB, 0x1D1C0),
   (0x1D400, 0x1D7FF), (0x1E030, 0x1E06D), (0x1E900, 0x1E921), (0x1EE00, 0x1EEBB),
   (0x1F101, 0x1F10A), (0x1F110, 0x1F12E), (0x1F130, 0x1F14F), (0x1F16A, 0x1F16C),
   (0x1F190, 0x1F190), (0x1F200, 0x1F251), (0x1FBF0, 0x1FBF9), (0x2F800, 0x2FA1D),
   (0xE0100, 0xE01EF)]

/-- Runs of characters whose plain forms are characters in a row: the first and the last of
a run, and the plain form of the first. -/
def plainRuns : List (Nat × Nat × Nat) := [
  (0xAA, 0xAA, 0x61), (0xB2, 0xB3, 0x32), (0xB9, 0xB9, 0x31), (0xBA, 0xBA, 0x6F),
   (0x17F, 0x17F, 0x73), (0x2B0, 0x2B0, 0x68), (0x2B2, 0x2B2, 0x6A), (0x2B3, 0x2B3, 0x72),
   (0x2B7, 0x2B7, 0x77), (0x2B8, 0x2B8, 0x79), (0x2E1, 0x2E1, 0x6C), (0x2E2, 0x2E2, 0x73),
   (0x2E3, 0x2E3, 0x78), (0x340, 0x341, 0x300), (0x343, 0x343, 0x313), (0x345, 0x345, 0x3B9),
   (0x37E, 0x37E, 0x3B), (0x1D2C, 0x1D2C, 0x61), (0x1D2E, 0x1D2E, 0x62),
   (0x1D30, 0x1D31, 0x64), (0x1D33, 0x1D3A, 0x67), (0x1D3C, 0x1D3C, 0x6F),
   (0x1D3E, 0x1D3E, 0x70), (0x1D3F, 0x1D3F, 0x72), (0x1D40, 0x1D41, 0x74),
   (0x1D42, 0x1D42, 0x77), (0x1D43, 0x1D43, 0x61), (0x1D47, 0x1D47, 0x62),
   (0x1D48, 0x1D49, 0x64), (0x1D4D, 0x1D4D, 0x67), (0x1D4F, 0x1D4F, 0x6B),
   (0x1D50, 0x1D50, 0x6D), (0x1D52, 0x1D52, 0x6F), (0x1D56, 0x1D56, 0x70),
   (0x1D57, 0x1D58, 0x74), (0x1D5B, 0x1D5B, 0x76), (0x1D62, 0x1D62, 0x69),
   (0x1D63, 0x1D63, 0x72), (0x1D64, 0x1D65, 0x75), (0x1D9C, 0x1D9C, 0x63),
   (0x1DA0, 0x1DA0, 0x66), (0x1DBB, 0x1DBB, 0x7A), (0x1FEF, 0x1FEF, 0x60),
   (0x2070, 0x2070, 0x30), (0x2071, 0x2071, 0x69), (0x2074, 0x2079, 0x34),
   (0x207A, 0x207A, 0x2B), (0x207C, 0x207C, 0x3D), (0x207D, 0x207E, 0x28),
   (0x207F, 0x207F, 0x6E), (0x2080, 0x2089, 0x30), (0x208A, 0x208A, 0x2B),
   (0x208C, 0x208C, 0x3D), (0x208D, 0x208E, 0x28), (0x2090, 0x2090, 0x61),
   (0x2091, 0x2091, 0x65), (0x2092, 0x2092, 0x6F), (0x2093, 0x2093, 0x78),
   (0x2095, 0x2095, 0x68), (0x2096, 0x2099, 0x6B), (0x209A, 0x209A, 0x70),
   (0x209B, 0x209C, 0x73), (0x2102, 0x2102, 0x63), (0x210A, 0x210B, 0x67),
   (0x210C, 0x210C, 0x68), (0x210D, 0x210D, 0x68), (0x210E, 0x210E, 0x68),
   (0x2110, 0x2110, 0x69), (0x2111, 0x2111, 0x69), (0x2112, 0x2112, 0x6C),
   (0x2113, 0x2113, 0x6C), (0x2115, 0x2115, 0x6E), (0x2119, 0x211B, 0x70),
   (0x211C, 0x211C, 0x72), (0x211D, 0x211D, 0x72), (0x2124, 0x2124, 0x7A),
   (0x2128, 0x2128, 0x7A), (0x212A, 0x212A, 0x6B), (0x212C, 0x212D, 0x62),
   (0x212F, 0x212F, 0x65), (0x2130, 0x2131, 0x65), (0x2133, 0x2133, 0x6D),
   (0x2134, 0x2134, 0x6F), (0x2139, 0x2139, 0x69), (0x2145, 0x2145, 0x64),
   (0x2146, 0x2147, 0x64), (0x2148, 0x2149, 0x69), (0x2160, 0x2160, 0x69),
   (0x2164, 0x2164, 0x76), (0x2169, 0x2169, 0x78), (0x216C, 0x216C, 0x6C),
   (0x216D, 0x216E, 0x63), (0x216F, 0x216F, 0x6D), (0x2170, 0x2170, 0x69),
   (0x2174, 0x2174, 0x76), (0x2179, 0x2179, 0x78), (0x217C, 0x217C, 0x6C),
   (0x217D, 0x217E, 0x63), (0x217F, 0x217F, 0x6D), (0x2460, 0x2468, 0x31),
   (0x24B6, 0x24CF, 0x61), (0x24D0, 0x24E9, 0x61), (0x24EA, 0x24EA, 0x30),
   (0x2C7C, 0x2C7C, 0x6A), (0x2C7D, 0x2C7D, 0x76), (0x3002, 0x3002, 0x2E),
   (0xA7F1, 0xA7F1, 0x73), (0xA7F2, 0xA7F2, 0x63), (0xA7F3, 0xA7F3, 0x66),
   (0xA7F4, 0xA7F4, 0x71), (0xFB29, 0xFB29, 0x2B), (0xFE10, 0xFE10, 0x2C),
   (0xFE14, 0xFE14, 0x3B), (0xFE15, 0xFE15, 0x21), (0xFE33, 0xFE33, 0x5F),
   (0xFE34, 0xFE34, 0x5F), (0xFE35, 0xFE36, 0x28), (0xFE37, 0xFE37, 0x7B),
   (0xFE38, 0xFE38, 0x7D), (0xFE4D, 0xFE4D, 0x5F), (0xFE4E, 0xFE4E, 0x5F),
   (0xFE4F, 0xFE4F, 0x5F), (0xFE50, 0xFE50, 0x2C), (0xFE54, 0xFE54, 0x3B),
   (0xFE57, 0xFE57, 0x21), (0xFE59, 0xFE5A, 0x28), (0xFE5B, 0xFE5B, 0x7B),
   (0xFE5C, 0xFE5C, 0x7D), (0xFE60, 0xFE60, 0x26), (0xFE61, 0xFE62, 0x2A),
   (0xFE63, 0xFE63, 0x2D), (0xFE66, 0xFE66, 0x3D), (0xFE69, 0xFE69, 0x24),
   (0xFF01, 0xFF02, 0x21), (0xFF04, 0xFF04, 0x24), (0xFF06, 0xFF0E, 0x26),
   (0xFF10, 0xFF19, 0x30), (0xFF1B, 0xFF1B, 0x3B), (0xFF1D, 0xFF1D, 0x3D),
   (0xFF21, 0xFF3A, 0x61), (0xFF3F, 0xFF5B, 0x5F), (0xFF5D, 0xFF5E, 0x7D),
   (0xFF61, 0xFF61, 0x2E), (0xFF9E, 0xFF9F, 0x3099), (0x107A5, 0x107A5, 0x71),
   (0x1CCD6, 0x1CCEF, 0x61), (0x1CCF0, 0x1CCF9, 0x30), (0x1D400, 0x1D419, 0x61),
   (0x1D41A, 0x1D433, 0x61), (0x1D434, 0x1D44D, 0x61), (0x1D44E, 0x1D454, 0x61),
   (0x1D456, 0x1D467, 0x69), (0x1D468, 0x1D481, 0x61), (0x1D482, 0x1D49B, 0x61),
   (0x1D49C, 0x1D49C, 0x61), (0x1D49E, 0x1D49F, 0x63), (0x1D4A2, 0x1D4A2, 0x67),
   (0x1D4A5, 0x1D4A6, 0x6A), (0x1D4A9, 0x1D4AC, 0x6E), (0x1D4AE, 0x1D4B5, 0x73),
   (0x1D4B6, 0x1D4B9, 0x61), (0x1D4BB, 0x1D4BB, 0x66), (0x1D4BD, 0x1D4C3, 0x68),
   (0x1D4C5, 0x1D4CF, 0x70), (0x1D4D0, 0x1D4E9, 0x61), (0x1D4EA, 0x1D503, 0x61),
   (0x1D504, 0x1D505, 0x61), (0x1D507, 0x1D50A, 0x64), (0x1D50D, 0x1D514, 0x6A),
   (0x1D516, 0x1D51C, 0x73), (0x1D51E, 0x1D537, 0x61), (0x1D538, 0x1D539, 0x61),
   (0x1D53B, 0x1D53E, 0x64), (0x1D540, 0x1D544, 0x69), (0x1D546, 0x1D546, 0x6F),
   (0x1D54A, 0x1D550, 0x73), (0x1D552, 0x1D56B, 0x61), (0x1D56C, 0x1D585, 0x61),
   (0x1D586, 0x1D59F, 0x61), (0x1D5A0, 0x1D5B9, 0x61), (0x1D5BA, 0x1D5D3, 0x61),
   (0x1D5D4, 0x1D5ED, 0x61), (0x1D5EE, 0x1D607, 0x61), (0x1D608, 0x1D621, 0x61),
   (0x1D622, 0x1D63B, 0x61), (0x1D63C, 0x1D655, 0x61), (0x1D656, 0x1D66F, 0x61),
   (0x1D670, 0x1D689, 0x61), (0x1D68A, 0x1D6A3, 0x61), (0x1D7CE, 0x1D7D7, 0x30),
   (0x1D7D8, 0x1D7E1, 0x30), (0x1D7E2, 0x1D7EB, 0x30), (0x1D7EC, 0x1D7F5, 0x30),
   (0x1D7F6, 0x1D7FF, 0x30), (0x1F12B, 0x1F12B, 0x63), (0x1F12C, 0x1F12C, 0x72),
   (0x1F130, 0x1F149, 0x61), (0x1FBF0, 0x1FBF9, 0x30)]

/-- Characters whose plain form has several characters. -/
def spelledForms : List (Nat × String) := [
  (0xBC, "1\u20444"), (0xBD, "1\u20442"), (0xBE, "3\u20444"), (0x130, "i\u0307"),
   (0x132, "ij"), (0x133, "ij"), (0x13F, "l\u00b7"), (0x140, "l\u00b7"), (0x149, "\u02bcn"),
   (0x1C4, "d\u017e"), (0x1C5, "d\u017e"), (0x1C6, "d\u017e"), (0x1C7, "lj"), (0x1C8, "lj"),
   (0x1C9, "lj"), (0x1CA, "nj"), (0x1CB, "nj"), (0x1CC, "nj"), (0x1F1, "dz"), (0x1F2, "dz"),
   (0x1F3, "dz"), (0x344, "\u0308\u0301"), (0xE33, "\u0e4d\u0e32"), (0xEB3, "\u0ecd\u0eb2"),
   (0xF73, "\u0f71\u0f72"), (0xF75, "\u0f71\u0f74"), (0xF76, "\u0fb2\u0f80"),
   (0xF77, "\u0fb2\u0f71\u0f80"), (0xF78, "\u0fb3\u0f80"), (0xF79, "\u0fb3\u0f71\u0f80"),
   (0xF81, "\u0f71\u0f80"), (0xF93, "\u0f92\u0fb7"), (0xF9D, "\u0f9c\u0fb7"),
   (0xFA2, "\u0fa1\u0fb7"), (0xFA7, "\u0fa6\u0fb7"), (0xFAC, "\u0fab\u0fb7"),
   (0xFB9, "\u0f90\u0fb5"), (0x1E9A, "a\u02be"), (0x203C, "!!"), (0x20A8, "rs"),
   (0x2103, "\u00b0c"), (0x2109, "\u00b0f"), (0x2116, "no"), (0x2120, "sm"), (0x2121, "tel"),
   (0x2122, "tm"), (0x213B, "fax"), (0x2150, "1\u20447"), (0x2151, "1\u20449"),
   (0x2152, "1\u204410"), (0x2153, "1\u20443"), (0x2154, "2\u20443"), (0x2155, "1\u20445"),
   (0x2156, "2\u20445"), (0x2157, "3\u20445"), (0x2158, "4\u20445"), (0x2159, "1\u20446"),
   (0x215A, "5\u20446"), (0x215B, "1\u20448"), (0x215C, "3\u20448"), (0x215D, "5\u20448"),
   (0x215E, "7\u20448"), (0x215F, "1\u2044"), (0x2161, "ii"), (0x2162, "iii"), (0x2163, "iv"),
   (0x2165, "vi"), (0x2166, "vii"), (0x2167, "viii"), (0x2168, "ix"), (0x216A, "xi"),
   (0x216B, "xii"), (0x2171, "ii"), (0x2172, "iii"), (0x2173, "iv"), (0x2175, "vi"),
   (0x2176, "vii"), (0x2177, "viii"), (0x2178, "ix"), (0x217A, "xi"), (0x217B, "xii"),
   (0x2189, "0\u20443"), (0x2469, "10"), (0x246A, "11"), (0x246B, "12"), (0x246C, "13"),
   (0x246D, "14"), (0x246E, "15"), (0x246F, "16"), (0x2470, "17"), (0x2471, "18"),
   (0x2472, "19"), (0x2473, "20"), (0x2474, "(1)"), (0x2475, "(2)"), (0x2476, "(3)"),
   (0x2477, "(4)"), (0x2478, "(5)"), (0x2479, "(6)"), (0x247A, "(7)"), (0x247B, "(8)"),
   (0x247C, "(9)"), (0x247D, "(10)"), (0x247E, "(11)"), (0x247F, "(12)"), (0x2480, "(13)"),
   (0x2481, "(14)"), (0x2482, "(15)"), (0x2483, "(16)"), (0x2484, "(17)"), (0x2485, "(18)"),
   (0x2486, "(19)"), (0x2487, "(20)"), (0x249C, "(a)"), (0x249D, "(b)"), (0x249E, "(c)"),
   (0x249F, "(d)"), (0x24A0, "(e)"), (0x24A1, "(f)"), (0x24A2, "(g)"), (0x24A3, "(h)"),
   (0x24A4, "(i)"), (0x24A5, "(j)"), (0x24A6, "(k)"), (0x24A7, "(l)"), (0x24A8, "(m)"),
   (0x24A9, "(n)"), (0x24AA, "(o)"), (0x24AB, "(p)"), (0x24AC, "(q)"), (0x24AD, "(r)"),
   (0x24AE, "(s)"), (0x24AF, "(t)"), (0x24B0, "(u)"), (0x24B1, "(v)"), (0x24B2, "(w)"),
   (0x24B3, "(x)"), (0x24B4, "(y)"), (0x24B5, "(z)"), (0x2A75, "=="), (0x2A76, "==="),
   (0x3200, "(\u1100)"), (0x3201, "(\u1102)"), (0x3202, "(\u1103)"), (0x3203, "(\u1105)"),
   (0x3204, "(\u1106)"), (0x3205, "(\u1107)"), (0x3206, "(\u1109)"), (0x3207, "(\u110b)"),
   (0x3208, "(\u110c)"), (0x3209, "(\u110e)"), (0x320A, "(\u110f)"), (0x320B, "(\u1110)"),
   (0x320C, "(\u1111)"), (0x320D, "(\u1112)"), (0x320E, "(\uac00)"), (0x320F, "(\ub098)"),
   (0x3210, "(\ub2e4)"), (0x3211, "(\ub77c)"), (0x3212, "(\ub9c8)"), (0x3213, "(\ubc14)"),
   (0x3214, "(\uc0ac)"), (0x3215, "(\uc544)"), (0x3216, "(\uc790)"), (0x3217, "(\ucc28)"),
   (0x3218, "(\uce74)"), (0x3219, "(\ud0c0)"), (0x321A, "(\ud30c)"), (0x321B, "(\ud558)"),
   (0x321C, "(\uc8fc)"), (0x321D, "(\uc624\uc804)"), (0x321E, "(\uc624\ud6c4)"),
   (0x3220, "(\u4e00)"), (0x3221, "(\u4e8c)"), (0x3222, "(\u4e09)"), (0x3223, "(\u56db)"),
   (0x3224, "(\u4e94)"), (0x3225, "(\u516d)"), (0x3226, "(\u4e03)"), (0x3227, "(\u516b)"),
   (0x3228, "(\u4e5d)"), (0x3229, "(\u5341)"), (0x322A, "(\u6708)"), (0x322B, "(\u706b)"),
   (0x322C, "(\u6c34)"), (0x322D, "(\u6728)"), (0x322E, "(\u91d1)"), (0x322F, "(\u571f)"),
   (0x3230, "(\u65e5)"), (0x3231, "(\u682a)"), (0x3232, "(\u6709)"), (0x3233, "(\u793e)"),
   (0x3234, "(\u540d)"), (0x3235, "(\u7279)"), (0x3236, "(\u8ca1)"), (0x3237, "(\u795d)"),
   (0x3238, "(\u52b4)"), (0x3239, "(\u4ee3)"), (0x323A, "(\u547c)"), (0x323B, "(\u5b66)"),
   (0x323C, "(\u76e3)"), (0x323D, "(\u4f01)"), (0x323E, "(\u8cc7)"), (0x323F, "(\u5354)"),
   (0x3240, "(\u796d)"), (0x3241, "(\u4f11)"), (0x3242, "(\u81ea)"), (0x3243, "(\u81f3)"),
   (0x3250, "pte"), (0x3251, "21"), (0x3252, "22"), (0x3253, "23"), (0x3254, "24"),
   (0x3255, "25"), (0x3256, "26"), (0x3257, "27"), (0x3258, "28"), (0x3259, "29"),
   (0x325A, "30"), (0x325B, "31"), (0x325C, "32"), (0x325D, "33"), (0x325E, "34"),
   (0x325F, "35"), (0x32B1, "36"), (0x32B2, "37"), (0x32B3, "38"), (0x32B4, "39"),
   (0x32B5, "40"), (0x32B6, "41"), (0x32B7, "42"), (0x32B8, "43"), (0x32B9, "44"),
   (0x32BA, "45"), (0x32BB, "46"), (0x32BC, "47"), (0x32BD, "48"), (0x32BE, "49"),
   (0x32BF, "50"), (0x32C0, "1\u6708"), (0x32C1, "2\u6708"), (0x32C2, "3\u6708"),
   (0x32C3, "4\u6708"), (0x32C4, "5\u6708"), (0x32C5, "6\u6708"), (0x32C6, "7\u6708"),
   (0x32C7, "8\u6708"), (0x32C8, "9\u6708"), (0x32C9, "10\u6708"), (0x32CA, "11\u6708"),
   (0x32CB, "12\u6708"), (0x32CC, "hg"), (0x32CD, "erg"), (0x32CE, "ev"), (0x32CF, "ltd"),
   (0x3358, "0\u70b9"), (0x3359, "1\u70b9"), (0x335A, "2\u70b9"), (0x335B, "3\u70b9"),
   (0x335C, "4\u70b9"), (0x335D, "5\u70b9"), (0x335E, "6\u70b9"), (0x335F, "7\u70b9"),
   (0x3360, "8\u70b9"), (0x3361, "9\u70b9"), (0x3362, "10\u70b9"), (0x3363, "11\u70b9"),
   (0x3364, "12\u70b9"), (0x3365, "13\u70b9"), (0x3366, "14\u70b9"), (0x3367, "15\u70b9"),
   (0x3368, "16\u70b9"), (0x3369, "17\u70b9"), (0x336A, "18\u70b9"), (0x336B, "19\u70b9"),
   (0x336C, "20\u70b9"), (0x336D, "21\u70b9"), (0x336E, "22\u70b9"), (0x336F, "23\u70b9"),
   (0x3370, "24\u70b9"), (0x3371, "hpa"), (0x3372, "da"), (0x3373, "au"), (0x3374, "bar"),
   (0x3375, "ov"), (0x3376, "pc"), (0x3377, "dm"), (0x3378, "dm2"), (0x3379, "dm3"),
   (0x337A, "iu"), (0x3380, "pa"), (0x3381, "na"), (0x3382, "\u03bca"), (0x3383, "ma"),
   (0x3384, "ka"), (0x3385, "kb"), (0x3386, "mb"), (0x3387, "gb"), (0x3388, "cal"),
   (0x3389, "kcal"), (0x338A, "pf"), (0x338B, "nf"), (0x338C, "\u03bcf"), (0x338D, "\u03bcg"),
   (0x338E, "mg"), (0x338F, "kg"), (0x3390, "hz"), (0x3391, "khz"), (0x3392, "mhz"),
   (0x3393, "ghz"), (0x3394, "thz"), (0x3395, "\u03bcl"), (0x3396, "ml"), (0x3397, "dl"),
   (0x3398, "kl"), (0x3399, "fm"), (0x339A, "nm"), (0x339B, "\u03bcm"), (0x339C, "mm"),
   (0x339D, "cm"), (0x339E, "km"), (0x339F, "mm2"), (0x33A0, "cm2"), (0x33A1, "m2"),
   (0x33A2, "km2"), (0x33A3, "mm3"), (0x33A4, "cm3"), (0x33A5, "m3"), (0x33A6, "km3"),
   (0x33A7, "m\u2215s"), (0x33A8, "m\u2215s2"), (0x33A9, "pa"), (0x33AA, "kpa"),
   (0x33AB, "mpa"), (0x33AC, "gpa"), (0x33AD, "rad"), (0x33AE, "rad\u2215s"),
   (0x33AF, "rad\u2215s2"), (0x33B0, "ps"), (0x33B1, "ns"), (0x33B2, "\u03bcs"),
   (0x33B3, "ms"), (0x33B4, "pv"), (0x33B5, "nv"), (0x33B6, "\u03bcv"), (0x33B7, "mv"),
   (0x33B8, "kv"), (0x33B9, "mv"), (0x33BA, "pw"), (0x33BB, "nw"), (0x33BC, "\u03bcw"),
   (0x33BD, "mw"), (0x33BE, "kw"), (0x33BF, "mw"), (0x33C0, "k\u03c9"), (0x33C1, "m\u03c9"),
   (0x33C3, "bq"), (0x33C4, "cc"), (0x33C5, "cd"), (0x33C6, "c\u2215kg"), (0x33C8, "db"),
   (0x33C9, "gy"), (0x33CA, "ha"), (0x33CB, "hp"), (0x33CC, "in"), (0x33CD, "kk"),
   (0x33CE, "km"), (0x33CF, "kt"), (0x33D0, "lm"), (0x33D1, "ln"), (0x33D2, "log"),
   (0x33D3, "lx"), (0x33D4, "mb"), (0x33D5, "mil"), (0x33D6, "mol"), (0x33D7, "ph"),
   (0x33D9, "ppm"), (0x33DA, "pr"), (0x33DB, "sr"), (0x33DC, "sv"), (0x33DD, "wb"),
   (0x33DE, "v\u2215m"), (0x33DF, "a\u2215m"), (0x33E0, "1\u65e5"), (0x33E1, "2\u65e5"),
   (0x33E2, "3\u65e5"), (0x33E3, "4\u65e5"), (0x33E4, "5\u65e5"), (0x33E5, "6\u65e5"),
   (0x33E6, "7\u65e5"), (0x33E7, "8\u65e5"), (0x33E8, "9\u65e5"), (0x33E9, "10\u65e5"),
   (0x33EA, "11\u65e5"), (0x33EB, "12\u65e5"), (0x33EC, "13\u65e5"), (0x33ED, "14\u65e5"),
   (0x33EE, "15\u65e5"), (0x33EF, "16\u65e5"), (0x33F0, "17\u65e5"), (0x33F1, "18\u65e5"),
   (0x33F2, "19\u65e5"), (0x33F3, "20\u65e5"), (0x33F4, "21\u65e5"), (0x33F5, "22\u65e5"),
   (0x33F6, "23\u65e5"), (0x33F7, "24\u65e5"), (0x33F8, "25\u65e5"), (0x33F9, "26\u65e5"),
   (0x33FA, "27\u65e5"), (0x33FB, "28\u65e5"), (0x33FC, "29\u65e5"), (0x33FD, "30\u65e5"),
   (0x33FE, "31\u65e5"), (0x33FF, "gal"), (0xFB00, "ff"), (0xFB01, "fi"), (0xFB02, "fl"),
   (0xFB03, "ffi"), (0xFB04, "ffl"), (0xFB05, "st"), (0xFB06, "st"), (0x1F101, "0,"),
   (0x1F102, "1,"), (0x1F103, "2,"), (0x1F104, "3,"), (0x1F105, "4,"), (0x1F106, "5,"),
   (0x1F107, "6,"), (0x1F108, "7,"), (0x1F109, "8,"), (0x1F10A, "9,"), (0x1F110, "(a)"),
   (0x1F111, "(b)"), (0x1F112, "(c)"), (0x1F113, "(d)"), (0x1F114, "(e)"), (0x1F115, "(f)"),
   (0x1F116, "(g)"), (0x1F117, "(h)"), (0x1F118, "(i)"), (0x1F119, "(j)"), (0x1F11A, "(k)"),
   (0x1F11B, "(l)"), (0x1F11C, "(m)"), (0x1F11D, "(n)"), (0x1F11E, "(o)"), (0x1F11F, "(p)"),
   (0x1F120, "(q)"), (0x1F121, "(r)"), (0x1F122, "(s)"), (0x1F123, "(t)"), (0x1F124, "(u)"),
   (0x1F125, "(v)"), (0x1F126, "(w)"), (0x1F127, "(x)"), (0x1F128, "(y)"), (0x1F129, "(z)"),
   (0x1F12A, "\u3014s\u3015"), (0x1F12D, "cd"), (0x1F12E, "wz"), (0x1F14A, "hv"),
   (0x1F14B, "mv"), (0x1F14C, "sd"), (0x1F14D, "ss"), (0x1F14E, "ppv"), (0x1F14F, "wc"),
   (0x1F16A, "mc"), (0x1F16B, "md"), (0x1F16C, "mr"), (0x1F190, "dj")]

/-- Whether a character does not count. -/
def isIgnored (c : Char) : Bool :=
  inRanges ignoredRanges c.toNat

/-- Whether a character is its plain form. -/
def isPlain (c : Char) : Bool :=
  !inRanges variantRanges c.toNat && !c.isUpper

/-- Whether a character has no plain form. -/
def isFormless (c : Char) : Bool :=
  inRanges formlessRanges c.toNat || isUnprintable c

/-- The single character that is the plain form of another one. -/
def singleForm? (code : Nat) : Option Char :=
  (plainRuns.find? fun run => run.1 ≤ code && code ≤ run.2.1).map fun run =>
    Char.ofNat (run.2.2 + (code - run.1))

/-- The plain form of a character, if it has one. -/
def plainForm? (c : Char) : Option (List Char) :=
  if c.toNat < 0x80 then some [c.toLower]
  else if c = '\u200C' || c = '\u200D' then some [c]
  else if isIgnored c then some []
  else
    match singleForm? c.toNat with
    | some plain => some [plain]
    | none =>
      match spelledForms.lookup c.toNat with
      | some plain => some plain.toList
      | none => if isFormless c then none else some [c]

end ApiBinding.Text
