import ApiBinding.Text.CharacterClass

/-!
# Directions of writing

Characters are written from left to right or from right to left, or have no direction of
their own.  Digits are kept apart, since a text in one direction may hold digits of the
other.  The direction of a character is that of its plain form.

Main results:

- Theorem `ofChar_digit`: the digits of ASCII are European digits.
-/

namespace ApiBinding.Text

/-- How a character is written. -/
inductive Direction where
  | left
  | right
  | arabicDigit
  | europeanDigit
  /-- A mark that is written as the character before it. -/
  | nonspacing
  | neutral
deriving DecidableEq, Repr

/-- Ranges of what is written from left to right. -/
def leftRanges : List (Nat × Nat) := [
  (0x41, 0x5A), (0x61, 0x7A), (0xB5, 0xB5), (0xC0, 0xD6), (0xD8, 0xF6), (0xF8, 0x2B6),
   (0x2BB, 0x2C1), (0x2D0, 0x2D1), (0x2E0, 0x2E4), (0x2EE, 0x2EE), (0x370, 0x373),
   (0x376, 0x386), (0x388, 0x3F5), (0x3F7, 0x482), (0x48A, 0x589), (0x903, 0x939),
   (0x93B, 0x93B), (0x93D, 0x940), (0x949, 0x94C), (0x94E, 0x950), (0x958, 0x961),
   (0x964, 0x980), (0x982, 0x9B9), (0x9BD, 0x9C0), (0x9C7, 0x9CC), (0x9CE, 0x9E1),
   (0x9E6, 0x9F1), (0x9F4, 0x9FA), (0x9FC, 0x9FD), (0xA03, 0xA39), (0xA3E, 0xA40),
   (0xA59, 0xA6F), (0xA72, 0xA74), (0xA76, 0xA76), (0xA83, 0xAB9), (0xABD, 0xAC0),
   (0xAC9, 0xACC), (0xAD0, 0xAE1), (0xAE6, 0xAF0), (0xAF9, 0xAF9), (0xB02, 0xB39),
   (0xB3D, 0xB3E), (0xB40, 0xB40), (0xB47, 0xB4C), (0xB57, 0xB61), (0xB66, 0xB77),
   (0xB83, 0xBBF), (0xBC1, 0xBCC), (0xBD0, 0xBF2), (0xC01, 0xC03), (0xC05, 0xC39),
   (0xC3D, 0xC3D), (0xC41, 0xC44), (0xC58, 0xC61), (0xC66, 0xC77), (0xC7F, 0xC80),
   (0xC82, 0xCB9), (0xCBD, 0xCCB), (0xCD5, 0xCE1), (0xCE6, 0xCF3), (0xD02, 0xD3A),
   (0xD3D, 0xD40), (0xD46, 0xD4C), (0xD4E, 0xD61), (0xD66, 0xD7F), (0xD82, 0xDC6),
   (0xDCF, 0xDD1), (0xDD8, 0xE30), (0xE32, 0xE32), (0xE40, 0xE46), (0xE4F, 0xEB0),
   (0xEB2, 0xEB2), (0xEBD, 0xEC6), (0xED0, 0xF17), (0xF1A, 0xF34), (0xF36, 0xF36),
   (0xF38, 0xF38), (0xF3E, 0xF6C), (0xF7F, 0xF7F), (0xF85, 0xF85), (0xF88, 0xF8C),
   (0xFBE, 0xFC5), (0xFC7, 0x102C), (0x1031, 0x1031), (0x1038, 0x1038), (0x103B, 0x103C),
   (0x103F, 0x1057), (0x105A, 0x105D), (0x1061, 0x1070), (0x1075, 0x1081), (0x1083, 0x1084),
   (0x1087, 0x108C), (0x108E, 0x109C), (0x109E, 0x135A), (0x1360, 0x138F), (0x13A0, 0x13FD),
   (0x1401, 0x167F), (0x1681, 0x169A), (0x16A0, 0x1711), (0x1715, 0x1731), (0x1734, 0x1751),
   (0x1760, 0x1770), (0x1780, 0x17B6), (0x17BE, 0x17C5), (0x17C7, 0x17C8), (0x17D4, 0x17DA),
   (0x17DC, 0x17DC), (0x17E0, 0x17E9), (0x1810, 0x1884), (0x1887, 0x18A8), (0x18AA, 0x191E),
   (0x1923, 0x1926), (0x1929, 0x1931), (0x1933, 0x1938), (0x1946, 0x19DA), (0x1A00, 0x1A16),
   (0x1A19, 0x1A1A), (0x1A1E, 0x1A55), (0x1A57, 0x1A57), (0x1A61, 0x1A61), (0x1A63, 0x1A64),
   (0x1A6D, 0x1A72), (0x1A80, 0x1AAD), (0x1B04, 0x1B33), (0x1B35, 0x1B35), (0x1B3B, 0x1B3B),
   (0x1B3D, 0x1B41), (0x1B43, 0x1B6A), (0x1B74, 0x1B7F), (0x1B82, 0x1BA1), (0x1BA6, 0x1BA7),
   (0x1BAA, 0x1BAA), (0x1BAE, 0x1BE5), (0x1BE7, 0x1BE7), (0x1BEA, 0x1BEC), (0x1BEE, 0x1BEE),
   (0x1BF2, 0x1C2B), (0x1C34, 0x1C35), (0x1C3B, 0x1CC7), (0x1CD3, 0x1CD3), (0x1CE1, 0x1CE1),
   (0x1CE9, 0x1CEC), (0x1CEE, 0x1CF3), (0x1CF5, 0x1CF7), (0x1CFA, 0x1DBF), (0x1E00, 0x1FFC),
   (0x2094, 0x2094), (0x2107, 0x2107), (0x210F, 0x210F), (0x2126, 0x2126), (0x212B, 0x212B),
   (0x2132, 0x2132), (0x213C, 0x213F), (0x214E, 0x2188), (0x2336, 0x237A), (0x2395, 0x2395),
   (0x26AC, 0x26AC), (0x2800, 0x28FF), (0x2C00, 0x2CE4), (0x2CEB, 0x2CEE), (0x2CF2, 0x2CF3),
   (0x2D00, 0x2D70), (0x2D80, 0x2DDE), (0x2E9F, 0x2E9F), (0x2EF3, 0x2FD5), (0x3005, 0x3007),
   (0x3021, 0x3029), (0x302E, 0x302F), (0x3031, 0x3035), (0x3038, 0x303C), (0x3041, 0x3096),
   (0x309D, 0x309F), (0x30A1, 0x30FA), (0x30FC, 0x31BF), (0x31F0, 0x4DBF), (0x4E00, 0xA48C),
   (0xA4D0, 0xA60C), (0xA610, 0xA66E), (0xA680, 0xA69D), (0xA6A0, 0xA6EF), (0xA6F2, 0xA6F7),
   (0xA722, 0xA787), (0xA789, 0xA801), (0xA803, 0xA805), (0xA807, 0xA80A), (0xA80C, 0xA824),
   (0xA827, 0xA827), (0xA830, 0xA837), (0xA840, 0xA873), (0xA880, 0xA8C3), (0xA8CE, 0xA8D9),
   (0xA8F2, 0xA8FE), (0xA900, 0xA925), (0xA92E, 0xA946), (0xA952, 0xA97C), (0xA983, 0xA9B2),
   (0xA9B4, 0xA9B5), (0xA9BA, 0xA9BB), (0xA9BE, 0xA9E4), (0xA9E6, 0xAA28), (0xAA2F, 0xAA30),
   (0xAA33, 0xAA34), (0xAA40, 0xAA42), (0xAA44, 0xAA4B), (0xAA4D, 0xAA7B), (0xAA7D, 0xAAAF),
   (0xAAB1, 0xAAB1), (0xAAB5, 0xAAB6), (0xAAB9, 0xAABD), (0xAAC0, 0xAAC0), (0xAAC2, 0xAAEB),
   (0xAAEE, 0xAAF5), (0xAB01, 0xAB69), (0xAB70, 0xABE4), (0xABE6, 0xABE7), (0xABE9, 0xABEC),
   (0xABF0, 0xFB17), (0xFF66, 0xFFDC), (0x10000, 0x10100), (0x10102, 0x1013F),
   (0x1018D, 0x1018E), (0x101D0, 0x101FC), (0x10280, 0x102D0), (0x10300, 0x10375),
   (0x10380, 0x107BA), (0x11000, 0x11000), (0x11002, 0x11037), (0x11047, 0x1104D),
   (0x11066, 0x1106F), (0x11071, 0x11072), (0x11075, 0x11075), (0x11082, 0x110B2),
   (0x110B7, 0x110B8), (0x110BB, 0x110C1), (0x110CD, 0x110F9), (0x11103, 0x11126),
   (0x1112C, 0x1112C), (0x11136, 0x11172), (0x11174, 0x11176), (0x11182, 0x111B5),
   (0x111BF, 0x111C8), (0x111CD, 0x111CE), (0x111D0, 0x1122E), (0x11232, 0x11233),
   (0x11235, 0x11235), (0x11238, 0x1123D), (0x1123F, 0x11240), (0x11280, 0x112DE),
   (0x112E0, 0x112E2), (0x112F0, 0x112F9), (0x11302, 0x11339), (0x1133D, 0x1133F),
   (0x11341, 0x11363), (0x11380, 0x113BA), (0x113C2, 0x113CD), (0x113CF, 0x113CF),
   (0x113D1, 0x113D1), (0x113D3, 0x113D8), (0x11400, 0x11437), (0x11440, 0x11441),
   (0x11445, 0x11445), (0x11447, 0x1145D), (0x1145F, 0x114B2), (0x114B9, 0x114B9),
   (0x114BB, 0x114BE), (0x114C1, 0x114C1), (0x114C4, 0x115B1), (0x115B8, 0x115BB),
   (0x115BE, 0x115BE), (0x115C1, 0x115DB), (0x11600, 0x11632), (0x1163B, 0x1163C),
   (0x1163E, 0x1163E), (0x11641, 0x11659), (0x11680, 0x116AA), (0x116AC, 0x116AC),
   (0x116AE, 0x116AF), (0x116B6, 0x116B6), (0x116B8, 0x1171A), (0x1171E, 0x1171E),
   (0x11720, 0x11721), (0x11726, 0x11726), (0x11730, 0x1182E), (0x11838, 0x11838),
   (0x1183B, 0x11938), (0x1193D, 0x1193D), (0x1193F, 0x11942), (0x11944, 0x119D3),
   (0x119DC, 0x119DF), (0x119E1, 0x11A00), (0x11A07, 0x11A08), (0x11A0B, 0x11A32),
   (0x11A39, 0x11A3A), (0x11A3F, 0x11A46), (0x11A50, 0x11A50), (0x11A57, 0x11A58),
   (0x11A5C, 0x11A89), (0x11A97, 0x11A97), (0x11A9A, 0x11B09), (0x11B61, 0x11B61),
   (0x11B65, 0x11B65), (0x11B67, 0x11C2F), (0x11C3E, 0x11C8F), (0x11CA9, 0x11CA9),
   (0x11CB1, 0x11CB1), (0x11CB4, 0x11CB4), (0x11D00, 0x11D30), (0x11D46, 0x11D46),
   (0x11D50, 0x11D8E), (0x11D93, 0x11D94), (0x11D96, 0x11D96), (0x11D98, 0x11EF2),
   (0x11EF5, 0x11EF8), (0x11F02, 0x11F35), (0x11F3E, 0x11F3F), (0x11F41, 0x11F41),
   (0x11F43, 0x11F59), (0x11FB0, 0x11FD4), (0x11FFF, 0x1343F), (0x13441, 0x13446),
   (0x13460, 0x1611D), (0x1612A, 0x1612C), (0x16130, 0x16AED), (0x16AF5, 0x16B2F),
   (0x16B37, 0x16F4A), (0x16F50, 0x16F87), (0x16F93, 0x16FE1), (0x16FE3, 0x16FE3),
   (0x16FF0, 0x1BC9C), (0x1BC9F, 0x1BC9F), (0x1CF50, 0x1D166), (0x1D16A, 0x1D172),
   (0x1D183, 0x1D184), (0x1D18C, 0x1D1A9), (0x1D1AE, 0x1D1E8), (0x1D2C0, 0x1D2F3),
   (0x1D360, 0x1D6C0), (0x1D6C2, 0x1D6DA), (0x1D6DC, 0x1D6FA), (0x1D6FC, 0x1D714),
   (0x1D716, 0x1D734), (0x1D736, 0x1D74E), (0x1D750, 0x1D76E), (0x1D770, 0x1D788),
   (0x1D78A, 0x1D7A8), (0x1D7AA, 0x1D7C2), (0x1D7C4, 0x1D9FF), (0x1DA37, 0x1DA3A),
   (0x1DA6D, 0x1DA74), (0x1DA76, 0x1DA83), (0x1DA85, 0x1DA8B), (0x1DF00, 0x1DF2A),
   (0x1E030, 0x1E06D), (0x1E100, 0x1E12C), (0x1E137, 0x1E2AD), (0x1E2C0, 0x1E2EB),
   (0x1E2F0, 0x1E2F9), (0x1E4D0, 0x1E4EB), (0x1E4F0, 0x1E5ED), (0x1E5F0, 0x1E6E2),
   (0x1E6E4, 0x1E6E5), (0x1E6E7, 0x1E6ED), (0x1E6F0, 0x1E6F4), (0x1E6FE, 0x1E7FE),
   (0x1F150, 0x1F169), (0x1F170, 0x1F1AC), (0x1F1E6, 0x1F23B), (0x1F250, 0x1F251),
   (0x20000, 0x33479)]

/-- Ranges of what is written from right to left. -/
def rightRanges : List (Nat × Nat) := [
  (0x5BE, 0x5BE), (0x5C0, 0x5C0), (0x5C3, 0x5C3), (0x5C6, 0x5C6), (0x5D0, 0x5F4),
   (0x608, 0x608), (0x60B, 0x60B), (0x60D, 0x60D), (0x61B, 0x64A), (0x66D, 0x66F),
   (0x671, 0x6D5), (0x6E5, 0x6E6), (0x6EE, 0x6EF), (0x6FA, 0x710), (0x712, 0x72F),
   (0x74D, 0x7A5), (0x7B1, 0x7EA), (0x7F4, 0x7F5), (0x7FA, 0x7FA), (0x7FE, 0x815),
   (0x81A, 0x81A), (0x824, 0x824), (0x828, 0x828), (0x830, 0x858), (0x85E, 0x88F),
   (0x8A0, 0x8C9), (0x2135, 0x2138), (0xFB1D, 0xFB1D), (0xFB1F, 0xFBC2), (0xFBD3, 0xFD3D),
   (0xFD50, 0xFD8F), (0xFD92, 0xFDC7), (0xFDF0, 0xFDFC), (0xFE71, 0xFEFC), (0x10800, 0x1091B),
   (0x10920, 0x10A00), (0x10A10, 0x10A35), (0x10A40, 0x10AE4), (0x10AEB, 0x10B35),
   (0x10B40, 0x10D23), (0x10D4A, 0x10D65), (0x10D6F, 0x10D85), (0x10E80, 0x10EA9),
   (0x10EAD, 0x10EC7), (0x10F00, 0x10F45), (0x10F51, 0x10F81), (0x10F86, 0x10FF6),
   (0x1E800, 0x1E8CF), (0x1E900, 0x1E943), (0x1E94B, 0x1EEBB)]

/-- Ranges of Arabic digits and signs beside them. -/
def arabicDigitRanges : List (Nat × Nat) := [
  (0x600, 0x605), (0x660, 0x669), (0x66B, 0x66C), (0x6DD, 0x6DD), (0x890, 0x891),
   (0x8E2, 0x8E2), (0x10D30, 0x10D49), (0x10E60, 0x10E7E)]

/-- Ranges of European digits. -/
def europeanDigitRanges : List (Nat × Nat) := [
  (0x30, 0x39), (0x6F0, 0x6F9), (0x102E1, 0x102FB)]

/-- Ranges of marks without a place of their own. -/
def nonspacingRanges : List (Nat × Nat) := [
  (0x300, 0x36F), (0x483, 0x489), (0x591, 0x5BD), (0x5BF, 0x5BF), (0x5C1, 0x5C2),
   (0x5C4, 0x5C5), (0x5C7, 0x5C7), (0x610, 0x61A), (0x64B, 0x65F), (0x670, 0x670),
   (0x6D6, 0x6DC), (0x6DF, 0x6E4), (0x6E7, 0x6E8), (0x6EA, 0x6ED), (0x711, 0x711),
   (0x730, 0x74A), (0x7A6, 0x7B0), (0x7EB, 0x7F3), (0x7FD, 0x7FD), (0x816, 0x819),
   (0x81B, 0x823), (0x825, 0x827), (0x829, 0x82D), (0x859, 0x85B), (0x897, 0x89F),
   (0x8CA, 0x8E1), (0x8E3, 0x902), (0x93A, 0x93A), (0x93C, 0x93C), (0x941, 0x948),
   (0x94D, 0x94D), (0x951, 0x957), (0x962, 0x963), (0x981, 0x981), (0x9BC, 0x9BC),
   (0x9C1, 0x9C4), (0x9CD, 0x9CD), (0x9E2, 0x9E3), (0x9FE, 0xA02), (0xA3C, 0xA3C),
   (0xA41, 0xA51), (0xA70, 0xA71), (0xA75, 0xA75), (0xA81, 0xA82), (0xABC, 0xABC),
   (0xAC1, 0xAC8), (0xACD, 0xACD), (0xAE2, 0xAE3), (0xAFA, 0xB01), (0xB3C, 0xB3C),
   (0xB3F, 0xB3F), (0xB41, 0xB44), (0xB4D, 0xB56), (0xB62, 0xB63), (0xB82, 0xB82),
   (0xBC0, 0xBC0), (0xBCD, 0xBCD), (0xC00, 0xC00), (0xC04, 0xC04), (0xC3C, 0xC3C),
   (0xC3E, 0xC40), (0xC46, 0xC56), (0xC62, 0xC63), (0xC81, 0xC81), (0xCBC, 0xCBC),
   (0xCCC, 0xCCD), (0xCE2, 0xCE3), (0xD00, 0xD01), (0xD3B, 0xD3C), (0xD41, 0xD44),
   (0xD4D, 0xD4D), (0xD62, 0xD63), (0xD81, 0xD81), (0xDCA, 0xDCA), (0xDD2, 0xDD6),
   (0xE31, 0xE31), (0xE34, 0xE3A), (0xE47, 0xE4E), (0xEB1, 0xEB1), (0xEB4, 0xEBC),
   (0xEC8, 0xECE), (0xF18, 0xF19), (0xF35, 0xF35), (0xF37, 0xF37), (0xF39, 0xF39),
   (0xF71, 0xF7E), (0xF80, 0xF84), (0xF86, 0xF87), (0xF8D, 0xFBC), (0xFC6, 0xFC6),
   (0x102D, 0x1030), (0x1032, 0x1037), (0x1039, 0x103A), (0x103D, 0x103E), (0x1058, 0x1059),
   (0x105E, 0x1060), (0x1071, 0x1074), (0x1082, 0x1082), (0x1085, 0x1086), (0x108D, 0x108D),
   (0x109D, 0x109D), (0x135D, 0x135F), (0x1712, 0x1714), (0x1732, 0x1733), (0x1752, 0x1753),
   (0x1772, 0x1773), (0x17B7, 0x17BD), (0x17C6, 0x17C6), (0x17C9, 0x17D3), (0x17DD, 0x17DD),
   (0x1885, 0x1886), (0x18A9, 0x18A9), (0x1920, 0x1922), (0x1927, 0x1928), (0x1932, 0x1932),
   (0x1939, 0x193B), (0x1A17, 0x1A18), (0x1A1B, 0x1A1B), (0x1A56, 0x1A56), (0x1A58, 0x1A60),
   (0x1A62, 0x1A62), (0x1A65, 0x1A6C), (0x1A73, 0x1A7F), (0x1AB0, 0x1B03), (0x1B34, 0x1B34),
   (0x1B36, 0x1B3A), (0x1B3C, 0x1B3C), (0x1B42, 0x1B42), (0x1B6B, 0x1B73), (0x1B80, 0x1B81),
   (0x1BA2, 0x1BA5), (0x1BA8, 0x1BA9), (0x1BAB, 0x1BAD), (0x1BE6, 0x1BE6), (0x1BE8, 0x1BE9),
   (0x1BED, 0x1BED), (0x1BEF, 0x1BF1), (0x1C2C, 0x1C33), (0x1C36, 0x1C37), (0x1CD0, 0x1CD2),
   (0x1CD4, 0x1CE0), (0x1CE2, 0x1CE8), (0x1CED, 0x1CED), (0x1CF4, 0x1CF4), (0x1CF8, 0x1CF9),
   (0x1DC0, 0x1DFF), (0x20D0, 0x20F0), (0x2CEF, 0x2CF1), (0x2D7F, 0x2D7F), (0x2DE0, 0x2DFF),
   (0x302A, 0x302D), (0x3099, 0x309A), (0xA66F, 0xA672), (0xA674, 0xA67D), (0xA69E, 0xA69F),
   (0xA6F0, 0xA6F1), (0xA802, 0xA802), (0xA806, 0xA806), (0xA80B, 0xA80B), (0xA825, 0xA826),
   (0xA82C, 0xA82C), (0xA8C4, 0xA8C5), (0xA8E0, 0xA8F1), (0xA8FF, 0xA8FF), (0xA926, 0xA92D),
   (0xA947, 0xA951), (0xA980, 0xA982), (0xA9B3, 0xA9B3), (0xA9B6, 0xA9B9), (0xA9BC, 0xA9BD),
   (0xA9E5, 0xA9E5), (0xAA29, 0xAA2E), (0xAA31, 0xAA32), (0xAA35, 0xAA36), (0xAA43, 0xAA43),
   (0xAA4C, 0xAA4C), (0xAA7C, 0xAA7C), (0xAAB0, 0xAAB0), (0xAAB2, 0xAAB4), (0xAAB7, 0xAAB8),
   (0xAABE, 0xAABF), (0xAAC1, 0xAAC1), (0xAAEC, 0xAAED), (0xAAF6, 0xAAF6), (0xABE5, 0xABE5),
   (0xABE8, 0xABE8), (0xABED, 0xABED), (0xFB1E, 0xFB1E), (0xFE20, 0xFE2F), (0x101FD, 0x101FD),
   (0x102E0, 0x102E0), (0x10376, 0x1037A), (0x10A01, 0x10A0F), (0x10A38, 0x10A3F),
   (0x10AE5, 0x10AE6), (0x10D24, 0x10D27), (0x10D69, 0x10D6D), (0x10EAB, 0x10EAC),
   (0x10EFA, 0x10EFF), (0x10F46, 0x10F50), (0x10F82, 0x10F85), (0x11001, 0x11001),
   (0x11038, 0x11046), (0x11070, 0x11070), (0x11073, 0x11074), (0x1107F, 0x11081),
   (0x110B3, 0x110B6), (0x110B9, 0x110BA), (0x110C2, 0x110C2), (0x11100, 0x11102),
   (0x11127, 0x1112B), (0x1112D, 0x11134), (0x11173, 0x11173), (0x11180, 0x11181),
   (0x111B6, 0x111BE), (0x111C9, 0x111CC), (0x111CF, 0x111CF), (0x1122F, 0x11231),
   (0x11234, 0x11234), (0x11236, 0x11237), (0x1123E, 0x1123E), (0x11241, 0x11241),
   (0x112DF, 0x112DF), (0x112E3, 0x112EA), (0x11300, 0x11301), (0x1133B, 0x1133C),
   (0x11340, 0x11340), (0x11366, 0x11374), (0x113BB, 0x113C0), (0x113CE, 0x113CE),
   (0x113D0, 0x113D0), (0x113D2, 0x113D2), (0x113E1, 0x113E2), (0x11438, 0x1143F),
   (0x11442, 0x11444), (0x11446, 0x11446), (0x1145E, 0x1145E), (0x114B3, 0x114B8),
   (0x114BA, 0x114BA), (0x114BF, 0x114C0), (0x114C2, 0x114C3), (0x115B2, 0x115B5),
   (0x115BC, 0x115BD), (0x115BF, 0x115C0), (0x115DC, 0x115DD), (0x11633, 0x1163A),
   (0x1163D, 0x1163D), (0x1163F, 0x11640), (0x116AB, 0x116AB), (0x116AD, 0x116AD),
   (0x116B0, 0x116B5), (0x116B7, 0x116B7), (0x1171D, 0x1171D), (0x1171F, 0x1171F),
   (0x11722, 0x11725), (0x11727, 0x1172B), (0x1182F, 0x11837), (0x11839, 0x1183A),
   (0x1193B, 0x1193C), (0x1193E, 0x1193E), (0x11943, 0x11943), (0x119D4, 0x119DB),
   (0x119E0, 0x119E0), (0x11A01, 0x11A06), (0x11A09, 0x11A0A), (0x11A33, 0x11A38),
   (0x11A3B, 0x11A3E), (0x11A47, 0x11A47), (0x11A51, 0x11A56), (0x11A59, 0x11A5B),
   (0x11A8A, 0x11A96), (0x11A98, 0x11A99), (0x11B60, 0x11B60), (0x11B62, 0x11B64),
   (0x11B66, 0x11B66), (0x11C30, 0x11C3D), (0x11C92, 0x11CA7), (0x11CAA, 0x11CB0),
   (0x11CB2, 0x11CB3), (0x11CB5, 0x11CB6), (0x11D31, 0x11D45), (0x11D47, 0x11D47),
   (0x11D90, 0x11D91), (0x11D95, 0x11D95), (0x11D97, 0x11D97), (0x11EF3, 0x11EF4),
   (0x11F00, 0x11F01), (0x11F36, 0x11F3A), (0x11F40, 0x11F40), (0x11F42, 0x11F42),
   (0x11F5A, 0x11F5A), (0x13440, 0x13440), (0x13447, 0x13455), (0x1611E, 0x16129),
   (0x1612D, 0x1612F), (0x16AF0, 0x16AF4), (0x16B30, 0x16B36), (0x16F4F, 0x16F4F),
   (0x16F8F, 0x16F92), (0x16FE4, 0x16FE4), (0x1BC9D, 0x1BC9E), (0x1CF00, 0x1CF46),
   (0x1D167, 0x1D169), (0x1D17B, 0x1D182), (0x1D185, 0x1D18B), (0x1D1AA, 0x1D1AD),
   (0x1D242, 0x1D244), (0x1DA00, 0x1DA36), (0x1DA3B, 0x1DA6C), (0x1DA75, 0x1DA75),
   (0x1DA84, 0x1DA84), (0x1DA9B, 0x1DAAF), (0x1E000, 0x1E02A), (0x1E08F, 0x1E08F),
   (0x1E130, 0x1E136), (0x1E2AE, 0x1E2AE), (0x1E2EC, 0x1E2EF), (0x1E4EC, 0x1E4EF),
   (0x1E5EE, 0x1E5EF), (0x1E6E3, 0x1E6E3), (0x1E6E6, 0x1E6E6), (0x1E6EE, 0x1E6EF),
   (0x1E6F5, 0x1E6F5), (0x1E8D0, 0x1E8D6), (0x1E944, 0x1E94A)]

namespace Direction

/-- The direction of a character. -/
def ofChar (c : Char) : Direction :=
  let code := c.toNat
  if inRanges europeanDigitRanges code then europeanDigit
  else if inRanges arabicDigitRanges code then arabicDigit
  else if inRanges nonspacingRanges code then nonspacing
  else if inRanges rightRanges code then right
  else if inRanges leftRanges code then left
  else neutral

/-- The digits of ASCII are European digits. -/
theorem ofChar_digit {c : Char} (h : c.isDigit = true) : ofChar c = europeanDigit := by
  have bounds : 0x30 ≤ c.toNat ∧ c.toNat ≤ 0x39 := by
    simp only [Char.isDigit, Bool.and_eq_true, decide_eq_true_eq] at h
    exact h
  simp [ofChar, inRanges, europeanDigitRanges, bounds]

end Direction

end ApiBinding.Text
