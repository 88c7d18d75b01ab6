import XmppBosh.Text.Ranges

/-!
# Classes of characters

The ranges of code points that the profiles of stringprep refuse or look at: unassigned code
points, characters mapped to nothing, prohibited characters by kind, and the two directions of
writing.
-/

namespace XmppBosh.Stringprep

open Text (Ranges)

/-- Code points without a character in Unicode 3.2. -/
def unassigned : Ranges :=
  [(0x221, 0x221), (0x234, 0x24F), (0x2AE, 0x2AF), (0x2EF, 0x2FF), (0x350, 0x35F), (0x370, 0x373),
   (0x376, 0x379), (0x37B, 0x37D), (0x37F, 0x383), (0x38B, 0x38B), (0x38D, 0x38D), (0x3A2, 0x3A2),
   (0x3CF, 0x3CF), (0x3F7, 0x3FF), (0x487, 0x487), (0x4CF, 0x4CF), (0x4F6, 0x4F7), (0x4FA, 0x4FF),
   (0x510, 0x530), (0x557, 0x558), (0x560, 0x560), (0x588, 0x588), (0x58B, 0x590), (0x5A2, 0x5A2),
   (0x5BA, 0x5BA), (0x5C5, 0x5CF), (0x5EB, 0x5EF), (0x5F5, 0x60B), (0x60D, 0x61A), (0x61C, 0x61E),
   (0x620, 0x620), (0x63B, 0x63F), (0x656, 0x65F), (0x6EE, 0x6EF), (0x6FF, 0x6FF), (0x70E, 0x70E),
   (0x72D, 0x72F), (0x74B, 0x77F), (0x7B2, 0x900), (0x904, 0x904), (0x93A, 0x93B), (0x94E, 0x94F),
   (0x955, 0x957), (0x971, 0x980), (0x984, 0x984), (0x98D, 0x98E), (0x991, 0x992), (0x9A9, 0x9A9),
   (0x9B1, 0x9B1), (0x9B3, 0x9B5), (0x9BA, 0x9BB), (0x9BD, 0x9BD), (0x9C5, 0x9C6), (0x9C9, 0x9CA),
   (0x9CE, 0x9D6), (0x9D8, 0x9DB), (0x9DE, 0x9DE), (0x9E4, 0x9E5), (0x9FB, 0xA01), (0xA03, 0xA04),
   (0xA0B, 0xA0E), (0xA11, 0xA12), (0xA29, 0xA29), (0xA31, 0xA31), (0xA34, 0xA34), (0xA37, 0xA37),
   (0xA3A, 0xA3B), (0xA3D, 0xA3D), (0xA43, 0xA46), (0xA49, 0xA4A), (0xA4E, 0xA58), (0xA5D, 0xA5D),
   (0xA5F, 0xA65), (0xA75, 0xA80), (0xA84, 0xA84), (0xA8C, 0xA8C), (0xA8E, 0xA8E), (0xA92, 0xA92),
   (0xAA9, 0xAA9), (0xAB1, 0xAB1), (0xAB4, 0xAB4), (0xABA, 0xABB), (0xAC6, 0xAC6), (0xACA, 0xACA),
   (0xACE, 0xACF), (0xAD1, 0xADF), (0xAE1, 0xAE5), (0xAF0, 0xB00), (0xB04, 0xB04), (0xB0D, 0xB0E),
   (0xB11, 0xB12), (0xB29, 0xB29), (0xB31, 0xB31), (0xB34, 0xB35), (0xB3A, 0xB3B), (0xB44, 0xB46),
   (0xB49, 0xB4A), (0xB4E, 0xB55), (0xB58, 0xB5B), (0xB5E, 0xB5E), (0xB62, 0xB65), (0xB71, 0xB81),
   (0xB84, 0xB84), (0xB8B, 0xB8D), (0xB91, 0xB91), (0xB96, 0xB98), (0xB9B, 0xB9B), (0xB9D, 0xB9D),
   (0xBA0, 0xBA2), (0xBA5, 0xBA7), (0xBAB, 0xBAD), (0xBB6, 0xBB6), (0xBBA, 0xBBD), (0xBC3, 0xBC5),
   (0xBC9, 0xBC9), (0xBCE, 0xBD6), (0xBD8, 0xBE6), (0xBF3, 0xC00), (0xC04, 0xC04), (0xC0D, 0xC0D),
   (0xC11, 0xC11), (0xC29, 0xC29), (0xC34, 0xC34), (0xC3A, 0xC3D), (0xC45, 0xC45), (0xC49, 0xC49),
   (0xC4E, 0xC54), (0xC57, 0xC5F), (0xC62, 0xC65), (0xC70, 0xC81), (0xC84, 0xC84), (0xC8D, 0xC8D),
   (0xC91, 0xC91), (0xCA9, 0xCA9), (0xCB4, 0xCB4), (0xCBA, 0xCBD), (0xCC5, 0xCC5), (0xCC9, 0xCC9),
   (0xCCE, 0xCD4), (0xCD7, 0xCDD), (0xCDF, 0xCDF), (0xCE2, 0xCE5), (0xCF0, 0xD01), (0xD04, 0xD04),
   (0xD0D, 0xD0D), (0xD11, 0xD11), (0xD29, 0xD29), (0xD3A, 0xD3D), (0xD44, 0xD45), (0xD49, 0xD49),
   (0xD4E, 0xD56), (0xD58, 0xD5F), (0xD62, 0xD65), (0xD70, 0xD81), (0xD84, 0xD84), (0xD97, 0xD99),
   (0xDB2, 0xDB2), (0xDBC, 0xDBC), (0xDBE, 0xDBF), (0xDC7, 0xDC9), (0xDCB, 0xDCE), (0xDD5, 0xDD5),
   (0xDD7, 0xDD7), (0xDE0, 0xDF1), (0xDF5, 0xE00), (0xE3B, 0xE3E), (0xE5C, 0xE80), (0xE83, 0xE83),
   (0xE85, 0xE86), (0xE89, 0xE89), (0xE8B, 0xE8C), (0xE8E, 0xE93), (0xE98, 0xE98), (0xEA0, 0xEA0),
   (0xEA4, 0xEA4), (0xEA6, 0xEA6), (0xEA8, 0xEA9), (0xEAC, 0xEAC), (0xEBA, 0xEBA), (0xEBE, 0xEBF),
   (0xEC5, 0xEC5), (0xEC7, 0xEC7), (0xECE, 0xECF), (0xEDA, 0xEDB), (0xEDE, 0xEFF), (0xF48, 0xF48),
   (0xF6B, 0xF70), (0xF8C, 0xF8F), (0xF98, 0xF98), (0xFBD, 0xFBD), (0xFCD, 0xFCE), (0xFD0, 0xFFF),
   (0x1022, 0x1022), (0x1028, 0x1028), (0x102B, 0x102B), (0x1033, 0x1035), (0x103A, 0x103F),
   (0x105A, 0x109F), (0x10C6, 0x10CF), (0x10F9, 0x10FA), (0x10FC, 0x10FF), (0x115A, 0x115E),
   (0x11A3, 0x11A7), (0x11FA, 0x11FF), (0x1207, 0x1207), (0x1247, 0x1247), (0x1249, 0x1249),
   (0x124E, 0x124F), (0x1257, 0x1257), (0x1259, 0x1259), (0x125E, 0x125F), (0x1287, 0x1287),
   (0x1289, 0x1289), (0x128E, 0x128F), (0x12AF, 0x12AF), (0x12B1, 0x12B1), (0x12B6, 0x12B7),
   (0x12BF, 0x12BF), (0x12C1, 0x12C1), (0x12C6, 0x12C7), (0x12CF, 0x12CF), (0x12D7, 0x12D7),
   (0x12EF, 0x12EF), (0x130F, 0x130F), (0x1311, 0x1311), (0x1316, 0x1317), (0x131F, 0x131F),
   (0x1347, 0x1347), (0x135B, 0x1360), (0x137D, 0x139F), (0x13F5, 0x1400), (0x1677, 0x167F),
   (0x169D, 0x169F), (0x16F1, 0x16FF), (0x170D, 0x170D), (0x1715, 0x171F), (0x1737, 0x173F),
   (0x1754, 0x175F), (0x176D, 0x176D), (0x1771, 0x1771), (0x1774, 0x177F), (0x17DD, 0x17DF),
   (0x17EA, 0x17FF), (0x180F, 0x180F), (0x181A, 0x181F), (0x1878, 0x187F), (0x18AA, 0x1DFF),
   (0x1E9C, 0x1E9F), (0x1EFA, 0x1EFF), (0x1F16, 0x1F17), (0x1F1E, 0x1F1F), (0x1F46, 0x1F47),
   (0x1F4E, 0x1F4F), (0x1F58, 0x1F58), (0x1F5A, 0x1F5A), (0x1F5C, 0x1F5C), (0x1F5E, 0x1F5E),
   (0x1F7E, 0x1F7F), (0x1FB5, 0x1FB5), (0x1FC5, 0x1FC5), (0x1FD4, 0x1FD5), (0x1FDC, 0x1FDC),
   (0x1FF0, 0x1FF1), (0x1FF5, 0x1FF5), (0x1FFF, 0x1FFF), (0x2053, 0x2056), (0x2058, 0x205E),
   (0x2064, 0x2069), (0x2072, 0x2073), (0x208F, 0x209F), (0x20B2, 0x20CF), (0x20EB, 0x20FF),
   (0x213B, 0x213C), (0x214C, 0x2152), (0x2184, 0x218F), (0x23CF, 0x23FF), (0x2427, 0x243F),
   (0x244B, 0x245F), (0x24FF, 0x24FF), (0x2614, 0x2615), (0x2618, 0x2618), (0x267E, 0x267F),
   (0x268A, 0x2700), (0x2705, 0x2705), (0x270A, 0x270B), (0x2728, 0x2728), (0x274C, 0x274C),
   (0x274E, 0x274E), (0x2753, 0x2755), (0x2757, 0x2757), (0x275F, 0x2760), (0x2795, 0x2797),
   (0x27B0, 0x27B0), (0x27BF, 0x27CF), (0x27EC, 0x27EF), (0x2B00, 0x2E7F), (0x2E9A, 0x2E9A),
   (0x2EF4, 0x2EFF), (0x2FD6, 0x2FEF), (0x2FFC, 0x2FFF), (0x3040, 0x3040), (0x3097, 0x3098),
   (0x3100, 0x3104), (0x312D, 0x3130), (0x318F, 0x318F), (0x31B8, 0x31EF), (0x321D, 0x321F),
   (0x3244, 0x3250), (0x327C, 0x327E), (0x32CC, 0x32CF), (0x32FF, 0x32FF), (0x3377, 0x337A),
   (0x33DE, 0x33DF), (0x33FF, 0x33FF), (0x4DB6, 0x4DFF), (0x9FA6, 0x9FFF), (0xA48D, 0xA48F),
   (0xA4C7, 0xABFF), (0xD7A4, 0xD7FF), (0xFA2E, 0xFA2F), (0xFA6B, 0xFAFF), (0xFB07, 0xFB12),
   (0xFB18, 0xFB1C), (0xFB37, 0xFB37), (0xFB3D, 0xFB3D), (0xFB3F, 0xFB3F), (0xFB42, 0xFB42),
   (0xFB45, 0xFB45), (0xFBB2, 0xFBD2), (0xFD40, 0xFD4F), (0xFD90, 0xFD91), (0xFDC8, 0xFDCF),
   (0xFDFD, 0xFDFF), (0xFE10, 0xFE1F), (0xFE24, 0xFE2F), (0xFE47, 0xFE48), (0xFE53, 0xFE53),
   (0xFE67, 0xFE67), (0xFE6C, 0xFE6F), (0xFE75, 0xFE75), (0xFEFD, 0xFEFE), (0xFF00, 0xFF00),
   (0xFFBF, 0xFFC1), (0xFFC8, 0xFFC9), (0xFFD0, 0xFFD1), (0xFFD8, 0xFFD9), (0xFFDD, 0xFFDF),
   (0xFFE7, 0xFFE7), (0xFFEF, 0xFFF8), (0x10000, 0x102FF), (0x1031F, 0x1031F), (0x10324, 0x1032F),
   (0x1034B, 0x103FF), (0x10426, 0x10427), (0x1044E, 0x1CFFF), (0x1D0F6, 0x1D0FF),
   (0x1D127, 0x1D129), (0x1D1DE, 0x1D3FF), (0x1D455, 0x1D455), (0x1D49D, 0x1D49D),
   (0x1D4A0, 0x1D4A1), (0x1D4A3, 0x1D4A4), (0x1D4A7, 0x1D4A8), (0x1D4AD, 0x1D4AD),
   (0x1D4BA, 0x1D4BA), (0x1D4BC, 0x1D4BC), (0x1D4C1, 0x1D4C1), (0x1D4C4, 0x1D4C4),
   (0x1D506, 0x1D506), (0x1D50B, 0x1D50C), (0x1D515, 0x1D515), (0x1D51D, 0x1D51D),
   (0x1D53A, 0x1D53A), (0x1D53F, 0x1D53F), (0x1D545, 0x1D545), (0x1D547, 0x1D549),
   (0x1D551, 0x1D551), (0x1D6A4, 0x1D6A7), (0x1D7CA, 0x1D7CD), (0x1D800, 0x1FFFD),
   (0x2A6D7, 0x2F7FF), (0x2FA1E, 0x2FFFD), (0x30000, 0x3FFFD), (0x40000, 0x4FFFD),
   (0x50000, 0x5FFFD), (0x60000, 0x6FFFD), (0x70000, 0x7FFFD), (0x80000, 0x8FFFD),
   (0x90000, 0x9FFFD), (0xA0000, 0xAFFFD), (0xB0000, 0xBFFFD), (0xC0000, 0xCFFFD),
   (0xD0000, 0xDFFFD), (0xE0000, 0xE0000), (0xE0002, 0xE001F), (0xE0080, 0xEFFFD)]

/-- Characters that are dropped: hyphens, joiners and selectors without a shape of their own. -/
def mappedToNothing : Ranges :=
  [(0xAD, 0xAD), (0x34F, 0x34F), (0x1806, 0x1806), (0x180B, 0x180D), (0x200B, 0x200D),
   (0x2060, 0x2060), (0xFE00, 0xFE0F), (0xFEFF, 0xFEFF)]

def asciiSpace : Ranges :=
  [(0x20, 0x20)]

def otherSpace : Ranges :=
  [(0xA0, 0xA0), (0x1680, 0x1680), (0x2000, 0x200B), (0x202F, 0x202F), (0x205F, 0x205F),
   (0x3000, 0x3000)]

def asciiControl : Ranges :=
  [(0x0, 0x1F), (0x7F, 0x7F)]

def otherControl : Ranges :=
  [(0x80, 0x9F), (0x6DD, 0x6DD), (0x70F, 0x70F), (0x180E, 0x180E), (0x200C, 0x200D),
   (0x2028, 0x2029), (0x2060, 0x2063), (0x206A, 0x206F), (0xFEFF, 0xFEFF), (0xFFF9, 0xFFFC),
   (0x1D173, 0x1D17A)]

def privateUse : Ranges :=
  [(0xE000, 0xF8FF), (0xF0000, 0xFFFFD), (0x100000, 0x10FFFD)]

def nonCharacter : Ranges :=
  [(0xFDD0, 0xFDEF), (0xFFFE, 0xFFFF), (0x1FFFE, 0x1FFFF), (0x2FFFE, 0x2FFFF), (0x3FFFE, 0x3FFFF),
   (0x4FFFE, 0x4FFFF), (0x5FFFE, 0x5FFFF), (0x6FFFE, 0x6FFFF), (0x7FFFE, 0x7FFFF),
   (0x8FFFE, 0x8FFFF), (0x9FFFE, 0x9FFFF), (0xAFFFE, 0xAFFFF), (0xBFFFE, 0xBFFFF),
   (0xCFFFE, 0xCFFFF), (0xDFFFE, 0xDFFFF), (0xEFFFE, 0xEFFFF), (0xFFFFE, 0xFFFFF),
   (0x10FFFE, 0x10FFFF)]

/-- Characters that have no place in plain text. -/
def unfitForPlainText : Ranges :=
  [(0xFFF9, 0xFFFD)]

/-- Characters that describe other characters. -/
def unfitForCanonical : Ranges :=
  [(0x2FF0, 0x2FFB)]

/-- Characters that change how a text is shown, and deprecated ones. -/
def displayProperty : Ranges :=
  [(0x340, 0x341), (0x200E, 0x200F), (0x202A, 0x202E), (0x206A, 0x206F)]

def tagging : Ranges :=
  [(0xE0001, 0xE0001), (0xE0020, 0xE007F)]

def rightToLeft : Ranges :=
  [(0x5BE, 0x5BE), (0x5C0, 0x5C0), (0x5C3, 0x5C3), (0x5D0, 0x5EA), (0x5F0, 0x5F4), (0x61B, 0x61B),
   (0x61F, 0x61F), (0x621, 0x63A), (0x640, 0x64A), (0x66D, 0x66F), (0x671, 0x6D5), (0x6E5, 0x6E6),
   (0x6FA, 0x6FE), (0x700, 0x70D), (0x70F, 0x710), (0x712, 0x72C), (0x780, 0x7A5), (0x7B1, 0x7B1),
   (0x200F, 0x200F), (0xFB1D, 0xFB1D), (0xFB1F, 0xFB28), (0xFB2A, 0xFB36), (0xFB38, 0xFB3C),
   (0xFB3E, 0xFB3E), (0xFB40, 0xFB41), (0xFB43, 0xFB44), (0xFB46, 0xFBB1), (0xFBD3, 0xFD3D),
   (0xFD50, 0xFD8F), (0xFD92, 0xFDC7), (0xFDF0, 0xFDFC), (0xFE70, 0xFE74), (0xFE76, 0xFEFC)]

def leftToRight : Ranges :=
  [(0x41, 0x5A), (0x61, 0x7A), (0xAA, 0xAA), (0xB5, 0xB5), (0xBA, 0xBA), (0xC0, 0xD6),
   (0xD8, 0xF6), (0xF8, 0x220), (0x222, 0x233), (0x250, 0x2AD), (0x2B0, 0x2B8), (0x2BB, 0x2C1),
   (0x2D0, 0x2D1), (0x2E0, 0x2E4), (0x2EE, 0x2EE), (0x37A, 0x37A), (0x386, 0x386), (0x388, 0x38A),
   (0x38C, 0x38C), (0x38E, 0x3A1), (0x3A3, 0x3CE), (0x3D0, 0x3F5), (0x400, 0x482), (0x48A, 0x4CE),
   (0x4D0, 0x4F5), (0x4F8, 0x4F9), (0x500, 0x50F), (0x531, 0x556), (0x559, 0x55F), (0x561, 0x587),
   (0x589, 0x589), (0x903, 0x903), (0x905, 0x939), (0x93D, 0x940), (0x949, 0x94C), (0x950, 0x950),
   (0x958, 0x961), (0x964, 0x970), (0x982, 0x983), (0x985, 0x98C), (0x98F, 0x990), (0x993, 0x9A8),
   (0x9AA, 0x9B0), (0x9B2, 0x9B2), (0x9B6, 0x9B9), (0x9BE, 0x9C0), (0x9C7, 0x9C8), (0x9CB, 0x9CC),
   (0x9D7, 0x9D7), (0x9DC, 0x9DD), (0x9DF, 0x9E1), (0x9E6, 0x9F1), (0x9F4, 0x9FA), (0xA05, 0xA0A),
   (0xA0F, 0xA10), (0xA13, 0xA28), (0xA2A, 0xA30), (0xA32, 0xA33), (0xA35, 0xA36), (0xA38, 0xA39),
   (0xA3E, 0xA40), (0xA59, 0xA5C), (0xA5E, 0xA5E), (0xA66, 0xA6F), (0xA72, 0xA74), (0xA83, 0xA83),
   (0xA85, 0xA8B), (0xA8D, 0xA8D), (0xA8F, 0xA91), (0xA93, 0xAA8), (0xAAA, 0xAB0), (0xAB2, 0xAB3),
   (0xAB5, 0xAB9), (0xABD, 0xAC0), (0xAC9, 0xAC9), (0xACB, 0xACC), (0xAD0, 0xAD0), (0xAE0, 0xAE0),
   (0xAE6, 0xAEF), (0xB02, 0xB03), (0xB05, 0xB0C), (0xB0F, 0xB10), (0xB13, 0xB28), (0xB2A, 0xB30),
   (0xB32, 0xB33), (0xB36, 0xB39), (0xB3D, 0xB3E), (0xB40, 0xB40), (0xB47, 0xB48), (0xB4B, 0xB4C),
   (0xB57, 0xB57), (0xB5C, 0xB5D), (0xB5F, 0xB61), (0xB66, 0xB70), (0xB83, 0xB83), (0xB85, 0xB8A),
   (0xB8E, 0xB90), (0xB92, 0xB95), (0xB99, 0xB9A), (0xB9C, 0xB9C), (0xB9E, 0xB9F), (0xBA3, 0xBA4),
   (0xBA8, 0xBAA), (0xBAE, 0xBB5), (0xBB7, 0xBB9), (0xBBE, 0xBBF), (0xBC1, 0xBC2), (0xBC6, 0xBC8),
   (0xBCA, 0xBCC), (0xBD7, 0xBD7), (0xBE7, 0xBF2), (0xC01, 0xC03), (0xC05, 0xC0C), (0xC0E, 0xC10),
   (0xC12, 0xC28), (0xC2A, 0xC33), (0xC35, 0xC39), (0xC41, 0xC44), (0xC60, 0xC61), (0xC66, 0xC6F),
   (0xC82, 0xC83), (0xC85, 0xC8C), (0xC8E, 0xC90), (0xC92, 0xCA8), (0xCAA, 0xCB3), (0xCB5, 0xCB9),
   (0xCBE, 0xCC4), (0xCC6, 0xCC8), (0xCCA, 0xCCB), (0xCD5, 0xCD6), (0xCDE, 0xCDE), (0xCE0, 0xCE1),
   (0xCE6, 0xCEF), (0xD02, 0xD03), (0xD05, 0xD0C), (0xD0E, 0xD10), (0xD12, 0xD28), (0xD2A, 0xD39),
   (0xD3E, 0xD40), (0xD46, 0xD48), (0xD4A, 0xD4C), (0xD57, 0xD57), (0xD60, 0xD61), (0xD66, 0xD6F),
   (0xD82, 0xD83), (0xD85, 0xD96), (0xD9A, 0xDB1), (0xDB3, 0xDBB), (0xDBD, 0xDBD), (0xDC0, 0xDC6),
   (0xDCF, 0xDD1), (0xDD8, 0xDDF), (0xDF2, 0xDF4), (0xE01, 0xE30), (0xE32, 0xE33), (0xE40, 0xE46),
   (0xE4F, 0xE5B), (0xE81, 0xE82), (0xE84, 0xE84), (0xE87, 0xE88), (0xE8A, 0xE8A), (0xE8D, 0xE8D),
   (0xE94, 0xE97), (0xE99, 0xE9F), (0xEA1, 0xEA3), (0xEA5, 0xEA5), (0xEA7, 0xEA7), (0xEAA, 0xEAB),
   (0xEAD, 0xEB0), (0xEB2, 0xEB3), (0xEBD, 0xEBD), (0xEC0, 0xEC4), (0xEC6, 0xEC6), (0xED0, 0xED9),
   (0xEDC, 0xEDD), (0xF00, 0xF17), (0xF1A, 0xF34), (0xF36, 0xF36), (0xF38, 0xF38), (0xF3E, 0xF47),
   (0xF49, 0xF6A), (0xF7F, 0xF7F), (0xF85, 0xF85), (0xF88, 0xF8B), (0xFBE, 0xFC5), (0xFC7, 0xFCC),
   (0xFCF, 0xFCF), (0x1000, 0x1021), (0x1023, 0x1027), (0x1029, 0x102A), (0x102C, 0x102C),
   (0x1031, 0x1031), (0x1038, 0x1038), (0x1040, 0x1057), (0x10A0, 0x10C5), (0x10D0, 0x10F8),
   (0x10FB, 0x10FB), (0x1100, 0x1159), (0x115F, 0x11A2), (0x11A8, 0x11F9), (0x1200, 0x1206),
   (0x1208, 0x1246), (0x1248, 0x1248), (0x124A, 0x124D), (0x1250, 0x1256), (0x1258, 0x1258),
   (0x125A, 0x125D), (0x1260, 0x1286), (0x1288, 0x1288), (0x128A, 0x128D), (0x1290, 0x12AE),
   (0x12B0, 0x12B0), (0x12B2, 0x12B5), (0x12B8, 0x12BE), (0x12C0, 0x12C0), (0x12C2, 0x12C5),
   (0x12C8, 0x12CE), (0x12D0, 0x12D6), (0x12D8, 0x12EE), (0x12F0, 0x130E), (0x1310, 0x1310),
   (0x1312, 0x1315), (0x1318, 0x131E), (0x1320, 0x1346), (0x1348, 0x135A), (0x1361, 0x137C),
   (0x13A0, 0x13F4), (0x1401, 0x1676), (0x1681, 0x169A), (0x16A0, 0x16F0), (0x1700, 0x170C),
   (0x170E, 0x1711), (0x1720, 0x1731), (0x1734, 0x1736), (0x1740, 0x1751), (0x1760, 0x176C),
   (0x176E, 0x1770), (0x1780, 0x17B3), (0x17B6, 0x17B6), (0x17BE, 0x17C5), (0x17C7, 0x17C8),
   (0x17D4, 0x17DA), (0x17DC, 0x17DC), (0x17E0, 0x17E9), (0x1810, 0x1819), (0x1820, 0x1877),
   (0x1880, 0x1884), (0x1887, 0x18A8), (0x1E00, 0x1E9B), (0x1EA0, 0x1EF9), (0x1F00, 0x1F15),
   (0x1F18, 0x1F1D), (0x1F20, 0x1F45), (0x1F48, 0x1F4D), (0x1F50, 0x1F57), (0x1F59, 0x1F59),
   (0x1F5B, 0x1F5B), (0x1F5D, 0x1F5D), (0x1F5F, 0x1F7D), (0x1F80, 0x1FB4), (0x1FB6, 0x1FBC),
   (0x1FBE, 0x1FBE), (0x1FC2, 0x1FC4), (0x1FC6, 0x1FCC), (0x1FD0, 0x1FD3), (0x1FD6, 0x1FDB),
   (0x1FE0, 0x1FEC), (0x1FF2, 0x1FF4), (0x1FF6, 0x1FFC), (0x200E, 0x200E), (0x2071, 0x2071),
   (0x207F, 0x207F), (0x2102, 0x2102), (0x2107, 0x2107), (0x210A, 0x2113), (0x2115, 0x2115),
   (0x2119, 0x211D), (0x2124, 0x2124), (0x2126, 0x2126), (0x2128, 0x2128), (0x212A, 0x212D),
   (0x212F, 0x2139), (0x213D, 0x213F), (0x2145, 0x2149), (0x2160, 0x2183), (0x2336, 0x237A),
   (0x2395, 0x2395), (0x249C, 0x24E9), (0x2800, 0x28FF), (0x3005, 0x3007), (0x3021, 0x3029),
   (0x302E, 0x302F), (0x3031, 0x3035), (0x3038, 0x303C), (0x3041, 0x3096), (0x309D, 0x309F),
   (0x30A1, 0x30FA), (0x30FC, 0x30FF), (0x3105, 0x312C), (0x3131, 0x318E), (0x3190, 0x31B7),
   (0x31F0, 0x321C), (0x3220, 0x3243), (0x3260, 0x327B), (0x327F, 0x32B0), (0x32C0, 0x32CB),
   (0x32D0, 0x32FE), (0x3300, 0x3376), (0x337B, 0x33DD), (0x33E0, 0x33FE), (0x3400, 0x4DB5),
   (0x4E00, 0x9FA5), (0xA000, 0xA48C), (0xAC00, 0xD7A3), (0xE000, 0xFA2D), (0xFA30, 0xFA6A),
   (0xFB00, 0xFB06), (0xFB13, 0xFB17), (0xFF21, 0xFF3A), (0xFF41, 0xFF5A), (0xFF66, 0xFFBE),
   (0xFFC2, 0xFFC7), (0xFFCA, 0xFFCF), (0xFFD2, 0xFFD7), (0xFFDA, 0xFFDC), (0x10300, 0x1031E),
   (0x10320, 0x10323), (0x10330, 0x1034A), (0x10400, 0x10425), (0x10428, 0x1044D),
   (0x1D000, 0x1D0F5), (0x1D100, 0x1D126), (0x1D12A, 0x1D166), (0x1D16A, 0x1D172),
   (0x1D183, 0x1D184), (0x1D18C, 0x1D1A9), (0x1D1AE, 0x1D1DD), (0x1D400, 0x1D454),
   (0x1D456, 0x1D49C), (0x1D49E, 0x1D49F), (0x1D4A2, 0x1D4A2), (0x1D4A5, 0x1D4A6),
   (0x1D4A9, 0x1D4AC), (0x1D4AE, 0x1D4B9), (0x1D4BB, 0x1D4BB), (0x1D4BD, 0x1D4C0),
   (0x1D4C2, 0x1D4C3), (0x1D4C5, 0x1D505), (0x1D507, 0x1D50A), (0x1D50D, 0x1D514),
   (0x1D516, 0x1D51C), (0x1D51E, 0x1D539), (0x1D53B, 0x1D53E), (0x1D540, 0x1D544),
   (0x1D546, 0x1D546), (0x1D54A, 0x1D550), (0x1D552, 0x1D6A3), (0x1D6A8, 0x1D6DA),
   (0x1D6DC, 0x1D714), (0x1D716, 0x1D74E), (0x1D750, 0x1D788), (0x1D78A, 0x1D7C2),
   (0x1D7C4, 0x1D7C9), (0x20000, 0x2A6D6), (0x2F800, 0x2FA1D), (0xF0000, 0xFFFFD),
   (0x100000, 0x10FFFD)]

end XmppBosh.Stringprep
