import Literate.Unicode.Span

/-!
# Scripts from A to F

The code points of scripts, by the names of the scripts.
-/

namespace Literate.Unicode

private def scriptAdlam : List (Nat × Nat) :=
  [(0x1E900, 0x1E94B), (0x1E950, 0x1E959), (0x1E95E, 0x1E95F)]

private def scriptAhom : List (Nat × Nat) :=
  [(0x11700, 0x1171A), (0x1171D, 0x1172B), (0x11730, 0x11746)]

private def scriptAnatolianHieroglyphs : List (Nat × Nat) :=
  [(0x14400, 0x14646)]

private def scriptArabic : List (Nat × Nat) :=
  [(0x600, 0x604), (0x606, 0x60B), (0x60D, 0x61A), (0x61C, 0x61E), (0x620, 0x63F), (0x641, 0x64A), (0x656, 0x66F),
   (0x671, 0x6DC), (0x6DE, 0x6FF), (0x750, 0x77F), (0x870, 0x891), (0x897, 0x8E1), (0x8E3, 0x8FF), (0xFB50, 0xFD3D),
   (0xFD40, 0xFDCF), (0xFDF0, 0xFDFF), (0xFE70, 0xFE74), (0xFE76, 0xFEFC), (0x10E60, 0x10E7E), (0x10EC2, 0x10EC7),
   (0x10ED0, 0x10ED8), (0x10EFA, 0x10EFF), (0x1EE00, 0x1EE03), (0x1EE05, 0x1EE1F), (0x1EE21, 0x1EE22),
   (0x1EE24, 0x1EE24), (0x1EE27, 0x1EE27), (0x1EE29, 0x1EE32), (0x1EE34, 0x1EE37), (0x1EE39, 0x1EE39),
   (0x1EE3B, 0x1EE3B), (0x1EE42, 0x1EE42), (0x1EE47, 0x1EE47), (0x1EE49, 0x1EE49), (0x1EE4B, 0x1EE4B),
   (0x1EE4D, 0x1EE4F), (0x1EE51, 0x1EE52), (0x1EE54, 0x1EE54), (0x1EE57, 0x1EE57), (0x1EE59, 0x1EE59),
   (0x1EE5B, 0x1EE5B), (0x1EE5D, 0x1EE5D), (0x1EE5F, 0x1EE5F), (0x1EE61, 0x1EE62), (0x1EE64, 0x1EE64),
   (0x1EE67, 0x1EE6A), (0x1EE6C, 0x1EE72), (0x1EE74, 0x1EE77), (0x1EE79, 0x1EE7C), (0x1EE7E, 0x1EE7E),
   (0x1EE80, 0x1EE89), (0x1EE8B, 0x1EE9B), (0x1EEA1, 0x1EEA3), (0x1EEA5, 0x1EEA9), (0x1EEAB, 0x1EEBB),
   (0x1EEF0, 0x1EEF1)]

private def scriptArmenian : List (Nat × Nat) :=
  [(0x531, 0x556), (0x559, 0x58A), (0x58D, 0x58F), (0xFB13, 0xFB17)]

private def scriptAvestan : List (Nat × Nat) :=
  [(0x10B00, 0x10B35), (0x10B39, 0x10B3F)]

private def scriptBalinese : List (Nat × Nat) :=
  [(0x1B00, 0x1B4C), (0x1B4E, 0x1B7F)]

private def scriptBamum : List (Nat × Nat) :=
  [(0xA6A0, 0xA6F7), (0x16800, 0x16A38)]

private def scriptBassaVah : List (Nat × Nat) :=
  [(0x16AD0, 0x16AED), (0x16AF0, 0x16AF5)]

private def scriptBatak : List (Nat × Nat) :=
  [(0x1BC0, 0x1BF3), (0x1BFC, 0x1BFF)]

private def scriptBengali : List (Nat × Nat) :=
  [(0x980, 0x983), (0x985, 0x98C), (0x98F, 0x990), (0x993, 0x9A8), (0x9AA, 0x9B0), (0x9B2, 0x9B2), (0x9B6, 0x9B9),
   (0x9BC, 0x9C4), (0x9C7, 0x9C8), (0x9CB, 0x9CE), (0x9D7, 0x9D7), (0x9DC, 0x9DD), (0x9DF, 0x9E3), (0x9E6, 0x9FE)]

private def scriptBeriaErfe : List (Nat × Nat) :=
  [(0x16EA0, 0x16EB8), (0x16EBB, 0x16ED3)]

private def scriptBhaiksuki : List (Nat × Nat) :=
  [(0x11C00, 0x11C08), (0x11C0A, 0x11C36), (0x11C38, 0x11C45), (0x11C50, 0x11C6C)]

private def scriptBopomofo : List (Nat × Nat) :=
  [(0x2EA, 0x2EB), (0x3105, 0x312F), (0x31A0, 0x31BF)]

private def scriptBrahmi : List (Nat × Nat) :=
  [(0x11000, 0x1104D), (0x11052, 0x11075), (0x1107F, 0x1107F)]

private def scriptBraille : List (Nat × Nat) :=
  [(0x2800, 0x28FF)]

private def scriptBuginese : List (Nat × Nat) :=
  [(0x1A00, 0x1A1B), (0x1A1E, 0x1A1F)]

private def scriptBuhid : List (Nat × Nat) :=
  [(0x1740, 0x1753)]

private def scriptCanadianAboriginal : List (Nat × Nat) :=
  [(0x1400, 0x167F), (0x18B0, 0x18F5), (0x11AB0, 0x11ABF)]

private def scriptCarian : List (Nat × Nat) :=
  [(0x102A0, 0x102D0)]

private def scriptCaucasianAlbanian : List (Nat × Nat) :=
  [(0x10530, 0x10563), (0x1056F, 0x1056F)]

private def scriptChakma : List (Nat × Nat) :=
  [(0x11100, 0x11134), (0x11136, 0x11147)]

private def scriptCham : List (Nat × Nat) :=
  [(0xAA00, 0xAA36), (0xAA40, 0xAA4D), (0xAA50, 0xAA59), (0xAA5C, 0xAA5F)]

private def scriptCherokee : List (Nat × Nat) :=
  [(0x13A0, 0x13F5), (0x13F8, 0x13FD), (0xAB70, 0xABBF)]

private def scriptChorasmian : List (Nat × Nat) :=
  [(0x10FB0, 0x10FCB)]

private def scriptCommonA : List (Nat × Nat) :=
  [(0x0, 0x40), (0x5B, 0x60), (0x7B, 0xA9), (0xAB, 0xB9), (0xBB, 0xBF), (0xD7, 0xD7), (0xF7, 0xF7), (0x2B9, 0x2DF),
   (0x2E5, 0x2E9), (0x2EC, 0x2FF), (0x374, 0x374), (0x37E, 0x37E), (0x385, 0x385), (0x387, 0x387), (0x605, 0x605),
   (0x60C, 0x60C), (0x61B, 0x61B), (0x61F, 0x61F), (0x640, 0x640), (0x6DD, 0x6DD), (0x8E2, 0x8E2), (0x964, 0x965),
   (0xE3F, 0xE3F), (0xFD5, 0xFD8), (0x10FB, 0x10FB), (0x16EB, 0x16ED), (0x1735, 0x1736), (0x1802, 0x1803),
   (0x1805, 0x1805), (0x1CD3, 0x1CD3), (0x1CE1, 0x1CE1), (0x1CE9, 0x1CEC), (0x1CEE, 0x1CF3), (0x1CF5, 0x1CF7),
   (0x1CFA, 0x1CFA), (0x2000, 0x200B), (0x200E, 0x2064), (0x2066, 0x2070), (0x2074, 0x207E), (0x2080, 0x208E),
   (0x20A0, 0x20C1), (0x2100, 0x2125), (0x2127, 0x2129), (0x212C, 0x2131), (0x2133, 0x214D), (0x214F, 0x215F),
   (0x2189, 0x218B), (0x2190, 0x2429), (0x2440, 0x244A), (0x2460, 0x27FF), (0x2900, 0x2B73), (0x2B76, 0x2BFF),
   (0x2E00, 0x2E5D), (0x2FF0, 0x3004), (0x3006, 0x3006), (0x3008, 0x3020), (0x3030, 0x3037), (0x303C, 0x303F),
   (0x309B, 0x309C), (0x30A0, 0x30A0), (0x30FB, 0x30FC), (0x3190, 0x319F), (0x31C0, 0x31E5), (0x31EF, 0x31EF),
   (0x3220, 0x325F), (0x327F, 0x32CF), (0x32FF, 0x32FF), (0x3358, 0x33FF), (0x4DC0, 0x4DFF), (0xA700, 0xA721),
   (0xA788, 0xA78A), (0xA830, 0xA839), (0xA92E, 0xA92E), (0xA9CF, 0xA9CF), (0xAB5B, 0xAB5B), (0xAB6A, 0xAB6B),
   (0xFD3E, 0xFD3F), (0xFE10, 0xFE19), (0xFE30, 0xFE52), (0xFE54, 0xFE66), (0xFE68, 0xFE6B), (0xFEFF, 0xFEFF),
   (0xFF01, 0xFF20), (0xFF3B, 0xFF40), (0xFF5B, 0xFF65), (0xFF70, 0xFF70), (0xFF9E, 0xFF9F), (0xFFE0, 0xFFE6),
   (0xFFE8, 0xFFEE), (0xFFF9, 0xFFFD), (0x10100, 0x10102), (0x10107, 0x10133), (0x10137, 0x1013F),
   (0x10190, 0x1019C), (0x101D0, 0x101FC), (0x102E1, 0x102FB), (0x1BCA0, 0x1BCA3), (0x1CC00, 0x1CCFC),
   (0x1CD00, 0x1CEB3), (0x1CEBA, 0x1CED0), (0x1CEE0, 0x1CEF0), (0x1CF50, 0x1CFC3), (0x1D000, 0x1D0F5),
   (0x1D100, 0x1D126), (0x1D129, 0x1D166), (0x1D16A, 0x1D17A), (0x1D183, 0x1D184), (0x1D18C, 0x1D1A9),
   (0x1D1AE, 0x1D1EA), (0x1D2C0, 0x1D2D3)]

private def scriptCommonB : List (Nat × Nat) :=
  [(0x1D2E0, 0x1D2F3), (0x1D300, 0x1D356), (0x1D360, 0x1D378), (0x1D400, 0x1D454), (0x1D456, 0x1D49C),
   (0x1D49E, 0x1D49F), (0x1D4A2, 0x1D4A2), (0x1D4A5, 0x1D4A6), (0x1D4A9, 0x1D4AC), (0x1D4AE, 0x1D4B9),
   (0x1D4BB, 0x1D4BB), (0x1D4BD, 0x1D4C3), (0x1D4C5, 0x1D505), (0x1D507, 0x1D50A), (0x1D50D, 0x1D514),
   (0x1D516, 0x1D51C), (0x1D51E, 0x1D539), (0x1D53B, 0x1D53E), (0x1D540, 0x1D544), (0x1D546, 0x1D546),
   (0x1D54A, 0x1D550), (0x1D552, 0x1D6A5), (0x1D6A8, 0x1D7CB), (0x1D7CE, 0x1D7FF), (0x1EC71, 0x1ECB4),
   (0x1ED01, 0x1ED3D), (0x1F000, 0x1F02B), (0x1F030, 0x1F093), (0x1F0A0, 0x1F0AE), (0x1F0B1, 0x1F0BF),
   (0x1F0C1, 0x1F0CF), (0x1F0D1, 0x1F0F5), (0x1F100, 0x1F1AD), (0x1F1E6, 0x1F1FF), (0x1F201, 0x1F202),
   (0x1F210, 0x1F23B), (0x1F240, 0x1F248), (0x1F250, 0x1F251), (0x1F260, 0x1F265), (0x1F300, 0x1F6D8),
   (0x1F6DC, 0x1F6EC), (0x1F6F0, 0x1F6FC), (0x1F700, 0x1F7D9), (0x1F7E0, 0x1F7EB), (0x1F7F0, 0x1F7F0),
   (0x1F800, 0x1F80B), (0x1F810, 0x1F847), (0x1F850, 0x1F859), (0x1F860, 0x1F887), (0x1F890, 0x1F8AD),
   (0x1F8B0, 0x1F8BB), (0x1F8C0, 0x1F8C1), (0x1F8D0, 0x1F8D8), (0x1F900, 0x1FA57), (0x1FA60, 0x1FA6D),
   (0x1FA70, 0x1FA7C), (0x1FA80, 0x1FA8A), (0x1FA8E, 0x1FAC6), (0x1FAC8, 0x1FAC8), (0x1FACD, 0x1FADC),
   (0x1FADF, 0x1FAEA), (0x1FAEF, 0x1FAF8), (0x1FB00, 0x1FB92), (0x1FB94, 0x1FBFA), (0xE0001, 0xE0001),
   (0xE0020, 0xE007F)]

private def scriptCommon : List (Nat × Nat) := scriptCommonA ++ scriptCommonB

private def scriptCoptic : List (Nat × Nat) :=
  [(0x3E2, 0x3EF), (0x2C80, 0x2CF3), (0x2CF9, 0x2CFF)]

private def scriptCuneiform : List (Nat × Nat) :=
  [(0x12000, 0x12399), (0x12400, 0x1246E), (0x12470, 0x12474), (0x12480, 0x12543)]

private def scriptCypriot : List (Nat × Nat) :=
  [(0x10800, 0x10805), (0x10808, 0x10808), (0x1080A, 0x10835), (0x10837, 0x10838), (0x1083C, 0x1083C),
   (0x1083F, 0x1083F)]

private def scriptCyproMinoan : List (Nat × Nat) :=
  [(0x12F90, 0x12FF2)]

private def scriptCyrillic : List (Nat × Nat) :=
  [(0x400, 0x484), (0x487, 0x52F), (0x1C80, 0x1C8A), (0x1D2B, 0x1D2B), (0x1D78, 0x1D78), (0x2DE0, 0x2DFF),
   (0xA640, 0xA69F), (0xFE2E, 0xFE2F), (0x1E030, 0x1E06D), (0x1E08F, 0x1E08F)]

private def scriptDeseret : List (Nat × Nat) :=
  [(0x10400, 0x1044F)]

private def scriptDevanagari : List (Nat × Nat) :=
  [(0x900, 0x950), (0x955, 0x963), (0x966, 0x97F), (0xA8E0, 0xA8FF), (0x11B00, 0x11B09)]

private def scriptDivesAkuru : List (Nat × Nat) :=
  [(0x11900, 0x11906), (0x11909, 0x11909), (0x1190C, 0x11913), (0x11915, 0x11916), (0x11918, 0x11935),
   (0x11937, 0x11938), (0x1193B, 0x11946), (0x11950, 0x11959)]

private def scriptDogra : List (Nat × Nat) :=
  [(0x11800, 0x1183B)]

private def scriptDuployan : List (Nat × Nat) :=
  [(0x1BC00, 0x1BC6A), (0x1BC70, 0x1BC7C), (0x1BC80, 0x1BC88), (0x1BC90, 0x1BC99), (0x1BC9C, 0x1BC9F)]

private def scriptEgyptianHieroglyphs : List (Nat × Nat) :=
  [(0x13000, 0x13455), (0x13460, 0x143FA)]

private def scriptElbasan : List (Nat × Nat) :=
  [(0x10500, 0x10527)]

private def scriptElymaic : List (Nat × Nat) :=
  [(0x10FE0, 0x10FF6)]

private def scriptEthiopic : List (Nat × Nat) :=
  [(0x1200, 0x1248), (0x124A, 0x124D), (0x1250, 0x1256), (0x1258, 0x1258), (0x125A, 0x125D), (0x1260, 0x1288),
   (0x128A, 0x128D), (0x1290, 0x12B0), (0x12B2, 0x12B5), (0x12B8, 0x12BE), (0x12C0, 0x12C0), (0x12C2, 0x12C5),
   (0x12C8, 0x12D6), (0x12D8, 0x1310), (0x1312, 0x1315), (0x1318, 0x135A), (0x135D, 0x137C), (0x1380, 0x1399),
   (0x2D80, 0x2D96), (0x2DA0, 0x2DA6), (0x2DA8, 0x2DAE), (0x2DB0, 0x2DB6), (0x2DB8, 0x2DBE), (0x2DC0, 0x2DC6),
   (0x2DC8, 0x2DCE), (0x2DD0, 0x2DD6), (0x2DD8, 0x2DDE), (0xAB01, 0xAB06), (0xAB09, 0xAB0E), (0xAB11, 0xAB16),
   (0xAB20, 0xAB26), (0xAB28, 0xAB2E), (0x1E7E0, 0x1E7E6), (0x1E7E8, 0x1E7EB), (0x1E7ED, 0x1E7EE),
   (0x1E7F0, 0x1E7FE)]

/-- The scripts whose names begin with a letter from A to F, and their code points. -/
def scriptsAToF : List (String × Table) :=
  [("Adlam", .ofRanges scriptAdlam), ("Ahom", .ofRanges scriptAhom),
   ("Anatolian_Hieroglyphs", .ofRanges scriptAnatolianHieroglyphs), ("Arabic", .ofRanges scriptArabic),
   ("Armenian", .ofRanges scriptArmenian), ("Avestan", .ofRanges scriptAvestan),
   ("Balinese", .ofRanges scriptBalinese), ("Bamum", .ofRanges scriptBamum),
   ("Bassa_Vah", .ofRanges scriptBassaVah), ("Batak", .ofRanges scriptBatak), ("Bengali", .ofRanges scriptBengali),
   ("Beria_Erfe", .ofRanges scriptBeriaErfe), ("Bhaiksuki", .ofRanges scriptBhaiksuki),
   ("Bopomofo", .ofRanges scriptBopomofo), ("Brahmi", .ofRanges scriptBrahmi), ("Braille", .ofRanges scriptBraille),
   ("Buginese", .ofRanges scriptBuginese), ("Buhid", .ofRanges scriptBuhid),
   ("Canadian_Aboriginal", .ofRanges scriptCanadianAboriginal), ("Carian", .ofRanges scriptCarian),
   ("Caucasian_Albanian", .ofRanges scriptCaucasianAlbanian), ("Chakma", .ofRanges scriptChakma),
   ("Cham", .ofRanges scriptCham), ("Cherokee", .ofRanges scriptCherokee),
   ("Chorasmian", .ofRanges scriptChorasmian), ("Common", .ofRanges scriptCommon),
   ("Coptic", .ofRanges scriptCoptic), ("Cuneiform", .ofRanges scriptCuneiform),
   ("Cypriot", .ofRanges scriptCypriot), ("Cypro_Minoan", .ofRanges scriptCyproMinoan),
   ("Cyrillic", .ofRanges scriptCyrillic), ("Deseret", .ofRanges scriptDeseret),
   ("Devanagari", .ofRanges scriptDevanagari), ("Dives_Akuru", .ofRanges scriptDivesAkuru),
   ("Dogra", .ofRanges scriptDogra), ("Duployan", .ofRanges scriptDuployan),
   ("Egyptian_Hieroglyphs", .ofRanges scriptEgyptianHieroglyphs), ("Elbasan", .ofRanges scriptElbasan),
   ("Elymaic", .ofRanges scriptElymaic), ("Ethiopic", .ofRanges scriptEthiopic)]

end Literate.Unicode
