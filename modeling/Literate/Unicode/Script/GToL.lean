import Literate.Unicode.Span

/-!
# Scripts from G to L

The code points of scripts, by the names of the scripts.
-/

namespace Literate.Unicode

private def scriptGaray : List (Nat × Nat) :=
  [(0x10D40, 0x10D65), (0x10D69, 0x10D85), (0x10D8E, 0x10D8F)]

private def scriptGeorgian : List (Nat × Nat) :=
  [(0x10A0, 0x10C5), (0x10C7, 0x10C7), (0x10CD, 0x10CD), (0x10D0, 0x10FA), (0x10FC, 0x10FF), (0x1C90, 0x1CBA),
   (0x1CBD, 0x1CBF), (0x2D00, 0x2D25), (0x2D27, 0x2D27), (0x2D2D, 0x2D2D)]

private def scriptGlagolitic : List (Nat × Nat) :=
  [(0x2C00, 0x2C5F), (0x1E000, 0x1E006), (0x1E008, 0x1E018), (0x1E01B, 0x1E021), (0x1E023, 0x1E024),
   (0x1E026, 0x1E02A)]

private def scriptGothic : List (Nat × Nat) :=
  [(0x10330, 0x1034A)]

private def scriptGrantha : List (Nat × Nat) :=
  [(0x11300, 0x11303), (0x11305, 0x1130C), (0x1130F, 0x11310), (0x11313, 0x11328), (0x1132A, 0x11330),
   (0x11332, 0x11333), (0x11335, 0x11339), (0x1133C, 0x11344), (0x11347, 0x11348), (0x1134B, 0x1134D),
   (0x11350, 0x11350), (0x11357, 0x11357), (0x1135D, 0x11363), (0x11366, 0x1136C), (0x11370, 0x11374)]

private def scriptGreek : List (Nat × Nat) :=
  [(0x370, 0x373), (0x375, 0x377), (0x37A, 0x37D), (0x37F, 0x37F), (0x384, 0x384), (0x386, 0x386), (0x388, 0x38A),
   (0x38C, 0x38C), (0x38E, 0x3A1), (0x3A3, 0x3E1), (0x3F0, 0x3FF), (0x1D26, 0x1D2A), (0x1D5D, 0x1D61),
   (0x1D66, 0x1D6A), (0x1DBF, 0x1DBF), (0x1F00, 0x1F15), (0x1F18, 0x1F1D), (0x1F20, 0x1F45), (0x1F48, 0x1F4D),
   (0x1F50, 0x1F57), (0x1F59, 0x1F59), (0x1F5B, 0x1F5B), (0x1F5D, 0x1F5D), (0x1F5F, 0x1F7D), (0x1F80, 0x1FB4),
   (0x1FB6, 0x1FC4), (0x1FC6, 0x1FD3), (0x1FD6, 0x1FDB), (0x1FDD, 0x1FEF), (0x1FF2, 0x1FF4), (0x1FF6, 0x1FFE),
   (0x2126, 0x2126), (0xAB65, 0xAB65), (0x10140, 0x1018E), (0x101A0, 0x101A0), (0x1D200, 0x1D245)]

private def scriptGujarati : List (Nat × Nat) :=
  [(0xA81, 0xA83), (0xA85, 0xA8D), (0xA8F, 0xA91), (0xA93, 0xAA8), (0xAAA, 0xAB0), (0xAB2, 0xAB3), (0xAB5, 0xAB9),
   (0xABC, 0xAC5), (0xAC7, 0xAC9), (0xACB, 0xACD), (0xAD0, 0xAD0), (0xAE0, 0xAE3), (0xAE6, 0xAF1), (0xAF9, 0xAFF)]

private def scriptGunjalaGondi : List (Nat × Nat) :=
  [(0x11D60, 0x11D65), (0x11D67, 0x11D68), (0x11D6A, 0x11D8E), (0x11D90, 0x11D91), (0x11D93, 0x11D98),
   (0x11DA0, 0x11DA9)]

private def scriptGurmukhi : List (Nat × Nat) :=
  [(0xA01, 0xA03), (0xA05, 0xA0A), (0xA0F, 0xA10), (0xA13, 0xA28), (0xA2A, 0xA30), (0xA32, 0xA33), (0xA35, 0xA36),
   (0xA38, 0xA39), (0xA3C, 0xA3C), (0xA3E, 0xA42), (0xA47, 0xA48), (0xA4B, 0xA4D), (0xA51, 0xA51), (0xA59, 0xA5C),
   (0xA5E, 0xA5E), (0xA66, 0xA76)]

private def scriptGurungKhema : List (Nat × Nat) :=
  [(0x16100, 0x16139)]

private def scriptHan : List (Nat × Nat) :=
  [(0x2E80, 0x2E99), (0x2E9B, 0x2EF3), (0x2F00, 0x2FD5), (0x3005, 0x3005), (0x3007, 0x3007), (0x3021, 0x3029),
   (0x3038, 0x303B), (0x3400, 0x4DBF), (0x4E00, 0x9FFF), (0xF900, 0xFA6D), (0xFA70, 0xFAD9), (0x16FE2, 0x16FE3),
   (0x16FF0, 0x16FF6), (0x20000, 0x2A6DF), (0x2A700, 0x2B81D), (0x2B820, 0x2CEAD), (0x2CEB0, 0x2EBE0),
   (0x2EBF0, 0x2EE5D), (0x2F800, 0x2FA1D), (0x30000, 0x3134A), (0x31350, 0x33479)]

private def scriptHangul : List (Nat × Nat) :=
  [(0x1100, 0x11FF), (0x302E, 0x302F), (0x3131, 0x318E), (0x3200, 0x321E), (0x3260, 0x327E), (0xA960, 0xA97C),
   (0xAC00, 0xD7A3), (0xD7B0, 0xD7C6), (0xD7CB, 0xD7FB), (0xFFA0, 0xFFBE), (0xFFC2, 0xFFC7), (0xFFCA, 0xFFCF),
   (0xFFD2, 0xFFD7), (0xFFDA, 0xFFDC)]

private def scriptHanifiRohingya : List (Nat × Nat) :=
  [(0x10D00, 0x10D27), (0x10D30, 0x10D39)]

private def scriptHanunoo : List (Nat × Nat) :=
  [(0x1720, 0x1734)]

private def scriptHatran : List (Nat × Nat) :=
  [(0x108E0, 0x108F2), (0x108F4, 0x108F5), (0x108FB, 0x108FF)]

private def scriptHebrew : List (Nat × Nat) :=
  [(0x591, 0x5C7), (0x5D0, 0x5EA), (0x5EF, 0x5F4), (0xFB1D, 0xFB36), (0xFB38, 0xFB3C), (0xFB3E, 0xFB3E),
   (0xFB40, 0xFB41), (0xFB43, 0xFB44), (0xFB46, 0xFB4F)]

private def scriptHiragana : List (Nat × Nat) :=
  [(0x3041, 0x3096), (0x309D, 0x309F), (0x1B001, 0x1B11F), (0x1B132, 0x1B132), (0x1B150, 0x1B152),
   (0x1F200, 0x1F200)]

private def scriptImperialAramaic : List (Nat × Nat) :=
  [(0x10840, 0x10855), (0x10857, 0x1085F)]

private def scriptInherited : List (Nat × Nat) :=
  [(0x300, 0x36F), (0x485, 0x486), (0x64B, 0x655), (0x670, 0x670), (0x951, 0x954), (0x1AB0, 0x1ADD),
   (0x1AE0, 0x1AEB), (0x1CD0, 0x1CD2), (0x1CD4, 0x1CE0), (0x1CE2, 0x1CE8), (0x1CED, 0x1CED), (0x1CF4, 0x1CF4),
   (0x1CF8, 0x1CF9), (0x1DC0, 0x1DFF), (0x200C, 0x200D), (0x20D0, 0x20F0), (0x302A, 0x302D), (0x3099, 0x309A),
   (0xFE00, 0xFE0F), (0xFE20, 0xFE2D), (0x101FD, 0x101FD), (0x102E0, 0x102E0), (0x1133B, 0x1133B),
   (0x1CF00, 0x1CF2D), (0x1CF30, 0x1CF46), (0x1D167, 0x1D169), (0x1D17B, 0x1D182), (0x1D185, 0x1D18B),
   (0x1D1AA, 0x1D1AD), (0xE0100, 0xE01EF)]

private def scriptInscriptionalPahlavi : List (Nat × Nat) :=
  [(0x10B60, 0x10B72), (0x10B78, 0x10B7F)]

private def scriptInscriptionalParthian : List (Nat × Nat) :=
  [(0x10B40, 0x10B55), (0x10B58, 0x10B5F)]

private def scriptJavanese : List (Nat × Nat) :=
  [(0xA980, 0xA9CD), (0xA9D0, 0xA9D9), (0xA9DE, 0xA9DF)]

private def scriptKaithi : List (Nat × Nat) :=
  [(0x11080, 0x110C2), (0x110CD, 0x110CD)]

private def scriptKannada : List (Nat × Nat) :=
  [(0xC80, 0xC8C), (0xC8E, 0xC90), (0xC92, 0xCA8), (0xCAA, 0xCB3), (0xCB5, 0xCB9), (0xCBC, 0xCC4), (0xCC6, 0xCC8),
   (0xCCA, 0xCCD), (0xCD5, 0xCD6), (0xCDC, 0xCDE), (0xCE0, 0xCE3), (0xCE6, 0xCEF), (0xCF1, 0xCF3)]

private def scriptKatakana : List (Nat × Nat) :=
  [(0x30A1, 0x30FA), (0x30FD, 0x30FF), (0x31F0, 0x31FF), (0x32D0, 0x32FE), (0x3300, 0x3357), (0xFF66, 0xFF6F),
   (0xFF71, 0xFF9D), (0x1AFF0, 0x1AFF3), (0x1AFF5, 0x1AFFB), (0x1AFFD, 0x1AFFE), (0x1B000, 0x1B000),
   (0x1B120, 0x1B122), (0x1B155, 0x1B155), (0x1B164, 0x1B167)]

private def scriptKawi : List (Nat × Nat) :=
  [(0x11F00, 0x11F10), (0x11F12, 0x11F3A), (0x11F3E, 0x11F5A)]

private def scriptKayahLi : List (Nat × Nat) :=
  [(0xA900, 0xA92D), (0xA92F, 0xA92F)]

private def scriptKharoshthi : List (Nat × Nat) :=
  [(0x10A00, 0x10A03), (0x10A05, 0x10A06), (0x10A0C, 0x10A13), (0x10A15, 0x10A17), (0x10A19, 0x10A35),
   (0x10A38, 0x10A3A), (0x10A3F, 0x10A48), (0x10A50, 0x10A58)]

private def scriptKhitanSmallScript : List (Nat × Nat) :=
  [(0x16FE4, 0x16FE4), (0x18B00, 0x18CD5), (0x18CFF, 0x18CFF)]

private def scriptKhmer : List (Nat × Nat) :=
  [(0x1780, 0x17DD), (0x17E0, 0x17E9), (0x17F0, 0x17F9), (0x19E0, 0x19FF)]

private def scriptKhojki : List (Nat × Nat) :=
  [(0x11200, 0x11211), (0x11213, 0x11241)]

private def scriptKhudawadi : List (Nat × Nat) :=
  [(0x112B0, 0x112EA), (0x112F0, 0x112F9)]

private def scriptKiratRai : List (Nat × Nat) :=
  [(0x16D40, 0x16D79)]

private def scriptLao : List (Nat × Nat) :=
  [(0xE81, 0xE82), (0xE84, 0xE84), (0xE86, 0xE8A), (0xE8C, 0xEA3), (0xEA5, 0xEA5), (0xEA7, 0xEBD), (0xEC0, 0xEC4),
   (0xEC6, 0xEC6), (0xEC8, 0xECE), (0xED0, 0xED9), (0xEDC, 0xEDF)]

private def scriptLatin : List (Nat × Nat) :=
  [(0x41, 0x5A), (0x61, 0x7A), (0xAA, 0xAA), (0xBA, 0xBA), (0xC0, 0xD6), (0xD8, 0xF6), (0xF8, 0x2B8),
   (0x2E0, 0x2E4), (0x1D00, 0x1D25), (0x1D2C, 0x1D5C), (0x1D62, 0x1D65), (0x1D6B, 0x1D77), (0x1D79, 0x1DBE),
   (0x1E00, 0x1EFF), (0x2071, 0x2071), (0x207F, 0x207F), (0x2090, 0x209C), (0x212A, 0x212B), (0x2132, 0x2132),
   (0x214E, 0x214E), (0x2160, 0x2188), (0x2C60, 0x2C7F), (0xA722, 0xA787), (0xA78B, 0xA7DC), (0xA7F1, 0xA7FF),
   (0xAB30, 0xAB5A), (0xAB5C, 0xAB64), (0xAB66, 0xAB69), (0xFB00, 0xFB06), (0xFF21, 0xFF3A), (0xFF41, 0xFF5A),
   (0x10780, 0x10785), (0x10787, 0x107B0), (0x107B2, 0x107BA), (0x1DF00, 0x1DF1E), (0x1DF25, 0x1DF2A)]

private def scriptLepcha : List (Nat × Nat) :=
  [(0x1C00, 0x1C37), (0x1C3B, 0x1C49), (0x1C4D, 0x1C4F)]

private def scriptLimbu : List (Nat × Nat) :=
  [(0x1900, 0x191E), (0x1920, 0x192B), (0x1930, 0x193B), (0x1940, 0x1940), (0x1944, 0x194F)]

private def scriptLinearA : List (Nat × Nat) :=
  [(0x10600, 0x10736), (0x10740, 0x10755), (0x10760, 0x10767)]

private def scriptLinearB : List (Nat × Nat) :=
  [(0x10000, 0x1000B), (0x1000D, 0x10026), (0x10028, 0x1003A), (0x1003C, 0x1003D), (0x1003F, 0x1004D),
   (0x10050, 0x1005D), (0x10080, 0x100FA)]

private def scriptLisu : List (Nat × Nat) :=
  [(0xA4D0, 0xA4FF), (0x11FB0, 0x11FB0)]

private def scriptLycian : List (Nat × Nat) :=
  [(0x10280, 0x1029C)]

private def scriptLydian : List (Nat × Nat) :=
  [(0x10920, 0x10939), (0x1093F, 0x1093F)]

/-- The scripts whose names begin with a letter from G to L, and their code points. -/
def scriptsGToL : List (String × Table) :=
  [("Garay", .ofRanges scriptGaray), ("Georgian", .ofRanges scriptGeorgian),
   ("Glagolitic", .ofRanges scriptGlagolitic), ("Gothic", .ofRanges scriptGothic),
   ("Grantha", .ofRanges scriptGrantha), ("Greek", .ofRanges scriptGreek), ("Gujarati", .ofRanges scriptGujarati),
   ("Gunjala_Gondi", .ofRanges scriptGunjalaGondi), ("Gurmukhi", .ofRanges scriptGurmukhi),
   ("Gurung_Khema", .ofRanges scriptGurungKhema), ("Han", .ofRanges scriptHan), ("Hangul", .ofRanges scriptHangul),
   ("Hanifi_Rohingya", .ofRanges scriptHanifiRohingya), ("Hanunoo", .ofRanges scriptHanunoo),
   ("Hatran", .ofRanges scriptHatran), ("Hebrew", .ofRanges scriptHebrew), ("Hiragana", .ofRanges scriptHiragana),
   ("Imperial_Aramaic", .ofRanges scriptImperialAramaic), ("Inherited", .ofRanges scriptInherited),
   ("Inscriptional_Pahlavi", .ofRanges scriptInscriptionalPahlavi),
   ("Inscriptional_Parthian", .ofRanges scriptInscriptionalParthian), ("Javanese", .ofRanges scriptJavanese),
   ("Kaithi", .ofRanges scriptKaithi), ("Kannada", .ofRanges scriptKannada), ("Katakana", .ofRanges scriptKatakana),
   ("Kawi", .ofRanges scriptKawi), ("Kayah_Li", .ofRanges scriptKayahLi),
   ("Kharoshthi", .ofRanges scriptKharoshthi), ("Khitan_Small_Script", .ofRanges scriptKhitanSmallScript),
   ("Khmer", .ofRanges scriptKhmer), ("Khojki", .ofRanges scriptKhojki), ("Khudawadi", .ofRanges scriptKhudawadi),
   ("Kirat_Rai", .ofRanges scriptKiratRai), ("Lao", .ofRanges scriptLao), ("Latin", .ofRanges scriptLatin),
   ("Lepcha", .ofRanges scriptLepcha), ("Limbu", .ofRanges scriptLimbu), ("Linear_A", .ofRanges scriptLinearA),
   ("Linear_B", .ofRanges scriptLinearB), ("Lisu", .ofRanges scriptLisu), ("Lycian", .ofRanges scriptLycian),
   ("Lydian", .ofRanges scriptLydian)]

end Literate.Unicode
