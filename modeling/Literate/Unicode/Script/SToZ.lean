import Literate.Unicode.Span

/-!
# Scripts from S to Z

The code points of scripts, by the names of the scripts.
-/

namespace Literate.Unicode

private def scriptSamaritan : List (Nat × Nat) :=
  [(0x800, 0x82D), (0x830, 0x83E)]

private def scriptSaurashtra : List (Nat × Nat) :=
  [(0xA880, 0xA8C5), (0xA8CE, 0xA8D9)]

private def scriptSharada : List (Nat × Nat) :=
  [(0x11180, 0x111DF), (0x11B60, 0x11B67)]

private def scriptShavian : List (Nat × Nat) :=
  [(0x10450, 0x1047F)]

private def scriptSiddham : List (Nat × Nat) :=
  [(0x11580, 0x115B5), (0x115B8, 0x115DD)]

private def scriptSidetic : List (Nat × Nat) :=
  [(0x10940, 0x10959)]

private def scriptSignWriting : List (Nat × Nat) :=
  [(0x1D800, 0x1DA8B), (0x1DA9B, 0x1DA9F), (0x1DAA1, 0x1DAAF)]

private def scriptSinhala : List (Nat × Nat) :=
  [(0xD81, 0xD83), (0xD85, 0xD96), (0xD9A, 0xDB1), (0xDB3, 0xDBB), (0xDBD, 0xDBD), (0xDC0, 0xDC6), (0xDCA, 0xDCA),
   (0xDCF, 0xDD4), (0xDD6, 0xDD6), (0xDD8, 0xDDF), (0xDE6, 0xDEF), (0xDF2, 0xDF4), (0x111E1, 0x111F4)]

private def scriptSogdian : List (Nat × Nat) :=
  [(0x10F30, 0x10F59)]

private def scriptSoraSompeng : List (Nat × Nat) :=
  [(0x110D0, 0x110E8), (0x110F0, 0x110F9)]

private def scriptSoyombo : List (Nat × Nat) :=
  [(0x11A50, 0x11AA2)]

private def scriptSundanese : List (Nat × Nat) :=
  [(0x1B80, 0x1BBF), (0x1CC0, 0x1CC7)]

private def scriptSunuwar : List (Nat × Nat) :=
  [(0x11BC0, 0x11BE1), (0x11BF0, 0x11BF9)]

private def scriptSylotiNagri : List (Nat × Nat) :=
  [(0xA800, 0xA82C)]

private def scriptSyriac : List (Nat × Nat) :=
  [(0x700, 0x70D), (0x70F, 0x74A), (0x74D, 0x74F), (0x860, 0x86A)]

private def scriptTagalog : List (Nat × Nat) :=
  [(0x1700, 0x1715), (0x171F, 0x171F)]

private def scriptTagbanwa : List (Nat × Nat) :=
  [(0x1760, 0x176C), (0x176E, 0x1770), (0x1772, 0x1773)]

private def scriptTaiLe : List (Nat × Nat) :=
  [(0x1950, 0x196D), (0x1970, 0x1974)]

private def scriptTaiTham : List (Nat × Nat) :=
  [(0x1A20, 0x1A5E), (0x1A60, 0x1A7C), (0x1A7F, 0x1A89), (0x1A90, 0x1A99), (0x1AA0, 0x1AAD)]

private def scriptTaiViet : List (Nat × Nat) :=
  [(0xAA80, 0xAAC2), (0xAADB, 0xAADF)]

private def scriptTaiYo : List (Nat × Nat) :=
  [(0x1E6C0, 0x1E6DE), (0x1E6E0, 0x1E6F5), (0x1E6FE, 0x1E6FF)]

private def scriptTakri : List (Nat × Nat) :=
  [(0x11680, 0x116B9), (0x116C0, 0x116C9)]

private def scriptTamil : List (Nat × Nat) :=
  [(0xB82, 0xB83), (0xB85, 0xB8A), (0xB8E, 0xB90), (0xB92, 0xB95), (0xB99, 0xB9A), (0xB9C, 0xB9C), (0xB9E, 0xB9F),
   (0xBA3, 0xBA4), (0xBA8, 0xBAA), (0xBAE, 0xBB9), (0xBBE, 0xBC2), (0xBC6, 0xBC8), (0xBCA, 0xBCD), (0xBD0, 0xBD0),
   (0xBD7, 0xBD7), (0xBE6, 0xBFA), (0x11FC0, 0x11FF1), (0x11FFF, 0x11FFF)]

private def scriptTangsa : List (Nat × Nat) :=
  [(0x16A70, 0x16ABE), (0x16AC0, 0x16AC9)]

private def scriptTangut : List (Nat × Nat) :=
  [(0x16FE0, 0x16FE0), (0x17000, 0x18AFF), (0x18D00, 0x18D1E), (0x18D80, 0x18DF2)]

private def scriptTelugu : List (Nat × Nat) :=
  [(0xC00, 0xC0C), (0xC0E, 0xC10), (0xC12, 0xC28), (0xC2A, 0xC39), (0xC3C, 0xC44), (0xC46, 0xC48), (0xC4A, 0xC4D),
   (0xC55, 0xC56), (0xC58, 0xC5A), (0xC5C, 0xC5D), (0xC60, 0xC63), (0xC66, 0xC6F), (0xC77, 0xC7F)]

private def scriptThaana : List (Nat × Nat) :=
  [(0x780, 0x7B1)]

private def scriptThai : List (Nat × Nat) :=
  [(0xE01, 0xE3A), (0xE40, 0xE5B)]

private def scriptTibetan : List (Nat × Nat) :=
  [(0xF00, 0xF47), (0xF49, 0xF6C), (0xF71, 0xF97), (0xF99, 0xFBC), (0xFBE, 0xFCC), (0xFCE, 0xFD4), (0xFD9, 0xFDA)]

private def scriptTifinagh : List (Nat × Nat) :=
  [(0x2D30, 0x2D67), (0x2D6F, 0x2D70), (0x2D7F, 0x2D7F)]

private def scriptTirhuta : List (Nat × Nat) :=
  [(0x11480, 0x114C7), (0x114D0, 0x114D9)]

private def scriptTodhri : List (Nat × Nat) :=
  [(0x105C0, 0x105F3)]

private def scriptTolongSiki : List (Nat × Nat) :=
  [(0x11DB0, 0x11DDB), (0x11DE0, 0x11DE9)]

private def scriptToto : List (Nat × Nat) :=
  [(0x1E290, 0x1E2AE)]

private def scriptTuluTigalari : List (Nat × Nat) :=
  [(0x11380, 0x11389), (0x1138B, 0x1138B), (0x1138E, 0x1138E), (0x11390, 0x113B5), (0x113B7, 0x113C0),
   (0x113C2, 0x113C2), (0x113C5, 0x113C5), (0x113C7, 0x113CA), (0x113CC, 0x113D5), (0x113D7, 0x113D8),
   (0x113E1, 0x113E2)]

private def scriptUgaritic : List (Nat × Nat) :=
  [(0x10380, 0x1039D), (0x1039F, 0x1039F)]

private def scriptVai : List (Nat × Nat) :=
  [(0xA500, 0xA62B)]

private def scriptVithkuqi : List (Nat × Nat) :=
  [(0x10570, 0x1057A), (0x1057C, 0x1058A), (0x1058C, 0x10592), (0x10594, 0x10595), (0x10597, 0x105A1),
   (0x105A3, 0x105B1), (0x105B3, 0x105B9), (0x105BB, 0x105BC)]

private def scriptWancho : List (Nat × Nat) :=
  [(0x1E2C0, 0x1E2F9), (0x1E2FF, 0x1E2FF)]

private def scriptWarangCiti : List (Nat × Nat) :=
  [(0x118A0, 0x118F2), (0x118FF, 0x118FF)]

private def scriptYezidi : List (Nat × Nat) :=
  [(0x10E80, 0x10EA9), (0x10EAB, 0x10EAD), (0x10EB0, 0x10EB1)]

private def scriptYi : List (Nat × Nat) :=
  [(0xA000, 0xA48C), (0xA490, 0xA4C6)]

private def scriptZanabazarSquare : List (Nat × Nat) :=
  [(0x11A00, 0x11A47)]

/-- The scripts whose names begin with a letter from S to Z, and their code points. -/
def scriptsSToZ : List (String × Table) :=
  [("Samaritan", .ofRanges scriptSamaritan), ("Saurashtra", .ofRanges scriptSaurashtra),
   ("Sharada", .ofRanges scriptSharada), ("Shavian", .ofRanges scriptShavian), ("Siddham", .ofRanges scriptSiddham),
   ("Sidetic", .ofRanges scriptSidetic), ("SignWriting", .ofRanges scriptSignWriting),
   ("Sinhala", .ofRanges scriptSinhala), ("Sogdian", .ofRanges scriptSogdian),
   ("Sora_Sompeng", .ofRanges scriptSoraSompeng), ("Soyombo", .ofRanges scriptSoyombo),
   ("Sundanese", .ofRanges scriptSundanese), ("Sunuwar", .ofRanges scriptSunuwar),
   ("Syloti_Nagri", .ofRanges scriptSylotiNagri), ("Syriac", .ofRanges scriptSyriac),
   ("Tagalog", .ofRanges scriptTagalog), ("Tagbanwa", .ofRanges scriptTagbanwa), ("Tai_Le", .ofRanges scriptTaiLe),
   ("Tai_Tham", .ofRanges scriptTaiTham), ("Tai_Viet", .ofRanges scriptTaiViet), ("Tai_Yo", .ofRanges scriptTaiYo),
   ("Takri", .ofRanges scriptTakri), ("Tamil", .ofRanges scriptTamil), ("Tangsa", .ofRanges scriptTangsa),
   ("Tangut", .ofRanges scriptTangut), ("Telugu", .ofRanges scriptTelugu), ("Thaana", .ofRanges scriptThaana),
   ("Thai", .ofRanges scriptThai), ("Tibetan", .ofRanges scriptTibetan), ("Tifinagh", .ofRanges scriptTifinagh),
   ("Tirhuta", .ofRanges scriptTirhuta), ("Todhri", .ofRanges scriptTodhri),
   ("Tolong_Siki", .ofRanges scriptTolongSiki), ("Toto", .ofRanges scriptToto),
   ("Tulu_Tigalari", .ofRanges scriptTuluTigalari), ("Ugaritic", .ofRanges scriptUgaritic),
   ("Vai", .ofRanges scriptVai), ("Vithkuqi", .ofRanges scriptVithkuqi), ("Wancho", .ofRanges scriptWancho),
   ("Warang_Citi", .ofRanges scriptWarangCiti), ("Yezidi", .ofRanges scriptYezidi), ("Yi", .ofRanges scriptYi),
   ("Zanabazar_Square", .ofRanges scriptZanabazarSquare)]

end Literate.Unicode
