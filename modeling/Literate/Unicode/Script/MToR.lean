import Literate.Unicode.Span

/-!
# Scripts from M to R

The code points of scripts, by the names of the scripts.
-/

namespace Literate.Unicode

private def scriptMahajani : List (Nat × Nat) :=
  [(0x11150, 0x11176)]

private def scriptMakasar : List (Nat × Nat) :=
  [(0x11EE0, 0x11EF8)]

private def scriptMalayalam : List (Nat × Nat) :=
  [(0xD00, 0xD0C), (0xD0E, 0xD10), (0xD12, 0xD44), (0xD46, 0xD48), (0xD4A, 0xD4F), (0xD54, 0xD63), (0xD66, 0xD7F)]

private def scriptMandaic : List (Nat × Nat) :=
  [(0x840, 0x85B), (0x85E, 0x85E)]

private def scriptManichaean : List (Nat × Nat) :=
  [(0x10AC0, 0x10AE6), (0x10AEB, 0x10AF6)]

private def scriptMarchen : List (Nat × Nat) :=
  [(0x11C70, 0x11C8F), (0x11C92, 0x11CA7), (0x11CA9, 0x11CB6)]

private def scriptMasaramGondi : List (Nat × Nat) :=
  [(0x11D00, 0x11D06), (0x11D08, 0x11D09), (0x11D0B, 0x11D36), (0x11D3A, 0x11D3A), (0x11D3C, 0x11D3D),
   (0x11D3F, 0x11D47), (0x11D50, 0x11D59)]

private def scriptMedefaidrin : List (Nat × Nat) :=
  [(0x16E40, 0x16E9A)]

private def scriptMeeteiMayek : List (Nat × Nat) :=
  [(0xAAE0, 0xAAF6), (0xABC0, 0xABED), (0xABF0, 0xABF9)]

private def scriptMendeKikakui : List (Nat × Nat) :=
  [(0x1E800, 0x1E8C4), (0x1E8C7, 0x1E8D6)]

private def scriptMeroiticCursive : List (Nat × Nat) :=
  [(0x109A0, 0x109B7), (0x109BC, 0x109CF), (0x109D2, 0x109FF)]

private def scriptMeroiticHieroglyphs : List (Nat × Nat) :=
  [(0x10980, 0x1099F)]

private def scriptMiao : List (Nat × Nat) :=
  [(0x16F00, 0x16F4A), (0x16F4F, 0x16F87), (0x16F8F, 0x16F9F)]

private def scriptModi : List (Nat × Nat) :=
  [(0x11600, 0x11644), (0x11650, 0x11659)]

private def scriptMongolian : List (Nat × Nat) :=
  [(0x1800, 0x1801), (0x1804, 0x1804), (0x1806, 0x1819), (0x1820, 0x1878), (0x1880, 0x18AA), (0x11660, 0x1166C)]

private def scriptMro : List (Nat × Nat) :=
  [(0x16A40, 0x16A5E), (0x16A60, 0x16A69), (0x16A6E, 0x16A6F)]

private def scriptMultani : List (Nat × Nat) :=
  [(0x11280, 0x11286), (0x11288, 0x11288), (0x1128A, 0x1128D), (0x1128F, 0x1129D), (0x1129F, 0x112A9)]

private def scriptMyanmar : List (Nat × Nat) :=
  [(0x1000, 0x109F), (0xA9E0, 0xA9FE), (0xAA60, 0xAA7F), (0x116D0, 0x116E3)]

private def scriptNabataean : List (Nat × Nat) :=
  [(0x10880, 0x1089E), (0x108A7, 0x108AF)]

private def scriptNagMundari : List (Nat × Nat) :=
  [(0x1E4D0, 0x1E4F9)]

private def scriptNandinagari : List (Nat × Nat) :=
  [(0x119A0, 0x119A7), (0x119AA, 0x119D7), (0x119DA, 0x119E4)]

private def scriptNewTaiLue : List (Nat × Nat) :=
  [(0x1980, 0x19AB), (0x19B0, 0x19C9), (0x19D0, 0x19DA), (0x19DE, 0x19DF)]

private def scriptNewa : List (Nat × Nat) :=
  [(0x11400, 0x1145B), (0x1145D, 0x11461)]

private def scriptNko : List (Nat × Nat) :=
  [(0x7C0, 0x7FA), (0x7FD, 0x7FF)]

private def scriptNushu : List (Nat × Nat) :=
  [(0x16FE1, 0x16FE1), (0x1B170, 0x1B2FB)]

private def scriptNyiakengPuachueHmong : List (Nat × Nat) :=
  [(0x1E100, 0x1E12C), (0x1E130, 0x1E13D), (0x1E140, 0x1E149), (0x1E14E, 0x1E14F)]

private def scriptOgham : List (Nat × Nat) :=
  [(0x1680, 0x169C)]

private def scriptOlChiki : List (Nat × Nat) :=
  [(0x1C50, 0x1C7F)]

private def scriptOlOnal : List (Nat × Nat) :=
  [(0x1E5D0, 0x1E5FA), (0x1E5FF, 0x1E5FF)]

private def scriptOldHungarian : List (Nat × Nat) :=
  [(0x10C80, 0x10CB2), (0x10CC0, 0x10CF2), (0x10CFA, 0x10CFF)]

private def scriptOldItalic : List (Nat × Nat) :=
  [(0x10300, 0x10323), (0x1032D, 0x1032F)]

private def scriptOldNorthArabian : List (Nat × Nat) :=
  [(0x10A80, 0x10A9F)]

private def scriptOldPermic : List (Nat × Nat) :=
  [(0x10350, 0x1037A)]

private def scriptOldPersian : List (Nat × Nat) :=
  [(0x103A0, 0x103C3), (0x103C8, 0x103D5)]

private def scriptOldSogdian : List (Nat × Nat) :=
  [(0x10F00, 0x10F27)]

private def scriptOldSouthArabian : List (Nat × Nat) :=
  [(0x10A60, 0x10A7F)]

private def scriptOldTurkic : List (Nat × Nat) :=
  [(0x10C00, 0x10C48)]

private def scriptOldUyghur : List (Nat × Nat) :=
  [(0x10F70, 0x10F89)]

private def scriptOriya : List (Nat × Nat) :=
  [(0xB01, 0xB03), (0xB05, 0xB0C), (0xB0F, 0xB10), (0xB13, 0xB28), (0xB2A, 0xB30), (0xB32, 0xB33), (0xB35, 0xB39),
   (0xB3C, 0xB44), (0xB47, 0xB48), (0xB4B, 0xB4D), (0xB55, 0xB57), (0xB5C, 0xB5D), (0xB5F, 0xB63), (0xB66, 0xB77)]

private def scriptOsage : List (Nat × Nat) :=
  [(0x104B0, 0x104D3), (0x104D8, 0x104FB)]

private def scriptOsmanya : List (Nat × Nat) :=
  [(0x10480, 0x1049D), (0x104A0, 0x104A9)]

private def scriptPahawhHmong : List (Nat × Nat) :=
  [(0x16B00, 0x16B45), (0x16B50, 0x16B59), (0x16B5B, 0x16B61), (0x16B63, 0x16B77), (0x16B7D, 0x16B8F)]

private def scriptPalmyrene : List (Nat × Nat) :=
  [(0x10860, 0x1087F)]

private def scriptPauCinHau : List (Nat × Nat) :=
  [(0x11AC0, 0x11AF8)]

private def scriptPhagsPa : List (Nat × Nat) :=
  [(0xA840, 0xA877)]

private def scriptPhoenician : List (Nat × Nat) :=
  [(0x10900, 0x1091B), (0x1091F, 0x1091F)]

private def scriptPsalterPahlavi : List (Nat × Nat) :=
  [(0x10B80, 0x10B91), (0x10B99, 0x10B9C), (0x10BA9, 0x10BAF)]

private def scriptRejang : List (Nat × Nat) :=
  [(0xA930, 0xA953), (0xA95F, 0xA95F)]

private def scriptRunic : List (Nat × Nat) :=
  [(0x16A0, 0x16EA), (0x16EE, 0x16F8)]

/-- The scripts whose names begin with a letter from M to R, and their code points. -/
def scriptsMToR : List (String × Table) :=
  [("Mahajani", .ofRanges scriptMahajani), ("Makasar", .ofRanges scriptMakasar),
   ("Malayalam", .ofRanges scriptMalayalam), ("Mandaic", .ofRanges scriptMandaic),
   ("Manichaean", .ofRanges scriptManichaean), ("Marchen", .ofRanges scriptMarchen),
   ("Masaram_Gondi", .ofRanges scriptMasaramGondi), ("Medefaidrin", .ofRanges scriptMedefaidrin),
   ("Meetei_Mayek", .ofRanges scriptMeeteiMayek), ("Mende_Kikakui", .ofRanges scriptMendeKikakui),
   ("Meroitic_Cursive", .ofRanges scriptMeroiticCursive),
   ("Meroitic_Hieroglyphs", .ofRanges scriptMeroiticHieroglyphs), ("Miao", .ofRanges scriptMiao),
   ("Modi", .ofRanges scriptModi), ("Mongolian", .ofRanges scriptMongolian), ("Mro", .ofRanges scriptMro),
   ("Multani", .ofRanges scriptMultani), ("Myanmar", .ofRanges scriptMyanmar),
   ("Nabataean", .ofRanges scriptNabataean), ("Nag_Mundari", .ofRanges scriptNagMundari),
   ("Nandinagari", .ofRanges scriptNandinagari), ("New_Tai_Lue", .ofRanges scriptNewTaiLue),
   ("Newa", .ofRanges scriptNewa), ("Nko", .ofRanges scriptNko), ("Nushu", .ofRanges scriptNushu),
   ("Nyiakeng_Puachue_Hmong", .ofRanges scriptNyiakengPuachueHmong), ("Ogham", .ofRanges scriptOgham),
   ("Ol_Chiki", .ofRanges scriptOlChiki), ("Ol_Onal", .ofRanges scriptOlOnal),
   ("Old_Hungarian", .ofRanges scriptOldHungarian), ("Old_Italic", .ofRanges scriptOldItalic),
   ("Old_North_Arabian", .ofRanges scriptOldNorthArabian), ("Old_Permic", .ofRanges scriptOldPermic),
   ("Old_Persian", .ofRanges scriptOldPersian), ("Old_Sogdian", .ofRanges scriptOldSogdian),
   ("Old_South_Arabian", .ofRanges scriptOldSouthArabian), ("Old_Turkic", .ofRanges scriptOldTurkic),
   ("Old_Uyghur", .ofRanges scriptOldUyghur), ("Oriya", .ofRanges scriptOriya), ("Osage", .ofRanges scriptOsage),
   ("Osmanya", .ofRanges scriptOsmanya), ("Pahawh_Hmong", .ofRanges scriptPahawhHmong),
   ("Palmyrene", .ofRanges scriptPalmyrene), ("Pau_Cin_Hau", .ofRanges scriptPauCinHau),
   ("Phags_Pa", .ofRanges scriptPhagsPa), ("Phoenician", .ofRanges scriptPhoenician),
   ("Psalter_Pahlavi", .ofRanges scriptPsalterPahlavi), ("Rejang", .ofRanges scriptRejang),
   ("Runic", .ofRanges scriptRunic)]

end Literate.Unicode
