import SchemaFilter.Unicode.CharSet

/-!
# Tables of the scripts

The characters of each Unicode script, Unicode 16, and the names that each script goes by.

* `Script.table` — the long name, the other names, and the characters of each script;
* `ScriptExtension.table` — where the characters that a script is used with differ from these.
-/

namespace SchemaFilter

/-- A script: its names, the long one first, and its characters. -/
structure Script where
  names : List String
  members : CharSet

namespace Script

/-- The script `Adlam`. -/
def adlam : CharSet := .ofHex "1E900-1E94B 1E950-1E959 1E95E-1E95F"

/-- The script `Ahom`. -/
def ahom : CharSet := .ofHex "11700-1171A 1171D-1172B 11730-11746"

/-- The script `Anatolian_Hieroglyphs`. -/
def anatolianHieroglyphs : CharSet := .ofHex "14400-14646"

/-- The script `Arabic`. -/
def arabic : CharSet := .ofHex
    "600-604 606-60B 60D-61A 61C-61E 620-63F 641-64A 656-66F 671-6DC 6DE-6FF 750-77F 870-88E
    890-891 897-8E1 8E3-8FF FB50-FBC2 FBD3-FD3D FD40-FD8F FD92-FDC7 FDCF FDF0-FDFF FE70-FE74
    FE76-FEFC 10E60-10E7E 10EC2-10EC4 10EFC-10EFF 1EE00-1EE03 1EE05-1EE1F 1EE21-1EE22 1EE24
    1EE27 1EE29-1EE32 1EE34-1EE37 1EE39 1EE3B 1EE42 1EE47 1EE49 1EE4B 1EE4D-1EE4F 1EE51-1EE52
    1EE54 1EE57 1EE59 1EE5B 1EE5D 1EE5F 1EE61-1EE62 1EE64 1EE67-1EE6A 1EE6C-1EE72 1EE74-1EE77
    1EE79-1EE7C 1EE7E 1EE80-1EE89 1EE8B-1EE9B 1EEA1-1EEA3 1EEA5-1EEA9 1EEAB-1EEBB 1EEF0-1EEF1"

/-- The script `Armenian`. -/
def armenian : CharSet := .ofHex "531-556 559-58A 58D-58F FB13-FB17"

/-- The script `Avestan`. -/
def avestan : CharSet := .ofHex "10B00-10B35 10B39-10B3F"

/-- The script `Balinese`. -/
def balinese : CharSet := .ofHex "1B00-1B4C 1B4E-1B7F"

/-- The script `Bamum`. -/
def bamum : CharSet := .ofHex "A6A0-A6F7 16800-16A38"

/-- The script `Bassa_Vah`. -/
def bassaVah : CharSet := .ofHex "16AD0-16AED 16AF0-16AF5"

/-- The script `Batak`. -/
def batak : CharSet := .ofHex "1BC0-1BF3 1BFC-1BFF"

/-- The script `Bengali`. -/
def bengali : CharSet := .ofHex
    "980-983 985-98C 98F-990 993-9A8 9AA-9B0 9B2 9B6-9B9 9BC-9C4 9C7-9C8 9CB-9CE 9D7 9DC-9DD
    9DF-9E3 9E6-9FE"

/-- The script `Bhaiksuki`. -/
def bhaiksuki : CharSet := .ofHex "11C00-11C08 11C0A-11C36 11C38-11C45 11C50-11C6C"

/-- The script `Bopomofo`. -/
def bopomofo : CharSet := .ofHex "2EA-2EB 3105-312F 31A0-31BF"

/-- The script `Brahmi`. -/
def brahmi : CharSet := .ofHex "11000-1104D 11052-11075 1107F"

/-- The script `Braille`. -/
def braille : CharSet := .ofHex "2800-28FF"

/-- The script `Buginese`. -/
def buginese : CharSet := .ofHex "1A00-1A1B 1A1E-1A1F"

/-- The script `Buhid`. -/
def buhid : CharSet := .ofHex "1740-1753"

/-- The script `Canadian_Aboriginal`. -/
def canadianAboriginal : CharSet := .ofHex "1400-167F 18B0-18F5 11AB0-11ABF"

/-- The script `Carian`. -/
def carian : CharSet := .ofHex "102A0-102D0"

/-- The script `Caucasian_Albanian`. -/
def caucasianAlbanian : CharSet := .ofHex "10530-10563 1056F"

/-- The script `Chakma`. -/
def chakma : CharSet := .ofHex "11100-11134 11136-11147"

/-- The script `Cham`. -/
def cham : CharSet := .ofHex "AA00-AA36 AA40-AA4D AA50-AA59 AA5C-AA5F"

/-- The script `Cherokee`. -/
def cherokee : CharSet := .ofHex "13A0-13F5 13F8-13FD AB70-ABBF"

/-- The script `Chorasmian`. -/
def chorasmian : CharSet := .ofHex "10FB0-10FCB"

/-- The script `Common`. -/
def common : CharSet := .ofHex
    "0-40 5B-60 7B-A9 AB-B9 BB-BF D7 F7 2B9-2DF 2E5-2E9 2EC-2FF 374 37E 385 387 605 60C 61B
    61F 640 6DD 8E2 964-965 E3F FD5-FD8 10FB 16EB-16ED 1735-1736 1802-1803 1805 1CD3 1CE1
    1CE9-1CEC 1CEE-1CF3 1CF5-1CF7 1CFA 2000-200B 200E-2064 2066-2070 2074-207E 2080-208E
    20A0-20C0 2100-2125 2127-2129 212C-2131 2133-214D 214F-215F 2189-218B 2190-2429 2440-244A
    2460-27FF 2900-2B73 2B76-2B95 2B97-2BFF 2E00-2E5D 2FF0-3004 3006 3008-3020 3030-3037
    303C-303F 309B-309C 30A0 30FB-30FC 3190-319F 31C0-31E5 31EF 3220-325F 327F-32CF 32FF
    3358-33FF 4DC0-4DFF A700-A721 A788-A78A A830-A839 A92E A9CF AB5B AB6A-AB6B FD3E-FD3F
    FE10-FE19 FE30-FE52 FE54-FE66 FE68-FE6B FEFF FF01-FF20 FF3B-FF40 FF5B-FF65 FF70 FF9E-FF9F
    FFE0-FFE6 FFE8-FFEE FFF9-FFFD 10100-10102 10107-10133 10137-1013F 10190-1019C 101D0-101FC
    102E1-102FB 1BCA0-1BCA3 1CC00-1CCF9 1CD00-1CEB3 1CF50-1CFC3 1D000-1D0F5 1D100-1D126
    1D129-1D166 1D16A-1D17A 1D183-1D184 1D18C-1D1A9 1D1AE-1D1EA 1D2C0-1D2D3 1D2E0-1D2F3
    1D300-1D356 1D360-1D378 1D400-1D454 1D456-1D49C 1D49E-1D49F 1D4A2 1D4A5-1D4A6 1D4A9-1D4AC
    1D4AE-1D4B9 1D4BB 1D4BD-1D4C3 1D4C5-1D505 1D507-1D50A 1D50D-1D514 1D516-1D51C 1D51E-1D539
    1D53B-1D53E 1D540-1D544 1D546 1D54A-1D550 1D552-1D6A5 1D6A8-1D7CB 1D7CE-1D7FF 1EC71-1ECB4
    1ED01-1ED3D 1F000-1F02B 1F030-1F093 1F0A0-1F0AE 1F0B1-1F0BF 1F0C1-1F0CF 1F0D1-1F0F5
    1F100-1F1AD 1F1E6-1F1FF 1F201-1F202 1F210-1F23B 1F240-1F248 1F250-1F251 1F260-1F265
    1F300-1F6D7 1F6DC-1F6EC 1F6F0-1F6FC 1F700-1F776 1F77B-1F7D9 1F7E0-1F7EB 1F7F0 1F800-1F80B
    1F810-1F847 1F850-1F859 1F860-1F887 1F890-1F8AD 1F8B0-1F8BB 1F8C0-1F8C1 1F900-1FA53
    1FA60-1FA6D 1FA70-1FA7C 1FA80-1FA89 1FA8F-1FAC6 1FACE-1FADC 1FADF-1FAE9 1FAF0-1FAF8
    1FB00-1FB92 1FB94-1FBF9 E0001 E0020-E007F"

/-- The script `Coptic`. -/
def coptic : CharSet := .ofHex "3E2-3EF 2C80-2CF3 2CF9-2CFF"

/-- The script `Cuneiform`. -/
def cuneiform : CharSet := .ofHex "12000-12399 12400-1246E 12470-12474 12480-12543"

/-- The script `Cypriot`. -/
def cypriot : CharSet := .ofHex "10800-10805 10808 1080A-10835 10837-10838 1083C 1083F"

/-- The script `Cypro_Minoan`. -/
def cyproMinoan : CharSet := .ofHex "12F90-12FF2"

/-- The script `Cyrillic`. -/
def cyrillic : CharSet := .ofHex
    "400-484 487-52F 1C80-1C8A 1D2B 1D78 2DE0-2DFF A640-A69F FE2E-FE2F 1E030-1E06D 1E08F"

/-- The script `Deseret`. -/
def deseret : CharSet := .ofHex "10400-1044F"

/-- The script `Devanagari`. -/
def devanagari : CharSet := .ofHex "900-950 955-963 966-97F A8E0-A8FF 11B00-11B09"

/-- The script `Dives_Akuru`. -/
def divesAkuru : CharSet := .ofHex
    "11900-11906 11909 1190C-11913 11915-11916 11918-11935 11937-11938 1193B-11946 11950-11959"

/-- The script `Dogra`. -/
def dogra : CharSet := .ofHex "11800-1183B"

/-- The script `Duployan`. -/
def duployan : CharSet := .ofHex "1BC00-1BC6A 1BC70-1BC7C 1BC80-1BC88 1BC90-1BC99 1BC9C-1BC9F"

/-- The script `Egyptian_Hieroglyphs`. -/
def egyptianHieroglyphs : CharSet := .ofHex "13000-13455 13460-143FA"

/-- The script `Elbasan`. -/
def elbasan : CharSet := .ofHex "10500-10527"

/-- The script `Elymaic`. -/
def elymaic : CharSet := .ofHex "10FE0-10FF6"

/-- The script `Ethiopic`. -/
def ethiopic : CharSet := .ofHex
    "1200-1248 124A-124D 1250-1256 1258 125A-125D 1260-1288 128A-128D 1290-12B0 12B2-12B5
    12B8-12BE 12C0 12C2-12C5 12C8-12D6 12D8-1310 1312-1315 1318-135A 135D-137C 1380-1399
    2D80-2D96 2DA0-2DA6 2DA8-2DAE 2DB0-2DB6 2DB8-2DBE 2DC0-2DC6 2DC8-2DCE 2DD0-2DD6 2DD8-2DDE
    AB01-AB06 AB09-AB0E AB11-AB16 AB20-AB26 AB28-AB2E 1E7E0-1E7E6 1E7E8-1E7EB 1E7ED-1E7EE
    1E7F0-1E7FE"

/-- The script `Garay`. -/
def garay : CharSet := .ofHex "10D40-10D65 10D69-10D85 10D8E-10D8F"

/-- The script `Georgian`. -/
def georgian : CharSet := .ofHex
    "10A0-10C5 10C7 10CD 10D0-10FA 10FC-10FF 1C90-1CBA 1CBD-1CBF 2D00-2D25 2D27 2D2D"

/-- The script `Glagolitic`. -/
def glagolitic : CharSet := .ofHex
    "2C00-2C5F 1E000-1E006 1E008-1E018 1E01B-1E021 1E023-1E024 1E026-1E02A"

/-- The script `Gothic`. -/
def gothic : CharSet := .ofHex "10330-1034A"

/-- The script `Grantha`. -/
def grantha : CharSet := .ofHex
    "11300-11303 11305-1130C 1130F-11310 11313-11328 1132A-11330 11332-11333 11335-11339
    1133C-11344 11347-11348 1134B-1134D 11350 11357 1135D-11363 11366-1136C 11370-11374"

/-- The script `Greek`. -/
def greek : CharSet := .ofHex
    "370-373 375-377 37A-37D 37F 384 386 388-38A 38C 38E-3A1 3A3-3E1 3F0-3FF 1D26-1D2A
    1D5D-1D61 1D66-1D6A 1DBF 1F00-1F15 1F18-1F1D 1F20-1F45 1F48-1F4D 1F50-1F57 1F59 1F5B 1F5D
    1F5F-1F7D 1F80-1FB4 1FB6-1FC4 1FC6-1FD3 1FD6-1FDB 1FDD-1FEF 1FF2-1FF4 1FF6-1FFE 2126 AB65
    10140-1018E 101A0 1D200-1D245"

/-- The script `Gujarati`. -/
def gujarati : CharSet := .ofHex
    "A81-A83 A85-A8D A8F-A91 A93-AA8 AAA-AB0 AB2-AB3 AB5-AB9 ABC-AC5 AC7-AC9 ACB-ACD AD0
    AE0-AE3 AE6-AF1 AF9-AFF"

/-- The script `Gunjala_Gondi`. -/
def gunjalaGondi : CharSet := .ofHex
    "11D60-11D65 11D67-11D68 11D6A-11D8E 11D90-11D91 11D93-11D98 11DA0-11DA9"

/-- The script `Gurmukhi`. -/
def gurmukhi : CharSet := .ofHex
    "A01-A03 A05-A0A A0F-A10 A13-A28 A2A-A30 A32-A33 A35-A36 A38-A39 A3C A3E-A42 A47-A48
    A4B-A4D A51 A59-A5C A5E A66-A76"

/-- The script `Gurung_Khema`. -/
def gurungKhema : CharSet := .ofHex "16100-16139"

/-- The script `Han`. -/
def han : CharSet := .ofHex
    "2E80-2E99 2E9B-2EF3 2F00-2FD5 3005 3007 3021-3029 3038-303B 3400-4DBF 4E00-9FFF F900-FA6D
    FA70-FAD9 16FE2-16FE3 16FF0-16FF1 20000-2A6DF 2A700-2B739 2B740-2B81D 2B820-2CEA1
    2CEB0-2EBE0 2EBF0-2EE5D 2F800-2FA1D 30000-3134A 31350-323AF"

/-- The script `Hangul`. -/
def hangul : CharSet := .ofHex
    "1100-11FF 302E-302F 3131-318E 3200-321E 3260-327E A960-A97C AC00-D7A3 D7B0-D7C6 D7CB-D7FB
    FFA0-FFBE FFC2-FFC7 FFCA-FFCF FFD2-FFD7 FFDA-FFDC"

/-- The script `Hanifi_Rohingya`. -/
def hanifiRohingya : CharSet := .ofHex "10D00-10D27 10D30-10D39"

/-- The script `Hanunoo`. -/
def hanunoo : CharSet := .ofHex "1720-1734"

/-- The script `Hatran`. -/
def hatran : CharSet := .ofHex "108E0-108F2 108F4-108F5 108FB-108FF"

/-- The script `Hebrew`. -/
def hebrew : CharSet := .ofHex
    "591-5C7 5D0-5EA 5EF-5F4 FB1D-FB36 FB38-FB3C FB3E FB40-FB41 FB43-FB44 FB46-FB4F"

/-- The script `Hiragana`. -/
def hiragana : CharSet := .ofHex "3041-3096 309D-309F 1B001-1B11F 1B132 1B150-1B152 1F200"

/-- The script `Imperial_Aramaic`. -/
def imperialAramaic : CharSet := .ofHex "10840-10855 10857-1085F"

/-- The script `Inherited`. -/
def inherited : CharSet := .ofHex
    "300-36F 485-486 64B-655 670 951-954 1AB0-1ACE 1CD0-1CD2 1CD4-1CE0 1CE2-1CE8 1CED 1CF4
    1CF8-1CF9 1DC0-1DFF 200C-200D 20D0-20F0 302A-302D 3099-309A FE00-FE0F FE20-FE2D 101FD
    102E0 1133B 1CF00-1CF2D 1CF30-1CF46 1D167-1D169 1D17B-1D182 1D185-1D18B 1D1AA-1D1AD
    E0100-E01EF"

/-- The script `Inscriptional_Pahlavi`. -/
def inscriptionalPahlavi : CharSet := .ofHex "10B60-10B72 10B78-10B7F"

/-- The script `Inscriptional_Parthian`. -/
def inscriptionalParthian : CharSet := .ofHex "10B40-10B55 10B58-10B5F"

/-- The script `Javanese`. -/
def javanese : CharSet := .ofHex "A980-A9CD A9D0-A9D9 A9DE-A9DF"

/-- The script `Kaithi`. -/
def kaithi : CharSet := .ofHex "11080-110C2 110CD"

/-- The script `Kannada`. -/
def kannada : CharSet := .ofHex
    "C80-C8C C8E-C90 C92-CA8 CAA-CB3 CB5-CB9 CBC-CC4 CC6-CC8 CCA-CCD CD5-CD6 CDD-CDE CE0-CE3
    CE6-CEF CF1-CF3"

/-- The script `Katakana`. -/
def katakana : CharSet := .ofHex
    "30A1-30FA 30FD-30FF 31F0-31FF 32D0-32FE 3300-3357 FF66-FF6F FF71-FF9D 1AFF0-1AFF3
    1AFF5-1AFFB 1AFFD-1AFFE 1B000 1B120-1B122 1B155 1B164-1B167"

/-- The script `Kawi`. -/
def kawi : CharSet := .ofHex "11F00-11F10 11F12-11F3A 11F3E-11F5A"

/-- The script `Kayah_Li`. -/
def kayahLi : CharSet := .ofHex "A900-A92D A92F"

/-- The script `Kharoshthi`. -/
def kharoshthi : CharSet := .ofHex
    "10A00-10A03 10A05-10A06 10A0C-10A13 10A15-10A17 10A19-10A35 10A38-10A3A 10A3F-10A48
    10A50-10A58"

/-- The script `Khitan_Small_Script`. -/
def khitanSmallScript : CharSet := .ofHex "16FE4 18B00-18CD5 18CFF"

/-- The script `Khmer`. -/
def khmer : CharSet := .ofHex "1780-17DD 17E0-17E9 17F0-17F9 19E0-19FF"

/-- The script `Khojki`. -/
def khojki : CharSet := .ofHex "11200-11211 11213-11241"

/-- The script `Khudawadi`. -/
def khudawadi : CharSet := .ofHex "112B0-112EA 112F0-112F9"

/-- The script `Kirat_Rai`. -/
def kiratRai : CharSet := .ofHex "16D40-16D79"

/-- The script `Lao`. -/
def lao : CharSet := .ofHex
    "E81-E82 E84 E86-E8A E8C-EA3 EA5 EA7-EBD EC0-EC4 EC6 EC8-ECE ED0-ED9 EDC-EDF"

/-- The script `Latin`. -/
def latin : CharSet := .ofHex
    "41-5A 61-7A AA BA C0-D6 D8-F6 F8-2B8 2E0-2E4 1D00-1D25 1D2C-1D5C 1D62-1D65 1D6B-1D77
    1D79-1DBE 1E00-1EFF 2071 207F 2090-209C 212A-212B 2132 214E 2160-2188 2C60-2C7F A722-A787
    A78B-A7CD A7D0-A7D1 A7D3 A7D5-A7DC A7F2-A7FF AB30-AB5A AB5C-AB64 AB66-AB69 FB00-FB06
    FF21-FF3A FF41-FF5A 10780-10785 10787-107B0 107B2-107BA 1DF00-1DF1E 1DF25-1DF2A"

/-- The script `Lepcha`. -/
def lepcha : CharSet := .ofHex "1C00-1C37 1C3B-1C49 1C4D-1C4F"

/-- The script `Limbu`. -/
def limbu : CharSet := .ofHex "1900-191E 1920-192B 1930-193B 1940 1944-194F"

/-- The script `Linear_A`. -/
def linearA : CharSet := .ofHex "10600-10736 10740-10755 10760-10767"

/-- The script `Linear_B`. -/
def linearB : CharSet := .ofHex
    "10000-1000B 1000D-10026 10028-1003A 1003C-1003D 1003F-1004D 10050-1005D 10080-100FA"

/-- The script `Lisu`. -/
def lisu : CharSet := .ofHex "A4D0-A4FF 11FB0"

/-- The script `Lycian`. -/
def lycian : CharSet := .ofHex "10280-1029C"

/-- The script `Lydian`. -/
def lydian : CharSet := .ofHex "10920-10939 1093F"

/-- The script `Mahajani`. -/
def mahajani : CharSet := .ofHex "11150-11176"

/-- The script `Makasar`. -/
def makasar : CharSet := .ofHex "11EE0-11EF8"

/-- The script `Malayalam`. -/
def malayalam : CharSet := .ofHex "D00-D0C D0E-D10 D12-D44 D46-D48 D4A-D4F D54-D63 D66-D7F"

/-- The script `Mandaic`. -/
def mandaic : CharSet := .ofHex "840-85B 85E"

/-- The script `Manichaean`. -/
def manichaean : CharSet := .ofHex "10AC0-10AE6 10AEB-10AF6"

/-- The script `Marchen`. -/
def marchen : CharSet := .ofHex "11C70-11C8F 11C92-11CA7 11CA9-11CB6"

/-- The script `Masaram_Gondi`. -/
def masaramGondi : CharSet := .ofHex
    "11D00-11D06 11D08-11D09 11D0B-11D36 11D3A 11D3C-11D3D 11D3F-11D47 11D50-11D59"

/-- The script `Medefaidrin`. -/
def medefaidrin : CharSet := .ofHex "16E40-16E9A"

/-- The script `Meetei_Mayek`. -/
def meeteiMayek : CharSet := .ofHex "AAE0-AAF6 ABC0-ABED ABF0-ABF9"

/-- The script `Mende_Kikakui`. -/
def mendeKikakui : CharSet := .ofHex "1E800-1E8C4 1E8C7-1E8D6"

/-- The script `Meroitic_Cursive`. -/
def meroiticCursive : CharSet := .ofHex "109A0-109B7 109BC-109CF 109D2-109FF"

/-- The script `Meroitic_Hieroglyphs`. -/
def meroiticHieroglyphs : CharSet := .ofHex "10980-1099F"

/-- The script `Miao`. -/
def miao : CharSet := .ofHex "16F00-16F4A 16F4F-16F87 16F8F-16F9F"

/-- The script `Modi`. -/
def modi : CharSet := .ofHex "11600-11644 11650-11659"

/-- The script `Mongolian`. -/
def mongolian : CharSet := .ofHex "1800-1801 1804 1806-1819 1820-1878 1880-18AA 11660-1166C"

/-- The script `Mro`. -/
def mro : CharSet := .ofHex "16A40-16A5E 16A60-16A69 16A6E-16A6F"

/-- The script `Multani`. -/
def multani : CharSet := .ofHex "11280-11286 11288 1128A-1128D 1128F-1129D 1129F-112A9"

/-- The script `Myanmar`. -/
def myanmar : CharSet := .ofHex "1000-109F A9E0-A9FE AA60-AA7F 116D0-116E3"

/-- The script `Nabataean`. -/
def nabataean : CharSet := .ofHex "10880-1089E 108A7-108AF"

/-- The script `Nag_Mundari`. -/
def nagMundari : CharSet := .ofHex "1E4D0-1E4F9"

/-- The script `Nandinagari`. -/
def nandinagari : CharSet := .ofHex "119A0-119A7 119AA-119D7 119DA-119E4"

/-- The script `New_Tai_Lue`. -/
def newTaiLue : CharSet := .ofHex "1980-19AB 19B0-19C9 19D0-19DA 19DE-19DF"

/-- The script `Newa`. -/
def newa : CharSet := .ofHex "11400-1145B 1145D-11461"

/-- The script `Nko`. -/
def nko : CharSet := .ofHex "7C0-7FA 7FD-7FF"

/-- The script `Nushu`. -/
def nushu : CharSet := .ofHex "16FE1 1B170-1B2FB"

/-- The script `Nyiakeng_Puachue_Hmong`. -/
def nyiakengPuachueHmong : CharSet := .ofHex "1E100-1E12C 1E130-1E13D 1E140-1E149 1E14E-1E14F"

/-- The script `Ogham`. -/
def ogham : CharSet := .ofHex "1680-169C"

/-- The script `Ol_Chiki`. -/
def olChiki : CharSet := .ofHex "1C50-1C7F"

/-- The script `Ol_Onal`. -/
def olOnal : CharSet := .ofHex "1E5D0-1E5FA 1E5FF"

/-- The script `Old_Hungarian`. -/
def oldHungarian : CharSet := .ofHex "10C80-10CB2 10CC0-10CF2 10CFA-10CFF"

/-- The script `Old_Italic`. -/
def oldItalic : CharSet := .ofHex "10300-10323 1032D-1032F"

/-- The script `Old_North_Arabian`. -/
def oldNorthArabian : CharSet := .ofHex "10A80-10A9F"

/-- The script `Old_Permic`. -/
def oldPermic : CharSet := .ofHex "10350-1037A"

/-- The script `Old_Persian`. -/
def oldPersian : CharSet := .ofHex "103A0-103C3 103C8-103D5"

/-- The script `Old_Sogdian`. -/
def oldSogdian : CharSet := .ofHex "10F00-10F27"

/-- The script `Old_South_Arabian`. -/
def oldSouthArabian : CharSet := .ofHex "10A60-10A7F"

/-- The script `Old_Turkic`. -/
def oldTurkic : CharSet := .ofHex "10C00-10C48"

/-- The script `Old_Uyghur`. -/
def oldUyghur : CharSet := .ofHex "10F70-10F89"

/-- The script `Oriya`. -/
def oriya : CharSet := .ofHex
    "B01-B03 B05-B0C B0F-B10 B13-B28 B2A-B30 B32-B33 B35-B39 B3C-B44 B47-B48 B4B-B4D B55-B57
    B5C-B5D B5F-B63 B66-B77"

/-- The script `Osage`. -/
def osage : CharSet := .ofHex "104B0-104D3 104D8-104FB"

/-- The script `Osmanya`. -/
def osmanya : CharSet := .ofHex "10480-1049D 104A0-104A9"

/-- The script `Pahawh_Hmong`. -/
def pahawhHmong : CharSet := .ofHex "16B00-16B45 16B50-16B59 16B5B-16B61 16B63-16B77 16B7D-16B8F"

/-- The script `Palmyrene`. -/
def palmyrene : CharSet := .ofHex "10860-1087F"

/-- The script `Pau_Cin_Hau`. -/
def pauCinHau : CharSet := .ofHex "11AC0-11AF8"

/-- The script `Phags_Pa`. -/
def phagsPa : CharSet := .ofHex "A840-A877"

/-- The script `Phoenician`. -/
def phoenician : CharSet := .ofHex "10900-1091B 1091F"

/-- The script `Psalter_Pahlavi`. -/
def psalterPahlavi : CharSet := .ofHex "10B80-10B91 10B99-10B9C 10BA9-10BAF"

/-- The script `Rejang`. -/
def rejang : CharSet := .ofHex "A930-A953 A95F"

/-- The script `Runic`. -/
def runic : CharSet := .ofHex "16A0-16EA 16EE-16F8"

/-- The script `Samaritan`. -/
def samaritan : CharSet := .ofHex "800-82D 830-83E"

/-- The script `Saurashtra`. -/
def saurashtra : CharSet := .ofHex "A880-A8C5 A8CE-A8D9"

/-- The script `Sharada`. -/
def sharada : CharSet := .ofHex "11180-111DF"

/-- The script `Shavian`. -/
def shavian : CharSet := .ofHex "10450-1047F"

/-- The script `Siddham`. -/
def siddham : CharSet := .ofHex "11580-115B5 115B8-115DD"

/-- The script `SignWriting`. -/
def signWriting : CharSet := .ofHex "1D800-1DA8B 1DA9B-1DA9F 1DAA1-1DAAF"

/-- The script `Sinhala`. -/
def sinhala : CharSet := .ofHex
    "D81-D83 D85-D96 D9A-DB1 DB3-DBB DBD DC0-DC6 DCA DCF-DD4 DD6 DD8-DDF DE6-DEF DF2-DF4
    111E1-111F4"

/-- The script `Sogdian`. -/
def sogdian : CharSet := .ofHex "10F30-10F59"

/-- The script `Sora_Sompeng`. -/
def soraSompeng : CharSet := .ofHex "110D0-110E8 110F0-110F9"

/-- The script `Soyombo`. -/
def soyombo : CharSet := .ofHex "11A50-11AA2"

/-- The script `Sundanese`. -/
def sundanese : CharSet := .ofHex "1B80-1BBF 1CC0-1CC7"

/-- The script `Sunuwar`. -/
def sunuwar : CharSet := .ofHex "11BC0-11BE1 11BF0-11BF9"

/-- The script `Syloti_Nagri`. -/
def sylotiNagri : CharSet := .ofHex "A800-A82C"

/-- The script `Syriac`. -/
def syriac : CharSet := .ofHex "700-70D 70F-74A 74D-74F 860-86A"

/-- The script `Tagalog`. -/
def tagalog : CharSet := .ofHex "1700-1715 171F"

/-- The script `Tagbanwa`. -/
def tagbanwa : CharSet := .ofHex "1760-176C 176E-1770 1772-1773"

/-- The script `Tai_Le`. -/
def taiLe : CharSet := .ofHex "1950-196D 1970-1974"

/-- The script `Tai_Tham`. -/
def taiTham : CharSet := .ofHex "1A20-1A5E 1A60-1A7C 1A7F-1A89 1A90-1A99 1AA0-1AAD"

/-- The script `Tai_Viet`. -/
def taiViet : CharSet := .ofHex "AA80-AAC2 AADB-AADF"

/-- The script `Takri`. -/
def takri : CharSet := .ofHex "11680-116B9 116C0-116C9"

/-- The script `Tamil`. -/
def tamil : CharSet := .ofHex
    "B82-B83 B85-B8A B8E-B90 B92-B95 B99-B9A B9C B9E-B9F BA3-BA4 BA8-BAA BAE-BB9 BBE-BC2
    BC6-BC8 BCA-BCD BD0 BD7 BE6-BFA 11FC0-11FF1 11FFF"

/-- The script `Tangsa`. -/
def tangsa : CharSet := .ofHex "16A70-16ABE 16AC0-16AC9"

/-- The script `Tangut`. -/
def tangut : CharSet := .ofHex "16FE0 17000-187F7 18800-18AFF 18D00-18D08"

/-- The script `Telugu`. -/
def telugu : CharSet := .ofHex
    "C00-C0C C0E-C10 C12-C28 C2A-C39 C3C-C44 C46-C48 C4A-C4D C55-C56 C58-C5A C5D C60-C63
    C66-C6F C77-C7F"

/-- The script `Thaana`. -/
def thaana : CharSet := .ofHex "780-7B1"

/-- The script `Thai`. -/
def thai : CharSet := .ofHex "E01-E3A E40-E5B"

/-- The script `Tibetan`. -/
def tibetan : CharSet := .ofHex "F00-F47 F49-F6C F71-F97 F99-FBC FBE-FCC FCE-FD4 FD9-FDA"

/-- The script `Tifinagh`. -/
def tifinagh : CharSet := .ofHex "2D30-2D67 2D6F-2D70 2D7F"

/-- The script `Tirhuta`. -/
def tirhuta : CharSet := .ofHex "11480-114C7 114D0-114D9"

/-- The script `Todhri`. -/
def todhri : CharSet := .ofHex "105C0-105F3"

/-- The script `Toto`. -/
def toto : CharSet := .ofHex "1E290-1E2AE"

/-- The script `Tulu_Tigalari`. -/
def tuluTigalari : CharSet := .ofHex
    "11380-11389 1138B 1138E 11390-113B5 113B7-113C0 113C2 113C5 113C7-113CA 113CC-113D5
    113D7-113D8 113E1-113E2"

/-- The script `Ugaritic`. -/
def ugaritic : CharSet := .ofHex "10380-1039D 1039F"

/-- The script `Vai`. -/
def vai : CharSet := .ofHex "A500-A62B"

/-- The script `Vithkuqi`. -/
def vithkuqi : CharSet := .ofHex
    "10570-1057A 1057C-1058A 1058C-10592 10594-10595 10597-105A1 105A3-105B1 105B3-105B9
    105BB-105BC"

/-- The script `Wancho`. -/
def wancho : CharSet := .ofHex "1E2C0-1E2F9 1E2FF"

/-- The script `Warang_Citi`. -/
def warangCiti : CharSet := .ofHex "118A0-118F2 118FF"

/-- The script `Yezidi`. -/
def yezidi : CharSet := .ofHex "10E80-10EA9 10EAB-10EAD 10EB0-10EB1"

/-- The script `Yi`. -/
def yi : CharSet := .ofHex "A000-A48C A490-A4C6"

/-- The script `Zanabazar_Square`. -/
def zanabazarSquare : CharSet := .ofHex "11A00-11A47"

/-- Every script that has characters. -/
def table : List Script := [
  ⟨["Adlam", "Adlm"], adlam⟩,
  ⟨["Ahom"], ahom⟩,
  ⟨["Anatolian_Hieroglyphs", "Hluw"], anatolianHieroglyphs⟩,
  ⟨["Arabic", "Arab"], arabic⟩,
  ⟨["Armenian", "Armn"], armenian⟩,
  ⟨["Avestan", "Avst"], avestan⟩,
  ⟨["Balinese", "Bali"], balinese⟩,
  ⟨["Bamum", "Bamu"], bamum⟩,
  ⟨["Bassa_Vah", "Bass"], bassaVah⟩,
  ⟨["Batak", "Batk"], batak⟩,
  ⟨["Bengali", "Beng"], bengali⟩,
  ⟨["Bhaiksuki", "Bhks"], bhaiksuki⟩,
  ⟨["Bopomofo", "Bopo"], bopomofo⟩,
  ⟨["Brahmi", "Brah"], brahmi⟩,
  ⟨["Braille", "Brai"], braille⟩,
  ⟨["Buginese", "Bugi"], buginese⟩,
  ⟨["Buhid", "Buhd"], buhid⟩,
  ⟨["Canadian_Aboriginal", "Cans"], canadianAboriginal⟩,
  ⟨["Carian", "Cari"], carian⟩,
  ⟨["Caucasian_Albanian", "Aghb"], caucasianAlbanian⟩,
  ⟨["Chakma", "Cakm"], chakma⟩,
  ⟨["Cham"], cham⟩,
  ⟨["Cherokee", "Cher"], cherokee⟩,
  ⟨["Chorasmian", "Chrs"], chorasmian⟩,
  ⟨["Common", "Zyyy"], common⟩,
  ⟨["Coptic", "Copt", "Qaac"], coptic⟩,
  ⟨["Cuneiform", "Xsux"], cuneiform⟩,
  ⟨["Cypriot", "Cprt"], cypriot⟩,
  ⟨["Cypro_Minoan", "Cpmn"], cyproMinoan⟩,
  ⟨["Cyrillic", "Cyrl"], cyrillic⟩,
  ⟨["Deseret", "Dsrt"], deseret⟩,
  ⟨["Devanagari", "Deva"], devanagari⟩,
  ⟨["Dives_Akuru", "Diak"], divesAkuru⟩,
  ⟨["Dogra", "Dogr"], dogra⟩,
  ⟨["Duployan", "Dupl"], duployan⟩,
  ⟨["Egyptian_Hieroglyphs", "Egyp"], egyptianHieroglyphs⟩,
  ⟨["Elbasan", "Elba"], elbasan⟩,
  ⟨["Elymaic", "Elym"], elymaic⟩,
  ⟨["Ethiopic", "Ethi"], ethiopic⟩,
  ⟨["Garay", "Gara"], garay⟩,
  ⟨["Georgian", "Geor"], georgian⟩,
  ⟨["Glagolitic", "Glag"], glagolitic⟩,
  ⟨["Gothic", "Goth"], gothic⟩,
  ⟨["Grantha", "Gran"], grantha⟩,
  ⟨["Greek", "Grek"], greek⟩,
  ⟨["Gujarati", "Gujr"], gujarati⟩,
  ⟨["Gunjala_Gondi", "Gong"], gunjalaGondi⟩,
  ⟨["Gurmukhi", "Guru"], gurmukhi⟩,
  ⟨["Gurung_Khema", "Gukh"], gurungKhema⟩,
  ⟨["Han", "Hani"], han⟩,
  ⟨["Hangul", "Hang"], hangul⟩,
  ⟨["Hanifi_Rohingya", "Rohg"], hanifiRohingya⟩,
  ⟨["Hanunoo", "Hano"], hanunoo⟩,
  ⟨["Hatran", "Hatr"], hatran⟩,
  ⟨["Hebrew", "Hebr"], hebrew⟩,
  ⟨["Hiragana", "Hira"], hiragana⟩,
  ⟨["Imperial_Aramaic", "Armi"], imperialAramaic⟩,
  ⟨["Inherited", "Zinh", "Qaai"], inherited⟩,
  ⟨["Inscriptional_Pahlavi", "Phli"], inscriptionalPahlavi⟩,
  ⟨["Inscriptional_Parthian", "Prti"], inscriptionalParthian⟩,
  ⟨["Javanese", "Java"], javanese⟩,
  ⟨["Kaithi", "Kthi"], kaithi⟩,
  ⟨["Kannada", "Knda"], kannada⟩,
  ⟨["Katakana", "Kana"], katakana⟩,
  ⟨["Kawi"], kawi⟩,
  ⟨["Kayah_Li", "Kali"], kayahLi⟩,
  ⟨["Kharoshthi", "Khar"], kharoshthi⟩,
  ⟨["Khitan_Small_Script", "Kits"], khitanSmallScript⟩,
  ⟨["Khmer", "Khmr"], khmer⟩,
  ⟨["Khojki", "Khoj"], khojki⟩,
  ⟨["Khudawadi", "Sind"], khudawadi⟩,
  ⟨["Kirat_Rai", "Krai"], kiratRai⟩,
  ⟨["Lao", "Laoo"], lao⟩,
  ⟨["Latin", "Latn"], latin⟩,
  ⟨["Lepcha", "Lepc"], lepcha⟩,
  ⟨["Limbu", "Limb"], limbu⟩,
  ⟨["Linear_A", "Lina"], linearA⟩,
  ⟨["Linear_B", "Linb"], linearB⟩,
  ⟨["Lisu"], lisu⟩,
  ⟨["Lycian", "Lyci"], lycian⟩,
  ⟨["Lydian", "Lydi"], lydian⟩,
  ⟨["Mahajani", "Mahj"], mahajani⟩,
  ⟨["Makasar", "Maka"], makasar⟩,
  ⟨["Malayalam", "Mlym"], malayalam⟩,
  ⟨["Mandaic", "Mand"], mandaic⟩,
  ⟨["Manichaean", "Mani"], manichaean⟩,
  ⟨["Marchen", "Marc"], marchen⟩,
  ⟨["Masaram_Gondi", "Gonm"], masaramGondi⟩,
  ⟨["Medefaidrin", "Medf"], medefaidrin⟩,
  ⟨["Meetei_Mayek", "Mtei"], meeteiMayek⟩,
  ⟨["Mende_Kikakui", "Mend"], mendeKikakui⟩,
  ⟨["Meroitic_Cursive", "Merc"], meroiticCursive⟩,
  ⟨["Meroitic_Hieroglyphs", "Mero"], meroiticHieroglyphs⟩,
  ⟨["Miao", "Plrd"], miao⟩,
  ⟨["Modi"], modi⟩,
  ⟨["Mongolian", "Mong"], mongolian⟩,
  ⟨["Mro", "Mroo"], mro⟩,
  ⟨["Multani", "Mult"], multani⟩,
  ⟨["Myanmar", "Mymr"], myanmar⟩,
  ⟨["Nabataean", "Nbat"], nabataean⟩,
  ⟨["Nag_Mundari", "Nagm"], nagMundari⟩,
  ⟨["Nandinagari", "Nand"], nandinagari⟩,
  ⟨["New_Tai_Lue", "Talu"], newTaiLue⟩,
  ⟨["Newa"], newa⟩,
  ⟨["Nko", "Nkoo"], nko⟩,
  ⟨["Nushu", "Nshu"], nushu⟩,
  ⟨["Nyiakeng_Puachue_Hmong", "Hmnp"], nyiakengPuachueHmong⟩,
  ⟨["Ogham", "Ogam"], ogham⟩,
  ⟨["Ol_Chiki", "Olck"], olChiki⟩,
  ⟨["Ol_Onal", "Onao"], olOnal⟩,
  ⟨["Old_Hungarian", "Hung"], oldHungarian⟩,
  ⟨["Old_Italic", "Ital"], oldItalic⟩,
  ⟨["Old_North_Arabian", "Narb"], oldNorthArabian⟩,
  ⟨["Old_Permic", "Perm"], oldPermic⟩,
  ⟨["Old_Persian", "Xpeo"], oldPersian⟩,
  ⟨["Old_Sogdian", "Sogo"], oldSogdian⟩,
  ⟨["Old_South_Arabian", "Sarb"], oldSouthArabian⟩,
  ⟨["Old_Turkic", "Orkh"], oldTurkic⟩,
  ⟨["Old_Uyghur", "Ougr"], oldUyghur⟩,
  ⟨["Oriya", "Orya"], oriya⟩,
  ⟨["Osage", "Osge"], osage⟩,
  ⟨["Osmanya", "Osma"], osmanya⟩,
  ⟨["Pahawh_Hmong", "Hmng"], pahawhHmong⟩,
  ⟨["Palmyrene", "Palm"], palmyrene⟩,
  ⟨["Pau_Cin_Hau", "Pauc"], pauCinHau⟩,
  ⟨["Phags_Pa", "Phag"], phagsPa⟩,
  ⟨["Phoenician", "Phnx"], phoenician⟩,
  ⟨["Psalter_Pahlavi", "Phlp"], psalterPahlavi⟩,
  ⟨["Rejang", "Rjng"], rejang⟩,
  ⟨["Runic", "Runr"], runic⟩,
  ⟨["Samaritan", "Samr"], samaritan⟩,
  ⟨["Saurashtra", "Saur"], saurashtra⟩,
  ⟨["Sharada", "Shrd"], sharada⟩,
  ⟨["Shavian", "Shaw"], shavian⟩,
  ⟨["Siddham", "Sidd"], siddham⟩,
  ⟨["SignWriting", "Sgnw"], signWriting⟩,
  ⟨["Sinhala", "Sinh"], sinhala⟩,
  ⟨["Sogdian", "Sogd"], sogdian⟩,
  ⟨["Sora_Sompeng", "Sora"], soraSompeng⟩,
  ⟨["Soyombo", "Soyo"], soyombo⟩,
  ⟨["Sundanese", "Sund"], sundanese⟩,
  ⟨["Sunuwar", "Sunu"], sunuwar⟩,
  ⟨["Syloti_Nagri", "Sylo"], sylotiNagri⟩,
  ⟨["Syriac", "Syrc"], syriac⟩,
  ⟨["Tagalog", "Tglg"], tagalog⟩,
  ⟨["Tagbanwa", "Tagb"], tagbanwa⟩,
  ⟨["Tai_Le", "Tale"], taiLe⟩,
  ⟨["Tai_Tham", "Lana"], taiTham⟩,
  ⟨["Tai_Viet", "Tavt"], taiViet⟩,
  ⟨["Takri", "Takr"], takri⟩,
  ⟨["Tamil", "Taml"], tamil⟩,
  ⟨["Tangsa", "Tnsa"], tangsa⟩,
  ⟨["Tangut", "Tang"], tangut⟩,
  ⟨["Telugu", "Telu"], telugu⟩,
  ⟨["Thaana", "Thaa"], thaana⟩,
  ⟨["Thai"], thai⟩,
  ⟨["Tibetan", "Tibt"], tibetan⟩,
  ⟨["Tifinagh", "Tfng"], tifinagh⟩,
  ⟨["Tirhuta", "Tirh"], tirhuta⟩,
  ⟨["Todhri", "Todr"], todhri⟩,
  ⟨["Toto"], toto⟩,
  ⟨["Tulu_Tigalari", "Tutg"], tuluTigalari⟩,
  ⟨["Ugaritic", "Ugar"], ugaritic⟩,
  ⟨["Vai", "Vaii"], vai⟩,
  ⟨["Vithkuqi", "Vith"], vithkuqi⟩,
  ⟨["Wancho", "Wcho"], wancho⟩,
  ⟨["Warang_Citi", "Wara"], warangCiti⟩,
  ⟨["Yezidi", "Yezi"], yezidi⟩,
  ⟨["Yi", "Yiii"], yi⟩,
  ⟨["Zanabazar_Square", "Zanb"], zanabazarSquare⟩]

end Script

/-- How the characters used with a script differ from its own: some more, and some not. -/
structure ScriptExtension where
  script : String
  added : CharSet
  removed : CharSet

namespace ScriptExtension

/-- Characters of other scripts used with `Adlam`. -/
def adlamAdded : CharSet := .ofHex "61F 640 204F 2E41"

/-- Characters of other scripts used with `Arabic`. -/
def arabicAdded : CharSet := .ofHex "60C 61B 61F 640 64B-655 670 204F 2E41 FD3E-FD3F 102E0-102FB"

/-- Characters of other scripts used with `Armenian`. -/
def armenianAdded : CharSet := .ofHex "308"

/-- Characters of other scripts used with `Avestan`. -/
def avestanAdded : CharSet := .ofHex "B7 2E30-2E31"

/-- Characters of other scripts used with `Bengali`. -/
def bengaliAdded : CharSet := .ofHex
    "2BC 951-952 964-965 1CD0 1CD2 1CD5-1CD6 1CD8 1CE1 1CEA 1CED 1CF2 1CF5-1CF7 A8F1"

/-- Characters of other scripts used with `Bopomofo`. -/
def bopomofoAdded : CharSet := .ofHex
    "2C7 2C9-2CB 2D9 3001-3003 3008-3011 3013-301F 302A-302D 3030 3037 30FB FE45-FE46
    FF61-FF65"

/-- Characters of other scripts used with `Buginese`. -/
def bugineseAdded : CharSet := .ofHex "A9CF"

/-- Characters of other scripts used with `Buhid`. -/
def buhidAdded : CharSet := .ofHex "1735-1736"

/-- Characters of other scripts used with `Carian`. -/
def carianAdded : CharSet := .ofHex "B7 205A 205D 2E31"

/-- Characters of other scripts used with `Caucasian_Albanian`. -/
def caucasianAlbanianAdded : CharSet := .ofHex "304 331 35E"

/-- Characters of other scripts used with `Chakma`. -/
def chakmaAdded : CharSet := .ofHex "9E6-9EF 1040-1049"

/-- Characters of other scripts used with `Cherokee`. -/
def cherokeeAdded : CharSet := .ofHex "300-302 304 30B-30C 323-324 330-331"

/-- Characters of `Common` whose use is known. -/
def commonRemoved : CharSet := .ofHex
    "B7 2BC 2C7 2C9-2CB 2CD 2D7 2D9 374 60C 61B 61F 640 964-965 10FB 16EB-16ED 1735-1736
    1802-1803 1805 1CD3 1CE1 1CE9-1CEC 1CEE-1CF3 1CF5-1CF7 1CFA 202F 204F 205A 205D 2E17
    2E30-2E31 2E3C 2E41 2E43 2FF0-2FFF 3001-3003 3006 3008-3011 3013-301F 3030-3035 3037
    303C-303F 309B-309C 30A0 30FB-30FC 3190-319F 31C0-31E5 31EF 3220-3247 3280-32B0 32C0-32CB
    32FF 3358-3370 337B-337F 33E0-33FE A700-A707 A830-A839 A92E A9CF FD3E-FD3F FE45-FE46
    FF61-FF65 FF70 FF9E-FF9F 10100-10102 10107-10133 10137-1013F 102E1-102FB 1BCA0-1BCA3
    1D360-1D371 1F250-1F251"

/-- Characters of other scripts used with `Coptic`. -/
def copticAdded : CharSet := .ofHex "B7 300 304-305 307 374-375 2E17 102E0-102FB"

/-- Characters of other scripts used with `Cypriot`. -/
def cypriotAdded : CharSet := .ofHex "10100-10102 10107-10133 10137-1013F"

/-- Characters of other scripts used with `Cypro_Minoan`. -/
def cyproMinoanAdded : CharSet := .ofHex "10100-10101"

/-- Characters of other scripts used with `Cyrillic`. -/
def cyrillicAdded : CharSet := .ofHex "2BC 300-302 304 306 308 30B 311 485-486 1DF8 2E43"

/-- Characters of other scripts used with `Devanagari`. -/
def devanagariAdded : CharSet := .ofHex "2BC 951-952 964-965 1CD0-1CF6 1CF8-1CF9 20F0 A830-A839"

/-- Characters of other scripts used with `Dogra`. -/
def dograAdded : CharSet := .ofHex "964-96F A830-A839"

/-- Characters of other scripts used with `Duployan`. -/
def duployanAdded : CharSet := .ofHex "B7 307-308 30A 323-324 2E3C 1BCA0-1BCA3"

/-- Characters of other scripts used with `Elbasan`. -/
def elbasanAdded : CharSet := .ofHex "B7 305"

/-- Characters of other scripts used with `Ethiopic`. -/
def ethiopicAdded : CharSet := .ofHex "30E"

/-- Characters of other scripts used with `Garay`. -/
def garayAdded : CharSet := .ofHex "60C 61B 61F"

/-- Characters of other scripts used with `Georgian`. -/
def georgianAdded : CharSet := .ofHex "B7 589 10FB 205A 2E31"

/-- Characters of other scripts used with `Glagolitic`. -/
def glagoliticAdded : CharSet := .ofHex "B7 303 305 484 487 589 10FB 205A 2E43 A66F"

/-- Characters of other scripts used with `Gothic`. -/
def gothicAdded : CharSet := .ofHex "B7 304-305 308 331"

/-- Characters of other scripts used with `Grantha`. -/
def granthaAdded : CharSet := .ofHex
    "951-952 964-965 BE6-BF3 1CD0 1CD2-1CD3 1CF2-1CF4 1CF8-1CF9 20F0 1133B 11FD0-11FD1 11FD3"

/-- Characters of other scripts used with `Greek`. -/
def greekAdded : CharSet := .ofHex "B7 300-301 304 306 308 313 342 345 374 1DC0-1DC1 205D"

/-- Characters of other scripts used with `Gujarati`. -/
def gujaratiAdded : CharSet := .ofHex "951-952 964-965 A830-A839"

/-- Characters of other scripts used with `Gunjala_Gondi`. -/
def gunjalaGondiAdded : CharSet := .ofHex "B7 964-965"

/-- Characters of other scripts used with `Gurmukhi`. -/
def gurmukhiAdded : CharSet := .ofHex "951-952 964-965 A830-A839"

/-- Characters of other scripts used with `Gurung_Khema`. -/
def gurungKhemaAdded : CharSet := .ofHex "965"

/-- Characters of other scripts used with `Han`. -/
def hanAdded : CharSet := .ofHex
    "B7 2FF0-2FFF 3001-3003 3006 3008-3011 3013-301F 302A-302D 3030 3037 303C-303F 30FB
    3190-319F 31C0-31E5 31EF 3220-3247 3280-32B0 32C0-32CB 32FF 3358-3370 337B-337F 33E0-33FE
    A700-A707 FE45-FE46 FF61-FF65 1D360-1D371 1F250-1F251"

/-- Characters of other scripts used with `Hangul`. -/
def hangulAdded : CharSet := .ofHex
    "3001-3003 3008-3011 3013-301F 3030 3037 30FB FE45-FE46 FF61-FF65"

/-- Characters of other scripts used with `Hanifi_Rohingya`. -/
def hanifiRohingyaAdded : CharSet := .ofHex "60C 61B 61F 640 6D4"

/-- Characters of other scripts used with `Hanunoo`. -/
def hanunooAdded : CharSet := .ofHex "1735-1736"

/-- Characters of other scripts used with `Hebrew`. -/
def hebrewAdded : CharSet := .ofHex "307-308"

/-- Characters of other scripts used with `Hiragana`. -/
def hiraganaAdded : CharSet := .ofHex
    "3001-3003 3008-3011 3013-301F 3030-3035 3037 303C-303D 3099-309C 30A0 30FB-30FC FE45-FE46
    FF61-FF65 FF70 FF9E-FF9F"

/-- Characters of `Inherited` whose use is known. -/
def inheritedRemoved : CharSet := .ofHex
    "300-30E 310-311 313 320 323-325 32D-32E 330-331 342 345 358 35E 363-36F 485-486 64B-655
    670 951-952 1CD0-1CD2 1CD4-1CE0 1CE2-1CE8 1CED 1CF4 1CF8-1CF9 1DC0-1DC1 1DF8 1DFA 20F0
    302A-302D 3099-309A 102E0 1133B"

/-- Characters of other scripts used with `Javanese`. -/
def javaneseAdded : CharSet := .ofHex "A9CF"

/-- Characters of other scripts used with `Kaithi`. -/
def kaithiAdded : CharSet := .ofHex "966-96F 2E31 A830-A839"

/-- Characters of other scripts used with `Kannada`. -/
def kannadaAdded : CharSet := .ofHex "951-952 964-965 1CD0 1CD2-1CD3 1CDA 1CF2 1CF4 A830-A835"

/-- Characters of other scripts used with `Katakana`. -/
def katakanaAdded : CharSet := .ofHex
    "305 323 3001-3003 3008-3011 3013-301F 3030-3035 3037 303C-303D 3099-309C 30A0 30FB-30FC
    FE45-FE46 FF61-FF65 FF70 FF9E-FF9F"

/-- Characters of other scripts used with `Kayah_Li`. -/
def kayahLiAdded : CharSet := .ofHex "A92E"

/-- Characters of other scripts used with `Khojki`. -/
def khojkiAdded : CharSet := .ofHex "AE6-AEF A830-A839"

/-- Characters of other scripts used with `Khudawadi`. -/
def khudawadiAdded : CharSet := .ofHex "964-965 A830-A839"

/-- Characters of other scripts used with `Latin`. -/
def latinAdded : CharSet := .ofHex
    "B7 2BC 2C7 2C9-2CB 2CD 2D7 2D9 300-30E 310-311 313 320 323-325 32D-32E 330-331 358 35E
    363-36F 485-486 951-952 10FB 1DF8 202F 20F0 2E17 A700-A707 A92E"

/-- Characters of other scripts used with `Limbu`. -/
def limbuAdded : CharSet := .ofHex "965"

/-- Characters of other scripts used with `Linear_A`. -/
def linearAAdded : CharSet := .ofHex "10107-10133"

/-- Characters of other scripts used with `Linear_B`. -/
def linearBAdded : CharSet := .ofHex "10100-10102 10107-10133 10137-1013F"

/-- Characters of other scripts used with `Lisu`. -/
def lisuAdded : CharSet := .ofHex "2BC 2CD 300A-300B"

/-- Characters of other scripts used with `Lycian`. -/
def lycianAdded : CharSet := .ofHex "205A"

/-- Characters of other scripts used with `Lydian`. -/
def lydianAdded : CharSet := .ofHex "B7 2E31"

/-- Characters of other scripts used with `Mahajani`. -/
def mahajaniAdded : CharSet := .ofHex "B7 964-96F A830-A839"

/-- Characters of other scripts used with `Malayalam`. -/
def malayalamAdded : CharSet := .ofHex "951-952 964-965 1CDA 1CF2 A830-A832"

/-- Characters of other scripts used with `Mandaic`. -/
def mandaicAdded : CharSet := .ofHex "640"

/-- Characters of other scripts used with `Manichaean`. -/
def manichaeanAdded : CharSet := .ofHex "640"

/-- Characters of other scripts used with `Masaram_Gondi`. -/
def masaramGondiAdded : CharSet := .ofHex "964-965"

/-- Characters of other scripts used with `Meroitic_Hieroglyphs`. -/
def meroiticHieroglyphsAdded : CharSet := .ofHex "205D"

/-- Characters of other scripts used with `Modi`. -/
def modiAdded : CharSet := .ofHex "A830-A839"

/-- Characters of other scripts used with `Mongolian`. -/
def mongolianAdded : CharSet := .ofHex "1802-1803 1805 202F 3001-3002 3008-300B"

/-- Characters of other scripts used with `Multani`. -/
def multaniAdded : CharSet := .ofHex "A66-A6F"

/-- Characters of other scripts used with `Myanmar`. -/
def myanmarAdded : CharSet := .ofHex "A92E"

/-- Characters of other scripts used with `Nandinagari`. -/
def nandinagariAdded : CharSet := .ofHex "964-965 CE6-CEF 1CE9 1CF2 1CFA A830-A835"

/-- Characters of other scripts used with `Nko`. -/
def nkoAdded : CharSet := .ofHex "60C 61B 61F FD3E-FD3F"

/-- Characters of other scripts used with `Ol_Onal`. -/
def olOnalAdded : CharSet := .ofHex "964-965"

/-- Characters of other scripts used with `Old_Hungarian`. -/
def oldHungarianAdded : CharSet := .ofHex "205A 205D 2E31 2E41"

/-- Characters of other scripts used with `Old_Permic`. -/
def oldPermicAdded : CharSet := .ofHex "B7 300 306-308 313 483"

/-- Characters of other scripts used with `Old_Turkic`. -/
def oldTurkicAdded : CharSet := .ofHex "205A 2E30"

/-- Characters of other scripts used with `Old_Uyghur`. -/
def oldUyghurAdded : CharSet := .ofHex "640 10AF2"

/-- Characters of other scripts used with `Oriya`. -/
def oriyaAdded : CharSet := .ofHex "951-952 964-965 1CDA 1CF2"

/-- Characters of other scripts used with `Osage`. -/
def osageAdded : CharSet := .ofHex "301 304 30B 358"

/-- Characters of other scripts used with `Phags_Pa`. -/
def phagsPaAdded : CharSet := .ofHex "1802-1803 1805 202F 3002"

/-- Characters of other scripts used with `Psalter_Pahlavi`. -/
def psalterPahlaviAdded : CharSet := .ofHex "640"

/-- Characters of other scripts used with `Runic`. -/
def runicAdded : CharSet := .ofHex "16EB-16ED"

/-- Characters of other scripts used with `Samaritan`. -/
def samaritanAdded : CharSet := .ofHex "2E31"

/-- Characters of other scripts used with `Sharada`. -/
def sharadaAdded : CharSet := .ofHex "951 1CD7 1CD9 1CDC-1CDD 1CE0 A830-A835 A838"

/-- Characters of other scripts used with `Shavian`. -/
def shavianAdded : CharSet := .ofHex "B7"

/-- Characters of other scripts used with `Sinhala`. -/
def sinhalaAdded : CharSet := .ofHex "964-965 1CF2"

/-- Characters of other scripts used with `Sogdian`. -/
def sogdianAdded : CharSet := .ofHex "640"

/-- Characters of other scripts used with `Sunuwar`. -/
def sunuwarAdded : CharSet := .ofHex "300-301 303 30D 310 32D 331"

/-- Characters of other scripts used with `Syloti_Nagri`. -/
def sylotiNagriAdded : CharSet := .ofHex "964-965 9E6-9EF"

/-- Characters of other scripts used with `Syriac`. -/
def syriacAdded : CharSet := .ofHex
    "303-304 307-308 30A 320 323-325 32D-32E 330 60C 61B-61C 61F 640 64B-655 670 1DF8 1DFA"

/-- Characters of other scripts used with `Tagalog`. -/
def tagalogAdded : CharSet := .ofHex "1735-1736"

/-- Characters of other scripts used with `Tagbanwa`. -/
def tagbanwaAdded : CharSet := .ofHex "1735-1736"

/-- Characters of other scripts used with `Tai_Le`. -/
def taiLeAdded : CharSet := .ofHex "300-301 307-308 30C 1040-1049"

/-- Characters of other scripts used with `Takri`. -/
def takriAdded : CharSet := .ofHex "964-965 A830-A839"

/-- Characters of other scripts used with `Tamil`. -/
def tamilAdded : CharSet := .ofHex "951-952 964-965 1CDA A8F3 11301 11303 1133B-1133C"

/-- Characters of other scripts used with `Tangut`. -/
def tangutAdded : CharSet := .ofHex "2FF0-2FFF 31EF"

/-- Characters of other scripts used with `Telugu`. -/
def teluguAdded : CharSet := .ofHex "951-952 964-965 1CDA 1CF2"

/-- Characters of other scripts used with `Thaana`. -/
def thaanaAdded : CharSet := .ofHex "60C 61B-61C 61F 660-669 FDF2 FDFD"

/-- Characters of other scripts used with `Thai`. -/
def thaiAdded : CharSet := .ofHex "2BC 2D7 303 331"

/-- Characters of other scripts used with `Tibetan`. -/
def tibetanAdded : CharSet := .ofHex "3008-300B"

/-- Characters of other scripts used with `Tifinagh`. -/
def tifinaghAdded : CharSet := .ofHex "302 304 307 309"

/-- Characters of other scripts used with `Tirhuta`. -/
def tirhutaAdded : CharSet := .ofHex "951-952 964-965 1CF2 A830-A839"

/-- Characters of other scripts used with `Todhri`. -/
def todhriAdded : CharSet := .ofHex "301 304 307 311 313 35E"

/-- Characters of other scripts used with `Toto`. -/
def totoAdded : CharSet := .ofHex "2BC"

/-- Characters of other scripts used with `Tulu_Tigalari`. -/
def tuluTigalariAdded : CharSet := .ofHex "CE6-CEF 1CF2 1CF4 A830-A835 A8F1"

/-- Characters of other scripts used with `Yezidi`. -/
def yezidiAdded : CharSet := .ofHex "60C 61B 61F 660-669"

/-- Characters of other scripts used with `Yi`. -/
def yiAdded : CharSet := .ofHex "3001-3002 3008-3011 3014-301B 30FB FF61-FF65"

/-- Every script whose characters and uses differ. -/
def table : List ScriptExtension := [
  ⟨"Adlam", adlamAdded, .empty⟩,
  ⟨"Arabic", arabicAdded, .empty⟩,
  ⟨"Armenian", armenianAdded, .empty⟩,
  ⟨"Avestan", avestanAdded, .empty⟩,
  ⟨"Bengali", bengaliAdded, .empty⟩,
  ⟨"Bopomofo", bopomofoAdded, .empty⟩,
  ⟨"Buginese", bugineseAdded, .empty⟩,
  ⟨"Buhid", buhidAdded, .empty⟩,
  ⟨"Carian", carianAdded, .empty⟩,
  ⟨"Caucasian_Albanian", caucasianAlbanianAdded, .empty⟩,
  ⟨"Chakma", chakmaAdded, .empty⟩,
  ⟨"Cherokee", cherokeeAdded, .empty⟩,
  ⟨"Common", .empty, commonRemoved⟩,
  ⟨"Coptic", copticAdded, .empty⟩,
  ⟨"Cypriot", cypriotAdded, .empty⟩,
  ⟨"Cypro_Minoan", cyproMinoanAdded, .empty⟩,
  ⟨"Cyrillic", cyrillicAdded, .empty⟩,
  ⟨"Devanagari", devanagariAdded, .empty⟩,
  ⟨"Dogra", dograAdded, .empty⟩,
  ⟨"Duployan", duployanAdded, .empty⟩,
  ⟨"Elbasan", elbasanAdded, .empty⟩,
  ⟨"Ethiopic", ethiopicAdded, .empty⟩,
  ⟨"Garay", garayAdded, .empty⟩,
  ⟨"Georgian", georgianAdded, .empty⟩,
  ⟨"Glagolitic", glagoliticAdded, .empty⟩,
  ⟨"Gothic", gothicAdded, .empty⟩,
  ⟨"Grantha", granthaAdded, .empty⟩,
  ⟨"Greek", greekAdded, .empty⟩,
  ⟨"Gujarati", gujaratiAdded, .empty⟩,
  ⟨"Gunjala_Gondi", gunjalaGondiAdded, .empty⟩,
  ⟨"Gurmukhi", gurmukhiAdded, .empty⟩,
  ⟨"Gurung_Khema", gurungKhemaAdded, .empty⟩,
  ⟨"Han", hanAdded, .empty⟩,
  ⟨"Hangul", hangulAdded, .empty⟩,
  ⟨"Hanifi_Rohingya", hanifiRohingyaAdded, .empty⟩,
  ⟨"Hanunoo", hanunooAdded, .empty⟩,
  ⟨"Hebrew", hebrewAdded, .empty⟩,
  ⟨"Hiragana", hiraganaAdded, .empty⟩,
  ⟨"Inherited", .empty, inheritedRemoved⟩,
  ⟨"Javanese", javaneseAdded, .empty⟩,
  ⟨"Kaithi", kaithiAdded, .empty⟩,
  ⟨"Kannada", kannadaAdded, .empty⟩,
  ⟨"Katakana", katakanaAdded, .empty⟩,
  ⟨"Kayah_Li", kayahLiAdded, .empty⟩,
  ⟨"Khojki", khojkiAdded, .empty⟩,
  ⟨"Khudawadi", khudawadiAdded, .empty⟩,
  ⟨"Latin", latinAdded, .empty⟩,
  ⟨"Limbu", limbuAdded, .empty⟩,
  ⟨"Linear_A", linearAAdded, .empty⟩,
  ⟨"Linear_B", linearBAdded, .empty⟩,
  ⟨"Lisu", lisuAdded, .empty⟩,
  ⟨"Lycian", lycianAdded, .empty⟩,
  ⟨"Lydian", lydianAdded, .empty⟩,
  ⟨"Mahajani", mahajaniAdded, .empty⟩,
  ⟨"Malayalam", malayalamAdded, .empty⟩,
  ⟨"Mandaic", mandaicAdded, .empty⟩,
  ⟨"Manichaean", manichaeanAdded, .empty⟩,
  ⟨"Masaram_Gondi", masaramGondiAdded, .empty⟩,
  ⟨"Meroitic_Hieroglyphs", meroiticHieroglyphsAdded, .empty⟩,
  ⟨"Modi", modiAdded, .empty⟩,
  ⟨"Mongolian", mongolianAdded, .empty⟩,
  ⟨"Multani", multaniAdded, .empty⟩,
  ⟨"Myanmar", myanmarAdded, .empty⟩,
  ⟨"Nandinagari", nandinagariAdded, .empty⟩,
  ⟨"Nko", nkoAdded, .empty⟩,
  ⟨"Ol_Onal", olOnalAdded, .empty⟩,
  ⟨"Old_Hungarian", oldHungarianAdded, .empty⟩,
  ⟨"Old_Permic", oldPermicAdded, .empty⟩,
  ⟨"Old_Turkic", oldTurkicAdded, .empty⟩,
  ⟨"Old_Uyghur", oldUyghurAdded, .empty⟩,
  ⟨"Oriya", oriyaAdded, .empty⟩,
  ⟨"Osage", osageAdded, .empty⟩,
  ⟨"Phags_Pa", phagsPaAdded, .empty⟩,
  ⟨"Psalter_Pahlavi", psalterPahlaviAdded, .empty⟩,
  ⟨"Runic", runicAdded, .empty⟩,
  ⟨"Samaritan", samaritanAdded, .empty⟩,
  ⟨"Sharada", sharadaAdded, .empty⟩,
  ⟨"Shavian", shavianAdded, .empty⟩,
  ⟨"Sinhala", sinhalaAdded, .empty⟩,
  ⟨"Sogdian", sogdianAdded, .empty⟩,
  ⟨"Sunuwar", sunuwarAdded, .empty⟩,
  ⟨"Syloti_Nagri", sylotiNagriAdded, .empty⟩,
  ⟨"Syriac", syriacAdded, .empty⟩,
  ⟨"Tagalog", tagalogAdded, .empty⟩,
  ⟨"Tagbanwa", tagbanwaAdded, .empty⟩,
  ⟨"Tai_Le", taiLeAdded, .empty⟩,
  ⟨"Takri", takriAdded, .empty⟩,
  ⟨"Tamil", tamilAdded, .empty⟩,
  ⟨"Tangut", tangutAdded, .empty⟩,
  ⟨"Telugu", teluguAdded, .empty⟩,
  ⟨"Thaana", thaanaAdded, .empty⟩,
  ⟨"Thai", thaiAdded, .empty⟩,
  ⟨"Tibetan", tibetanAdded, .empty⟩,
  ⟨"Tifinagh", tifinaghAdded, .empty⟩,
  ⟨"Tirhuta", tirhutaAdded, .empty⟩,
  ⟨"Todhri", todhriAdded, .empty⟩,
  ⟨"Toto", totoAdded, .empty⟩,
  ⟨"Tulu_Tigalari", tuluTigalariAdded, .empty⟩,
  ⟨"Yezidi", yezidiAdded, .empty⟩,
  ⟨"Yi", yiAdded, .empty⟩]

end ScriptExtension

end SchemaFilter
