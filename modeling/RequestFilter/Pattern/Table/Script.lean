/-!
The values of the property Script.
-/

set_option autoImplicit false

namespace RequestFilter.Pattern.Table

/-- Names of a script without case and marks, and its code points. -/
def script : List (List String × List String) := [
  (["adlam", "adlm"],
    ["1E900-1E94B 1E950-1E959 1E95E-1E95F"]),
  (["ahom"],
    ["11700-1171A 1171D-1172B 11730-11746"]),
  (["anatolianhieroglyphs", "hluw"],
    ["14400-14646"]),
  (["arabic", "arab"],
    ["600-604 606-60B 60D-61A 61C-61E 620-63F 641-64A 656-66F 671-6DC 6DE-6FF 750-77F 870-891",
     "897-8E1 8E3-8FF FB50-FD3D FD40-FDCF FDF0-FDFF FE70-FE74 FE76-FEFC 10E60-10E7E 10EC2-10EC7",
     "10ED0-10ED8 10EFA-10EFF 1EE00-1EE03 1EE05-1EE1F 1EE21-1EE22 1EE24 1EE27 1EE29-1EE32",
     "1EE34-1EE37 1EE39 1EE3B 1EE42 1EE47 1EE49 1EE4B 1EE4D-1EE4F 1EE51-1EE52 1EE54 1EE57 1EE59",
     "1EE5B 1EE5D 1EE5F 1EE61-1EE62 1EE64 1EE67-1EE6A 1EE6C-1EE72 1EE74-1EE77 1EE79-1EE7C 1EE7E",
     "1EE80-1EE89 1EE8B-1EE9B 1EEA1-1EEA3 1EEA5-1EEA9 1EEAB-1EEBB 1EEF0-1EEF1"]),
  (["armenian", "armn"],
    ["531-556 559-58A 58D-58F FB13-FB17"]),
  (["avestan", "avst"],
    ["10B00-10B35 10B39-10B3F"]),
  (["balinese", "bali"],
    ["1B00-1B4C 1B4E-1B7F"]),
  (["bamum", "bamu"],
    ["A6A0-A6F7 16800-16A38"]),
  (["bassavah", "bass"],
    ["16AD0-16AED 16AF0-16AF5"]),
  (["batak", "batk"],
    ["1BC0-1BF3 1BFC-1BFF"]),
  (["bengali", "beng"],
    ["980-983 985-98C 98F-990 993-9A8 9AA-9B0 9B2 9B6-9B9 9BC-9C4 9C7-9C8 9CB-9CE 9D7 9DC-9DD",
     "9DF-9E3 9E6-9FE"]),
  (["beriaerfe", "berf"],
    ["16EA0-16EB8 16EBB-16ED3"]),
  (["bhaiksuki", "bhks"],
    ["11C00-11C08 11C0A-11C36 11C38-11C45 11C50-11C6C"]),
  (["bopomofo", "bopo"],
    ["2EA-2EB 3105-312F 31A0-31BF"]),
  (["brahmi", "brah"],
    ["11000-1104D 11052-11075 1107F"]),
  (["braille", "brai"],
    ["2800-28FF"]),
  (["buginese", "bugi"],
    ["1A00-1A1B 1A1E-1A1F"]),
  (["buhid", "buhd"],
    ["1740-1753"]),
  (["canadianaboriginal", "cans"],
    ["1400-167F 18B0-18F5 11AB0-11ABF"]),
  (["carian", "cari"],
    ["102A0-102D0"]),
  (["caucasianalbanian", "aghb"],
    ["10530-10563 1056F"]),
  (["chakma", "cakm"],
    ["11100-11134 11136-11147"]),
  (["cham"],
    ["AA00-AA36 AA40-AA4D AA50-AA59 AA5C-AA5F"]),
  (["cherokee", "cher"],
    ["13A0-13F5 13F8-13FD AB70-ABBF"]),
  (["chorasmian", "chrs"],
    ["10FB0-10FCB"]),
  (["common", "zyyy"],
    ["0-40 5B-60 7B-A9 AB-B9 BB-BF D7 F7 2B9-2DF 2E5-2E9 2EC-2FF 374 37E 385 387 605 60C 61B 61F",
     "640 6DD 8E2 964-965 E3F FD5-FD8 10FB 16EB-16ED 1735-1736 1802-1803 1805 1CD3 1CE1 1CE9-1CEC",
     "1CEE-1CF3 1CF5-1CF7 1CFA 2000-200B 200E-2064 2066-2070 2074-207E 2080-208E 20A0-20C1",
     "2100-2125 2127-2129 212C-2131 2133-214D 214F-215F 2189-218B 2190-2429 2440-244A 2460-27FF",
     "2900-2B73 2B76-2BFF 2E00-2E5D 2FF0-3004 3006 3008-3020 3030-3037 303C-303F 309B-309C 30A0",
     "30FB-30FC 3190-319F 31C0-31E5 31EF 3220-325F 327F-32CF 32FF 3358-33FF 4DC0-4DFF A700-A721",
     "A788-A78A A830-A839 A92E A9CF AB5B AB6A-AB6B FD3E-FD3F FE10-FE19 FE30-FE52 FE54-FE66",
     "FE68-FE6B FEFF FF01-FF20 FF3B-FF40 FF5B-FF65 FF70 FF9E-FF9F FFE0-FFE6 FFE8-FFEE FFF9-FFFD",
     "10100-10102 10107-10133 10137-1013F 10190-1019C 101D0-101FC 102E1-102FB 1BCA0-1BCA3",
     "1CC00-1CCFC 1CD00-1CEB3 1CEBA-1CED0 1CEE0-1CEF0 1CF50-1CFC3 1D000-1D0F5 1D100-1D126",
     "1D129-1D166 1D16A-1D17A 1D183-1D184 1D18C-1D1A9 1D1AE-1D1EA 1D2C0-1D2D3 1D2E0-1D2F3",
     "1D300-1D356 1D360-1D378 1D400-1D454 1D456-1D49C 1D49E-1D49F 1D4A2 1D4A5-1D4A6 1D4A9-1D4AC",
     "1D4AE-1D4B9 1D4BB 1D4BD-1D4C3 1D4C5-1D505 1D507-1D50A 1D50D-1D514 1D516-1D51C 1D51E-1D539",
     "1D53B-1D53E 1D540-1D544 1D546 1D54A-1D550 1D552-1D6A5 1D6A8-1D7CB 1D7CE-1D7FF 1EC71-1ECB4",
     "1ED01-1ED3D 1F000-1F02B 1F030-1F093 1F0A0-1F0AE 1F0B1-1F0BF 1F0C1-1F0CF 1F0D1-1F0F5",
     "1F100-1F1AD 1F1E6-1F1FF 1F201-1F202 1F210-1F23B 1F240-1F248 1F250-1F251 1F260-1F265",
     "1F300-1F6D8 1F6DC-1F6EC 1F6F0-1F6FC 1F700-1F7D9 1F7E0-1F7EB 1F7F0 1F800-1F80B 1F810-1F847",
     "1F850-1F859 1F860-1F887 1F890-1F8AD 1F8B0-1F8BB 1F8C0-1F8C1 1F8D0-1F8D8 1F900-1FA57",
     "1FA60-1FA6D 1FA70-1FA7C 1FA80-1FA8A 1FA8E-1FAC6 1FAC8 1FACD-1FADC 1FADF-1FAEA 1FAEF-1FAF8",
     "1FB00-1FB92 1FB94-1FBFA E0001 E0020-E007F"]),
  (["coptic", "copt", "qaac"],
    ["3E2-3EF 2C80-2CF3 2CF9-2CFF"]),
  (["cuneiform", "xsux"],
    ["12000-12399 12400-1246E 12470-12474 12480-12543"]),
  (["cypriot", "cprt"],
    ["10800-10805 10808 1080A-10835 10837-10838 1083C 1083F"]),
  (["cyprominoan", "cpmn"],
    ["12F90-12FF2"]),
  (["cyrillic", "cyrl"],
    ["400-484 487-52F 1C80-1C8A 1D2B 1D78 2DE0-2DFF A640-A69F FE2E-FE2F 1E030-1E06D 1E08F"]),
  (["deseret", "dsrt"],
    ["10400-1044F"]),
  (["devanagari", "deva"],
    ["900-950 955-963 966-97F A8E0-A8FF 11B00-11B09"]),
  (["divesakuru", "diak"],
    ["11900-11906 11909 1190C-11913 11915-11916 11918-11935 11937-11938 1193B-11946 11950-11959"]),
  (["dogra", "dogr"],
    ["11800-1183B"]),
  (["duployan", "dupl"],
    ["1BC00-1BC6A 1BC70-1BC7C 1BC80-1BC88 1BC90-1BC99 1BC9C-1BC9F"]),
  (["egyptianhieroglyphs", "egyp"],
    ["13000-13455 13460-143FA"]),
  (["elbasan", "elba"],
    ["10500-10527"]),
  (["elymaic", "elym"],
    ["10FE0-10FF6"]),
  (["ethiopic", "ethi"],
    ["1200-1248 124A-124D 1250-1256 1258 125A-125D 1260-1288 128A-128D 1290-12B0 12B2-12B5",
     "12B8-12BE 12C0 12C2-12C5 12C8-12D6 12D8-1310 1312-1315 1318-135A 135D-137C 1380-1399",
     "2D80-2D96 2DA0-2DA6 2DA8-2DAE 2DB0-2DB6 2DB8-2DBE 2DC0-2DC6 2DC8-2DCE 2DD0-2DD6 2DD8-2DDE",
     "AB01-AB06 AB09-AB0E AB11-AB16 AB20-AB26 AB28-AB2E 1E7E0-1E7E6 1E7E8-1E7EB 1E7ED-1E7EE",
     "1E7F0-1E7FE"]),
  (["garay", "gara"],
    ["10D40-10D65 10D69-10D85 10D8E-10D8F"]),
  (["georgian", "geor"],
    ["10A0-10C5 10C7 10CD 10D0-10FA 10FC-10FF 1C90-1CBA 1CBD-1CBF 2D00-2D25 2D27 2D2D"]),
  (["glagolitic", "glag"],
    ["2C00-2C5F 1E000-1E006 1E008-1E018 1E01B-1E021 1E023-1E024 1E026-1E02A"]),
  (["gothic", "goth"],
    ["10330-1034A"]),
  (["grantha", "gran"],
    ["11300-11303 11305-1130C 1130F-11310 11313-11328 1132A-11330 11332-11333 11335-11339",
     "1133C-11344 11347-11348 1134B-1134D 11350 11357 1135D-11363 11366-1136C 11370-11374"]),
  (["greek", "grek"],
    ["370-373 375-377 37A-37D 37F 384 386 388-38A 38C 38E-3A1 3A3-3E1 3F0-3FF 1D26-1D2A 1D5D-1D61",
     "1D66-1D6A 1DBF 1F00-1F15 1F18-1F1D 1F20-1F45 1F48-1F4D 1F50-1F57 1F59 1F5B 1F5D 1F5F-1F7D",
     "1F80-1FB4 1FB6-1FC4 1FC6-1FD3 1FD6-1FDB 1FDD-1FEF 1FF2-1FF4 1FF6-1FFE 2126 AB65 10140-1018E",
     "101A0 1D200-1D245"]),
  (["gujarati", "gujr"],
    ["A81-A83 A85-A8D A8F-A91 A93-AA8 AAA-AB0 AB2-AB3 AB5-AB9 ABC-AC5 AC7-AC9 ACB-ACD AD0 AE0-AE3",
     "AE6-AF1 AF9-AFF"]),
  (["gunjalagondi", "gong"],
    ["11D60-11D65 11D67-11D68 11D6A-11D8E 11D90-11D91 11D93-11D98 11DA0-11DA9"]),
  (["gurmukhi", "guru"],
    ["A01-A03 A05-A0A A0F-A10 A13-A28 A2A-A30 A32-A33 A35-A36 A38-A39 A3C A3E-A42 A47-A48 A4B-A4D",
     "A51 A59-A5C A5E A66-A76"]),
  (["gurungkhema", "gukh"],
    ["16100-16139"]),
  (["han", "hani"],
    ["2E80-2E99 2E9B-2EF3 2F00-2FD5 3005 3007 3021-3029 3038-303B 3400-4DBF 4E00-9FFF F900-FA6D",
     "FA70-FAD9 16FE2-16FE3 16FF0-16FF6 20000-2A6DF 2A700-2B81D 2B820-2CEAD 2CEB0-2EBE0",
     "2EBF0-2EE5D 2F800-2FA1D 30000-3134A 31350-33479"]),
  (["hangul", "hang"],
    ["1100-11FF 302E-302F 3131-318E 3200-321E 3260-327E A960-A97C AC00-D7A3 D7B0-D7C6 D7CB-D7FB",
     "FFA0-FFBE FFC2-FFC7 FFCA-FFCF FFD2-FFD7 FFDA-FFDC"]),
  (["hanifirohingya", "rohg"],
    ["10D00-10D27 10D30-10D39"]),
  (["hanunoo", "hano"],
    ["1720-1734"]),
  (["hatran", "hatr"],
    ["108E0-108F2 108F4-108F5 108FB-108FF"]),
  (["hebrew", "hebr"],
    ["591-5C7 5D0-5EA 5EF-5F4 FB1D-FB36 FB38-FB3C FB3E FB40-FB41 FB43-FB44 FB46-FB4F"]),
  (["hiragana", "hira"],
    ["3041-3096 309D-309F 1B001-1B11F 1B132 1B150-1B152 1F200"]),
  (["imperialaramaic", "armi"],
    ["10840-10855 10857-1085F"]),
  (["inherited", "zinh", "qaai"],
    ["300-36F 485-486 64B-655 670 951-954 1AB0-1ADD 1AE0-1AEB 1CD0-1CD2 1CD4-1CE0 1CE2-1CE8 1CED",
     "1CF4 1CF8-1CF9 1DC0-1DFF 200C-200D 20D0-20F0 302A-302D 3099-309A FE00-FE0F FE20-FE2D 101FD",
     "102E0 1133B 1CF00-1CF2D 1CF30-1CF46 1D167-1D169 1D17B-1D182 1D185-1D18B 1D1AA-1D1AD",
     "E0100-E01EF"]),
  (["inscriptionalpahlavi", "phli"],
    ["10B60-10B72 10B78-10B7F"]),
  (["inscriptionalparthian", "prti"],
    ["10B40-10B55 10B58-10B5F"]),
  (["javanese", "java"],
    ["A980-A9CD A9D0-A9D9 A9DE-A9DF"]),
  (["kaithi", "kthi"],
    ["11080-110C2 110CD"]),
  (["kannada", "knda"],
    ["C80-C8C C8E-C90 C92-CA8 CAA-CB3 CB5-CB9 CBC-CC4 CC6-CC8 CCA-CCD CD5-CD6 CDC-CDE CE0-CE3",
     "CE6-CEF CF1-CF3"]),
  (["katakana", "kana"],
    ["30A1-30FA 30FD-30FF 31F0-31FF 32D0-32FE 3300-3357 FF66-FF6F FF71-FF9D 1AFF0-1AFF3",
     "1AFF5-1AFFB 1AFFD-1AFFE 1B000 1B120-1B122 1B155 1B164-1B167"]),
  (["kawi"],
    ["11F00-11F10 11F12-11F3A 11F3E-11F5A"]),
  (["kayahli", "kali"],
    ["A900-A92D A92F"]),
  (["kharoshthi", "khar"],
    ["10A00-10A03 10A05-10A06 10A0C-10A13 10A15-10A17 10A19-10A35 10A38-10A3A 10A3F-10A48",
     "10A50-10A58"]),
  (["khitansmallscript", "kits"],
    ["16FE4 18B00-18CD5 18CFF"]),
  (["khmer", "khmr"],
    ["1780-17DD 17E0-17E9 17F0-17F9 19E0-19FF"]),
  (["khojki", "khoj"],
    ["11200-11211 11213-11241"]),
  (["khudawadi", "sind"],
    ["112B0-112EA 112F0-112F9"]),
  (["kiratrai", "krai"],
    ["16D40-16D79"]),
  (["lao", "laoo"],
    ["E81-E82 E84 E86-E8A E8C-EA3 EA5 EA7-EBD EC0-EC4 EC6 EC8-ECE ED0-ED9 EDC-EDF"]),
  (["latin", "latn"],
    ["41-5A 61-7A AA BA C0-D6 D8-F6 F8-2B8 2E0-2E4 1D00-1D25 1D2C-1D5C 1D62-1D65 1D6B-1D77",
     "1D79-1DBE 1E00-1EFF 2071 207F 2090-209C 212A-212B 2132 214E 2160-2188 2C60-2C7F A722-A787",
     "A78B-A7DC A7F1-A7FF AB30-AB5A AB5C-AB64 AB66-AB69 FB00-FB06 FF21-FF3A FF41-FF5A 10780-10785",
     "10787-107B0 107B2-107BA 1DF00-1DF1E 1DF25-1DF2A"]),
  (["lepcha", "lepc"],
    ["1C00-1C37 1C3B-1C49 1C4D-1C4F"]),
  (["limbu", "limb"],
    ["1900-191E 1920-192B 1930-193B 1940 1944-194F"]),
  (["lineara", "lina"],
    ["10600-10736 10740-10755 10760-10767"]),
  (["linearb", "linb"],
    ["10000-1000B 1000D-10026 10028-1003A 1003C-1003D 1003F-1004D 10050-1005D 10080-100FA"]),
  (["lisu"],
    ["A4D0-A4FF 11FB0"]),
  (["lycian", "lyci"],
    ["10280-1029C"]),
  (["lydian", "lydi"],
    ["10920-10939 1093F"]),
  (["mahajani", "mahj"],
    ["11150-11176"]),
  (["makasar", "maka"],
    ["11EE0-11EF8"]),
  (["malayalam", "mlym"],
    ["D00-D0C D0E-D10 D12-D44 D46-D48 D4A-D4F D54-D63 D66-D7F"]),
  (["mandaic", "mand"],
    ["840-85B 85E"]),
  (["manichaean", "mani"],
    ["10AC0-10AE6 10AEB-10AF6"]),
  (["marchen", "marc"],
    ["11C70-11C8F 11C92-11CA7 11CA9-11CB6"]),
  (["masaramgondi", "gonm"],
    ["11D00-11D06 11D08-11D09 11D0B-11D36 11D3A 11D3C-11D3D 11D3F-11D47 11D50-11D59"]),
  (["medefaidrin", "medf"],
    ["16E40-16E9A"]),
  (["meeteimayek", "mtei"],
    ["AAE0-AAF6 ABC0-ABED ABF0-ABF9"]),
  (["mendekikakui", "mend"],
    ["1E800-1E8C4 1E8C7-1E8D6"]),
  (["meroiticcursive", "merc"],
    ["109A0-109B7 109BC-109CF 109D2-109FF"]),
  (["meroitichieroglyphs", "mero"],
    ["10980-1099F"]),
  (["miao", "plrd"],
    ["16F00-16F4A 16F4F-16F87 16F8F-16F9F"]),
  (["modi"],
    ["11600-11644 11650-11659"]),
  (["mongolian", "mong"],
    ["1800-1801 1804 1806-1819 1820-1878 1880-18AA 11660-1166C"]),
  (["mro", "mroo"],
    ["16A40-16A5E 16A60-16A69 16A6E-16A6F"]),
  (["multani", "mult"],
    ["11280-11286 11288 1128A-1128D 1128F-1129D 1129F-112A9"]),
  (["myanmar", "mymr"],
    ["1000-109F A9E0-A9FE AA60-AA7F 116D0-116E3"]),
  (["nabataean", "nbat"],
    ["10880-1089E 108A7-108AF"]),
  (["nagmundari", "nagm"],
    ["1E4D0-1E4F9"]),
  (["nandinagari", "nand"],
    ["119A0-119A7 119AA-119D7 119DA-119E4"]),
  (["newtailue", "talu"],
    ["1980-19AB 19B0-19C9 19D0-19DA 19DE-19DF"]),
  (["newa"],
    ["11400-1145B 1145D-11461"]),
  (["nko", "nkoo"],
    ["7C0-7FA 7FD-7FF"]),
  (["nushu", "nshu"],
    ["16FE1 1B170-1B2FB"]),
  (["nyiakengpuachuehmong", "hmnp"],
    ["1E100-1E12C 1E130-1E13D 1E140-1E149 1E14E-1E14F"]),
  (["ogham", "ogam"],
    ["1680-169C"]),
  (["olchiki", "olck"],
    ["1C50-1C7F"]),
  (["olonal", "onao"],
    ["1E5D0-1E5FA 1E5FF"]),
  (["oldhungarian", "hung"],
    ["10C80-10CB2 10CC0-10CF2 10CFA-10CFF"]),
  (["olditalic", "ital"],
    ["10300-10323 1032D-1032F"]),
  (["oldnortharabian", "narb"],
    ["10A80-10A9F"]),
  (["oldpermic", "perm"],
    ["10350-1037A"]),
  (["oldpersian", "xpeo"],
    ["103A0-103C3 103C8-103D5"]),
  (["oldsogdian", "sogo"],
    ["10F00-10F27"]),
  (["oldsoutharabian", "sarb"],
    ["10A60-10A7F"]),
  (["oldturkic", "orkh"],
    ["10C00-10C48"]),
  (["olduyghur", "ougr"],
    ["10F70-10F89"]),
  (["oriya", "orya"],
    ["B01-B03 B05-B0C B0F-B10 B13-B28 B2A-B30 B32-B33 B35-B39 B3C-B44 B47-B48 B4B-B4D B55-B57",
     "B5C-B5D B5F-B63 B66-B77"]),
  (["osage", "osge"],
    ["104B0-104D3 104D8-104FB"]),
  (["osmanya", "osma"],
    ["10480-1049D 104A0-104A9"]),
  (["pahawhhmong", "hmng"],
    ["16B00-16B45 16B50-16B59 16B5B-16B61 16B63-16B77 16B7D-16B8F"]),
  (["palmyrene", "palm"],
    ["10860-1087F"]),
  (["paucinhau", "pauc"],
    ["11AC0-11AF8"]),
  (["phagspa", "phag"],
    ["A840-A877"]),
  (["phoenician", "phnx"],
    ["10900-1091B 1091F"]),
  (["psalterpahlavi", "phlp"],
    ["10B80-10B91 10B99-10B9C 10BA9-10BAF"]),
  (["rejang", "rjng"],
    ["A930-A953 A95F"]),
  (["runic", "runr"],
    ["16A0-16EA 16EE-16F8"]),
  (["samaritan", "samr"],
    ["800-82D 830-83E"]),
  (["saurashtra", "saur"],
    ["A880-A8C5 A8CE-A8D9"]),
  (["sharada", "shrd"],
    ["11180-111DF 11B60-11B67"]),
  (["shavian", "shaw"],
    ["10450-1047F"]),
  (["siddham", "sidd"],
    ["11580-115B5 115B8-115DD"]),
  (["sidetic", "sidt"],
    ["10940-10959"]),
  (["signwriting", "sgnw"],
    ["1D800-1DA8B 1DA9B-1DA9F 1DAA1-1DAAF"]),
  (["sinhala", "sinh"],
    ["D81-D83 D85-D96 D9A-DB1 DB3-DBB DBD DC0-DC6 DCA DCF-DD4 DD6 DD8-DDF DE6-DEF DF2-DF4",
     "111E1-111F4"]),
  (["sogdian", "sogd"],
    ["10F30-10F59"]),
  (["sorasompeng", "sora"],
    ["110D0-110E8 110F0-110F9"]),
  (["soyombo", "soyo"],
    ["11A50-11AA2"]),
  (["sundanese", "sund"],
    ["1B80-1BBF 1CC0-1CC7"]),
  (["sunuwar", "sunu"],
    ["11BC0-11BE1 11BF0-11BF9"]),
  (["sylotinagri", "sylo"],
    ["A800-A82C"]),
  (["syriac", "syrc"],
    ["700-70D 70F-74A 74D-74F 860-86A"]),
  (["tagalog", "tglg"],
    ["1700-1715 171F"]),
  (["tagbanwa", "tagb"],
    ["1760-176C 176E-1770 1772-1773"]),
  (["taile", "tale"],
    ["1950-196D 1970-1974"]),
  (["taitham", "lana"],
    ["1A20-1A5E 1A60-1A7C 1A7F-1A89 1A90-1A99 1AA0-1AAD"]),
  (["taiviet", "tavt"],
    ["AA80-AAC2 AADB-AADF"]),
  (["taiyo", "tayo"],
    ["1E6C0-1E6DE 1E6E0-1E6F5 1E6FE-1E6FF"]),
  (["takri", "takr"],
    ["11680-116B9 116C0-116C9"]),
  (["tamil", "taml"],
    ["B82-B83 B85-B8A B8E-B90 B92-B95 B99-B9A B9C B9E-B9F BA3-BA4 BA8-BAA BAE-BB9 BBE-BC2 BC6-BC8",
     "BCA-BCD BD0 BD7 BE6-BFA 11FC0-11FF1 11FFF"]),
  (["tangsa", "tnsa"],
    ["16A70-16ABE 16AC0-16AC9"]),
  (["tangut", "tang"],
    ["16FE0 17000-18AFF 18D00-18D1E 18D80-18DF2"]),
  (["telugu", "telu"],
    ["C00-C0C C0E-C10 C12-C28 C2A-C39 C3C-C44 C46-C48 C4A-C4D C55-C56 C58-C5A C5C-C5D C60-C63",
     "C66-C6F C77-C7F"]),
  (["thaana", "thaa"],
    ["780-7B1"]),
  (["thai"],
    ["E01-E3A E40-E5B"]),
  (["tibetan", "tibt"],
    ["F00-F47 F49-F6C F71-F97 F99-FBC FBE-FCC FCE-FD4 FD9-FDA"]),
  (["tifinagh", "tfng"],
    ["2D30-2D67 2D6F-2D70 2D7F"]),
  (["tirhuta", "tirh"],
    ["11480-114C7 114D0-114D9"]),
  (["todhri", "todr"],
    ["105C0-105F3"]),
  (["tolongsiki", "tols"],
    ["11DB0-11DDB 11DE0-11DE9"]),
  (["toto"],
    ["1E290-1E2AE"]),
  (["tulutigalari", "tutg"],
    ["11380-11389 1138B 1138E 11390-113B5 113B7-113C0 113C2 113C5 113C7-113CA 113CC-113D5",
     "113D7-113D8 113E1-113E2"]),
  (["ugaritic", "ugar"],
    ["10380-1039D 1039F"]),
  (["vai", "vaii"],
    ["A500-A62B"]),
  (["vithkuqi", "vith"],
    ["10570-1057A 1057C-1058A 1058C-10592 10594-10595 10597-105A1 105A3-105B1 105B3-105B9",
     "105BB-105BC"]),
  (["wancho", "wcho"],
    ["1E2C0-1E2F9 1E2FF"]),
  (["warangciti", "wara"],
    ["118A0-118F2 118FF"]),
  (["yezidi", "yezi"],
    ["10E80-10EA9 10EAB-10EAD 10EB0-10EB1"]),
  (["yi", "yiii"],
    ["A000-A48C A490-A4C6"]),
  (["zanabazarsquare", "zanb"],
    ["11A00-11A47"])]

end RequestFilter.Pattern.Table
