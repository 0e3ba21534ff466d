import Remediation.Text.Ranges

/-!
Lower case by the full mappings of Unicode. Two characters need more than a table of single
mappings: a dotted capital I becomes two characters, and a capital sigma takes its final form
at the end of a word.
-/

namespace Remediation.Text

/-- Runs of capitals: first and last code point, the step between capitals, and the distance
to their small letters. -/
def lowercaseRuns : List (Nat × Nat × Nat × Int) :=
  [
    (0x0041, 0x005A, 1, 32), (0x00C0, 0x00D6, 1, 32), (0x00D8, 0x00DE, 1, 32),
    (0x0100, 0x012E, 2, 1), (0x0132, 0x0136, 2, 1), (0x0139, 0x0147, 2, 1),
    (0x014A, 0x0176, 2, 1), (0x0178, 0x0178, 1, -121), (0x0179, 0x017D, 2, 1),
    (0x0181, 0x0181, 1, 210), (0x0182, 0x0184, 2, 1), (0x0186, 0x0186, 1, 206),
    (0x0187, 0x0187, 1, 1), (0x0189, 0x018A, 1, 205), (0x018B, 0x018B, 1, 1),
    (0x018E, 0x018E, 1, 79), (0x018F, 0x018F, 1, 202), (0x0190, 0x0190, 1, 203),
    (0x0191, 0x0191, 1, 1), (0x0193, 0x0193, 1, 205), (0x0194, 0x0194, 1, 207),
    (0x0196, 0x0196, 1, 211), (0x0197, 0x0197, 1, 209), (0x0198, 0x0198, 1, 1),
    (0x019C, 0x019C, 1, 211), (0x019D, 0x019D, 1, 213), (0x019F, 0x019F, 1, 214),
    (0x01A0, 0x01A4, 2, 1), (0x01A6, 0x01A6, 1, 218), (0x01A7, 0x01A7, 1, 1),
    (0x01A9, 0x01A9, 1, 218), (0x01AC, 0x01AC, 1, 1), (0x01AE, 0x01AE, 1, 218),
    (0x01AF, 0x01AF, 1, 1), (0x01B1, 0x01B2, 1, 217), (0x01B3, 0x01B5, 2, 1),
    (0x01B7, 0x01B7, 1, 219), (0x01B8, 0x01B8, 1, 1), (0x01BC, 0x01BC, 1, 1),
    (0x01C4, 0x01C4, 1, 2), (0x01C5, 0x01C5, 1, 1), (0x01C7, 0x01C7, 1, 2),
    (0x01C8, 0x01C8, 1, 1), (0x01CA, 0x01CA, 1, 2), (0x01CB, 0x01DB, 2, 1),
    (0x01DE, 0x01EE, 2, 1), (0x01F1, 0x01F1, 1, 2), (0x01F2, 0x01F4, 2, 1),
    (0x01F6, 0x01F6, 1, -97), (0x01F7, 0x01F7, 1, -56), (0x01F8, 0x021E, 2, 1),
    (0x0220, 0x0220, 1, -130), (0x0222, 0x0232, 2, 1), (0x023A, 0x023A, 1, 10795),
    (0x023B, 0x023B, 1, 1), (0x023D, 0x023D, 1, -163), (0x023E, 0x023E, 1, 10792),
    (0x0241, 0x0241, 1, 1), (0x0243, 0x0243, 1, -195), (0x0244, 0x0244, 1, 69),
    (0x0245, 0x0245, 1, 71), (0x0246, 0x024E, 2, 1), (0x0370, 0x0372, 2, 1),
    (0x0376, 0x0376, 1, 1), (0x037F, 0x037F, 1, 116), (0x0386, 0x0386, 1, 38),
    (0x0388, 0x038A, 1, 37), (0x038C, 0x038C, 1, 64), (0x038E, 0x038F, 1, 63),
    (0x0391, 0x03A1, 1, 32), (0x03A3, 0x03AB, 1, 32), (0x03CF, 0x03CF, 1, 8),
    (0x03D8, 0x03EE, 2, 1), (0x03F4, 0x03F4, 1, -60), (0x03F7, 0x03F7, 1, 1),
    (0x03F9, 0x03F9, 1, -7), (0x03FA, 0x03FA, 1, 1), (0x03FD, 0x03FF, 1, -130),
    (0x0400, 0x040F, 1, 80), (0x0410, 0x042F, 1, 32), (0x0460, 0x0480, 2, 1),
    (0x048A, 0x04BE, 2, 1), (0x04C0, 0x04C0, 1, 15), (0x04C1, 0x04CD, 2, 1),
    (0x04D0, 0x052E, 2, 1), (0x0531, 0x0556, 1, 48), (0x10A0, 0x10C5, 1, 7264),
    (0x10C7, 0x10C7, 1, 7264), (0x10CD, 0x10CD, 1, 7264), (0x13A0, 0x13EF, 1, 38864),
    (0x13F0, 0x13F5, 1, 8), (0x1C89, 0x1C89, 1, 1), (0x1C90, 0x1CBA, 1, -3008),
    (0x1CBD, 0x1CBF, 1, -3008), (0x1E00, 0x1E94, 2, 1), (0x1E9E, 0x1E9E, 1, -7615),
    (0x1EA0, 0x1EFE, 2, 1), (0x1F08, 0x1F0F, 1, -8), (0x1F18, 0x1F1D, 1, -8),
    (0x1F28, 0x1F2F, 1, -8), (0x1F38, 0x1F3F, 1, -8), (0x1F48, 0x1F4D, 1, -8),
    (0x1F59, 0x1F5F, 2, -8), (0x1F68, 0x1F6F, 1, -8), (0x1F88, 0x1F8F, 1, -8),
    (0x1F98, 0x1F9F, 1, -8), (0x1FA8, 0x1FAF, 1, -8), (0x1FB8, 0x1FB9, 1, -8),
    (0x1FBA, 0x1FBB, 1, -74), (0x1FBC, 0x1FBC, 1, -9), (0x1FC8, 0x1FCB, 1, -86),
    (0x1FCC, 0x1FCC, 1, -9), (0x1FD8, 0x1FD9, 1, -8), (0x1FDA, 0x1FDB, 1, -100),
    (0x1FE8, 0x1FE9, 1, -8), (0x1FEA, 0x1FEB, 1, -112), (0x1FEC, 0x1FEC, 1, -7),
    (0x1FF8, 0x1FF9, 1, -128), (0x1FFA, 0x1FFB, 1, -126), (0x1FFC, 0x1FFC, 1, -9),
    (0x2126, 0x2126, 1, -7517), (0x212A, 0x212A, 1, -8383), (0x212B, 0x212B, 1, -8262),
    (0x2132, 0x2132, 1, 28), (0x2160, 0x216F, 1, 16), (0x2183, 0x2183, 1, 1),
    (0x24B6, 0x24CF, 1, 26), (0x2C00, 0x2C2F, 1, 48), (0x2C60, 0x2C60, 1, 1),
    (0x2C62, 0x2C62, 1, -10743), (0x2C63, 0x2C63, 1, -3814), (0x2C64, 0x2C64, 1, -10727),
    (0x2C67, 0x2C6B, 2, 1), (0x2C6D, 0x2C6D, 1, -10780), (0x2C6E, 0x2C6E, 1, -10749),
    (0x2C6F, 0x2C6F, 1, -10783), (0x2C70, 0x2C70, 1, -10782), (0x2C72, 0x2C72, 1, 1),
    (0x2C75, 0x2C75, 1, 1), (0x2C7E, 0x2C7F, 1, -10815), (0x2C80, 0x2CE2, 2, 1),
    (0x2CEB, 0x2CED, 2, 1), (0x2CF2, 0x2CF2, 1, 1), (0xA640, 0xA66C, 2, 1),
    (0xA680, 0xA69A, 2, 1), (0xA722, 0xA72E, 2, 1), (0xA732, 0xA76E, 2, 1),
    (0xA779, 0xA77B, 2, 1), (0xA77D, 0xA77D, 1, -35332), (0xA77E, 0xA786, 2, 1),
    (0xA78B, 0xA78B, 1, 1), (0xA78D, 0xA78D, 1, -42280), (0xA790, 0xA792, 2, 1),
    (0xA796, 0xA7A8, 2, 1), (0xA7AA, 0xA7AA, 1, -42308), (0xA7AB, 0xA7AB, 1, -42319),
    (0xA7AC, 0xA7AC, 1, -42315), (0xA7AD, 0xA7AD, 1, -42305), (0xA7AE, 0xA7AE, 1, -42308),
    (0xA7B0, 0xA7B0, 1, -42258), (0xA7B1, 0xA7B1, 1, -42282), (0xA7B2, 0xA7B2, 1, -42261),
    (0xA7B3, 0xA7B3, 1, 928), (0xA7B4, 0xA7C2, 2, 1), (0xA7C4, 0xA7C4, 1, -48),
    (0xA7C5, 0xA7C5, 1, -42307), (0xA7C6, 0xA7C6, 1, -35384), (0xA7C7, 0xA7C9, 2, 1),
    (0xA7CB, 0xA7CB, 1, -42343), (0xA7CC, 0xA7DA, 2, 1), (0xA7DC, 0xA7DC, 1, -42561),
    (0xA7F5, 0xA7F5, 1, 1), (0xFF21, 0xFF3A, 1, 32), (0x10400, 0x10427, 1, 40),
    (0x104B0, 0x104D3, 1, 40), (0x10570, 0x1057A, 1, 39), (0x1057C, 0x1058A, 1, 39),
    (0x1058C, 0x10592, 1, 39), (0x10594, 0x10595, 1, 39), (0x10C80, 0x10CB2, 1, 64),
    (0x10D50, 0x10D65, 1, 32), (0x118A0, 0x118BF, 1, 32), (0x16E40, 0x16E5F, 1, 32),
    (0x16EA0, 0x16EB8, 1, 27), (0x1E900, 0x1E921, 1, 34)
  ]

/-- The characters with the property Cased. -/
def casedRanges : Ranges :=
  Ranges.ofHex
    [
      "0041-005A 0061-007A 00AA 00B5 00BA 00C0-00D6 00D8-00F6 00F8-01BA 01BC-01BF 01C4-0293",
      "0296-02B8 02C0-02C1 02E0-02E4 0345 0370-0373 0376-0377 037A-037D 037F 0386 0388-038A 038C",
      "038E-03A1 03A3-03F5 03F7-0481 048A-052F 0531-0556 0560-0588 10A0-10C5 10C7 10CD 10D0-10FA",
      "10FC-10FF 13A0-13F5 13F8-13FD 1C80-1C8A 1C90-1CBA 1CBD-1CBF 1D00-1DBF 1E00-1F15 1F18-1F1D",
      "1F20-1F45 1F48-1F4D 1F50-1F57 1F59 1F5B 1F5D 1F5F-1F7D 1F80-1FB4 1FB6-1FBC 1FBE 1FC2-1FC4",
      "1FC6-1FCC 1FD0-1FD3 1FD6-1FDB 1FE0-1FEC 1FF2-1FF4 1FF6-1FFC 2071 207F 2090-209C 2102 2107",
      "210A-2113 2115 2119-211D 2124 2126 2128 212A-212D 212F-2134 2139 213C-213F 2145-2149 214E",
      "2160-217F 2183-2184 24B6-24E9 2C00-2CE4 2CEB-2CEE 2CF2-2CF3 2D00-2D25 2D27 2D2D A640-A66D",
      "A680-A69D A722-A787 A78B-A78E A790-A7DC A7F1-A7F6 A7F8-A7FA AB30-AB5A AB5C-AB69 AB70-ABBF",
      "FB00-FB06 FB13-FB17 FF21-FF3A FF41-FF5A 10400-1044F 104B0-104D3 104D8-104FB 10570-1057A",
      "1057C-1058A 1058C-10592 10594-10595 10597-105A1 105A3-105B1 105B3-105B9 105BB-105BC 10780",
      "10783-10785 10787-107B0 107B2-107BA 10C80-10CB2 10CC0-10CF2 10D50-10D65 10D70-10D85",
      "118A0-118DF 16E40-16E7F 16EA0-16EB8 16EBB-16ED3 1D400-1D454 1D456-1D49C 1D49E-1D49F 1D4A2",
      "1D4A5-1D4A6 1D4A9-1D4AC 1D4AE-1D4B9 1D4BB 1D4BD-1D4C3 1D4C5-1D505 1D507-1D50A 1D50D-1D514",
      "1D516-1D51C 1D51E-1D539 1D53B-1D53E 1D540-1D544 1D546 1D54A-1D550 1D552-1D6A5 1D6A8-1D6C0",
      "1D6C2-1D6DA 1D6DC-1D6FA 1D6FC-1D714 1D716-1D734 1D736-1D74E 1D750-1D76E 1D770-1D788",
      "1D78A-1D7A8 1D7AA-1D7C2 1D7C4-1D7CB 1DF00-1DF09 1DF0B-1DF1E 1DF25-1DF2A 1E030-1E06D",
      "1E900-1E943 1F130-1F149 1F150-1F169 1F170-1F189"
    ]

/-- The characters with the property Case_Ignorable. -/
def caseIgnorableRanges : Ranges :=
  Ranges.ofHex
    [
      "0027 002E 003A 005E 0060 00A8 00AD 00AF 00B4 00B7-00B8 02B0-036F 0374-0375 037A 0384-0385",
      "0387 0483-0489 0559 055F 0591-05BD 05BF 05C1-05C2 05C4-05C5 05C7 05F4 0600-0605 0610-061A",
      "061C 0640 064B-065F 0670 06D6-06DD 06DF-06E8 06EA-06ED 070F 0711 0730-074A 07A6-07B0",
      "07EB-07F5 07FA 07FD 0816-082D 0859-085B 0888 0890-0891 0897-089F 08C9-0902 093A 093C",
      "0941-0948 094D 0951-0957 0962-0963 0971 0981 09BC 09C1-09C4 09CD 09E2-09E3 09FE 0A01-0A02",
      "0A3C 0A41-0A42 0A47-0A48 0A4B-0A4D 0A51 0A70-0A71 0A75 0A81-0A82 0ABC 0AC1-0AC5 0AC7-0AC8",
      "0ACD 0AE2-0AE3 0AFA-0AFF 0B01 0B3C 0B3F 0B41-0B44 0B4D 0B55-0B56 0B62-0B63 0B82 0BC0 0BCD",
      "0C00 0C04 0C3C 0C3E-0C40 0C46-0C48 0C4A-0C4D 0C55-0C56 0C62-0C63 0C81 0CBC 0CBF 0CC6",
      "0CCC-0CCD 0CE2-0CE3 0D00-0D01 0D3B-0D3C 0D41-0D44 0D4D 0D62-0D63 0D81 0DCA 0DD2-0DD4 0DD6",
      "0E31 0E34-0E3A 0E46-0E4E 0EB1 0EB4-0EBC 0EC6 0EC8-0ECE 0F18-0F19 0F35 0F37 0F39 0F71-0F7E",
      "0F80-0F84 0F86-0F87 0F8D-0F97 0F99-0FBC 0FC6 102D-1030 1032-1037 1039-103A 103D-103E",
      "1058-1059 105E-1060 1071-1074 1082 1085-1086 108D 109D 10FC 135D-135F 1712-1714 1732-1733",
      "1752-1753 1772-1773 17B4-17B5 17B7-17BD 17C6 17C9-17D3 17D7 17DD 180B-180F 1843 1885-1886",
      "18A9 1920-1922 1927-1928 1932 1939-193B 1A17-1A18 1A1B 1A56 1A58-1A5E 1A60 1A62 1A65-1A6C",
      "1A73-1A7C 1A7F 1AA7 1AB0-1ADD 1AE0-1AEB 1B00-1B03 1B34 1B36-1B3A 1B3C 1B42 1B6B-1B73",
      "1B80-1B81 1BA2-1BA5 1BA8-1BA9 1BAB-1BAD 1BE6 1BE8-1BE9 1BED 1BEF-1BF1 1C2C-1C33 1C36-1C37",
      "1C78-1C7D 1CD0-1CD2 1CD4-1CE0 1CE2-1CE8 1CED 1CF4 1CF8-1CF9 1D2C-1D6A 1D78 1D9B-1DFF 1FBD",
      "1FBF-1FC1 1FCD-1FCF 1FDD-1FDF 1FED-1FEF 1FFD-1FFE 200B-200F 2018-2019 2024 2027 202A-202E",
      "2060-2064 2066-206F 2071 207F 2090-209C 20D0-20F0 2C7C-2C7D 2CEF-2CF1 2D6F 2D7F 2DE0-2DFF",
      "2E2F 3005 302A-302D 3031-3035 303B 3099-309E 30FC-30FE A015 A4F8-A4FD A60C A66F-A672",
      "A674-A67D A67F A69C-A69F A6F0-A6F1 A700-A721 A770 A788-A78A A7F1-A7F4 A7F8-A7F9 A802 A806",
      "A80B A825-A826 A82C A8C4-A8C5 A8E0-A8F1 A8FF A926-A92D A947-A951 A980-A982 A9B3 A9B6-A9B9",
      "A9BC-A9BD A9CF A9E5-A9E6 AA29-AA2E AA31-AA32 AA35-AA36 AA43 AA4C AA70 AA7C AAB0 AAB2-AAB4",
      "AAB7-AAB8 AABE-AABF AAC1 AADD AAEC-AAED AAF3-AAF4 AAF6 AB5B-AB5F AB69-AB6B ABE5 ABE8 ABED",
      "FB1E FBB2-FBC2 FE00-FE0F FE13 FE20-FE2F FE52 FE55 FEFF FF07 FF0E FF1A FF3E FF40 FF70",
      "FF9E-FF9F FFE3 FFF9-FFFB 101FD 102E0 10376-1037A 10780-10785 10787-107B0 107B2-107BA",
      "10A01-10A03 10A05-10A06 10A0C-10A0F 10A38-10A3A 10A3F 10AE5-10AE6 10D24-10D27 10D4E",
      "10D69-10D6D 10D6F 10EAB-10EAC 10EC5 10EFA-10EFF 10F46-10F50 10F82-10F85 11001 11038-11046",
      "11070 11073-11074 1107F-11081 110B3-110B6 110B9-110BA 110BD 110C2 110CD 11100-11102",
      "11127-1112B 1112D-11134 11173 11180-11181 111B6-111BE 111C9-111CC 111CF 1122F-11231 11234",
      "11236-11237 1123E 11241 112DF 112E3-112EA 11300-11301 1133B-1133C 11340 11366-1136C",
      "11370-11374 113BB-113C0 113CE 113D0 113D2 113E1-113E2 11438-1143F 11442-11444 11446 1145E",
      "114B3-114B8 114BA 114BF-114C0 114C2-114C3 115B2-115B5 115BC-115BD 115BF-115C0 115DC-115DD",
      "11633-1163A 1163D 1163F-11640 116AB 116AD 116B0-116B5 116B7 1171D 1171F 11722-11725",
      "11727-1172B 1182F-11837 11839-1183A 1193B-1193C 1193E 11943 119D4-119D7 119DA-119DB 119E0",
      "11A01-11A0A 11A33-11A38 11A3B-11A3E 11A47 11A51-11A56 11A59-11A5B 11A8A-11A96 11A98-11A99",
      "11B60 11B62-11B64 11B66 11C30-11C36 11C38-11C3D 11C3F 11C92-11CA7 11CAA-11CB0 11CB2-11CB3",
      "11CB5-11CB6 11D31-11D36 11D3A 11D3C-11D3D 11D3F-11D45 11D47 11D90-11D91 11D95 11D97 11DD9",
      "11EF3-11EF4 11F00-11F01 11F36-11F3A 11F40 11F42 11F5A 13430-13440 13447-13455 1611E-16129",
      "1612D-1612F 16AF0-16AF4 16B30-16B36 16B40-16B43 16D40-16D42 16D6B-16D6C 16F4F 16F8F-16F9F",
      "16FE0-16FE1 16FE3-16FE4 16FF2-16FF3 1AFF0-1AFF3 1AFF5-1AFFB 1AFFD-1AFFE 1BC9D-1BC9E",
      "1BCA0-1BCA3 1CF00-1CF2D 1CF30-1CF46 1D167-1D169 1D173-1D182 1D185-1D18B 1D1AA-1D1AD",
      "1D242-1D244 1DA00-1DA36 1DA3B-1DA6C 1DA75 1DA84 1DA9B-1DA9F 1DAA1-1DAAF 1E000-1E006",
      "1E008-1E018 1E01B-1E021 1E023-1E024 1E026-1E02A 1E030-1E06D 1E08F 1E130-1E13D 1E2AE",
      "1E2EC-1E2EF 1E4EB-1E4EF 1E5EE-1E5EF 1E6E3 1E6E6 1E6EE-1E6EF 1E6F5 1E6FF 1E8D0-1E8D6",
      "1E944-1E94B 1F3FB-1F3FF E0001 E0020-E007F E0100-E01EF"
    ]

/-- The small letter of a character, the character itself if it has none. -/
def lowerChar (c : Char) : Char :=
  let n := c.toNat
  match lowercaseRuns.find? (fun (first, last, step, _) =>
      first ≤ n && n ≤ last && (n - first) % step == 0) with
  | some (_, _, _, distance) => Char.ofNat ((n : Int) + distance).toNat
  | none => c

/-- Whether a cased character comes next, those without influence on case left aside. -/
def meetsCased (cs : List Char) : Bool :=
  match cs.dropWhile (fun c => caseIgnorableRanges.contains c.toNat) with
  | c :: _ => casedRanges.contains c.toNat
  | [] => false

/-- Lower case of the characters that follow those of `before`, which are in reverse. -/
def lowerFrom (before : List Char) : List Char → List Char
  | [] => []
  | c :: rest =>
      let lowered :=
        if c.toNat < 128 then [lowerChar c]
        else if c.toNat = 0x3A3 then
          if meetsCased before && !meetsCased rest then [Char.ofNat 0x3C2] else [Char.ofNat 0x3C3]
        else if c.toNat = 0x130 then ['i', Char.ofNat 0x307]
        else [lowerChar c]
      lowered ++ lowerFrom (c :: before) rest

def lower (cs : List Char) : List Char :=
  lowerFrom [] cs

end Remediation.Text

namespace Remediation

/-- A text in lower case. -/
def lowercase (s : String) : String :=
  String.ofList (Text.lower s.toList)

end Remediation
