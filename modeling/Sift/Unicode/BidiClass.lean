import Sift.Unicode.Table

/-!
# Bidirectional classes

The Bidi_Class of each code point, from the Unicode Character Database 14.0, as far as the Bidi
rule for domain names tells them apart: left-to-right, right-to-left, Arabic letter, European
and Arabic numbers, the European separator and terminator, the common separator, other neutrals,
boundary neutrals and nonspacing marks; every other class is `other`. Code points in no range
of the table are left-to-right.
-/

namespace Sift.Unicode

/-- A bidirectional class. -/
inductive BidiClass where
  | leftToRight
  | rightToLeft
  | arabicLetter
  | arabicNumber
  | europeanNumber
  | europeanSeparator
  | commonSeparator
  | europeanTerminator
  | otherNeutral
  | boundaryNeutral
  | nonspacingMark
  | other
  deriving DecidableEq, Repr, Inhabited

/-- The class a tag of the table stands for. -/
def BidiClass.ofTag : Char → BidiClass
  | 'r' => .rightToLeft
  | 'a' => .arabicLetter
  | 'n' => .arabicNumber
  | 'e' => .europeanNumber
  | 's' => .europeanSeparator
  | 'c' => .commonSeparator
  | 't' => .europeanTerminator
  | 'o' => .otherNeutral
  | 'b' => .boundaryNeutral
  | 'm' => .nonspacingMark
  | 'x' => .other
  | _ => .leftToRight

/-- The ranges of the classes other than left-to-right, as a range table text. -/
def bidiClassText : String :=
  "0-8b 9-Dx E-1Bb 1C-20x 21-22o 23-25t 26-2Ao 2Bs 2Cc 2Ds 2E-2Fc 30-39e 3Ac 3B-40o 5B-60o 7B-7Eo
  7F-84b 85x 86-9Fb A0c A1o A2-A5t A6-A9o AB-ACo ADb AE-AFo B0-B1t B2-B3e B4o B6-B8o B9e BB-BFo
  D7o F7o 2B9-2BAo 2C2-2CFo 2D2-2DFo 2E5-2EDo 2EF-2FFo 300-36Fm 374-375o 37Eo 384-385o 387o 3F6o
  483-489m 58Ao 58D-58Eo 58Ft 591-5BDm 5BEr 5BFm 5C0r 5C1-5C2m 5C3r 5C4-5C5m 5C6r 5C7m 5D0-5EAr
  5EF-5F4r 600-605n 606-607o 608a 609-60At 60Ba 60Cc 60Da 60E-60Fo 610-61Am 61B-64Aa 64B-65Fm
  660-669n 66At 66B-66Cn 66D-66Fa 670m 671-6D5a 6D6-6DCm 6DDn 6DEo 6DF-6E4m 6E5-6E6a 6E7-6E8m 6E9o
  6EA-6EDm 6EE-6EFa 6F0-6F9e 6FA-70Da 70F-710a 711m 712-72Fa 730-74Am 74D-7A5a 7A6-7B0m 7B1a
  7C0-7EAr 7EB-7F3m 7F4-7F5r 7F6-7F9o 7FAr 7FDm 7FE-815r 816-819m 81Ar 81B-823m 824r 825-827m 828r
  829-82Dm 830-83Er 840-858r 859-85Bm 85Er 860-86Aa 870-88Ea 890-891n 898-89Fm 8A0-8C9a 8CA-8E1m
  8E2n 8E3-902m 93Am 93Cm 941-948m 94Dm 951-957m 962-963m 981m 9BCm 9C1-9C4m 9CDm 9E2-9E3m
  9F2-9F3t 9FBt 9FEm A01-A02m A3Cm A41-A42m A47-A48m A4B-A4Dm A51m A70-A71m A75m A81-A82m ABCm
  AC1-AC5m AC7-AC8m ACDm AE2-AE3m AF1t AFA-AFFm B01m B3Cm B3Fm B41-B44m B4Dm B55-B56m B62-B63m
  B82m BC0m BCDm BF3-BF8o BF9t BFAo C00m C04m C3Cm C3E-C40m C46-C48m C4A-C4Dm C55-C56m C62-C63m
  C78-C7Eo C81m CBCm CCC-CCDm CE2-CE3m D00-D01m D3B-D3Cm D41-D44m D4Dm D62-D63m D81m DCAm DD2-DD4m
  DD6m E31m E34-E3Am E3Ft E47-E4Em EB1m EB4-EBCm EC8-ECDm F18-F19m F35m F37m F39m F3A-F3Do
  F71-F7Em F80-F84m F86-F87m F8D-F97m F99-FBCm FC6m 102D-1030m 1032-1037m 1039-103Am 103D-103Em
  1058-1059m 105E-1060m 1071-1074m 1082m 1085-1086m 108Dm 109Dm 135D-135Fm 1390-1399o 1400o 1680x
  169B-169Co 1712-1714m 1732-1733m 1752-1753m 1772-1773m 17B4-17B5m 17B7-17BDm 17C6m 17C9-17D3m
  17DBt 17DDm 17F0-17F9o 1800-180Ao 180B-180Dm 180Eb 180Fm 1885-1886m 18A9m 1920-1922m 1927-1928m
  1932m 1939-193Bm 1940o 1944-1945o 19DE-19FFo 1A17-1A18m 1A1Bm 1A56m 1A58-1A5Em 1A60m 1A62m
  1A65-1A6Cm 1A73-1A7Cm 1A7Fm 1AB0-1ACEm 1B00-1B03m 1B34m 1B36-1B3Am 1B3Cm 1B42m 1B6B-1B73m
  1B80-1B81m 1BA2-1BA5m 1BA8-1BA9m 1BAB-1BADm 1BE6m 1BE8-1BE9m 1BEDm 1BEF-1BF1m 1C2C-1C33m
  1C36-1C37m 1CD0-1CD2m 1CD4-1CE0m 1CE2-1CE8m 1CEDm 1CF4m 1CF8-1CF9m 1DC0-1DFFm 1FBDo 1FBF-1FC1o
  1FCD-1FCFo 1FDD-1FDFo 1FED-1FEFo 1FFD-1FFEo 2000-200Ax 200B-200Db 200Fr 2010-2027o 2028-202Ex
  202Fc 2030-2034t 2035-2043o 2044c 2045-205Eo 205Fx 2060-2064b 2066-2069x 206A-206Fb 2070e
  2074-2079e 207A-207Bs 207C-207Eo 2080-2089e 208A-208Bs 208C-208Eo 20A0-20C0t 20D0-20F0m
  2100-2101o 2103-2106o 2108-2109o 2114o 2116-2118o 211E-2123o 2125o 2127o 2129o 212Et 213A-213Bo
  2140-2144o 214A-214Do 2150-215Fo 2189-218Bo 2190-2211o 2212s 2213t 2214-2335o 237B-2394o
  2396-2426o 2440-244Ao 2460-2487o 2488-249Be 24EA-26ABo 26AD-27FFo 2900-2B73o 2B76-2B95o
  2B97-2BFFo 2CE5-2CEAo 2CEF-2CF1m 2CF9-2CFFo 2D7Fm 2DE0-2DFFm 2E00-2E5Do 2E80-2E99o 2E9B-2EF3o
  2F00-2FD5o 2FF0-2FFBo 3000x 3001-3004o 3008-3020o 302A-302Dm 3030o 3036-3037o 303D-303Fo
  3099-309Am 309B-309Co 30A0o 30FBo 31C0-31E3o 321D-321Eo 3250-325Fo 327C-327Eo 32B1-32BFo
  32CC-32CFo 3377-337Ao 33DE-33DFo 33FFo 4DC0-4DFFo A490-A4C6o A60D-A60Fo A66F-A672m A673o
  A674-A67Dm A67E-A67Fo A69E-A69Fm A6F0-A6F1m A700-A721o A788o A802m A806m A80Bm A825-A826m
  A828-A82Bo A82Cm A838-A839t A874-A877o A8C4-A8C5m A8E0-A8F1m A8FFm A926-A92Dm A947-A951m
  A980-A982m A9B3m A9B6-A9B9m A9BC-A9BDm A9E5m AA29-AA2Em AA31-AA32m AA35-AA36m AA43m AA4Cm AA7Cm
  AAB0m AAB2-AAB4m AAB7-AAB8m AABE-AABFm AAC1m AAEC-AAEDm AAF6m AB6A-AB6Bo ABE5m ABE8m ABEDm FB1Dr
  FB1Em FB1F-FB28r FB29s FB2A-FB36r FB38-FB3Cr FB3Er FB40-FB41r FB43-FB44r FB46-FB4Fr FB50-FBC2a
  FBD3-FD3Da FD3E-FD4Fo FD50-FD8Fa FD92-FDC7a FDCFo FDF0-FDFCa FDFD-FDFFo FE00-FE0Fm FE10-FE19o
  FE20-FE2Fm FE30-FE4Fo FE50c FE51o FE52c FE54o FE55c FE56-FE5Eo FE5Ft FE60-FE61o FE62-FE63s
  FE64-FE66o FE68o FE69-FE6At FE6Bo FE70-FE74a FE76-FEFCa FEFFb FF01-FF02o FF03-FF05t FF06-FF0Ao
  FF0Bs FF0Cc FF0Ds FF0E-FF0Fc FF10-FF19e FF1Ac FF1B-FF20o FF3B-FF40o FF5B-FF65o FFE0-FFE1t
  FFE2-FFE4o FFE5-FFE6t FFE8-FFEEo FFF9-FFFDo 10101o 10140-1018Co 10190-1019Co 101A0o 101FDm
  102E0m 102E1-102FBe 10376-1037Am 10800-10805r 10808r 1080A-10835r 10837-10838r 1083Cr
  1083F-10855r 10857-1089Er 108A7-108AFr 108E0-108F2r 108F4-108F5r 108FB-1091Br 1091Fo
  10920-10939r 1093Fr 10980-109B7r 109BC-109CFr 109D2-10A00r 10A01-10A03m 10A05-10A06m
  10A0C-10A0Fm 10A10-10A13r 10A15-10A17r 10A19-10A35r 10A38-10A3Am 10A3Fm 10A40-10A48r
  10A50-10A58r 10A60-10A9Fr 10AC0-10AE4r 10AE5-10AE6m 10AEB-10AF6r 10B00-10B35r 10B39-10B3Fo
  10B40-10B55r 10B58-10B72r 10B78-10B91r 10B99-10B9Cr 10BA9-10BAFr 10C00-10C48r 10C80-10CB2r
  10CC0-10CF2r 10CFA-10CFFr 10D00-10D23a 10D24-10D27m 10D30-10D39n 10E60-10E7En 10E80-10EA9r
  10EAB-10EACm 10EADr 10EB0-10EB1r 10F00-10F27r 10F30-10F45a 10F46-10F50m 10F51-10F59a
  10F70-10F81r 10F82-10F85m 10F86-10F89r 10FB0-10FCBr 10FE0-10FF6r 11001m 11038-11046m
  11052-11065o 11070m 11073-11074m 1107F-11081m 110B3-110B6m 110B9-110BAm 110C2m 11100-11102m
  11127-1112Bm 1112D-11134m 11173m 11180-11181m 111B6-111BEm 111C9-111CCm 111CFm 1122F-11231m
  11234m 11236-11237m 1123Em 112DFm 112E3-112EAm 11300-11301m 1133B-1133Cm 11340m 11366-1136Cm
  11370-11374m 11438-1143Fm 11442-11444m 11446m 1145Em 114B3-114B8m 114BAm 114BF-114C0m
  114C2-114C3m 115B2-115B5m 115BC-115BDm 115BF-115C0m 115DC-115DDm 11633-1163Am 1163Dm
  1163F-11640m 11660-1166Co 116ABm 116ADm 116B0-116B5m 116B7m 1171D-1171Fm 11722-11725m
  11727-1172Bm 1182F-11837m 11839-1183Am 1193B-1193Cm 1193Em 11943m 119D4-119D7m 119DA-119DBm
  119E0m 11A01-11A06m 11A09-11A0Am 11A33-11A38m 11A3B-11A3Em 11A47m 11A51-11A56m 11A59-11A5Bm
  11A8A-11A96m 11A98-11A99m 11C30-11C36m 11C38-11C3Dm 11C92-11CA7m 11CAA-11CB0m 11CB2-11CB3m
  11CB5-11CB6m 11D31-11D36m 11D3Am 11D3C-11D3Dm 11D3F-11D45m 11D47m 11D90-11D91m 11D95m 11D97m
  11EF3-11EF4m 11FD5-11FDCo 11FDD-11FE0t 11FE1-11FF1o 16AF0-16AF4m 16B30-16B36m 16F4Fm
  16F8F-16F92m 16FE2o 16FE4m 1BC9D-1BC9Em 1BCA0-1BCA3b 1CF00-1CF2Dm 1CF30-1CF46m 1D167-1D169m
  1D173-1D17Ab 1D17B-1D182m 1D185-1D18Bm 1D1AA-1D1ADm 1D1E9-1D1EAo 1D200-1D241o 1D242-1D244m
  1D245o 1D300-1D356o 1D6DBo 1D715o 1D74Fo 1D789o 1D7C3o 1D7CE-1D7FFe 1DA00-1DA36m 1DA3B-1DA6Cm
  1DA75m 1DA84m 1DA9B-1DA9Fm 1DAA1-1DAAFm 1E000-1E006m 1E008-1E018m 1E01B-1E021m 1E023-1E024m
  1E026-1E02Am 1E130-1E136m 1E2AEm 1E2EC-1E2EFm 1E2FFt 1E800-1E8C4r 1E8C7-1E8CFr 1E8D0-1E8D6m
  1E900-1E943r 1E944-1E94Am 1E94Br 1E950-1E959r 1E95E-1E95Fr 1EC71-1ECB4a 1ED01-1ED3Da
  1EE00-1EE03a 1EE05-1EE1Fa 1EE21-1EE22a 1EE24a 1EE27a 1EE29-1EE32a 1EE34-1EE37a 1EE39a 1EE3Ba
  1EE42a 1EE47a 1EE49a 1EE4Ba 1EE4D-1EE4Fa 1EE51-1EE52a 1EE54a 1EE57a 1EE59a 1EE5Ba 1EE5Da 1EE5Fa
  1EE61-1EE62a 1EE64a 1EE67-1EE6Aa 1EE6C-1EE72a 1EE74-1EE77a 1EE79-1EE7Ca 1EE7Ea 1EE80-1EE89a
  1EE8B-1EE9Ba 1EEA1-1EEA3a 1EEA5-1EEA9a 1EEAB-1EEBBa 1EEF0-1EEF1o 1F000-1F02Bo 1F030-1F093o
  1F0A0-1F0AEo 1F0B1-1F0BFo 1F0C1-1F0CFo 1F0D1-1F0F5o 1F100-1F10Ae 1F10B-1F10Fo 1F12Fo
  1F16A-1F16Fo 1F1ADo 1F260-1F265o 1F300-1F6D7o 1F6DD-1F6ECo 1F6F0-1F6FCo 1F700-1F773o
  1F780-1F7D8o 1F7E0-1F7EBo 1F7F0o 1F800-1F80Bo 1F810-1F847o 1F850-1F859o 1F860-1F887o
  1F890-1F8ADo 1F8B0-1F8B1o 1F900-1FA53o 1FA60-1FA6Do 1FA70-1FA74o 1FA78-1FA7Co 1FA80-1FA86o
  1FA90-1FAACo 1FAB0-1FABAo 1FAC0-1FAC5o 1FAD0-1FAD9o 1FAE0-1FAE7o 1FAF0-1FAF6o 1FB00-1FB92o
  1FB94-1FBCAo 1FBF0-1FBF9e E0001b E0020-E007Fb E0100-E01EFm"

/-- The ranges of the classes other than left-to-right. -/
def bidiClassRanges : Array TaggedRange := rangesOf bidiClassText

/-- The bidirectional class of a character. -/
def bidiClass (c : Char) : BidiClass :=
  match tagOf bidiClassRanges c.toNat with
  | some t => BidiClass.ofTag t
  | none => .leftToRight

end Sift.Unicode
