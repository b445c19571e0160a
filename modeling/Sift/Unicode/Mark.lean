import Sift.Unicode.Table

/-!
# Combining marks

The code points of General_Category Mark (nonspacing, spacing and enclosing marks), from the
Unicode Character Database 14.0. A label of a domain name may not begin with one.
-/

namespace Sift.Unicode

/-- The ranges of marks, as a range table text with the tag `m`. -/
def markText : String :=
  "300-36Fm 483-489m 591-5BDm 5BFm 5C1-5C2m 5C4-5C5m 5C7m 610-61Am 64B-65Fm 670m 6D6-6DCm 6DF-6E4m
  6E7-6E8m 6EA-6EDm 711m 730-74Am 7A6-7B0m 7EB-7F3m 7FDm 816-819m 81B-823m 825-827m 829-82Dm
  859-85Bm 898-89Fm 8CA-8E1m 8E3-903m 93A-93Cm 93E-94Fm 951-957m 962-963m 981-983m 9BCm 9BE-9C4m
  9C7-9C8m 9CB-9CDm 9D7m 9E2-9E3m 9FEm A01-A03m A3Cm A3E-A42m A47-A48m A4B-A4Dm A51m A70-A71m A75m
  A81-A83m ABCm ABE-AC5m AC7-AC9m ACB-ACDm AE2-AE3m AFA-AFFm B01-B03m B3Cm B3E-B44m B47-B48m
  B4B-B4Dm B55-B57m B62-B63m B82m BBE-BC2m BC6-BC8m BCA-BCDm BD7m C00-C04m C3Cm C3E-C44m C46-C48m
  C4A-C4Dm C55-C56m C62-C63m C81-C83m CBCm CBE-CC4m CC6-CC8m CCA-CCDm CD5-CD6m CE2-CE3m D00-D03m
  D3B-D3Cm D3E-D44m D46-D48m D4A-D4Dm D57m D62-D63m D81-D83m DCAm DCF-DD4m DD6m DD8-DDFm DF2-DF3m
  E31m E34-E3Am E47-E4Em EB1m EB4-EBCm EC8-ECDm F18-F19m F35m F37m F39m F3E-F3Fm F71-F84m F86-F87m
  F8D-F97m F99-FBCm FC6m 102B-103Em 1056-1059m 105E-1060m 1062-1064m 1067-106Dm 1071-1074m
  1082-108Dm 108Fm 109A-109Dm 135D-135Fm 1712-1715m 1732-1734m 1752-1753m 1772-1773m 17B4-17D3m
  17DDm 180B-180Dm 180Fm 1885-1886m 18A9m 1920-192Bm 1930-193Bm 1A17-1A1Bm 1A55-1A5Em 1A60-1A7Cm
  1A7Fm 1AB0-1ACEm 1B00-1B04m 1B34-1B44m 1B6B-1B73m 1B80-1B82m 1BA1-1BADm 1BE6-1BF3m 1C24-1C37m
  1CD0-1CD2m 1CD4-1CE8m 1CEDm 1CF4m 1CF7-1CF9m 1DC0-1DFFm 20D0-20F0m 2CEF-2CF1m 2D7Fm 2DE0-2DFFm
  302A-302Fm 3099-309Am A66F-A672m A674-A67Dm A69E-A69Fm A6F0-A6F1m A802m A806m A80Bm A823-A827m
  A82Cm A880-A881m A8B4-A8C5m A8E0-A8F1m A8FFm A926-A92Dm A947-A953m A980-A983m A9B3-A9C0m A9E5m
  AA29-AA36m AA43m AA4C-AA4Dm AA7B-AA7Dm AAB0m AAB2-AAB4m AAB7-AAB8m AABE-AABFm AAC1m AAEB-AAEFm
  AAF5-AAF6m ABE3-ABEAm ABEC-ABEDm FB1Em FE00-FE0Fm FE20-FE2Fm 101FDm 102E0m 10376-1037Am
  10A01-10A03m 10A05-10A06m 10A0C-10A0Fm 10A38-10A3Am 10A3Fm 10AE5-10AE6m 10D24-10D27m
  10EAB-10EACm 10F46-10F50m 10F82-10F85m 11000-11002m 11038-11046m 11070m 11073-11074m
  1107F-11082m 110B0-110BAm 110C2m 11100-11102m 11127-11134m 11145-11146m 11173m 11180-11182m
  111B3-111C0m 111C9-111CCm 111CE-111CFm 1122C-11237m 1123Em 112DF-112EAm 11300-11303m
  1133B-1133Cm 1133E-11344m 11347-11348m 1134B-1134Dm 11357m 11362-11363m 11366-1136Cm
  11370-11374m 11435-11446m 1145Em 114B0-114C3m 115AF-115B5m 115B8-115C0m 115DC-115DDm
  11630-11640m 116AB-116B7m 1171D-1172Bm 1182C-1183Am 11930-11935m 11937-11938m 1193B-1193Em
  11940m 11942-11943m 119D1-119D7m 119DA-119E0m 119E4m 11A01-11A0Am 11A33-11A39m 11A3B-11A3Em
  11A47m 11A51-11A5Bm 11A8A-11A99m 11C2F-11C36m 11C38-11C3Fm 11C92-11CA7m 11CA9-11CB6m
  11D31-11D36m 11D3Am 11D3C-11D3Dm 11D3F-11D45m 11D47m 11D8A-11D8Em 11D90-11D91m 11D93-11D97m
  11EF3-11EF6m 16AF0-16AF4m 16B30-16B36m 16F4Fm 16F51-16F87m 16F8F-16F92m 16FE4m 16FF0-16FF1m
  1BC9D-1BC9Em 1CF00-1CF2Dm 1CF30-1CF46m 1D165-1D169m 1D16D-1D172m 1D17B-1D182m 1D185-1D18Bm
  1D1AA-1D1ADm 1D242-1D244m 1DA00-1DA36m 1DA3B-1DA6Cm 1DA75m 1DA84m 1DA9B-1DA9Fm 1DAA1-1DAAFm
  1E000-1E006m 1E008-1E018m 1E01B-1E021m 1E023-1E024m 1E026-1E02Am 1E130-1E136m 1E2AEm
  1E2EC-1E2EFm 1E8D0-1E8D6m 1E944-1E94Am E0100-E01EFm"

/-- The ranges of marks. -/
def markRanges : Array TaggedRange := rangesOf markText

/-- Whether a character is a combining mark. -/
def isMark (c : Char) : Bool := (tagOf markRanges c.toNat).isSome

end Sift.Unicode
