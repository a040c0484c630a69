import PanelBoard.Text.Unicode.Table

/-!
# Labels in both directions

A domain name with a right-to-left character must keep the rule of RFC 5893:
each label reads in one direction and begins and ends accordingly.
-/

namespace PanelBoard.Url.Idna

open PanelBoard.Text.Unicode

/-- The bidirectional classes that the rule tells apart. -/
inductive BidiClass where
  | leftToRight
  | rightToLeft
  | arabicLetter
  | arabicNumber
  | europeanNumber
  | europeanSeparator
  | commonSeparator
  | europeanTerminator
  | otherNeutral
  | boundaryNeutral
  | nonspacingMark
  deriving Repr, DecidableEq

/-- The classes by the number that stands for them in the table. -/
def BidiClass.ofCode : Nat → BidiClass
  | 0 => .rightToLeft
  | 1 => .arabicLetter
  | 2 => .arabicNumber
  | 3 => .europeanNumber
  | 4 => .europeanSeparator
  | 5 => .commonSeparator
  | 6 => .europeanTerminator
  | 7 => .otherNeutral
  | 8 => .boundaryNeutral
  | 9 => .nonspacingMark
  | _ => .leftToRight

/-- Ranges of characters that are not left to right. -/
def bidiClasses : Table BidiClass := .ofText (BidiClass.ofCode ∘ hexadecimal)
  "0-8>8 E-1B>8 21-22>7 23-25>6 26-2A>7 2B>4 2C>5 2D>4 2E-2F>5 30-39>3 3A>5 3B-40>7 5B-60>7
  7B-7E>7 7F-84>8 86-9F>8 A0>5 A1>7 A2-A5>6 A6-A9>7 AB-AC>7 AD>8 AE-AF>7 B0-B1>6 B2-B3>3 B4>7
  B6-B8>7 B9>3 BB-BF>7 D7>7 F7>7 2B9-2BA>7 2C2-2CF>7 2D2-2DF>7 2E5-2ED>7 2EF-2FF>7 300-36F>9
  374-375>7 37E>7 384-385>7 387>7 3F6>7 483-489>9 58A>7 58D-58E>7 58F>6 591-5BD>9 5BE>0 5BF>9
  5C0>0 5C1-5C2>9 5C3>0 5C4-5C5>9 5C6>0 5C7>9 5D0-5EA>0 5EF-5F4>0 600-605>2 606-607>7 608>1
  609-60A>6 60B>1 60C>5 60D>1 60E-60F>7 610-61A>9 61B-64A>1 64B-65F>9 660-669>2 66A>6 66B-66C>2
  66D-66F>1 670>9 671-6D5>1 6D6-6DC>9 6DD>2 6DE>7 6DF-6E4>9 6E5-6E6>1 6E7-6E8>9 6E9>7 6EA-6ED>9
  6EE-6EF>1 6F0-6F9>3 6FA-70D>1 70F-710>1 711>9 712-72F>1 730-74A>9 74D-7A5>1 7A6-7B0>9 7B1>1
  7C0-7EA>0 7EB-7F3>9 7F4-7F5>0 7F6-7F9>7 7FA>0 7FD>9 7FE-815>0 816-819>9 81A>0 81B-823>9 824>0
  825-827>9 828>0 829-82D>9 830-83E>0 840-858>0 859-85B>9 85E>0 860-86A>1 870-88E>1 890-891>2
  898-89F>9 8A0-8C9>1 8CA-8E1>9 8E2>2 8E3-902>9 93A>9 93C>9 941-948>9 94D>9 951-957>9 962-963>9
  981>9 9BC>9 9C1-9C4>9 9CD>9 9E2-9E3>9 9F2-9F3>6 9FB>6 9FE>9 A01-A02>9 A3C>9 A41-A42>9
  A47-A48>9 A4B-A4D>9 A51>9 A70-A71>9 A75>9 A81-A82>9 ABC>9 AC1-AC5>9 AC7-AC8>9 ACD>9 AE2-AE3>9
  AF1>6 AFA-AFF>9 B01>9 B3C>9 B3F>9 B41-B44>9 B4D>9 B55-B56>9 B62-B63>9 B82>9 BC0>9 BCD>9
  BF3-BF8>7 BF9>6 BFA>7 C00>9 C04>9 C3C>9 C3E-C40>9 C46-C48>9 C4A-C4D>9 C55-C56>9 C62-C63>9
  C78-C7E>7 C81>9 CBC>9 CCC-CCD>9 CE2-CE3>9 D00-D01>9 D3B-D3C>9 D41-D44>9 D4D>9 D62-D63>9 D81>9
  DCA>9 DD2-DD4>9 DD6>9 E31>9 E34-E3A>9 E3F>6 E47-E4E>9 EB1>9 EB4-EBC>9 EC8-ECD>9 F18-F19>9
  F35>9 F37>9 F39>9 F3A-F3D>7 F71-F7E>9 F80-F84>9 F86-F87>9 F8D-F97>9 F99-FBC>9 FC6>9
  102D-1030>9 1032-1037>9 1039-103A>9 103D-103E>9 1058-1059>9 105E-1060>9 1071-1074>9 1082>9
  1085-1086>9 108D>9 109D>9 135D-135F>9 1390-1399>7 1400>7 169B-169C>7 1712-1714>9 1732-1733>9
  1752-1753>9 1772-1773>9 17B4-17B5>9 17B7-17BD>9 17C6>9 17C9-17D3>9 17DB>6 17DD>9 17F0-17F9>7
  1800-180A>7 180B-180D>9 180E>8 180F>9 1885-1886>9 18A9>9 1920-1922>9 1927-1928>9 1932>9
  1939-193B>9 1940>7 1944-1945>7 19DE-19FF>7 1A17-1A18>9 1A1B>9 1A56>9 1A58-1A5E>9 1A60>9 1A62>9
  1A65-1A6C>9 1A73-1A7C>9 1A7F>9 1AB0-1ACE>9 1B00-1B03>9 1B34>9 1B36-1B3A>9 1B3C>9 1B42>9
  1B6B-1B73>9 1B80-1B81>9 1BA2-1BA5>9 1BA8-1BA9>9 1BAB-1BAD>9 1BE6>9 1BE8-1BE9>9 1BED>9
  1BEF-1BF1>9 1C2C-1C33>9 1C36-1C37>9 1CD0-1CD2>9 1CD4-1CE0>9 1CE2-1CE8>9 1CED>9 1CF4>9
  1CF8-1CF9>9 1DC0-1DFF>9 1FBD>7 1FBF-1FC1>7 1FCD-1FCF>7 1FDD-1FDF>7 1FED-1FEF>7 1FFD-1FFE>7
  200B-200D>8 200F>0 2010-2027>7 202F>5 2030-2034>6 2035-2043>7 2044>5 2045-205E>7 2060-2064>8
  206A-206F>8 2070>3 2074-2079>3 207A-207B>4 207C-207E>7 2080-2089>3 208A-208B>4 208C-208E>7
  20A0-20C0>6 20D0-20F0>9 2100-2101>7 2103-2106>7 2108-2109>7 2114>7 2116-2118>7 211E-2123>7
  2125>7 2127>7 2129>7 212E>6 213A-213B>7 2140-2144>7 214A-214D>7 2150-215F>7 2189-218B>7
  2190-2211>7 2212>4 2213>6 2214-2335>7 237B-2394>7 2396-2426>7 2440-244A>7 2460-2487>7
  2488-249B>3 24EA-26AB>7 26AD-27FF>7 2900-2B73>7 2B76-2B95>7 2B97-2BFF>7 2CE5-2CEA>7
  2CEF-2CF1>9 2CF9-2CFF>7 2D7F>9 2DE0-2DFF>9 2E00-2E5D>7 2E80-2E99>7 2E9B-2EF3>7 2F00-2FD5>7
  2FF0-2FFB>7 3001-3004>7 3008-3020>7 302A-302D>9 3030>7 3036-3037>7 303D-303F>7 3099-309A>9
  309B-309C>7 30A0>7 30FB>7 31C0-31E3>7 321D-321E>7 3250-325F>7 327C-327E>7 32B1-32BF>7
  32CC-32CF>7 3377-337A>7 33DE-33DF>7 33FF>7 4DC0-4DFF>7 A490-A4C6>7 A60D-A60F>7 A66F-A672>9
  A673>7 A674-A67D>9 A67E-A67F>7 A69E-A69F>9 A6F0-A6F1>9 A700-A721>7 A788>7 A802>9 A806>9 A80B>9
  A825-A826>9 A828-A82B>7 A82C>9 A838-A839>6 A874-A877>7 A8C4-A8C5>9 A8E0-A8F1>9 A8FF>9
  A926-A92D>9 A947-A951>9 A980-A982>9 A9B3>9 A9B6-A9B9>9 A9BC-A9BD>9 A9E5>9 AA29-AA2E>9
  AA31-AA32>9 AA35-AA36>9 AA43>9 AA4C>9 AA7C>9 AAB0>9 AAB2-AAB4>9 AAB7-AAB8>9 AABE-AABF>9 AAC1>9
  AAEC-AAED>9 AAF6>9 AB6A-AB6B>7 ABE5>9 ABE8>9 ABED>9 FB1D>0 FB1E>9 FB1F-FB28>0 FB29>4
  FB2A-FB36>0 FB38-FB3C>0 FB3E>0 FB40-FB41>0 FB43-FB44>0 FB46-FB4F>0 FB50-FBC2>1 FBD3-FD3D>1
  FD3E-FD4F>7 FD50-FD8F>1 FD92-FDC7>1 FDCF>7 FDF0-FDFC>1 FDFD-FDFF>7 FE00-FE0F>9 FE10-FE19>7
  FE20-FE2F>9 FE30-FE4F>7 FE50>5 FE51>7 FE52>5 FE54>7 FE55>5 FE56-FE5E>7 FE5F>6 FE60-FE61>7
  FE62-FE63>4 FE64-FE66>7 FE68>7 FE69-FE6A>6 FE6B>7 FE70-FE74>1 FE76-FEFC>1 FEFF>8 FF01-FF02>7
  FF03-FF05>6 FF06-FF0A>7 FF0B>4 FF0C>5 FF0D>4 FF0E-FF0F>5 FF10-FF19>3 FF1A>5 FF1B-FF20>7
  FF3B-FF40>7 FF5B-FF65>7 FFE0-FFE1>6 FFE2-FFE4>7 FFE5-FFE6>6 FFE8-FFEE>7 FFF9-FFFD>7 10101>7
  10140-1018C>7 10190-1019C>7 101A0>7 101FD>9 102E0>9 102E1-102FB>3 10376-1037A>9 10800-10805>0
  10808>0 1080A-10835>0 10837-10838>0 1083C>0 1083F-10855>0 10857-1089E>0 108A7-108AF>0
  108E0-108F2>0 108F4-108F5>0 108FB-1091B>0 1091F>7 10920-10939>0 1093F>0 10980-109B7>0
  109BC-109CF>0 109D2-10A00>0 10A01-10A03>9 10A05-10A06>9 10A0C-10A0F>9 10A10-10A13>0
  10A15-10A17>0 10A19-10A35>0 10A38-10A3A>9 10A3F>9 10A40-10A48>0 10A50-10A58>0 10A60-10A9F>0
  10AC0-10AE4>0 10AE5-10AE6>9 10AEB-10AF6>0 10B00-10B35>0 10B39-10B3F>7 10B40-10B55>0
  10B58-10B72>0 10B78-10B91>0 10B99-10B9C>0 10BA9-10BAF>0 10C00-10C48>0 10C80-10CB2>0
  10CC0-10CF2>0 10CFA-10CFF>0 10D00-10D23>1 10D24-10D27>9 10D30-10D39>2 10E60-10E7E>2
  10E80-10EA9>0 10EAB-10EAC>9 10EAD>0 10EB0-10EB1>0 10F00-10F27>0 10F30-10F45>1 10F46-10F50>9
  10F51-10F59>1 10F70-10F81>0 10F82-10F85>9 10F86-10F89>0 10FB0-10FCB>0 10FE0-10FF6>0 11001>9
  11038-11046>9 11052-11065>7 11070>9 11073-11074>9 1107F-11081>9 110B3-110B6>9 110B9-110BA>9
  110C2>9 11100-11102>9 11127-1112B>9 1112D-11134>9 11173>9 11180-11181>9 111B6-111BE>9
  111C9-111CC>9 111CF>9 1122F-11231>9 11234>9 11236-11237>9 1123E>9 112DF>9 112E3-112EA>9
  11300-11301>9 1133B-1133C>9 11340>9 11366-1136C>9 11370-11374>9 11438-1143F>9 11442-11444>9
  11446>9 1145E>9 114B3-114B8>9 114BA>9 114BF-114C0>9 114C2-114C3>9 115B2-115B5>9 115BC-115BD>9
  115BF-115C0>9 115DC-115DD>9 11633-1163A>9 1163D>9 1163F-11640>9 11660-1166C>7 116AB>9 116AD>9
  116B0-116B5>9 116B7>9 1171D-1171F>9 11722-11725>9 11727-1172B>9 1182F-11837>9 11839-1183A>9
  1193B-1193C>9 1193E>9 11943>9 119D4-119D7>9 119DA-119DB>9 119E0>9 11A01-11A06>9 11A09-11A0A>9
  11A33-11A38>9 11A3B-11A3E>9 11A47>9 11A51-11A56>9 11A59-11A5B>9 11A8A-11A96>9 11A98-11A99>9
  11C30-11C36>9 11C38-11C3D>9 11C92-11CA7>9 11CAA-11CB0>9 11CB2-11CB3>9 11CB5-11CB6>9
  11D31-11D36>9 11D3A>9 11D3C-11D3D>9 11D3F-11D45>9 11D47>9 11D90-11D91>9 11D95>9 11D97>9
  11EF3-11EF4>9 11FD5-11FDC>7 11FDD-11FE0>6 11FE1-11FF1>7 16AF0-16AF4>9 16B30-16B36>9 16F4F>9
  16F8F-16F92>9 16FE2>7 16FE4>9 1BC9D-1BC9E>9 1BCA0-1BCA3>8 1CF00-1CF2D>9 1CF30-1CF46>9
  1D167-1D169>9 1D173-1D17A>8 1D17B-1D182>9 1D185-1D18B>9 1D1AA-1D1AD>9 1D1E9-1D1EA>7
  1D200-1D241>7 1D242-1D244>9 1D245>7 1D300-1D356>7 1D6DB>7 1D715>7 1D74F>7 1D789>7 1D7C3>7
  1D7CE-1D7FF>3 1DA00-1DA36>9 1DA3B-1DA6C>9 1DA75>9 1DA84>9 1DA9B-1DA9F>9 1DAA1-1DAAF>9
  1E000-1E006>9 1E008-1E018>9 1E01B-1E021>9 1E023-1E024>9 1E026-1E02A>9 1E130-1E136>9 1E2AE>9
  1E2EC-1E2EF>9 1E2FF>6 1E800-1E8C4>0 1E8C7-1E8CF>0 1E8D0-1E8D6>9 1E900-1E943>0 1E944-1E94A>9
  1E94B>0 1E950-1E959>0 1E95E-1E95F>0 1EC71-1ECB4>1 1ED01-1ED3D>1 1EE00-1EE03>1 1EE05-1EE1F>1
  1EE21-1EE22>1 1EE24>1 1EE27>1 1EE29-1EE32>1 1EE34-1EE37>1 1EE39>1 1EE3B>1 1EE42>1 1EE47>1
  1EE49>1 1EE4B>1 1EE4D-1EE4F>1 1EE51-1EE52>1 1EE54>1 1EE57>1 1EE59>1 1EE5B>1 1EE5D>1 1EE5F>1
  1EE61-1EE62>1 1EE64>1 1EE67-1EE6A>1 1EE6C-1EE72>1 1EE74-1EE77>1 1EE79-1EE7C>1 1EE7E>1
  1EE80-1EE89>1 1EE8B-1EE9B>1 1EEA1-1EEA3>1 1EEA5-1EEA9>1 1EEAB-1EEBB>1 1EEF0-1EEF1>7
  1F000-1F02B>7 1F030-1F093>7 1F0A0-1F0AE>7 1F0B1-1F0BF>7 1F0C1-1F0CF>7 1F0D1-1F0F5>7
  1F100-1F10A>3 1F10B-1F10F>7 1F12F>7 1F16A-1F16F>7 1F1AD>7 1F260-1F265>7 1F300-1F6D7>7
  1F6DD-1F6EC>7 1F6F0-1F6FC>7 1F700-1F773>7 1F780-1F7D8>7 1F7E0-1F7EB>7 1F7F0>7 1F800-1F80B>7
  1F810-1F847>7 1F850-1F859>7 1F860-1F887>7 1F890-1F8AD>7 1F8B0-1F8B1>7 1F900-1FA53>7
  1FA60-1FA6D>7 1FA70-1FA74>7 1FA78-1FA7C>7 1FA80-1FA86>7 1FA90-1FAAC>7 1FAB0-1FABA>7
  1FAC0-1FAC5>7 1FAD0-1FAD9>7 1FAE0-1FAE7>7 1FAF0-1FAF6>7 1FB00-1FB92>7 1FB94-1FBCA>7
  1FBF0-1FBF9>3 E0001>8 E0020-E007F>8 E0100-E01EF>9"

/-- The class of a character. -/
def bidiClass (c : Char) : BidiClass :=
  ((bidiClasses.find? c.toNat).map Run.value).getD .leftToRight

/-- Does the class make a domain name bidirectional? -/
def BidiClass.isRightToLeft : BidiClass → Bool
  | .rightToLeft | .arabicLetter | .arabicNumber => true
  | _ => false

/-- Is a character of right-to-left text among these? -/
def isBidirectional (cs : List Char) : Bool :=
  cs.any fun c => 0x80 ≤ c.toNat && (bidiClass c).isRightToLeft

/-- Classes allowed in a right-to-left label. -/
def BidiClass.inRightToLeftLabel : BidiClass → Bool
  | .leftToRight => false
  | _ => true

/-- Classes allowed in a left-to-right label. -/
def BidiClass.inLeftToRightLabel : BidiClass → Bool
  | .rightToLeft | .arabicLetter | .arabicNumber => false
  | _ => true

/-- Classes a right-to-left label may end with, nonspacing marks aside. -/
def BidiClass.endsRightToLeft : BidiClass → Bool
  | .rightToLeft | .arabicLetter | .europeanNumber | .arabicNumber => true
  | _ => false

/-- Classes a left-to-right label may end with, nonspacing marks aside. -/
def BidiClass.endsLeftToRight : BidiClass → Bool
  | .leftToRight | .europeanNumber => true
  | _ => false

/-- The rule for one label of a bidirectional domain name. -/
def keepsBidiRule (label : List Char) : Bool :=
  let classes := label.map bidiClass
  let last := (classes.reverse.dropWhile (· == .nonspacingMark)).head?
  match classes with
  | [] => true
  | .leftToRight :: _ =>
    classes.all BidiClass.inLeftToRightLabel && last.any BidiClass.endsLeftToRight
  | .rightToLeft :: _ | .arabicLetter :: _ =>
    classes.all BidiClass.inRightToLeftLabel && last.any BidiClass.endsRightToLeft &&
      !(classes.contains .europeanNumber && classes.contains .arabicNumber)
  | _ => false

end PanelBoard.Url.Idna
