import Percolator.Unicode.CharTable

/-!
# Text segmentation

The values of the three break properties, by their normalized names, with their characters.
-/

namespace Percolator.Unicode

/-- How characters behave at the borders of user-perceived characters. -/
def graphemeBreaks : List (List String × CharTable) := [
  (["cn", "control"], .ofText "
    0-9 B-C E-1F 7F-9F AD 61C 180E 200B 200E-200F 2028-202E 2060-206F FEFF FFF0-FFFB 13430-1343F
    1BCA0-1BCA3 1D173-1D17A E0000-E001F E0080-E00FF E01F0-E0FFF"),
  (["cr"], .ofText "D"),
  (["ex", "extend"], .ofText "
    300-36F 483-489 591-5BD 5BF 5C1-5C2 5C4-5C5 5C7 610-61A 64B-65F 670 6D6-6DC 6DF-6E4 6E7-6E8
    6EA-6ED 711 730-74A 7A6-7B0 7EB-7F3 7FD 816-819 81B-823 825-827 829-82D 859-85B 897-89F
    8CA-8E1 8E3-902 93A 93C 941-948 94D 951-957 962-963 981 9BC 9BE 9C1-9C4 9CD 9D7 9E2-9E3 9FE
    A01-A02 A3C A41-A42 A47-A48 A4B-A4D A51 A70-A71 A75 A81-A82 ABC AC1-AC5 AC7-AC8 ACD AE2-AE3
    AFA-AFF B01 B3C B3E-B3F B41-B44 B4D B55-B57 B62-B63 B82 BBE BC0 BCD BD7 C00 C04 C3C C3E-C40
    C46-C48 C4A-C4D C55-C56 C62-C63 C81 CBC CBF-CC0 CC2 CC6-CC8 CCA-CCD CD5-CD6 CE2-CE3 D00-D01
    D3B-D3C D3E D41-D44 D4D D57 D62-D63 D81 DCA DCF DD2-DD4 DD6 DDF E31 E34-E3A E47-E4E EB1
    EB4-EBC EC8-ECE F18-F19 F35 F37 F39 F71-F7E F80-F84 F86-F87 F8D-F97 F99-FBC FC6 102D-1030
    1032-1037 1039-103A 103D-103E 1058-1059 105E-1060 1071-1074 1082 1085-1086 108D 109D 135D-135F
    1712-1715 1732-1734 1752-1753 1772-1773 17B4-17B5 17B7-17BD 17C6 17C9-17D3 17DD 180B-180D 180F
    1885-1886 18A9 1920-1922 1927-1928 1932 1939-193B 1A17-1A18 1A1B 1A56 1A58-1A5E 1A60 1A62
    1A65-1A6C 1A73-1A7C 1A7F 1AB0-1ACE 1B00-1B03 1B34-1B3D 1B42-1B44 1B6B-1B73 1B80-1B81 1BA2-1BA5
    1BA8-1BAD 1BE6 1BE8-1BE9 1BED 1BEF-1BF3 1C2C-1C33 1C36-1C37 1CD0-1CD2 1CD4-1CE0 1CE2-1CE8 1CED
    1CF4 1CF8-1CF9 1DC0-1DFF 200C 20D0-20F0 2CEF-2CF1 2D7F 2DE0-2DFF 302A-302F 3099-309A A66F-A672
    A674-A67D A69E-A69F A6F0-A6F1 A802 A806 A80B A825-A826 A82C A8C4-A8C5 A8E0-A8F1 A8FF A926-A92D
    A947-A951 A953 A980-A982 A9B3 A9B6-A9B9 A9BC-A9BD A9C0 A9E5 AA29-AA2E AA31-AA32 AA35-AA36 AA43
    AA4C AA7C AAB0 AAB2-AAB4 AAB7-AAB8 AABE-AABF AAC1 AAEC-AAED AAF6 ABE5 ABE8 ABED FB1E FE00-FE0F
    FE20-FE2F FF9E-FF9F 101FD 102E0 10376-1037A 10A01-10A03 10A05-10A06 10A0C-10A0F 10A38-10A3A
    10A3F 10AE5-10AE6 10D24-10D27 10D69-10D6D 10EAB-10EAC 10EFC-10EFF 10F46-10F50 10F82-10F85
    11001 11038-11046 11070 11073-11074 1107F-11081 110B3-110B6 110B9-110BA 110C2 11100-11102
    11127-1112B 1112D-11134 11173 11180-11181 111B6-111BE 111C0 111C9-111CC 111CF 1122F-11231
    11234-11237 1123E 11241 112DF 112E3-112EA 11300-11301 1133B-1133C 1133E 11340 1134D 11357
    11366-1136C 11370-11374 113B8 113BB-113C0 113C2 113C5 113C7-113C9 113CE-113D0 113D2
    113E1-113E2 11438-1143F 11442-11444 11446 1145E 114B0 114B3-114B8 114BA 114BD 114BF-114C0
    114C2-114C3 115AF 115B2-115B5 115BC-115BD 115BF-115C0 115DC-115DD 11633-1163A 1163D
    1163F-11640 116AB 116AD 116B0-116B7 1171D 1171F 11722-11725 11727-1172B 1182F-11837
    11839-1183A 11930 1193B-1193E 11943 119D4-119D7 119DA-119DB 119E0 11A01-11A0A 11A33-11A38
    11A3B-11A3E 11A47 11A51-11A56 11A59-11A5B 11A8A-11A96 11A98-11A99 11C30-11C36 11C38-11C3D
    11C3F 11C92-11CA7 11CAA-11CB0 11CB2-11CB3 11CB5-11CB6 11D31-11D36 11D3A 11D3C-11D3D
    11D3F-11D45 11D47 11D90-11D91 11D95 11D97 11EF3-11EF4 11F00-11F01 11F36-11F3A 11F40-11F42
    11F5A 13440 13447-13455 1611E-16129 1612D-1612F 16AF0-16AF4 16B30-16B36 16F4F 16F8F-16F92
    16FE4 16FF0-16FF1 1BC9D-1BC9E 1CF00-1CF2D 1CF30-1CF46 1D165-1D169 1D16D-1D172 1D17B-1D182
    1D185-1D18B 1D1AA-1D1AD 1D242-1D244 1DA00-1DA36 1DA3B-1DA6C 1DA75 1DA84 1DA9B-1DA9F
    1DAA1-1DAAF 1E000-1E006 1E008-1E018 1E01B-1E021 1E023-1E024 1E026-1E02A 1E08F 1E130-1E136
    1E2AE 1E2EC-1E2EF 1E4EC-1E4EF 1E5EE-1E5EF 1E8D0-1E8D6 1E944-1E94A 1F3FB-1F3FF E0020-E007F
    E0100-E01EF"),
  (["l"], .ofText "1100-115F A960-A97C"),
  (["lf"], .ofText "A"),
  (["lv"], .ofText "
    AC00 AC1C AC38 AC54 AC70 AC8C ACA8 ACC4 ACE0 ACFC AD18 AD34 AD50 AD6C AD88 ADA4 ADC0 ADDC ADF8
    AE14 AE30 AE4C AE68 AE84 AEA0 AEBC AED8 AEF4 AF10 AF2C AF48 AF64 AF80 AF9C AFB8 AFD4 AFF0 B00C
    B028 B044 B060 B07C B098 B0B4 B0D0 B0EC B108 B124 B140 B15C B178 B194 B1B0 B1CC B1E8 B204 B220
    B23C B258 B274 B290 B2AC B2C8 B2E4 B300 B31C B338 B354 B370 B38C B3A8 B3C4 B3E0 B3FC B418 B434
    B450 B46C B488 B4A4 B4C0 B4DC B4F8 B514 B530 B54C B568 B584 B5A0 B5BC B5D8 B5F4 B610 B62C B648
    B664 B680 B69C B6B8 B6D4 B6F0 B70C B728 B744 B760 B77C B798 B7B4 B7D0 B7EC B808 B824 B840 B85C
    B878 B894 B8B0 B8CC B8E8 B904 B920 B93C B958 B974 B990 B9AC B9C8 B9E4 BA00 BA1C BA38 BA54 BA70
    BA8C BAA8 BAC4 BAE0 BAFC BB18 BB34 BB50 BB6C BB88 BBA4 BBC0 BBDC BBF8 BC14 BC30 BC4C BC68 BC84
    BCA0 BCBC BCD8 BCF4 BD10 BD2C BD48 BD64 BD80 BD9C BDB8 BDD4 BDF0 BE0C BE28 BE44 BE60 BE7C BE98
    BEB4 BED0 BEEC BF08 BF24 BF40 BF5C BF78 BF94 BFB0 BFCC BFE8 C004 C020 C03C C058 C074 C090 C0AC
    C0C8 C0E4 C100 C11C C138 C154 C170 C18C C1A8 C1C4 C1E0 C1FC C218 C234 C250 C26C C288 C2A4 C2C0
    C2DC C2F8 C314 C330 C34C C368 C384 C3A0 C3BC C3D8 C3F4 C410 C42C C448 C464 C480 C49C C4B8 C4D4
    C4F0 C50C C528 C544 C560 C57C C598 C5B4 C5D0 C5EC C608 C624 C640 C65C C678 C694 C6B0 C6CC C6E8
    C704 C720 C73C C758 C774 C790 C7AC C7C8 C7E4 C800 C81C C838 C854 C870 C88C C8A8 C8C4 C8E0 C8FC
    C918 C934 C950 C96C C988 C9A4 C9C0 C9DC C9F8 CA14 CA30 CA4C CA68 CA84 CAA0 CABC CAD8 CAF4 CB10
    CB2C CB48 CB64 CB80 CB9C CBB8 CBD4 CBF0 CC0C CC28 CC44 CC60 CC7C CC98 CCB4 CCD0 CCEC CD08 CD24
    CD40 CD5C CD78 CD94 CDB0 CDCC CDE8 CE04 CE20 CE3C CE58 CE74 CE90 CEAC CEC8 CEE4 CF00 CF1C CF38
    CF54 CF70 CF8C CFA8 CFC4 CFE0 CFFC D018 D034 D050 D06C D088 D0A4 D0C0 D0DC D0F8 D114 D130 D14C
    D168 D184 D1A0 D1BC D1D8 D1F4 D210 D22C D248 D264 D280 D29C D2B8 D2D4 D2F0 D30C D328 D344 D360
    D37C D398 D3B4 D3D0 D3EC D408 D424 D440 D45C D478 D494 D4B0 D4CC D4E8 D504 D520 D53C D558 D574
    D590 D5AC D5C8 D5E4 D600 D61C D638 D654 D670 D68C D6A8 D6C4 D6E0 D6FC D718 D734 D750 D76C D788"),
  (["lvt"], .ofText "
    AC01-AC1B AC1D-AC37 AC39-AC53 AC55-AC6F AC71-AC8B AC8D-ACA7 ACA9-ACC3 ACC5-ACDF ACE1-ACFB
    ACFD-AD17 AD19-AD33 AD35-AD4F AD51-AD6B AD6D-AD87 AD89-ADA3 ADA5-ADBF ADC1-ADDB ADDD-ADF7
    ADF9-AE13 AE15-AE2F AE31-AE4B AE4D-AE67 AE69-AE83 AE85-AE9F AEA1-AEBB AEBD-AED7 AED9-AEF3
    AEF5-AF0F AF11-AF2B AF2D-AF47 AF49-AF63 AF65-AF7F AF81-AF9B AF9D-AFB7 AFB9-AFD3 AFD5-AFEF
    AFF1-B00B B00D-B027 B029-B043 B045-B05F B061-B07B B07D-B097 B099-B0B3 B0B5-B0CF B0D1-B0EB
    B0ED-B107 B109-B123 B125-B13F B141-B15B B15D-B177 B179-B193 B195-B1AF B1B1-B1CB B1CD-B1E7
    B1E9-B203 B205-B21F B221-B23B B23D-B257 B259-B273 B275-B28F B291-B2AB B2AD-B2C7 B2C9-B2E3
    B2E5-B2FF B301-B31B B31D-B337 B339-B353 B355-B36F B371-B38B B38D-B3A7 B3A9-B3C3 B3C5-B3DF
    B3E1-B3FB B3FD-B417 B419-B433 B435-B44F B451-B46B B46D-B487 B489-B4A3 B4A5-B4BF B4C1-B4DB
    B4DD-B4F7 B4F9-B513 B515-B52F B531-B54B B54D-B567 B569-B583 B585-B59F B5A1-B5BB B5BD-B5D7
    B5D9-B5F3 B5F5-B60F B611-B62B B62D-B647 B649-B663 B665-B67F B681-B69B B69D-B6B7 B6B9-B6D3
    B6D5-B6EF B6F1-B70B B70D-B727 B729-B743 B745-B75F B761-B77B B77D-B797 B799-B7B3 B7B5-B7CF
    B7D1-B7EB B7ED-B807 B809-B823 B825-B83F B841-B85B B85D-B877 B879-B893 B895-B8AF B8B1-B8CB
    B8CD-B8E7 B8E9-B903 B905-B91F B921-B93B B93D-B957 B959-B973 B975-B98F B991-B9AB B9AD-B9C7
    B9C9-B9E3 B9E5-B9FF BA01-BA1B BA1D-BA37 BA39-BA53 BA55-BA6F BA71-BA8B BA8D-BAA7 BAA9-BAC3
    BAC5-BADF BAE1-BAFB BAFD-BB17 BB19-BB33 BB35-BB4F BB51-BB6B BB6D-BB87 BB89-BBA3 BBA5-BBBF
    BBC1-BBDB BBDD-BBF7 BBF9-BC13 BC15-BC2F BC31-BC4B BC4D-BC67 BC69-BC83 BC85-BC9F BCA1-BCBB
    BCBD-BCD7 BCD9-BCF3 BCF5-BD0F BD11-BD2B BD2D-BD47 BD49-BD63 BD65-BD7F BD81-BD9B BD9D-BDB7
    BDB9-BDD3 BDD5-BDEF BDF1-BE0B BE0D-BE27 BE29-BE43 BE45-BE5F BE61-BE7B BE7D-BE97 BE99-BEB3
    BEB5-BECF BED1-BEEB BEED-BF07 BF09-BF23 BF25-BF3F BF41-BF5B BF5D-BF77 BF79-BF93 BF95-BFAF
    BFB1-BFCB BFCD-BFE7 BFE9-C003 C005-C01F C021-C03B C03D-C057 C059-C073 C075-C08F C091-C0AB
    C0AD-C0C7 C0C9-C0E3 C0E5-C0FF C101-C11B C11D-C137 C139-C153 C155-C16F C171-C18B C18D-C1A7
    C1A9-C1C3 C1C5-C1DF C1E1-C1FB C1FD-C217 C219-C233 C235-C24F C251-C26B C26D-C287 C289-C2A3
    C2A5-C2BF C2C1-C2DB C2DD-C2F7 C2F9-C313 C315-C32F C331-C34B C34D-C367 C369-C383 C385-C39F
    C3A1-C3BB C3BD-C3D7 C3D9-C3F3 C3F5-C40F C411-C42B C42D-C447 C449-C463 C465-C47F C481-C49B
    C49D-C4B7 C4B9-C4D3 C4D5-C4EF C4F1-C50B C50D-C527 C529-C543 C545-C55F C561-C57B C57D-C597
    C599-C5B3 C5B5-C5CF C5D1-C5EB C5ED-C607 C609-C623 C625-C63F C641-C65B C65D-C677 C679-C693
    C695-C6AF C6B1-C6CB C6CD-C6E7 C6E9-C703 C705-C71F C721-C73B C73D-C757 C759-C773 C775-C78F
    C791-C7AB C7AD-C7C7 C7C9-C7E3 C7E5-C7FF C801-C81B C81D-C837 C839-C853 C855-C86F C871-C88B
    C88D-C8A7 C8A9-C8C3 C8C5-C8DF C8E1-C8FB C8FD-C917 C919-C933 C935-C94F C951-C96B C96D-C987
    C989-C9A3 C9A5-C9BF C9C1-C9DB C9DD-C9F7 C9F9-CA13 CA15-CA2F CA31-CA4B CA4D-CA67 CA69-CA83
    CA85-CA9F CAA1-CABB CABD-CAD7 CAD9-CAF3 CAF5-CB0F CB11-CB2B CB2D-CB47 CB49-CB63 CB65-CB7F
    CB81-CB9B CB9D-CBB7 CBB9-CBD3 CBD5-CBEF CBF1-CC0B CC0D-CC27 CC29-CC43 CC45-CC5F CC61-CC7B
    CC7D-CC97 CC99-CCB3 CCB5-CCCF CCD1-CCEB CCED-CD07 CD09-CD23 CD25-CD3F CD41-CD5B CD5D-CD77
    CD79-CD93 CD95-CDAF CDB1-CDCB CDCD-CDE7 CDE9-CE03 CE05-CE1F CE21-CE3B CE3D-CE57 CE59-CE73
    CE75-CE8F CE91-CEAB CEAD-CEC7 CEC9-CEE3 CEE5-CEFF CF01-CF1B CF1D-CF37 CF39-CF53 CF55-CF6F
    CF71-CF8B CF8D-CFA7 CFA9-CFC3 CFC5-CFDF CFE1-CFFB CFFD-D017 D019-D033 D035-D04F D051-D06B
    D06D-D087 D089-D0A3 D0A5-D0BF D0C1-D0DB D0DD-D0F7 D0F9-D113 D115-D12F D131-D14B D14D-D167
    D169-D183 D185-D19F D1A1-D1BB D1BD-D1D7 D1D9-D1F3 D1F5-D20F D211-D22B D22D-D247 D249-D263
    D265-D27F D281-D29B D29D-D2B7 D2B9-D2D3 D2D5-D2EF D2F1-D30B D30D-D327 D329-D343 D345-D35F
    D361-D37B D37D-D397 D399-D3B3 D3B5-D3CF D3D1-D3EB D3ED-D407 D409-D423 D425-D43F D441-D45B
    D45D-D477 D479-D493 D495-D4AF D4B1-D4CB D4CD-D4E7 D4E9-D503 D505-D51F D521-D53B D53D-D557
    D559-D573 D575-D58F D591-D5AB D5AD-D5C7 D5C9-D5E3 D5E5-D5FF D601-D61B D61D-D637 D639-D653
    D655-D66F D671-D68B D68D-D6A7 D6A9-D6C3 D6C5-D6DF D6E1-D6FB D6FD-D717 D719-D733 D735-D74F
    D751-D76B D76D-D787 D789-D7A3"),
  (["pp", "prepend"], .ofText "
    600-605 6DD 70F 890-891 8E2 D4E 110BD 110CD 111C2-111C3 113D1 1193F 11941 11A3A 11A84-11A89
    11D46 11F02"),
  (["ri", "regionalindicator"], .ofText "1F1E6-1F1FF"),
  (["sm", "spacingmark"], .ofText "
    903 93B 93E-940 949-94C 94E-94F 982-983 9BF-9C0 9C7-9C8 9CB-9CC A03 A3E-A40 A83 ABE-AC0 AC9
    ACB-ACC B02-B03 B40 B47-B48 B4B-B4C BBF BC1-BC2 BC6-BC8 BCA-BCC C01-C03 C41-C44 C82-C83 CBE
    CC1 CC3-CC4 CF3 D02-D03 D3F-D40 D46-D48 D4A-D4C D82-D83 DD0-DD1 DD8-DDE DF2-DF3 E33 EB3
    F3E-F3F F7F 1031 103B-103C 1056-1057 1084 17B6 17BE-17C5 17C7-17C8 1923-1926 1929-192B
    1930-1931 1933-1938 1A19-1A1A 1A55 1A57 1A6D-1A72 1B04 1B3E-1B41 1B82 1BA1 1BA6-1BA7 1BE7
    1BEA-1BEC 1BEE 1C24-1C2B 1C34-1C35 1CE1 1CF7 A823-A824 A827 A880-A881 A8B4-A8C3 A952 A983
    A9B4-A9B5 A9BA-A9BB A9BE-A9BF AA2F-AA30 AA33-AA34 AA4D AAEB AAEE-AAEF AAF5 ABE3-ABE4 ABE6-ABE7
    ABE9-ABEA ABEC 11000 11002 11082 110B0-110B2 110B7-110B8 1112C 11145-11146 11182 111B3-111B5
    111BF 111CE 1122C-1122E 11232-11233 112E0-112E2 11302-11303 1133F 11341-11344 11347-11348
    1134B-1134C 11362-11363 113B9-113BA 113CA 113CC-113CD 11435-11437 11440-11441 11445
    114B1-114B2 114B9 114BB-114BC 114BE 114C1 115B0-115B1 115B8-115BB 115BE 11630-11632
    1163B-1163C 1163E 116AC 116AE-116AF 1171E 11726 1182C-1182E 11838 11931-11935 11937-11938
    11940 11942 119D1-119D3 119DC-119DF 119E4 11A39 11A57-11A58 11A97 11C2F 11C3E 11CA9 11CB1
    11CB4 11D8A-11D8E 11D93-11D94 11D96 11EF5-11EF6 11F03 11F34-11F35 11F3E-11F3F 1612A-1612C
    16F51-16F87"),
  (["t"], .ofText "11A8-11FF D7CB-D7FB"),
  (["v"], .ofText "1160-11A7 D7B0-D7C6 16D63 16D67-16D6A"),
  (["zwj"], .ofText "200D")]

/-- How characters behave at the borders of words. -/
def wordBreaks : List (List String × CharTable) := [
  (["le", "aletter"], .ofText "
    41-5A 61-7A AA B5 BA C0-D6 D8-F6 F8-2D7 2DE-2FF 370-374 376-377 37A-37D 37F 386 388-38A 38C
    38E-3A1 3A3-3F5 3F7-481 48A-52F 531-556 559-55C 55E 560-588 58A 5F3 620-64A 66E-66F 671-6D3
    6D5 6E5-6E6 6EE-6EF 6FA-6FC 6FF 70F-710 712-72F 74D-7A5 7B1 7CA-7EA 7F4-7F5 7FA 800-815 81A
    824 828 840-858 860-86A 870-887 889-88E 8A0-8C9 904-939 93D 950 958-961 971-980 985-98C
    98F-990 993-9A8 9AA-9B0 9B2 9B6-9B9 9BD 9CE 9DC-9DD 9DF-9E1 9F0-9F1 9FC A05-A0A A0F-A10
    A13-A28 A2A-A30 A32-A33 A35-A36 A38-A39 A59-A5C A5E A72-A74 A85-A8D A8F-A91 A93-AA8 AAA-AB0
    AB2-AB3 AB5-AB9 ABD AD0 AE0-AE1 AF9 B05-B0C B0F-B10 B13-B28 B2A-B30 B32-B33 B35-B39 B3D
    B5C-B5D B5F-B61 B71 B83 B85-B8A B8E-B90 B92-B95 B99-B9A B9C B9E-B9F BA3-BA4 BA8-BAA BAE-BB9
    BD0 C05-C0C C0E-C10 C12-C28 C2A-C39 C3D C58-C5A C5D C60-C61 C80 C85-C8C C8E-C90 C92-CA8
    CAA-CB3 CB5-CB9 CBD CDD-CDE CE0-CE1 CF1-CF2 D04-D0C D0E-D10 D12-D3A D3D D4E D54-D56 D5F-D61
    D7A-D7F D85-D96 D9A-DB1 DB3-DBB DBD DC0-DC6 F00 F40-F47 F49-F6C F88-F8C 10A0-10C5 10C7 10CD
    10D0-10FA 10FC-1248 124A-124D 1250-1256 1258 125A-125D 1260-1288 128A-128D 1290-12B0 12B2-12B5
    12B8-12BE 12C0 12C2-12C5 12C8-12D6 12D8-1310 1312-1315 1318-135A 1380-138F 13A0-13F5 13F8-13FD
    1401-166C 166F-167F 1681-169A 16A0-16EA 16EE-16F8 1700-1711 171F-1731 1740-1751 1760-176C
    176E-1770 1820-1878 1880-1884 1887-18A8 18AA 18B0-18F5 1900-191E 1A00-1A16 1B05-1B33 1B45-1B4C
    1B83-1BA0 1BAE-1BAF 1BBA-1BE5 1C00-1C23 1C4D-1C4F 1C5A-1C7D 1C80-1C8A 1C90-1CBA 1CBD-1CBF
    1CE9-1CEC 1CEE-1CF3 1CF5-1CF6 1CFA 1D00-1DBF 1E00-1F15 1F18-1F1D 1F20-1F45 1F48-1F4D 1F50-1F57
    1F59 1F5B 1F5D 1F5F-1F7D 1F80-1FB4 1FB6-1FBC 1FBE 1FC2-1FC4 1FC6-1FCC 1FD0-1FD3 1FD6-1FDB
    1FE0-1FEC 1FF2-1FF4 1FF6-1FFC 2071 207F 2090-209C 2102 2107 210A-2113 2115 2119-211D 2124 2126
    2128 212A-212D 212F-2139 213C-213F 2145-2149 214E 2160-2188 24B6-24E9 2C00-2CE4 2CEB-2CEE
    2CF2-2CF3 2D00-2D25 2D27 2D2D 2D30-2D67 2D6F 2D80-2D96 2DA0-2DA6 2DA8-2DAE 2DB0-2DB6 2DB8-2DBE
    2DC0-2DC6 2DC8-2DCE 2DD0-2DD6 2DD8-2DDE 2E2F 3005 303B-303C 3105-312F 3131-318E 31A0-31BF
    A000-A48C A4D0-A4FD A500-A60C A610-A61F A62A-A62B A640-A66E A67F-A69D A6A0-A6EF A708-A7CD
    A7D0-A7D1 A7D3 A7D5-A7DC A7F2-A801 A803-A805 A807-A80A A80C-A822 A840-A873 A882-A8B3 A8F2-A8F7
    A8FB A8FD-A8FE A90A-A925 A930-A946 A960-A97C A984-A9B2 A9CF AA00-AA28 AA40-AA42 AA44-AA4B
    AAE0-AAEA AAF2-AAF4 AB01-AB06 AB09-AB0E AB11-AB16 AB20-AB26 AB28-AB2E AB30-AB69 AB70-ABE2
    AC00-D7A3 D7B0-D7C6 D7CB-D7FB FB00-FB06 FB13-FB17 FB50-FBB1 FBD3-FD3D FD50-FD8F FD92-FDC7
    FDF0-FDFB FE70-FE74 FE76-FEFC FF21-FF3A FF41-FF5A FFA0-FFBE FFC2-FFC7 FFCA-FFCF FFD2-FFD7
    FFDA-FFDC 10000-1000B 1000D-10026 10028-1003A 1003C-1003D 1003F-1004D 10050-1005D 10080-100FA
    10140-10174 10280-1029C 102A0-102D0 10300-1031F 1032D-1034A 10350-10375 10380-1039D
    103A0-103C3 103C8-103CF 103D1-103D5 10400-1049D 104B0-104D3 104D8-104FB 10500-10527
    10530-10563 10570-1057A 1057C-1058A 1058C-10592 10594-10595 10597-105A1 105A3-105B1
    105B3-105B9 105BB-105BC 105C0-105F3 10600-10736 10740-10755 10760-10767 10780-10785
    10787-107B0 107B2-107BA 10800-10805 10808 1080A-10835 10837-10838 1083C 1083F-10855
    10860-10876 10880-1089E 108E0-108F2 108F4-108F5 10900-10915 10920-10939 10980-109B7
    109BE-109BF 10A00 10A10-10A13 10A15-10A17 10A19-10A35 10A60-10A7C 10A80-10A9C 10AC0-10AC7
    10AC9-10AE4 10B00-10B35 10B40-10B55 10B60-10B72 10B80-10B91 10C00-10C48 10C80-10CB2
    10CC0-10CF2 10D00-10D23 10D4A-10D65 10D6F-10D85 10E80-10EA9 10EB0-10EB1 10EC2-10EC4
    10F00-10F1C 10F27 10F30-10F45 10F70-10F81 10FB0-10FC4 10FE0-10FF6 11003-11037 11071-11072
    11075 11083-110AF 110D0-110E8 11103-11126 11144 11147 11150-11172 11176 11183-111B2
    111C1-111C4 111DA 111DC 11200-11211 11213-1122B 1123F-11240 11280-11286 11288 1128A-1128D
    1128F-1129D 1129F-112A8 112B0-112DE 11305-1130C 1130F-11310 11313-11328 1132A-11330
    11332-11333 11335-11339 1133D 11350 1135D-11361 11380-11389 1138B 1138E 11390-113B5 113B7
    113D1 113D3 11400-11434 11447-1144A 1145F-11461 11480-114AF 114C4-114C5 114C7 11580-115AE
    115D8-115DB 11600-1162F 11644 11680-116AA 116B8 11800-1182B 118A0-118DF 118FF-11906 11909
    1190C-11913 11915-11916 11918-1192F 1193F 11941 119A0-119A7 119AA-119D0 119E1 119E3 11A00
    11A0B-11A32 11A3A 11A50 11A5C-11A89 11A9D 11AB0-11AF8 11BC0-11BE0 11C00-11C08 11C0A-11C2E
    11C40 11C72-11C8F 11D00-11D06 11D08-11D09 11D0B-11D30 11D46 11D60-11D65 11D67-11D68
    11D6A-11D89 11D98 11EE0-11EF2 11F02 11F04-11F10 11F12-11F33 11FB0 12000-12399 12400-1246E
    12480-12543 12F90-12FF0 13000-1342F 13441-13446 13460-143FA 14400-14646 16100-1611D
    16800-16A38 16A40-16A5E 16A70-16ABE 16AD0-16AED 16B00-16B2F 16B40-16B43 16B63-16B77
    16B7D-16B8F 16D40-16D6C 16E40-16E7F 16F00-16F4A 16F50 16F93-16F9F 16FE0-16FE1 16FE3
    1BC00-1BC6A 1BC70-1BC7C 1BC80-1BC88 1BC90-1BC99 1D400-1D454 1D456-1D49C 1D49E-1D49F 1D4A2
    1D4A5-1D4A6 1D4A9-1D4AC 1D4AE-1D4B9 1D4BB 1D4BD-1D4C3 1D4C5-1D505 1D507-1D50A 1D50D-1D514
    1D516-1D51C 1D51E-1D539 1D53B-1D53E 1D540-1D544 1D546 1D54A-1D550 1D552-1D6A5 1D6A8-1D6C0
    1D6C2-1D6DA 1D6DC-1D6FA 1D6FC-1D714 1D716-1D734 1D736-1D74E 1D750-1D76E 1D770-1D788
    1D78A-1D7A8 1D7AA-1D7C2 1D7C4-1D7CB 1DF00-1DF1E 1DF25-1DF2A 1E030-1E06D 1E100-1E12C
    1E137-1E13D 1E14E 1E290-1E2AD 1E2C0-1E2EB 1E4D0-1E4EB 1E5D0-1E5ED 1E5F0 1E7E0-1E7E6
    1E7E8-1E7EB 1E7ED-1E7EE 1E7F0-1E7FE 1E800-1E8C4 1E900-1E943 1E94B 1EE00-1EE03 1EE05-1EE1F
    1EE21-1EE22 1EE24 1EE27 1EE29-1EE32 1EE34-1EE37 1EE39 1EE3B 1EE42 1EE47 1EE49 1EE4B
    1EE4D-1EE4F 1EE51-1EE52 1EE54 1EE57 1EE59 1EE5B 1EE5D 1EE5F 1EE61-1EE62 1EE64 1EE67-1EE6A
    1EE6C-1EE72 1EE74-1EE77 1EE79-1EE7C 1EE7E 1EE80-1EE89 1EE8B-1EE9B 1EEA1-1EEA3 1EEA5-1EEA9
    1EEAB-1EEBB 1F130-1F149 1F150-1F169 1F170-1F189"),
  (["cr"], .ofText "D"),
  (["dq", "doublequote"], .ofText "22"),
  (["extend"], .ofText "
    300-36F 483-489 591-5BD 5BF 5C1-5C2 5C4-5C5 5C7 610-61A 64B-65F 670 6D6-6DC 6DF-6E4 6E7-6E8
    6EA-6ED 711 730-74A 7A6-7B0 7EB-7F3 7FD 816-819 81B-823 825-827 829-82D 859-85B 897-89F
    8CA-8E1 8E3-903 93A-93C 93E-94F 951-957 962-963 981-983 9BC 9BE-9C4 9C7-9C8 9CB-9CD 9D7
    9E2-9E3 9FE A01-A03 A3C A3E-A42 A47-A48 A4B-A4D A51 A70-A71 A75 A81-A83 ABC ABE-AC5 AC7-AC9
    ACB-ACD AE2-AE3 AFA-AFF B01-B03 B3C B3E-B44 B47-B48 B4B-B4D B55-B57 B62-B63 B82 BBE-BC2
    BC6-BC8 BCA-BCD BD7 C00-C04 C3C C3E-C44 C46-C48 C4A-C4D C55-C56 C62-C63 C81-C83 CBC CBE-CC4
    CC6-CC8 CCA-CCD CD5-CD6 CE2-CE3 CF3 D00-D03 D3B-D3C D3E-D44 D46-D48 D4A-D4D D57 D62-D63
    D81-D83 DCA DCF-DD4 DD6 DD8-DDF DF2-DF3 E31 E34-E3A E47-E4E EB1 EB4-EBC EC8-ECE F18-F19 F35
    F37 F39 F3E-F3F F71-F84 F86-F87 F8D-F97 F99-FBC FC6 102B-103E 1056-1059 105E-1060 1062-1064
    1067-106D 1071-1074 1082-108D 108F 109A-109D 135D-135F 1712-1715 1732-1734 1752-1753 1772-1773
    17B4-17D3 17DD 180B-180D 180F 1885-1886 18A9 1920-192B 1930-193B 1A17-1A1B 1A55-1A5E 1A60-1A7C
    1A7F 1AB0-1ACE 1B00-1B04 1B34-1B44 1B6B-1B73 1B80-1B82 1BA1-1BAD 1BE6-1BF3 1C24-1C37 1CD0-1CD2
    1CD4-1CE8 1CED 1CF4 1CF7-1CF9 1DC0-1DFF 200C 20D0-20F0 2CEF-2CF1 2D7F 2DE0-2DFF 302A-302F
    3099-309A A66F-A672 A674-A67D A69E-A69F A6F0-A6F1 A802 A806 A80B A823-A827 A82C A880-A881
    A8B4-A8C5 A8E0-A8F1 A8FF A926-A92D A947-A953 A980-A983 A9B3-A9C0 A9E5 AA29-AA36 AA43 AA4C-AA4D
    AA7B-AA7D AAB0 AAB2-AAB4 AAB7-AAB8 AABE-AABF AAC1 AAEB-AAEF AAF5-AAF6 ABE3-ABEA ABEC-ABED FB1E
    FE00-FE0F FE20-FE2F FF9E-FF9F 101FD 102E0 10376-1037A 10A01-10A03 10A05-10A06 10A0C-10A0F
    10A38-10A3A 10A3F 10AE5-10AE6 10D24-10D27 10D69-10D6D 10EAB-10EAC 10EFC-10EFF 10F46-10F50
    10F82-10F85 11000-11002 11038-11046 11070 11073-11074 1107F-11082 110B0-110BA 110C2
    11100-11102 11127-11134 11145-11146 11173 11180-11182 111B3-111C0 111C9-111CC 111CE-111CF
    1122C-11237 1123E 11241 112DF-112EA 11300-11303 1133B-1133C 1133E-11344 11347-11348
    1134B-1134D 11357 11362-11363 11366-1136C 11370-11374 113B8-113C0 113C2 113C5 113C7-113CA
    113CC-113D0 113D2 113E1-113E2 11435-11446 1145E 114B0-114C3 115AF-115B5 115B8-115C0
    115DC-115DD 11630-11640 116AB-116B7 1171D-1172B 1182C-1183A 11930-11935 11937-11938
    1193B-1193E 11940 11942-11943 119D1-119D7 119DA-119E0 119E4 11A01-11A0A 11A33-11A39
    11A3B-11A3E 11A47 11A51-11A5B 11A8A-11A99 11C2F-11C36 11C38-11C3F 11C92-11CA7 11CA9-11CB6
    11D31-11D36 11D3A 11D3C-11D3D 11D3F-11D45 11D47 11D8A-11D8E 11D90-11D91 11D93-11D97
    11EF3-11EF6 11F00-11F01 11F03 11F34-11F3A 11F3E-11F42 11F5A 13440 13447-13455 1611E-1612F
    16AF0-16AF4 16B30-16B36 16F4F 16F51-16F87 16F8F-16F92 16FE4 16FF0-16FF1 1BC9D-1BC9E
    1CF00-1CF2D 1CF30-1CF46 1D165-1D169 1D16D-1D172 1D17B-1D182 1D185-1D18B 1D1AA-1D1AD
    1D242-1D244 1DA00-1DA36 1DA3B-1DA6C 1DA75 1DA84 1DA9B-1DA9F 1DAA1-1DAAF 1E000-1E006
    1E008-1E018 1E01B-1E021 1E023-1E024 1E026-1E02A 1E08F 1E130-1E136 1E2AE 1E2EC-1E2EF
    1E4EC-1E4EF 1E5EE-1E5EF 1E8D0-1E8D6 1E944-1E94A 1F3FB-1F3FF E0020-E007F E0100-E01EF"),
  (["ex", "extendnumlet"], .ofText "5F 202F 203F-2040 2054 FE33-FE34 FE4D-FE4F FF3F"),
  (["fo", "format"], .ofText "
    AD 61C 180E 200E-200F 202A-202E 2060-2064 2066-206F FEFF FFF9-FFFB 13430-1343F 1BCA0-1BCA3
    1D173-1D17A E0001"),
  (["hl", "hebrewletter"], .ofText "
    5D0-5EA 5EF-5F2 FB1D FB1F-FB28 FB2A-FB36 FB38-FB3C FB3E FB40-FB41 FB43-FB44 FB46-FB4F"),
  (["ka", "katakana"], .ofText "
    3031-3035 309B-309C 30A0-30FA 30FC-30FF 31F0-31FF 32D0-32FE 3300-3357 FF66-FF9D 1AFF0-1AFF3
    1AFF5-1AFFB 1AFFD-1AFFE 1B000 1B120-1B122 1B155 1B164-1B167"),
  (["lf"], .ofText "A"),
  (["ml", "midletter"], .ofText "3A B7 387 55F 5F4 2027 FE13 FE55 FF1A"),
  (["mn", "midnum"], .ofText "2C 3B 37E 589 60C-60D 66C 7F8 2044 FE50 FE54 FF0C FF1B"),
  (["mb", "midnumlet"], .ofText "2E 2018-2019 2024 FE52 FF07 FF0E"),
  (["nl", "newline"], .ofText "B-C 85 2028-2029"),
  (["nu", "numeric"], .ofText "
    30-39 600-605 660-669 66B 6DD 6F0-6F9 7C0-7C9 890-891 8E2 966-96F 9E6-9EF A66-A6F AE6-AEF
    B66-B6F BE6-BEF C66-C6F CE6-CEF D66-D6F DE6-DEF E50-E59 ED0-ED9 F20-F29 1040-1049 1090-1099
    17E0-17E9 1810-1819 1946-194F 19D0-19DA 1A80-1A89 1A90-1A99 1B50-1B59 1BB0-1BB9 1C40-1C49
    1C50-1C59 A620-A629 A8D0-A8D9 A900-A909 A9D0-A9D9 A9F0-A9F9 AA50-AA59 ABF0-ABF9 FF10-FF19
    104A0-104A9 10D30-10D39 10D40-10D49 11066-1106F 110BD 110CD 110F0-110F9 11136-1113F
    111D0-111D9 112F0-112F9 11450-11459 114D0-114D9 11650-11659 116C0-116C9 116D0-116E3
    11730-11739 118E0-118E9 11950-11959 11BF0-11BF9 11C50-11C59 11D50-11D59 11DA0-11DA9
    11F50-11F59 16130-16139 16A60-16A69 16AC0-16AC9 16B50-16B59 16D70-16D79 1CCF0-1CCF9
    1D7CE-1D7FF 1E140-1E149 1E2F0-1E2F9 1E4F0-1E4F9 1E5F1-1E5FA 1E950-1E959 1FBF0-1FBF9"),
  (["ri", "regionalindicator"], .ofText "1F1E6-1F1FF"),
  (["sq", "singlequote"], .ofText "27"),
  (["wsegspace"], .ofText "20 1680 2000-2006 2008-200A 205F 3000"),
  (["zwj"], .ofText "200D")]

/-- How characters behave at the borders of sentences. -/
def sentenceBreaks : List (List String × CharTable) := [
  (["at", "aterm"], .ofText "2E 2024 FE52 FF0E"),
  (["cl", "close"], .ofText "
    22 27-29 5B 5D 7B 7D AB BB F3A-F3D 169B-169C 2018-201F 2039-203A 2045-2046 207D-207E 208D-208E
    2308-230B 2329-232A 275B-2760 2768-2775 27C5-27C6 27E6-27EF 2983-2998 29D8-29DB 29FC-29FD
    2E00-2E0D 2E1C-2E1D 2E20-2E29 2E42 2E55-2E5C 3008-3011 3014-301B 301D-301F FD3E-FD3F FE17-FE18
    FE35-FE44 FE47-FE48 FE59-FE5E FF08-FF09 FF3B FF3D FF5B FF5D FF5F-FF60 FF62-FF63 1F676-1F678"),
  (["cr"], .ofText "D"),
  (["ex", "extend"], .ofText "
    300-36F 483-489 591-5BD 5BF 5C1-5C2 5C4-5C5 5C7 610-61A 64B-65F 670 6D6-6DC 6DF-6E4 6E7-6E8
    6EA-6ED 711 730-74A 7A6-7B0 7EB-7F3 7FD 816-819 81B-823 825-827 829-82D 859-85B 897-89F
    8CA-8E1 8E3-903 93A-93C 93E-94F 951-957 962-963 981-983 9BC 9BE-9C4 9C7-9C8 9CB-9CD 9D7
    9E2-9E3 9FE A01-A03 A3C A3E-A42 A47-A48 A4B-A4D A51 A70-A71 A75 A81-A83 ABC ABE-AC5 AC7-AC9
    ACB-ACD AE2-AE3 AFA-AFF B01-B03 B3C B3E-B44 B47-B48 B4B-B4D B55-B57 B62-B63 B82 BBE-BC2
    BC6-BC8 BCA-BCD BD7 C00-C04 C3C C3E-C44 C46-C48 C4A-C4D C55-C56 C62-C63 C81-C83 CBC CBE-CC4
    CC6-CC8 CCA-CCD CD5-CD6 CE2-CE3 CF3 D00-D03 D3B-D3C D3E-D44 D46-D48 D4A-D4D D57 D62-D63
    D81-D83 DCA DCF-DD4 DD6 DD8-DDF DF2-DF3 E31 E34-E3A E47-E4E EB1 EB4-EBC EC8-ECE F18-F19 F35
    F37 F39 F3E-F3F F71-F84 F86-F87 F8D-F97 F99-FBC FC6 102B-103E 1056-1059 105E-1060 1062-1064
    1067-106D 1071-1074 1082-108D 108F 109A-109D 135D-135F 1712-1715 1732-1734 1752-1753 1772-1773
    17B4-17D3 17DD 180B-180D 180F 1885-1886 18A9 1920-192B 1930-193B 1A17-1A1B 1A55-1A5E 1A60-1A7C
    1A7F 1AB0-1ACE 1B00-1B04 1B34-1B44 1B6B-1B73 1B80-1B82 1BA1-1BAD 1BE6-1BF3 1C24-1C37 1CD0-1CD2
    1CD4-1CE8 1CED 1CF4 1CF7-1CF9 1DC0-1DFF 200C-200D 20D0-20F0 2CEF-2CF1 2D7F 2DE0-2DFF 302A-302F
    3099-309A A66F-A672 A674-A67D A69E-A69F A6F0-A6F1 A802 A806 A80B A823-A827 A82C A880-A881
    A8B4-A8C5 A8E0-A8F1 A8FF A926-A92D A947-A953 A980-A983 A9B3-A9C0 A9E5 AA29-AA36 AA43 AA4C-AA4D
    AA7B-AA7D AAB0 AAB2-AAB4 AAB7-AAB8 AABE-AABF AAC1 AAEB-AAEF AAF5-AAF6 ABE3-ABEA ABEC-ABED FB1E
    FE00-FE0F FE20-FE2F FF9E-FF9F 101FD 102E0 10376-1037A 10A01-10A03 10A05-10A06 10A0C-10A0F
    10A38-10A3A 10A3F 10AE5-10AE6 10D24-10D27 10D69-10D6D 10EAB-10EAC 10EFC-10EFF 10F46-10F50
    10F82-10F85 11000-11002 11038-11046 11070 11073-11074 1107F-11082 110B0-110BA 110C2
    11100-11102 11127-11134 11145-11146 11173 11180-11182 111B3-111C0 111C9-111CC 111CE-111CF
    1122C-11237 1123E 11241 112DF-112EA 11300-11303 1133B-1133C 1133E-11344 11347-11348
    1134B-1134D 11357 11362-11363 11366-1136C 11370-11374 113B8-113C0 113C2 113C5 113C7-113CA
    113CC-113D0 113D2 113E1-113E2 11435-11446 1145E 114B0-114C3 115AF-115B5 115B8-115C0
    115DC-115DD 11630-11640 116AB-116B7 1171D-1172B 1182C-1183A 11930-11935 11937-11938
    1193B-1193E 11940 11942-11943 119D1-119D7 119DA-119E0 119E4 11A01-11A0A 11A33-11A39
    11A3B-11A3E 11A47 11A51-11A5B 11A8A-11A99 11C2F-11C36 11C38-11C3F 11C92-11CA7 11CA9-11CB6
    11D31-11D36 11D3A 11D3C-11D3D 11D3F-11D45 11D47 11D8A-11D8E 11D90-11D91 11D93-11D97
    11EF3-11EF6 11F00-11F01 11F03 11F34-11F3A 11F3E-11F42 11F5A 13440 13447-13455 1611E-1612F
    16AF0-16AF4 16B30-16B36 16F4F 16F51-16F87 16F8F-16F92 16FE4 16FF0-16FF1 1BC9D-1BC9E
    1CF00-1CF2D 1CF30-1CF46 1D165-1D169 1D16D-1D172 1D17B-1D182 1D185-1D18B 1D1AA-1D1AD
    1D242-1D244 1DA00-1DA36 1DA3B-1DA6C 1DA75 1DA84 1DA9B-1DA9F 1DAA1-1DAAF 1E000-1E006
    1E008-1E018 1E01B-1E021 1E023-1E024 1E026-1E02A 1E08F 1E130-1E136 1E2AE 1E2EC-1E2EF
    1E4EC-1E4EF 1E5EE-1E5EF 1E8D0-1E8D6 1E944-1E94A E0020-E007F E0100-E01EF"),
  (["fo", "format"], .ofText "
    AD 61C 70F 180E 200B 200E-200F 202A-202E 2060-2064 2066-206F FEFF FFF9-FFFB 13430-1343F
    1BCA0-1BCA3 1D173-1D17A E0001"),
  (["lf"], .ofText "A"),
  (["lo", "lower"], .ofText "
    61-7A AA B5 BA DF-F6 F8-FF 101 103 105 107 109 10B 10D 10F 111 113 115 117 119 11B 11D 11F 121
    123 125 127 129 12B 12D 12F 131 133 135 137-138 13A 13C 13E 140 142 144 146 148-149 14B 14D
    14F 151 153 155 157 159 15B 15D 15F 161 163 165 167 169 16B 16D 16F 171 173 175 177 17A 17C
    17E-180 183 185 188 18C-18D 192 195 199-19B 19E 1A1 1A3 1A5 1A8 1AA-1AB 1AD 1B0 1B4 1B6
    1B9-1BA 1BD-1BF 1C6 1C9 1CC 1CE 1D0 1D2 1D4 1D6 1D8 1DA 1DC-1DD 1DF 1E1 1E3 1E5 1E7 1E9 1EB
    1ED 1EF-1F0 1F3 1F5 1F9 1FB 1FD 1FF 201 203 205 207 209 20B 20D 20F 211 213 215 217 219 21B
    21D 21F 221 223 225 227 229 22B 22D 22F 231 233-239 23C 23F-240 242 247 249 24B 24D 24F-293
    295-2B8 2C0-2C1 2E0-2E4 371 373 377 37A-37D 390 3AC-3CE 3D0-3D1 3D5-3D7 3D9 3DB 3DD 3DF 3E1
    3E3 3E5 3E7 3E9 3EB 3ED 3EF-3F3 3F5 3F8 3FB-3FC 430-45F 461 463 465 467 469 46B 46D 46F 471
    473 475 477 479 47B 47D 47F 481 48B 48D 48F 491 493 495 497 499 49B 49D 49F 4A1 4A3 4A5 4A7
    4A9 4AB 4AD 4AF 4B1 4B3 4B5 4B7 4B9 4BB 4BD 4BF 4C2 4C4 4C6 4C8 4CA 4CC 4CE-4CF 4D1 4D3 4D5
    4D7 4D9 4DB 4DD 4DF 4E1 4E3 4E5 4E7 4E9 4EB 4ED 4EF 4F1 4F3 4F5 4F7 4F9 4FB 4FD 4FF 501 503
    505 507 509 50B 50D 50F 511 513 515 517 519 51B 51D 51F 521 523 525 527 529 52B 52D 52F
    560-588 10FC 13F8-13FD 1C80-1C88 1C8A 1D00-1DBF 1E01 1E03 1E05 1E07 1E09 1E0B 1E0D 1E0F 1E11
    1E13 1E15 1E17 1E19 1E1B 1E1D 1E1F 1E21 1E23 1E25 1E27 1E29 1E2B 1E2D 1E2F 1E31 1E33 1E35 1E37
    1E39 1E3B 1E3D 1E3F 1E41 1E43 1E45 1E47 1E49 1E4B 1E4D 1E4F 1E51 1E53 1E55 1E57 1E59 1E5B 1E5D
    1E5F 1E61 1E63 1E65 1E67 1E69 1E6B 1E6D 1E6F 1E71 1E73 1E75 1E77 1E79 1E7B 1E7D 1E7F 1E81 1E83
    1E85 1E87 1E89 1E8B 1E8D 1E8F 1E91 1E93 1E95-1E9D 1E9F 1EA1 1EA3 1EA5 1EA7 1EA9 1EAB 1EAD 1EAF
    1EB1 1EB3 1EB5 1EB7 1EB9 1EBB 1EBD 1EBF 1EC1 1EC3 1EC5 1EC7 1EC9 1ECB 1ECD 1ECF 1ED1 1ED3 1ED5
    1ED7 1ED9 1EDB 1EDD 1EDF 1EE1 1EE3 1EE5 1EE7 1EE9 1EEB 1EED 1EEF 1EF1 1EF3 1EF5 1EF7 1EF9 1EFB
    1EFD 1EFF-1F07 1F10-1F15 1F20-1F27 1F30-1F37 1F40-1F45 1F50-1F57 1F60-1F67 1F70-1F7D 1F80-1F87
    1F90-1F97 1FA0-1FA7 1FB0-1FB4 1FB6-1FB7 1FBE 1FC2-1FC4 1FC6-1FC7 1FD0-1FD3 1FD6-1FD7 1FE0-1FE7
    1FF2-1FF4 1FF6-1FF7 2071 207F 2090-209C 210A 210E-210F 2113 212F 2134 2139 213C-213D 2146-2149
    214E 2170-217F 2184 24D0-24E9 2C30-2C5F 2C61 2C65-2C66 2C68 2C6A 2C6C 2C71 2C73-2C74 2C76-2C7D
    2C81 2C83 2C85 2C87 2C89 2C8B 2C8D 2C8F 2C91 2C93 2C95 2C97 2C99 2C9B 2C9D 2C9F 2CA1 2CA3 2CA5
    2CA7 2CA9 2CAB 2CAD 2CAF 2CB1 2CB3 2CB5 2CB7 2CB9 2CBB 2CBD 2CBF 2CC1 2CC3 2CC5 2CC7 2CC9 2CCB
    2CCD 2CCF 2CD1 2CD3 2CD5 2CD7 2CD9 2CDB 2CDD 2CDF 2CE1 2CE3-2CE4 2CEC 2CEE 2CF3 2D00-2D25 2D27
    2D2D A641 A643 A645 A647 A649 A64B A64D A64F A651 A653 A655 A657 A659 A65B A65D A65F A661 A663
    A665 A667 A669 A66B A66D A681 A683 A685 A687 A689 A68B A68D A68F A691 A693 A695 A697 A699
    A69B-A69D A723 A725 A727 A729 A72B A72D A72F-A731 A733 A735 A737 A739 A73B A73D A73F A741 A743
    A745 A747 A749 A74B A74D A74F A751 A753 A755 A757 A759 A75B A75D A75F A761 A763 A765 A767 A769
    A76B A76D A76F-A778 A77A A77C A77F A781 A783 A785 A787 A78C A78E A791 A793-A795 A797 A799 A79B
    A79D A79F A7A1 A7A3 A7A5 A7A7 A7A9 A7AF A7B5 A7B7 A7B9 A7BB A7BD A7BF A7C1 A7C3 A7C8 A7CA A7CD
    A7D1 A7D3 A7D5 A7D7 A7D9 A7DB A7F2-A7F4 A7F6 A7F8-A7FA AB30-AB5A AB5C-AB69 AB70-ABBF FB00-FB06
    FB13-FB17 FF41-FF5A 10428-1044F 104D8-104FB 10597-105A1 105A3-105B1 105B3-105B9 105BB-105BC
    10780 10783-10785 10787-107B0 107B2-107BA 10CC0-10CF2 10D70-10D85 118C0-118DF 16E60-16E7F
    1D41A-1D433 1D44E-1D454 1D456-1D467 1D482-1D49B 1D4B6-1D4B9 1D4BB 1D4BD-1D4C3 1D4C5-1D4CF
    1D4EA-1D503 1D51E-1D537 1D552-1D56B 1D586-1D59F 1D5BA-1D5D3 1D5EE-1D607 1D622-1D63B
    1D656-1D66F 1D68A-1D6A5 1D6C2-1D6DA 1D6DC-1D6E1 1D6FC-1D714 1D716-1D71B 1D736-1D74E
    1D750-1D755 1D770-1D788 1D78A-1D78F 1D7AA-1D7C2 1D7C4-1D7C9 1D7CB 1DF00-1DF09 1DF0B-1DF1E
    1DF25-1DF2A 1E030-1E06D 1E922-1E943"),
  (["nu", "numeric"], .ofText "
    30-39 600-605 660-669 66B-66C 6DD 6F0-6F9 7C0-7C9 890-891 8E2 966-96F 9E6-9EF A66-A6F AE6-AEF
    B66-B6F BE6-BEF C66-C6F CE6-CEF D66-D6F DE6-DEF E50-E59 ED0-ED9 F20-F29 1040-1049 1090-1099
    17E0-17E9 1810-1819 1946-194F 19D0-19DA 1A80-1A89 1A90-1A99 1B50-1B59 1BB0-1BB9 1C40-1C49
    1C50-1C59 A620-A629 A8D0-A8D9 A900-A909 A9D0-A9D9 A9F0-A9F9 AA50-AA59 ABF0-ABF9 FF10-FF19
    104A0-104A9 10D30-10D39 10D40-10D49 11066-1106F 110BD 110CD 110F0-110F9 11136-1113F
    111D0-111D9 112F0-112F9 11450-11459 114D0-114D9 11650-11659 116C0-116C9 116D0-116E3
    11730-11739 118E0-118E9 11950-11959 11BF0-11BF9 11C50-11C59 11D50-11D59 11DA0-11DA9
    11F50-11F59 16130-16139 16A60-16A69 16AC0-16AC9 16B50-16B59 16D70-16D79 1CCF0-1CCF9
    1D7CE-1D7FF 1E140-1E149 1E2F0-1E2F9 1E4F0-1E4F9 1E5F1-1E5FA 1E950-1E959 1FBF0-1FBF9"),
  (["le", "oletter"], .ofText "
    1BB 1C0-1C3 294 2B9-2BF 2C6-2D1 2EC 2EE 374 559 5D0-5EA 5EF-5F3 620-64A 66E-66F 671-6D3 6D5
    6E5-6E6 6EE-6EF 6FA-6FC 6FF 710 712-72F 74D-7A5 7B1 7CA-7EA 7F4-7F5 7FA 800-815 81A 824 828
    840-858 860-86A 870-887 889-88E 8A0-8C9 904-939 93D 950 958-961 971-980 985-98C 98F-990
    993-9A8 9AA-9B0 9B2 9B6-9B9 9BD 9CE 9DC-9DD 9DF-9E1 9F0-9F1 9FC A05-A0A A0F-A10 A13-A28
    A2A-A30 A32-A33 A35-A36 A38-A39 A59-A5C A5E A72-A74 A85-A8D A8F-A91 A93-AA8 AAA-AB0 AB2-AB3
    AB5-AB9 ABD AD0 AE0-AE1 AF9 B05-B0C B0F-B10 B13-B28 B2A-B30 B32-B33 B35-B39 B3D B5C-B5D
    B5F-B61 B71 B83 B85-B8A B8E-B90 B92-B95 B99-B9A B9C B9E-B9F BA3-BA4 BA8-BAA BAE-BB9 BD0
    C05-C0C C0E-C10 C12-C28 C2A-C39 C3D C58-C5A C5D C60-C61 C80 C85-C8C C8E-C90 C92-CA8 CAA-CB3
    CB5-CB9 CBD CDD-CDE CE0-CE1 CF1-CF2 D04-D0C D0E-D10 D12-D3A D3D D4E D54-D56 D5F-D61 D7A-D7F
    D85-D96 D9A-DB1 DB3-DBB DBD DC0-DC6 E01-E30 E32-E33 E40-E46 E81-E82 E84 E86-E8A E8C-EA3 EA5
    EA7-EB0 EB2-EB3 EBD EC0-EC4 EC6 EDC-EDF F00 F40-F47 F49-F6C F88-F8C 1000-102A 103F 1050-1055
    105A-105D 1061 1065-1066 106E-1070 1075-1081 108E 10D0-10FA 10FD-1248 124A-124D 1250-1256 1258
    125A-125D 1260-1288 128A-128D 1290-12B0 12B2-12B5 12B8-12BE 12C0 12C2-12C5 12C8-12D6 12D8-1310
    1312-1315 1318-135A 1380-138F 1401-166C 166F-167F 1681-169A 16A0-16EA 16EE-16F8 1700-1711
    171F-1731 1740-1751 1760-176C 176E-1770 1780-17B3 17D7 17DC 1820-1878 1880-1884 1887-18A8 18AA
    18B0-18F5 1900-191E 1950-196D 1970-1974 1980-19AB 19B0-19C9 1A00-1A16 1A20-1A54 1AA7 1B05-1B33
    1B45-1B4C 1B83-1BA0 1BAE-1BAF 1BBA-1BE5 1C00-1C23 1C4D-1C4F 1C5A-1C7D 1C90-1CBA 1CBD-1CBF
    1CE9-1CEC 1CEE-1CF3 1CF5-1CF6 1CFA 2135-2138 2180-2182 2185-2188 2D30-2D67 2D6F 2D80-2D96
    2DA0-2DA6 2DA8-2DAE 2DB0-2DB6 2DB8-2DBE 2DC0-2DC6 2DC8-2DCE 2DD0-2DD6 2DD8-2DDE 2E2F 3005-3007
    3021-3029 3031-3035 3038-303C 3041-3096 309D-309F 30A1-30FA 30FC-30FF 3105-312F 3131-318E
    31A0-31BF 31F0-31FF 3400-4DBF 4E00-A48C A4D0-A4FD A500-A60C A610-A61F A62A-A62B A66E A67F
    A6A0-A6EF A717-A71F A788 A78F A7F7 A7FB-A801 A803-A805 A807-A80A A80C-A822 A840-A873 A882-A8B3
    A8F2-A8F7 A8FB A8FD-A8FE A90A-A925 A930-A946 A960-A97C A984-A9B2 A9CF A9E0-A9E4 A9E6-A9EF
    A9FA-A9FE AA00-AA28 AA40-AA42 AA44-AA4B AA60-AA76 AA7A AA7E-AAAF AAB1 AAB5-AAB6 AAB9-AABD AAC0
    AAC2 AADB-AADD AAE0-AAEA AAF2-AAF4 AB01-AB06 AB09-AB0E AB11-AB16 AB20-AB26 AB28-AB2E ABC0-ABE2
    AC00-D7A3 D7B0-D7C6 D7CB-D7FB F900-FA6D FA70-FAD9 FB1D FB1F-FB28 FB2A-FB36 FB38-FB3C FB3E
    FB40-FB41 FB43-FB44 FB46-FBB1 FBD3-FD3D FD50-FD8F FD92-FDC7 FDF0-FDFB FE70-FE74 FE76-FEFC
    FF66-FF9D FFA0-FFBE FFC2-FFC7 FFCA-FFCF FFD2-FFD7 FFDA-FFDC 10000-1000B 1000D-10026
    10028-1003A 1003C-1003D 1003F-1004D 10050-1005D 10080-100FA 10140-10174 10280-1029C
    102A0-102D0 10300-1031F 1032D-1034A 10350-10375 10380-1039D 103A0-103C3 103C8-103CF
    103D1-103D5 10450-1049D 10500-10527 10530-10563 105C0-105F3 10600-10736 10740-10755
    10760-10767 10781-10782 10800-10805 10808 1080A-10835 10837-10838 1083C 1083F-10855
    10860-10876 10880-1089E 108E0-108F2 108F4-108F5 10900-10915 10920-10939 10980-109B7
    109BE-109BF 10A00 10A10-10A13 10A15-10A17 10A19-10A35 10A60-10A7C 10A80-10A9C 10AC0-10AC7
    10AC9-10AE4 10B00-10B35 10B40-10B55 10B60-10B72 10B80-10B91 10C00-10C48 10D00-10D23
    10D4A-10D4F 10D6F 10E80-10EA9 10EB0-10EB1 10EC2-10EC4 10F00-10F1C 10F27 10F30-10F45
    10F70-10F81 10FB0-10FC4 10FE0-10FF6 11003-11037 11071-11072 11075 11083-110AF 110D0-110E8
    11103-11126 11144 11147 11150-11172 11176 11183-111B2 111C1-111C4 111DA 111DC 11200-11211
    11213-1122B 1123F-11240 11280-11286 11288 1128A-1128D 1128F-1129D 1129F-112A8 112B0-112DE
    11305-1130C 1130F-11310 11313-11328 1132A-11330 11332-11333 11335-11339 1133D 11350
    1135D-11361 11380-11389 1138B 1138E 11390-113B5 113B7 113D1 113D3 11400-11434 11447-1144A
    1145F-11461 11480-114AF 114C4-114C5 114C7 11580-115AE 115D8-115DB 11600-1162F 11644
    11680-116AA 116B8 11700-1171A 11740-11746 11800-1182B 118FF-11906 11909 1190C-11913
    11915-11916 11918-1192F 1193F 11941 119A0-119A7 119AA-119D0 119E1 119E3 11A00 11A0B-11A32
    11A3A 11A50 11A5C-11A89 11A9D 11AB0-11AF8 11BC0-11BE0 11C00-11C08 11C0A-11C2E 11C40
    11C72-11C8F 11D00-11D06 11D08-11D09 11D0B-11D30 11D46 11D60-11D65 11D67-11D68 11D6A-11D89
    11D98 11EE0-11EF2 11F02 11F04-11F10 11F12-11F33 11FB0 12000-12399 12400-1246E 12480-12543
    12F90-12FF0 13000-1342F 13441-13446 13460-143FA 14400-14646 16100-1611D 16800-16A38
    16A40-16A5E 16A70-16ABE 16AD0-16AED 16B00-16B2F 16B40-16B43 16B63-16B77 16B7D-16B8F
    16D40-16D6C 16F00-16F4A 16F50 16F93-16F9F 16FE0-16FE1 16FE3 17000-187F7 18800-18CD5
    18CFF-18D08 1AFF0-1AFF3 1AFF5-1AFFB 1AFFD-1AFFE 1B000-1B122 1B132 1B150-1B152 1B155
    1B164-1B167 1B170-1B2FB 1BC00-1BC6A 1BC70-1BC7C 1BC80-1BC88 1BC90-1BC99 1DF0A 1E100-1E12C
    1E137-1E13D 1E14E 1E290-1E2AD 1E2C0-1E2EB 1E4D0-1E4EB 1E5D0-1E5ED 1E5F0 1E7E0-1E7E6
    1E7E8-1E7EB 1E7ED-1E7EE 1E7F0-1E7FE 1E800-1E8C4 1E94B 1EE00-1EE03 1EE05-1EE1F 1EE21-1EE22
    1EE24 1EE27 1EE29-1EE32 1EE34-1EE37 1EE39 1EE3B 1EE42 1EE47 1EE49 1EE4B 1EE4D-1EE4F
    1EE51-1EE52 1EE54 1EE57 1EE59 1EE5B 1EE5D 1EE5F 1EE61-1EE62 1EE64 1EE67-1EE6A 1EE6C-1EE72
    1EE74-1EE77 1EE79-1EE7C 1EE7E 1EE80-1EE89 1EE8B-1EE9B 1EEA1-1EEA3 1EEA5-1EEA9 1EEAB-1EEBB
    20000-2A6DF 2A700-2B739 2B740-2B81D 2B820-2CEA1 2CEB0-2EBE0 2EBF0-2EE5D 2F800-2FA1D
    30000-3134A 31350-323AF"),
  (["sc", "scontinue"], .ofText "
    2C-2D 3A-3B 37E 55D 60C-60D 7F8 1802 1808 2013-2014 3001 FE10-FE11 FE13-FE14 FE31-FE32
    FE50-FE51 FE54-FE55 FE58 FE63 FF0C-FF0D FF1A-FF1B FF64"),
  (["se", "sep"], .ofText "85 2028-2029"),
  (["sp"], .ofText "9 B-C 20 A0 1680 2000-200A 202F 205F 3000"),
  (["st", "sterm"], .ofText "
    21 3F 589 61D-61F 6D4 700-702 7F9 837 839 83D-83E 964-965 104A-104B 1362 1367-1368 166E
    1735-1736 17D4-17D5 1803 1809 1944-1945 1AA8-1AAB 1B4E-1B4F 1B5A-1B5B 1B5E-1B5F 1B7D-1B7F
    1C3B-1C3C 1C7E-1C7F 203C-203D 2047-2049 2CF9-2CFB 2E2E 2E3C 2E53-2E54 3002 A4FF A60E-A60F A6F3
    A6F7 A876-A877 A8CE-A8CF A92F A9C8-A9C9 AA5D-AA5F AAF0-AAF1 ABEB FE12 FE15-FE16 FE56-FE57 FF01
    FF1F FF61 10A56-10A57 10F55-10F59 10F86-10F89 11047-11048 110BE-110C1 11141-11143 111C5-111C6
    111CD 111DE-111DF 11238-11239 1123B-1123C 112A9 113D4-113D5 1144B-1144C 115C2-115C3
    115C9-115D7 11641-11642 1173C-1173E 11944 11946 11A42-11A43 11A9B-11A9C 11C41-11C42
    11EF7-11EF8 11F43-11F44 16A6E-16A6F 16AF5 16B37-16B38 16B44 16D6E-16D6F 16E98 1BC9F 1DA88"),
  (["up", "upper"], .ofText "
    41-5A C0-D6 D8-DE 100 102 104 106 108 10A 10C 10E 110 112 114 116 118 11A 11C 11E 120 122 124
    126 128 12A 12C 12E 130 132 134 136 139 13B 13D 13F 141 143 145 147 14A 14C 14E 150 152 154
    156 158 15A 15C 15E 160 162 164 166 168 16A 16C 16E 170 172 174 176 178-179 17B 17D 181-182
    184 186-187 189-18B 18E-191 193-194 196-198 19C-19D 19F-1A0 1A2 1A4 1A6-1A7 1A9 1AC 1AE-1AF
    1B1-1B3 1B5 1B7-1B8 1BC 1C4-1C5 1C7-1C8 1CA-1CB 1CD 1CF 1D1 1D3 1D5 1D7 1D9 1DB 1DE 1E0 1E2
    1E4 1E6 1E8 1EA 1EC 1EE 1F1-1F2 1F4 1F6-1F8 1FA 1FC 1FE 200 202 204 206 208 20A 20C 20E 210
    212 214 216 218 21A 21C 21E 220 222 224 226 228 22A 22C 22E 230 232 23A-23B 23D-23E 241
    243-246 248 24A 24C 24E 370 372 376 37F 386 388-38A 38C 38E-38F 391-3A1 3A3-3AB 3CF 3D2-3D4
    3D8 3DA 3DC 3DE 3E0 3E2 3E4 3E6 3E8 3EA 3EC 3EE 3F4 3F7 3F9-3FA 3FD-42F 460 462 464 466 468
    46A 46C 46E 470 472 474 476 478 47A 47C 47E 480 48A 48C 48E 490 492 494 496 498 49A 49C 49E
    4A0 4A2 4A4 4A6 4A8 4AA 4AC 4AE 4B0 4B2 4B4 4B6 4B8 4BA 4BC 4BE 4C0-4C1 4C3 4C5 4C7 4C9 4CB
    4CD 4D0 4D2 4D4 4D6 4D8 4DA 4DC 4DE 4E0 4E2 4E4 4E6 4E8 4EA 4EC 4EE 4F0 4F2 4F4 4F6 4F8 4FA
    4FC 4FE 500 502 504 506 508 50A 50C 50E 510 512 514 516 518 51A 51C 51E 520 522 524 526 528
    52A 52C 52E 531-556 10A0-10C5 10C7 10CD 13A0-13F5 1C89 1E00 1E02 1E04 1E06 1E08 1E0A 1E0C 1E0E
    1E10 1E12 1E14 1E16 1E18 1E1A 1E1C 1E1E 1E20 1E22 1E24 1E26 1E28 1E2A 1E2C 1E2E 1E30 1E32 1E34
    1E36 1E38 1E3A 1E3C 1E3E 1E40 1E42 1E44 1E46 1E48 1E4A 1E4C 1E4E 1E50 1E52 1E54 1E56 1E58 1E5A
    1E5C 1E5E 1E60 1E62 1E64 1E66 1E68 1E6A 1E6C 1E6E 1E70 1E72 1E74 1E76 1E78 1E7A 1E7C 1E7E 1E80
    1E82 1E84 1E86 1E88 1E8A 1E8C 1E8E 1E90 1E92 1E94 1E9E 1EA0 1EA2 1EA4 1EA6 1EA8 1EAA 1EAC 1EAE
    1EB0 1EB2 1EB4 1EB6 1EB8 1EBA 1EBC 1EBE 1EC0 1EC2 1EC4 1EC6 1EC8 1ECA 1ECC 1ECE 1ED0 1ED2 1ED4
    1ED6 1ED8 1EDA 1EDC 1EDE 1EE0 1EE2 1EE4 1EE6 1EE8 1EEA 1EEC 1EEE 1EF0 1EF2 1EF4 1EF6 1EF8 1EFA
    1EFC 1EFE 1F08-1F0F 1F18-1F1D 1F28-1F2F 1F38-1F3F 1F48-1F4D 1F59 1F5B 1F5D 1F5F 1F68-1F6F
    1F88-1F8F 1F98-1F9F 1FA8-1FAF 1FB8-1FBC 1FC8-1FCC 1FD8-1FDB 1FE8-1FEC 1FF8-1FFC 2102 2107
    210B-210D 2110-2112 2115 2119-211D 2124 2126 2128 212A-212D 2130-2133 213E-213F 2145 2160-216F
    2183 24B6-24CF 2C00-2C2F 2C60 2C62-2C64 2C67 2C69 2C6B 2C6D-2C70 2C72 2C75 2C7E-2C80 2C82 2C84
    2C86 2C88 2C8A 2C8C 2C8E 2C90 2C92 2C94 2C96 2C98 2C9A 2C9C 2C9E 2CA0 2CA2 2CA4 2CA6 2CA8 2CAA
    2CAC 2CAE 2CB0 2CB2 2CB4 2CB6 2CB8 2CBA 2CBC 2CBE 2CC0 2CC2 2CC4 2CC6 2CC8 2CCA 2CCC 2CCE 2CD0
    2CD2 2CD4 2CD6 2CD8 2CDA 2CDC 2CDE 2CE0 2CE2 2CEB 2CED 2CF2 A640 A642 A644 A646 A648 A64A A64C
    A64E A650 A652 A654 A656 A658 A65A A65C A65E A660 A662 A664 A666 A668 A66A A66C A680 A682 A684
    A686 A688 A68A A68C A68E A690 A692 A694 A696 A698 A69A A722 A724 A726 A728 A72A A72C A72E A732
    A734 A736 A738 A73A A73C A73E A740 A742 A744 A746 A748 A74A A74C A74E A750 A752 A754 A756 A758
    A75A A75C A75E A760 A762 A764 A766 A768 A76A A76C A76E A779 A77B A77D-A77E A780 A782 A784 A786
    A78B A78D A790 A792 A796 A798 A79A A79C A79E A7A0 A7A2 A7A4 A7A6 A7A8 A7AA-A7AE A7B0-A7B4 A7B6
    A7B8 A7BA A7BC A7BE A7C0 A7C2 A7C4-A7C7 A7C9 A7CB-A7CC A7D0 A7D6 A7D8 A7DA A7DC A7F5 FF21-FF3A
    10400-10427 104B0-104D3 10570-1057A 1057C-1058A 1058C-10592 10594-10595 10C80-10CB2
    10D50-10D65 118A0-118BF 16E40-16E5F 1D400-1D419 1D434-1D44D 1D468-1D481 1D49C 1D49E-1D49F
    1D4A2 1D4A5-1D4A6 1D4A9-1D4AC 1D4AE-1D4B5 1D4D0-1D4E9 1D504-1D505 1D507-1D50A 1D50D-1D514
    1D516-1D51C 1D538-1D539 1D53B-1D53E 1D540-1D544 1D546 1D54A-1D550 1D56C-1D585 1D5A0-1D5B9
    1D5D4-1D5ED 1D608-1D621 1D63C-1D655 1D670-1D689 1D6A8-1D6C0 1D6E2-1D6FA 1D71C-1D734
    1D756-1D76E 1D790-1D7A8 1D7CA 1E900-1E921 1F130-1F149 1F150-1F169 1F170-1F189")]

end Percolator.Unicode
