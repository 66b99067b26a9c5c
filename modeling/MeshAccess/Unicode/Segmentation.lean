import MeshAccess.Unicode.Listing

/-!
This file holds the classes that text segmentation gives to code points.
-/

namespace MeshAccess.Unicode.Segmentation

/-- The classes of the breaks between user-perceived characters. -/
def graphemeRows : List String :=
   ["0-9:CN A:LF B-C:CN D:CR E-1F:CN 7F-9F:CN AD:CN 300-36F:EX 483-489:EX 591-5BD:EX 5BF:EX",
    "5C1-5C2:EX 5C4-5C5:EX 5C7:EX 600-605:PP 610-61A:EX 61C:CN 64B-65F:EX 670:EX 6D6-6DC:EX",
    "6DD:PP 6DF-6E4:EX 6E7-6E8:EX 6EA-6ED:EX 70F:PP 711:EX 730-74A:EX 7A6-7B0:EX 7EB-7F3:EX",
    "7FD:EX 816-819:EX 81B-823:EX 825-827:EX 829-82D:EX 859-85B:EX 890-891:PP 897-89F:EX",
    "8CA-8E1:EX 8E2:PP 8E3-902:EX 903:SM 93A:EX 93B:SM 93C:EX 93E-940:SM 941-948:EX 949-94C:SM",
    "94D:EX 94E-94F:SM 951-957:EX 962-963:EX 981:EX 982-983:SM 9BC:EX 9BE:EX 9BF-9C0:SM",
    "9C1-9C4:EX 9C7-9C8:SM 9CB-9CC:SM 9CD:EX 9D7:EX 9E2-9E3:EX 9FE:EX A01-A02:EX A03:SM A3C:EX",
    "A3E-A40:SM A41-A42:EX A47-A48:EX A4B-A4D:EX A51:EX A70-A71:EX A75:EX A81-A82:EX A83:SM",
    "ABC:EX ABE-AC0:SM AC1-AC5:EX AC7-AC8:EX AC9:SM ACB-ACC:SM ACD:EX AE2-AE3:EX AFA-AFF:EX",
    "B01:EX B02-B03:SM B3C:EX B3E-B3F:EX B40:SM B41-B44:EX B47-B48:SM B4B-B4C:SM B4D:EX",
    "B55-B57:EX B62-B63:EX B82:EX BBE:EX BBF:SM BC0:EX BC1-BC2:SM BC6-BC8:SM BCA-BCC:SM BCD:EX",
    "BD7:EX C00:EX C01-C03:SM C04:EX C3C:EX C3E-C40:EX C41-C44:SM C46-C48:EX C4A-C4D:EX",
    "C55-C56:EX C62-C63:EX C81:EX C82-C83:SM CBC:EX CBE:SM CBF:EX CC0-CC1:SM CC2:EX CC3-CC4:SM",
    "CC6:EX CC7-CC8:SM CCA-CCB:SM CCC-CCD:EX CD5-CD6:EX CE2-CE3:EX CF3:SM D00-D01:EX D02-D03:SM",
    "D3B-D3C:EX D3E:EX D3F-D40:SM D41-D44:EX D46-D48:SM D4A-D4C:SM D4D:EX D4E:PP D57:EX",
    "D62-D63:EX D81:EX D82-D83:SM DCA:EX DCF:EX DD0-DD1:SM DD2-DD4:EX DD6:EX DD8-DDE:SM DDF:EX",
    "DF2-DF3:SM E31:EX E33:SM E34-E3A:EX E47-E4E:EX EB1:EX EB3:SM EB4-EBC:EX EC8-ECE:EX",
    "F18-F19:EX F35:EX F37:EX F39:EX F3E-F3F:SM F71-F7E:EX F7F:SM F80-F84:EX F86-F87:EX",
    "F8D-F97:EX F99-FBC:EX FC6:EX 102D-1030:EX 1031:SM 1032-1037:EX 1039-103A:EX 103B-103C:SM",
    "103D-103E:EX 1056-1057:SM 1058-1059:EX 105E-1060:EX 1071-1074:EX 1082:EX 1084:SM",
    "1085-1086:EX 108D:EX 109D:EX 1100-115F:L 1160-11A7:V 11A8-11FF:T 135D-135F:EX 1712-1714:EX",
    "1715:SM 1732-1733:EX 1734:SM 1752-1753:EX 1772-1773:EX 17B4-17B5:EX 17B6:SM 17B7-17BD:EX",
    "17BE-17C5:SM 17C6:EX 17C7-17C8:SM 17C9-17D3:EX 17DD:EX 180B-180D:EX 180E:CN 180F:EX",
    "1885-1886:EX 18A9:EX 1920-1922:EX 1923-1926:SM 1927-1928:EX 1929-192B:SM 1930-1931:SM",
    "1932:EX 1933-1938:SM 1939-193B:EX 1A17-1A18:EX 1A19-1A1A:SM 1A1B:EX 1A55:SM 1A56:EX",
    "1A57:SM 1A58-1A5E:EX 1A60:EX 1A62:EX 1A65-1A6C:EX 1A6D-1A72:SM 1A73-1A7C:EX 1A7F:EX",
    "1AB0-1ACE:EX 1B00-1B03:EX 1B04:SM 1B34-1B3A:EX 1B3B:SM 1B3C:EX 1B3D-1B41:SM 1B42:EX",
    "1B43-1B44:SM 1B6B-1B73:EX 1B80-1B81:EX 1B82:SM 1BA1:SM 1BA2-1BA5:EX 1BA6-1BA7:SM",
    "1BA8-1BA9:EX 1BAA:SM 1BAB-1BAD:EX 1BE6:EX 1BE7:SM 1BE8-1BE9:EX 1BEA-1BEC:SM 1BED:EX",
    "1BEE:SM 1BEF-1BF1:EX 1BF2-1BF3:SM 1C24-1C2B:SM 1C2C-1C33:EX 1C34-1C35:SM 1C36-1C37:EX",
    "1CD0-1CD2:EX 1CD4-1CE0:EX 1CE1:SM 1CE2-1CE8:EX 1CED:EX 1CF4:EX 1CF7:SM 1CF8-1CF9:EX",
    "1DC0-1DFF:EX 200B:CN 200C:EX 200D:ZWJ 200E-200F:CN 2028-202E:CN 2060-206F:CN 20D0-20F0:EX",
    "2CEF-2CF1:EX 2D7F:EX 2DE0-2DFF:EX 302A-302F:EX 3099-309A:EX A66F-A672:EX A674-A67D:EX",
    "A69E-A69F:EX A6F0-A6F1:EX A802:EX A806:EX A80B:EX A823-A824:SM A825-A826:EX A827:SM",
    "A82C:EX A880-A881:SM A8B4-A8C3:SM A8C4-A8C5:EX A8E0-A8F1:EX A8FF:EX A926-A92D:EX",
    "A947-A951:EX A952-A953:SM A960-A97C:L A980-A982:EX A983:SM A9B3:EX A9B4-A9B5:SM",
    "A9B6-A9B9:EX A9BA-A9BB:SM A9BC-A9BD:EX A9BE-A9C0:SM A9E5:EX AA29-AA2E:EX AA2F-AA30:SM",
    "AA31-AA32:EX AA33-AA34:SM AA35-AA36:EX AA43:EX AA4C:EX AA4D:SM AA7C:EX AAB0:EX",
    "AAB2-AAB4:EX AAB7-AAB8:EX AABE-AABF:EX AAC1:EX AAEB:SM AAEC-AAED:EX AAEE-AAEF:SM AAF5:SM",
    "AAF6:EX ABE3-ABE4:SM ABE5:EX ABE6-ABE7:SM ABE8:EX ABE9-ABEA:SM ABEC:SM ABED:EX AC00:LV",
    "AC01-AC1B:LVT AC1C:LV AC1D-AC37:LVT AC38:LV AC39-AC53:LVT AC54:LV AC55-AC6F:LVT AC70:LV",
    "AC71-AC8B:LVT AC8C:LV AC8D-ACA7:LVT ACA8:LV ACA9-ACC3:LVT ACC4:LV ACC5-ACDF:LVT ACE0:LV",
    "ACE1-ACFB:LVT ACFC:LV ACFD-AD17:LVT AD18:LV AD19-AD33:LVT AD34:LV AD35-AD4F:LVT AD50:LV",
    "AD51-AD6B:LVT AD6C:LV AD6D-AD87:LVT AD88:LV AD89-ADA3:LVT ADA4:LV ADA5-ADBF:LVT ADC0:LV",
    "ADC1-ADDB:LVT ADDC:LV ADDD-ADF7:LVT ADF8:LV ADF9-AE13:LVT AE14:LV AE15-AE2F:LVT AE30:LV",
    "AE31-AE4B:LVT AE4C:LV AE4D-AE67:LVT AE68:LV AE69-AE83:LVT AE84:LV AE85-AE9F:LVT AEA0:LV",
    "AEA1-AEBB:LVT AEBC:LV AEBD-AED7:LVT AED8:LV AED9-AEF3:LVT AEF4:LV AEF5-AF0F:LVT AF10:LV",
    "AF11-AF2B:LVT AF2C:LV AF2D-AF47:LVT AF48:LV AF49-AF63:LVT AF64:LV AF65-AF7F:LVT AF80:LV",
    "AF81-AF9B:LVT AF9C:LV AF9D-AFB7:LVT AFB8:LV AFB9-AFD3:LVT AFD4:LV AFD5-AFEF:LVT AFF0:LV",
    "AFF1-B00B:LVT B00C:LV B00D-B027:LVT B028:LV B029-B043:LVT B044:LV B045-B05F:LVT B060:LV",
    "B061-B07B:LVT B07C:LV B07D-B097:LVT B098:LV B099-B0B3:LVT B0B4:LV B0B5-B0CF:LVT B0D0:LV",
    "B0D1-B0EB:LVT B0EC:LV B0ED-B107:LVT B108:LV B109-B123:LVT B124:LV B125-B13F:LVT B140:LV",
    "B141-B15B:LVT B15C:LV B15D-B177:LVT B178:LV B179-B193:LVT B194:LV B195-B1AF:LVT B1B0:LV",
    "B1B1-B1CB:LVT B1CC:LV B1CD-B1E7:LVT B1E8:LV B1E9-B203:LVT B204:LV B205-B21F:LVT B220:LV",
    "B221-B23B:LVT B23C:LV B23D-B257:LVT B258:LV B259-B273:LVT B274:LV B275-B28F:LVT B290:LV",
    "B291-B2AB:LVT B2AC:LV B2AD-B2C7:LVT B2C8:LV B2C9-B2E3:LVT B2E4:LV B2E5-B2FF:LVT B300:LV",
    "B301-B31B:LVT B31C:LV B31D-B337:LVT B338:LV B339-B353:LVT B354:LV B355-B36F:LVT B370:LV",
    "B371-B38B:LVT B38C:LV B38D-B3A7:LVT B3A8:LV B3A9-B3C3:LVT B3C4:LV B3C5-B3DF:LVT B3E0:LV",
    "B3E1-B3FB:LVT B3FC:LV B3FD-B417:LVT B418:LV B419-B433:LVT B434:LV B435-B44F:LVT B450:LV",
    "B451-B46B:LVT B46C:LV B46D-B487:LVT B488:LV B489-B4A3:LVT B4A4:LV B4A5-B4BF:LVT B4C0:LV",
    "B4C1-B4DB:LVT B4DC:LV B4DD-B4F7:LVT B4F8:LV B4F9-B513:LVT B514:LV B515-B52F:LVT B530:LV",
    "B531-B54B:LVT B54C:LV B54D-B567:LVT B568:LV B569-B583:LVT B584:LV B585-B59F:LVT B5A0:LV",
    "B5A1-B5BB:LVT B5BC:LV B5BD-B5D7:LVT B5D8:LV B5D9-B5F3:LVT B5F4:LV B5F5-B60F:LVT B610:LV",
    "B611-B62B:LVT B62C:LV B62D-B647:LVT B648:LV B649-B663:LVT B664:LV B665-B67F:LVT B680:LV",
    "B681-B69B:LVT B69C:LV B69D-B6B7:LVT B6B8:LV B6B9-B6D3:LVT B6D4:LV B6D5-B6EF:LVT B6F0:LV",
    "B6F1-B70B:LVT B70C:LV B70D-B727:LVT B728:LV B729-B743:LVT B744:LV B745-B75F:LVT B760:LV",
    "B761-B77B:LVT B77C:LV B77D-B797:LVT B798:LV B799-B7B3:LVT B7B4:LV B7B5-B7CF:LVT B7D0:LV",
    "B7D1-B7EB:LVT B7EC:LV B7ED-B807:LVT B808:LV B809-B823:LVT B824:LV B825-B83F:LVT B840:LV",
    "B841-B85B:LVT B85C:LV B85D-B877:LVT B878:LV B879-B893:LVT B894:LV B895-B8AF:LVT B8B0:LV",
    "B8B1-B8CB:LVT B8CC:LV B8CD-B8E7:LVT B8E8:LV B8E9-B903:LVT B904:LV B905-B91F:LVT B920:LV",
    "B921-B93B:LVT B93C:LV B93D-B957:LVT B958:LV B959-B973:LVT B974:LV B975-B98F:LVT B990:LV",
    "B991-B9AB:LVT B9AC:LV B9AD-B9C7:LVT B9C8:LV B9C9-B9E3:LVT B9E4:LV B9E5-B9FF:LVT BA00:LV",
    "BA01-BA1B:LVT BA1C:LV BA1D-BA37:LVT BA38:LV BA39-BA53:LVT BA54:LV BA55-BA6F:LVT BA70:LV",
    "BA71-BA8B:LVT BA8C:LV BA8D-BAA7:LVT BAA8:LV BAA9-BAC3:LVT BAC4:LV BAC5-BADF:LVT BAE0:LV",
    "BAE1-BAFB:LVT BAFC:LV BAFD-BB17:LVT BB18:LV BB19-BB33:LVT BB34:LV BB35-BB4F:LVT BB50:LV",
    "BB51-BB6B:LVT BB6C:LV BB6D-BB87:LVT BB88:LV BB89-BBA3:LVT BBA4:LV BBA5-BBBF:LVT BBC0:LV",
    "BBC1-BBDB:LVT BBDC:LV BBDD-BBF7:LVT BBF8:LV BBF9-BC13:LVT BC14:LV BC15-BC2F:LVT BC30:LV",
    "BC31-BC4B:LVT BC4C:LV BC4D-BC67:LVT BC68:LV BC69-BC83:LVT BC84:LV BC85-BC9F:LVT BCA0:LV",
    "BCA1-BCBB:LVT BCBC:LV BCBD-BCD7:LVT BCD8:LV BCD9-BCF3:LVT BCF4:LV BCF5-BD0F:LVT BD10:LV",
    "BD11-BD2B:LVT BD2C:LV BD2D-BD47:LVT BD48:LV BD49-BD63:LVT BD64:LV BD65-BD7F:LVT BD80:LV",
    "BD81-BD9B:LVT BD9C:LV BD9D-BDB7:LVT BDB8:LV BDB9-BDD3:LVT BDD4:LV BDD5-BDEF:LVT BDF0:LV",
    "BDF1-BE0B:LVT BE0C:LV BE0D-BE27:LVT BE28:LV BE29-BE43:LVT BE44:LV BE45-BE5F:LVT BE60:LV",
    "BE61-BE7B:LVT BE7C:LV BE7D-BE97:LVT BE98:LV BE99-BEB3:LVT BEB4:LV BEB5-BECF:LVT BED0:LV",
    "BED1-BEEB:LVT BEEC:LV BEED-BF07:LVT BF08:LV BF09-BF23:LVT BF24:LV BF25-BF3F:LVT BF40:LV",
    "BF41-BF5B:LVT BF5C:LV BF5D-BF77:LVT BF78:LV BF79-BF93:LVT BF94:LV BF95-BFAF:LVT BFB0:LV",
    "BFB1-BFCB:LVT BFCC:LV BFCD-BFE7:LVT BFE8:LV BFE9-C003:LVT C004:LV C005-C01F:LVT C020:LV",
    "C021-C03B:LVT C03C:LV C03D-C057:LVT C058:LV C059-C073:LVT C074:LV C075-C08F:LVT C090:LV",
    "C091-C0AB:LVT C0AC:LV C0AD-C0C7:LVT C0C8:LV C0C9-C0E3:LVT C0E4:LV C0E5-C0FF:LVT C100:LV",
    "C101-C11B:LVT C11C:LV C11D-C137:LVT C138:LV C139-C153:LVT C154:LV C155-C16F:LVT C170:LV",
    "C171-C18B:LVT C18C:LV C18D-C1A7:LVT C1A8:LV C1A9-C1C3:LVT C1C4:LV C1C5-C1DF:LVT C1E0:LV",
    "C1E1-C1FB:LVT C1FC:LV C1FD-C217:LVT C218:LV C219-C233:LVT C234:LV C235-C24F:LVT C250:LV",
    "C251-C26B:LVT C26C:LV C26D-C287:LVT C288:LV C289-C2A3:LVT C2A4:LV C2A5-C2BF:LVT C2C0:LV",
    "C2C1-C2DB:LVT C2DC:LV C2DD-C2F7:LVT C2F8:LV C2F9-C313:LVT C314:LV C315-C32F:LVT C330:LV",
    "C331-C34B:LVT C34C:LV C34D-C367:LVT C368:LV C369-C383:LVT C384:LV C385-C39F:LVT C3A0:LV",
    "C3A1-C3BB:LVT C3BC:LV C3BD-C3D7:LVT C3D8:LV C3D9-C3F3:LVT C3F4:LV C3F5-C40F:LVT C410:LV",
    "C411-C42B:LVT C42C:LV C42D-C447:LVT C448:LV C449-C463:LVT C464:LV C465-C47F:LVT C480:LV",
    "C481-C49B:LVT C49C:LV C49D-C4B7:LVT C4B8:LV C4B9-C4D3:LVT C4D4:LV C4D5-C4EF:LVT C4F0:LV",
    "C4F1-C50B:LVT C50C:LV C50D-C527:LVT C528:LV C529-C543:LVT C544:LV C545-C55F:LVT C560:LV",
    "C561-C57B:LVT C57C:LV C57D-C597:LVT C598:LV C599-C5B3:LVT C5B4:LV C5B5-C5CF:LVT C5D0:LV",
    "C5D1-C5EB:LVT C5EC:LV C5ED-C607:LVT C608:LV C609-C623:LVT C624:LV C625-C63F:LVT C640:LV",
    "C641-C65B:LVT C65C:LV C65D-C677:LVT C678:LV C679-C693:LVT C694:LV C695-C6AF:LVT C6B0:LV",
    "C6B1-C6CB:LVT C6CC:LV C6CD-C6E7:LVT C6E8:LV C6E9-C703:LVT C704:LV C705-C71F:LVT C720:LV",
    "C721-C73B:LVT C73C:LV C73D-C757:LVT C758:LV C759-C773:LVT C774:LV C775-C78F:LVT C790:LV",
    "C791-C7AB:LVT C7AC:LV C7AD-C7C7:LVT C7C8:LV C7C9-C7E3:LVT C7E4:LV C7E5-C7FF:LVT C800:LV",
    "C801-C81B:LVT C81C:LV C81D-C837:LVT C838:LV C839-C853:LVT C854:LV C855-C86F:LVT C870:LV",
    "C871-C88B:LVT C88C:LV C88D-C8A7:LVT C8A8:LV C8A9-C8C3:LVT C8C4:LV C8C5-C8DF:LVT C8E0:LV",
    "C8E1-C8FB:LVT C8FC:LV C8FD-C917:LVT C918:LV C919-C933:LVT C934:LV C935-C94F:LVT C950:LV",
    "C951-C96B:LVT C96C:LV C96D-C987:LVT C988:LV C989-C9A3:LVT C9A4:LV C9A5-C9BF:LVT C9C0:LV",
    "C9C1-C9DB:LVT C9DC:LV C9DD-C9F7:LVT C9F8:LV C9F9-CA13:LVT CA14:LV CA15-CA2F:LVT CA30:LV",
    "CA31-CA4B:LVT CA4C:LV CA4D-CA67:LVT CA68:LV CA69-CA83:LVT CA84:LV CA85-CA9F:LVT CAA0:LV",
    "CAA1-CABB:LVT CABC:LV CABD-CAD7:LVT CAD8:LV CAD9-CAF3:LVT CAF4:LV CAF5-CB0F:LVT CB10:LV",
    "CB11-CB2B:LVT CB2C:LV CB2D-CB47:LVT CB48:LV CB49-CB63:LVT CB64:LV CB65-CB7F:LVT CB80:LV",
    "CB81-CB9B:LVT CB9C:LV CB9D-CBB7:LVT CBB8:LV CBB9-CBD3:LVT CBD4:LV CBD5-CBEF:LVT CBF0:LV",
    "CBF1-CC0B:LVT CC0C:LV CC0D-CC27:LVT CC28:LV CC29-CC43:LVT CC44:LV CC45-CC5F:LVT CC60:LV",
    "CC61-CC7B:LVT CC7C:LV CC7D-CC97:LVT CC98:LV CC99-CCB3:LVT CCB4:LV CCB5-CCCF:LVT CCD0:LV",
    "CCD1-CCEB:LVT CCEC:LV CCED-CD07:LVT CD08:LV CD09-CD23:LVT CD24:LV CD25-CD3F:LVT CD40:LV",
    "CD41-CD5B:LVT CD5C:LV CD5D-CD77:LVT CD78:LV CD79-CD93:LVT CD94:LV CD95-CDAF:LVT CDB0:LV",
    "CDB1-CDCB:LVT CDCC:LV CDCD-CDE7:LVT CDE8:LV CDE9-CE03:LVT CE04:LV CE05-CE1F:LVT CE20:LV",
    "CE21-CE3B:LVT CE3C:LV CE3D-CE57:LVT CE58:LV CE59-CE73:LVT CE74:LV CE75-CE8F:LVT CE90:LV",
    "CE91-CEAB:LVT CEAC:LV CEAD-CEC7:LVT CEC8:LV CEC9-CEE3:LVT CEE4:LV CEE5-CEFF:LVT CF00:LV",
    "CF01-CF1B:LVT CF1C:LV CF1D-CF37:LVT CF38:LV CF39-CF53:LVT CF54:LV CF55-CF6F:LVT CF70:LV",
    "CF71-CF8B:LVT CF8C:LV CF8D-CFA7:LVT CFA8:LV CFA9-CFC3:LVT CFC4:LV CFC5-CFDF:LVT CFE0:LV",
    "CFE1-CFFB:LVT CFFC:LV CFFD-D017:LVT D018:LV D019-D033:LVT D034:LV D035-D04F:LVT D050:LV",
    "D051-D06B:LVT D06C:LV D06D-D087:LVT D088:LV D089-D0A3:LVT D0A4:LV D0A5-D0BF:LVT D0C0:LV",
    "D0C1-D0DB:LVT D0DC:LV D0DD-D0F7:LVT D0F8:LV D0F9-D113:LVT D114:LV D115-D12F:LVT D130:LV",
    "D131-D14B:LVT D14C:LV D14D-D167:LVT D168:LV D169-D183:LVT D184:LV D185-D19F:LVT D1A0:LV",
    "D1A1-D1BB:LVT D1BC:LV D1BD-D1D7:LVT D1D8:LV D1D9-D1F3:LVT D1F4:LV D1F5-D20F:LVT D210:LV",
    "D211-D22B:LVT D22C:LV D22D-D247:LVT D248:LV D249-D263:LVT D264:LV D265-D27F:LVT D280:LV",
    "D281-D29B:LVT D29C:LV D29D-D2B7:LVT D2B8:LV D2B9-D2D3:LVT D2D4:LV D2D5-D2EF:LVT D2F0:LV",
    "D2F1-D30B:LVT D30C:LV D30D-D327:LVT D328:LV D329-D343:LVT D344:LV D345-D35F:LVT D360:LV",
    "D361-D37B:LVT D37C:LV D37D-D397:LVT D398:LV D399-D3B3:LVT D3B4:LV D3B5-D3CF:LVT D3D0:LV",
    "D3D1-D3EB:LVT D3EC:LV D3ED-D407:LVT D408:LV D409-D423:LVT D424:LV D425-D43F:LVT D440:LV",
    "D441-D45B:LVT D45C:LV D45D-D477:LVT D478:LV D479-D493:LVT D494:LV D495-D4AF:LVT D4B0:LV",
    "D4B1-D4CB:LVT D4CC:LV D4CD-D4E7:LVT D4E8:LV D4E9-D503:LVT D504:LV D505-D51F:LVT D520:LV",
    "D521-D53B:LVT D53C:LV D53D-D557:LVT D558:LV D559-D573:LVT D574:LV D575-D58F:LVT D590:LV",
    "D591-D5AB:LVT D5AC:LV D5AD-D5C7:LVT D5C8:LV D5C9-D5E3:LVT D5E4:LV D5E5-D5FF:LVT D600:LV",
    "D601-D61B:LVT D61C:LV D61D-D637:LVT D638:LV D639-D653:LVT D654:LV D655-D66F:LVT D670:LV",
    "D671-D68B:LVT D68C:LV D68D-D6A7:LVT D6A8:LV D6A9-D6C3:LVT D6C4:LV D6C5-D6DF:LVT D6E0:LV",
    "D6E1-D6FB:LVT D6FC:LV D6FD-D717:LVT D718:LV D719-D733:LVT D734:LV D735-D74F:LVT D750:LV",
    "D751-D76B:LVT D76C:LV D76D-D787:LVT D788:LV D789-D7A3:LVT D7B0-D7C6:V D7CB-D7FB:T FB1E:EX",
    "FE00-FE0F:EX FE20-FE2F:EX FEFF:CN FF9E-FF9F:EX FFF0-FFFB:CN 101FD:EX 102E0:EX",
    "10376-1037A:EX 10A01-10A03:EX 10A05-10A06:EX 10A0C-10A0F:EX 10A38-10A3A:EX 10A3F:EX",
    "10AE5-10AE6:EX 10D24-10D27:EX 10D69-10D6D:EX 10EAB-10EAC:EX 10EFC-10EFF:EX 10F46-10F50:EX",
    "10F82-10F85:EX 11000:SM 11001:EX 11002:SM 11038-11046:EX 11070:EX 11073-11074:EX",
    "1107F-11081:EX 11082:SM 110B0-110B2:SM 110B3-110B6:EX 110B7-110B8:SM 110B9-110BA:EX",
    "110BD:PP 110C2:EX 110CD:PP 11100-11102:EX 11127-1112B:EX 1112C:SM 1112D-11134:EX",
    "11145-11146:SM 11173:EX 11180-11181:EX 11182:SM 111B3-111B5:SM 111B6-111BE:EX",
    "111BF-111C0:SM 111C2-111C3:PP 111C9-111CC:EX 111CE:SM 111CF:EX 1122C-1122E:SM",
    "1122F-11231:EX 11232-11233:SM 11234:EX 11235:SM 11236-11237:EX 1123E:EX 11241:EX 112DF:EX",
    "112E0-112E2:SM 112E3-112EA:EX 11300-11301:EX 11302-11303:SM 1133B-1133C:EX 1133E:EX",
    "1133F:SM 11340:EX 11341-11344:SM 11347-11348:SM 1134B-1134D:SM 11357:EX 11362-11363:SM",
    "11366-1136C:EX 11370-11374:EX 113B8:EX 113B9-113BA:SM 113BB-113C0:EX 113C2:EX 113C5:EX",
    "113C7-113C9:EX 113CA:SM 113CC-113CD:SM 113CE-113D0:EX 113D2:EX 113E1-113E2:EX",
    "11435-11437:SM 11438-1143F:EX 11440-11441:SM 11442-11444:EX 11445:SM 11446:EX 1145E:EX",
    "114B0:EX 114B1-114B2:SM 114B3-114B8:EX 114B9:SM 114BA:EX 114BB-114BC:SM 114BD:EX 114BE:SM",
    "114BF-114C0:EX 114C1:SM 114C2-114C3:EX 115AF:EX 115B0-115B1:SM 115B2-115B5:EX",
    "115B8-115BB:SM 115BC-115BD:EX 115BE:SM 115BF-115C0:EX 115DC-115DD:EX 11630-11632:SM",
    "11633-1163A:EX 1163B-1163C:SM 1163D:EX 1163E:SM 1163F-11640:EX 116AB:EX 116AC:SM 116AD:EX",
    "116AE-116AF:SM 116B0-116B5:EX 116B6:SM 116B7:EX 1171D-1171F:EX 11722-11725:EX 11726:SM",
    "11727-1172B:EX 1182C-1182E:SM 1182F-11837:EX 11838:SM 11839-1183A:EX 11930:EX",
    "11931-11935:SM 11937-11938:SM 1193B-1193C:EX 1193D:SM 1193E:EX 1193F:PP 11940:SM 11941:PP",
    "11942:SM 11943:EX 119D1-119D3:SM 119D4-119D7:EX 119DA-119DB:EX 119DC-119DF:SM 119E0:EX",
    "119E4:SM 11A01-11A0A:EX 11A33-11A38:EX 11A39:SM 11A3A:PP 11A3B-11A3E:EX 11A47:EX",
    "11A51-11A56:EX 11A57-11A58:SM 11A59-11A5B:EX 11A84-11A89:PP 11A8A-11A96:EX 11A97:SM",
    "11A98-11A99:EX 11C2F:SM 11C30-11C36:EX 11C38-11C3D:EX 11C3E:SM 11C3F:EX 11C92-11CA7:EX",
    "11CA9:SM 11CAA-11CB0:EX 11CB1:SM 11CB2-11CB3:EX 11CB4:SM 11CB5-11CB6:EX 11D31-11D36:EX",
    "11D3A:EX 11D3C-11D3D:EX 11D3F-11D45:EX 11D46:PP 11D47:EX 11D8A-11D8E:SM 11D90-11D91:EX",
    "11D93-11D94:SM 11D95:EX 11D96:SM 11D97:EX 11EF3-11EF4:EX 11EF5-11EF6:SM 11F00-11F01:EX",
    "11F02:PP 11F03:SM 11F34-11F35:SM 11F36-11F3A:EX 11F3E-11F3F:SM 11F40:EX 11F41:SM 11F42:EX",
    "11F5A:EX 13430-1343F:CN 13440:EX 13447-13455:EX 1611E-16129:EX 1612A-1612C:SM",
    "1612D-1612F:EX 16AF0-16AF4:EX 16B30-16B36:EX 16F4F:EX 16F51-16F87:SM 16F8F-16F92:EX",
    "16FE4:EX 16FF0-16FF1:SM 1BC9D-1BC9E:EX 1BCA0-1BCA3:CN 1CF00-1CF2D:EX 1CF30-1CF46:EX",
    "1D165:EX 1D166:SM 1D167-1D169:EX 1D16D:SM 1D16E-1D172:EX 1D173-1D17A:CN 1D17B-1D182:EX",
    "1D185-1D18B:EX 1D1AA-1D1AD:EX 1D242-1D244:EX 1DA00-1DA36:EX 1DA3B-1DA6C:EX 1DA75:EX",
    "1DA84:EX 1DA9B-1DA9F:EX 1DAA1-1DAAF:EX 1E000-1E006:EX 1E008-1E018:EX 1E01B-1E021:EX",
    "1E023-1E024:EX 1E026-1E02A:EX 1E08F:EX 1E130-1E136:EX 1E2AE:EX 1E2EC-1E2EF:EX",
    "1E4EC-1E4EF:EX 1E5EE-1E5EF:EX 1E8D0-1E8D6:EX 1E944-1E94A:EX 1F1E6-1F1FF:RI 1F3FB-1F3FF:EX",
    "E0000-E001F:CN E0020-E007F:EX E0080-E00FF:CN E0100-E01EF:EX E01F0-E0FFF:CN"]

/-- Each class of the breaks between user-perceived characters with its names in loose form. -/
def graphemeNames : List (String × List String) :=
  [("CN", ["cn", "control"]),
   ("CR", ["cr"]),
   ("EX", ["ex", "extend"]),
   ("L", ["l"]),
   ("LF", ["lf"]),
   ("LV", ["lv"]),
   ("LVT", ["lvt"]),
   ("PP", ["pp", "prepend"]),
   ("RI", ["ri", "regionalindicator"]),
   ("SM", ["sm", "spacingmark"]),
   ("T", ["t"]),
   ("V", ["v"]),
   ("ZWJ", ["zwj"])]

/-- The classes of the breaks between words. -/
def wordRows : List String :=
   ["A:LF B-C:NL D:CR 20:WSegSpace 22:DQ 27:SQ 2C:MN 2E:MB 30-39:NU 3A:ML 3B:MN 41-5A:LE 5F:EX",
    "61-7A:LE 85:NL AA:LE AD:FO B5:LE B7:ML BA:LE C0-D6:LE D8-F6:LE F8-2D7:LE 2DE-2FF:LE",
    "300-36F:Extend 370-374:LE 376-377:LE 37A-37D:LE 37E:MN 37F:LE 386:LE 387:ML 388-38A:LE",
    "38C:LE 38E-3A1:LE 3A3-3F5:LE 3F7-481:LE 483-489:Extend 48A-52F:LE 531-556:LE 559-55C:LE",
    "55E:LE 55F:ML 560-588:LE 589:MN 58A:LE 591-5BD:Extend 5BF:Extend 5C1-5C2:Extend",
    "5C4-5C5:Extend 5C7:Extend 5D0-5EA:HL 5EF-5F2:HL 5F3:LE 5F4:ML 600-605:FO 60C-60D:MN",
    "610-61A:Extend 61C:FO 620-64A:LE 64B-65F:Extend 660-669:NU 66B:NU 66C:MN 66E-66F:LE",
    "670:Extend 671-6D3:LE 6D5:LE 6D6-6DC:Extend 6DD:FO 6DF-6E4:Extend 6E5-6E6:LE",
    "6E7-6E8:Extend 6EA-6ED:Extend 6EE-6EF:LE 6F0-6F9:NU 6FA-6FC:LE 6FF:LE 70F:FO 710:LE",
    "711:Extend 712-72F:LE 730-74A:Extend 74D-7A5:LE 7A6-7B0:Extend 7B1:LE 7C0-7C9:NU",
    "7CA-7EA:LE 7EB-7F3:Extend 7F4-7F5:LE 7F8:MN 7FA:LE 7FD:Extend 800-815:LE 816-819:Extend",
    "81A:LE 81B-823:Extend 824:LE 825-827:Extend 828:LE 829-82D:Extend 840-858:LE",
    "859-85B:Extend 860-86A:LE 870-887:LE 889-88E:LE 890-891:FO 897-89F:Extend 8A0-8C9:LE",
    "8CA-8E1:Extend 8E2:FO 8E3-903:Extend 904-939:LE 93A-93C:Extend 93D:LE 93E-94F:Extend",
    "950:LE 951-957:Extend 958-961:LE 962-963:Extend 966-96F:NU 971-980:LE 981-983:Extend",
    "985-98C:LE 98F-990:LE 993-9A8:LE 9AA-9B0:LE 9B2:LE 9B6-9B9:LE 9BC:Extend 9BD:LE",
    "9BE-9C4:Extend 9C7-9C8:Extend 9CB-9CD:Extend 9CE:LE 9D7:Extend 9DC-9DD:LE 9DF-9E1:LE",
    "9E2-9E3:Extend 9E6-9EF:NU 9F0-9F1:LE 9FC:LE 9FE:Extend A01-A03:Extend A05-A0A:LE",
    "A0F-A10:LE A13-A28:LE A2A-A30:LE A32-A33:LE A35-A36:LE A38-A39:LE A3C:Extend",
    "A3E-A42:Extend A47-A48:Extend A4B-A4D:Extend A51:Extend A59-A5C:LE A5E:LE A66-A6F:NU",
    "A70-A71:Extend A72-A74:LE A75:Extend A81-A83:Extend A85-A8D:LE A8F-A91:LE A93-AA8:LE",
    "AAA-AB0:LE AB2-AB3:LE AB5-AB9:LE ABC:Extend ABD:LE ABE-AC5:Extend AC7-AC9:Extend",
    "ACB-ACD:Extend AD0:LE AE0-AE1:LE AE2-AE3:Extend AE6-AEF:NU AF9:LE AFA-AFF:Extend",
    "B01-B03:Extend B05-B0C:LE B0F-B10:LE B13-B28:LE B2A-B30:LE B32-B33:LE B35-B39:LE",
    "B3C:Extend B3D:LE B3E-B44:Extend B47-B48:Extend B4B-B4D:Extend B55-B57:Extend B5C-B5D:LE",
    "B5F-B61:LE B62-B63:Extend B66-B6F:NU B71:LE B82:Extend B83:LE B85-B8A:LE B8E-B90:LE",
    "B92-B95:LE B99-B9A:LE B9C:LE B9E-B9F:LE BA3-BA4:LE BA8-BAA:LE BAE-BB9:LE BBE-BC2:Extend",
    "BC6-BC8:Extend BCA-BCD:Extend BD0:LE BD7:Extend BE6-BEF:NU C00-C04:Extend C05-C0C:LE",
    "C0E-C10:LE C12-C28:LE C2A-C39:LE C3C:Extend C3D:LE C3E-C44:Extend C46-C48:Extend",
    "C4A-C4D:Extend C55-C56:Extend C58-C5A:LE C5D:LE C60-C61:LE C62-C63:Extend C66-C6F:NU",
    "C80:LE C81-C83:Extend C85-C8C:LE C8E-C90:LE C92-CA8:LE CAA-CB3:LE CB5-CB9:LE CBC:Extend",
    "CBD:LE CBE-CC4:Extend CC6-CC8:Extend CCA-CCD:Extend CD5-CD6:Extend CDD-CDE:LE CE0-CE1:LE",
    "CE2-CE3:Extend CE6-CEF:NU CF1-CF2:LE CF3:Extend D00-D03:Extend D04-D0C:LE D0E-D10:LE",
    "D12-D3A:LE D3B-D3C:Extend D3D:LE D3E-D44:Extend D46-D48:Extend D4A-D4D:Extend D4E:LE",
    "D54-D56:LE D57:Extend D5F-D61:LE D62-D63:Extend D66-D6F:NU D7A-D7F:LE D81-D83:Extend",
    "D85-D96:LE D9A-DB1:LE DB3-DBB:LE DBD:LE DC0-DC6:LE DCA:Extend DCF-DD4:Extend DD6:Extend",
    "DD8-DDF:Extend DE6-DEF:NU DF2-DF3:Extend E31:Extend E34-E3A:Extend E47-E4E:Extend",
    "E50-E59:NU EB1:Extend EB4-EBC:Extend EC8-ECE:Extend ED0-ED9:NU F00:LE F18-F19:Extend",
    "F20-F29:NU F35:Extend F37:Extend F39:Extend F3E-F3F:Extend F40-F47:LE F49-F6C:LE",
    "F71-F84:Extend F86-F87:Extend F88-F8C:LE F8D-F97:Extend F99-FBC:Extend FC6:Extend",
    "102B-103E:Extend 1040-1049:NU 1056-1059:Extend 105E-1060:Extend 1062-1064:Extend",
    "1067-106D:Extend 1071-1074:Extend 1082-108D:Extend 108F:Extend 1090-1099:NU",
    "109A-109D:Extend 10A0-10C5:LE 10C7:LE 10CD:LE 10D0-10FA:LE 10FC-1248:LE 124A-124D:LE",
    "1250-1256:LE 1258:LE 125A-125D:LE 1260-1288:LE 128A-128D:LE 1290-12B0:LE 12B2-12B5:LE",
    "12B8-12BE:LE 12C0:LE 12C2-12C5:LE 12C8-12D6:LE 12D8-1310:LE 1312-1315:LE 1318-135A:LE",
    "135D-135F:Extend 1380-138F:LE 13A0-13F5:LE 13F8-13FD:LE 1401-166C:LE 166F-167F:LE",
    "1680:WSegSpace 1681-169A:LE 16A0-16EA:LE 16EE-16F8:LE 1700-1711:LE 1712-1715:Extend",
    "171F-1731:LE 1732-1734:Extend 1740-1751:LE 1752-1753:Extend 1760-176C:LE 176E-1770:LE",
    "1772-1773:Extend 17B4-17D3:Extend 17DD:Extend 17E0-17E9:NU 180B-180D:Extend 180E:FO",
    "180F:Extend 1810-1819:NU 1820-1878:LE 1880-1884:LE 1885-1886:Extend 1887-18A8:LE",
    "18A9:Extend 18AA:LE 18B0-18F5:LE 1900-191E:LE 1920-192B:Extend 1930-193B:Extend",
    "1946-194F:NU 19D0-19D9:NU 1A00-1A16:LE 1A17-1A1B:Extend 1A55-1A5E:Extend 1A60-1A7C:Extend",
    "1A7F:Extend 1A80-1A89:NU 1A90-1A99:NU 1AB0-1ACE:Extend 1B00-1B04:Extend 1B05-1B33:LE",
    "1B34-1B44:Extend 1B45-1B4C:LE 1B50-1B59:NU 1B6B-1B73:Extend 1B80-1B82:Extend 1B83-1BA0:LE",
    "1BA1-1BAD:Extend 1BAE-1BAF:LE 1BB0-1BB9:NU 1BBA-1BE5:LE 1BE6-1BF3:Extend 1C00-1C23:LE",
    "1C24-1C37:Extend 1C40-1C49:NU 1C4D-1C4F:LE 1C50-1C59:NU 1C5A-1C7D:LE 1C80-1C8A:LE",
    "1C90-1CBA:LE 1CBD-1CBF:LE 1CD0-1CD2:Extend 1CD4-1CE8:Extend 1CE9-1CEC:LE 1CED:Extend",
    "1CEE-1CF3:LE 1CF4:Extend 1CF5-1CF6:LE 1CF7-1CF9:Extend 1CFA:LE 1D00-1DBF:LE",
    "1DC0-1DFF:Extend 1E00-1F15:LE 1F18-1F1D:LE 1F20-1F45:LE 1F48-1F4D:LE 1F50-1F57:LE 1F59:LE",
    "1F5B:LE 1F5D:LE 1F5F-1F7D:LE 1F80-1FB4:LE 1FB6-1FBC:LE 1FBE:LE 1FC2-1FC4:LE 1FC6-1FCC:LE",
    "1FD0-1FD3:LE 1FD6-1FDB:LE 1FE0-1FEC:LE 1FF2-1FF4:LE 1FF6-1FFC:LE 2000-2006:WSegSpace",
    "2008-200A:WSegSpace 200C:Extend 200D:ZWJ 200E-200F:FO 2018-2019:MB 2024:MB 2027:ML",
    "2028-2029:NL 202A-202E:FO 202F:EX 203F-2040:EX 2044:MN 2054:EX 205F:WSegSpace 2060-2064:FO",
    "2066-206F:FO 2071:LE 207F:LE 2090-209C:LE 20D0-20F0:Extend 2102:LE 2107:LE 210A-2113:LE",
    "2115:LE 2119-211D:LE 2124:LE 2126:LE 2128:LE 212A-212D:LE 212F-2139:LE 213C-213F:LE",
    "2145-2149:LE 214E:LE 2160-2188:LE 24B6-24E9:LE 2C00-2CE4:LE 2CEB-2CEE:LE 2CEF-2CF1:Extend",
    "2CF2-2CF3:LE 2D00-2D25:LE 2D27:LE 2D2D:LE 2D30-2D67:LE 2D6F:LE 2D7F:Extend 2D80-2D96:LE",
    "2DA0-2DA6:LE 2DA8-2DAE:LE 2DB0-2DB6:LE 2DB8-2DBE:LE 2DC0-2DC6:LE 2DC8-2DCE:LE 2DD0-2DD6:LE",
    "2DD8-2DDE:LE 2DE0-2DFF:Extend 2E2F:LE 3000:WSegSpace 3005:LE 302A-302F:Extend 3031-3035:KA",
    "303B-303C:LE 3099-309A:Extend 309B-309C:KA 30A0-30FA:KA 30FC-30FF:KA 3105-312F:LE",
    "3131-318E:LE 31A0-31BF:LE 31F0-31FF:KA 32D0-32FE:KA 3300-3357:KA A000-A48C:LE A4D0-A4FD:LE",
    "A500-A60C:LE A610-A61F:LE A620-A629:NU A62A-A62B:LE A640-A66E:LE A66F-A672:Extend",
    "A674-A67D:Extend A67F-A69D:LE A69E-A69F:Extend A6A0-A6EF:LE A6F0-A6F1:Extend A708-A7CD:LE",
    "A7D0-A7D1:LE A7D3:LE A7D5-A7DC:LE A7F2-A801:LE A802:Extend A803-A805:LE A806:Extend",
    "A807-A80A:LE A80B:Extend A80C-A822:LE A823-A827:Extend A82C:Extend A840-A873:LE",
    "A880-A881:Extend A882-A8B3:LE A8B4-A8C5:Extend A8D0-A8D9:NU A8E0-A8F1:Extend A8F2-A8F7:LE",
    "A8FB:LE A8FD-A8FE:LE A8FF:Extend A900-A909:NU A90A-A925:LE A926-A92D:Extend A930-A946:LE",
    "A947-A953:Extend A960-A97C:LE A980-A983:Extend A984-A9B2:LE A9B3-A9C0:Extend A9CF:LE",
    "A9D0-A9D9:NU A9E5:Extend A9F0-A9F9:NU AA00-AA28:LE AA29-AA36:Extend AA40-AA42:LE",
    "AA43:Extend AA44-AA4B:LE AA4C-AA4D:Extend AA50-AA59:NU AA7B-AA7D:Extend AAB0:Extend",
    "AAB2-AAB4:Extend AAB7-AAB8:Extend AABE-AABF:Extend AAC1:Extend AAE0-AAEA:LE",
    "AAEB-AAEF:Extend AAF2-AAF4:LE AAF5-AAF6:Extend AB01-AB06:LE AB09-AB0E:LE AB11-AB16:LE",
    "AB20-AB26:LE AB28-AB2E:LE AB30-AB69:LE AB70-ABE2:LE ABE3-ABEA:Extend ABEC-ABED:Extend",
    "ABF0-ABF9:NU AC00-D7A3:LE D7B0-D7C6:LE D7CB-D7FB:LE FB00-FB06:LE FB13-FB17:LE FB1D:HL",
    "FB1E:Extend FB1F-FB28:HL FB2A-FB36:HL FB38-FB3C:HL FB3E:HL FB40-FB41:HL FB43-FB44:HL",
    "FB46-FB4F:HL FB50-FBB1:LE FBD3-FD3D:LE FD50-FD8F:LE FD92-FDC7:LE FDF0-FDFB:LE",
    "FE00-FE0F:Extend FE10:MN FE13:ML FE14:MN FE20-FE2F:Extend FE33-FE34:EX FE4D-FE4F:EX",
    "FE50:MN FE52:MB FE54:MN FE55:ML FE70-FE74:LE FE76-FEFC:LE FEFF:FO FF07:MB FF0C:MN FF0E:MB",
    "FF10-FF19:NU FF1A:ML FF1B:MN FF21-FF3A:LE FF3F:EX FF41-FF5A:LE FF66-FF9D:KA",
    "FF9E-FF9F:Extend FFA0-FFBE:LE FFC2-FFC7:LE FFCA-FFCF:LE FFD2-FFD7:LE FFDA-FFDC:LE",
    "FFF9-FFFB:FO 10000-1000B:LE 1000D-10026:LE 10028-1003A:LE 1003C-1003D:LE 1003F-1004D:LE",
    "10050-1005D:LE 10080-100FA:LE 10140-10174:LE 101FD:Extend 10280-1029C:LE 102A0-102D0:LE",
    "102E0:Extend 10300-1031F:LE 1032D-1034A:LE 10350-10375:LE 10376-1037A:Extend",
    "10380-1039D:LE 103A0-103C3:LE 103C8-103CF:LE 103D1-103D5:LE 10400-1049D:LE 104A0-104A9:NU",
    "104B0-104D3:LE 104D8-104FB:LE 10500-10527:LE 10530-10563:LE 10570-1057A:LE 1057C-1058A:LE",
    "1058C-10592:LE 10594-10595:LE 10597-105A1:LE 105A3-105B1:LE 105B3-105B9:LE 105BB-105BC:LE",
    "105C0-105F3:LE 10600-10736:LE 10740-10755:LE 10760-10767:LE 10780-10785:LE 10787-107B0:LE",
    "107B2-107BA:LE 10800-10805:LE 10808:LE 1080A-10835:LE 10837-10838:LE 1083C:LE",
    "1083F-10855:LE 10860-10876:LE 10880-1089E:LE 108E0-108F2:LE 108F4-108F5:LE 10900-10915:LE",
    "10920-10939:LE 10980-109B7:LE 109BE-109BF:LE 10A00:LE 10A01-10A03:Extend",
    "10A05-10A06:Extend 10A0C-10A0F:Extend 10A10-10A13:LE 10A15-10A17:LE 10A19-10A35:LE",
    "10A38-10A3A:Extend 10A3F:Extend 10A60-10A7C:LE 10A80-10A9C:LE 10AC0-10AC7:LE",
    "10AC9-10AE4:LE 10AE5-10AE6:Extend 10B00-10B35:LE 10B40-10B55:LE 10B60-10B72:LE",
    "10B80-10B91:LE 10C00-10C48:LE 10C80-10CB2:LE 10CC0-10CF2:LE 10D00-10D23:LE",
    "10D24-10D27:Extend 10D30-10D39:NU 10D40-10D49:NU 10D4A-10D65:LE 10D69-10D6D:Extend",
    "10D6F-10D85:LE 10E80-10EA9:LE 10EAB-10EAC:Extend 10EB0-10EB1:LE 10EC2-10EC4:LE",
    "10EFC-10EFF:Extend 10F00-10F1C:LE 10F27:LE 10F30-10F45:LE 10F46-10F50:Extend",
    "10F70-10F81:LE 10F82-10F85:Extend 10FB0-10FC4:LE 10FE0-10FF6:LE 11000-11002:Extend",
    "11003-11037:LE 11038-11046:Extend 11066-1106F:NU 11070:Extend 11071-11072:LE",
    "11073-11074:Extend 11075:LE 1107F-11082:Extend 11083-110AF:LE 110B0-110BA:Extend 110BD:FO",
    "110C2:Extend 110CD:FO 110D0-110E8:LE 110F0-110F9:NU 11100-11102:Extend 11103-11126:LE",
    "11127-11134:Extend 11136-1113F:NU 11144:LE 11145-11146:Extend 11147:LE 11150-11172:LE",
    "11173:Extend 11176:LE 11180-11182:Extend 11183-111B2:LE 111B3-111C0:Extend 111C1-111C4:LE",
    "111C9-111CC:Extend 111CE-111CF:Extend 111D0-111D9:NU 111DA:LE 111DC:LE 11200-11211:LE",
    "11213-1122B:LE 1122C-11237:Extend 1123E:Extend 1123F-11240:LE 11241:Extend 11280-11286:LE",
    "11288:LE 1128A-1128D:LE 1128F-1129D:LE 1129F-112A8:LE 112B0-112DE:LE 112DF-112EA:Extend",
    "112F0-112F9:NU 11300-11303:Extend 11305-1130C:LE 1130F-11310:LE 11313-11328:LE",
    "1132A-11330:LE 11332-11333:LE 11335-11339:LE 1133B-1133C:Extend 1133D:LE",
    "1133E-11344:Extend 11347-11348:Extend 1134B-1134D:Extend 11350:LE 11357:Extend",
    "1135D-11361:LE 11362-11363:Extend 11366-1136C:Extend 11370-11374:Extend 11380-11389:LE",
    "1138B:LE 1138E:LE 11390-113B5:LE 113B7:LE 113B8-113C0:Extend 113C2:Extend 113C5:Extend",
    "113C7-113CA:Extend 113CC-113D0:Extend 113D1:LE 113D2:Extend 113D3:LE 113E1-113E2:Extend",
    "11400-11434:LE 11435-11446:Extend 11447-1144A:LE 11450-11459:NU 1145E:Extend",
    "1145F-11461:LE 11480-114AF:LE 114B0-114C3:Extend 114C4-114C5:LE 114C7:LE 114D0-114D9:NU",
    "11580-115AE:LE 115AF-115B5:Extend 115B8-115C0:Extend 115D8-115DB:LE 115DC-115DD:Extend",
    "11600-1162F:LE 11630-11640:Extend 11644:LE 11650-11659:NU 11680-116AA:LE",
    "116AB-116B7:Extend 116B8:LE 116C0-116C9:NU 116D0-116E3:NU 1171D-1172B:Extend",
    "11730-11739:NU 11800-1182B:LE 1182C-1183A:Extend 118A0-118DF:LE 118E0-118E9:NU",
    "118FF-11906:LE 11909:LE 1190C-11913:LE 11915-11916:LE 11918-1192F:LE 11930-11935:Extend",
    "11937-11938:Extend 1193B-1193E:Extend 1193F:LE 11940:Extend 11941:LE 11942-11943:Extend",
    "11950-11959:NU 119A0-119A7:LE 119AA-119D0:LE 119D1-119D7:Extend 119DA-119E0:Extend",
    "119E1:LE 119E3:LE 119E4:Extend 11A00:LE 11A01-11A0A:Extend 11A0B-11A32:LE",
    "11A33-11A39:Extend 11A3A:LE 11A3B-11A3E:Extend 11A47:Extend 11A50:LE 11A51-11A5B:Extend",
    "11A5C-11A89:LE 11A8A-11A99:Extend 11A9D:LE 11AB0-11AF8:LE 11BC0-11BE0:LE 11BF0-11BF9:NU",
    "11C00-11C08:LE 11C0A-11C2E:LE 11C2F-11C36:Extend 11C38-11C3F:Extend 11C40:LE",
    "11C50-11C59:NU 11C72-11C8F:LE 11C92-11CA7:Extend 11CA9-11CB6:Extend 11D00-11D06:LE",
    "11D08-11D09:LE 11D0B-11D30:LE 11D31-11D36:Extend 11D3A:Extend 11D3C-11D3D:Extend",
    "11D3F-11D45:Extend 11D46:LE 11D47:Extend 11D50-11D59:NU 11D60-11D65:LE 11D67-11D68:LE",
    "11D6A-11D89:LE 11D8A-11D8E:Extend 11D90-11D91:Extend 11D93-11D97:Extend 11D98:LE",
    "11DA0-11DA9:NU 11EE0-11EF2:LE 11EF3-11EF6:Extend 11F00-11F01:Extend 11F02:LE 11F03:Extend",
    "11F04-11F10:LE 11F12-11F33:LE 11F34-11F3A:Extend 11F3E-11F42:Extend 11F50-11F59:NU",
    "11F5A:Extend 11FB0:LE 12000-12399:LE 12400-1246E:LE 12480-12543:LE 12F90-12FF0:LE",
    "13000-1342F:LE 13430-1343F:FO 13440:Extend 13441-13446:LE 13447-13455:Extend",
    "13460-143FA:LE 14400-14646:LE 16100-1611D:LE 1611E-1612F:Extend 16130-16139:NU",
    "16800-16A38:LE 16A40-16A5E:LE 16A60-16A69:NU 16A70-16ABE:LE 16AC0-16AC9:NU 16AD0-16AED:LE",
    "16AF0-16AF4:Extend 16B00-16B2F:LE 16B30-16B36:Extend 16B40-16B43:LE 16B50-16B59:NU",
    "16B63-16B77:LE 16B7D-16B8F:LE 16D40-16D6C:LE 16D70-16D79:NU 16E40-16E7F:LE 16F00-16F4A:LE",
    "16F4F:Extend 16F50:LE 16F51-16F87:Extend 16F8F-16F92:Extend 16F93-16F9F:LE 16FE0-16FE1:LE",
    "16FE3:LE 16FE4:Extend 16FF0-16FF1:Extend 18CFF:LE 1AFF0-1AFF3:KA 1AFF5-1AFFB:KA",
    "1AFFD-1AFFE:KA 1B000:KA 1B120-1B122:KA 1B155:KA 1B164-1B167:KA 1BC00-1BC6A:LE",
    "1BC70-1BC7C:LE 1BC80-1BC88:LE 1BC90-1BC99:LE 1BC9D-1BC9E:Extend 1BCA0-1BCA3:FO",
    "1CCF0-1CCF9:NU 1CF00-1CF2D:Extend 1CF30-1CF46:Extend 1D165-1D169:Extend 1D16D-1D172:Extend",
    "1D173-1D17A:FO 1D17B-1D182:Extend 1D185-1D18B:Extend 1D1AA-1D1AD:Extend 1D242-1D244:Extend",
    "1D400-1D454:LE 1D456-1D49C:LE 1D49E-1D49F:LE 1D4A2:LE 1D4A5-1D4A6:LE 1D4A9-1D4AC:LE",
    "1D4AE-1D4B9:LE 1D4BB:LE 1D4BD-1D4C3:LE 1D4C5-1D505:LE 1D507-1D50A:LE 1D50D-1D514:LE",
    "1D516-1D51C:LE 1D51E-1D539:LE 1D53B-1D53E:LE 1D540-1D544:LE 1D546:LE 1D54A-1D550:LE",
    "1D552-1D6A5:LE 1D6A8-1D6C0:LE 1D6C2-1D6DA:LE 1D6DC-1D6FA:LE 1D6FC-1D714:LE 1D716-1D734:LE",
    "1D736-1D74E:LE 1D750-1D76E:LE 1D770-1D788:LE 1D78A-1D7A8:LE 1D7AA-1D7C2:LE 1D7C4-1D7CB:LE",
    "1D7CE-1D7FF:NU 1DA00-1DA36:Extend 1DA3B-1DA6C:Extend 1DA75:Extend 1DA84:Extend",
    "1DA9B-1DA9F:Extend 1DAA1-1DAAF:Extend 1DF00-1DF1E:LE 1DF25-1DF2A:LE 1E000-1E006:Extend",
    "1E008-1E018:Extend 1E01B-1E021:Extend 1E023-1E024:Extend 1E026-1E02A:Extend 1E030-1E06D:LE",
    "1E08F:Extend 1E100-1E12C:LE 1E130-1E136:Extend 1E137-1E13D:LE 1E140-1E149:NU 1E14E:LE",
    "1E290-1E2AD:LE 1E2AE:Extend 1E2C0-1E2EB:LE 1E2EC-1E2EF:Extend 1E2F0-1E2F9:NU",
    "1E4D0-1E4EB:LE 1E4EC-1E4EF:Extend 1E4F0-1E4F9:NU 1E5D0-1E5ED:LE 1E5EE-1E5EF:Extend",
    "1E5F0:LE 1E5F1-1E5FA:NU 1E7E0-1E7E6:LE 1E7E8-1E7EB:LE 1E7ED-1E7EE:LE 1E7F0-1E7FE:LE",
    "1E800-1E8C4:LE 1E8D0-1E8D6:Extend 1E900-1E943:LE 1E944-1E94A:Extend 1E94B:LE",
    "1E950-1E959:NU 1EE00-1EE03:LE 1EE05-1EE1F:LE 1EE21-1EE22:LE 1EE24:LE 1EE27:LE",
    "1EE29-1EE32:LE 1EE34-1EE37:LE 1EE39:LE 1EE3B:LE 1EE42:LE 1EE47:LE 1EE49:LE 1EE4B:LE",
    "1EE4D-1EE4F:LE 1EE51-1EE52:LE 1EE54:LE 1EE57:LE 1EE59:LE 1EE5B:LE 1EE5D:LE 1EE5F:LE",
    "1EE61-1EE62:LE 1EE64:LE 1EE67-1EE6A:LE 1EE6C-1EE72:LE 1EE74-1EE77:LE 1EE79-1EE7C:LE",
    "1EE7E:LE 1EE80-1EE89:LE 1EE8B-1EE9B:LE 1EEA1-1EEA3:LE 1EEA5-1EEA9:LE 1EEAB-1EEBB:LE",
    "1F130-1F149:LE 1F150-1F169:LE 1F170-1F189:LE 1F1E6-1F1FF:RI 1F3FB-1F3FF:Extend",
    "1FBF0-1FBF9:NU E0001:FO E0020-E007F:Extend E0100-E01EF:Extend"]

/-- Each class of the breaks between words with its names in loose form. -/
def wordNames : List (String × List String) :=
  [("CR", ["cr"]),
   ("DQ", ["dq", "doublequote"]),
   ("EX", ["ex", "extendnumlet"]),
   ("Extend", ["extend"]),
   ("FO", ["fo", "format"]),
   ("HL", ["hl", "hebrewletter"]),
   ("KA", ["ka", "katakana"]),
   ("LE", ["le", "aletter"]),
   ("LF", ["lf"]),
   ("MB", ["mb", "midnumlet"]),
   ("ML", ["ml", "midletter"]),
   ("MN", ["mn", "midnum"]),
   ("NL", ["nl", "newline"]),
   ("NU", ["nu", "numeric"]),
   ("RI", ["ri", "regionalindicator"]),
   ("SQ", ["sq", "singlequote"]),
   ("WSegSpace", ["wsegspace"]),
   ("ZWJ", ["zwj"])]

/-- The classes of the breaks between sentences. -/
def sentenceRows : List String :=
   ["9:SP A:LF B-C:SP D:CR 20:SP 21:ST 22:CL 27-29:CL 2C-2D:SC 2E:AT 30-39:NU 3A:SC 3F:ST",
    "41-5A:UP 5B:CL 5D:CL 61-7A:LO 7B:CL 7D:CL 85:SE A0:SP AA:LO AB:CL AD:FO B5:LO BA:LO BB:CL",
    "C0-D6:UP D8-DE:UP DF-F6:LO F8-FF:LO 100:UP 101:LO 102:UP 103:LO 104:UP 105:LO 106:UP",
    "107:LO 108:UP 109:LO 10A:UP 10B:LO 10C:UP 10D:LO 10E:UP 10F:LO 110:UP 111:LO 112:UP 113:LO",
    "114:UP 115:LO 116:UP 117:LO 118:UP 119:LO 11A:UP 11B:LO 11C:UP 11D:LO 11E:UP 11F:LO 120:UP",
    "121:LO 122:UP 123:LO 124:UP 125:LO 126:UP 127:LO 128:UP 129:LO 12A:UP 12B:LO 12C:UP 12D:LO",
    "12E:UP 12F:LO 130:UP 131:LO 132:UP 133:LO 134:UP 135:LO 136:UP 137-138:LO 139:UP 13A:LO",
    "13B:UP 13C:LO 13D:UP 13E:LO 13F:UP 140:LO 141:UP 142:LO 143:UP 144:LO 145:UP 146:LO 147:UP",
    "148-149:LO 14A:UP 14B:LO 14C:UP 14D:LO 14E:UP 14F:LO 150:UP 151:LO 152:UP 153:LO 154:UP",
    "155:LO 156:UP 157:LO 158:UP 159:LO 15A:UP 15B:LO 15C:UP 15D:LO 15E:UP 15F:LO 160:UP 161:LO",
    "162:UP 163:LO 164:UP 165:LO 166:UP 167:LO 168:UP 169:LO 16A:UP 16B:LO 16C:UP 16D:LO 16E:UP",
    "16F:LO 170:UP 171:LO 172:UP 173:LO 174:UP 175:LO 176:UP 177:LO 178-179:UP 17A:LO 17B:UP",
    "17C:LO 17D:UP 17E-180:LO 181-182:UP 183:LO 184:UP 185:LO 186-187:UP 188:LO 189-18B:UP",
    "18C-18D:LO 18E-191:UP 192:LO 193-194:UP 195:LO 196-198:UP 199-19B:LO 19C-19D:UP 19E:LO",
    "19F-1A0:UP 1A1:LO 1A2:UP 1A3:LO 1A4:UP 1A5:LO 1A6-1A7:UP 1A8:LO 1A9:UP 1AA-1AB:LO 1AC:UP",
    "1AD:LO 1AE-1AF:UP 1B0:LO 1B1-1B3:UP 1B4:LO 1B5:UP 1B6:LO 1B7-1B8:UP 1B9-1BA:LO 1BB:LE",
    "1BC:UP 1BD-1BF:LO 1C0-1C3:LE 1C4-1C5:UP 1C6:LO 1C7-1C8:UP 1C9:LO 1CA-1CB:UP 1CC:LO 1CD:UP",
    "1CE:LO 1CF:UP 1D0:LO 1D1:UP 1D2:LO 1D3:UP 1D4:LO 1D5:UP 1D6:LO 1D7:UP 1D8:LO 1D9:UP 1DA:LO",
    "1DB:UP 1DC-1DD:LO 1DE:UP 1DF:LO 1E0:UP 1E1:LO 1E2:UP 1E3:LO 1E4:UP 1E5:LO 1E6:UP 1E7:LO",
    "1E8:UP 1E9:LO 1EA:UP 1EB:LO 1EC:UP 1ED:LO 1EE:UP 1EF-1F0:LO 1F1-1F2:UP 1F3:LO 1F4:UP",
    "1F5:LO 1F6-1F8:UP 1F9:LO 1FA:UP 1FB:LO 1FC:UP 1FD:LO 1FE:UP 1FF:LO 200:UP 201:LO 202:UP",
    "203:LO 204:UP 205:LO 206:UP 207:LO 208:UP 209:LO 20A:UP 20B:LO 20C:UP 20D:LO 20E:UP 20F:LO",
    "210:UP 211:LO 212:UP 213:LO 214:UP 215:LO 216:UP 217:LO 218:UP 219:LO 21A:UP 21B:LO 21C:UP",
    "21D:LO 21E:UP 21F:LO 220:UP 221:LO 222:UP 223:LO 224:UP 225:LO 226:UP 227:LO 228:UP 229:LO",
    "22A:UP 22B:LO 22C:UP 22D:LO 22E:UP 22F:LO 230:UP 231:LO 232:UP 233-239:LO 23A-23B:UP",
    "23C:LO 23D-23E:UP 23F-240:LO 241:UP 242:LO 243-246:UP 247:LO 248:UP 249:LO 24A:UP 24B:LO",
    "24C:UP 24D:LO 24E:UP 24F-293:LO 294:LE 295-2B8:LO 2B9-2BF:LE 2C0-2C1:LO 2C6-2D1:LE",
    "2E0-2E4:LO 2EC:LE 2EE:LE 300-36F:EX 370:UP 371:LO 372:UP 373:LO 374:LE 376:UP 377:LO",
    "37A-37D:LO 37F:UP 386:UP 388-38A:UP 38C:UP 38E-38F:UP 390:LO 391-3A1:UP 3A3-3AB:UP",
    "3AC-3CE:LO 3CF:UP 3D0-3D1:LO 3D2-3D4:UP 3D5-3D7:LO 3D8:UP 3D9:LO 3DA:UP 3DB:LO 3DC:UP",
    "3DD:LO 3DE:UP 3DF:LO 3E0:UP 3E1:LO 3E2:UP 3E3:LO 3E4:UP 3E5:LO 3E6:UP 3E7:LO 3E8:UP 3E9:LO",
    "3EA:UP 3EB:LO 3EC:UP 3ED:LO 3EE:UP 3EF-3F3:LO 3F4:UP 3F5:LO 3F7:UP 3F8:LO 3F9-3FA:UP",
    "3FB-3FC:LO 3FD-42F:UP 430-45F:LO 460:UP 461:LO 462:UP 463:LO 464:UP 465:LO 466:UP 467:LO",
    "468:UP 469:LO 46A:UP 46B:LO 46C:UP 46D:LO 46E:UP 46F:LO 470:UP 471:LO 472:UP 473:LO 474:UP",
    "475:LO 476:UP 477:LO 478:UP 479:LO 47A:UP 47B:LO 47C:UP 47D:LO 47E:UP 47F:LO 480:UP 481:LO",
    "483-489:EX 48A:UP 48B:LO 48C:UP 48D:LO 48E:UP 48F:LO 490:UP 491:LO 492:UP 493:LO 494:UP",
    "495:LO 496:UP 497:LO 498:UP 499:LO 49A:UP 49B:LO 49C:UP 49D:LO 49E:UP 49F:LO 4A0:UP 4A1:LO",
    "4A2:UP 4A3:LO 4A4:UP 4A5:LO 4A6:UP 4A7:LO 4A8:UP 4A9:LO 4AA:UP 4AB:LO 4AC:UP 4AD:LO 4AE:UP",
    "4AF:LO 4B0:UP 4B1:LO 4B2:UP 4B3:LO 4B4:UP 4B5:LO 4B6:UP 4B7:LO 4B8:UP 4B9:LO 4BA:UP 4BB:LO",
    "4BC:UP 4BD:LO 4BE:UP 4BF:LO 4C0-4C1:UP 4C2:LO 4C3:UP 4C4:LO 4C5:UP 4C6:LO 4C7:UP 4C8:LO",
    "4C9:UP 4CA:LO 4CB:UP 4CC:LO 4CD:UP 4CE-4CF:LO 4D0:UP 4D1:LO 4D2:UP 4D3:LO 4D4:UP 4D5:LO",
    "4D6:UP 4D7:LO 4D8:UP 4D9:LO 4DA:UP 4DB:LO 4DC:UP 4DD:LO 4DE:UP 4DF:LO 4E0:UP 4E1:LO 4E2:UP",
    "4E3:LO 4E4:UP 4E5:LO 4E6:UP 4E7:LO 4E8:UP 4E9:LO 4EA:UP 4EB:LO 4EC:UP 4ED:LO 4EE:UP 4EF:LO",
    "4F0:UP 4F1:LO 4F2:UP 4F3:LO 4F4:UP 4F5:LO 4F6:UP 4F7:LO 4F8:UP 4F9:LO 4FA:UP 4FB:LO 4FC:UP",
    "4FD:LO 4FE:UP 4FF:LO 500:UP 501:LO 502:UP 503:LO 504:UP 505:LO 506:UP 507:LO 508:UP 509:LO",
    "50A:UP 50B:LO 50C:UP 50D:LO 50E:UP 50F:LO 510:UP 511:LO 512:UP 513:LO 514:UP 515:LO 516:UP",
    "517:LO 518:UP 519:LO 51A:UP 51B:LO 51C:UP 51D:LO 51E:UP 51F:LO 520:UP 521:LO 522:UP 523:LO",
    "524:UP 525:LO 526:UP 527:LO 528:UP 529:LO 52A:UP 52B:LO 52C:UP 52D:LO 52E:UP 52F:LO",
    "531-556:UP 559:LE 55D:SC 560-588:LO 589:ST 591-5BD:EX 5BF:EX 5C1-5C2:EX 5C4-5C5:EX 5C7:EX",
    "5D0-5EA:LE 5EF-5F3:LE 600-605:FO 60C-60D:SC 610-61A:EX 61C:FO 61D-61F:ST 620-64A:LE",
    "64B-65F:EX 660-669:NU 66B-66C:NU 66E-66F:LE 670:EX 671-6D3:LE 6D4:ST 6D5:LE 6D6-6DC:EX",
    "6DD:FO 6DF-6E4:EX 6E5-6E6:LE 6E7-6E8:EX 6EA-6ED:EX 6EE-6EF:LE 6F0-6F9:NU 6FA-6FC:LE 6FF:LE",
    "700-702:ST 70F:FO 710:LE 711:EX 712-72F:LE 730-74A:EX 74D-7A5:LE 7A6-7B0:EX 7B1:LE",
    "7C0-7C9:NU 7CA-7EA:LE 7EB-7F3:EX 7F4-7F5:LE 7F8:SC 7F9:ST 7FA:LE 7FD:EX 800-815:LE",
    "816-819:EX 81A:LE 81B-823:EX 824:LE 825-827:EX 828:LE 829-82D:EX 837:ST 839:ST 83D-83E:ST",
    "840-858:LE 859-85B:EX 860-86A:LE 870-887:LE 889-88E:LE 890-891:FO 897-89F:EX 8A0-8C9:LE",
    "8CA-8E1:EX 8E2:FO 8E3-903:EX 904-939:LE 93A-93C:EX 93D:LE 93E-94F:EX 950:LE 951-957:EX",
    "958-961:LE 962-963:EX 964-965:ST 966-96F:NU 971-980:LE 981-983:EX 985-98C:LE 98F-990:LE",
    "993-9A8:LE 9AA-9B0:LE 9B2:LE 9B6-9B9:LE 9BC:EX 9BD:LE 9BE-9C4:EX 9C7-9C8:EX 9CB-9CD:EX",
    "9CE:LE 9D7:EX 9DC-9DD:LE 9DF-9E1:LE 9E2-9E3:EX 9E6-9EF:NU 9F0-9F1:LE 9FC:LE 9FE:EX",
    "A01-A03:EX A05-A0A:LE A0F-A10:LE A13-A28:LE A2A-A30:LE A32-A33:LE A35-A36:LE A38-A39:LE",
    "A3C:EX A3E-A42:EX A47-A48:EX A4B-A4D:EX A51:EX A59-A5C:LE A5E:LE A66-A6F:NU A70-A71:EX",
    "A72-A74:LE A75:EX A81-A83:EX A85-A8D:LE A8F-A91:LE A93-AA8:LE AAA-AB0:LE AB2-AB3:LE",
    "AB5-AB9:LE ABC:EX ABD:LE ABE-AC5:EX AC7-AC9:EX ACB-ACD:EX AD0:LE AE0-AE1:LE AE2-AE3:EX",
    "AE6-AEF:NU AF9:LE AFA-AFF:EX B01-B03:EX B05-B0C:LE B0F-B10:LE B13-B28:LE B2A-B30:LE",
    "B32-B33:LE B35-B39:LE B3C:EX B3D:LE B3E-B44:EX B47-B48:EX B4B-B4D:EX B55-B57:EX B5C-B5D:LE",
    "B5F-B61:LE B62-B63:EX B66-B6F:NU B71:LE B82:EX B83:LE B85-B8A:LE B8E-B90:LE B92-B95:LE",
    "B99-B9A:LE B9C:LE B9E-B9F:LE BA3-BA4:LE BA8-BAA:LE BAE-BB9:LE BBE-BC2:EX BC6-BC8:EX",
    "BCA-BCD:EX BD0:LE BD7:EX BE6-BEF:NU C00-C04:EX C05-C0C:LE C0E-C10:LE C12-C28:LE C2A-C39:LE",
    "C3C:EX C3D:LE C3E-C44:EX C46-C48:EX C4A-C4D:EX C55-C56:EX C58-C5A:LE C5D:LE C60-C61:LE",
    "C62-C63:EX C66-C6F:NU C80:LE C81-C83:EX C85-C8C:LE C8E-C90:LE C92-CA8:LE CAA-CB3:LE",
    "CB5-CB9:LE CBC:EX CBD:LE CBE-CC4:EX CC6-CC8:EX CCA-CCD:EX CD5-CD6:EX CDD-CDE:LE CE0-CE1:LE",
    "CE2-CE3:EX CE6-CEF:NU CF1-CF2:LE CF3:EX D00-D03:EX D04-D0C:LE D0E-D10:LE D12-D3A:LE",
    "D3B-D3C:EX D3D:LE D3E-D44:EX D46-D48:EX D4A-D4D:EX D4E:LE D54-D56:LE D57:EX D5F-D61:LE",
    "D62-D63:EX D66-D6F:NU D7A-D7F:LE D81-D83:EX D85-D96:LE D9A-DB1:LE DB3-DBB:LE DBD:LE",
    "DC0-DC6:LE DCA:EX DCF-DD4:EX DD6:EX DD8-DDF:EX DE6-DEF:NU DF2-DF3:EX E01-E30:LE E31:EX",
    "E32-E33:LE E34-E3A:EX E40-E46:LE E47-E4E:EX E50-E59:NU E81-E82:LE E84:LE E86-E8A:LE",
    "E8C-EA3:LE EA5:LE EA7-EB0:LE EB1:EX EB2-EB3:LE EB4-EBC:EX EBD:LE EC0-EC4:LE EC6:LE",
    "EC8-ECE:EX ED0-ED9:NU EDC-EDF:LE F00:LE F18-F19:EX F20-F29:NU F35:EX F37:EX F39:EX",
    "F3A-F3D:CL F3E-F3F:EX F40-F47:LE F49-F6C:LE F71-F84:EX F86-F87:EX F88-F8C:LE F8D-F97:EX",
    "F99-FBC:EX FC6:EX 1000-102A:LE 102B-103E:EX 103F:LE 1040-1049:NU 104A-104B:ST 1050-1055:LE",
    "1056-1059:EX 105A-105D:LE 105E-1060:EX 1061:LE 1062-1064:EX 1065-1066:LE 1067-106D:EX",
    "106E-1070:LE 1071-1074:EX 1075-1081:LE 1082-108D:EX 108E:LE 108F:EX 1090-1099:NU",
    "109A-109D:EX 10A0-10C5:UP 10C7:UP 10CD:UP 10D0-10FA:LE 10FC:LO 10FD-1248:LE 124A-124D:LE",
    "1250-1256:LE 1258:LE 125A-125D:LE 1260-1288:LE 128A-128D:LE 1290-12B0:LE 12B2-12B5:LE",
    "12B8-12BE:LE 12C0:LE 12C2-12C5:LE 12C8-12D6:LE 12D8-1310:LE 1312-1315:LE 1318-135A:LE",
    "135D-135F:EX 1362:ST 1367-1368:ST 1380-138F:LE 13A0-13F5:UP 13F8-13FD:LO 1401-166C:LE",
    "166E:ST 166F-167F:LE 1680:SP 1681-169A:LE 169B-169C:CL 16A0-16EA:LE 16EE-16F8:LE",
    "1700-1711:LE 1712-1715:EX 171F-1731:LE 1732-1734:EX 1735-1736:ST 1740-1751:LE 1752-1753:EX",
    "1760-176C:LE 176E-1770:LE 1772-1773:EX 1780-17B3:LE 17B4-17D3:EX 17D7:LE 17DC:LE 17DD:EX",
    "17E0-17E9:NU 1802:SC 1803:ST 1808:SC 1809:ST 180B-180D:EX 180E:FO 180F:EX 1810-1819:NU",
    "1820-1878:LE 1880-1884:LE 1885-1886:EX 1887-18A8:LE 18A9:EX 18AA:LE 18B0-18F5:LE",
    "1900-191E:LE 1920-192B:EX 1930-193B:EX 1944-1945:ST 1946-194F:NU 1950-196D:LE 1970-1974:LE",
    "1980-19AB:LE 19B0-19C9:LE 19D0-19D9:NU 1A00-1A16:LE 1A17-1A1B:EX 1A20-1A54:LE 1A55-1A5E:EX",
    "1A60-1A7C:EX 1A7F:EX 1A80-1A89:NU 1A90-1A99:NU 1AA7:LE 1AA8-1AAB:ST 1AB0-1ACE:EX",
    "1B00-1B04:EX 1B05-1B33:LE 1B34-1B44:EX 1B45-1B4C:LE 1B4E-1B4F:ST 1B50-1B59:NU 1B5A-1B5B:ST",
    "1B5E-1B5F:ST 1B6B-1B73:EX 1B7D-1B7F:ST 1B80-1B82:EX 1B83-1BA0:LE 1BA1-1BAD:EX 1BAE-1BAF:LE",
    "1BB0-1BB9:NU 1BBA-1BE5:LE 1BE6-1BF3:EX 1C00-1C23:LE 1C24-1C37:EX 1C3B-1C3C:ST 1C40-1C49:NU",
    "1C4D-1C4F:LE 1C50-1C59:NU 1C5A-1C7D:LE 1C7E-1C7F:ST 1C80-1C88:LO 1C89:UP 1C8A:LO",
    "1C90-1CBA:LE 1CBD-1CBF:LE 1CD0-1CD2:EX 1CD4-1CE8:EX 1CE9-1CEC:LE 1CED:EX 1CEE-1CF3:LE",
    "1CF4:EX 1CF5-1CF6:LE 1CF7-1CF9:EX 1CFA:LE 1D00-1DBF:LO 1DC0-1DFF:EX 1E00:UP 1E01:LO",
    "1E02:UP 1E03:LO 1E04:UP 1E05:LO 1E06:UP 1E07:LO 1E08:UP 1E09:LO 1E0A:UP 1E0B:LO 1E0C:UP",
    "1E0D:LO 1E0E:UP 1E0F:LO 1E10:UP 1E11:LO 1E12:UP 1E13:LO 1E14:UP 1E15:LO 1E16:UP 1E17:LO",
    "1E18:UP 1E19:LO 1E1A:UP 1E1B:LO 1E1C:UP 1E1D:LO 1E1E:UP 1E1F:LO 1E20:UP 1E21:LO 1E22:UP",
    "1E23:LO 1E24:UP 1E25:LO 1E26:UP 1E27:LO 1E28:UP 1E29:LO 1E2A:UP 1E2B:LO 1E2C:UP 1E2D:LO",
    "1E2E:UP 1E2F:LO 1E30:UP 1E31:LO 1E32:UP 1E33:LO 1E34:UP 1E35:LO 1E36:UP 1E37:LO 1E38:UP",
    "1E39:LO 1E3A:UP 1E3B:LO 1E3C:UP 1E3D:LO 1E3E:UP 1E3F:LO 1E40:UP 1E41:LO 1E42:UP 1E43:LO",
    "1E44:UP 1E45:LO 1E46:UP 1E47:LO 1E48:UP 1E49:LO 1E4A:UP 1E4B:LO 1E4C:UP 1E4D:LO 1E4E:UP",
    "1E4F:LO 1E50:UP 1E51:LO 1E52:UP 1E53:LO 1E54:UP 1E55:LO 1E56:UP 1E57:LO 1E58:UP 1E59:LO",
    "1E5A:UP 1E5B:LO 1E5C:UP 1E5D:LO 1E5E:UP 1E5F:LO 1E60:UP 1E61:LO 1E62:UP 1E63:LO 1E64:UP",
    "1E65:LO 1E66:UP 1E67:LO 1E68:UP 1E69:LO 1E6A:UP 1E6B:LO 1E6C:UP 1E6D:LO 1E6E:UP 1E6F:LO",
    "1E70:UP 1E71:LO 1E72:UP 1E73:LO 1E74:UP 1E75:LO 1E76:UP 1E77:LO 1E78:UP 1E79:LO 1E7A:UP",
    "1E7B:LO 1E7C:UP 1E7D:LO 1E7E:UP 1E7F:LO 1E80:UP 1E81:LO 1E82:UP 1E83:LO 1E84:UP 1E85:LO",
    "1E86:UP 1E87:LO 1E88:UP 1E89:LO 1E8A:UP 1E8B:LO 1E8C:UP 1E8D:LO 1E8E:UP 1E8F:LO 1E90:UP",
    "1E91:LO 1E92:UP 1E93:LO 1E94:UP 1E95-1E9D:LO 1E9E:UP 1E9F:LO 1EA0:UP 1EA1:LO 1EA2:UP",
    "1EA3:LO 1EA4:UP 1EA5:LO 1EA6:UP 1EA7:LO 1EA8:UP 1EA9:LO 1EAA:UP 1EAB:LO 1EAC:UP 1EAD:LO",
    "1EAE:UP 1EAF:LO 1EB0:UP 1EB1:LO 1EB2:UP 1EB3:LO 1EB4:UP 1EB5:LO 1EB6:UP 1EB7:LO 1EB8:UP",
    "1EB9:LO 1EBA:UP 1EBB:LO 1EBC:UP 1EBD:LO 1EBE:UP 1EBF:LO 1EC0:UP 1EC1:LO 1EC2:UP 1EC3:LO",
    "1EC4:UP 1EC5:LO 1EC6:UP 1EC7:LO 1EC8:UP 1EC9:LO 1ECA:UP 1ECB:LO 1ECC:UP 1ECD:LO 1ECE:UP",
    "1ECF:LO 1ED0:UP 1ED1:LO 1ED2:UP 1ED3:LO 1ED4:UP 1ED5:LO 1ED6:UP 1ED7:LO 1ED8:UP 1ED9:LO",
    "1EDA:UP 1EDB:LO 1EDC:UP 1EDD:LO 1EDE:UP 1EDF:LO 1EE0:UP 1EE1:LO 1EE2:UP 1EE3:LO 1EE4:UP",
    "1EE5:LO 1EE6:UP 1EE7:LO 1EE8:UP 1EE9:LO 1EEA:UP 1EEB:LO 1EEC:UP 1EED:LO 1EEE:UP 1EEF:LO",
    "1EF0:UP 1EF1:LO 1EF2:UP 1EF3:LO 1EF4:UP 1EF5:LO 1EF6:UP 1EF7:LO 1EF8:UP 1EF9:LO 1EFA:UP",
    "1EFB:LO 1EFC:UP 1EFD:LO 1EFE:UP 1EFF-1F07:LO 1F08-1F0F:UP 1F10-1F15:LO 1F18-1F1D:UP",
    "1F20-1F27:LO 1F28-1F2F:UP 1F30-1F37:LO 1F38-1F3F:UP 1F40-1F45:LO 1F48-1F4D:UP 1F50-1F57:LO",
    "1F59:UP 1F5B:UP 1F5D:UP 1F5F:UP 1F60-1F67:LO 1F68-1F6F:UP 1F70-1F7D:LO 1F80-1F87:LO",
    "1F88-1F8F:UP 1F90-1F97:LO 1F98-1F9F:UP 1FA0-1FA7:LO 1FA8-1FAF:UP 1FB0-1FB4:LO 1FB6-1FB7:LO",
    "1FB8-1FBC:UP 1FBE:LO 1FC2-1FC4:LO 1FC6-1FC7:LO 1FC8-1FCC:UP 1FD0-1FD3:LO 1FD6-1FD7:LO",
    "1FD8-1FDB:UP 1FE0-1FE7:LO 1FE8-1FEC:UP 1FF2-1FF4:LO 1FF6-1FF7:LO 1FF8-1FFC:UP 2000-200A:SP",
    "200B:FO 200C-200D:EX 200E-200F:FO 2013-2014:SC 2018-201F:CL 2024:AT 2028-2029:SE",
    "202A-202E:FO 202F:SP 2039-203A:CL 203C-203D:ST 2045-2046:CL 2047-2049:ST 205F:SP",
    "2060-2064:FO 2066-206F:FO 2071:LO 207D-207E:CL 207F:LO 208D-208E:CL 2090-209C:LO",
    "20D0-20F0:EX 2102:UP 2107:UP 210A:LO 210B-210D:UP 210E-210F:LO 2110-2112:UP 2113:LO",
    "2115:UP 2119-211D:UP 2124:UP 2126:UP 2128:UP 212A-212D:UP 212F:LO 2130-2133:UP 2134:LO",
    "2135-2138:LE 2139:LO 213C-213D:LO 213E-213F:UP 2145:UP 2146-2149:LO 214E:LO 2160-216F:UP",
    "2170-217F:LO 2180-2182:LE 2183:UP 2184:LO 2185-2188:LE 2308-230B:CL 2329-232A:CL",
    "24B6-24CF:UP 24D0-24E9:LO 275B-2760:CL 2768-2775:CL 27C5-27C6:CL 27E6-27EF:CL 2983-2998:CL",
    "29D8-29DB:CL 29FC-29FD:CL 2C00-2C2F:UP 2C30-2C5F:LO 2C60:UP 2C61:LO 2C62-2C64:UP",
    "2C65-2C66:LO 2C67:UP 2C68:LO 2C69:UP 2C6A:LO 2C6B:UP 2C6C:LO 2C6D-2C70:UP 2C71:LO 2C72:UP",
    "2C73-2C74:LO 2C75:UP 2C76-2C7D:LO 2C7E-2C80:UP 2C81:LO 2C82:UP 2C83:LO 2C84:UP 2C85:LO",
    "2C86:UP 2C87:LO 2C88:UP 2C89:LO 2C8A:UP 2C8B:LO 2C8C:UP 2C8D:LO 2C8E:UP 2C8F:LO 2C90:UP",
    "2C91:LO 2C92:UP 2C93:LO 2C94:UP 2C95:LO 2C96:UP 2C97:LO 2C98:UP 2C99:LO 2C9A:UP 2C9B:LO",
    "2C9C:UP 2C9D:LO 2C9E:UP 2C9F:LO 2CA0:UP 2CA1:LO 2CA2:UP 2CA3:LO 2CA4:UP 2CA5:LO 2CA6:UP",
    "2CA7:LO 2CA8:UP 2CA9:LO 2CAA:UP 2CAB:LO 2CAC:UP 2CAD:LO 2CAE:UP 2CAF:LO 2CB0:UP 2CB1:LO",
    "2CB2:UP 2CB3:LO 2CB4:UP 2CB5:LO 2CB6:UP 2CB7:LO 2CB8:UP 2CB9:LO 2CBA:UP 2CBB:LO 2CBC:UP",
    "2CBD:LO 2CBE:UP 2CBF:LO 2CC0:UP 2CC1:LO 2CC2:UP 2CC3:LO 2CC4:UP 2CC5:LO 2CC6:UP 2CC7:LO",
    "2CC8:UP 2CC9:LO 2CCA:UP 2CCB:LO 2CCC:UP 2CCD:LO 2CCE:UP 2CCF:LO 2CD0:UP 2CD1:LO 2CD2:UP",
    "2CD3:LO 2CD4:UP 2CD5:LO 2CD6:UP 2CD7:LO 2CD8:UP 2CD9:LO 2CDA:UP 2CDB:LO 2CDC:UP 2CDD:LO",
    "2CDE:UP 2CDF:LO 2CE0:UP 2CE1:LO 2CE2:UP 2CE3-2CE4:LO 2CEB:UP 2CEC:LO 2CED:UP 2CEE:LO",
    "2CEF-2CF1:EX 2CF2:UP 2CF3:LO 2D00-2D25:LO 2D27:LO 2D2D:LO 2D30-2D67:LE 2D6F:LE 2D7F:EX",
    "2D80-2D96:LE 2DA0-2DA6:LE 2DA8-2DAE:LE 2DB0-2DB6:LE 2DB8-2DBE:LE 2DC0-2DC6:LE 2DC8-2DCE:LE",
    "2DD0-2DD6:LE 2DD8-2DDE:LE 2DE0-2DFF:EX 2E00-2E0D:CL 2E1C-2E1D:CL 2E20-2E29:CL 2E2E:ST",
    "2E2F:LE 2E3C:ST 2E42:CL 2E53-2E54:ST 2E55-2E5C:CL 3000:SP 3001:SC 3002:ST 3005-3007:LE",
    "3008-3011:CL 3014-301B:CL 301D-301F:CL 3021-3029:LE 302A-302F:EX 3031-3035:LE 3038-303C:LE",
    "3041-3096:LE 3099-309A:EX 309D-309F:LE 30A1-30FA:LE 30FC-30FF:LE 3105-312F:LE 3131-318E:LE",
    "31A0-31BF:LE 31F0-31FF:LE 3400-4DBF:LE 4E00-A48C:LE A4D0-A4FD:LE A4FF:ST A500-A60C:LE",
    "A60E-A60F:ST A610-A61F:LE A620-A629:NU A62A-A62B:LE A640:UP A641:LO A642:UP A643:LO",
    "A644:UP A645:LO A646:UP A647:LO A648:UP A649:LO A64A:UP A64B:LO A64C:UP A64D:LO A64E:UP",
    "A64F:LO A650:UP A651:LO A652:UP A653:LO A654:UP A655:LO A656:UP A657:LO A658:UP A659:LO",
    "A65A:UP A65B:LO A65C:UP A65D:LO A65E:UP A65F:LO A660:UP A661:LO A662:UP A663:LO A664:UP",
    "A665:LO A666:UP A667:LO A668:UP A669:LO A66A:UP A66B:LO A66C:UP A66D:LO A66E:LE",
    "A66F-A672:EX A674-A67D:EX A67F:LE A680:UP A681:LO A682:UP A683:LO A684:UP A685:LO A686:UP",
    "A687:LO A688:UP A689:LO A68A:UP A68B:LO A68C:UP A68D:LO A68E:UP A68F:LO A690:UP A691:LO",
    "A692:UP A693:LO A694:UP A695:LO A696:UP A697:LO A698:UP A699:LO A69A:UP A69B-A69D:LO",
    "A69E-A69F:EX A6A0-A6EF:LE A6F0-A6F1:EX A6F3:ST A6F7:ST A717-A71F:LE A722:UP A723:LO",
    "A724:UP A725:LO A726:UP A727:LO A728:UP A729:LO A72A:UP A72B:LO A72C:UP A72D:LO A72E:UP",
    "A72F-A731:LO A732:UP A733:LO A734:UP A735:LO A736:UP A737:LO A738:UP A739:LO A73A:UP",
    "A73B:LO A73C:UP A73D:LO A73E:UP A73F:LO A740:UP A741:LO A742:UP A743:LO A744:UP A745:LO",
    "A746:UP A747:LO A748:UP A749:LO A74A:UP A74B:LO A74C:UP A74D:LO A74E:UP A74F:LO A750:UP",
    "A751:LO A752:UP A753:LO A754:UP A755:LO A756:UP A757:LO A758:UP A759:LO A75A:UP A75B:LO",
    "A75C:UP A75D:LO A75E:UP A75F:LO A760:UP A761:LO A762:UP A763:LO A764:UP A765:LO A766:UP",
    "A767:LO A768:UP A769:LO A76A:UP A76B:LO A76C:UP A76D:LO A76E:UP A76F-A778:LO A779:UP",
    "A77A:LO A77B:UP A77C:LO A77D-A77E:UP A77F:LO A780:UP A781:LO A782:UP A783:LO A784:UP",
    "A785:LO A786:UP A787:LO A788:LE A78B:UP A78C:LO A78D:UP A78E:LO A78F:LE A790:UP A791:LO",
    "A792:UP A793-A795:LO A796:UP A797:LO A798:UP A799:LO A79A:UP A79B:LO A79C:UP A79D:LO",
    "A79E:UP A79F:LO A7A0:UP A7A1:LO A7A2:UP A7A3:LO A7A4:UP A7A5:LO A7A6:UP A7A7:LO A7A8:UP",
    "A7A9:LO A7AA-A7AE:UP A7AF:LO A7B0-A7B4:UP A7B5:LO A7B6:UP A7B7:LO A7B8:UP A7B9:LO A7BA:UP",
    "A7BB:LO A7BC:UP A7BD:LO A7BE:UP A7BF:LO A7C0:UP A7C1:LO A7C2:UP A7C3:LO A7C4-A7C7:UP",
    "A7C8:LO A7C9:UP A7CA:LO A7CB-A7CC:UP A7CD:LO A7D0:UP A7D1:LO A7D3:LO A7D5:LO A7D6:UP",
    "A7D7:LO A7D8:UP A7D9:LO A7DA:UP A7DB:LO A7DC:UP A7F2-A7F4:LO A7F5:UP A7F6:LO A7F7:LE",
    "A7F8-A7FA:LO A7FB-A801:LE A802:EX A803-A805:LE A806:EX A807-A80A:LE A80B:EX A80C-A822:LE",
    "A823-A827:EX A82C:EX A840-A873:LE A876-A877:ST A880-A881:EX A882-A8B3:LE A8B4-A8C5:EX",
    "A8CE-A8CF:ST A8D0-A8D9:NU A8E0-A8F1:EX A8F2-A8F7:LE A8FB:LE A8FD-A8FE:LE A8FF:EX",
    "A900-A909:NU A90A-A925:LE A926-A92D:EX A92F:ST A930-A946:LE A947-A953:EX A960-A97C:LE",
    "A980-A983:EX A984-A9B2:LE A9B3-A9C0:EX A9C8-A9C9:ST A9CF:LE A9D0-A9D9:NU A9E0-A9E4:LE",
    "A9E5:EX A9E6-A9EF:LE A9F0-A9F9:NU A9FA-A9FE:LE AA00-AA28:LE AA29-AA36:EX AA40-AA42:LE",
    "AA43:EX AA44-AA4B:LE AA4C-AA4D:EX AA50-AA59:NU AA5D-AA5F:ST AA60-AA76:LE AA7A:LE",
    "AA7B-AA7D:EX AA7E-AAAF:LE AAB0:EX AAB1:LE AAB2-AAB4:EX AAB5-AAB6:LE AAB7-AAB8:EX",
    "AAB9-AABD:LE AABE-AABF:EX AAC0:LE AAC1:EX AAC2:LE AADB-AADD:LE AAE0-AAEA:LE AAEB-AAEF:EX",
    "AAF0-AAF1:ST AAF2-AAF4:LE AAF5-AAF6:EX AB01-AB06:LE AB09-AB0E:LE AB11-AB16:LE AB20-AB26:LE",
    "AB28-AB2E:LE AB30-AB5A:LO AB5C-AB69:LO AB70-ABBF:LO ABC0-ABE2:LE ABE3-ABEA:EX ABEB:ST",
    "ABEC-ABED:EX ABF0-ABF9:NU AC00-D7A3:LE D7B0-D7C6:LE D7CB-D7FB:LE F900-FA6D:LE FA70-FAD9:LE",
    "FB00-FB06:LO FB13-FB17:LO FB1D:LE FB1E:EX FB1F-FB28:LE FB2A-FB36:LE FB38-FB3C:LE FB3E:LE",
    "FB40-FB41:LE FB43-FB44:LE FB46-FBB1:LE FBD3-FD3D:LE FD3E-FD3F:CL FD50-FD8F:LE FD92-FDC7:LE",
    "FDF0-FDFB:LE FE00-FE0F:EX FE10-FE11:SC FE13:SC FE17-FE18:CL FE20-FE2F:EX FE31-FE32:SC",
    "FE35-FE44:CL FE47-FE48:CL FE50-FE51:SC FE52:AT FE55:SC FE56-FE57:ST FE58:SC FE59-FE5E:CL",
    "FE63:SC FE70-FE74:LE FE76-FEFC:LE FEFF:FO FF01:ST FF08-FF09:CL FF0C-FF0D:SC FF0E:AT",
    "FF10-FF19:NU FF1A:SC FF1F:ST FF21-FF3A:UP FF3B:CL FF3D:CL FF41-FF5A:LO FF5B:CL FF5D:CL",
    "FF5F-FF60:CL FF61:ST FF62-FF63:CL FF64:SC FF66-FF9D:LE FF9E-FF9F:EX FFA0-FFBE:LE",
    "FFC2-FFC7:LE FFCA-FFCF:LE FFD2-FFD7:LE FFDA-FFDC:LE FFF9-FFFB:FO 10000-1000B:LE",
    "1000D-10026:LE 10028-1003A:LE 1003C-1003D:LE 1003F-1004D:LE 10050-1005D:LE 10080-100FA:LE",
    "10140-10174:LE 101FD:EX 10280-1029C:LE 102A0-102D0:LE 102E0:EX 10300-1031F:LE",
    "1032D-1034A:LE 10350-10375:LE 10376-1037A:EX 10380-1039D:LE 103A0-103C3:LE 103C8-103CF:LE",
    "103D1-103D5:LE 10400-10427:UP 10428-1044F:LO 10450-1049D:LE 104A0-104A9:NU 104B0-104D3:UP",
    "104D8-104FB:LO 10500-10527:LE 10530-10563:LE 10570-1057A:UP 1057C-1058A:UP 1058C-10592:UP",
    "10594-10595:UP 10597-105A1:LO 105A3-105B1:LO 105B3-105B9:LO 105BB-105BC:LO 105C0-105F3:LE",
    "10600-10736:LE 10740-10755:LE 10760-10767:LE 10780:LO 10781-10782:LE 10783-10785:LO",
    "10787-107B0:LO 107B2-107BA:LO 10800-10805:LE 10808:LE 1080A-10835:LE 10837-10838:LE",
    "1083C:LE 1083F-10855:LE 10860-10876:LE 10880-1089E:LE 108E0-108F2:LE 108F4-108F5:LE",
    "10900-10915:LE 10920-10939:LE 10980-109B7:LE 109BE-109BF:LE 10A00:LE 10A01-10A03:EX",
    "10A05-10A06:EX 10A0C-10A0F:EX 10A10-10A13:LE 10A15-10A17:LE 10A19-10A35:LE 10A38-10A3A:EX",
    "10A3F:EX 10A56-10A57:ST 10A60-10A7C:LE 10A80-10A9C:LE 10AC0-10AC7:LE 10AC9-10AE4:LE",
    "10AE5-10AE6:EX 10B00-10B35:LE 10B40-10B55:LE 10B60-10B72:LE 10B80-10B91:LE 10C00-10C48:LE",
    "10C80-10CB2:UP 10CC0-10CF2:LO 10D00-10D23:LE 10D24-10D27:EX 10D30-10D39:NU 10D40-10D49:NU",
    "10D4A-10D4F:LE 10D50-10D65:UP 10D69-10D6D:EX 10D6F:LE 10D70-10D85:LO 10E80-10EA9:LE",
    "10EAB-10EAC:EX 10EB0-10EB1:LE 10EC2-10EC4:LE 10EFC-10EFF:EX 10F00-10F1C:LE 10F27:LE",
    "10F30-10F45:LE 10F46-10F50:EX 10F55-10F59:ST 10F70-10F81:LE 10F82-10F85:EX 10F86-10F89:ST",
    "10FB0-10FC4:LE 10FE0-10FF6:LE 11000-11002:EX 11003-11037:LE 11038-11046:EX 11047-11048:ST",
    "11066-1106F:NU 11070:EX 11071-11072:LE 11073-11074:EX 11075:LE 1107F-11082:EX",
    "11083-110AF:LE 110B0-110BA:EX 110BD:FO 110BE-110C1:ST 110C2:EX 110CD:FO 110D0-110E8:LE",
    "110F0-110F9:NU 11100-11102:EX 11103-11126:LE 11127-11134:EX 11136-1113F:NU 11141-11143:ST",
    "11144:LE 11145-11146:EX 11147:LE 11150-11172:LE 11173:EX 11176:LE 11180-11182:EX",
    "11183-111B2:LE 111B3-111C0:EX 111C1-111C4:LE 111C5-111C6:ST 111C9-111CC:EX 111CD:ST",
    "111CE-111CF:EX 111D0-111D9:NU 111DA:LE 111DC:LE 111DE-111DF:ST 11200-11211:LE",
    "11213-1122B:LE 1122C-11237:EX 11238-11239:ST 1123B-1123C:ST 1123E:EX 1123F-11240:LE",
    "11241:EX 11280-11286:LE 11288:LE 1128A-1128D:LE 1128F-1129D:LE 1129F-112A8:LE 112A9:ST",
    "112B0-112DE:LE 112DF-112EA:EX 112F0-112F9:NU 11300-11303:EX 11305-1130C:LE 1130F-11310:LE",
    "11313-11328:LE 1132A-11330:LE 11332-11333:LE 11335-11339:LE 1133B-1133C:EX 1133D:LE",
    "1133E-11344:EX 11347-11348:EX 1134B-1134D:EX 11350:LE 11357:EX 1135D-11361:LE",
    "11362-11363:EX 11366-1136C:EX 11370-11374:EX 11380-11389:LE 1138B:LE 1138E:LE",
    "11390-113B5:LE 113B7:LE 113B8-113C0:EX 113C2:EX 113C5:EX 113C7-113CA:EX 113CC-113D0:EX",
    "113D1:LE 113D2:EX 113D3:LE 113D4-113D5:ST 113E1-113E2:EX 11400-11434:LE 11435-11446:EX",
    "11447-1144A:LE 1144B-1144C:ST 11450-11459:NU 1145E:EX 1145F-11461:LE 11480-114AF:LE",
    "114B0-114C3:EX 114C4-114C5:LE 114C7:LE 114D0-114D9:NU 11580-115AE:LE 115AF-115B5:EX",
    "115B8-115C0:EX 115C2-115C3:ST 115C9-115D7:ST 115D8-115DB:LE 115DC-115DD:EX 11600-1162F:LE",
    "11630-11640:EX 11641-11642:ST 11644:LE 11650-11659:NU 11680-116AA:LE 116AB-116B7:EX",
    "116B8:LE 116C0-116C9:NU 116D0-116E3:NU 11700-1171A:LE 1171D-1172B:EX 11730-11739:NU",
    "1173C-1173E:ST 11740-11746:LE 11800-1182B:LE 1182C-1183A:EX 118A0-118BF:UP 118C0-118DF:LO",
    "118E0-118E9:NU 118FF-11906:LE 11909:LE 1190C-11913:LE 11915-11916:LE 11918-1192F:LE",
    "11930-11935:EX 11937-11938:EX 1193B-1193E:EX 1193F:LE 11940:EX 11941:LE 11942-11943:EX",
    "11944:ST 11946:ST 11950-11959:NU 119A0-119A7:LE 119AA-119D0:LE 119D1-119D7:EX",
    "119DA-119E0:EX 119E1:LE 119E3:LE 119E4:EX 11A00:LE 11A01-11A0A:EX 11A0B-11A32:LE",
    "11A33-11A39:EX 11A3A:LE 11A3B-11A3E:EX 11A42-11A43:ST 11A47:EX 11A50:LE 11A51-11A5B:EX",
    "11A5C-11A89:LE 11A8A-11A99:EX 11A9B-11A9C:ST 11A9D:LE 11AB0-11AF8:LE 11BC0-11BE0:LE",
    "11BF0-11BF9:NU 11C00-11C08:LE 11C0A-11C2E:LE 11C2F-11C36:EX 11C38-11C3F:EX 11C40:LE",
    "11C41-11C42:ST 11C50-11C59:NU 11C72-11C8F:LE 11C92-11CA7:EX 11CA9-11CB6:EX 11D00-11D06:LE",
    "11D08-11D09:LE 11D0B-11D30:LE 11D31-11D36:EX 11D3A:EX 11D3C-11D3D:EX 11D3F-11D45:EX",
    "11D46:LE 11D47:EX 11D50-11D59:NU 11D60-11D65:LE 11D67-11D68:LE 11D6A-11D89:LE",
    "11D8A-11D8E:EX 11D90-11D91:EX 11D93-11D97:EX 11D98:LE 11DA0-11DA9:NU 11EE0-11EF2:LE",
    "11EF3-11EF6:EX 11EF7-11EF8:ST 11F00-11F01:EX 11F02:LE 11F03:EX 11F04-11F10:LE",
    "11F12-11F33:LE 11F34-11F3A:EX 11F3E-11F42:EX 11F43-11F44:ST 11F50-11F59:NU 11F5A:EX",
    "11FB0:LE 12000-12399:LE 12400-1246E:LE 12480-12543:LE 12F90-12FF0:LE 13000-1342F:LE",
    "13430-1343F:FO 13440:EX 13441-13446:LE 13447-13455:EX 13460-143FA:LE 14400-14646:LE",
    "16100-1611D:LE 1611E-1612F:EX 16130-16139:NU 16800-16A38:LE 16A40-16A5E:LE 16A60-16A69:NU",
    "16A6E-16A6F:ST 16A70-16ABE:LE 16AC0-16AC9:NU 16AD0-16AED:LE 16AF0-16AF4:EX 16AF5:ST",
    "16B00-16B2F:LE 16B30-16B36:EX 16B37-16B38:ST 16B40-16B43:LE 16B44:ST 16B50-16B59:NU",
    "16B63-16B77:LE 16B7D-16B8F:LE 16D40-16D6C:LE 16D6E-16D6F:ST 16D70-16D79:NU 16E40-16E5F:UP",
    "16E60-16E7F:LO 16E98:ST 16F00-16F4A:LE 16F4F:EX 16F50:LE 16F51-16F87:EX 16F8F-16F92:EX",
    "16F93-16F9F:LE 16FE0-16FE1:LE 16FE3:LE 16FE4:EX 16FF0-16FF1:EX 17000-187F7:LE",
    "18800-18CD5:LE 18CFF-18D08:LE 1AFF0-1AFF3:LE 1AFF5-1AFFB:LE 1AFFD-1AFFE:LE 1B000-1B122:LE",
    "1B132:LE 1B150-1B152:LE 1B155:LE 1B164-1B167:LE 1B170-1B2FB:LE 1BC00-1BC6A:LE",
    "1BC70-1BC7C:LE 1BC80-1BC88:LE 1BC90-1BC99:LE 1BC9D-1BC9E:EX 1BC9F:ST 1BCA0-1BCA3:FO",
    "1CCF0-1CCF9:NU 1CF00-1CF2D:EX 1CF30-1CF46:EX 1D165-1D169:EX 1D16D-1D172:EX 1D173-1D17A:FO",
    "1D17B-1D182:EX 1D185-1D18B:EX 1D1AA-1D1AD:EX 1D242-1D244:EX 1D400-1D419:UP 1D41A-1D433:LO",
    "1D434-1D44D:UP 1D44E-1D454:LO 1D456-1D467:LO 1D468-1D481:UP 1D482-1D49B:LO 1D49C:UP",
    "1D49E-1D49F:UP 1D4A2:UP 1D4A5-1D4A6:UP 1D4A9-1D4AC:UP 1D4AE-1D4B5:UP 1D4B6-1D4B9:LO",
    "1D4BB:LO 1D4BD-1D4C3:LO 1D4C5-1D4CF:LO 1D4D0-1D4E9:UP 1D4EA-1D503:LO 1D504-1D505:UP",
    "1D507-1D50A:UP 1D50D-1D514:UP 1D516-1D51C:UP 1D51E-1D537:LO 1D538-1D539:UP 1D53B-1D53E:UP",
    "1D540-1D544:UP 1D546:UP 1D54A-1D550:UP 1D552-1D56B:LO 1D56C-1D585:UP 1D586-1D59F:LO",
    "1D5A0-1D5B9:UP 1D5BA-1D5D3:LO 1D5D4-1D5ED:UP 1D5EE-1D607:LO 1D608-1D621:UP 1D622-1D63B:LO",
    "1D63C-1D655:UP 1D656-1D66F:LO 1D670-1D689:UP 1D68A-1D6A5:LO 1D6A8-1D6C0:UP 1D6C2-1D6DA:LO",
    "1D6DC-1D6E1:LO 1D6E2-1D6FA:UP 1D6FC-1D714:LO 1D716-1D71B:LO 1D71C-1D734:UP 1D736-1D74E:LO",
    "1D750-1D755:LO 1D756-1D76E:UP 1D770-1D788:LO 1D78A-1D78F:LO 1D790-1D7A8:UP 1D7AA-1D7C2:LO",
    "1D7C4-1D7C9:LO 1D7CA:UP 1D7CB:LO 1D7CE-1D7FF:NU 1DA00-1DA36:EX 1DA3B-1DA6C:EX 1DA75:EX",
    "1DA84:EX 1DA88:ST 1DA9B-1DA9F:EX 1DAA1-1DAAF:EX 1DF00-1DF09:LO 1DF0A:LE 1DF0B-1DF1E:LO",
    "1DF25-1DF2A:LO 1E000-1E006:EX 1E008-1E018:EX 1E01B-1E021:EX 1E023-1E024:EX 1E026-1E02A:EX",
    "1E030-1E06D:LO 1E08F:EX 1E100-1E12C:LE 1E130-1E136:EX 1E137-1E13D:LE 1E140-1E149:NU",
    "1E14E:LE 1E290-1E2AD:LE 1E2AE:EX 1E2C0-1E2EB:LE 1E2EC-1E2EF:EX 1E2F0-1E2F9:NU",
    "1E4D0-1E4EB:LE 1E4EC-1E4EF:EX 1E4F0-1E4F9:NU 1E5D0-1E5ED:LE 1E5EE-1E5EF:EX 1E5F0:LE",
    "1E5F1-1E5FA:NU 1E7E0-1E7E6:LE 1E7E8-1E7EB:LE 1E7ED-1E7EE:LE 1E7F0-1E7FE:LE 1E800-1E8C4:LE",
    "1E8D0-1E8D6:EX 1E900-1E921:UP 1E922-1E943:LO 1E944-1E94A:EX 1E94B:LE 1E950-1E959:NU",
    "1EE00-1EE03:LE 1EE05-1EE1F:LE 1EE21-1EE22:LE 1EE24:LE 1EE27:LE 1EE29-1EE32:LE",
    "1EE34-1EE37:LE 1EE39:LE 1EE3B:LE 1EE42:LE 1EE47:LE 1EE49:LE 1EE4B:LE 1EE4D-1EE4F:LE",
    "1EE51-1EE52:LE 1EE54:LE 1EE57:LE 1EE59:LE 1EE5B:LE 1EE5D:LE 1EE5F:LE 1EE61-1EE62:LE",
    "1EE64:LE 1EE67-1EE6A:LE 1EE6C-1EE72:LE 1EE74-1EE77:LE 1EE79-1EE7C:LE 1EE7E:LE",
    "1EE80-1EE89:LE 1EE8B-1EE9B:LE 1EEA1-1EEA3:LE 1EEA5-1EEA9:LE 1EEAB-1EEBB:LE 1F130-1F149:UP",
    "1F150-1F169:UP 1F170-1F189:UP 1F676-1F678:CL 1FBF0-1FBF9:NU 20000-2A6DF:LE 2A700-2B739:LE",
    "2B740-2B81D:LE 2B820-2CEA1:LE 2CEB0-2EBE0:LE 2EBF0-2EE5D:LE 2F800-2FA1D:LE 30000-3134A:LE",
    "31350-323AF:LE E0001:FO E0020-E007F:EX E0100-E01EF:EX"]

/-- Each class of the breaks between sentences with its names in loose form. -/
def sentenceNames : List (String × List String) :=
  [("AT", ["at", "aterm"]),
   ("CL", ["cl", "close"]),
   ("CR", ["cr"]),
   ("EX", ["ex", "extend"]),
   ("FO", ["fo", "format"]),
   ("LE", ["le", "oletter"]),
   ("LF", ["lf"]),
   ("LO", ["lo", "lower"]),
   ("NU", ["nu", "numeric"]),
   ("SC", ["sc", "scontinue"]),
   ("SE", ["se", "sep"]),
   ("SP", ["sp"]),
   ("ST", ["st", "sterm"]),
   ("UP", ["up", "upper"])]

/-- The code points of the class that a loose name means in the given listing. -/
def codePoints? (rows : List String) (names : List (String × List String)) (name : String) :
    Option CodePoints :=
  (names.find? fun entry => entry.2.contains name).map fun entry =>
    Listing.select (Listing.classes rows) [entry.1]

end MeshAccess.Unicode.Segmentation
