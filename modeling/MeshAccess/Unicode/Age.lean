import MeshAccess.Unicode.Listing

/-!
This file holds the version of Unicode that first assigned each code point.
-/

namespace MeshAccess.Unicode.Age

/-- The code points with the versions that assigned them. -/
def rows : List String :=
   ["0-1F5:1.1 1F6-1F9:3.0 1FA-217:1.1 218-21F:3.0 220:3.2 221:4.0 222-233:3.0 234-236:4.0",
    "237-241:4.1 242-24F:5.0 250-2A8:1.1 2A9-2AD:3.0 2AE-2AF:4.0 2B0-2DE:1.1 2DF:3.0",
    "2E0-2E9:1.1 2EA-2EE:3.0 2EF-2FF:4.0 300-345:1.1 346-34E:3.0 34F:3.2 350-357:4.0",
    "358-35C:4.1 35D-35F:4.0 360-361:1.1 362:3.0 363-36F:3.2 370-373:5.1 374-375:1.1",
    "376-377:5.1 37A:1.1 37B-37D:5.0 37E:1.1 37F:7.0 384-38A:1.1 38C:1.1 38E-3A1:1.1",
    "3A3-3CE:1.1 3CF:5.1 3D0-3D6:1.1 3D7:3.0 3D8-3D9:3.2 3DA:1.1 3DB:3.0 3DC:1.1 3DD:3.0",
    "3DE:1.1 3DF:3.0 3E0:1.1 3E1:3.0 3E2-3F3:1.1 3F4-3F5:3.1 3F6:3.2 3F7-3FB:4.0 3FC-3FF:4.1",
    "400:3.0 401-40C:1.1 40D:3.0 40E-44F:1.1 450:3.0 451-45C:1.1 45D:3.0 45E-486:1.1 487:5.1",
    "488-489:3.0 48A-48B:3.2 48C-48F:3.0 490-4C4:1.1 4C5-4C6:3.2 4C7-4C8:1.1 4C9-4CA:3.2",
    "4CB-4CC:1.1 4CD-4CE:3.2 4CF:5.0 4D0-4EB:1.1 4EC-4ED:3.0 4EE-4F5:1.1 4F6-4F7:4.1",
    "4F8-4F9:1.1 4FA-4FF:5.0 500-50F:3.2 510-513:5.0 514-523:5.1 524-525:5.2 526-527:6.0",
    "528-52F:7.0 531-556:1.1 559-55F:1.1 560:11.0 561-587:1.1 588:11.0 589:1.1 58A:3.0",
    "58D-58E:7.0 58F:6.1 591-5A1:2.0 5A2:4.1 5A3-5AF:2.0 5B0-5B9:1.1 5BA:5.0 5BB-5C3:1.1",
    "5C4:2.0 5C5-5C7:4.1 5D0-5EA:1.1 5EF:11.0 5F0-5F4:1.1 600-603:4.0 604:6.1 605:7.0",
    "606-60A:5.1 60B:4.1 60C:1.1 60D-615:4.0 616-61A:5.1 61B:1.1 61C:6.3 61D:14.0 61E:4.1",
    "61F:1.1 620:6.0 621-63A:1.1 63B-63F:5.1 640-652:1.1 653-655:3.0 656-658:4.0 659-65E:4.1",
    "65F:6.0 660-66D:1.1 66E-66F:3.2 670-6B7:1.1 6B8-6B9:3.0 6BA-6BE:1.1 6BF:3.0 6C0-6CE:1.1",
    "6CF:3.0 6D0-6ED:1.1 6EE-6EF:4.0 6F0-6F9:1.1 6FA-6FE:3.0 6FF:4.0 700-70D:3.0 70F-72C:3.0",
    "72D-72F:4.0 730-74A:3.0 74D-74F:4.0 750-76D:4.1 76E-77F:5.1 780-7B0:3.0 7B1:3.2",
    "7C0-7FA:5.0 7FD-7FF:11.0 800-82D:5.2 830-83E:5.2 840-85B:6.0 85E:6.0 860-86A:10.0",
    "870-88E:14.0 890-891:14.0 897:16.0 898-89F:14.0 8A0:6.1 8A1:7.0 8A2-8AC:6.1 8AD-8B2:7.0",
    "8B3-8B4:8.0 8B5:14.0 8B6-8BD:9.0 8BE-8C7:13.0 8C8-8D2:14.0 8D3:11.0 8D4-8E2:9.0 8E3:8.0",
    "8E4-8FE:6.1 8FF:7.0 900:5.2 901-903:1.1 904:4.0 905-939:1.1 93A-93B:6.0 93C-94D:1.1",
    "94E:5.2 94F:6.0 950-954:1.1 955:5.2 956-957:6.0 958-970:1.1 971-972:5.1 973-977:6.0",
    "978:7.0 979-97A:5.2 97B-97C:5.0 97D:4.1 97E-97F:5.0 980:7.0 981-983:1.1 985-98C:1.1",
    "98F-990:1.1 993-9A8:1.1 9AA-9B0:1.1 9B2:1.1 9B6-9B9:1.1 9BC:1.1 9BD:4.0 9BE-9C4:1.1",
    "9C7-9C8:1.1 9CB-9CD:1.1 9CE:4.1 9D7:1.1 9DC-9DD:1.1 9DF-9E3:1.1 9E6-9FA:1.1 9FB:5.2",
    "9FC-9FD:10.0 9FE:11.0 A01:4.0 A02:1.1 A03:4.0 A05-A0A:1.1 A0F-A10:1.1 A13-A28:1.1",
    "A2A-A30:1.1 A32-A33:1.1 A35-A36:1.1 A38-A39:1.1 A3C:1.1 A3E-A42:1.1 A47-A48:1.1",
    "A4B-A4D:1.1 A51:5.1 A59-A5C:1.1 A5E:1.1 A66-A74:1.1 A75:5.1 A76:11.0 A81-A83:1.1",
    "A85-A8B:1.1 A8C:4.0 A8D:1.1 A8F-A91:1.1 A93-AA8:1.1 AAA-AB0:1.1 AB2-AB3:1.1 AB5-AB9:1.1",
    "ABC-AC5:1.1 AC7-AC9:1.1 ACB-ACD:1.1 AD0:1.1 AE0:1.1 AE1-AE3:4.0 AE6-AEF:1.1 AF0:6.1",
    "AF1:4.0 AF9:8.0 AFA-AFF:10.0 B01-B03:1.1 B05-B0C:1.1 B0F-B10:1.1 B13-B28:1.1 B2A-B30:1.1",
    "B32-B33:1.1 B35:4.0 B36-B39:1.1 B3C-B43:1.1 B44:5.1 B47-B48:1.1 B4B-B4D:1.1 B55:13.0",
    "B56-B57:1.1 B5C-B5D:1.1 B5F-B61:1.1 B62-B63:5.1 B66-B70:1.1 B71:4.0 B72-B77:6.0",
    "B82-B83:1.1 B85-B8A:1.1 B8E-B90:1.1 B92-B95:1.1 B99-B9A:1.1 B9C:1.1 B9E-B9F:1.1",
    "BA3-BA4:1.1 BA8-BAA:1.1 BAE-BB5:1.1 BB6:4.1 BB7-BB9:1.1 BBE-BC2:1.1 BC6-BC8:1.1",
    "BCA-BCD:1.1 BD0:5.1 BD7:1.1 BE6:4.1 BE7-BF2:1.1 BF3-BFA:4.0 C00:7.0 C01-C03:1.1 C04:11.0",
    "C05-C0C:1.1 C0E-C10:1.1 C12-C28:1.1 C2A-C33:1.1 C34:7.0 C35-C39:1.1 C3C:14.0 C3D:5.1",
    "C3E-C44:1.1 C46-C48:1.1 C4A-C4D:1.1 C55-C56:1.1 C58-C59:5.1 C5A:8.0 C5D:14.0 C60-C61:1.1",
    "C62-C63:5.1 C66-C6F:1.1 C77:12.0 C78-C7F:5.1 C80:9.0 C81:7.0 C82-C83:1.1 C84:11.0",
    "C85-C8C:1.1 C8E-C90:1.1 C92-CA8:1.1 CAA-CB3:1.1 CB5-CB9:1.1 CBC-CBD:4.0 CBE-CC4:1.1",
    "CC6-CC8:1.1 CCA-CCD:1.1 CD5-CD6:1.1 CDD:14.0 CDE:1.1 CE0-CE1:1.1 CE2-CE3:5.0 CE6-CEF:1.1",
    "CF1-CF2:5.0 CF3:15.0 D00:10.0 D01:7.0 D02-D03:1.1 D04:13.0 D05-D0C:1.1 D0E-D10:1.1",
    "D12-D28:1.1 D29:6.0 D2A-D39:1.1 D3A:6.0 D3B-D3C:10.0 D3D:5.1 D3E-D43:1.1 D44:5.1",
    "D46-D48:1.1 D4A-D4D:1.1 D4E:6.0 D4F:9.0 D54-D56:9.0 D57:1.1 D58-D5E:9.0 D5F:8.0",
    "D60-D61:1.1 D62-D63:5.1 D66-D6F:1.1 D70-D75:5.1 D76-D78:9.0 D79-D7F:5.1 D81:13.0",
    "D82-D83:3.0 D85-D96:3.0 D9A-DB1:3.0 DB3-DBB:3.0 DBD:3.0 DC0-DC6:3.0 DCA:3.0 DCF-DD4:3.0",
    "DD6:3.0 DD8-DDF:3.0 DE6-DEF:7.0 DF2-DF4:3.0 E01-E3A:1.1 E3F-E5B:1.1 E81-E82:1.1 E84:1.1",
    "E86:12.0 E87-E88:1.1 E89:12.0 E8A:1.1 E8C:12.0 E8D:1.1 E8E-E93:12.0 E94-E97:1.1 E98:12.0",
    "E99-E9F:1.1 EA0:12.0 EA1-EA3:1.1 EA5:1.1 EA7:1.1 EA8-EA9:12.0 EAA-EAB:1.1 EAC:12.0",
    "EAD-EB9:1.1 EBA:12.0 EBB-EBD:1.1 EC0-EC4:1.1 EC6:1.1 EC8-ECD:1.1 ECE:15.0 ED0-ED9:1.1",
    "EDC-EDD:1.1 EDE-EDF:6.1 F00-F47:2.0 F49-F69:2.0 F6A:3.0 F6B-F6C:5.1 F71-F8B:2.0",
    "F8C-F8F:6.0 F90-F95:2.0 F96:3.0 F97:2.0 F99-FAD:2.0 FAE-FB0:3.0 FB1-FB7:2.0 FB8:3.0",
    "FB9:2.0 FBA-FBC:3.0 FBE-FCC:3.0 FCE:5.1 FCF:3.0 FD0-FD1:4.1 FD2-FD4:5.1 FD5-FD8:5.2",
    "FD9-FDA:6.0 1000-1021:3.0 1022:5.1 1023-1027:3.0 1028:5.1 1029-102A:3.0 102B:5.1",
    "102C-1032:3.0 1033-1035:5.1 1036-1039:3.0 103A-103F:5.1 1040-1059:3.0 105A-1099:5.1",
    "109A-109D:5.2 109E-109F:5.1 10A0-10C5:1.1 10C7:6.1 10CD:6.1 10D0-10F6:1.1 10F7-10F8:3.2",
    "10F9-10FA:4.1 10FB:1.1 10FC:4.1 10FD-10FF:6.1 1100-1159:1.1 115A-115E:5.2 115F-11A2:1.1",
    "11A3-11A7:5.2 11A8-11F9:1.1 11FA-11FF:5.2 1200-1206:3.0 1207:4.1 1208-1246:3.0 1247:4.1",
    "1248:3.0 124A-124D:3.0 1250-1256:3.0 1258:3.0 125A-125D:3.0 1260-1286:3.0 1287:4.1",
    "1288:3.0 128A-128D:3.0 1290-12AE:3.0 12AF:4.1 12B0:3.0 12B2-12B5:3.0 12B8-12BE:3.0",
    "12C0:3.0 12C2-12C5:3.0 12C8-12CE:3.0 12CF:4.1 12D0-12D6:3.0 12D8-12EE:3.0 12EF:4.1",
    "12F0-130E:3.0 130F:4.1 1310:3.0 1312-1315:3.0 1318-131E:3.0 131F:4.1 1320-1346:3.0",
    "1347:4.1 1348-135A:3.0 135D-135E:6.0 135F-1360:4.1 1361-137C:3.0 1380-1399:4.1",
    "13A0-13F4:3.0 13F5:8.0 13F8-13FD:8.0 1400:5.2 1401-1676:3.0 1677-167F:5.2 1680-169C:3.0",
    "16A0-16F0:3.0 16F1-16F8:7.0 1700-170C:3.2 170D:14.0 170E-1714:3.2 1715:14.0 171F:14.0",
    "1720-1736:3.2 1740-1753:3.2 1760-176C:3.2 176E-1770:3.2 1772-1773:3.2 1780-17DC:3.0",
    "17DD:4.0 17E0-17E9:3.0 17F0-17F9:4.0 1800-180E:3.0 180F:14.0 1810-1819:3.0 1820-1877:3.0",
    "1878:11.0 1880-18A9:3.0 18AA:5.1 18B0-18F5:5.2 1900-191C:4.0 191D-191E:7.0 1920-192B:4.0",
    "1930-193B:4.0 1940:4.0 1944-196D:4.0 1970-1974:4.0 1980-19A9:4.1 19AA-19AB:5.2",
    "19B0-19C9:4.1 19D0-19D9:4.1 19DA:5.2 19DE-19DF:4.1 19E0-19FF:4.0 1A00-1A1B:4.1",
    "1A1E-1A1F:4.1 1A20-1A5E:5.2 1A60-1A7C:5.2 1A7F-1A89:5.2 1A90-1A99:5.2 1AA0-1AAD:5.2",
    "1AB0-1ABE:7.0 1ABF-1AC0:13.0 1AC1-1ACE:14.0 1B00-1B4B:5.0 1B4C:14.0 1B4E-1B4F:16.0",
    "1B50-1B7C:5.0 1B7D-1B7E:14.0 1B7F:16.0 1B80-1BAA:5.1 1BAB-1BAD:6.1 1BAE-1BB9:5.1",
    "1BBA-1BBF:6.1 1BC0-1BF3:6.0 1BFC-1BFF:6.0 1C00-1C37:5.1 1C3B-1C49:5.1 1C4D-1C7F:5.1",
    "1C80-1C88:9.0 1C89-1C8A:16.0 1C90-1CBA:11.0 1CBD-1CBF:11.0 1CC0-1CC7:6.1 1CD0-1CF2:5.2",
    "1CF3-1CF6:6.1 1CF7:10.0 1CF8-1CF9:7.0 1CFA:12.0 1D00-1D6B:4.0 1D6C-1DC3:4.1 1DC4-1DCA:5.0",
    "1DCB-1DE6:5.1 1DE7-1DF5:7.0 1DF6-1DF9:10.0 1DFA:14.0 1DFB:9.0 1DFC:6.0 1DFD:5.2",
    "1DFE-1DFF:5.0 1E00-1E9A:1.1 1E9B:2.0 1E9C-1E9F:5.1 1EA0-1EF9:1.1 1EFA-1EFF:5.1",
    "1F00-1F15:1.1 1F18-1F1D:1.1 1F20-1F45:1.1 1F48-1F4D:1.1 1F50-1F57:1.1 1F59:1.1 1F5B:1.1",
    "1F5D:1.1 1F5F-1F7D:1.1 1F80-1FB4:1.1 1FB6-1FC4:1.1 1FC6-1FD3:1.1 1FD6-1FDB:1.1",
    "1FDD-1FEF:1.1 1FF2-1FF4:1.1 1FF6-1FFE:1.1 2000-202E:1.1 202F:3.0 2030-2046:1.1 2047:3.2",
    "2048-204D:3.0 204E-2052:3.2 2053-2054:4.0 2055-2056:4.1 2057:3.2 2058-205E:4.1",
    "205F-2063:3.2 2064:5.1 2066-2069:6.3 206A-2070:1.1 2071:3.2 2074-208E:1.1 2090-2094:4.1",
    "2095-209C:6.0 20A0-20AA:1.1 20AB:2.0 20AC:2.1 20AD-20AF:3.0 20B0-20B1:3.2 20B2-20B5:4.1",
    "20B6-20B8:5.2 20B9:6.0 20BA:6.2 20BB-20BD:7.0 20BE:8.0 20BF:10.0 20C0:14.0 20D0-20E1:1.1",
    "20E2-20E3:3.0 20E4-20EA:3.2 20EB:4.1 20EC-20EF:5.0 20F0:5.1 2100-2138:1.1 2139-213A:3.0",
    "213B:4.0 213C:4.1 213D-214B:3.2 214C:4.1 214D-214E:5.0 214F:5.1 2150-2152:5.2",
    "2153-2182:1.1 2183:3.0 2184:5.0 2185-2188:5.1 2189:5.2 218A-218B:8.0 2190-21EA:1.1",
    "21EB-21F3:3.0 21F4-21FF:3.2 2200-22F1:1.1 22F2-22FF:3.2 2300:1.1 2301:3.0 2302-237A:1.1",
    "237B:3.0 237C:3.2 237D-239A:3.0 239B-23CE:3.2 23CF-23D0:4.0 23D1-23DB:4.1 23DC-23E7:5.0",
    "23E8:5.2 23E9-23F3:6.0 23F4-23FA:7.0 23FB-23FE:9.0 23FF:10.0 2400-2424:1.1 2425-2426:3.0",
    "2427-2429:16.0 2440-244A:1.1 2460-24EA:1.1 24EB-24FE:3.2 24FF:4.0 2500-2595:1.1",
    "2596-259F:3.2 25A0-25EF:1.1 25F0-25F7:3.0 25F8-25FF:3.2 2600-2613:1.1 2614-2615:4.0",
    "2616-2617:3.2 2618:4.1 2619:3.0 261A-266F:1.1 2670-2671:3.0 2672-267D:3.2 267E-267F:4.1",
    "2680-2689:3.2 268A-2691:4.0 2692-269C:4.1 269D:5.1 269E-269F:5.2 26A0-26A1:4.0",
    "26A2-26B1:4.1 26B2:5.0 26B3-26BC:5.1 26BD-26BF:5.2 26C0-26C3:5.1 26C4-26CD:5.2 26CE:6.0",
    "26CF-26E1:5.2 26E2:6.0 26E3:5.2 26E4-26E7:6.0 26E8-26FF:5.2 2700:7.0 2701-2704:1.1",
    "2705:6.0 2706-2709:1.1 270A-270B:6.0 270C-2727:1.1 2728:6.0 2729-274B:1.1 274C:6.0",
    "274D:1.1 274E:6.0 274F-2752:1.1 2753-2755:6.0 2756:1.1 2757:5.2 2758-275E:1.1",
    "275F-2760:6.0 2761-2767:1.1 2768-2775:3.2 2776-2794:1.1 2795-2797:6.0 2798-27AF:1.1",
    "27B0:6.0 27B1-27BE:1.1 27BF:6.0 27C0-27C6:4.1 27C7-27CA:5.0 27CB:6.1 27CC:5.1 27CD:6.1",
    "27CE-27CF:6.0 27D0-27EB:3.2 27EC-27EF:5.1 27F0-27FF:3.2 2800-28FF:3.0 2900-2AFF:3.2",
    "2B00-2B0D:4.0 2B0E-2B13:4.1 2B14-2B1A:5.0 2B1B-2B1F:5.1 2B20-2B23:5.0 2B24-2B4C:5.1",
    "2B4D-2B4F:7.0 2B50-2B54:5.1 2B55-2B59:5.2 2B5A-2B73:7.0 2B76-2B95:7.0 2B97:13.0",
    "2B98-2BB9:7.0 2BBA-2BBC:11.0 2BBD-2BC8:7.0 2BC9:12.0 2BCA-2BD1:7.0 2BD2:10.0",
    "2BD3-2BEB:11.0 2BEC-2BEF:8.0 2BF0-2BFE:11.0 2BFF:12.0 2C00-2C2E:4.1 2C2F:14.0",
    "2C30-2C5E:4.1 2C5F:14.0 2C60-2C6C:5.0 2C6D-2C6F:5.1 2C70:5.2 2C71-2C73:5.1 2C74-2C77:5.0",
    "2C78-2C7D:5.1 2C7E-2C7F:5.2 2C80-2CEA:4.1 2CEB-2CF1:5.2 2CF2-2CF3:6.1 2CF9-2D25:4.1",
    "2D27:6.1 2D2D:6.1 2D30-2D65:4.1 2D66-2D67:6.1 2D6F:4.1 2D70:6.0 2D7F:6.0 2D80-2D96:4.1",
    "2DA0-2DA6:4.1 2DA8-2DAE:4.1 2DB0-2DB6:4.1 2DB8-2DBE:4.1 2DC0-2DC6:4.1 2DC8-2DCE:4.1",
    "2DD0-2DD6:4.1 2DD8-2DDE:4.1 2DE0-2DFF:5.1 2E00-2E17:4.1 2E18-2E1B:5.1 2E1C-2E1D:4.1",
    "2E1E-2E30:5.1 2E31:5.2 2E32-2E3B:6.1 2E3C-2E42:7.0 2E43-2E44:9.0 2E45-2E49:10.0",
    "2E4A-2E4E:11.0 2E4F:12.0 2E50-2E52:13.0 2E53-2E5D:14.0 2E80-2E99:3.0 2E9B-2EF3:3.0",
    "2F00-2FD5:3.0 2FF0-2FFB:3.0 2FFC-2FFF:15.1 3000-3037:1.1 3038-303A:3.0 303B-303D:3.2",
    "303E:3.0 303F:1.1 3041-3094:1.1 3095-3096:3.2 3099-309E:1.1 309F-30A0:3.2 30A1-30FE:1.1",
    "30FF:3.2 3105-312C:1.1 312D:5.1 312E:10.0 312F:11.0 3131-318E:1.1 3190-319F:1.1",
    "31A0-31B7:3.0 31B8-31BA:6.0 31BB-31BF:13.0 31C0-31CF:4.1 31D0-31E3:5.1 31E4-31E5:16.0",
    "31EF:15.1 31F0-31FF:3.2 3200-321C:1.1 321D-321E:4.0 3220-3243:1.1 3244-324F:5.2 3250:4.0",
    "3251-325F:3.2 3260-327B:1.1 327C-327D:4.0 327E:4.1 327F-32B0:1.1 32B1-32BF:3.2",
    "32C0-32CB:1.1 32CC-32CF:4.0 32D0-32FE:1.1 32FF:12.1 3300-3376:1.1 3377-337A:4.0",
    "337B-33DD:1.1 33DE-33DF:4.0 33E0-33FE:1.1 33FF:4.0 3400-4DB5:3.0 4DB6-4DBF:13.0",
    "4DC0-4DFF:4.0 4E00-9FA5:1.1 9FA6-9FBB:4.1 9FBC-9FC3:5.1 9FC4-9FCB:5.2 9FCC:6.1",
    "9FCD-9FD5:8.0 9FD6-9FEA:10.0 9FEB-9FEF:11.0 9FF0-9FFC:13.0 9FFD-9FFF:14.0 A000-A48C:3.0",
    "A490-A4A1:3.0 A4A2-A4A3:3.2 A4A4-A4B3:3.0 A4B4:3.2 A4B5-A4C0:3.0 A4C1:3.2 A4C2-A4C4:3.0",
    "A4C5:3.2 A4C6:3.0 A4D0-A4FF:5.2 A500-A62B:5.1 A640-A65F:5.1 A660-A661:6.0 A662-A673:5.1",
    "A674-A67B:6.1 A67C-A697:5.1 A698-A69D:7.0 A69E:8.0 A69F:6.1 A6A0-A6F7:5.2 A700-A716:4.1",
    "A717-A71A:5.0 A71B-A71F:5.1 A720-A721:5.0 A722-A78C:5.1 A78D-A78E:6.0 A78F:8.0",
    "A790-A791:6.0 A792-A793:6.1 A794-A79F:7.0 A7A0-A7A9:6.0 A7AA:6.1 A7AB-A7AD:7.0 A7AE:9.0",
    "A7AF:11.0 A7B0-A7B1:7.0 A7B2-A7B7:8.0 A7B8-A7B9:11.0 A7BA-A7BF:12.0 A7C0-A7C1:14.0",
    "A7C2-A7C6:12.0 A7C7-A7CA:13.0 A7CB-A7CD:16.0 A7D0-A7D1:14.0 A7D3:14.0 A7D5-A7D9:14.0",
    "A7DA-A7DC:16.0 A7F2-A7F4:14.0 A7F5-A7F6:13.0 A7F7:7.0 A7F8-A7F9:6.1 A7FA:6.0 A7FB-A7FF:5.1",
    "A800-A82B:4.1 A82C:13.0 A830-A839:5.2 A840-A877:5.0 A880-A8C4:5.1 A8C5:9.0 A8CE-A8D9:5.1",
    "A8E0-A8FB:5.2 A8FC-A8FD:8.0 A8FE-A8FF:11.0 A900-A953:5.1 A95F:5.1 A960-A97C:5.2",
    "A980-A9CD:5.2 A9CF-A9D9:5.2 A9DE-A9DF:5.2 A9E0-A9FE:7.0 AA00-AA36:5.1 AA40-AA4D:5.1",
    "AA50-AA59:5.1 AA5C-AA5F:5.1 AA60-AA7B:5.2 AA7C-AA7F:7.0 AA80-AAC2:5.2 AADB-AADF:5.2",
    "AAE0-AAF6:6.1 AB01-AB06:6.0 AB09-AB0E:6.0 AB11-AB16:6.0 AB20-AB26:6.0 AB28-AB2E:6.0",
    "AB30-AB5F:7.0 AB60-AB63:8.0 AB64-AB65:7.0 AB66-AB67:12.0 AB68-AB6B:13.0 AB70-ABBF:8.0",
    "ABC0-ABED:5.2 ABF0-ABF9:5.2 AC00-D7A3:2.0 D7B0-D7C6:5.2 D7CB-D7FB:5.2 D800-DFFF:2.0",
    "E000-FA2D:1.1 FA2E-FA2F:6.1 FA30-FA6A:3.2 FA6B-FA6D:5.2 FA70-FAD9:4.1 FB00-FB06:1.1",
    "FB13-FB17:1.1 FB1D:3.0 FB1E-FB36:1.1 FB38-FB3C:1.1 FB3E:1.1 FB40-FB41:1.1 FB43-FB44:1.1",
    "FB46-FBB1:1.1 FBB2-FBC1:6.0 FBC2:14.0 FBD3-FD3F:1.1 FD40-FD4F:14.0 FD50-FD8F:1.1",
    "FD92-FDC7:1.1 FDCF:14.0 FDD0-FDEF:3.1 FDF0-FDFB:1.1 FDFC:3.2 FDFD:4.0 FDFE-FDFF:14.0",
    "FE00-FE0F:3.2 FE10-FE19:4.1 FE20-FE23:1.1 FE24-FE26:5.1 FE27-FE2D:7.0 FE2E-FE2F:8.0",
    "FE30-FE44:1.1 FE45-FE46:3.2 FE47-FE48:4.0 FE49-FE52:1.1 FE54-FE66:1.1 FE68-FE6B:1.1",
    "FE70-FE72:1.1 FE73:3.2 FE74:1.1 FE76-FEFC:1.1 FEFF:1.1 FF01-FF5E:1.1 FF5F-FF60:3.2",
    "FF61-FFBE:1.1 FFC2-FFC7:1.1 FFCA-FFCF:1.1 FFD2-FFD7:1.1 FFDA-FFDC:1.1 FFE0-FFE6:1.1",
    "FFE8-FFEE:1.1 FFF9-FFFB:3.0 FFFC:2.1 FFFD-FFFF:1.1 10000-1000B:4.0 1000D-10026:4.0",
    "10028-1003A:4.0 1003C-1003D:4.0 1003F-1004D:4.0 10050-1005D:4.0 10080-100FA:4.0",
    "10100-10102:4.0 10107-10133:4.0 10137-1013F:4.0 10140-1018A:4.1 1018B-1018C:7.0",
    "1018D-1018E:9.0 10190-1019B:5.1 1019C:13.0 101A0:7.0 101D0-101FD:5.1 10280-1029C:5.1",
    "102A0-102D0:5.1 102E0-102FB:7.0 10300-1031E:3.1 1031F:7.0 10320-10323:3.1 1032D-1032F:10.0",
    "10330-1034A:3.1 10350-1037A:7.0 10380-1039D:4.0 1039F:4.0 103A0-103C3:4.1 103C8-103D5:4.1",
    "10400-10425:3.1 10426-10427:4.0 10428-1044D:3.1 1044E-1049D:4.0 104A0-104A9:4.0",
    "104B0-104D3:9.0 104D8-104FB:9.0 10500-10527:7.0 10530-10563:7.0 1056F:7.0 10570-1057A:14.0",
    "1057C-1058A:14.0 1058C-10592:14.0 10594-10595:14.0 10597-105A1:14.0 105A3-105B1:14.0",
    "105B3-105B9:14.0 105BB-105BC:14.0 105C0-105F3:16.0 10600-10736:7.0 10740-10755:7.0",
    "10760-10767:7.0 10780-10785:14.0 10787-107B0:14.0 107B2-107BA:14.0 10800-10805:4.0",
    "10808:4.0 1080A-10835:4.0 10837-10838:4.0 1083C:4.0 1083F:4.0 10840-10855:5.2",
    "10857-1085F:5.2 10860-1089E:7.0 108A7-108AF:7.0 108E0-108F2:8.0 108F4-108F5:8.0",
    "108FB-108FF:8.0 10900-10919:5.0 1091A-1091B:5.2 1091F:5.0 10920-10939:5.1 1093F:5.1",
    "10980-109B7:6.1 109BC-109BD:8.0 109BE-109BF:6.1 109C0-109CF:8.0 109D2-109FF:8.0",
    "10A00-10A03:4.1 10A05-10A06:4.1 10A0C-10A13:4.1 10A15-10A17:4.1 10A19-10A33:4.1",
    "10A34-10A35:11.0 10A38-10A3A:4.1 10A3F-10A47:4.1 10A48:11.0 10A50-10A58:4.1",
    "10A60-10A7F:5.2 10A80-10A9F:7.0 10AC0-10AE6:7.0 10AEB-10AF6:7.0 10B00-10B35:5.2",
    "10B39-10B55:5.2 10B58-10B72:5.2 10B78-10B7F:5.2 10B80-10B91:7.0 10B99-10B9C:7.0",
    "10BA9-10BAF:7.0 10C00-10C48:5.2 10C80-10CB2:8.0 10CC0-10CF2:8.0 10CFA-10CFF:8.0",
    "10D00-10D27:11.0 10D30-10D39:11.0 10D40-10D65:16.0 10D69-10D85:16.0 10D8E-10D8F:16.0",
    "10E60-10E7E:5.2 10E80-10EA9:13.0 10EAB-10EAD:13.0 10EB0-10EB1:13.0 10EC2-10EC4:16.0",
    "10EFC:16.0 10EFD-10EFF:15.0 10F00-10F27:11.0 10F30-10F59:11.0 10F70-10F89:14.0",
    "10FB0-10FCB:13.0 10FE0-10FF6:12.0 11000-1104D:6.0 11052-1106F:6.0 11070-11075:14.0",
    "1107F:7.0 11080-110C1:5.2 110C2:14.0 110CD:11.0 110D0-110E8:6.1 110F0-110F9:6.1",
    "11100-11134:6.1 11136-11143:6.1 11144-11146:11.0 11147:13.0 11150-11176:7.0",
    "11180-111C8:6.1 111C9-111CC:8.0 111CD:7.0 111CE-111CF:13.0 111D0-111D9:6.1 111DA:7.0",
    "111DB-111DF:8.0 111E1-111F4:7.0 11200-11211:7.0 11213-1123D:7.0 1123E:9.0 1123F-11241:15.0",
    "11280-11286:8.0 11288:8.0 1128A-1128D:8.0 1128F-1129D:8.0 1129F-112A9:8.0 112B0-112EA:7.0",
    "112F0-112F9:7.0 11300:8.0 11301-11303:7.0 11305-1130C:7.0 1130F-11310:7.0 11313-11328:7.0",
    "1132A-11330:7.0 11332-11333:7.0 11335-11339:7.0 1133B:11.0 1133C-11344:7.0 11347-11348:7.0",
    "1134B-1134D:7.0 11350:8.0 11357:7.0 1135D-11363:7.0 11366-1136C:7.0 11370-11374:7.0",
    "11380-11389:16.0 1138B:16.0 1138E:16.0 11390-113B5:16.0 113B7-113C0:16.0 113C2:16.0",
    "113C5:16.0 113C7-113CA:16.0 113CC-113D5:16.0 113D7-113D8:16.0 113E1-113E2:16.0",
    "11400-11459:9.0 1145A:13.0 1145B:9.0 1145D:9.0 1145E:11.0 1145F:12.0 11460-11461:13.0",
    "11480-114C7:7.0 114D0-114D9:7.0 11580-115B5:7.0 115B8-115C9:7.0 115CA-115DD:8.0",
    "11600-11644:7.0 11650-11659:7.0 11660-1166C:9.0 11680-116B7:6.1 116B8:12.0 116B9:14.0",
    "116C0-116C9:6.1 116D0-116E3:16.0 11700-11719:8.0 1171A:11.0 1171D-1172B:8.0",
    "11730-1173F:8.0 11740-11746:14.0 11800-1183B:11.0 118A0-118F2:7.0 118FF:7.0",
    "11900-11906:13.0 11909:13.0 1190C-11913:13.0 11915-11916:13.0 11918-11935:13.0",
    "11937-11938:13.0 1193B-11946:13.0 11950-11959:13.0 119A0-119A7:12.0 119AA-119D7:12.0",
    "119DA-119E4:12.0 11A00-11A47:10.0 11A50-11A83:10.0 11A84-11A85:12.0 11A86-11A9C:10.0",
    "11A9D:11.0 11A9E-11AA2:10.0 11AB0-11ABF:14.0 11AC0-11AF8:7.0 11B00-11B09:15.0",
    "11BC0-11BE1:16.0 11BF0-11BF9:16.0 11C00-11C08:9.0 11C0A-11C36:9.0 11C38-11C45:9.0",
    "11C50-11C6C:9.0 11C70-11C8F:9.0 11C92-11CA7:9.0 11CA9-11CB6:9.0 11D00-11D06:10.0",
    "11D08-11D09:10.0 11D0B-11D36:10.0 11D3A:10.0 11D3C-11D3D:10.0 11D3F-11D47:10.0",
    "11D50-11D59:10.0 11D60-11D65:11.0 11D67-11D68:11.0 11D6A-11D8E:11.0 11D90-11D91:11.0",
    "11D93-11D98:11.0 11DA0-11DA9:11.0 11EE0-11EF8:11.0 11F00-11F10:15.0 11F12-11F3A:15.0",
    "11F3E-11F59:15.0 11F5A:16.0 11FB0:13.0 11FC0-11FF1:12.0 11FFF:12.0 12000-1236E:5.0",
    "1236F-12398:7.0 12399:8.0 12400-12462:5.0 12463-1246E:7.0 12470-12473:5.0 12474:7.0",
    "12480-12543:8.0 12F90-12FF2:14.0 13000-1342E:5.2 1342F:15.0 13430-13438:12.0",
    "13439-13455:15.0 13460-143FA:16.0 14400-14646:8.0 16100-16139:16.0 16800-16A38:6.0",
    "16A40-16A5E:7.0 16A60-16A69:7.0 16A6E-16A6F:7.0 16A70-16ABE:14.0 16AC0-16AC9:14.0",
    "16AD0-16AED:7.0 16AF0-16AF5:7.0 16B00-16B45:7.0 16B50-16B59:7.0 16B5B-16B61:7.0",
    "16B63-16B77:7.0 16B7D-16B8F:7.0 16D40-16D79:16.0 16E40-16E9A:11.0 16F00-16F44:6.1",
    "16F45-16F4A:12.0 16F4F:12.0 16F50-16F7E:6.1 16F7F-16F87:12.0 16F8F-16F9F:6.1 16FE0:9.0",
    "16FE1:10.0 16FE2-16FE3:12.0 16FE4:13.0 16FF0-16FF1:13.0 17000-187EC:9.0 187ED-187F1:11.0",
    "187F2-187F7:12.0 18800-18AF2:9.0 18AF3-18CD5:13.0 18CFF:16.0 18D00-18D08:13.0",
    "1AFF0-1AFF3:14.0 1AFF5-1AFFB:14.0 1AFFD-1AFFE:14.0 1B000-1B001:6.0 1B002-1B11E:10.0",
    "1B11F-1B122:14.0 1B132:15.0 1B150-1B152:12.0 1B155:15.0 1B164-1B167:12.0 1B170-1B2FB:10.0",
    "1BC00-1BC6A:7.0 1BC70-1BC7C:7.0 1BC80-1BC88:7.0 1BC90-1BC99:7.0 1BC9C-1BCA3:7.0",
    "1CC00-1CCF9:16.0 1CD00-1CEB3:16.0 1CF00-1CF2D:14.0 1CF30-1CF46:14.0 1CF50-1CFC3:14.0",
    "1D000-1D0F5:3.1 1D100-1D126:3.1 1D129:5.1 1D12A-1D1DD:3.1 1D1DE-1D1E8:8.0 1D1E9-1D1EA:14.0",
    "1D200-1D245:4.1 1D2C0-1D2D3:15.0 1D2E0-1D2F3:11.0 1D300-1D356:4.0 1D360-1D371:5.0",
    "1D372-1D378:11.0 1D400-1D454:3.1 1D456-1D49C:3.1 1D49E-1D49F:3.1 1D4A2:3.1 1D4A5-1D4A6:3.1",
    "1D4A9-1D4AC:3.1 1D4AE-1D4B9:3.1 1D4BB:3.1 1D4BD-1D4C0:3.1 1D4C1:4.0 1D4C2-1D4C3:3.1",
    "1D4C5-1D505:3.1 1D507-1D50A:3.1 1D50D-1D514:3.1 1D516-1D51C:3.1 1D51E-1D539:3.1",
    "1D53B-1D53E:3.1 1D540-1D544:3.1 1D546:3.1 1D54A-1D550:3.1 1D552-1D6A3:3.1 1D6A4-1D6A5:4.1",
    "1D6A8-1D7C9:3.1 1D7CA-1D7CB:5.0 1D7CE-1D7FF:3.1 1D800-1DA8B:8.0 1DA9B-1DA9F:8.0",
    "1DAA1-1DAAF:8.0 1DF00-1DF1E:14.0 1DF25-1DF2A:15.0 1E000-1E006:9.0 1E008-1E018:9.0",
    "1E01B-1E021:9.0 1E023-1E024:9.0 1E026-1E02A:9.0 1E030-1E06D:15.0 1E08F:15.0",
    "1E100-1E12C:12.0 1E130-1E13D:12.0 1E140-1E149:12.0 1E14E-1E14F:12.0 1E290-1E2AE:14.0",
    "1E2C0-1E2F9:12.0 1E2FF:12.0 1E4D0-1E4F9:15.0 1E5D0-1E5FA:16.0 1E5FF:16.0 1E7E0-1E7E6:14.0",
    "1E7E8-1E7EB:14.0 1E7ED-1E7EE:14.0 1E7F0-1E7FE:14.0 1E800-1E8C4:7.0 1E8C7-1E8D6:7.0",
    "1E900-1E94A:9.0 1E94B:12.0 1E950-1E959:9.0 1E95E-1E95F:9.0 1EC71-1ECB4:11.0",
    "1ED01-1ED3D:12.0 1EE00-1EE03:6.1 1EE05-1EE1F:6.1 1EE21-1EE22:6.1 1EE24:6.1 1EE27:6.1",
    "1EE29-1EE32:6.1 1EE34-1EE37:6.1 1EE39:6.1 1EE3B:6.1 1EE42:6.1 1EE47:6.1 1EE49:6.1",
    "1EE4B:6.1 1EE4D-1EE4F:6.1 1EE51-1EE52:6.1 1EE54:6.1 1EE57:6.1 1EE59:6.1 1EE5B:6.1",
    "1EE5D:6.1 1EE5F:6.1 1EE61-1EE62:6.1 1EE64:6.1 1EE67-1EE6A:6.1 1EE6C-1EE72:6.1",
    "1EE74-1EE77:6.1 1EE79-1EE7C:6.1 1EE7E:6.1 1EE80-1EE89:6.1 1EE8B-1EE9B:6.1 1EEA1-1EEA3:6.1",
    "1EEA5-1EEA9:6.1 1EEAB-1EEBB:6.1 1EEF0-1EEF1:6.1 1F000-1F02B:5.1 1F030-1F093:5.1",
    "1F0A0-1F0AE:6.0 1F0B1-1F0BE:6.0 1F0BF:7.0 1F0C1-1F0CF:6.0 1F0D1-1F0DF:6.0 1F0E0-1F0F5:7.0",
    "1F100-1F10A:5.2 1F10B-1F10C:7.0 1F10D-1F10F:13.0 1F110-1F12E:5.2 1F12F:11.0 1F130:6.0",
    "1F131:5.2 1F132-1F13C:6.0 1F13D:5.2 1F13E:6.0 1F13F:5.2 1F140-1F141:6.0 1F142:5.2",
    "1F143-1F145:6.0 1F146:5.2 1F147-1F149:6.0 1F14A-1F14E:5.2 1F14F-1F156:6.0 1F157:5.2",
    "1F158-1F15E:6.0 1F15F:5.2 1F160-1F169:6.0 1F16A-1F16B:6.1 1F16C:12.0 1F16D-1F16F:13.0",
    "1F170-1F178:6.0 1F179:5.2 1F17A:6.0 1F17B-1F17C:5.2 1F17D-1F17E:6.0 1F17F:5.2",
    "1F180-1F189:6.0 1F18A-1F18D:5.2 1F18E-1F18F:6.0 1F190:5.2 1F191-1F19A:6.0 1F19B-1F1AC:9.0",
    "1F1AD:13.0 1F1E6-1F1FF:6.0 1F200:5.2 1F201-1F202:6.0 1F210-1F231:5.2 1F232-1F23A:6.0",
    "1F23B:9.0 1F240-1F248:5.2 1F250-1F251:6.0 1F260-1F265:10.0 1F300-1F320:6.0 1F321-1F32C:7.0",
    "1F32D-1F32F:8.0 1F330-1F335:6.0 1F336:7.0 1F337-1F37C:6.0 1F37D:7.0 1F37E-1F37F:8.0",
    "1F380-1F393:6.0 1F394-1F39F:7.0 1F3A0-1F3C4:6.0 1F3C5:7.0 1F3C6-1F3CA:6.0 1F3CB-1F3CE:7.0",
    "1F3CF-1F3D3:8.0 1F3D4-1F3DF:7.0 1F3E0-1F3F0:6.0 1F3F1-1F3F7:7.0 1F3F8-1F3FF:8.0",
    "1F400-1F43E:6.0 1F43F:7.0 1F440:6.0 1F441:7.0 1F442-1F4F7:6.0 1F4F8:7.0 1F4F9-1F4FC:6.0",
    "1F4FD-1F4FE:7.0 1F4FF:8.0 1F500-1F53D:6.0 1F53E-1F53F:7.0 1F540-1F543:6.1 1F544-1F54A:7.0",
    "1F54B-1F54F:8.0 1F550-1F567:6.0 1F568-1F579:7.0 1F57A:9.0 1F57B-1F5A3:7.0 1F5A4:9.0",
    "1F5A5-1F5FA:7.0 1F5FB-1F5FF:6.0 1F600:6.1 1F601-1F610:6.0 1F611:6.1 1F612-1F614:6.0",
    "1F615:6.1 1F616:6.0 1F617:6.1 1F618:6.0 1F619:6.1 1F61A:6.0 1F61B:6.1 1F61C-1F61E:6.0",
    "1F61F:6.1 1F620-1F625:6.0 1F626-1F627:6.1 1F628-1F62B:6.0 1F62C:6.1 1F62D:6.0",
    "1F62E-1F62F:6.1 1F630-1F633:6.0 1F634:6.1 1F635-1F640:6.0 1F641-1F642:7.0 1F643-1F644:8.0",
    "1F645-1F64F:6.0 1F650-1F67F:7.0 1F680-1F6C5:6.0 1F6C6-1F6CF:7.0 1F6D0:8.0 1F6D1-1F6D2:9.0",
    "1F6D3-1F6D4:10.0 1F6D5:12.0 1F6D6-1F6D7:13.0 1F6DC:15.0 1F6DD-1F6DF:14.0 1F6E0-1F6EC:7.0",
    "1F6F0-1F6F3:7.0 1F6F4-1F6F6:9.0 1F6F7-1F6F8:10.0 1F6F9:11.0 1F6FA:12.0 1F6FB-1F6FC:13.0",
    "1F700-1F773:6.0 1F774-1F776:15.0 1F77B-1F77F:15.0 1F780-1F7D4:7.0 1F7D5-1F7D8:11.0",
    "1F7D9:15.0 1F7E0-1F7EB:12.0 1F7F0:14.0 1F800-1F80B:7.0 1F810-1F847:7.0 1F850-1F859:7.0",
    "1F860-1F887:7.0 1F890-1F8AD:7.0 1F8B0-1F8B1:13.0 1F8B2-1F8BB:16.0 1F8C0-1F8C1:16.0",
    "1F900-1F90B:10.0 1F90C:13.0 1F90D-1F90F:12.0 1F910-1F918:8.0 1F919-1F91E:9.0 1F91F:10.0",
    "1F920-1F927:9.0 1F928-1F92F:10.0 1F930:9.0 1F931-1F932:10.0 1F933-1F93E:9.0 1F93F:12.0",
    "1F940-1F94B:9.0 1F94C:10.0 1F94D-1F94F:11.0 1F950-1F95E:9.0 1F95F-1F96B:10.0",
    "1F96C-1F970:11.0 1F971:12.0 1F972:13.0 1F973-1F976:11.0 1F977-1F978:13.0 1F979:14.0",
    "1F97A:11.0 1F97B:12.0 1F97C-1F97F:11.0 1F980-1F984:8.0 1F985-1F991:9.0 1F992-1F997:10.0",
    "1F998-1F9A2:11.0 1F9A3-1F9A4:13.0 1F9A5-1F9AA:12.0 1F9AB-1F9AD:13.0 1F9AE-1F9AF:12.0",
    "1F9B0-1F9B9:11.0 1F9BA-1F9BF:12.0 1F9C0:8.0 1F9C1-1F9C2:11.0 1F9C3-1F9CA:12.0 1F9CB:13.0",
    "1F9CC:14.0 1F9CD-1F9CF:12.0 1F9D0-1F9E6:10.0 1F9E7-1F9FF:11.0 1FA00-1FA53:12.0",
    "1FA60-1FA6D:11.0 1FA70-1FA73:12.0 1FA74:13.0 1FA75-1FA77:15.0 1FA78-1FA7A:12.0",
    "1FA7B-1FA7C:14.0 1FA80-1FA82:12.0 1FA83-1FA86:13.0 1FA87-1FA88:15.0 1FA89:16.0 1FA8F:16.0",
    "1FA90-1FA95:12.0 1FA96-1FAA8:13.0 1FAA9-1FAAC:14.0 1FAAD-1FAAF:15.0 1FAB0-1FAB6:13.0",
    "1FAB7-1FABA:14.0 1FABB-1FABD:15.0 1FABE:16.0 1FABF:15.0 1FAC0-1FAC2:13.0 1FAC3-1FAC5:14.0",
    "1FAC6:16.0 1FACE-1FACF:15.0 1FAD0-1FAD6:13.0 1FAD7-1FAD9:14.0 1FADA-1FADB:15.0 1FADC:16.0",
    "1FADF:16.0 1FAE0-1FAE7:14.0 1FAE8:15.0 1FAE9:16.0 1FAF0-1FAF6:14.0 1FAF7-1FAF8:15.0",
    "1FB00-1FB92:13.0 1FB94-1FBCA:13.0 1FBCB-1FBEF:16.0 1FBF0-1FBF9:13.0 1FFFE-1FFFF:2.0",
    "20000-2A6D6:3.1 2A6D7-2A6DD:13.0 2A6DE-2A6DF:14.0 2A700-2B734:5.2 2B735-2B738:14.0",
    "2B739:15.0 2B740-2B81D:6.0 2B820-2CEA1:8.0 2CEB0-2EBE0:10.0 2EBF0-2EE5D:15.1",
    "2F800-2FA1D:3.1 2FFFE-2FFFF:2.0 30000-3134A:13.0 31350-323AF:15.0 3FFFE-3FFFF:2.0",
    "4FFFE-4FFFF:2.0 5FFFE-5FFFF:2.0 6FFFE-6FFFF:2.0 7FFFE-7FFFF:2.0 8FFFE-8FFFF:2.0",
    "9FFFE-9FFFF:2.0 AFFFE-AFFFF:2.0 BFFFE-BFFFF:2.0 CFFFE-CFFFF:2.0 DFFFE-DFFFF:2.0 E0001:3.1",
    "E0020-E007F:3.1 E0100-E01EF:4.0 EFFFE-10FFFF:2.0"]

/-- The versions in the order of their release. -/
def versions : List String :=
  ["1.1", "2.0", "2.1", "3.0", "3.1", "3.2", "4.0", "4.1", "5.0", "5.1", "5.2", "6.0", "6.1", "6.2", "6.3", "7.0", "8.0", "9.0", "10.0", "11.0", "12.0", "12.1", "13.0", "14.0", "15.0", "15.1", "16.0"]

/-- A version is named by its two numbers, with a point between them or after the letter v. -/
def ofName? (name : String) : Option String :=
  versions.find? fun version => version = name || "v" ++ version.replace "." "" = name

def table : List (CodeRange × String) := Listing.classes rows

/-- The code points that were assigned in the given version or before it. -/
def codePoints (version : String) : CodePoints :=
  Listing.select table (version :: versions.takeWhile (· ≠ version))

end MeshAccess.Unicode.Age
