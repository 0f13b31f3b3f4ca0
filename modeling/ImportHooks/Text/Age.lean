import ImportHooks.Text.Table

namespace ImportHooks.Text

-- What each version of Unicode up to 16 added, oldest version first.
def ages : List NamedTable := [
  ⟨["1.1", "v11"], "
    0.1F5 1FA.217 250.2A8 2B0.2DE 2E0.2E9 300.345 360.361 374.375 37A 37E 384.38A 38C 38E.3A1 3A3.3CE 3D0.3D6
    3DA.3E0.2 3E2.3F3 401.40C 40E.44F 451.45C 45E.486 490.4C4 4C7.4C8 4CB.4CC 4D0.4EB 4EE.4F5 4F8.4F9 531.556
    559.55F 561.587 589 5B0.5B9 5BB.5C3 5D0.5EA 5F0.5F4 60C 61B 61F 621.63A 640.652 660.66D 670.6B7 6BA.6BE 6C0.6CE
    6D0.6ED 6F0.6F9 901.903 905.939 93C.94D 950.954 958.970 981.983 985.98C 98F.990 993.9A8 9AA.9B0 9B2 9B6.9B9 9BC
    9BE.9C4 9C7.9C8 9CB.9CD 9D7 9DC.9DD 9DF.9E3 9E6.9FA A02 A05.A0A A0F.A10 A13.A28 A2A.A30 A32.A33 A35.A36 A38.A39
    A3C A3E.A42 A47.A48 A4B.A4D A59.A5C A5E A66.A74 A81.A83 A85.A8B A8D A8F.A91 A93.AA8 AAA.AB0 AB2.AB3 AB5.AB9
    ABC.AC5 AC7.AC9 ACB.ACD AD0 AE0 AE6.AEF B01.B03 B05.B0C B0F.B10 B13.B28 B2A.B30 B32.B33 B36.B39 B3C.B43 B47.B48
    B4B.B4D B56.B57 B5C.B5D B5F.B61 B66.B70 B82.B83 B85.B8A B8E.B90 B92.B95 B99.B9A B9C B9E.B9F BA3.BA4 BA8.BAA
    BAE.BB5 BB7.BB9 BBE.BC2 BC6.BC8 BCA.BCD BD7 BE7.BF2 C01.C03 C05.C0C C0E.C10 C12.C28 C2A.C33 C35.C39 C3E.C44
    C46.C48 C4A.C4D C55.C56 C60.C61 C66.C6F C82.C83 C85.C8C C8E.C90 C92.CA8 CAA.CB3 CB5.CB9 CBE.CC4 CC6.CC8 CCA.CCD
    CD5.CD6 CDE CE0.CE1 CE6.CEF D02.D03 D05.D0C D0E.D10 D12.D28 D2A.D39 D3E.D43 D46.D48 D4A.D4D D57 D60.D61 D66.D6F
    E01.E3A E3F.E5B E81.E82 E84 E87.E88 E8A E8D E94.E97 E99.E9F EA1.EA3 EA5 EA7 EAA.EAB EAD.EB9 EBB.EBD EC0.EC4 EC6
    EC8.ECD ED0.ED9 EDC.EDD 10A0.10C5 10D0.10F6 10FB 1100.1159 115F.11A2 11A8.11F9 1E00.1E9A 1EA0.1EF9 1F00.1F15
    1F18.1F1D 1F20.1F45 1F48.1F4D 1F50.1F57 1F59.1F5D.2 1F5F.1F7D 1F80.1FB4 1FB6.1FC4 1FC6.1FD3 1FD6.1FDB 1FDD.1FEF
    1FF2.1FF4 1FF6.1FFE 2000.202E 2030.2046 206A.2070 2074.208E 20A0.20AA 20D0.20E1 2100.2138 2153.2182 2190.21EA
    2200.22F1 2300 2302.237A 2400.2424 2440.244A 2460.24EA 2500.2595 25A0.25EF 2600.2613 261A.266F 2701.2704
    2706.2709 270C.2727 2729.274B 274D 274F.2752 2756 2758.275E 2761.2767 2776.2794 2798.27AF 27B1.27BE 3000.3037
    303F 3041.3094 3099.309E 30A1.30FE 3105.312C 3131.318E 3190.319F 3200.321C 3220.3243 3260.327B 327F.32B0
    32C0.32CB 32D0.32FE 3300.3376 337B.33DD 33E0.33FE 4E00.9FA5 E000.FA2D FB00.FB06 FB13.FB17 FB1E.FB36 FB38.FB3C
    FB3E FB40.FB41 FB43.FB44 FB46.FBB1 FBD3.FD3F FD50.FD8F FD92.FDC7 FDF0.FDFB FE20.FE23 FE30.FE44 FE49.FE52
    FE54.FE66 FE68.FE6B FE70.FE72 FE74 FE76.FEFC FEFF FF01.FF5E FF61.FFBE FFC2.FFC7 FFCA.FFCF FFD2.FFD7 FFDA.FFDC
    FFE0.FFE6 FFE8.FFEE FFFD.FFFF"⟩,
  ⟨["2.0", "v20"], "
    591.5A1 5A3.5AF 5C4 F00.F47 F49.F69 F71.F8B F90.F95 F97 F99.FAD FB1.FB7 FB9 1E9B 20AB AC00.D7A3 1FFFE.1FFFF
    2FFFE.2FFFF 3FFFE.3FFFF 4FFFE.4FFFF 5FFFE.5FFFF 6FFFE.6FFFF 7FFFE.7FFFF 8FFFE.8FFFF 9FFFE.9FFFF AFFFE.AFFFF
    BFFFE.BFFFF CFFFE.CFFFF DFFFE.DFFFF EFFFE.10FFFF"⟩,
  ⟨["2.1", "v21"], "20AC FFFC"⟩,
  ⟨["3.0", "v30"], "
    1F6.1F9 218.21F 222.233 2A9.2AD 2DF 2EA.2EE 346.34E 362 3D7 3DB.3E1.2 400 40D 450 45D 488.489 48C.48F 4EC.4ED
    58A 653.655 6B8.6B9 6BF 6CF 6FA.6FE 700.70D 70F.72C 730.74A 780.7B0 D82.D83 D85.D96 D9A.DB1 DB3.DBB DBD DC0.DC6
    DCA DCF.DD4 DD6 DD8.DDF DF2.DF4 F6A F96 FAE.FB0 FB8 FBA.FBC FBE.FCC FCF 1000.1021 1023.1027 1029.102A 102C.1032
    1036.1039 1040.1059 1200.1206 1208.1246 1248 124A.124D 1250.1256 1258 125A.125D 1260.1286 1288 128A.128D
    1290.12AE 12B0 12B2.12B5 12B8.12BE 12C0 12C2.12C5 12C8.12CE 12D0.12D6 12D8.12EE 12F0.130E 1310 1312.1315
    1318.131E 1320.1346 1348.135A 1361.137C 13A0.13F4 1401.1676 1680.169C 16A0.16F0 1780.17DC 17E0.17E9 1800.180E
    1810.1819 1820.1877 1880.18A9 202F 2048.204D 20AD.20AF 20E2.20E3 2139.213A 2183 21EB.21F3 2301 237B 237D.239A
    2425.2426 25F0.25F7 2619 2670.2671 2800.28FF 2E80.2E99 2E9B.2EF3 2F00.2FD5 2FF0.2FFB 3038.303A 303E 31A0.31B7
    3400.4DB5 A000.A48C A490.A4A1 A4A4.A4B3 A4B5.A4C0 A4C2.A4C4 A4C6 FB1D FFF9.FFFB"⟩,
  ⟨["3.1", "v31"], "
    3F4.3F5 FDD0.FDEF 10300.1031E 10320.10323 10330.1034A 10400.10425 10428.1044D 1D000.1D0F5 1D100.1D126
    1D12A.1D1DD 1D400.1D454 1D456.1D49C 1D49E.1D49F 1D4A2 1D4A5.1D4A6 1D4A9.1D4AC 1D4AE.1D4B9 1D4BB 1D4BD.1D4C0
    1D4C2.1D4C3 1D4C5.1D505 1D507.1D50A 1D50D.1D514 1D516.1D51C 1D51E.1D539 1D53B.1D53E 1D540.1D544 1D546
    1D54A.1D550 1D552.1D6A3 1D6A8.1D7C9 1D7CE.1D7FF 20000.2A6D6 2F800.2FA1D E0001 E0020.E007F"⟩,
  ⟨["3.2", "v32"], "
    220 34F 363.36F 3D8.3D9 3F6 48A.48B 4C5.4C6 4C9.4CA 4CD.4CE 500.50F 66E.66F 7B1 10F7.10F8 1700.170C 170E.1714
    1720.1736 1740.1753 1760.176C 176E.1770 1772.1773 2047 204E.2052 2057 205F.2063 2071 20B0.20B1 20E4.20EA
    213D.214B 21F4.21FF 22F2.22FF 237C 239B.23CE 24EB.24FE 2596.259F 25F8.25FF 2616.2617 2672.267D 2680.2689
    2768.2775 27D0.27EB 27F0.27FF 2900.2AFF 303B.303D 3095.3096 309F.30A0 30FF 31F0.31FF 3251.325F 32B1.32BF
    A4A2.A4A3 A4B4 A4C1 A4C5 FA30.FA6A FDFC FE00.FE0F FE45.FE46 FE73 FF5F.FF60"⟩,
  ⟨["4.0", "v40"], "
    221 234.236 2AE.2AF 2EF.2FF 350.357 35D.35F 3F7.3FB 600.603 60D.615 656.658 6EE.6EF 6FF 72D.72F 74D.74F 904 9BD
    A01 A03 A8C AE1.AE3 AF1 B35 B71 BF3.BFA CBC.CBD 17DD 17F0.17F9 1900.191C 1920.192B 1930.193B 1940 1944.196D
    1970.1974 19E0.19FF 1D00.1D6B 2053.2054 213B 23CF.23D0 24FF 2614.2615 268A.2691 26A0.26A1 2B00.2B0D 321D.321E
    3250 327C.327D 32CC.32CF 3377.337A 33DE.33DF 33FF 4DC0.4DFF FDFD FE47.FE48 10000.1000B 1000D.10026 10028.1003A
    1003C.1003D 1003F.1004D 10050.1005D 10080.100FA 10100.10102 10107.10133 10137.1013F 10380.1039D 1039F
    10426.10427 1044E.1049D 104A0.104A9 10800.10805 10808 1080A.10835 10837.10838 1083C 1083F 1D300.1D356 1D4C1
    E0100.E01EF"⟩,
  ⟨["4.1", "v41"], "
    237.241 358.35C 3FC.3FF 4F6.4F7 5A2 5C5.5C7 60B 61E 659.65E 750.76D 97D 9CE BB6 BE6 FD0.FD1 10F9.10FA 10FC 1207
    1247 1287 12AF 12CF 12EF 130F 131F 1347 135F.1360 1380.1399 1980.19A9 19B0.19C9 19D0.19D9 19DE.19DF 1A00.1A1B
    1A1E.1A1F 1D6C.1DC3 2055.2056 2058.205E 2090.2094 20B2.20B5 20EB 213C 214C 23D1.23DB 2618 267E.267F 2692.269C
    26A2.26B1 27C0.27C6 2B0E.2B13 2C00.2C2E 2C30.2C5E 2C80.2CEA 2CF9.2D25 2D30.2D65 2D6F 2D80.2D96 2DA0.2DA6
    2DA8.2DAE 2DB0.2DB6 2DB8.2DBE 2DC0.2DC6 2DC8.2DCE 2DD0.2DD6 2DD8.2DDE 2E00.2E17 2E1C.2E1D 31C0.31CF 327E
    9FA6.9FBB A700.A716 A800.A82B FA70.FAD9 FE10.FE19 10140.1018A 103A0.103C3 103C8.103D5 10A00.10A03 10A05.10A06
    10A0C.10A13 10A15.10A17 10A19.10A33 10A38.10A3A 10A3F.10A47 10A50.10A58 1D200.1D245 1D6A4.1D6A5"⟩,
  ⟨["5.0", "v50"], "
    242.24F 37B.37D 4CF 4FA.4FF 510.513 5BA 7C0.7FA 97B.97C 97E.97F CE2.CE3 CF1.CF2 1B00.1B4B 1B50.1B7C 1DC4.1DCA
    1DFE.1DFF 20EC.20EF 214D.214E 2184 23DC.23E7 26B2 27C7.27CA 2B14.2B1A 2B20.2B23 2C60.2C6C 2C74.2C77 A717.A71A
    A720.A721 A840.A877 10900.10919 1091F 12000.1236E 12400.12462 12470.12473 1D360.1D371 1D7CA.1D7CB"⟩,
  ⟨["5.1", "v51"], "
    370.373 376.377 3CF 487 514.523 606.60A 616.61A 63B.63F 76E.77F 971.972 A51 A75 B44 B62.B63 BD0 C3D C58.C59
    C62.C63 C78.C7F D3D D44 D62.D63 D70.D75 D79.D7F F6B.F6C FCE FD2.FD4 1022 1028 102B 1033.1035 103A.103F 105A.1099
    109E.109F 18AA 1B80.1BAA 1BAE.1BB9 1C00.1C37 1C3B.1C49 1C4D.1C7F 1DCB.1DE6 1E9C.1E9F 1EFA.1EFF 2064 20F0 214F
    2185.2188 269D 26B3.26BC 26C0.26C3 27CC 27EC.27EF 2B1B.2B1F 2B24.2B4C 2B50.2B54 2C6D.2C6F 2C71.2C73 2C78.2C7D
    2DE0.2DFF 2E18.2E1B 2E1E.2E30 312D 31D0.31E3 9FBC.9FC3 A500.A62B A640.A65F A662.A673 A67C.A697 A71B.A71F
    A722.A78C A7FB.A7FF A880.A8C4 A8CE.A8D9 A900.A953 A95F AA00.AA36 AA40.AA4D AA50.AA59 AA5C.AA5F FE24.FE26
    10190.1019B 101D0.101FD 10280.1029C 102A0.102D0 10920.10939 1093F 1D129 1F000.1F02B 1F030.1F093"⟩,
  ⟨["5.2", "v52"], "
    524.525 800.82D 830.83E 900 94E 955 979.97A 9FB FD5.FD8 109A.109D 115A.115E 11A3.11A7 11FA.11FF 1400 1677.167F
    18B0.18F5 19AA.19AB 19DA 1A20.1A5E 1A60.1A7C 1A7F.1A89 1A90.1A99 1AA0.1AAD 1CD0.1CF2 1DFD 20B6.20B8 2150.2152
    2189 23E8 269E.269F 26BD.26BF 26C4.26CD 26CF.26E1 26E3 26E8.26FF 2757 2B55.2B59 2C70 2C7E.2C7F 2CEB.2CF1 2E31
    3244.324F 9FC4.9FCB A4D0.A4FF A6A0.A6F7 A830.A839 A8E0.A8FB A960.A97C A980.A9CD A9CF.A9D9 A9DE.A9DF AA60.AA7B
    AA80.AAC2 AADB.AADF ABC0.ABED ABF0.ABF9 D7B0.D7C6 D7CB.D7FB FA6B.FA6D 10840.10855 10857.1085F 1091A.1091B
    10A60.10A7F 10B00.10B35 10B39.10B55 10B58.10B72 10B78.10B7F 10C00.10C48 10E60.10E7E 11080.110C1 13000.1342E
    1F100.1F10A 1F110.1F12E 1F131 1F13D 1F13F 1F142 1F146 1F14A.1F14E 1F157 1F15F 1F179 1F17B.1F17C 1F17F
    1F18A.1F18D 1F190 1F200 1F210.1F231 1F240.1F248 2A700.2B734"⟩,
  ⟨["6.0", "v60"], "
    526.527 620 65F 840.85B 85E 93A.93B 94F 956.957 973.977 B72.B77 D29 D3A D4E F8C.F8F FD9.FDA 135D.135E 1BC0.1BF3
    1BFC.1BFF 1DFC 2095.209C 20B9 23E9.23F3 26CE 26E2 26E4.26E7 2705 270A.270B 2728 274C 274E 2753.2755 275F.2760
    2795.2797 27B0 27BF 27CE.27CF 2D70 2D7F 31B8.31BA A660.A661 A78D.A78E A790.A791 A7A0.A7A9 A7FA AB01.AB06
    AB09.AB0E AB11.AB16 AB20.AB26 AB28.AB2E FBB2.FBC1 11000.1104D 11052.1106F 16800.16A38 1B000.1B001 1F0A0.1F0AE
    1F0B1.1F0BE 1F0C1.1F0CF 1F0D1.1F0DF 1F130 1F132.1F13C 1F13E 1F140.1F141 1F143.1F145 1F147.1F149 1F14F.1F156
    1F158.1F15E 1F160.1F169 1F170.1F178 1F17A 1F17D.1F17E 1F180.1F189 1F18E.1F18F 1F191.1F19A 1F1E6.1F1FF
    1F201.1F202 1F232.1F23A 1F250.1F251 1F300.1F320 1F330.1F335 1F337.1F37C 1F380.1F393 1F3A0.1F3C4 1F3C6.1F3CA
    1F3E0.1F3F0 1F400.1F43E 1F440 1F442.1F4F7 1F4F9.1F4FC 1F500.1F53D 1F550.1F567 1F5FB.1F5FF 1F601.1F610
    1F612.1F614 1F616.1F61A.2 1F61C.1F61E 1F620.1F625 1F628.1F62B 1F62D 1F630.1F633 1F635.1F640 1F645.1F64F
    1F680.1F6C5 1F700.1F773 2B740.2B81D"⟩,
  ⟨["6.1", "v61"], "
    58F 604 8A0 8A2.8AC 8E4.8FE AF0 EDE.EDF 10C7 10CD 10FD.10FF 1BAB.1BAD 1BBA.1BBF 1CC0.1CC7 1CF3.1CF6 27CB 27CD
    2CF2.2CF3 2D27 2D2D 2D66.2D67 2E32.2E3B 9FCC A674.A67B A69F A792.A793 A7AA A7F8.A7F9 AAE0.AAF6 FA2E.FA2F
    10980.109B7 109BE.109BF 110D0.110E8 110F0.110F9 11100.11134 11136.11143 11180.111C8 111D0.111D9 11680.116B7
    116C0.116C9 16F00.16F44 16F50.16F7E 16F8F.16F9F 1EE00.1EE03 1EE05.1EE1F 1EE21.1EE22 1EE24 1EE27 1EE29.1EE32
    1EE34.1EE37 1EE39 1EE3B 1EE42 1EE47.1EE4B.2 1EE4D.1EE4F 1EE51.1EE52 1EE54 1EE57.1EE5F.2 1EE61.1EE62 1EE64
    1EE67.1EE6A 1EE6C.1EE72 1EE74.1EE77 1EE79.1EE7C 1EE7E 1EE80.1EE89 1EE8B.1EE9B 1EEA1.1EEA3 1EEA5.1EEA9
    1EEAB.1EEBB 1EEF0.1EEF1 1F16A.1F16B 1F540.1F543 1F600 1F611 1F615.1F61B.2 1F61F 1F626.1F627 1F62C 1F62E.1F62F
    1F634"⟩,
  ⟨["6.2", "v62"], "20BA"⟩,
  ⟨["6.3", "v63"], "61C 2066.2069"⟩,
  ⟨["7.0", "v70"], "
    37F 528.52F 58D.58E 605 8A1 8AD.8B2 8FF 978 980 C00 C34 C81 D01 DE6.DEF 16F1.16F8 191D.191E 1AB0.1ABE 1CF8.1CF9
    1DE7.1DF5 20BB.20BD 23F4.23FA 2700 2B4D.2B4F 2B5A.2B73 2B76.2B95 2B98.2BB9 2BBD.2BC8 2BCA.2BD1 2E3C.2E42
    A698.A69D A794.A79F A7AB.A7AD A7B0.A7B1 A7F7 A9E0.A9FE AA7C.AA7F AB30.AB5F AB64.AB65 FE27.FE2D 1018B.1018C 101A0
    102E0.102FB 1031F 10350.1037A 10500.10527 10530.10563 1056F 10600.10736 10740.10755 10760.10767 10860.1089E
    108A7.108AF 10A80.10A9F 10AC0.10AE6 10AEB.10AF6 10B80.10B91 10B99.10B9C 10BA9.10BAF 1107F 11150.11176 111CD
    111DA 111E1.111F4 11200.11211 11213.1123D 112B0.112EA 112F0.112F9 11301.11303 11305.1130C 1130F.11310
    11313.11328 1132A.11330 11332.11333 11335.11339 1133C.11344 11347.11348 1134B.1134D 11357 1135D.11363
    11366.1136C 11370.11374 11480.114C7 114D0.114D9 11580.115B5 115B8.115C9 11600.11644 11650.11659 118A0.118F2
    118FF 11AC0.11AF8 1236F.12398 12463.1246E 12474 16A40.16A5E 16A60.16A69 16A6E.16A6F 16AD0.16AED 16AF0.16AF5
    16B00.16B45 16B50.16B59 16B5B.16B61 16B63.16B77 16B7D.16B8F 1BC00.1BC6A 1BC70.1BC7C 1BC80.1BC88 1BC90.1BC99
    1BC9C.1BCA3 1E800.1E8C4 1E8C7.1E8D6 1F0BF 1F0E0.1F0F5 1F10B.1F10C 1F321.1F32C 1F336 1F37D 1F394.1F39F 1F3C5
    1F3CB.1F3CE 1F3D4.1F3DF 1F3F1.1F3F7 1F43F 1F441 1F4F8 1F4FD.1F4FE 1F53E.1F53F 1F544.1F54A 1F568.1F579
    1F57B.1F5A3 1F5A5.1F5FA 1F641.1F642 1F650.1F67F 1F6C6.1F6CF 1F6E0.1F6EC 1F6F0.1F6F3 1F780.1F7D4 1F800.1F80B
    1F810.1F847 1F850.1F859 1F860.1F887 1F890.1F8AD"⟩,
  ⟨["8.0", "v80"], "
    8B3.8B4 8E3 AF9 C5A D5F 13F5 13F8.13FD 20BE 218A.218B 2BEC.2BEF 9FCD.9FD5 A69E A78F A7B2.A7B7 A8FC.A8FD
    AB60.AB63 AB70.ABBF FE2E.FE2F 108E0.108F2 108F4.108F5 108FB.108FF 109BC.109BD 109C0.109CF 109D2.109FF
    10C80.10CB2 10CC0.10CF2 10CFA.10CFF 111C9.111CC 111DB.111DF 11280.11286 11288 1128A.1128D 1128F.1129D
    1129F.112A9 11300 11350 115CA.115DD 11700.11719 1171D.1172B 11730.1173F 12399 12480.12543 14400.14646
    1D1DE.1D1E8 1D800.1DA8B 1DA9B.1DA9F 1DAA1.1DAAF 1F32D.1F32F 1F37E.1F37F 1F3CF.1F3D3 1F3F8.1F3FF 1F4FF
    1F54B.1F54F 1F643.1F644 1F6D0 1F910.1F918 1F980.1F984 1F9C0 2B820.2CEA1"⟩,
  ⟨["9.0", "v90"], "
    8B6.8BD 8D4.8E2 C80 D4F D54.D56 D58.D5E D76.D78 1C80.1C88 1DFB 23FB.23FE 2E43.2E44 A7AE A8C5 1018D.1018E
    104B0.104D3 104D8.104FB 1123E 11400.11459 1145B 1145D 11660.1166C 11C00.11C08 11C0A.11C36 11C38.11C45
    11C50.11C6C 11C70.11C8F 11C92.11CA7 11CA9.11CB6 16FE0 17000.187EC 18800.18AF2 1E000.1E006 1E008.1E018
    1E01B.1E021 1E023.1E024 1E026.1E02A 1E900.1E94A 1E950.1E959 1E95E.1E95F 1F19B.1F1AC 1F23B 1F57A 1F5A4
    1F6D1.1F6D2 1F6F4.1F6F6 1F919.1F91E 1F920.1F927 1F930 1F933.1F93E 1F940.1F94B 1F950.1F95E 1F985.1F991"⟩,
  ⟨["10.0", "v100"], "
    860.86A 9FC.9FD AFA.AFF D00 D3B.D3C 1CF7 1DF6.1DF9 20BF 23FF 2BD2 2E45.2E49 312E 9FD6.9FEA 1032D.1032F
    11A00.11A47 11A50.11A83 11A86.11A9C 11A9E.11AA2 11D00.11D06 11D08.11D09 11D0B.11D36 11D3A 11D3C.11D3D
    11D3F.11D47 11D50.11D59 16FE1 1B002.1B11E 1B170.1B2FB 1F260.1F265 1F6D3.1F6D4 1F6F7.1F6F8 1F900.1F90B 1F91F
    1F928.1F92F 1F931.1F932 1F94C 1F95F.1F96B 1F992.1F997 1F9D0.1F9E6 2CEB0.2EBE0"⟩,
  ⟨["11.0", "v110"], "
    560 588 5EF 7FD.7FF 8D3 9FE A76 C04 C84 1878 1C90.1CBA 1CBD.1CBF 2BBA.2BBC 2BD3.2BEB 2BF0.2BFE 2E4A.2E4E 312F
    9FEB.9FEF A7AF A7B8.A7B9 A8FE.A8FF 10A34.10A35 10A48 10D00.10D27 10D30.10D39 10F00.10F27 10F30.10F59 110CD
    11144.11146 1133B 1145E 1171A 11800.1183B 11A9D 11D60.11D65 11D67.11D68 11D6A.11D8E 11D90.11D91 11D93.11D98
    11DA0.11DA9 11EE0.11EF8 16E40.16E9A 187ED.187F1 1D2E0.1D2F3 1D372.1D378 1EC71.1ECB4 1F12F 1F6F9 1F7D5.1F7D8
    1F94D.1F94F 1F96C.1F970 1F973.1F976 1F97A 1F97C.1F97F 1F998.1F9A2 1F9B0.1F9B9 1F9C1.1F9C2 1F9E7.1F9FF
    1FA60.1FA6D"⟩,
  ⟨["12.0", "v120"], "
    C77 E86 E89 E8C E8E.E93 E98 EA0 EA8.EA9 EAC EBA 1CFA 2BC9 2BFF 2E4F A7BA.A7BF A7C2.A7C6 AB66.AB67 10FE0.10FF6
    1145F 116B8 119A0.119A7 119AA.119D7 119DA.119E4 11A84.11A85 11FC0.11FF1 11FFF 13430.13438 16F45.16F4A 16F4F
    16F7F.16F87 16FE2.16FE3 187F2.187F7 1B150.1B152 1B164.1B167 1E100.1E12C 1E130.1E13D 1E140.1E149 1E14E.1E14F
    1E2C0.1E2F9 1E2FF 1E94B 1ED01.1ED3D 1F16C 1F6D5 1F6FA 1F7E0.1F7EB 1F90D.1F90F 1F93F 1F971 1F97B 1F9A5.1F9AA
    1F9AE.1F9AF 1F9BA.1F9BF 1F9C3.1F9CA 1F9CD.1F9CF 1FA00.1FA53 1FA70.1FA73 1FA78.1FA7A 1FA80.1FA82 1FA90.1FA95"⟩,
  ⟨["12.1", "v121"], "32FF"⟩,
  ⟨["13.0", "v130"], "
    8BE.8C7 B55 D04 D81 1ABF.1AC0 2B97 2E50.2E52 31BB.31BF 4DB6.4DBF 9FF0.9FFC A7C7.A7CA A7F5.A7F6 A82C AB68.AB6B
    1019C 10E80.10EA9 10EAB.10EAD 10EB0.10EB1 10FB0.10FCB 11147 111CE.111CF 1145A 11460.11461 11900.11906 11909
    1190C.11913 11915.11916 11918.11935 11937.11938 1193B.11946 11950.11959 11FB0 16FE4 16FF0.16FF1 18AF3.18CD5
    18D00.18D08 1F10D.1F10F 1F16D.1F16F 1F1AD 1F6D6.1F6D7 1F6FB.1F6FC 1F8B0.1F8B1 1F90C 1F972 1F977.1F978
    1F9A3.1F9A4 1F9AB.1F9AD 1F9CB 1FA74 1FA83.1FA86 1FA96.1FAA8 1FAB0.1FAB6 1FAC0.1FAC2 1FAD0.1FAD6 1FB00.1FB92
    1FB94.1FBCA 1FBF0.1FBF9 2A6D7.2A6DD 30000.3134A"⟩,
  ⟨["14.0", "v140"], "
    61D 870.88E 890.891 898.89F 8B5 8C8.8D2 C3C C5D CDD 170D 1715 171F 180F 1AC1.1ACE 1B4C 1B7D.1B7E 1DFA 20C0 2C2F
    2C5F 2E53.2E5D 9FFD.9FFF A7C0.A7C1 A7D0.A7D1 A7D3 A7D5.A7D9 A7F2.A7F4 FBC2 FD40.FD4F FDCF FDFE.FDFF 10570.1057A
    1057C.1058A 1058C.10592 10594.10595 10597.105A1 105A3.105B1 105B3.105B9 105BB.105BC 10780.10785 10787.107B0
    107B2.107BA 10F70.10F89 11070.11075 110C2 116B9 11740.11746 11AB0.11ABF 12F90.12FF2 16A70.16ABE 16AC0.16AC9
    1AFF0.1AFF3 1AFF5.1AFFB 1AFFD.1AFFE 1B11F.1B122 1CF00.1CF2D 1CF30.1CF46 1CF50.1CFC3 1D1E9.1D1EA 1DF00.1DF1E
    1E290.1E2AE 1E7E0.1E7E6 1E7E8.1E7EB 1E7ED.1E7EE 1E7F0.1E7FE 1F6DD.1F6DF 1F7F0 1F979 1F9CC 1FA7B.1FA7C
    1FAA9.1FAAC 1FAB7.1FABA 1FAC3.1FAC5 1FAD7.1FAD9 1FAE0.1FAE7 1FAF0.1FAF6 2A6DE.2A6DF 2B735.2B738"⟩,
  ⟨["15.0", "v150"], "
    CF3 ECE 10EFD.10EFF 1123F.11241 11B00.11B09 11F00.11F10 11F12.11F3A 11F3E.11F59 1342F 13439.13455 1B132 1B155
    1D2C0.1D2D3 1DF25.1DF2A 1E030.1E06D 1E08F 1E4D0.1E4F9 1F6DC 1F774.1F776 1F77B.1F77F 1F7D9 1FA75.1FA77
    1FA87.1FA88 1FAAD.1FAAF 1FABB.1FABD 1FABF 1FACE.1FACF 1FADA.1FADB 1FAE8 1FAF7.1FAF8 2B739 31350.323AF"⟩,
  ⟨["15.1", "v151"], "2FFC.2FFF 31EF 2EBF0.2EE5D"⟩,
  ⟨["16.0", "v160"], "
    897 1B4E.1B4F 1B7F 1C89.1C8A 2427.2429 31E4.31E5 A7CB.A7CD A7DA.A7DC 105C0.105F3 10D40.10D65 10D69.10D85
    10D8E.10D8F 10EC2.10EC4 10EFC 11380.11389 1138B 1138E 11390.113B5 113B7.113C0 113C2 113C5 113C7.113CA
    113CC.113D5 113D7.113D8 113E1.113E2 116D0.116E3 11BC0.11BE1 11BF0.11BF9 11F5A 13460.143FA 16100.16139
    16D40.16D79 18CFF 1CC00.1CCF9 1CD00.1CEB3 1E5D0.1E5FA 1E5FF 1F8B2.1F8BB 1F8C0.1F8C1 1FA89 1FA8F 1FABE 1FAC6
    1FADC 1FADF 1FAE9 1FBCB.1FBEF"⟩]

end ImportHooks.Text
