import ImportHooks.Text.Table

namespace ImportHooks.Text

-- Mn, Mc and Me of Unicode 17; the runs may hold unassigned characters.
def marks : Table := .ofText "
  300.36F 483.489 591.5BD 5BF 5C1.5C2 5C4.5C5 5C7 610.61A 64B.65F 670 6D6.6DC 6DF.6E4 6E7.6E8 6EA.6ED 711 730.74A
  7A6.7B0 7EB.7F3 7FD 816.819 81B.823 825.827 829.82D 859.85B 897.89F 8CA.903 93A.93C 93E.94F 951.957 962.963
  981.983 9BC 9BE.9CD 9D7 9E2.9E3 9FE.A03 A3C.A51 A70.A71 A75 A81.A83 ABC ABE.ACD AE2.AE3 AFA.B03 B3C B3E.B57
  B62.B63 B82 BBE.BCD BD7 C00.C04 C3C C3E.C56 C62.C63 C81.C83 CBC CBE.CD6 CE2.CE3 CF3.D03 D3B.D3C D3E.D4D D57
  D62.D63 D81.D83 DCA.DDF DF2.DF3 E31 E34.E3A E47.E4E EB1 EB4.EBC EC8.ECE F18.F19 F35 F37 F39 F3E.F3F F71.F84
  F86.F87 F8D.FBC FC6 102B.103E 1056.1059 105E.1060 1062.1064 1067.106D 1071.1074 1082.108D 108F 109A.109D
  135D.135F 1712.1715 1732.1734 1752.1753 1772.1773 17B6.17D3 17DD 1885.1886 18A9 1920.193B 1A17.1A1B 1A55.1A7F
  1AB0.1B04 1B34.1B44 1B6B.1B73 1B80.1B82 1BA1.1BAD 1BE6.1BF3 1C24.1C37 1CD0.1CD2 1CD4.1CE8 1CED 1CF4 1CF7.1CF9
  1DC0.1DFF 20D0.20F0 2CEF.2CF1 2D7F 2DE0.2DFF 302A.302F 3099.309A A66F.A672 A674.A67D A69E.A69F A6F0.A6F1 A802
  A806 A80B A823.A827 A82C A880.A881 A8B4.A8C5 A8E0.A8F1 A8FF A926.A92D A947.A953 A980.A983 A9B3.A9C0 A9E5
  AA29.AA36 AA43 AA4C.AA4D AA7B.AA7D AAB0 AAB2.AAB4 AAB7.AAB8 AABE.AABF AAC1 AAEB.AAEF AAF5.AAF6 ABE3.ABEA
  ABEC.ABED FB1E FE20.FE2F 101FD 102E0 10376.1037A 10A01.10A0F 10A38.10A3F 10AE5.10AE6 10D24.10D27 10D69.10D6D
  10EAB.10EAC 10EFA.10EFF 10F46.10F50 10F82.10F85 11000.11002 11038.11046 11070 11073.11074 1107F.11082
  110B0.110BA 110C2 11100.11102 11127.11134 11145.11146 11173 11180.11182 111B3.111C0 111C9.111CC 111CE.111CF
  1122C.11237 1123E 11241 112DF.112EA 11300.11303 1133B.1133C 1133E.1134D 11357 11362.11374 113B8.113D0 113D2
  113E1.113E2 11435.11446 1145E 114B0.114C3 115AF.115C0 115DC.115DD 11630.11640 116AB.116B7 1171D.1172B
  1182C.1183A 11930.1193E 11940 11942.11943 119D1.119E0 119E4 11A01.11A0A 11A33.11A39 11A3B.11A3E 11A47
  11A51.11A5B 11A8A.11A99 11B60.11B67 11C2F.11C3F 11C92.11CB6 11D31.11D45 11D47 11D8A.11D97 11EF3.11EF6
  11F00.11F01 11F03 11F34.11F42 11F5A 13440 13447.13455 1611E.1612F 16AF0.16AF4 16B30.16B36 16F4F 16F51.16F92
  16FE4.16FF1 1BC9D.1BC9E 1CF00.1CF46 1D165.1D169 1D16D.1D182 1D185.1D18B 1D1AA.1D1AD 1D242.1D244 1DA00.1DA36
  1DA3B.1DA6C 1DA75 1DA84 1DA9B.1DAAF 1E000.1E08F 1E130.1E136 1E2AE 1E2EC.1E2EF 1E4EC.1E4EF 1E5EE.1E5EF 1E6E3
  1E6E6 1E6EE.1E6EF 1E6F5 1E8D0.1E8D6 1E944.1E94A"

def isMark (c : Char) : Bool := marks.covers c.toNat

end ImportHooks.Text
