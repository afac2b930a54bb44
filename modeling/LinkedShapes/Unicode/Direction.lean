import LinkedShapes.Unicode.CodePoints

/-!
# Directions of writing

The classes of characters that decide in which direction a text runs, as far as domain names tell
them apart. What is in none of the sets runs from left to right.
-/

namespace LinkedShapes.Unicode

/-- The code points of scripts that are written from right to left. -/
def writtenRightToLeft : CodePoints := .ofRows [
  0x000590_000591_0005BE_0005BF_0005C0_0005C1_0005C3_0005C4,
  0x0005C6_0005C7_0005C8_000600_000608_000609_00060B_00060C,
  0x00060D_00060E_00061B_00064B_00066D_000670_000671_0006D6,
  0x0006E5_0006E7_0006EE_0006F0_0006FA_000711_000712_000730,
  0x00074B_0007A6_0007B1_0007EB_0007F4_0007F6_0007FA_0007FD,
  0x0007FE_000816_00081A_00081B_000824_000825_000828_000829,
  0x00082E_000859_00085C_000890_000892_000897_0008A0_0008CA,
  0x00200F_002010_00FB1D_00FB1E_00FB1F_00FB29_00FB2A_00FBC3,
  0x00FBD3_00FD3E_00FD50_00FD90_00FD92_00FDC8_00FDF0_00FDFD,
  0x00FE70_00FEFF_010800_01091F_010920_010A01_010A04_010A05,
  0x010A07_010A0C_010A10_010A38_010A3B_010A3F_010A40_010AE5,
  0x010AE7_010B39_010B40_010D24_010D28_010D30_010D3A_010D40,
  0x010D4A_010D69_010D6F_010E60_010E7F_010EAB_010EAD_010ED0,
  0x010ED9_010EFA_010F00_010F46_010F51_010F82_010F86_011000,
  0x01E800_01E8D0_01E8D7_01E944_01E94B_01EEF0_01EEF2_01F000]

/-- Digits as they are written in European scripts. -/
def europeanDigit : CodePoints := .ofRows [
  0x000030_00003A_0000B2_0000B4_0000B9_0000BA_0006F0_0006FA,
  0x002070_002071_002074_00207A_002080_00208A_002488_00249C,
  0x00FF10_00FF1A_0102E1_0102FC_01CCF0_01CCFA_01D7CE_01D800,
  0x01F100_01F10B_01FBF0_01FBFA_110000_110000_110000_110000]

/-- Digits as they are written in Arabic scripts. -/
def arabicDigit : CodePoints := .ofRows [
  0x000600_000606_000660_00066A_00066B_00066D_0006DD_0006DE,
  0x000890_000892_0008E2_0008E3_010D30_010D3A_010D40_010D4A,
  0x010E60_010E7F_110000_110000_110000_110000_110000_110000]

/-- The marks that take the direction of what they stand on. -/
def directionless : CodePoints := .ofRows [
  0x000300_000370_000483_00048A_000591_0005BE_0005BF_0005C0,
  0x0005C1_0005C3_0005C4_0005C6_0005C7_0005C8_000610_00061B,
  0x00064B_000660_000670_000671_0006D6_0006DD_0006DF_0006E5,
  0x0006E7_0006E9_0006EA_0006EE_000711_000712_000730_00074B,
  0x0007A6_0007B1_0007EB_0007F4_0007FD_0007FE_000816_00081A,
  0x00081B_000824_000825_000828_000829_00082E_000859_00085C,
  0x000897_0008A0_0008CA_0008E2_0008E3_000903_00093A_00093B,
  0x00093C_00093D_000941_000949_00094D_00094E_000951_000958,
  0x000962_000964_000981_000982_0009BC_0009BD_0009C1_0009C5,
  0x0009CD_0009CE_0009E2_0009E4_0009FE_0009FF_000A01_000A03,
  0x000A3C_000A3D_000A41_000A43_000A47_000A49_000A4B_000A4E,
  0x000A51_000A52_000A70_000A72_000A75_000A76_000A81_000A83,
  0x000ABC_000ABD_000AC1_000AC6_000AC7_000AC9_000ACD_000ACE,
  0x000AE2_000AE4_000AFA_000B00_000B01_000B02_000B3C_000B3D,
  0x000B3F_000B40_000B41_000B45_000B4D_000B4E_000B55_000B57,
  0x000B62_000B64_000B82_000B83_000BC0_000BC1_000BCD_000BCE,
  0x000C00_000C01_000C04_000C05_000C3C_000C3D_000C3E_000C41,
  0x000C46_000C49_000C4A_000C4E_000C55_000C57_000C62_000C64,
  0x000C81_000C82_000CBC_000CBD_000CCC_000CCE_000CE2_000CE4,
  0x000D00_000D02_000D3B_000D3D_000D41_000D45_000D4D_000D4E,
  0x000D62_000D64_000D81_000D82_000DCA_000DCB_000DD2_000DD5,
  0x000DD6_000DD7_000E31_000E32_000E34_000E3B_000E47_000E4F,
  0x000EB1_000EB2_000EB4_000EBD_000EC8_000ECF_000F18_000F1A,
  0x000F35_000F36_000F37_000F38_000F39_000F3A_000F71_000F7F,
  0x000F80_000F85_000F86_000F88_000F8D_000F98_000F99_000FBD,
  0x000FC6_000FC7_00102D_001031_001032_001038_001039_00103B,
  0x00103D_00103F_001058_00105A_00105E_001061_001071_001075,
  0x001082_001083_001085_001087_00108D_00108E_00109D_00109E,
  0x00135D_001360_001712_001715_001732_001734_001752_001754,
  0x001772_001774_0017B4_0017B6_0017B7_0017BE_0017C6_0017C7,
  0x0017C9_0017D4_0017DD_0017DE_00180B_00180E_00180F_001810,
  0x001885_001887_0018A9_0018AA_001920_001923_001927_001929,
  0x001932_001933_001939_00193C_001A17_001A19_001A1B_001A1C,
  0x001A56_001A57_001A58_001A5F_001A60_001A61_001A62_001A63,
  0x001A65_001A6D_001A73_001A7D_001A7F_001A80_001AB0_001ADE,
  0x001AE0_001AEC_001B00_001B04_001B34_001B35_001B36_001B3B,
  0x001B3C_001B3D_001B42_001B43_001B6B_001B74_001B80_001B82,
  0x001BA2_001BA6_001BA8_001BAA_001BAB_001BAE_001BE6_001BE7,
  0x001BE8_001BEA_001BED_001BEE_001BEF_001BF2_001C2C_001C34,
  0x001C36_001C38_001CD0_001CD3_001CD4_001CE1_001CE2_001CE9,
  0x001CED_001CEE_001CF4_001CF5_001CF8_001CFA_001DC0_001E00,
  0x0020D0_0020F1_002CEF_002CF2_002D7F_002D80_002DE0_002E00,
  0x00302A_00302E_003099_00309B_00A66F_00A673_00A674_00A67E,
  0x00A69E_00A6A0_00A6F0_00A6F2_00A802_00A803_00A806_00A807,
  0x00A80B_00A80C_00A825_00A827_00A82C_00A82D_00A8C4_00A8C6,
  0x00A8E0_00A8F2_00A8FF_00A900_00A926_00A92E_00A947_00A952,
  0x00A980_00A983_00A9B3_00A9B4_00A9B6_00A9BA_00A9BC_00A9BE,
  0x00A9E5_00A9E6_00AA29_00AA2F_00AA31_00AA33_00AA35_00AA37,
  0x00AA43_00AA44_00AA4C_00AA4D_00AA7C_00AA7D_00AAB0_00AAB1,
  0x00AAB2_00AAB5_00AAB7_00AAB9_00AABE_00AAC0_00AAC1_00AAC2,
  0x00AAEC_00AAEE_00AAF6_00AAF7_00ABE5_00ABE6_00ABE8_00ABE9,
  0x00ABED_00ABEE_00FB1E_00FB1F_00FE00_00FE10_00FE20_00FE30,
  0x0101FD_0101FE_0102E0_0102E1_010376_01037B_010A01_010A04,
  0x010A05_010A07_010A0C_010A10_010A38_010A3B_010A3F_010A40,
  0x010AE5_010AE7_010D24_010D28_010D69_010D6E_010EAB_010EAD,
  0x010EFA_010F00_010F46_010F51_010F82_010F86_011001_011002,
  0x011038_011047_011070_011071_011073_011075_01107F_011082,
  0x0110B3_0110B7_0110B9_0110BB_0110C2_0110C3_011100_011103,
  0x011127_01112C_01112D_011135_011173_011174_011180_011182,
  0x0111B6_0111BF_0111C9_0111CD_0111CF_0111D0_01122F_011232,
  0x011234_011235_011236_011238_01123E_01123F_011241_011242,
  0x0112DF_0112E0_0112E3_0112EB_011300_011302_01133B_01133D,
  0x011340_011341_011366_01136D_011370_011375_0113BB_0113C1,
  0x0113CE_0113CF_0113D0_0113D1_0113D2_0113D3_0113E1_0113E3,
  0x011438_011440_011442_011445_011446_011447_01145E_01145F,
  0x0114B3_0114B9_0114BA_0114BB_0114BF_0114C1_0114C2_0114C4,
  0x0115B2_0115B6_0115BC_0115BE_0115BF_0115C1_0115DC_0115DE,
  0x011633_01163B_01163D_01163E_01163F_011641_0116AB_0116AC,
  0x0116AD_0116AE_0116B0_0116B6_0116B7_0116B8_01171D_011720,
  0x011722_011726_011727_01172C_01182F_011838_011839_01183B,
  0x01193B_01193D_01193E_01193F_011943_011944_0119D4_0119D8,
  0x0119DA_0119DC_0119E0_0119E1_011A01_011A07_011A09_011A0B,
  0x011A33_011A39_011A3B_011A3F_011A47_011A48_011A51_011A57,
  0x011A59_011A5C_011A8A_011A97_011A98_011A9A_011B60_011B61,
  0x011B62_011B65_011B66_011B67_011C30_011C37_011C38_011C3E,
  0x011C92_011CA8_011CAA_011CB1_011CB2_011CB4_011CB5_011CB7,
  0x011D31_011D37_011D3A_011D3B_011D3C_011D3E_011D3F_011D46,
  0x011D47_011D48_011D90_011D92_011D95_011D96_011D97_011D98,
  0x011EF3_011EF5_011F00_011F02_011F36_011F3B_011F40_011F41,
  0x011F42_011F43_011F5A_011F5B_013440_013441_013447_013456,
  0x01611E_01612A_01612D_016130_016AF0_016AF5_016B30_016B37,
  0x016F4F_016F50_016F8F_016F93_016FE4_016FE5_01BC9D_01BC9F,
  0x01CF00_01CF2E_01CF30_01CF47_01D167_01D16A_01D17B_01D183,
  0x01D185_01D18C_01D1AA_01D1AE_01D242_01D245_01DA00_01DA37,
  0x01DA3B_01DA6D_01DA75_01DA76_01DA84_01DA85_01DA9B_01DAA0,
  0x01DAA1_01DAB0_01E000_01E007_01E008_01E019_01E01B_01E022,
  0x01E023_01E025_01E026_01E02B_01E08F_01E090_01E130_01E137,
  0x01E2AE_01E2AF_01E2EC_01E2F0_01E4EC_01E4F0_01E5EE_01E5F0,
  0x01E6E3_01E6E4_01E6E6_01E6E7_01E6EE_01E6F0_01E6F5_01E6F6,
  0x01E8D0_01E8D7_01E944_01E94B_0E0100_0E01F0_110000_110000]

/-- The code points without a direction that may stand within words. -/
def withoutDirection : CodePoints := .ofRows [
  0x000000_000009_00000E_00001C_000021_000030_00003A_000041,
  0x00005B_000061_00007B_000085_000086_0000AA_0000AB_0000B2,
  0x0000B4_0000B5_0000B6_0000B9_0000BB_0000C0_0000D7_0000D8,
  0x0000F7_0000F8_0002B9_0002BB_0002C2_0002D0_0002D2_0002E0,
  0x0002E5_0002EE_0002EF_000300_000374_000376_00037E_00037F,
  0x000384_000386_000387_000388_0003F6_0003F7_00058A_00058B,
  0x00058D_000590_000606_000608_000609_00060B_00060C_00060D,
  0x00060E_000610_00066A_00066B_0006DE_0006DF_0006E9_0006EA,
  0x0007F6_0007FA_0009F2_0009F4_0009FB_0009FC_000AF1_000AF2,
  0x000BF3_000BFB_000C78_000C7F_000E3F_000E40_000F3A_000F3E,
  0x001390_00139A_001400_001401_00169B_00169D_0017DB_0017DC,
  0x0017F0_0017FA_001800_00180B_00180E_00180F_001940_001941,
  0x001944_001946_0019DE_001A00_001FBD_001FBE_001FBF_001FC2,
  0x001FCD_001FD0_001FDD_001FE0_001FED_001FF0_001FFD_001FFF,
  0x00200B_00200E_002010_002028_00202F_00205F_002060_002066,
  0x00206A_002070_00207A_00207F_00208A_00208F_0020A0_0020D0,
  0x002100_002102_002103_002107_002108_00210A_002114_002115,
  0x002116_002119_00211E_002124_002125_002126_002127_002128,
  0x002129_00212A_00212E_00212F_00213A_00213C_002140_002145,
  0x00214A_00214E_002150_002160_002189_00218C_002190_002336,
  0x00237B_002395_002396_00242A_002440_00244B_002460_002488,
  0x0024EA_0026AC_0026AD_002800_002900_002B74_002B76_002C00,
  0x002CE5_002CEB_002CF9_002D00_002E00_002E5E_002E80_002E9A,
  0x002E9B_002EF4_002F00_002FD6_002FF0_003000_003001_003005,
  0x003008_003021_003030_003031_003036_003038_00303D_003040,
  0x00309B_00309D_0030A0_0030A1_0030FB_0030FC_0031C0_0031E6,
  0x0031EF_0031F0_00321D_00321F_003250_003260_00327C_00327F,
  0x0032B1_0032C0_0032CC_0032D0_003377_00337B_0033DE_0033E0,
  0x0033FF_003400_004DC0_004E00_00A490_00A4C7_00A60D_00A610,
  0x00A673_00A674_00A67E_00A680_00A700_00A722_00A788_00A789,
  0x00A828_00A82C_00A838_00A83A_00A874_00A878_00AB6A_00AB6C,
  0x00FB29_00FB2A_00FBC3_00FBD3_00FD3E_00FD50_00FD90_00FD92,
  0x00FDC8_00FDF0_00FDFD_00FE00_00FE10_00FE1A_00FE30_00FE53,
  0x00FE54_00FE67_00FE68_00FE6C_00FEFF_00FF00_00FF01_00FF10,
  0x00FF1A_00FF21_00FF3B_00FF41_00FF5B_00FF66_00FFE0_00FFE7,
  0x00FFE8_00FFEF_00FFF0_010000_010101_010102_010140_01018D,
  0x010190_01019D_0101A0_0101A1_01091F_010920_010B39_010B40,
  0x010D6E_010D6F_010ED0_010ED9_011052_011066_011660_01166D,
  0x011FD5_011FF2_016FE2_016FE3_01BCA0_01BCA4_01CC00_01CCF0,
  0x01CCFA_01CCFD_01CD00_01CEB4_01CEBA_01CED1_01CEE0_01CEF1,
  0x01D173_01D17B_01D1E9_01D1EB_01D200_01D242_01D245_01D246,
  0x01D300_01D357_01D6DB_01D6DC_01D715_01D716_01D74F_01D750,
  0x01D789_01D78A_01D7C3_01D7C4_01E2FF_01E300_01EEF0_01EEF2,
  0x01F000_01F02C_01F030_01F094_01F0A0_01F0AF_01F0B1_01F0C0,
  0x01F0C1_01F0D0_01F0D1_01F0F6_01F10B_01F110_01F12F_01F130,
  0x01F16A_01F170_01F1AD_01F1AE_01F260_01F266_01F300_01F6D9,
  0x01F6DC_01F6ED_01F6F0_01F6FD_01F700_01F7DA_01F7E0_01F7EC,
  0x01F7F0_01F7F1_01F800_01F80C_01F810_01F848_01F850_01F85A,
  0x01F860_01F888_01F890_01F8AE_01F8B0_01F8BC_01F8C0_01F8C2,
  0x01F8D0_01F8D9_01F900_01FA58_01FA60_01FA6E_01FA70_01FA7D,
  0x01FA80_01FA8B_01FA8E_01FAC7_01FAC8_01FAC9_01FACD_01FADD,
  0x01FADF_01FAEB_01FAEF_01FAF9_01FB00_01FB93_01FB94_01FBF0,
  0x01FBFA_01FBFB_01FFFE_020000_02FFFE_030000_03FFFE_040000,
  0x04FFFE_050000_05FFFE_060000_06FFFE_070000_07FFFE_080000,
  0x08FFFE_090000_09FFFE_0A0000_0AFFFE_0B0000_0BFFFE_0C0000,
  0x0CFFFE_0D0000_0DFFFE_0E0100_0E01F0_0E1000_0EFFFE_0F0000,
  0x0FFFFE_100000_10FFFE_110000_110000_110000_110000_110000]

/-- The code points that part texts, or tell their direction. -/
def directionMark : CodePoints := .ofRows [
  0x000009_00000E_00001C_000021_000085_000086_001680_001681,
  0x002000_00200B_002028_00202F_00205F_002060_002066_00206A,
  0x003000_003001_110000_110000_110000_110000_110000_110000]

/-- The directions of characters. -/
inductive Direction where
  | leftToRight
  | rightToLeft
  /-- Digits as they are written in European scripts. -/
  | european
  /-- Digits as they are written in Arabic scripts. -/
  | arabic
  /-- Marks, which take the direction of what they stand on. -/
  | mark
  | neutral
  /-- Characters that part texts, or tell their direction. -/
  | separator
deriving DecidableEq, Repr

/-- The direction of a character. -/
def Direction.of (c : Char) : Direction :=
  if writtenRightToLeft.contains c then .rightToLeft
  else if europeanDigit.contains c then .european
  else if arabicDigit.contains c then .arabic
  else if directionless.contains c then .mark
  else if withoutDirection.contains c then .neutral
  else if directionMark.contains c then .separator
  else .leftToRight

end LinkedShapes.Unicode
