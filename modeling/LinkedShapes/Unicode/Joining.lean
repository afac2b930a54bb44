import LinkedShapes.Unicode.CodePoints

/-!
# Letters that join

In scripts like Arabic, a letter takes another form where it joins the letters around it.
-/

namespace LinkedShapes.Unicode

/-- The letters that join the letters on both sides. -/
def dualJoining : CodePoints := .ofRows [
  0x000620_000621_000626_000627_000628_000629_00062A_00062F,
  0x000633_000640_000641_000648_000649_00064B_00066E_000670,
  0x000678_000688_00069A_0006C0_0006C1_0006C3_0006CC_0006CD,
  0x0006CE_0006CF_0006D0_0006D2_0006FA_0006FD_0006FF_000700,
  0x000712_000715_00071A_00071E_00071F_000728_000729_00072A,
  0x00072B_00072C_00072D_00072F_00074E_000759_00075C_00076B,
  0x00076D_000771_000772_000773_000775_000778_00077A_000780,
  0x0007CA_0007EB_000841_000846_000848_000849_00084A_000854,
  0x000855_000856_000860_000861_000862_000866_000868_000869,
  0x000886_000887_000889_00088E_00088F_000890_0008A0_0008AA,
  0x0008AF_0008B1_0008B3_0008B9_0008BA_0008C9_001807_001808,
  0x001820_001879_001887_0018A9_0018AA_0018AB_00A840_00A872,
  0x010AC0_010AC5_010AD3_010AD7_010AD8_010ADD_010ADE_010AE1,
  0x010AEB_010AEF_010B80_010B81_010B82_010B83_010B86_010B89,
  0x010B8A_010B8C_010B8D_010B8E_010B90_010B91_010BAD_010BAF,
  0x010D01_010D22_010D23_010D24_010EC3_010EC5_010EC6_010EC8,
  0x010F30_010F33_010F34_010F45_010F51_010F54_010F70_010F74,
  0x010F76_010F82_010FB0_010FB1_010FB2_010FB4_010FB8_010FB9,
  0x010FBB_010FBD_010FBE_010FC0_010FC1_010FC2_010FC4_010FC5,
  0x010FCA_010FCB_01E900_01E944_110000_110000_110000_110000]

/-- The letters that join the letter before them only. -/
def rightJoining : CodePoints := .ofRows [
  0x000622_000626_000627_000628_000629_00062A_00062F_000633,
  0x000648_000649_000671_000674_000675_000678_000688_00069A,
  0x0006C0_0006C1_0006C3_0006CC_0006CD_0006CE_0006CF_0006D0,
  0x0006D2_0006D4_0006D5_0006D6_0006EE_0006F0_000710_000711,
  0x000715_00071A_00071E_00071F_000728_000729_00072A_00072B,
  0x00072C_00072D_00072F_000730_00074D_00074E_000759_00075C,
  0x00076B_00076D_000771_000772_000773_000775_000778_00077A,
  0x000840_000841_000846_000848_000849_00084A_000854_000855,
  0x000856_000859_000867_000868_000869_00086B_000870_000883,
  0x00088E_00088F_0008AA_0008AD_0008AE_0008AF_0008B1_0008B3,
  0x0008B9_0008BA_010AC5_010AC6_010AC7_010AC8_010AC9_010ACB,
  0x010ACE_010AD3_010ADD_010ADE_010AE1_010AE2_010AE4_010AE5,
  0x010AEF_010AF0_010B81_010B82_010B83_010B86_010B89_010B8A,
  0x010B8C_010B8D_010B8E_010B90_010B91_010B92_010BA9_010BAD,
  0x010D22_010D23_010EC2_010EC3_010F33_010F34_010F54_010F55,
  0x010F74_010F76_010FB4_010FB7_010FB9_010FBB_010FBD_010FBE,
  0x010FC2_010FC4_010FC9_010FCA_110000_110000_110000_110000]

/-- The letters that join the letter behind them only. -/
def leftJoining : CodePoints := .ofRows [
  0x00A872_00A873_010ACD_010ACE_010AD7_010AD8_010D00_010D01,
  0x010FCB_010FCC_110000_110000_110000_110000_110000_110000]

/-- The code points that letters are joined across. -/
def transparent : CodePoints := .ofRows [
  0x0000AD_0000AE_000300_000370_000483_00048A_000591_0005BE,
  0x0005BF_0005C0_0005C1_0005C3_0005C4_0005C6_0005C7_0005C8,
  0x000610_00061B_00061C_00061D_00064B_000660_000670_000671,
  0x0006D6_0006DD_0006DF_0006E5_0006E7_0006E9_0006EA_0006EE,
  0x00070F_000710_000711_000712_000730_00074B_0007A6_0007B1,
  0x0007EB_0007F4_0007FD_0007FE_000816_00081A_00081B_000824,
  0x000825_000828_000829_00082E_000859_00085C_000897_0008A0,
  0x0008CA_0008E2_0008E3_000903_00093A_00093B_00093C_00093D,
  0x000941_000949_00094D_00094E_000951_000958_000962_000964,
  0x000981_000982_0009BC_0009BD_0009C1_0009C5_0009CD_0009CE,
  0x0009E2_0009E4_0009FE_0009FF_000A01_000A03_000A3C_000A3D,
  0x000A41_000A43_000A47_000A49_000A4B_000A4E_000A51_000A52,
  0x000A70_000A72_000A75_000A76_000A81_000A83_000ABC_000ABD,
  0x000AC1_000AC6_000AC7_000AC9_000ACD_000ACE_000AE2_000AE4,
  0x000AFA_000B00_000B01_000B02_000B3C_000B3D_000B3F_000B40,
  0x000B41_000B45_000B4D_000B4E_000B55_000B57_000B62_000B64,
  0x000B82_000B83_000BC0_000BC1_000BCD_000BCE_000C00_000C01,
  0x000C04_000C05_000C3C_000C3D_000C3E_000C41_000C46_000C49,
  0x000C4A_000C4E_000C55_000C57_000C62_000C64_000C81_000C82,
  0x000CBC_000CBD_000CBF_000CC0_000CC6_000CC7_000CCC_000CCE,
  0x000CE2_000CE4_000D00_000D02_000D3B_000D3D_000D41_000D45,
  0x000D4D_000D4E_000D62_000D64_000D81_000D82_000DCA_000DCB,
  0x000DD2_000DD5_000DD6_000DD7_000E31_000E32_000E34_000E3B,
  0x000E47_000E4F_000EB1_000EB2_000EB4_000EBD_000EC8_000ECF,
  0x000F18_000F1A_000F35_000F36_000F37_000F38_000F39_000F3A,
  0x000F71_000F7F_000F80_000F85_000F86_000F88_000F8D_000F98,
  0x000F99_000FBD_000FC6_000FC7_00102D_001031_001032_001038,
  0x001039_00103B_00103D_00103F_001058_00105A_00105E_001061,
  0x001071_001075_001082_001083_001085_001087_00108D_00108E,
  0x00109D_00109E_00135D_001360_001712_001715_001732_001734,
  0x001752_001754_001772_001774_0017B4_0017B6_0017B7_0017BE,
  0x0017C6_0017C7_0017C9_0017D4_0017DD_0017DE_00180B_00180E,
  0x00180F_001810_001885_001887_0018A9_0018AA_001920_001923,
  0x001927_001929_001932_001933_001939_00193C_001A17_001A19,
  0x001A1B_001A1C_001A56_001A57_001A58_001A5F_001A60_001A61,
  0x001A62_001A63_001A65_001A6D_001A73_001A7D_001A7F_001A80,
  0x001AB0_001ADE_001AE0_001AEC_001B00_001B04_001B34_001B35,
  0x001B36_001B3B_001B3C_001B3D_001B42_001B43_001B6B_001B74,
  0x001B80_001B82_001BA2_001BA6_001BA8_001BAA_001BAB_001BAE,
  0x001BE6_001BE7_001BE8_001BEA_001BED_001BEE_001BEF_001BF2,
  0x001C2C_001C34_001C36_001C38_001CD0_001CD3_001CD4_001CE1,
  0x001CE2_001CE9_001CED_001CEE_001CF4_001CF5_001CF8_001CFA,
  0x001DC0_001E00_00200B_00200C_00200E_002010_00202A_00202F,
  0x002060_002065_00206A_002070_0020D0_0020F1_002CEF_002CF2,
  0x002D7F_002D80_002DE0_002E00_00302A_00302E_003099_00309B,
  0x00A66F_00A673_00A674_00A67E_00A69E_00A6A0_00A6F0_00A6F2,
  0x00A802_00A803_00A806_00A807_00A80B_00A80C_00A825_00A827,
  0x00A82C_00A82D_00A8C4_00A8C6_00A8E0_00A8F2_00A8FF_00A900,
  0x00A926_00A92E_00A947_00A952_00A980_00A983_00A9B3_00A9B4,
  0x00A9B6_00A9BA_00A9BC_00A9BE_00A9E5_00A9E6_00AA29_00AA2F,
  0x00AA31_00AA33_00AA35_00AA37_00AA43_00AA44_00AA4C_00AA4D,
  0x00AA7C_00AA7D_00AAB0_00AAB1_00AAB2_00AAB5_00AAB7_00AAB9,
  0x00AABE_00AAC0_00AAC1_00AAC2_00AAEC_00AAEE_00AAF6_00AAF7,
  0x00ABE5_00ABE6_00ABE8_00ABE9_00ABED_00ABEE_00FB1E_00FB1F,
  0x00FE00_00FE10_00FE20_00FE30_00FEFF_00FF00_00FFF9_00FFFC,
  0x0101FD_0101FE_0102E0_0102E1_010376_01037B_010A01_010A04,
  0x010A05_010A07_010A0C_010A10_010A38_010A3B_010A3F_010A40,
  0x010AE5_010AE7_010D24_010D28_010D69_010D6E_010EAB_010EAD,
  0x010EFA_010F00_010F46_010F51_010F82_010F86_011001_011002,
  0x011038_011047_011070_011071_011073_011075_01107F_011082,
  0x0110B3_0110B7_0110B9_0110BB_0110C2_0110C3_011100_011103,
  0x011127_01112C_01112D_011135_011173_011174_011180_011182,
  0x0111B6_0111BF_0111C9_0111CD_0111CF_0111D0_01122F_011232,
  0x011234_011235_011236_011238_01123E_01123F_011241_011242,
  0x0112DF_0112E0_0112E3_0112EB_011300_011302_01133B_01133D,
  0x011340_011341_011366_01136D_011370_011375_0113BB_0113C1,
  0x0113CE_0113CF_0113D0_0113D1_0113D2_0113D3_0113E1_0113E3,
  0x011438_011440_011442_011445_011446_011447_01145E_01145F,
  0x0114B3_0114B9_0114BA_0114BB_0114BF_0114C1_0114C2_0114C4,
  0x0115B2_0115B6_0115BC_0115BE_0115BF_0115C1_0115DC_0115DE,
  0x011633_01163B_01163D_01163E_01163F_011641_0116AB_0116AC,
  0x0116AD_0116AE_0116B0_0116B6_0116B7_0116B8_01171D_011720,
  0x011722_011726_011727_01172C_01182F_011838_011839_01183B,
  0x01193B_01193D_01193E_01193F_011943_011944_0119D4_0119D8,
  0x0119DA_0119DC_0119E0_0119E1_011A01_011A0B_011A33_011A39,
  0x011A3B_011A3F_011A47_011A48_011A51_011A57_011A59_011A5C,
  0x011A8A_011A97_011A98_011A9A_011B60_011B61_011B62_011B65,
  0x011B66_011B67_011C30_011C37_011C38_011C3E_011C3F_011C40,
  0x011C92_011CA8_011CAA_011CB1_011CB2_011CB4_011CB5_011CB7,
  0x011D31_011D37_011D3A_011D3B_011D3C_011D3E_011D3F_011D46,
  0x011D47_011D48_011D90_011D92_011D95_011D96_011D97_011D98,
  0x011EF3_011EF5_011F00_011F02_011F36_011F3B_011F40_011F41,
  0x011F42_011F43_011F5A_011F5B_013430_013441_013447_013456,
  0x01611E_01612A_01612D_016130_016AF0_016AF5_016B30_016B37,
  0x016F4F_016F50_016F8F_016F93_016FE4_016FE5_01BC9D_01BC9F,
  0x01BCA0_01BCA4_01CF00_01CF2E_01CF30_01CF47_01D167_01D16A,
  0x01D173_01D183_01D185_01D18C_01D1AA_01D1AE_01D242_01D245,
  0x01DA00_01DA37_01DA3B_01DA6D_01DA75_01DA76_01DA84_01DA85,
  0x01DA9B_01DAA0_01DAA1_01DAB0_01E000_01E007_01E008_01E019,
  0x01E01B_01E022_01E023_01E025_01E026_01E02B_01E08F_01E090,
  0x01E130_01E137_01E2AE_01E2AF_01E2EC_01E2F0_01E4EC_01E4F0,
  0x01E5EE_01E5F0_01E6E3_01E6E4_01E6E6_01E6E7_01E6EE_01E6F0,
  0x01E6F5_01E6F6_01E8D0_01E8D7_01E944_01E94C_0E0001_0E0002,
  0x0E0020_0E0080_0E0100_0E01F0_110000_110000_110000_110000]

end LinkedShapes.Unicode
