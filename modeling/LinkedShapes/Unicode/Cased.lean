import LinkedShapes.Unicode.CodePoints

/-!
# Cased and case-ignorable characters

The two properties that decide whether a capital sigma stands at the end of a word.
-/

namespace LinkedShapes.Unicode

/-- The code points with the property Cased. -/
def cased : CodePoints := .ofRows [
  0x000041_00005B_000061_00007B_0000AA_0000AB_0000B5_0000B6,
  0x0000BA_0000BB_0000C0_0000D7_0000D8_0000F7_0000F8_0001BB,
  0x0001BC_0001C0_0001C4_000294_000296_0002B9_0002C0_0002C2,
  0x0002E0_0002E5_000345_000346_000370_000374_000376_000378,
  0x00037A_00037E_00037F_000380_000386_000387_000388_00038B,
  0x00038C_00038D_00038E_0003A2_0003A3_0003F6_0003F7_000482,
  0x00048A_000530_000531_000557_000560_000589_0010A0_0010C6,
  0x0010C7_0010C8_0010CD_0010CE_0010D0_0010FB_0010FC_001100,
  0x0013A0_0013F6_0013F8_0013FE_001C80_001C8B_001C90_001CBB,
  0x001CBD_001CC0_001D00_001DC0_001E00_001F16_001F18_001F1E,
  0x001F20_001F46_001F48_001F4E_001F50_001F58_001F59_001F5A,
  0x001F5B_001F5C_001F5D_001F5E_001F5F_001F7E_001F80_001FB5,
  0x001FB6_001FBD_001FBE_001FBF_001FC2_001FC5_001FC6_001FCD,
  0x001FD0_001FD4_001FD6_001FDC_001FE0_001FED_001FF2_001FF5,
  0x001FF6_001FFD_002071_002072_00207F_002080_002090_00209D,
  0x002102_002103_002107_002108_00210A_002114_002115_002116,
  0x002119_00211E_002124_002125_002126_002127_002128_002129,
  0x00212A_00212E_00212F_002135_002139_00213A_00213C_002140,
  0x002145_00214A_00214E_00214F_002160_002180_002183_002185,
  0x0024B6_0024EA_002C00_002CE5_002CEB_002CEF_002CF2_002CF4,
  0x002D00_002D26_002D27_002D28_002D2D_002D2E_00A640_00A66E,
  0x00A680_00A69E_00A722_00A788_00A78B_00A78F_00A790_00A7DD,
  0x00A7F1_00A7F7_00A7F8_00A7FB_00AB30_00AB5B_00AB5C_00AB6A,
  0x00AB70_00ABC0_00FB00_00FB07_00FB13_00FB18_00FF21_00FF3B,
  0x00FF41_00FF5B_010400_010450_0104B0_0104D4_0104D8_0104FC,
  0x010570_01057B_01057C_01058B_01058C_010593_010594_010596,
  0x010597_0105A2_0105A3_0105B2_0105B3_0105BA_0105BB_0105BD,
  0x010780_010781_010783_010786_010787_0107B1_0107B2_0107BB,
  0x010C80_010CB3_010CC0_010CF3_010D50_010D66_010D70_010D86,
  0x0118A0_0118E0_016E40_016E80_016EA0_016EB9_016EBB_016ED4,
  0x01D400_01D455_01D456_01D49D_01D49E_01D4A0_01D4A2_01D4A3,
  0x01D4A5_01D4A7_01D4A9_01D4AD_01D4AE_01D4BA_01D4BB_01D4BC,
  0x01D4BD_01D4C4_01D4C5_01D506_01D507_01D50B_01D50D_01D515,
  0x01D516_01D51D_01D51E_01D53A_01D53B_01D53F_01D540_01D545,
  0x01D546_01D547_01D54A_01D551_01D552_01D6A6_01D6A8_01D6C1,
  0x01D6C2_01D6DB_01D6DC_01D6FB_01D6FC_01D715_01D716_01D735,
  0x01D736_01D74F_01D750_01D76F_01D770_01D789_01D78A_01D7A9,
  0x01D7AA_01D7C3_01D7C4_01D7CC_01DF00_01DF0A_01DF0B_01DF1F,
  0x01DF25_01DF2B_01E030_01E06E_01E900_01E944_01F130_01F14A,
  0x01F150_01F16A_01F170_01F18A_110000_110000_110000_110000]

/-- The code points with the property Case_Ignorable. -/
def caseIgnorable : CodePoints := .ofRows [
  0x000027_000028_00002E_00002F_00003A_00003B_00005E_00005F,
  0x000060_000061_0000A8_0000A9_0000AD_0000AE_0000AF_0000B0,
  0x0000B4_0000B5_0000B7_0000B9_0002B0_000370_000374_000376,
  0x00037A_00037B_000384_000386_000387_000388_000483_00048A,
  0x000559_00055A_00055F_000560_000591_0005BE_0005BF_0005C0,
  0x0005C1_0005C3_0005C4_0005C6_0005C7_0005C8_0005F4_0005F5,
  0x000600_000606_000610_00061B_00061C_00061D_000640_000641,
  0x00064B_000660_000670_000671_0006D6_0006DE_0006DF_0006E9,
  0x0006EA_0006EE_00070F_000710_000711_000712_000730_00074B,
  0x0007A6_0007B1_0007EB_0007F6_0007FA_0007FB_0007FD_0007FE,
  0x000816_00082E_000859_00085C_000888_000889_000890_000892,
  0x000897_0008A0_0008C9_000903_00093A_00093B_00093C_00093D,
  0x000941_000949_00094D_00094E_000951_000958_000962_000964,
  0x000971_000972_000981_000982_0009BC_0009BD_0009C1_0009C5,
  0x0009CD_0009CE_0009E2_0009E4_0009FE_0009FF_000A01_000A03,
  0x000A3C_000A3D_000A41_000A43_000A47_000A49_000A4B_000A4E,
  0x000A51_000A52_000A70_000A72_000A75_000A76_000A81_000A83,
  0x000ABC_000ABD_000AC1_000AC6_000AC7_000AC9_000ACD_000ACE,
  0x000AE2_000AE4_000AFA_000B00_000B01_000B02_000B3C_000B3D,
  0x000B3F_000B40_000B41_000B45_000B4D_000B4E_000B55_000B57,
  0x000B62_000B64_000B82_000B83_000BC0_000BC1_000BCD_000BCE,
  0x000C00_000C01_000C04_000C05_000C3C_000C3D_000C3E_000C41,
  0x000C46_000C49_000C4A_000C4E_000C55_000C57_000C62_000C64,
  0x000C81_000C82_000CBC_000CBD_000CBF_000CC0_000CC6_000CC7,
  0x000CCC_000CCE_000CE2_000CE4_000D00_000D02_000D3B_000D3D,
  0x000D41_000D45_000D4D_000D4E_000D62_000D64_000D81_000D82,
  0x000DCA_000DCB_000DD2_000DD5_000DD6_000DD7_000E31_000E32,
  0x000E34_000E3B_000E46_000E4F_000EB1_000EB2_000EB4_000EBD,
  0x000EC6_000EC7_000EC8_000ECF_000F18_000F1A_000F35_000F36,
  0x000F37_000F38_000F39_000F3A_000F71_000F7F_000F80_000F85,
  0x000F86_000F88_000F8D_000F98_000F99_000FBD_000FC6_000FC7,
  0x00102D_001031_001032_001038_001039_00103B_00103D_00103F,
  0x001058_00105A_00105E_001061_001071_001075_001082_001083,
  0x001085_001087_00108D_00108E_00109D_00109E_0010FC_0010FD,
  0x00135D_001360_001712_001715_001732_001734_001752_001754,
  0x001772_001774_0017B4_0017B6_0017B7_0017BE_0017C6_0017C7,
  0x0017C9_0017D4_0017D7_0017D8_0017DD_0017DE_00180B_001810,
  0x001843_001844_001885_001887_0018A9_0018AA_001920_001923,
  0x001927_001929_001932_001933_001939_00193C_001A17_001A19,
  0x001A1B_001A1C_001A56_001A57_001A58_001A5F_001A60_001A61,
  0x001A62_001A63_001A65_001A6D_001A73_001A7D_001A7F_001A80,
  0x001AA7_001AA8_001AB0_001ADE_001AE0_001AEC_001B00_001B04,
  0x001B34_001B35_001B36_001B3B_001B3C_001B3D_001B42_001B43,
  0x001B6B_001B74_001B80_001B82_001BA2_001BA6_001BA8_001BAA,
  0x001BAB_001BAE_001BE6_001BE7_001BE8_001BEA_001BED_001BEE,
  0x001BEF_001BF2_001C2C_001C34_001C36_001C38_001C78_001C7E,
  0x001CD0_001CD3_001CD4_001CE1_001CE2_001CE9_001CED_001CEE,
  0x001CF4_001CF5_001CF8_001CFA_001D2C_001D6B_001D78_001D79,
  0x001D9B_001E00_001FBD_001FBE_001FBF_001FC2_001FCD_001FD0,
  0x001FDD_001FE0_001FED_001FF0_001FFD_001FFF_00200B_002010,
  0x002018_00201A_002024_002025_002027_002028_00202A_00202F,
  0x002060_002065_002066_002070_002071_002072_00207F_002080,
  0x002090_00209D_0020D0_0020F1_002C7C_002C7E_002CEF_002CF2,
  0x002D6F_002D70_002D7F_002D80_002DE0_002E00_002E2F_002E30,
  0x003005_003006_00302A_00302E_003031_003036_00303B_00303C,
  0x003099_00309F_0030FC_0030FF_00A015_00A016_00A4F8_00A4FE,
  0x00A60C_00A60D_00A66F_00A673_00A674_00A67E_00A67F_00A680,
  0x00A69C_00A6A0_00A6F0_00A6F2_00A700_00A722_00A770_00A771,
  0x00A788_00A78B_00A7F1_00A7F5_00A7F8_00A7FA_00A802_00A803,
  0x00A806_00A807_00A80B_00A80C_00A825_00A827_00A82C_00A82D,
  0x00A8C4_00A8C6_00A8E0_00A8F2_00A8FF_00A900_00A926_00A92E,
  0x00A947_00A952_00A980_00A983_00A9B3_00A9B4_00A9B6_00A9BA,
  0x00A9BC_00A9BE_00A9CF_00A9D0_00A9E5_00A9E7_00AA29_00AA2F,
  0x00AA31_00AA33_00AA35_00AA37_00AA43_00AA44_00AA4C_00AA4D,
  0x00AA70_00AA71_00AA7C_00AA7D_00AAB0_00AAB1_00AAB2_00AAB5,
  0x00AAB7_00AAB9_00AABE_00AAC0_00AAC1_00AAC2_00AADD_00AADE,
  0x00AAEC_00AAEE_00AAF3_00AAF5_00AAF6_00AAF7_00AB5B_00AB60,
  0x00AB69_00AB6C_00ABE5_00ABE6_00ABE8_00ABE9_00ABED_00ABEE,
  0x00FB1E_00FB1F_00FBB2_00FBC3_00FE00_00FE10_00FE13_00FE14,
  0x00FE20_00FE30_00FE52_00FE53_00FE55_00FE56_00FEFF_00FF00,
  0x00FF07_00FF08_00FF0E_00FF0F_00FF1A_00FF1B_00FF3E_00FF3F,
  0x00FF40_00FF41_00FF70_00FF71_00FF9E_00FFA0_00FFE3_00FFE4,
  0x00FFF9_00FFFC_0101FD_0101FE_0102E0_0102E1_010376_01037B,
  0x010780_010786_010787_0107B1_0107B2_0107BB_010A01_010A04,
  0x010A05_010A07_010A0C_010A10_010A38_010A3B_010A3F_010A40,
  0x010AE5_010AE7_010D24_010D28_010D4E_010D4F_010D69_010D6E,
  0x010D6F_010D70_010EAB_010EAD_010EC5_010EC6_010EFA_010F00,
  0x010F46_010F51_010F82_010F86_011001_011002_011038_011047,
  0x011070_011071_011073_011075_01107F_011082_0110B3_0110B7,
  0x0110B9_0110BB_0110BD_0110BE_0110C2_0110C3_0110CD_0110CE,
  0x011100_011103_011127_01112C_01112D_011135_011173_011174,
  0x011180_011182_0111B6_0111BF_0111C9_0111CD_0111CF_0111D0,
  0x01122F_011232_011234_011235_011236_011238_01123E_01123F,
  0x011241_011242_0112DF_0112E0_0112E3_0112EB_011300_011302,
  0x01133B_01133D_011340_011341_011366_01136D_011370_011375,
  0x0113BB_0113C1_0113CE_0113CF_0113D0_0113D1_0113D2_0113D3,
  0x0113E1_0113E3_011438_011440_011442_011445_011446_011447,
  0x01145E_01145F_0114B3_0114B9_0114BA_0114BB_0114BF_0114C1,
  0x0114C2_0114C4_0115B2_0115B6_0115BC_0115BE_0115BF_0115C1,
  0x0115DC_0115DE_011633_01163B_01163D_01163E_01163F_011641,
  0x0116AB_0116AC_0116AD_0116AE_0116B0_0116B6_0116B7_0116B8,
  0x01171D_01171E_01171F_011720_011722_011726_011727_01172C,
  0x01182F_011838_011839_01183B_01193B_01193D_01193E_01193F,
  0x011943_011944_0119D4_0119D8_0119DA_0119DC_0119E0_0119E1,
  0x011A01_011A0B_011A33_011A39_011A3B_011A3F_011A47_011A48,
  0x011A51_011A57_011A59_011A5C_011A8A_011A97_011A98_011A9A,
  0x011B60_011B61_011B62_011B65_011B66_011B67_011C30_011C37,
  0x011C38_011C3E_011C3F_011C40_011C92_011CA8_011CAA_011CB1,
  0x011CB2_011CB4_011CB5_011CB7_011D31_011D37_011D3A_011D3B,
  0x011D3C_011D3E_011D3F_011D46_011D47_011D48_011D90_011D92,
  0x011D95_011D96_011D97_011D98_011DD9_011DDA_011EF3_011EF5,
  0x011F00_011F02_011F36_011F3B_011F40_011F41_011F42_011F43,
  0x011F5A_011F5B_013430_013441_013447_013456_01611E_01612A,
  0x01612D_016130_016AF0_016AF5_016B30_016B37_016B40_016B44,
  0x016D40_016D43_016D6B_016D6D_016F4F_016F50_016F8F_016FA0,
  0x016FE0_016FE2_016FE3_016FE5_016FF2_016FF4_01AFF0_01AFF4,
  0x01AFF5_01AFFC_01AFFD_01AFFF_01BC9D_01BC9F_01BCA0_01BCA4,
  0x01CF00_01CF2E_01CF30_01CF47_01D167_01D16A_01D173_01D183,
  0x01D185_01D18C_01D1AA_01D1AE_01D242_01D245_01DA00_01DA37,
  0x01DA3B_01DA6D_01DA75_01DA76_01DA84_01DA85_01DA9B_01DAA0,
  0x01DAA1_01DAB0_01E000_01E007_01E008_01E019_01E01B_01E022,
  0x01E023_01E025_01E026_01E02B_01E030_01E06E_01E08F_01E090,
  0x01E130_01E13E_01E2AE_01E2AF_01E2EC_01E2F0_01E4EB_01E4F0,
  0x01E5EE_01E5F0_01E6E3_01E6E4_01E6E6_01E6E7_01E6EE_01E6F0,
  0x01E6F5_01E6F6_01E6FF_01E700_01E8D0_01E8D7_01E944_01E94C,
  0x01F3FB_01F400_0E0001_0E0002_0E0020_0E0080_0E0100_0E01F0]

end LinkedShapes.Unicode
