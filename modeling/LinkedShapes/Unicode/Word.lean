import LinkedShapes.Unicode.CodePoints

/-!
# Word characters

The characters that words of regular expressions and alias names are made of: alphabetic
characters, marks, decimal digits, connecting punctuation and the two join controls.
-/

namespace LinkedShapes.Unicode

/-- The code points of words. -/
def wordPoints : CodePoints := .ofRows [
  0x000030_00003A_000041_00005B_00005F_000060_000061_00007B,
  0x0000AA_0000AB_0000B5_0000B6_0000BA_0000BB_0000C0_0000D7,
  0x0000D8_0000F7_0000F8_0002C2_0002C6_0002D2_0002E0_0002E5,
  0x0002EC_0002ED_0002EE_0002EF_000300_000375_000376_000378,
  0x00037A_00037E_00037F_000380_000386_000387_000388_00038B,
  0x00038C_00038D_00038E_0003A2_0003A3_0003F6_0003F7_000482,
  0x000483_000530_000531_000557_000559_00055A_000560_000589,
  0x000591_0005BE_0005BF_0005C0_0005C1_0005C3_0005C4_0005C6,
  0x0005C7_0005C8_0005D0_0005EB_0005EF_0005F3_000610_00061B,
  0x000620_00066A_00066E_0006D4_0006D5_0006DD_0006DF_0006E9,
  0x0006EA_0006FD_0006FF_000700_000710_00074B_00074D_0007B2,
  0x0007C0_0007F6_0007FA_0007FB_0007FD_0007FE_000800_00082E,
  0x000840_00085C_000860_00086B_000870_000888_000889_000890,
  0x000897_0008E2_0008E3_000964_000966_000970_000971_000984,
  0x000985_00098D_00098F_000991_000993_0009A9_0009AA_0009B1,
  0x0009B2_0009B3_0009B6_0009BA_0009BC_0009C5_0009C7_0009C9,
  0x0009CB_0009CF_0009D7_0009D8_0009DC_0009DE_0009DF_0009E4,
  0x0009E6_0009F2_0009FC_0009FD_0009FE_0009FF_000A01_000A04,
  0x000A05_000A0B_000A0F_000A11_000A13_000A29_000A2A_000A31,
  0x000A32_000A34_000A35_000A37_000A38_000A3A_000A3C_000A3D,
  0x000A3E_000A43_000A47_000A49_000A4B_000A4E_000A51_000A52,
  0x000A59_000A5D_000A5E_000A5F_000A66_000A76_000A81_000A84,
  0x000A85_000A8E_000A8F_000A92_000A93_000AA9_000AAA_000AB1,
  0x000AB2_000AB4_000AB5_000ABA_000ABC_000AC6_000AC7_000ACA,
  0x000ACB_000ACE_000AD0_000AD1_000AE0_000AE4_000AE6_000AF0,
  0x000AF9_000B00_000B01_000B04_000B05_000B0D_000B0F_000B11,
  0x000B13_000B29_000B2A_000B31_000B32_000B34_000B35_000B3A,
  0x000B3C_000B45_000B47_000B49_000B4B_000B4E_000B55_000B58,
  0x000B5C_000B5E_000B5F_000B64_000B66_000B70_000B71_000B72,
  0x000B82_000B84_000B85_000B8B_000B8E_000B91_000B92_000B96,
  0x000B99_000B9B_000B9C_000B9D_000B9E_000BA0_000BA3_000BA5,
  0x000BA8_000BAB_000BAE_000BBA_000BBE_000BC3_000BC6_000BC9,
  0x000BCA_000BCE_000BD0_000BD1_000BD7_000BD8_000BE6_000BF0,
  0x000C00_000C0D_000C0E_000C11_000C12_000C29_000C2A_000C3A,
  0x000C3C_000C45_000C46_000C49_000C4A_000C4E_000C55_000C57,
  0x000C58_000C5B_000C5C_000C5E_000C60_000C64_000C66_000C70,
  0x000C80_000C84_000C85_000C8D_000C8E_000C91_000C92_000CA9,
  0x000CAA_000CB4_000CB5_000CBA_000CBC_000CC5_000CC6_000CC9,
  0x000CCA_000CCE_000CD5_000CD7_000CDC_000CDF_000CE0_000CE4,
  0x000CE6_000CF0_000CF1_000CF4_000D00_000D0D_000D0E_000D11,
  0x000D12_000D45_000D46_000D49_000D4A_000D4F_000D54_000D58,
  0x000D5F_000D64_000D66_000D70_000D7A_000D80_000D81_000D84,
  0x000D85_000D97_000D9A_000DB2_000DB3_000DBC_000DBD_000DBE,
  0x000DC0_000DC7_000DCA_000DCB_000DCF_000DD5_000DD6_000DD7,
  0x000DD8_000DE0_000DE6_000DF0_000DF2_000DF4_000E01_000E3B,
  0x000E40_000E4F_000E50_000E5A_000E81_000E83_000E84_000E85,
  0x000E86_000E8B_000E8C_000EA4_000EA5_000EA6_000EA7_000EBE,
  0x000EC0_000EC5_000EC6_000EC7_000EC8_000ECF_000ED0_000EDA,
  0x000EDC_000EE0_000F00_000F01_000F18_000F1A_000F20_000F2A,
  0x000F35_000F36_000F37_000F38_000F39_000F3A_000F3E_000F48,
  0x000F49_000F6D_000F71_000F85_000F86_000F98_000F99_000FBD,
  0x000FC6_000FC7_001000_00104A_001050_00109E_0010A0_0010C6,
  0x0010C7_0010C8_0010CD_0010CE_0010D0_0010FB_0010FC_001249,
  0x00124A_00124E_001250_001257_001258_001259_00125A_00125E,
  0x001260_001289_00128A_00128E_001290_0012B1_0012B2_0012B6,
  0x0012B8_0012BF_0012C0_0012C1_0012C2_0012C6_0012C8_0012D7,
  0x0012D8_001311_001312_001316_001318_00135B_00135D_001360,
  0x001380_001390_0013A0_0013F6_0013F8_0013FE_001401_00166D,
  0x00166F_001680_001681_00169B_0016A0_0016EB_0016EE_0016F9,
  0x001700_001716_00171F_001735_001740_001754_001760_00176D,
  0x00176E_001771_001772_001774_001780_0017D4_0017D7_0017D8,
  0x0017DC_0017DE_0017E0_0017EA_00180B_00180E_00180F_00181A,
  0x001820_001879_001880_0018AB_0018B0_0018F6_001900_00191F,
  0x001920_00192C_001930_00193C_001946_00196E_001970_001975,
  0x001980_0019AC_0019B0_0019CA_0019D0_0019DA_001A00_001A1C,
  0x001A20_001A5F_001A60_001A7D_001A7F_001A8A_001A90_001A9A,
  0x001AA7_001AA8_001AB0_001ADE_001AE0_001AEC_001B00_001B4D,
  0x001B50_001B5A_001B6B_001B74_001B80_001BF4_001C00_001C38,
  0x001C40_001C4A_001C4D_001C7E_001C80_001C8B_001C90_001CBB,
  0x001CBD_001CC0_001CD0_001CD3_001CD4_001CFB_001D00_001F16,
  0x001F18_001F1E_001F20_001F46_001F48_001F4E_001F50_001F58,
  0x001F59_001F5A_001F5B_001F5C_001F5D_001F5E_001F5F_001F7E,
  0x001F80_001FB5_001FB6_001FBD_001FBE_001FBF_001FC2_001FC5,
  0x001FC6_001FCD_001FD0_001FD4_001FD6_001FDC_001FE0_001FED,
  0x001FF2_001FF5_001FF6_001FFD_00200C_00200E_00203F_002041,
  0x002054_002055_002071_002072_00207F_002080_002090_00209D,
  0x0020D0_0020F1_002102_002103_002107_002108_00210A_002114,
  0x002115_002116_002119_00211E_002124_002125_002126_002127,
  0x002128_002129_00212A_00212E_00212F_00213A_00213C_002140,
  0x002145_00214A_00214E_00214F_002160_002189_0024B6_0024EA,
  0x002C00_002CE5_002CEB_002CF4_002D00_002D26_002D27_002D28,
  0x002D2D_002D2E_002D30_002D68_002D6F_002D70_002D7F_002D97,
  0x002DA0_002DA7_002DA8_002DAF_002DB0_002DB7_002DB8_002DBF,
  0x002DC0_002DC7_002DC8_002DCF_002DD0_002DD7_002DD8_002DDF,
  0x002DE0_002E00_002E2F_002E30_003005_003008_003021_003030,
  0x003031_003036_003038_00303D_003041_003097_003099_00309B,
  0x00309D_0030A0_0030A1_0030FB_0030FC_003100_003105_003130,
  0x003131_00318F_0031A0_0031C0_0031F0_003200_003400_004DC0,
  0x004E00_00A48D_00A4D0_00A4FE_00A500_00A60D_00A610_00A62C,
  0x00A640_00A673_00A674_00A67E_00A67F_00A6F2_00A717_00A720,
  0x00A722_00A789_00A78B_00A7DD_00A7F1_00A828_00A82C_00A82D,
  0x00A840_00A874_00A880_00A8C6_00A8D0_00A8DA_00A8E0_00A8F8,
  0x00A8FB_00A8FC_00A8FD_00A92E_00A930_00A954_00A960_00A97D,
  0x00A980_00A9C1_00A9CF_00A9DA_00A9E0_00A9FF_00AA00_00AA37,
  0x00AA40_00AA4E_00AA50_00AA5A_00AA60_00AA77_00AA7A_00AAC3,
  0x00AADB_00AADE_00AAE0_00AAF0_00AAF2_00AAF7_00AB01_00AB07,
  0x00AB09_00AB0F_00AB11_00AB17_00AB20_00AB27_00AB28_00AB2F,
  0x00AB30_00AB5B_00AB5C_00AB6A_00AB70_00ABEB_00ABEC_00ABEE,
  0x00ABF0_00ABFA_00AC00_00D7A4_00D7B0_00D7C7_00D7CB_00D7FC,
  0x00F900_00FA6E_00FA70_00FADA_00FB00_00FB07_00FB13_00FB18,
  0x00FB1D_00FB29_00FB2A_00FB37_00FB38_00FB3D_00FB3E_00FB3F,
  0x00FB40_00FB42_00FB43_00FB45_00FB46_00FBB2_00FBD3_00FD3E,
  0x00FD50_00FD90_00FD92_00FDC8_00FDF0_00FDFC_00FE00_00FE10,
  0x00FE20_00FE30_00FE33_00FE35_00FE4D_00FE50_00FE70_00FE75,
  0x00FE76_00FEFD_00FF10_00FF1A_00FF21_00FF3B_00FF3F_00FF40,
  0x00FF41_00FF5B_00FF66_00FFBF_00FFC2_00FFC8_00FFCA_00FFD0,
  0x00FFD2_00FFD8_00FFDA_00FFDD_010000_01000C_01000D_010027,
  0x010028_01003B_01003C_01003E_01003F_01004E_010050_01005E,
  0x010080_0100FB_010140_010175_0101FD_0101FE_010280_01029D,
  0x0102A0_0102D1_0102E0_0102E1_010300_010320_01032D_01034B,
  0x010350_01037B_010380_01039E_0103A0_0103C4_0103C8_0103D0,
  0x0103D1_0103D6_010400_01049E_0104A0_0104AA_0104B0_0104D4,
  0x0104D8_0104FC_010500_010528_010530_010564_010570_01057B,
  0x01057C_01058B_01058C_010593_010594_010596_010597_0105A2,
  0x0105A3_0105B2_0105B3_0105BA_0105BB_0105BD_0105C0_0105F4,
  0x010600_010737_010740_010756_010760_010768_010780_010786,
  0x010787_0107B1_0107B2_0107BB_010800_010806_010808_010809,
  0x01080A_010836_010837_010839_01083C_01083D_01083F_010856,
  0x010860_010877_010880_01089F_0108E0_0108F3_0108F4_0108F6,
  0x010900_010916_010920_01093A_010940_01095A_010980_0109B8,
  0x0109BE_0109C0_010A00_010A04_010A05_010A07_010A0C_010A14,
  0x010A15_010A18_010A19_010A36_010A38_010A3B_010A3F_010A40,
  0x010A60_010A7D_010A80_010A9D_010AC0_010AC8_010AC9_010AE7,
  0x010B00_010B36_010B40_010B56_010B60_010B73_010B80_010B92,
  0x010C00_010C49_010C80_010CB3_010CC0_010CF3_010D00_010D28,
  0x010D30_010D3A_010D40_010D66_010D69_010D6E_010D6F_010D86,
  0x010E80_010EAA_010EAB_010EAD_010EB0_010EB2_010EC2_010EC8,
  0x010EFA_010F1D_010F27_010F28_010F30_010F51_010F70_010F86,
  0x010FB0_010FC5_010FE0_010FF7_011000_011047_011066_011076,
  0x01107F_0110BB_0110C2_0110C3_0110D0_0110E9_0110F0_0110FA,
  0x011100_011135_011136_011140_011144_011148_011150_011174,
  0x011176_011177_011180_0111C5_0111C9_0111CD_0111CE_0111DB,
  0x0111DC_0111DD_011200_011212_011213_011238_01123E_011242,
  0x011280_011287_011288_011289_01128A_01128E_01128F_01129E,
  0x01129F_0112A9_0112B0_0112EB_0112F0_0112FA_011300_011304,
  0x011305_01130D_01130F_011311_011313_011329_01132A_011331,
  0x011332_011334_011335_01133A_01133B_011345_011347_011349,
  0x01134B_01134E_011350_011351_011357_011358_01135D_011364,
  0x011366_01136D_011370_011375_011380_01138A_01138B_01138C,
  0x01138E_01138F_011390_0113B6_0113B7_0113C1_0113C2_0113C3,
  0x0113C5_0113C6_0113C7_0113CB_0113CC_0113D4_0113E1_0113E3,
  0x011400_01144B_011450_01145A_01145E_011462_011480_0114C6,
  0x0114C7_0114C8_0114D0_0114DA_011580_0115B6_0115B8_0115C1,
  0x0115D8_0115DE_011600_011641_011644_011645_011650_01165A,
  0x011680_0116B9_0116C0_0116CA_0116D0_0116E4_011700_01171B,
  0x01171D_01172C_011730_01173A_011740_011747_011800_01183B,
  0x0118A0_0118EA_0118FF_011907_011909_01190A_01190C_011914,
  0x011915_011917_011918_011936_011937_011939_01193B_011944,
  0x011950_01195A_0119A0_0119A8_0119AA_0119D8_0119DA_0119E2,
  0x0119E3_0119E5_011A00_011A3F_011A47_011A48_011A50_011A9A,
  0x011A9D_011A9E_011AB0_011AF9_011B60_011B68_011BC0_011BE1,
  0x011BF0_011BFA_011C00_011C09_011C0A_011C37_011C38_011C41,
  0x011C50_011C5A_011C72_011C90_011C92_011CA8_011CA9_011CB7,
  0x011D00_011D07_011D08_011D0A_011D0B_011D37_011D3A_011D3B,
  0x011D3C_011D3E_011D3F_011D48_011D50_011D5A_011D60_011D66,
  0x011D67_011D69_011D6A_011D8F_011D90_011D92_011D93_011D99,
  0x011DA0_011DAA_011DB0_011DDC_011DE0_011DEA_011EE0_011EF7,
  0x011F00_011F11_011F12_011F3B_011F3E_011F43_011F50_011F5B,
  0x011FB0_011FB1_012000_01239A_012400_01246F_012480_012544,
  0x012F90_012FF1_013000_013430_013440_013456_013460_0143FB,
  0x014400_014647_016100_01613A_016800_016A39_016A40_016A5F,
  0x016A60_016A6A_016A70_016ABF_016AC0_016ACA_016AD0_016AEE,
  0x016AF0_016AF5_016B00_016B37_016B40_016B44_016B50_016B5A,
  0x016B63_016B78_016B7D_016B90_016D40_016D6D_016D70_016D7A,
  0x016E40_016E80_016EA0_016EB9_016EBB_016ED4_016F00_016F4B,
  0x016F4F_016F88_016F8F_016FA0_016FE0_016FE2_016FE3_016FE5,
  0x016FF0_016FF7_017000_018CD6_018CFF_018D1F_018D80_018DF3,
  0x01AFF0_01AFF4_01AFF5_01AFFC_01AFFD_01AFFF_01B000_01B123,
  0x01B132_01B133_01B150_01B153_01B155_01B156_01B164_01B168,
  0x01B170_01B2FC_01BC00_01BC6B_01BC70_01BC7D_01BC80_01BC89,
  0x01BC90_01BC9A_01BC9D_01BC9F_01CCF0_01CCFA_01CF00_01CF2E,
  0x01CF30_01CF47_01D165_01D16A_01D16D_01D173_01D17B_01D183,
  0x01D185_01D18C_01D1AA_01D1AE_01D242_01D245_01D400_01D455,
  0x01D456_01D49D_01D49E_01D4A0_01D4A2_01D4A3_01D4A5_01D4A7,
  0x01D4A9_01D4AD_01D4AE_01D4BA_01D4BB_01D4BC_01D4BD_01D4C4,
  0x01D4C5_01D506_01D507_01D50B_01D50D_01D515_01D516_01D51D,
  0x01D51E_01D53A_01D53B_01D53F_01D540_01D545_01D546_01D547,
  0x01D54A_01D551_01D552_01D6A6_01D6A8_01D6C1_01D6C2_01D6DB,
  0x01D6DC_01D6FB_01D6FC_01D715_01D716_01D735_01D736_01D74F,
  0x01D750_01D76F_01D770_01D789_01D78A_01D7A9_01D7AA_01D7C3,
  0x01D7C4_01D7CC_01D7CE_01D800_01DA00_01DA37_01DA3B_01DA6D,
  0x01DA75_01DA76_01DA84_01DA85_01DA9B_01DAA0_01DAA1_01DAB0,
  0x01DF00_01DF1F_01DF25_01DF2B_01E000_01E007_01E008_01E019,
  0x01E01B_01E022_01E023_01E025_01E026_01E02B_01E030_01E06E,
  0x01E08F_01E090_01E100_01E12D_01E130_01E13E_01E140_01E14A,
  0x01E14E_01E14F_01E290_01E2AF_01E2C0_01E2FA_01E4D0_01E4FA,
  0x01E5D0_01E5FB_01E6C0_01E6DF_01E6E0_01E6F6_01E6FE_01E700,
  0x01E7E0_01E7E7_01E7E8_01E7EC_01E7ED_01E7EF_01E7F0_01E7FF,
  0x01E800_01E8C5_01E8D0_01E8D7_01E900_01E94C_01E950_01E95A,
  0x01EE00_01EE04_01EE05_01EE20_01EE21_01EE23_01EE24_01EE25,
  0x01EE27_01EE28_01EE29_01EE33_01EE34_01EE38_01EE39_01EE3A,
  0x01EE3B_01EE3C_01EE42_01EE43_01EE47_01EE48_01EE49_01EE4A,
  0x01EE4B_01EE4C_01EE4D_01EE50_01EE51_01EE53_01EE54_01EE55,
  0x01EE57_01EE58_01EE59_01EE5A_01EE5B_01EE5C_01EE5D_01EE5E,
  0x01EE5F_01EE60_01EE61_01EE63_01EE64_01EE65_01EE67_01EE6B,
  0x01EE6C_01EE73_01EE74_01EE78_01EE79_01EE7D_01EE7E_01EE7F,
  0x01EE80_01EE8A_01EE8B_01EE9C_01EEA1_01EEA4_01EEA5_01EEAA,
  0x01EEAB_01EEBC_01F130_01F14A_01F150_01F16A_01F170_01F18A,
  0x01FBF0_01FBFA_020000_02A6E0_02A700_02B81E_02B820_02CEAE,
  0x02CEB0_02EBE1_02EBF0_02EE5E_02F800_02FA1E_030000_03134B,
  0x031350_03347A_0E0100_0E01F0_110000_110000_110000_110000]

end LinkedShapes.Unicode
