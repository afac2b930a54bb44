import LinkedShapes.Unicode.CodePoints

/-!
# Letters and numbers

The property Alphabetic and the general categories of numbers. A character is alphanumeric when
it is in either set.
-/

namespace LinkedShapes.Unicode

/-- The code points with the property Alphabetic. -/
def alphabetic : CodePoints := .ofRows [
  0x000041_00005B_000061_00007B_0000AA_0000AB_0000B5_0000B6,
  0x0000BA_0000BB_0000C0_0000D7_0000D8_0000F7_0000F8_0002C2,
  0x0002C6_0002D2_0002E0_0002E5_0002EC_0002ED_0002EE_0002EF,
  0x000345_000346_000363_000375_000376_000378_00037A_00037E,
  0x00037F_000380_000386_000387_000388_00038B_00038C_00038D,
  0x00038E_0003A2_0003A3_0003F6_0003F7_000482_00048A_000530,
  0x000531_000557_000559_00055A_000560_000589_0005B0_0005BE,
  0x0005BF_0005C0_0005C1_0005C3_0005C4_0005C6_0005C7_0005C8,
  0x0005D0_0005EB_0005EF_0005F3_000610_00061B_000620_000658,
  0x000659_000660_00066E_0006D4_0006D5_0006DD_0006E1_0006E9,
  0x0006ED_0006F0_0006FA_0006FD_0006FF_000700_000710_000740,
  0x00074D_0007B2_0007CA_0007EB_0007F4_0007F6_0007FA_0007FB,
  0x000800_000818_00081A_00082D_000840_000859_000860_00086B,
  0x000870_000888_000889_000890_000897_000898_0008A0_0008CA,
  0x0008D4_0008E0_0008E3_0008EA_0008F0_00093C_00093D_00094D,
  0x00094E_000951_000955_000964_000971_000984_000985_00098D,
  0x00098F_000991_000993_0009A9_0009AA_0009B1_0009B2_0009B3,
  0x0009B6_0009BA_0009BD_0009C5_0009C7_0009C9_0009CB_0009CD,
  0x0009CE_0009CF_0009D7_0009D8_0009DC_0009DE_0009DF_0009E4,
  0x0009F0_0009F2_0009FC_0009FD_000A01_000A04_000A05_000A0B,
  0x000A0F_000A11_000A13_000A29_000A2A_000A31_000A32_000A34,
  0x000A35_000A37_000A38_000A3A_000A3E_000A43_000A47_000A49,
  0x000A4B_000A4D_000A51_000A52_000A59_000A5D_000A5E_000A5F,
  0x000A70_000A76_000A81_000A84_000A85_000A8E_000A8F_000A92,
  0x000A93_000AA9_000AAA_000AB1_000AB2_000AB4_000AB5_000ABA,
  0x000ABD_000AC6_000AC7_000ACA_000ACB_000ACD_000AD0_000AD1,
  0x000AE0_000AE4_000AF9_000AFD_000B01_000B04_000B05_000B0D,
  0x000B0F_000B11_000B13_000B29_000B2A_000B31_000B32_000B34,
  0x000B35_000B3A_000B3D_000B45_000B47_000B49_000B4B_000B4D,
  0x000B56_000B58_000B5C_000B5E_000B5F_000B64_000B71_000B72,
  0x000B82_000B84_000B85_000B8B_000B8E_000B91_000B92_000B96,
  0x000B99_000B9B_000B9C_000B9D_000B9E_000BA0_000BA3_000BA5,
  0x000BA8_000BAB_000BAE_000BBA_000BBE_000BC3_000BC6_000BC9,
  0x000BCA_000BCD_000BD0_000BD1_000BD7_000BD8_000C00_000C0D,
  0x000C0E_000C11_000C12_000C29_000C2A_000C3A_000C3D_000C45,
  0x000C46_000C49_000C4A_000C4D_000C55_000C57_000C58_000C5B,
  0x000C5C_000C5E_000C60_000C64_000C80_000C84_000C85_000C8D,
  0x000C8E_000C91_000C92_000CA9_000CAA_000CB4_000CB5_000CBA,
  0x000CBD_000CC5_000CC6_000CC9_000CCA_000CCD_000CD5_000CD7,
  0x000CDC_000CDF_000CE0_000CE4_000CF1_000CF4_000D00_000D0D,
  0x000D0E_000D11_000D12_000D3B_000D3D_000D45_000D46_000D49,
  0x000D4A_000D4D_000D4E_000D4F_000D54_000D58_000D5F_000D64,
  0x000D7A_000D80_000D81_000D84_000D85_000D97_000D9A_000DB2,
  0x000DB3_000DBC_000DBD_000DBE_000DC0_000DC7_000DCF_000DD5,
  0x000DD6_000DD7_000DD8_000DE0_000DF2_000DF4_000E01_000E3B,
  0x000E40_000E47_000E4D_000E4E_000E81_000E83_000E84_000E85,
  0x000E86_000E8B_000E8C_000EA4_000EA5_000EA6_000EA7_000EBA,
  0x000EBB_000EBE_000EC0_000EC5_000EC6_000EC7_000ECD_000ECE,
  0x000EDC_000EE0_000F00_000F01_000F40_000F48_000F49_000F6D,
  0x000F71_000F84_000F88_000F98_000F99_000FBD_001000_001037,
  0x001038_001039_00103B_001040_001050_001090_00109A_00109E,
  0x0010A0_0010C6_0010C7_0010C8_0010CD_0010CE_0010D0_0010FB,
  0x0010FC_001249_00124A_00124E_001250_001257_001258_001259,
  0x00125A_00125E_001260_001289_00128A_00128E_001290_0012B1,
  0x0012B2_0012B6_0012B8_0012BF_0012C0_0012C1_0012C2_0012C6,
  0x0012C8_0012D7_0012D8_001311_001312_001316_001318_00135B,
  0x001380_001390_0013A0_0013F6_0013F8_0013FE_001401_00166D,
  0x00166F_001680_001681_00169B_0016A0_0016EB_0016EE_0016F9,
  0x001700_001714_00171F_001734_001740_001754_001760_00176D,
  0x00176E_001771_001772_001774_001780_0017B4_0017B6_0017C9,
  0x0017D7_0017D8_0017DC_0017DD_001820_001879_001880_0018AB,
  0x0018B0_0018F6_001900_00191F_001920_00192C_001930_001939,
  0x001950_00196E_001970_001975_001980_0019AC_0019B0_0019CA,
  0x001A00_001A1C_001A20_001A5F_001A61_001A75_001AA7_001AA8,
  0x001ABF_001AC1_001ACC_001ACF_001B00_001B34_001B35_001B44,
  0x001B45_001B4D_001B80_001BAA_001BAC_001BB0_001BBA_001BE6,
  0x001BE7_001BF2_001C00_001C37_001C4D_001C50_001C5A_001C7E,
  0x001C80_001C8B_001C90_001CBB_001CBD_001CC0_001CE9_001CED,
  0x001CEE_001CF4_001CF5_001CF7_001CFA_001CFB_001D00_001DC0,
  0x001DD3_001DF5_001E00_001F16_001F18_001F1E_001F20_001F46,
  0x001F48_001F4E_001F50_001F58_001F59_001F5A_001F5B_001F5C,
  0x001F5D_001F5E_001F5F_001F7E_001F80_001FB5_001FB6_001FBD,
  0x001FBE_001FBF_001FC2_001FC5_001FC6_001FCD_001FD0_001FD4,
  0x001FD6_001FDC_001FE0_001FED_001FF2_001FF5_001FF6_001FFD,
  0x002071_002072_00207F_002080_002090_00209D_002102_002103,
  0x002107_002108_00210A_002114_002115_002116_002119_00211E,
  0x002124_002125_002126_002127_002128_002129_00212A_00212E,
  0x00212F_00213A_00213C_002140_002145_00214A_00214E_00214F,
  0x002160_002189_0024B6_0024EA_002C00_002CE5_002CEB_002CEF,
  0x002CF2_002CF4_002D00_002D26_002D27_002D28_002D2D_002D2E,
  0x002D30_002D68_002D6F_002D70_002D80_002D97_002DA0_002DA7,
  0x002DA8_002DAF_002DB0_002DB7_002DB8_002DBF_002DC0_002DC7,
  0x002DC8_002DCF_002DD0_002DD7_002DD8_002DDF_002DE0_002E00,
  0x002E2F_002E30_003005_003008_003021_00302A_003031_003036,
  0x003038_00303D_003041_003097_00309D_0030A0_0030A1_0030FB,
  0x0030FC_003100_003105_003130_003131_00318F_0031A0_0031C0,
  0x0031F0_003200_003400_004DC0_004E00_00A48D_00A4D0_00A4FE,
  0x00A500_00A60D_00A610_00A620_00A62A_00A62C_00A640_00A66F,
  0x00A674_00A67C_00A67F_00A6F0_00A717_00A720_00A722_00A789,
  0x00A78B_00A7DD_00A7F1_00A806_00A807_00A828_00A840_00A874,
  0x00A880_00A8C4_00A8C5_00A8C6_00A8F2_00A8F8_00A8FB_00A8FC,
  0x00A8FD_00A900_00A90A_00A92B_00A930_00A953_00A960_00A97D,
  0x00A980_00A9B3_00A9B4_00A9C0_00A9CF_00A9D0_00A9E0_00A9F0,
  0x00A9FA_00A9FF_00AA00_00AA37_00AA40_00AA4E_00AA60_00AA77,
  0x00AA7A_00AABF_00AAC0_00AAC1_00AAC2_00AAC3_00AADB_00AADE,
  0x00AAE0_00AAF0_00AAF2_00AAF6_00AB01_00AB07_00AB09_00AB0F,
  0x00AB11_00AB17_00AB20_00AB27_00AB28_00AB2F_00AB30_00AB5B,
  0x00AB5C_00AB6A_00AB70_00ABEB_00AC00_00D7A4_00D7B0_00D7C7,
  0x00D7CB_00D7FC_00F900_00FA6E_00FA70_00FADA_00FB00_00FB07,
  0x00FB13_00FB18_00FB1D_00FB29_00FB2A_00FB37_00FB38_00FB3D,
  0x00FB3E_00FB3F_00FB40_00FB42_00FB43_00FB45_00FB46_00FBB2,
  0x00FBD3_00FD3E_00FD50_00FD90_00FD92_00FDC8_00FDF0_00FDFC,
  0x00FE70_00FE75_00FE76_00FEFD_00FF21_00FF3B_00FF41_00FF5B,
  0x00FF66_00FFBF_00FFC2_00FFC8_00FFCA_00FFD0_00FFD2_00FFD8,
  0x00FFDA_00FFDD_010000_01000C_01000D_010027_010028_01003B,
  0x01003C_01003E_01003F_01004E_010050_01005E_010080_0100FB,
  0x010140_010175_010280_01029D_0102A0_0102D1_010300_010320,
  0x01032D_01034B_010350_01037B_010380_01039E_0103A0_0103C4,
  0x0103C8_0103D0_0103D1_0103D6_010400_01049E_0104B0_0104D4,
  0x0104D8_0104FC_010500_010528_010530_010564_010570_01057B,
  0x01057C_01058B_01058C_010593_010594_010596_010597_0105A2,
  0x0105A3_0105B2_0105B3_0105BA_0105BB_0105BD_0105C0_0105F4,
  0x010600_010737_010740_010756_010760_010768_010780_010786,
  0x010787_0107B1_0107B2_0107BB_010800_010806_010808_010809,
  0x01080A_010836_010837_010839_01083C_01083D_01083F_010856,
  0x010860_010877_010880_01089F_0108E0_0108F3_0108F4_0108F6,
  0x010900_010916_010920_01093A_010940_01095A_010980_0109B8,
  0x0109BE_0109C0_010A00_010A04_010A05_010A07_010A0C_010A14,
  0x010A15_010A18_010A19_010A36_010A60_010A7D_010A80_010A9D,
  0x010AC0_010AC8_010AC9_010AE5_010B00_010B36_010B40_010B56,
  0x010B60_010B73_010B80_010B92_010C00_010C49_010C80_010CB3,
  0x010CC0_010CF3_010D00_010D28_010D4A_010D66_010D69_010D6A,
  0x010D6F_010D86_010E80_010EAA_010EAB_010EAD_010EB0_010EB2,
  0x010EC2_010EC8_010EFA_010EFD_010F00_010F1D_010F27_010F28,
  0x010F30_010F46_010F70_010F82_010FB0_010FC5_010FE0_010FF7,
  0x011000_011046_011071_011076_011080_0110B9_0110C2_0110C3,
  0x0110D0_0110E9_011100_011133_011144_011148_011150_011173,
  0x011176_011177_011180_0111C0_0111C1_0111C5_0111CE_0111D0,
  0x0111DA_0111DB_0111DC_0111DD_011200_011212_011213_011235,
  0x011237_011238_01123E_011242_011280_011287_011288_011289,
  0x01128A_01128E_01128F_01129E_01129F_0112A9_0112B0_0112E9,
  0x011300_011304_011305_01130D_01130F_011311_011313_011329,
  0x01132A_011331_011332_011334_011335_01133A_01133D_011345,
  0x011347_011349_01134B_01134D_011350_011351_011357_011358,
  0x01135D_011364_011380_01138A_01138B_01138C_01138E_01138F,
  0x011390_0113B6_0113B7_0113C1_0113C2_0113C3_0113C5_0113C6,
  0x0113C7_0113CB_0113CC_0113CE_0113D1_0113D2_0113D3_0113D4,
  0x011400_011442_011443_011446_011447_01144B_01145F_011462,
  0x011480_0114C2_0114C4_0114C6_0114C7_0114C8_011580_0115B6,
  0x0115B8_0115BF_0115D8_0115DE_011600_01163F_011640_011641,
  0x011644_011645_011680_0116B6_0116B8_0116B9_011700_01171B,
  0x01171D_01172B_011740_011747_011800_011839_0118A0_0118E0,
  0x0118FF_011907_011909_01190A_01190C_011914_011915_011917,
  0x011918_011936_011937_011939_01193B_01193D_01193F_011943,
  0x0119A0_0119A8_0119AA_0119D8_0119DA_0119E0_0119E1_0119E2,
  0x0119E3_0119E5_011A00_011A33_011A35_011A3F_011A50_011A98,
  0x011A9D_011A9E_011AB0_011AF9_011B60_011B68_011BC0_011BE1,
  0x011C00_011C09_011C0A_011C37_011C38_011C3F_011C40_011C41,
  0x011C72_011C90_011C92_011CA8_011CA9_011CB7_011D00_011D07,
  0x011D08_011D0A_011D0B_011D37_011D3A_011D3B_011D3C_011D3E,
  0x011D3F_011D42_011D43_011D44_011D46_011D48_011D60_011D66,
  0x011D67_011D69_011D6A_011D8F_011D90_011D92_011D93_011D97,
  0x011D98_011D99_011DB0_011DDC_011EE0_011EF7_011F00_011F11,
  0x011F12_011F3B_011F3E_011F41_011FB0_011FB1_012000_01239A,
  0x012400_01246F_012480_012544_012F90_012FF1_013000_013430,
  0x013441_013447_013460_0143FB_014400_014647_016100_01612F,
  0x016800_016A39_016A40_016A5F_016A70_016ABF_016AD0_016AEE,
  0x016B00_016B30_016B40_016B44_016B63_016B78_016B7D_016B90,
  0x016D40_016D6D_016E40_016E80_016EA0_016EB9_016EBB_016ED4,
  0x016F00_016F4B_016F4F_016F88_016F8F_016FA0_016FE0_016FE2,
  0x016FE3_016FE4_016FF0_016FF7_017000_018CD6_018CFF_018D1F,
  0x018D80_018DF3_01AFF0_01AFF4_01AFF5_01AFFC_01AFFD_01AFFF,
  0x01B000_01B123_01B132_01B133_01B150_01B153_01B155_01B156,
  0x01B164_01B168_01B170_01B2FC_01BC00_01BC6B_01BC70_01BC7D,
  0x01BC80_01BC89_01BC90_01BC9A_01BC9E_01BC9F_01D400_01D455,
  0x01D456_01D49D_01D49E_01D4A0_01D4A2_01D4A3_01D4A5_01D4A7,
  0x01D4A9_01D4AD_01D4AE_01D4BA_01D4BB_01D4BC_01D4BD_01D4C4,
  0x01D4C5_01D506_01D507_01D50B_01D50D_01D515_01D516_01D51D,
  0x01D51E_01D53A_01D53B_01D53F_01D540_01D545_01D546_01D547,
  0x01D54A_01D551_01D552_01D6A6_01D6A8_01D6C1_01D6C2_01D6DB,
  0x01D6DC_01D6FB_01D6FC_01D715_01D716_01D735_01D736_01D74F,
  0x01D750_01D76F_01D770_01D789_01D78A_01D7A9_01D7AA_01D7C3,
  0x01D7C4_01D7CC_01DF00_01DF1F_01DF25_01DF2B_01E000_01E007,
  0x01E008_01E019_01E01B_01E022_01E023_01E025_01E026_01E02B,
  0x01E030_01E06E_01E08F_01E090_01E100_01E12D_01E137_01E13E,
  0x01E14E_01E14F_01E290_01E2AE_01E2C0_01E2EC_01E4D0_01E4EC,
  0x01E5D0_01E5EE_01E5F0_01E5F1_01E6C0_01E6DF_01E6E0_01E6F6,
  0x01E6FE_01E700_01E7E0_01E7E7_01E7E8_01E7EC_01E7ED_01E7EF,
  0x01E7F0_01E7FF_01E800_01E8C5_01E900_01E944_01E947_01E948,
  0x01E94B_01E94C_01EE00_01EE04_01EE05_01EE20_01EE21_01EE23,
  0x01EE24_01EE25_01EE27_01EE28_01EE29_01EE33_01EE34_01EE38,
  0x01EE39_01EE3A_01EE3B_01EE3C_01EE42_01EE43_01EE47_01EE48,
  0x01EE49_01EE4A_01EE4B_01EE4C_01EE4D_01EE50_01EE51_01EE53,
  0x01EE54_01EE55_01EE57_01EE58_01EE59_01EE5A_01EE5B_01EE5C,
  0x01EE5D_01EE5E_01EE5F_01EE60_01EE61_01EE63_01EE64_01EE65,
  0x01EE67_01EE6B_01EE6C_01EE73_01EE74_01EE78_01EE79_01EE7D,
  0x01EE7E_01EE7F_01EE80_01EE8A_01EE8B_01EE9C_01EEA1_01EEA4,
  0x01EEA5_01EEAA_01EEAB_01EEBC_01F130_01F14A_01F150_01F16A,
  0x01F170_01F18A_020000_02A6E0_02A700_02B81E_02B820_02CEAE,
  0x02CEB0_02EBE1_02EBF0_02EE5E_02F800_02FA1E_030000_03134B,
  0x031350_03347A_110000_110000_110000_110000_110000_110000]

/-- The code points of the categories Nd, Nl and No. -/
def numeric : CodePoints := .ofRows [
  0x000030_00003A_0000B2_0000B4_0000B9_0000BA_0000BC_0000BF,
  0x000660_00066A_0006F0_0006FA_0007C0_0007CA_000966_000970,
  0x0009E6_0009F0_0009F4_0009FA_000A66_000A70_000AE6_000AF0,
  0x000B66_000B70_000B72_000B78_000BE6_000BF3_000C66_000C70,
  0x000C78_000C7F_000CE6_000CF0_000D58_000D5F_000D66_000D79,
  0x000DE6_000DF0_000E50_000E5A_000ED0_000EDA_000F20_000F34,
  0x001040_00104A_001090_00109A_001369_00137D_0016EE_0016F1,
  0x0017E0_0017EA_0017F0_0017FA_001810_00181A_001946_001950,
  0x0019D0_0019DB_001A80_001A8A_001A90_001A9A_001B50_001B5A,
  0x001BB0_001BBA_001C40_001C4A_001C50_001C5A_002070_002071,
  0x002074_00207A_002080_00208A_002150_002183_002185_00218A,
  0x002460_00249C_0024EA_002500_002776_002794_002CFD_002CFE,
  0x003007_003008_003021_00302A_003038_00303B_003192_003196,
  0x003220_00322A_003248_003250_003251_003260_003280_00328A,
  0x0032B1_0032C0_00A620_00A62A_00A6E6_00A6F0_00A830_00A836,
  0x00A8D0_00A8DA_00A900_00A90A_00A9D0_00A9DA_00A9F0_00A9FA,
  0x00AA50_00AA5A_00ABF0_00ABFA_00FF10_00FF1A_010107_010134,
  0x010140_010179_01018A_01018C_0102E1_0102FC_010320_010324,
  0x010341_010342_01034A_01034B_0103D1_0103D6_0104A0_0104AA,
  0x010858_010860_010879_010880_0108A7_0108B0_0108FB_010900,
  0x010916_01091C_0109BC_0109BE_0109C0_0109D0_0109D2_010A00,
  0x010A40_010A49_010A7D_010A7F_010A9D_010AA0_010AEB_010AF0,
  0x010B58_010B60_010B78_010B80_010BA9_010BB0_010CFA_010D00,
  0x010D30_010D3A_010D40_010D4A_010E60_010E7F_010F1D_010F27,
  0x010F51_010F55_010FC5_010FCC_011052_011070_0110F0_0110FA,
  0x011136_011140_0111D0_0111DA_0111E1_0111F5_0112F0_0112FA,
  0x011450_01145A_0114D0_0114DA_011650_01165A_0116C0_0116CA,
  0x0116D0_0116E4_011730_01173C_0118E0_0118F3_011950_01195A,
  0x011BF0_011BFA_011C50_011C6D_011D50_011D5A_011DA0_011DAA,
  0x011DE0_011DEA_011F50_011F5A_011FC0_011FD5_012400_01246F,
  0x016130_01613A_016A60_016A6A_016AC0_016ACA_016B50_016B5A,
  0x016B5B_016B62_016D70_016D7A_016E80_016E97_016FF4_016FF7,
  0x01CCF0_01CCFA_01D2C0_01D2D4_01D2E0_01D2F4_01D360_01D379,
  0x01D7CE_01D800_01E140_01E14A_01E2F0_01E2FA_01E4F0_01E4FA,
  0x01E5F1_01E5FB_01E8C7_01E8D0_01E950_01E95A_01EC71_01ECAC,
  0x01ECAD_01ECB0_01ECB1_01ECB5_01ED01_01ED2E_01ED2F_01ED3E,
  0x01F100_01F10D_01FBF0_01FBFA_110000_110000_110000_110000]

end LinkedShapes.Unicode
