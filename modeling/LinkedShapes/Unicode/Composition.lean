import LinkedShapes.Unicode.CodePoints

/-!
# Composition of characters

Many characters are composed of a base character and a mark. A pair of code points that has a
composed form is listed with it. Marks have a class that tells where they attach: only the order
of marks of one class matters.
-/

namespace LinkedShapes.Unicode

/-- Takes numbers in threes. -/
def unpackTriples : List Nat → List (Nat × Nat × Nat)
  | x :: y :: z :: rest => (x, y, z) :: unpackTriples rest
  | _ => []

/-- A base, a mark or second part, and the code point composed of the two. -/
def compositions : List (Nat × Nat × Nat) := unpackTriples <| unpackRows [
  0x000041_000300_0000C0_000041_000301_0000C1_000041_000302,
  0x0000C2_000041_000303_0000C3_000041_000308_0000C4_000041,
  0x00030A_0000C5_000043_000327_0000C7_000045_000300_0000C8,
  0x000045_000301_0000C9_000045_000302_0000CA_000045_000308,
  0x0000CB_000049_000300_0000CC_000049_000301_0000CD_000049,
  0x000302_0000CE_000049_000308_0000CF_00004E_000303_0000D1,
  0x00004F_000300_0000D2_00004F_000301_0000D3_00004F_000302,
  0x0000D4_00004F_000303_0000D5_00004F_000308_0000D6_000055,
  0x000300_0000D9_000055_000301_0000DA_000055_000302_0000DB,
  0x000055_000308_0000DC_000059_000301_0000DD_000061_000300,
  0x0000E0_000061_000301_0000E1_000061_000302_0000E2_000061,
  0x000303_0000E3_000061_000308_0000E4_000061_00030A_0000E5,
  0x000063_000327_0000E7_000065_000300_0000E8_000065_000301,
  0x0000E9_000065_000302_0000EA_000065_000308_0000EB_000069,
  0x000300_0000EC_000069_000301_0000ED_000069_000302_0000EE,
  0x000069_000308_0000EF_00006E_000303_0000F1_00006F_000300,
  0x0000F2_00006F_000301_0000F3_00006F_000302_0000F4_00006F,
  0x000303_0000F5_00006F_000308_0000F6_000075_000300_0000F9,
  0x000075_000301_0000FA_000075_000302_0000FB_000075_000308,
  0x0000FC_000079_000301_0000FD_000079_000308_0000FF_000041,
  0x000304_000100_000061_000304_000101_000041_000306_000102,
  0x000061_000306_000103_000041_000328_000104_000061_000328,
  0x000105_000043_000301_000106_000063_000301_000107_000043,
  0x000302_000108_000063_000302_000109_000043_000307_00010A,
  0x000063_000307_00010B_000043_00030C_00010C_000063_00030C,
  0x00010D_000044_00030C_00010E_000064_00030C_00010F_000045,
  0x000304_000112_000065_000304_000113_000045_000306_000114,
  0x000065_000306_000115_000045_000307_000116_000065_000307,
  0x000117_000045_000328_000118_000065_000328_000119_000045,
  0x00030C_00011A_000065_00030C_00011B_000047_000302_00011C,
  0x000067_000302_00011D_000047_000306_00011E_000067_000306,
  0x00011F_000047_000307_000120_000067_000307_000121_000047,
  0x000327_000122_000067_000327_000123_000048_000302_000124,
  0x000068_000302_000125_000049_000303_000128_000069_000303,
  0x000129_000049_000304_00012A_000069_000304_00012B_000049,
  0x000306_00012C_000069_000306_00012D_000049_000328_00012E,
  0x000069_000328_00012F_000049_000307_000130_00004A_000302,
  0x000134_00006A_000302_000135_00004B_000327_000136_00006B,
  0x000327_000137_00004C_000301_000139_00006C_000301_00013A,
  0x00004C_000327_00013B_00006C_000327_00013C_00004C_00030C,
  0x00013D_00006C_00030C_00013E_00004E_000301_000143_00006E,
  0x000301_000144_00004E_000327_000145_00006E_000327_000146,
  0x00004E_00030C_000147_00006E_00030C_000148_00004F_000304,
  0x00014C_00006F_000304_00014D_00004F_000306_00014E_00006F,
  0x000306_00014F_00004F_00030B_000150_00006F_00030B_000151,
  0x000052_000301_000154_000072_000301_000155_000052_000327,
  0x000156_000072_000327_000157_000052_00030C_000158_000072,
  0x00030C_000159_000053_000301_00015A_000073_000301_00015B,
  0x000053_000302_00015C_000073_000302_00015D_000053_000327,
  0x00015E_000073_000327_00015F_000053_00030C_000160_000073,
  0x00030C_000161_000054_000327_000162_000074_000327_000163,
  0x000054_00030C_000164_000074_00030C_000165_000055_000303,
  0x000168_000075_000303_000169_000055_000304_00016A_000075,
  0x000304_00016B_000055_000306_00016C_000075_000306_00016D,
  0x000055_00030A_00016E_000075_00030A_00016F_000055_00030B,
  0x000170_000075_00030B_000171_000055_000328_000172_000075,
  0x000328_000173_000057_000302_000174_000077_000302_000175,
  0x000059_000302_000176_000079_000302_000177_000059_000308,
  0x000178_00005A_000301_000179_00007A_000301_00017A_00005A,
  0x000307_00017B_00007A_000307_00017C_00005A_00030C_00017D,
  0x00007A_00030C_00017E_00004F_00031B_0001A0_00006F_00031B,
  0x0001A1_000055_00031B_0001AF_000075_00031B_0001B0_000041,
  0x00030C_0001CD_000061_00030C_0001CE_000049_00030C_0001CF,
  0x000069_00030C_0001D0_00004F_00030C_0001D1_00006F_00030C,
  0x0001D2_000055_00030C_0001D3_000075_00030C_0001D4_0000DC,
  0x000304_0001D5_0000FC_000304_0001D6_0000DC_000301_0001D7,
  0x0000FC_000301_0001D8_0000DC_00030C_0001D9_0000FC_00030C,
  0x0001DA_0000DC_000300_0001DB_0000FC_000300_0001DC_0000C4,
  0x000304_0001DE_0000E4_000304_0001DF_000226_000304_0001E0,
  0x000227_000304_0001E1_0000C6_000304_0001E2_0000E6_000304,
  0x0001E3_000047_00030C_0001E6_000067_00030C_0001E7_00004B,
  0x00030C_0001E8_00006B_00030C_0001E9_00004F_000328_0001EA,
  0x00006F_000328_0001EB_0001EA_000304_0001EC_0001EB_000304,
  0x0001ED_0001B7_00030C_0001EE_000292_00030C_0001EF_00006A,
  0x00030C_0001F0_000047_000301_0001F4_000067_000301_0001F5,
  0x00004E_000300_0001F8_00006E_000300_0001F9_0000C5_000301,
  0x0001FA_0000E5_000301_0001FB_0000C6_000301_0001FC_0000E6,
  0x000301_0001FD_0000D8_000301_0001FE_0000F8_000301_0001FF,
  0x000041_00030F_000200_000061_00030F_000201_000041_000311,
  0x000202_000061_000311_000203_000045_00030F_000204_000065,
  0x00030F_000205_000045_000311_000206_000065_000311_000207,
  0x000049_00030F_000208_000069_00030F_000209_000049_000311,
  0x00020A_000069_000311_00020B_00004F_00030F_00020C_00006F,
  0x00030F_00020D_00004F_000311_00020E_00006F_000311_00020F,
  0x000052_00030F_000210_000072_00030F_000211_000052_000311,
  0x000212_000072_000311_000213_000055_00030F_000214_000075,
  0x00030F_000215_000055_000311_000216_000075_000311_000217,
  0x000053_000326_000218_000073_000326_000219_000054_000326,
  0x00021A_000074_000326_00021B_000048_00030C_00021E_000068,
  0x00030C_00021F_000041_000307_000226_000061_000307_000227,
  0x000045_000327_000228_000065_000327_000229_0000D6_000304,
  0x00022A_0000F6_000304_00022B_0000D5_000304_00022C_0000F5,
  0x000304_00022D_00004F_000307_00022E_00006F_000307_00022F,
  0x00022E_000304_000230_00022F_000304_000231_000059_000304,
  0x000232_000079_000304_000233_0000A8_000301_000385_000391,
  0x000301_000386_000395_000301_000388_000397_000301_000389,
  0x000399_000301_00038A_00039F_000301_00038C_0003A5_000301,
  0x00038E_0003A9_000301_00038F_0003CA_000301_000390_000399,
  0x000308_0003AA_0003A5_000308_0003AB_0003B1_000301_0003AC,
  0x0003B5_000301_0003AD_0003B7_000301_0003AE_0003B9_000301,
  0x0003AF_0003CB_000301_0003B0_0003B9_000308_0003CA_0003C5,
  0x000308_0003CB_0003BF_000301_0003CC_0003C5_000301_0003CD,
  0x0003C9_000301_0003CE_0003D2_000301_0003D3_0003D2_000308,
  0x0003D4_000415_000300_000400_000415_000308_000401_000413,
  0x000301_000403_000406_000308_000407_00041A_000301_00040C,
  0x000418_000300_00040D_000423_000306_00040E_000418_000306,
  0x000419_000438_000306_000439_000435_000300_000450_000435,
  0x000308_000451_000433_000301_000453_000456_000308_000457,
  0x00043A_000301_00045C_000438_000300_00045D_000443_000306,
  0x00045E_000474_00030F_000476_000475_00030F_000477_000416,
  0x000306_0004C1_000436_000306_0004C2_000410_000306_0004D0,
  0x000430_000306_0004D1_000410_000308_0004D2_000430_000308,
  0x0004D3_000415_000306_0004D6_000435_000306_0004D7_0004D8,
  0x000308_0004DA_0004D9_000308_0004DB_000416_000308_0004DC,
  0x000436_000308_0004DD_000417_000308_0004DE_000437_000308,
  0x0004DF_000418_000304_0004E2_000438_000304_0004E3_000418,
  0x000308_0004E4_000438_000308_0004E5_00041E_000308_0004E6,
  0x00043E_000308_0004E7_0004E8_000308_0004EA_0004E9_000308,
  0x0004EB_00042D_000308_0004EC_00044D_000308_0004ED_000423,
  0x000304_0004EE_000443_000304_0004EF_000423_000308_0004F0,
  0x000443_000308_0004F1_000423_00030B_0004F2_000443_00030B,
  0x0004F3_000427_000308_0004F4_000447_000308_0004F5_00042B,
  0x000308_0004F8_00044B_000308_0004F9_000627_000653_000622,
  0x000627_000654_000623_000648_000654_000624_000627_000655,
  0x000625_00064A_000654_000626_0006D5_000654_0006C0_0006C1,
  0x000654_0006C2_0006D2_000654_0006D3_000928_00093C_000929,
  0x000930_00093C_000931_000933_00093C_000934_0009C7_0009BE,
  0x0009CB_0009C7_0009D7_0009CC_000B47_000B56_000B48_000B47,
  0x000B3E_000B4B_000B47_000B57_000B4C_000B92_000BD7_000B94,
  0x000BC6_000BBE_000BCA_000BC7_000BBE_000BCB_000BC6_000BD7,
  0x000BCC_000C46_000C56_000C48_000CBF_000CD5_000CC0_000CC6,
  0x000CD5_000CC7_000CC6_000CD6_000CC8_000CC6_000CC2_000CCA,
  0x000CCA_000CD5_000CCB_000D46_000D3E_000D4A_000D47_000D3E,
  0x000D4B_000D46_000D57_000D4C_000DD9_000DCA_000DDA_000DD9,
  0x000DCF_000DDC_000DDC_000DCA_000DDD_000DD9_000DDF_000DDE,
  0x001025_00102E_001026_001B05_001B35_001B06_001B07_001B35,
  0x001B08_001B09_001B35_001B0A_001B0B_001B35_001B0C_001B0D,
  0x001B35_001B0E_001B11_001B35_001B12_001B3A_001B35_001B3B,
  0x001B3C_001B35_001B3D_001B3E_001B35_001B40_001B3F_001B35,
  0x001B41_001B42_001B35_001B43_000041_000325_001E00_000061,
  0x000325_001E01_000042_000307_001E02_000062_000307_001E03,
  0x000042_000323_001E04_000062_000323_001E05_000042_000331,
  0x001E06_000062_000331_001E07_0000C7_000301_001E08_0000E7,
  0x000301_001E09_000044_000307_001E0A_000064_000307_001E0B,
  0x000044_000323_001E0C_000064_000323_001E0D_000044_000331,
  0x001E0E_000064_000331_001E0F_000044_000327_001E10_000064,
  0x000327_001E11_000044_00032D_001E12_000064_00032D_001E13,
  0x000112_000300_001E14_000113_000300_001E15_000112_000301,
  0x001E16_000113_000301_001E17_000045_00032D_001E18_000065,
  0x00032D_001E19_000045_000330_001E1A_000065_000330_001E1B,
  0x000228_000306_001E1C_000229_000306_001E1D_000046_000307,
  0x001E1E_000066_000307_001E1F_000047_000304_001E20_000067,
  0x000304_001E21_000048_000307_001E22_000068_000307_001E23,
  0x000048_000323_001E24_000068_000323_001E25_000048_000308,
  0x001E26_000068_000308_001E27_000048_000327_001E28_000068,
  0x000327_001E29_000048_00032E_001E2A_000068_00032E_001E2B,
  0x000049_000330_001E2C_000069_000330_001E2D_0000CF_000301,
  0x001E2E_0000EF_000301_001E2F_00004B_000301_001E30_00006B,
  0x000301_001E31_00004B_000323_001E32_00006B_000323_001E33,
  0x00004B_000331_001E34_00006B_000331_001E35_00004C_000323,
  0x001E36_00006C_000323_001E37_001E36_000304_001E38_001E37,
  0x000304_001E39_00004C_000331_001E3A_00006C_000331_001E3B,
  0x00004C_00032D_001E3C_00006C_00032D_001E3D_00004D_000301,
  0x001E3E_00006D_000301_001E3F_00004D_000307_001E40_00006D,
  0x000307_001E41_00004D_000323_001E42_00006D_000323_001E43,
  0x00004E_000307_001E44_00006E_000307_001E45_00004E_000323,
  0x001E46_00006E_000323_001E47_00004E_000331_001E48_00006E,
  0x000331_001E49_00004E_00032D_001E4A_00006E_00032D_001E4B,
  0x0000D5_000301_001E4C_0000F5_000301_001E4D_0000D5_000308,
  0x001E4E_0000F5_000308_001E4F_00014C_000300_001E50_00014D,
  0x000300_001E51_00014C_000301_001E52_00014D_000301_001E53,
  0x000050_000301_001E54_000070_000301_001E55_000050_000307,
  0x001E56_000070_000307_001E57_000052_000307_001E58_000072,
  0x000307_001E59_000052_000323_001E5A_000072_000323_001E5B,
  0x001E5A_000304_001E5C_001E5B_000304_001E5D_000052_000331,
  0x001E5E_000072_000331_001E5F_000053_000307_001E60_000073,
  0x000307_001E61_000053_000323_001E62_000073_000323_001E63,
  0x00015A_000307_001E64_00015B_000307_001E65_000160_000307,
  0x001E66_000161_000307_001E67_001E62_000307_001E68_001E63,
  0x000307_001E69_000054_000307_001E6A_000074_000307_001E6B,
  0x000054_000323_001E6C_000074_000323_001E6D_000054_000331,
  0x001E6E_000074_000331_001E6F_000054_00032D_001E70_000074,
  0x00032D_001E71_000055_000324_001E72_000075_000324_001E73,
  0x000055_000330_001E74_000075_000330_001E75_000055_00032D,
  0x001E76_000075_00032D_001E77_000168_000301_001E78_000169,
  0x000301_001E79_00016A_000308_001E7A_00016B_000308_001E7B,
  0x000056_000303_001E7C_000076_000303_001E7D_000056_000323,
  0x001E7E_000076_000323_001E7F_000057_000300_001E80_000077,
  0x000300_001E81_000057_000301_001E82_000077_000301_001E83,
  0x000057_000308_001E84_000077_000308_001E85_000057_000307,
  0x001E86_000077_000307_001E87_000057_000323_001E88_000077,
  0x000323_001E89_000058_000307_001E8A_000078_000307_001E8B,
  0x000058_000308_001E8C_000078_000308_001E8D_000059_000307,
  0x001E8E_000079_000307_001E8F_00005A_000302_001E90_00007A,
  0x000302_001E91_00005A_000323_001E92_00007A_000323_001E93,
  0x00005A_000331_001E94_00007A_000331_001E95_000068_000331,
  0x001E96_000074_000308_001E97_000077_00030A_001E98_000079,
  0x00030A_001E99_00017F_000307_001E9B_000041_000323_001EA0,
  0x000061_000323_001EA1_000041_000309_001EA2_000061_000309,
  0x001EA3_0000C2_000301_001EA4_0000E2_000301_001EA5_0000C2,
  0x000300_001EA6_0000E2_000300_001EA7_0000C2_000309_001EA8,
  0x0000E2_000309_001EA9_0000C2_000303_001EAA_0000E2_000303,
  0x001EAB_001EA0_000302_001EAC_001EA1_000302_001EAD_000102,
  0x000301_001EAE_000103_000301_001EAF_000102_000300_001EB0,
  0x000103_000300_001EB1_000102_000309_001EB2_000103_000309,
  0x001EB3_000102_000303_001EB4_000103_000303_001EB5_001EA0,
  0x000306_001EB6_001EA1_000306_001EB7_000045_000323_001EB8,
  0x000065_000323_001EB9_000045_000309_001EBA_000065_000309,
  0x001EBB_000045_000303_001EBC_000065_000303_001EBD_0000CA,
  0x000301_001EBE_0000EA_000301_001EBF_0000CA_000300_001EC0,
  0x0000EA_000300_001EC1_0000CA_000309_001EC2_0000EA_000309,
  0x001EC3_0000CA_000303_001EC4_0000EA_000303_001EC5_001EB8,
  0x000302_001EC6_001EB9_000302_001EC7_000049_000309_001EC8,
  0x000069_000309_001EC9_000049_000323_001ECA_000069_000323,
  0x001ECB_00004F_000323_001ECC_00006F_000323_001ECD_00004F,
  0x000309_001ECE_00006F_000309_001ECF_0000D4_000301_001ED0,
  0x0000F4_000301_001ED1_0000D4_000300_001ED2_0000F4_000300,
  0x001ED3_0000D4_000309_001ED4_0000F4_000309_001ED5_0000D4,
  0x000303_001ED6_0000F4_000303_001ED7_001ECC_000302_001ED8,
  0x001ECD_000302_001ED9_0001A0_000301_001EDA_0001A1_000301,
  0x001EDB_0001A0_000300_001EDC_0001A1_000300_001EDD_0001A0,
  0x000309_001EDE_0001A1_000309_001EDF_0001A0_000303_001EE0,
  0x0001A1_000303_001EE1_0001A0_000323_001EE2_0001A1_000323,
  0x001EE3_000055_000323_001EE4_000075_000323_001EE5_000055,
  0x000309_001EE6_000075_000309_001EE7_0001AF_000301_001EE8,
  0x0001B0_000301_001EE9_0001AF_000300_001EEA_0001B0_000300,
  0x001EEB_0001AF_000309_001EEC_0001B0_000309_001EED_0001AF,
  0x000303_001EEE_0001B0_000303_001EEF_0001AF_000323_001EF0,
  0x0001B0_000323_001EF1_000059_000300_001EF2_000079_000300,
  0x001EF3_000059_000323_001EF4_000079_000323_001EF5_000059,
  0x000309_001EF6_000079_000309_001EF7_000059_000303_001EF8,
  0x000079_000303_001EF9_0003B1_000313_001F00_0003B1_000314,
  0x001F01_001F00_000300_001F02_001F01_000300_001F03_001F00,
  0x000301_001F04_001F01_000301_001F05_001F00_000342_001F06,
  0x001F01_000342_001F07_000391_000313_001F08_000391_000314,
  0x001F09_001F08_000300_001F0A_001F09_000300_001F0B_001F08,
  0x000301_001F0C_001F09_000301_001F0D_001F08_000342_001F0E,
  0x001F09_000342_001F0F_0003B5_000313_001F10_0003B5_000314,
  0x001F11_001F10_000300_001F12_001F11_000300_001F13_001F10,
  0x000301_001F14_001F11_000301_001F15_000395_000313_001F18,
  0x000395_000314_001F19_001F18_000300_001F1A_001F19_000300,
  0x001F1B_001F18_000301_001F1C_001F19_000301_001F1D_0003B7,
  0x000313_001F20_0003B7_000314_001F21_001F20_000300_001F22,
  0x001F21_000300_001F23_001F20_000301_001F24_001F21_000301,
  0x001F25_001F20_000342_001F26_001F21_000342_001F27_000397,
  0x000313_001F28_000397_000314_001F29_001F28_000300_001F2A,
  0x001F29_000300_001F2B_001F28_000301_001F2C_001F29_000301,
  0x001F2D_001F28_000342_001F2E_001F29_000342_001F2F_0003B9,
  0x000313_001F30_0003B9_000314_001F31_001F30_000300_001F32,
  0x001F31_000300_001F33_001F30_000301_001F34_001F31_000301,
  0x001F35_001F30_000342_001F36_001F31_000342_001F37_000399,
  0x000313_001F38_000399_000314_001F39_001F38_000300_001F3A,
  0x001F39_000300_001F3B_001F38_000301_001F3C_001F39_000301,
  0x001F3D_001F38_000342_001F3E_001F39_000342_001F3F_0003BF,
  0x000313_001F40_0003BF_000314_001F41_001F40_000300_001F42,
  0x001F41_000300_001F43_001F40_000301_001F44_001F41_000301,
  0x001F45_00039F_000313_001F48_00039F_000314_001F49_001F48,
  0x000300_001F4A_001F49_000300_001F4B_001F48_000301_001F4C,
  0x001F49_000301_001F4D_0003C5_000313_001F50_0003C5_000314,
  0x001F51_001F50_000300_001F52_001F51_000300_001F53_001F50,
  0x000301_001F54_001F51_000301_001F55_001F50_000342_001F56,
  0x001F51_000342_001F57_0003A5_000314_001F59_001F59_000300,
  0x001F5B_001F59_000301_001F5D_001F59_000342_001F5F_0003C9,
  0x000313_001F60_0003C9_000314_001F61_001F60_000300_001F62,
  0x001F61_000300_001F63_001F60_000301_001F64_001F61_000301,
  0x001F65_001F60_000342_001F66_001F61_000342_001F67_0003A9,
  0x000313_001F68_0003A9_000314_001F69_001F68_000300_001F6A,
  0x001F69_000300_001F6B_001F68_000301_001F6C_001F69_000301,
  0x001F6D_001F68_000342_001F6E_001F69_000342_001F6F_0003B1,
  0x000300_001F70_0003B5_000300_001F72_0003B7_000300_001F74,
  0x0003B9_000300_001F76_0003BF_000300_001F78_0003C5_000300,
  0x001F7A_0003C9_000300_001F7C_001F00_000345_001F80_001F01,
  0x000345_001F81_001F02_000345_001F82_001F03_000345_001F83,
  0x001F04_000345_001F84_001F05_000345_001F85_001F06_000345,
  0x001F86_001F07_000345_001F87_001F08_000345_001F88_001F09,
  0x000345_001F89_001F0A_000345_001F8A_001F0B_000345_001F8B,
  0x001F0C_000345_001F8C_001F0D_000345_001F8D_001F0E_000345,
  0x001F8E_001F0F_000345_001F8F_001F20_000345_001F90_001F21,
  0x000345_001F91_001F22_000345_001F92_001F23_000345_001F93,
  0x001F24_000345_001F94_001F25_000345_001F95_001F26_000345,
  0x001F96_001F27_000345_001F97_001F28_000345_001F98_001F29,
  0x000345_001F99_001F2A_000345_001F9A_001F2B_000345_001F9B,
  0x001F2C_000345_001F9C_001F2D_000345_001F9D_001F2E_000345,
  0x001F9E_001F2F_000345_001F9F_001F60_000345_001FA0_001F61,
  0x000345_001FA1_001F62_000345_001FA2_001F63_000345_001FA3,
  0x001F64_000345_001FA4_001F65_000345_001FA5_001F66_000345,
  0x001FA6_001F67_000345_001FA7_001F68_000345_001FA8_001F69,
  0x000345_001FA9_001F6A_000345_001FAA_001F6B_000345_001FAB,
  0x001F6C_000345_001FAC_001F6D_000345_001FAD_001F6E_000345,
  0x001FAE_001F6F_000345_001FAF_0003B1_000306_001FB0_0003B1,
  0x000304_001FB1_001F70_000345_001FB2_0003B1_000345_001FB3,
  0x0003AC_000345_001FB4_0003B1_000342_001FB6_001FB6_000345,
  0x001FB7_000391_000306_001FB8_000391_000304_001FB9_000391,
  0x000300_001FBA_000391_000345_001FBC_0000A8_000342_001FC1,
  0x001F74_000345_001FC2_0003B7_000345_001FC3_0003AE_000345,
  0x001FC4_0003B7_000342_001FC6_001FC6_000345_001FC7_000395,
  0x000300_001FC8_000397_000300_001FCA_000397_000345_001FCC,
  0x001FBF_000300_001FCD_001FBF_000301_001FCE_001FBF_000342,
  0x001FCF_0003B9_000306_001FD0_0003B9_000304_001FD1_0003CA,
  0x000300_001FD2_0003B9_000342_001FD6_0003CA_000342_001FD7,
  0x000399_000306_001FD8_000399_000304_001FD9_000399_000300,
  0x001FDA_001FFE_000300_001FDD_001FFE_000301_001FDE_001FFE,
  0x000342_001FDF_0003C5_000306_001FE0_0003C5_000304_001FE1,
  0x0003CB_000300_001FE2_0003C1_000313_001FE4_0003C1_000314,
  0x001FE5_0003C5_000342_001FE6_0003CB_000342_001FE7_0003A5,
  0x000306_001FE8_0003A5_000304_001FE9_0003A5_000300_001FEA,
  0x0003A1_000314_001FEC_0000A8_000300_001FED_001F7C_000345,
  0x001FF2_0003C9_000345_001FF3_0003CE_000345_001FF4_0003C9,
  0x000342_001FF6_001FF6_000345_001FF7_00039F_000300_001FF8,
  0x0003A9_000300_001FFA_0003A9_000345_001FFC_002190_000338,
  0x00219A_002192_000338_00219B_002194_000338_0021AE_0021D0,
  0x000338_0021CD_0021D4_000338_0021CE_0021D2_000338_0021CF,
  0x002203_000338_002204_002208_000338_002209_00220B_000338,
  0x00220C_002223_000338_002224_002225_000338_002226_00223C,
  0x000338_002241_002243_000338_002244_002245_000338_002247,
  0x002248_000338_002249_00003D_000338_002260_002261_000338,
  0x002262_00224D_000338_00226D_00003C_000338_00226E_00003E,
  0x000338_00226F_002264_000338_002270_002265_000338_002271,
  0x002272_000338_002274_002273_000338_002275_002276_000338,
  0x002278_002277_000338_002279_00227A_000338_002280_00227B,
  0x000338_002281_002282_000338_002284_002283_000338_002285,
  0x002286_000338_002288_002287_000338_002289_0022A2_000338,
  0x0022AC_0022A8_000338_0022AD_0022A9_000338_0022AE_0022AB,
  0x000338_0022AF_00227C_000338_0022E0_00227D_000338_0022E1,
  0x002291_000338_0022E2_002292_000338_0022E3_0022B2_000338,
  0x0022EA_0022B3_000338_0022EB_0022B4_000338_0022EC_0022B5,
  0x000338_0022ED_00304B_003099_00304C_00304D_003099_00304E,
  0x00304F_003099_003050_003051_003099_003052_003053_003099,
  0x003054_003055_003099_003056_003057_003099_003058_003059,
  0x003099_00305A_00305B_003099_00305C_00305D_003099_00305E,
  0x00305F_003099_003060_003061_003099_003062_003064_003099,
  0x003065_003066_003099_003067_003068_003099_003069_00306F,
  0x003099_003070_00306F_00309A_003071_003072_003099_003073,
  0x003072_00309A_003074_003075_003099_003076_003075_00309A,
  0x003077_003078_003099_003079_003078_00309A_00307A_00307B,
  0x003099_00307C_00307B_00309A_00307D_003046_003099_003094,
  0x00309D_003099_00309E_0030AB_003099_0030AC_0030AD_003099,
  0x0030AE_0030AF_003099_0030B0_0030B1_003099_0030B2_0030B3,
  0x003099_0030B4_0030B5_003099_0030B6_0030B7_003099_0030B8,
  0x0030B9_003099_0030BA_0030BB_003099_0030BC_0030BD_003099,
  0x0030BE_0030BF_003099_0030C0_0030C1_003099_0030C2_0030C4,
  0x003099_0030C5_0030C6_003099_0030C7_0030C8_003099_0030C9,
  0x0030CF_003099_0030D0_0030CF_00309A_0030D1_0030D2_003099,
  0x0030D3_0030D2_00309A_0030D4_0030D5_003099_0030D6_0030D5,
  0x00309A_0030D7_0030D8_003099_0030D9_0030D8_00309A_0030DA,
  0x0030DB_003099_0030DC_0030DB_00309A_0030DD_0030A6_003099,
  0x0030F4_0030EF_003099_0030F7_0030F0_003099_0030F8_0030F1,
  0x003099_0030F9_0030F2_003099_0030FA_0030FD_003099_0030FE,
  0x0105D2_000307_0105C9_0105DA_000307_0105E4_011099_0110BA,
  0x01109A_01109B_0110BA_01109C_0110A5_0110BA_0110AB_011131,
  0x011127_01112E_011132_011127_01112F_011347_01133E_01134B,
  0x011347_011357_01134C_011382_0113C9_011383_011384_0113BB,
  0x011385_01138B_0113C2_01138E_011390_0113C9_011391_0113C2,
  0x0113C2_0113C5_0113C2_0113B8_0113C7_0113C2_0113C9_0113C8,
  0x0114B9_0114BA_0114BB_0114B9_0114B0_0114BC_0114B9_0114BD,
  0x0114BE_0115B8_0115AF_0115BA_0115B9_0115AF_0115BB_011935,
  0x011930_011938_01611E_01611E_016121_01611E_016129_016122,
  0x01611E_01611F_016123_016129_01611F_016124_01611E_016120,
  0x016125_016121_01611F_016126_016122_01611F_016127_016121,
  0x016120_016128_016D67_016D67_016D68_016D63_016D67_016D69,
  0x016D69_016D67_016D6A_110000_110000_110000_110000_110000]

/-- Ranges of marks, by the first and the last of them, with their class. -/
def markClasses : List (Nat × Nat × Nat) := unpackTriples <| unpackRows [
  0x000300_000314_0000E6_000315_000315_0000E8_000316_000319,
  0x0000DC_00031A_00031A_0000E8_00031B_00031B_0000D8_00031C,
  0x000320_0000DC_000321_000322_0000CA_000323_000326_0000DC,
  0x000327_000328_0000CA_000329_000333_0000DC_000334_000338,
  0x000001_000339_00033C_0000DC_00033D_000344_0000E6_000345,
  0x000345_0000F0_000346_000346_0000E6_000347_000349_0000DC,
  0x00034A_00034C_0000E6_00034D_00034E_0000DC_000350_000352,
  0x0000E6_000353_000356_0000DC_000357_000357_0000E6_000358,
  0x000358_0000E8_000359_00035A_0000DC_00035B_00035B_0000E6,
  0x00035C_00035C_0000E9_00035D_00035E_0000EA_00035F_00035F,
  0x0000E9_000360_000361_0000EA_000362_000362_0000E9_000363,
  0x00036F_0000E6_000483_000487_0000E6_000591_000591_0000DC,
  0x000592_000595_0000E6_000596_000596_0000DC_000597_000599,
  0x0000E6_00059A_00059A_0000DE_00059B_00059B_0000DC_00059C,
  0x0005A1_0000E6_0005A2_0005A7_0000DC_0005A8_0005A9_0000E6,
  0x0005AA_0005AA_0000DC_0005AB_0005AC_0000E6_0005AD_0005AD,
  0x0000DE_0005AE_0005AE_0000E4_0005AF_0005AF_0000E6_0005B0,
  0x0005B0_00000A_0005B1_0005B1_00000B_0005B2_0005B2_00000C,
  0x0005B3_0005B3_00000D_0005B4_0005B4_00000E_0005B5_0005B5,
  0x00000F_0005B6_0005B6_000010_0005B7_0005B7_000011_0005B8,
  0x0005B8_000012_0005B9_0005BA_000013_0005BB_0005BB_000014,
  0x0005BC_0005BC_000015_0005BD_0005BD_000016_0005BF_0005BF,
  0x000017_0005C1_0005C1_000018_0005C2_0005C2_000019_0005C4,
  0x0005C4_0000E6_0005C5_0005C5_0000DC_0005C7_0005C7_000012,
  0x000610_000617_0000E6_000618_000618_00001E_000619_000619,
  0x00001F_00061A_00061A_000020_00064B_00064B_00001B_00064C,
  0x00064C_00001C_00064D_00064D_00001D_00064E_00064E_00001E,
  0x00064F_00064F_00001F_000650_000650_000020_000651_000651,
  0x000021_000652_000652_000022_000653_000654_0000E6_000655,
  0x000656_0000DC_000657_00065B_0000E6_00065C_00065C_0000DC,
  0x00065D_00065E_0000E6_00065F_00065F_0000DC_000670_000670,
  0x000023_0006D6_0006DC_0000E6_0006DF_0006E2_0000E6_0006E3,
  0x0006E3_0000DC_0006E4_0006E4_0000E6_0006E7_0006E8_0000E6,
  0x0006EA_0006EA_0000DC_0006EB_0006EC_0000E6_0006ED_0006ED,
  0x0000DC_000711_000711_000024_000730_000730_0000E6_000731,
  0x000731_0000DC_000732_000733_0000E6_000734_000734_0000DC,
  0x000735_000736_0000E6_000737_000739_0000DC_00073A_00073A,
  0x0000E6_00073B_00073C_0000DC_00073D_00073D_0000E6_00073E,
  0x00073E_0000DC_00073F_000741_0000E6_000742_000742_0000DC,
  0x000743_000743_0000E6_000744_000744_0000DC_000745_000745,
  0x0000E6_000746_000746_0000DC_000747_000747_0000E6_000748,
  0x000748_0000DC_000749_00074A_0000E6_0007EB_0007F1_0000E6,
  0x0007F2_0007F2_0000DC_0007F3_0007F3_0000E6_0007FD_0007FD,
  0x0000DC_000816_000819_0000E6_00081B_000823_0000E6_000825,
  0x000827_0000E6_000829_00082D_0000E6_000859_00085B_0000DC,
  0x000898_000898_0000E6_000899_00089B_0000DC_00089C_00089F,
  0x0000E6_0008CA_0008CE_0000E6_0008CF_0008D3_0000DC_0008D4,
  0x0008E1_0000E6_0008E3_0008E3_0000DC_0008E4_0008E5_0000E6,
  0x0008E6_0008E6_0000DC_0008E7_0008E8_0000E6_0008E9_0008E9,
  0x0000DC_0008EA_0008EC_0000E6_0008ED_0008EF_0000DC_0008F0,
  0x0008F0_00001B_0008F1_0008F1_00001C_0008F2_0008F2_00001D,
  0x0008F3_0008F5_0000E6_0008F6_0008F6_0000DC_0008F7_0008F8,
  0x0000E6_0008F9_0008FA_0000DC_0008FB_0008FF_0000E6_00093C,
  0x00093C_000007_00094D_00094D_000009_000951_000951_0000E6,
  0x000952_000952_0000DC_000953_000954_0000E6_0009BC_0009BC,
  0x000007_0009CD_0009CD_000009_0009FE_0009FE_0000E6_000A3C,
  0x000A3C_000007_000A4D_000A4D_000009_000ABC_000ABC_000007,
  0x000ACD_000ACD_000009_000B3C_000B3C_000007_000B4D_000B4D,
  0x000009_000BCD_000BCD_000009_000C3C_000C3C_000007_000C4D,
  0x000C4D_000009_000C55_000C55_000054_000C56_000C56_00005B,
  0x000CBC_000CBC_000007_000CCD_000CCD_000009_000D3B_000D3C,
  0x000009_000D4D_000D4D_000009_000DCA_000DCA_000009_000E38,
  0x000E39_000067_000E3A_000E3A_000009_000E48_000E4B_00006B,
  0x000EB8_000EB9_000076_000EBA_000EBA_000009_000EC8_000ECB,
  0x00007A_000F18_000F19_0000DC_000F35_000F35_0000DC_000F37,
  0x000F37_0000DC_000F39_000F39_0000D8_000F71_000F71_000081,
  0x000F72_000F72_000082_000F74_000F74_000084_000F7A_000F7D,
  0x000082_000F80_000F80_000082_000F82_000F83_0000E6_000F84,
  0x000F84_000009_000F86_000F87_0000E6_000FC6_000FC6_0000DC,
  0x001037_001037_000007_001039_00103A_000009_00108D_00108D,
  0x0000DC_00135D_00135F_0000E6_001714_001715_000009_001734,
  0x001734_000009_0017D2_0017D2_000009_0017DD_0017DD_0000E6,
  0x0018A9_0018A9_0000E4_001939_001939_0000DE_00193A_00193A,
  0x0000E6_00193B_00193B_0000DC_001A17_001A17_0000E6_001A18,
  0x001A18_0000DC_001A60_001A60_000009_001A75_001A7C_0000E6,
  0x001A7F_001A7F_0000DC_001AB0_001AB4_0000E6_001AB5_001ABA,
  0x0000DC_001ABB_001ABC_0000E6_001ABD_001ABD_0000DC_001ABF,
  0x001AC0_0000DC_001AC1_001AC2_0000E6_001AC3_001AC4_0000DC,
  0x001AC5_001AC9_0000E6_001ACA_001ACA_0000DC_001ACB_001ACE,
  0x0000E6_001B34_001B34_000007_001B44_001B44_000009_001B6B,
  0x001B6B_0000E6_001B6C_001B6C_0000DC_001B6D_001B73_0000E6,
  0x001BAA_001BAB_000009_001BE6_001BE6_000007_001BF2_001BF3,
  0x000009_001C37_001C37_000007_001CD0_001CD2_0000E6_001CD4,
  0x001CD4_000001_001CD5_001CD9_0000DC_001CDA_001CDB_0000E6,
  0x001CDC_001CDF_0000DC_001CE0_001CE0_0000E6_001CE2_001CE8,
  0x000001_001CED_001CED_0000DC_001CF4_001CF4_0000E6_001CF8,
  0x001CF9_0000E6_001DC0_001DC1_0000E6_001DC2_001DC2_0000DC,
  0x001DC3_001DC9_0000E6_001DCA_001DCA_0000DC_001DCB_001DCC,
  0x0000E6_001DCD_001DCD_0000EA_001DCE_001DCE_0000D6_001DCF,
  0x001DCF_0000DC_001DD0_001DD0_0000CA_001DD1_001DF5_0000E6,
  0x001DF6_001DF6_0000E8_001DF7_001DF8_0000E4_001DF9_001DF9,
  0x0000DC_001DFA_001DFA_0000DA_001DFB_001DFB_0000E6_001DFC,
  0x001DFC_0000E9_001DFD_001DFD_0000DC_001DFE_001DFE_0000E6,
  0x001DFF_001DFF_0000DC_0020D0_0020D1_0000E6_0020D2_0020D3,
  0x000001_0020D4_0020D7_0000E6_0020D8_0020DA_000001_0020DB,
  0x0020DC_0000E6_0020E1_0020E1_0000E6_0020E5_0020E6_000001,
  0x0020E7_0020E7_0000E6_0020E8_0020E8_0000DC_0020E9_0020E9,
  0x0000E6_0020EA_0020EB_000001_0020EC_0020EF_0000DC_0020F0,
  0x0020F0_0000E6_002CEF_002CF1_0000E6_002D7F_002D7F_000009,
  0x002DE0_002DFF_0000E6_00302A_00302A_0000DA_00302B_00302B,
  0x0000E4_00302C_00302C_0000E8_00302D_00302D_0000DE_00302E,
  0x00302F_0000E0_003099_00309A_000008_00A66F_00A66F_0000E6,
  0x00A674_00A67D_0000E6_00A69E_00A69F_0000E6_00A6F0_00A6F1,
  0x0000E6_00A806_00A806_000009_00A82C_00A82C_000009_00A8C4,
  0x00A8C4_000009_00A8E0_00A8F1_0000E6_00A92B_00A92D_0000DC,
  0x00A953_00A953_000009_00A9B3_00A9B3_000007_00A9C0_00A9C0,
  0x000009_00AAB0_00AAB0_0000E6_00AAB2_00AAB3_0000E6_00AAB4,
  0x00AAB4_0000DC_00AAB7_00AAB8_0000E6_00AABE_00AABF_0000E6,
  0x00AAC1_00AAC1_0000E6_00AAF6_00AAF6_000009_00ABED_00ABED,
  0x000009_00FB1E_00FB1E_00001A_00FE20_00FE26_0000E6_00FE27,
  0x00FE2D_0000DC_00FE2E_00FE2F_0000E6_0101FD_0101FD_0000DC,
  0x0102E0_0102E0_0000DC_010376_01037A_0000E6_010A0D_010A0D,
  0x0000DC_010A0F_010A0F_0000E6_010A38_010A38_0000E6_010A39,
  0x010A39_000001_010A3A_010A3A_0000DC_010A3F_010A3F_000009,
  0x010AE5_010AE5_0000E6_010AE6_010AE6_0000DC_010D24_010D27,
  0x0000E6_010EAB_010EAC_0000E6_010EFD_010EFF_0000DC_010F46,
  0x010F47_0000DC_010F48_010F4A_0000E6_010F4B_010F4B_0000DC,
  0x010F4C_010F4C_0000E6_010F4D_010F50_0000DC_010F82_010F82,
  0x0000E6_010F83_010F83_0000DC_010F84_010F84_0000E6_010F85,
  0x010F85_0000DC_011046_011046_000009_011070_011070_000009,
  0x01107F_01107F_000009_0110B9_0110B9_000009_0110BA_0110BA,
  0x000007_011100_011102_0000E6_011133_011134_000009_011173,
  0x011173_000007_0111C0_0111C0_000009_0111CA_0111CA_000007,
  0x011235_011235_000009_011236_011236_000007_0112E9_0112E9,
  0x000007_0112EA_0112EA_000009_01133B_01133C_000007_01134D,
  0x01134D_000009_011366_01136C_0000E6_011370_011374_0000E6,
  0x011442_011442_000009_011446_011446_000007_01145E_01145E,
  0x0000E6_0114C2_0114C2_000009_0114C3_0114C3_000007_0115BF,
  0x0115BF_000009_0115C0_0115C0_000007_01163F_01163F_000009,
  0x0116B6_0116B6_000009_0116B7_0116B7_000007_01172B_01172B,
  0x000009_011839_011839_000009_01183A_01183A_000007_01193D,
  0x01193E_000009_011943_011943_000007_0119E0_0119E0_000009,
  0x011A34_011A34_000009_011A47_011A47_000009_011A99_011A99,
  0x000009_011C3F_011C3F_000009_011D42_011D42_000007_011D44,
  0x011D45_000009_011D97_011D97_000009_011F41_011F42_000009,
  0x016AF0_016AF4_000001_016B30_016B36_0000E6_016FF0_016FF1,
  0x000006_01BC9E_01BC9E_000001_01D165_01D166_0000D8_01D167,
  0x01D169_000001_01D16D_01D16D_0000E2_01D16E_01D172_0000D8,
  0x01D17B_01D182_0000DC_01D185_01D189_0000E6_01D18A_01D18B,
  0x0000DC_01D1AA_01D1AD_0000E6_01D242_01D244_0000E6_01E000,
  0x01E006_0000E6_01E008_01E018_0000E6_01E01B_01E021_0000E6,
  0x01E023_01E024_0000E6_01E026_01E02A_0000E6_01E08F_01E08F,
  0x0000E6_01E130_01E136_0000E6_01E2AE_01E2AE_0000E6_01E2EC,
  0x01E2EF_0000E6_01E4EC_01E4ED_0000E8_01E4EE_01E4EE_0000DC,
  0x01E4EF_01E4EF_0000E6_01E8D0_01E8D6_0000DC_01E944_01E949,
  0x0000E6_01E94A_01E94A_000007_110000_110000_110000_110000]

end LinkedShapes.Unicode
