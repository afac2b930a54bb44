import LinkedShapes.Unicode.CodePoints

/-!
# Printable characters

Quoted text writes a character as it is unless it is a control, a format character, a surrogate,
a private or unassigned code point, a separator other than the space, or a character that extends
the grapheme before it.
-/

namespace LinkedShapes.Unicode

/-- The code points that have no visible form of their own. -/
def unprintable : CodePoints := .ofRows [
  0x000000_000020_00007F_0000A1_0000AD_0000AE_000378_00037A,
  0x000380_000384_00038B_00038C_00038D_00038E_0003A2_0003A3,
  0x000530_000531_000557_000559_00058B_00058D_000590_000591,
  0x0005C8_0005D0_0005EB_0005EF_0005F5_000606_00061C_00061D,
  0x0006DD_0006DE_00070E_000710_00074B_00074D_0007B2_0007C0,
  0x0007FB_0007FD_00082E_000830_00083F_000840_00085C_00085E,
  0x00085F_000860_00086B_000870_000890_000897_0008E2_0008E3,
  0x000984_000985_00098D_00098F_000991_000993_0009A9_0009AA,
  0x0009B1_0009B2_0009B3_0009B6_0009BA_0009BC_0009C5_0009C7,
  0x0009C9_0009CB_0009CF_0009D7_0009D8_0009DC_0009DE_0009DF,
  0x0009E4_0009E6_0009FF_000A01_000A04_000A05_000A0B_000A0F,
  0x000A11_000A13_000A29_000A2A_000A31_000A32_000A34_000A35,
  0x000A37_000A38_000A3A_000A3C_000A3D_000A3E_000A43_000A47,
  0x000A49_000A4B_000A4E_000A51_000A52_000A59_000A5D_000A5E,
  0x000A5F_000A66_000A77_000A81_000A84_000A85_000A8E_000A8F,
  0x000A92_000A93_000AA9_000AAA_000AB1_000AB2_000AB4_000AB5,
  0x000ABA_000ABC_000AC6_000AC7_000ACA_000ACB_000ACE_000AD0,
  0x000AD1_000AE0_000AE4_000AE6_000AF2_000AF9_000B00_000B01,
  0x000B04_000B05_000B0D_000B0F_000B11_000B13_000B29_000B2A,
  0x000B31_000B32_000B34_000B35_000B3A_000B3C_000B45_000B47,
  0x000B49_000B4B_000B4E_000B55_000B58_000B5C_000B5E_000B5F,
  0x000B64_000B66_000B78_000B82_000B84_000B85_000B8B_000B8E,
  0x000B91_000B92_000B96_000B99_000B9B_000B9C_000B9D_000B9E,
  0x000BA0_000BA3_000BA5_000BA8_000BAB_000BAE_000BBA_000BBE,
  0x000BC3_000BC6_000BC9_000BCA_000BCE_000BD0_000BD1_000BD7,
  0x000BD8_000BE6_000BFB_000C00_000C0D_000C0E_000C11_000C12,
  0x000C29_000C2A_000C3A_000C3C_000C45_000C46_000C49_000C4A,
  0x000C4E_000C55_000C57_000C58_000C5B_000C5C_000C5E_000C60,
  0x000C64_000C66_000C70_000C77_000C8D_000C8E_000C91_000C92,
  0x000CA9_000CAA_000CB4_000CB5_000CBA_000CBC_000CC5_000CC6,
  0x000CC9_000CCA_000CCE_000CD5_000CD7_000CDC_000CDF_000CE0,
  0x000CE4_000CE6_000CF0_000CF1_000CF4_000D00_000D0D_000D0E,
  0x000D11_000D12_000D45_000D46_000D49_000D4A_000D50_000D54,
  0x000D64_000D66_000D80_000D81_000D84_000D85_000D97_000D9A,
  0x000DB2_000DB3_000DBC_000DBD_000DBE_000DC0_000DC7_000DCA,
  0x000DCB_000DCF_000DD5_000DD6_000DD7_000DD8_000DE0_000DE6,
  0x000DF0_000DF2_000DF5_000E01_000E3B_000E3F_000E5C_000E81,
  0x000E83_000E84_000E85_000E86_000E8B_000E8C_000EA4_000EA5,
  0x000EA6_000EA7_000EBE_000EC0_000EC5_000EC6_000EC7_000EC8,
  0x000ECF_000ED0_000EDA_000EDC_000EE0_000F00_000F48_000F49,
  0x000F6D_000F71_000F98_000F99_000FBD_000FBE_000FCD_000FCE,
  0x000FDB_001000_0010C6_0010C7_0010C8_0010CD_0010CE_0010D0,
  0x001249_00124A_00124E_001250_001257_001258_001259_00125A,
  0x00125E_001260_001289_00128A_00128E_001290_0012B1_0012B2,
  0x0012B6_0012B8_0012BF_0012C0_0012C1_0012C2_0012C6_0012C8,
  0x0012D7_0012D8_001311_001312_001316_001318_00135B_00135D,
  0x00137D_001380_00139A_0013A0_0013F6_0013F8_0013FE_001400,
  0x001680_001681_00169D_0016A0_0016F9_001700_001716_00171F,
  0x001737_001740_001754_001760_00176D_00176E_001771_001772,
  0x001774_001780_0017DE_0017E0_0017EA_0017F0_0017FA_001800,
  0x00180E_00180F_00181A_001820_001879_001880_0018AB_0018B0,
  0x0018F6_001900_00191F_001920_00192C_001930_00193C_001940,
  0x001941_001944_00196E_001970_001975_001980_0019AC_0019B0,
  0x0019CA_0019D0_0019DB_0019DE_001A1C_001A1E_001A5F_001A60,
  0x001A7D_001A7F_001A8A_001A90_001A9A_001AA0_001AAE_001AB0,
  0x001ADE_001AE0_001AEC_001B00_001B4D_001B4E_001BF4_001BFC,
  0x001C38_001C3B_001C4A_001C4D_001C8B_001C90_001CBB_001CBD,
  0x001CC8_001CD0_001CFB_001D00_001F16_001F18_001F1E_001F20,
  0x001F46_001F48_001F4E_001F50_001F58_001F59_001F5A_001F5B,
  0x001F5C_001F5D_001F5E_001F5F_001F7E_001F80_001FB5_001FB6,
  0x001FC5_001FC6_001FD4_001FD6_001FDC_001FDD_001FF0_001FF2,
  0x001FF5_001FF6_001FFF_002010_002028_002030_00205F_002070,
  0x002072_002074_00208F_002090_00209D_0020A0_0020C2_0020D0,
  0x0020F1_002100_00218C_002190_00242A_002440_00244B_002460,
  0x002B74_002B76_002CF4_002CF9_002D26_002D27_002D28_002D2D,
  0x002D2E_002D30_002D68_002D6F_002D71_002D7F_002D97_002DA0,
  0x002DA7_002DA8_002DAF_002DB0_002DB7_002DB8_002DBF_002DC0,
  0x002DC7_002DC8_002DCF_002DD0_002DD7_002DD8_002DDF_002DE0,
  0x002E5E_002E80_002E9A_002E9B_002EF4_002F00_002FD6_002FF0,
  0x003000_003001_003040_003041_003097_003099_003100_003105,
  0x003130_003131_00318F_003190_0031E6_0031EF_00321F_003220,
  0x00A48D_00A490_00A4C7_00A4D0_00A62C_00A640_00A6F8_00A700,
  0x00A7DD_00A7F1_00A82D_00A830_00A83A_00A840_00A878_00A880,
  0x00A8C6_00A8CE_00A8DA_00A8E0_00A954_00A95F_00A97D_00A980,
  0x00A9CE_00A9CF_00A9DA_00A9DE_00A9FF_00AA00_00AA37_00AA40,
  0x00AA4E_00AA50_00AA5A_00AA5C_00AAC3_00AADB_00AAF7_00AB01,
  0x00AB07_00AB09_00AB0F_00AB11_00AB17_00AB20_00AB27_00AB28,
  0x00AB2F_00AB30_00AB6C_00AB70_00ABEE_00ABF0_00ABFA_00AC00,
  0x00D7A4_00D7B0_00D7C7_00D7CB_00D7FC_00F900_00FA6E_00FA70,
  0x00FADA_00FB00_00FB07_00FB13_00FB18_00FB1D_00FB37_00FB38,
  0x00FB3D_00FB3E_00FB3F_00FB40_00FB42_00FB43_00FB45_00FB46,
  0x00FDD0_00FDF0_00FE1A_00FE20_00FE53_00FE54_00FE67_00FE68,
  0x00FE6C_00FE70_00FE75_00FE76_00FEFD_00FF01_00FFBF_00FFC2,
  0x00FFC8_00FFCA_00FFD0_00FFD2_00FFD8_00FFDA_00FFDD_00FFE0,
  0x00FFE7_00FFE8_00FFEF_00FFFC_00FFFE_010000_01000C_01000D,
  0x010027_010028_01003B_01003C_01003E_01003F_01004E_010050,
  0x01005E_010080_0100FB_010100_010103_010107_010134_010137,
  0x01018F_010190_01019D_0101A0_0101A1_0101D0_0101FE_010280,
  0x01029D_0102A0_0102D1_0102E0_0102FC_010300_010324_01032D,
  0x01034B_010350_01037B_010380_01039E_01039F_0103C4_0103C8,
  0x0103D6_010400_01049E_0104A0_0104AA_0104B0_0104D4_0104D8,
  0x0104FC_010500_010528_010530_010564_01056F_01057B_01057C,
  0x01058B_01058C_010593_010594_010596_010597_0105A2_0105A3,
  0x0105B2_0105B3_0105BA_0105BB_0105BD_0105C0_0105F4_010600,
  0x010737_010740_010756_010760_010768_010780_010786_010787,
  0x0107B1_0107B2_0107BB_010800_010806_010808_010809_01080A,
  0x010836_010837_010839_01083C_01083D_01083F_010856_010857,
  0x01089F_0108A7_0108B0_0108E0_0108F3_0108F4_0108F6_0108FB,
  0x01091C_01091F_01093A_01093F_01095A_010980_0109B8_0109BC,
  0x0109D0_0109D2_010A04_010A05_010A07_010A0C_010A14_010A15,
  0x010A18_010A19_010A36_010A38_010A3B_010A3F_010A49_010A50,
  0x010A59_010A60_010AA0_010AC0_010AE7_010AEB_010AF7_010B00,
  0x010B36_010B39_010B56_010B58_010B73_010B78_010B92_010B99,
  0x010B9D_010BA9_010BB0_010C00_010C49_010C80_010CB3_010CC0,
  0x010CF3_010CFA_010D28_010D30_010D3A_010D40_010D66_010D69,
  0x010D86_010D8E_010D90_010E60_010E7F_010E80_010EAA_010EAB,
  0x010EAE_010EB0_010EB2_010EC2_010EC8_010ED0_010ED9_010EFA,
  0x010F28_010F30_010F5A_010F70_010F8A_010FB0_010FCC_010FE0,
  0x010FF7_011000_01104E_011052_011076_01107F_0110BD_0110BE,
  0x0110C3_0110D0_0110E9_0110F0_0110FA_011100_011135_011136,
  0x011148_011150_011177_011180_0111E0_0111E1_0111F5_011200,
  0x011212_011213_011242_011280_011287_011288_011289_01128A,
  0x01128E_01128F_01129E_01129F_0112AA_0112B0_0112EB_0112F0,
  0x0112FA_011300_011304_011305_01130D_01130F_011311_011313,
  0x011329_01132A_011331_011332_011334_011335_01133A_01133B,
  0x011345_011347_011349_01134B_01134E_011350_011351_011357,
  0x011358_01135D_011364_011366_01136D_011370_011375_011380,
  0x01138A_01138B_01138C_01138E_01138F_011390_0113B6_0113B7,
  0x0113C1_0113C2_0113C3_0113C5_0113C6_0113C7_0113CB_0113CC,
  0x0113D6_0113D7_0113D9_0113E1_0113E3_011400_01145C_01145D,
  0x011462_011480_0114C8_0114D0_0114DA_011580_0115B6_0115B8,
  0x0115DE_011600_011645_011650_01165A_011660_01166D_011680,
  0x0116BA_0116C0_0116CA_0116D0_0116E4_011700_01171B_01171D,
  0x01172C_011730_011747_011800_01183C_0118A0_0118F3_0118FF,
  0x011907_011909_01190A_01190C_011914_011915_011917_011918,
  0x011936_011937_011939_01193B_011947_011950_01195A_0119A0,
  0x0119A8_0119AA_0119D8_0119DA_0119E5_011A00_011A48_011A50,
  0x011AA3_011AB0_011AF9_011B00_011B0A_011B60_011B68_011BC0,
  0x011BE2_011BF0_011BFA_011C00_011C09_011C0A_011C37_011C38,
  0x011C46_011C50_011C6D_011C70_011C90_011C92_011CA8_011CA9,
  0x011CB7_011D00_011D07_011D08_011D0A_011D0B_011D37_011D3A,
  0x011D3B_011D3C_011D3E_011D3F_011D48_011D50_011D5A_011D60,
  0x011D66_011D67_011D69_011D6A_011D8F_011D90_011D92_011D93,
  0x011D99_011DA0_011DAA_011DB0_011DDC_011DE0_011DEA_011EE0,
  0x011EF9_011F00_011F11_011F12_011F3B_011F3E_011F5B_011FB0,
  0x011FB1_011FC0_011FF2_011FFF_01239A_012400_01246F_012470,
  0x012475_012480_012544_012F90_012FF3_013000_013430_013440,
  0x013456_013460_0143FB_014400_014647_016100_01613A_016800,
  0x016A39_016A40_016A5F_016A60_016A6A_016A6E_016ABF_016AC0,
  0x016ACA_016AD0_016AEE_016AF0_016AF6_016B00_016B46_016B50,
  0x016B5A_016B5B_016B62_016B63_016B78_016B7D_016B90_016D40,
  0x016D7A_016E40_016E9B_016EA0_016EB9_016EBB_016ED4_016F00,
  0x016F4B_016F4F_016F88_016F8F_016FA0_016FE0_016FE5_016FF0,
  0x016FF7_017000_018CD6_018CFF_018D1F_018D80_018DF3_01AFF0,
  0x01AFF4_01AFF5_01AFFC_01AFFD_01AFFF_01B000_01B123_01B132,
  0x01B133_01B150_01B153_01B155_01B156_01B164_01B168_01B170,
  0x01B2FC_01BC00_01BC6B_01BC70_01BC7D_01BC80_01BC89_01BC90,
  0x01BC9A_01BC9C_01BCA0_01CC00_01CCFD_01CD00_01CEB4_01CEBA,
  0x01CED1_01CEE0_01CEF1_01CF00_01CF2E_01CF30_01CF47_01CF50,
  0x01CFC4_01D000_01D0F6_01D100_01D127_01D129_01D173_01D17B,
  0x01D1EB_01D200_01D246_01D2C0_01D2D4_01D2E0_01D2F4_01D300,
  0x01D357_01D360_01D379_01D400_01D455_01D456_01D49D_01D49E,
  0x01D4A0_01D4A2_01D4A3_01D4A5_01D4A7_01D4A9_01D4AD_01D4AE,
  0x01D4BA_01D4BB_01D4BC_01D4BD_01D4C4_01D4C5_01D506_01D507,
  0x01D50B_01D50D_01D515_01D516_01D51D_01D51E_01D53A_01D53B,
  0x01D53F_01D540_01D545_01D546_01D547_01D54A_01D551_01D552,
  0x01D6A6_01D6A8_01D7CC_01D7CE_01DA8C_01DA9B_01DAA0_01DAA1,
  0x01DAB0_01DF00_01DF1F_01DF25_01DF2B_01E000_01E007_01E008,
  0x01E019_01E01B_01E022_01E023_01E025_01E026_01E02B_01E030,
  0x01E06E_01E08F_01E090_01E100_01E12D_01E130_01E13E_01E140,
  0x01E14A_01E14E_01E150_01E290_01E2AF_01E2C0_01E2FA_01E2FF,
  0x01E300_01E4D0_01E4FA_01E5D0_01E5FB_01E5FF_01E600_01E6C0,
  0x01E6DF_01E6E0_01E6F6_01E6FE_01E700_01E7E0_01E7E7_01E7E8,
  0x01E7EC_01E7ED_01E7EF_01E7F0_01E7FF_01E800_01E8C5_01E8C7,
  0x01E8D7_01E900_01E94C_01E950_01E95A_01E95E_01E960_01EC71,
  0x01ECB5_01ED01_01ED3E_01EE00_01EE04_01EE05_01EE20_01EE21,
  0x01EE23_01EE24_01EE25_01EE27_01EE28_01EE29_01EE33_01EE34,
  0x01EE38_01EE39_01EE3A_01EE3B_01EE3C_01EE42_01EE43_01EE47,
  0x01EE48_01EE49_01EE4A_01EE4B_01EE4C_01EE4D_01EE50_01EE51,
  0x01EE53_01EE54_01EE55_01EE57_01EE58_01EE59_01EE5A_01EE5B,
  0x01EE5C_01EE5D_01EE5E_01EE5F_01EE60_01EE61_01EE63_01EE64,
  0x01EE65_01EE67_01EE6B_01EE6C_01EE73_01EE74_01EE78_01EE79,
  0x01EE7D_01EE7E_01EE7F_01EE80_01EE8A_01EE8B_01EE9C_01EEA1,
  0x01EEA4_01EEA5_01EEAA_01EEAB_01EEBC_01EEF0_01EEF2_01F000,
  0x01F02C_01F030_01F094_01F0A0_01F0AF_01F0B1_01F0C0_01F0C1,
  0x01F0D0_01F0D1_01F0F6_01F100_01F1AE_01F1E6_01F203_01F210,
  0x01F23C_01F240_01F249_01F250_01F252_01F260_01F266_01F300,
  0x01F6D9_01F6DC_01F6ED_01F6F0_01F6FD_01F700_01F7DA_01F7E0,
  0x01F7EC_01F7F0_01F7F1_01F800_01F80C_01F810_01F848_01F850,
  0x01F85A_01F860_01F888_01F890_01F8AE_01F8B0_01F8BC_01F8C0,
  0x01F8C2_01F8D0_01F8D9_01F900_01FA58_01FA60_01FA6E_01FA70,
  0x01FA7D_01FA80_01FA8B_01FA8E_01FAC7_01FAC8_01FAC9_01FACD,
  0x01FADD_01FADF_01FAEB_01FAEF_01FAF9_01FB00_01FB93_01FB94,
  0x01FBFB_020000_02A6E0_02A700_02B81E_02B820_02CEAE_02CEB0,
  0x02EBE1_02EBF0_02EE5E_02F800_02FA1E_030000_03134B_031350,
  0x03347A_0E0100_0E01F0_110000_110000_110000_110000_110000]

/-- The code points with the property Grapheme_Extend. -/
def graphemeExtend : CodePoints := .ofRows [
  0x000300_000370_000483_00048A_000591_0005BE_0005BF_0005C0,
  0x0005C1_0005C3_0005C4_0005C6_0005C7_0005C8_000610_00061B,
  0x00064B_000660_000670_000671_0006D6_0006DD_0006DF_0006E5,
  0x0006E7_0006E9_0006EA_0006EE_000711_000712_000730_00074B,
  0x0007A6_0007B1_0007EB_0007F4_0007FD_0007FE_000816_00081A,
  0x00081B_000824_000825_000828_000829_00082E_000859_00085C,
  0x000897_0008A0_0008CA_0008E2_0008E3_000903_00093A_00093B,
  0x00093C_00093D_000941_000949_00094D_00094E_000951_000958,
  0x000962_000964_000981_000982_0009BC_0009BD_0009BE_0009BF,
  0x0009C1_0009C5_0009CD_0009CE_0009D7_0009D8_0009E2_0009E4,
  0x0009FE_0009FF_000A01_000A03_000A3C_000A3D_000A41_000A43,
  0x000A47_000A49_000A4B_000A4E_000A51_000A52_000A70_000A72,
  0x000A75_000A76_000A81_000A83_000ABC_000ABD_000AC1_000AC6,
  0x000AC7_000AC9_000ACD_000ACE_000AE2_000AE4_000AFA_000B00,
  0x000B01_000B02_000B3C_000B3D_000B3E_000B40_000B41_000B45,
  0x000B4D_000B4E_000B55_000B58_000B62_000B64_000B82_000B83,
  0x000BBE_000BBF_000BC0_000BC1_000BCD_000BCE_000BD7_000BD8,
  0x000C00_000C01_000C04_000C05_000C3C_000C3D_000C3E_000C41,
  0x000C46_000C49_000C4A_000C4E_000C55_000C57_000C62_000C64,
  0x000C81_000C82_000CBC_000CBD_000CBF_000CC1_000CC2_000CC3,
  0x000CC6_000CC9_000CCA_000CCE_000CD5_000CD7_000CE2_000CE4,
  0x000D00_000D02_000D3B_000D3D_000D3E_000D3F_000D41_000D45,
  0x000D4D_000D4E_000D57_000D58_000D62_000D64_000D81_000D82,
  0x000DCA_000DCB_000DCF_000DD0_000DD2_000DD5_000DD6_000DD7,
  0x000DDF_000DE0_000E31_000E32_000E34_000E3B_000E47_000E4F,
  0x000EB1_000EB2_000EB4_000EBD_000EC8_000ECF_000F18_000F1A,
  0x000F35_000F36_000F37_000F38_000F39_000F3A_000F71_000F7F,
  0x000F80_000F85_000F86_000F88_000F8D_000F98_000F99_000FBD,
  0x000FC6_000FC7_00102D_001031_001032_001038_001039_00103B,
  0x00103D_00103F_001058_00105A_00105E_001061_001071_001075,
  0x001082_001083_001085_001087_00108D_00108E_00109D_00109E,
  0x00135D_001360_001712_001716_001732_001735_001752_001754,
  0x001772_001774_0017B4_0017B6_0017B7_0017BE_0017C6_0017C7,
  0x0017C9_0017D4_0017DD_0017DE_00180B_00180E_00180F_001810,
  0x001885_001887_0018A9_0018AA_001920_001923_001927_001929,
  0x001932_001933_001939_00193C_001A17_001A19_001A1B_001A1C,
  0x001A56_001A57_001A58_001A5F_001A60_001A61_001A62_001A63,
  0x001A65_001A6D_001A73_001A7D_001A7F_001A80_001AB0_001ADE,
  0x001AE0_001AEC_001B00_001B04_001B34_001B3E_001B42_001B45,
  0x001B6B_001B74_001B80_001B82_001BA2_001BA6_001BA8_001BAE,
  0x001BE6_001BE7_001BE8_001BEA_001BED_001BEE_001BEF_001BF4,
  0x001C2C_001C34_001C36_001C38_001CD0_001CD3_001CD4_001CE1,
  0x001CE2_001CE9_001CED_001CEE_001CF4_001CF5_001CF8_001CFA,
  0x001DC0_001E00_00200C_00200D_0020D0_0020F1_002CEF_002CF2,
  0x002D7F_002D80_002DE0_002E00_00302A_003030_003099_00309B,
  0x00A66F_00A673_00A674_00A67E_00A69E_00A6A0_00A6F0_00A6F2,
  0x00A802_00A803_00A806_00A807_00A80B_00A80C_00A825_00A827,
  0x00A82C_00A82D_00A8C4_00A8C6_00A8E0_00A8F2_00A8FF_00A900,
  0x00A926_00A92E_00A947_00A952_00A953_00A954_00A980_00A983,
  0x00A9B3_00A9B4_00A9B6_00A9BA_00A9BC_00A9BE_00A9C0_00A9C1,
  0x00A9E5_00A9E6_00AA29_00AA2F_00AA31_00AA33_00AA35_00AA37,
  0x00AA43_00AA44_00AA4C_00AA4D_00AA7C_00AA7D_00AAB0_00AAB1,
  0x00AAB2_00AAB5_00AAB7_00AAB9_00AABE_00AAC0_00AAC1_00AAC2,
  0x00AAEC_00AAEE_00AAF6_00AAF7_00ABE5_00ABE6_00ABE8_00ABE9,
  0x00ABED_00ABEE_00FB1E_00FB1F_00FE00_00FE10_00FE20_00FE30,
  0x00FF9E_00FFA0_0101FD_0101FE_0102E0_0102E1_010376_01037B,
  0x010A01_010A04_010A05_010A07_010A0C_010A10_010A38_010A3B,
  0x010A3F_010A40_010AE5_010AE7_010D24_010D28_010D69_010D6E,
  0x010EAB_010EAD_010EFA_010F00_010F46_010F51_010F82_010F86,
  0x011001_011002_011038_011047_011070_011071_011073_011075,
  0x01107F_011082_0110B3_0110B7_0110B9_0110BB_0110C2_0110C3,
  0x011100_011103_011127_01112C_01112D_011135_011173_011174,
  0x011180_011182_0111B6_0111BF_0111C0_0111C1_0111C9_0111CD,
  0x0111CF_0111D0_01122F_011232_011234_011238_01123E_01123F,
  0x011241_011242_0112DF_0112E0_0112E3_0112EB_011300_011302,
  0x01133B_01133D_01133E_01133F_011340_011341_01134D_01134E,
  0x011357_011358_011366_01136D_011370_011375_0113B8_0113B9,
  0x0113BB_0113C1_0113C2_0113C3_0113C5_0113C6_0113C7_0113CA,
  0x0113CE_0113D1_0113D2_0113D3_0113E1_0113E3_011438_011440,
  0x011442_011445_011446_011447_01145E_01145F_0114B0_0114B1,
  0x0114B3_0114B9_0114BA_0114BB_0114BD_0114BE_0114BF_0114C1,
  0x0114C2_0114C4_0115AF_0115B0_0115B2_0115B6_0115BC_0115BE,
  0x0115BF_0115C1_0115DC_0115DE_011633_01163B_01163D_01163E,
  0x01163F_011641_0116AB_0116AC_0116AD_0116AE_0116B0_0116B8,
  0x01171D_01171E_01171F_011720_011722_011726_011727_01172C,
  0x01182F_011838_011839_01183B_011930_011931_01193B_01193F,
  0x011943_011944_0119D4_0119D8_0119DA_0119DC_0119E0_0119E1,
  0x011A01_011A0B_011A33_011A39_011A3B_011A3F_011A47_011A48,
  0x011A51_011A57_011A59_011A5C_011A8A_011A97_011A98_011A9A,
  0x011B60_011B61_011B62_011B65_011B66_011B67_011C30_011C37,
  0x011C38_011C3E_011C3F_011C40_011C92_011CA8_011CAA_011CB1,
  0x011CB2_011CB4_011CB5_011CB7_011D31_011D37_011D3A_011D3B,
  0x011D3C_011D3E_011D3F_011D46_011D47_011D48_011D90_011D92,
  0x011D95_011D96_011D97_011D98_011EF3_011EF5_011F00_011F02,
  0x011F36_011F3B_011F40_011F43_011F5A_011F5B_013440_013441,
  0x013447_013456_01611E_01612A_01612D_016130_016AF0_016AF5,
  0x016B30_016B37_016F4F_016F50_016F8F_016F93_016FE4_016FE5,
  0x016FF0_016FF2_01BC9D_01BC9F_01CF00_01CF2E_01CF30_01CF47,
  0x01D165_01D16A_01D16D_01D173_01D17B_01D183_01D185_01D18C,
  0x01D1AA_01D1AE_01D242_01D245_01DA00_01DA37_01DA3B_01DA6D,
  0x01DA75_01DA76_01DA84_01DA85_01DA9B_01DAA0_01DAA1_01DAB0,
  0x01E000_01E007_01E008_01E019_01E01B_01E022_01E023_01E025,
  0x01E026_01E02B_01E08F_01E090_01E130_01E137_01E2AE_01E2AF,
  0x01E2EC_01E2F0_01E4EC_01E4F0_01E5EE_01E5F0_01E6E3_01E6E4,
  0x01E6E6_01E6E7_01E6EE_01E6F0_01E6F5_01E6F6_01E8D0_01E8D7,
  0x01E944_01E94B_0E0020_0E0080_0E0100_0E01F0_110000_110000]

end LinkedShapes.Unicode
