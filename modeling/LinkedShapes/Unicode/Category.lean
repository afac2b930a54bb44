import LinkedShapes.Unicode.CodePoints

/-!
# General categories

Every code point but the surrogates belongs to exactly one of these sets.
-/

namespace LinkedShapes.Unicode

/-- The category Lu. -/
def uppercaseLetter : CodePoints := .ofRows [
  0x000041_00005B_0000C0_0000D7_0000D8_0000DF_000100_000101,
  0x000102_000103_000104_000105_000106_000107_000108_000109,
  0x00010A_00010B_00010C_00010D_00010E_00010F_000110_000111,
  0x000112_000113_000114_000115_000116_000117_000118_000119,
  0x00011A_00011B_00011C_00011D_00011E_00011F_000120_000121,
  0x000122_000123_000124_000125_000126_000127_000128_000129,
  0x00012A_00012B_00012C_00012D_00012E_00012F_000130_000131,
  0x000132_000133_000134_000135_000136_000137_000139_00013A,
  0x00013B_00013C_00013D_00013E_00013F_000140_000141_000142,
  0x000143_000144_000145_000146_000147_000148_00014A_00014B,
  0x00014C_00014D_00014E_00014F_000150_000151_000152_000153,
  0x000154_000155_000156_000157_000158_000159_00015A_00015B,
  0x00015C_00015D_00015E_00015F_000160_000161_000162_000163,
  0x000164_000165_000166_000167_000168_000169_00016A_00016B,
  0x00016C_00016D_00016E_00016F_000170_000171_000172_000173,
  0x000174_000175_000176_000177_000178_00017A_00017B_00017C,
  0x00017D_00017E_000181_000183_000184_000185_000186_000188,
  0x000189_00018C_00018E_000192_000193_000195_000196_000199,
  0x00019C_00019E_00019F_0001A1_0001A2_0001A3_0001A4_0001A5,
  0x0001A6_0001A8_0001A9_0001AA_0001AC_0001AD_0001AE_0001B0,
  0x0001B1_0001B4_0001B5_0001B6_0001B7_0001B9_0001BC_0001BD,
  0x0001C4_0001C5_0001C7_0001C8_0001CA_0001CB_0001CD_0001CE,
  0x0001CF_0001D0_0001D1_0001D2_0001D3_0001D4_0001D5_0001D6,
  0x0001D7_0001D8_0001D9_0001DA_0001DB_0001DC_0001DE_0001DF,
  0x0001E0_0001E1_0001E2_0001E3_0001E4_0001E5_0001E6_0001E7,
  0x0001E8_0001E9_0001EA_0001EB_0001EC_0001ED_0001EE_0001EF,
  0x0001F1_0001F2_0001F4_0001F5_0001F6_0001F9_0001FA_0001FB,
  0x0001FC_0001FD_0001FE_0001FF_000200_000201_000202_000203,
  0x000204_000205_000206_000207_000208_000209_00020A_00020B,
  0x00020C_00020D_00020E_00020F_000210_000211_000212_000213,
  0x000214_000215_000216_000217_000218_000219_00021A_00021B,
  0x00021C_00021D_00021E_00021F_000220_000221_000222_000223,
  0x000224_000225_000226_000227_000228_000229_00022A_00022B,
  0x00022C_00022D_00022E_00022F_000230_000231_000232_000233,
  0x00023A_00023C_00023D_00023F_000241_000242_000243_000247,
  0x000248_000249_00024A_00024B_00024C_00024D_00024E_00024F,
  0x000370_000371_000372_000373_000376_000377_00037F_000380,
  0x000386_000387_000388_00038B_00038C_00038D_00038E_000390,
  0x000391_0003A2_0003A3_0003AC_0003CF_0003D0_0003D2_0003D5,
  0x0003D8_0003D9_0003DA_0003DB_0003DC_0003DD_0003DE_0003DF,
  0x0003E0_0003E1_0003E2_0003E3_0003E4_0003E5_0003E6_0003E7,
  0x0003E8_0003E9_0003EA_0003EB_0003EC_0003ED_0003EE_0003EF,
  0x0003F4_0003F5_0003F7_0003F8_0003F9_0003FB_0003FD_000430,
  0x000460_000461_000462_000463_000464_000465_000466_000467,
  0x000468_000469_00046A_00046B_00046C_00046D_00046E_00046F,
  0x000470_000471_000472_000473_000474_000475_000476_000477,
  0x000478_000479_00047A_00047B_00047C_00047D_00047E_00047F,
  0x000480_000481_00048A_00048B_00048C_00048D_00048E_00048F,
  0x000490_000491_000492_000493_000494_000495_000496_000497,
  0x000498_000499_00049A_00049B_00049C_00049D_00049E_00049F,
  0x0004A0_0004A1_0004A2_0004A3_0004A4_0004A5_0004A6_0004A7,
  0x0004A8_0004A9_0004AA_0004AB_0004AC_0004AD_0004AE_0004AF,
  0x0004B0_0004B1_0004B2_0004B3_0004B4_0004B5_0004B6_0004B7,
  0x0004B8_0004B9_0004BA_0004BB_0004BC_0004BD_0004BE_0004BF,
  0x0004C0_0004C2_0004C3_0004C4_0004C5_0004C6_0004C7_0004C8,
  0x0004C9_0004CA_0004CB_0004CC_0004CD_0004CE_0004D0_0004D1,
  0x0004D2_0004D3_0004D4_0004D5_0004D6_0004D7_0004D8_0004D9,
  0x0004DA_0004DB_0004DC_0004DD_0004DE_0004DF_0004E0_0004E1,
  0x0004E2_0004E3_0004E4_0004E5_0004E6_0004E7_0004E8_0004E9,
  0x0004EA_0004EB_0004EC_0004ED_0004EE_0004EF_0004F0_0004F1,
  0x0004F2_0004F3_0004F4_0004F5_0004F6_0004F7_0004F8_0004F9,
  0x0004FA_0004FB_0004FC_0004FD_0004FE_0004FF_000500_000501,
  0x000502_000503_000504_000505_000506_000507_000508_000509,
  0x00050A_00050B_00050C_00050D_00050E_00050F_000510_000511,
  0x000512_000513_000514_000515_000516_000517_000518_000519,
  0x00051A_00051B_00051C_00051D_00051E_00051F_000520_000521,
  0x000522_000523_000524_000525_000526_000527_000528_000529,
  0x00052A_00052B_00052C_00052D_00052E_00052F_000531_000557,
  0x0010A0_0010C6_0010C7_0010C8_0010CD_0010CE_0013A0_0013F6,
  0x001C89_001C8A_001C90_001CBB_001CBD_001CC0_001E00_001E01,
  0x001E02_001E03_001E04_001E05_001E06_001E07_001E08_001E09,
  0x001E0A_001E0B_001E0C_001E0D_001E0E_001E0F_001E10_001E11,
  0x001E12_001E13_001E14_001E15_001E16_001E17_001E18_001E19,
  0x001E1A_001E1B_001E1C_001E1D_001E1E_001E1F_001E20_001E21,
  0x001E22_001E23_001E24_001E25_001E26_001E27_001E28_001E29,
  0x001E2A_001E2B_001E2C_001E2D_001E2E_001E2F_001E30_001E31,
  0x001E32_001E33_001E34_001E35_001E36_001E37_001E38_001E39,
  0x001E3A_001E3B_001E3C_001E3D_001E3E_001E3F_001E40_001E41,
  0x001E42_001E43_001E44_001E45_001E46_001E47_001E48_001E49,
  0x001E4A_001E4B_001E4C_001E4D_001E4E_001E4F_001E50_001E51,
  0x001E52_001E53_001E54_001E55_001E56_001E57_001E58_001E59,
  0x001E5A_001E5B_001E5C_001E5D_001E5E_001E5F_001E60_001E61,
  0x001E62_001E63_001E64_001E65_001E66_001E67_001E68_001E69,
  0x001E6A_001E6B_001E6C_001E6D_001E6E_001E6F_001E70_001E71,
  0x001E72_001E73_001E74_001E75_001E76_001E77_001E78_001E79,
  0x001E7A_001E7B_001E7C_001E7D_001E7E_001E7F_001E80_001E81,
  0x001E82_001E83_001E84_001E85_001E86_001E87_001E88_001E89,
  0x001E8A_001E8B_001E8C_001E8D_001E8E_001E8F_001E90_001E91,
  0x001E92_001E93_001E94_001E95_001E9E_001E9F_001EA0_001EA1,
  0x001EA2_001EA3_001EA4_001EA5_001EA6_001EA7_001EA8_001EA9,
  0x001EAA_001EAB_001EAC_001EAD_001EAE_001EAF_001EB0_001EB1,
  0x001EB2_001EB3_001EB4_001EB5_001EB6_001EB7_001EB8_001EB9,
  0x001EBA_001EBB_001EBC_001EBD_001EBE_001EBF_001EC0_001EC1,
  0x001EC2_001EC3_001EC4_001EC5_001EC6_001EC7_001EC8_001EC9,
  0x001ECA_001ECB_001ECC_001ECD_001ECE_001ECF_001ED0_001ED1,
  0x001ED2_001ED3_001ED4_001ED5_001ED6_001ED7_001ED8_001ED9,
  0x001EDA_001EDB_001EDC_001EDD_001EDE_001EDF_001EE0_001EE1,
  0x001EE2_001EE3_001EE4_001EE5_001EE6_001EE7_001EE8_001EE9,
  0x001EEA_001EEB_001EEC_001EED_001EEE_001EEF_001EF0_001EF1,
  0x001EF2_001EF3_001EF4_001EF5_001EF6_001EF7_001EF8_001EF9,
  0x001EFA_001EFB_001EFC_001EFD_001EFE_001EFF_001F08_001F10,
  0x001F18_001F1E_001F28_001F30_001F38_001F40_001F48_001F4E,
  0x001F59_001F5A_001F5B_001F5C_001F5D_001F5E_001F5F_001F60,
  0x001F68_001F70_001FB8_001FBC_001FC8_001FCC_001FD8_001FDC,
  0x001FE8_001FED_001FF8_001FFC_002102_002103_002107_002108,
  0x00210B_00210E_002110_002113_002115_002116_002119_00211E,
  0x002124_002125_002126_002127_002128_002129_00212A_00212E,
  0x002130_002134_00213E_002140_002145_002146_002183_002184,
  0x002C00_002C30_002C60_002C61_002C62_002C65_002C67_002C68,
  0x002C69_002C6A_002C6B_002C6C_002C6D_002C71_002C72_002C73,
  0x002C75_002C76_002C7E_002C81_002C82_002C83_002C84_002C85,
  0x002C86_002C87_002C88_002C89_002C8A_002C8B_002C8C_002C8D,
  0x002C8E_002C8F_002C90_002C91_002C92_002C93_002C94_002C95,
  0x002C96_002C97_002C98_002C99_002C9A_002C9B_002C9C_002C9D,
  0x002C9E_002C9F_002CA0_002CA1_002CA2_002CA3_002CA4_002CA5,
  0x002CA6_002CA7_002CA8_002CA9_002CAA_002CAB_002CAC_002CAD,
  0x002CAE_002CAF_002CB0_002CB1_002CB2_002CB3_002CB4_002CB5,
  0x002CB6_002CB7_002CB8_002CB9_002CBA_002CBB_002CBC_002CBD,
  0x002CBE_002CBF_002CC0_002CC1_002CC2_002CC3_002CC4_002CC5,
  0x002CC6_002CC7_002CC8_002CC9_002CCA_002CCB_002CCC_002CCD,
  0x002CCE_002CCF_002CD0_002CD1_002CD2_002CD3_002CD4_002CD5,
  0x002CD6_002CD7_002CD8_002CD9_002CDA_002CDB_002CDC_002CDD,
  0x002CDE_002CDF_002CE0_002CE1_002CE2_002CE3_002CEB_002CEC,
  0x002CED_002CEE_002CF2_002CF3_00A640_00A641_00A642_00A643,
  0x00A644_00A645_00A646_00A647_00A648_00A649_00A64A_00A64B,
  0x00A64C_00A64D_00A64E_00A64F_00A650_00A651_00A652_00A653,
  0x00A654_00A655_00A656_00A657_00A658_00A659_00A65A_00A65B,
  0x00A65C_00A65D_00A65E_00A65F_00A660_00A661_00A662_00A663,
  0x00A664_00A665_00A666_00A667_00A668_00A669_00A66A_00A66B,
  0x00A66C_00A66D_00A680_00A681_00A682_00A683_00A684_00A685,
  0x00A686_00A687_00A688_00A689_00A68A_00A68B_00A68C_00A68D,
  0x00A68E_00A68F_00A690_00A691_00A692_00A693_00A694_00A695,
  0x00A696_00A697_00A698_00A699_00A69A_00A69B_00A722_00A723,
  0x00A724_00A725_00A726_00A727_00A728_00A729_00A72A_00A72B,
  0x00A72C_00A72D_00A72E_00A72F_00A732_00A733_00A734_00A735,
  0x00A736_00A737_00A738_00A739_00A73A_00A73B_00A73C_00A73D,
  0x00A73E_00A73F_00A740_00A741_00A742_00A743_00A744_00A745,
  0x00A746_00A747_00A748_00A749_00A74A_00A74B_00A74C_00A74D,
  0x00A74E_00A74F_00A750_00A751_00A752_00A753_00A754_00A755,
  0x00A756_00A757_00A758_00A759_00A75A_00A75B_00A75C_00A75D,
  0x00A75E_00A75F_00A760_00A761_00A762_00A763_00A764_00A765,
  0x00A766_00A767_00A768_00A769_00A76A_00A76B_00A76C_00A76D,
  0x00A76E_00A76F_00A779_00A77A_00A77B_00A77C_00A77D_00A77F,
  0x00A780_00A781_00A782_00A783_00A784_00A785_00A786_00A787,
  0x00A78B_00A78C_00A78D_00A78E_00A790_00A791_00A792_00A793,
  0x00A796_00A797_00A798_00A799_00A79A_00A79B_00A79C_00A79D,
  0x00A79E_00A79F_00A7A0_00A7A1_00A7A2_00A7A3_00A7A4_00A7A5,
  0x00A7A6_00A7A7_00A7A8_00A7A9_00A7AA_00A7AF_00A7B0_00A7B5,
  0x00A7B6_00A7B7_00A7B8_00A7B9_00A7BA_00A7BB_00A7BC_00A7BD,
  0x00A7BE_00A7BF_00A7C0_00A7C1_00A7C2_00A7C3_00A7C4_00A7C8,
  0x00A7C9_00A7CA_00A7CB_00A7CD_00A7CE_00A7CF_00A7D0_00A7D1,
  0x00A7D2_00A7D3_00A7D4_00A7D5_00A7D6_00A7D7_00A7D8_00A7D9,
  0x00A7DA_00A7DB_00A7DC_00A7DD_00A7F5_00A7F6_00FF21_00FF3B,
  0x010400_010428_0104B0_0104D4_010570_01057B_01057C_01058B,
  0x01058C_010593_010594_010596_010C80_010CB3_010D50_010D66,
  0x0118A0_0118C0_016E40_016E60_016EA0_016EB9_01D400_01D41A,
  0x01D434_01D44E_01D468_01D482_01D49C_01D49D_01D49E_01D4A0,
  0x01D4A2_01D4A3_01D4A5_01D4A7_01D4A9_01D4AD_01D4AE_01D4B6,
  0x01D4D0_01D4EA_01D504_01D506_01D507_01D50B_01D50D_01D515,
  0x01D516_01D51D_01D538_01D53A_01D53B_01D53F_01D540_01D545,
  0x01D546_01D547_01D54A_01D551_01D56C_01D586_01D5A0_01D5BA,
  0x01D5D4_01D5EE_01D608_01D622_01D63C_01D656_01D670_01D68A,
  0x01D6A8_01D6C1_01D6E2_01D6FB_01D71C_01D735_01D756_01D76F,
  0x01D790_01D7A9_01D7CA_01D7CB_01E900_01E922_110000_110000]

/-- The category Ll. -/
def lowercaseLetter : CodePoints := .ofRows [
  0x000061_00007B_0000B5_0000B6_0000DF_0000F7_0000F8_000100,
  0x000101_000102_000103_000104_000105_000106_000107_000108,
  0x000109_00010A_00010B_00010C_00010D_00010E_00010F_000110,
  0x000111_000112_000113_000114_000115_000116_000117_000118,
  0x000119_00011A_00011B_00011C_00011D_00011E_00011F_000120,
  0x000121_000122_000123_000124_000125_000126_000127_000128,
  0x000129_00012A_00012B_00012C_00012D_00012E_00012F_000130,
  0x000131_000132_000133_000134_000135_000136_000137_000139,
  0x00013A_00013B_00013C_00013D_00013E_00013F_000140_000141,
  0x000142_000143_000144_000145_000146_000147_000148_00014A,
  0x00014B_00014C_00014D_00014E_00014F_000150_000151_000152,
  0x000153_000154_000155_000156_000157_000158_000159_00015A,
  0x00015B_00015C_00015D_00015E_00015F_000160_000161_000162,
  0x000163_000164_000165_000166_000167_000168_000169_00016A,
  0x00016B_00016C_00016D_00016E_00016F_000170_000171_000172,
  0x000173_000174_000175_000176_000177_000178_00017A_00017B,
  0x00017C_00017D_00017E_000181_000183_000184_000185_000186,
  0x000188_000189_00018C_00018E_000192_000193_000195_000196,
  0x000199_00019C_00019E_00019F_0001A1_0001A2_0001A3_0001A4,
  0x0001A5_0001A6_0001A8_0001A9_0001AA_0001AC_0001AD_0001AE,
  0x0001B0_0001B1_0001B4_0001B5_0001B6_0001B7_0001B9_0001BB,
  0x0001BD_0001C0_0001C6_0001C7_0001C9_0001CA_0001CC_0001CD,
  0x0001CE_0001CF_0001D0_0001D1_0001D2_0001D3_0001D4_0001D5,
  0x0001D6_0001D7_0001D8_0001D9_0001DA_0001DB_0001DC_0001DE,
  0x0001DF_0001E0_0001E1_0001E2_0001E3_0001E4_0001E5_0001E6,
  0x0001E7_0001E8_0001E9_0001EA_0001EB_0001EC_0001ED_0001EE,
  0x0001EF_0001F1_0001F3_0001F4_0001F5_0001F6_0001F9_0001FA,
  0x0001FB_0001FC_0001FD_0001FE_0001FF_000200_000201_000202,
  0x000203_000204_000205_000206_000207_000208_000209_00020A,
  0x00020B_00020C_00020D_00020E_00020F_000210_000211_000212,
  0x000213_000214_000215_000216_000217_000218_000219_00021A,
  0x00021B_00021C_00021D_00021E_00021F_000220_000221_000222,
  0x000223_000224_000225_000226_000227_000228_000229_00022A,
  0x00022B_00022C_00022D_00022E_00022F_000230_000231_000232,
  0x000233_00023A_00023C_00023D_00023F_000241_000242_000243,
  0x000247_000248_000249_00024A_00024B_00024C_00024D_00024E,
  0x00024F_000294_000296_0002B0_000371_000372_000373_000374,
  0x000377_000378_00037B_00037E_000390_000391_0003AC_0003CF,
  0x0003D0_0003D2_0003D5_0003D8_0003D9_0003DA_0003DB_0003DC,
  0x0003DD_0003DE_0003DF_0003E0_0003E1_0003E2_0003E3_0003E4,
  0x0003E5_0003E6_0003E7_0003E8_0003E9_0003EA_0003EB_0003EC,
  0x0003ED_0003EE_0003EF_0003F4_0003F5_0003F6_0003F8_0003F9,
  0x0003FB_0003FD_000430_000460_000461_000462_000463_000464,
  0x000465_000466_000467_000468_000469_00046A_00046B_00046C,
  0x00046D_00046E_00046F_000470_000471_000472_000473_000474,
  0x000475_000476_000477_000478_000479_00047A_00047B_00047C,
  0x00047D_00047E_00047F_000480_000481_000482_00048B_00048C,
  0x00048D_00048E_00048F_000490_000491_000492_000493_000494,
  0x000495_000496_000497_000498_000499_00049A_00049B_00049C,
  0x00049D_00049E_00049F_0004A0_0004A1_0004A2_0004A3_0004A4,
  0x0004A5_0004A6_0004A7_0004A8_0004A9_0004AA_0004AB_0004AC,
  0x0004AD_0004AE_0004AF_0004B0_0004B1_0004B2_0004B3_0004B4,
  0x0004B5_0004B6_0004B7_0004B8_0004B9_0004BA_0004BB_0004BC,
  0x0004BD_0004BE_0004BF_0004C0_0004C2_0004C3_0004C4_0004C5,
  0x0004C6_0004C7_0004C8_0004C9_0004CA_0004CB_0004CC_0004CD,
  0x0004CE_0004D0_0004D1_0004D2_0004D3_0004D4_0004D5_0004D6,
  0x0004D7_0004D8_0004D9_0004DA_0004DB_0004DC_0004DD_0004DE,
  0x0004DF_0004E0_0004E1_0004E2_0004E3_0004E4_0004E5_0004E6,
  0x0004E7_0004E8_0004E9_0004EA_0004EB_0004EC_0004ED_0004EE,
  0x0004EF_0004F0_0004F1_0004F2_0004F3_0004F4_0004F5_0004F6,
  0x0004F7_0004F8_0004F9_0004FA_0004FB_0004FC_0004FD_0004FE,
  0x0004FF_000500_000501_000502_000503_000504_000505_000506,
  0x000507_000508_000509_00050A_00050B_00050C_00050D_00050E,
  0x00050F_000510_000511_000512_000513_000514_000515_000516,
  0x000517_000518_000519_00051A_00051B_00051C_00051D_00051E,
  0x00051F_000520_000521_000522_000523_000524_000525_000526,
  0x000527_000528_000529_00052A_00052B_00052C_00052D_00052E,
  0x00052F_000530_000560_000589_0010D0_0010FB_0010FD_001100,
  0x0013F8_0013FE_001C80_001C89_001C8A_001C8B_001D00_001D2C,
  0x001D6B_001D78_001D79_001D9B_001E01_001E02_001E03_001E04,
  0x001E05_001E06_001E07_001E08_001E09_001E0A_001E0B_001E0C,
  0x001E0D_001E0E_001E0F_001E10_001E11_001E12_001E13_001E14,
  0x001E15_001E16_001E17_001E18_001E19_001E1A_001E1B_001E1C,
  0x001E1D_001E1E_001E1F_001E20_001E21_001E22_001E23_001E24,
  0x001E25_001E26_001E27_001E28_001E29_001E2A_001E2B_001E2C,
  0x001E2D_001E2E_001E2F_001E30_001E31_001E32_001E33_001E34,
  0x001E35_001E36_001E37_001E38_001E39_001E3A_001E3B_001E3C,
  0x001E3D_001E3E_001E3F_001E40_001E41_001E42_001E43_001E44,
  0x001E45_001E46_001E47_001E48_001E49_001E4A_001E4B_001E4C,
  0x001E4D_001E4E_001E4F_001E50_001E51_001E52_001E53_001E54,
  0x001E55_001E56_001E57_001E58_001E59_001E5A_001E5B_001E5C,
  0x001E5D_001E5E_001E5F_001E60_001E61_001E62_001E63_001E64,
  0x001E65_001E66_001E67_001E68_001E69_001E6A_001E6B_001E6C,
  0x001E6D_001E6E_001E6F_001E70_001E71_001E72_001E73_001E74,
  0x001E75_001E76_001E77_001E78_001E79_001E7A_001E7B_001E7C,
  0x001E7D_001E7E_001E7F_001E80_001E81_001E82_001E83_001E84,
  0x001E85_001E86_001E87_001E88_001E89_001E8A_001E8B_001E8C,
  0x001E8D_001E8E_001E8F_001E90_001E91_001E92_001E93_001E94,
  0x001E95_001E9E_001E9F_001EA0_001EA1_001EA2_001EA3_001EA4,
  0x001EA5_001EA6_001EA7_001EA8_001EA9_001EAA_001EAB_001EAC,
  0x001EAD_001EAE_001EAF_001EB0_001EB1_001EB2_001EB3_001EB4,
  0x001EB5_001EB6_001EB7_001EB8_001EB9_001EBA_001EBB_001EBC,
  0x001EBD_001EBE_001EBF_001EC0_001EC1_001EC2_001EC3_001EC4,
  0x001EC5_001EC6_001EC7_001EC8_001EC9_001ECA_001ECB_001ECC,
  0x001ECD_001ECE_001ECF_001ED0_001ED1_001ED2_001ED3_001ED4,
  0x001ED5_001ED6_001ED7_001ED8_001ED9_001EDA_001EDB_001EDC,
  0x001EDD_001EDE_001EDF_001EE0_001EE1_001EE2_001EE3_001EE4,
  0x001EE5_001EE6_001EE7_001EE8_001EE9_001EEA_001EEB_001EEC,
  0x001EED_001EEE_001EEF_001EF0_001EF1_001EF2_001EF3_001EF4,
  0x001EF5_001EF6_001EF7_001EF8_001EF9_001EFA_001EFB_001EFC,
  0x001EFD_001EFE_001EFF_001F08_001F10_001F16_001F20_001F28,
  0x001F30_001F38_001F40_001F46_001F50_001F58_001F60_001F68,
  0x001F70_001F7E_001F80_001F88_001F90_001F98_001FA0_001FA8,
  0x001FB0_001FB5_001FB6_001FB8_001FBE_001FBF_001FC2_001FC5,
  0x001FC6_001FC8_001FD0_001FD4_001FD6_001FD8_001FE0_001FE8,
  0x001FF2_001FF5_001FF6_001FF8_00210A_00210B_00210E_002110,
  0x002113_002114_00212F_002130_002134_002135_002139_00213A,
  0x00213C_00213E_002146_00214A_00214E_00214F_002184_002185,
  0x002C30_002C60_002C61_002C62_002C65_002C67_002C68_002C69,
  0x002C6A_002C6B_002C6C_002C6D_002C71_002C72_002C73_002C75,
  0x002C76_002C7C_002C81_002C82_002C83_002C84_002C85_002C86,
  0x002C87_002C88_002C89_002C8A_002C8B_002C8C_002C8D_002C8E,
  0x002C8F_002C90_002C91_002C92_002C93_002C94_002C95_002C96,
  0x002C97_002C98_002C99_002C9A_002C9B_002C9C_002C9D_002C9E,
  0x002C9F_002CA0_002CA1_002CA2_002CA3_002CA4_002CA5_002CA6,
  0x002CA7_002CA8_002CA9_002CAA_002CAB_002CAC_002CAD_002CAE,
  0x002CAF_002CB0_002CB1_002CB2_002CB3_002CB4_002CB5_002CB6,
  0x002CB7_002CB8_002CB9_002CBA_002CBB_002CBC_002CBD_002CBE,
  0x002CBF_002CC0_002CC1_002CC2_002CC3_002CC4_002CC5_002CC6,
  0x002CC7_002CC8_002CC9_002CCA_002CCB_002CCC_002CCD_002CCE,
  0x002CCF_002CD0_002CD1_002CD2_002CD3_002CD4_002CD5_002CD6,
  0x002CD7_002CD8_002CD9_002CDA_002CDB_002CDC_002CDD_002CDE,
  0x002CDF_002CE0_002CE1_002CE2_002CE3_002CE5_002CEC_002CED,
  0x002CEE_002CEF_002CF3_002CF4_002D00_002D26_002D27_002D28,
  0x002D2D_002D2E_00A641_00A642_00A643_00A644_00A645_00A646,
  0x00A647_00A648_00A649_00A64A_00A64B_00A64C_00A64D_00A64E,
  0x00A64F_00A650_00A651_00A652_00A653_00A654_00A655_00A656,
  0x00A657_00A658_00A659_00A65A_00A65B_00A65C_00A65D_00A65E,
  0x00A65F_00A660_00A661_00A662_00A663_00A664_00A665_00A666,
  0x00A667_00A668_00A669_00A66A_00A66B_00A66C_00A66D_00A66E,
  0x00A681_00A682_00A683_00A684_00A685_00A686_00A687_00A688,
  0x00A689_00A68A_00A68B_00A68C_00A68D_00A68E_00A68F_00A690,
  0x00A691_00A692_00A693_00A694_00A695_00A696_00A697_00A698,
  0x00A699_00A69A_00A69B_00A69C_00A723_00A724_00A725_00A726,
  0x00A727_00A728_00A729_00A72A_00A72B_00A72C_00A72D_00A72E,
  0x00A72F_00A732_00A733_00A734_00A735_00A736_00A737_00A738,
  0x00A739_00A73A_00A73B_00A73C_00A73D_00A73E_00A73F_00A740,
  0x00A741_00A742_00A743_00A744_00A745_00A746_00A747_00A748,
  0x00A749_00A74A_00A74B_00A74C_00A74D_00A74E_00A74F_00A750,
  0x00A751_00A752_00A753_00A754_00A755_00A756_00A757_00A758,
  0x00A759_00A75A_00A75B_00A75C_00A75D_00A75E_00A75F_00A760,
  0x00A761_00A762_00A763_00A764_00A765_00A766_00A767_00A768,
  0x00A769_00A76A_00A76B_00A76C_00A76D_00A76E_00A76F_00A770,
  0x00A771_00A779_00A77A_00A77B_00A77C_00A77D_00A77F_00A780,
  0x00A781_00A782_00A783_00A784_00A785_00A786_00A787_00A788,
  0x00A78C_00A78D_00A78E_00A78F_00A791_00A792_00A793_00A796,
  0x00A797_00A798_00A799_00A79A_00A79B_00A79C_00A79D_00A79E,
  0x00A79F_00A7A0_00A7A1_00A7A2_00A7A3_00A7A4_00A7A5_00A7A6,
  0x00A7A7_00A7A8_00A7A9_00A7AA_00A7AF_00A7B0_00A7B5_00A7B6,
  0x00A7B7_00A7B8_00A7B9_00A7BA_00A7BB_00A7BC_00A7BD_00A7BE,
  0x00A7BF_00A7C0_00A7C1_00A7C2_00A7C3_00A7C4_00A7C8_00A7C9,
  0x00A7CA_00A7CB_00A7CD_00A7CE_00A7CF_00A7D0_00A7D1_00A7D2,
  0x00A7D3_00A7D4_00A7D5_00A7D6_00A7D7_00A7D8_00A7D9_00A7DA,
  0x00A7DB_00A7DC_00A7F6_00A7F7_00A7FA_00A7FB_00AB30_00AB5B,
  0x00AB60_00AB69_00AB70_00ABC0_00FB00_00FB07_00FB13_00FB18,
  0x00FF41_00FF5B_010428_010450_0104D8_0104FC_010597_0105A2,
  0x0105A3_0105B2_0105B3_0105BA_0105BB_0105BD_010CC0_010CF3,
  0x010D70_010D86_0118C0_0118E0_016E60_016E80_016EBB_016ED4,
  0x01D41A_01D434_01D44E_01D455_01D456_01D468_01D482_01D49C,
  0x01D4B6_01D4BA_01D4BB_01D4BC_01D4BD_01D4C4_01D4C5_01D4D0,
  0x01D4EA_01D504_01D51E_01D538_01D552_01D56C_01D586_01D5A0,
  0x01D5BA_01D5D4_01D5EE_01D608_01D622_01D63C_01D656_01D670,
  0x01D68A_01D6A6_01D6C2_01D6DB_01D6DC_01D6E2_01D6FC_01D715,
  0x01D716_01D71C_01D736_01D74F_01D750_01D756_01D770_01D789,
  0x01D78A_01D790_01D7AA_01D7C3_01D7C4_01D7CA_01D7CB_01D7CC,
  0x01DF00_01DF0A_01DF0B_01DF1F_01DF25_01DF2B_01E922_01E944]

/-- The category Lt. -/
def titlecaseLetter : CodePoints := .ofRows [
  0x0001C5_0001C6_0001C8_0001C9_0001CB_0001CC_0001F2_0001F3,
  0x001F88_001F90_001F98_001FA0_001FA8_001FB0_001FBC_001FBD,
  0x001FCC_001FCD_001FFC_001FFD_110000_110000_110000_110000]

/-- The category Lm. -/
def modifierLetter : CodePoints := .ofRows [
  0x0002B0_0002C2_0002C6_0002D2_0002E0_0002E5_0002EC_0002ED,
  0x0002EE_0002EF_000374_000375_00037A_00037B_000559_00055A,
  0x000640_000641_0006E5_0006E7_0007F4_0007F6_0007FA_0007FB,
  0x00081A_00081B_000824_000825_000828_000829_0008C9_0008CA,
  0x000971_000972_000E46_000E47_000EC6_000EC7_0010FC_0010FD,
  0x0017D7_0017D8_001843_001844_001AA7_001AA8_001C78_001C7E,
  0x001D2C_001D6B_001D78_001D79_001D9B_001DC0_002071_002072,
  0x00207F_002080_002090_00209D_002C7C_002C7E_002D6F_002D70,
  0x002E2F_002E30_003005_003006_003031_003036_00303B_00303C,
  0x00309D_00309F_0030FC_0030FF_00A015_00A016_00A4F8_00A4FE,
  0x00A60C_00A60D_00A67F_00A680_00A69C_00A69E_00A717_00A720,
  0x00A770_00A771_00A788_00A789_00A7F1_00A7F5_00A7F8_00A7FA,
  0x00A9CF_00A9D0_00A9E6_00A9E7_00AA70_00AA71_00AADD_00AADE,
  0x00AAF3_00AAF5_00AB5C_00AB60_00AB69_00AB6A_00FF70_00FF71,
  0x00FF9E_00FFA0_010780_010786_010787_0107B1_0107B2_0107BB,
  0x010D4E_010D4F_010D6F_010D70_010EC5_010EC6_011DD9_011DDA,
  0x016B40_016B44_016D40_016D43_016D6B_016D6D_016F93_016FA0,
  0x016FE0_016FE2_016FE3_016FE4_016FF2_016FF4_01AFF0_01AFF4,
  0x01AFF5_01AFFC_01AFFD_01AFFF_01E030_01E06E_01E137_01E13E,
  0x01E4EB_01E4EC_01E6FF_01E700_01E94B_01E94C_110000_110000]

/-- The category Lo. -/
def otherLetter : CodePoints := .ofRows [
  0x0000AA_0000AB_0000BA_0000BB_0001BB_0001BC_0001C0_0001C4,
  0x000294_000296_0005D0_0005EB_0005EF_0005F3_000620_000640,
  0x000641_00064B_00066E_000670_000671_0006D4_0006D5_0006D6,
  0x0006EE_0006F0_0006FA_0006FD_0006FF_000700_000710_000711,
  0x000712_000730_00074D_0007A6_0007B1_0007B2_0007CA_0007EB,
  0x000800_000816_000840_000859_000860_00086B_000870_000888,
  0x000889_000890_0008A0_0008C9_000904_00093A_00093D_00093E,
  0x000950_000951_000958_000962_000972_000981_000985_00098D,
  0x00098F_000991_000993_0009A9_0009AA_0009B1_0009B2_0009B3,
  0x0009B6_0009BA_0009BD_0009BE_0009CE_0009CF_0009DC_0009DE,
  0x0009DF_0009E2_0009F0_0009F2_0009FC_0009FD_000A05_000A0B,
  0x000A0F_000A11_000A13_000A29_000A2A_000A31_000A32_000A34,
  0x000A35_000A37_000A38_000A3A_000A59_000A5D_000A5E_000A5F,
  0x000A72_000A75_000A85_000A8E_000A8F_000A92_000A93_000AA9,
  0x000AAA_000AB1_000AB2_000AB4_000AB5_000ABA_000ABD_000ABE,
  0x000AD0_000AD1_000AE0_000AE2_000AF9_000AFA_000B05_000B0D,
  0x000B0F_000B11_000B13_000B29_000B2A_000B31_000B32_000B34,
  0x000B35_000B3A_000B3D_000B3E_000B5C_000B5E_000B5F_000B62,
  0x000B71_000B72_000B83_000B84_000B85_000B8B_000B8E_000B91,
  0x000B92_000B96_000B99_000B9B_000B9C_000B9D_000B9E_000BA0,
  0x000BA3_000BA5_000BA8_000BAB_000BAE_000BBA_000BD0_000BD1,
  0x000C05_000C0D_000C0E_000C11_000C12_000C29_000C2A_000C3A,
  0x000C3D_000C3E_000C58_000C5B_000C5C_000C5E_000C60_000C62,
  0x000C80_000C81_000C85_000C8D_000C8E_000C91_000C92_000CA9,
  0x000CAA_000CB4_000CB5_000CBA_000CBD_000CBE_000CDC_000CDF,
  0x000CE0_000CE2_000CF1_000CF3_000D04_000D0D_000D0E_000D11,
  0x000D12_000D3B_000D3D_000D3E_000D4E_000D4F_000D54_000D57,
  0x000D5F_000D62_000D7A_000D80_000D85_000D97_000D9A_000DB2,
  0x000DB3_000DBC_000DBD_000DBE_000DC0_000DC7_000E01_000E31,
  0x000E32_000E34_000E40_000E46_000E81_000E83_000E84_000E85,
  0x000E86_000E8B_000E8C_000EA4_000EA5_000EA6_000EA7_000EB1,
  0x000EB2_000EB4_000EBD_000EBE_000EC0_000EC5_000EDC_000EE0,
  0x000F00_000F01_000F40_000F48_000F49_000F6D_000F88_000F8D,
  0x001000_00102B_00103F_001040_001050_001056_00105A_00105E,
  0x001061_001062_001065_001067_00106E_001071_001075_001082,
  0x00108E_00108F_001100_001249_00124A_00124E_001250_001257,
  0x001258_001259_00125A_00125E_001260_001289_00128A_00128E,
  0x001290_0012B1_0012B2_0012B6_0012B8_0012BF_0012C0_0012C1,
  0x0012C2_0012C6_0012C8_0012D7_0012D8_001311_001312_001316,
  0x001318_00135B_001380_001390_001401_00166D_00166F_001680,
  0x001681_00169B_0016A0_0016EB_0016F1_0016F9_001700_001712,
  0x00171F_001732_001740_001752_001760_00176D_00176E_001771,
  0x001780_0017B4_0017DC_0017DD_001820_001843_001844_001879,
  0x001880_001885_001887_0018A9_0018AA_0018AB_0018B0_0018F6,
  0x001900_00191F_001950_00196E_001970_001975_001980_0019AC,
  0x0019B0_0019CA_001A00_001A17_001A20_001A55_001B05_001B34,
  0x001B45_001B4D_001B83_001BA1_001BAE_001BB0_001BBA_001BE6,
  0x001C00_001C24_001C4D_001C50_001C5A_001C78_001CE9_001CED,
  0x001CEE_001CF4_001CF5_001CF7_001CFA_001CFB_002135_002139,
  0x002D30_002D68_002D80_002D97_002DA0_002DA7_002DA8_002DAF,
  0x002DB0_002DB7_002DB8_002DBF_002DC0_002DC7_002DC8_002DCF,
  0x002DD0_002DD7_002DD8_002DDF_003006_003007_00303C_00303D,
  0x003041_003097_00309F_0030A0_0030A1_0030FB_0030FF_003100,
  0x003105_003130_003131_00318F_0031A0_0031C0_0031F0_003200,
  0x003400_004DC0_004E00_00A015_00A016_00A48D_00A4D0_00A4F8,
  0x00A500_00A60C_00A610_00A620_00A62A_00A62C_00A66E_00A66F,
  0x00A6A0_00A6E6_00A78F_00A790_00A7F7_00A7F8_00A7FB_00A802,
  0x00A803_00A806_00A807_00A80B_00A80C_00A823_00A840_00A874,
  0x00A882_00A8B4_00A8F2_00A8F8_00A8FB_00A8FC_00A8FD_00A8FF,
  0x00A90A_00A926_00A930_00A947_00A960_00A97D_00A984_00A9B3,
  0x00A9E0_00A9E5_00A9E7_00A9F0_00A9FA_00A9FF_00AA00_00AA29,
  0x00AA40_00AA43_00AA44_00AA4C_00AA60_00AA70_00AA71_00AA77,
  0x00AA7A_00AA7B_00AA7E_00AAB0_00AAB1_00AAB2_00AAB5_00AAB7,
  0x00AAB9_00AABE_00AAC0_00AAC1_00AAC2_00AAC3_00AADB_00AADD,
  0x00AAE0_00AAEB_00AAF2_00AAF3_00AB01_00AB07_00AB09_00AB0F,
  0x00AB11_00AB17_00AB20_00AB27_00AB28_00AB2F_00ABC0_00ABE3,
  0x00AC00_00D7A4_00D7B0_00D7C7_00D7CB_00D7FC_00F900_00FA6E,
  0x00FA70_00FADA_00FB1D_00FB1E_00FB1F_00FB29_00FB2A_00FB37,
  0x00FB38_00FB3D_00FB3E_00FB3F_00FB40_00FB42_00FB43_00FB45,
  0x00FB46_00FBB2_00FBD3_00FD3E_00FD50_00FD90_00FD92_00FDC8,
  0x00FDF0_00FDFC_00FE70_00FE75_00FE76_00FEFD_00FF66_00FF70,
  0x00FF71_00FF9E_00FFA0_00FFBF_00FFC2_00FFC8_00FFCA_00FFD0,
  0x00FFD2_00FFD8_00FFDA_00FFDD_010000_01000C_01000D_010027,
  0x010028_01003B_01003C_01003E_01003F_01004E_010050_01005E,
  0x010080_0100FB_010280_01029D_0102A0_0102D1_010300_010320,
  0x01032D_010341_010342_01034A_010350_010376_010380_01039E,
  0x0103A0_0103C4_0103C8_0103D0_010450_01049E_010500_010528,
  0x010530_010564_0105C0_0105F4_010600_010737_010740_010756,
  0x010760_010768_010800_010806_010808_010809_01080A_010836,
  0x010837_010839_01083C_01083D_01083F_010856_010860_010877,
  0x010880_01089F_0108E0_0108F3_0108F4_0108F6_010900_010916,
  0x010920_01093A_010940_01095A_010980_0109B8_0109BE_0109C0,
  0x010A00_010A01_010A10_010A14_010A15_010A18_010A19_010A36,
  0x010A60_010A7D_010A80_010A9D_010AC0_010AC8_010AC9_010AE5,
  0x010B00_010B36_010B40_010B56_010B60_010B73_010B80_010B92,
  0x010C00_010C49_010D00_010D24_010D4A_010D4E_010D4F_010D50,
  0x010E80_010EAA_010EB0_010EB2_010EC2_010EC5_010EC6_010EC8,
  0x010F00_010F1D_010F27_010F28_010F30_010F46_010F70_010F82,
  0x010FB0_010FC5_010FE0_010FF7_011003_011038_011071_011073,
  0x011075_011076_011083_0110B0_0110D0_0110E9_011103_011127,
  0x011144_011145_011147_011148_011150_011173_011176_011177,
  0x011183_0111B3_0111C1_0111C5_0111DA_0111DB_0111DC_0111DD,
  0x011200_011212_011213_01122C_01123F_011241_011280_011287,
  0x011288_011289_01128A_01128E_01128F_01129E_01129F_0112A9,
  0x0112B0_0112DF_011305_01130D_01130F_011311_011313_011329,
  0x01132A_011331_011332_011334_011335_01133A_01133D_01133E,
  0x011350_011351_01135D_011362_011380_01138A_01138B_01138C,
  0x01138E_01138F_011390_0113B6_0113B7_0113B8_0113D1_0113D2,
  0x0113D3_0113D4_011400_011435_011447_01144B_01145F_011462,
  0x011480_0114B0_0114C4_0114C6_0114C7_0114C8_011580_0115AF,
  0x0115D8_0115DC_011600_011630_011644_011645_011680_0116AB,
  0x0116B8_0116B9_011700_01171B_011740_011747_011800_01182C,
  0x0118FF_011907_011909_01190A_01190C_011914_011915_011917,
  0x011918_011930_01193F_011940_011941_011942_0119A0_0119A8,
  0x0119AA_0119D1_0119E1_0119E2_0119E3_0119E4_011A00_011A01,
  0x011A0B_011A33_011A3A_011A3B_011A50_011A51_011A5C_011A8A,
  0x011A9D_011A9E_011AB0_011AF9_011BC0_011BE1_011C00_011C09,
  0x011C0A_011C2F_011C40_011C41_011C72_011C90_011D00_011D07,
  0x011D08_011D0A_011D0B_011D31_011D46_011D47_011D60_011D66,
  0x011D67_011D69_011D6A_011D8A_011D98_011D99_011DB0_011DD9,
  0x011DDA_011DDC_011EE0_011EF3_011F02_011F03_011F04_011F11,
  0x011F12_011F34_011FB0_011FB1_012000_01239A_012480_012544,
  0x012F90_012FF1_013000_013430_013441_013447_013460_0143FB,
  0x014400_014647_016100_01611E_016800_016A39_016A40_016A5F,
  0x016A70_016ABF_016AD0_016AEE_016B00_016B30_016B63_016B78,
  0x016B7D_016B90_016D43_016D6B_016F00_016F4B_016F50_016F51,
  0x017000_018CD6_018CFF_018D1F_018D80_018DF3_01B000_01B123,
  0x01B132_01B133_01B150_01B153_01B155_01B156_01B164_01B168,
  0x01B170_01B2FC_01BC00_01BC6B_01BC70_01BC7D_01BC80_01BC89,
  0x01BC90_01BC9A_01DF0A_01DF0B_01E100_01E12D_01E14E_01E14F,
  0x01E290_01E2AE_01E2C0_01E2EC_01E4D0_01E4EB_01E5D0_01E5EE,
  0x01E5F0_01E5F1_01E6C0_01E6DF_01E6E0_01E6E3_01E6E4_01E6E6,
  0x01E6E7_01E6EE_01E6F0_01E6F5_01E6FE_01E6FF_01E7E0_01E7E7,
  0x01E7E8_01E7EC_01E7ED_01E7EF_01E7F0_01E7FF_01E800_01E8C5,
  0x01EE00_01EE04_01EE05_01EE20_01EE21_01EE23_01EE24_01EE25,
  0x01EE27_01EE28_01EE29_01EE33_01EE34_01EE38_01EE39_01EE3A,
  0x01EE3B_01EE3C_01EE42_01EE43_01EE47_01EE48_01EE49_01EE4A,
  0x01EE4B_01EE4C_01EE4D_01EE50_01EE51_01EE53_01EE54_01EE55,
  0x01EE57_01EE58_01EE59_01EE5A_01EE5B_01EE5C_01EE5D_01EE5E,
  0x01EE5F_01EE60_01EE61_01EE63_01EE64_01EE65_01EE67_01EE6B,
  0x01EE6C_01EE73_01EE74_01EE78_01EE79_01EE7D_01EE7E_01EE7F,
  0x01EE80_01EE8A_01EE8B_01EE9C_01EEA1_01EEA4_01EEA5_01EEAA,
  0x01EEAB_01EEBC_020000_02A6E0_02A700_02B81E_02B820_02CEAE,
  0x02CEB0_02EBE1_02EBF0_02EE5E_02F800_02FA1E_030000_03134B,
  0x031350_03347A_110000_110000_110000_110000_110000_110000]

/-- The category Mn. -/
def nonspacingMark : CodePoints := .ofRows [
  0x000300_000370_000483_000488_000591_0005BE_0005BF_0005C0,
  0x0005C1_0005C3_0005C4_0005C6_0005C7_0005C8_000610_00061B,
  0x00064B_000660_000670_000671_0006D6_0006DD_0006DF_0006E5,
  0x0006E7_0006E9_0006EA_0006EE_000711_000712_000730_00074B,
  0x0007A6_0007B1_0007EB_0007F4_0007FD_0007FE_000816_00081A,
  0x00081B_000824_000825_000828_000829_00082E_000859_00085C,
  0x000897_0008A0_0008CA_0008E2_0008E3_000903_00093A_00093B,
  0x00093C_00093D_000941_000949_00094D_00094E_000951_000958,
  0x000962_000964_000981_000982_0009BC_0009BD_0009C1_0009C5,
  0x0009CD_0009CE_0009E2_0009E4_0009FE_0009FF_000A01_000A03,
  0x000A3C_000A3D_000A41_000A43_000A47_000A49_000A4B_000A4E,
  0x000A51_000A52_000A70_000A72_000A75_000A76_000A81_000A83,
  0x000ABC_000ABD_000AC1_000AC6_000AC7_000AC9_000ACD_000ACE,
  0x000AE2_000AE4_000AFA_000B00_000B01_000B02_000B3C_000B3D,
  0x000B3F_000B40_000B41_000B45_000B4D_000B4E_000B55_000B57,
  0x000B62_000B64_000B82_000B83_000BC0_000BC1_000BCD_000BCE,
  0x000C00_000C01_000C04_000C05_000C3C_000C3D_000C3E_000C41,
  0x000C46_000C49_000C4A_000C4E_000C55_000C57_000C62_000C64,
  0x000C81_000C82_000CBC_000CBD_000CBF_000CC0_000CC6_000CC7,
  0x000CCC_000CCE_000CE2_000CE4_000D00_000D02_000D3B_000D3D,
  0x000D41_000D45_000D4D_000D4E_000D62_000D64_000D81_000D82,
  0x000DCA_000DCB_000DD2_000DD5_000DD6_000DD7_000E31_000E32,
  0x000E34_000E3B_000E47_000E4F_000EB1_000EB2_000EB4_000EBD,
  0x000EC8_000ECF_000F18_000F1A_000F35_000F36_000F37_000F38,
  0x000F39_000F3A_000F71_000F7F_000F80_000F85_000F86_000F88,
  0x000F8D_000F98_000F99_000FBD_000FC6_000FC7_00102D_001031,
  0x001032_001038_001039_00103B_00103D_00103F_001058_00105A,
  0x00105E_001061_001071_001075_001082_001083_001085_001087,
  0x00108D_00108E_00109D_00109E_00135D_001360_001712_001715,
  0x001732_001734_001752_001754_001772_001774_0017B4_0017B6,
  0x0017B7_0017BE_0017C6_0017C7_0017C9_0017D4_0017DD_0017DE,
  0x00180B_00180E_00180F_001810_001885_001887_0018A9_0018AA,
  0x001920_001923_001927_001929_001932_001933_001939_00193C,
  0x001A17_001A19_001A1B_001A1C_001A56_001A57_001A58_001A5F,
  0x001A60_001A61_001A62_001A63_001A65_001A6D_001A73_001A7D,
  0x001A7F_001A80_001AB0_001ABE_001ABF_001ADE_001AE0_001AEC,
  0x001B00_001B04_001B34_001B35_001B36_001B3B_001B3C_001B3D,
  0x001B42_001B43_001B6B_001B74_001B80_001B82_001BA2_001BA6,
  0x001BA8_001BAA_001BAB_001BAE_001BE6_001BE7_001BE8_001BEA,
  0x001BED_001BEE_001BEF_001BF2_001C2C_001C34_001C36_001C38,
  0x001CD0_001CD3_001CD4_001CE1_001CE2_001CE9_001CED_001CEE,
  0x001CF4_001CF5_001CF8_001CFA_001DC0_001E00_0020D0_0020DD,
  0x0020E1_0020E2_0020E5_0020F1_002CEF_002CF2_002D7F_002D80,
  0x002DE0_002E00_00302A_00302E_003099_00309B_00A66F_00A670,
  0x00A674_00A67E_00A69E_00A6A0_00A6F0_00A6F2_00A802_00A803,
  0x00A806_00A807_00A80B_00A80C_00A825_00A827_00A82C_00A82D,
  0x00A8C4_00A8C6_00A8E0_00A8F2_00A8FF_00A900_00A926_00A92E,
  0x00A947_00A952_00A980_00A983_00A9B3_00A9B4_00A9B6_00A9BA,
  0x00A9BC_00A9BE_00A9E5_00A9E6_00AA29_00AA2F_00AA31_00AA33,
  0x00AA35_00AA37_00AA43_00AA44_00AA4C_00AA4D_00AA7C_00AA7D,
  0x00AAB0_00AAB1_00AAB2_00AAB5_00AAB7_00AAB9_00AABE_00AAC0,
  0x00AAC1_00AAC2_00AAEC_00AAEE_00AAF6_00AAF7_00ABE5_00ABE6,
  0x00ABE8_00ABE9_00ABED_00ABEE_00FB1E_00FB1F_00FE00_00FE10,
  0x00FE20_00FE30_0101FD_0101FE_0102E0_0102E1_010376_01037B,
  0x010A01_010A04_010A05_010A07_010A0C_010A10_010A38_010A3B,
  0x010A3F_010A40_010AE5_010AE7_010D24_010D28_010D69_010D6E,
  0x010EAB_010EAD_010EFA_010F00_010F46_010F51_010F82_010F86,
  0x011001_011002_011038_011047_011070_011071_011073_011075,
  0x01107F_011082_0110B3_0110B7_0110B9_0110BB_0110C2_0110C3,
  0x011100_011103_011127_01112C_01112D_011135_011173_011174,
  0x011180_011182_0111B6_0111BF_0111C9_0111CD_0111CF_0111D0,
  0x01122F_011232_011234_011235_011236_011238_01123E_01123F,
  0x011241_011242_0112DF_0112E0_0112E3_0112EB_011300_011302,
  0x01133B_01133D_011340_011341_011366_01136D_011370_011375,
  0x0113BB_0113C1_0113CE_0113CF_0113D0_0113D1_0113D2_0113D3,
  0x0113E1_0113E3_011438_011440_011442_011445_011446_011447,
  0x01145E_01145F_0114B3_0114B9_0114BA_0114BB_0114BF_0114C1,
  0x0114C2_0114C4_0115B2_0115B6_0115BC_0115BE_0115BF_0115C1,
  0x0115DC_0115DE_011633_01163B_01163D_01163E_01163F_011641,
  0x0116AB_0116AC_0116AD_0116AE_0116B0_0116B6_0116B7_0116B8,
  0x01171D_01171E_01171F_011720_011722_011726_011727_01172C,
  0x01182F_011838_011839_01183B_01193B_01193D_01193E_01193F,
  0x011943_011944_0119D4_0119D8_0119DA_0119DC_0119E0_0119E1,
  0x011A01_011A0B_011A33_011A39_011A3B_011A3F_011A47_011A48,
  0x011A51_011A57_011A59_011A5C_011A8A_011A97_011A98_011A9A,
  0x011B60_011B61_011B62_011B65_011B66_011B67_011C30_011C37,
  0x011C38_011C3E_011C3F_011C40_011C92_011CA8_011CAA_011CB1,
  0x011CB2_011CB4_011CB5_011CB7_011D31_011D37_011D3A_011D3B,
  0x011D3C_011D3E_011D3F_011D46_011D47_011D48_011D90_011D92,
  0x011D95_011D96_011D97_011D98_011EF3_011EF5_011F00_011F02,
  0x011F36_011F3B_011F40_011F41_011F42_011F43_011F5A_011F5B,
  0x013440_013441_013447_013456_01611E_01612A_01612D_016130,
  0x016AF0_016AF5_016B30_016B37_016F4F_016F50_016F8F_016F93,
  0x016FE4_016FE5_01BC9D_01BC9F_01CF00_01CF2E_01CF30_01CF47,
  0x01D167_01D16A_01D17B_01D183_01D185_01D18C_01D1AA_01D1AE,
  0x01D242_01D245_01DA00_01DA37_01DA3B_01DA6D_01DA75_01DA76,
  0x01DA84_01DA85_01DA9B_01DAA0_01DAA1_01DAB0_01E000_01E007,
  0x01E008_01E019_01E01B_01E022_01E023_01E025_01E026_01E02B,
  0x01E08F_01E090_01E130_01E137_01E2AE_01E2AF_01E2EC_01E2F0,
  0x01E4EC_01E4F0_01E5EE_01E5F0_01E6E3_01E6E4_01E6E6_01E6E7,
  0x01E6EE_01E6F0_01E6F5_01E6F6_01E8D0_01E8D7_01E944_01E94B,
  0x0E0100_0E01F0_110000_110000_110000_110000_110000_110000]

/-- The category Mc. -/
def spacingMark : CodePoints := .ofRows [
  0x000903_000904_00093B_00093C_00093E_000941_000949_00094D,
  0x00094E_000950_000982_000984_0009BE_0009C1_0009C7_0009C9,
  0x0009CB_0009CD_0009D7_0009D8_000A03_000A04_000A3E_000A41,
  0x000A83_000A84_000ABE_000AC1_000AC9_000ACA_000ACB_000ACD,
  0x000B02_000B04_000B3E_000B3F_000B40_000B41_000B47_000B49,
  0x000B4B_000B4D_000B57_000B58_000BBE_000BC0_000BC1_000BC3,
  0x000BC6_000BC9_000BCA_000BCD_000BD7_000BD8_000C01_000C04,
  0x000C41_000C45_000C82_000C84_000CBE_000CBF_000CC0_000CC5,
  0x000CC7_000CC9_000CCA_000CCC_000CD5_000CD7_000CF3_000CF4,
  0x000D02_000D04_000D3E_000D41_000D46_000D49_000D4A_000D4D,
  0x000D57_000D58_000D82_000D84_000DCF_000DD2_000DD8_000DE0,
  0x000DF2_000DF4_000F3E_000F40_000F7F_000F80_00102B_00102D,
  0x001031_001032_001038_001039_00103B_00103D_001056_001058,
  0x001062_001065_001067_00106E_001083_001085_001087_00108D,
  0x00108F_001090_00109A_00109D_001715_001716_001734_001735,
  0x0017B6_0017B7_0017BE_0017C6_0017C7_0017C9_001923_001927,
  0x001929_00192C_001930_001932_001933_001939_001A19_001A1B,
  0x001A55_001A56_001A57_001A58_001A61_001A62_001A63_001A65,
  0x001A6D_001A73_001B04_001B05_001B35_001B36_001B3B_001B3C,
  0x001B3D_001B42_001B43_001B45_001B82_001B83_001BA1_001BA2,
  0x001BA6_001BA8_001BAA_001BAB_001BE7_001BE8_001BEA_001BED,
  0x001BEE_001BEF_001BF2_001BF4_001C24_001C2C_001C34_001C36,
  0x001CE1_001CE2_001CF7_001CF8_00302E_003030_00A823_00A825,
  0x00A827_00A828_00A880_00A882_00A8B4_00A8C4_00A952_00A954,
  0x00A983_00A984_00A9B4_00A9B6_00A9BA_00A9BC_00A9BE_00A9C1,
  0x00AA2F_00AA31_00AA33_00AA35_00AA4D_00AA4E_00AA7B_00AA7C,
  0x00AA7D_00AA7E_00AAEB_00AAEC_00AAEE_00AAF0_00AAF5_00AAF6,
  0x00ABE3_00ABE5_00ABE6_00ABE8_00ABE9_00ABEB_00ABEC_00ABED,
  0x011000_011001_011002_011003_011082_011083_0110B0_0110B3,
  0x0110B7_0110B9_01112C_01112D_011145_011147_011182_011183,
  0x0111B3_0111B6_0111BF_0111C1_0111CE_0111CF_01122C_01122F,
  0x011232_011234_011235_011236_0112E0_0112E3_011302_011304,
  0x01133E_011340_011341_011345_011347_011349_01134B_01134E,
  0x011357_011358_011362_011364_0113B8_0113BB_0113C2_0113C3,
  0x0113C5_0113C6_0113C7_0113CB_0113CC_0113CE_0113CF_0113D0,
  0x011435_011438_011440_011442_011445_011446_0114B0_0114B3,
  0x0114B9_0114BA_0114BB_0114BF_0114C1_0114C2_0115AF_0115B2,
  0x0115B8_0115BC_0115BE_0115BF_011630_011633_01163B_01163D,
  0x01163E_01163F_0116AC_0116AD_0116AE_0116B0_0116B6_0116B7,
  0x01171E_01171F_011720_011722_011726_011727_01182C_01182F,
  0x011838_011839_011930_011936_011937_011939_01193D_01193E,
  0x011940_011941_011942_011943_0119D1_0119D4_0119DC_0119E0,
  0x0119E4_0119E5_011A39_011A3A_011A57_011A59_011A97_011A98,
  0x011B61_011B62_011B65_011B66_011B67_011B68_011C2F_011C30,
  0x011C3E_011C3F_011CA9_011CAA_011CB1_011CB2_011CB4_011CB5,
  0x011D8A_011D8F_011D93_011D95_011D96_011D97_011EF5_011EF7,
  0x011F03_011F04_011F34_011F36_011F3E_011F40_011F41_011F42,
  0x01612A_01612D_016F51_016F88_016FF0_016FF2_01D165_01D167,
  0x01D16D_01D173_110000_110000_110000_110000_110000_110000]

/-- The category Me. -/
def enclosingMark : CodePoints := .ofRows [
  0x000488_00048A_001ABE_001ABF_0020DD_0020E1_0020E2_0020E5,
  0x00A670_00A673_110000_110000_110000_110000_110000_110000]

/-- The category Nd. -/
def decimalNumber : CodePoints := .ofRows [
  0x000030_00003A_000660_00066A_0006F0_0006FA_0007C0_0007CA,
  0x000966_000970_0009E6_0009F0_000A66_000A70_000AE6_000AF0,
  0x000B66_000B70_000BE6_000BF0_000C66_000C70_000CE6_000CF0,
  0x000D66_000D70_000DE6_000DF0_000E50_000E5A_000ED0_000EDA,
  0x000F20_000F2A_001040_00104A_001090_00109A_0017E0_0017EA,
  0x001810_00181A_001946_001950_0019D0_0019DA_001A80_001A8A,
  0x001A90_001A9A_001B50_001B5A_001BB0_001BBA_001C40_001C4A,
  0x001C50_001C5A_00A620_00A62A_00A8D0_00A8DA_00A900_00A90A,
  0x00A9D0_00A9DA_00A9F0_00A9FA_00AA50_00AA5A_00ABF0_00ABFA,
  0x00FF10_00FF1A_0104A0_0104AA_010D30_010D3A_010D40_010D4A,
  0x011066_011070_0110F0_0110FA_011136_011140_0111D0_0111DA,
  0x0112F0_0112FA_011450_01145A_0114D0_0114DA_011650_01165A,
  0x0116C0_0116CA_0116D0_0116E4_011730_01173A_0118E0_0118EA,
  0x011950_01195A_011BF0_011BFA_011C50_011C5A_011D50_011D5A,
  0x011DA0_011DAA_011DE0_011DEA_011F50_011F5A_016130_01613A,
  0x016A60_016A6A_016AC0_016ACA_016B50_016B5A_016D70_016D7A,
  0x01CCF0_01CCFA_01D7CE_01D800_01E140_01E14A_01E2F0_01E2FA,
  0x01E4F0_01E4FA_01E5F1_01E5FB_01E950_01E95A_01FBF0_01FBFA]

/-- The category Nl. -/
def letterNumber : CodePoints := .ofRows [
  0x0016EE_0016F1_002160_002183_002185_002189_003007_003008,
  0x003021_00302A_003038_00303B_00A6E6_00A6F0_010140_010175,
  0x010341_010342_01034A_01034B_0103D1_0103D6_012400_01246F,
  0x016FF4_016FF7_110000_110000_110000_110000_110000_110000]

/-- The category No. -/
def otherNumber : CodePoints := .ofRows [
  0x0000B2_0000B4_0000B9_0000BA_0000BC_0000BF_0009F4_0009FA,
  0x000B72_000B78_000BF0_000BF3_000C78_000C7F_000D58_000D5F,
  0x000D70_000D79_000F2A_000F34_001369_00137D_0017F0_0017FA,
  0x0019DA_0019DB_002070_002071_002074_00207A_002080_00208A,
  0x002150_002160_002189_00218A_002460_00249C_0024EA_002500,
  0x002776_002794_002CFD_002CFE_003192_003196_003220_00322A,
  0x003248_003250_003251_003260_003280_00328A_0032B1_0032C0,
  0x00A830_00A836_010107_010134_010175_010179_01018A_01018C,
  0x0102E1_0102FC_010320_010324_010858_010860_010879_010880,
  0x0108A7_0108B0_0108FB_010900_010916_01091C_0109BC_0109BE,
  0x0109C0_0109D0_0109D2_010A00_010A40_010A49_010A7D_010A7F,
  0x010A9D_010AA0_010AEB_010AF0_010B58_010B60_010B78_010B80,
  0x010BA9_010BB0_010CFA_010D00_010E60_010E7F_010F1D_010F27,
  0x010F51_010F55_010FC5_010FCC_011052_011066_0111E1_0111F5,
  0x01173A_01173C_0118EA_0118F3_011C5A_011C6D_011FC0_011FD5,
  0x016B5B_016B62_016E80_016E97_01D2C0_01D2D4_01D2E0_01D2F4,
  0x01D360_01D379_01E8C7_01E8D0_01EC71_01ECAC_01ECAD_01ECB0,
  0x01ECB1_01ECB5_01ED01_01ED2E_01ED2F_01ED3E_01F100_01F10D]

/-- The category Pc. -/
def connectorPunctuation : CodePoints := .ofRows [
  0x00005F_000060_00203F_002041_002054_002055_00FE33_00FE35,
  0x00FE4D_00FE50_00FF3F_00FF40_110000_110000_110000_110000]

/-- The category Pd. -/
def dashPunctuation : CodePoints := .ofRows [
  0x00002D_00002E_00058A_00058B_0005BE_0005BF_001400_001401,
  0x001806_001807_002010_002016_002E17_002E18_002E1A_002E1B,
  0x002E3A_002E3C_002E40_002E41_002E5D_002E5E_00301C_00301D,
  0x003030_003031_0030A0_0030A1_00FE31_00FE33_00FE58_00FE59,
  0x00FE63_00FE64_00FF0D_00FF0E_010D6E_010D6F_010EAD_010EAE]

/-- The category Ps. -/
def openPunctuation : CodePoints := .ofRows [
  0x000028_000029_00005B_00005C_00007B_00007C_000F3A_000F3B,
  0x000F3C_000F3D_00169B_00169C_00201A_00201B_00201E_00201F,
  0x002045_002046_00207D_00207E_00208D_00208E_002308_002309,
  0x00230A_00230B_002329_00232A_002768_002769_00276A_00276B,
  0x00276C_00276D_00276E_00276F_002770_002771_002772_002773,
  0x002774_002775_0027C5_0027C6_0027E6_0027E7_0027E8_0027E9,
  0x0027EA_0027EB_0027EC_0027ED_0027EE_0027EF_002983_002984,
  0x002985_002986_002987_002988_002989_00298A_00298B_00298C,
  0x00298D_00298E_00298F_002990_002991_002992_002993_002994,
  0x002995_002996_002997_002998_0029D8_0029D9_0029DA_0029DB,
  0x0029FC_0029FD_002E22_002E23_002E24_002E25_002E26_002E27,
  0x002E28_002E29_002E42_002E43_002E55_002E56_002E57_002E58,
  0x002E59_002E5A_002E5B_002E5C_003008_003009_00300A_00300B,
  0x00300C_00300D_00300E_00300F_003010_003011_003014_003015,
  0x003016_003017_003018_003019_00301A_00301B_00301D_00301E,
  0x00FD3F_00FD40_00FE17_00FE18_00FE35_00FE36_00FE37_00FE38,
  0x00FE39_00FE3A_00FE3B_00FE3C_00FE3D_00FE3E_00FE3F_00FE40,
  0x00FE41_00FE42_00FE43_00FE44_00FE47_00FE48_00FE59_00FE5A,
  0x00FE5B_00FE5C_00FE5D_00FE5E_00FF08_00FF09_00FF3B_00FF3C,
  0x00FF5B_00FF5C_00FF5F_00FF60_00FF62_00FF63_110000_110000]

/-- The category Pe. -/
def closePunctuation : CodePoints := .ofRows [
  0x000029_00002A_00005D_00005E_00007D_00007E_000F3B_000F3C,
  0x000F3D_000F3E_00169C_00169D_002046_002047_00207E_00207F,
  0x00208E_00208F_002309_00230A_00230B_00230C_00232A_00232B,
  0x002769_00276A_00276B_00276C_00276D_00276E_00276F_002770,
  0x002771_002772_002773_002774_002775_002776_0027C6_0027C7,
  0x0027E7_0027E8_0027E9_0027EA_0027EB_0027EC_0027ED_0027EE,
  0x0027EF_0027F0_002984_002985_002986_002987_002988_002989,
  0x00298A_00298B_00298C_00298D_00298E_00298F_002990_002991,
  0x002992_002993_002994_002995_002996_002997_002998_002999,
  0x0029D9_0029DA_0029DB_0029DC_0029FD_0029FE_002E23_002E24,
  0x002E25_002E26_002E27_002E28_002E29_002E2A_002E56_002E57,
  0x002E58_002E59_002E5A_002E5B_002E5C_002E5D_003009_00300A,
  0x00300B_00300C_00300D_00300E_00300F_003010_003011_003012,
  0x003015_003016_003017_003018_003019_00301A_00301B_00301C,
  0x00301E_003020_00FD3E_00FD3F_00FE18_00FE19_00FE36_00FE37,
  0x00FE38_00FE39_00FE3A_00FE3B_00FE3C_00FE3D_00FE3E_00FE3F,
  0x00FE40_00FE41_00FE42_00FE43_00FE44_00FE45_00FE48_00FE49,
  0x00FE5A_00FE5B_00FE5C_00FE5D_00FE5E_00FE5F_00FF09_00FF0A,
  0x00FF3D_00FF3E_00FF5D_00FF5E_00FF60_00FF61_00FF63_00FF64]

/-- The category Pi. -/
def initialPunctuation : CodePoints := .ofRows [
  0x0000AB_0000AC_002018_002019_00201B_00201D_00201F_002020,
  0x002039_00203A_002E02_002E03_002E04_002E05_002E09_002E0A,
  0x002E0C_002E0D_002E1C_002E1D_002E20_002E21_110000_110000]

/-- The category Pf. -/
def finalPunctuation : CodePoints := .ofRows [
  0x0000BB_0000BC_002019_00201A_00201D_00201E_00203A_00203B,
  0x002E03_002E04_002E05_002E06_002E0A_002E0B_002E0D_002E0E,
  0x002E1D_002E1E_002E21_002E22_110000_110000_110000_110000]

/-- The category Po. -/
def otherPunctuation : CodePoints := .ofRows [
  0x000021_000024_000025_000028_00002A_00002B_00002C_00002D,
  0x00002E_000030_00003A_00003C_00003F_000041_00005C_00005D,
  0x0000A1_0000A2_0000A7_0000A8_0000B6_0000B8_0000BF_0000C0,
  0x00037E_00037F_000387_000388_00055A_000560_000589_00058A,
  0x0005C0_0005C1_0005C3_0005C4_0005C6_0005C7_0005F3_0005F5,
  0x000609_00060B_00060C_00060E_00061B_00061C_00061D_000620,
  0x00066A_00066E_0006D4_0006D5_000700_00070E_0007F7_0007FA,
  0x000830_00083F_00085E_00085F_000964_000966_000970_000971,
  0x0009FD_0009FE_000A76_000A77_000AF0_000AF1_000C77_000C78,
  0x000C84_000C85_000DF4_000DF5_000E4F_000E50_000E5A_000E5C,
  0x000F04_000F13_000F14_000F15_000F85_000F86_000FD0_000FD5,
  0x000FD9_000FDB_00104A_001050_0010FB_0010FC_001360_001369,
  0x00166E_00166F_0016EB_0016EE_001735_001737_0017D4_0017D7,
  0x0017D8_0017DB_001800_001806_001807_00180B_001944_001946,
  0x001A1E_001A20_001AA0_001AA7_001AA8_001AAE_001B4E_001B50,
  0x001B5A_001B61_001B7D_001B80_001BFC_001C00_001C3B_001C40,
  0x001C7E_001C80_001CC0_001CC8_001CD3_001CD4_002016_002018,
  0x002020_002028_002030_002039_00203B_00203F_002041_002044,
  0x002047_002052_002053_002054_002055_00205F_002CF9_002CFD,
  0x002CFE_002D00_002D70_002D71_002E00_002E02_002E06_002E09,
  0x002E0B_002E0C_002E0E_002E17_002E18_002E1A_002E1B_002E1C,
  0x002E1E_002E20_002E2A_002E2F_002E30_002E3A_002E3C_002E40,
  0x002E41_002E42_002E43_002E50_002E52_002E55_003001_003004,
  0x00303D_00303E_0030FB_0030FC_00A4FE_00A500_00A60D_00A610,
  0x00A673_00A674_00A67E_00A67F_00A6F2_00A6F8_00A874_00A878,
  0x00A8CE_00A8D0_00A8F8_00A8FB_00A8FC_00A8FD_00A92E_00A930,
  0x00A95F_00A960_00A9C1_00A9CE_00A9DE_00A9E0_00AA5C_00AA60,
  0x00AADE_00AAE0_00AAF0_00AAF2_00ABEB_00ABEC_00FE10_00FE17,
  0x00FE19_00FE1A_00FE30_00FE31_00FE45_00FE47_00FE49_00FE4D,
  0x00FE50_00FE53_00FE54_00FE58_00FE5F_00FE62_00FE68_00FE69,
  0x00FE6A_00FE6C_00FF01_00FF04_00FF05_00FF08_00FF0A_00FF0B,
  0x00FF0C_00FF0D_00FF0E_00FF10_00FF1A_00FF1C_00FF1F_00FF21,
  0x00FF3C_00FF3D_00FF61_00FF62_00FF64_00FF66_010100_010103,
  0x01039F_0103A0_0103D0_0103D1_01056F_010570_010857_010858,
  0x01091F_010920_01093F_010940_010A50_010A59_010A7F_010A80,
  0x010AF0_010AF7_010B39_010B40_010B99_010B9D_010ED0_010ED1,
  0x010F55_010F5A_010F86_010F8A_011047_01104E_0110BB_0110BD,
  0x0110BE_0110C2_011140_011144_011174_011176_0111C5_0111C9,
  0x0111CD_0111CE_0111DB_0111DC_0111DD_0111E0_011238_01123E,
  0x0112A9_0112AA_0113D4_0113D6_0113D7_0113D9_01144B_011450,
  0x01145A_01145C_01145D_01145E_0114C6_0114C7_0115C1_0115D8,
  0x011641_011644_011660_01166D_0116B9_0116BA_01173C_01173F,
  0x01183B_01183C_011944_011947_0119E2_0119E3_011A3F_011A47,
  0x011A9A_011A9D_011A9E_011AA3_011B00_011B0A_011BE1_011BE2,
  0x011C41_011C46_011C70_011C72_011EF7_011EF9_011F43_011F50,
  0x011FFF_012000_012470_012475_012FF1_012FF3_016A6E_016A70,
  0x016AF5_016AF6_016B37_016B3C_016B44_016B45_016D6D_016D70,
  0x016E97_016E9B_016FE2_016FE3_01BC9F_01BCA0_01DA87_01DA8C,
  0x01E5FF_01E600_01E95E_01E960_110000_110000_110000_110000]

/-- The category Sm. -/
def mathSymbol : CodePoints := .ofRows [
  0x00002B_00002C_00003C_00003F_00007C_00007D_00007E_00007F,
  0x0000AC_0000AD_0000B1_0000B2_0000D7_0000D8_0000F7_0000F8,
  0x0003F6_0003F7_000606_000609_002044_002045_002052_002053,
  0x00207A_00207D_00208A_00208D_002118_002119_002140_002145,
  0x00214B_00214C_002190_002195_00219A_00219C_0021A0_0021A1,
  0x0021A3_0021A4_0021A6_0021A7_0021AE_0021AF_0021CE_0021D0,
  0x0021D2_0021D3_0021D4_0021D5_0021F4_002300_002320_002322,
  0x00237C_00237D_00239B_0023B4_0023DC_0023E2_0025B7_0025B8,
  0x0025C1_0025C2_0025F8_002600_00266F_002670_0027C0_0027C5,
  0x0027C7_0027E6_0027F0_002800_002900_002983_002999_0029D8,
  0x0029DC_0029FC_0029FE_002B00_002B30_002B45_002B47_002B4D,
  0x00FB29_00FB2A_00FE62_00FE63_00FE64_00FE67_00FF0B_00FF0C,
  0x00FF1C_00FF1F_00FF5C_00FF5D_00FF5E_00FF5F_00FFE2_00FFE3,
  0x00FFE9_00FFED_010D8E_010D90_01CEF0_01CEF1_01D6C1_01D6C2,
  0x01D6DB_01D6DC_01D6FB_01D6FC_01D715_01D716_01D735_01D736,
  0x01D74F_01D750_01D76F_01D770_01D789_01D78A_01D7A9_01D7AA,
  0x01D7C3_01D7C4_01EEF0_01EEF2_01F8D0_01F8D9_110000_110000]

/-- The category Sc. -/
def currencySymbol : CodePoints := .ofRows [
  0x000024_000025_0000A2_0000A6_00058F_000590_00060B_00060C,
  0x0007FE_000800_0009F2_0009F4_0009FB_0009FC_000AF1_000AF2,
  0x000BF9_000BFA_000E3F_000E40_0017DB_0017DC_0020A0_0020C2,
  0x00A838_00A839_00FDFC_00FDFD_00FE69_00FE6A_00FF04_00FF05,
  0x00FFE0_00FFE2_00FFE5_00FFE7_011FDD_011FE1_01E2FF_01E300,
  0x01ECB0_01ECB1_110000_110000_110000_110000_110000_110000]

/-- The category Sk. -/
def modifierSymbol : CodePoints := .ofRows [
  0x00005E_00005F_000060_000061_0000A8_0000A9_0000AF_0000B0,
  0x0000B4_0000B5_0000B8_0000B9_0002C2_0002C6_0002D2_0002E0,
  0x0002E5_0002EC_0002ED_0002EE_0002EF_000300_000375_000376,
  0x000384_000386_000888_000889_001FBD_001FBE_001FBF_001FC2,
  0x001FCD_001FD0_001FDD_001FE0_001FED_001FF0_001FFD_001FFF,
  0x00309B_00309D_00A700_00A717_00A720_00A722_00A789_00A78B,
  0x00AB5B_00AB5C_00AB6A_00AB6C_00FBB2_00FBC3_00FF3E_00FF3F,
  0x00FF40_00FF41_00FFE3_00FFE4_01F3FB_01F400_110000_110000]

/-- The category So. -/
def otherSymbol : CodePoints := .ofRows [
  0x0000A6_0000A7_0000A9_0000AA_0000AE_0000AF_0000B0_0000B1,
  0x000482_000483_00058D_00058F_00060E_000610_0006DE_0006DF,
  0x0006E9_0006EA_0006FD_0006FF_0007F6_0007F7_0009FA_0009FB,
  0x000B70_000B71_000BF3_000BF9_000BFA_000BFB_000C7F_000C80,
  0x000D4F_000D50_000D79_000D7A_000F01_000F04_000F13_000F14,
  0x000F15_000F18_000F1A_000F20_000F34_000F35_000F36_000F37,
  0x000F38_000F39_000FBE_000FC6_000FC7_000FCD_000FCE_000FD0,
  0x000FD5_000FD9_00109E_0010A0_001390_00139A_00166D_00166E,
  0x001940_001941_0019DE_001A00_001B61_001B6B_001B74_001B7D,
  0x002100_002102_002103_002107_002108_00210A_002114_002115,
  0x002116_002118_00211E_002124_002125_002126_002127_002128,
  0x002129_00212A_00212E_00212F_00213A_00213C_00214A_00214B,
  0x00214C_00214E_00214F_002150_00218A_00218C_002195_00219A,
  0x00219C_0021A0_0021A1_0021A3_0021A4_0021A6_0021A7_0021AE,
  0x0021AF_0021CE_0021D0_0021D2_0021D3_0021D4_0021D5_0021F4,
  0x002300_002308_00230C_002320_002322_002329_00232B_00237C,
  0x00237D_00239B_0023B4_0023DC_0023E2_00242A_002440_00244B,
  0x00249C_0024EA_002500_0025B7_0025B8_0025C1_0025C2_0025F8,
  0x002600_00266F_002670_002768_002794_0027C0_002800_002900,
  0x002B00_002B30_002B45_002B47_002B4D_002B74_002B76_002C00,
  0x002CE5_002CEB_002E50_002E52_002E80_002E9A_002E9B_002EF4,
  0x002F00_002FD6_002FF0_003000_003004_003005_003012_003014,
  0x003020_003021_003036_003038_00303E_003040_003190_003192,
  0x003196_0031A0_0031C0_0031E6_0031EF_0031F0_003200_00321F,
  0x00322A_003248_003250_003251_003260_003280_00328A_0032B1,
  0x0032C0_003400_004DC0_004E00_00A490_00A4C7_00A828_00A82C,
  0x00A836_00A838_00A839_00A83A_00AA77_00AA7A_00FBC3_00FBD3,
  0x00FD40_00FD50_00FD90_00FD92_00FDC8_00FDD0_00FDFD_00FE00,
  0x00FFE4_00FFE5_00FFE8_00FFE9_00FFED_00FFEF_00FFFC_00FFFE,
  0x010137_010140_010179_01018A_01018C_01018F_010190_01019D,
  0x0101A0_0101A1_0101D0_0101FD_010877_010879_010AC8_010AC9,
  0x010ED1_010ED9_01173F_011740_011FD5_011FDD_011FE1_011FF2,
  0x016B3C_016B40_016B45_016B46_01BC9C_01BC9D_01CC00_01CCF0,
  0x01CCFA_01CCFD_01CD00_01CEB4_01CEBA_01CED1_01CEE0_01CEF0,
  0x01CF50_01CFC4_01D000_01D0F6_01D100_01D127_01D129_01D165,
  0x01D16A_01D16D_01D183_01D185_01D18C_01D1AA_01D1AE_01D1EB,
  0x01D200_01D242_01D245_01D246_01D300_01D357_01D800_01DA00,
  0x01DA37_01DA3B_01DA6D_01DA75_01DA76_01DA84_01DA85_01DA87,
  0x01E14F_01E150_01ECAC_01ECAD_01ED2E_01ED2F_01F000_01F02C,
  0x01F030_01F094_01F0A0_01F0AF_01F0B1_01F0C0_01F0C1_01F0D0,
  0x01F0D1_01F0F6_01F10D_01F1AE_01F1E6_01F203_01F210_01F23C,
  0x01F240_01F249_01F250_01F252_01F260_01F266_01F300_01F3FB,
  0x01F400_01F6D9_01F6DC_01F6ED_01F6F0_01F6FD_01F700_01F7DA,
  0x01F7E0_01F7EC_01F7F0_01F7F1_01F800_01F80C_01F810_01F848,
  0x01F850_01F85A_01F860_01F888_01F890_01F8AE_01F8B0_01F8BC,
  0x01F8C0_01F8C2_01F900_01FA58_01FA60_01FA6E_01FA70_01FA7D,
  0x01FA80_01FA8B_01FA8E_01FAC7_01FAC8_01FAC9_01FACD_01FADD,
  0x01FADF_01FAEB_01FAEF_01FAF9_01FB00_01FB93_01FB94_01FBF0,
  0x01FBFA_01FBFB_110000_110000_110000_110000_110000_110000]

/-- The category Zs. -/
def spaceSeparator : CodePoints := .ofRows [
  0x000020_000021_0000A0_0000A1_001680_001681_002000_00200B,
  0x00202F_002030_00205F_002060_003000_003001_110000_110000]

/-- The category Zl. -/
def lineSeparator : CodePoints := .ofRows [
  0x002028_002029_110000_110000_110000_110000_110000_110000]

/-- The category Zp. -/
def paragraphSeparator : CodePoints := .ofRows [
  0x002029_00202A_110000_110000_110000_110000_110000_110000]

/-- The category Cc. -/
def control : CodePoints := .ofRows [
  0x000000_000020_00007F_0000A0_110000_110000_110000_110000]

/-- The category Cf. -/
def format : CodePoints := .ofRows [
  0x0000AD_0000AE_000600_000606_00061C_00061D_0006DD_0006DE,
  0x00070F_000710_000890_000892_0008E2_0008E3_00180E_00180F,
  0x00200B_002010_00202A_00202F_002060_002065_002066_002070,
  0x00FEFF_00FF00_00FFF9_00FFFC_0110BD_0110BE_0110CD_0110CE,
  0x013430_013440_01BCA0_01BCA4_01D173_01D17B_0E0001_0E0002,
  0x0E0020_0E0080_110000_110000_110000_110000_110000_110000]

/-- The category Co. -/
def privateUse : CodePoints := .ofRows [
  0x00E000_00F900_0F0000_0FFFFE_100000_10FFFE_110000_110000]

/-- The category Cn. -/
def unassigned : CodePoints := .ofRows [
  0x000378_00037A_000380_000384_00038B_00038C_00038D_00038E,
  0x0003A2_0003A3_000530_000531_000557_000559_00058B_00058D,
  0x000590_000591_0005C8_0005D0_0005EB_0005EF_0005F5_000600,
  0x00070E_00070F_00074B_00074D_0007B2_0007C0_0007FB_0007FD,
  0x00082E_000830_00083F_000840_00085C_00085E_00085F_000860,
  0x00086B_000870_000892_000897_000984_000985_00098D_00098F,
  0x000991_000993_0009A9_0009AA_0009B1_0009B2_0009B3_0009B6,
  0x0009BA_0009BC_0009C5_0009C7_0009C9_0009CB_0009CF_0009D7,
  0x0009D8_0009DC_0009DE_0009DF_0009E4_0009E6_0009FF_000A01,
  0x000A04_000A05_000A0B_000A0F_000A11_000A13_000A29_000A2A,
  0x000A31_000A32_000A34_000A35_000A37_000A38_000A3A_000A3C,
  0x000A3D_000A3E_000A43_000A47_000A49_000A4B_000A4E_000A51,
  0x000A52_000A59_000A5D_000A5E_000A5F_000A66_000A77_000A81,
  0x000A84_000A85_000A8E_000A8F_000A92_000A93_000AA9_000AAA,
  0x000AB1_000AB2_000AB4_000AB5_000ABA_000ABC_000AC6_000AC7,
  0x000ACA_000ACB_000ACE_000AD0_000AD1_000AE0_000AE4_000AE6,
  0x000AF2_000AF9_000B00_000B01_000B04_000B05_000B0D_000B0F,
  0x000B11_000B13_000B29_000B2A_000B31_000B32_000B34_000B35,
  0x000B3A_000B3C_000B45_000B47_000B49_000B4B_000B4E_000B55,
  0x000B58_000B5C_000B5E_000B5F_000B64_000B66_000B78_000B82,
  0x000B84_000B85_000B8B_000B8E_000B91_000B92_000B96_000B99,
  0x000B9B_000B9C_000B9D_000B9E_000BA0_000BA3_000BA5_000BA8,
  0x000BAB_000BAE_000BBA_000BBE_000BC3_000BC6_000BC9_000BCA,
  0x000BCE_000BD0_000BD1_000BD7_000BD8_000BE6_000BFB_000C00,
  0x000C0D_000C0E_000C11_000C12_000C29_000C2A_000C3A_000C3C,
  0x000C45_000C46_000C49_000C4A_000C4E_000C55_000C57_000C58,
  0x000C5B_000C5C_000C5E_000C60_000C64_000C66_000C70_000C77,
  0x000C8D_000C8E_000C91_000C92_000CA9_000CAA_000CB4_000CB5,
  0x000CBA_000CBC_000CC5_000CC6_000CC9_000CCA_000CCE_000CD5,
  0x000CD7_000CDC_000CDF_000CE0_000CE4_000CE6_000CF0_000CF1,
  0x000CF4_000D00_000D0D_000D0E_000D11_000D12_000D45_000D46,
  0x000D49_000D4A_000D50_000D54_000D64_000D66_000D80_000D81,
  0x000D84_000D85_000D97_000D9A_000DB2_000DB3_000DBC_000DBD,
  0x000DBE_000DC0_000DC7_000DCA_000DCB_000DCF_000DD5_000DD6,
  0x000DD7_000DD8_000DE0_000DE6_000DF0_000DF2_000DF5_000E01,
  0x000E3B_000E3F_000E5C_000E81_000E83_000E84_000E85_000E86,
  0x000E8B_000E8C_000EA4_000EA5_000EA6_000EA7_000EBE_000EC0,
  0x000EC5_000EC6_000EC7_000EC8_000ECF_000ED0_000EDA_000EDC,
  0x000EE0_000F00_000F48_000F49_000F6D_000F71_000F98_000F99,
  0x000FBD_000FBE_000FCD_000FCE_000FDB_001000_0010C6_0010C7,
  0x0010C8_0010CD_0010CE_0010D0_001249_00124A_00124E_001250,
  0x001257_001258_001259_00125A_00125E_001260_001289_00128A,
  0x00128E_001290_0012B1_0012B2_0012B6_0012B8_0012BF_0012C0,
  0x0012C1_0012C2_0012C6_0012C8_0012D7_0012D8_001311_001312,
  0x001316_001318_00135B_00135D_00137D_001380_00139A_0013A0,
  0x0013F6_0013F8_0013FE_001400_00169D_0016A0_0016F9_001700,
  0x001716_00171F_001737_001740_001754_001760_00176D_00176E,
  0x001771_001772_001774_001780_0017DE_0017E0_0017EA_0017F0,
  0x0017FA_001800_00181A_001820_001879_001880_0018AB_0018B0,
  0x0018F6_001900_00191F_001920_00192C_001930_00193C_001940,
  0x001941_001944_00196E_001970_001975_001980_0019AC_0019B0,
  0x0019CA_0019D0_0019DB_0019DE_001A1C_001A1E_001A5F_001A60,
  0x001A7D_001A7F_001A8A_001A90_001A9A_001AA0_001AAE_001AB0,
  0x001ADE_001AE0_001AEC_001B00_001B4D_001B4E_001BF4_001BFC,
  0x001C38_001C3B_001C4A_001C4D_001C8B_001C90_001CBB_001CBD,
  0x001CC8_001CD0_001CFB_001D00_001F16_001F18_001F1E_001F20,
  0x001F46_001F48_001F4E_001F50_001F58_001F59_001F5A_001F5B,
  0x001F5C_001F5D_001F5E_001F5F_001F7E_001F80_001FB5_001FB6,
  0x001FC5_001FC6_001FD4_001FD6_001FDC_001FDD_001FF0_001FF2,
  0x001FF5_001FF6_001FFF_002000_002065_002066_002072_002074,
  0x00208F_002090_00209D_0020A0_0020C2_0020D0_0020F1_002100,
  0x00218C_002190_00242A_002440_00244B_002460_002B74_002B76,
  0x002CF4_002CF9_002D26_002D27_002D28_002D2D_002D2E_002D30,
  0x002D68_002D6F_002D71_002D7F_002D97_002DA0_002DA7_002DA8,
  0x002DAF_002DB0_002DB7_002DB8_002DBF_002DC0_002DC7_002DC8,
  0x002DCF_002DD0_002DD7_002DD8_002DDF_002DE0_002E5E_002E80,
  0x002E9A_002E9B_002EF4_002F00_002FD6_002FF0_003040_003041,
  0x003097_003099_003100_003105_003130_003131_00318F_003190,
  0x0031E6_0031EF_00321F_003220_00A48D_00A490_00A4C7_00A4D0,
  0x00A62C_00A640_00A6F8_00A700_00A7DD_00A7F1_00A82D_00A830,
  0x00A83A_00A840_00A878_00A880_00A8C6_00A8CE_00A8DA_00A8E0,
  0x00A954_00A95F_00A97D_00A980_00A9CE_00A9CF_00A9DA_00A9DE,
  0x00A9FF_00AA00_00AA37_00AA40_00AA4E_00AA50_00AA5A_00AA5C,
  0x00AAC3_00AADB_00AAF7_00AB01_00AB07_00AB09_00AB0F_00AB11,
  0x00AB17_00AB20_00AB27_00AB28_00AB2F_00AB30_00AB6C_00AB70,
  0x00ABEE_00ABF0_00ABFA_00AC00_00D7A4_00D7B0_00D7C7_00D7CB,
  0x00D7FC_00E000_00FA6E_00FA70_00FADA_00FB00_00FB07_00FB13,
  0x00FB18_00FB1D_00FB37_00FB38_00FB3D_00FB3E_00FB3F_00FB40,
  0x00FB42_00FB43_00FB45_00FB46_00FDD0_00FDF0_00FE1A_00FE20,
  0x00FE53_00FE54_00FE67_00FE68_00FE6C_00FE70_00FE75_00FE76,
  0x00FEFD_00FEFF_00FF00_00FF01_00FFBF_00FFC2_00FFC8_00FFCA,
  0x00FFD0_00FFD2_00FFD8_00FFDA_00FFDD_00FFE0_00FFE7_00FFE8,
  0x00FFEF_00FFF9_00FFFE_010000_01000C_01000D_010027_010028,
  0x01003B_01003C_01003E_01003F_01004E_010050_01005E_010080,
  0x0100FB_010100_010103_010107_010134_010137_01018F_010190,
  0x01019D_0101A0_0101A1_0101D0_0101FE_010280_01029D_0102A0,
  0x0102D1_0102E0_0102FC_010300_010324_01032D_01034B_010350,
  0x01037B_010380_01039E_01039F_0103C4_0103C8_0103D6_010400,
  0x01049E_0104A0_0104AA_0104B0_0104D4_0104D8_0104FC_010500,
  0x010528_010530_010564_01056F_01057B_01057C_01058B_01058C,
  0x010593_010594_010596_010597_0105A2_0105A3_0105B2_0105B3,
  0x0105BA_0105BB_0105BD_0105C0_0105F4_010600_010737_010740,
  0x010756_010760_010768_010780_010786_010787_0107B1_0107B2,
  0x0107BB_010800_010806_010808_010809_01080A_010836_010837,
  0x010839_01083C_01083D_01083F_010856_010857_01089F_0108A7,
  0x0108B0_0108E0_0108F3_0108F4_0108F6_0108FB_01091C_01091F,
  0x01093A_01093F_01095A_010980_0109B8_0109BC_0109D0_0109D2,
  0x010A04_010A05_010A07_010A0C_010A14_010A15_010A18_010A19,
  0x010A36_010A38_010A3B_010A3F_010A49_010A50_010A59_010A60,
  0x010AA0_010AC0_010AE7_010AEB_010AF7_010B00_010B36_010B39,
  0x010B56_010B58_010B73_010B78_010B92_010B99_010B9D_010BA9,
  0x010BB0_010C00_010C49_010C80_010CB3_010CC0_010CF3_010CFA,
  0x010D28_010D30_010D3A_010D40_010D66_010D69_010D86_010D8E,
  0x010D90_010E60_010E7F_010E80_010EAA_010EAB_010EAE_010EB0,
  0x010EB2_010EC2_010EC8_010ED0_010ED9_010EFA_010F28_010F30,
  0x010F5A_010F70_010F8A_010FB0_010FCC_010FE0_010FF7_011000,
  0x01104E_011052_011076_01107F_0110C3_0110CD_0110CE_0110D0,
  0x0110E9_0110F0_0110FA_011100_011135_011136_011148_011150,
  0x011177_011180_0111E0_0111E1_0111F5_011200_011212_011213,
  0x011242_011280_011287_011288_011289_01128A_01128E_01128F,
  0x01129E_01129F_0112AA_0112B0_0112EB_0112F0_0112FA_011300,
  0x011304_011305_01130D_01130F_011311_011313_011329_01132A,
  0x011331_011332_011334_011335_01133A_01133B_011345_011347,
  0x011349_01134B_01134E_011350_011351_011357_011358_01135D,
  0x011364_011366_01136D_011370_011375_011380_01138A_01138B,
  0x01138C_01138E_01138F_011390_0113B6_0113B7_0113C1_0113C2,
  0x0113C3_0113C5_0113C6_0113C7_0113CB_0113CC_0113D6_0113D7,
  0x0113D9_0113E1_0113E3_011400_01145C_01145D_011462_011480,
  0x0114C8_0114D0_0114DA_011580_0115B6_0115B8_0115DE_011600,
  0x011645_011650_01165A_011660_01166D_011680_0116BA_0116C0,
  0x0116CA_0116D0_0116E4_011700_01171B_01171D_01172C_011730,
  0x011747_011800_01183C_0118A0_0118F3_0118FF_011907_011909,
  0x01190A_01190C_011914_011915_011917_011918_011936_011937,
  0x011939_01193B_011947_011950_01195A_0119A0_0119A8_0119AA,
  0x0119D8_0119DA_0119E5_011A00_011A48_011A50_011AA3_011AB0,
  0x011AF9_011B00_011B0A_011B60_011B68_011BC0_011BE2_011BF0,
  0x011BFA_011C00_011C09_011C0A_011C37_011C38_011C46_011C50,
  0x011C6D_011C70_011C90_011C92_011CA8_011CA9_011CB7_011D00,
  0x011D07_011D08_011D0A_011D0B_011D37_011D3A_011D3B_011D3C,
  0x011D3E_011D3F_011D48_011D50_011D5A_011D60_011D66_011D67,
  0x011D69_011D6A_011D8F_011D90_011D92_011D93_011D99_011DA0,
  0x011DAA_011DB0_011DDC_011DE0_011DEA_011EE0_011EF9_011F00,
  0x011F11_011F12_011F3B_011F3E_011F5B_011FB0_011FB1_011FC0,
  0x011FF2_011FFF_01239A_012400_01246F_012470_012475_012480,
  0x012544_012F90_012FF3_013000_013456_013460_0143FB_014400,
  0x014647_016100_01613A_016800_016A39_016A40_016A5F_016A60,
  0x016A6A_016A6E_016ABF_016AC0_016ACA_016AD0_016AEE_016AF0,
  0x016AF6_016B00_016B46_016B50_016B5A_016B5B_016B62_016B63,
  0x016B78_016B7D_016B90_016D40_016D7A_016E40_016E9B_016EA0,
  0x016EB9_016EBB_016ED4_016F00_016F4B_016F4F_016F88_016F8F,
  0x016FA0_016FE0_016FE5_016FF0_016FF7_017000_018CD6_018CFF,
  0x018D1F_018D80_018DF3_01AFF0_01AFF4_01AFF5_01AFFC_01AFFD,
  0x01AFFF_01B000_01B123_01B132_01B133_01B150_01B153_01B155,
  0x01B156_01B164_01B168_01B170_01B2FC_01BC00_01BC6B_01BC70,
  0x01BC7D_01BC80_01BC89_01BC90_01BC9A_01BC9C_01BCA4_01CC00,
  0x01CCFD_01CD00_01CEB4_01CEBA_01CED1_01CEE0_01CEF1_01CF00,
  0x01CF2E_01CF30_01CF47_01CF50_01CFC4_01D000_01D0F6_01D100,
  0x01D127_01D129_01D1EB_01D200_01D246_01D2C0_01D2D4_01D2E0,
  0x01D2F4_01D300_01D357_01D360_01D379_01D400_01D455_01D456,
  0x01D49D_01D49E_01D4A0_01D4A2_01D4A3_01D4A5_01D4A7_01D4A9,
  0x01D4AD_01D4AE_01D4BA_01D4BB_01D4BC_01D4BD_01D4C4_01D4C5,
  0x01D506_01D507_01D50B_01D50D_01D515_01D516_01D51D_01D51E,
  0x01D53A_01D53B_01D53F_01D540_01D545_01D546_01D547_01D54A,
  0x01D551_01D552_01D6A6_01D6A8_01D7CC_01D7CE_01DA8C_01DA9B,
  0x01DAA0_01DAA1_01DAB0_01DF00_01DF1F_01DF25_01DF2B_01E000,
  0x01E007_01E008_01E019_01E01B_01E022_01E023_01E025_01E026,
  0x01E02B_01E030_01E06E_01E08F_01E090_01E100_01E12D_01E130,
  0x01E13E_01E140_01E14A_01E14E_01E150_01E290_01E2AF_01E2C0,
  0x01E2FA_01E2FF_01E300_01E4D0_01E4FA_01E5D0_01E5FB_01E5FF,
  0x01E600_01E6C0_01E6DF_01E6E0_01E6F6_01E6FE_01E700_01E7E0,
  0x01E7E7_01E7E8_01E7EC_01E7ED_01E7EF_01E7F0_01E7FF_01E800,
  0x01E8C5_01E8C7_01E8D7_01E900_01E94C_01E950_01E95A_01E95E,
  0x01E960_01EC71_01ECB5_01ED01_01ED3E_01EE00_01EE04_01EE05,
  0x01EE20_01EE21_01EE23_01EE24_01EE25_01EE27_01EE28_01EE29,
  0x01EE33_01EE34_01EE38_01EE39_01EE3A_01EE3B_01EE3C_01EE42,
  0x01EE43_01EE47_01EE48_01EE49_01EE4A_01EE4B_01EE4C_01EE4D,
  0x01EE50_01EE51_01EE53_01EE54_01EE55_01EE57_01EE58_01EE59,
  0x01EE5A_01EE5B_01EE5C_01EE5D_01EE5E_01EE5F_01EE60_01EE61,
  0x01EE63_01EE64_01EE65_01EE67_01EE6B_01EE6C_01EE73_01EE74,
  0x01EE78_01EE79_01EE7D_01EE7E_01EE7F_01EE80_01EE8A_01EE8B,
  0x01EE9C_01EEA1_01EEA4_01EEA5_01EEAA_01EEAB_01EEBC_01EEF0,
  0x01EEF2_01F000_01F02C_01F030_01F094_01F0A0_01F0AF_01F0B1,
  0x01F0C0_01F0C1_01F0D0_01F0D1_01F0F6_01F100_01F1AE_01F1E6,
  0x01F203_01F210_01F23C_01F240_01F249_01F250_01F252_01F260,
  0x01F266_01F300_01F6D9_01F6DC_01F6ED_01F6F0_01F6FD_01F700,
  0x01F7DA_01F7E0_01F7EC_01F7F0_01F7F1_01F800_01F80C_01F810,
  0x01F848_01F850_01F85A_01F860_01F888_01F890_01F8AE_01F8B0,
  0x01F8BC_01F8C0_01F8C2_01F8D0_01F8D9_01F900_01FA58_01FA60,
  0x01FA6E_01FA70_01FA7D_01FA80_01FA8B_01FA8E_01FAC7_01FAC8,
  0x01FAC9_01FACD_01FADD_01FADF_01FAEB_01FAEF_01FAF9_01FB00,
  0x01FB93_01FB94_01FBFB_020000_02A6E0_02A700_02B81E_02B820,
  0x02CEAE_02CEB0_02EBE1_02EBF0_02EE5E_02F800_02FA1E_030000,
  0x03134B_031350_03347A_0E0001_0E0002_0E0020_0E0080_0E0100,
  0x0E01F0_0F0000_0FFFFE_100000_10FFFE_110000_110000_110000]

end LinkedShapes.Unicode
