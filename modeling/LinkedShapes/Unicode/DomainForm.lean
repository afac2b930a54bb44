import LinkedShapes.Unicode.CaseRun
import LinkedShapes.Unicode.CodePoints

/-!
# Characters of domain names

Domain names know each character in one form only. Most characters stand for themselves; some
stand for another character or for several, some are left out, and some have no place in a
domain name.
-/

namespace LinkedShapes.Unicode

/-- Takes the numbers of packed rows in groups of four, as case runs. -/
def unpackRuns : List Nat → List CaseRun
  | first :: last :: step :: image :: rest => ⟨first, last, step, image⟩ :: unpackRuns rest
  | _ => []

/-- Takes numbers in pairs. -/
def unpackPairs : List Nat → List (Nat × Nat)
  | x :: y :: rest => (x, y) :: unpackPairs rest
  | _ => []

/--
Takes numbers in entries: a code point, the length of what it stands for, and that many code
points. There are no more than `count` entries.
-/
def unpackEntries : Nat → List Nat → List (Nat × List Nat)
  | count + 1, point :: length :: rest =>
    (point, rest.take length) :: unpackEntries count (rest.drop length)
  | _, _ => []

/-- The code points that have no place in a domain name. -/
def domainExcluded : CodePoints := .ofRows [
  0x000080_0000A0_000378_00037A_000380_000384_00038B_00038C,
  0x00038D_00038E_0003A2_0003A3_000530_000531_000557_000559,
  0x00058B_00058D_000590_000591_0005C8_0005D0_0005EB_0005EF,
  0x0005F5_000606_00061C_00061D_0006DD_0006DE_00070E_000710,
  0x00074B_00074D_0007B2_0007C0_0007FB_0007FD_00082E_000830,
  0x00083F_000840_00085C_00085E_00085F_000860_00086B_000870,
  0x000890_000897_0008E2_0008E3_000984_000985_00098D_00098F,
  0x000991_000993_0009A9_0009AA_0009B1_0009B2_0009B3_0009B6,
  0x0009BA_0009BC_0009C5_0009C7_0009C9_0009CB_0009CF_0009D7,
  0x0009D8_0009DC_0009DE_0009DF_0009E4_0009E6_0009FF_000A01,
  0x000A04_000A05_000A0B_000A0F_000A11_000A13_000A29_000A2A,
  0x000A31_000A32_000A34_000A35_000A37_000A38_000A3A_000A3C,
  0x000A3D_000A3E_000A43_000A47_000A49_000A4B_000A4E_000A51,
  0x000A52_000A59_000A5D_000A5E_000A5F_000A66_000A77_000A81,
  0x000A84_000A85_000A8E_000A8F_000A92_000A93_000AA9_000AAA,
  0x000AB1_000AB2_000AB4_000AB5_000ABA_000ABC_000AC6_000AC7,
  0x000ACA_000ACB_000ACE_000AD0_000AD1_000AE0_000AE4_000AE6,
  0x000AF2_000AF9_000B00_000B01_000B04_000B05_000B0D_000B0F,
  0x000B11_000B13_000B29_000B2A_000B31_000B32_000B34_000B35,
  0x000B3A_000B3C_000B45_000B47_000B49_000B4B_000B4E_000B55,
  0x000B58_000B5C_000B5E_000B5F_000B64_000B66_000B78_000B82,
  0x000B84_000B85_000B8B_000B8E_000B91_000B92_000B96_000B99,
  0x000B9B_000B9C_000B9D_000B9E_000BA0_000BA3_000BA5_000BA8,
  0x000BAB_000BAE_000BBA_000BBE_000BC3_000BC6_000BC9_000BCA,
  0x000BCE_000BD0_000BD1_000BD7_000BD8_000BE6_000BFB_000C00,
  0x000C0D_000C0E_000C11_000C12_000C29_000C2A_000C3A_000C3C,
  0x000C45_000C46_000C49_000C4A_000C4E_000C55_000C57_000C58,
  0x000C5B_000C5C_000C5E_000C60_000C64_000C66_000C70_000C77,
  0x000C8D_000C8E_000C91_000C92_000CA9_000CAA_000CB4_000CB5,
  0x000CBA_000CBC_000CC5_000CC6_000CC9_000CCA_000CCE_000CD5,
  0x000CD7_000CDC_000CDF_000CE0_000CE4_000CE6_000CF0_000CF1,
  0x000CF4_000D00_000D0D_000D0E_000D11_000D12_000D45_000D46,
  0x000D49_000D4A_000D50_000D54_000D64_000D66_000D80_000D81,
  0x000D84_000D85_000D97_000D9A_000DB2_000DB3_000DBC_000DBD,
  0x000DBE_000DC0_000DC7_000DCA_000DCB_000DCF_000DD5_000DD6,
  0x000DD7_000DD8_000DE0_000DE6_000DF0_000DF2_000DF5_000E01,
  0x000E3B_000E3F_000E5C_000E81_000E83_000E84_000E85_000E86,
  0x000E8B_000E8C_000EA4_000EA5_000EA6_000EA7_000EBE_000EC0,
  0x000EC5_000EC6_000EC7_000EC8_000ECF_000ED0_000EDA_000EDC,
  0x000EE0_000F00_000F48_000F49_000F6D_000F71_000F98_000F99,
  0x000FBD_000FBE_000FCD_000FCE_000FDB_001000_0010C6_0010C7,
  0x0010C8_0010CD_0010CE_0010D0_001249_00124A_00124E_001250,
  0x001257_001258_001259_00125A_00125E_001260_001289_00128A,
  0x00128E_001290_0012B1_0012B2_0012B6_0012B8_0012BF_0012C0,
  0x0012C1_0012C2_0012C6_0012C8_0012D7_0012D8_001311_001312,
  0x001316_001318_00135B_00135D_00137D_001380_00139A_0013A0,
  0x0013F6_0013F8_0013FE_001400_001680_001681_00169D_0016A0,
  0x0016F9_001700_001716_00171F_001737_001740_001754_001760,
  0x00176D_00176E_001771_001772_001774_001780_0017DE_0017E0,
  0x0017EA_0017F0_0017FA_001800_00181A_001820_001879_001880,
  0x0018AB_0018B0_0018F6_001900_00191F_001920_00192C_001930,
  0x00193C_001940_001941_001944_00196E_001970_001975_001980,
  0x0019AC_0019B0_0019CA_0019D0_0019DB_0019DE_001A1C_001A1E,
  0x001A5F_001A60_001A7D_001A7F_001A8A_001A90_001A9A_001AA0,
  0x001AAE_001AB0_001ADE_001AE0_001AEC_001B00_001B4D_001B4E,
  0x001BF4_001BFC_001C38_001C3B_001C4A_001C4D_001C8B_001C90,
  0x001CBB_001CBD_001CC8_001CD0_001CFB_001D00_001F16_001F18,
  0x001F1E_001F20_001F46_001F48_001F4E_001F50_001F58_001F59,
  0x001F5A_001F5B_001F5C_001F5D_001F5E_001F5F_001F7E_001F80,
  0x001FB5_001FB6_001FC5_001FC6_001FD4_001FD6_001FDC_001FDD,
  0x001FF0_001FF2_001FF5_001FF6_001FFF_002000_00200E_002010,
  0x002024_002027_002028_00202F_002065_00206A_002072_002074,
  0x00208F_002090_00209D_0020A0_0020C2_0020D0_0020F1_002100,
  0x00218C_002190_00242A_002440_00244B_002460_002488_00249C,
  0x002B74_002B76_002CF4_002CF9_002D26_002D27_002D28_002D2D,
  0x002D2E_002D30_002D68_002D6F_002D71_002D7F_002D97_002DA0,
  0x002DA7_002DA8_002DAF_002DB0_002DB7_002DB8_002DBF_002DC0,
  0x002DC7_002DC8_002DCF_002DD0_002DD7_002DD8_002DDF_002DE0,
  0x002E5E_002E80_002E9A_002E9B_002EF4_002F00_002FD6_003000,
  0x003040_003041_003097_003099_003100_003105_003130_003131,
  0x00318F_003190_0031E6_0031F0_00321F_003220_0033C2_0033C3,
  0x0033C7_0033C8_0033D8_0033D9_00A48D_00A490_00A4C7_00A4D0,
  0x00A62C_00A640_00A6F8_00A700_00A7DD_00A7F1_00A82D_00A830,
  0x00A83A_00A840_00A878_00A880_00A8C6_00A8CE_00A8DA_00A8E0,
  0x00A954_00A95F_00A97D_00A980_00A9CE_00A9CF_00A9DA_00A9DE,
  0x00A9FF_00AA00_00AA37_00AA40_00AA4E_00AA50_00AA5A_00AA5C,
  0x00AAC3_00AADB_00AAF7_00AB01_00AB07_00AB09_00AB0F_00AB11,
  0x00AB17_00AB20_00AB27_00AB28_00AB2F_00AB30_00AB6C_00AB70,
  0x00ABEE_00ABF0_00ABFA_00AC00_00D7A4_00D7B0_00D7C7_00D7CB,
  0x00D7FC_00F900_00FA6E_00FA70_00FADA_00FB00_00FB07_00FB13,
  0x00FB18_00FB1D_00FB37_00FB38_00FB3D_00FB3E_00FB3F_00FB40,
  0x00FB42_00FB43_00FB45_00FB46_00FDD0_00FDF0_00FE12_00FE13,
  0x00FE19_00FE20_00FE30_00FE31_00FE52_00FE54_00FE67_00FE68,
  0x00FE6C_00FE70_00FE75_00FE76_00FEFD_00FEFF_00FF00_00FF01,
  0x00FFBF_00FFC2_00FFC8_00FFCA_00FFD0_00FFD2_00FFD8_00FFDA,
  0x00FFDD_00FFE0_00FFE7_00FFE8_00FFEF_010000_01000C_01000D,
  0x010027_010028_01003B_01003C_01003E_01003F_01004E_010050,
  0x01005E_010080_0100FB_010100_010103_010107_010134_010137,
  0x01018F_010190_01019D_0101A0_0101A1_0101D0_0101FE_010280,
  0x01029D_0102A0_0102D1_0102E0_0102FC_010300_010324_01032D,
  0x01034B_010350_01037B_010380_01039E_01039F_0103C4_0103C8,
  0x0103D6_010400_01049E_0104A0_0104AA_0104B0_0104D4_0104D8,
  0x0104FC_010500_010528_010530_010564_01056F_01057B_01057C,
  0x01058B_01058C_010593_010594_010596_010597_0105A2_0105A3,
  0x0105B2_0105B3_0105BA_0105BB_0105BD_0105C0_0105F4_010600,
  0x010737_010740_010756_010760_010768_010780_010786_010787,
  0x0107B1_0107B2_0107BB_010800_010806_010808_010809_01080A,
  0x010836_010837_010839_01083C_01083D_01083F_010856_010857,
  0x01089F_0108A7_0108B0_0108E0_0108F3_0108F4_0108F6_0108FB,
  0x01091C_01091F_01093A_01093F_01095A_010980_0109B8_0109BC,
  0x0109D0_0109D2_010A04_010A05_010A07_010A0C_010A14_010A15,
  0x010A18_010A19_010A36_010A38_010A3B_010A3F_010A49_010A50,
  0x010A59_010A60_010AA0_010AC0_010AE7_010AEB_010AF7_010B00,
  0x010B36_010B39_010B56_010B58_010B73_010B78_010B92_010B99,
  0x010B9D_010BA9_010BB0_010C00_010C49_010C80_010CB3_010CC0,
  0x010CF3_010CFA_010D28_010D30_010D3A_010D40_010D66_010D69,
  0x010D86_010D8E_010D90_010E60_010E7F_010E80_010EAA_010EAB,
  0x010EAE_010EB0_010EB2_010EC2_010EC8_010ED0_010ED9_010EFA,
  0x010F28_010F30_010F5A_010F70_010F8A_010FB0_010FCC_010FE0,
  0x010FF7_011000_01104E_011052_011076_01107F_0110BD_0110BE,
  0x0110C3_0110D0_0110E9_0110F0_0110FA_011100_011135_011136,
  0x011148_011150_011177_011180_0111E0_0111E1_0111F5_011200,
  0x011212_011213_011242_011280_011287_011288_011289_01128A,
  0x01128E_01128F_01129E_01129F_0112AA_0112B0_0112EB_0112F0,
  0x0112FA_011300_011304_011305_01130D_01130F_011311_011313,
  0x011329_01132A_011331_011332_011334_011335_01133A_01133B,
  0x011345_011347_011349_01134B_01134E_011350_011351_011357,
  0x011358_01135D_011364_011366_01136D_011370_011375_011380,
  0x01138A_01138B_01138C_01138E_01138F_011390_0113B6_0113B7,
  0x0113C1_0113C2_0113C3_0113C5_0113C6_0113C7_0113CB_0113CC,
  0x0113D6_0113D7_0113D9_0113E1_0113E3_011400_01145C_01145D,
  0x011462_011480_0114C8_0114D0_0114DA_011580_0115B6_0115B8,
  0x0115DE_011600_011645_011650_01165A_011660_01166D_011680,
  0x0116BA_0116C0_0116CA_0116D0_0116E4_011700_01171B_01171D,
  0x01172C_011730_011747_011800_01183C_0118A0_0118F3_0118FF,
  0x011907_011909_01190A_01190C_011914_011915_011917_011918,
  0x011936_011937_011939_01193B_011947_011950_01195A_0119A0,
  0x0119A8_0119AA_0119D8_0119DA_0119E5_011A00_011A48_011A50,
  0x011AA3_011AB0_011AF9_011B00_011B0A_011B60_011B68_011BC0,
  0x011BE2_011BF0_011BFA_011C00_011C09_011C0A_011C37_011C38,
  0x011C46_011C50_011C6D_011C70_011C90_011C92_011CA8_011CA9,
  0x011CB7_011D00_011D07_011D08_011D0A_011D0B_011D37_011D3A,
  0x011D3B_011D3C_011D3E_011D3F_011D48_011D50_011D5A_011D60,
  0x011D66_011D67_011D69_011D6A_011D8F_011D90_011D92_011D93,
  0x011D99_011DA0_011DAA_011DB0_011DDC_011DE0_011DEA_011EE0,
  0x011EF9_011F00_011F11_011F12_011F3B_011F3E_011F5B_011FB0,
  0x011FB1_011FC0_011FF2_011FFF_01239A_012400_01246F_012470,
  0x012475_012480_012544_012F90_012FF3_013000_013430_013440,
  0x013456_013460_0143FB_014400_014647_016100_01613A_016800,
  0x016A39_016A40_016A5F_016A60_016A6A_016A6E_016ABF_016AC0,
  0x016ACA_016AD0_016AEE_016AF0_016AF6_016B00_016B46_016B50,
  0x016B5A_016B5B_016B62_016B63_016B78_016B7D_016B90_016D40,
  0x016D7A_016E40_016E9B_016EA0_016EB9_016EBB_016ED4_016F00,
  0x016F4B_016F4F_016F88_016F8F_016FA0_016FE0_016FE5_016FF0,
  0x016FF7_017000_018CD6_018CFF_018D1F_018D80_018DF3_01AFF0,
  0x01AFF4_01AFF5_01AFFC_01AFFD_01AFFF_01B000_01B123_01B132,
  0x01B133_01B150_01B153_01B155_01B156_01B164_01B168_01B170,
  0x01B2FC_01BC00_01BC6B_01BC70_01BC7D_01BC80_01BC89_01BC90,
  0x01BC9A_01BC9C_01BCA4_01CC00_01CCFD_01CD00_01CEB4_01CEBA,
  0x01CED1_01CEE0_01CEF1_01CF00_01CF2E_01CF30_01CF47_01CF50,
  0x01CFC4_01D000_01D0F6_01D100_01D127_01D129_01D1EB_01D200,
  0x01D246_01D2C0_01D2D4_01D2E0_01D2F4_01D300_01D357_01D360,
  0x01D379_01D400_01D455_01D456_01D49D_01D49E_01D4A0_01D4A2,
  0x01D4A3_01D4A5_01D4A7_01D4A9_01D4AD_01D4AE_01D4BA_01D4BB,
  0x01D4BC_01D4BD_01D4C4_01D4C5_01D506_01D507_01D50B_01D50D,
  0x01D515_01D516_01D51D_01D51E_01D53A_01D53B_01D53F_01D540,
  0x01D545_01D546_01D547_01D54A_01D551_01D552_01D6A6_01D6A8,
  0x01D7CC_01D7CE_01DA8C_01DA9B_01DAA0_01DAA1_01DAB0_01DF00,
  0x01DF1F_01DF25_01DF2B_01E000_01E007_01E008_01E019_01E01B,
  0x01E022_01E023_01E025_01E026_01E02B_01E030_01E06E_01E08F,
  0x01E090_01E100_01E12D_01E130_01E13E_01E140_01E14A_01E14E,
  0x01E150_01E290_01E2AF_01E2C0_01E2FA_01E2FF_01E300_01E4D0,
  0x01E4FA_01E5D0_01E5FB_01E5FF_01E600_01E6C0_01E6DF_01E6E0,
  0x01E6F6_01E6FE_01E700_01E7E0_01E7E7_01E7E8_01E7EC_01E7ED,
  0x01E7EF_01E7F0_01E7FF_01E800_01E8C5_01E8C7_01E8D7_01E900,
  0x01E94C_01E950_01E95A_01E95E_01E960_01EC71_01ECB5_01ED01,
  0x01ED3E_01EE00_01EE04_01EE05_01EE20_01EE21_01EE23_01EE24,
  0x01EE25_01EE27_01EE28_01EE29_01EE33_01EE34_01EE38_01EE39,
  0x01EE3A_01EE3B_01EE3C_01EE42_01EE43_01EE47_01EE48_01EE49,
  0x01EE4A_01EE4B_01EE4C_01EE4D_01EE50_01EE51_01EE53_01EE54,
  0x01EE55_01EE57_01EE58_01EE59_01EE5A_01EE5B_01EE5C_01EE5D,
  0x01EE5E_01EE5F_01EE60_01EE61_01EE63_01EE64_01EE65_01EE67,
  0x01EE6B_01EE6C_01EE73_01EE74_01EE78_01EE79_01EE7D_01EE7E,
  0x01EE7F_01EE80_01EE8A_01EE8B_01EE9C_01EEA1_01EEA4_01EEA5,
  0x01EEAA_01EEAB_01EEBC_01EEF0_01EEF2_01F000_01F02C_01F030,
  0x01F094_01F0A0_01F0AF_01F0B1_01F0C0_01F0C1_01F0D0_01F0D1,
  0x01F0F6_01F101_01F1AE_01F1E6_01F203_01F210_01F23C_01F240,
  0x01F249_01F250_01F252_01F260_01F266_01F300_01F6D9_01F6DC,
  0x01F6ED_01F6F0_01F6FD_01F700_01F7DA_01F7E0_01F7EC_01F7F0,
  0x01F7F1_01F800_01F80C_01F810_01F848_01F850_01F85A_01F860,
  0x01F888_01F890_01F8AE_01F8B0_01F8BC_01F8C0_01F8C2_01F8D0,
  0x01F8D9_01F900_01FA58_01FA60_01FA6E_01FA70_01FA7D_01FA80,
  0x01FA8B_01FA8E_01FAC7_01FAC8_01FAC9_01FACD_01FADD_01FADF,
  0x01FAEB_01FAEF_01FAF9_01FB00_01FB93_01FB94_01FBFB_020000,
  0x02A6E0_02A700_02B81E_02B820_02CEAE_02CEB0_02EBE1_02EBF0,
  0x02EE5E_02F800_02FA1E_030000_03134B_031350_03347A_0E0100,
  0x0E01F0_110000_110000_110000_110000_110000_110000_110000]

/-- The code points that are left out of domain names. -/
def domainIgnored : CodePoints := .ofRows [
  0x0000AD_0000AE_00034F_000350_00115F_001161_0017B4_0017B6,
  0x00180B_001810_00200B_00200C_002060_002065_00206A_002070,
  0x003164_003165_00FE00_00FE10_00FEFF_00FF00_00FFA0_00FFA1,
  0x01BCA0_01BCA4_01D173_01D17B_0E0100_0E01F0_110000_110000]

/-- Runs of code points that stand for others at the same distance. -/
def domainRuns : List CaseRun := unpackRuns <| unpackRows [
  0x000041_00005A_000001_000061_0000B2_0000B3_000001_000032,
  0x0000C0_0000D6_000001_0000E0_0000D8_0000DE_000001_0000F8,
  0x000100_00012E_000002_000101_000134_000136_000002_000135,
  0x000139_00013D_000002_00013A_000141_000147_000002_000142,
  0x00014A_000176_000002_00014B_000179_00017D_000002_00017A,
  0x000182_000184_000002_000183_000189_00018A_000001_000256,
  0x0001A0_0001A4_000002_0001A1_0001B1_0001B2_000001_00028A,
  0x0001B3_0001B5_000002_0001B4_0001CD_0001DB_000002_0001CE,
  0x0001DE_0001EE_000002_0001DF_0001F8_00021E_000002_0001F9,
  0x000222_000232_000002_000223_000246_00024E_000002_000247,
  0x0002B0_0002B2_000002_000068_000340_000341_000001_000300,
  0x000370_000372_000002_000371_000388_00038A_000001_0003AD,
  0x00038E_00038F_000001_0003CD_000391_0003A1_000001_0003B1,
  0x0003A3_0003AB_000001_0003C3_0003D8_0003EE_000002_0003D9,
  0x0003FD_0003FF_000001_00037B_000400_00040F_000001_000450,
  0x000410_00042F_000001_000430_000460_000480_000002_000461,
  0x00048A_0004BE_000002_00048B_0004C1_0004CD_000002_0004C2,
  0x0004D0_00052E_000002_0004D1_000531_000556_000001_000561,
  0x0010A0_0010C5_000001_002D00_0013F8_0013FD_000001_0013F0,
  0x001C83_001C84_000001_000441_001C90_001CBA_000001_0010D0,
  0x001CBD_001CBF_000001_0010FD_001D2E_001D30_000002_000062,
  0x001D31_001D39_000002_000065_001D34_001D3A_000002_000068,
  0x001D40_001D41_000001_000074_001D44_001D45_000001_000250,
  0x001D48_001D49_000001_000064_001D4B_001D4C_000001_00025B,
  0x001D50_001D52_000002_00006D_001D54_001D55_000001_001D16,
  0x001D57_001D58_000001_000074_001D5D_001D5F_000001_0003B2,
  0x001D60_001D61_000001_0003C6_001D64_001D65_000001_000075,
  0x001D66_001D67_000001_0003B2_001D69_001D6A_000001_0003C6,
  0x001DA4_001DA6_000001_000268_001DAE_001DB1_000001_000272,
  0x001DB3_001DB4_000001_000282_001DB6_001DB7_000001_000289,
  0x001DB9_001DBA_000001_00028B_001DBC_001DBE_000001_000290,
  0x001E00_001E94_000002_001E01_001EA0_001EFE_000002_001EA1,
  0x001F08_001F0F_000001_001F00_001F18_001F1D_000001_001F10,
  0x001F28_001F2F_000001_001F20_001F38_001F3F_000001_001F30,
  0x001F48_001F4D_000001_001F40_001F59_001F5F_000002_001F51,
  0x001F68_001F6F_000001_001F60_001FB8_001FB9_000001_001FB0,
  0x001FC8_001FCA_000002_001F72_001FD8_001FD9_000001_001FD0,
  0x001FE8_001FE9_000001_001FE0_001FF9_001FFB_000002_0003CC,
  0x002074_002079_000001_000034_00207D_00207E_000001_000028,
  0x002080_002089_000001_000030_00208D_00208E_000001_000028,
  0x002096_002099_000001_00006B_00209B_00209C_000001_000073,
  0x00210A_00210B_000001_000067_002113_002115_000002_00006C,
  0x002119_00211B_000001_000070_00212C_00212D_000001_000062,
  0x002130_002131_000001_000065_002135_002138_000001_0005D0,
  0x002146_002147_000001_000064_002148_002149_000001_000069,
  0x00216D_00216E_000001_000063_00217D_00217E_000001_000063,
  0x002329_00232A_000001_003008_002460_002468_000001_000031,
  0x0024B6_0024CF_000001_000061_0024D0_0024E9_000001_000061,
  0x002C00_002C2F_000001_002C30_002C67_002C6B_000002_002C68,
  0x002C7E_002C7F_000001_00023F_002C80_002CE2_000002_002C81,
  0x002CEB_002CED_000002_002CEC_003039_00303A_000001_005344,
  0x003131_003132_000001_001100_003133_003135_000002_0011AA,
  0x003137_003139_000001_001103_00313A_00313F_000001_0011B0,
  0x003141_003143_000001_001106_003145_00314E_000001_001109,
  0x00314F_003163_000001_001161_003165_003166_000001_001114,
  0x003167_003168_000001_0011C7_003171_003172_000001_00111D,
  0x003174_003175_000001_001122_003178_00317C_000001_00112B,
  0x003182_003183_000001_0011F1_003184_003186_000001_001157,
  0x003187_003188_000001_001184_00318A_00318B_000001_001191,
  0x003261_003262_000001_001102_003263_003265_000001_001105,
  0x003267_003268_000001_00110B_003269_00326D_000001_00110E,
  0x0032D4_0032D5_000001_0030AA_0032E4_0032E9_000001_0030CA,
  0x0032EE_0032F2_000001_0030DE_0032F5_0032FA_000001_0030E8,
  0x0032FB_0032FE_000001_0030EF_00A640_00A66C_000002_00A641,
  0x00A680_00A69A_000002_00A681_00A722_00A72E_000002_00A723,
  0x00A732_00A76E_000002_00A733_00A779_00A77B_000002_00A77A,
  0x00A77E_00A786_000002_00A77F_00A790_00A792_000002_00A791,
  0x00A796_00A7A8_000002_00A797_00A7B4_00A7C2_000002_00A7B5,
  0x00A7C7_00A7C9_000002_00A7C8_00A7CC_00A7DA_000002_00A7CD,
  0x00AB70_00ABBF_000001_0013A0_00FA52_00FA53_000001_00798D,
  0x00FB22_00FB23_000001_0005D3_00FB24_00FB26_000001_0005DB,
  0x00FB58_00FB5A_000002_00067E_00FB59_00FB5B_000002_00067E,
  0x00FB6C_00FB6E_000002_0006A4_00FB6D_00FB6F_000002_0006A4,
  0x00FB7D_00FB7E_000001_000686_00FB84_00FB86_000002_00068C,
  0x00FB85_00FB87_000002_00068C_00FB9F_00FBA0_000001_0006BA,
  0x00FBA5_00FBA6_000001_0006C0_00FBAF_00FBB0_000001_0006D2,
  0x00FBD9_00FBDB_000002_0006C6_00FBDA_00FBDC_000002_0006C6,
  0x00FE13_00FE14_000001_00003A_00FE17_00FE18_000001_003016,
  0x00FE35_00FE36_000001_000028_00FE39_00FE3A_000001_003014,
  0x00FE3B_00FE3C_000001_003010_00FE3D_00FE3E_000001_00300A,
  0x00FE3F_00FE40_000001_003008_00FE41_00FE44_000001_00300C,
  0x00FE59_00FE5A_000001_000028_00FE5D_00FE5E_000001_003014,
  0x00FE61_00FE62_000001_00002A_00FE69_00FE6A_000001_000024,
  0x00FE80_00FE81_000001_000621_00FE82_00FE83_000001_000622,
  0x00FE84_00FE85_000001_000623_00FE86_00FE87_000001_000624,
  0x00FE88_00FE89_000001_000625_00FE8C_00FE8D_000001_000626,
  0x00FE8E_00FE8F_000001_000627_00FE92_00FE93_000001_000628,
  0x00FE94_00FE95_000001_000629_00FE98_00FE99_000001_00062A,
  0x00FE9C_00FE9D_000001_00062B_00FEA0_00FEA1_000001_00062C,
  0x00FEA4_00FEA5_000001_00062D_00FEA8_00FEA9_000001_00062E,
  0x00FEAA_00FEAB_000001_00062F_00FEAC_00FEAD_000001_000630,
  0x00FEAE_00FEAF_000001_000631_00FEB0_00FEB1_000001_000632,
  0x00FEB4_00FEB5_000001_000633_00FEB8_00FEB9_000001_000634,
  0x00FEBC_00FEBD_000001_000635_00FEC0_00FEC1_000001_000636,
  0x00FEC4_00FEC5_000001_000637_00FEC8_00FEC9_000001_000638,
  0x00FECC_00FECD_000001_000639_00FED4_00FED5_000001_000641,
  0x00FED8_00FED9_000001_000642_00FEDC_00FEDD_000001_000643,
  0x00FEE0_00FEE1_000001_000644_00FEE4_00FEE5_000001_000645,
  0x00FEE8_00FEE9_000001_000646_00FEEC_00FEED_000001_000647,
  0x00FEEE_00FEEF_000001_000648_00FEF0_00FEF1_000001_000649,
  0x00FF01_00FF20_000001_000021_00FF21_00FF3A_000001_000061,
  0x00FF3B_00FF5E_000001_00005B_00FF5F_00FF60_000001_002985,
  0x00FF62_00FF63_000001_00300C_00FF75_00FF76_000001_0030AA,
  0x00FF85_00FF8A_000001_0030CA_00FF8F_00FF93_000001_0030DE,
  0x00FF96_00FF9B_000001_0030E8_00FF9E_00FF9F_000001_003099,
  0x00FFA1_00FFA2_000001_001100_00FFA3_00FFA5_000002_0011AA,
  0x00FFA7_00FFA9_000001_001103_00FFAA_00FFAF_000001_0011B0,
  0x00FFB1_00FFB3_000001_001106_00FFB5_00FFBE_000001_001109,
  0x00FFC2_00FFC7_000001_001161_00FFCA_00FFCF_000001_001167,
  0x00FFD2_00FFD7_000001_00116D_00FFDA_00FFDC_000001_001173,
  0x00FFE0_00FFE1_000001_0000A2_00FFE9_00FFEC_000001_002190,
  0x010400_010427_000001_010428_0104B0_0104D3_000001_0104D8,
  0x010570_010594_000002_010597_010571_010579_000002_010598,
  0x01057D_010589_000002_0105A4_01058D_010591_000002_0105B4,
  0x010781_010782_000001_0002D0_010787_010789_000002_0002A3,
  0x01078B_01078C_000001_000256_010799_01079A_000001_0002AA,
  0x0107A3_0107A4_000001_000276_0107A8_0107A9_000001_00027D,
  0x0107B3_0107B4_000001_0002A1_0107B6_0107B8_000001_0001C0,
  0x010C80_010CB2_000001_010CC0_010D50_010D65_000001_010D70,
  0x0118A0_0118BF_000001_0118C0_016E40_016E5F_000001_016E60,
  0x016EA0_016EB8_000001_016EBB_01CCD6_01CCEF_000001_000061,
  0x01CCF0_01CCF9_000001_000030_01D400_01D419_000001_000061,
  0x01D41A_01D433_000001_000061_01D434_01D44D_000001_000061,
  0x01D44E_01D466_000002_000061_01D44F_01D453_000002_000062,
  0x01D457_01D467_000002_00006A_01D468_01D481_000001_000061,
  0x01D482_01D49B_000001_000061_01D49C_01D49E_000002_000061,
  0x01D4A5_01D4A6_000001_00006A_01D4A9_01D4AC_000001_00006E,
  0x01D4AE_01D4B5_000001_000073_01D4B6_01D4B9_000001_000061,
  0x01D4BB_01D4CF_000002_000066_01D4BE_01D4C2_000002_000069,
  0x01D4C6_01D4CE_000002_000071_01D4D0_01D4E9_000001_000061,
  0x01D4EA_01D503_000001_000061_01D504_01D505_000001_000061,
  0x01D507_01D50A_000001_000064_01D50D_01D514_000001_00006A,
  0x01D516_01D51C_000001_000073_01D51E_01D537_000001_000061,
  0x01D538_01D539_000001_000061_01D53B_01D53E_000001_000064,
  0x01D540_01D544_000001_000069_01D54A_01D550_000001_000073,
  0x01D552_01D56B_000001_000061_01D56C_01D585_000001_000061,
  0x01D586_01D59F_000001_000061_01D5A0_01D5B9_000001_000061,
  0x01D5BA_01D5D3_000001_000061_01D5D4_01D5ED_000001_000061,
  0x01D5EE_01D607_000001_000061_01D608_01D621_000001_000061,
  0x01D622_01D63B_000001_000061_01D63C_01D655_000001_000061,
  0x01D656_01D66F_000001_000061_01D670_01D689_000001_000061,
  0x01D68A_01D6A3_000001_000061_01D6A8_01D6B8_000001_0003B1,
  0x01D6BA_01D6C0_000001_0003C3_01D6C2_01D6D2_000001_0003B1,
  0x01D6D4_01D6DA_000001_0003C3_01D6E2_01D6F2_000001_0003B1,
  0x01D6F4_01D6FA_000001_0003C3_01D6FC_01D70C_000001_0003B1,
  0x01D70E_01D714_000001_0003C3_01D71C_01D72C_000001_0003B1,
  0x01D72E_01D734_000001_0003C3_01D736_01D746_000001_0003B1,
  0x01D748_01D74E_000001_0003C3_01D756_01D766_000001_0003B1,
  0x01D768_01D76E_000001_0003C3_01D770_01D780_000001_0003B1,
  0x01D782_01D788_000001_0003C3_01D790_01D7A0_000001_0003B1,
  0x01D7A2_01D7A8_000001_0003C3_01D7AA_01D7BA_000001_0003B1,
  0x01D7BC_01D7C2_000001_0003C3_01D7CE_01D7D7_000001_000030,
  0x01D7D8_01D7E1_000001_000030_01D7E2_01D7EB_000001_000030,
  0x01D7EC_01D7F5_000001_000030_01D7F6_01D7FF_000001_000030,
  0x01E030_01E038_000001_000430_01E039_01E03B_000001_00043A,
  0x01E03C_01E046_000001_00043E_01E048_01E049_000001_00044D,
  0x01E051_01E059_000001_000430_01E05A_01E05B_000001_00043A,
  0x01E05C_01E05D_000001_00043E_01E05F_01E064_000001_000443,
  0x01E065_01E066_000001_00044A_01E900_01E921_000001_01E922,
  0x01EE00_01EE01_000001_000627_01EE0A_01EE0D_000001_000643,
  0x01EE15_01EE16_000001_00062A_01EE2A_01EE2D_000001_000643,
  0x01EE35_01EE36_000001_00062A_01EE4B_01EE4D_000002_000644,
  0x01EE6A_01EE6C_000002_000643_01EE75_01EE76_000001_00062A,
  0x01EE80_01EE81_000001_000627_01EE84_01EE85_000001_000647,
  0x01EE8B_01EE8D_000001_000644_01EE95_01EE96_000001_00062A,
  0x01EEAB_01EEAD_000001_000644_01EEB5_01EEB6_000001_00062A,
  0x01F130_01F149_000001_000061_01FBF0_01FBF9_000001_000030,
  0x02F829_02F82A_000001_005305_02F830_02F832_000002_00537D,
  0x02F87B_02F87D_000002_021DE4_02F881_02F882_000001_005DE1,
  0x02F8F5_02F8F6_000001_006BBA_02F945_02F946_000001_00771E,
  0x02F9E8_02F9E9_000001_0092D7_110000_110000_110000_110000]

/-- The other code points that stand for a single one, each with the one it stands for. -/
def domainSingles : List (Nat × Nat) := unpackPairs <| unpackRows [
  0x0000A0_000020_0000AA_000061_0000B5_0003BC_0000B9_000031,
  0x0000BA_00006F_000178_0000FF_00017F_000073_000181_000253,
  0x000186_000254_000187_000188_00018B_00018C_00018E_0001DD,
  0x00018F_000259_000190_00025B_000191_000192_000193_000260,
  0x000194_000263_000196_000269_000197_000268_000198_000199,
  0x00019C_00026F_00019D_000272_00019F_000275_0001A6_000280,
  0x0001A7_0001A8_0001A9_000283_0001AC_0001AD_0001AE_000288,
  0x0001AF_0001B0_0001B7_000292_0001B8_0001B9_0001BC_0001BD,
  0x0001F4_0001F5_0001F6_000195_0001F7_0001BF_000220_00019E,
  0x00023A_002C65_00023B_00023C_00023D_00019A_00023E_002C66,
  0x000241_000242_000243_000180_000244_000289_000245_00028C,
  0x0002B1_000266_0002B3_000072_0002B4_000279_0002B5_00027B,
  0x0002B6_000281_0002B7_000077_0002B8_000079_0002E0_000263,
  0x0002E1_00006C_0002E2_000073_0002E3_000078_0002E4_000295,
  0x000343_000313_000345_0003B9_000374_0002B9_000376_000377,
  0x00037E_00003B_00037F_0003F3_000386_0003AC_000387_0000B7,
  0x00038C_0003CC_0003CF_0003D7_0003D0_0003B2_0003D1_0003B8,
  0x0003D2_0003C5_0003D3_0003CD_0003D4_0003CB_0003D5_0003C6,
  0x0003D6_0003C0_0003F0_0003BA_0003F1_0003C1_0003F2_0003C3,
  0x0003F4_0003B8_0003F5_0003B5_0003F7_0003F8_0003F9_0003C3,
  0x0003FA_0003FB_0004C0_0004CF_000F0C_000F0B_0010C7_002D27,
  0x0010CD_002D2D_0010FC_0010DC_001C80_000432_001C81_000434,
  0x001C82_00043E_001C85_000442_001C86_00044A_001C87_000463,
  0x001C88_00A64B_001C89_001C8A_001D2C_000061_001D2D_0000E6,
  0x001D32_0001DD_001D3C_00006F_001D3D_000223_001D3E_000070,
  0x001D3F_000072_001D42_000077_001D43_000061_001D46_001D02,
  0x001D47_000062_001D4A_000259_001D4D_000067_001D4F_00006B,
  0x001D51_00014B_001D53_000254_001D56_000070_001D59_001D1D,
  0x001D5A_00026F_001D5B_000076_001D5C_001D25_001D62_000069,
  0x001D63_000072_001D68_0003C1_001D78_00043D_001D9B_000252,
  0x001D9C_000063_001D9D_000255_001D9E_0000F0_001D9F_00025C,
  0x001DA0_000066_001DA1_00025F_001DA2_000261_001DA3_000265,
  0x001DA7_001D7B_001DA8_00029D_001DA9_00026D_001DAA_001D85,
  0x001DAB_00029F_001DAC_000271_001DAD_000270_001DB2_000278,
  0x001DB5_0001AB_001DB8_001D1C_001DBB_00007A_001DBF_0003B8,
  0x001E9B_001E61_001E9E_0000DF_001F71_0003AC_001F73_0003AD,
  0x001F75_0003AE_001F77_0003AF_001F79_0003CC_001F7B_0003CD,
  0x001F7D_0003CE_001FBA_001F70_001FBB_0003AC_001FBE_0003B9,
  0x001FC9_0003AD_001FCB_0003AE_001FD3_000390_001FDA_001F76,
  0x001FDB_0003AF_001FE3_0003B0_001FEA_001F7A_001FEB_0003CD,
  0x001FEC_001FE5_001FEF_000060_001FF8_001F78_001FFA_001F7C,
  0x002000_000020_002001_000020_002002_000020_002003_000020,
  0x002004_000020_002005_000020_002006_000020_002007_000020,
  0x002008_000020_002009_000020_00200A_000020_002011_002010,
  0x00202F_000020_00205F_000020_002070_000030_002071_000069,
  0x00207A_00002B_00207B_002212_00207C_00003D_00207F_00006E,
  0x00208A_00002B_00208B_002212_00208C_00003D_002090_000061,
  0x002091_000065_002092_00006F_002093_000078_002094_000259,
  0x002095_000068_00209A_000070_002102_000063_002107_00025B,
  0x00210C_000068_00210D_000068_00210E_000068_00210F_000127,
  0x002110_000069_002111_000069_002112_00006C_00211C_000072,
  0x00211D_000072_002124_00007A_002126_0003C9_002128_00007A,
  0x00212A_00006B_00212B_0000E5_00212F_000065_002132_00214E,
  0x002133_00006D_002134_00006F_002139_000069_00213C_0003C0,
  0x00213D_0003B3_00213E_0003B3_00213F_0003C0_002140_002211,
  0x002145_000064_002160_000069_002164_000076_002169_000078,
  0x00216C_00006C_00216F_00006D_002170_000069_002174_000076,
  0x002179_000078_00217C_00006C_00217F_00006D_002183_002184,
  0x0024EA_000030_002C60_002C61_002C62_00026B_002C63_001D7D,
  0x002C64_00027D_002C6D_000251_002C6E_000271_002C6F_000250,
  0x002C70_000252_002C72_002C73_002C75_002C76_002C7C_00006A,
  0x002C7D_000076_002CF2_002CF3_002D6F_002D61_002E9F_006BCD,
  0x002EF3_009F9F_002F00_004E00_002F01_004E28_002F02_004E36,
  0x002F03_004E3F_002F04_004E59_002F05_004E85_002F06_004E8C,
  0x002F07_004EA0_002F08_004EBA_002F09_00513F_002F0A_005165,
  0x002F0B_00516B_002F0C_005182_002F0D_005196_002F0E_0051AB,
  0x002F0F_0051E0_002F10_0051F5_002F11_005200_002F12_00529B,
  0x002F13_0052F9_002F14_005315_002F15_00531A_002F16_005338,
  0x002F17_005341_002F18_00535C_002F19_005369_002F1A_005382,
  0x002F1B_0053B6_002F1C_0053C8_002F1D_0053E3_002F1E_0056D7,
  0x002F1F_00571F_002F20_0058EB_002F21_005902_002F22_00590A,
  0x002F23_005915_002F24_005927_002F25_005973_002F26_005B50,
  0x002F27_005B80_002F28_005BF8_002F29_005C0F_002F2A_005C22,
  0x002F2B_005C38_002F2C_005C6E_002F2D_005C71_002F2E_005DDB,
  0x002F2F_005DE5_002F30_005DF1_002F31_005DFE_002F32_005E72,
  0x002F33_005E7A_002F34_005E7F_002F35_005EF4_002F36_005EFE,
  0x002F37_005F0B_002F38_005F13_002F39_005F50_002F3A_005F61,
  0x002F3B_005F73_002F3C_005FC3_002F3D_006208_002F3E_006236,
  0x002F3F_00624B_002F40_00652F_002F41_006534_002F42_006587,
  0x002F43_006597_002F44_0065A4_002F45_0065B9_002F46_0065E0,
  0x002F47_0065E5_002F48_0066F0_002F49_006708_002F4A_006728,
  0x002F4B_006B20_002F4C_006B62_002F4D_006B79_002F4E_006BB3,
  0x002F4F_006BCB_002F50_006BD4_002F51_006BDB_002F52_006C0F,
  0x002F53_006C14_002F54_006C34_002F55_00706B_002F56_00722A,
  0x002F57_007236_002F58_00723B_002F59_00723F_002F5A_007247,
  0x002F5B_007259_002F5C_00725B_002F5D_0072AC_002F5E_007384,
  0x002F5F_007389_002F60_0074DC_002F61_0074E6_002F62_007518,
  0x002F63_00751F_002F64_007528_002F65_007530_002F66_00758B,
  0x002F67_007592_002F68_007676_002F69_00767D_002F6A_0076AE,
  0x002F6B_0076BF_002F6C_0076EE_002F6D_0077DB_002F6E_0077E2,
  0x002F6F_0077F3_002F70_00793A_002F71_0079B8_002F72_0079BE,
  0x002F73_007A74_002F74_007ACB_002F75_007AF9_002F76_007C73,
  0x002F77_007CF8_002F78_007F36_002F79_007F51_002F7A_007F8A,
  0x002F7B_007FBD_002F7C_008001_002F7D_00800C_002F7E_008012,
  0x002F7F_008033_002F80_00807F_002F81_008089_002F82_0081E3,
  0x002F83_0081EA_002F84_0081F3_002F85_0081FC_002F86_00820C,
  0x002F87_00821B_002F88_00821F_002F89_00826E_002F8A_008272,
  0x002F8B_008278_002F8C_00864D_002F8D_00866B_002F8E_008840,
  0x002F8F_00884C_002F90_008863_002F91_00897E_002F92_00898B,
  0x002F93_0089D2_002F94_008A00_002F95_008C37_002F96_008C46,
  0x002F97_008C55_002F98_008C78_002F99_008C9D_002F9A_008D64,
  0x002F9B_008D70_002F9C_008DB3_002F9D_008EAB_002F9E_008ECA,
  0x002F9F_008F9B_002FA0_008FB0_002FA1_008FB5_002FA2_009091,
  0x002FA3_009149_002FA4_0091C6_002FA5_0091CC_002FA6_0091D1,
  0x002FA7_009577_002FA8_009580_002FA9_00961C_002FAA_0096B6,
  0x002FAB_0096B9_002FAC_0096E8_002FAD_009751_002FAE_00975E,
  0x002FAF_009762_002FB0_009769_002FB1_0097CB_002FB2_0097ED,
  0x002FB3_0097F3_002FB4_009801_002FB5_0098A8_002FB6_0098DB,
  0x002FB7_0098DF_002FB8_009996_002FB9_009999_002FBA_0099AC,
  0x002FBB_009AA8_002FBC_009AD8_002FBD_009ADF_002FBE_009B25,
  0x002FBF_009B2F_002FC0_009B32_002FC1_009B3C_002FC2_009B5A,
  0x002FC3_009CE5_002FC4_009E75_002FC5_009E7F_002FC6_009EA5,
  0x002FC7_009EBB_002FC8_009EC3_002FC9_009ECD_002FCA_009ED1,
  0x002FCB_009EF9_002FCC_009EFD_002FCD_009F0E_002FCE_009F13,
  0x002FCF_009F20_002FD0_009F3B_002FD1_009F4A_002FD2_009F52,
  0x002FD3_009F8D_002FD4_009F9C_002FD5_009FA0_003000_000020,
  0x003002_00002E_003036_003012_003038_005341_003134_001102,
  0x003136_0011AD_003140_00111A_003144_001121_003169_0011CC,
  0x00316A_0011CE_00316B_0011D3_00316C_0011D7_00316D_0011D9,
  0x00316E_00111C_00316F_0011DD_003170_0011DF_003173_001120,
  0x003176_001127_003177_001129_00317D_001132_00317E_001136,
  0x00317F_001140_003180_001147_003181_00114C_003189_001188,
  0x00318C_001194_00318D_00119E_00318E_0011A1_003192_004E00,
  0x003193_004E8C_003194_004E09_003195_0056DB_003196_004E0A,
  0x003197_004E2D_003198_004E0B_003199_007532_00319A_004E59,
  0x00319B_004E19_00319C_004E01_00319D_005929_00319E_005730,
  0x00319F_004EBA_003244_00554F_003245_005E7C_003246_006587,
  0x003247_007B8F_003260_001100_003266_001109_00326E_00AC00,
  0x00326F_00B098_003270_00B2E4_003271_00B77C_003272_00B9C8,
  0x003273_00BC14_003274_00C0AC_003275_00C544_003276_00C790,
  0x003277_00CC28_003278_00CE74_003279_00D0C0_00327A_00D30C,
  0x00327B_00D558_00327E_00C6B0_003280_004E00_003281_004E8C,
  0x003282_004E09_003283_0056DB_003284_004E94_003285_00516D,
  0x003286_004E03_003287_00516B_003288_004E5D_003289_005341,
  0x00328A_006708_00328B_00706B_00328C_006C34_00328D_006728,
  0x00328E_0091D1_00328F_00571F_003290_0065E5_003291_00682A,
  0x003292_006709_003293_00793E_003294_00540D_003295_007279,
  0x003296_008CA1_003297_00795D_003298_0052B4_003299_0079D8,
  0x00329A_007537_00329B_005973_00329C_009069_00329D_00512A,
  0x00329E_005370_00329F_006CE8_0032A0_009805_0032A1_004F11,
  0x0032A2_005199_0032A3_006B63_0032A4_004E0A_0032A5_004E2D,
  0x0032A6_004E0B_0032A7_005DE6_0032A8_0053F3_0032A9_00533B,
  0x0032AA_005B97_0032AB_005B66_0032AC_0076E3_0032AD_004F01,
  0x0032AE_008CC7_0032AF_005354_0032B0_00591C_0032D0_0030A2,
  0x0032D1_0030A4_0032D2_0030A6_0032D3_0030A8_0032D6_0030AD,
  0x0032D7_0030AF_0032D8_0030B1_0032D9_0030B3_0032DA_0030B5,
  0x0032DB_0030B7_0032DC_0030B9_0032DD_0030BB_0032DE_0030BD,
  0x0032DF_0030BF_0032E0_0030C1_0032E1_0030C4_0032E2_0030C6,
  0x0032E3_0030C8_0032EA_0030D2_0032EB_0030D5_0032EC_0030D8,
  0x0032ED_0030DB_0032F3_0030E4_0032F4_0030E6_00A69C_00044A,
  0x00A69D_00044C_00A770_00A76F_00A77D_001D79_00A78B_00A78C,
  0x00A78D_000265_00A7AA_000266_00A7AB_00025C_00A7AC_000261,
  0x00A7AD_00026C_00A7AE_00026A_00A7B0_00029E_00A7B1_000287,
  0x00A7B2_00029D_00A7B3_00AB53_00A7C4_00A794_00A7C5_000282,
  0x00A7C6_001D8E_00A7CB_000264_00A7DC_00019B_00A7F1_000073,
  0x00A7F2_000063_00A7F3_000066_00A7F4_000071_00A7F5_00A7F6,
  0x00A7F8_000127_00A7F9_000153_00AB5C_00A727_00AB5D_00AB37,
  0x00AB5E_00026B_00AB5F_00AB52_00AB69_00028D_00F900_008C48,
  0x00F901_0066F4_00F902_008ECA_00F903_008CC8_00F904_006ED1,
  0x00F905_004E32_00F906_0053E5_00F907_009F9C_00F908_009F9C,
  0x00F909_005951_00F90A_0091D1_00F90B_005587_00F90C_005948,
  0x00F90D_0061F6_00F90E_007669_00F90F_007F85_00F910_00863F,
  0x00F911_0087BA_00F912_0088F8_00F913_00908F_00F914_006A02,
  0x00F915_006D1B_00F916_0070D9_00F917_0073DE_00F918_00843D,
  0x00F919_00916A_00F91A_0099F1_00F91B_004E82_00F91C_005375,
  0x00F91D_006B04_00F91E_00721B_00F91F_00862D_00F920_009E1E,
  0x00F921_005D50_00F922_006FEB_00F923_0085CD_00F924_008964,
  0x00F925_0062C9_00F926_0081D8_00F927_00881F_00F928_005ECA,
  0x00F929_006717_00F92A_006D6A_00F92B_0072FC_00F92C_0090CE,
  0x00F92D_004F86_00F92E_0051B7_00F92F_0052DE_00F930_0064C4,
  0x00F931_006AD3_00F932_007210_00F933_0076E7_00F934_008001,
  0x00F935_008606_00F936_00865C_00F937_008DEF_00F938_009732,
  0x00F939_009B6F_00F93A_009DFA_00F93B_00788C_00F93C_00797F,
  0x00F93D_007DA0_00F93E_0083C9_00F93F_009304_00F940_009E7F,
  0x00F941_008AD6_00F942_0058DF_00F943_005F04_00F944_007C60,
  0x00F945_00807E_00F946_007262_00F947_0078CA_00F948_008CC2,
  0x00F949_0096F7_00F94A_0058D8_00F94B_005C62_00F94C_006A13,
  0x00F94D_006DDA_00F94E_006F0F_00F94F_007D2F_00F950_007E37,
  0x00F951_00964B_00F952_0052D2_00F953_00808B_00F954_0051DC,
  0x00F955_0051CC_00F956_007A1C_00F957_007DBE_00F958_0083F1,
  0x00F959_009675_00F95A_008B80_00F95B_0062CF_00F95C_006A02,
  0x00F95D_008AFE_00F95E_004E39_00F95F_005BE7_00F960_006012,
  0x00F961_007387_00F962_007570_00F963_005317_00F964_0078FB,
  0x00F965_004FBF_00F966_005FA9_00F967_004E0D_00F968_006CCC,
  0x00F969_006578_00F96A_007D22_00F96B_0053C3_00F96C_00585E,
  0x00F96D_007701_00F96E_008449_00F96F_008AAA_00F970_006BBA,
  0x00F971_008FB0_00F972_006C88_00F973_0062FE_00F974_0082E5,
  0x00F975_0063A0_00F976_007565_00F977_004EAE_00F978_005169,
  0x00F979_0051C9_00F97A_006881_00F97B_007CE7_00F97C_00826F,
  0x00F97D_008AD2_00F97E_0091CF_00F97F_0052F5_00F980_005442,
  0x00F981_005973_00F982_005EEC_00F983_0065C5_00F984_006FFE,
  0x00F985_00792A_00F986_0095AD_00F987_009A6A_00F988_009E97,
  0x00F989_009ECE_00F98A_00529B_00F98B_0066C6_00F98C_006B77,
  0x00F98D_008F62_00F98E_005E74_00F98F_006190_00F990_006200,
  0x00F991_00649A_00F992_006F23_00F993_007149_00F994_007489,
  0x00F995_0079CA_00F996_007DF4_00F997_00806F_00F998_008F26,
  0x00F999_0084EE_00F99A_009023_00F99B_00934A_00F99C_005217,
  0x00F99D_0052A3_00F99E_0054BD_00F99F_0070C8_00F9A0_0088C2,
  0x00F9A1_008AAA_00F9A2_005EC9_00F9A3_005FF5_00F9A4_00637B,
  0x00F9A5_006BAE_00F9A6_007C3E_00F9A7_007375_00F9A8_004EE4,
  0x00F9A9_0056F9_00F9AA_005BE7_00F9AB_005DBA_00F9AC_00601C,
  0x00F9AD_0073B2_00F9AE_007469_00F9AF_007F9A_00F9B0_008046,
  0x00F9B1_009234_00F9B2_0096F6_00F9B3_009748_00F9B4_009818,
  0x00F9B5_004F8B_00F9B6_0079AE_00F9B7_0091B4_00F9B8_0096B8,
  0x00F9B9_0060E1_00F9BA_004E86_00F9BB_0050DA_00F9BC_005BEE,
  0x00F9BD_005C3F_00F9BE_006599_00F9BF_006A02_00F9C0_0071CE,
  0x00F9C1_007642_00F9C2_0084FC_00F9C3_00907C_00F9C4_009F8D,
  0x00F9C5_006688_00F9C6_00962E_00F9C7_005289_00F9C8_00677B,
  0x00F9C9_0067F3_00F9CA_006D41_00F9CB_006E9C_00F9CC_007409,
  0x00F9CD_007559_00F9CE_00786B_00F9CF_007D10_00F9D0_00985E,
  0x00F9D1_00516D_00F9D2_00622E_00F9D3_009678_00F9D4_00502B,
  0x00F9D5_005D19_00F9D6_006DEA_00F9D7_008F2A_00F9D8_005F8B,
  0x00F9D9_006144_00F9DA_006817_00F9DB_007387_00F9DC_009686,
  0x00F9DD_005229_00F9DE_00540F_00F9DF_005C65_00F9E0_006613,
  0x00F9E1_00674E_00F9E2_0068A8_00F9E3_006CE5_00F9E4_007406,
  0x00F9E5_0075E2_00F9E6_007F79_00F9E7_0088CF_00F9E8_0088E1,
  0x00F9E9_0091CC_00F9EA_0096E2_00F9EB_00533F_00F9EC_006EBA,
  0x00F9ED_00541D_00F9EE_0071D0_00F9EF_007498_00F9F0_0085FA,
  0x00F9F1_0096A3_00F9F2_009C57_00F9F3_009E9F_00F9F4_006797,
  0x00F9F5_006DCB_00F9F6_0081E8_00F9F7_007ACB_00F9F8_007B20,
  0x00F9F9_007C92_00F9FA_0072C0_00F9FB_007099_00F9FC_008B58,
  0x00F9FD_004EC0_00F9FE_008336_00F9FF_00523A_00FA00_005207,
  0x00FA01_005EA6_00FA02_0062D3_00FA03_007CD6_00FA04_005B85,
  0x00FA05_006D1E_00FA06_0066B4_00FA07_008F3B_00FA08_00884C,
  0x00FA09_00964D_00FA0A_00898B_00FA0B_005ED3_00FA0C_005140,
  0x00FA0D_0055C0_00FA10_00585A_00FA12_006674_00FA15_0051DE,
  0x00FA16_00732A_00FA17_0076CA_00FA18_00793C_00FA19_00795E,
  0x00FA1A_007965_00FA1B_00798F_00FA1C_009756_00FA1D_007CBE,
  0x00FA1E_007FBD_00FA20_008612_00FA22_008AF8_00FA25_009038,
  0x00FA26_0090FD_00FA2A_0098EF_00FA2B_0098FC_00FA2C_009928,
  0x00FA2D_009DB4_00FA2E_0090DE_00FA2F_0096B7_00FA30_004FAE,
  0x00FA31_0050E7_00FA32_00514D_00FA33_0052C9_00FA34_0052E4,
  0x00FA35_005351_00FA36_00559D_00FA37_005606_00FA38_005668,
  0x00FA39_005840_00FA3A_0058A8_00FA3B_005C64_00FA3C_005C6E,
  0x00FA3D_006094_00FA3E_006168_00FA3F_00618E_00FA40_0061F2,
  0x00FA41_00654F_00FA42_0065E2_00FA43_006691_00FA44_006885,
  0x00FA45_006D77_00FA46_006E1A_00FA47_006F22_00FA48_00716E,
  0x00FA49_00722B_00FA4A_007422_00FA4B_007891_00FA4C_00793E,
  0x00FA4D_007949_00FA4E_007948_00FA4F_007950_00FA50_007956,
  0x00FA51_00795D_00FA54_007A40_00FA55_007A81_00FA56_007BC0,
  0x00FA57_007DF4_00FA58_007E09_00FA59_007E41_00FA5A_007F72,
  0x00FA5B_008005_00FA5C_0081ED_00FA5D_008279_00FA5E_008279,
  0x00FA5F_008457_00FA60_008910_00FA61_008996_00FA62_008B01,
  0x00FA63_008B39_00FA64_008CD3_00FA65_008D08_00FA66_008FB6,
  0x00FA67_009038_00FA68_0096E3_00FA69_0097FF_00FA6A_00983B,
  0x00FA6B_006075_00FA6C_0242EE_00FA6D_008218_00FA70_004E26,
  0x00FA71_0051B5_00FA72_005168_00FA73_004F80_00FA74_005145,
  0x00FA75_005180_00FA76_0052C7_00FA77_0052FA_00FA78_00559D,
  0x00FA79_005555_00FA7A_005599_00FA7B_0055E2_00FA7C_00585A,
  0x00FA7D_0058B3_00FA7E_005944_00FA7F_005954_00FA80_005A62,
  0x00FA81_005B28_00FA82_005ED2_00FA83_005ED9_00FA84_005F69,
  0x00FA85_005FAD_00FA86_0060D8_00FA87_00614E_00FA88_006108,
  0x00FA89_00618E_00FA8A_006160_00FA8B_0061F2_00FA8C_006234,
  0x00FA8D_0063C4_00FA8E_00641C_00FA8F_006452_00FA90_006556,
  0x00FA91_006674_00FA92_006717_00FA93_00671B_00FA94_006756,
  0x00FA95_006B79_00FA96_006BBA_00FA97_006D41_00FA98_006EDB,
  0x00FA99_006ECB_00FA9A_006F22_00FA9B_00701E_00FA9C_00716E,
  0x00FA9D_0077A7_00FA9E_007235_00FA9F_0072AF_00FAA0_00732A,
  0x00FAA1_007471_00FAA2_007506_00FAA3_00753B_00FAA4_00761D,
  0x00FAA5_00761F_00FAA6_0076CA_00FAA7_0076DB_00FAA8_0076F4,
  0x00FAA9_00774A_00FAAA_007740_00FAAB_0078CC_00FAAC_007AB1,
  0x00FAAD_007BC0_00FAAE_007C7B_00FAAF_007D5B_00FAB0_007DF4,
  0x00FAB1_007F3E_00FAB2_008005_00FAB3_008352_00FAB4_0083EF,
  0x00FAB5_008779_00FAB6_008941_00FAB7_008986_00FAB8_008996,
  0x00FAB9_008ABF_00FABA_008AF8_00FABB_008ACB_00FABC_008B01,
  0x00FABD_008AFE_00FABE_008AED_00FABF_008B39_00FAC0_008B8A,
  0x00FAC1_008D08_00FAC2_008F38_00FAC3_009072_00FAC4_009199,
  0x00FAC5_009276_00FAC6_00967C_00FAC7_0096E3_00FAC8_009756,
  0x00FAC9_0097DB_00FACA_0097FF_00FACB_00980B_00FACC_00983B,
  0x00FACD_009B12_00FACE_009F9C_00FACF_02284A_00FAD0_022844,
  0x00FAD1_0233D5_00FAD2_003B9D_00FAD3_004018_00FAD4_004039,
  0x00FAD5_025249_00FAD6_025CD0_00FAD7_027ED3_00FAD8_009F43,
  0x00FAD9_009F8E_00FB20_0005E2_00FB21_0005D0_00FB27_0005E8,
  0x00FB28_0005EA_00FB29_00002B_00FB50_000671_00FB51_000671,
  0x00FB52_00067B_00FB53_00067B_00FB54_00067B_00FB55_00067B,
  0x00FB56_00067E_00FB57_00067E_00FB5C_000680_00FB5D_000680,
  0x00FB5E_00067A_00FB5F_00067A_00FB60_00067A_00FB61_00067A,
  0x00FB62_00067F_00FB63_00067F_00FB64_00067F_00FB65_00067F,
  0x00FB66_000679_00FB67_000679_00FB68_000679_00FB69_000679,
  0x00FB6A_0006A4_00FB6B_0006A4_00FB70_0006A6_00FB71_0006A6,
  0x00FB72_000684_00FB73_000684_00FB74_000684_00FB75_000684,
  0x00FB76_000683_00FB77_000683_00FB78_000683_00FB79_000683,
  0x00FB7A_000686_00FB7B_000686_00FB7C_000686_00FB7F_000687,
  0x00FB80_000687_00FB81_000687_00FB82_00068D_00FB83_00068D,
  0x00FB88_000688_00FB89_000688_00FB8A_000698_00FB8B_000698,
  0x00FB8C_000691_00FB8D_000691_00FB8E_0006A9_00FB8F_0006A9,
  0x00FB90_0006A9_00FB91_0006A9_00FB92_0006AF_00FB93_0006AF,
  0x00FB94_0006AF_00FB95_0006AF_00FB96_0006B3_00FB97_0006B3,
  0x00FB98_0006B3_00FB99_0006B3_00FB9A_0006B1_00FB9B_0006B1,
  0x00FB9C_0006B1_00FB9D_0006B1_00FB9E_0006BA_00FBA1_0006BB,
  0x00FBA2_0006BB_00FBA3_0006BB_00FBA4_0006C0_00FBA7_0006C1,
  0x00FBA8_0006C1_00FBA9_0006C1_00FBAA_0006BE_00FBAB_0006BE,
  0x00FBAC_0006BE_00FBAD_0006BE_00FBAE_0006D2_00FBB1_0006D3,
  0x00FBD3_0006AD_00FBD4_0006AD_00FBD5_0006AD_00FBD6_0006AD,
  0x00FBD7_0006C7_00FBD8_0006C7_00FBDE_0006CB_00FBDF_0006CB,
  0x00FBE0_0006C5_00FBE1_0006C5_00FBE2_0006C9_00FBE3_0006C9,
  0x00FBE4_0006D0_00FBE5_0006D0_00FBE6_0006D0_00FBE7_0006D0,
  0x00FBE8_000649_00FBE9_000649_00FBFC_0006CC_00FBFD_0006CC,
  0x00FBFE_0006CC_00FBFF_0006CC_00FE10_00002C_00FE11_003001,
  0x00FE15_000021_00FE16_00003F_00FE31_002014_00FE32_002013,
  0x00FE33_00005F_00FE34_00005F_00FE37_00007B_00FE38_00007D,
  0x00FE47_00005B_00FE48_00005D_00FE4D_00005F_00FE4E_00005F,
  0x00FE4F_00005F_00FE50_00002C_00FE51_003001_00FE54_00003B,
  0x00FE55_00003A_00FE56_00003F_00FE57_000021_00FE58_002014,
  0x00FE5B_00007B_00FE5C_00007D_00FE5F_000023_00FE60_000026,
  0x00FE63_00002D_00FE64_00003C_00FE65_00003E_00FE66_00003D,
  0x00FE68_00005C_00FE6B_000040_00FE8A_000626_00FE8B_000626,
  0x00FE90_000628_00FE91_000628_00FE96_00062A_00FE97_00062A,
  0x00FE9A_00062B_00FE9B_00062B_00FE9E_00062C_00FE9F_00062C,
  0x00FEA2_00062D_00FEA3_00062D_00FEA6_00062E_00FEA7_00062E,
  0x00FEB2_000633_00FEB3_000633_00FEB6_000634_00FEB7_000634,
  0x00FEBA_000635_00FEBB_000635_00FEBE_000636_00FEBF_000636,
  0x00FEC2_000637_00FEC3_000637_00FEC6_000638_00FEC7_000638,
  0x00FECA_000639_00FECB_000639_00FECE_00063A_00FECF_00063A,
  0x00FED0_00063A_00FED1_000641_00FED2_000641_00FED3_000641,
  0x00FED6_000642_00FED7_000642_00FEDA_000643_00FEDB_000643,
  0x00FEDE_000644_00FEDF_000644_00FEE2_000645_00FEE3_000645,
  0x00FEE6_000646_00FEE7_000646_00FEEA_000647_00FEEB_000647,
  0x00FEF2_00064A_00FEF3_00064A_00FEF4_00064A_00FF61_00002E,
  0x00FF64_003001_00FF65_0030FB_00FF66_0030F2_00FF67_0030A1,
  0x00FF68_0030A3_00FF69_0030A5_00FF6A_0030A7_00FF6B_0030A9,
  0x00FF6C_0030E3_00FF6D_0030E5_00FF6E_0030E7_00FF6F_0030C3,
  0x00FF70_0030FC_00FF71_0030A2_00FF72_0030A4_00FF73_0030A6,
  0x00FF74_0030A8_00FF77_0030AD_00FF78_0030AF_00FF79_0030B1,
  0x00FF7A_0030B3_00FF7B_0030B5_00FF7C_0030B7_00FF7D_0030B9,
  0x00FF7E_0030BB_00FF7F_0030BD_00FF80_0030BF_00FF81_0030C1,
  0x00FF82_0030C4_00FF83_0030C6_00FF84_0030C8_00FF8B_0030D2,
  0x00FF8C_0030D5_00FF8D_0030D8_00FF8E_0030DB_00FF94_0030E4,
  0x00FF95_0030E6_00FF9C_0030EF_00FF9D_0030F3_00FFA4_001102,
  0x00FFA6_0011AD_00FFB0_00111A_00FFB4_001121_00FFE2_0000AC,
  0x00FFE4_0000A6_00FFE5_0000A5_00FFE6_0020A9_00FFE8_002502,
  0x00FFED_0025A0_00FFEE_0025CB_010595_0105BC_010783_0000E6,
  0x010784_000299_010785_000253_010788_00AB66_01078A_0002A4,
  0x01078D_001D91_01078E_000258_01078F_00025E_010790_0002A9,
  0x010791_000264_010792_000262_010793_000260_010794_00029B,
  0x010795_000127_010796_00029C_010797_000267_010798_000284,
  0x01079B_00026C_01079C_01DF04_01079D_00A78E_01079E_00026E,
  0x01079F_01DF05_0107A0_00028E_0107A1_01DF06_0107A2_0000F8,
  0x0107A5_000071_0107A6_00027A_0107A7_01DF08_0107AA_000280,
  0x0107AB_0002A8_0107AC_0002A6_0107AD_00AB67_0107AE_0002A7,
  0x0107AF_000288_0107B0_002C71_0107B2_00028F_0107B5_000298,
  0x0107B9_01DF0A_0107BA_01DF1E_01D49F_000064_01D4A2_000067,
  0x01D546_00006F_01D6A4_000131_01D6A5_000237_01D6B9_0003B8,
  0x01D6C1_002207_01D6D3_0003C3_01D6DB_002202_01D6DC_0003B5,
  0x01D6DD_0003B8_01D6DE_0003BA_01D6DF_0003C6_01D6E0_0003C1,
  0x01D6E1_0003C0_01D6F3_0003B8_01D6FB_002207_01D70D_0003C3,
  0x01D715_002202_01D716_0003B5_01D717_0003B8_01D718_0003BA,
  0x01D719_0003C6_01D71A_0003C1_01D71B_0003C0_01D72D_0003B8,
  0x01D735_002207_01D747_0003C3_01D74F_002202_01D750_0003B5,
  0x01D751_0003B8_01D752_0003BA_01D753_0003C6_01D754_0003C1,
  0x01D755_0003C0_01D767_0003B8_01D76F_002207_01D781_0003C3,
  0x01D789_002202_01D78A_0003B5_01D78B_0003B8_01D78C_0003BA,
  0x01D78D_0003C6_01D78E_0003C1_01D78F_0003C0_01D7A1_0003B8,
  0x01D7A9_002207_01D7BB_0003C3_01D7C3_002202_01D7C4_0003B5,
  0x01D7C5_0003B8_01D7C6_0003BA_01D7C7_0003C6_01D7C8_0003C1,
  0x01D7C9_0003C0_01D7CA_0003DD_01D7CB_0003DD_01E047_00044B,
  0x01E04A_00A689_01E04B_0004D9_01E04C_000456_01E04D_000458,
  0x01E04E_0004E9_01E04F_0004AF_01E050_0004CF_01E05E_000441,
  0x01E067_000491_01E068_000456_01E069_000455_01E06A_00045F,
  0x01E06B_0004AB_01E06C_00A651_01E06D_0004B1_01EE02_00062C,
  0x01EE03_00062F_01EE05_000648_01EE06_000632_01EE07_00062D,
  0x01EE08_000637_01EE09_00064A_01EE0E_000633_01EE0F_000639,
  0x01EE10_000641_01EE11_000635_01EE12_000642_01EE13_000631,
  0x01EE14_000634_01EE17_00062E_01EE18_000630_01EE19_000636,
  0x01EE1A_000638_01EE1B_00063A_01EE1C_00066E_01EE1D_0006BA,
  0x01EE1E_0006A1_01EE1F_00066F_01EE21_000628_01EE22_00062C,
  0x01EE24_000647_01EE27_00062D_01EE29_00064A_01EE2E_000633,
  0x01EE2F_000639_01EE30_000641_01EE31_000635_01EE32_000642,
  0x01EE34_000634_01EE37_00062E_01EE39_000636_01EE3B_00063A,
  0x01EE42_00062C_01EE47_00062D_01EE49_00064A_01EE4E_000633,
  0x01EE4F_000639_01EE51_000635_01EE52_000642_01EE54_000634,
  0x01EE57_00062E_01EE59_000636_01EE5B_00063A_01EE5D_0006BA,
  0x01EE5F_00066F_01EE61_000628_01EE62_00062C_01EE64_000647,
  0x01EE67_00062D_01EE68_000637_01EE69_00064A_01EE6D_000646,
  0x01EE6E_000633_01EE6F_000639_01EE70_000641_01EE71_000635,
  0x01EE72_000642_01EE74_000634_01EE77_00062E_01EE79_000636,
  0x01EE7A_000638_01EE7B_00063A_01EE7C_00066E_01EE7E_0006A1,
  0x01EE82_00062C_01EE83_00062F_01EE86_000632_01EE87_00062D,
  0x01EE88_000637_01EE89_00064A_01EE8E_000633_01EE8F_000639,
  0x01EE90_000641_01EE91_000635_01EE92_000642_01EE93_000631,
  0x01EE94_000634_01EE97_00062E_01EE98_000630_01EE99_000636,
  0x01EE9A_000638_01EE9B_00063A_01EEA1_000628_01EEA2_00062C,
  0x01EEA3_00062F_01EEA5_000648_01EEA6_000632_01EEA7_00062D,
  0x01EEA8_000637_01EEA9_00064A_01EEAE_000633_01EEAF_000639,
  0x01EEB0_000641_01EEB1_000635_01EEB2_000642_01EEB3_000631,
  0x01EEB4_000634_01EEB7_00062E_01EEB8_000630_01EEB9_000636,
  0x01EEBA_000638_01EEBB_00063A_01F12B_000063_01F12C_000072,
  0x01F202_0030B5_01F210_00624B_01F211_005B57_01F212_0053CC,
  0x01F213_0030C7_01F214_004E8C_01F215_00591A_01F216_0089E3,
  0x01F217_005929_01F218_004EA4_01F219_006620_01F21A_007121,
  0x01F21B_006599_01F21C_00524D_01F21D_005F8C_01F21E_00518D,
  0x01F21F_0065B0_01F220_00521D_01F221_007D42_01F222_00751F,
  0x01F223_008CA9_01F224_0058F0_01F225_005439_01F226_006F14,
  0x01F227_006295_01F228_006355_01F229_004E00_01F22A_004E09,
  0x01F22B_00904A_01F22C_005DE6_01F22D_004E2D_01F22E_0053F3,
  0x01F22F_006307_01F230_008D70_01F231_006253_01F232_007981,
  0x01F233_007A7A_01F234_005408_01F235_006E80_01F236_006709,
  0x01F237_006708_01F238_007533_01F239_005272_01F23A_0055B6,
  0x01F23B_00914D_01F250_005F97_01F251_0053EF_02F800_004E3D,
  0x02F801_004E38_02F802_004E41_02F803_020122_02F804_004F60,
  0x02F805_004FAE_02F806_004FBB_02F807_005002_02F808_00507A,
  0x02F809_005099_02F80A_0050E7_02F80B_0050CF_02F80C_00349E,
  0x02F80D_02063A_02F80E_00514D_02F80F_005154_02F810_005164,
  0x02F811_005177_02F812_02051C_02F813_0034B9_02F814_005167,
  0x02F815_00518D_02F816_02054B_02F817_005197_02F818_0051A4,
  0x02F819_004ECC_02F81A_0051AC_02F81B_0051B5_02F81C_0291DF,
  0x02F81D_0051F5_02F81E_005203_02F81F_0034DF_02F820_00523B,
  0x02F821_005246_02F822_005272_02F823_005277_02F824_003515,
  0x02F825_0052C7_02F826_0052C9_02F827_0052E4_02F828_0052FA,
  0x02F82B_005317_02F82C_005349_02F82D_005351_02F82E_00535A,
  0x02F82F_005373_02F831_00537F_02F833_00537F_02F834_020A2C,
  0x02F835_007070_02F836_0053CA_02F837_0053DF_02F838_020B63,
  0x02F839_0053EB_02F83A_0053F1_02F83B_005406_02F83C_00549E,
  0x02F83D_005438_02F83E_005448_02F83F_005468_02F840_0054A2,
  0x02F841_0054F6_02F842_005510_02F843_005553_02F844_005563,
  0x02F845_005584_02F846_005584_02F847_005599_02F848_0055AB,
  0x02F849_0055B3_02F84A_0055C2_02F84B_005716_02F84C_005606,
  0x02F84D_005717_02F84E_005651_02F84F_005674_02F850_005207,
  0x02F851_0058EE_02F852_0057CE_02F853_0057F4_02F854_00580D,
  0x02F855_00578B_02F856_005832_02F857_005831_02F858_0058AC,
  0x02F859_0214E4_02F85A_0058F2_02F85B_0058F7_02F85C_005906,
  0x02F85D_00591A_02F85E_005922_02F85F_005962_02F860_0216A8,
  0x02F861_0216EA_02F862_0059EC_02F863_005A1B_02F864_005A27,
  0x02F865_0059D8_02F866_005A66_02F867_0036EE_02F868_0036FC,
  0x02F869_005B08_02F86A_005B3E_02F86B_005B3E_02F86C_0219C8,
  0x02F86D_005BC3_02F86E_005BD8_02F86F_005BE7_02F870_005BF3,
  0x02F871_021B18_02F872_005BFF_02F873_005C06_02F874_005F53,
  0x02F875_005C22_02F876_003781_02F877_005C60_02F878_005C6E,
  0x02F879_005CC0_02F87A_005C8D_02F87C_005D43_02F87E_005D6E,
  0x02F87F_005D6B_02F880_005D7C_02F883_00382F_02F884_005DFD,
  0x02F885_005E28_02F886_005E3D_02F887_005E69_02F888_003862,
  0x02F889_022183_02F88A_00387C_02F88B_005EB0_02F88C_005EB3,
  0x02F88D_005EB6_02F88E_005ECA_02F88F_02A392_02F890_005EFE,
  0x02F891_022331_02F892_022331_02F893_008201_02F894_005F22,
  0x02F895_005F22_02F896_0038C7_02F897_0232B8_02F898_0261DA,
  0x02F899_005F62_02F89A_005F6B_02F89B_0038E3_02F89C_005F9A,
  0x02F89D_005FCD_02F89E_005FD7_02F89F_005FF9_02F8A0_006081,
  0x02F8A1_00393A_02F8A2_00391C_02F8A3_006094_02F8A4_0226D4,
  0x02F8A5_0060C7_02F8A6_006148_02F8A7_00614C_02F8A8_00614E,
  0x02F8A9_00614C_02F8AA_00617A_02F8AB_00618E_02F8AC_0061B2,
  0x02F8AD_0061A4_02F8AE_0061AF_02F8AF_0061DE_02F8B0_0061F2,
  0x02F8B1_0061F6_02F8B2_006210_02F8B3_00621B_02F8B4_00625D,
  0x02F8B5_0062B1_02F8B6_0062D4_02F8B7_006350_02F8B8_022B0C,
  0x02F8B9_00633D_02F8BA_0062FC_02F8BB_006368_02F8BC_006383,
  0x02F8BD_0063E4_02F8BE_022BF1_02F8BF_006422_02F8C0_0063C5,
  0x02F8C1_0063A9_02F8C2_003A2E_02F8C3_006469_02F8C4_00647E,
  0x02F8C5_00649D_02F8C6_006477_02F8C7_003A6C_02F8C8_00654F,
  0x02F8C9_00656C_02F8CA_02300A_02F8CB_0065E3_02F8CC_0066F8,
  0x02F8CD_006649_02F8CE_003B19_02F8CF_006691_02F8D0_003B08,
  0x02F8D1_003AE4_02F8D2_005192_02F8D3_005195_02F8D4_006700,
  0x02F8D5_00669C_02F8D6_0080AD_02F8D7_0043D9_02F8D8_006717,
  0x02F8D9_00671B_02F8DA_006721_02F8DB_00675E_02F8DC_006753,
  0x02F8DD_0233C3_02F8DE_003B49_02F8DF_0067FA_02F8E0_006785,
  0x02F8E1_006852_02F8E2_006885_02F8E3_02346D_02F8E4_00688E,
  0x02F8E5_00681F_02F8E6_006914_02F8E7_003B9D_02F8E8_006942,
  0x02F8E9_0069A3_02F8EA_0069EA_02F8EB_006AA8_02F8EC_0236A3,
  0x02F8ED_006ADB_02F8EE_003C18_02F8EF_006B21_02F8F0_0238A7,
  0x02F8F1_006B54_02F8F2_003C4E_02F8F3_006B72_02F8F4_006B9F,
  0x02F8F7_023A8D_02F8F8_021D0B_02F8F9_023AFA_02F8FA_006C4E,
  0x02F8FB_023CBC_02F8FC_006CBF_02F8FD_006CCD_02F8FE_006C67,
  0x02F8FF_006D16_02F900_006D3E_02F901_006D77_02F902_006D41,
  0x02F903_006D69_02F904_006D78_02F905_006D85_02F906_023D1E,
  0x02F907_006D34_02F908_006E2F_02F909_006E6E_02F90A_003D33,
  0x02F90B_006ECB_02F90C_006EC7_02F90D_023ED1_02F90E_006DF9,
  0x02F90F_006F6E_02F910_023F5E_02F911_023F8E_02F912_006FC6,
  0x02F913_007039_02F914_00701E_02F915_00701B_02F916_003D96,
  0x02F917_00704A_02F918_00707D_02F919_007077_02F91A_0070AD,
  0x02F91B_020525_02F91C_007145_02F91D_024263_02F91E_00719C,
  0x02F91F_0243AB_02F920_007228_02F921_007235_02F922_007250,
  0x02F923_024608_02F924_007280_02F925_007295_02F926_024735,
  0x02F927_024814_02F928_00737A_02F929_00738B_02F92A_003EAC,
  0x02F92B_0073A5_02F92C_003EB8_02F92D_003EB8_02F92E_007447,
  0x02F92F_00745C_02F930_007471_02F931_007485_02F932_0074CA,
  0x02F933_003F1B_02F934_007524_02F935_024C36_02F936_00753E,
  0x02F937_024C92_02F938_007570_02F939_02219F_02F93A_007610,
  0x02F93B_024FA1_02F93C_024FB8_02F93D_025044_02F93E_003FFC,
  0x02F93F_004008_02F940_0076F4_02F941_0250F3_02F942_0250F2,
  0x02F943_025119_02F944_025133_02F947_00771F_02F948_00774A,
  0x02F949_004039_02F94A_00778B_02F94B_004046_02F94C_004096,
  0x02F94D_02541D_02F94E_00784E_02F94F_00788C_02F950_0078CC,
  0x02F951_0040E3_02F952_025626_02F953_007956_02F954_02569A,
  0x02F955_0256C5_02F956_00798F_02F957_0079EB_02F958_00412F,
  0x02F959_007A40_02F95A_007A4A_02F95B_007A4F_02F95C_02597C,
  0x02F95D_025AA7_02F95E_025AA7_02F95F_007AEE_02F960_004202,
  0x02F961_025BAB_02F962_007BC6_02F963_007BC9_02F964_004227,
  0x02F965_025C80_02F966_007CD2_02F967_0042A0_02F968_007CE8,
  0x02F969_007CE3_02F96A_007D00_02F96B_025F86_02F96C_007D63,
  0x02F96D_004301_02F96E_007DC7_02F96F_007E02_02F970_007E45,
  0x02F971_004334_02F972_026228_02F973_026247_02F974_004359,
  0x02F975_0262D9_02F976_007F7A_02F977_02633E_02F978_007F95,
  0x02F979_007FFA_02F97A_008005_02F97B_0264DA_02F97C_026523,
  0x02F97D_008060_02F97E_0265A8_02F97F_008070_02F980_02335F,
  0x02F981_0043D5_02F982_0080B2_02F983_008103_02F984_00440B,
  0x02F985_00813E_02F986_005AB5_02F987_0267A7_02F988_0267B5,
  0x02F989_023393_02F98A_02339C_02F98B_008201_02F98C_008204,
  0x02F98D_008F9E_02F98E_00446B_02F98F_008291_02F990_00828B,
  0x02F991_00829D_02F992_0052B3_02F993_0082B1_02F994_0082B3,
  0x02F995_0082BD_02F996_0082E6_02F997_026B3C_02F998_0082E5,
  0x02F999_00831D_02F99A_008363_02F99B_0083AD_02F99C_008323,
  0x02F99D_0083BD_02F99E_0083E7_02F99F_008457_02F9A0_008353,
  0x02F9A1_0083CA_02F9A2_0083CC_02F9A3_0083DC_02F9A4_026C36,
  0x02F9A5_026D6B_02F9A6_026CD5_02F9A7_00452B_02F9A8_0084F1,
  0x02F9A9_0084F3_02F9AA_008516_02F9AB_0273CA_02F9AC_008564,
  0x02F9AD_026F2C_02F9AE_00455D_02F9AF_004561_02F9B0_026FB1,
  0x02F9B1_0270D2_02F9B2_00456B_02F9B3_008650_02F9B4_00865C,
  0x02F9B5_008667_02F9B6_008669_02F9B7_0086A9_02F9B8_008688,
  0x02F9B9_00870E_02F9BA_0086E2_02F9BB_008779_02F9BC_008728,
  0x02F9BD_00876B_02F9BE_008786_02F9BF_0045D7_02F9C0_0087E1,
  0x02F9C1_008801_02F9C2_0045F9_02F9C3_008860_02F9C4_008863,
  0x02F9C5_027667_02F9C6_0088D7_02F9C7_0088DE_02F9C8_004635,
  0x02F9C9_0088FA_02F9CA_0034BB_02F9CB_0278AE_02F9CC_027966,
  0x02F9CD_0046BE_02F9CE_0046C7_02F9CF_008AA0_02F9D0_008AED,
  0x02F9D1_008B8A_02F9D2_008C55_02F9D3_027CA8_02F9D4_008CAB,
  0x02F9D5_008CC1_02F9D6_008D1B_02F9D7_008D77_02F9D8_027F2F,
  0x02F9D9_020804_02F9DA_008DCB_02F9DB_008DBC_02F9DC_008DF0,
  0x02F9DD_0208DE_02F9DE_008ED4_02F9DF_008F38_02F9E0_0285D2,
  0x02F9E1_0285ED_02F9E2_009094_02F9E3_0090F1_02F9E4_009111,
  0x02F9E5_02872E_02F9E6_00911B_02F9E7_009238_02F9EA_00927C,
  0x02F9EB_0093F9_02F9EC_009415_02F9ED_028BFA_02F9EE_00958B,
  0x02F9EF_004995_02F9F0_0095B7_02F9F1_028D77_02F9F2_0049E6,
  0x02F9F3_0096C3_02F9F4_005DB2_02F9F5_009723_02F9F6_029145,
  0x02F9F7_02921A_02F9F8_004A6E_02F9F9_004A76_02F9FA_0097E0,
  0x02F9FB_02940A_02F9FC_004AB2_02F9FD_029496_02F9FE_00980B,
  0x02F9FF_00980B_02FA00_009829_02FA01_0295B6_02FA02_0098E2,
  0x02FA03_004B33_02FA04_009929_02FA05_0099A7_02FA06_0099C2,
  0x02FA07_0099FE_02FA08_004BCE_02FA09_029B30_02FA0A_009B12,
  0x02FA0B_009C40_02FA0C_009CFD_02FA0D_004CCE_02FA0E_004CED,
  0x02FA0F_009D67_02FA10_02A0CE_02FA11_004CF8_02FA12_02A105,
  0x02FA13_02A20E_02FA14_02A291_02FA15_009EBB_02FA16_004D56,
  0x02FA17_009EF9_02FA18_009EFE_02FA19_009F05_02FA1A_009F0F,
  0x02FA1B_009F16_02FA1C_009F3B_02FA1D_02A600_110000_110000]

/-- The code points that stand for several others. -/
def domainSequences : List (Nat × List Nat) := unpackEntries 1273 <| unpackRows [
  0x0000A8_000002_000020_000308_0000AF_000002_000020_000304,
  0x0000B4_000002_000020_000301_0000B8_000002_000020_000327,
  0x0000BC_000003_000031_002044_000034_0000BD_000003_000031,
  0x002044_000032_0000BE_000003_000033_002044_000034_000130,
  0x000002_000069_000307_000132_000002_000069_00006A_000133,
  0x000002_000069_00006A_00013F_000002_00006C_0000B7_000140,
  0x000002_00006C_0000B7_000149_000002_0002BC_00006E_0001C4,
  0x000002_000064_00017E_0001C5_000002_000064_00017E_0001C6,
  0x000002_000064_00017E_0001C7_000002_00006C_00006A_0001C8,
  0x000002_00006C_00006A_0001C9_000002_00006C_00006A_0001CA,
  0x000002_00006E_00006A_0001CB_000002_00006E_00006A_0001CC,
  0x000002_00006E_00006A_0001F1_000002_000064_00007A_0001F2,
  0x000002_000064_00007A_0001F3_000002_000064_00007A_0002D8,
  0x000002_000020_000306_0002D9_000002_000020_000307_0002DA,
  0x000002_000020_00030A_0002DB_000002_000020_000328_0002DC,
  0x000002_000020_000303_0002DD_000002_000020_00030B_000344,
  0x000002_000308_000301_00037A_000002_000020_0003B9_000384,
  0x000002_000020_000301_000385_000003_000020_000308_000301,
  0x000587_000002_000565_000582_000675_000002_000627_000674,
  0x000676_000002_000648_000674_000677_000002_0006C7_000674,
  0x000678_000002_00064A_000674_000958_000002_000915_00093C,
  0x000959_000002_000916_00093C_00095A_000002_000917_00093C,
  0x00095B_000002_00091C_00093C_00095C_000002_000921_00093C,
  0x00095D_000002_000922_00093C_00095E_000002_00092B_00093C,
  0x00095F_000002_00092F_00093C_0009DC_000002_0009A1_0009BC,
  0x0009DD_000002_0009A2_0009BC_0009DF_000002_0009AF_0009BC,
  0x000A33_000002_000A32_000A3C_000A36_000002_000A38_000A3C,
  0x000A59_000002_000A16_000A3C_000A5A_000002_000A17_000A3C,
  0x000A5B_000002_000A1C_000A3C_000A5E_000002_000A2B_000A3C,
  0x000B5C_000002_000B21_000B3C_000B5D_000002_000B22_000B3C,
  0x000E33_000002_000E4D_000E32_000EB3_000002_000ECD_000EB2,
  0x000EDC_000002_000EAB_000E99_000EDD_000002_000EAB_000EA1,
  0x000F43_000002_000F42_000FB7_000F4D_000002_000F4C_000FB7,
  0x000F52_000002_000F51_000FB7_000F57_000002_000F56_000FB7,
  0x000F5C_000002_000F5B_000FB7_000F69_000002_000F40_000FB5,
  0x000F73_000002_000F71_000F72_000F75_000002_000F71_000F74,
  0x000F76_000002_000FB2_000F80_000F77_000003_000FB2_000F71,
  0x000F80_000F78_000002_000FB3_000F80_000F79_000003_000FB3,
  0x000F71_000F80_000F81_000002_000F71_000F80_000F93_000002,
  0x000F92_000FB7_000F9D_000002_000F9C_000FB7_000FA2_000002,
  0x000FA1_000FB7_000FA7_000002_000FA6_000FB7_000FAC_000002,
  0x000FAB_000FB7_000FB9_000002_000F90_000FB5_001E9A_000002,
  0x000061_0002BE_001F80_000002_001F00_0003B9_001F81_000002,
  0x001F01_0003B9_001F82_000002_001F02_0003B9_001F83_000002,
  0x001F03_0003B9_001F84_000002_001F04_0003B9_001F85_000002,
  0x001F05_0003B9_001F86_000002_001F06_0003B9_001F87_000002,
  0x001F07_0003B9_001F88_000002_001F00_0003B9_001F89_000002,
  0x001F01_0003B9_001F8A_000002_001F02_0003B9_001F8B_000002,
  0x001F03_0003B9_001F8C_000002_001F04_0003B9_001F8D_000002,
  0x001F05_0003B9_001F8E_000002_001F06_0003B9_001F8F_000002,
  0x001F07_0003B9_001F90_000002_001F20_0003B9_001F91_000002,
  0x001F21_0003B9_001F92_000002_001F22_0003B9_001F93_000002,
  0x001F23_0003B9_001F94_000002_001F24_0003B9_001F95_000002,
  0x001F25_0003B9_001F96_000002_001F26_0003B9_001F97_000002,
  0x001F27_0003B9_001F98_000002_001F20_0003B9_001F99_000002,
  0x001F21_0003B9_001F9A_000002_001F22_0003B9_001F9B_000002,
  0x001F23_0003B9_001F9C_000002_001F24_0003B9_001F9D_000002,
  0x001F25_0003B9_001F9E_000002_001F26_0003B9_001F9F_000002,
  0x001F27_0003B9_001FA0_000002_001F60_0003B9_001FA1_000002,
  0x001F61_0003B9_001FA2_000002_001F62_0003B9_001FA3_000002,
  0x001F63_0003B9_001FA4_000002_001F64_0003B9_001FA5_000002,
  0x001F65_0003B9_001FA6_000002_001F66_0003B9_001FA7_000002,
  0x001F67_0003B9_001FA8_000002_001F60_0003B9_001FA9_000002,
  0x001F61_0003B9_001FAA_000002_001F62_0003B9_001FAB_000002,
  0x001F63_0003B9_001FAC_000002_001F64_0003B9_001FAD_000002,
  0x001F65_0003B9_001FAE_000002_001F66_0003B9_001FAF_000002,
  0x001F67_0003B9_001FB2_000002_001F70_0003B9_001FB3_000002,
  0x0003B1_0003B9_001FB4_000002_0003AC_0003B9_001FB7_000002,
  0x001FB6_0003B9_001FBC_000002_0003B1_0003B9_001FBD_000002,
  0x000020_000313_001FBF_000002_000020_000313_001FC0_000002,
  0x000020_000342_001FC1_000003_000020_000308_000342_001FC2,
  0x000002_001F74_0003B9_001FC3_000002_0003B7_0003B9_001FC4,
  0x000002_0003AE_0003B9_001FC7_000002_001FC6_0003B9_001FCC,
  0x000002_0003B7_0003B9_001FCD_000003_000020_000313_000300,
  0x001FCE_000003_000020_000313_000301_001FCF_000003_000020,
  0x000313_000342_001FDD_000003_000020_000314_000300_001FDE,
  0x000003_000020_000314_000301_001FDF_000003_000020_000314,
  0x000342_001FED_000003_000020_000308_000300_001FEE_000003,
  0x000020_000308_000301_001FF2_000002_001F7C_0003B9_001FF3,
  0x000002_0003C9_0003B9_001FF4_000002_0003CE_0003B9_001FF7,
  0x000002_001FF6_0003B9_001FFC_000002_0003C9_0003B9_001FFD,
  0x000002_000020_000301_001FFE_000002_000020_000314_002017,
  0x000002_000020_000333_002033_000002_002032_002032_002034,
  0x000003_002032_002032_002032_002036_000002_002035_002035,
  0x002037_000003_002035_002035_002035_00203C_000002_000021,
  0x000021_00203E_000002_000020_000305_002047_000002_00003F,
  0x00003F_002048_000002_00003F_000021_002049_000002_000021,
  0x00003F_002057_000004_002032_002032_002032_002032_0020A8,
  0x000002_000072_000073_002100_000003_000061_00002F_000063,
  0x002101_000003_000061_00002F_000073_002103_000002_0000B0,
  0x000063_002105_000003_000063_00002F_00006F_002106_000003,
  0x000063_00002F_000075_002109_000002_0000B0_000066_002116,
  0x000002_00006E_00006F_002120_000002_000073_00006D_002121,
  0x000003_000074_000065_00006C_002122_000002_000074_00006D,
  0x00213B_000003_000066_000061_000078_002150_000003_000031,
  0x002044_000037_002151_000003_000031_002044_000039_002152,
  0x000004_000031_002044_000031_000030_002153_000003_000031,
  0x002044_000033_002154_000003_000032_002044_000033_002155,
  0x000003_000031_002044_000035_002156_000003_000032_002044,
  0x000035_002157_000003_000033_002044_000035_002158_000003,
  0x000034_002044_000035_002159_000003_000031_002044_000036,
  0x00215A_000003_000035_002044_000036_00215B_000003_000031,
  0x002044_000038_00215C_000003_000033_002044_000038_00215D,
  0x000003_000035_002044_000038_00215E_000003_000037_002044,
  0x000038_00215F_000002_000031_002044_002161_000002_000069,
  0x000069_002162_000003_000069_000069_000069_002163_000002,
  0x000069_000076_002165_000002_000076_000069_002166_000003,
  0x000076_000069_000069_002167_000004_000076_000069_000069,
  0x000069_002168_000002_000069_000078_00216A_000002_000078,
  0x000069_00216B_000003_000078_000069_000069_002171_000002,
  0x000069_000069_002172_000003_000069_000069_000069_002173,
  0x000002_000069_000076_002175_000002_000076_000069_002176,
  0x000003_000076_000069_000069_002177_000004_000076_000069,
  0x000069_000069_002178_000002_000069_000078_00217A_000002,
  0x000078_000069_00217B_000003_000078_000069_000069_002189,
  0x000003_000030_002044_000033_00222C_000002_00222B_00222B,
  0x00222D_000003_00222B_00222B_00222B_00222F_000002_00222E,
  0x00222E_002230_000003_00222E_00222E_00222E_002469_000002,
  0x000031_000030_00246A_000002_000031_000031_00246B_000002,
  0x000031_000032_00246C_000002_000031_000033_00246D_000002,
  0x000031_000034_00246E_000002_000031_000035_00246F_000002,
  0x000031_000036_002470_000002_000031_000037_002471_000002,
  0x000031_000038_002472_000002_000031_000039_002473_000002,
  0x000032_000030_002474_000003_000028_000031_000029_002475,
  0x000003_000028_000032_000029_002476_000003_000028_000033,
  0x000029_002477_000003_000028_000034_000029_002478_000003,
  0x000028_000035_000029_002479_000003_000028_000036_000029,
  0x00247A_000003_000028_000037_000029_00247B_000003_000028,
  0x000038_000029_00247C_000003_000028_000039_000029_00247D,
  0x000004_000028_000031_000030_000029_00247E_000004_000028,
  0x000031_000031_000029_00247F_000004_000028_000031_000032,
  0x000029_002480_000004_000028_000031_000033_000029_002481,
  0x000004_000028_000031_000034_000029_002482_000004_000028,
  0x000031_000035_000029_002483_000004_000028_000031_000036,
  0x000029_002484_000004_000028_000031_000037_000029_002485,
  0x000004_000028_000031_000038_000029_002486_000004_000028,
  0x000031_000039_000029_002487_000004_000028_000032_000030,
  0x000029_00249C_000003_000028_000061_000029_00249D_000003,
  0x000028_000062_000029_00249E_000003_000028_000063_000029,
  0x00249F_000003_000028_000064_000029_0024A0_000003_000028,
  0x000065_000029_0024A1_000003_000028_000066_000029_0024A2,
  0x000003_000028_000067_000029_0024A3_000003_000028_000068,
  0x000029_0024A4_000003_000028_000069_000029_0024A5_000003,
  0x000028_00006A_000029_0024A6_000003_000028_00006B_000029,
  0x0024A7_000003_000028_00006C_000029_0024A8_000003_000028,
  0x00006D_000029_0024A9_000003_000028_00006E_000029_0024AA,
  0x000003_000028_00006F_000029_0024AB_000003_000028_000070,
  0x000029_0024AC_000003_000028_000071_000029_0024AD_000003,
  0x000028_000072_000029_0024AE_000003_000028_000073_000029,
  0x0024AF_000003_000028_000074_000029_0024B0_000003_000028,
  0x000075_000029_0024B1_000003_000028_000076_000029_0024B2,
  0x000003_000028_000077_000029_0024B3_000003_000028_000078,
  0x000029_0024B4_000003_000028_000079_000029_0024B5_000003,
  0x000028_00007A_000029_002A0C_000004_00222B_00222B_00222B,
  0x00222B_002A74_000003_00003A_00003A_00003D_002A75_000002,
  0x00003D_00003D_002A76_000003_00003D_00003D_00003D_002ADC,
  0x000002_002ADD_000338_00309B_000002_000020_003099_00309C,
  0x000002_000020_00309A_00309F_000002_003088_00308A_0030FF,
  0x000002_0030B3_0030C8_003200_000003_000028_001100_000029,
  0x003201_000003_000028_001102_000029_003202_000003_000028,
  0x001103_000029_003203_000003_000028_001105_000029_003204,
  0x000003_000028_001106_000029_003205_000003_000028_001107,
  0x000029_003206_000003_000028_001109_000029_003207_000003,
  0x000028_00110B_000029_003208_000003_000028_00110C_000029,
  0x003209_000003_000028_00110E_000029_00320A_000003_000028,
  0x00110F_000029_00320B_000003_000028_001110_000029_00320C,
  0x000003_000028_001111_000029_00320D_000003_000028_001112,
  0x000029_00320E_000003_000028_00AC00_000029_00320F_000003,
  0x000028_00B098_000029_003210_000003_000028_00B2E4_000029,
  0x003211_000003_000028_00B77C_000029_003212_000003_000028,
  0x00B9C8_000029_003213_000003_000028_00BC14_000029_003214,
  0x000003_000028_00C0AC_000029_003215_000003_000028_00C544,
  0x000029_003216_000003_000028_00C790_000029_003217_000003,
  0x000028_00CC28_000029_003218_000003_000028_00CE74_000029,
  0x003219_000003_000028_00D0C0_000029_00321A_000003_000028,
  0x00D30C_000029_00321B_000003_000028_00D558_000029_00321C,
  0x000003_000028_00C8FC_000029_00321D_000004_000028_00C624,
  0x00C804_000029_00321E_000004_000028_00C624_00D6C4_000029,
  0x003220_000003_000028_004E00_000029_003221_000003_000028,
  0x004E8C_000029_003222_000003_000028_004E09_000029_003223,
  0x000003_000028_0056DB_000029_003224_000003_000028_004E94,
  0x000029_003225_000003_000028_00516D_000029_003226_000003,
  0x000028_004E03_000029_003227_000003_000028_00516B_000029,
  0x003228_000003_000028_004E5D_000029_003229_000003_000028,
  0x005341_000029_00322A_000003_000028_006708_000029_00322B,
  0x000003_000028_00706B_000029_00322C_000003_000028_006C34,
  0x000029_00322D_000003_000028_006728_000029_00322E_000003,
  0x000028_0091D1_000029_00322F_000003_000028_00571F_000029,
  0x003230_000003_000028_0065E5_000029_003231_000003_000028,
  0x00682A_000029_003232_000003_000028_006709_000029_003233,
  0x000003_000028_00793E_000029_003234_000003_000028_00540D,
  0x000029_003235_000003_000028_007279_000029_003236_000003,
  0x000028_008CA1_000029_003237_000003_000028_00795D_000029,
  0x003238_000003_000028_0052B4_000029_003239_000003_000028,
  0x004EE3_000029_00323A_000003_000028_00547C_000029_00323B,
  0x000003_000028_005B66_000029_00323C_000003_000028_0076E3,
  0x000029_00323D_000003_000028_004F01_000029_00323E_000003,
  0x000028_008CC7_000029_00323F_000003_000028_005354_000029,
  0x003240_000003_000028_00796D_000029_003241_000003_000028,
  0x004F11_000029_003242_000003_000028_0081EA_000029_003243,
  0x000003_000028_0081F3_000029_003250_000003_000070_000074,
  0x000065_003251_000002_000032_000031_003252_000002_000032,
  0x000032_003253_000002_000032_000033_003254_000002_000032,
  0x000034_003255_000002_000032_000035_003256_000002_000032,
  0x000036_003257_000002_000032_000037_003258_000002_000032,
  0x000038_003259_000002_000032_000039_00325A_000002_000033,
  0x000030_00325B_000002_000033_000031_00325C_000002_000033,
  0x000032_00325D_000002_000033_000033_00325E_000002_000033,
  0x000034_00325F_000002_000033_000035_00327C_000002_00CC38,
  0x00ACE0_00327D_000002_00C8FC_00C758_0032B1_000002_000033,
  0x000036_0032B2_000002_000033_000037_0032B3_000002_000033,
  0x000038_0032B4_000002_000033_000039_0032B5_000002_000034,
  0x000030_0032B6_000002_000034_000031_0032B7_000002_000034,
  0x000032_0032B8_000002_000034_000033_0032B9_000002_000034,
  0x000034_0032BA_000002_000034_000035_0032BB_000002_000034,
  0x000036_0032BC_000002_000034_000037_0032BD_000002_000034,
  0x000038_0032BE_000002_000034_000039_0032BF_000002_000035,
  0x000030_0032C0_000002_000031_006708_0032C1_000002_000032,
  0x006708_0032C2_000002_000033_006708_0032C3_000002_000034,
  0x006708_0032C4_000002_000035_006708_0032C5_000002_000036,
  0x006708_0032C6_000002_000037_006708_0032C7_000002_000038,
  0x006708_0032C8_000002_000039_006708_0032C9_000003_000031,
  0x000030_006708_0032CA_000003_000031_000031_006708_0032CB,
  0x000003_000031_000032_006708_0032CC_000002_000068_000067,
  0x0032CD_000003_000065_000072_000067_0032CE_000002_000065,
  0x000076_0032CF_000003_00006C_000074_000064_0032FF_000002,
  0x004EE4_00548C_003300_000004_0030A2_0030D1_0030FC_0030C8,
  0x003301_000004_0030A2_0030EB_0030D5_0030A1_003302_000004,
  0x0030A2_0030F3_0030DA_0030A2_003303_000003_0030A2_0030FC,
  0x0030EB_003304_000004_0030A4_0030CB_0030F3_0030B0_003305,
  0x000003_0030A4_0030F3_0030C1_003306_000003_0030A6_0030A9,
  0x0030F3_003307_000005_0030A8_0030B9_0030AF_0030FC_0030C9,
  0x003308_000004_0030A8_0030FC_0030AB_0030FC_003309_000003,
  0x0030AA_0030F3_0030B9_00330A_000003_0030AA_0030FC_0030E0,
  0x00330B_000003_0030AB_0030A4_0030EA_00330C_000004_0030AB,
  0x0030E9_0030C3_0030C8_00330D_000004_0030AB_0030ED_0030EA,
  0x0030FC_00330E_000003_0030AC_0030ED_0030F3_00330F_000003,
  0x0030AC_0030F3_0030DE_003310_000002_0030AE_0030AC_003311,
  0x000003_0030AE_0030CB_0030FC_003312_000004_0030AD_0030E5,
  0x0030EA_0030FC_003313_000004_0030AE_0030EB_0030C0_0030FC,
  0x003314_000002_0030AD_0030ED_003315_000005_0030AD_0030ED,
  0x0030B0_0030E9_0030E0_003316_000006_0030AD_0030ED_0030E1,
  0x0030FC_0030C8_0030EB_003317_000005_0030AD_0030ED_0030EF,
  0x0030C3_0030C8_003318_000003_0030B0_0030E9_0030E0_003319,
  0x000005_0030B0_0030E9_0030E0_0030C8_0030F3_00331A_000005,
  0x0030AF_0030EB_0030BC_0030A4_0030ED_00331B_000004_0030AF,
  0x0030ED_0030FC_0030CD_00331C_000003_0030B1_0030FC_0030B9,
  0x00331D_000003_0030B3_0030EB_0030CA_00331E_000003_0030B3,
  0x0030FC_0030DD_00331F_000004_0030B5_0030A4_0030AF_0030EB,
  0x003320_000005_0030B5_0030F3_0030C1_0030FC_0030E0_003321,
  0x000004_0030B7_0030EA_0030F3_0030B0_003322_000003_0030BB,
  0x0030F3_0030C1_003323_000003_0030BB_0030F3_0030C8_003324,
  0x000003_0030C0_0030FC_0030B9_003325_000002_0030C7_0030B7,
  0x003326_000002_0030C9_0030EB_003327_000002_0030C8_0030F3,
  0x003328_000002_0030CA_0030CE_003329_000003_0030CE_0030C3,
  0x0030C8_00332A_000003_0030CF_0030A4_0030C4_00332B_000005,
  0x0030D1_0030FC_0030BB_0030F3_0030C8_00332C_000003_0030D1,
  0x0030FC_0030C4_00332D_000004_0030D0_0030FC_0030EC_0030EB,
  0x00332E_000005_0030D4_0030A2_0030B9_0030C8_0030EB_00332F,
  0x000003_0030D4_0030AF_0030EB_003330_000002_0030D4_0030B3,
  0x003331_000002_0030D3_0030EB_003332_000005_0030D5_0030A1,
  0x0030E9_0030C3_0030C9_003333_000004_0030D5_0030A3_0030FC,
  0x0030C8_003334_000005_0030D6_0030C3_0030B7_0030A7_0030EB,
  0x003335_000003_0030D5_0030E9_0030F3_003336_000005_0030D8,
  0x0030AF_0030BF_0030FC_0030EB_003337_000002_0030DA_0030BD,
  0x003338_000003_0030DA_0030CB_0030D2_003339_000003_0030D8,
  0x0030EB_0030C4_00333A_000003_0030DA_0030F3_0030B9_00333B,
  0x000003_0030DA_0030FC_0030B8_00333C_000003_0030D9_0030FC,
  0x0030BF_00333D_000004_0030DD_0030A4_0030F3_0030C8_00333E,
  0x000003_0030DC_0030EB_0030C8_00333F_000002_0030DB_0030F3,
  0x003340_000003_0030DD_0030F3_0030C9_003341_000003_0030DB,
  0x0030FC_0030EB_003342_000003_0030DB_0030FC_0030F3_003343,
  0x000004_0030DE_0030A4_0030AF_0030ED_003344_000003_0030DE,
  0x0030A4_0030EB_003345_000003_0030DE_0030C3_0030CF_003346,
  0x000003_0030DE_0030EB_0030AF_003347_000005_0030DE_0030F3,
  0x0030B7_0030E7_0030F3_003348_000004_0030DF_0030AF_0030ED,
  0x0030F3_003349_000002_0030DF_0030EA_00334A_000005_0030DF,
  0x0030EA_0030D0_0030FC_0030EB_00334B_000002_0030E1_0030AC,
  0x00334C_000004_0030E1_0030AC_0030C8_0030F3_00334D_000004,
  0x0030E1_0030FC_0030C8_0030EB_00334E_000003_0030E4_0030FC,
  0x0030C9_00334F_000003_0030E4_0030FC_0030EB_003350_000003,
  0x0030E6_0030A2_0030F3_003351_000004_0030EA_0030C3_0030C8,
  0x0030EB_003352_000002_0030EA_0030E9_003353_000003_0030EB,
  0x0030D4_0030FC_003354_000004_0030EB_0030FC_0030D6_0030EB,
  0x003355_000002_0030EC_0030E0_003356_000005_0030EC_0030F3,
  0x0030C8_0030B2_0030F3_003357_000003_0030EF_0030C3_0030C8,
  0x003358_000002_000030_0070B9_003359_000002_000031_0070B9,
  0x00335A_000002_000032_0070B9_00335B_000002_000033_0070B9,
  0x00335C_000002_000034_0070B9_00335D_000002_000035_0070B9,
  0x00335E_000002_000036_0070B9_00335F_000002_000037_0070B9,
  0x003360_000002_000038_0070B9_003361_000002_000039_0070B9,
  0x003362_000003_000031_000030_0070B9_003363_000003_000031,
  0x000031_0070B9_003364_000003_000031_000032_0070B9_003365,
  0x000003_000031_000033_0070B9_003366_000003_000031_000034,
  0x0070B9_003367_000003_000031_000035_0070B9_003368_000003,
  0x000031_000036_0070B9_003369_000003_000031_000037_0070B9,
  0x00336A_000003_000031_000038_0070B9_00336B_000003_000031,
  0x000039_0070B9_00336C_000003_000032_000030_0070B9_00336D,
  0x000003_000032_000031_0070B9_00336E_000003_000032_000032,
  0x0070B9_00336F_000003_000032_000033_0070B9_003370_000003,
  0x000032_000034_0070B9_003371_000003_000068_000070_000061,
  0x003372_000002_000064_000061_003373_000002_000061_000075,
  0x003374_000003_000062_000061_000072_003375_000002_00006F,
  0x000076_003376_000002_000070_000063_003377_000002_000064,
  0x00006D_003378_000003_000064_00006D_000032_003379_000003,
  0x000064_00006D_000033_00337A_000002_000069_000075_00337B,
  0x000002_005E73_006210_00337C_000002_00662D_00548C_00337D,
  0x000002_005927_006B63_00337E_000002_00660E_006CBB_00337F,
  0x000004_00682A_005F0F_004F1A_00793E_003380_000002_000070,
  0x000061_003381_000002_00006E_000061_003382_000002_0003BC,
  0x000061_003383_000002_00006D_000061_003384_000002_00006B,
  0x000061_003385_000002_00006B_000062_003386_000002_00006D,
  0x000062_003387_000002_000067_000062_003388_000003_000063,
  0x000061_00006C_003389_000004_00006B_000063_000061_00006C,
  0x00338A_000002_000070_000066_00338B_000002_00006E_000066,
  0x00338C_000002_0003BC_000066_00338D_000002_0003BC_000067,
  0x00338E_000002_00006D_000067_00338F_000002_00006B_000067,
  0x003390_000002_000068_00007A_003391_000003_00006B_000068,
  0x00007A_003392_000003_00006D_000068_00007A_003393_000003,
  0x000067_000068_00007A_003394_000003_000074_000068_00007A,
  0x003395_000002_0003BC_00006C_003396_000002_00006D_00006C,
  0x003397_000002_000064_00006C_003398_000002_00006B_00006C,
  0x003399_000002_000066_00006D_00339A_000002_00006E_00006D,
  0x00339B_000002_0003BC_00006D_00339C_000002_00006D_00006D,
  0x00339D_000002_000063_00006D_00339E_000002_00006B_00006D,
  0x00339F_000003_00006D_00006D_000032_0033A0_000003_000063,
  0x00006D_000032_0033A1_000002_00006D_000032_0033A2_000003,
  0x00006B_00006D_000032_0033A3_000003_00006D_00006D_000033,
  0x0033A4_000003_000063_00006D_000033_0033A5_000002_00006D,
  0x000033_0033A6_000003_00006B_00006D_000033_0033A7_000003,
  0x00006D_002215_000073_0033A8_000004_00006D_002215_000073,
  0x000032_0033A9_000002_000070_000061_0033AA_000003_00006B,
  0x000070_000061_0033AB_000003_00006D_000070_000061_0033AC,
  0x000003_000067_000070_000061_0033AD_000003_000072_000061,
  0x000064_0033AE_000005_000072_000061_000064_002215_000073,
  0x0033AF_000006_000072_000061_000064_002215_000073_000032,
  0x0033B0_000002_000070_000073_0033B1_000002_00006E_000073,
  0x0033B2_000002_0003BC_000073_0033B3_000002_00006D_000073,
  0x0033B4_000002_000070_000076_0033B5_000002_00006E_000076,
  0x0033B6_000002_0003BC_000076_0033B7_000002_00006D_000076,
  0x0033B8_000002_00006B_000076_0033B9_000002_00006D_000076,
  0x0033BA_000002_000070_000077_0033BB_000002_00006E_000077,
  0x0033BC_000002_0003BC_000077_0033BD_000002_00006D_000077,
  0x0033BE_000002_00006B_000077_0033BF_000002_00006D_000077,
  0x0033C0_000002_00006B_0003C9_0033C1_000002_00006D_0003C9,
  0x0033C3_000002_000062_000071_0033C4_000002_000063_000063,
  0x0033C5_000002_000063_000064_0033C6_000004_000063_002215,
  0x00006B_000067_0033C8_000002_000064_000062_0033C9_000002,
  0x000067_000079_0033CA_000002_000068_000061_0033CB_000002,
  0x000068_000070_0033CC_000002_000069_00006E_0033CD_000002,
  0x00006B_00006B_0033CE_000002_00006B_00006D_0033CF_000002,
  0x00006B_000074_0033D0_000002_00006C_00006D_0033D1_000002,
  0x00006C_00006E_0033D2_000003_00006C_00006F_000067_0033D3,
  0x000002_00006C_000078_0033D4_000002_00006D_000062_0033D5,
  0x000003_00006D_000069_00006C_0033D6_000003_00006D_00006F,
  0x00006C_0033D7_000002_000070_000068_0033D9_000003_000070,
  0x000070_00006D_0033DA_000002_000070_000072_0033DB_000002,
  0x000073_000072_0033DC_000002_000073_000076_0033DD_000002,
  0x000077_000062_0033DE_000003_000076_002215_00006D_0033DF,
  0x000003_000061_002215_00006D_0033E0_000002_000031_0065E5,
  0x0033E1_000002_000032_0065E5_0033E2_000002_000033_0065E5,
  0x0033E3_000002_000034_0065E5_0033E4_000002_000035_0065E5,
  0x0033E5_000002_000036_0065E5_0033E6_000002_000037_0065E5,
  0x0033E7_000002_000038_0065E5_0033E8_000002_000039_0065E5,
  0x0033E9_000003_000031_000030_0065E5_0033EA_000003_000031,
  0x000031_0065E5_0033EB_000003_000031_000032_0065E5_0033EC,
  0x000003_000031_000033_0065E5_0033ED_000003_000031_000034,
  0x0065E5_0033EE_000003_000031_000035_0065E5_0033EF_000003,
  0x000031_000036_0065E5_0033F0_000003_000031_000037_0065E5,
  0x0033F1_000003_000031_000038_0065E5_0033F2_000003_000031,
  0x000039_0065E5_0033F3_000003_000032_000030_0065E5_0033F4,
  0x000003_000032_000031_0065E5_0033F5_000003_000032_000032,
  0x0065E5_0033F6_000003_000032_000033_0065E5_0033F7_000003,
  0x000032_000034_0065E5_0033F8_000003_000032_000035_0065E5,
  0x0033F9_000003_000032_000036_0065E5_0033FA_000003_000032,
  0x000037_0065E5_0033FB_000003_000032_000038_0065E5_0033FC,
  0x000003_000032_000039_0065E5_0033FD_000003_000033_000030,
  0x0065E5_0033FE_000003_000033_000031_0065E5_0033FF_000003,
  0x000067_000061_00006C_00FB00_000002_000066_000066_00FB01,
  0x000002_000066_000069_00FB02_000002_000066_00006C_00FB03,
  0x000003_000066_000066_000069_00FB04_000003_000066_000066,
  0x00006C_00FB05_000002_000073_000074_00FB06_000002_000073,
  0x000074_00FB13_000002_000574_000576_00FB14_000002_000574,
  0x000565_00FB15_000002_000574_00056B_00FB16_000002_00057E,
  0x000576_00FB17_000002_000574_00056D_00FB1D_000002_0005D9,
  0x0005B4_00FB1F_000002_0005F2_0005B7_00FB2A_000002_0005E9,
  0x0005C1_00FB2B_000002_0005E9_0005C2_00FB2C_000003_0005E9,
  0x0005BC_0005C1_00FB2D_000003_0005E9_0005BC_0005C2_00FB2E,
  0x000002_0005D0_0005B7_00FB2F_000002_0005D0_0005B8_00FB30,
  0x000002_0005D0_0005BC_00FB31_000002_0005D1_0005BC_00FB32,
  0x000002_0005D2_0005BC_00FB33_000002_0005D3_0005BC_00FB34,
  0x000002_0005D4_0005BC_00FB35_000002_0005D5_0005BC_00FB36,
  0x000002_0005D6_0005BC_00FB38_000002_0005D8_0005BC_00FB39,
  0x000002_0005D9_0005BC_00FB3A_000002_0005DA_0005BC_00FB3B,
  0x000002_0005DB_0005BC_00FB3C_000002_0005DC_0005BC_00FB3E,
  0x000002_0005DE_0005BC_00FB40_000002_0005E0_0005BC_00FB41,
  0x000002_0005E1_0005BC_00FB43_000002_0005E3_0005BC_00FB44,
  0x000002_0005E4_0005BC_00FB46_000002_0005E6_0005BC_00FB47,
  0x000002_0005E7_0005BC_00FB48_000002_0005E8_0005BC_00FB49,
  0x000002_0005E9_0005BC_00FB4A_000002_0005EA_0005BC_00FB4B,
  0x000002_0005D5_0005B9_00FB4C_000002_0005D1_0005BF_00FB4D,
  0x000002_0005DB_0005BF_00FB4E_000002_0005E4_0005BF_00FB4F,
  0x000002_0005D0_0005DC_00FBDD_000002_0006C7_000674_00FBEA,
  0x000002_000626_000627_00FBEB_000002_000626_000627_00FBEC,
  0x000002_000626_0006D5_00FBED_000002_000626_0006D5_00FBEE,
  0x000002_000626_000648_00FBEF_000002_000626_000648_00FBF0,
  0x000002_000626_0006C7_00FBF1_000002_000626_0006C7_00FBF2,
  0x000002_000626_0006C6_00FBF3_000002_000626_0006C6_00FBF4,
  0x000002_000626_0006C8_00FBF5_000002_000626_0006C8_00FBF6,
  0x000002_000626_0006D0_00FBF7_000002_000626_0006D0_00FBF8,
  0x000002_000626_0006D0_00FBF9_000002_000626_000649_00FBFA,
  0x000002_000626_000649_00FBFB_000002_000626_000649_00FC00,
  0x000002_000626_00062C_00FC01_000002_000626_00062D_00FC02,
  0x000002_000626_000645_00FC03_000002_000626_000649_00FC04,
  0x000002_000626_00064A_00FC05_000002_000628_00062C_00FC06,
  0x000002_000628_00062D_00FC07_000002_000628_00062E_00FC08,
  0x000002_000628_000645_00FC09_000002_000628_000649_00FC0A,
  0x000002_000628_00064A_00FC0B_000002_00062A_00062C_00FC0C,
  0x000002_00062A_00062D_00FC0D_000002_00062A_00062E_00FC0E,
  0x000002_00062A_000645_00FC0F_000002_00062A_000649_00FC10,
  0x000002_00062A_00064A_00FC11_000002_00062B_00062C_00FC12,
  0x000002_00062B_000645_00FC13_000002_00062B_000649_00FC14,
  0x000002_00062B_00064A_00FC15_000002_00062C_00062D_00FC16,
  0x000002_00062C_000645_00FC17_000002_00062D_00062C_00FC18,
  0x000002_00062D_000645_00FC19_000002_00062E_00062C_00FC1A,
  0x000002_00062E_00062D_00FC1B_000002_00062E_000645_00FC1C,
  0x000002_000633_00062C_00FC1D_000002_000633_00062D_00FC1E,
  0x000002_000633_00062E_00FC1F_000002_000633_000645_00FC20,
  0x000002_000635_00062D_00FC21_000002_000635_000645_00FC22,
  0x000002_000636_00062C_00FC23_000002_000636_00062D_00FC24,
  0x000002_000636_00062E_00FC25_000002_000636_000645_00FC26,
  0x000002_000637_00062D_00FC27_000002_000637_000645_00FC28,
  0x000002_000638_000645_00FC29_000002_000639_00062C_00FC2A,
  0x000002_000639_000645_00FC2B_000002_00063A_00062C_00FC2C,
  0x000002_00063A_000645_00FC2D_000002_000641_00062C_00FC2E,
  0x000002_000641_00062D_00FC2F_000002_000641_00062E_00FC30,
  0x000002_000641_000645_00FC31_000002_000641_000649_00FC32,
  0x000002_000641_00064A_00FC33_000002_000642_00062D_00FC34,
  0x000002_000642_000645_00FC35_000002_000642_000649_00FC36,
  0x000002_000642_00064A_00FC37_000002_000643_000627_00FC38,
  0x000002_000643_00062C_00FC39_000002_000643_00062D_00FC3A,
  0x000002_000643_00062E_00FC3B_000002_000643_000644_00FC3C,
  0x000002_000643_000645_00FC3D_000002_000643_000649_00FC3E,
  0x000002_000643_00064A_00FC3F_000002_000644_00062C_00FC40,
  0x000002_000644_00062D_00FC41_000002_000644_00062E_00FC42,
  0x000002_000644_000645_00FC43_000002_000644_000649_00FC44,
  0x000002_000644_00064A_00FC45_000002_000645_00062C_00FC46,
  0x000002_000645_00062D_00FC47_000002_000645_00062E_00FC48,
  0x000002_000645_000645_00FC49_000002_000645_000649_00FC4A,
  0x000002_000645_00064A_00FC4B_000002_000646_00062C_00FC4C,
  0x000002_000646_00062D_00FC4D_000002_000646_00062E_00FC4E,
  0x000002_000646_000645_00FC4F_000002_000646_000649_00FC50,
  0x000002_000646_00064A_00FC51_000002_000647_00062C_00FC52,
  0x000002_000647_000645_00FC53_000002_000647_000649_00FC54,
  0x000002_000647_00064A_00FC55_000002_00064A_00062C_00FC56,
  0x000002_00064A_00062D_00FC57_000002_00064A_00062E_00FC58,
  0x000002_00064A_000645_00FC59_000002_00064A_000649_00FC5A,
  0x000002_00064A_00064A_00FC5B_000002_000630_000670_00FC5C,
  0x000002_000631_000670_00FC5D_000002_000649_000670_00FC5E,
  0x000003_000020_00064C_000651_00FC5F_000003_000020_00064D,
  0x000651_00FC60_000003_000020_00064E_000651_00FC61_000003,
  0x000020_00064F_000651_00FC62_000003_000020_000650_000651,
  0x00FC63_000003_000020_000651_000670_00FC64_000002_000626,
  0x000631_00FC65_000002_000626_000632_00FC66_000002_000626,
  0x000645_00FC67_000002_000626_000646_00FC68_000002_000626,
  0x000649_00FC69_000002_000626_00064A_00FC6A_000002_000628,
  0x000631_00FC6B_000002_000628_000632_00FC6C_000002_000628,
  0x000645_00FC6D_000002_000628_000646_00FC6E_000002_000628,
  0x000649_00FC6F_000002_000628_00064A_00FC70_000002_00062A,
  0x000631_00FC71_000002_00062A_000632_00FC72_000002_00062A,
  0x000645_00FC73_000002_00062A_000646_00FC74_000002_00062A,
  0x000649_00FC75_000002_00062A_00064A_00FC76_000002_00062B,
  0x000631_00FC77_000002_00062B_000632_00FC78_000002_00062B,
  0x000645_00FC79_000002_00062B_000646_00FC7A_000002_00062B,
  0x000649_00FC7B_000002_00062B_00064A_00FC7C_000002_000641,
  0x000649_00FC7D_000002_000641_00064A_00FC7E_000002_000642,
  0x000649_00FC7F_000002_000642_00064A_00FC80_000002_000643,
  0x000627_00FC81_000002_000643_000644_00FC82_000002_000643,
  0x000645_00FC83_000002_000643_000649_00FC84_000002_000643,
  0x00064A_00FC85_000002_000644_000645_00FC86_000002_000644,
  0x000649_00FC87_000002_000644_00064A_00FC88_000002_000645,
  0x000627_00FC89_000002_000645_000645_00FC8A_000002_000646,
  0x000631_00FC8B_000002_000646_000632_00FC8C_000002_000646,
  0x000645_00FC8D_000002_000646_000646_00FC8E_000002_000646,
  0x000649_00FC8F_000002_000646_00064A_00FC90_000002_000649,
  0x000670_00FC91_000002_00064A_000631_00FC92_000002_00064A,
  0x000632_00FC93_000002_00064A_000645_00FC94_000002_00064A,
  0x000646_00FC95_000002_00064A_000649_00FC96_000002_00064A,
  0x00064A_00FC97_000002_000626_00062C_00FC98_000002_000626,
  0x00062D_00FC99_000002_000626_00062E_00FC9A_000002_000626,
  0x000645_00FC9B_000002_000626_000647_00FC9C_000002_000628,
  0x00062C_00FC9D_000002_000628_00062D_00FC9E_000002_000628,
  0x00062E_00FC9F_000002_000628_000645_00FCA0_000002_000628,
  0x000647_00FCA1_000002_00062A_00062C_00FCA2_000002_00062A,
  0x00062D_00FCA3_000002_00062A_00062E_00FCA4_000002_00062A,
  0x000645_00FCA5_000002_00062A_000647_00FCA6_000002_00062B,
  0x000645_00FCA7_000002_00062C_00062D_00FCA8_000002_00062C,
  0x000645_00FCA9_000002_00062D_00062C_00FCAA_000002_00062D,
  0x000645_00FCAB_000002_00062E_00062C_00FCAC_000002_00062E,
  0x000645_00FCAD_000002_000633_00062C_00FCAE_000002_000633,
  0x00062D_00FCAF_000002_000633_00062E_00FCB0_000002_000633,
  0x000645_00FCB1_000002_000635_00062D_00FCB2_000002_000635,
  0x00062E_00FCB3_000002_000635_000645_00FCB4_000002_000636,
  0x00062C_00FCB5_000002_000636_00062D_00FCB6_000002_000636,
  0x00062E_00FCB7_000002_000636_000645_00FCB8_000002_000637,
  0x00062D_00FCB9_000002_000638_000645_00FCBA_000002_000639,
  0x00062C_00FCBB_000002_000639_000645_00FCBC_000002_00063A,
  0x00062C_00FCBD_000002_00063A_000645_00FCBE_000002_000641,
  0x00062C_00FCBF_000002_000641_00062D_00FCC0_000002_000641,
  0x00062E_00FCC1_000002_000641_000645_00FCC2_000002_000642,
  0x00062D_00FCC3_000002_000642_000645_00FCC4_000002_000643,
  0x00062C_00FCC5_000002_000643_00062D_00FCC6_000002_000643,
  0x00062E_00FCC7_000002_000643_000644_00FCC8_000002_000643,
  0x000645_00FCC9_000002_000644_00062C_00FCCA_000002_000644,
  0x00062D_00FCCB_000002_000644_00062E_00FCCC_000002_000644,
  0x000645_00FCCD_000002_000644_000647_00FCCE_000002_000645,
  0x00062C_00FCCF_000002_000645_00062D_00FCD0_000002_000645,
  0x00062E_00FCD1_000002_000645_000645_00FCD2_000002_000646,
  0x00062C_00FCD3_000002_000646_00062D_00FCD4_000002_000646,
  0x00062E_00FCD5_000002_000646_000645_00FCD6_000002_000646,
  0x000647_00FCD7_000002_000647_00062C_00FCD8_000002_000647,
  0x000645_00FCD9_000002_000647_000670_00FCDA_000002_00064A,
  0x00062C_00FCDB_000002_00064A_00062D_00FCDC_000002_00064A,
  0x00062E_00FCDD_000002_00064A_000645_00FCDE_000002_00064A,
  0x000647_00FCDF_000002_000626_000645_00FCE0_000002_000626,
  0x000647_00FCE1_000002_000628_000645_00FCE2_000002_000628,
  0x000647_00FCE3_000002_00062A_000645_00FCE4_000002_00062A,
  0x000647_00FCE5_000002_00062B_000645_00FCE6_000002_00062B,
  0x000647_00FCE7_000002_000633_000645_00FCE8_000002_000633,
  0x000647_00FCE9_000002_000634_000645_00FCEA_000002_000634,
  0x000647_00FCEB_000002_000643_000644_00FCEC_000002_000643,
  0x000645_00FCED_000002_000644_000645_00FCEE_000002_000646,
  0x000645_00FCEF_000002_000646_000647_00FCF0_000002_00064A,
  0x000645_00FCF1_000002_00064A_000647_00FCF2_000003_000640,
  0x00064E_000651_00FCF3_000003_000640_00064F_000651_00FCF4,
  0x000003_000640_000650_000651_00FCF5_000002_000637_000649,
  0x00FCF6_000002_000637_00064A_00FCF7_000002_000639_000649,
  0x00FCF8_000002_000639_00064A_00FCF9_000002_00063A_000649,
  0x00FCFA_000002_00063A_00064A_00FCFB_000002_000633_000649,
  0x00FCFC_000002_000633_00064A_00FCFD_000002_000634_000649,
  0x00FCFE_000002_000634_00064A_00FCFF_000002_00062D_000649,
  0x00FD00_000002_00062D_00064A_00FD01_000002_00062C_000649,
  0x00FD02_000002_00062C_00064A_00FD03_000002_00062E_000649,
  0x00FD04_000002_00062E_00064A_00FD05_000002_000635_000649,
  0x00FD06_000002_000635_00064A_00FD07_000002_000636_000649,
  0x00FD08_000002_000636_00064A_00FD09_000002_000634_00062C,
  0x00FD0A_000002_000634_00062D_00FD0B_000002_000634_00062E,
  0x00FD0C_000002_000634_000645_00FD0D_000002_000634_000631,
  0x00FD0E_000002_000633_000631_00FD0F_000002_000635_000631,
  0x00FD10_000002_000636_000631_00FD11_000002_000637_000649,
  0x00FD12_000002_000637_00064A_00FD13_000002_000639_000649,
  0x00FD14_000002_000639_00064A_00FD15_000002_00063A_000649,
  0x00FD16_000002_00063A_00064A_00FD17_000002_000633_000649,
  0x00FD18_000002_000633_00064A_00FD19_000002_000634_000649,
  0x00FD1A_000002_000634_00064A_00FD1B_000002_00062D_000649,
  0x00FD1C_000002_00062D_00064A_00FD1D_000002_00062C_000649,
  0x00FD1E_000002_00062C_00064A_00FD1F_000002_00062E_000649,
  0x00FD20_000002_00062E_00064A_00FD21_000002_000635_000649,
  0x00FD22_000002_000635_00064A_00FD23_000002_000636_000649,
  0x00FD24_000002_000636_00064A_00FD25_000002_000634_00062C,
  0x00FD26_000002_000634_00062D_00FD27_000002_000634_00062E,
  0x00FD28_000002_000634_000645_00FD29_000002_000634_000631,
  0x00FD2A_000002_000633_000631_00FD2B_000002_000635_000631,
  0x00FD2C_000002_000636_000631_00FD2D_000002_000634_00062C,
  0x00FD2E_000002_000634_00062D_00FD2F_000002_000634_00062E,
  0x00FD30_000002_000634_000645_00FD31_000002_000633_000647,
  0x00FD32_000002_000634_000647_00FD33_000002_000637_000645,
  0x00FD34_000002_000633_00062C_00FD35_000002_000633_00062D,
  0x00FD36_000002_000633_00062E_00FD37_000002_000634_00062C,
  0x00FD38_000002_000634_00062D_00FD39_000002_000634_00062E,
  0x00FD3A_000002_000637_000645_00FD3B_000002_000638_000645,
  0x00FD3C_000002_000627_00064B_00FD3D_000002_000627_00064B,
  0x00FD50_000003_00062A_00062C_000645_00FD51_000003_00062A,
  0x00062D_00062C_00FD52_000003_00062A_00062D_00062C_00FD53,
  0x000003_00062A_00062D_000645_00FD54_000003_00062A_00062E,
  0x000645_00FD55_000003_00062A_000645_00062C_00FD56_000003,
  0x00062A_000645_00062D_00FD57_000003_00062A_000645_00062E,
  0x00FD58_000003_00062C_000645_00062D_00FD59_000003_00062C,
  0x000645_00062D_00FD5A_000003_00062D_000645_00064A_00FD5B,
  0x000003_00062D_000645_000649_00FD5C_000003_000633_00062D,
  0x00062C_00FD5D_000003_000633_00062C_00062D_00FD5E_000003,
  0x000633_00062C_000649_00FD5F_000003_000633_000645_00062D,
  0x00FD60_000003_000633_000645_00062D_00FD61_000003_000633,
  0x000645_00062C_00FD62_000003_000633_000645_000645_00FD63,
  0x000003_000633_000645_000645_00FD64_000003_000635_00062D,
  0x00062D_00FD65_000003_000635_00062D_00062D_00FD66_000003,
  0x000635_000645_000645_00FD67_000003_000634_00062D_000645,
  0x00FD68_000003_000634_00062D_000645_00FD69_000003_000634,
  0x00062C_00064A_00FD6A_000003_000634_000645_00062E_00FD6B,
  0x000003_000634_000645_00062E_00FD6C_000003_000634_000645,
  0x000645_00FD6D_000003_000634_000645_000645_00FD6E_000003,
  0x000636_00062D_000649_00FD6F_000003_000636_00062E_000645,
  0x00FD70_000003_000636_00062E_000645_00FD71_000003_000637,
  0x000645_00062D_00FD72_000003_000637_000645_00062D_00FD73,
  0x000003_000637_000645_000645_00FD74_000003_000637_000645,
  0x00064A_00FD75_000003_000639_00062C_000645_00FD76_000003,
  0x000639_000645_000645_00FD77_000003_000639_000645_000645,
  0x00FD78_000003_000639_000645_000649_00FD79_000003_00063A,
  0x000645_000645_00FD7A_000003_00063A_000645_00064A_00FD7B,
  0x000003_00063A_000645_000649_00FD7C_000003_000641_00062E,
  0x000645_00FD7D_000003_000641_00062E_000645_00FD7E_000003,
  0x000642_000645_00062D_00FD7F_000003_000642_000645_000645,
  0x00FD80_000003_000644_00062D_000645_00FD81_000003_000644,
  0x00062D_00064A_00FD82_000003_000644_00062D_000649_00FD83,
  0x000003_000644_00062C_00062C_00FD84_000003_000644_00062C,
  0x00062C_00FD85_000003_000644_00062E_000645_00FD86_000003,
  0x000644_00062E_000645_00FD87_000003_000644_000645_00062D,
  0x00FD88_000003_000644_000645_00062D_00FD89_000003_000645,
  0x00062D_00062C_00FD8A_000003_000645_00062D_000645_00FD8B,
  0x000003_000645_00062D_00064A_00FD8C_000003_000645_00062C,
  0x00062D_00FD8D_000003_000645_00062C_000645_00FD8E_000003,
  0x000645_00062E_00062C_00FD8F_000003_000645_00062E_000645,
  0x00FD92_000003_000645_00062C_00062E_00FD93_000003_000647,
  0x000645_00062C_00FD94_000003_000647_000645_000645_00FD95,
  0x000003_000646_00062D_000645_00FD96_000003_000646_00062D,
  0x000649_00FD97_000003_000646_00062C_000645_00FD98_000003,
  0x000646_00062C_000645_00FD99_000003_000646_00062C_000649,
  0x00FD9A_000003_000646_000645_00064A_00FD9B_000003_000646,
  0x000645_000649_00FD9C_000003_00064A_000645_000645_00FD9D,
  0x000003_00064A_000645_000645_00FD9E_000003_000628_00062E,
  0x00064A_00FD9F_000003_00062A_00062C_00064A_00FDA0_000003,
  0x00062A_00062C_000649_00FDA1_000003_00062A_00062E_00064A,
  0x00FDA2_000003_00062A_00062E_000649_00FDA3_000003_00062A,
  0x000645_00064A_00FDA4_000003_00062A_000645_000649_00FDA5,
  0x000003_00062C_000645_00064A_00FDA6_000003_00062C_00062D,
  0x000649_00FDA7_000003_00062C_000645_000649_00FDA8_000003,
  0x000633_00062E_000649_00FDA9_000003_000635_00062D_00064A,
  0x00FDAA_000003_000634_00062D_00064A_00FDAB_000003_000636,
  0x00062D_00064A_00FDAC_000003_000644_00062C_00064A_00FDAD,
  0x000003_000644_000645_00064A_00FDAE_000003_00064A_00062D,
  0x00064A_00FDAF_000003_00064A_00062C_00064A_00FDB0_000003,
  0x00064A_000645_00064A_00FDB1_000003_000645_000645_00064A,
  0x00FDB2_000003_000642_000645_00064A_00FDB3_000003_000646,
  0x00062D_00064A_00FDB4_000003_000642_000645_00062D_00FDB5,
  0x000003_000644_00062D_000645_00FDB6_000003_000639_000645,
  0x00064A_00FDB7_000003_000643_000645_00064A_00FDB8_000003,
  0x000646_00062C_00062D_00FDB9_000003_000645_00062E_00064A,
  0x00FDBA_000003_000644_00062C_000645_00FDBB_000003_000643,
  0x000645_000645_00FDBC_000003_000644_00062C_000645_00FDBD,
  0x000003_000646_00062C_00062D_00FDBE_000003_00062C_00062D,
  0x00064A_00FDBF_000003_00062D_00062C_00064A_00FDC0_000003,
  0x000645_00062C_00064A_00FDC1_000003_000641_000645_00064A,
  0x00FDC2_000003_000628_00062D_00064A_00FDC3_000003_000643,
  0x000645_000645_00FDC4_000003_000639_00062C_000645_00FDC5,
  0x000003_000635_000645_000645_00FDC6_000003_000633_00062E,
  0x00064A_00FDC7_000003_000646_00062C_00064A_00FDF0_000003,
  0x000635_000644_0006D2_00FDF1_000003_000642_000644_0006D2,
  0x00FDF2_000004_000627_000644_000644_000647_00FDF3_000004,
  0x000627_000643_000628_000631_00FDF4_000004_000645_00062D,
  0x000645_00062F_00FDF5_000004_000635_000644_000639_000645,
  0x00FDF6_000004_000631_000633_000648_000644_00FDF7_000004,
  0x000639_000644_00064A_000647_00FDF8_000004_000648_000633,
  0x000644_000645_00FDF9_000003_000635_000644_000649_00FDFA,
  0x000012_000635_000644_000649_000020_000627_000644_000644,
  0x000647_000020_000639_000644_00064A_000647_000020_000648,
  0x000633_000644_000645_00FDFB_000008_00062C_000644_000020,
  0x00062C_000644_000627_000644_000647_00FDFC_000004_000631,
  0x0006CC_000627_000644_00FE49_000002_000020_000305_00FE4A,
  0x000002_000020_000305_00FE4B_000002_000020_000305_00FE4C,
  0x000002_000020_000305_00FE70_000002_000020_00064B_00FE71,
  0x000002_000640_00064B_00FE72_000002_000020_00064C_00FE74,
  0x000002_000020_00064D_00FE76_000002_000020_00064E_00FE77,
  0x000002_000640_00064E_00FE78_000002_000020_00064F_00FE79,
  0x000002_000640_00064F_00FE7A_000002_000020_000650_00FE7B,
  0x000002_000640_000650_00FE7C_000002_000020_000651_00FE7D,
  0x000002_000640_000651_00FE7E_000002_000020_000652_00FE7F,
  0x000002_000640_000652_00FEF5_000002_000644_000622_00FEF6,
  0x000002_000644_000622_00FEF7_000002_000644_000623_00FEF8,
  0x000002_000644_000623_00FEF9_000002_000644_000625_00FEFA,
  0x000002_000644_000625_00FEFB_000002_000644_000627_00FEFC,
  0x000002_000644_000627_00FFE3_000002_000020_000304_01D15E,
  0x000002_01D157_01D165_01D15F_000002_01D158_01D165_01D160,
  0x000003_01D158_01D165_01D16E_01D161_000003_01D158_01D165,
  0x01D16F_01D162_000003_01D158_01D165_01D170_01D163_000003,
  0x01D158_01D165_01D171_01D164_000003_01D158_01D165_01D172,
  0x01D1BB_000002_01D1B9_01D165_01D1BC_000002_01D1BA_01D165,
  0x01D1BD_000003_01D1B9_01D165_01D16E_01D1BE_000003_01D1BA,
  0x01D165_01D16E_01D1BF_000003_01D1B9_01D165_01D16F_01D1C0,
  0x000003_01D1BA_01D165_01D16F_01F101_000002_000030_00002C,
  0x01F102_000002_000031_00002C_01F103_000002_000032_00002C,
  0x01F104_000002_000033_00002C_01F105_000002_000034_00002C,
  0x01F106_000002_000035_00002C_01F107_000002_000036_00002C,
  0x01F108_000002_000037_00002C_01F109_000002_000038_00002C,
  0x01F10A_000002_000039_00002C_01F110_000003_000028_000061,
  0x000029_01F111_000003_000028_000062_000029_01F112_000003,
  0x000028_000063_000029_01F113_000003_000028_000064_000029,
  0x01F114_000003_000028_000065_000029_01F115_000003_000028,
  0x000066_000029_01F116_000003_000028_000067_000029_01F117,
  0x000003_000028_000068_000029_01F118_000003_000028_000069,
  0x000029_01F119_000003_000028_00006A_000029_01F11A_000003,
  0x000028_00006B_000029_01F11B_000003_000028_00006C_000029,
  0x01F11C_000003_000028_00006D_000029_01F11D_000003_000028,
  0x00006E_000029_01F11E_000003_000028_00006F_000029_01F11F,
  0x000003_000028_000070_000029_01F120_000003_000028_000071,
  0x000029_01F121_000003_000028_000072_000029_01F122_000003,
  0x000028_000073_000029_01F123_000003_000028_000074_000029,
  0x01F124_000003_000028_000075_000029_01F125_000003_000028,
  0x000076_000029_01F126_000003_000028_000077_000029_01F127,
  0x000003_000028_000078_000029_01F128_000003_000028_000079,
  0x000029_01F129_000003_000028_00007A_000029_01F12A_000003,
  0x003014_000073_003015_01F12D_000002_000063_000064_01F12E,
  0x000002_000077_00007A_01F14A_000002_000068_000076_01F14B,
  0x000002_00006D_000076_01F14C_000002_000073_000064_01F14D,
  0x000002_000073_000073_01F14E_000003_000070_000070_000076,
  0x01F14F_000002_000077_000063_01F16A_000002_00006D_000063,
  0x01F16B_000002_00006D_000064_01F16C_000002_00006D_000072,
  0x01F190_000002_000064_00006A_01F200_000002_00307B_00304B,
  0x01F201_000002_0030B3_0030B3_01F240_000003_003014_00672C,
  0x003015_01F241_000003_003014_004E09_003015_01F242_000003,
  0x003014_004E8C_003015_01F243_000003_003014_005B89_003015,
  0x01F244_000003_003014_0070B9_003015_01F245_000003_003014,
  0x006253_003015_01F246_000003_003014_0076D7_003015_01F247,
  0x000003_003014_0052DD_003015_01F248_000003_003014_006557,
  0x003015_110000_110000_110000_110000_110000_110000_110000]

end LinkedShapes.Unicode
