import LinkedShapes.Unicode.CodePoints

/-!
# Scripts

The code points whose Script property is the one a set is named for.
-/

namespace LinkedShapes.Unicode

/-- The script Adlam. -/
def scriptAdlam : CodePoints := .ofRows [
  0x01E900_01E94C_01E950_01E95A_01E95E_01E960_110000_110000]

/-- The script Ahom. -/
def scriptAhom : CodePoints := .ofRows [
  0x011700_01171B_01171D_01172C_011730_011747_110000_110000]

/-- The script Anatolian Hieroglyphs. -/
def scriptAnatolianHieroglyphs : CodePoints := .ofRows [
  0x014400_014647_110000_110000_110000_110000_110000_110000]

/-- The script Arabic. -/
def scriptArabic : CodePoints := .ofRows [
  0x000600_000605_000606_00060C_00060D_00061B_00061C_00061F,
  0x000620_000640_000641_00064B_000656_000670_000671_0006DD,
  0x0006DE_000700_000750_000780_000870_000892_000897_0008E2,
  0x0008E3_000900_00FB50_00FD3E_00FD40_00FDD0_00FDF0_00FE00,
  0x00FE70_00FE75_00FE76_00FEFD_010E60_010E7F_010EC2_010EC8,
  0x010ED0_010ED9_010EFA_010F00_01EE00_01EE04_01EE05_01EE20,
  0x01EE21_01EE23_01EE24_01EE25_01EE27_01EE28_01EE29_01EE33,
  0x01EE34_01EE38_01EE39_01EE3A_01EE3B_01EE3C_01EE42_01EE43,
  0x01EE47_01EE48_01EE49_01EE4A_01EE4B_01EE4C_01EE4D_01EE50,
  0x01EE51_01EE53_01EE54_01EE55_01EE57_01EE58_01EE59_01EE5A,
  0x01EE5B_01EE5C_01EE5D_01EE5E_01EE5F_01EE60_01EE61_01EE63,
  0x01EE64_01EE65_01EE67_01EE6B_01EE6C_01EE73_01EE74_01EE78,
  0x01EE79_01EE7D_01EE7E_01EE7F_01EE80_01EE8A_01EE8B_01EE9C,
  0x01EEA1_01EEA4_01EEA5_01EEAA_01EEAB_01EEBC_01EEF0_01EEF2]

/-- The script Armenian. -/
def scriptArmenian : CodePoints := .ofRows [
  0x000531_000557_000559_00058B_00058D_000590_00FB13_00FB18]

/-- The script Avestan. -/
def scriptAvestan : CodePoints := .ofRows [
  0x010B00_010B36_010B39_010B40_110000_110000_110000_110000]

/-- The script Balinese. -/
def scriptBalinese : CodePoints := .ofRows [
  0x001B00_001B4D_001B4E_001B80_110000_110000_110000_110000]

/-- The script Bamum. -/
def scriptBamum : CodePoints := .ofRows [
  0x00A6A0_00A6F8_016800_016A39_110000_110000_110000_110000]

/-- The script Bassa Vah. -/
def scriptBassaVah : CodePoints := .ofRows [
  0x016AD0_016AEE_016AF0_016AF6_110000_110000_110000_110000]

/-- The script Batak. -/
def scriptBatak : CodePoints := .ofRows [
  0x001BC0_001BF4_001BFC_001C00_110000_110000_110000_110000]

/-- The script Bengali. -/
def scriptBengali : CodePoints := .ofRows [
  0x000980_000984_000985_00098D_00098F_000991_000993_0009A9,
  0x0009AA_0009B1_0009B2_0009B3_0009B6_0009BA_0009BC_0009C5,
  0x0009C7_0009C9_0009CB_0009CF_0009D7_0009D8_0009DC_0009DE,
  0x0009DF_0009E4_0009E6_0009FF_110000_110000_110000_110000]

/-- The script Bhaiksuki. -/
def scriptBhaiksuki : CodePoints := .ofRows [
  0x011C00_011C09_011C0A_011C37_011C38_011C46_011C50_011C6D]

/-- The script Bopomofo. -/
def scriptBopomofo : CodePoints := .ofRows [
  0x0002EA_0002EC_003105_003130_0031A0_0031C0_110000_110000]

/-- The script Brahmi. -/
def scriptBrahmi : CodePoints := .ofRows [
  0x011000_01104E_011052_011076_01107F_011080_110000_110000]

/-- The script Braille. -/
def scriptBraille : CodePoints := .ofRows [
  0x002800_002900_110000_110000_110000_110000_110000_110000]

/-- The script Buginese. -/
def scriptBuginese : CodePoints := .ofRows [
  0x001A00_001A1C_001A1E_001A20_110000_110000_110000_110000]

/-- The script Buhid. -/
def scriptBuhid : CodePoints := .ofRows [
  0x001740_001754_110000_110000_110000_110000_110000_110000]

/-- The script Canadian Aboriginal. -/
def scriptCanadianAboriginal : CodePoints := .ofRows [
  0x001400_001680_0018B0_0018F6_011AB0_011AC0_110000_110000]

/-- The script Carian. -/
def scriptCarian : CodePoints := .ofRows [
  0x0102A0_0102D1_110000_110000_110000_110000_110000_110000]

/-- The script Caucasian Albanian. -/
def scriptCaucasianAlbanian : CodePoints := .ofRows [
  0x010530_010564_01056F_010570_110000_110000_110000_110000]

/-- The script Chakma. -/
def scriptChakma : CodePoints := .ofRows [
  0x011100_011135_011136_011148_110000_110000_110000_110000]

/-- The script Cham. -/
def scriptCham : CodePoints := .ofRows [
  0x00AA00_00AA37_00AA40_00AA4E_00AA50_00AA5A_00AA5C_00AA60]

/-- The script Cherokee. -/
def scriptCherokee : CodePoints := .ofRows [
  0x0013A0_0013F6_0013F8_0013FE_00AB70_00ABC0_110000_110000]

/-- The script Chorasmian. -/
def scriptChorasmian : CodePoints := .ofRows [
  0x010FB0_010FCC_110000_110000_110000_110000_110000_110000]

/-- The script Common. -/
def scriptCommon : CodePoints := .ofRows [
  0x000000_000041_00005B_000061_00007B_0000AA_0000AB_0000BA,
  0x0000BB_0000C0_0000D7_0000D8_0000F7_0000F8_0002B9_0002E0,
  0x0002E5_0002EA_0002EC_000300_000374_000375_00037E_00037F,
  0x000385_000386_000387_000388_000605_000606_00060C_00060D,
  0x00061B_00061C_00061F_000620_000640_000641_0006DD_0006DE,
  0x0008E2_0008E3_000964_000966_000E3F_000E40_000FD5_000FD9,
  0x0010FB_0010FC_0016EB_0016EE_001735_001737_001802_001804,
  0x001805_001806_001CD3_001CD4_001CE1_001CE2_001CE9_001CED,
  0x001CEE_001CF4_001CF5_001CF8_001CFA_001CFB_002000_00200C,
  0x00200E_002065_002066_002071_002074_00207F_002080_00208F,
  0x0020A0_0020C2_002100_002126_002127_00212A_00212C_002132,
  0x002133_00214E_00214F_002160_002189_00218C_002190_00242A,
  0x002440_00244B_002460_002800_002900_002B74_002B76_002C00,
  0x002E00_002E5E_002FF0_003005_003006_003007_003008_003021,
  0x003030_003038_00303C_003040_00309B_00309D_0030A0_0030A1,
  0x0030FB_0030FD_003190_0031A0_0031C0_0031E6_0031EF_0031F0,
  0x003220_003260_00327F_0032D0_0032FF_003300_003358_003400,
  0x004DC0_004E00_00A700_00A722_00A788_00A78B_00A830_00A83A,
  0x00A92E_00A92F_00A9CF_00A9D0_00AB5B_00AB5C_00AB6A_00AB6C,
  0x00FD3E_00FD40_00FE10_00FE1A_00FE30_00FE53_00FE54_00FE67,
  0x00FE68_00FE6C_00FEFF_00FF00_00FF01_00FF21_00FF3B_00FF41,
  0x00FF5B_00FF66_00FF70_00FF71_00FF9E_00FFA0_00FFE0_00FFE7,
  0x00FFE8_00FFEF_00FFF9_00FFFE_010100_010103_010107_010134,
  0x010137_010140_010190_01019D_0101D0_0101FD_0102E1_0102FC,
  0x01BCA0_01BCA4_01CC00_01CCFD_01CD00_01CEB4_01CEBA_01CED1,
  0x01CEE0_01CEF1_01CF50_01CFC4_01D000_01D0F6_01D100_01D127,
  0x01D129_01D167_01D16A_01D17B_01D183_01D185_01D18C_01D1AA,
  0x01D1AE_01D1EB_01D2C0_01D2D4_01D2E0_01D2F4_01D300_01D357,
  0x01D360_01D379_01D400_01D455_01D456_01D49D_01D49E_01D4A0,
  0x01D4A2_01D4A3_01D4A5_01D4A7_01D4A9_01D4AD_01D4AE_01D4BA,
  0x01D4BB_01D4BC_01D4BD_01D4C4_01D4C5_01D506_01D507_01D50B,
  0x01D50D_01D515_01D516_01D51D_01D51E_01D53A_01D53B_01D53F,
  0x01D540_01D545_01D546_01D547_01D54A_01D551_01D552_01D6A6,
  0x01D6A8_01D7CC_01D7CE_01D800_01EC71_01ECB5_01ED01_01ED3E,
  0x01F000_01F02C_01F030_01F094_01F0A0_01F0AF_01F0B1_01F0C0,
  0x01F0C1_01F0D0_01F0D1_01F0F6_01F100_01F1AE_01F1E6_01F200,
  0x01F201_01F203_01F210_01F23C_01F240_01F249_01F250_01F252,
  0x01F260_01F266_01F300_01F6D9_01F6DC_01F6ED_01F6F0_01F6FD,
  0x01F700_01F7DA_01F7E0_01F7EC_01F7F0_01F7F1_01F800_01F80C,
  0x01F810_01F848_01F850_01F85A_01F860_01F888_01F890_01F8AE,
  0x01F8B0_01F8BC_01F8C0_01F8C2_01F8D0_01F8D9_01F900_01FA58,
  0x01FA60_01FA6E_01FA70_01FA7D_01FA80_01FA8B_01FA8E_01FAC7,
  0x01FAC8_01FAC9_01FACD_01FADD_01FADF_01FAEB_01FAEF_01FAF9,
  0x01FB00_01FB93_01FB94_01FBFB_0E0001_0E0002_0E0020_0E0080]

/-- The script Coptic. -/
def scriptCoptic : CodePoints := .ofRows [
  0x0003E2_0003F0_002C80_002CF4_002CF9_002D00_110000_110000]

/-- The script Cuneiform. -/
def scriptCuneiform : CodePoints := .ofRows [
  0x012000_01239A_012400_01246F_012470_012475_012480_012544]

/-- The script Cypriot. -/
def scriptCypriot : CodePoints := .ofRows [
  0x010800_010806_010808_010809_01080A_010836_010837_010839,
  0x01083C_01083D_01083F_010840_110000_110000_110000_110000]

/-- The script Cypro Minoan. -/
def scriptCyproMinoan : CodePoints := .ofRows [
  0x012F90_012FF3_110000_110000_110000_110000_110000_110000]

/-- The script Cyrillic. -/
def scriptCyrillic : CodePoints := .ofRows [
  0x000400_000485_000487_000530_001C80_001C8B_001D2B_001D2C,
  0x001D78_001D79_002DE0_002E00_00A640_00A6A0_00FE2E_00FE30,
  0x01E030_01E06E_01E08F_01E090_110000_110000_110000_110000]

/-- The script Deseret. -/
def scriptDeseret : CodePoints := .ofRows [
  0x010400_010450_110000_110000_110000_110000_110000_110000]

/-- The script Devanagari. -/
def scriptDevanagari : CodePoints := .ofRows [
  0x000900_000951_000955_000964_000966_000980_00A8E0_00A900,
  0x011B00_011B0A_110000_110000_110000_110000_110000_110000]

/-- The script Dives Akuru. -/
def scriptDivesAkuru : CodePoints := .ofRows [
  0x011900_011907_011909_01190A_01190C_011914_011915_011917,
  0x011918_011936_011937_011939_01193B_011947_011950_01195A]

/-- The script Dogra. -/
def scriptDogra : CodePoints := .ofRows [
  0x011800_01183C_110000_110000_110000_110000_110000_110000]

/-- The script Duployan. -/
def scriptDuployan : CodePoints := .ofRows [
  0x01BC00_01BC6B_01BC70_01BC7D_01BC80_01BC89_01BC90_01BC9A,
  0x01BC9C_01BCA0_110000_110000_110000_110000_110000_110000]

/-- The script Egyptian Hieroglyphs. -/
def scriptEgyptianHieroglyphs : CodePoints := .ofRows [
  0x013000_013456_013460_0143FB_110000_110000_110000_110000]

/-- The script Elbasan. -/
def scriptElbasan : CodePoints := .ofRows [
  0x010500_010528_110000_110000_110000_110000_110000_110000]

/-- The script Elymaic. -/
def scriptElymaic : CodePoints := .ofRows [
  0x010FE0_010FF7_110000_110000_110000_110000_110000_110000]

/-- The script Ethiopic. -/
def scriptEthiopic : CodePoints := .ofRows [
  0x001200_001249_00124A_00124E_001250_001257_001258_001259,
  0x00125A_00125E_001260_001289_00128A_00128E_001290_0012B1,
  0x0012B2_0012B6_0012B8_0012BF_0012C0_0012C1_0012C2_0012C6,
  0x0012C8_0012D7_0012D8_001311_001312_001316_001318_00135B,
  0x00135D_00137D_001380_00139A_002D80_002D97_002DA0_002DA7,
  0x002DA8_002DAF_002DB0_002DB7_002DB8_002DBF_002DC0_002DC7,
  0x002DC8_002DCF_002DD0_002DD7_002DD8_002DDF_00AB01_00AB07,
  0x00AB09_00AB0F_00AB11_00AB17_00AB20_00AB27_00AB28_00AB2F,
  0x01E7E0_01E7E7_01E7E8_01E7EC_01E7ED_01E7EF_01E7F0_01E7FF]

/-- The script Garay. -/
def scriptGaray : CodePoints := .ofRows [
  0x010D40_010D66_010D69_010D86_010D8E_010D90_110000_110000]

/-- The script Georgian. -/
def scriptGeorgian : CodePoints := .ofRows [
  0x0010A0_0010C6_0010C7_0010C8_0010CD_0010CE_0010D0_0010FB,
  0x0010FC_001100_001C90_001CBB_001CBD_001CC0_002D00_002D26,
  0x002D27_002D28_002D2D_002D2E_110000_110000_110000_110000]

/-- The script Glagolitic. -/
def scriptGlagolitic : CodePoints := .ofRows [
  0x002C00_002C60_01E000_01E007_01E008_01E019_01E01B_01E022,
  0x01E023_01E025_01E026_01E02B_110000_110000_110000_110000]

/-- The script Gothic. -/
def scriptGothic : CodePoints := .ofRows [
  0x010330_01034B_110000_110000_110000_110000_110000_110000]

/-- The script Grantha. -/
def scriptGrantha : CodePoints := .ofRows [
  0x011300_011304_011305_01130D_01130F_011311_011313_011329,
  0x01132A_011331_011332_011334_011335_01133A_01133C_011345,
  0x011347_011349_01134B_01134E_011350_011351_011357_011358,
  0x01135D_011364_011366_01136D_011370_011375_110000_110000]

/-- The script Greek. -/
def scriptGreek : CodePoints := .ofRows [
  0x000370_000374_000375_000378_00037A_00037E_00037F_000380,
  0x000384_000385_000386_000387_000388_00038B_00038C_00038D,
  0x00038E_0003A2_0003A3_0003E2_0003F0_000400_001D26_001D2B,
  0x001D5D_001D62_001D66_001D6B_001DBF_001DC0_001F00_001F16,
  0x001F18_001F1E_001F20_001F46_001F48_001F4E_001F50_001F58,
  0x001F59_001F5A_001F5B_001F5C_001F5D_001F5E_001F5F_001F7E,
  0x001F80_001FB5_001FB6_001FC5_001FC6_001FD4_001FD6_001FDC,
  0x001FDD_001FF0_001FF2_001FF5_001FF6_001FFF_002126_002127,
  0x00AB65_00AB66_010140_01018F_0101A0_0101A1_01D200_01D246]

/-- The script Gujarati. -/
def scriptGujarati : CodePoints := .ofRows [
  0x000A81_000A84_000A85_000A8E_000A8F_000A92_000A93_000AA9,
  0x000AAA_000AB1_000AB2_000AB4_000AB5_000ABA_000ABC_000AC6,
  0x000AC7_000ACA_000ACB_000ACE_000AD0_000AD1_000AE0_000AE4,
  0x000AE6_000AF2_000AF9_000B00_110000_110000_110000_110000]

/-- The script Gunjala Gondi. -/
def scriptGunjalaGondi : CodePoints := .ofRows [
  0x011D60_011D66_011D67_011D69_011D6A_011D8F_011D90_011D92,
  0x011D93_011D99_011DA0_011DAA_110000_110000_110000_110000]

/-- The script Gurmukhi. -/
def scriptGurmukhi : CodePoints := .ofRows [
  0x000A01_000A04_000A05_000A0B_000A0F_000A11_000A13_000A29,
  0x000A2A_000A31_000A32_000A34_000A35_000A37_000A38_000A3A,
  0x000A3C_000A3D_000A3E_000A43_000A47_000A49_000A4B_000A4E,
  0x000A51_000A52_000A59_000A5D_000A5E_000A5F_000A66_000A77]

/-- The script Gurung Khema. -/
def scriptGurungKhema : CodePoints := .ofRows [
  0x016100_01613A_110000_110000_110000_110000_110000_110000]

/-- The script Han. -/
def scriptHan : CodePoints := .ofRows [
  0x002E80_002E9A_002E9B_002EF4_002F00_002FD6_003005_003006,
  0x003007_003008_003021_00302A_003038_00303C_003400_004DC0,
  0x004E00_00A000_00F900_00FA6E_00FA70_00FADA_016FE2_016FE4,
  0x016FF0_016FF7_020000_02A6E0_02A700_02B81E_02B820_02CEAE,
  0x02CEB0_02EBE1_02EBF0_02EE5E_02F800_02FA1E_030000_03134B,
  0x031350_03347A_110000_110000_110000_110000_110000_110000]

/-- The script Hangul. -/
def scriptHangul : CodePoints := .ofRows [
  0x001100_001200_00302E_003030_003131_00318F_003200_00321F,
  0x003260_00327F_00A960_00A97D_00AC00_00D7A4_00D7B0_00D7C7,
  0x00D7CB_00D7FC_00FFA0_00FFBF_00FFC2_00FFC8_00FFCA_00FFD0,
  0x00FFD2_00FFD8_00FFDA_00FFDD_110000_110000_110000_110000]

/-- The script Hanifi Rohingya. -/
def scriptHanifiRohingya : CodePoints := .ofRows [
  0x010D00_010D28_010D30_010D3A_110000_110000_110000_110000]

/-- The script Hanunoo. -/
def scriptHanunoo : CodePoints := .ofRows [
  0x001720_001735_110000_110000_110000_110000_110000_110000]

/-- The script Hatran. -/
def scriptHatran : CodePoints := .ofRows [
  0x0108E0_0108F3_0108F4_0108F6_0108FB_010900_110000_110000]

/-- The script Hebrew. -/
def scriptHebrew : CodePoints := .ofRows [
  0x000591_0005C8_0005D0_0005EB_0005EF_0005F5_00FB1D_00FB37,
  0x00FB38_00FB3D_00FB3E_00FB3F_00FB40_00FB42_00FB43_00FB45,
  0x00FB46_00FB50_110000_110000_110000_110000_110000_110000]

/-- The script Hiragana. -/
def scriptHiragana : CodePoints := .ofRows [
  0x003041_003097_00309D_0030A0_01B001_01B120_01B132_01B133,
  0x01B150_01B153_01F200_01F201_110000_110000_110000_110000]

/-- The script Imperial Aramaic. -/
def scriptImperialAramaic : CodePoints := .ofRows [
  0x010840_010856_010857_010860_110000_110000_110000_110000]

/-- The script Inherited. -/
def scriptInherited : CodePoints := .ofRows [
  0x000300_000370_000485_000487_00064B_000656_000670_000671,
  0x000951_000955_001AB0_001ADE_001AE0_001AEC_001CD0_001CD3,
  0x001CD4_001CE1_001CE2_001CE9_001CED_001CEE_001CF4_001CF5,
  0x001CF8_001CFA_001DC0_001E00_00200C_00200E_0020D0_0020F1,
  0x00302A_00302E_003099_00309B_00FE00_00FE10_00FE20_00FE2E,
  0x0101FD_0101FE_0102E0_0102E1_01133B_01133C_01CF00_01CF2E,
  0x01CF30_01CF47_01D167_01D16A_01D17B_01D183_01D185_01D18C,
  0x01D1AA_01D1AE_0E0100_0E01F0_110000_110000_110000_110000]

/-- The script Inscriptional Pahlavi. -/
def scriptInscriptionalPahlavi : CodePoints := .ofRows [
  0x010B60_010B73_010B78_010B80_110000_110000_110000_110000]

/-- The script Inscriptional Parthian. -/
def scriptInscriptionalParthian : CodePoints := .ofRows [
  0x010B40_010B56_010B58_010B60_110000_110000_110000_110000]

/-- The script Javanese. -/
def scriptJavanese : CodePoints := .ofRows [
  0x00A980_00A9CE_00A9D0_00A9DA_00A9DE_00A9E0_110000_110000]

/-- The script Kaithi. -/
def scriptKaithi : CodePoints := .ofRows [
  0x011080_0110C3_0110CD_0110CE_110000_110000_110000_110000]

/-- The script Kannada. -/
def scriptKannada : CodePoints := .ofRows [
  0x000C80_000C8D_000C8E_000C91_000C92_000CA9_000CAA_000CB4,
  0x000CB5_000CBA_000CBC_000CC5_000CC6_000CC9_000CCA_000CCE,
  0x000CD5_000CD7_000CDC_000CDF_000CE0_000CE4_000CE6_000CF0,
  0x000CF1_000CF4_110000_110000_110000_110000_110000_110000]

/-- The script Katakana. -/
def scriptKatakana : CodePoints := .ofRows [
  0x0030A1_0030FB_0030FD_003100_0031F0_003200_0032D0_0032FF,
  0x003300_003358_00FF66_00FF70_00FF71_00FF9E_01AFF0_01AFF4,
  0x01AFF5_01AFFC_01AFFD_01AFFF_01B000_01B001_01B120_01B123,
  0x01B155_01B156_01B164_01B168_110000_110000_110000_110000]

/-- The script Kawi. -/
def scriptKawi : CodePoints := .ofRows [
  0x011F00_011F11_011F12_011F3B_011F3E_011F5B_110000_110000]

/-- The script Kayah Li. -/
def scriptKayahLi : CodePoints := .ofRows [
  0x00A900_00A92E_00A92F_00A930_110000_110000_110000_110000]

/-- The script Kharoshthi. -/
def scriptKharoshthi : CodePoints := .ofRows [
  0x010A00_010A04_010A05_010A07_010A0C_010A14_010A15_010A18,
  0x010A19_010A36_010A38_010A3B_010A3F_010A49_010A50_010A59]

/-- The script Khitan Small Script. -/
def scriptKhitanSmallScript : CodePoints := .ofRows [
  0x016FE4_016FE5_018B00_018CD6_018CFF_018D00_110000_110000]

/-- The script Khmer. -/
def scriptKhmer : CodePoints := .ofRows [
  0x001780_0017DE_0017E0_0017EA_0017F0_0017FA_0019E0_001A00]

/-- The script Khojki. -/
def scriptKhojki : CodePoints := .ofRows [
  0x011200_011212_011213_011242_110000_110000_110000_110000]

/-- The script Khudawadi. -/
def scriptKhudawadi : CodePoints := .ofRows [
  0x0112B0_0112EB_0112F0_0112FA_110000_110000_110000_110000]

/-- The script Kirat Rai. -/
def scriptKiratRai : CodePoints := .ofRows [
  0x016D40_016D7A_110000_110000_110000_110000_110000_110000]

/-- The script Lao. -/
def scriptLao : CodePoints := .ofRows [
  0x000E81_000E83_000E84_000E85_000E86_000E8B_000E8C_000EA4,
  0x000EA5_000EA6_000EA7_000EBE_000EC0_000EC5_000EC6_000EC7,
  0x000EC8_000ECF_000ED0_000EDA_000EDC_000EE0_110000_110000]

/-- The script Latin. -/
def scriptLatin : CodePoints := .ofRows [
  0x000041_00005B_000061_00007B_0000AA_0000AB_0000BA_0000BB,
  0x0000C0_0000D7_0000D8_0000F7_0000F8_0002B9_0002E0_0002E5,
  0x001D00_001D26_001D2C_001D5D_001D62_001D66_001D6B_001D78,
  0x001D79_001DBF_001E00_001F00_002071_002072_00207F_002080,
  0x002090_00209D_00212A_00212C_002132_002133_00214E_00214F,
  0x002160_002189_002C60_002C80_00A722_00A788_00A78B_00A7DD,
  0x00A7F1_00A800_00AB30_00AB5B_00AB5C_00AB65_00AB66_00AB6A,
  0x00FB00_00FB07_00FF21_00FF3B_00FF41_00FF5B_010780_010786,
  0x010787_0107B1_0107B2_0107BB_01DF00_01DF1F_01DF25_01DF2B]

/-- The script Lepcha. -/
def scriptLepcha : CodePoints := .ofRows [
  0x001C00_001C38_001C3B_001C4A_001C4D_001C50_110000_110000]

/-- The script Limbu. -/
def scriptLimbu : CodePoints := .ofRows [
  0x001900_00191F_001920_00192C_001930_00193C_001940_001941,
  0x001944_001950_110000_110000_110000_110000_110000_110000]

/-- The script Linear A. -/
def scriptLinearA : CodePoints := .ofRows [
  0x010600_010737_010740_010756_010760_010768_110000_110000]

/-- The script Linear B. -/
def scriptLinearB : CodePoints := .ofRows [
  0x010000_01000C_01000D_010027_010028_01003B_01003C_01003E,
  0x01003F_01004E_010050_01005E_010080_0100FB_110000_110000]

/-- The script Lisu. -/
def scriptLisu : CodePoints := .ofRows [
  0x00A4D0_00A500_011FB0_011FB1_110000_110000_110000_110000]

/-- The script Lycian. -/
def scriptLycian : CodePoints := .ofRows [
  0x010280_01029D_110000_110000_110000_110000_110000_110000]

/-- The script Lydian. -/
def scriptLydian : CodePoints := .ofRows [
  0x010920_01093A_01093F_010940_110000_110000_110000_110000]

/-- The script Mahajani. -/
def scriptMahajani : CodePoints := .ofRows [
  0x011150_011177_110000_110000_110000_110000_110000_110000]

/-- The script Makasar. -/
def scriptMakasar : CodePoints := .ofRows [
  0x011EE0_011EF9_110000_110000_110000_110000_110000_110000]

/-- The script Malayalam. -/
def scriptMalayalam : CodePoints := .ofRows [
  0x000D00_000D0D_000D0E_000D11_000D12_000D45_000D46_000D49,
  0x000D4A_000D50_000D54_000D64_000D66_000D80_110000_110000]

/-- The script Mandaic. -/
def scriptMandaic : CodePoints := .ofRows [
  0x000840_00085C_00085E_00085F_110000_110000_110000_110000]

/-- The script Manichaean. -/
def scriptManichaean : CodePoints := .ofRows [
  0x010AC0_010AE7_010AEB_010AF7_110000_110000_110000_110000]

/-- The script Marchen. -/
def scriptMarchen : CodePoints := .ofRows [
  0x011C70_011C90_011C92_011CA8_011CA9_011CB7_110000_110000]

/-- The script Masaram Gondi. -/
def scriptMasaramGondi : CodePoints := .ofRows [
  0x011D00_011D07_011D08_011D0A_011D0B_011D37_011D3A_011D3B,
  0x011D3C_011D3E_011D3F_011D48_011D50_011D5A_110000_110000]

/-- The script Medefaidrin. -/
def scriptMedefaidrin : CodePoints := .ofRows [
  0x016E40_016E9B_110000_110000_110000_110000_110000_110000]

/-- The script Meetei Mayek. -/
def scriptMeeteiMayek : CodePoints := .ofRows [
  0x00AAE0_00AAF7_00ABC0_00ABEE_00ABF0_00ABFA_110000_110000]

/-- The script Mende Kikakui. -/
def scriptMendeKikakui : CodePoints := .ofRows [
  0x01E800_01E8C5_01E8C7_01E8D7_110000_110000_110000_110000]

/-- The script Meroitic Cursive. -/
def scriptMeroiticCursive : CodePoints := .ofRows [
  0x0109A0_0109B8_0109BC_0109D0_0109D2_010A00_110000_110000]

/-- The script Meroitic Hieroglyphs. -/
def scriptMeroiticHieroglyphs : CodePoints := .ofRows [
  0x010980_0109A0_110000_110000_110000_110000_110000_110000]

/-- The script Miao. -/
def scriptMiao : CodePoints := .ofRows [
  0x016F00_016F4B_016F4F_016F88_016F8F_016FA0_110000_110000]

/-- The script Modi. -/
def scriptModi : CodePoints := .ofRows [
  0x011600_011645_011650_01165A_110000_110000_110000_110000]

/-- The script Mongolian. -/
def scriptMongolian : CodePoints := .ofRows [
  0x001800_001802_001804_001805_001806_00181A_001820_001879,
  0x001880_0018AB_011660_01166D_110000_110000_110000_110000]

/-- The script Mro. -/
def scriptMro : CodePoints := .ofRows [
  0x016A40_016A5F_016A60_016A6A_016A6E_016A70_110000_110000]

/-- The script Multani. -/
def scriptMultani : CodePoints := .ofRows [
  0x011280_011287_011288_011289_01128A_01128E_01128F_01129E,
  0x01129F_0112AA_110000_110000_110000_110000_110000_110000]

/-- The script Myanmar. -/
def scriptMyanmar : CodePoints := .ofRows [
  0x001000_0010A0_00A9E0_00A9FF_00AA60_00AA80_0116D0_0116E4]

/-- The script Nabataean. -/
def scriptNabataean : CodePoints := .ofRows [
  0x010880_01089F_0108A7_0108B0_110000_110000_110000_110000]

/-- The script Nag Mundari. -/
def scriptNagMundari : CodePoints := .ofRows [
  0x01E4D0_01E4FA_110000_110000_110000_110000_110000_110000]

/-- The script Nandinagari. -/
def scriptNandinagari : CodePoints := .ofRows [
  0x0119A0_0119A8_0119AA_0119D8_0119DA_0119E5_110000_110000]

/-- The script New Tai Lue. -/
def scriptNewTaiLue : CodePoints := .ofRows [
  0x001980_0019AC_0019B0_0019CA_0019D0_0019DB_0019DE_0019E0]

/-- The script Newa. -/
def scriptNewa : CodePoints := .ofRows [
  0x011400_01145C_01145D_011462_110000_110000_110000_110000]

/-- The script Nko. -/
def scriptNko : CodePoints := .ofRows [
  0x0007C0_0007FB_0007FD_000800_110000_110000_110000_110000]

/-- The script Nushu. -/
def scriptNushu : CodePoints := .ofRows [
  0x016FE1_016FE2_01B170_01B2FC_110000_110000_110000_110000]

/-- The script Nyiakeng Puachue Hmong. -/
def scriptNyiakengPuachueHmong : CodePoints := .ofRows [
  0x01E100_01E12D_01E130_01E13E_01E140_01E14A_01E14E_01E150]

/-- The script Ogham. -/
def scriptOgham : CodePoints := .ofRows [
  0x001680_00169D_110000_110000_110000_110000_110000_110000]

/-- The script Ol Chiki. -/
def scriptOlChiki : CodePoints := .ofRows [
  0x001C50_001C80_110000_110000_110000_110000_110000_110000]

/-- The script Ol Onal. -/
def scriptOlOnal : CodePoints := .ofRows [
  0x01E5D0_01E5FB_01E5FF_01E600_110000_110000_110000_110000]

/-- The script Old Hungarian. -/
def scriptOldHungarian : CodePoints := .ofRows [
  0x010C80_010CB3_010CC0_010CF3_010CFA_010D00_110000_110000]

/-- The script Old Italic. -/
def scriptOldItalic : CodePoints := .ofRows [
  0x010300_010324_01032D_010330_110000_110000_110000_110000]

/-- The script Old North Arabian. -/
def scriptOldNorthArabian : CodePoints := .ofRows [
  0x010A80_010AA0_110000_110000_110000_110000_110000_110000]

/-- The script Old Permic. -/
def scriptOldPermic : CodePoints := .ofRows [
  0x010350_01037B_110000_110000_110000_110000_110000_110000]

/-- The script Old Persian. -/
def scriptOldPersian : CodePoints := .ofRows [
  0x0103A0_0103C4_0103C8_0103D6_110000_110000_110000_110000]

/-- The script Old Sogdian. -/
def scriptOldSogdian : CodePoints := .ofRows [
  0x010F00_010F28_110000_110000_110000_110000_110000_110000]

/-- The script Old South Arabian. -/
def scriptOldSouthArabian : CodePoints := .ofRows [
  0x010A60_010A80_110000_110000_110000_110000_110000_110000]

/-- The script Old Turkic. -/
def scriptOldTurkic : CodePoints := .ofRows [
  0x010C00_010C49_110000_110000_110000_110000_110000_110000]

/-- The script Old Uyghur. -/
def scriptOldUyghur : CodePoints := .ofRows [
  0x010F70_010F8A_110000_110000_110000_110000_110000_110000]

/-- The script Oriya. -/
def scriptOriya : CodePoints := .ofRows [
  0x000B01_000B04_000B05_000B0D_000B0F_000B11_000B13_000B29,
  0x000B2A_000B31_000B32_000B34_000B35_000B3A_000B3C_000B45,
  0x000B47_000B49_000B4B_000B4E_000B55_000B58_000B5C_000B5E,
  0x000B5F_000B64_000B66_000B78_110000_110000_110000_110000]

/-- The script Osage. -/
def scriptOsage : CodePoints := .ofRows [
  0x0104B0_0104D4_0104D8_0104FC_110000_110000_110000_110000]

/-- The script Osmanya. -/
def scriptOsmanya : CodePoints := .ofRows [
  0x010480_01049E_0104A0_0104AA_110000_110000_110000_110000]

/-- The script Pahawh Hmong. -/
def scriptPahawhHmong : CodePoints := .ofRows [
  0x016B00_016B46_016B50_016B5A_016B5B_016B62_016B63_016B78,
  0x016B7D_016B90_110000_110000_110000_110000_110000_110000]

/-- The script Palmyrene. -/
def scriptPalmyrene : CodePoints := .ofRows [
  0x010860_010880_110000_110000_110000_110000_110000_110000]

/-- The script Pau Cin Hau. -/
def scriptPauCinHau : CodePoints := .ofRows [
  0x011AC0_011AF9_110000_110000_110000_110000_110000_110000]

/-- The script Phags Pa. -/
def scriptPhagsPa : CodePoints := .ofRows [
  0x00A840_00A878_110000_110000_110000_110000_110000_110000]

/-- The script Phoenician. -/
def scriptPhoenician : CodePoints := .ofRows [
  0x010900_01091C_01091F_010920_110000_110000_110000_110000]

/-- The script Psalter Pahlavi. -/
def scriptPsalterPahlavi : CodePoints := .ofRows [
  0x010B80_010B92_010B99_010B9D_010BA9_010BB0_110000_110000]

/-- The script Rejang. -/
def scriptRejang : CodePoints := .ofRows [
  0x00A930_00A954_00A95F_00A960_110000_110000_110000_110000]

/-- The script Runic. -/
def scriptRunic : CodePoints := .ofRows [
  0x0016A0_0016EB_0016EE_0016F9_110000_110000_110000_110000]

/-- The script Samaritan. -/
def scriptSamaritan : CodePoints := .ofRows [
  0x000800_00082E_000830_00083F_110000_110000_110000_110000]

/-- The script Saurashtra. -/
def scriptSaurashtra : CodePoints := .ofRows [
  0x00A880_00A8C6_00A8CE_00A8DA_110000_110000_110000_110000]

/-- The script Sharada. -/
def scriptSharada : CodePoints := .ofRows [
  0x011180_0111E0_011B60_011B68_110000_110000_110000_110000]

/-- The script Shavian. -/
def scriptShavian : CodePoints := .ofRows [
  0x010450_010480_110000_110000_110000_110000_110000_110000]

/-- The script Siddham. -/
def scriptSiddham : CodePoints := .ofRows [
  0x011580_0115B6_0115B8_0115DE_110000_110000_110000_110000]

/-- The script SignWriting. -/
def scriptSignWriting : CodePoints := .ofRows [
  0x01D800_01DA8C_01DA9B_01DAA0_01DAA1_01DAB0_110000_110000]

/-- The script Sinhala. -/
def scriptSinhala : CodePoints := .ofRows [
  0x000D81_000D84_000D85_000D97_000D9A_000DB2_000DB3_000DBC,
  0x000DBD_000DBE_000DC0_000DC7_000DCA_000DCB_000DCF_000DD5,
  0x000DD6_000DD7_000DD8_000DE0_000DE6_000DF0_000DF2_000DF5,
  0x0111E1_0111F5_110000_110000_110000_110000_110000_110000]

/-- The script Sogdian. -/
def scriptSogdian : CodePoints := .ofRows [
  0x010F30_010F5A_110000_110000_110000_110000_110000_110000]

/-- The script Sora Sompeng. -/
def scriptSoraSompeng : CodePoints := .ofRows [
  0x0110D0_0110E9_0110F0_0110FA_110000_110000_110000_110000]

/-- The script Soyombo. -/
def scriptSoyombo : CodePoints := .ofRows [
  0x011A50_011AA3_110000_110000_110000_110000_110000_110000]

/-- The script Sundanese. -/
def scriptSundanese : CodePoints := .ofRows [
  0x001B80_001BC0_001CC0_001CC8_110000_110000_110000_110000]

/-- The script Sunuwar. -/
def scriptSunuwar : CodePoints := .ofRows [
  0x011BC0_011BE2_011BF0_011BFA_110000_110000_110000_110000]

/-- The script Syloti Nagri. -/
def scriptSylotiNagri : CodePoints := .ofRows [
  0x00A800_00A82D_110000_110000_110000_110000_110000_110000]

/-- The script Syriac. -/
def scriptSyriac : CodePoints := .ofRows [
  0x000700_00070E_00070F_00074B_00074D_000750_000860_00086B]

/-- The script Tagalog. -/
def scriptTagalog : CodePoints := .ofRows [
  0x001700_001716_00171F_001720_110000_110000_110000_110000]

/-- The script Tagbanwa. -/
def scriptTagbanwa : CodePoints := .ofRows [
  0x001760_00176D_00176E_001771_001772_001774_110000_110000]

/-- The script Tai Le. -/
def scriptTaiLe : CodePoints := .ofRows [
  0x001950_00196E_001970_001975_110000_110000_110000_110000]

/-- The script Tai Tham. -/
def scriptTaiTham : CodePoints := .ofRows [
  0x001A20_001A5F_001A60_001A7D_001A7F_001A8A_001A90_001A9A,
  0x001AA0_001AAE_110000_110000_110000_110000_110000_110000]

/-- The script Tai Viet. -/
def scriptTaiViet : CodePoints := .ofRows [
  0x00AA80_00AAC3_00AADB_00AAE0_110000_110000_110000_110000]

/-- The script Takri. -/
def scriptTakri : CodePoints := .ofRows [
  0x011680_0116BA_0116C0_0116CA_110000_110000_110000_110000]

/-- The script Tamil. -/
def scriptTamil : CodePoints := .ofRows [
  0x000B82_000B84_000B85_000B8B_000B8E_000B91_000B92_000B96,
  0x000B99_000B9B_000B9C_000B9D_000B9E_000BA0_000BA3_000BA5,
  0x000BA8_000BAB_000BAE_000BBA_000BBE_000BC3_000BC6_000BC9,
  0x000BCA_000BCE_000BD0_000BD1_000BD7_000BD8_000BE6_000BFB,
  0x011FC0_011FF2_011FFF_012000_110000_110000_110000_110000]

/-- The script Tangsa. -/
def scriptTangsa : CodePoints := .ofRows [
  0x016A70_016ABF_016AC0_016ACA_110000_110000_110000_110000]

/-- The script Tangut. -/
def scriptTangut : CodePoints := .ofRows [
  0x016FE0_016FE1_017000_018B00_018D00_018D1F_018D80_018DF3]

/-- The script Telugu. -/
def scriptTelugu : CodePoints := .ofRows [
  0x000C00_000C0D_000C0E_000C11_000C12_000C29_000C2A_000C3A,
  0x000C3C_000C45_000C46_000C49_000C4A_000C4E_000C55_000C57,
  0x000C58_000C5B_000C5C_000C5E_000C60_000C64_000C66_000C70,
  0x000C77_000C80_110000_110000_110000_110000_110000_110000]

/-- The script Thaana. -/
def scriptThaana : CodePoints := .ofRows [
  0x000780_0007B2_110000_110000_110000_110000_110000_110000]

/-- The script Thai. -/
def scriptThai : CodePoints := .ofRows [
  0x000E01_000E3B_000E40_000E5C_110000_110000_110000_110000]

/-- The script Tibetan. -/
def scriptTibetan : CodePoints := .ofRows [
  0x000F00_000F48_000F49_000F6D_000F71_000F98_000F99_000FBD,
  0x000FBE_000FCD_000FCE_000FD5_000FD9_000FDB_110000_110000]

/-- The script Tifinagh. -/
def scriptTifinagh : CodePoints := .ofRows [
  0x002D30_002D68_002D6F_002D71_002D7F_002D80_110000_110000]

/-- The script Tirhuta. -/
def scriptTirhuta : CodePoints := .ofRows [
  0x011480_0114C8_0114D0_0114DA_110000_110000_110000_110000]

/-- The script Todhri. -/
def scriptTodhri : CodePoints := .ofRows [
  0x0105C0_0105F4_110000_110000_110000_110000_110000_110000]

/-- The script Toto. -/
def scriptToto : CodePoints := .ofRows [
  0x01E290_01E2AF_110000_110000_110000_110000_110000_110000]

/-- The script Tulu Tigalari. -/
def scriptTuluTigalari : CodePoints := .ofRows [
  0x011380_01138A_01138B_01138C_01138E_01138F_011390_0113B6,
  0x0113B7_0113C1_0113C2_0113C3_0113C5_0113C6_0113C7_0113CB,
  0x0113CC_0113D6_0113D7_0113D9_0113E1_0113E3_110000_110000]

/-- The script Ugaritic. -/
def scriptUgaritic : CodePoints := .ofRows [
  0x010380_01039E_01039F_0103A0_110000_110000_110000_110000]

/-- The script Vai. -/
def scriptVai : CodePoints := .ofRows [
  0x00A500_00A62C_110000_110000_110000_110000_110000_110000]

/-- The script Vithkuqi. -/
def scriptVithkuqi : CodePoints := .ofRows [
  0x010570_01057B_01057C_01058B_01058C_010593_010594_010596,
  0x010597_0105A2_0105A3_0105B2_0105B3_0105BA_0105BB_0105BD]

/-- The script Wancho. -/
def scriptWancho : CodePoints := .ofRows [
  0x01E2C0_01E2FA_01E2FF_01E300_110000_110000_110000_110000]

/-- The script Warang Citi. -/
def scriptWarangCiti : CodePoints := .ofRows [
  0x0118A0_0118F3_0118FF_011900_110000_110000_110000_110000]

/-- The script Yezidi. -/
def scriptYezidi : CodePoints := .ofRows [
  0x010E80_010EAA_010EAB_010EAE_010EB0_010EB2_110000_110000]

/-- The script Yi. -/
def scriptYi : CodePoints := .ofRows [
  0x00A000_00A48D_00A490_00A4C7_110000_110000_110000_110000]

/-- The script Zanabazar Square. -/
def scriptZanabazarSquare : CodePoints := .ofRows [
  0x011A00_011A48_110000_110000_110000_110000_110000_110000]

end LinkedShapes.Unicode
