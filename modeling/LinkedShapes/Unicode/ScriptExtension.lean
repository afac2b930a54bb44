import LinkedShapes.Unicode.CodePoints

/-!
# Script extensions

A character that several scripts share has one value of Script, but all of them among its values
of Script_Extensions. The sets hold the code points where the two properties differ about a
script.
-/

namespace LinkedShapes.Unicode

/-- Where the two properties differ about Adlam. -/
def sharedAdlam : CodePoints := .ofRows [
  0x00061F_000620_000640_000641_00204F_002050_002E41_002E42]

/-- Where the two properties differ about Arabic. -/
def sharedArabic : CodePoints := .ofRows [
  0x00060C_00060D_00061B_00061C_00061F_000620_000640_000641,
  0x00064B_000656_000670_000671_00204F_002050_002E41_002E42,
  0x00FD3E_00FD40_0102E0_0102FC_110000_110000_110000_110000]

/-- Where the two properties differ about Armenian. -/
def sharedArmenian : CodePoints := .ofRows [
  0x000308_000309_110000_110000_110000_110000_110000_110000]

/-- Where the two properties differ about Avestan. -/
def sharedAvestan : CodePoints := .ofRows [
  0x0000B7_0000B8_002E30_002E32_110000_110000_110000_110000]

/-- Where the two properties differ about Bengali. -/
def sharedBengali : CodePoints := .ofRows [
  0x0002BC_0002BD_000951_000953_000964_000966_001CD0_001CD1,
  0x001CD2_001CD3_001CD5_001CD7_001CD8_001CD9_001CE1_001CE2,
  0x001CEA_001CEB_001CED_001CEE_001CF2_001CF3_001CF5_001CF8,
  0x00A8F1_00A8F2_110000_110000_110000_110000_110000_110000]

/-- Where the two properties differ about Bopomofo. -/
def sharedBopomofo : CodePoints := .ofRows [
  0x0002C7_0002C8_0002C9_0002CC_0002D9_0002DA_003001_003004,
  0x003008_003012_003013_003020_00302A_00302E_003030_003031,
  0x003037_003038_0030FB_0030FC_00FE45_00FE47_00FF61_00FF66]

/-- Where the two properties differ about Buginese. -/
def sharedBuginese : CodePoints := .ofRows [
  0x00A9CF_00A9D0_110000_110000_110000_110000_110000_110000]

/-- Where the two properties differ about Buhid. -/
def sharedBuhid : CodePoints := .ofRows [
  0x001735_001737_110000_110000_110000_110000_110000_110000]

/-- Where the two properties differ about Carian. -/
def sharedCarian : CodePoints := .ofRows [
  0x0000B7_0000B8_00205A_00205B_00205D_00205E_002E31_002E32]

/-- Where the two properties differ about Caucasian Albanian. -/
def sharedCaucasianAlbanian : CodePoints := .ofRows [
  0x000304_000305_000331_000332_00035E_00035F_110000_110000]

/-- Where the two properties differ about Chakma. -/
def sharedChakma : CodePoints := .ofRows [
  0x0009E6_0009F0_001040_00104A_110000_110000_110000_110000]

/-- Where the two properties differ about Cherokee. -/
def sharedCherokee : CodePoints := .ofRows [
  0x000300_000303_000304_000305_00030B_00030D_000323_000325,
  0x000330_000332_110000_110000_110000_110000_110000_110000]

/-- Where the two properties differ about Common. -/
def sharedCommon : CodePoints := .ofRows [
  0x0000B7_0000B8_0002BC_0002BD_0002C7_0002C8_0002C9_0002CC,
  0x0002CD_0002CE_0002D7_0002D8_0002D9_0002DA_000374_000375,
  0x00060C_00060D_00061B_00061C_00061F_000620_000640_000641,
  0x000964_000966_0010FB_0010FC_0016EB_0016EE_001735_001737,
  0x001802_001804_001805_001806_001CD3_001CD4_001CE1_001CE2,
  0x001CE9_001CED_001CEE_001CF4_001CF5_001CF8_001CFA_001CFB,
  0x00202F_002030_00204F_002050_00205A_00205B_00205D_00205E,
  0x002E17_002E18_002E30_002E32_002E3C_002E3D_002E41_002E42,
  0x002E43_002E44_002FF0_003000_003001_003004_003006_003007,
  0x003008_003012_003013_003020_003030_003036_003037_003038,
  0x00303C_003040_00309B_00309D_0030A0_0030A1_0030FB_0030FD,
  0x003190_0031A0_0031C0_0031E6_0031EF_0031F0_003220_003248,
  0x003280_0032B1_0032C0_0032CC_0032FF_003300_003358_003371,
  0x00337B_003380_0033E0_0033FF_00A700_00A708_00A830_00A83A,
  0x00A92E_00A92F_00A9CF_00A9D0_00FD3E_00FD40_00FE45_00FE47,
  0x00FF61_00FF66_00FF70_00FF71_00FF9E_00FFA0_010100_010103,
  0x010107_010134_010137_010140_0102E1_0102FC_01BCA0_01BCA4,
  0x01D360_01D372_01F250_01F252_110000_110000_110000_110000]

/-- Where the two properties differ about Coptic. -/
def sharedCoptic : CodePoints := .ofRows [
  0x0000B7_0000B8_000300_000301_000304_000306_000307_000308,
  0x000374_000376_002E17_002E18_0102E0_0102FC_110000_110000]

/-- Where the two properties differ about Cypriot. -/
def sharedCypriot : CodePoints := .ofRows [
  0x010100_010103_010107_010134_010137_010140_110000_110000]

/-- Where the two properties differ about Cypro Minoan. -/
def sharedCyproMinoan : CodePoints := .ofRows [
  0x010100_010102_110000_110000_110000_110000_110000_110000]

/-- Where the two properties differ about Cyrillic. -/
def sharedCyrillic : CodePoints := .ofRows [
  0x0002BC_0002BD_000300_000303_000304_000305_000306_000307,
  0x000308_000309_00030B_00030C_000311_000312_000485_000487,
  0x001DF8_001DF9_002E43_002E44_110000_110000_110000_110000]

/-- Where the two properties differ about Devanagari. -/
def sharedDevanagari : CodePoints := .ofRows [
  0x0002BC_0002BD_000951_000953_000964_000966_001CD0_001CF7,
  0x001CF8_001CFA_0020F0_0020F1_00A830_00A83A_110000_110000]

/-- Where the two properties differ about Dogra. -/
def sharedDogra : CodePoints := .ofRows [
  0x000964_000970_00A830_00A83A_110000_110000_110000_110000]

/-- Where the two properties differ about Duployan. -/
def sharedDuployan : CodePoints := .ofRows [
  0x0000B7_0000B8_000307_000309_00030A_00030B_000323_000325,
  0x002E3C_002E3D_01BCA0_01BCA4_110000_110000_110000_110000]

/-- Where the two properties differ about Elbasan. -/
def sharedElbasan : CodePoints := .ofRows [
  0x0000B7_0000B8_000305_000306_110000_110000_110000_110000]

/-- Where the two properties differ about Ethiopic. -/
def sharedEthiopic : CodePoints := .ofRows [
  0x00030E_00030F_110000_110000_110000_110000_110000_110000]

/-- Where the two properties differ about Garay. -/
def sharedGaray : CodePoints := .ofRows [
  0x00060C_00060D_00061B_00061C_00061F_000620_110000_110000]

/-- Where the two properties differ about Georgian. -/
def sharedGeorgian : CodePoints := .ofRows [
  0x0000B7_0000B8_000589_00058A_0010FB_0010FC_00205A_00205B,
  0x002E31_002E32_110000_110000_110000_110000_110000_110000]

/-- Where the two properties differ about Glagolitic. -/
def sharedGlagolitic : CodePoints := .ofRows [
  0x0000B7_0000B8_000303_000304_000305_000306_000484_000485,
  0x000487_000488_000589_00058A_0010FB_0010FC_00205A_00205B,
  0x002E43_002E44_00A66F_00A670_110000_110000_110000_110000]

/-- Where the two properties differ about Gothic. -/
def sharedGothic : CodePoints := .ofRows [
  0x0000B7_0000B8_000304_000306_000308_000309_000331_000332]

/-- Where the two properties differ about Grantha. -/
def sharedGrantha : CodePoints := .ofRows [
  0x000951_000953_000964_000966_000BE6_000BF4_001CD0_001CD1,
  0x001CD2_001CD4_001CF2_001CF5_001CF8_001CFA_0020F0_0020F1,
  0x01133B_01133C_011FD0_011FD2_011FD3_011FD4_110000_110000]

/-- Where the two properties differ about Greek. -/
def sharedGreek : CodePoints := .ofRows [
  0x0000B7_0000B8_000300_000302_000304_000305_000306_000307,
  0x000308_000309_000313_000314_000342_000343_000345_000346,
  0x000374_000375_001DC0_001DC2_00205D_00205E_110000_110000]

/-- Where the two properties differ about Gujarati. -/
def sharedGujarati : CodePoints := .ofRows [
  0x000951_000953_000964_000966_00A830_00A83A_110000_110000]

/-- Where the two properties differ about Gunjala Gondi. -/
def sharedGunjalaGondi : CodePoints := .ofRows [
  0x0000B7_0000B8_000964_000966_110000_110000_110000_110000]

/-- Where the two properties differ about Gurmukhi. -/
def sharedGurmukhi : CodePoints := .ofRows [
  0x000951_000953_000964_000966_00A830_00A83A_110000_110000]

/-- Where the two properties differ about Gurung Khema. -/
def sharedGurungKhema : CodePoints := .ofRows [
  0x000965_000966_110000_110000_110000_110000_110000_110000]

/-- Where the two properties differ about Han. -/
def sharedHan : CodePoints := .ofRows [
  0x0000B7_0000B8_002FF0_003000_003001_003004_003006_003007,
  0x003008_003012_003013_003020_00302A_00302E_003030_003031,
  0x003037_003038_00303C_003040_0030FB_0030FC_003190_0031A0,
  0x0031C0_0031E6_0031EF_0031F0_003220_003248_003280_0032B1,
  0x0032C0_0032CC_0032FF_003300_003358_003371_00337B_003380,
  0x0033E0_0033FF_00A700_00A708_00FE45_00FE47_00FF61_00FF66,
  0x01D360_01D372_01F250_01F252_110000_110000_110000_110000]

/-- Where the two properties differ about Hangul. -/
def sharedHangul : CodePoints := .ofRows [
  0x003001_003004_003008_003012_003013_003020_003030_003031,
  0x003037_003038_0030FB_0030FC_00FE45_00FE47_00FF61_00FF66]

/-- Where the two properties differ about Hanifi Rohingya. -/
def sharedHanifiRohingya : CodePoints := .ofRows [
  0x00060C_00060D_00061B_00061C_00061F_000620_000640_000641,
  0x0006D4_0006D5_110000_110000_110000_110000_110000_110000]

/-- Where the two properties differ about Hanunoo. -/
def sharedHanunoo : CodePoints := .ofRows [
  0x001735_001737_110000_110000_110000_110000_110000_110000]

/-- Where the two properties differ about Hebrew. -/
def sharedHebrew : CodePoints := .ofRows [
  0x000307_000309_110000_110000_110000_110000_110000_110000]

/-- Where the two properties differ about Hiragana. -/
def sharedHiragana : CodePoints := .ofRows [
  0x003001_003004_003008_003012_003013_003020_003030_003036,
  0x003037_003038_00303C_00303E_003099_00309D_0030A0_0030A1,
  0x0030FB_0030FD_00FE45_00FE47_00FF61_00FF66_00FF70_00FF71,
  0x00FF9E_00FFA0_110000_110000_110000_110000_110000_110000]

/-- Where the two properties differ about Inherited. -/
def sharedInherited : CodePoints := .ofRows [
  0x000300_00030F_000310_000312_000313_000314_000323_000326,
  0x00032D_00032F_000330_000332_000342_000343_000345_000346,
  0x000358_000359_00035E_00035F_000363_000370_000485_000487,
  0x00064B_000656_000670_000671_000951_000953_001CD0_001CD3,
  0x001CD4_001CE1_001CE2_001CE9_001CED_001CEE_001CF4_001CF5,
  0x001CF8_001CFA_001DC0_001DC2_001DF8_001DF9_001DFA_001DFB,
  0x0020F0_0020F1_00302A_00302E_003099_00309B_0102E0_0102E1,
  0x01133B_01133C_110000_110000_110000_110000_110000_110000]

/-- Where the two properties differ about Javanese. -/
def sharedJavanese : CodePoints := .ofRows [
  0x00A9CF_00A9D0_110000_110000_110000_110000_110000_110000]

/-- Where the two properties differ about Kaithi. -/
def sharedKaithi : CodePoints := .ofRows [
  0x000966_000970_002E31_002E32_00A830_00A83A_110000_110000]

/-- Where the two properties differ about Kannada. -/
def sharedKannada : CodePoints := .ofRows [
  0x000951_000953_000964_000966_001CD0_001CD1_001CD2_001CD4,
  0x001CDA_001CDB_001CF2_001CF3_001CF4_001CF5_00A830_00A836]

/-- Where the two properties differ about Katakana. -/
def sharedKatakana : CodePoints := .ofRows [
  0x000305_000306_000323_000324_003001_003004_003008_003012,
  0x003013_003020_003030_003036_003037_003038_00303C_00303E,
  0x003099_00309D_0030A0_0030A1_0030FB_0030FD_00FE45_00FE47,
  0x00FF61_00FF66_00FF70_00FF71_00FF9E_00FFA0_110000_110000]

/-- Where the two properties differ about Kayah Li. -/
def sharedKayahLi : CodePoints := .ofRows [
  0x00A92E_00A92F_110000_110000_110000_110000_110000_110000]

/-- Where the two properties differ about Khojki. -/
def sharedKhojki : CodePoints := .ofRows [
  0x000AE6_000AF0_00A830_00A83A_110000_110000_110000_110000]

/-- Where the two properties differ about Khudawadi. -/
def sharedKhudawadi : CodePoints := .ofRows [
  0x000964_000966_00A830_00A83A_110000_110000_110000_110000]

/-- Where the two properties differ about Latin. -/
def sharedLatin : CodePoints := .ofRows [
  0x0000B7_0000B8_0002BC_0002BD_0002C7_0002C8_0002C9_0002CC,
  0x0002CD_0002CE_0002D7_0002D8_0002D9_0002DA_000300_00030F,
  0x000310_000312_000313_000314_000323_000326_00032D_00032F,
  0x000330_000332_000358_000359_00035E_00035F_000363_000370,
  0x000485_000487_000951_000953_0010FB_0010FC_001DF8_001DF9,
  0x00202F_002030_0020F0_0020F1_002E17_002E18_00A700_00A708,
  0x00A92E_00A92F_110000_110000_110000_110000_110000_110000]

/-- Where the two properties differ about Limbu. -/
def sharedLimbu : CodePoints := .ofRows [
  0x000965_000966_110000_110000_110000_110000_110000_110000]

/-- Where the two properties differ about Linear A. -/
def sharedLinearA : CodePoints := .ofRows [
  0x010107_010134_110000_110000_110000_110000_110000_110000]

/-- Where the two properties differ about Linear B. -/
def sharedLinearB : CodePoints := .ofRows [
  0x010100_010103_010107_010134_010137_010140_110000_110000]

/-- Where the two properties differ about Lisu. -/
def sharedLisu : CodePoints := .ofRows [
  0x0002BC_0002BD_0002CD_0002CE_00300A_00300C_110000_110000]

/-- Where the two properties differ about Lycian. -/
def sharedLycian : CodePoints := .ofRows [
  0x00205A_00205B_110000_110000_110000_110000_110000_110000]

/-- Where the two properties differ about Lydian. -/
def sharedLydian : CodePoints := .ofRows [
  0x0000B7_0000B8_002E31_002E32_110000_110000_110000_110000]

/-- Where the two properties differ about Mahajani. -/
def sharedMahajani : CodePoints := .ofRows [
  0x0000B7_0000B8_000964_000970_00A830_00A83A_110000_110000]

/-- Where the two properties differ about Malayalam. -/
def sharedMalayalam : CodePoints := .ofRows [
  0x000951_000953_000964_000966_001CDA_001CDB_001CF2_001CF3,
  0x00A830_00A833_110000_110000_110000_110000_110000_110000]

/-- Where the two properties differ about Mandaic. -/
def sharedMandaic : CodePoints := .ofRows [
  0x000640_000641_110000_110000_110000_110000_110000_110000]

/-- Where the two properties differ about Manichaean. -/
def sharedManichaean : CodePoints := .ofRows [
  0x000640_000641_110000_110000_110000_110000_110000_110000]

/-- Where the two properties differ about Masaram Gondi. -/
def sharedMasaramGondi : CodePoints := .ofRows [
  0x000964_000966_110000_110000_110000_110000_110000_110000]

/-- Where the two properties differ about Meroitic Hieroglyphs. -/
def sharedMeroiticHieroglyphs : CodePoints := .ofRows [
  0x00205D_00205E_110000_110000_110000_110000_110000_110000]

/-- Where the two properties differ about Modi. -/
def sharedModi : CodePoints := .ofRows [
  0x00A830_00A83A_110000_110000_110000_110000_110000_110000]

/-- Where the two properties differ about Mongolian. -/
def sharedMongolian : CodePoints := .ofRows [
  0x001802_001804_001805_001806_00202F_002030_003001_003003,
  0x003008_00300C_110000_110000_110000_110000_110000_110000]

/-- Where the two properties differ about Multani. -/
def sharedMultani : CodePoints := .ofRows [
  0x000A66_000A70_110000_110000_110000_110000_110000_110000]

/-- Where the two properties differ about Myanmar. -/
def sharedMyanmar : CodePoints := .ofRows [
  0x00A92E_00A92F_110000_110000_110000_110000_110000_110000]

/-- Where the two properties differ about Nandinagari. -/
def sharedNandinagari : CodePoints := .ofRows [
  0x000951_000952_000964_000966_000CE6_000CF0_001CE9_001CEA,
  0x001CF2_001CF3_001CFA_001CFB_00A830_00A836_110000_110000]

/-- Where the two properties differ about Newa. -/
def sharedNewa : CodePoints := .ofRows [
  0x000951_000953_001CD5_001CD6_001CD7_001CD9_001CE2_001CE3,
  0x001CE9_001CEA_001CEB_001CEC_001CED_001CEE_110000_110000]

/-- Where the two properties differ about Nko. -/
def sharedNko : CodePoints := .ofRows [
  0x00060C_00060D_00061B_00061C_00061F_000620_00FD3E_00FD40]

/-- Where the two properties differ about Ol Onal. -/
def sharedOlOnal : CodePoints := .ofRows [
  0x000964_000966_110000_110000_110000_110000_110000_110000]

/-- Where the two properties differ about Old Hungarian. -/
def sharedOldHungarian : CodePoints := .ofRows [
  0x00205A_00205B_00205D_00205E_002E31_002E32_002E41_002E42]

/-- Where the two properties differ about Old Permic. -/
def sharedOldPermic : CodePoints := .ofRows [
  0x0000B7_0000B8_000300_000301_000306_000309_000313_000314,
  0x000483_000484_110000_110000_110000_110000_110000_110000]

/-- Where the two properties differ about Old Turkic. -/
def sharedOldTurkic : CodePoints := .ofRows [
  0x00205A_00205B_002E30_002E31_110000_110000_110000_110000]

/-- Where the two properties differ about Old Uyghur. -/
def sharedOldUyghur : CodePoints := .ofRows [
  0x000640_000641_010AF2_010AF3_110000_110000_110000_110000]

/-- Where the two properties differ about Oriya. -/
def sharedOriya : CodePoints := .ofRows [
  0x000951_000953_000964_000966_001CDA_001CDB_001CF2_001CF3]

/-- Where the two properties differ about Osage. -/
def sharedOsage : CodePoints := .ofRows [
  0x000301_000302_000304_000305_00030B_00030C_000358_000359]

/-- Where the two properties differ about Phags Pa. -/
def sharedPhagsPa : CodePoints := .ofRows [
  0x001802_001804_001805_001806_00202F_002030_003002_003003]

/-- Where the two properties differ about Psalter Pahlavi. -/
def sharedPsalterPahlavi : CodePoints := .ofRows [
  0x000640_000641_110000_110000_110000_110000_110000_110000]

/-- Where the two properties differ about Runic. -/
def sharedRunic : CodePoints := .ofRows [
  0x0016EB_0016EE_110000_110000_110000_110000_110000_110000]

/-- Where the two properties differ about Samaritan. -/
def sharedSamaritan : CodePoints := .ofRows [
  0x002E31_002E32_110000_110000_110000_110000_110000_110000]

/-- Where the two properties differ about Sharada. -/
def sharedSharada : CodePoints := .ofRows [
  0x000951_000952_001CD7_001CD8_001CD9_001CDA_001CDC_001CDE,
  0x001CE0_001CE1_001CEA_001CEB_001CED_001CEE_00A830_00A836,
  0x00A838_00A839_110000_110000_110000_110000_110000_110000]

/-- Where the two properties differ about Shavian. -/
def sharedShavian : CodePoints := .ofRows [
  0x0000B7_0000B8_110000_110000_110000_110000_110000_110000]

/-- Where the two properties differ about Sinhala. -/
def sharedSinhala : CodePoints := .ofRows [
  0x000964_000966_001CF2_001CF3_110000_110000_110000_110000]

/-- Where the two properties differ about Sogdian. -/
def sharedSogdian : CodePoints := .ofRows [
  0x000640_000641_110000_110000_110000_110000_110000_110000]

/-- Where the two properties differ about Sunuwar. -/
def sharedSunuwar : CodePoints := .ofRows [
  0x000300_000302_000303_000304_00030D_00030E_000310_000311,
  0x00032D_00032E_000331_000332_110000_110000_110000_110000]

/-- Where the two properties differ about Syloti Nagri. -/
def sharedSylotiNagri : CodePoints := .ofRows [
  0x000964_000966_0009E6_0009F0_110000_110000_110000_110000]

/-- Where the two properties differ about Syriac. -/
def sharedSyriac : CodePoints := .ofRows [
  0x000303_000305_000307_000309_00030A_00030B_000323_000326,
  0x00032D_00032F_000330_000332_00060C_00060D_00061B_00061D,
  0x00061F_000620_000640_000641_00064B_000656_000670_000671,
  0x001DF8_001DF9_001DFA_001DFB_110000_110000_110000_110000]

/-- Where the two properties differ about Tagalog. -/
def sharedTagalog : CodePoints := .ofRows [
  0x001735_001737_110000_110000_110000_110000_110000_110000]

/-- Where the two properties differ about Tagbanwa. -/
def sharedTagbanwa : CodePoints := .ofRows [
  0x001735_001737_110000_110000_110000_110000_110000_110000]

/-- Where the two properties differ about Tai Le. -/
def sharedTaiLe : CodePoints := .ofRows [
  0x000300_000302_000307_000309_00030C_00030D_001040_00104A]

/-- Where the two properties differ about Takri. -/
def sharedTakri : CodePoints := .ofRows [
  0x000964_000966_00A830_00A83A_110000_110000_110000_110000]

/-- Where the two properties differ about Tamil. -/
def sharedTamil : CodePoints := .ofRows [
  0x000951_000953_000964_000966_001CDA_001CDB_00A8F3_00A8F4,
  0x011301_011302_011303_011304_01133B_01133D_110000_110000]

/-- Where the two properties differ about Tangut. -/
def sharedTangut : CodePoints := .ofRows [
  0x002FF0_003000_0031EF_0031F0_110000_110000_110000_110000]

/-- Where the two properties differ about Telugu. -/
def sharedTelugu : CodePoints := .ofRows [
  0x000951_000953_000964_000966_001CD5_001CD7_001CD8_001CD9,
  0x001CDA_001CDB_001CF2_001CF3_110000_110000_110000_110000]

/-- Where the two properties differ about Thaana. -/
def sharedThaana : CodePoints := .ofRows [
  0x00060C_00060D_00061B_00061D_00061F_000620_000660_00066A,
  0x00FDF2_00FDF3_00FDFD_00FDFE_110000_110000_110000_110000]

/-- Where the two properties differ about Thai. -/
def sharedThai : CodePoints := .ofRows [
  0x0002BC_0002BD_0002D7_0002D8_000303_000304_000331_000332]

/-- Where the two properties differ about Tibetan. -/
def sharedTibetan : CodePoints := .ofRows [
  0x003008_00300C_110000_110000_110000_110000_110000_110000]

/-- Where the two properties differ about Tifinagh. -/
def sharedTifinagh : CodePoints := .ofRows [
  0x000302_000303_000304_000305_000306_00030A_000323_000324]

/-- Where the two properties differ about Tirhuta. -/
def sharedTirhuta : CodePoints := .ofRows [
  0x000951_000953_000964_000966_001CD5_001CD6_001CE2_001CE3,
  0x001CF2_001CF3_00A830_00A83A_110000_110000_110000_110000]

/-- Where the two properties differ about Todhri. -/
def sharedTodhri : CodePoints := .ofRows [
  0x000301_000302_000304_000305_000307_000308_000311_000312,
  0x000313_000314_00035E_00035F_110000_110000_110000_110000]

/-- Where the two properties differ about Toto. -/
def sharedToto : CodePoints := .ofRows [
  0x0002BC_0002BD_110000_110000_110000_110000_110000_110000]

/-- Where the two properties differ about Tulu Tigalari. -/
def sharedTuluTigalari : CodePoints := .ofRows [
  0x000CE6_000CF0_001CF2_001CF3_001CF4_001CF5_00A830_00A836,
  0x00A8F1_00A8F2_110000_110000_110000_110000_110000_110000]

/-- Where the two properties differ about Yezidi. -/
def sharedYezidi : CodePoints := .ofRows [
  0x00060C_00060D_00061B_00061C_00061F_000620_000660_00066A]

/-- Where the two properties differ about Yi. -/
def sharedYi : CodePoints := .ofRows [
  0x003001_003003_003008_003012_003014_00301C_0030FB_0030FC,
  0x00FF61_00FF66_110000_110000_110000_110000_110000_110000]

end LinkedShapes.Unicode
