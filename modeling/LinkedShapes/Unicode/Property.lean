import LinkedShapes.Unicode.CodePoints

/-!
# Binary properties

Properties that hold of a code point or not. Those that nearly coincide with another set are
given by the code points where the two differ.
-/

namespace LinkedShapes.Unicode

/-- The code points with the property Bidi_Control. -/
def bidiControl : CodePoints := .ofRows [
  0x00061C_00061D_00200E_002010_00202A_00202F_002066_00206A]

/-- The code points with the property Bidi_Mirrored. -/
def bidiMirrored : CodePoints := .ofRows [
  0x000028_00002A_00003C_00003D_00003E_00003F_00005B_00005C,
  0x00005D_00005E_00007B_00007C_00007D_00007E_0000AB_0000AC,
  0x0000BB_0000BC_000F3A_000F3E_00169B_00169D_002039_00203B,
  0x002045_002047_00207D_00207F_00208D_00208F_002140_002141,
  0x002201_002205_002208_00220E_002211_002212_002215_002217,
  0x00221A_00221E_00221F_002223_002224_002225_002226_002227,
  0x00222B_002234_002239_00223A_00223B_00224D_002252_002256,
  0x00225F_002261_002262_002263_002264_00226C_00226D_00228D,
  0x00228F_002293_002298_002299_0022A2_0022A4_0022A6_0022B9,
  0x0022BE_0022C0_0022C9_0022CE_0022D0_0022D2_0022D6_0022EE,
  0x0022F0_002300_002308_00230C_002320_002322_002329_00232B,
  0x002768_002776_0027C0_0027C1_0027C3_0027C7_0027C8_0027CA,
  0x0027CB_0027CE_0027D3_0027D7_0027DC_0027DF_0027E2_0027F0,
  0x002983_002999_00299B_0029A1_0029A2_0029B0_0029B8_0029B9,
  0x0029C0_0029C6_0029C9_0029CA_0029CE_0029D3_0029D4_0029D6,
  0x0029D8_0029DD_0029E1_0029E2_0029E3_0029E6_0029E8_0029EA,
  0x0029F4_0029FA_0029FC_0029FE_002A0A_002A1D_002A1E_002A22,
  0x002A24_002A25_002A26_002A27_002A29_002A2A_002A2B_002A2F,
  0x002A34_002A36_002A3C_002A3F_002A57_002A59_002A64_002A66,
  0x002A6A_002A6E_002A6F_002A71_002A73_002A75_002A79_002AA4,
  0x002AA6_002AAE_002AAF_002AD7_002ADC_002ADD_002ADE_002ADF,
  0x002AE2_002AE7_002AEC_002AEF_002AF3_002AF4_002AF7_002AFC,
  0x002AFD_002AFE_002BFE_002BFF_002E02_002E06_002E09_002E0B,
  0x002E0C_002E0E_002E1C_002E1E_002E20_002E2A_002E55_002E5D,
  0x003008_003012_003014_00301C_00FE59_00FE5F_00FE64_00FE66,
  0x00FF08_00FF0A_00FF1C_00FF1D_00FF1E_00FF1F_00FF3B_00FF3C,
  0x00FF3D_00FF3E_00FF5B_00FF5C_00FF5D_00FF5E_00FF5F_00FF61,
  0x00FF62_00FF64_01D6DB_01D6DC_01D715_01D716_01D74F_01D750,
  0x01D789_01D78A_01D7C3_01D7C4_110000_110000_110000_110000]

/-- The code points with the property Dash. -/
def dash : CodePoints := .ofRows [
  0x00002D_00002E_00058A_00058B_0005BE_0005BF_001400_001401,
  0x001806_001807_002010_002016_002053_002054_00207B_00207C,
  0x00208B_00208C_002212_002213_002E17_002E18_002E1A_002E1B,
  0x002E3A_002E3C_002E40_002E41_002E5D_002E5E_00301C_00301D,
  0x003030_003031_0030A0_0030A1_00FE31_00FE33_00FE58_00FE59,
  0x00FE63_00FE64_00FF0D_00FF0E_010D6E_010D6F_010EAD_010EAE]

/-- The code points with the property Default_Ignorable_Code_Point. -/
def defaultIgnorableCodePoint : CodePoints := .ofRows [
  0x0000AD_0000AE_00034F_000350_00061C_00061D_00115F_001161,
  0x0017B4_0017B6_00180B_001810_00200B_002010_00202A_00202F,
  0x002060_002070_003164_003165_00FE00_00FE10_00FEFF_00FF00,
  0x00FFA0_00FFA1_00FFF0_00FFF9_01BCA0_01BCA4_01D173_01D17B,
  0x0E0000_0E1000_110000_110000_110000_110000_110000_110000]

/-- The code points with the property Deprecated. -/
def deprecated : CodePoints := .ofRows [
  0x000149_00014A_000673_000674_000F77_000F78_000F79_000F7A,
  0x0017A3_0017A5_00206A_002070_002329_00232B_0E0001_0E0002]

/-- The code points with the property Diacritic. -/
def diacritic : CodePoints := .ofRows [
  0x00005E_00005F_000060_000061_0000A8_0000A9_0000AF_0000B0,
  0x0000B4_0000B5_0000B7_0000B9_0002B0_00034F_000350_000358,
  0x00035D_000363_000374_000376_00037A_00037B_000384_000386,
  0x000483_000488_000559_00055A_000591_0005BE_0005BF_0005C0,
  0x0005C1_0005C3_0005C4_0005C6_0005C7_0005C8_00064B_000653,
  0x000657_000659_0006DF_0006E1_0006E5_0006E7_0006EA_0006ED,
  0x000730_00074B_0007A6_0007B1_0007EB_0007F6_000818_00081A,
  0x000898_0008A0_0008C9_0008D3_0008E3_0008FF_00093C_00093D,
  0x00094D_00094E_000951_000955_000971_000972_0009BC_0009BD,
  0x0009CD_0009CE_000A3C_000A3D_000A4D_000A4E_000ABC_000ABD,
  0x000ACD_000ACE_000AFD_000B00_000B3C_000B3D_000B4D_000B4E,
  0x000B55_000B56_000BCD_000BCE_000C3C_000C3D_000C4D_000C4E,
  0x000CBC_000CBD_000CCD_000CCE_000D3B_000D3D_000D4D_000D4E,
  0x000DCA_000DCB_000E3A_000E3B_000E47_000E4D_000E4E_000E4F,
  0x000EBA_000EBB_000EC8_000ECD_000F18_000F1A_000F35_000F36,
  0x000F37_000F38_000F39_000F3A_000F3E_000F40_000F82_000F85,
  0x000F86_000F88_000FC6_000FC7_001037_001038_001039_00103B,
  0x001063_001065_001069_00106E_001087_00108E_00108F_001090,
  0x00109A_00109C_00135D_001360_001714_001716_001734_001735,
  0x0017C9_0017D4_0017DD_0017DE_001939_00193C_001A60_001A61,
  0x001A75_001A7D_001A7F_001A80_001AB0_001ABF_001AC1_001ACC,
  0x001ACF_001ADE_001AE0_001AEC_001B34_001B35_001B44_001B45,
  0x001B6B_001B74_001BAA_001BAC_001BE6_001BE7_001BF2_001BF4,
  0x001C36_001C38_001C78_001C7E_001CD0_001CE9_001CED_001CEE,
  0x001CF4_001CF5_001CF7_001CFA_001D2C_001D6B_001D9B_001DBF,
  0x001DC4_001DD0_001DF5_001E00_001FBD_001FBE_001FBF_001FC2,
  0x001FCD_001FD0_001FDD_001FE0_001FED_001FF0_001FFD_001FFF,
  0x002CEF_002CF2_002E2F_002E30_00302A_003030_003099_00309D,
  0x0030FC_0030FD_00A66F_00A670_00A67C_00A67E_00A67F_00A680,
  0x00A69C_00A69E_00A6F0_00A6F2_00A700_00A722_00A788_00A78B,
  0x00A7F1_00A7F2_00A7F8_00A7FA_00A806_00A807_00A82C_00A82D,
  0x00A8C4_00A8C5_00A8E0_00A8F2_00A92B_00A92F_00A953_00A954,
  0x00A9B3_00A9B4_00A9C0_00A9C1_00A9E5_00A9E6_00AA7B_00AA7E,
  0x00AABF_00AAC3_00AAF6_00AAF7_00AB5B_00AB60_00AB69_00AB6C,
  0x00ABEC_00ABEE_00FB1E_00FB1F_00FE20_00FE30_00FF3E_00FF3F,
  0x00FF40_00FF41_00FF70_00FF71_00FF9E_00FFA0_00FFE3_00FFE4,
  0x0102E0_0102E1_010780_010786_010787_0107B1_0107B2_0107BB,
  0x010A38_010A3B_010A3F_010A40_010AE5_010AE7_010D22_010D28,
  0x010D4E_010D4F_010D69_010D6E_010EFA_010EFB_010EFD_010F00,
  0x010F46_010F51_010F82_010F86_011046_011047_011070_011071,
  0x0110B9_0110BB_011133_011135_011173_011174_0111C0_0111C1,
  0x0111CA_0111CD_011235_011237_0112E9_0112EB_01133B_01133D,
  0x01134D_01134E_011366_01136D_011370_011375_0113CE_0113D1,
  0x0113D2_0113D4_0113E1_0113E3_011442_011443_011446_011447,
  0x0114C2_0114C4_0115BF_0115C1_01163F_011640_0116B6_0116B8,
  0x01172B_01172C_011839_01183B_01193D_01193F_011943_011944,
  0x0119E0_0119E1_011A34_011A35_011A47_011A48_011A99_011A9A,
  0x011C3F_011C40_011D42_011D43_011D44_011D46_011D97_011D98,
  0x011DD9_011DDA_011F41_011F43_011F5A_011F5B_013447_013456,
  0x01612F_016130_016AF0_016AF5_016B30_016B37_016D6B_016D6D,
  0x016F8F_016FA0_016FF0_016FF2_01AFF0_01AFF4_01AFF5_01AFFC,
  0x01AFFD_01AFFF_01CF00_01CF2E_01CF30_01CF47_01D167_01D16A,
  0x01D16D_01D173_01D17B_01D183_01D185_01D18C_01D1AA_01D1AE,
  0x01E030_01E06E_01E130_01E137_01E2AE_01E2AF_01E2EC_01E2F0,
  0x01E5EE_01E5F0_01E8D0_01E8D7_01E944_01E947_01E948_01E94B]

/-- The code points with the property Emoji. -/
def emoji : CodePoints := .ofRows [
  0x000023_000024_00002A_00002B_000030_00003A_0000A9_0000AA,
  0x0000AE_0000AF_00203C_00203D_002049_00204A_002122_002123,
  0x002139_00213A_002194_00219A_0021A9_0021AB_00231A_00231C,
  0x002328_002329_0023CF_0023D0_0023E9_0023F4_0023F8_0023FB,
  0x0024C2_0024C3_0025AA_0025AC_0025B6_0025B7_0025C0_0025C1,
  0x0025FB_0025FF_002600_002605_00260E_00260F_002611_002612,
  0x002614_002616_002618_002619_00261D_00261E_002620_002621,
  0x002622_002624_002626_002627_00262A_00262B_00262E_002630,
  0x002638_00263B_002640_002641_002642_002643_002648_002654,
  0x00265F_002661_002663_002664_002665_002667_002668_002669,
  0x00267B_00267C_00267E_002680_002692_002698_002699_00269A,
  0x00269B_00269D_0026A0_0026A2_0026A7_0026A8_0026AA_0026AC,
  0x0026B0_0026B2_0026BD_0026BF_0026C4_0026C6_0026C8_0026C9,
  0x0026CE_0026D0_0026D1_0026D2_0026D3_0026D5_0026E9_0026EB,
  0x0026F0_0026F6_0026F7_0026FB_0026FD_0026FE_002702_002703,
  0x002705_002706_002708_00270E_00270F_002710_002712_002713,
  0x002714_002715_002716_002717_00271D_00271E_002721_002722,
  0x002728_002729_002733_002735_002744_002745_002747_002748,
  0x00274C_00274D_00274E_00274F_002753_002756_002757_002758,
  0x002763_002765_002795_002798_0027A1_0027A2_0027B0_0027B1,
  0x0027BF_0027C0_002934_002936_002B05_002B08_002B1B_002B1D,
  0x002B50_002B51_002B55_002B56_003030_003031_00303D_00303E,
  0x003297_003298_003299_00329A_01F004_01F005_01F0CF_01F0D0,
  0x01F170_01F172_01F17E_01F180_01F18E_01F18F_01F191_01F19B,
  0x01F1E6_01F200_01F201_01F203_01F21A_01F21B_01F22F_01F230,
  0x01F232_01F23B_01F250_01F252_01F300_01F322_01F324_01F394,
  0x01F396_01F398_01F399_01F39C_01F39E_01F3F1_01F3F3_01F3F6,
  0x01F3F7_01F4FE_01F4FF_01F53E_01F549_01F54F_01F550_01F568,
  0x01F56F_01F571_01F573_01F57B_01F587_01F588_01F58A_01F58E,
  0x01F590_01F591_01F595_01F597_01F5A4_01F5A6_01F5A8_01F5A9,
  0x01F5B1_01F5B3_01F5BC_01F5BD_01F5C2_01F5C5_01F5D1_01F5D4,
  0x01F5DC_01F5DF_01F5E1_01F5E2_01F5E3_01F5E4_01F5E8_01F5E9,
  0x01F5EF_01F5F0_01F5F3_01F5F4_01F5FA_01F650_01F680_01F6C6,
  0x01F6CB_01F6D3_01F6D5_01F6D9_01F6DC_01F6E6_01F6E9_01F6EA,
  0x01F6EB_01F6ED_01F6F0_01F6F1_01F6F3_01F6FD_01F7E0_01F7EC,
  0x01F7F0_01F7F1_01F90C_01F93B_01F93C_01F946_01F947_01FA00,
  0x01FA70_01FA7D_01FA80_01FA8B_01FA8E_01FAC7_01FAC8_01FAC9,
  0x01FACD_01FADD_01FADF_01FAEB_01FAEF_01FAF9_110000_110000]

/-- The code points with the property Emoji_Component. -/
def emojiComponent : CodePoints := .ofRows [
  0x000023_000024_00002A_00002B_000030_00003A_00200D_00200E,
  0x0020E3_0020E4_00FE0F_00FE10_01F1E6_01F200_01F3FB_01F400,
  0x01F9B0_01F9B4_0E0020_0E0080_110000_110000_110000_110000]

/-- The code points with the property Emoji_Modifier. -/
def emojiModifier : CodePoints := .ofRows [
  0x01F3FB_01F400_110000_110000_110000_110000_110000_110000]

/-- The code points with the property Emoji_Modifier_Base. -/
def emojiModifierBase : CodePoints := .ofRows [
  0x00261D_00261E_0026F9_0026FA_00270A_00270E_01F385_01F386,
  0x01F3C2_01F3C5_01F3C7_01F3C8_01F3CA_01F3CD_01F442_01F444,
  0x01F446_01F451_01F466_01F479_01F47C_01F47D_01F481_01F484,
  0x01F485_01F488_01F48F_01F490_01F491_01F492_01F4AA_01F4AB,
  0x01F574_01F576_01F57A_01F57B_01F590_01F591_01F595_01F597,
  0x01F645_01F648_01F64B_01F650_01F6A3_01F6A4_01F6B4_01F6B7,
  0x01F6C0_01F6C1_01F6CC_01F6CD_01F90C_01F90D_01F90F_01F910,
  0x01F918_01F920_01F926_01F927_01F930_01F93A_01F93C_01F93F,
  0x01F977_01F978_01F9B5_01F9B7_01F9B8_01F9BA_01F9BB_01F9BC,
  0x01F9CD_01F9D0_01F9D1_01F9DE_01FAC3_01FAC6_01FAF0_01FAF9]

/-- The code points with the property Emoji_Presentation. -/
def emojiPresentation : CodePoints := .ofRows [
  0x00231A_00231C_0023E9_0023ED_0023F0_0023F1_0023F3_0023F4,
  0x0025FD_0025FF_002614_002616_002648_002654_00267F_002680,
  0x002693_002694_0026A1_0026A2_0026AA_0026AC_0026BD_0026BF,
  0x0026C4_0026C6_0026CE_0026CF_0026D4_0026D5_0026EA_0026EB,
  0x0026F2_0026F4_0026F5_0026F6_0026FA_0026FB_0026FD_0026FE,
  0x002705_002706_00270A_00270C_002728_002729_00274C_00274D,
  0x00274E_00274F_002753_002756_002757_002758_002795_002798,
  0x0027B0_0027B1_0027BF_0027C0_002B1B_002B1D_002B50_002B51,
  0x002B55_002B56_01F004_01F005_01F0CF_01F0D0_01F18E_01F18F,
  0x01F191_01F19B_01F1E6_01F200_01F201_01F202_01F21A_01F21B,
  0x01F22F_01F230_01F232_01F237_01F238_01F23B_01F250_01F252,
  0x01F300_01F321_01F32D_01F336_01F337_01F37D_01F37E_01F394,
  0x01F3A0_01F3CB_01F3CF_01F3D4_01F3E0_01F3F1_01F3F4_01F3F5,
  0x01F3F8_01F43F_01F440_01F441_01F442_01F4FD_01F4FF_01F53E,
  0x01F54B_01F54F_01F550_01F568_01F57A_01F57B_01F595_01F597,
  0x01F5A4_01F5A5_01F5FB_01F650_01F680_01F6C6_01F6CC_01F6CD,
  0x01F6D0_01F6D3_01F6D5_01F6D9_01F6DC_01F6E0_01F6EB_01F6ED,
  0x01F6F4_01F6FD_01F7E0_01F7EC_01F7F0_01F7F1_01F90C_01F93B,
  0x01F93C_01F946_01F947_01FA00_01FA70_01FA7D_01FA80_01FA8B,
  0x01FA8E_01FAC7_01FAC8_01FAC9_01FACD_01FADD_01FADF_01FAEB,
  0x01FAEF_01FAF9_110000_110000_110000_110000_110000_110000]

/-- The code points with the property Extended_Pictographic. -/
def extendedPictographic : CodePoints := .ofRows [
  0x0000A9_0000AA_0000AE_0000AF_00203C_00203D_002049_00204A,
  0x002122_002123_002139_00213A_002194_00219A_0021A9_0021AB,
  0x00231A_00231C_002328_002329_0023CF_0023D0_0023E9_0023F4,
  0x0023F8_0023FB_0024C2_0024C3_0025AA_0025AC_0025B6_0025B7,
  0x0025C0_0025C1_0025FB_0025FF_002600_002605_00260E_00260F,
  0x002611_002612_002614_002616_002618_002619_00261D_00261E,
  0x002620_002621_002622_002624_002626_002627_00262A_00262B,
  0x00262E_002630_002638_00263B_002640_002641_002642_002643,
  0x002648_002654_00265F_002661_002663_002664_002665_002667,
  0x002668_002669_00267B_00267C_00267E_002680_002692_002698,
  0x002699_00269A_00269B_00269D_0026A0_0026A2_0026A7_0026A8,
  0x0026AA_0026AC_0026B0_0026B2_0026BD_0026BF_0026C4_0026C6,
  0x0026C8_0026C9_0026CE_0026D0_0026D1_0026D2_0026D3_0026D5,
  0x0026E9_0026EB_0026F0_0026F6_0026F7_0026FB_0026FD_0026FE,
  0x002702_002703_002705_002706_002708_00270E_00270F_002710,
  0x002712_002713_002714_002715_002716_002717_00271D_00271E,
  0x002721_002722_002728_002729_002733_002735_002744_002745,
  0x002747_002748_00274C_00274D_00274E_00274F_002753_002756,
  0x002757_002758_002763_002765_002795_002798_0027A1_0027A2,
  0x0027B0_0027B1_0027BF_0027C0_002934_002936_002B05_002B08,
  0x002B1B_002B1D_002B50_002B51_002B55_002B56_003030_003031,
  0x00303D_00303E_003297_003298_003299_00329A_01F004_01F005,
  0x01F02C_01F030_01F094_01F0A0_01F0AF_01F0B1_01F0C0_01F0C1,
  0x01F0CF_01F0D1_01F0F6_01F100_01F170_01F172_01F17E_01F180,
  0x01F18E_01F18F_01F191_01F19B_01F1AE_01F1E6_01F201_01F210,
  0x01F21A_01F21B_01F22F_01F230_01F232_01F23B_01F23C_01F240,
  0x01F249_01F260_01F266_01F322_01F324_01F394_01F396_01F398,
  0x01F399_01F39C_01F39E_01F3F1_01F3F3_01F3F6_01F3F7_01F3FB,
  0x01F400_01F4FE_01F4FF_01F53E_01F549_01F54F_01F550_01F568,
  0x01F56F_01F571_01F573_01F57B_01F587_01F588_01F58A_01F58E,
  0x01F590_01F591_01F595_01F597_01F5A4_01F5A6_01F5A8_01F5A9,
  0x01F5B1_01F5B3_01F5BC_01F5BD_01F5C2_01F5C5_01F5D1_01F5D4,
  0x01F5DC_01F5DF_01F5E1_01F5E2_01F5E3_01F5E4_01F5E8_01F5E9,
  0x01F5EF_01F5F0_01F5F3_01F5F4_01F5FA_01F650_01F680_01F6C6,
  0x01F6CB_01F6D3_01F6D5_01F6E6_01F6E9_01F6EA_01F6EB_01F6F1,
  0x01F6F3_01F700_01F7DA_01F800_01F80C_01F810_01F848_01F850,
  0x01F85A_01F860_01F888_01F890_01F8AE_01F8B0_01F8BC_01F8C0,
  0x01F8C2_01F8D0_01F8D9_01F900_01F90C_01F93B_01F93C_01F946,
  0x01F947_01FA00_01FA58_01FA60_01FA6E_01FB00_01FC00_01FFFE]

/-- The code points with the property Extender. -/
def extender : CodePoints := .ofRows [
  0x0000B7_0000B8_0002D0_0002D2_000640_000641_0007FA_0007FB,
  0x000A71_000A72_000AFB_000AFC_000B55_000B56_000E46_000E47,
  0x000EC6_000EC7_00180A_00180B_001843_001844_001AA7_001AA8,
  0x001C36_001C37_001C7B_001C7C_003005_003006_003031_003036,
  0x00309D_00309F_0030FC_0030FF_00A015_00A016_00A60C_00A60D,
  0x00A9CF_00A9D0_00A9E6_00A9E7_00AA70_00AA71_00AADD_00AADE,
  0x00AAF3_00AAF5_00FF70_00FF71_010781_010783_010D4E_010D4F,
  0x010D6A_010D6B_010D6F_010D70_011237_011238_01135D_01135E,
  0x0113D2_0113D4_0115C6_0115C9_011A98_011A99_011DD9_011DDA,
  0x016B42_016B44_016FE0_016FE2_016FE3_016FE4_016FF2_016FF4,
  0x01E13C_01E13E_01E5EF_01E5F0_01E944_01E947_110000_110000]

/-- The code points with the property Hex_Digit. -/
def hexDigit : CodePoints := .ofRows [
  0x000030_00003A_000041_000047_000061_000067_00FF10_00FF1A,
  0x00FF21_00FF27_00FF41_00FF47_110000_110000_110000_110000]

/-- The code points with the property IDS_Binary_Operator. -/
def idsBinaryOperator : CodePoints := .ofRows [
  0x002FF0_002FF2_002FF4_002FFE_0031EF_0031F0_110000_110000]

/-- The code points with the property IDS_Trinary_Operator. -/
def idsTrinaryOperator : CodePoints := .ofRows [
  0x002FF2_002FF4_110000_110000_110000_110000_110000_110000]

/-- The code points with the property Ideographic. -/
def ideographic : CodePoints := .ofRows [
  0x003006_003008_003021_00302A_003038_00303B_003400_004DC0,
  0x004E00_00A000_00F900_00FA6E_00FA70_00FADA_016FE4_016FE5,
  0x016FF2_016FF7_017000_018CD6_018CFF_018D1F_018D80_018DF3,
  0x01B170_01B2FC_020000_02A6E0_02A700_02B81E_02B820_02CEAE,
  0x02CEB0_02EBE1_02EBF0_02EE5E_02F800_02FA1E_030000_03134B,
  0x031350_03347A_110000_110000_110000_110000_110000_110000]

/-- The code points with the property Join_Control. -/
def joinControl : CodePoints := .ofRows [
  0x00200C_00200E_110000_110000_110000_110000_110000_110000]

/-- The code points with the property Logical_Order_Exception. -/
def logicalOrderException : CodePoints := .ofRows [
  0x000E40_000E45_000EC0_000EC5_0019B5_0019B8_0019BA_0019BB,
  0x00AAB5_00AAB7_00AAB9_00AABA_00AABB_00AABD_110000_110000]

/-- The code points with the property Math. -/
def math : CodePoints := .ofRows [
  0x00002B_00002C_00003C_00003F_00005E_00005F_00007C_00007D,
  0x00007E_00007F_0000AC_0000AD_0000B1_0000B2_0000D7_0000D8,
  0x0000F7_0000F8_0003D0_0003D3_0003D5_0003D6_0003F0_0003F2,
  0x0003F4_0003F7_000606_000609_002016_002017_002032_002035,
  0x002040_002041_002044_002045_002052_002053_002061_002065,
  0x00207A_00207F_00208A_00208F_0020D0_0020DD_0020E1_0020E2,
  0x0020E5_0020E7_0020EB_0020F0_002102_002103_002107_002108,
  0x00210A_002114_002115_002116_002118_00211E_002124_002125,
  0x002128_00212A_00212C_00212E_00212F_002132_002133_002139,
  0x00213C_00214A_00214B_00214C_002190_0021A8_0021A9_0021AF,
  0x0021B0_0021B2_0021B6_0021B8_0021BC_0021DC_0021DD_0021DE,
  0x0021E4_0021E6_0021F4_002300_002308_00230C_002320_002322,
  0x00237C_00237D_00239B_0023B6_0023B7_0023B8_0023D0_0023D1,
  0x0023DC_0023E3_0025A0_0025A2_0025AE_0025B8_0025BC_0025C2,
  0x0025C6_0025C8_0025CA_0025CC_0025CF_0025D4_0025E2_0025E3,
  0x0025E4_0025E5_0025E7_0025ED_0025F8_002600_002605_002607,
  0x002640_002641_002642_002643_002660_002664_00266D_002670,
  0x0027C0_002800_002900_002B00_002B30_002B45_002B47_002B4D,
  0x00FB29_00FB2A_00FE61_00FE67_00FE68_00FE69_00FF0B_00FF0C,
  0x00FF1C_00FF1F_00FF3C_00FF3D_00FF3E_00FF3F_00FF5C_00FF5D,
  0x00FF5E_00FF5F_00FFE2_00FFE3_00FFE9_00FFED_010D8E_010D90,
  0x01CEF0_01CEF1_01D400_01D455_01D456_01D49D_01D49E_01D4A0,
  0x01D4A2_01D4A3_01D4A5_01D4A7_01D4A9_01D4AD_01D4AE_01D4BA,
  0x01D4BB_01D4BC_01D4BD_01D4C4_01D4C5_01D506_01D507_01D50B,
  0x01D50D_01D515_01D516_01D51D_01D51E_01D53A_01D53B_01D53F,
  0x01D540_01D545_01D546_01D547_01D54A_01D551_01D552_01D6A6,
  0x01D6A8_01D7CC_01D7CE_01D800_01EE00_01EE04_01EE05_01EE20,
  0x01EE21_01EE23_01EE24_01EE25_01EE27_01EE28_01EE29_01EE33,
  0x01EE34_01EE38_01EE39_01EE3A_01EE3B_01EE3C_01EE42_01EE43,
  0x01EE47_01EE48_01EE49_01EE4A_01EE4B_01EE4C_01EE4D_01EE50,
  0x01EE51_01EE53_01EE54_01EE55_01EE57_01EE58_01EE59_01EE5A,
  0x01EE5B_01EE5C_01EE5D_01EE5E_01EE5F_01EE60_01EE61_01EE63,
  0x01EE64_01EE65_01EE67_01EE6B_01EE6C_01EE73_01EE74_01EE78,
  0x01EE79_01EE7D_01EE7E_01EE7F_01EE80_01EE8A_01EE8B_01EE9C,
  0x01EEA1_01EEA4_01EEA5_01EEAA_01EEAB_01EEBC_01EEF0_01EEF2,
  0x01F8D0_01F8D9_110000_110000_110000_110000_110000_110000]

/-- The code points with the property Noncharacter_Code_Point. -/
def noncharacterCodePoint : CodePoints := .ofRows [
  0x00FDD0_00FDF0_00FFFE_010000_01FFFE_020000_02FFFE_030000,
  0x03FFFE_040000_04FFFE_050000_05FFFE_060000_06FFFE_070000,
  0x07FFFE_080000_08FFFE_090000_09FFFE_0A0000_0AFFFE_0B0000,
  0x0BFFFE_0C0000_0CFFFE_0D0000_0DFFFE_0E0000_0EFFFE_0F0000,
  0x0FFFFE_100000_10FFFE_110000_110000_110000_110000_110000]

/-- The code points with the property Pattern_Syntax. -/
def patternSyntax : CodePoints := .ofRows [
  0x000021_000030_00003A_000041_00005B_00005F_000060_000061,
  0x00007B_00007F_0000A1_0000A8_0000A9_0000AA_0000AB_0000AD,
  0x0000AE_0000AF_0000B0_0000B2_0000B6_0000B7_0000BB_0000BC,
  0x0000BF_0000C0_0000D7_0000D8_0000F7_0000F8_002010_002028,
  0x002030_00203F_002041_002054_002055_00205F_002190_002460,
  0x002500_002776_002794_002C00_002E00_002E80_003001_003004,
  0x003008_003021_003030_003031_00FD3E_00FD40_00FE45_00FE47]

/-- The code points with the property Pattern_White_Space. -/
def patternWhiteSpace : CodePoints := .ofRows [
  0x000009_00000E_000020_000021_000085_000086_00200E_002010,
  0x002028_00202A_110000_110000_110000_110000_110000_110000]

/-- The code points with the property Quotation_Mark. -/
def quotationMark : CodePoints := .ofRows [
  0x000022_000023_000027_000028_0000AB_0000AC_0000BB_0000BC,
  0x002018_002020_002039_00203B_002E42_002E43_00300C_003010,
  0x00301D_003020_00FE41_00FE45_00FF02_00FF03_00FF07_00FF08,
  0x00FF62_00FF64_110000_110000_110000_110000_110000_110000]

/-- The code points with the property Radical. -/
def radical : CodePoints := .ofRows [
  0x002E80_002E9A_002E9B_002EF4_002F00_002FD6_110000_110000]

/-- The code points with the property Regional_Indicator. -/
def regionalIndicator : CodePoints := .ofRows [
  0x01F1E6_01F200_110000_110000_110000_110000_110000_110000]

/-- The code points with the property Sentence_Terminal. -/
def sentenceTerminal : CodePoints := .ofRows [
  0x000021_000022_00002E_00002F_00003F_000040_000589_00058A,
  0x00061D_000620_0006D4_0006D5_000700_000703_0007F9_0007FA,
  0x000837_000838_000839_00083A_00083D_00083F_000964_000966,
  0x00104A_00104C_001362_001363_001367_001369_00166E_00166F,
  0x001735_001737_0017D4_0017D6_001803_001804_001809_00180A,
  0x001944_001946_001AA8_001AAC_001B4E_001B50_001B5A_001B5C,
  0x001B5E_001B60_001B7D_001B80_001C3B_001C3D_001C7E_001C80,
  0x002024_002025_00203C_00203E_002047_00204A_002CF9_002CFC,
  0x002E2E_002E2F_002E3C_002E3D_002E53_002E55_003002_003003,
  0x00A4FF_00A500_00A60E_00A610_00A6F3_00A6F4_00A6F7_00A6F8,
  0x00A876_00A878_00A8CE_00A8D0_00A92F_00A930_00A9C8_00A9CA,
  0x00AA5D_00AA60_00AAF0_00AAF2_00ABEB_00ABEC_00FE12_00FE13,
  0x00FE15_00FE17_00FE52_00FE53_00FE56_00FE58_00FF01_00FF02,
  0x00FF0E_00FF0F_00FF1F_00FF20_00FF61_00FF62_010A56_010A58,
  0x010F55_010F5A_010F86_010F8A_011047_011049_0110BE_0110C2,
  0x011141_011144_0111C5_0111C7_0111CD_0111CE_0111DE_0111E0,
  0x011238_01123A_01123B_01123D_0112A9_0112AA_0113D4_0113D6,
  0x01144B_01144D_0115C2_0115C4_0115C9_0115D8_011641_011643,
  0x01173C_01173F_011944_011945_011946_011947_011A42_011A44,
  0x011A9B_011A9D_011C41_011C43_011EF7_011EF9_011F43_011F45,
  0x016A6E_016A70_016AF5_016AF6_016B37_016B39_016B44_016B45,
  0x016D6E_016D70_016E98_016E99_01BC9F_01BCA0_01DA88_01DA89]

/-- The code points with the property Soft_Dotted. -/
def softDotted : CodePoints := .ofRows [
  0x000069_00006B_00012F_000130_000249_00024A_000268_000269,
  0x00029D_00029E_0002B2_0002B3_0003F3_0003F4_000456_000457,
  0x000458_000459_001D62_001D63_001D96_001D97_001DA4_001DA5,
  0x001DA8_001DA9_001E2D_001E2E_001ECB_001ECC_002071_002072,
  0x002148_00214A_002C7C_002C7D_01D422_01D424_01D456_01D458,
  0x01D48A_01D48C_01D4BE_01D4C0_01D4F2_01D4F4_01D526_01D528,
  0x01D55A_01D55C_01D58E_01D590_01D5C2_01D5C4_01D5F6_01D5F8,
  0x01D62A_01D62C_01D65E_01D660_01D692_01D694_01DF1A_01DF1B,
  0x01E04C_01E04E_01E068_01E069_110000_110000_110000_110000]

/-- The code points with the property Terminal_Punctuation. -/
def terminalPunctuation : CodePoints := .ofRows [
  0x000021_000022_00002C_00002D_00002E_00002F_00003A_00003C,
  0x00003F_000040_00037E_00037F_000387_000388_000589_00058A,
  0x0005C3_0005C4_00060C_00060D_00061B_00061C_00061D_000620,
  0x0006D4_0006D5_000700_00070B_00070C_00070D_0007F8_0007FA,
  0x000830_000836_000837_00083F_00085E_00085F_000964_000966,
  0x000E5A_000E5C_000F08_000F09_000F0D_000F13_00104A_00104C,
  0x001361_001369_00166E_00166F_0016EB_0016EE_001735_001737,
  0x0017D4_0017D7_0017DA_0017DB_001802_001806_001808_00180A,
  0x001944_001946_001AA8_001AAC_001B4E_001B50_001B5A_001B5C,
  0x001B5D_001B60_001B7D_001B80_001C3B_001C40_001C7E_001C80,
  0x002024_002025_00203C_00203E_002047_00204A_002CF9_002CFC,
  0x002E2E_002E2F_002E3C_002E3D_002E41_002E42_002E4C_002E4D,
  0x002E4E_002E50_002E53_002E55_003001_003003_00A4FE_00A500,
  0x00A60D_00A610_00A6F3_00A6F8_00A876_00A878_00A8CE_00A8D0,
  0x00A92F_00A930_00A9C7_00A9CA_00AA5D_00AA60_00AADF_00AAE0,
  0x00AAF0_00AAF2_00ABEB_00ABEC_00FE12_00FE13_00FE15_00FE17,
  0x00FE50_00FE53_00FE54_00FE58_00FF01_00FF02_00FF0C_00FF0D,
  0x00FF0E_00FF0F_00FF1A_00FF1C_00FF1F_00FF20_00FF61_00FF62,
  0x00FF64_00FF65_01039F_0103A0_0103D0_0103D1_010857_010858,
  0x01091F_010920_010A56_010A58_010AF0_010AF6_010B3A_010B40,
  0x010B99_010B9D_010F55_010F5A_010F86_010F8A_011047_01104E,
  0x0110BE_0110C2_011141_011144_0111C5_0111C7_0111CD_0111CE,
  0x0111DE_0111E0_011238_01123D_0112A9_0112AA_0113D4_0113D6,
  0x01144B_01144E_01145A_01145C_0115C2_0115C6_0115C9_0115D8,
  0x011641_011643_01173C_01173F_011944_011945_011946_011947,
  0x011A42_011A44_011A9B_011A9D_011AA1_011AA3_011C41_011C44,
  0x011C71_011C72_011EF7_011EF9_011F43_011F45_012470_012475,
  0x016A6E_016A70_016AF5_016AF6_016B37_016B3A_016B44_016B45,
  0x016D6E_016D70_016E97_016E99_01BC9F_01BCA0_01DA87_01DA8B]

/-- The code points with the property Unified_Ideograph. -/
def unifiedIdeograph : CodePoints := .ofRows [
  0x003400_004DC0_004E00_00A000_00FA0E_00FA10_00FA11_00FA12,
  0x00FA13_00FA15_00FA1F_00FA20_00FA21_00FA22_00FA23_00FA25,
  0x00FA27_00FA2A_020000_02A6E0_02A700_02B81E_02B820_02CEAE,
  0x02CEB0_02EBE1_02EBF0_02EE5E_030000_03134B_031350_03347A]

/-- The code points with the property Variation_Selector. -/
def variationSelector : CodePoints := .ofRows [
  0x00180B_00180E_00180F_001810_00FE00_00FE10_0E0100_0E01F0]

/-- The code points with the property White_Space. -/
def whiteSpace : CodePoints := .ofRows [
  0x000009_00000E_000020_000021_000085_000086_0000A0_0000A1,
  0x001680_001681_002000_00200B_002028_00202A_00202F_002030,
  0x00205F_002060_003000_003001_110000_110000_110000_110000]

/-- The code points with the property Lowercase outside the category Ll. -/
def otherLowercase : CodePoints := .ofRows [
  0x0000AA_0000AB_0000BA_0000BB_0002B0_0002B9_0002C0_0002C2,
  0x0002E0_0002E5_000345_000346_00037A_00037B_0010FC_0010FD,
  0x001D2C_001D6B_001D78_001D79_001D9B_001DC0_002071_002072,
  0x00207F_002080_002090_00209D_002170_002180_0024D0_0024EA,
  0x002C7C_002C7E_00A69C_00A69E_00A770_00A771_00A7F1_00A7F5,
  0x00A7F8_00A7FA_00AB5C_00AB60_00AB69_00AB6A_010780_010781,
  0x010783_010786_010787_0107B1_0107B2_0107BB_01E030_01E06E]

/-- The code points with the property Uppercase outside the category Lu. -/
def otherUppercase : CodePoints := .ofRows [
  0x002160_002170_0024B6_0024D0_01F130_01F14A_01F150_01F16A,
  0x01F170_01F18A_110000_110000_110000_110000_110000_110000]

/-- Where Changes_When_Lowercased and Uppercase differ. -/
def lowercasedBesideUppercase : CodePoints := .ofRows [
  0x0001C5_0001C6_0001C8_0001C9_0001CB_0001CC_0001F2_0001F3,
  0x0003D2_0003D5_001F88_001F90_001F98_001FA0_001FA8_001FB0,
  0x001FBC_001FBD_001FCC_001FCD_001FFC_001FFD_002102_002103,
  0x002107_002108_00210B_00210E_002110_002113_002115_002116,
  0x002119_00211E_002124_002125_002128_002129_00212C_00212E,
  0x002130_002132_002133_002134_00213E_002140_002145_002146,
  0x01D400_01D41A_01D434_01D44E_01D468_01D482_01D49C_01D49D,
  0x01D49E_01D4A0_01D4A2_01D4A3_01D4A5_01D4A7_01D4A9_01D4AD,
  0x01D4AE_01D4B6_01D4D0_01D4EA_01D504_01D506_01D507_01D50B,
  0x01D50D_01D515_01D516_01D51D_01D538_01D53A_01D53B_01D53F,
  0x01D540_01D545_01D546_01D547_01D54A_01D551_01D56C_01D586,
  0x01D5A0_01D5BA_01D5D4_01D5EE_01D608_01D622_01D63C_01D656,
  0x01D670_01D68A_01D6A8_01D6C1_01D6E2_01D6FB_01D71C_01D735,
  0x01D756_01D76F_01D790_01D7A9_01D7CA_01D7CB_01F130_01F14A,
  0x01F150_01F16A_01F170_01F18A_110000_110000_110000_110000]

/-- Where Changes_When_Uppercased and Lowercase differ. -/
def uppercasedBesideLowercase : CodePoints := .ofRows [
  0x0000AA_0000AB_0000BA_0000BB_000138_000139_00018D_00018E,
  0x0001AA_0001AC_0001BA_0001BB_0001BE_0001BF_0001C5_0001C6,
  0x0001C8_0001C9_0001CB_0001CC_0001F2_0001F3_000221_000222,
  0x000234_00023A_000255_000256_000258_000259_00025A_00025B,
  0x00025D_000260_000262_000263_000267_000268_00026D_00026F,
  0x000270_000271_000273_000275_000276_00027D_00027E_000280,
  0x000281_000282_000284_000287_00028D_000292_000293_000294,
  0x000296_00029D_00029F_0002B9_0002C0_0002C2_0002E0_0002E5,
  0x00037A_00037B_0003FC_0003FD_000560_000561_000588_000589,
  0x0010FC_0010FD_001D00_001D79_001D7A_001D7D_001D7E_001D8E,
  0x001D8F_001DC0_001E9C_001E9E_001E9F_001EA0_001F88_001F90,
  0x001F98_001FA0_001FA8_001FB0_001FBC_001FBD_001FCC_001FCD,
  0x001FFC_001FFD_002071_002072_00207F_002080_002090_00209D,
  0x00210A_00210B_00210E_002110_002113_002114_00212F_002130,
  0x002134_002135_002139_00213A_00213C_00213E_002146_00214A,
  0x002C71_002C72_002C74_002C75_002C77_002C7E_002CE4_002CE5,
  0x00A69C_00A69E_00A730_00A732_00A770_00A779_00A78E_00A78F,
  0x00A795_00A796_00A7AF_00A7B0_00A7F1_00A7F5_00A7F8_00A7FB,
  0x00AB30_00AB53_00AB54_00AB5B_00AB5C_00AB6A_010780_010781,
  0x010783_010786_010787_0107B1_0107B2_0107BB_01D41A_01D434,
  0x01D44E_01D455_01D456_01D468_01D482_01D49C_01D4B6_01D4BA,
  0x01D4BB_01D4BC_01D4BD_01D4C4_01D4C5_01D4D0_01D4EA_01D504,
  0x01D51E_01D538_01D552_01D56C_01D586_01D5A0_01D5BA_01D5D4,
  0x01D5EE_01D608_01D622_01D63C_01D656_01D670_01D68A_01D6A6,
  0x01D6C2_01D6DB_01D6DC_01D6E2_01D6FC_01D715_01D716_01D71C,
  0x01D736_01D74F_01D750_01D756_01D770_01D789_01D78A_01D790,
  0x01D7AA_01D7C3_01D7C4_01D7CA_01D7CB_01D7CC_01DF00_01DF0A,
  0x01DF0B_01DF1F_01DF25_01DF2B_01E030_01E06E_110000_110000]

/-- Where Changes_When_Titlecased and Changes_When_Uppercased differ. -/
def titlecasedBesideUppercased : CodePoints := .ofRows [
  0x0001C4_0001C6_0001C7_0001C9_0001CA_0001CC_0001F1_0001F3,
  0x0010D0_0010FB_0010FD_001100_001F88_001F90_001F98_001FA0,
  0x001FA8_001FB0_001FBC_001FBD_001FCC_001FCD_001FFC_001FFD]

/-- Where Changes_When_Casefolded and Changes_When_Lowercased differ. -/
def casefoldedBesideLowercased : CodePoints := .ofRows [
  0x0000B5_0000B6_0000DF_0000E0_000149_00014A_00017F_000180,
  0x000345_000346_0003C2_0003C3_0003D0_0003D2_0003D5_0003D7,
  0x0003F0_0003F2_0003F5_0003F6_000587_000588_0013A0_0013F6,
  0x0013F8_0013FE_001C80_001C89_001E9A_001E9C_001F80_001F88,
  0x001F90_001F98_001FA0_001FA8_001FB2_001FB5_001FB7_001FB8,
  0x001FC2_001FC5_001FC7_001FC8_001FF2_001FF5_001FF7_001FF8,
  0x00AB70_00ABC0_00FB00_00FB07_00FB13_00FB18_110000_110000]

/-- The code points of ID_Start beyond letters and letter numbers. -/
def otherIdStart : CodePoints := .ofRows [
  0x001885_001887_002118_002119_00212E_00212F_002E2F_002E30,
  0x00309B_00309D_110000_110000_110000_110000_110000_110000]

/-- The code points of ID_Continue beyond ID_Start and the categories Mn, Mc, Nd and Pc. -/
def otherIdContinue : CodePoints := .ofRows [
  0x0000B7_0000B8_000387_000388_001369_001372_0019DA_0019DB,
  0x00200C_00200E_0030FB_0030FC_00FF65_00FF66_110000_110000]

/-- Where XID_Start and ID_Start differ. -/
def xidStartBesideIdStart : CodePoints := .ofRows [
  0x00037A_00037B_000E33_000E34_000EB3_000EB4_00309B_00309D,
  0x00FC5E_00FC64_00FDFA_00FDFC_00FE70_00FE71_00FE72_00FE73,
  0x00FE74_00FE75_00FE76_00FE77_00FE78_00FE79_00FE7A_00FE7B,
  0x00FE7C_00FE7D_00FE7E_00FE7F_00FF9E_00FFA0_110000_110000]

/-- Where XID_Continue and ID_Continue differ. -/
def xidContinueBesideIdContinue : CodePoints := .ofRows [
  0x00037A_00037B_00309B_00309D_00FC5E_00FC64_00FDFA_00FDFC,
  0x00FE70_00FE71_00FE72_00FE73_00FE74_00FE75_00FE76_00FE77,
  0x00FE78_00FE79_00FE7A_00FE7B_00FE7C_00FE7D_00FE7E_00FE7F]

end LinkedShapes.Unicode
