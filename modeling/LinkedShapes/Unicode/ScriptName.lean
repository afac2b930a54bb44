import LinkedShapes.Unicode.Script
import LinkedShapes.Unicode.ScriptExtension

/-!
# Names of scripts

Every script has a long name and a code of four letters, some have a second code. The names are
in lower case and have no separators.
-/

namespace LinkedShapes.Unicode

/-- A script with its names. -/
structure NamedScript where
  names : List String
  points : CodePoints
  /-- Where Script_Extensions differs from Script, if it does. -/
  shared : Option CodePoints

/-- The scripts that have characters. -/
def scripts : List NamedScript := [
  ⟨["adlam", "adlm"], scriptAdlam, some sharedAdlam⟩,
  ⟨["ahom"], scriptAhom, none⟩,
  ⟨["anatolianhieroglyphs", "hluw"], scriptAnatolianHieroglyphs, none⟩,
  ⟨["arabic", "arab"], scriptArabic, some sharedArabic⟩,
  ⟨["armenian", "armn"], scriptArmenian, some sharedArmenian⟩,
  ⟨["avestan", "avst"], scriptAvestan, some sharedAvestan⟩,
  ⟨["balinese", "bali"], scriptBalinese, none⟩,
  ⟨["bamum", "bamu"], scriptBamum, none⟩,
  ⟨["bassavah", "bass"], scriptBassaVah, none⟩,
  ⟨["batak", "batk"], scriptBatak, none⟩,
  ⟨["bengali", "beng"], scriptBengali, some sharedBengali⟩,
  ⟨["bhaiksuki", "bhks"], scriptBhaiksuki, none⟩,
  ⟨["bopomofo", "bopo"], scriptBopomofo, some sharedBopomofo⟩,
  ⟨["brahmi", "brah"], scriptBrahmi, none⟩,
  ⟨["braille", "brai"], scriptBraille, none⟩,
  ⟨["buginese", "bugi"], scriptBuginese, some sharedBuginese⟩,
  ⟨["buhid", "buhd"], scriptBuhid, some sharedBuhid⟩,
  ⟨["canadianaboriginal", "cans"], scriptCanadianAboriginal, none⟩,
  ⟨["carian", "cari"], scriptCarian, some sharedCarian⟩,
  ⟨["caucasianalbanian", "aghb"], scriptCaucasianAlbanian, some sharedCaucasianAlbanian⟩,
  ⟨["chakma", "cakm"], scriptChakma, some sharedChakma⟩,
  ⟨["cham"], scriptCham, none⟩,
  ⟨["cherokee", "cher"], scriptCherokee, some sharedCherokee⟩,
  ⟨["chorasmian", "chrs"], scriptChorasmian, none⟩,
  ⟨["common", "zyyy"], scriptCommon, some sharedCommon⟩,
  ⟨["coptic", "copt", "qaac"], scriptCoptic, some sharedCoptic⟩,
  ⟨["cuneiform", "xsux"], scriptCuneiform, none⟩,
  ⟨["cypriot", "cprt"], scriptCypriot, some sharedCypriot⟩,
  ⟨["cyprominoan", "cpmn"], scriptCyproMinoan, some sharedCyproMinoan⟩,
  ⟨["cyrillic", "cyrl"], scriptCyrillic, some sharedCyrillic⟩,
  ⟨["deseret", "dsrt"], scriptDeseret, none⟩,
  ⟨["devanagari", "deva"], scriptDevanagari, some sharedDevanagari⟩,
  ⟨["divesakuru", "diak"], scriptDivesAkuru, none⟩,
  ⟨["dogra", "dogr"], scriptDogra, some sharedDogra⟩,
  ⟨["duployan", "dupl"], scriptDuployan, some sharedDuployan⟩,
  ⟨["egyptianhieroglyphs", "egyp"], scriptEgyptianHieroglyphs, none⟩,
  ⟨["elbasan", "elba"], scriptElbasan, some sharedElbasan⟩,
  ⟨["elymaic", "elym"], scriptElymaic, none⟩,
  ⟨["ethiopic", "ethi"], scriptEthiopic, some sharedEthiopic⟩,
  ⟨["garay", "gara"], scriptGaray, some sharedGaray⟩,
  ⟨["georgian", "geor"], scriptGeorgian, some sharedGeorgian⟩,
  ⟨["glagolitic", "glag"], scriptGlagolitic, some sharedGlagolitic⟩,
  ⟨["gothic", "goth"], scriptGothic, some sharedGothic⟩,
  ⟨["grantha", "gran"], scriptGrantha, some sharedGrantha⟩,
  ⟨["greek", "grek"], scriptGreek, some sharedGreek⟩,
  ⟨["gujarati", "gujr"], scriptGujarati, some sharedGujarati⟩,
  ⟨["gunjalagondi", "gong"], scriptGunjalaGondi, some sharedGunjalaGondi⟩,
  ⟨["gurmukhi", "guru"], scriptGurmukhi, some sharedGurmukhi⟩,
  ⟨["gurungkhema", "gukh"], scriptGurungKhema, some sharedGurungKhema⟩,
  ⟨["han", "hani"], scriptHan, some sharedHan⟩,
  ⟨["hangul", "hang"], scriptHangul, some sharedHangul⟩,
  ⟨["hanifirohingya", "rohg"], scriptHanifiRohingya, some sharedHanifiRohingya⟩,
  ⟨["hanunoo", "hano"], scriptHanunoo, some sharedHanunoo⟩,
  ⟨["hatran", "hatr"], scriptHatran, none⟩,
  ⟨["hebrew", "hebr"], scriptHebrew, some sharedHebrew⟩,
  ⟨["hiragana", "hira"], scriptHiragana, some sharedHiragana⟩,
  ⟨["imperialaramaic", "armi"], scriptImperialAramaic, none⟩,
  ⟨["inherited", "zinh", "qaai"], scriptInherited, some sharedInherited⟩,
  ⟨["inscriptionalpahlavi", "phli"], scriptInscriptionalPahlavi, none⟩,
  ⟨["inscriptionalparthian", "prti"], scriptInscriptionalParthian, none⟩,
  ⟨["javanese", "java"], scriptJavanese, some sharedJavanese⟩,
  ⟨["kaithi", "kthi"], scriptKaithi, some sharedKaithi⟩,
  ⟨["kannada", "knda"], scriptKannada, some sharedKannada⟩,
  ⟨["katakana", "kana"], scriptKatakana, some sharedKatakana⟩,
  ⟨["kawi"], scriptKawi, none⟩,
  ⟨["kayahli", "kali"], scriptKayahLi, some sharedKayahLi⟩,
  ⟨["kharoshthi", "khar"], scriptKharoshthi, none⟩,
  ⟨["khitansmallscript", "kits"], scriptKhitanSmallScript, none⟩,
  ⟨["khmer", "khmr"], scriptKhmer, none⟩,
  ⟨["khojki", "khoj"], scriptKhojki, some sharedKhojki⟩,
  ⟨["khudawadi", "sind"], scriptKhudawadi, some sharedKhudawadi⟩,
  ⟨["kiratrai", "krai"], scriptKiratRai, none⟩,
  ⟨["lao", "laoo"], scriptLao, none⟩,
  ⟨["latin", "latn"], scriptLatin, some sharedLatin⟩,
  ⟨["lepcha", "lepc"], scriptLepcha, none⟩,
  ⟨["limbu", "limb"], scriptLimbu, some sharedLimbu⟩,
  ⟨["lineara", "lina"], scriptLinearA, some sharedLinearA⟩,
  ⟨["linearb", "linb"], scriptLinearB, some sharedLinearB⟩,
  ⟨["lisu"], scriptLisu, some sharedLisu⟩,
  ⟨["lycian", "lyci"], scriptLycian, some sharedLycian⟩,
  ⟨["lydian", "lydi"], scriptLydian, some sharedLydian⟩,
  ⟨["mahajani", "mahj"], scriptMahajani, some sharedMahajani⟩,
  ⟨["makasar", "maka"], scriptMakasar, none⟩,
  ⟨["malayalam", "mlym"], scriptMalayalam, some sharedMalayalam⟩,
  ⟨["mandaic", "mand"], scriptMandaic, some sharedMandaic⟩,
  ⟨["manichaean", "mani"], scriptManichaean, some sharedManichaean⟩,
  ⟨["marchen", "marc"], scriptMarchen, none⟩,
  ⟨["masaramgondi", "gonm"], scriptMasaramGondi, some sharedMasaramGondi⟩,
  ⟨["medefaidrin", "medf"], scriptMedefaidrin, none⟩,
  ⟨["meeteimayek", "mtei"], scriptMeeteiMayek, none⟩,
  ⟨["mendekikakui", "mend"], scriptMendeKikakui, none⟩,
  ⟨["meroiticcursive", "merc"], scriptMeroiticCursive, none⟩,
  ⟨["meroitichieroglyphs", "mero"], scriptMeroiticHieroglyphs, some sharedMeroiticHieroglyphs⟩,
  ⟨["miao", "plrd"], scriptMiao, none⟩,
  ⟨["modi"], scriptModi, some sharedModi⟩,
  ⟨["mongolian", "mong"], scriptMongolian, some sharedMongolian⟩,
  ⟨["mro", "mroo"], scriptMro, none⟩,
  ⟨["multani", "mult"], scriptMultani, some sharedMultani⟩,
  ⟨["myanmar", "mymr"], scriptMyanmar, some sharedMyanmar⟩,
  ⟨["nabataean", "nbat"], scriptNabataean, none⟩,
  ⟨["nagmundari", "nagm"], scriptNagMundari, none⟩,
  ⟨["nandinagari", "nand"], scriptNandinagari, some sharedNandinagari⟩,
  ⟨["newtailue", "talu"], scriptNewTaiLue, none⟩,
  ⟨["newa"], scriptNewa, some sharedNewa⟩,
  ⟨["nko", "nkoo"], scriptNko, some sharedNko⟩,
  ⟨["nushu", "nshu"], scriptNushu, none⟩,
  ⟨["nyiakengpuachuehmong", "hmnp"], scriptNyiakengPuachueHmong, none⟩,
  ⟨["ogham", "ogam"], scriptOgham, none⟩,
  ⟨["olchiki", "olck"], scriptOlChiki, none⟩,
  ⟨["olonal", "onao"], scriptOlOnal, some sharedOlOnal⟩,
  ⟨["oldhungarian", "hung"], scriptOldHungarian, some sharedOldHungarian⟩,
  ⟨["olditalic", "ital"], scriptOldItalic, none⟩,
  ⟨["oldnortharabian", "narb"], scriptOldNorthArabian, none⟩,
  ⟨["oldpermic", "perm"], scriptOldPermic, some sharedOldPermic⟩,
  ⟨["oldpersian", "xpeo"], scriptOldPersian, none⟩,
  ⟨["oldsogdian", "sogo"], scriptOldSogdian, none⟩,
  ⟨["oldsoutharabian", "sarb"], scriptOldSouthArabian, none⟩,
  ⟨["oldturkic", "orkh"], scriptOldTurkic, some sharedOldTurkic⟩,
  ⟨["olduyghur", "ougr"], scriptOldUyghur, some sharedOldUyghur⟩,
  ⟨["oriya", "orya"], scriptOriya, some sharedOriya⟩,
  ⟨["osage", "osge"], scriptOsage, some sharedOsage⟩,
  ⟨["osmanya", "osma"], scriptOsmanya, none⟩,
  ⟨["pahawhhmong", "hmng"], scriptPahawhHmong, none⟩,
  ⟨["palmyrene", "palm"], scriptPalmyrene, none⟩,
  ⟨["paucinhau", "pauc"], scriptPauCinHau, none⟩,
  ⟨["phagspa", "phag"], scriptPhagsPa, some sharedPhagsPa⟩,
  ⟨["phoenician", "phnx"], scriptPhoenician, none⟩,
  ⟨["psalterpahlavi", "phlp"], scriptPsalterPahlavi, some sharedPsalterPahlavi⟩,
  ⟨["rejang", "rjng"], scriptRejang, none⟩,
  ⟨["runic", "runr"], scriptRunic, some sharedRunic⟩,
  ⟨["samaritan", "samr"], scriptSamaritan, some sharedSamaritan⟩,
  ⟨["saurashtra", "saur"], scriptSaurashtra, none⟩,
  ⟨["sharada", "shrd"], scriptSharada, some sharedSharada⟩,
  ⟨["shavian", "shaw"], scriptShavian, some sharedShavian⟩,
  ⟨["siddham", "sidd"], scriptSiddham, none⟩,
  ⟨["signwriting", "sgnw"], scriptSignWriting, none⟩,
  ⟨["sinhala", "sinh"], scriptSinhala, some sharedSinhala⟩,
  ⟨["sogdian", "sogd"], scriptSogdian, some sharedSogdian⟩,
  ⟨["sorasompeng", "sora"], scriptSoraSompeng, none⟩,
  ⟨["soyombo", "soyo"], scriptSoyombo, none⟩,
  ⟨["sundanese", "sund"], scriptSundanese, none⟩,
  ⟨["sunuwar", "sunu"], scriptSunuwar, some sharedSunuwar⟩,
  ⟨["sylotinagri", "sylo"], scriptSylotiNagri, some sharedSylotiNagri⟩,
  ⟨["syriac", "syrc"], scriptSyriac, some sharedSyriac⟩,
  ⟨["tagalog", "tglg"], scriptTagalog, some sharedTagalog⟩,
  ⟨["tagbanwa", "tagb"], scriptTagbanwa, some sharedTagbanwa⟩,
  ⟨["taile", "tale"], scriptTaiLe, some sharedTaiLe⟩,
  ⟨["taitham", "lana"], scriptTaiTham, none⟩,
  ⟨["taiviet", "tavt"], scriptTaiViet, none⟩,
  ⟨["takri", "takr"], scriptTakri, some sharedTakri⟩,
  ⟨["tamil", "taml"], scriptTamil, some sharedTamil⟩,
  ⟨["tangsa", "tnsa"], scriptTangsa, none⟩,
  ⟨["tangut", "tang"], scriptTangut, some sharedTangut⟩,
  ⟨["telugu", "telu"], scriptTelugu, some sharedTelugu⟩,
  ⟨["thaana", "thaa"], scriptThaana, some sharedThaana⟩,
  ⟨["thai"], scriptThai, some sharedThai⟩,
  ⟨["tibetan", "tibt"], scriptTibetan, some sharedTibetan⟩,
  ⟨["tifinagh", "tfng"], scriptTifinagh, some sharedTifinagh⟩,
  ⟨["tirhuta", "tirh"], scriptTirhuta, some sharedTirhuta⟩,
  ⟨["todhri", "todr"], scriptTodhri, some sharedTodhri⟩,
  ⟨["toto"], scriptToto, some sharedToto⟩,
  ⟨["tulutigalari", "tutg"], scriptTuluTigalari, some sharedTuluTigalari⟩,
  ⟨["ugaritic", "ugar"], scriptUgaritic, none⟩,
  ⟨["vai", "vaii"], scriptVai, none⟩,
  ⟨["vithkuqi", "vith"], scriptVithkuqi, none⟩,
  ⟨["wancho", "wcho"], scriptWancho, none⟩,
  ⟨["warangciti", "wara"], scriptWarangCiti, none⟩,
  ⟨["yezidi", "yezi"], scriptYezidi, some sharedYezidi⟩,
  ⟨["yi", "yiii"], scriptYi, some sharedYi⟩,
  ⟨["zanabazarsquare", "zanb"], scriptZanabazarSquare, none⟩]

end LinkedShapes.Unicode
