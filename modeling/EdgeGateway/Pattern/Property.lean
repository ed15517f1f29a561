import EdgeGateway.Text.Category

/-!
# Named character properties

The classes that a pattern can name: general categories, scripts and a few two-valued properties.
Names are compared without regard to case, blanks, hyphens and underscores.
-/

namespace EdgeGateway.Pattern

open EdgeGateway.Text (Ranges rangesOfRuns categoryRanges maxCodePoint whitespaceRanges)

/-- The runs of scripts, by their four letters. -/
def scriptRuns : String :=
  String.join [
    "65Zyyy26Latn6Zyyy26Latn47Zyyy1Latn15Zyyy1Latn5Zyyy23Latn1Zyyy31Latn1Zyyy449Latn39Zyyy5Latn5Zyyy2",
    "Bopo20Zyyy112Zinh4Grek1Zyyy3Grek2Zzzz4Grek1Zyyy1Grek4Zzzz1Grek1Zyyy1Grek1Zyyy3Grek1Zzzz1Grek1Zzz",
    "z20Grek1Zzzz63Grek14Copt16Grek133Cyrl2Zinh169Cyrl1Zzzz38Armn2Zzzz50Armn2Zzzz3Armn1Zzzz55Hebr8Zzz",
    "z27Hebr4Zzzz6Hebr11Zzzz5Arab1Zyyy6Arab1Zyyy14Arab1Zyyy3Arab1Zyyy32Arab1Zyyy10Arab11Zinh26Arab1Zi",
    "nh108Arab1Zyyy34Arab14Syrc1Zzzz60Syrc2Zzzz3Syrc48Arab50Thaa14Zzzz59Nkoo2Zzzz3Nkoo46Samr2Zzzz15Sa",
    "mr1Zzzz28Mand2Zzzz1Mand1Zzzz11Syrc5Zzzz31Arab1Zzzz2Arab6Zzzz74Arab1Zyyy29Arab81Deva4Zinh15Deva2Z",
    "yyy26Deva4Beng1Zzzz8Beng2Zzzz2Beng2Zzzz22Beng1Zzzz7Beng1Zzzz1Beng3Zzzz4Beng2Zzzz9Beng2Zzzz2Beng2",
    "Zzzz4Beng8Zzzz1Beng4Zzzz2Beng1Zzzz5Beng2Zzzz25Beng2Zzzz3Guru1Zzzz6Guru4Zzzz2Guru2Zzzz22Guru1Zzzz",
    "7Guru1Zzzz2Guru1Zzzz2Guru1Zzzz2Guru2Zzzz1Guru1Zzzz5Guru4Zzzz2Guru2Zzzz3Guru3Zzzz1Guru7Zzzz4Guru1",
    "Zzzz1Guru7Zzzz17Guru10Zzzz3Gujr1Zzzz9Gujr1Zzzz3Gujr1Zzzz22Gujr1Zzzz7Gujr1Zzzz2Gujr1Zzzz5Gujr2Zzz",
    "z10Gujr1Zzzz3Gujr1Zzzz3Gujr2Zzzz1Gujr15Zzzz4Gujr2Zzzz12Gujr7Zzzz7Gujr1Zzzz3Orya1Zzzz8Orya2Zzzz2O",
    "rya2Zzzz22Orya1Zzzz7Orya1Zzzz2Orya1Zzzz5Orya2Zzzz9Orya2Zzzz2Orya2Zzzz3Orya7Zzzz3Orya4Zzzz2Orya1Z",
    "zzz5Orya2Zzzz18Orya10Zzzz2Taml1Zzzz6Taml3Zzzz3Taml1Zzzz4Taml3Zzzz2Taml1Zzzz1Taml1Zzzz2Taml3Zzzz2",
    "Taml3Zzzz3Taml3Zzzz12Taml4Zzzz5Taml3Zzzz3Taml1Zzzz4Taml2Zzzz1Taml6Zzzz1Taml14Zzzz21Taml5Zzzz13Te",
    "lu1Zzzz3Telu1Zzzz23Telu1Zzzz16Telu2Zzzz9Telu1Zzzz3Telu1Zzzz4Telu7Zzzz2Telu1Zzzz3Telu2Zzzz1Telu2Z",
    "zzz4Telu2Zzzz10Telu7Zzzz9Telu13Knda1Zzzz3Knda1Zzzz23Knda1Zzzz10Knda1Zzzz5Knda2Zzzz9Knda1Zzzz3Knd",
    "a1Zzzz4Knda7Zzzz2Knda6Zzzz2Knda1Zzzz4Knda2Zzzz10Knda1Zzzz3Knda12Zzzz13Mlym1Zzzz3Mlym1Zzzz51Mlym1",
    "Zzzz3Mlym1Zzzz6Mlym4Zzzz16Mlym2Zzzz26Mlym1Zzzz3Sinh1Zzzz18Sinh3Zzzz24Sinh1Zzzz9Sinh1Zzzz1Sinh2Zz",
    "zz7Sinh3Zzzz1Sinh4Zzzz6Sinh1Zzzz1Sinh1Zzzz8Sinh6Zzzz10Sinh2Zzzz3Sinh12Zzzz58Thai4Zzzz1Zyyy28Thai",
    "37Zzzz2Laoo1Zzzz1Laoo1Zzzz5Laoo1Zzzz24Laoo1Zzzz1Laoo1Zzzz23Laoo2Zzzz5Laoo1Zzzz1Laoo1Zzzz7Laoo1Zz",
    "zz10Laoo2Zzzz4Laoo32Zzzz72Tibt1Zzzz36Tibt4Zzzz39Tibt1Zzzz36Tibt1Zzzz15Tibt1Zzzz7Tibt4Zyyy2Tibt37",
    "Zzzz160Mymr38Geor1Zzzz1Geor5Zzzz1Geor2Zzzz43Geor1Zyyy4Geor256Hang73Ethi1Zzzz4Ethi2Zzzz7Ethi1Zzzz",
    "1Ethi1Zzzz4Ethi2Zzzz41Ethi1Zzzz4Ethi2Zzzz33Ethi1Zzzz4Ethi2Zzzz7Ethi1Zzzz1Ethi1Zzzz4Ethi2Zzzz15Et",
    "hi1Zzzz57Ethi1Zzzz4Ethi2Zzzz67Ethi2Zzzz32Ethi3Zzzz26Ethi6Zzzz86Cher2Zzzz6Cher2Zzzz640Cans29Ogam3",
    "Zzzz75Runr3Zyyy11Runr7Zzzz22Tglg9Zzzz1Tglg21Hano2Zyyy9Zzzz20Buhd12Zzzz13Tagb1Zzzz3Tagb1Zzzz2Tagb",
    "12Zzzz94Khmr2Zzzz10Khmr6Zzzz10Khmr6Zzzz2Mong2Zyyy1Mong1Zyyy20Mong6Zzzz89Mong7Zzzz43Mong5Zzzz70Ca",
    "ns10Zzzz31Limb1Zzzz12Limb4Zzzz12Limb4Zzzz1Limb3Zzzz12Limb30Tale2Zzzz5Tale11Zzzz44Talu4Zzzz26Talu",
    "6Zzzz11Talu3Zzzz2Talu32Khmr28Bugi2Zzzz2Bugi63Lana1Zzzz29Lana2Zzzz11Lana6Zzzz10Lana6Zzzz14Lana2Zz",
    "zz31Zinh49Zzzz77Bali3Zzzz47Bali1Zzzz64Sund52Batk8Zzzz4Batk56Lepc3Zzzz15Lepc3Zzzz3Lepc48Olck9Cyrl",
    "7Zzzz43Geor2Zzzz3Geor8Sund8Zzzz3Zinh1Zyyy13Zinh1Zyyy7Zinh4Zyyy1Zinh6Zyyy1Zinh3Zyyy2Zinh1Zyyy5Zzz",
    "z38Latn5Grek1Cyrl49Latn5Grek4Latn5Grek13Latn1Cyrl70Latn1Grek64Zinh256Latn22Grek2Zzzz6Grek2Zzzz38",
    "Grek2Zzzz6Grek2Zzzz8Grek1Zzzz1Grek1Zzzz1Grek1Zzzz1Grek1Zzzz31Grek2Zzzz53Grek1Zzzz15Grek1Zzzz14Gr",
    "ek2Zzzz6Grek1Zzzz19Grek2Zzzz3Grek1Zzzz9Grek1Zzzz12Zyyy2Zinh87Zyyy1Zzzz11Zyyy1Latn2Zzzz11Zyyy1Lat",
    "n15Zyyy1Zzzz13Latn3Zzzz33Zyyy15Zzzz33Zinh15Zzzz38Zyyy1Grek3Zyyy2Latn6Zyyy1Latn27Zyyy1Latn17Zyyy4",
    "1Latn3Zyyy4Zzzz663Zyyy25Zzzz11Zyyy21Zzzz928Zyyy256Brai628Zyyy2Zzzz32Zyyy1Zzzz105Zyyy96Glag32Latn",
    "116Copt5Zzzz7Copt38Geor1Zzzz1Geor5Zzzz1Geor2Zzzz56Tfng7Zzzz2Tfng14Zzzz1Tfng23Ethi9Zzzz7Ethi1Zzzz",
    "7Ethi1Zzzz7Ethi1Zzzz7Ethi1Zzzz7Ethi1Zzzz7Ethi1Zzzz7Ethi1Zzzz7Ethi1Zzzz32Cyrl94Zyyy34Zzzz26Hani1Z",
    "zzz89Hani12Zzzz214Hani26Zzzz12Zyyy4Zzzz5Zyyy1Hani1Zyyy1Hani25Zyyy9Hani4Zinh2Hang8Zyyy4Hani4Zyyy1",
    "Zzzz86Hira2Zzzz2Zinh2Zyyy3Hira1Zyyy90Kana2Zyyy3Kana5Zzzz43Bopo1Zzzz94Hang1Zzzz16Zyyy32Bopo36Zyyy",
    "12Zzzz16Kana31Hang1Zzzz64Zyyy31Hang81Zyyy47Kana1Zyyy88Kana168Zyyy6592Hani64Zyyy20992Hani1165Yiii",
    "3Zzzz55Yiii9Zzzz48Lisu300Vaii20Zzzz96Cyrl88Bamu8Zzzz34Zyyy102Latn3Zyyy64Latn5Zzzz2Latn1Zzzz1Latn",
    "1Zzzz5Latn24Zzzz14Latn45Sylo3Zzzz10Zyyy6Zzzz56Phag8Zzzz70Saur8Zzzz12Saur6Zzzz32Deva46Kali1Zyyy1K",
    "ali36Rjng11Zzzz1Rjng29Hang3Zzzz78Java1Zzzz1Zyyy10Java4Zzzz2Java31Mymr1Zzzz55Cham9Zzzz14Cham2Zzzz",
    "10Cham2Zzzz4Cham32Mymr67Tavt24Zzzz5Tavt23Mtei10Zzzz6Ethi2Zzzz6Ethi2Zzzz6Ethi9Zzzz7Ethi1Zzzz7Ethi",
    "1Zzzz43Latn1Zyyy9Latn1Grek4Latn2Zyyy4Zzzz80Cher46Mtei2Zzzz10Mtei6Zzzz11172Hang12Zzzz23Hang4Zzzz4",
    "9Hang8452Zzzz366Hani2Zzzz106Hani38Zzzz7Latn12Zzzz5Armn5Zzzz26Hebr1Zzzz5Hebr1Zzzz1Hebr1Zzzz2Hebr1",
    "Zzzz2Hebr1Zzzz10Hebr115Arab16Zzzz363Arab2Zyyy80Arab2Zzzz54Arab7Zzzz1Arab32Zzzz16Arab16Zinh10Zyyy",
    "6Zzzz14Zinh2Cyrl35Zyyy1Zzzz19Zyyy1Zzzz4Zyyy4Zzzz5Arab1Zzzz135Arab2Zzzz1Zyyy1Zzzz32Zyyy26Latn6Zyy",
    "y26Latn11Zyyy10Kana1Zyyy45Kana2Zyyy31Hang3Zzzz6Hang2Zzzz6Hang2Zzzz6Hang2Zzzz3Hang3Zzzz7Zyyy1Zzzz",
    "7Zyyy10Zzzz5Zyyy2Zzzz12Linb1Zzzz26Linb1Zzzz19Linb1Zzzz2Linb1Zzzz15Linb2Zzzz14Linb34Zzzz123Linb5Z",
    "zzz3Zyyy4Zzzz45Zyyy3Zzzz9Zyyy79Grek1Zzzz13Zyyy3Zzzz1Grek47Zzzz45Zyyy1Zinh130Zzzz29Lyci3Zzzz49Car",
    "i15Zzzz1Zinh27Zyyy4Zzzz36Ital9Zzzz3Ital27Goth5Zzzz43Perm5Zzzz30Ugar1Zzzz1Ugar36Xpeo4Zzzz14Xpeo42",
    "Zzzz80Dsrt48Shaw30Osma2Zzzz10Osma6Zzzz36Osge4Zzzz36Osge4Zzzz40Elba8Zzzz52Aghb11Zzzz1Aghb11Vith1Z",
    "zzz15Vith1Zzzz7Vith1Zzzz2Vith1Zzzz11Vith1Zzzz15Vith1Zzzz7Vith1Zzzz2Vith67Zzzz311Lina9Zzzz22Lina1",
    "0Zzzz8Lina24Zzzz6Latn1Zzzz42Latn1Zzzz9Latn69Zzzz6Cprt2Zzzz1Cprt1Zzzz44Cprt1Zzzz2Cprt3Zzzz1Cprt2Z",
    "zzz1Cprt22Armi1Zzzz9Armi32Palm31Nbat8Zzzz9Nbat48Zzzz19Hatr1Zzzz2Hatr5Zzzz5Hatr28Phnx3Zzzz1Phnx26",
    "Lydi5Zzzz1Lydi64Zzzz32Mero24Merc4Zzzz20Merc2Zzzz46Merc4Khar1Zzzz2Khar5Zzzz8Khar1Zzzz3Khar1Zzzz29",
    "Khar2Zzzz3Khar4Zzzz10Khar7Zzzz9Khar7Zzzz32Sarb32Narb32Zzzz39Mani4Zzzz12Mani9Zzzz54Avst3Zzzz7Avst",
    "22Prti2Zzzz8Prti19Phli5Zzzz8Phli18Phlp7Zzzz4Phlp12Zzzz7Phlp80Zzzz73Orkh55Zzzz51Hung13Zzzz51Hung7",
    "Zzzz6Hung40Rohg8Zzzz10Rohg294Zzzz31Arab1Zzzz42Yezi1Zzzz3Yezi2Zzzz2Yezi75Zzzz3Arab40Sogo8Zzzz42So",
    "gd22Zzzz26Ougr38Zzzz28Chrs20Zzzz23Elym9Zzzz78Brah4Zzzz36Brah9Zzzz1Brah67Kthi10Zzzz1Kthi2Zzzz25So",
    "ra7Zzzz10Sora6Zzzz53Cakm1Zzzz18Cakm8Zzzz39Mahj9Zzzz96Shrd1Zzzz20Sinh11Zzzz18Khoj1Zzzz47Khoj62Zzz",
    "z7Mult1Zzzz1Mult1Zzzz4Mult1Zzzz15Mult1Zzzz11Mult6Zzzz59Sind5Zzzz10Sind6Zzzz4Gran1Zzzz8Gran2Zzzz2",
    "Gran2Zzzz22Gran1Zzzz7Gran1Zzzz2Gran1Zzzz5Gran1Zzzz1Zinh9Gran2Zzzz2Gran2Zzzz3Gran2Zzzz1Gran6Zzzz1",
    "Gran5Zzzz7Gran2Zzzz7Gran3Zzzz5Gran139Zzzz92Newa1Zzzz5Newa30Zzzz72Tirh8Zzzz10Tirh166Zzzz54Sidd2Zz",
    "zz38Sidd34Zzzz69Modi11Zzzz10Modi6Zzzz13Mong19Zzzz58Takr6Zzzz10Takr54Zzzz27Ahom2Zzzz15Ahom4Zzzz23",
    "Ahom185Zzzz60Dogr100Zzzz83Wara12Zzzz1Wara7Diak2Zzzz1Diak2Zzzz8Diak1Zzzz2Diak1Zzzz30Diak1Zzzz2Dia",
    "k2Zzzz12Diak9Zzzz10Diak70Zzzz8Nand2Zzzz46Nand2Zzzz11Nand27Zzzz72Zanb8Zzzz83Soyo13Zzzz16Cans57Pau",
    "c7Zzzz10Deva246Zzzz9Bhks1Zzzz45Bhks1Zzzz14Bhks10Zzzz29Bhks3Zzzz32Marc2Zzzz22Marc1Zzzz14Marc73Zzz",
    "z7Gonm1Zzzz2Gonm1Zzzz44Gonm3Zzzz1Gonm1Zzzz2Gonm1Zzzz9Gonm8Zzzz10Gonm6Zzzz6Gong1Zzzz2Gong1Zzzz37G",
    "ong1Zzzz2Gong1Zzzz6Gong7Zzzz10Gong310Zzzz25Maka7Zzzz17Kawi1Zzzz41Kawi3Zzzz28Kawi86Zzzz1Lisu15Zzz",
    "z50Taml13Zzzz1Taml922Xsux102Zzzz111Xsux1Zzzz5Xsux11Zzzz196Xsux2636Zzzz99Cpmn13Zzzz1110Egyp4010Zz",
    "zz583Hluw8633Zzzz569Bamu7Zzzz31Mroo1Zzzz10Mroo4Zzzz2Mroo79Tnsa1Zzzz10Tnsa6Zzzz30Bass2Zzzz6Bass10",
    "Zzzz70Hmng10Zzzz10Hmng1Zzzz7Hmng1Zzzz21Hmng5Zzzz19Hmng688Zzzz91Medf101Zzzz75Plrd4Zzzz57Plrd7Zzzz",
    "17Plrd64Zzzz1Tang1Nshu2Hani1Kits11Zzzz2Hani14Zzzz6136Tang8Zzzz768Tang470Kits42Zzzz9Tang8935Zzzz4",
    "Kana1Zzzz7Kana1Zzzz2Kana1Zzzz1Kana287Hira3Kana15Zzzz1Hira29Zzzz3Hira2Zzzz1Kana14Zzzz4Kana8Zzzz39",
    "6Nshu2308Zzzz107Dupl5Zzzz13Dupl3Zzzz9Dupl7Zzzz10Dupl2Zzzz4Dupl4Zyyy4700Zzzz46Zinh2Zzzz23Zinh9Zzz",
    "z116Zyyy60Zzzz246Zyyy10Zzzz39Zyyy2Zzzz62Zyyy3Zinh17Zyyy8Zinh2Zyyy7Zinh30Zyyy4Zinh61Zyyy21Zzzz70G",
    "rek122Zzzz20Zyyy12Zzzz20Zyyy12Zzzz87Zyyy9Zzzz25Zyyy135Zzzz85Zyyy1Zzzz71Zyyy1Zzzz2Zyyy2Zzzz1Zyyy2",
    "Zzzz2Zyyy2Zzzz4Zyyy1Zzzz12Zyyy1Zzzz1Zyyy1Zzzz7Zyyy1Zzzz65Zyyy1Zzzz4Zyyy2Zzzz8Zyyy1Zzzz7Zyyy1Zzzz",
    "28Zyyy1Zzzz4Zyyy1Zzzz5Zyyy1Zzzz1Zyyy3Zzzz7Zyyy1Zzzz340Zyyy2Zzzz292Zyyy2Zzzz50Zyyy652Sgnw15Zzzz5S",
    "gnw1Zzzz15Sgnw1104Zzzz31Latn6Zzzz6Latn213Zzzz7Glag1Zzzz17Glag2Zzzz7Glag1Zzzz2Glag1Zzzz5Glag5Zzzz",
    "62Cyrl33Zzzz1Cyrl112Zzzz45Hmnp3Zzzz14Hmnp2Zzzz10Hmnp4Zzzz2Hmnp320Zzzz31Toto17Zzzz58Wcho5Zzzz1Wch",
    "o464Zzzz42Nagm742Zzzz7Ethi1Zzzz4Ethi1Zzzz2Ethi1Zzzz15Ethi1Zzzz197Mend2Zzzz16Mend41Zzzz76Adlm4Zzz",
    "z10Adlm4Zzzz2Adlm785Zzzz68Zyyy76Zzzz61Zyyy194Zzzz4Arab1Zzzz27Arab1Zzzz2Arab1Zzzz1Arab2Zzzz1Arab1",
    "Zzzz10Arab1Zzzz4Arab1Zzzz1Arab1Zzzz1Arab6Zzzz1Arab4Zzzz1Arab1Zzzz1Arab1Zzzz1Arab1Zzzz3Arab1Zzzz2",
    "Arab1Zzzz1Arab2Zzzz1Arab1Zzzz1Arab1Zzzz1Arab1Zzzz1Arab1Zzzz1Arab1Zzzz2Arab1Zzzz1Arab2Zzzz4Arab1Z",
    "zzz7Arab1Zzzz4Arab1Zzzz4Arab1Zzzz1Arab1Zzzz10Arab1Zzzz17Arab5Zzzz3Arab1Zzzz5Arab1Zzzz17Arab52Zzz",
    "z2Arab270Zzzz44Zyyy4Zzzz100Zyyy12Zzzz15Zyyy2Zzzz15Zyyy1Zzzz15Zyyy1Zzzz37Zyyy10Zzzz174Zyyy56Zzzz2",
    "6Zyyy1Hira2Zyyy13Zzzz44Zyyy4Zzzz9Zyyy7Zzzz2Zyyy14Zzzz6Zyyy154Zzzz984Zyyy4Zzzz17Zyyy3Zzzz13Zyyy3Z",
    "zzz119Zyyy4Zzzz95Zyyy6Zzzz12Zyyy4Zzzz1Zyyy15Zzzz12Zyyy4Zzzz56Zyyy8Zzzz10Zyyy6Zzzz40Zyyy8Zzzz30Zy",
    "yy2Zzzz2Zyyy78Zzzz340Zyyy12Zzzz14Zyyy2Zzzz13Zyyy3Zzzz9Zyyy7Zzzz46Zyyy1Zzzz7Zyyy8Zzzz14Zyyy4Zzzz9",
    "Zyyy7Zzzz9Zyyy7Zzzz147Zyyy1Zzzz55Zyyy37Zzzz10Zyyy1030Zzzz42720Hani32Zzzz4154Hani6Zzzz222Hani2Zzz",
    "z5762Hani14Zzzz7473Hani3103Zzzz542Hani1506Zzzz4939Hani5Zzzz4192Hani711761Zzzz1Zyyy30Zzzz96Zyyy12",
    "8Zzzz240Zinh196112Zzzz"]

def scriptNames : List (String × String) :=
  [
    ("", ""), ("adlam", "Adlm"), ("ahom", "Ahom"), ("anatolianhieroglyphs", "Hluw"), ("arabic",
    "Arab"), ("armenian", "Armn"), ("avestan", "Avst"), ("balinese", "Bali"), ("bamum", "Bamu"),
    ("bassavah", "Bass"), ("batak", "Batk"), ("bengali", "Beng"), ("bhaiksuki", "Bhks"),
    ("bopomofo", "Bopo"), ("brahmi", "Brah"), ("braille", "Brai"), ("buginese", "Bugi"),
    ("buhid", "Buhd"), ("canadianaboriginal", "Cans"), ("carian", "Cari"), ("caucasianalbanian",
    "Aghb"), ("chakma", "Cakm"), ("cham", "Cham"), ("cherokee", "Cher"), ("chorasmian", "Chrs"),
    ("common", "Zyyy"), ("coptic", "Copt"), ("cuneiform", "Xsux"), ("cypriot", "Cprt"),
    ("cyprominoan", "Cpmn"), ("cyrillic", "Cyrl"), ("deseret", "Dsrt"), ("devanagari", "Deva"),
    ("divesakuru", "Diak"), ("dogra", "Dogr"), ("duployan", "Dupl"), ("egyptianhieroglyphs",
    "Egyp"), ("elbasan", "Elba"), ("elymaic", "Elym"), ("ethiopic", "Ethi"), ("georgian",
    "Geor"), ("glagolitic", "Glag"), ("gothic", "Goth"), ("grantha", "Gran"), ("greek", "Grek"),
    ("gujarati", "Gujr"), ("gunjalagondi", "Gong"), ("gurmukhi", "Guru"), ("han", "Hani"),
    ("hangul", "Hang"), ("hanifirohingya", "Rohg"), ("hanunoo", "Hano"), ("hatran", "Hatr"),
    ("hebrew", "Hebr"), ("hiragana", "Hira"), ("imperialaramaic", "Armi"), ("inherited",
    "Zinh"), ("inscriptionalpahlavi", "Phli"), ("inscriptionalparthian", "Prti"), ("javanese",
    "Java"), ("kaithi", "Kthi"), ("kannada", "Knda"), ("katakana", "Kana"), ("kawi", "Kawi"),
    ("kayahli", "Kali"), ("kharoshthi", "Khar"), ("khitansmallscript", "Kits"), ("khmer",
    "Khmr"), ("khojki", "Khoj"), ("khudawadi", "Sind"), ("lao", "Laoo"), ("latin", "Latn"),
    ("lepcha", "Lepc"), ("limbu", "Limb"), ("lineara", "Lina"), ("linearb", "Linb"), ("lisu",
    "Lisu"), ("lycian", "Lyci"), ("lydian", "Lydi"), ("mahajani", "Mahj"), ("makasar", "Maka"),
    ("malayalam", "Mlym"), ("mandaic", "Mand"), ("manichaean", "Mani"), ("marchen", "Marc"),
    ("masaramgondi", "Gonm"), ("medefaidrin", "Medf"), ("meeteimayek", "Mtei"), ("mendekikakui",
    "Mend"), ("meroiticcursive", "Merc"), ("meroitichieroglyphs", "Mero"), ("miao", "Plrd"),
    ("modi", "Modi"), ("mongolian", "Mong"), ("mro", "Mroo"), ("multani", "Mult"), ("myanmar",
    "Mymr"), ("nabataean", "Nbat"), ("nagmundari", "Nagm"), ("nandinagari", "Nand"), ("newa",
    "Newa"), ("newtailue", "Talu"), ("nko", "Nkoo"), ("nushu", "Nshu"), ("nyiakengpuachuehmong",
    "Hmnp"), ("ogham", "Ogam"), ("olchiki", "Olck"), ("oldhungarian", "Hung"), ("olditalic",
    "Ital"), ("oldnortharabian", "Narb"), ("oldpermic", "Perm"), ("oldpersian", "Xpeo"),
    ("oldsogdian", "Sogo"), ("oldsoutharabian", "Sarb"), ("oldturkic", "Orkh"), ("olduyghur",
    "Ougr"), ("oriya", "Orya"), ("osage", "Osge"), ("osmanya", "Osma"), ("pahawhhmong", "Hmng"),
    ("palmyrene", "Palm"), ("paucinhau", "Pauc"), ("phagspa", "Phag"), ("phoenician", "Phnx"),
    ("psalterpahlavi", "Phlp"), ("rejang", "Rjng"), ("runic", "Runr"), ("samaritan", "Samr"),
    ("saurashtra", "Saur"), ("sharada", "Shrd"), ("shavian", "Shaw"), ("siddham", "Sidd"),
    ("signwriting", "Sgnw"), ("sinhala", "Sinh"), ("sogdian", "Sogd"), ("sorasompeng", "Sora"),
    ("soyombo", "Soyo"), ("sundanese", "Sund"), ("sylotinagri", "Sylo"), ("syriac", "Syrc"),
    ("tagalog", "Tglg"), ("tagbanwa", "Tagb"), ("taile", "Tale"), ("taitham", "Lana"),
    ("taiviet", "Tavt"), ("takri", "Takr"), ("tamil", "Taml"), ("tangsa", "Tnsa"), ("tangut",
    "Tang"), ("telugu", "Telu"), ("thaana", "Thaa"), ("thai", "Thai"), ("tibetan", "Tibt"),
    ("tifinagh", "Tfng"), ("tirhuta", "Tirh"), ("toto", "Toto"), ("ugaritic", "Ugar"), ("vai",
    "Vaii"), ("vithkuqi", "Vith"), ("wancho", "Wcho"), ("warangciti", "Wara"), ("yezidi",
    "Yezi"), ("yi", "Yiii"), ("zanabazarsquare", "Zanb") ]

def categoryNames : List (String × String) :=
  [ ("other", "C"), ("control", "Cc"), ("cntrl", "Cc"), ("format", "Cf"), ("unassigned", "Cn"),
    ("privateuse", "Co"), ("surrogate", "Cs"), ("letter", "L"), ("casedletter", "LC"),
    ("lowercaseletter", "Ll"), ("modifierletter", "Lm"), ("otherletter", "Lo"),
    ("titlecaseletter", "Lt"), ("uppercaseletter", "Lu"), ("mark", "M"), ("combiningmark", "M"),
    ("spacingmark", "Mc"), ("enclosingmark", "Me"), ("nonspacingmark", "Mn"), ("number", "N"),
    ("decimalnumber", "Nd"), ("digit", "Nd"), ("letternumber", "Nl"), ("othernumber", "No"),
    ("punctuation", "P"), ("punct", "P"), ("connectorpunctuation", "Pc"), ("dashpunctuation",
    "Pd"), ("closepunctuation", "Pe"), ("finalpunctuation", "Pf"), ("initialpunctuation", "Pi"),
    ("otherpunctuation", "Po"), ("openpunctuation", "Ps"), ("symbol", "S"), ("currencysymbol",
    "Sc"), ("modifiersymbol", "Sk"), ("mathsymbol", "Sm"), ("othersymbol", "So"), ("separator",
    "Z"), ("lineseparator", "Zl"), ("paragraphseparator", "Zp"), ("spaceseparator", "Zs") ]

def alphabeticRuns : String :=
  String.join [
    "65n26y6n26y47n1y10n1y4n1y5n23y1n31y1n458y4n12y14n5y7n1y1n1y86n1y42n5y1n2y2n4y1n1y6n1y1n3y1n1y1n2",
    "0y1n83y1n139y8n166y1n38y2n1y6n41y39n14y1n1y1n2y1n2y1n1y8n27y4n4y29n11y5n56y1n7y14n102y1n8y4n8y4n",
    "3y10n3y2n1y16n48y13n101y24n33y9n2y4n1y5n24y2n19y19n25y7n11y5n24y1n6y17n42y10n12y3n7y6n76y1n16y1n",
    "3y4n15y13n19y1n8y2n2y2n22y1n7y1n1y3n4y3n8y2n2y2n2y1n1y8n1y4n2y1n5y12n2y10n1y4n3y1n6y4n2y2n22y1n7",
    "y1n2y1n2y1n2y4n5y4n2y2n2y4n1y7n4y1n1y17n6y11n3y1n9y1n3y1n22y1n7y1n2y1n5y3n9y1n3y1n2y3n1y15n4y21n",
    "4y4n3y1n8y2n2y2n22y1n7y1n2y1n5y3n8y2n2y2n2y9n2y4n2y1n5y13n1y16n2y1n6y3n3y1n4y3n2y1n1y1n2y3n2y3n3",
    "y3n12y4n5y3n3y1n3y3n1y6n1y40n13y1n3y1n23y1n16y3n8y1n3y1n3y8n2y1n3y2n1y2n4y28n4y1n8y1n3y1n23y1n10",
    "y1n5y3n8y1n3y1n3y8n2y6n2y1n4y13n3y12n13y1n3y1n41y2n8y1n3y1n3y1n1y5n4y7n5y22n6y1n3y1n18y3n24y1n9y",
    "1n1y2n7y8n6y1n1y1n8y18n2y13n58y5n7y6n1y51n2y1n1y1n5y1n24y1n1y1n19y1n3y2n5y1n1y6n1y14n4y32n1y63n8",
    "y1n36y4n19y4n16y1n36y67n55y1n1y2n5y16n64y10n4y2n38y1n1y5n1y2n43y1n333y1n4y2n7y1n1y1n4y2n41y1n4y2",
    "n33y1n4y2n7y1n1y1n4y2n15y1n57y1n4y2n67y37n16y16n86y2n6y3n620y2n17y1n26y5n75y3n11y7n20y11n21y12n2",
    "0y12n13y1n3y1n2y12n52y2n19y14n1y4n1y67n89y7n43y5n70y10n31y1n12y4n9y23n30y2n5y11n44y4n26y54n28y4n",
    "63y2n20y50n1y23n2y11n3y49n52y1n15y1n8y51n42y2n4y10n44y1n11y14n55y22n3y10n36y2n9y7n43y2n3y41n4y1n",
    "6y1n2y3n1y5n192y39n14y11n278y2n6y2n38y2n6y2n8y1n1y1n1y1n1y1n31y2n53y1n7y1n1y3n3y1n7y3n4y2n6y4n13",
    "y5n3y1n7y116n1y13n1y16n13y101n1y4n1y2n10y1n1y3n5y6n1y1n1y1n1y1n4y1n11y2n4y5n5y4n1y17n41y813n52y1",
    "814n229y6n4y3n2y12n38y1n1y5n1y2n56y7n1y16n23y9n7y1n7y1n7y1n7y1n7y1n7y1n7y1n7y1n32y47n1y469n3y25n",
    "9y7n5y2n5y4n86y6n3y1n90y1n4y5n43y1n94y17n32y48n16y512n6592y64n22157y67n46y2n269y3n16y10n2y20n47y",
    "5n8y3n113y39n9y2n103y2n64y5n2y1n1y1n5y24n20y1n33y24n52y12n68y1n1y44n6y3n1y1n3y10n33y5n35y13n29y3",
    "n51y1n12y15n1y16n16y10n5y1n55y9n14y18n23y3n69y1n1y1n1y24n3y2n16y2n4y11n6y2n6y2n6y9n7y1n7y1n43y1n",
    "14y6n123y21n11172y12n23y4n49y8452n366y2n106y38n7y12n5y5n12y1n13y1n5y1n1y1n2y1n2y1n108y33n363y18n",
    "64y2n54y40n12y116n5y1n135y36n26y6n26y11n89y3n6y2n6y2n6y2n3y35n12y1n26y1n19y1n2y1n15y2n14y34n123y",
    "69n53y267n29y3n49y47n32y13n30y5n43y5n30y2n36y4n8y1n5y42n158y18n36y4n36y4n40y8n52y12n11y1n15y1n7y",
    "1n2y1n11y1n15y1n7y1n2y67n311y9n22y10n8y24n6y1n42y1n9y69n6y2n1y1n44y1n2y3n1y2n23y10n23y9n31y65n19",
    "y1n2y10n22y10n26y70n56y6n2y64n4y1n2y5n8y1n3y1n29y42n29y3n29y35n8y1n28y27n54y10n22y10n19y13n18y11",
    "0n73y55n51y13n51y13n40y344n42y1n2y3n2y78n29y10n1y8n22y42n18y46n21y27n23y9n70y43n5y10n57y9n1y13n2",
    "5y23n51y17n4y8n35y3n1y9n64y1n4y9n2y10n1y1n1y35n18y1n34y2n1y6n4y62n7y1n1y1n4y1n15y1n10y7n57y23n4y",
    "1n8y2n2y2n22y1n7y1n2y1n5y3n8y2n2y2n2y3n1y6n1y5n7y156n66y1n3y1n4y20n3y30n66y2n2y1n1y184n54y2n7y25",
    "n6y34n63y1n1y3n1y59n54y2n1y71n27y2n14y21n7y185n57y103n64y31n8y2n1y2n8y1n2y1n30y1n2y2n2y2n4y93n8y",
    "2n46y2n6y1n1y1n2y27n51y2n10y17n72y5n1y18n73y263n9y1n45y1n7y1n1y49n30y2n22y1n14y73n7y1n2y1n44y3n1",
    "y1n2y1n3y1n1y2n2y24n6y1n2y1n37y1n2y1n4y1n1y327n23y9n17y1n41y3n3y111n1y79n922y102n111y17n196y2636",
    "n97y15n1072y17n6y4025n583y8633n569y7n31y17n79y17n30y18n48y16n4y31n21y5n19y688n64y128n75y4n57y7n1",
    "7y64n2y1n1y12n2y14n6136y8n1238y42n9y8935n4y1n7y1n2y1n291y15n1y29n3y2n1y14n4y8n396y2308n107y5n13y",
    "3n9y7n10y4n1y5985n85y1n71y1n2y2n1y2n2y2n4y1n12y1n1y1n7y1n65y1n4y2n8y1n7y1n28y1n4y1n5y1n1y3n7y1n3",
    "40y2n25y1n25y1n31y1n25y1n31y1n25y1n31y1n25y1n31y1n25y1n8y1844n31y6n6y213n7y1n17y2n7y1n2y1n5y5n62",
    "y33n1y112n45y10n7y16n1y321n30y18n44y484n28y756n7y1n4y1n2y1n15y1n197y59n68y3n1y3n1y1204n4y1n27y1n",
    "2y1n1y2n1y1n10y1n4y1n1y1n1y6n1y4n1y1n1y1n1y1n3y1n2y1n1y2n1y1n1y1n1y1n1y1n1y1n2y1n1y2n4y1n7y1n4y1",
    "n4y1n1y1n10y1n17y5n3y1n5y1n17y628n26y6n26y6n26y3702n42720y32n4154y6n222y2n5762y14n7473y3103n542y",
    "1506n4939y5n4192y908368n"]

def uppercaseRuns : String :=
  String.join [
    "65n26y101n23y1n7y33n1y1n1y1n1y1n1y1n1y1n1y1n1y1n1y1n1y1n1y1n1y1n1y1n1y1n1y1n1y1n1y1n1y1n1y1n1y1n",
    "1y1n1y1n1y1n1y1n1y1n1y1n1y1n1y1n1y2n1y1n1y1n1y1n1y1n1y1n1y1n1y1n1y2n1y1n1y1n1y1n1y1n1y1n1y1n1y1n",
    "1y1n1y1n1y1n1y1n1y1n1y1n1y1n1y1n1y1n1y1n1y1n1y1n1y1n1y1n1y1n1y1n2y1n1y1n1y3n2y1n1y1n2y1n3y2n4y1n",
    "2y1n3y3n2y1n2y1n1y1n1y1n2y1n1y2n1y1n2y1n3y1n1y1n2y3n1y7n1y2n1y2n1y2n1y1n1y1n1y1n1y1n1y1n1y1n1y1n",
    "1y2n1y1n1y1n1y1n1y1n1y1n1y1n1y1n1y1n1y2n1y2n1y1n3y1n1y1n1y1n1y1n1y1n1y1n1y1n1y1n1y1n1y1n1y1n1y1n",
    "1y1n1y1n1y1n1y1n1y1n1y1n1y1n1y1n1y1n1y1n1y1n1y1n1y1n1y1n1y1n1y1n1y1n1y7n2y1n2y2n1y1n4y1n1y1n1y1n",
    "1y1n1y289n1y1n1y3n1y8n1y6n1y1n3y1n1y1n2y1n17y1n9y35n1y2n3y3n1y1n1y1n1y1n1y1n1y1n1y1n1y1n1y1n1y1n",
    "1y1n1y1n1y5n1y2n1y1n2y2n51y48n1y1n1y1n1y1n1y1n1y1n1y1n1y1n1y1n1y1n1y1n1y1n1y1n1y1n1y1n1y1n1y1n1y",
    "9n1y1n1y1n1y1n1y1n1y1n1y1n1y1n1y1n1y1n1y1n1y1n1y1n1y1n1y1n1y1n1y1n1y1n1y1n1y1n1y1n1y1n1y1n1y1n1y",
    "1n1y1n1y1n1y1n2y1n1y1n1y1n1y1n1y1n1y1n1y2n1y1n1y1n1y1n1y1n1y1n1y1n1y1n1y1n1y1n1y1n1y1n1y1n1y1n1y",
    "1n1y1n1y1n1y1n1y1n1y1n1y1n1y1n1y1n1y1n1y1n1y1n1y1n1y1n1y1n1y1n1y1n1y1n1y1n1y1n1y1n1y1n1y1n1y1n1y",
    "1n1y1n1y1n1y1n1y1n1y1n1y1n1y1n1y1n1y1n1y2n38y2889n38y1n1y5n1y722n86y2202n43y2n3y320n1y1n1y1n1y1n",
    "1y1n1y1n1y1n1y1n1y1n1y1n1y1n1y1n1y1n1y1n1y1n1y1n1y1n1y1n1y1n1y1n1y1n1y1n1y1n1y1n1y1n1y1n1y1n1y1n",
    "1y1n1y1n1y1n1y1n1y1n1y1n1y1n1y1n1y1n1y1n1y1n1y1n1y1n1y1n1y1n1y1n1y1n1y1n1y1n1y1n1y1n1y1n1y1n1y1n",
    "1y1n1y1n1y1n1y1n1y1n1y1n1y1n1y1n1y1n1y1n1y1n1y1n1y1n1y1n1y1n1y1n1y1n1y1n1y1n1y1n1y1n1y1n1y1n1y9n",
    "1y1n1y1n1y1n1y1n1y1n1y1n1y1n1y1n1y1n1y1n1y1n1y1n1y1n1y1n1y1n1y1n1y1n1y1n1y1n1y1n1y1n1y1n1y1n1y1n",
    "1y1n1y1n1y1n1y1n1y1n1y1n1y1n1y1n1y1n1y1n1y1n1y1n1y1n1y1n1y1n1y1n1y1n1y1n1y1n1y1n1y1n1y1n1y1n1y1n",
    "1y9n8y8n6y10n8y8n8y8n6y11n1y1n1y1n1y1n1y8n8y72n4y12n4y12n4y12n5y11n4y262n1y4n1y3n3y2n3y2n1y3n5y6",
    "n1y1n1y1n1y1n4y2n4y10n2y5n1y26n16y19n1y818n26y1840n48y48n1y1n3y2n1y1n1y1n1y1n4y1n1y2n1y8n3y1n1y1",
    "n1y1n1y1n1y1n1y1n1y1n1y1n1y1n1y1n1y1n1y1n1y1n1y1n1y1n1y1n1y1n1y1n1y1n1y1n1y1n1y1n1y1n1y1n1y1n1y1",
    "n1y1n1y1n1y1n1y1n1y1n1y1n1y1n1y1n1y1n1y1n1y1n1y1n1y1n1y1n1y1n1y1n1y1n1y1n1y1n1y1n1y1n1y1n1y1n1y8",
    "n1y1n1y4n1y31053n1y1n1y1n1y1n1y1n1y1n1y1n1y1n1y1n1y1n1y1n1y1n1y1n1y1n1y1n1y1n1y1n1y1n1y1n1y1n1y1",
    "n1y1n1y1n1y19n1y1n1y1n1y1n1y1n1y1n1y1n1y1n1y1n1y1n1y1n1y1n1y1n1y1n1y135n1y1n1y1n1y1n1y1n1y1n1y1n",
    "1y3n1y1n1y1n1y1n1y1n1y1n1y1n1y1n1y1n1y1n1y1n1y1n1y1n1y1n1y1n1y1n1y1n1y1n1y1n1y1n1y1n1y1n1y1n1y1n",
    "1y1n1y1n1y1n1y1n1y1n1y1n1y1n1y10n1y1n1y1n2y1n1y1n1y1n1y1n1y4n1y1n1y2n1y1n1y3n1y1n1y1n1y1n1y1n1y1",
    "n1y1n1y1n1y1n1y1n1y1n5y1n5y1n1y1n1y1n1y1n1y1n1y1n1y1n1y1n4y1n1y6n1y5n1y1n1y28n1y22315n26y1221n40",
    "y136n36y156n11y1n15y1n7y1n2y1770n51y3053n32y21888n32y26016n26y26n26y26n26y26n1y1n2y2n1y2n2y2n4y1",
    "n8y26n26y26n2y1n4y2n8y1n7y27n2y1n4y1n5y1n1y3n7y27n26y26n26y26n26y26n26y26n26y26n26y30n25y33n25y3",
    "3n25y33n25y33n25y33n1y4405n34y2062n26y6n26y6n26y986742n"]

def lowercaseRuns : String :=
  String.join [
    "97n26y47n1y10n1y4n1y36n24y1n8y1n1y1n1y1n1y1n1y1n1y1n1y1n1y1n1y1n1y1n1y1n1y1n1y1n1y1n1y1n1y1n1y1n",
    "1y1n1y1n1y1n1y1n1y1n1y1n1y1n1y1n1y1n1y1n1y1n2y1n1y1n1y1n1y1n1y1n1y1n1y1n1y1n2y1n1y1n1y1n1y1n1y1n",
    "1y1n1y1n1y1n1y1n1y1n1y1n1y1n1y1n1y1n1y1n1y1n1y1n1y1n1y1n1y1n1y1n1y1n1y1n1y2n1y1n1y1n3y2n1y1n1y2n",
    "1y3n2y4n1y2n1y3n3y2n1y2n1y1n1y1n1y2n1y1n2y1n1y2n1y3n1y1n1y2n2y2n3y6n1y2n1y2n1y1n1y1n1y1n1y1n1y1n",
    "1y1n1y1n1y1n2y1n1y1n1y1n1y1n1y1n1y1n1y1n1y1n1y1n2y2n1y1n1y3n1y1n1y1n1y1n1y1n1y1n1y1n1y1n1y1n1y1n",
    "1y1n1y1n1y1n1y1n1y1n1y1n1y1n1y1n1y1n1y1n1y1n1y1n1y1n1y1n1y1n1y1n1y1n1y1n1y1n1y1n7y2n1y2n2y1n1y4n",
    "1y1n1y1n1y1n1y1n69y1n36y7n2y30n5y96n1y43n1y1n1y3n1y2n4y18n1y27n35y1n2y3n3y1n1y1n1y1n1y1n1y1n1y1n",
    "1y1n1y1n1y1n1y1n1y1n1y1n5y1n1y2n1y2n2y51n48y1n1y1n1y1n1y1n1y1n1y1n1y1n1y1n1y1n1y1n1y1n1y1n1y1n1y",
    "1n1y1n1y1n1y1n1y9n1y1n1y1n1y1n1y1n1y1n1y1n1y1n1y1n1y1n1y1n1y1n1y1n1y1n1y1n1y1n1y1n1y1n1y1n1y1n1y",
    "1n1y1n1y1n1y1n1y1n1y1n1y1n1y2n1y1n1y1n1y1n1y1n1y1n1y1n2y1n1y1n1y1n1y1n1y1n1y1n1y1n1y1n1y1n1y1n1y",
    "1n1y1n1y1n1y1n1y1n1y1n1y1n1y1n1y1n1y1n1y1n1y1n1y1n1y1n1y1n1y1n1y1n1y1n1y1n1y1n1y1n1y1n1y1n1y1n1y",
    "1n1y1n1y1n1y1n1y1n1y1n1y1n1y1n1y1n1y1n1y1n1y1n1y1n1y1n1y48n41y2887n43y1n4y760n6y2178n9y119n192y6",
    "5n1y1n1y1n1y1n1y1n1y1n1y1n1y1n1y1n1y1n1y1n1y1n1y1n1y1n1y1n1y1n1y1n1y1n1y1n1y1n1y1n1y1n1y1n1y1n1y",
    "1n1y1n1y1n1y1n1y1n1y1n1y1n1y1n1y1n1y1n1y1n1y1n1y1n1y1n1y1n1y1n1y1n1y1n1y1n1y1n1y1n1y1n1y1n1y1n1y",
    "1n1y1n1y1n1y1n1y1n1y1n1y1n1y1n1y1n1y1n1y1n1y1n1y1n1y1n1y1n1y1n1y1n1y1n1y1n1y1n1y1n1y1n1y1n1y1n1y",
    "1n1y1n1y1n9y1n1y1n1y1n1y1n1y1n1y1n1y1n1y1n1y1n1y1n1y1n1y1n1y1n1y1n1y1n1y1n1y1n1y1n1y1n1y1n1y1n1y",
    "1n1y1n1y1n1y1n1y1n1y1n1y1n1y1n1y1n1y1n1y1n1y1n1y1n1y1n1y1n1y1n1y1n1y1n1y1n1y1n1y1n1y1n1y1n1y1n1y",
    "1n1y1n1y1n1y1n9y8n6y10n8y8n8y8n6y10n8y8n8y8n14y2n8y8n8y8n8y8n5y1n2y6n1y3n3y1n2y8n4y2n2y8n8y10n3y",
    "1n2y121n1y13n1y16n13y109n1y3n2y3n1y27n1y4n1y4n1y2n2y8n4y4n1y33n16y4n1y843n26y1862n48y1n1y3n2y1n1",
    "y1n1y1n1y4n1y1n2y1n8y3n1y1n1y1n1y1n1y1n1y1n1y1n1y1n1y1n1y1n1y1n1y1n1y1n1y1n1y1n1y1n1y1n1y1n1y1n1",
    "y1n1y1n1y1n1y1n1y1n1y1n1y1n1y1n1y1n1y1n1y1n1y1n1y1n1y1n1y1n1y1n1y1n1y1n1y1n1y1n1y1n1y1n1y1n1y1n1",
    "y1n1y1n1y1n1y1n1y1n1y1n1y1n2y7n1y1n1y4n1y12n38y1n1y5n1y30995n1y1n1y1n1y1n1y1n1y1n1y1n1y1n1y1n1y1",
    "n1y1n1y1n1y1n1y1n1y1n1y1n1y1n1y1n1y1n1y1n1y1n1y1n1y1n1y19n1y1n1y1n1y1n1y1n1y1n1y1n1y1n1y1n1y1n1y",
    "1n1y1n1y1n1y1n3y133n1y1n1y1n1y1n1y1n1y1n1y1n3y1n1y1n1y1n1y1n1y1n1y1n1y1n1y1n1y1n1y1n1y1n1y1n1y1n",
    "1y1n1y1n1y1n1y1n1y1n1y1n1y1n1y1n1y1n1y1n1y1n1y1n1y1n1y1n1y1n1y1n1y1n1y1n10y1n1y1n1y2n1y1n1y1n1y1",
    "n1y1n1y4n1y1n1y2n1y1n3y1n1y1n1y1n1y1n1y1n1y1n1y1n1y1n1y1n1y1n1y5n1y5n1y1n1y1n1y1n1y1n1y1n1y1n1y1",
    "n1y4n1y1n1y6n1y1n1y1n1y1n1y1n1y24n3y1n1y1n3y821n43y1n14y6n80y20288n7y12n5y1065n26y1229n40y136n36",
    "y155n11y1n15y1n7y1n2y451n1y2n3y1n42y1n9y1285n51y3021n32y21888n32y26010n26y26n7y1n18y26n26y26n4y1",
    "n1y1n7y1n11y26n26y26n26y26n26y26n26y26n26y26n26y26n26y26n26y26n28y28n25y1n6y26n25y1n6y26n25y1n6y",
    "26n25y1n6y26n25y1n6y1n1y1844n10y1n20y6n6y261n62y2228n34y988860n"]

def flagRanges (runs : String) : Ranges := rangesOfRuns (· = ['y']) 0 runs.length runs.toList

/-- Letters, marks, decimal digits, letter numbers, connectors, joiners and circled letters. -/
def wordRanges (_ : Unit) : Ranges :=
  categoryRanges ["L", "M", "Nd", "Nl", "Pc"] ++
    [(0x200C, 0x200D), (0x24B6, 0x24E9), (0x1F130, 0x1F149), (0x1F150, 0x1F169),
      (0x1F170, 0x1F189)]

/-- A name without its blanks, hyphens and underscores, in lower case. -/
def looseName (name : List Char) : String :=
  String.ofList ((name.filter fun c => !(c = ' ' || c = '_' || c = '-')).map Char.toLower)

def looseKey (names : List (String × String)) (name : String) : Option String :=
  match names.find? (·.1 = name) with
  | some (_, code) => some code
  | none => (names.find? fun (_, code) => looseName code.toList = name).map (·.2)

def category? (name : String) : Option Ranges :=
  match name with
  | "any" => some [(0, maxCodePoint)]
  | "assigned" => some (categoryRanges ["L", "M", "N", "P", "S", "Z", "Cc", "Cf", "Co", "Cs"])
  | "ascii" => some [(0, 0x7F)]
  | name =>
    match looseKey
        (categoryNames ++ categoryNames.map fun (_, code) => (looseName code.toList, code))
      name with
    | some "LC" => some (categoryRanges ["Lu", "Ll", "Lt"])
    | some code => some (categoryRanges [code])
    | none => none

def script? (name : String) : Option Ranges :=
  (looseKey scriptNames name).map fun code =>
    rangesOfRuns (· = code.toList) 0 scriptRuns.length scriptRuns.toList

def flag? (name : String) : Option Ranges :=
  match name with
  | "alphabetic" | "alpha" => some (flagRanges alphabeticRuns)
  | "uppercase" | "upper" => some (flagRanges uppercaseRuns)
  | "lowercase" | "lower" => some (flagRanges lowercaseRuns)
  | "whitespace" | "wspace" | "space" => some whitespaceRanges
  | _ => none

def property? (name : List Char) (value : Option (List Char)) : Option Ranges :=
  let name := looseName name
  match value with
  | none =>
    let bare := if "is".isPrefixOf name && name ≠ "isc" then (name.drop 2).toString else name
    flag? bare <|> category? bare <|> script? bare
  | some value =>
    match name with
    | "generalcategory" | "gc" => category? (looseName value)
    | "script" | "sc" => script? (looseName value)
    | _ => none

end EdgeGateway.Pattern
