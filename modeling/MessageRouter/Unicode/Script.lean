import MessageRouter.Unicode.Runs

/-!
# Scripts

Every code point belongs to one script, possibly the common or the inherited one; some characters
are used with several scripts, their extensions.  The tables are those of version 16.0 of the
Unicode standard, where `Zzzz` stands for no script.
-/

namespace MessageRouter.Unicode

/-- The scripts by their codes, with their names. -/
def scripts : List (String × String) := [
  ("Adlm", "Adlam"), ("Aghb", "Caucasian_Albanian"), ("Ahom", "Ahom"), ("Arab", "Arabic"),
  ("Armi", "Imperial_Aramaic"), ("Armn", "Armenian"), ("Avst", "Avestan"), ("Bali", "Balinese"),
  ("Bamu", "Bamum"), ("Bass", "Bassa_Vah"), ("Batk", "Batak"), ("Beng", "Bengali"),
  ("Bhks", "Bhaiksuki"), ("Bopo", "Bopomofo"), ("Brah", "Brahmi"), ("Brai", "Braille"),
  ("Bugi", "Buginese"), ("Buhd", "Buhid"), ("Cakm", "Chakma"), ("Cans", "Canadian_Aboriginal"),
  ("Cari", "Carian"), ("Cham", "Cham"), ("Cher", "Cherokee"), ("Chrs", "Chorasmian"),
  ("Copt", "Coptic"), ("Cpmn", "Cypro_Minoan"), ("Cprt", "Cypriot"), ("Cyrl", "Cyrillic"),
  ("Deva", "Devanagari"), ("Diak", "Dives_Akuru"), ("Dogr", "Dogra"), ("Dsrt", "Deseret"),
  ("Dupl", "Duployan"), ("Egyp", "Egyptian_Hieroglyphs"), ("Elba", "Elbasan"),
  ("Elym", "Elymaic"), ("Ethi", "Ethiopic"), ("Gara", "Garay"), ("Geor", "Georgian"),
  ("Glag", "Glagolitic"), ("Gong", "Gunjala_Gondi"), ("Gonm", "Masaram_Gondi"),
  ("Goth", "Gothic"), ("Gran", "Grantha"), ("Grek", "Greek"), ("Gujr", "Gujarati"),
  ("Gukh", "Gurung_Khema"), ("Guru", "Gurmukhi"), ("Hang", "Hangul"), ("Hani", "Han"),
  ("Hano", "Hanunoo"), ("Hatr", "Hatran"), ("Hebr", "Hebrew"), ("Hira", "Hiragana"),
  ("Hluw", "Anatolian_Hieroglyphs"), ("Hmng", "Pahawh_Hmong"), ("Hmnp", "Nyiakeng_Puachue_Hmong"),
  ("Hung", "Old_Hungarian"), ("Ital", "Old_Italic"), ("Java", "Javanese"), ("Kali", "Kayah_Li"),
  ("Kana", "Katakana"), ("Kawi", "Kawi"), ("Khar", "Kharoshthi"), ("Khmr", "Khmer"),
  ("Khoj", "Khojki"), ("Kits", "Khitan_Small_Script"), ("Knda", "Kannada"), ("Krai", "Kirat_Rai"),
  ("Kthi", "Kaithi"), ("Lana", "Tai_Tham"), ("Laoo", "Lao"), ("Latn", "Latin"),
  ("Lepc", "Lepcha"), ("Limb", "Limbu"), ("Lina", "Linear_A"), ("Linb", "Linear_B"),
  ("Lisu", "Lisu"), ("Lyci", "Lycian"), ("Lydi", "Lydian"), ("Mahj", "Mahajani"),
  ("Maka", "Makasar"), ("Mand", "Mandaic"), ("Mani", "Manichaean"), ("Marc", "Marchen"),
  ("Medf", "Medefaidrin"), ("Mend", "Mende_Kikakui"), ("Merc", "Meroitic_Cursive"),
  ("Mero", "Meroitic_Hieroglyphs"), ("Mlym", "Malayalam"), ("Modi", "Modi"),
  ("Mong", "Mongolian"), ("Mroo", "Mro"), ("Mtei", "Meetei_Mayek"), ("Mult", "Multani"),
  ("Mymr", "Myanmar"), ("Nagm", "Nag_Mundari"), ("Nand", "Nandinagari"),
  ("Narb", "Old_North_Arabian"), ("Nbat", "Nabataean"), ("Newa", "Newa"), ("Nkoo", "Nko"),
  ("Nshu", "Nushu"), ("Ogam", "Ogham"), ("Olck", "Ol_Chiki"), ("Onao", "Ol_Onal"),
  ("Orkh", "Old_Turkic"), ("Orya", "Oriya"), ("Osge", "Osage"), ("Osma", "Osmanya"),
  ("Ougr", "Old_Uyghur"), ("Palm", "Palmyrene"), ("Pauc", "Pau_Cin_Hau"), ("Perm", "Old_Permic"),
  ("Phag", "Phags_Pa"), ("Phli", "Inscriptional_Pahlavi"), ("Phlp", "Psalter_Pahlavi"),
  ("Phnx", "Phoenician"), ("Plrd", "Miao"), ("Prti", "Inscriptional_Parthian"),
  ("Rjng", "Rejang"), ("Rohg", "Hanifi_Rohingya"), ("Runr", "Runic"), ("Samr", "Samaritan"),
  ("Sarb", "Old_South_Arabian"), ("Saur", "Saurashtra"), ("Sgnw", "SignWriting"),
  ("Shaw", "Shavian"), ("Shrd", "Sharada"), ("Sidd", "Siddham"), ("Sind", "Khudawadi"),
  ("Sinh", "Sinhala"), ("Sogd", "Sogdian"), ("Sogo", "Old_Sogdian"), ("Sora", "Sora_Sompeng"),
  ("Soyo", "Soyombo"), ("Sund", "Sundanese"), ("Sunu", "Sunuwar"), ("Sylo", "Syloti_Nagri"),
  ("Syrc", "Syriac"), ("Tagb", "Tagbanwa"), ("Takr", "Takri"), ("Tale", "Tai_Le"),
  ("Talu", "New_Tai_Lue"), ("Taml", "Tamil"), ("Tang", "Tangut"), ("Tavt", "Tai_Viet"),
  ("Telu", "Telugu"), ("Tfng", "Tifinagh"), ("Tglg", "Tagalog"), ("Thaa", "Thaana"),
  ("Thai", "Thai"), ("Tibt", "Tibetan"), ("Tirh", "Tirhuta"), ("Tnsa", "Tangsa"),
  ("Todr", "Todhri"), ("Toto", "Toto"), ("Tutg", "Tulu_Tigalari"), ("Ugar", "Ugaritic"),
  ("Vaii", "Vai"), ("Vith", "Vithkuqi"), ("Wara", "Warang_Citi"), ("Wcho", "Wancho"),
  ("Xpeo", "Old_Persian"), ("Xsux", "Cuneiform"), ("Yezi", "Yezidi"), ("Yiii", "Yi"),
  ("Zanb", "Zanabazar_Square"), ("Zinh", "Inherited"), ("Zyyy", "Common")]

/-- The scripts of all code points. -/
def scriptTable : List String := [
  "41Zyyy1aLatn6Zyyy1aLatn2fZyyy1LatnfZyyy1Latn5Zyyy17Latn1Zyyy1fLatn1Zyyy1c1Latn27Zyyy5Latn",
  "5Zyyy2Bopo14Zyyy70Zinh4Grek1Zyyy3Grek2Zzzz4Grek1Zyyy1Grek4Zzzz1Grek1Zyyy1Grek1Zyyy3Grek1Zzzz",
  "1Grek1Zzzz14Grek1Zzzz3fGrekeCopt10Grek85Cyrl2Zinha9Cyrl1Zzzz26Armn2Zzzz32Armn2Zzzz3Armn1Zzzz",
  "37Hebr8Zzzz1bHebr4Zzzz6HebrbZzzz5Arab1Zyyy6Arab1ZyyyeArab1Zyyy3Arab1Zyyy20Arab1ZyyyaArab",
  "bZinh1aArab1Zinh6cArab1Zyyy22ArabeSyrc1Zzzz3cSyrc2Zzzz3Syrc30Arab32ThaaeZzzz3bNkoo2Zzzz3Nkoo",
  "2eSamr2ZzzzfSamr1Zzzz1cMand2Zzzz1Mand1ZzzzbSyrc5Zzzz1fArab1Zzzz2Arab5Zzzz4bArab1Zyyy1dArab",
  "51Deva4ZinhfDeva2Zyyy1aDeva4Beng1Zzzz8Beng2Zzzz2Beng2Zzzz16Beng1Zzzz7Beng1Zzzz1Beng3Zzzz",
  "4Beng2Zzzz9Beng2Zzzz2Beng2Zzzz4Beng8Zzzz1Beng4Zzzz2Beng1Zzzz5Beng2Zzzz19Beng2Zzzz3Guru1Zzzz",
  "6Guru4Zzzz2Guru2Zzzz16Guru1Zzzz7Guru1Zzzz2Guru1Zzzz2Guru1Zzzz2Guru2Zzzz1Guru1Zzzz5Guru4Zzzz",
  "2Guru2Zzzz3Guru3Zzzz1Guru7Zzzz4Guru1Zzzz1Guru7Zzzz11GuruaZzzz3Gujr1Zzzz9Gujr1Zzzz3Gujr1Zzzz",
  "16Gujr1Zzzz7Gujr1Zzzz2Gujr1Zzzz5Gujr2ZzzzaGujr1Zzzz3Gujr1Zzzz3Gujr2Zzzz1GujrfZzzz4Gujr2Zzzz",
  "cGujr7Zzzz7Gujr1Zzzz3Orya1Zzzz8Orya2Zzzz2Orya2Zzzz16Orya1Zzzz7Orya1Zzzz2Orya1Zzzz5Orya2Zzzz",
  "9Orya2Zzzz2Orya2Zzzz3Orya7Zzzz3Orya4Zzzz2Orya1Zzzz5Orya2Zzzz12OryaaZzzz2Taml1Zzzz6Taml3Zzzz",
  "3Taml1Zzzz4Taml3Zzzz2Taml1Zzzz1Taml1Zzzz2Taml3Zzzz2Taml3Zzzz3Taml3ZzzzcTaml4Zzzz5Taml3Zzzz",
  "3Taml1Zzzz4Taml2Zzzz1Taml6Zzzz1TamleZzzz15Taml5ZzzzdTelu1Zzzz3Telu1Zzzz17Telu1Zzzz10Telu",
  "2Zzzz9Telu1Zzzz3Telu1Zzzz4Telu7Zzzz2Telu1Zzzz3Telu2Zzzz1Telu2Zzzz4Telu2ZzzzaTelu7Zzzz9Telu",
  "dKnda1Zzzz3Knda1Zzzz17Knda1ZzzzaKnda1Zzzz5Knda2Zzzz9Knda1Zzzz3Knda1Zzzz4Knda7Zzzz2Knda6Zzzz",
  "2Knda1Zzzz4Knda2ZzzzaKnda1Zzzz3KndacZzzzdMlym1Zzzz3Mlym1Zzzz33Mlym1Zzzz3Mlym1Zzzz6Mlym4Zzzz",
  "10Mlym2Zzzz1aMlym1Zzzz3Sinh1Zzzz12Sinh3Zzzz18Sinh1Zzzz9Sinh1Zzzz1Sinh2Zzzz7Sinh3Zzzz1Sinh",
  "4Zzzz6Sinh1Zzzz1Sinh1Zzzz8Sinh6ZzzzaSinh2Zzzz3SinhcZzzz3aThai4Zzzz1Zyyy1cThai25Zzzz2Laoo",
  "1Zzzz1Laoo1Zzzz5Laoo1Zzzz18Laoo1Zzzz1Laoo1Zzzz17Laoo2Zzzz5Laoo1Zzzz1Laoo1Zzzz7Laoo1ZzzzaLaoo",
  "2Zzzz4Laoo20Zzzz48Tibt1Zzzz24Tibt4Zzzz27Tibt1Zzzz24Tibt1ZzzzfTibt1Zzzz7Tibt4Zyyy2Tibt25Zzzz",
  "a0Mymr26Geor1Zzzz1Geor5Zzzz1Geor2Zzzz2bGeor1Zyyy4Geor100Hang49Ethi1Zzzz4Ethi2Zzzz7Ethi1Zzzz",
  "1Ethi1Zzzz4Ethi2Zzzz29Ethi1Zzzz4Ethi2Zzzz21Ethi1Zzzz4Ethi2Zzzz7Ethi1Zzzz1Ethi1Zzzz4Ethi2Zzzz",
  "fEthi1Zzzz39Ethi1Zzzz4Ethi2Zzzz43Ethi2Zzzz20Ethi3Zzzz1aEthi6Zzzz56Cher2Zzzz6Cher2Zzzz280Cans",
  "1dOgam3Zzzz4bRunr3ZyyybRunr7Zzzz16Tglg9Zzzz1Tglg15Hano2Zyyy9Zzzz14BuhdcZzzzdTagb1Zzzz3Tagb",
  "1Zzzz2TagbcZzzz5eKhmr2ZzzzaKhmr6ZzzzaKhmr6Zzzz2Mong2Zyyy1Mong1Zyyy14Mong6Zzzz59Mong7Zzzz",
  "2bMong5Zzzz46CansaZzzz1fLimb1ZzzzcLimb4ZzzzcLimb4Zzzz1Limb3ZzzzcLimb1eTale2Zzzz5TalebZzzz",
  "2cTalu4Zzzz1aTalu6ZzzzbTalu3Zzzz2Talu20Khmr1cBugi2Zzzz2Bugi3fLana1Zzzz1dLana2ZzzzbLana6Zzzz",
  "aLana6ZzzzeLana2Zzzz1fZinh31Zzzz4dBali1Zzzz32Bali40Sund34Batk8Zzzz4Batk38Lepc3ZzzzfLepc3Zzzz",
  "3Lepc30OlckbCyrl5Zzzz2bGeor2Zzzz3Geor8Sund8Zzzz3Zinh1ZyyydZinh1Zyyy7Zinh4Zyyy1Zinh6Zyyy1Zinh",
  "3Zyyy2Zinh1Zyyy5Zzzz26Latn5Grek1Cyrl31Latn5Grek4Latn5GrekdLatn1Cyrl46Latn1Grek40Zinh100Latn",
  "16Grek2Zzzz6Grek2Zzzz26Grek2Zzzz6Grek2Zzzz8Grek1Zzzz1Grek1Zzzz1Grek1Zzzz1Grek1Zzzz1fGrek",
  "2Zzzz35Grek1ZzzzfGrek1ZzzzeGrek2Zzzz6Grek1Zzzz13Grek2Zzzz3Grek1Zzzz9Grek1ZzzzcZyyy2Zinh",
  "57Zyyy1ZzzzbZyyy1Latn2ZzzzbZyyy1LatnfZyyy1ZzzzdLatn3Zzzz21ZyyyfZzzz21ZinhfZzzz26Zyyy1Grek",
  "3Zyyy2Latn6Zyyy1Latn1bZyyy1Latn11Zyyy29Latn3Zyyy4Zzzz29aZyyy16ZzzzbZyyy15Zzzz3a0Zyyy100Brai",
  "274Zyyy2Zzzz20Zyyy1Zzzz69Zyyy60Glag20Latn74Copt5Zzzz7Copt26Geor1Zzzz1Geor5Zzzz1Geor2Zzzz",
  "38Tfng7Zzzz2TfngeZzzz1Tfng17Ethi9Zzzz7Ethi1Zzzz7Ethi1Zzzz7Ethi1Zzzz7Ethi1Zzzz7Ethi1Zzzz7Ethi",
  "1Zzzz7Ethi1Zzzz7Ethi1Zzzz20Cyrl5eZyyy22Zzzz1aHani1Zzzz59HanicZzzzd6Hani1aZzzz15Zyyy1Hani",
  "1Zyyy1Hani19Zyyy9Hani4Zinh2Hang8Zyyy4Hani4Zyyy1Zzzz56Hira2Zzzz2Zinh2Zyyy3Hira1Zyyy5aKana",
  "2Zyyy3Kana5Zzzz2bBopo1Zzzz5eHang1Zzzz10Zyyy20Bopo26Zyyy9Zzzz1Zyyy10Kana1fHang1Zzzz40Zyyy",
  "1fHang51Zyyy2fKana1Zyyy58Kanaa8Zyyy19c0Hani40Zyyy5200Hani48dYiii3Zzzz37Yiii9Zzzz30Lisu",
  "12cVaii14Zzzz60Cyrl58Bamu8Zzzz22Zyyy66Latn3Zyyy43Latn2Zzzz2Latn1Zzzz1Latn1Zzzz8Latn15Zzzz",
  "eLatn2dSylo3ZzzzaZyyy6Zzzz38Phag8Zzzz46Saur8ZzzzcSaur6Zzzz20Deva2eKali1Zyyy1Kali24RjngbZzzz",
  "1Rjng1dHang3Zzzz4eJava1Zzzz1ZyyyaJava4Zzzz2Java1fMymr1Zzzz37Cham9ZzzzeCham2ZzzzaCham2Zzzz",
  "4Cham20Mymr43Tavt18Zzzz5Tavt17MteiaZzzz6Ethi2Zzzz6Ethi2Zzzz6Ethi9Zzzz7Ethi1Zzzz7Ethi1Zzzz",
  "2bLatn1Zyyy9Latn1Grek4Latn2Zyyy4Zzzz50Cher2eMtei2ZzzzaMtei6Zzzz2ba4HangcZzzz17Hang4Zzzz",
  "31Hang2104Zzzz16eHani2Zzzz6aHani26Zzzz7LatncZzzz5Armn5Zzzz1aHebr1Zzzz5Hebr1Zzzz1Hebr1Zzzz",
  "2Hebr1Zzzz2Hebr1ZzzzaHebr73Arab10Zzzz16bArab2Zyyy50Arab2Zzzz36Arab7Zzzz1Arab20Zzzz10Arab",
  "10ZinhaZyyy6ZzzzeZinh2Cyrl23Zyyy1Zzzz13Zyyy1Zzzz4Zyyy4Zzzz5Arab1Zzzz87Arab2Zzzz1Zyyy1Zzzz",
  "20Zyyy1aLatn6Zyyy1aLatnbZyyyaKana1Zyyy2dKana2Zyyy1fHang3Zzzz6Hang2Zzzz6Hang2Zzzz6Hang2Zzzz",
  "3Hang3Zzzz7Zyyy1Zzzz7ZyyyaZzzz5Zyyy2ZzzzcLinb1Zzzz1aLinb1Zzzz13Linb1Zzzz2Linb1ZzzzfLinb2Zzzz",
  "eLinb22Zzzz7bLinb5Zzzz3Zyyy4Zzzz2dZyyy3Zzzz9Zyyy4fGrek1ZzzzdZyyy3Zzzz1Grek2fZzzz2dZyyy1Zinh",
  "82Zzzz1dLyci3Zzzz31CarifZzzz1Zinh1bZyyy4Zzzz24Ital9Zzzz3Ital1bGoth5Zzzz2bPerm5Zzzz1eUgar",
  "1Zzzz1Ugar24Xpeo4ZzzzeXpeo2aZzzz50Dsrt30Shaw1eOsma2ZzzzaOsma6Zzzz24Osge4Zzzz24Osge4Zzzz",
  "28Elba8Zzzz34AghbbZzzz1AghbbVith1ZzzzfVith1Zzzz7Vith1Zzzz2Vith1ZzzzbVith1ZzzzfVith1Zzzz7Vith",
  "1Zzzz2Vith3Zzzz34TodrcZzzz137Lina9Zzzz16LinaaZzzz8Lina18Zzzz6Latn1Zzzz2aLatn1Zzzz9Latn45Zzzz",
  "6Cprt2Zzzz1Cprt1Zzzz2cCprt1Zzzz2Cprt3Zzzz1Cprt2Zzzz1Cprt16Armi1Zzzz9Armi20Palm1fNbat8Zzzz",
  "9Nbat30Zzzz13Hatr1Zzzz2Hatr5Zzzz5Hatr1cPhnx3Zzzz1Phnx1aLydi5Zzzz1Lydi40Zzzz20Mero18Merc4Zzzz",
  "14Merc2Zzzz2eMerc4Khar1Zzzz2Khar5Zzzz8Khar1Zzzz3Khar1Zzzz1dKhar2Zzzz3Khar4ZzzzaKhar7Zzzz",
  "9Khar7Zzzz20Sarb20Narb20Zzzz27Mani4ZzzzcMani9Zzzz36Avst3Zzzz7Avst16Prti2Zzzz8Prti13Phli5Zzzz",
  "8Phli12Phlp7Zzzz4PhlpcZzzz7Phlp50Zzzz49Orkh37Zzzz33HungdZzzz33Hung7Zzzz6Hung28Rohg8ZzzzaRohg",
  "6Zzzz26Gara3Zzzz1dGara8Zzzz2Garad0Zzzz1fArab1Zzzz2aYezi1Zzzz3Yezi2Zzzz2Yezi10Zzzz3Arab37Zzzz",
  "4Arab28Sogo8Zzzz2aSogd16Zzzz1aOugr26Zzzz1cChrs14Zzzz17Elym9Zzzz4eBrah4Zzzz24Brah9Zzzz1Brah",
  "43KthiaZzzz1Kthi2Zzzz19Sora7ZzzzaSora6Zzzz35Cakm1Zzzz12Cakm8Zzzz27Mahj9Zzzz60Shrd1Zzzz14Sinh",
  "bZzzz12Khoj1Zzzz2fKhoj3eZzzz7Mult1Zzzz1Mult1Zzzz4Mult1ZzzzfMult1ZzzzbMult6Zzzz3bSind5Zzzz",
  "aSind6Zzzz4Gran1Zzzz8Gran2Zzzz2Gran2Zzzz16Gran1Zzzz7Gran1Zzzz2Gran1Zzzz5Gran1Zzzz1Zinh9Gran",
  "2Zzzz2Gran2Zzzz3Gran2Zzzz1Gran6Zzzz1Gran5Zzzz7Gran2Zzzz7Gran3Zzzz5GranbZzzzaTutg1Zzzz1Tutg",
  "2Zzzz1Tutg1Zzzz26Tutg1ZzzzaTutg1Zzzz1Tutg2Zzzz1Tutg1Zzzz4Tutg1ZzzzaTutg1Zzzz2Tutg8Zzzz2Tutg",
  "1dZzzz5cNewa1Zzzz5Newa1eZzzz48Tirh8ZzzzaTirha6Zzzz36Sidd2Zzzz26Sidd22Zzzz45ModibZzzzaModi",
  "6ZzzzdMong13Zzzz3aTakr6ZzzzaTakr6Zzzz14Mymr1cZzzz1bAhom2ZzzzfAhom4Zzzz17Ahomb9Zzzz3cDogr",
  "64Zzzz53WaracZzzz1Wara7Diak2Zzzz1Diak2Zzzz8Diak1Zzzz2Diak1Zzzz1eDiak1Zzzz2Diak2ZzzzcDiak",
  "9ZzzzaDiak46Zzzz8Nand2Zzzz2eNand2ZzzzbNand1bZzzz48Zanb8Zzzz53SoyodZzzz10Cans39Pauc7ZzzzaDeva",
  "b6Zzzz22SunueZzzzaSunu6Zzzz9Bhks1Zzzz2dBhks1ZzzzeBhksaZzzz1dBhks3Zzzz20Marc2Zzzz16Marc1Zzzz",
  "eMarc49Zzzz7Gonm1Zzzz2Gonm1Zzzz2cGonm3Zzzz1Gonm1Zzzz2Gonm1Zzzz9Gonm8ZzzzaGonm6Zzzz6Gong1Zzzz",
  "2Gong1Zzzz25Gong1Zzzz2Gong1Zzzz6Gong7ZzzzaGong136Zzzz19Maka7Zzzz11Kawi1Zzzz29Kawi3Zzzz1dKawi",
  "55Zzzz1LisufZzzz32TamldZzzz1Taml39aXsux66Zzzz6fXsux1Zzzz5XsuxbZzzzc4Xsuxa4cZzzz63CpmndZzzz",
  "456EgypaZzzzf9bEgyp5Zzzz247Hluw1ab9Zzzz3aGukh6c6Zzzz239Bamu7Zzzz1fMroo1ZzzzaMroo4Zzzz2Mroo",
  "4fTnsa1ZzzzaTnsa6Zzzz1eBass2Zzzz6BassaZzzz46HmngaZzzzaHmng1Zzzz7Hmng1Zzzz15Hmng5Zzzz13Hmng",
  "1b0Zzzz3aKraic6Zzzz5bMedf65Zzzz4bPlrd4Zzzz39Plrd7Zzzz11Plrd40Zzzz1Tang1Nshu2Hani1KitsbZzzz",
  "2HanieZzzz17f8Tang8Zzzz300Tang1d6Kits29Zzzz1Kits9Tang22e7Zzzz4Kana1Zzzz7Kana1Zzzz2Kana1Zzzz",
  "1Kana11fHira3KanafZzzz1Hira1dZzzz3Hira2Zzzz1KanaeZzzz4Kana8Zzzz18cNshu904Zzzz6bDupl5Zzzz",
  "dDupl3Zzzz9Dupl7ZzzzaDupl2Zzzz4Dupl4Zyyyf5cZzzzfaZyyy6Zzzz1b4Zyyy4cZzzz2eZinh2Zzzz17Zinh",
  "9Zzzz74Zyyy3cZzzzf6ZyyyaZzzz27Zyyy2Zzzz3eZyyy3Zinh11Zyyy8Zinh2Zyyy7Zinh1eZyyy4Zinh3dZyyy",
  "15Zzzz46Grek7aZzzz14ZyyycZzzz14ZyyycZzzz57Zyyy9Zzzz19Zyyy87Zzzz55Zyyy1Zzzz47Zyyy1Zzzz2Zyyy",
  "2Zzzz1Zyyy2Zzzz2Zyyy2Zzzz4Zyyy1ZzzzcZyyy1Zzzz1Zyyy1Zzzz7Zyyy1Zzzz41Zyyy1Zzzz4Zyyy2Zzzz8Zyyy",
  "1Zzzz7Zyyy1Zzzz1cZyyy1Zzzz4Zyyy1Zzzz5Zyyy1Zzzz1Zyyy3Zzzz7Zyyy1Zzzz154Zyyy2Zzzz124Zyyy2Zzzz",
  "32Zyyy28cSgnwfZzzz5Sgnw1ZzzzfSgnw450Zzzz1fLatn6Zzzz6Latnd5Zzzz7Glag1Zzzz11Glag2Zzzz7Glag",
  "1Zzzz2Glag1Zzzz5Glag5Zzzz3eCyrl21Zzzz1Cyrl70Zzzz2dHmnp3ZzzzeHmnp2ZzzzaHmnp4Zzzz2Hmnp140Zzzz",
  "1fToto11Zzzz3aWcho5Zzzz1Wcho1d0Zzzz2aNagmd6Zzzz2bOnao4Zzzz1Onao1e0Zzzz7Ethi1Zzzz4Ethi1Zzzz",
  "2Ethi1ZzzzfEthi1Zzzzc5Mend2Zzzz10Mend29Zzzz4cAdlm4ZzzzaAdlm4Zzzz2Adlm311Zzzz44Zyyy4cZzzz",
  "3dZyyyc2Zzzz4Arab1Zzzz1bArab1Zzzz2Arab1Zzzz1Arab2Zzzz1Arab1ZzzzaArab1Zzzz4Arab1Zzzz1Arab",
  "1Zzzz1Arab6Zzzz1Arab4Zzzz1Arab1Zzzz1Arab1Zzzz1Arab1Zzzz3Arab1Zzzz2Arab1Zzzz1Arab2Zzzz1Arab",
  "1Zzzz1Arab1Zzzz1Arab1Zzzz1Arab1Zzzz1Arab1Zzzz2Arab1Zzzz1Arab2Zzzz4Arab1Zzzz7Arab1Zzzz4Arab",
  "1Zzzz4Arab1Zzzz1Arab1ZzzzaArab1Zzzz11Arab5Zzzz3Arab1Zzzz5Arab1Zzzz11Arab34Zzzz2Arab10eZzzz",
  "2cZyyy4Zzzz64ZyyycZzzzfZyyy2ZzzzfZyyy1ZzzzfZyyy1Zzzz25ZyyyaZzzzaeZyyy38Zzzz1aZyyy1Hira2Zyyy",
  "dZzzz2cZyyy4Zzzz9Zyyy7Zzzz2ZyyyeZzzz6Zyyy9aZzzz3d8Zyyy4Zzzz11Zyyy3ZzzzdZyyy3Zzzz77Zyyy4Zzzz",
  "5fZyyy6ZzzzcZyyy4Zzzz1ZyyyfZzzzcZyyy4Zzzz38Zyyy8ZzzzaZyyy6Zzzz28Zyyy8Zzzz1eZyyy2ZzzzcZyyy",
  "4Zzzz2Zyyy3eZzzz154ZyyycZzzzeZyyy2ZzzzdZyyy3ZzzzaZyyy5Zzzz38Zyyy7ZzzzfZyyy2ZzzzbZyyy6Zzzz",
  "9Zyyy7Zzzz93Zyyy1Zzzz66Zyyy406Zzzza6e0Hani20Zzzz103aHani6ZzzzdeHani2Zzzz1682HanieZzzz",
  "1d31HanifZzzz26eHani9a2Zzzz21eHani5e2Zzzz134bHani5Zzzz1060Haniadc51Zzzz1Zyyy1eZzzz60Zyyy",
  "80Zzzzf0Zinh2fe10Zzzz"]

/-- The runs of code points of one script. -/
def scriptRuns : List (Run String) := runsOf 4 scriptTable

/-- The characters that are used with several scripts, by the codes of these scripts. -/
def extensionTable : List (String × String) := [
  ("Avst Cari Copt Dupl Elba Geor Glag Gong Goth Grek Hani Latn Lydi Mahj Perm Shaw", "b7 1"),
  ("Beng Cyrl Deva Latn Lisu Thai Toto", "2bc 1"), ("Bopo Latn", "2c7 1 1 3 d 1"),
  ("Latn Lisu", "2cd 1"), ("Latn Thai", "2d7 1"),
  ("Cher Copt Cyrl Grek Latn Perm Sunu Tale", "300 1"),
  ("Cher Cyrl Grek Latn Osge Sunu Tale Todr", "301 1"), ("Cher Cyrl Latn Tfng", "302 1"),
  ("Glag Latn Sunu Syrc Thai", "303 1"),
  ("Aghb Cher Copt Cyrl Goth Grek Latn Osge Syrc Tfng Todr", "304 1"),
  ("Copt Elba Glag Goth Kana Latn", "305 1"), ("Cyrl Grek Latn Perm Tfng", "306 1"),
  ("Copt Dupl Hebr Latn Perm Syrc Tale Tfng Todr", "307 1"),
  ("Armn Cyrl Dupl Goth Grek Hebr Latn Perm Syrc Tale Tfng", "308 1"), ("Latn Tfng", "309 1"),
  ("Dupl Latn Syrc", "30a 1"), ("Cher Cyrl Latn Osge", "30b 1"), ("Cher Latn Tale", "30c 1"),
  ("Latn Sunu", "30d 1 2 1"), ("Ethi Latn", "30e 1"), ("Cyrl Latn Todr", "311 1"),
  ("Grek Latn Perm Todr", "313 1"), ("Cher Dupl Kana Latn Syrc Tfng", "323 1"),
  ("Cher Dupl Latn Syrc", "324 1"), ("Latn Syrc", "325 1 8 1"), ("Latn Sunu Syrc", "32d 1"),
  ("Cher Latn Syrc", "330 1"), ("Aghb Cher Goth Latn Sunu Syrc Thai", "331 1"),
  ("Grek", "342 1 2 1 1a7a 2"), ("Latn Osge", "358 1"), ("Aghb Latn Todr", "35e 1"),
  ("Latn", "363 d"), ("Copt Grek", "374 2"), ("Cyrl Perm", "483 1"),
  ("Cyrl Glag", "484 1 2 1 29bb 1 782b 1"), ("Cyrl Latn", "485 2"), ("Armn Geor Glag", "589 1"),
  ("Arab Gara Nkoo Rohg Syrc Thaa Yezi", "60c 1 e 1"), ("Arab Syrc Thaa", "61c 1"),
  ("Adlm Arab Gara Nkoo Rohg Syrc Thaa Yezi", "61f 1"),
  ("Adlm Arab Mand Mani Ougr Phlp Rohg Sogd Syrc", "640 1"), ("Arab Syrc", "64b b 1a 1"),
  ("Arab Thaa Yezi", "660 a"), ("Arab Rohg", "6d4 1"),
  ("Beng Deva Gran Gujr Guru Knda Latn Mlym Nand Newa Orya Shrd Taml Telu Tirh", "951 1"),
  ("Beng Deva Gran Gujr Guru Knda Latn Mlym Newa Orya Taml Telu Tirh", "952 1"),
  ("Beng Deva Dogr Gong Gonm Gran Gujr Guru Knda Mahj Mlym Nand Onao Orya Sind Sinh Sylo " ++
    "Takr Taml Telu Tirh",
    "964 1"),
  ("Beng Deva Dogr Gong Gonm Gran Gujr Gukh Guru Knda Limb Mahj Mlym Nand Onao Orya Sind " ++
    "Sinh Sylo Takr Taml Telu Tirh",
    "965 1"),
  ("Deva Dogr Kthi Mahj", "966 a"), ("Beng Cakm Sylo", "9e6 a"), ("Guru Mult", "a66 a"),
  ("Gujr Khoj", "ae6 a"), ("Gran Taml", "be6 e 1070d 1 1 1 37 2 c93 2 1 1"),
  ("Knda Nand Tutg", "ce6 a"), ("Cakm Mymr Tale", "1040 a"), ("Geor Glag Latn", "10fb 1"),
  ("Runr", "16eb 3"), ("Buhd Hano Tagb Tglg", "1735 2"), ("Mong Phag", "1802 2 1 1"),
  ("Beng Deva Gran Knda", "1cd0 1 1 1"), ("Deva", "1cd1 1 2 1 6 1 2 2 3 6 3 1 1 4"),
  ("Deva Gran Knda", "1cd3 1"), ("Beng Deva Newa Telu Tirh", "1cd5 1"),
  ("Beng Deva Telu", "1cd6 1"), ("Deva Newa Shrd", "1cd7 1"), ("Beng Deva Newa Telu", "1cd8 1"),
  ("Deva Shrd", "1cd9 1 2 2 2 1"), ("Deva Knda Mlym Orya Taml Telu", "1cda 1"),
  ("Beng Deva", "1ce1 1 13 2"), ("Deva Newa Tirh", "1ce2 1"), ("Deva Nand Newa", "1ce9 1"),
  ("Beng Deva Shrd", "1cea 1"), ("Deva Newa", "1ceb 1"), ("Beng Deva Newa Shrd", "1ced 1"),
  ("Beng Deva Gran Knda Mlym Nand Orya Sinh Telu Tirh Tutg", "1cf2 1"),
  ("Deva Gran", "1cf3 1 4 2"), ("Deva Gran Knda Tutg", "1cf4 1"), ("Beng", "1cf7 1"),
  ("Nand", "1cfa 1"), ("Cyrl Latn Syrc", "1df8 1"), ("Syrc", "1dfa 1"),
  ("Latn Mong Phag", "202f 1"), ("Adlm Arab", "204f 1"),
  ("Cari Geor Glag Hung Lyci Orkh", "205a 1"), ("Cari Grek Hung Mero", "205d 1"),
  ("Deva Gran Latn", "20f0 1"), ("Copt Latn", "2e17 1"), ("Avst Orkh", "2e30 1"),
  ("Avst Cari Geor Hung Kthi Lydi Samr", "2e31 1"), ("Dupl", "2e3c 1 18e63 4"),
  ("Adlm Arab Hung", "2e41 1"), ("Hani Tang", "2ff0 10 1ef 1"),
  ("Bopo Hang Hani Hira Kana Mong Yiii", "3001 1"),
  ("Bopo Hang Hani Hira Kana Mong Phag Yiii", "3002 1"),
  ("Bopo Hang Hani Hira Kana", "3003 1 f 1 8 4 10 1 6 1 ce0d 2"),
  ("Hani", "3006 1 37 2 150 10 20 26 3a 28 38 31 f c 33 1 58 19 a 5 60 1f 19f61 12 1ede 2"),
  ("Bopo Hang Hani Hira Kana Mong Tibt Yiii", "3008 2"),
  ("Bopo Hang Hani Hira Kana Lisu Mong Tibt Yiii", "300a 2"),
  ("Bopo Hang Hani Hira Kana Yiii", "300c 6 2 8 df 1 ce65 5"), ("Bopo Hani", "302a 4"),
  ("Hira Kana", "3031 5 63 4 3 1 5b 1 ce73 1 2d 2"), ("Hani Hira Kana", "303c 2"),
  ("Hani Latn", "a700 8"),
  ("Deva Dogr Gujr Guru Khoj Knda Kthi Mahj Mlym Modi Nand Shrd Sind Takr Tirh Tutg", "a830 3"),
  ("Deva Dogr Gujr Guru Khoj Knda Kthi Mahj Modi Nand Shrd Sind Takr Tirh Tutg", "a833 3"),
  ("Deva Dogr Gujr Guru Khoj Kthi Mahj Modi Sind Takr Tirh", "a836 2 1 1"),
  ("Deva Dogr Gujr Guru Khoj Kthi Mahj Modi Shrd Sind Takr Tirh", "a838 1"),
  ("Beng Deva Tutg", "a8f1 1"), ("Deva Taml", "a8f3 1"), ("Kali Latn Mymr", "a92e 1"),
  ("Bugi Java", "a9cf 1"), ("Arab Nkoo", "fd3e 2"), ("Arab Thaa", "fdf2 1 a 1"),
  ("Cpmn Cprt Linb", "10100 2"), ("Cprt Linb", "10102 1 34 9"), ("Cprt Lina Linb", "10107 2d"),
  ("Arab Copt", "102e0 1c"), ("Mani Ougr", "10af2 1")]

/-- The sets of characters that are used with the same scripts, with the codes of these. -/
def extensions : List (List String × CharSet) :=
  extensionTable.map fun (codes, runs) => (codes.splitOn " ", charsOfRuns [runs])

/-- The characters of the script with the given code. -/
def scriptChars (code : String) : CharSet := charsWhere (· == code) scriptRuns

/-- The characters that are used with the script of the given code, and maybe with others. -/
def extendedScriptChars (code : String) : CharSet :=
  let (inside, outside) := extensions.partition fun (codes, _) => codes.contains code
  .union (.diff (scriptChars code) (.unionAll (outside.map (·.2)))) (.unionAll (inside.map (·.2)))

end MessageRouter.Unicode
