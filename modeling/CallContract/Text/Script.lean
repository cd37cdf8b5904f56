import CallContract.Text.RunTable

/-!
# Scripts

Every code point belongs to the writing system that uses it.  A script is
named by its four-letter code; `Zyyy` collects what several scripts share,
`Zinh` what takes over the script of its neighbour and `Zzzz` what has none.
-/

namespace CallContract.Text

/-- The codes of the scripts, each with its full name. -/
def scriptNames : List (String × String) :=
  [("Adlm", "Adlam"), ("Aghb", "Caucasian_Albanian"), ("Ahom", "Ahom"),
    ("Arab", "Arabic"), ("Armi", "Imperial_Aramaic"), ("Armn", "Armenian"),
    ("Avst", "Avestan"), ("Bali", "Balinese"), ("Bamu", "Bamum"),
    ("Bass", "Bassa_Vah"), ("Batk", "Batak"), ("Beng", "Bengali"),
    ("Bhks", "Bhaiksuki"), ("Bopo", "Bopomofo"), ("Brah", "Brahmi"),
    ("Brai", "Braille"), ("Bugi", "Buginese"), ("Buhd", "Buhid"),
    ("Cakm", "Chakma"), ("Cans", "Canadian_Aboriginal"), ("Cari", "Carian"),
    ("Cham", "Cham"), ("Cher", "Cherokee"), ("Chrs", "Chorasmian"),
    ("Copt", "Coptic"), ("Cpmn", "Cypro_Minoan"), ("Cprt", "Cypriot"),
    ("Cyrl", "Cyrillic"), ("Deva", "Devanagari"), ("Diak", "Dives_Akuru"),
    ("Dogr", "Dogra"), ("Dsrt", "Deseret"), ("Dupl", "Duployan"),
    ("Egyp", "Egyptian_Hieroglyphs"), ("Elba", "Elbasan"), ("Elym", "Elymaic"),
    ("Ethi", "Ethiopic"), ("Gara", "Garay"), ("Geor", "Georgian"),
    ("Glag", "Glagolitic"), ("Gong", "Gunjala_Gondi"), ("Gonm", "Masaram_Gondi"),
    ("Goth", "Gothic"), ("Gran", "Grantha"), ("Grek", "Greek"),
    ("Gujr", "Gujarati"), ("Gukh", "Gurung_Khema"), ("Guru", "Gurmukhi"),
    ("Hang", "Hangul"), ("Hani", "Han"), ("Hano", "Hanunoo"),
    ("Hatr", "Hatran"), ("Hebr", "Hebrew"), ("Hira", "Hiragana"),
    ("Hluw", "Anatolian_Hieroglyphs"), ("Hmng", "Pahawh_Hmong"), ("Hmnp", "Nyiakeng_Puachue_Hmong"),
    ("Hung", "Old_Hungarian"), ("Ital", "Old_Italic"), ("Java", "Javanese"),
    ("Kali", "Kayah_Li"), ("Kana", "Katakana"), ("Kawi", "Kawi"),
    ("Khar", "Kharoshthi"), ("Khmr", "Khmer"), ("Khoj", "Khojki"),
    ("Kits", "Khitan_Small_Script"), ("Knda", "Kannada"), ("Krai", "Kirat_Rai"),
    ("Kthi", "Kaithi"), ("Lana", "Tai_Tham"), ("Laoo", "Lao"),
    ("Latn", "Latin"), ("Lepc", "Lepcha"), ("Limb", "Limbu"),
    ("Lina", "Linear_A"), ("Linb", "Linear_B"), ("Lisu", "Lisu"),
    ("Lyci", "Lycian"), ("Lydi", "Lydian"), ("Mahj", "Mahajani"),
    ("Maka", "Makasar"), ("Mand", "Mandaic"), ("Mani", "Manichaean"),
    ("Marc", "Marchen"), ("Medf", "Medefaidrin"), ("Mend", "Mende_Kikakui"),
    ("Merc", "Meroitic_Cursive"), ("Mero", "Meroitic_Hieroglyphs"), ("Mlym", "Malayalam"),
    ("Modi", "Modi"), ("Mong", "Mongolian"), ("Mroo", "Mro"),
    ("Mtei", "Meetei_Mayek"), ("Mult", "Multani"), ("Mymr", "Myanmar"),
    ("Nagm", "Nag_Mundari"), ("Nand", "Nandinagari"), ("Narb", "Old_North_Arabian"),
    ("Nbat", "Nabataean"), ("Newa", "Newa"), ("Nkoo", "Nko"),
    ("Nshu", "Nushu"), ("Ogam", "Ogham"), ("Olck", "Ol_Chiki"),
    ("Onao", "Ol_Onal"), ("Orkh", "Old_Turkic"), ("Orya", "Oriya"),
    ("Osge", "Osage"), ("Osma", "Osmanya"), ("Ougr", "Old_Uyghur"),
    ("Palm", "Palmyrene"), ("Pauc", "Pau_Cin_Hau"), ("Perm", "Old_Permic"),
    ("Phag", "Phags_Pa"), ("Phli", "Inscriptional_Pahlavi"), ("Phlp", "Psalter_Pahlavi"),
    ("Phnx", "Phoenician"), ("Plrd", "Miao"), ("Prti", "Inscriptional_Parthian"),
    ("Rjng", "Rejang"), ("Rohg", "Hanifi_Rohingya"), ("Runr", "Runic"),
    ("Samr", "Samaritan"), ("Sarb", "Old_South_Arabian"), ("Saur", "Saurashtra"),
    ("Sgnw", "SignWriting"), ("Shaw", "Shavian"), ("Shrd", "Sharada"),
    ("Sidd", "Siddham"), ("Sind", "Khudawadi"), ("Sinh", "Sinhala"),
    ("Sogd", "Sogdian"), ("Sogo", "Old_Sogdian"), ("Sora", "Sora_Sompeng"),
    ("Soyo", "Soyombo"), ("Sund", "Sundanese"), ("Sunu", "Sunuwar"),
    ("Sylo", "Syloti_Nagri"), ("Syrc", "Syriac"), ("Tagb", "Tagbanwa"),
    ("Takr", "Takri"), ("Tale", "Tai_Le"), ("Talu", "New_Tai_Lue"),
    ("Taml", "Tamil"), ("Tang", "Tangut"), ("Tavt", "Tai_Viet"),
    ("Telu", "Telugu"), ("Tfng", "Tifinagh"), ("Tglg", "Tagalog"),
    ("Thaa", "Thaana"), ("Thai", "Thai"), ("Tibt", "Tibetan"),
    ("Tirh", "Tirhuta"), ("Tnsa", "Tangsa"), ("Todr", "Todhri"),
    ("Toto", "Toto"), ("Tutg", "Tulu_Tigalari"), ("Ugar", "Ugaritic"),
    ("Vaii", "Vai"), ("Vith", "Vithkuqi"), ("Wara", "Warang_Citi"),
    ("Wcho", "Wancho"), ("Xpeo", "Old_Persian"), ("Xsux", "Cuneiform"),
    ("Yezi", "Yezidi"), ("Yiii", "Yi"), ("Zanb", "Zanabazar_Square"),
    ("Zinh", "Inherited"), ("Zyyy", "Common"), ("Copt", "Qaac"),
    ("Zinh", "Qaai")]

def scriptRuns : String :=
  "65Zyyy26Latn6Zyyy26Latn47ZyyyLatn15ZyyyLatn5Zyyy23LatnZyyy31LatnZyyy449Latn39Zyyy5Latn5Zyyy2Bo
  po20Zyyy112Zinh4GrekZyyy3Grek2Zzzz4GrekZyyyGrek4ZzzzGrekZyyyGrekZyyy3GrekZzzzGrekZzzz20GrekZzz
  z63Grek14Copt16Grek133Cyrl2Zinh169CyrlZzzz38Armn2Zzzz50Armn2Zzzz3ArmnZzzz55Hebr8Zzzz27Hebr4Zzz
  z6Hebr11Zzzz5ArabZyyy6ArabZyyy14ArabZyyy3ArabZyyy32ArabZyyy10Arab11Zinh26ArabZinh108ArabZyyy34
  Arab14SyrcZzzz60Syrc2Zzzz3Syrc48Arab50Thaa14Zzzz59Nkoo2Zzzz3Nkoo46Samr2Zzzz15SamrZzzz28Mand2Zz
  zzMandZzzz11Syrc5Zzzz31ArabZzzz2Arab5Zzzz75ArabZyyy29Arab81Deva4Zinh15Deva2Zyyy26Deva4BengZzzz
  8Beng2Zzzz2Beng2Zzzz22BengZzzz7BengZzzzBeng3Zzzz4Beng2Zzzz9Beng2Zzzz2Beng2Zzzz4Beng8ZzzzBeng4Z
  zzz2BengZzzz5Beng2Zzzz25Beng2Zzzz3GuruZzzz6Guru4Zzzz2Guru2Zzzz22GuruZzzz7GuruZzzz2GuruZzzz2Gur
  uZzzz2Guru2ZzzzGuruZzzz5Guru4Zzzz2Guru2Zzzz3Guru3ZzzzGuru7Zzzz4GuruZzzzGuru7Zzzz17Guru10Zzzz3G
  ujrZzzz9GujrZzzz3GujrZzzz22GujrZzzz7GujrZzzz2GujrZzzz5Gujr2Zzzz10GujrZzzz3GujrZzzz3Gujr2ZzzzGu
  jr15Zzzz4Gujr2Zzzz12Gujr7Zzzz7GujrZzzz3OryaZzzz8Orya2Zzzz2Orya2Zzzz22OryaZzzz7OryaZzzz2OryaZzz
  z5Orya2Zzzz9Orya2Zzzz2Orya2Zzzz3Orya7Zzzz3Orya4Zzzz2OryaZzzz5Orya2Zzzz18Orya10Zzzz2TamlZzzz6Ta
  ml3Zzzz3TamlZzzz4Taml3Zzzz2TamlZzzzTamlZzzz2Taml3Zzzz2Taml3Zzzz3Taml3Zzzz12Taml4Zzzz5Taml3Zzzz
  3TamlZzzz4Taml2ZzzzTaml6ZzzzTaml14Zzzz21Taml5Zzzz13TeluZzzz3TeluZzzz23TeluZzzz16Telu2Zzzz9Telu
  Zzzz3TeluZzzz4Telu7Zzzz2TeluZzzz3Telu2ZzzzTelu2Zzzz4Telu2Zzzz10Telu7Zzzz9Telu13KndaZzzz3KndaZz
  zz23KndaZzzz10KndaZzzz5Knda2Zzzz9KndaZzzz3KndaZzzz4Knda7Zzzz2Knda6Zzzz2KndaZzzz4Knda2Zzzz10Knd
  aZzzz3Knda12Zzzz13MlymZzzz3MlymZzzz51MlymZzzz3MlymZzzz6Mlym4Zzzz16Mlym2Zzzz26MlymZzzz3SinhZzzz
  18Sinh3Zzzz24SinhZzzz9SinhZzzzSinh2Zzzz7Sinh3ZzzzSinh4Zzzz6SinhZzzzSinhZzzz8Sinh6Zzzz10Sinh2Zz
  zz3Sinh12Zzzz58Thai4ZzzzZyyy28Thai37Zzzz2LaooZzzzLaooZzzz5LaooZzzz24LaooZzzzLaooZzzz23Laoo2Zzz
  z5LaooZzzzLaooZzzz7LaooZzzz10Laoo2Zzzz4Laoo32Zzzz72TibtZzzz36Tibt4Zzzz39TibtZzzz36TibtZzzz15Ti
  btZzzz7Tibt4Zyyy2Tibt37Zzzz160Mymr38GeorZzzzGeor5ZzzzGeor2Zzzz43GeorZyyy4Geor256Hang73EthiZzzz
  4Ethi2Zzzz7EthiZzzzEthiZzzz4Ethi2Zzzz41EthiZzzz4Ethi2Zzzz33EthiZzzz4Ethi2Zzzz7EthiZzzzEthiZzzz
  4Ethi2Zzzz15EthiZzzz57EthiZzzz4Ethi2Zzzz67Ethi2Zzzz32Ethi3Zzzz26Ethi6Zzzz86Cher2Zzzz6Cher2Zzzz
  640Cans29Ogam3Zzzz75Runr3Zyyy11Runr7Zzzz22Tglg9ZzzzTglg21Hano2Zyyy9Zzzz20Buhd12Zzzz13TagbZzzz3
  TagbZzzz2Tagb12Zzzz94Khmr2Zzzz10Khmr6Zzzz10Khmr6Zzzz2Mong2ZyyyMongZyyy20Mong6Zzzz89Mong7Zzzz43
  Mong5Zzzz70Cans10Zzzz31LimbZzzz12Limb4Zzzz12Limb4ZzzzLimb3Zzzz12Limb30Tale2Zzzz5Tale11Zzzz44Ta
  lu4Zzzz26Talu6Zzzz11Talu3Zzzz2Talu32Khmr28Bugi2Zzzz2Bugi63LanaZzzz29Lana2Zzzz11Lana6Zzzz10Lana
  6Zzzz14Lana2Zzzz31Zinh49Zzzz77BaliZzzz50Bali64Sund52Batk8Zzzz4Batk56Lepc3Zzzz15Lepc3Zzzz3Lepc4
  8Olck11Cyrl5Zzzz43Geor2Zzzz3Geor8Sund8Zzzz3ZinhZyyy13ZinhZyyy7Zinh4ZyyyZinh6ZyyyZinh3Zyyy2Zinh
  Zyyy5Zzzz38Latn5GrekCyrl49Latn5Grek4Latn5Grek13LatnCyrl70LatnGrek64Zinh256Latn22Grek2Zzzz6Grek
  2Zzzz38Grek2Zzzz6Grek2Zzzz8GrekZzzzGrekZzzzGrekZzzzGrekZzzz31Grek2Zzzz53GrekZzzz15GrekZzzz14Gr
  ek2Zzzz6GrekZzzz19Grek2Zzzz3GrekZzzz9GrekZzzz12Zyyy2Zinh87ZyyyZzzz11ZyyyLatn2Zzzz11ZyyyLatn15Z
  yyyZzzz13Latn3Zzzz33Zyyy15Zzzz33Zinh15Zzzz38ZyyyGrek3Zyyy2Latn6ZyyyLatn27ZyyyLatn17Zyyy41Latn3
  Zyyy4Zzzz666Zyyy22Zzzz11Zyyy21Zzzz928Zyyy256Brai628Zyyy2Zzzz32ZyyyZzzz105Zyyy96Glag32Latn116Co
  pt5Zzzz7Copt38GeorZzzzGeor5ZzzzGeor2Zzzz56Tfng7Zzzz2Tfng14ZzzzTfng23Ethi9Zzzz7EthiZzzz7EthiZzz
  z7EthiZzzz7EthiZzzz7EthiZzzz7EthiZzzz7EthiZzzz7EthiZzzz32Cyrl94Zyyy34Zzzz26HaniZzzz89Hani12Zzz
  z214Hani26Zzzz21ZyyyHaniZyyyHani25Zyyy9Hani4Zinh2Hang8Zyyy4Hani4ZyyyZzzz86Hira2Zzzz2Zinh2Zyyy3
  HiraZyyy90Kana2Zyyy3Kana5Zzzz43BopoZzzz94HangZzzz16Zyyy32Bopo38Zyyy9ZzzzZyyy16Kana31HangZzzz64
  Zyyy31Hang81Zyyy47KanaZyyy88Kana168Zyyy6592Hani64Zyyy20992Hani1165Yiii3Zzzz55Yiii9Zzzz48Lisu30
  0Vaii20Zzzz96Cyrl88Bamu8Zzzz34Zyyy102Latn3Zyyy67Latn2Zzzz2LatnZzzzLatnZzzz8Latn21Zzzz14Latn45S
  ylo3Zzzz10Zyyy6Zzzz56Phag8Zzzz70Saur8Zzzz12Saur6Zzzz32Deva46KaliZyyyKali36Rjng11ZzzzRjng29Hang
  3Zzzz78JavaZzzzZyyy10Java4Zzzz2Java31MymrZzzz55Cham9Zzzz14Cham2Zzzz10Cham2Zzzz4Cham32Mymr67Tav
  t24Zzzz5Tavt23Mtei10Zzzz6Ethi2Zzzz6Ethi2Zzzz6Ethi9Zzzz7EthiZzzz7EthiZzzz43LatnZyyy9LatnGrek4La
  tn2Zyyy4Zzzz80Cher46Mtei2Zzzz10Mtei6Zzzz11172Hang12Zzzz23Hang4Zzzz49Hang8452Zzzz366Hani2Zzzz10
  6Hani38Zzzz7Latn12Zzzz5Armn5Zzzz26HebrZzzz5HebrZzzzHebrZzzz2HebrZzzz2HebrZzzz10Hebr115Arab16Zz
  zz363Arab2Zyyy80Arab2Zzzz54Arab7ZzzzArab32Zzzz16Arab16Zinh10Zyyy6Zzzz14Zinh2Cyrl35ZyyyZzzz19Zy
  yyZzzz4Zyyy4Zzzz5ArabZzzz135Arab2ZzzzZyyyZzzz32Zyyy26Latn6Zyyy26Latn11Zyyy10KanaZyyy45Kana2Zyy
  y31Hang3Zzzz6Hang2Zzzz6Hang2Zzzz6Hang2Zzzz3Hang3Zzzz7ZyyyZzzz7Zyyy10Zzzz5Zyyy2Zzzz12LinbZzzz26
  LinbZzzz19LinbZzzz2LinbZzzz15Linb2Zzzz14Linb34Zzzz123Linb5Zzzz3Zyyy4Zzzz45Zyyy3Zzzz9Zyyy79Grek
  Zzzz13Zyyy3ZzzzGrek47Zzzz45ZyyyZinh130Zzzz29Lyci3Zzzz49Cari15ZzzzZinh27Zyyy4Zzzz36Ital9Zzzz3It
  al27Goth5Zzzz43Perm5Zzzz30UgarZzzzUgar36Xpeo4Zzzz14Xpeo42Zzzz80Dsrt48Shaw30Osma2Zzzz10Osma6Zzz
  z36Osge4Zzzz36Osge4Zzzz40Elba8Zzzz52Aghb11ZzzzAghb11VithZzzz15VithZzzz7VithZzzz2VithZzzz11Vith
  Zzzz15VithZzzz7VithZzzz2Vith3Zzzz52Todr12Zzzz311Lina9Zzzz22Lina10Zzzz8Lina24Zzzz6LatnZzzz42Lat
  nZzzz9Latn69Zzzz6Cprt2ZzzzCprtZzzz44CprtZzzz2Cprt3ZzzzCprt2ZzzzCprt22ArmiZzzz9Armi32Palm31Nbat
  8Zzzz9Nbat48Zzzz19HatrZzzz2Hatr5Zzzz5Hatr28Phnx3ZzzzPhnx26Lydi5ZzzzLydi64Zzzz32Mero24Merc4Zzzz
  20Merc2Zzzz46Merc4KharZzzz2Khar5Zzzz8KharZzzz3KharZzzz29Khar2Zzzz3Khar4Zzzz10Khar7Zzzz9Khar7Zz
  zz32Sarb32Narb32Zzzz39Mani4Zzzz12Mani9Zzzz54Avst3Zzzz7Avst22Prti2Zzzz8Prti19Phli5Zzzz8Phli18Ph
  lp7Zzzz4Phlp12Zzzz7Phlp80Zzzz73Orkh55Zzzz51Hung13Zzzz51Hung7Zzzz6Hung40Rohg8Zzzz10Rohg6Zzzz38G
  ara3Zzzz29Gara8Zzzz2Gara208Zzzz31ArabZzzz42YeziZzzz3Yezi2Zzzz2Yezi16Zzzz3Arab55Zzzz4Arab40Sogo
  8Zzzz42Sogd22Zzzz26Ougr38Zzzz28Chrs20Zzzz23Elym9Zzzz78Brah4Zzzz36Brah9ZzzzBrah67Kthi10ZzzzKthi
  2Zzzz25Sora7Zzzz10Sora6Zzzz53CakmZzzz18Cakm8Zzzz39Mahj9Zzzz96ShrdZzzz20Sinh11Zzzz18KhojZzzz47K
  hoj62Zzzz7MultZzzzMultZzzz4MultZzzz15MultZzzz11Mult6Zzzz59Sind5Zzzz10Sind6Zzzz4GranZzzz8Gran2Z
  zzz2Gran2Zzzz22GranZzzz7GranZzzz2GranZzzz5GranZzzzZinh9Gran2Zzzz2Gran2Zzzz3Gran2ZzzzGran6ZzzzG
  ran5Zzzz7Gran2Zzzz7Gran3Zzzz5Gran11Zzzz10TutgZzzzTutg2ZzzzTutgZzzz38TutgZzzz10TutgZzzzTutg2Zzz
  zTutgZzzz4TutgZzzz10TutgZzzz2Tutg8Zzzz2Tutg29Zzzz92NewaZzzz5Newa30Zzzz72Tirh8Zzzz10Tirh166Zzzz
  54Sidd2Zzzz38Sidd34Zzzz69Modi11Zzzz10Modi6Zzzz13Mong19Zzzz58Takr6Zzzz10Takr6Zzzz20Mymr28Zzzz27
  Ahom2Zzzz15Ahom4Zzzz23Ahom185Zzzz60Dogr100Zzzz83Wara12ZzzzWara7Diak2ZzzzDiak2Zzzz8DiakZzzz2Dia
  kZzzz30DiakZzzz2Diak2Zzzz12Diak9Zzzz10Diak70Zzzz8Nand2Zzzz46Nand2Zzzz11Nand27Zzzz72Zanb8Zzzz83
  Soyo13Zzzz16Cans57Pauc7Zzzz10Deva182Zzzz34Sunu14Zzzz10Sunu6Zzzz9BhksZzzz45BhksZzzz14Bhks10Zzzz
  29Bhks3Zzzz32Marc2Zzzz22MarcZzzz14Marc73Zzzz7GonmZzzz2GonmZzzz44Gonm3ZzzzGonmZzzz2GonmZzzz9Gon
  m8Zzzz10Gonm6Zzzz6GongZzzz2GongZzzz37GongZzzz2GongZzzz6Gong7Zzzz10Gong310Zzzz25Maka7Zzzz17Kawi
  Zzzz41Kawi3Zzzz29Kawi85ZzzzLisu15Zzzz50Taml13ZzzzTaml922Xsux102Zzzz111XsuxZzzz5Xsux11Zzzz196Xs
  ux2636Zzzz99Cpmn13Zzzz1110Egyp10Zzzz3995Egyp5Zzzz583Hluw6841Zzzz58Gukh1734Zzzz569Bamu7Zzzz31Mr
  ooZzzz10Mroo4Zzzz2Mroo79TnsaZzzz10Tnsa6Zzzz30Bass2Zzzz6Bass10Zzzz70Hmng10Zzzz10HmngZzzz7HmngZz
  zz21Hmng5Zzzz19Hmng432Zzzz58Krai198Zzzz91Medf101Zzzz75Plrd4Zzzz57Plrd7Zzzz17Plrd64ZzzzTangNshu
  2HaniKits11Zzzz2Hani14Zzzz6136Tang8Zzzz768Tang470Kits41ZzzzKits9Tang8935Zzzz4KanaZzzz7KanaZzzz
  2KanaZzzzKana287Hira3Kana15ZzzzHira29Zzzz3Hira2ZzzzKana14Zzzz4Kana8Zzzz396Nshu2308Zzzz107Dupl5
  Zzzz13Dupl3Zzzz9Dupl7Zzzz10Dupl2Zzzz4Dupl4Zyyy3932Zzzz250Zyyy6Zzzz436Zyyy76Zzzz46Zinh2Zzzz23Zi
  nh9Zzzz116Zyyy60Zzzz246Zyyy10Zzzz39Zyyy2Zzzz62Zyyy3Zinh17Zyyy8Zinh2Zyyy7Zinh30Zyyy4Zinh61Zyyy2
  1Zzzz70Grek122Zzzz20Zyyy12Zzzz20Zyyy12Zzzz87Zyyy9Zzzz25Zyyy135Zzzz85ZyyyZzzz71ZyyyZzzz2Zyyy2Zz
  zzZyyy2Zzzz2Zyyy2Zzzz4ZyyyZzzz12ZyyyZzzzZyyyZzzz7ZyyyZzzz65ZyyyZzzz4Zyyy2Zzzz8ZyyyZzzz7ZyyyZzz
  z28ZyyyZzzz4ZyyyZzzz5ZyyyZzzzZyyy3Zzzz7ZyyyZzzz340Zyyy2Zzzz292Zyyy2Zzzz50Zyyy652Sgnw15Zzzz5Sgn
  wZzzz15Sgnw1104Zzzz31Latn6Zzzz6Latn213Zzzz7GlagZzzz17Glag2Zzzz7GlagZzzz2GlagZzzz5Glag5Zzzz62Cy
  rl33ZzzzCyrl112Zzzz45Hmnp3Zzzz14Hmnp2Zzzz10Hmnp4Zzzz2Hmnp320Zzzz31Toto17Zzzz58Wcho5ZzzzWcho464
  Zzzz42Nagm214Zzzz43Onao4ZzzzOnao480Zzzz7EthiZzzz4EthiZzzz2EthiZzzz15EthiZzzz197Mend2Zzzz16Mend
  41Zzzz76Adlm4Zzzz10Adlm4Zzzz2Adlm785Zzzz68Zyyy76Zzzz61Zyyy194Zzzz4ArabZzzz27ArabZzzz2ArabZzzzA
  rab2ZzzzArabZzzz10ArabZzzz4ArabZzzzArabZzzzArab6ZzzzArab4ZzzzArabZzzzArabZzzzArabZzzz3ArabZzzz
  2ArabZzzzArab2ZzzzArabZzzzArabZzzzArabZzzzArabZzzzArabZzzz2ArabZzzzArab2Zzzz4ArabZzzz7ArabZzzz
  4ArabZzzz4ArabZzzzArabZzzz10ArabZzzz17Arab5Zzzz3ArabZzzz5ArabZzzz17Arab52Zzzz2Arab270Zzzz44Zyy
  y4Zzzz100Zyyy12Zzzz15Zyyy2Zzzz15ZyyyZzzz15ZyyyZzzz37Zyyy10Zzzz174Zyyy56Zzzz26ZyyyHira2Zyyy13Zz
  zz44Zyyy4Zzzz9Zyyy7Zzzz2Zyyy14Zzzz6Zyyy154Zzzz984Zyyy4Zzzz17Zyyy3Zzzz13Zyyy3Zzzz119Zyyy4Zzzz95
  Zyyy6Zzzz12Zyyy4ZzzzZyyy15Zzzz12Zyyy4Zzzz56Zyyy8Zzzz10Zyyy6Zzzz40Zyyy8Zzzz30Zyyy2Zzzz12Zyyy4Zz
  zz2Zyyy62Zzzz340Zyyy12Zzzz14Zyyy2Zzzz13Zyyy3Zzzz10Zyyy5Zzzz56Zyyy7Zzzz15Zyyy2Zzzz11Zyyy6Zzzz9Z
  yyy7Zzzz147ZyyyZzzz102Zyyy1030Zzzz42720Hani32Zzzz4154Hani6Zzzz222Hani2Zzzz5762Hani14Zzzz7473Ha
  ni15Zzzz622Hani2466Zzzz542Hani1506Zzzz4939Hani5Zzzz4192Hani711761ZzzzZyyy30Zzzz96Zyyy128Zzzz24
  0Zinh196112Zzzz"

def scriptTable : RunTable String :=
  .ofRuns (readRuns 4 scriptRuns)

def script (c : Char) : String :=
  (scriptTable.find? c.toNat).getD "Zzzz"

end CallContract.Text
