import DashQuery.Text.Property.Code

/-!
# Scripts

The script of a code point, and the code points that scripts use in common.  An extended script is
given where it differs from the script itself.
-/

namespace DashQuery.Text.Property

/-- The scripts. -/
def scripts : List Entry :=
  [⟨["adlm", "adlam"], ["HDEuCxejeb"]⟩,
   ⟨["ahom"], ["EBRcBacoew"]⟩,
   ⟨["hluw", "anatolianhieroglyphs"], ["ESSeWk"]⟩,
   ⟨["arab", "arabic"],
     ["CHcebfbnbcbBfbjlzbEdbBhDcBvJgBebbfCwbBcDNTwEkqNycDbcCbhaBgpEiebFeFVnBeCpcCddDGLsdbBabbba",
      "cabjbdbabagaeabababcbbbacabababababbbacdbgbdbdbabjbqfcbebqCab"]⟩,
   ⟨["armn", "armenian"], ["BZdBlcBxccDOZje"]⟩,
   ⟨["avst", "avestan"], ["DXCyCbdg"]⟩,
   ⟨["bali", "balinese"], ["KFwCybBx"]⟩,
   ⟨["bamu", "bamum"], ["CLCqDjCVCqVw"]⟩,
   ⟨["bass", "bassavah"], ["FHKiBdcf"]⟩,
   ⟨["batk", "batak"], ["KNgBzid"]⟩,
   ⟨["beng", "bengali"], ["DPodbhcbcvbgbaddcicbcdiaebbecy"]⟩,
   ⟨["bhks", "bhaiksuki"], ["EDOiibBsbnkBc"]⟩,
   ⟨["bopo", "bopomofo"], ["BCsbRLxBqEiBf"]⟩,
   ⟨["brah", "brahmi"], ["DZAeCzeBjja"]⟩,
   ⟨["brai", "braille"], ["PDwJv"]⟩,
   ⟨["bugi", "buginese"], ["JWaBbcb"]⟩,
   ⟨["buhd", "buhid"], ["IUyt"]⟩,
   ⟨["cans", "canadianaboriginal"], ["HOyYpVoCrDTPqp"]⟩,
   ⟨["cari", "carian"], ["DTYmBw"]⟩,
   ⟨["aghb", "caucasianalbanian"], ["DUXsBzla"]⟩,
   ⟨["cakm", "chakma"], ["DZKaCabr"]⟩,
   ⟨["cham"], ["CMJwCcjncjcd"]⟩,
   ⟨["cher", "cherokee"], ["HLgDhcfCFJeDb"]⟩,
   ⟨["chrs", "chorasmian"], ["DYXcBb"]⟩,
   ⟨["zyyy", "common"],
     ["aCmBafBaBubobexaBfaRhBmfectEmajagabaYnagaoadaBgaGaaTwaEzbBVtaPpdLeaCGlcCtbHvbbaBVhanahdb",
      "fbccaBDtlcDibkdkborBgClBlbccfbBabqBpceZpwkvBJrJwYdcBfbEaTsDpPmubabyphedDnbdaDmbFrpBgBlja",
      "BwClBfDcBvaDkGlJToClBHSiBhDycGjjJkaGeaPfaobBEZqbIajwBibsbdFrabBfBafBakkaBtbCmgbgkeJyceBs",
      "diDcmBzBsIuBaCSHwdFVgJpgQtGaElCiJlkBmcCjdqibhBdeCiIftmtmDijyFfDgbCsbbcacbcdblbabgbCmbdch",
      "bgbBbbdbebadgbNbcLfcBxHThCpCyCiBBeBreDvmocobobBkkGrCezbbnBreihbofFyBLveqdmdEoeDqgleapleC",
      "dijgBniBdclebCkNbmncmdjfCdhockgihFqbDxBSUXbaBeDr"]⟩,
   ⟨["copt", "qaac", "coptic"], ["BMgnPJkElfg"]⟩,
   ⟨["xsux", "cuneiform"], ["EFBsBJlDyEgbelHn"]⟩,
   ⟨["cprt", "cypriot"], ["DVZkfcabBrbbdaca"]⟩,
   ⟨["cpmn", "cyprominoan"], ["EKYyDu"]⟩,
   ⟨["cyrl", "cyrillic"], ["BNkFccGmIVokGeaCyaGFnBfBTOaDrBHEcbDHPgCjBha"]⟩,
   ⟨["dsrt", "deseret"], ["DUMaDb"]⟩,
   ⟨["deva", "devanagari"], ["DKqDceoczCIJgBfBREmj"]⟩,
   ⟨["diak", "divesakuru"], ["ECKugcachbbbBdbbcljj"]⟩,
   ⟨["dogr", "dogra"], ["ECAyCh"]⟩,
   ⟨["dupl", "duployan"], ["GMDsEcfmdihjcd"]⟩,
   ⟨["egyp", "egyptianhieroglyphs"], ["ELDgBQrkFXq"]⟩,
   ⟨["elba", "elbasan"], ["DUVwBn"]⟩,
   ⟨["elym", "elymaic"], ["DYYyw"]⟩,
   ⟨["ethi", "ethiopic"],
     ["GVgCubdcgbabdcBobdcBgbdcgbabdcobCebdcCocBfdzJVawjgbgbgbgbgbgbgbgBVKcfcfcfjgbgEPYfgbdbbbo"]⟩,
   ⟨["gara", "garay"], ["DXZcBldBcib"]⟩,
   ⟨["geor", "georgian"], ["GHsBlbafacBqbdEJwBqccGEaBlbafa"]⟩,
   ⟨["glag", "glagolitic"], ["QRgDrGIZggbqcgbbbe"]⟩,
   ⟨["goth", "gothic"], ["DUEaBa"]⟩,
   ⟨["gran", "grantha"], ["EADsdbhcbcvbgbbbecicbcccagafgcgde"]⟩,
   ⟨["grek", "greek"],
     ["BHwdbccdbaeababcbabtbCkopJNqeByeeeDgaMivcfcBlcfchbabababBecCabobncfbsccbiLjaCAJeaBGNiDar",
      "aDAXrCr"]⟩,
   ⟨["gujr", "gujarati"], ["DZlcbibcbvbgbbbecjbcbccapdclhg"]⟩,
   ⟨["gong", "gunjalagondi"], ["EEBwfbbbBkbbbfhj"]⟩,
   ⟨["guru", "gurmukhi"], ["DUncbfebcvbgbbbbbbcabeebccdahdbahq"]⟩,
   ⟨["gukh", "gurungkhema"], ["FDRsCf"]⟩,
   ⟨["han", "hani"],
     ["RPwzbDkmIfBvabaziodBLcJTnCmBFBjBHSiObcEbBSIibmbCCOkCLFbBgGDtgIncINpoLBkpXxDQwUvCFyHHyfGF",
      "f"]⟩,
   ⟨["hang", "hangul"], ["GLkJvLLebJxDpEjBeCnBeBTAnBcYtQNrmweBwPAiBedfcfcfcc"]⟩,
   ⟨["rohg", "hanifirohingya"], ["DXWqBnij"]⟩,
   ⟨["hano", "hanunoo"], ["ITsu"]⟩,
   ⟨["hatr", "hatran"], ["DWIasbbfe"]⟩,
   ⟨["hebr", "hebrew"], ["CCvCciBaefDOVwzbebabbbbbj"]⟩,
   ⟨["hira", "hiragana"], ["SHdDhgcFPEvLasaBdcYMva"]⟩,
   ⟨["armi", "imperialaramaic"], ["DWBwvbi"]⟩,
   ⟨["qaai", "zinh", "inherited"],
     ["BDoEhKrbRkkBaaBCidGOxBeTtcbmbgeagadbHqClUebHmBgFTxdEdbCZUjpqnBLnaIsaGFaaCTCuBtcwUycrhcgB",
      "edBTLHiJf"]⟩,
   ⟨["phli", "inscriptionalpahlavi"], ["DXGqsfh"]⟩,
   ⟨["prti", "inscriptionalparthian"], ["DXFkvch"]⟩,
   ⟨["java", "javanese"], ["CMEyCzcjeb"]⟩,
   ⟨["kthi", "kaithi"], ["DZFcCoka"]⟩,
   ⟨["knda", "kannada"], ["ETcmbcbwbjbecibcbdhbgbbdcjbc"]⟩,
   ⟨["kana", "katakana"], ["SKvDlccJgpIaBubDjCZHejbBsCOUcdbgbbbaLbcByaod"]⟩,
   ⟨["kawi"], ["EERwqbBodBc"]⟩,
   ⟨["kali", "kayahli"], ["CMAaBtba"]⟩,
   ⟨["khar", "kharoshthi"], ["DWTcdbbfhbcbBcccejhi"]⟩,
   ⟨["kits", "khitansmallscript"], ["FJIiaKGxSbBpa"]⟩,
   ⟨["khmr", "khmer"], ["IXkDpcjgjSsBf"]⟩,
   ⟨["khoj", "khojki"], ["DZTwrbBu"]⟩,
   ⟨["sind", "khudawadi"], ["EAAqCgfj"]⟩,
   ⟨["krai", "kiratrai"], ["FIIiCf"]⟩,
   ⟨["lao", "laoo"], ["FMvbbabebxbabwcebabgbjcd"]⟩,
   ⟨["latn", "latin"],
     ["CnzgzBvapafwbBebRgBneJXbBlgBwfdfmbCrCnJvOfanaqmFlbgaBbarBoECtBfBULmDxdCocbbabhvnBFkBqbib",
      "dBEDqgBOkzgzDCffbBpbiDDNpBegf"]⟩,
   ⟨["lepc", "lepcha"], ["KPsCddodc"]⟩,
   ⟨["limb", "limbu"], ["JMeBebleleadl"]⟩,
   ⟨["lina", "lineara"], ["DVFsLyjvkh"]⟩,
   ⟨["linb", "linearb"], ["DSYqlbzbsbbbocnBiEs"]⟩,
   ⟨["lisu"], ["CKKuBvBUMaa"]⟩,
   ⟨["lyci", "lycian"], ["DTXgBc"]⟩,
   ⟨["lydi", "lydian"], ["DWKmzfa"]⟩,
   ⟨["mahj", "mahajani"], ["DZNcBm"]⟩,
   ⟨["maka", "makasar"], ["EEQqy"]⟩,
   ⟨["mlym", "malayalam"], ["EYambcbBybcbfepcz"]⟩,
   ⟨["mand", "mandaic"], ["DDgBbca"]⟩,
   ⟨["mani", "manichaean"], ["DXAmBmel"]⟩,
   ⟨["marc", "marchen"], ["EDSqBfcvbn"]⟩,
   ⟨["gonm", "masaramgondi"], ["EDYegbbbBrdabbbiij"]⟩,
   ⟨["medf", "medefaidrin"], ["FISeDm"]⟩,
   ⟨["mtei", "meeteimayek"], ["CMSmwHtBtcj"]⟩,
   ⟨["mend", "mendekikakui"], ["HCUyHocp"]⟩,
   ⟨["merc", "meroiticcursive"], ["DWPkxetcBt"]⟩,
   ⟨["mero", "meroitichieroglyphs"], ["DWOeBf"]⟩,
   ⟨["miao", "plrd"], ["FIZoCweCehq"]⟩,
   ⟨["modi"], ["EBHgCqlj"]⟩,
   ⟨["mong", "mongolian"], ["JCibcabtgDkhBqDSCbm"]⟩,
   ⟨["mro", "mroo"], ["FHEuBebjeb"]⟩,
   ⟨["mult", "multani"], ["DZYugbabdbobk"]⟩,
   ⟨["mymr", "myanmar"], ["GBoGdCGAyBeDtBfBPAmt"]⟩,
   ⟨["nbat", "nabataean"], ["DWEiBeii"]⟩,
   ⟨["nagm", "nagmundari"], ["HBPoBp"]⟩,
   ⟨["nand", "nandinagari"], ["ECQyhcBtck"]⟩,
   ⟨["talu", "newtailue"], ["JRcBrezgkdb"]⟩,
   ⟨["newa"], ["EANoDnbe"]⟩,
   ⟨["nko", "nkoo"], ["CYiCgcc"]⟩,
   ⟨["nshu", "nushu"], ["FJIfaYVmPf"]⟩,
   ⟨["hmnp", "nyiakengpuachuehmong"], ["HAEaBsdncjeb"]⟩,
   ⟨["ogam", "ogham"], ["INoBc"]⟩,
   ⟨["olck", "olchiki"], ["KSuBv"]⟩,
   ⟨["onao", "olonal"], ["HBZkBqea"]⟩,
   ⟨["hung", "oldhungarian"], ["DXRsBynByhf"]⟩,
   ⟨["ital", "olditalic"], ["DUCeBjjc"]⟩,
   ⟨["narb", "oldnortharabian"], ["DWYaBf"]⟩,
   ⟨["perm", "oldpermic"], ["DUFgBq"]⟩,
   ⟨["xpeo", "oldpersian"], ["DUIiBjen"]⟩,
   ⟨["sogo", "oldsogdian"], ["DYQiBn"]⟩,
   ⟨["sarb", "oldsoutharabian"], ["DWWuBf"]⟩,
   ⟨["orkh", "oldturkic"], ["DXMuCu"]⟩,
   ⟨["ougr", "olduyghur"], ["DYUqz"]⟩,
   ⟨["orya", "oriya"], ["EEjcbhcbcvbgbbbecicbcchcebbecr"]⟩,
   ⟨["osge", "osage"], ["DUSuBjeBj"]⟩,
   ⟨["osma", "osmanya"], ["DUQyBdcj"]⟩,
   ⟨["hmng", "pahawhhmong"], ["FHMeCrkjbgbufs"]⟩,
   ⟨["palm", "palmyrene"], ["DWDcBf"]⟩,
   ⟨["pauc", "paucinhau"], ["EDCaCe"]⟩,
   ⟨["phag", "phagspa"], ["CLSqCd"]⟩,
   ⟨["phnx", "phoenician"], ["DWJgBbda"]⟩,
   ⟨["phlp", "psalterpahlavi"], ["DXHwrhdmg"]⟩,
   ⟨["rjng", "rejang"], ["CMBwBjla"]⟩,
   ⟨["runr", "runic"], ["IOuCwdk"]⟩,
   ⟨["samr", "samaritan"], ["DAuBtco"]⟩,
   ⟨["saur", "saurashtra"], ["CLVcCril"]⟩,
   ⟨["shrd", "sharada"], ["DZOyDr"]⟩,
   ⟨["shaw", "shavian"], ["DUPcBv"]⟩,
   ⟨["sidd", "siddham"], ["EBCiCbcBl"]⟩,
   ⟨["sgnw", "signwriting"], ["GWTkZbpebo"]⟩,
   ⟨["sinh", "sinhala"], ["FCzcbrdxbibacgdaefbabhgjccDULgt"]⟩,
   ⟨["sogd", "sogdian"], ["DYSeBp"]⟩,
   ⟨["sora", "sorasompeng"], ["DZIeyhj"]⟩,
   ⟨["soyo", "soyombo"], ["ECXsDe"]⟩,
   ⟨["sund", "sundanese"], ["KKuClJwh"]⟩,
   ⟨["sunu", "sunuwar"], ["EDLwBhoj"]⟩,
   ⟨["sylo", "sylotinagri"], ["CLQeBs"]⟩,
   ⟨["syrc", "syriac"], ["CQynbChccKmk"]⟩,
   ⟨["tglg", "tagalog"], ["ISmvja"]⟩,
   ⟨["tagb", "tagbanwa"], ["IWembcbb"]⟩,
   ⟨["tale", "taile"], ["JPgBdce"]⟩,
   ⟨["lana", "taitham"], ["JXgCkbBcckgjgn"]⟩,
   ⟨["tavt", "taiviet"], ["CMOuCoye"]⟩,
   ⟨["takr", "takri"], ["EBMeCfgj"]⟩,
   ⟨["taml", "tamil"], ["EJibbfdcbddbbabbdbdcdleedcbdcagaouEALhBxna"]⟩,
   ⟨["tnsa", "tangsa"], ["FHGqDabj"]⟩,
   ⟨["tang", "tangut"], ["FJIeaBfJBziBDnTsi"]⟩,
   ⟨["telu", "telugu"], ["EOembcbwbpcibcbdhbbccacdcjhi"]⟩,
   ⟨["thaa", "thaana"], ["CVwBx"]⟩,
   ⟨["thai"], ["FHxCffBb"]⟩,
   ⟨["tibt", "tibetan"], ["FRsCtbBjeBmbBjbobgeb"]⟩,
   ⟨["tfng", "tifinagh"], ["RCyCdhboa"]⟩,
   ⟨["tirh", "tirhuta"], ["EASmCtij"]⟩,
   ⟨["todr", "todhri"], ["DVDgBz"]⟩,
   ⟨["toto"], ["HATkBe"]⟩,
   ⟨["tutg", "tulutigalari"], ["EAIqjbacabBlbjbacabdbjbbib"]⟩,
   ⟨["ugar", "ugaritic"], ["DUHcBdba"]⟩,
   ⟨["vai", "vaii"], ["CKMqLn"]⟩,
   ⟨["vith", "vithkuqi"], ["DVAekbobgbbbkbobgbb"]⟩,
   ⟨["wcho", "wancho"], ["HAVgCffa"]⟩,
   ⟨["wara", "warangciti"], ["ECHcDema"]⟩,
   ⟨["yezi", "yezidi"], ["DYLkBpbccb"]⟩,
   ⟨["yi", "yiii"], ["CIPkBSudCc"]⟩,
   ⟨["zanb", "zanabazarsquare"], ["ECUqCt"]⟩]

/-- The scripts with the code points that they share. -/
def extendedScripts : List Entry :=
  [⟨["adlam"], ["CIhaBgaJWoaFHhaGLRiCxejeb"]⟩,
   ⟨["arabic"],
     ["CHcebIgbBhDcBvJgBebbfCwbBcIVnaFHhaCZRaEkqRccCbhaBgpEiebFeBMhBbEIeBeCpcCddDGLsdbBabbbacab",
      "jbdbabagaeabababcbbbacabababababbbacdbgbdbdbabjbqfcbebqCab"]⟩,
   ⟨["armenian"], ["BDwaVgBlcBxccDOZje"]⟩,
   ⟨["avestan"], ["HbaRFsbDFQcCbdg"]⟩,
   ⟨["bengali"],
     ["BAyaCMubrbBadbhcbcvbgbaddcicbcdiaebbecyHDhabacbbaiaiacaeaccCBAfa"]⟩,
   ⟨["bopomofo"], ["BBjabcnaqbRBxcejbmkdcagaHnajBqEiBfCZLtbKwe"]⟩,
   ⟨["buginese"], ["JWaBbcbCCKta"]⟩,
   ⟨["buhid"], ["IUnbjt"]⟩,
   ⟨["carian"], ["HbaLZmacaFGdaDCLqBw"]⟩,
   ⟨["caucasianalbanian"], ["BDsaBsaBsaDTQnBzla"]⟩,
   ⟨["chakma"], ["DTmjCKejDTFqCabr"]⟩,
   ⟨["cherokee"], ["BDocbagbwblbGFuDhcfCFJeDb"]⟩,
   ⟨["common"],
     ["aCmBafBaBublbbbexaBfaRhcbjbadabibabffectEwagabaYnaIhaTwaCAuaPpdGDblcBgbBebjbbbgbkdkborBg",
      "ClBlbccfbBabqBpceZpwkvBJrJwYdcBfbEaTswbxcjbdbabzQcadananavaUjxBfaBxomdGfjfDrBfaJToClBHSq",
      "zDycBLoaobBFHsjwuclbsbdFrabBfBafBafExgbgkePmmBzBsCYNbJpgQtGaElCiJlkBmcCjdqibhBdeCiIftmtm",
      "DiBbgFfDgbCsbbcacbcdblbabgbCmbdchbgbBbbdbebadgbNbcLfcBxHThCpCyCiBBeBreDvmocobobBkkGrCezb",
      "bnBreixfFyBLveqdmdEoeDqgleapleCdijgBniBdclebCkNbmncmdjfCdhockgihFqbDxBSUXbaBeDr"]⟩,
   ⟨["coptic"], ["HbaWmadbbaEebEenPJkElfgKtaDCPcBb"]⟩,
   ⟨["cypriot"], ["DTImceBsdiCOmfcabBrbbdaca"]⟩,
   ⟨["cyprominoan"], ["DTImbRQkDu"]⟩,
   ⟨["cyrillic"],
     ["BAyaCpcbababacafaJeLrIVokGeaCyaExaGApBfCpaBTLkDrBHEcbDHPgCjBha"]⟩,
   ⟨["devanagari"], ["BAyaCJrDecBqHIeBmbbBNaaBZFrjGkBfBREmj"]⟩,
   ⟨["dogra"], ["DOmlCIDcjBQIoCh"]⟩,
   ⟨["duployan"], ["HbaWtbbaybQIhaFUQlEcfmdihjch"]⟩,
   ⟨["elbasan"], ["HbaWraDTScBn"]⟩,
   ⟨["ethiopic"],
     ["BEcaFRdCubdcgbabdcBobdcBgbdcgbabdcobCebdcCocBfdzJVawjgbgbgbgbgbgbgbgBVKcfcfcfjgbgEPYfgbd",
      "bbbo"]⟩,
   ⟨["garay"], ["CHoaoadaDVQuBldBcib"]⟩,
   ⟨["georgian"], ["HbaBVlaEFeBlbafacBvEJwBqccBJmaEUnBlbafaJza"]⟩,
   ⟨["glagolitic"], ["HbaWpabaOsacaJxaEIraFViaEKrDrSpaBTNfaEOTkgbqcgbbbe"]⟩,
   ⟨["gothic"], ["HbaWqbcaBoaDSYoBa"]⟩,
   ⟨["grantha"],
     ["DNtbrbYqnGKaabbBecdbBNaaDNRjdbhcbcvbgbbbebjcbcccagafgcgdeERrbba"]⟩,
   ⟨["greek"],
     ["HbaWmbcababakaBuacaBqhcdbaeababcbabtbCkopJNqeByeeeDgcMgvcfcBlcfchbabababBecCabobncfbsccb",
      "iDqaHsaCAJeaBGNiDaraDAXrCr"]⟩,
   ⟨["gujarati"], ["DNtbrbKxcbibcbvbgbbbecjbcbccapdclhgCHNsj"]⟩,
   ⟨["gunjalagondi"], ["HbaDHkbEANifbbbBkbbbfhj"]⟩,
   ⟨["gurmukhi"], ["DNtbrbFzcbfebcvbgbbbbbbcabeebccdahdbahqCHSzj"]⟩,
   ⟨["gurungkhema"], ["DOnaFADeCf"]⟩,
   ⟨["han"],
     ["HbaRIuzbDkmIfBapbcbmbmbmcagiHfaFspBgBljaBwBnCeBwplBzaDkykeDsBebJTnCmBFBjCQyhBFBcObcEbBHr",
      "bKweBQPobmbBLRarLRybFEsCLFbBgGDtgIncINpoLBkpXxDQwUvCFyHHyfGFf"]⟩,
   ⟨["hangul"],
     ["GLkJvLJlcejbmocgaHnaCbDpEjBeCnBeBTAnBcYtQNrmweBwOMzbKweCgBedfcfcfcc"]⟩,
   ⟨["hanifirohingya"], ["CHoaoadaBgaFraDVHjBnij"]⟩,
   ⟨["hanunoo"], ["ITsw"]⟩,
   ⟨["hebrew"], ["BDvbYyCciBaefDOVwzbebabbbbbj"]⟩,
   ⟨["hiragana"], ["SErcejbmqfbaebdDhchDmbCZTgbKwekaBtbCOUrLasaBdcYMva"]⟩,
   ⟨["inherited"],
     ["BEdacablbbdgcacpbbbrbebdCGmbGOxBeBDbCbbabeUebHmBfDFSqpqnBLnaCZQoBtcwUycrhcgBedBTLHiJf"]⟩,
   ⟨["javanese"], ["CMEyCzbkeb"]⟩,
   ⟨["kaithi"], ["DOojNXxaBUFejBNMsCoka"]⟩,
   ⟨["kannada"], ["DNtbrbBEombcbwbjbecibcbdhbgbbdcjbcGAeabbgaxabaCASxf"]⟩,
   ⟨["katakana"],
     ["BDtaBdaQZtcejbmqfbaebDnddDrJgpIaBubDjCYWbbKwCkCOUadbgbbbaLbcByaod"]⟩,
   ⟨["kayahli"], ["CMAaBv"]⟩,
   ⟨["khojki"], ["EDijCHOijBOBmrbBu"]⟩,
   ⟨["khudawadi"], ["DOmbCIDmjBOIgCgfj"]⟩,
   ⟨["latin"],
     ["CnzgzBvamacafwbBebRgdakabcbajabageBbobbbamacchbbbBmafaemKrbBVebCXkaEOiBlgBwfdfmbCrCfahJv",
      "LraCnanaqmDfaCfbgaBbarBoECtBfPraBTUmhBaDxdCocbbabhvnLqaTtBqbibdBEDqgBOkzgzDCffbBpbiDDNpB",
      "egf"]⟩,
   ⟨["limbu"], ["DOnaFXqBebleleadl"]⟩,
   ⟨["lineara"], ["DTItBsBVgLyjvkh"]⟩,
   ⟨["linearb"], ["DSYqlbzbsbbbocnBiEsfceBsdi"]⟩,
   ⟨["lisu"], ["BAyaqaRDkbBSFsBvBUMaa"]⟩,
   ⟨["lycian"], ["MGoaDHQrBc"]⟩,
   ⟨["lydian"], ["HbaRFtaDEXqzfa"]⟩,
   ⟨["mahajani"], ["HbaDHklCIDcjBNUsBm"]⟩,
   ⟨["malayalam"], ["DNtbrbBJmmbcbBybcbfepczFVeaxaCASzc"]⟩,
   ⟨["mandaic"], ["CJoaTrBbca"]⟩,
   ⟨["manichaean"], ["CJoaDUQxBmel"]⟩,
   ⟨["masaramgondi"], ["DOmbEAJqgbbbBrdabbbiij"]⟩,
   ⟨["meroitichieroglyphs"], ["MGraDKHmBf"]⟩,
   ⟨["modi"], ["CLSajBPOwCqlj"]⟩,
   ⟨["mongolian"], ["JCizgDkhBqCWaaFZtbfdDJFwm"]⟩,
   ⟨["multani"], ["DYkjDWAagbabdbobk"]⟩,
   ⟨["myanmar"], ["GBoGdCFUcaGvBeDtBfBPAmt"]⟩,
   ⟨["nandinagari"], ["DOmbBImjGBhaiahaCASrfBQYshcBtck"]⟩,
   ⟨["nko"], ["CHoaoadaQaCgccDOWsb"]⟩,
   ⟨["olonal"], ["DOmbGYKwBqea"]⟩,
   ⟨["oldhungarian"], ["MGoacaFGdapaDGEgBynByhf"]⟩,
   ⟨["oldpermic"], ["HbaWmafckaOdaDSMuBq"]⟩,
   ⟨["oldturkic"], ["MGoaFGfaDFZzCu"]⟩,
   ⟨["olduyghur"], ["CJoaDUSvaBSfz"]⟩,
   ⟨["oriya"], ["DNtbrbPvcbhcbcvbgbbbecicbcchcebbecrGPeaxa"]⟩,
   ⟨["osage"], ["BDpacagaCyaDTLvBjeBj"]⟩,
   ⟨["phagspa"], ["JCkbbaDCjaFZuaBTNxCd"]⟩,
   ⟨["psalterpahlavi"], ["CJoaDUYhrhdmg"]⟩,
   ⟨["runic"], ["IOuDk"]⟩,
   ⟨["samaritan"], ["DAuBtcoOJqa"]⟩,
   ⟨["sharada"], ["DNtaHKfabacbcaCATrfcaBNWpDr"]⟩,
   ⟨["shavian"], ["HbaDUIaBv"]⟩,
   ⟨["sinhala"], ["DOmbBOlcbrdxbibacgdaefbabhgjccFRpaDOTqt"]⟩,
   ⟨["sogdian"], ["CJoaDWIpBp"]⟩,
   ⟨["sunuwar"], ["BDobbajacaBcadaECGkBhoj"]⟩,
   ⟨["sylotinagri"], ["DOmbEyjCHWiBs"]⟩,
   ⟨["syriac"], ["BDrbcbbavacchbbaBCdaobcaBgakkBaaFnnbChccKmkIEfaba"]⟩,
   ⟨["tagalog"], ["ISmvjavb"]⟩,
   ⟨["tagbanwa"], ["IUnbBpmbcbb"]⟩,
   ⟨["taile"], ["BDobfbdaEZzjDKwBdce"]⟩,
   ⟨["takri"], ["DOmbCIDmjBPTuCfgj"]⟩,
   ⟨["tamil"],
     ["DNtbrbUubbfdcbddbbabbdbdcdleedcbdcagaouGKdaCBBkaBOEfabaCdbETfBxna"]⟩,
   ⟨["tangut"], ["SEapTbaEQKmaBfJBziBDnTsi"]⟩,
   ⟨["telugu"], ["DNtbrbZqmbcbwbpcibcbdhbbccacdcjhiGFaaxa"]⟩,
   ⟨["thaana"], ["CHoaobcaCmjKsBxDPGqaka"]⟩,
   ⟨["thai"], ["BAyaBaaBraBtaEClCffBb"]⟩,
   ⟨["tibetan"], ["FRsCtbBjeBmbBjbobgebMEvd"]⟩,
   ⟨["tifinagh"], ["BDqabacabaPZaCdhboa"]⟩,
   ⟨["tirhuta"], ["DNtbrbHKmaCASzjBPAcCtij"]⟩,
   ⟨["todhri"], ["BDpacacajabaCwaDTWbBz"]⟩,
   ⟨["toto"], ["BAyaGZSlBe"]⟩,
   ⟨["tulutigalari"], ["EXajGBqabaCASxfHfaBOJejbacabBlbjbacabdbjbbib"]⟩,
   ⟨["yezidi"], ["CHoaoadaCmjDWAgBpbccb"]⟩,
   ⟨["yi"], ["SErbfjchIpaBQBcBSudCcBIIce"]⟩]

end DashQuery.Text.Property
