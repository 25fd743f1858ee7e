import DashQuery.Text.Property.Code

/-!
# Boundaries in text

The classes that decide where graphemes, words and sentences end.
-/

namespace DashQuery.Text.Property

/-- The grapheme cluster break classes. -/
def graphemeBreaks : List Entry :=
  [⟨["cr"], ["na"]⟩,
   ⟨["cn", "control"],
     ["ajbbbrDrBgnaCBmaGUraDAqacbygBxpDGHjaJglTUapBZQudHWxhBTKZlBfDsExJgFIl"]⟩,
   ⟨["ex", "extend"],
     ["BDoEhKpgKdBsbabbbbbaCukBwuqaDxgcfcbbdBjaBeBaDnkCgijaydbibcbeBrcChiBqxbBfCdabaeheadgkbBda",
      "CgabacdiajakbBaacbCfaebebccdaBebdalbCfaeebbeaubwfbaCgabbbdiahckbBeaChabamajaBoadaCdabcfc",
      "bdhblbBdaCgacbbadcbdhblbBcbCfbbacdiajakbBdaCuaeaccbaiaDdacgmhDuacilgCvbBbababaCdnbebbfkb",
      "BjjaDydbfbbcbzbecqdnacbgapaBBbcBKkdBccBdbBebCmbbgiackjaBtcbaEnbBiaEocebjagcIlbcaCgabgbab",
      "achgjcaBwBeBxdBwjecBmimbBgdcfCeabbdabeCehcbFwcbmbgeagadbHqClUeaHnBgEOccFlaDsBfVifEbbBSQe",
      "dbjBgbDcbKmadaeazbfaFvbBarnaBmhzkbaBscBwacdcbcaBkaCpfcbcbmaiaBvaBzabccbfbbaBqbiaJeacaeaB",
      "DZsaBCjpqpOcbXhaIsaFteCMgcbbfdBoceaGjbWbdCneMfbDbdCskBxdEtaCcoBpacbkcBxdcbhaCjcBkebhCkam",
      "bCaibaidcaDrccdgacaGbadhvbCfbbabamajaogdeCpacfbacabcecbaobDhhccbaxaDdacfbacabbbbJbacdgbb",
      "bBbbDhhcabbEcabachDxabacdbeJzibbJlakdeaFodcbeaBgjBofcdiajfccBumbbPqgbfbaDevcgbbbbEsfdabb",
      "bgbaCubdabaNjblbCaefcxaHXtagoQYyldcDSaeChgBOiaCldDdalbBDAxbGYzBtcwUwedfihcgBedFscCYdCceB",
      "xiaoaweboCAigbqcgbbbeDwaGegOlaCjdTodJubBCigEfgEBgeBSXYuDrEyJf"]⟩,
   ⟨["l"], ["GLkDrCFOqBc"]⟩,
   ⟨["lf"], ["ka"]⟩,
   ⟨["lv"],
     ["CNDoaBbaBbaBbaBbaBbaBbaBbaBbaBbaBbaBbaBbaBbaBbaBbaBbaBbaBbaBbaBbaBbaBbaBbaBbaBbaBbaBbaBb",
      "aBbaBbaBbaBbaBbaBbaBbaBbaBbaBbaBbaBbaBbaBbaBbaBbaBbaBbaBbaBbaBbaBbaBbaBbaBbaBbaBbaBbaBba",
      "BbaBbaBbaBbaBbaBbaBbaBbaBbaBbaBbaBbaBbaBbaBbaBbaBbaBbaBbaBbaBbaBbaBbaBbaBbaBbaBbaBbaBbaB",
      "baBbaBbaBbaBbaBbaBbaBbaBbaBbaBbaBbaBbaBbaBbaBbaBbaBbaBbaBbaBbaBbaBbaBbaBbaBbaBbaBbaBbaBb",
      "aBbaBbaBbaBbaBbaBbaBbaBbaBbaBbaBbaBbaBbaBbaBbaBbaBbaBbaBbaBbaBbaBbaBbaBbaBbaBbaBbaBbaBba",
      "BbaBbaBbaBbaBbaBbaBbaBbaBbaBbaBbaBbaBbaBbaBbaBbaBbaBbaBbaBbaBbaBbaBbaBbaBbaBbaBbaBbaBbaB",
      "baBbaBbaBbaBbaBbaBbaBbaBbaBbaBbaBbaBbaBbaBbaBbaBbaBbaBbaBbaBbaBbaBbaBbaBbaBbaBbaBbaBbaBb",
      "aBbaBbaBbaBbaBbaBbaBbaBbaBbaBbaBbaBbaBbaBbaBbaBbaBbaBbaBbaBbaBbaBbaBbaBbaBbaBbaBbaBbaBba",
      "BbaBbaBbaBbaBbaBbaBbaBbaBbaBbaBbaBbaBbaBbaBbaBbaBbaBbaBbaBbaBbaBbaBbaBbaBbaBbaBbaBbaBbaB",
      "baBbaBbaBbaBbaBbaBbaBbaBbaBbaBbaBbaBbaBbaBbaBbaBbaBbaBbaBbaBbaBbaBbaBbaBbaBbaBbaBbaBbaBb",
      "aBbaBbaBbaBbaBbaBbaBbaBbaBbaBbaBbaBbaBbaBbaBbaBbaBbaBbaBbaBbaBbaBbaBbaBbaBbaBbaBbaBbaBba",
      "BbaBbaBbaBbaBbaBbaBbaBbaBbaBbaBbaBbaBbaBbaBbaBbaBbaBbaBbaBbaBbaBbaBbaBbaBbaBbaBbaBbaBbaB",
      "baBbaBbaBbaBbaBbaBbaBbaBbaBbaBbaBbaBbaBbaBbaBbaBbaBbaBbaBbaBbaBbaBbaBbaBbaBbaBbaBbaBbaBb",
      "aBbaBbaBbaBbaBbaBbaBbaBbaBbaBbaBbaBbaBbaBbaBbaBbaBbaBba"]⟩,
   ⟨["lvt"],
     ["CNDpBabBabBabBabBabBabBabBabBabBabBabBabBabBabBabBabBabBabBabBabBabBabBabBabBabBabBabBab",
      "BabBabBabBabBabBabBabBabBabBabBabBabBabBabBabBabBabBabBabBabBabBabBabBabBabBabBabBabBabB",
      "abBabBabBabBabBabBabBabBabBabBabBabBabBabBabBabBabBabBabBabBabBabBabBabBabBabBabBabBabBa",
      "bBabBabBabBabBabBabBabBabBabBabBabBabBabBabBabBabBabBabBabBabBabBabBabBabBabBabBabBabBab",
      "BabBabBabBabBabBabBabBabBabBabBabBabBabBabBabBabBabBabBabBabBabBabBabBabBabBabBabBabBabB",
      "abBabBabBabBabBabBabBabBabBabBabBabBabBabBabBabBabBabBabBabBabBabBabBabBabBabBabBabBabBa",
      "bBabBabBabBabBabBabBabBabBabBabBabBabBabBabBabBabBabBabBabBabBabBabBabBabBabBabBabBabBab",
      "BabBabBabBabBabBabBabBabBabBabBabBabBabBabBabBabBabBabBabBabBabBabBabBabBabBabBabBabBabB",
      "abBabBabBabBabBabBabBabBabBabBabBabBabBabBabBabBabBabBabBabBabBabBabBabBabBabBabBabBabBa",
      "bBabBabBabBabBabBabBabBabBabBabBabBabBabBabBabBabBabBabBabBabBabBabBabBabBabBabBabBabBab",
      "BabBabBabBabBabBabBabBabBabBabBabBabBabBabBabBabBabBabBabBabBabBabBabBabBabBabBabBabBabB",
      "abBabBabBabBabBabBabBabBabBabBabBabBabBabBabBabBabBabBabBabBabBabBabBabBabBabBabBabBabBa",
      "bBabBabBabBabBabBabBabBabBabBabBabBabBabBabBabBabBabBabBabBabBabBabBabBabBabBabBabBabBab",
      "BabBabBabBabBabBabBabBabBabBabBabBabBabBabBabBabBabBabBa"]⟩,
   ⟨["pp", "prepend"], ["CHcfIhaBxaOubDcaBRnaDUGkapaJkbUfaCBlabaJoaCvfBAyaRba"]⟩,
   ⟨["ri", "regionalindicator"], ["HGOkz"]⟩,
   ⟨["sm", "spacingmark"],
     ["DKtaCdaccidbbBybChbgbcbCcaCgcCoaCgciabbCbbCiagbcbEkabbdcbcCacCjdCjbCgacabbBuaobChbfcbcCb",
      "bCybggtbClaExaFibClaGvajbzbBsaCSvahhbbNidccebbfIqbCgabavfFpaCfdCmaBeaebClaccbaCbhibGpava",
      "CAShbcaDkbBypFmaBwaBwbebcbEhbcbyaGbacbfaJdbbbbbbaBLXjabaExaBtcebElaybChaBwcjaoaDpcdbGqcB",
      "fbChabdcbcbvbDhbpabbDzcibdaEdbgabbbacaJebgdcaEjcibbaEfabbEgahaKbcjaJoebbhabaFmcideaDgaBd",
      "bCkaPraoaEcahacaIfeebbaNmbmaBwbibYZacFJgCc"]⟩,
   ⟨["t"], ["GRwDjCWXnBw"]⟩,
   ⟨["v"], ["GPcCtCWZwwCERcadd"]⟩,
   ⟨["zwj"], ["MDpa"]⟩]

/-- The word break classes. -/
def wordBreaks : List Entry :=
  [⟨["le", "aletter"],
     ["CnzgzBvakaeafwbBebSlgBhEiebbcdbagabcbabtbDebFiiGjbBlcdbabBobaEaaBsBqBjbbDubapbhbkccapbbB",
      "dBdDklayBgjbeafveajadaxyhkfxbfrBpCgCbdasahjppehcbcvbgbadddaqanbbcobkaifebcvbgbbbbbbBfdba",
      "tcqibcbvbgbbbedasapbxalhcbcvbgbbbedaBebbcparabfdcbddbbabbdbdcdlwaCahbcbwbpdaBaccacbBeaeh",
      "bcbwbjbedaBfbbbpbribcbBocaqafcicyffrdxbibacgMbaClhbBjBbeKpBlbafacBqbMubdcgbabdcBobdcBgbd",
      "cgbabdcobCebdcCoBlpqDhcfdXvcqbzfCwdkhrnsorombcGtDkhecBhbafCrkBeIrwJeBurhCcBdnbkBrBaBjBpc",
      "kBjckfBqccBpdbfbbdafHjCmKrcfcBlcfchbabababBecCabgbadcbgddcfemfcbgEmanaqmDxaeacjbadegabab",
      "abdbkcdfeearBoBFhBzCRuIugddbmBlbafacCdhaqwjgbgbgbgbgbgbgbgDcaSbaCbbHsBqbDprBfBPToBSuCpBt",
      "cKidpkbuBuqBecDbyHpcbbabhvpbcbdbwBdBzoBxCkfdabblBbkwzBchBuBcaBwBoxcbhFskhcmfcfcfjgbgbCfg",
      "EkBdQNrmweBwNGugmeCeDtBhNysClcCbBolEmebFeBkzgzCrBedfcfcfccBjlbzbsbbbocnBiEsCrCaKhBcdBwBv",
      "BfnBdfBlkBdcBjehbeBqGbsBjeBjeBniBzmkbobgbbbkbobgbbdBzmLyjvkhyfbBpbiCrfcabBrbbdacwkwjBeCn",
      "sbbkvkzCsCdgbCmapdbcbBcBqBcdBcBjhbBbBbCbkvksnrEgCuCdBynBynBjBmBbjwJqBpgbqcChBckaivBqrBuu",
      "BbwmCaCfbcanBsBgyBaBjBdacaiBidamBvodvabaBjrbytbClgbabdbobjhBuBmhcbcvbgbbbedasameBejbacab",
      "BlbazabaBsCasducBeBvubbaHcBuBpdBkBvuaChBqnaMpBrEmClBfhcachbbbxpabaDqhcBmqabaBcakBnhavalB",
      "ttasCuHrBgBfibBkraBxBdEigbbbBlvazfbbbBfoaMpspabmbBhEuaDbBJlDyEgrHnDXkDspBPfrfzFXqfWkKDdB",
      "dCPuVwhBerDarBdsBvqdBfufsQqBsIdClEyCwfaComCmbbaBCVkEcfmdihjIWkDgbCsbbcacbcdblbabgbCmbdch",
      "bgbBbbdbebadgbNbcybybBebybBebybBebybBebybhCSyBegfKbCjFqBskgqaMjBdsBrSqBbIuBdcaTbgbdbbbob",
      "HoChCphaBUidbBabbbacabjbdbabagaeabababcbbbacabababababbbacdbgbdbdbabjbqfcbebqYezgzgz"]⟩,
   ⟨["cr"], ["na"]⟩,
   ⟨["dq", "doublequote"], ["Bia"]⟩,
   ⟨["extend"],
     ["BDoEhKpgKdBsbabbbbbaCukBwuqaDxgcfcbbdBjaBeBaDnkCgijaydbibcbeBrcChiBqxbBgCccbrbgkbBdcCeab",
      "gcbccjakbBaaccCeabeebccdaBebdalcCeabhbcbcubwfbcCeabgcbcchckbBeaChedcbdjaBoeCdabgbcbdhblb",
      "BdcCeabgbcbdhblbpamdCdbbgbcbdjakbBdcCsaefbabhsbCjacgmhDuacilgCvbBbababaebBxtbbfkbBjjaDwt",
      "xdecbccgddnlbakdBBbcBKkdBccBdbBebCmBfjaBtcbaEnbBiaEolelIleCfjbBccaBwBeBxeBvqBmimcBemCenB",
      "wtFwcbueagaccHqClUeaHnBgEOccFlaDsBfVifEbbBSQedbjBgbDcbKmadaeaxeeaDfbByrBarnaBmhzmBsdBvnB",
      "kaCpnmaibBtcByabccbfbbaBpefbJchbbBDZsaBCjpqpOcbXhaIsaFteCMgcbbfdBoceaGjbWbdCneMfbDbdCskB",
      "xdEscCboBpacbkdBtkhaCjcBknqbBsamcBwnidbbDolgacaGblvdCdbbgcbccjakbcgdeCpibacabdbebaobDerx",
      "aDdtJbgciBbbDeqEcmDxoJwoJlfbbcdbabbFlgcgdaBcjBogbdiajkBupPphbhDevbnEsfdabbbgbaCoebbbeNjd",
      "jbbaBwgdexaHXtagoQYyrDSaeChgBOiabCchdDdalbBDAxbGYzBtcwUwedfihcgBedFscCYdCceBxiaoaweboCAi",
      "gbqcgbbbeDwaGegOlaCjdTodJubBCigEfgEBgeBSXYuDrEyJf"]⟩,
   ⟨["ex", "extendnumlet"], ["DraMBfapbtaDGAobycJfa"]⟩,
   ⟨["fo", "format"], ["GraCBmaGUraDAtbBaeBxebjDGHjaJpcTUapBZQudHWxhBTKZma"]⟩,
   ⟨["hl", "hebrewletter"], ["CFgBaedDOVyabjbmbebabbbbbj"]⟩,
   ⟨["ka", "katakana"], ["SGneDxbdDmbdJgpIaBubDjCZHeCdCOUcdbgbbbaLbcByaod"]⟩,
   ⟨["lf"], ["ka"]⟩,
   ⟨["ml", "midletter"], ["CgaEuaBBraSdaFsaJXyaDGBbaCnaHoa"]⟩,
   ⟨["mn", "midnum"], ["BsaoaBGcaUcaFabDqaPfaJFfaDGChadaHbaoa"]⟩,
   ⟨["mb", "midnumlet"], ["BuaMCfbkaDGDpaGyaga"]⟩,
   ⟨["nl", "newline"], ["lbEqaLZmb"]⟩,
   ⟨["nu", "numeric"],
     ["BwjCEwfDmjbaEjasjHqjHqbDcaFbjEojEojEojEojEojEojEojEojEojDsjEojCsjKsjCsjCTqjBmjLojEykGjjg",
      "jHajDijFejgjCAEojBAcjBmjHqjwjDijPqjBFMcjCCkjDFyjgjBEqjCzapaBijCijFojKsjNejEojOkjDyjgtCyj",
      "QgjDyjZmjDijJmjCsjQgjYYgjDMcjDijFejUojBKDyjECqBxDNcjQgjTijJnjBGvjHBaj"]⟩,
   ⟨["ri", "regionalindicator"], ["HGOkz"]⟩,
   ⟨["sq", "singlequote"], ["Bna"]⟩,
   ⟨["wsegspace"], ["BgaIMhaDPngbcDgaFXwa"]⟩,
   ⟨["zwj"], ["MDpa"]⟩]

/-- The sentence break classes. -/
def sentenceBreaks : List Entry :=
  [⟨["at", "aterm"], ["BuaMCraDGDpaHfa"]⟩,
   ⟨["cr"], ["na"]⟩,
   ⟨["cl", "close"],
     ["BiaecBxabaBdabaBtapaFMsdCUnbDPjhzbkbCcbobYjdBdbBPgfhnDbbBfjPnvCldBgbBNmnobcjyashQljchbcC",
      "ZRqbIhbBcpcbqfGnbBxabaBdababbbbDPOsc"]⟩,
   ⟨["ex", "extend"],
     ["BDoEhKpgKdBsbabbbbbaCukBwuqaDxgcfcbbdBjaBeBaDnkCgijaydbibcbeBrcChiBqxbBgCccbrbgkbBdcCeab",
      "gcbccjakbBaaccCeabeebccdaBebdalcCeabhbcbcubwfbcCeabgcbcchckbBeaChedcbdjaBoeCdabgbcbdhblb",
      "BdcCeabgbcbdhblbpamdCdbbgbcbdjakbBdcCsaefbabhsbCjacgmhDuacilgCvbBbababaebBxtbbfkbBjjaDwt",
      "xdecbccgddnlbakdBBbcBKkdBccBdbBebCmBfjaBtcbaEnbBiaEolelIleCfjbBccaBwBeBxeBvqBmimcBemCenB",
      "wtFwcbueagaccHqClUebHmBgEOccFlaDsBfVifEbbBSQedbjBgbDcbKmadaeaxeeaDfbByrBarnaBmhzmBsdBvnB",
      "kaCpnmaibBtcByabccbfbbaBpefbJchbbBDZsaBCjpqpOcbXhaIsaFteCMgcbbfdBoceaGjbWbdCneMfbDbdCskB",
      "xdEscCboBpacbkdBtkhaCjcBknqbBsamcBwnidbbDolgacaGblvdCdbbgcbccjakbcgdeCpibacabdbebaobDerx",
      "aDdtJbgciBbbDeqEcmDxoJwoJlfbbcdbabbFlgcgdaBcjBogbdiajkBupPphbhDevbnEsfdabbbgbaCoebbbeNjd",
      "jbbaBwgdexaHXtagoQYyrDSaeChgBOiabCchdDdalbBDAxbGYzBtcwUwedfihcgBedFscCYdCceBxiaoaweboCAi",
      "gbqcgbbbeDwaGegOlaCjdTodJubBCigEfgBTCAfDrEyJf"]⟩,
   ⟨["fo", "format"], ["GraCBmaJiaGLiaDAqacbBaeBxebjDGHjaJpcTUapBZQudHWxhBTKZma"]⟩,
   ⟨["lf"], ["ka"]⟩,
   ⟨["lo", "lower"],
     ["DtzBvakaeaBkxbhbabababababababababababababababababababababababababababbbabababababababbb",
      "ababababababababababababababababababababababacababccabacadbeacadccacababacabbbacadabacbc",
      "cgacacababababababababbbababababababababbcabadababababababababababababababababababababab",
      "ababababababababgcacbbaeababababCqbBjhbBeeFkabadacdsaBbBibbdcbabababababababababababebac",
      "acbBzBvbababababababababababababababababajababababababababababababababababababababababab",
      "abababacababababababbbababababababababababababababababababababababababababababababababab",
      "ababababababababababababababaBwBoEItaBDjfDFuibaEnHjCnabababababababababababababababababa",
      "babababababababababababababababababababababababababababababababababababababababababababa",
      "bababababababababababababibababababababababababababababababababababababababababababababa",
      "babababababababababababababababababiifkhihifkhihinchihihiebbgadcbbidcbihkcbbEranaqmEfadb",
      "daBbaeaeacbideaBhpeaBGlzCTqBvbadbbababaeabbbhdababababababababababababababababababababab",
      "ababababababababababababababababababababababababababababbhabaeamBlbafaBTWdababababababab",
      "abababababababababababababababatabababababababababababababcFdababababababcbababababababa",
      "babababababababababababababababababababababababjbabacababababaeabacabcbababababababababa",
      "bafafabababababababaeabacadabababababawcbabcBFpBqbngDbBEAigmeBOzzBVhBnFgBjFzkbobgbbRjacc",
      "bBpbiBXlByEvvEGoBfBGJwBfBMMkzBagbrBazBadbabgbkBazBazBazBazBazBazBazBazBaBbBcybfBaybfBayb",
      "fBaybfBaybfbaCSyjbtgfKbCjDHsBh"]⟩,
   ⟨["nu", "numeric"],
     ["BwjCEwfDmjbbEiasjHqjHqbDcaFbjEojEojEojEojEojEojEojEojEojDsjEojCsjKsjCsjCTqjBmjLojEykGjjg",
      "jHajDijFejgjCAEojBAcjBmjHqjwjDijPqjBFMcjCCkjDFyjgjBEqjCzapaBijCijFojKsjNejEojOkjDyjgtCyj",
      "QgjDyjZmjDijJmjCsjQgjYYgjDMcjDijFejUojBKDyjECqBxDNcjQgjTijJnjBGvjHBaj"]⟩,
   ⟨["le", "oletter"],
     ["RbaedIaaBkgglBaabaFdaSqaEoBaeeBsBqBjbbDubapbhbkccaqabBdBdDklayBgjbeafveajadaxyhkfxbfrBpC",
      "gCbdasahjppehcbcvbgbadddaqanbbcobkaifebcvbgbbbbbbBfdbatcqibcbvbgbbbedasapbxalhcbcvbgbbbe",
      "daBebbcparabfdcbddbbabbdbdcdlwaCahbcbwbpdaBaccacbBeaehbcbwbjbedaBfbbbpbribcbBocaqafcicyf",
      "frdxbibacgCgBvbbmgCgbbabebxbabjbbjacebavdBgaClhbBjBbeElBquaqfeddadbhcemmaCnBqcMtbdcgbabd",
      "cBobdcBgbdcgbabdcobCebdcCoBlpEjXvcqbzfCwdkhrnsorombcpBzBjaeaCpDkhecBhbafCrkBeBxBdcelBrez",
      "CcwjCaDeaDpBurhCcBdnbkBrBaBjBpckBjsBqccBpdbfbbdaBPqdCtccdEKtCdhaqwjgbgbgbgbgbgbgbgDcaSbc",
      "ziheceeDhgcbDlbdfBqbDprBfBwpTsJTnCmBGUeCpBtcKidpkbCoaqaBgDbBniEaagaDzadgbcbdbwBdBzoBxCkf",
      "dabblBbkwzBchBuBcaqebjkebBoxcbhuwdadBxbadbcecabaycckhcmfcfcfjgbgFpBiBdQNrmweBwMNcObcEbCp",
      "abjbmbebabbbbbEdBhNysClcCbBolEmebFeEbCdcBedfcfcfccBjlbzbsbbbocnBiEsCrCaKhBcdBwBvBfnBdfBl",
      "kBdcBjehbeEsCzDuBniBzDoBzmLyjvkhzbEvfcabBrbbdacwkwjBeCnsbbkvkzCsCdgbCmapdbcbBcBqBcdBcBjh",
      "bBbBbCbkvksnrEgCuHbBjBmfBfaKmBpgbqcChBckaivBqrBuuBbwmCaCfbcanBsBgyBaBjBdacaiBidamBvodvab",
      "aBjrbytbClgbabdbobjhBuBmhcbcvbgbbbedasameBejbacabBlbazabaBsCasducBeBvubbaHcBuBpdBkBvuaCh",
      "BqnaCtBaBlgHdBrIdhcachbbbxpabaDqhcBmqabaBcakBnhavalBttasCuHrBgBfibBkraBxBdEigbbbBlvazfbb",
      "bBfoaMpspabmbBhEuaDbBJlDyEgrHnDXkDspBPfrfzFXqfWkKDdBdCPuVwhBerDarBdsBvqdBfufsQqBsPnCwfaC",
      "omCmbbaBcJBziBVpBpjNFrdbgbbbLepaBdccaodiPfDKuEcfmdihjNBcaThBskgqaMjBdsBrSqBbIuBdcaTbgbdb",
      "bbobHoFeaBUidbBabbbacabjbdbabagaeabababcbbbacabababababbbacdbgbdbdbabjbqfcbebqGOaCLFbBgG",
      "DtgIncINpoLBkpXxDQwUvCFyHHyfGFf"]⟩,
   ⟨["sc", "scontinue"], ["BsbmbBGcaSkaGsbSwaGBxafaDBebGAuaDAAwbbbBcbBdbcbcakaGmbmbCua"]⟩,
   ⟨["st", "sterm"],
     ["BhaBdaCAbaFrcGyaBrcJmaCjabadbLhbCPwbBEkaebBDtaHqbGbbBtafaMcbNqdGgbkbcbBdcHfbCnbBKubjcEUx",
      "cLuanawbQnaBSHwaKkbItadaOsbDibDraFwbFrcFobJpaBFCwacbClbGnaBdaCnaEDwbBXdeBsdHhbEndExcEzbg",
      "aqbDkbbbEeaLmbEnbOjbfoEbbJpcTxabaJrbDjbQebBAqbCwbBCMbbFdaCnblaVhbLkaBDOgaLIma"]⟩,
   ⟨["se", "sep"], ["FdaLZmb"]⟩,
   ⟨["sp"], ["jabbtaExaIHjaDPnkBkaBvaFXwa"]⟩,
   ⟨["up", "upper"],
     ["CnzDxwbgBhabababababababababababababababababababababababababababacabababababababacababab",
      "ababababababababababababababababababababbbabadbbabbbccdbbbcdbbbbababbbacabbbcbabbdahbbbb",
      "bbabababababababacababababababababacbbabcbababababababababababababababababababababababab",
      "abababababahbbbcabdbabababaLdabadaiagabcbabbbqbiBjaccdabababababababababababafacabbcByBw",
      "ababababababababababababababababajababababababababababababababababababababababababababab",
      "bbabababababacababababababababababababababababababababababababababababababababababababab",
      "ababababababababababacBlEHdBlbafaBBuDhDGlaOkabababababababababababababababababababababab",
      "abababababababababababababababababababababababababababababababababababababababababababab",
      "ababababababababajababababababababababababababababababababababababababababababababababab",
      "abababababababababababababajhifkhihiflabababaihyhihihieleldmeleKbaeadccccadegabababdcdkb",
      "faBaptaBFmzCSuBvBwabccabababdbacaicbabababababababababababababababababababababababababab",
      "ababababababababababababababababababababababaiabaeaBTYjababababababababababababababababa",
      "babababababatabababababababababababababaFfababababababadabababababababababababababababab",
      "ababababababababababababababakababbbabababaeabacabadababababababababababebebabababababab",
      "abdbabbdafabababayaBHAhzBUzBnFgBjGakbobgbbCQcByGbvEGoBfBGJwBfBMMqzBazBazBaabbcacbcdbhBaz",
      "BabbdchbgBbbbdbebadgBbzBazBazBazBazBazBeyBhyBhyBhyBhyBhaGNlBhDBizgzgz"]⟩]

end DashQuery.Text.Property
