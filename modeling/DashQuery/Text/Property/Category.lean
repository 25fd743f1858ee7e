import DashQuery.Text.Property.Code

/-!
# General categories

Every code point that is no surrogate has exactly one of these categories.
-/

namespace DashQuery.Text.Property

/-- The general categories. -/
def categories : List Entry :=
  [⟨["lu", "uppercaseletter"],
     ["CnzDxwbgBhabababababababababababababababababababababababababababacabababababababacababab",
      "ababababababababababababababababababababbbabadbbabbbccdbbbcdbbbbababbbacabbbcbabbdahacac",
      "acabababababababacababababababababacacabcbababababababababababababababababababababababab",
      "abababababahbbbcabdbabababaLdabadaiagabcbabbbqbiBjaccdabababababababababababafacabbcByBw",
      "ababababababababababababababababajababababababababababababababababababababababababababab",
      "bbabababababacababababababababababababababababababababababababababababababababababababab",
      "ababababababababababacBlEHdBlbafaBBuDhDGlagBqccMiabababababababababababababababababababa",
      "babababababababababababababababababababababababababababababababababababababababababababa",
      "bababababababababababajababababababababababababababababababababababababababababababababa",
      "babababababababababababababababajhifkhihiflabababaihCudmdmdmeldKcaeadccccadegabababdcdkb",
      "faCjaDZgBvBwabccabababdbacaicbababababababababababababababababababababababababababababab",
      "abababababababababababababababababababaiabaeaBTYjabababababababababababababababababababa",
      "bababatabababababababababababababaFfababababababadababababababababababababababababababab",
      "abababababababababababakababbbabababaeabacabadababababababababababebebabababababababdbab",
      "bdafabababayaBHAhzBUzBnFgBjGakbobgbbCQcByGbvEGoBfBGJwBfBMMqzBazBazBaabbcacbcdbhBazBabbdc",
      "hbgBbbbdbebadgBbzBazBazBazBazBazBeyBhyBhyBhyBhyBhaGNlBh"]⟩,
   ⟨["ll", "lowercaseletter"],
     ["DtzCgaBpxbhbabababababababababababababababababababababababababababbbabababababababbbabab",
      "ababababababababababababababababababababacababccabacadbeacadccacababacabbbacadabacbccgac",
      "acababababababababbbababababababababbcabadababababababababababababababababababababababab",
      "ababababababgcacbbaeababababCqbBaHlabadadcsaBbBibbdcbabababababababababababebacacbBzBvba",
      "babababababababababababababababajababababababababababababababababababababababababababaca",
      "babababababbbabababababababababababababababababababababababababababababababababababababa",
      "babababababababababaBwBoEHbBqccBDgfDFuibaEnBrClmbBhDyabababababababababababababababababa",
      "babababababababababababababababababababababababababababababababababababababababababababa",
      "bababababababababababababibababababababababababababababababababababababababababababababa",
      "babababababababababababababababababiifkhihifkhihinchihihiebbgadcbbidcbihkcbbKoadbdaBbaea",
      "eacbideaCbaEBbBvbadbbababaeabbbffabababababababababababababababababababababababababababa",
      "babababababababababababababababababababababbhabaeamBlbafaBTWdabababababababababababababa",
      "bababababababababatabababababababababababababaFfababababababcbababababababababababababab",
      "ababababababababababababababababababhbabacababababaeabacabcbabababababababababafafababab",
      "ababababaeabacadabababababaBaadaBFpBqfihDbBEAigmeBOzzBVhBnFgBjFzkbobgbbCRbByEvvEGoBfBGJw",
      "BfBMMkzBagbrBazBadbabgbkBazBazBazBazBazBazBazBazBaBbBcybfBaybfBaybfBaybfBaybfbaCSyjbtgfD",
      "UdBh"]⟩,
   ⟨["lt", "titlecaseletter"], ["RlacacaBmaLFhhihihmapaBva"]⟩,
   ⟨["lm", "modifierletter"],
     ["BAmreloehabaFdafaSkaIwaGibKjbeaBfajadaGeaGlaBVoaExaVtaCPmaEdaXnaRwfGsCknaBiBkBAnanaqmEMx",
      "bJhaHjaSbaBrefaDtbDpcBQBuaBWcfKkaEkaBcbEriDcaxaEbcdbSbawaFhaEeavbDzdjaBFViaBtbCZofbBpbiC",
      "CxaBgaBJNsdTocBobVemCmbbaYGqdbgbbSGnCjHtgBKfaBRba"]⟩,
   ⟨["lo", "otherletter"],
     ["GoapaJwaedIaaBFvBaedBtBfbjBjbbDubaybkccaqabBdBdDklayBgvvBqyhkfxbfrBoChCbdasahjqoehcbcvbg",
      "badddaqanbbcobkaifebcvbgbbbbbbBfdbatcqibcbvbgbbbedasapbxalhcbcvbgbbbedaBebbcparabfdcbddb",
      "babbdbdcdlwaCahbcbwbpdaBaccacbBeaehbcbwbjbedaBfbbbpbribcbBocaqafcicyffrdxbibacgCgBvbbmfC",
      "hbbabebxbabjbbjacexdBgaClhbBjBbeElBquaqfeddadbhcemmaEjMqbdcgbabdcBobdcBgbdcgbabdcobCebdc",
      "CoBlpEjXvcqbzfCwghhrnsorombcpBzBoaCpBibCahecBhbafCrkBeBxBdcelBrezCcwjCaGuBurhCcBdnbkBrBa",
      "BjBpckBdEjdbfbbdaBPqdENvCdywjgbgbgbgbgbgbgbgVfaCbaeDhiabDleafBqbDprBfBwpTsJTnCmBFCebBRyC",
      "pBniKhepkbCoaBxCrGnaDzadgbcbdbwBdBzoBxCkfdabblBbkwzBchBuBtecikebBoxcbhupbfdadBxbadbcecab",
      "aybdkhaofcfcfjgbgFpBiBdQNrmweBwMNcObcEbCpabjbmbebabbbbbEdBhNysClcCbBolEmebFeEbjbBscBedfc",
      "fcfccBjlbzbsbbbocnBiEsOzBcdBwBvBfntbhgBlkBdcBjehEyCzDuBniBzDoBzmLyjvkhFwfcabBrbbdacwkwjB",
      "eCnsbbkvkzCsCdgbCmapdbcbBcBqBcdBcBjhbBbBbCbkvksnrEgCuHbBjBmdbaLsBpgbqcChBckaivBqrBuuBbwm",
      "CaCfbcanBsBgyBaBjBdacaiBidamBvodvabaBjrbytbClgbabdbobjhBuBmhcbcvbgbbbedasameBejbacabBlba",
      "zabaBsCasducBeBvubbaHcBuBpdBkBvuaChBqnaCtBaBlgHdBrIdhcachbbbxpabaDqhcBmqabaBcakBnhavalBt",
      "tasCuHrBgBfibBkraBxBdEigbbbBlvazfbbbBfoaMpspabmbBhEuaDbBJlIwHnDXkDspBPfrfzFXqfWkKDdBdCPu",
      "VwhBerDarBdsBvBzufsQtBnPpCwfaGtJBziBVpBpjNGhLepaBdccaodiPfDKuEcfmdihjNBcaThBsBhaMjBdsBrS",
      "qBaIvBdcaTbgbdbbbobHoBZndbBabbbacabjbdbabagaeabababcbbbacabababababbbacdbgbdbdbabjbqfcbe",
      "bqGOaCLFbBgGDtgIncINpoLBkpXxDQwUvCFyHHyfGFf"]⟩,
   ⟨["mn", "nonspacingmark"],
     ["BDoEhKpeKfBsbabbbbbaCukBwuqaDxgcfcbbdBjaBeBaDnkCgijaydbibcbeBrcChiBqxbBfCdabaeheadgkbBda",
      "CgaediaubBaacbCfaebebccdaBebdalbCfaeebbeaubwfbaCgacabdiahblbBeaCjamaByadaCdabcfcbdhblbBd",
      "aCgacagafbubBcbCfbediaubBdaCuahcbaDmacgmhDuacilgCvbBbababaCdnbebbfkbBjjaDydbfbbcbzbecqdn",
      "acbgapaBBbcBKkcBdbBebBebCmbbgiackjaBtcbaEnbBiaEocebjagcIlbcaCgabgbabachgjcaBwnbpBxdBwabe",
      "bafaBoimbBgdcbbcCeabbdabcCghcbFwcbmbgeagadbHqClBBsmeadlEOccFlaDsBfVidEdbBSQeaejBgbDcbKma",
      "daeazbfaFvbBarnaBmhzkBucBwacdcbBnaCpfcbcbmaiaBvaBzabccbfbbaBqbiaJeacaeaBDZsaBCjpqpBLlaIs",
      "aFteCMgcbbfdBoceaGjbWbdCneMfbDbdCskBxdEtaCcoBpacbkcBxdcbhaCjcBkebhCkambCaikdcaDrccabbgac",
      "aGbadhvbCfbdaBlgdeCsfnababaobDhhccbaxaDgfbaebbbJedgbbbBbbDhhcabbEcabacfbaDxabacdbeJzibbJ",
      "wbbaeaFodcbeaBgjBofcdiajfccBumbbPqgbfbaDevcgbbbbEsfdabbbgbaCubdabaNjblbCaefabaxaHXtagoQY",
      "yldcDSaeChgBOiaCldDdaBDBkbGYzBtcwUycrhcgBedFscCYdCceBxiaoaweboCAigbqcgbbbeDwaGegOlaCjdTo",
      "dJubBCigEfgBTCIvJf"]⟩,
   ⟨["mc", "spacingmark"],
     ["DKtaCdaccidbbBybCgcgbcbkaBraCgcCoaCgciabbCbbCgabagbcbkaDybbbdcbckaBpcCjdCjbCgabecbbbjbBc",
      "aobCgcfcbckaBqbCxcghsbMsbClaGpbeagacbzbkccgvbcfcakcCLsaBeaEzahhbbNidccebbfIqbCgabajabbif",
      "FpaBwafabebbCjaBeaebcaCiaccbadbBwhibGpavaHHebBTLbbcaDkbBypFmbBvaBwbebccEgbcbyaBtabaEfacb",
      "faJdbbbbbbaBLXjabaExaBtcebElaybChaBwcjbnaDpcdbbaGocBfbCgbbdcbccjakbDgchacabdbbbaDxcibdaE",
      "ccgabdcaJdcgdcaEjcibbaEfabbgaDzabbeaKbcjaJnfbbeacabaFmcideaDgaBdbCkaPraoaEcahacaIfeebbaN",
      "mbmaBwbibbaYYycFJgCcEabBKXnbgf"]⟩,
   ⟨["me", "enclosingmark"], ["BSqbIKqaCIgdbcBYOxc"]⟩,
   ⟨["nd", "digit", "decimalnumber"],
     ["BwjCIojFejHqjPwjEojEojEojEojEojEojEojEojEojDsjEojCsjKsjCsjCTqjBmjLojEyjGkjgjHajDijFejgjC",
      "AEojBAcjBmjHqjwjDijPqjBFMcjCCkjDFyjgjBEqjEyjCijFojKsjNejEojOkjDyjgtCyjQgjDyjZmjDijJmjCsj",
      "QgjYYgjDMcjDijFejUojBKDyjECqBxDNcjQgjTijJnjBGvjHBaj"]⟩,
   ⟨["nl", "letternumber"], ["IRucDYtBicdFMsaziocBSYljBIFgCaRsaiaFeeMEsEg"]⟩,
   ⟨["no", "othernumber"],
     ["GwbfaccDMrfOmfEqcFdgIjgriQrjBPltBRvjSmaCMvadfgjHqpBpaBByChDavYgBdCBhaBTcdFijBehboBgjBnoB",
      "SMifBHQnBsCndrbNdBaBkdBZghzgBniCxewfGebcpcBtCmiCabBecCxeEahyhBpgMsfNoBeGcjBqdEigFetOptBZ",
      "xbQoiBHnsBGtuBCPqgBEswBLYftmtEeyIBuiBJtCgbcbdCyBsboBLam"]⟩,
   ⟨["pc", "connectorpunctuation"], ["DraMBvbtaDGAobycJfa"]⟩,
   ⟨["pd", "dashpunctuation"],
     ["BtaCAuaBzaFKjaBNpaDBdfFHxacaBfbeaBcaReataEhaCZWabBlakaGnaFLoaMga"]⟩,
   ⟨["ps", "openpunctuation"],
     ["BoaByaBfaFPeabaCUoaDPmadaBmaCdapaYkabaBeaBPuababababababaDcaBgababababaPoabababababababa",
      "bababaCmabaBhaBOvabababazasabababaQmababababadabababacaCZRtaIhaBdabababababababadarababa",
      "GoaByaBfadaca"]⟩,
   ⟨["pe", "closepunctuation"],
     ["BpaBzaBfaFPdabaCUoaDRdaCdapaYkabaBeaBPuababababababaDcaBgababababaPoabababababababababab",
      "aCmabaBhaBOvabababaBsabababaQmababababadabababacbCZRqaIjaBdabababababababadarababaGoaBza",
      "Bfacaca"]⟩,
   ⟨["pi", "initialpunctuation"], ["GpaLXkacbcazaFFsabaeacapada"]⟩,
   ⟨["pf", "finalpunctuation"], ["HfaLWvadaBcaFFsabaeacapada"]⟩,
   ⟨["po", "otherpunctuation"],
     ["BhcbccababbkbdbBbaCqafaobhaBBaaiaRyfBpaCcacacaBsbubbbnabcCwdDyaBrnIzcCcoBfaKbbkaFkaEqaEr",
      "aPaamaOdaDmakbGmobaEiaCweebEhfGpaXoiBDtaEucCtbGbcbcBlfbdMbbIibEygbfGebkgBccEudCheCkbCmhl",
      "aBGcbihiicdccdkbabjEUcdbbEiaFnbeccacibbbacbkebjcdbabmccQmcCfaHhaBRYgbKjcDvakaElfOqdDibBo",
      "cbaBxbBvaDtmqbEudEwbqbJpaBFCugcawaubcddcbdhcgabbFtcbccababbkbdbBbaBkacbPucZsaBwaPyaBCpaH",
      "raBfaKmiBmaEigCogDldBKqeBsdHhgEfbbdEwdBwbDbdeanabcDkfEdaLmbbbEkekbbaEaaJqwEbcBcmCyaFacJs",
      "aKecFzaDohDfcbeDpjIhaDreBqbYvbCwmGtaBRseEJcbWDvbFdaCneiaVgcLjdMpaBDBoaLIleEItaBHeb"]⟩,
   ⟨["sm", "mathsymbol"],
     ["BraqcCjabaBtaeaBlaBfaBDmaUhcJYhanaBncncFjaBnegaCqefbeacacahaBfbcabaBfKhBgbDmaBeyBofSbaja",
      "CchEhaMyecBekpJwFawCkeBfcJxBwucfDASqaBFsabcGiaqcCjabaFbagdFEfbCYEzazaBfazaBfazaBfazaBfaz",
      "aIUeb"]⟩,
   ⟨["sc", "currencysymbol"],
     ["BkaEvdBWjaEtaTebTebhaJlaKdaWjaDQpaDIiBgBZHvaBGMlaEeaFyaIlbdbMCsdCVXeaDRka"]⟩,
   ⟨["sk", "modifiersymbol"],
     ["DqabaCtagaeadaUbdmnfgbabqEnaobBXiaIUmabclcncncnbGHobBSVrwjbDzbBLoaobBEKkqBIhabaGgaDOLje"]⟩,
   ⟨["so", "othersymbol"],
     ["GkacaeabaBLpaKgbExbHyakatbJnaTvaOjaFafbaFcaHzaBpaPbcpabccfuababaFdhbfbbfdHpbBCyjBBvaBBua",
      "GbBhNpjjiCChbbdbbkabbgfbababaealboabbbaCgbjecdbbbbbgbBecbbabBeKihetcgcDcbBdzBngCtwkDdCzw",
      "HabibCbiEgbJnBsBrCmJvTsBvvbgBmcBfbEaIvfNtbBuzbDkmIfBapeanbmavbgbMybejBgBljaqBelBdiapBfkB",
      "mpMhJToClBGUiCcBHhdkbbaWbcBFJapExaBtcSqadaebnbMbiCfqccbmdaBvBsCLubWtaESsaDGnheqBCNidfaBE",
      "UwaFVnJfqQtGaElCiJlkBmcChfcwbhBdeCivCndaHeDiBTxTrCddByhbnbbCOuaEHwaEzaBBtBreDvmocobobBkx",
      "GeCeBcnBreihbofFyJqfBBzeqdmdEoeDqgleapleCdijgBniBdclebCkNbmncmdjfCdhockgihFqbDn"]⟩,
   ⟨["zs", "spaceseparator"], ["BgaExaIHjaDPnkBkaBvaFXwa"]⟩,
   ⟨["zl", "lineseparator"], ["MEqa"]⟩,
   ⟨["zp", "paragraphseparator"], ["MEra"]⟩,
   ⟨["cc", "cntrl", "control"], ["aBfDrBg"]⟩,
   ⟨["cf", "format"],
     ["GraCAkfwaHkaBxaOubDcaFTjaDAqeBaeBxebjDGHjaJpcGIzapaNKkpBZQudHWxhBTKZmaBeDr"]⟩,
   ⟨["co", "privateuse"], ["DGVoJMdCAHXoDSYncDSYn"]⟩,
   ⟨["cn", "unassigned"],
     ["BIebgdhabauaPhaBmbBybdaCdhBbdgkKkaCibDxnChbBxbpaBcbbaleBfaceJdaibcbwahabcebjbcbehbdcafbz",
      "bdagdcbwahacacacbbafdcbdcbgeabgrjdajadawahacafbkadadbboebmghadaibcbwahacafbjbcbdgddcafbs",
      "jcagcdaeccabaccccdcmdfcdaebbfbnvenadaxaqbjadaegcadbbbebkgwadaxakafbjadaegcfcaebkadlnadaB",
      "zadagdqbBaadascyajabbhcbdgabaifkbdlCgdBdBkcabafayabaxbfabahakbeBfCuaBkdBnaBkapanBkHqabeb",
      "bOnaebhabaebBpaebBhaebhabaebpaCfaebCpbBgcBafDibgbZtcDlgwiyiulnadaclDqbkfkfBafDlgBreCsjBf",
      "amdmdbcBqbfkBsdBaflcCkbCnaBdblfkfobBfBwCzaGkhCicpcCkeBrblhBreUobgbBmbgbiabababaBfbCbapao",
      "bgatbdajaDxambBbancBhoBhoFkdZqvluCRsbBgaNleBtabebbCegcnyihahahahahahahahaEwBhBaaDllIgzDc",
      "aDibDzeBraDqaDiiBwaBRIrcCdiNktHchHybcabaiuChckfCehCshmfEmkBecDaaldBhaCdiobkbDzxBcjgbgbgi",
      "hahaCidEwbkfQNslxdBxdNBabEcBlhlfeBaafabacacaEvpRdbCcgbBfBqfBzataedfaFfbbaHicgbgbgbdchahj",
      "fbmaBaatacapboBhEteddBtcDkancbBuBuEzBdcBxoBcdBkiBeeBreBeaBldoBpGcbkfBkdBkdBohCakmapahaca",
      "lapahaccCalLziwjixgaBqajCqgbbaBsaccbbxaCuhjBvtaceBhcBbebClCedubByaceiadaBdbddkgjgCmBfBnd",
      "miCccBdbBbeBagelhDbCvCcBzmBzgBuhkfBmcBdhcHzBfaBqadbcpdCcBshBqvBaBlBctxiDadBkiCqjbbzgkfCb",
      "ashBniDsauksaBvCjhabaeapalfChekfeaibcbwahacafakbcbdbbfbehbhcfkkabbbaBmakabbbaeakachcBcDo",
      "afBdCuhkGjCcbBmBhCrkkfnsCgfkfuBbBbbpdxHcCiDvDflibbbiacaBeacbmikCribBublBaCuhDfmCvgkGzBin",
      "kfjaBtaojBdcBgbwaoCuhacaBscbacajhkfgacaBlacaggkLxzgraBpcBdDgboBymBJnDxEhafkHoDXjDvmBQsjF",
      "XreWlKDcCgCOrVxgBfakdDdakfBebgjCsjkahavetQpCgHpDnDwCxdCfgrClfkcnJCahBVqBokNFqeahacaLfobB",
      "cdbbnehPgDKtEdencjgkbiFVfJqfQuCxBubxiEmChJmjBnbHmuCsErululDjizFeDhaCtacbbbcbeamabahaCnae",
      "biahaBcaeafabchaNcbLgbBBaofapBQlBffgIeharbhacafeCkBgbEhBtcobkdcMhBfqCgebRvBqIfBrdbSlhaea",
      "capaHpbqBoCydkdcBEeCqCxCjHleaBbacabbbakaeababfbdbababadacabbbababababacabbeahaeaeabakare",
      "dafarBzcKjBsdDwlpbpapaBljGsCdBdmBsdjgcngFxBLwdrcncEpdDrfmdbomdCehkfBohBebmdcCjNclobnckeC",
      "egpblfjgFraDyBNpCLFcBfGDufIobINqnLBloXyDQvUwCFxHHzeGFgBOMXkbBdDsExJgDSFnDSYobDSYob"]⟩]

end DashQuery.Text.Property
