import Jadn.Unicode.Table

/-!
Enumerated properties about the boundaries of graphemes, words and sentences, and the version
of the standard that a character came with.

Each property has a list of the names of its values and a table of runs in which a value
stands for its place in that list.
-/

namespace Jadn.Unicode

/-- A property that gives each character one of a list of values. -/
structure EnumeratedProperty where
  /-- The names of each value in lower case without spaces, hyphens and low lines. -/
  values : List (List String)
  table : List Nat

/-- The characters with the value of a name. -/
def EnumeratedProperty.set? (p : EnumeratedProperty) (name : String) : Option CharSet :=
  (p.values.findIdx? fun forms => forms.contains name).map fun i => classSet p.table (· == i)

/-- Grapheme cluster break classes. All syllables of Hangul count as `lvt` in the table. -/
def graphemeBreak : EnumeratedProperty where
  values :=
    [["cn", "control"], ["cr"], ["ex", "extend"], ["l"], ["lf"], ["lv"], ["lvt"], ["pp",
      "prepend"], ["regionalindicator", "ri"], ["sm", "spacingmark"], ["t"], ["v"], ["other",
      "xx"], ["zwj"]]
  table := decode <| String.join [
    "0A4102110IC-20X1CD01CoI2m3Cp827Cd82j1C121C122C122C121Cu176CA2BC101Ck12LCG21Cb32771C126C2",
    "22C124CX171C121CU2RCx22BCw129C921CO24C129C123C125Ch123Cq172C628Cg12O712W191Cs1219121C193",
    "28942192C127CA22CT2192Cu121C1219224C292C29221C921CA22CQ21C22291Cu121C19322C422C223C321CU",
    "22C321CB2291Cu121C19325C12291C19221CK22CM26C12192Cu121C1229124C292C29221C723CA22CU21Cx12",
    "1912192C393C19321C921Ce1219321Ct121C12394C123C124C722CB22CT2192Cu121C19121922192C12192C1",
    "9222C722CB22CF91CC2292Ct122C1219224C193C1932171C821CA22CT2192Cc221C4219223C121C19721CI92",
    "Cz121C19127CC28CY321C19129CB27Cf222CR21C121C121C492Cn12E9125C122C52BC12a1C921Cc3249126C1",
    "229222CN9222C423CG24CD21C19122C621CF21CY33W3Be2Au2CzA23CoT2391CS2291CT22CU22CW2229127982",
    "1922BC921Cj1230121Cr322CY121Cs323942293C492219623Cx6229221Cv191219127C121C121C228962AC22",
    "1Cm12VCn12491Cl1279121952192Cc129CC2291CU912492229123Cu12191229321912392Cm198289222Cu423",
    "C12D9127C421C621C29122Cc62W2ChG0121D102CO07Cn10GCW32X1C+-223Cj421CW32W1CgH26Cf322CqkT24C",
    "12ACW122Cm222Cm821C321C421CN922291C421Cp292Co19G22CQ2ICD21Cc128CP2B92CC3TC32391Cl1219224",
    "922293Ca121CZ22692229222CC21C82191Ck121Cp121C123C222C522C121Cf1912292C59121Ci79221922192",
    "C19121CI6azACCBNC4An1CYv821CXN2GCG2GCl601C+422Cm20CCXG21CY721Cr425Ccq123C122C524Ce123C42",
    "1Cb522CzH24CZC22Cm223Cc22BCn124Cw3912191Cr12FCf121C222CA2391Cj193249222C271C421CA71Co123",
    "Ca1259128CG92Ci121CC2291Cm1932992C172C524C19121Cy2932392219122C621C221Cz4219328CL2292Ct1",
    "22C121912194C292C293C921CA92C227C325CW6932892239121CN21Cn22192269121922191229122Ch721922",
    "4C294229122CR22Co2932892219122Cg321912192269121Cb323C2249125CW893299122Cr72195C192C22291",
    "217191719121Cj49324C2229421C391CS2ACe126917124C821C9269223Ce1762D9122CrC9127C1269121Co22",
    "MC1912791229122Cw326C321C122C1277121CY295C122C192219121CxA2292C9227191Cm19225C392219121C",
    "jd50G21C62FCwqD25Cx127CuW121C19t1C724Cn221CB92ChbJ22C104Cyo42k1C22NC+G219123C391250828C2",
    "27CU24Cq423Cxz12t1C42o1C821CE21CM25C12FCmg127C12HC227C122C125Ca321CW527CtB21Cz124CyF24CW",
    "V27Cj327Cxa28QCxF25CWWZO0W12W30W42m70mm3CWWy5"]

/-- Word break classes. -/
def wordBreak : EnumeratedProperty where
  values :=
    [["cr"], ["doublequote", "dq"], ["ex", "extendnumlet"], ["extend"], ["fo", "format"],
      ["hebrewletter", "hl"], ["ka", "katakana"], ["aletter", "le"], ["lf"], ["mb",
      "midnumlet"], ["midletter", "ml"], ["midnum", "mn"], ["newline", "nl"], ["nu", "numeric"],
      ["regionalindicator", "ri"], ["singlequote", "sq"], ["wsegspace"], ["other", "xx"],
      ["zwj"]]
  table := decode <| String.join [
    "HA81C201HIG1H111H4F1H4B1H191H1DAA1B1H57QH421H17QHAC1Ha171H241H771H1A1H271H57NH17VH17WFH6",
    "7Y13m375H172H274B171H671A173H171H17KH17p2H17h4H1377c5H17c1H274H171A17f1B171H63j1H131H132",
    "H132H131H85RH45471A1HB46H6B2H23BH141H37h13LDAH1D1B1H172317Z3H1713741H1367232H13472DA73H2",
    "71HF4171317U3RH27v23B71HEDA7X13972H2B1H171H231H27M34713971337135HI7P33H47BH57OH176H142H6",
    "387g13O413X17s133713I71377A32H2DAH17G33H178H272H27MH177H171H374H2317137H232H23371H831H47",
    "2H17332H2DA72HA71H131H233H176H472H27MH177H172H172H172H231H135H432H233H331H774H171H7DA327",
    "331HB33H179H173H17MH177H172H175H2317138H133H133H271HF7232H2DAH97136H133H178H272H27MH177H",
    "172H175H2317137H232H233H733H472H17332H2DAH171HG3171H176H373H174H372H171H172H372H373H37CH",
    "435H333H134H271H631HEDAHG3578H173H17NH17GH2317137H133H134H732H173H271H27232H2DAHG7133H17",
    "8H173H17NH17AH175H2317137H133H134H732H672H17232H2DAH17231HC3479H173H17f1327137H133H13471",
    "H57331H77332H2DAHA76H133H17IH37OH179H171H277H331H436H131H138H6DAH232Hz131H237HC38H1DAHt2",
    "31H239HB37H1DAHc171HN32H6DAHB31H131H131H43278H17a1H43KH132753BH13a1H931Ha33KH1DAHC34H433",
    "H133H237H334HD3CH131DA34H27c1H171H571H27h1H17jAH174H277H171H174H27f1H174H27X1H174H277H17",
    "1H174H27FH17v1H174H27Z2H233HW17GHG7s2H276H37iJH27HG17QH57h2H37BH77I34H97J33HB7I32HC7DH17",
    "3H132HW23W1H931H2DAHX1334131DAH67v2H775327Y13171H57c2HA7VH13CH43CHADAHW4DAHc17N35Hv13AH1",
    "3TH231DAH6DAHM3VHn1357l13H78H3DAHH39HC337U3D72DA7i13EHC7a13KH8DAH373DA7a1H279H77h1H273HG",
    "33H13L74317631723371H57W63W27s8H276H27c1H276H278H171H171H171H17VH27r1H177H171H373H177H37",
    "4H276H47DH573H177H3G7H1G3H131I142H892HA91H2A1C24521HF22H3B1HF21HAG145H14AH171HD71HG7DHp1",
    "3X1HH71H471H27AH171H375H671H171H171H174H17BH274H575H471HH7f1HjP7q1Hsu17b7H6743372HC7c1H1",
    "71H571H27u1H771HF317NH977H177H177H177H177H177H177H177H13W1Hl171HmEG1H471Ha136H165H572Hy2",
    "3262H36x2H164H57h1H17+2HH7W1Hm16GHm66l1H16u2HebR7ja1HZ27k1H27j8H37GDA72HK7l134H13AH17V32",
    "7m232HM7Z6H572H171H175HO7G31733174317N35H431HJ7q1HC327o13IHADAH63I76H371H17231DA7S38H27N",
    "3DHC7TH3347l13EHE71DAHB31HADAH67f13EH973317832H2DAHX133Ho131H133H232H532H131HU7B35H27332",
    "HA76H276H276H977H177H17w1H67p338H132H2DAH67azAHC7NH47n1Hau877HC75H551315AH15DH155H151H15",
    "2H152H15A7Y3HX17hBHI7W2H27s1He17CH43GB1H2A1B1HB3GH322HO23B1H191H1B1A1HQ75H17d4H241H791H4",
    "B1H191H1DAA1B1H57QH421H17QHB6u1327VH376H276H276H273HS43H47CH17QH17JH172H17FH27EHY17x3Hb2",
    "7r1He431HY47TH37n1HF31HV7W1HD7UH57c135H57UH27a1H478H175Hg17+4H2DAH67a1H47a1H47e1H87q1HC7",
    "BH17FH177H172H17BH17FH177H172HZ27t9H97MHA78HO76H17g1H179Hb276H271H17i1H172H371H27NHA7NH9",
    "7VHX27JH172HA7MHA7QHc27u1H672HW27133H132H53474H173H17TH233H431HW17TH37THZ178H17S32HP7s1H",
    "A7MHA7JHD7IHk37f2Ht17p1HD7p1HD7a134H8DAHcA7g1H132H372Hh2337THA71H87M3BHV7I34Hg17LHR7NH93",
    "37r13FHVDA31723271H9347j13BH241H431HA41H27PH7DAH6337a13EH1DAH4713271H87Z131H271H9337m13E",
    "74H434H132DA71H171HZ17IH17P3CH6317231H+177H171H174H17FH17AH77l13CH5DAH634H178H272H27MH17",
    "7H172H175H1327137H232H233H271H631H57532H237H335Hh47r13I74H5DAH43173HU7m13K72H171H8DAHc57",
    "l137H239HN7432HY17m13HH371HBDAHc17h13D71H7DAHp23FH4DAHc67i13FHb37W2DAHL78H271H278H172H17",
    "O36H132H23471317132HCDAHc278H27d137H23771H17131HR713A7e1377134H831H8713B7k13GH371HI7f2Hd",
    "879H17b138H13871HFDAHO7UH23MH13EHf277H172H17c136H331H132H1377131H8DAH676H172H17W135H132H",
    "13571H7DAHs97J34H93271317DH17Y137H335HDDAHs271Hl27wSHc37l3HH7a6Hio27X3HF7mX14G31763FHgz3",
    "7dIHvj87vHH77VH1DAH67l2H1DAH67UH235HB7m137H974HCDAH97LH57JHmL7W2HW47h2H431713t1H7347DHW2",
    "72H17131HB32H+-F64H167H162H161H-863Ho161HE64Huq27h3H57DH379H77AH332H144Hyo43k1H23NH+G35H",
    "3364838H237HU34Hq433HxD7r2H17d2H172H271H272H274H17CH171H177H17X2H174H278H177H17SH174H175",
    "H171H377H17qAH27PH17PH17VH17PH17VH17PH17VH17PH17VH17PH178H2Do1HWG3t1H43o1H831HE31HM35H13",
    "FHmY17VH676Hr637H13HH237H132H135H57+1HX131Hm37j1H33777H2DAH471HXA7U31HH7i134DAHsE7S34DAH",
    "cN77H174H172H17FH17b6HB37Hf17a23771H4DAHcb174H17RH172H171H271H17AH174H171H171H671H471H17",
    "1H171H173H172H171H271H171H171H171H171H172H171H274H177H174H174H171H17AH17HH573H175H17HHqJ",
    "7QH67QH67QHy2EQHxF35Hm-1DAHdWXO41HU3W3HW43m7Hmm-5"]

/-- Sentence break classes. -/
def sentenceBreak : EnumeratedProperty where
  values :=
    [["at", "aterm"], ["cl", "close"], ["cr"], ["ex", "extend"], ["fo", "format"], ["le",
      "oletter"], ["lf"], ["lo", "lower"], ["nu", "numeric"], ["sc", "scontinue"], ["se",
      "sep"], ["sp"], ["st", "sterm"], ["up", "upper"], ["other", "xx"]]
  table := decode <| String.join [
    "E9B161B221EIB1C111E413E29201E18A91E4C1E1DQ11E111E37Q11E111E7A1EQB1E97111E141E771E47111E4",
    "DNE1D77OE178D171D171D171D171D171D171D171D171D171D171D171D171D171D171D171D171D171D171D171",
    "D171D171D171D171D171D171D171D171D172D171D171D171D171D171D171D171D172D171D171D171D171D171",
    "D171D171D171D171D171D171D171D171D171D171D171D171D171D171D171D171D171D171D271D171D173D271",
    "D171D271D372D471D271D373D271D271D171D171D271D172D171D271D371D171D27251D17354D271D271D271",
    "D171D171D171D171D171D171D171D172D171D171D171D171D171D171D171D171D172D271D171D371D171D171",
    "D171D171D171D171D171D171D171D171D171D171D171D171D171D171D171D171D171D171D171D171D171D171",
    "D171D171D171D171D177D271D272D171D471D171D171D171D17b2517a15772E45CEE75E751E151EH3m3D171D",
    "17151E1D171E274E1D1E6D1E1D3E1D1E1D271DHE1D97Z1D172D373D171D171D171D171D171D171D171D171D1",
    "71D171D171D175D171E1D171D272Dp17m1D171D171D171D171D171D171D171D171D171D171D171D171D171D1",
    "71D171D171D171E137D171D171D171D171D171D171D171D171D171D171D171D171D171D171D171D171D171D1",
    "71D171D171D171D171D171D171D171D171D171D271D171D171D171D171D171D172D171D171D171D171D171D1",
    "71D171D171D171D171D171D171D171D171D171D171D171D171D171D171D171D171D171D171D171D171D171D1",
    "71D171D171D171D171D171D171D171D171D171D171D171D171D171D171D171D171D171D171D171D171E1Dc1E",
    "251E391E27f1C1E73j1E131E132E132E131E85RE455EC46E692E23BE141C35h13L8AE182E152315Z3C151374",
    "1E1365232E134528A53E251C3EC4151315U3RE25v23B51EE8A5X13952E291C151E231E25M34513951335135E",
    "9C1E1C1E3C2E15P33E45BE55OE156E142E6385g13O413X15s133513I51375A32C28AE15G33E158E252E25ME1",
    "57E151E354E2315137E232E23351E831E452E15332E28A52EA51E131E233E156E452E25ME157E152E152E152",
    "E231E135E432E233E331E754E151E78A325331EB33E159E153E15ME157E152E155E2315138E133E133E251EF",
    "5232E28AE95136E133E158E252E25ME157E152E155E2315137E232E233E733E452E15332E28AE151EG3151E1",
    "56E353E154E352E151E152E352E353E35CE435E333E134E251E631EE8AEG3558E153E15NE15GE2315137E133",
    "E134E732E153E251E25232E28AEG5133E158E153E15NE15AE155E2315137E133E134E732E652E15232E28AE1",
    "5231EC3459E153E15f1325137E133E13451E55331E75332E28AEA56E133E15IE35OE159E151E257E331E436E",
    "131E138E68AE232ED5m1315237E55738E18AEd152E151E155E15OE151E15A31523951E255E151E137E18AE25",
    "4EW151EN32E68AEB31E131E131143258E15a1E43KE132553BE13a1E931Ev15h13K518AC2E456345433513352",
    "3753345D3C51318A34E2Dc1E1D1E5D1E25h1E1715iAE154E257E151E154E25f1E154E25X1E154E257E151E15",
    "4E25FE15v1E154E25Z2E233E2C1E4C2EN5GEGDs2E276E35iJE1C15HB15Q12E35h2E35BE75I34E95J33C2E95I",
    "32EC5DE153E132EC5q13W1E351E45131E28AEO91C1E491C1E13341318AE65v2E755325Y13151E55c2EA5VE13",
    "CE43CE8C28A5UE255EB5i1E45QE68AEc15N35E45r13AE13TE2318AE68AED51C4E43VEn1355l13H58E38AC2E2",
    "C2EB39E9C2E1335U3D528A5i13EEC5a13KE3C2E38AE3538A5a1C279E75h1E253EG33E13L54315631523351E5",
    "7W63W2D171D171D171D171D171D171D171D171D171D171D171D171D171D171D171D171D171D171D171D171D1",
    "71D171D171D171D171D171D171D171D171D171D171D171D171D171D171D171D171D171D171D171D171D171D1",
    "71D171D171D171D171D171D171D171D171D171D171D171D171D171D171D171D171D171D171D171D171D171D1",
    "71D171D171D171D171D171D171D171D171D171D179D171D171D171D171D171D171D171D171D171D171D171D1",
    "71D171D171D171D171D171D171D171D171D171D171D171D171D171D171D171D171D171D171D171D171D171D1",
    "71D171D171D171D171D171D171D171D171D171D171D171D171D171D171D179D876E2D6E278D878D876E2D6E2",
    "78E1D1E1D1E1D1E1D178D87EE278D878D878D875E172D5E171E373E172D5E374E272D4E478D5E573E172D5E3",
    "BB413242E392E318E401E3A245B1E912E1C2E712C3ELB145E14AE171EB1271ED12E17DEp13X1EHD1E4D1E271",
    "D372D371E1D1E3D5E6D1E1D1E1D1E1D4E171D4715471E272D2E5D174E471EHDG7G53D17154E-B14ET12EhCDQ",
    "7QEnJ16E71EEl212EV1AEpC1ME-114EW112EYGDm17m1D171D372D171D171D171D471D172D178D371D171D171",
    "D171D171D171D171D171D171D171D171D171D171D171D171D171D171D171D171D171D171D171D171D171D171",
    "D171D171D171D171D171D171D171D171D171D171D171D171D171D171D171D171D171D171D171D171D171D171",
    "D171D171D172E6D171D17133D171EC7c1E171E571E25u1E751EF315NE957E157E157E157E157E157E157E157",
    "E13W11EEE12E21AE4C151ECC1E511EGC218EZDB191C1E2531AE218E113E15936E155E255E45s2E232E253E15",
    "w2E154E55h1E15+2EH5W1Em15GEWG5Wk6EW25jqLEZ25k1E1C15j8E1C25G8A52EKD171D171D171D171D171D17",
    "1D171D171D171D171D171D171D171D171D171D171D171D171D171D171D171D171D1715134E13AE151D171D17",
    "1D171D171D171D171D171D171D171D171D171D171D171D173325m232E1C1E3C1EV59E2D171D171D171D171D1",
    "71D171D173D171D171D171D171D171D171D171D171D171D171D171D171D171D171D171D171D171D171D171D1",
    "71D171D171D171D171D171D171D171D171D171D171D17AD171D171D271D171D171D171D17151E2D171D17151",
    "D171D173D171D171D171D171D171D171D171D171D171D171D571D571D171D171D171D171D171D171D171D471",
    "D171E5D171E171E171D171D171EO73D17151735731533154315N35E431EJ5q1E2C2E8325o13IE8C28AE63I56",
    "E351E152318A5S38E1C15N3DEC5TE3345l13EE7C2E5518AE655315A8A55E15f13EE953315832E28AE3C35NE3",
    "51335o131513352325532513151EO53E25B35C25332EA56E256E256E957E157E17h1E17EE67m25Z138C132E2",
    "8AE65azAEC5NE45n1Eae85kBE25g3Ec177EC75E551315AE15DE155E151E152E152E15i3EX15hB12EG5W2E25s",
    "1Ee15CE43G92E191E312E73GE192E21GE212E79201E291C29116E491EC55E15d4E241E1C1E612E29201E18A9",
    "1E4C1E1DQ11E111E37Q11E111E112C11291E15u1325VE356E256E256E253ES43E45CE15QE15JE152E15FE25E",
    "EY15x3Eb25r1Ee431EY45TE35n1EF31EV5W1ED5UE55c135E55UE25a1E458E155Eg1De17e15k2E28AE6Da1E47",
    "a1E45e1E85q1ECDBE1DFE1D7E1D2E17BE17FE177E172EZ25t9E95MEA58EO715273E17g1E179Eb256E251E15i",
    "1E152E351E25NEA5NE95VEX25JE152EA5MEA5QEc25u1E652EW25133E132E53454E153E15TE233E431EMC2E85",
    "TE35TEZ158E15S32EP5s1EA5MEA5JED5IEk35f2Et1Dp1ED7p1ED5a134E88AEcA5g1E132E352Eh2335TEA51E8",
    "5M3BE4C5EM5I34C4Ec15LER5NE9335r13FC2ET8A31523251E9345j13BE241C431EA41E25PE78AE6335a13EE1",
    "8AE1C3513251E85Z131E251E9335m13E54C2E234C1328A51E151E1C2EW15IE15P3CC2E1C2E1315231E+157E1",
    "51E154E15FE15AC1E65l13CE58AE634E158E252E25ME157E152E155E1325137E232E233E251E631E55532E23",
    "7E335Eh45r13I54C2E38AE43153EU5m13K52E151E88AEc55l137E239E1C2E5CF5432EY15m13HC2E151EB8AEc",
    "15h13D51E78AEs15RE23FE48AE2C3E157Ev55i13FEb3DW17W18AEL58E251E258E152E15O36E132E234513151",
    "32C1E1C1E98AEc258E25d137E23751E15131ER513A5e1375134E3C2E331E8513B5k13GE1C251EI5f2Ed859E1",
    "5b138E13851C2ED8AEO5UE23ME13EEf257E152E15c136E331E132E1375131E88AE656E152E15W135E132E135",
    "51E78AEs95J34C2E73251315DE15Y137E335C2EB8AEs251El25wSEc35l3EH5a6Eio25X3EF5mX14G31563FEgz",
    "35dIEvj85vHE75VE18AE4C25l2E18AE65UE235C1EA5m137C2E754C1EB8AE95LE55JEmLDW17W1EOC1Ed35h2E4",
    "31513t1E7345DEW252E15131EB32EE5u-5E85sc1Eg159Edt854E157E152E15Z9EF51ET53E251EE54E85iCEae",
    "25h3E55DE359E75AE332C144Eyo43k1E23NE+G35E3364838E237EU34Eq433ExDDQ7QDQ77E17IDQ7QD1E1D2E2",
    "D1E2D2E2D4E1D874E171E177E17BDQ7QD2E1D4E2D8E1D7E17QD2E1D4E1D5E1D1E3D7E17QDQ7QDQ7QDQ7QDQ7Q",
    "DQ7QDQ7SE2DPE17PE176DPE17PE176DPE17PE176DPE17PE176DPE17PE176D171E28o1EWG3t1E43o1E831EE31",
    "E3C1EI35E13FEmY17A517KE676Er637E13HE237E132E135E57+1EX131Em35j1E33757E28AE451EXA5U31EH5i",
    "1348AEsE5S348AEcN57E154E152E15FE15b6EB37Ef1DY17Y13751E48AEcb154E15RE152E151E251E15AE154E",
    "151E151E651E451E151E151E153E152E151E251E151E151E151E151E152E151E254E157E154E154E151E15AE",
    "15HE553E155E15HEqJDQE6DQE6DQEid113Eth18AEcW15Wtf1EW15wX4E65+6E25Yq5EE5nf7E-W35+GEYl15hw4",
    "E55WZ4EnYtL41EU3W3EW43m7Emm-5"]

/-- The versions that characters came with, oldest first. -/
def age : EnumeratedProperty where
  values :=
    [["1.1", "v11"], ["2.0", "v20"], ["2.1", "v21"], ["3.0", "v30"], ["3.1", "v31"], ["3.2",
      "v32"], ["4.0", "v40"], ["4.1", "v41"], ["5.0", "v50"], ["5.1", "v51"], ["5.2", "v52"],
      ["6.0", "v60"], ["6.1", "v61"], ["6.2", "v62"], ["6.3", "v63"], ["7.0", "v70"], ["8.0",
      "v80"], ["9.0", "v90"], ["10.0", "v100"], ["11.0", "v110"], ["12.0", "v120"], ["12.1",
      "v121"], ["13.0", "v130"], ["14.0", "v140"], ["15.0", "v150"], ["15.1", "v151"], ["16.0",
      "v160"]]
  table := decode <| String.join [
    "0sF340U3851613I637B8E0v235620l1310A356H0c2395168756302315D940292R2018301F1R407R101R10KR1",
    "0i19107315201310131013101310I42516574310C310Y2310C310f1913252340r15202520252810S32087202",
    "865G849GA2B2F8R10c1R207J10d1J10131R2F2C1R11H711D0A81091173R80RR4J105RB64C1F1957101699501",
    "E1N17101B10Q950J336376B10E520e23205310F310U620A35613ER13U633RR2637U9I3n151RE8x1R2J3Ak1R2",
    "AFR1BSR2B1R1IBR5NVQ1N2R5Q1N8C1F1CBF6G2N1H8MANBJ1HFG1CRF1A103610r1B20IA1B105A1B20P92B5F1A",
    "2827182F103R108R202R20MR107R101R304R2016107R202R20371R801R402R105R20LA1I2J1R2610161R106R",
    "402R20MR107R102R102R102R201R105R402R203R391R704R101R70F91J1RA03R1076101R103R10MR107R102R",
    "105R20AR103R103R201RF0163R20AC161R7G1I6R103R108R202R20MR107R102R16104R20891R202R203R7M10",
    "2R402R10392R20B61B6RA02R106R303R104R302R101R102R302R303R3087103R405R303R104R291R601RE710",
    "C68R5F103J108R103R10NR10AF105R2N19107R103R104R702R192G1R1Q1N1R20292R20AR7K198H1F102J108R",
    "103R10NR10AR105R26207R103R104R702R5Q1N101R10282R20AR182O1RCI1F102M108R103R10NB10GB1I2910",
    "691R103R104B1H1R4H301H7G10292R20A96H397R1M132R13IR33OR139R131R237R331R436R131R138R6FAR23",
    "3RC0w1R40TRb102R101R1K102K101R1K101K604K107K103R101R101K202K10DK103R205R101R106O1R10AR20",
    "2C2RW11e2R11X13192R41RB4163111R11L3317311133R13FR191317293A4B2Rb13Y19135913291379334963Q",
    "9W2A4920c1R1C1R5C1R20d152720171C30w2A50a2A50o2A637713-17131R134R237R131R134R23d17131R134",
    "R23V7131R134R237R131R134R2377137R13N713V7131R134R237713d1713JR2B2723SR37QR63r2G1R2G6R2A1",
    "3sJA93TR33n2F8R75DN157N1R9N15NR95KRC5DR153R152RC3z261R23AR66AR63FN13AR63u2J1R73g191R5Ac2",
    "RA6TF2R16CR46CR461R36g1R265RB7g1A2R47QR67AA1R3726W17SR272A-1R1ATR2ABR6AAR6AER2FFM2NEQFR2",
    "QCRK8i2N1R1Q28j1N2Q19h1C39CC6Bq1R8B49u1R39FR39p1H9Q2R5Jh1R2J3C8R8AZ1C4I1F2K1R56i37u2879S",
    "FFI4N1H1B1A1820x411940w2960MR206R20c1R206R208R101R101R101R10VR20r1R10FR10ER206R10JR203R1",
    "09R10l1310N513655627251775591R1E40751R20RR175B8R30B1121335274A3B1D1F3G1I1N1Q1RE0I3257718",
    "491RF0v13261715F718291A30m1318194A1G2R40x2395C0o75E01310v331513U5q1627B8CA1BBF7H4I10b132",
    "Q3RM0BRL0h45K610s45A0m238580K625271310s2325C725A687B91A2627G819AA394AAB1AJB1A1B4AOF104B1",
    "04B20SB10Z1B101B104B301A107B2075E0VB30OB10EB17784C191C1B25S945G3W85WG6E768795849f1F395A5",
    "FQR2FW1Q1M1FY1J3FCK1F8I1JPG4JFK17l1N17l1N18D93A1938496A27h3A7C2R57j1R1C1R5C1R27s1C2R771B",
    "1REB17NR977R177R177R177R177R177R177R177R19W17O94729JA1CAF7H2I5J5K1M3NBRY13QR13v2RC3s6RQ3",
    "CP40u133533101R10q252R206520+251R50e191I1J1R10+2R10G3OB3M57G9KQ2R9P15G0T62R10a1AC615F0S6",
    "2710o15F0C640l1L10t3640Z3620V613sj6MA6W20cjK7M98A8C1G9ILJ5MDN33ja1R33I523G513C51335131R9",
    "Am19i9RK9W1B29IC89SF6G1C1Au2R87N8495829h3B2G1B2C2FCBAC1F3H1J1F2G6J2K6N2K5M4Q5N2Q1N1Q1N5Q",
    "3RKQ1N3M2F1C2B1957i1M1R3AAR68u1R89b2H1R89CR6ASG2J29q2RB91ATR3Ak2R1ABR4A2FVR19t1R99ER29AR",
    "294ASF4AZ2ROA5CNRAB6R2B6R2B6R9B7R1B7R1Fm1G4F2K2M4R4Gm2Ak1R2AAR61azARCANR4An1R41WW20kn6C2",
    "5x1A3R27g3Rc107RC05R5310PR105R101R102R102R10i3BGN1QG0jBNG0W2Q20s1Q7N14W10C5161N25G7AR604",
    "93F7G20L52620AR10JR104R4035101R10d4R201R10+2520+2R306R206R206R203R307R107RA3321036CR16QR",
    "16JR162R16FR26ERY16x3R563R46j1R3697h2F2H2R19CM1R3F1Rl19k1RY49TR39n1RFFSR44VF144R9I34RR5F",
    "h1R56UR1617a1R47ERg14c1624c16m2R26AR6Ha1R4Ha1R4Fe1R8Fq1RBF1NBR1NFR1N7R1N2R1NBR1NFR1N7R1N",
    "2R3Qq1RCFt9R9FMRAF8RON6R1Ng1R1N9Rb266R261R16i1R162R361R261AMR1A9F-1R8F9Rm1GJR1G2R5G58QA2",
    "R3819QR591QQRc1Cu1R4G2C2GGR2Gk174R172R578R173R17RJ2R273R479J1R779R7AW1FW1RW1Fd1R4FCR9As1",
    "R3ATR2ARR5A8FIR7F4RCF7Rm2Af2Rt1Gp1RDGp1R7G6Je1R8JAR6Qc1R3QTR8Q2Rm6AVR1Mg1R1M3R2M2RGQ6R8Q",
    "9RX1Q3O3Je1R8Jg1RMNQRc1MSRKKNR9Bk2R4BUN6R9F1AY2N1RAJ1R2CPR7CAR6Cr1R1CEJ3M1R8Fd1R9Cf2G4F1",
    "M2CAF1G5R1FKRBFIR1Fh1H1O3R+1G7R1G1R1G4R1GFR1GBR6Fx1R5FAR6G1F3R1F8R2F2R2FMR1F7R1F2R1F5R1J",
    "1F9R2F2R2F3R2G1R6F1R5F7R2F7R3F5RBQAR1Q1R2Q1R1Qc1R1QAR1Q1R2Q1R1Q4R1QAR1Q2R8Q2RTHw2M1H1R1H",
    "1J1K1M2RUFe2R8FARc5Fs1R2FIGKRY1Fb2RBFAR6HDRJCu1K1N1R6CAR6QKRSGQJ1R2GFR4GGN7Rv5Jy1Ra3Fp2R",
    "CF1M7R2M1R2M8R1M2R1MUR1M2R2MCR9MARc2K8R2Kk1R2KBRRIe2R8Iq1K2INJ1I5RDNGFv1R7OARs2Q8Ru2QY1R",
    "EQAR6H9R1Hj1R1HERAHTR3HW1R2HMR1HERf2I7R1I2R1Ii1R3I1R1I2R1I9R8IAR6J6R1J2R1Jb1R1J2R1J6R7JA",
    "R6Qi1R4QARs7JPR7OHR1Of1R3OSQ1Rr2M1RFKo1RDK18lRFg1G1Rc38Z3FCR184F1RBGa6Rio2NZ3RDAlX1O1K9O",
    "TRAQxy3R5GdIRvr6Qw1Rcs1BvHR7FVR1FAR4F2Nl2R1NAR6FUR2F6RAFc2RAFAR1F7R1FLR5FJRmDQw1Rc6Jx2R5",
    "QPR2QPRi1Cb2K6R4K1Cl1K9R7CHRW2H1I1K2M1RBM2Q5R9Hj-5J5K6Q8HpNMZFRf1Q1M9QMRX3Qp3Rzl8N4R1N7R",
    "1N2R1B2Iz8N4RFO1RTK3R2O1REK4R8IiCRae2Fh3R5FDR3F9R7FAR2F8Ryw3Qz7R3QqDR6QNRFQHRFNk1R2NNR9N",
    "q3Ry14s7RA4d1R2914q5GBN2RL7c2Rw3OKRCJKRC6t2R98IJ7Rd44r2R14d2R142R241R242R244R14CR141R144",
    "6142R14X2R144R248R147R14SR144R145R141R347R14oA72R24Y982R24o1GiKRFG5R1GFRmY1NVR6O6Rr6H7R1",
    "HHR2H7R1H2R1H5R5O+1RX1O1Rm3Kj1R3KER2KAR4K2RWANVRHKw1R5K1RmEOg1Rs6Qh1R4Q1RW6QVR1QMR8Q2RW7",
    "N7R1N4R1N2R1NFR1Fb6R2FGRf1Hh2K1R4HAR4H2RnOJa2Ri2Kz1RY6C4R1CRR1C2R1C1R2C1R1CAR1C4R1C1R1C1",
    "R6C1R4C1R1C1R1C1R1C3R1C2R1C1R2C1R1C1R1C1R1C1R1C1R1C2R1C1R2C4R1C7R1C4R1C4R1C1R1CAR1CHR5C3",
    "R1C5R1CHRq1C2Rk89i1R49a3RCBFR2BEF1R1BFR1BFFMRAABF2M3AVJ1B1A1BBA1B1A1B2A1B3A1B3A5B8A1B7A1",
    "BAC2K1M3B9A1B1A2B2A1BAA4B2A1BAHIM1Ru1BQA1B2RDAY1B9H1R4A9R7B2REI6Rw4BX1FCG3B6F1Bc2F1G2BKF",
    "CBb1F1B5F4G5FCBHF7G8B-1F1B1F1Bs5F1B4F2G1B+1F2C4F7G5BOFIH1Ff1H1Fs2B5C1BGC1B3C1B1C1B1C1B1C",
    "1B3C1B6C2B4C1B1C2B4C1BCF2G2BBFm1Bc2FAG1H2I2K1M2Q1R3O1N3FDR3F4H3I2J1K1M2R3Bq3O3Q4O5Fr2J4O",
    "1R6KCR4N1RFFCR4Fu1R8FAR6Fe1R8FUR2M2QAR4Q2REQ9Rd1ICM1K3G9H6I1H8I8H1I2HCK1HCI1J3HFIDJ5K1M1",
    "J4M2N1J1K1J4G5HDI6JBM2K6M3K2JAK6G1J2K8M1N1K3INJPKq2Q4R8JER2K4M1O3K3N2R3K3M4O2Q2R3Q2K6MJN",
    "4O3M7N4O3Q1O1M3N3Q1R1Q1R4Q1O2M7N3O2Q1R2Q1N8O1Q2R4Q1N7O2R7Mp4R1Mt1Qb1MAQ1RZW1124tsf1M7N2R",
    "W1ArX4N4O1Q6B+6R2GYq5QCR2Inf7RFPkJRYj24+GRWl112Mhw4R5OWZ4Qgc4Rayo112R+--112R+--112R+--11",
    "2R+--112R+--112R+--112R+--112R+--112R+--112R+--112R141RU4W3RW46m7Rkm-11YWW4"]

/-- The syllables of Hangul that end in a vowel: one in twenty-eight. -/
def openSyllables : CharSet :=
  ⟨(List.range 399).map fun n => (0xAC00 + 28 * n, 0xAC00 + 28 * n)⟩

/-- The characters of a grapheme cluster break class. -/
def graphemeSet? (name : String) : Option CharSet :=
  match name with
  | "lv" => some openSyllables
  | "lvt" => (graphemeBreak.set? name).map (·.diff openSyllables)
  | name => graphemeBreak.set? name

/-- The characters that came with a version or an earlier one. -/
def ageSet? (name : String) : Option CharSet :=
  (age.values.findIdx? fun forms => forms.contains name).map fun i => classSet age.table (· ≤ i)

end Jadn.Unicode
