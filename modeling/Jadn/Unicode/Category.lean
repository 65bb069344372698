import Jadn.Unicode.Table

/-!
General categories of characters, and the sets that their names denote.

Names are given in lower case without spaces, hyphens and low lines. A name of a group, such
as `letter`, denotes all of its categories.
-/

namespace Jadn.Unicode

inductive Category where
  | uppercaseLetter
  | lowercaseLetter
  | titlecaseLetter
  | modifierLetter
  | otherLetter
  | nonspacingMark
  | spacingMark
  | enclosingMark
  | decimalNumber
  | letterNumber
  | otherNumber
  | connectorPunctuation
  | dashPunctuation
  | openPunctuation
  | closePunctuation
  | initialPunctuation
  | finalPunctuation
  | otherPunctuation
  | mathSymbol
  | currencySymbol
  | modifierSymbol
  | otherSymbol
  | spaceSeparator
  | lineSeparator
  | paragraphSeparator
  | control
  | format
  | surrogate
  | privateUse
  | unassigned
  deriving DecidableEq, Inhabited

namespace Category

def all : List Category :=
  [uppercaseLetter, lowercaseLetter, titlecaseLetter, modifierLetter, otherLetter,
    nonspacingMark, spacingMark, enclosingMark, decimalNumber, letterNumber, otherNumber,
    connectorPunctuation, dashPunctuation, openPunctuation, closePunctuation,
    initialPunctuation, finalPunctuation, otherPunctuation, mathSymbol, currencySymbol,
    modifierSymbol, otherSymbol, spaceSeparator, lineSeparator, paragraphSeparator, control,
    format, surrogate, privateUse, unassigned]

/-- The place of a category in `all`, which stands for it in the table. -/
def index (c : Category) : Nat := all.idxOf c

/-- The runs of characters of one category, from the first code point to the last. -/
def table : List Nat :=
  decode <| String.join [
    "PW1M1H3J1H3D1E1H1I1H1C1H28AH2I3H20QD1H1E1K1B1K11QD1I1E1I1PX1M1H1J4L1H1K1L141F1I1Q1L1K1L1",
    "I1A2K111H2K1A141G1A3H10NI1071OI118011101110111011101110111011101110111011101110111011101",
    "1101110111011101110111011101110111011101110111011101110112011101110111011101110111011101",
    "1201110111011101110111011101110111011101110111011101110111011101110111011101110111011101",
    "1101110211011101130211011102110312041102110313021102110111011102110112011102110311011102",
    "1241011344012111012111012111011101110111011101110111011101120111011101110111011101110111",
    "0111011201211101110311011101110111011101110111011101110111011101110111011101110111011101",
    "110111011101110111011101110111011101110111011101170211021201110411011101110111011b2421Q3",
    "IK43CKE35K731K131KH5m30111011131K10111T23113H101T4K201H103T101T102110HT1091Z101120313011",
    "1011101110111011101110111011101110111011101150111I1011102120p11m101110111011101110111011",
    "101110111011101110111011101110111011101110111L155720111011101110111011101110111011101110",
    "1110111011101110111011101110111011101110111011101110111011101110111011102110111011101110",
    "1110111011201110111011101110111011101110111011101110111011101110111011101110111011101110",
    "1110111011101110111011101110111011101110111011101110111011101110111011101110111011101110",
    "111011101110111011101110111T10c1T231H61f1H1C1T2L2J1T15j1C151H152H152H151T84RT444H2TBQ6I3",
    "H2J1H2L25BH1Q1H34W1314A5L8AH442514Z3H14157Q1L1563252L154428A43L241HET1Q141514U5RT24v25B4",
    "1TE8A4X15932L1H331T251J24M54315931533155T2HFT14P53T2H1T14BT54OK147Q2T5594f1315OQ15W1614s",
    "151615141635864516241574A52H28AH1314F5162T148T242T24MT147T141T344T251416354T262T2625141T",
    "861T442T14352T28A42J2A6L1J141H151T25261T146T442T24MT147T142T142T142T251T16352T452T253T35",
    "1T744T141T78A524351H1TA5261T149T143T14MT147T142T145T251416355T15261T16251T241TF4252T28AH",
    "1J1T74156T15162T148T242T24MT147T142T145T2514161516154T262T26251T75261T442T14352T28AL141A",
    "6TA5141T146T343T144T342T141T142T342T343T34CT4625162T363T16351T241T661TE8AA3L6J1L1T551635",
    "148T143T14NT14GT251415364T153T154T752T143T142T24252T28AT7H1A7L1415162H148T143T14NT14AT14",
    "5T25141615165T15162T16252T762T543T14252T28AT14261TC526249T143T14f152416354T163T1635141L1",
    "T44361A74352T28AA9L146T15162T14IT34OT149T141T247T351T46353T151T168T68AT262H1TC4m1514257T",
    "4J1463158H18AH2Tb142T141T145T14OT141T14A51425941T245T131T157T18AT244TW141L3HFL1H1L352L68",
    "AAAL151L151L151D1E1D1E16248T14a1T45E6155H152455BT15a1T1L851L6T1L2H5L4H2Tb14h162546156615",
    "26252418AH646625244534163426743544D516252665141618A6351L20c1T101T501T21h1H131134fAT144T2",
    "47T141T144T24f1T144T24X1T144T247T141T144T24FT14v1T144T24Z2T253H9AKT34GLAT60s2T216T2C14iJ",
    "L1H14HM14QD1E1T34h2H39348T74I5361T94J5261H2T94I52TC4DT143T152TC4q15261576851625BH331H3J1",
    "4151T28AT6AAT6H6C1H453Q1518AT64Z1314r1T745524Y15141T54c2TA4VT153645263T462516653T4L1T3H2",
    "8A4UT245TB4i1T44QT68AA1T3LY14N526251T2H24r161516157T15161516258665AT2518AT68AT6H731H6T25",
    "E715VT25CTK54614l1516155615165516248T1H28AH7LA59L9H352614U615462526153428A4i151615263516",
    "15362T8H44a168586252T3H58AT3438A4U36H2190111T50h1T203H8T853H15D61574451465142615241T51i1",
    "3-11D311Y13b15W2011101110111011101110111011101110111011101110111011101110111011101110111",
    "0111011101110111011101110111011101110111011101110111011101110111011101110111011101110111",
    "0111011101110111011101110111011101110111011101110111011101110111011101110111011101110111",
    "0111011101110111011101110111011101110111011101110119011101110111011101110111011101110111",
    "0111011101110111011101110111011101110111011101110111011101110111011101110111011101110111",
    "0111011101110111011101110111011101110111011101110111011101110111011101190816T206T2180818",
    "0816T206T218T101T101T101T10118081ET218281828182815T1120421K111K313T1120421K314T21204T1K3",
    "1805K3T213T1120421K2T1MBQ5C6H2F1G1D1F2G1D1F1H8N1O1Q5M1H9F1G1H4B2H3I1D1E1HBI1H1B1HAM1Q5T1",
    "QAA131T2A6I3D1E131AAI3D1E1T13DT3JY1TE5D7451735CTFL201L401L21103120311L101L2I105L601L101L",
    "101L104L11104114411L21202I50114L1I1L211L1AG9Z1011194A1L2T4I5L5I2L4I1L2I1L2I1L7I1LVI2L2I1",
    "L1I1LVIi8L8D1E1D1E1LKI2L7D1E1Ln2I1LUIPLe1I6Le2TMLBTLAy1Lk2AMLt5I1L9I1Ls1I8Ll3I1Lu7D1E1D1",
    "E1D1E1D1E1D1E1D1E1D1E1AULi1I5D1E1IVD1E1D1E1D1E1D1E1D1E1IGLW8IZ4D1E1D1E1D1E1D1E1D1E1D1E1D",
    "1E1D1E1D1E1D1E1D1E1I-1D1E1D1E1IW1D1E1IY8Lm1ILL2I6Ld1T2Lg40m11m10111031201110111011104110",
    "1120116320311011101110111011101110111011101110111011101110111011101110111011101110111011",
    "1011101110111011101110111011101110111011101110111011101110111011101110111011101110111011",
    "101110111011101110111011101110112L601110111530111T5H4A1H21c1T111T511T24u1T731H1TE514NT94",
    "7T147T147T147T147T147T147T147T15W1H2F1G1F1G1H3F1G1H1F1G1H9C1H2C1H1F1G1H2F1G1D1E1D1E1D1E1",
    "D1E1H531HAC2H4C1H1D1HDL2H3D1E1D1E1D1E1D1E1C1TY1LQT1Lv2TCLs6TQLGM1H3L1314191D1E1D1E1D1E1D",
    "1E1D1E1L2D1E1D1E1D1E1D1E1C1D1E2L1995462C135L2933141H1L2T14s2T252K23241C14w2H13341T54h1T1",
    "4+2T1L2A4LA4W1Lc1T9L14GLVT1AALUA8L1AFLW1AALd1AFLWA4Wk6LW24rmK314tZ1T3Lt1T94e136H24i831H3",
    "4G8A42TK01110111011101110111011101110111011101110111011101110111011101110111011101110111",
    "011101110111415173H15AH1310111011101110111011101110111011101110111011101110111011132524c",
    "29A52H6T8KN39K20111011101110111011101110113011101110111011101110111011101110111011101110",
    "1110111011101110111011101110111011101110111011101110111011101110111011101110111311801110",
    "1110211011101110111011131K20111011141011101130111011101110111011101110111011101110111051",
    "105110111011101110111011101110111041101110211011101110111011101110111011101TK34011141321",
    "14751435144514N625261L451T3A6L2J1L1T64q1H4T8624o16G52T8H28AT65I46H341H142518A4S58H24N5B6",
    "2TBH14TT353614l1516254625263HDT1318AT4H2455131498A45T14f15662526252T94351485161T28AT2H44",
    "G3146L3416151614o151415342524552415141TO4231H24B615262H241326151TA46T246T246T947T147T11h",
    "1K1341931K2T41m24Z16251625162H16151T28AT64azATC4NT44n1T4RWW2SWe64kBT24g3Tc117TC15T541514",
    "AI14DT145T141T142T142T14i3KHLG4hBE1D1LG4W2L24s1L8TW14CJ1L35GH7D1E1H1T65GH1C2B2D1E1D1E1D1",
    "E1D1E1D1E1D1E1D1E1D1E1H2D1E1H4B3H3T1H4C1D1E1D1E1D1E1H3I1C1I3T1H1J1H2T445T14d4T2Q1T1H3J1H",
    "3D1E1H1I1H1C1H28AH2I3H20QD1H1E1K1B1K11QD1I1E1I1D1E1H1D1E1H24A314j1324VT346T246T246T243T3",
    "J2I1K1L1J2T1L1I4L2TAQ3L2T24CT14QT14JT142T14FT24ETY14x3T5H3T4Aj1T3L99r1A4LHA2L3T1LDT3L1Tl",
    "1Lj151TY44TT34n1TF51ART44W1A4T94K914891T54c155T54UT1H14a1T448H195Tg10e11e14k2T28AT60a1T4",
    "1a1T44e1T84q1TBH10BT10FT107T102T11BT11FT117T112T34q1TC4t9T94MTA48TO36T13g1T139Tb246T241T",
    "14i1T142T341T24NT1H1A84NL2A74VT8A9Tm14JT142T5A54MA6T3H14QT5H14QTc14u1T4A242AGT2Ak14153T1",
    "52T55444T143T14TT253T451A9T7H9T74TA2H14TA3TW148L14S52T4A5H7T94s1T3H74MT2A84JT5A84IT7H4TC",
    "A7Tm24f2Tt10p1TD1p1T7A64a154T88AT68A4431410MT355C1311MT8I2Tm6AVT14g1T152C1T242TG433142T8",
    "H1L8TX1564TAA41T84M5BA4H5TM4I54H4Tc14LA7TK4NT96151614r15FH7T4AK8A51425241T953614j1635462",
    "52H2Q1H451TAQ1T24PT78AT6534a1556158T18AH4416241T84Z151H241T952614m163596244H454H161518A4",
    "1H141H3T1AKTB4IT14P635362516152H6514251T+147T141T144T14FT14AH1T64l1516358T58AT65262T148T",
    "242T24MT147T142T145T15241625164T262T263T241T661T54562T257T355TB4AT141T241T14c1T1416356T1",
    "61T261T164T162516151415141H2T1H2T852TT4r163586253615144H58AH2T1H15143TU4m163566151645261",
    "5242H141T88ATc54l16354T264526152HN4452TY14m1635862516152H341TB8AT6HDTJ4h1516151625661514",
    "1H1T68AT68KTS4RT251615162546155T48AA2H3L147Tv54i163596152H1Ta30W11W18AA9TC48T241T248T142",
    "T14O66T162T25261514161416151H3T98ATc248T24d16354T252645141H14161TR415A4e156614154H851T84",
    "15662534k15D6152H341H5TD4f2T7HATs2516153615161Tu24X1H1TE8AT649T14b16157T156615141H5TA8AA",
    "JT3H24UT25MT1615761526152Tf247T142T14c156T351T152T1574151T88AT646T142T14W165T152T1625161",
    "5141T78AT64f13142T48ATs74J5262H2T75241614DT14Y16255T362516151HD8A51Tr241TFALL8J4LHTDH14w",
    "STc39l3T1H5TB4a6Tio24X3H2TD4mX1QG51465FTA4xy3T54dITvr64U5C63538ATcs14vHT74VT18AT4H24l2T1",
    "8AT64UT255H1TA4m157H5L434H1L1TA8AT1A7T14LT54JTmD334e132H38ATc60W11W1ANH4T50PT21PTi14h2T4",
    "51416t1T7543DTW232H13151TB623293T94sc7Tf14W1TX34p3Tzl834T137T132T14Z9TF41TT43T241TE44T84",
    "iCTae24h3T54DT349T74AT2L152H1Q4Tyw3Lm78AL3T3LqDT6LNTFLGI1TF5k1T25NT9Lq3Ty1Ls7TALd1T2Ly16",
    "253L366Q858L257LU54Lz1TLLY253L1Tw3AKTCAKTCLt2T9APTd40Q1Q0Q17T11I0Q1Q01T102T201T202T204T1",
    "0814T111T117T11B0Q1Q02T104T208T107T11Q02T104T105T101T307T11Q0Q1Q0Q1Q0Q1Q0Q1Q0Q1Q0Q1ST20P",
    "I11PI1160PI11PI1160PI11PI1160PI11PI1160PI11PI1160111T28o1LWG5t1L45o1L851LE51L2H5TF55T15F",
    "TmY11A411KT616Tr657T15HT257T152T155T53+1TX151Tm34j1T35737T28AT441L1TWA4U51TH4i1548AT5J1T",
    "mE4R31548ATs64U52418AT4H1TW64VT14351425147524551T84131TW747T144T142T14FT14b6T2A957Tf10Y1",
    "1Y15731T48AT4H2TnOAx1L1A3J1A4Ti2Aj1L1AFTY644T14RT142T141T241T14AT144T141T141T641T441T141",
    "T141T143T142T141T241T141T141T141T141T142T141T244T147T144T144T141T14AT14HT543T145T14HTq1I",
    "2Tk8Li1T4La3TCLFT2LFT1LFT1Lb1TAADLX5Tu1LTTDLi1T4L9T7L2TEL6Tw4Lx7K5LvMT3LHT3LDT3Lw6T6LCT4",
    "L1TFLCT4Lu1T8LAT6Le1T8LUT2LCT4L2TEI9Td1LuAT8LET2LDT3LBT3Lv1T1L1T4LGT2LCT4LAT7Lp4T1Ly28AL",
    "1TbW14Wtf1TW14+e4T24kq5T24nf7TF4kJTYj24+GTYl14hw4T54gf8TdyoLQ1TUQW3TW45m7Tmm-1S+--1T2S+-",
    "-1T2"]

/-- The characters of some categories. -/
def set (categories : List Category) : CharSet :=
  let wanted := categories.map index
  classSet table fun n => wanted.contains n

end Category

section Groups
open Category

def Category.other : List Category :=
  [control, format, surrogate, privateUse, unassigned]

def Category.letter : List Category :=
  [uppercaseLetter, lowercaseLetter, titlecaseLetter, modifierLetter, otherLetter]

def Category.casedLetter : List Category :=
  [uppercaseLetter, lowercaseLetter, titlecaseLetter]

def Category.mark : List Category :=
  [nonspacingMark, spacingMark, enclosingMark]

def Category.number : List Category :=
  [decimalNumber, letterNumber, otherNumber]

def Category.punctuation : List Category :=
  [connectorPunctuation, dashPunctuation, openPunctuation, closePunctuation,
    initialPunctuation, finalPunctuation, otherPunctuation]

def Category.symbol : List Category :=
  [mathSymbol, currencySymbol, modifierSymbol, otherSymbol]

def Category.separator : List Category :=
  [spaceSeparator, lineSeparator, paragraphSeparator]

/-- The categories that a name denotes. Surrogates have no name, for no character is one. -/
def categories? (name : String) : Option (List Category) :=
  match name with
  | "c" | "other" => some other
  | "cc" | "cntrl" | "control" => some [control]
  | "cf" | "format" => some [format]
  | "cn" | "unassigned" => some [unassigned]
  | "co" | "privateuse" => some [privateUse]
  | "l" | "letter" => some letter
  | "casedletter" | "lc" => some casedLetter
  | "ll" | "lowercaseletter" => some [lowercaseLetter]
  | "lm" | "modifierletter" => some [modifierLetter]
  | "lo" | "otherletter" => some [otherLetter]
  | "lt" | "titlecaseletter" => some [titlecaseLetter]
  | "lu" | "uppercaseletter" => some [uppercaseLetter]
  | "combiningmark" | "m" | "mark" => some mark
  | "mc" | "spacingmark" => some [spacingMark]
  | "enclosingmark" | "me" => some [enclosingMark]
  | "mn" | "nonspacingmark" => some [nonspacingMark]
  | "n" | "number" => some number
  | "decimalnumber" | "digit" | "nd" => some [decimalNumber]
  | "letternumber" | "nl" => some [letterNumber]
  | "no" | "othernumber" => some [otherNumber]
  | "p" | "punct" | "punctuation" => some punctuation
  | "connectorpunctuation" | "pc" => some [connectorPunctuation]
  | "dashpunctuation" | "pd" => some [dashPunctuation]
  | "closepunctuation" | "pe" => some [closePunctuation]
  | "finalpunctuation" | "pf" => some [finalPunctuation]
  | "initialpunctuation" | "pi" => some [initialPunctuation]
  | "otherpunctuation" | "po" => some [otherPunctuation]
  | "openpunctuation" | "ps" => some [openPunctuation]
  | "s" | "symbol" => some symbol
  | "currencysymbol" | "sc" => some [currencySymbol]
  | "modifiersymbol" | "sk" => some [modifierSymbol]
  | "mathsymbol" | "sm" => some [mathSymbol]
  | "othersymbol" | "so" => some [otherSymbol]
  | "separator" | "z" => some separator
  | "lineseparator" | "zl" => some [lineSeparator]
  | "paragraphseparator" | "zp" => some [paragraphSeparator]
  | "spaceseparator" | "zs" => some [spaceSeparator]
  | _ => none

end Groups

end Jadn.Unicode
