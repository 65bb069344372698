import Jadn.Unicode.Table

/-!
Scripts of characters, and the scripts that a character is used with.

A script stands for its place in `names`, which lists the long and short forms of each name
in lower case without spaces, hyphens and low lines.
-/

namespace Jadn.Unicode.Script

/-- The names of each script, in the order of the table. -/
def names : List (List String) :=
  [["adlam", "adlm"], ["ahom"], ["anatolianhieroglyphs", "hluw"], ["arabic", "arab"],
    ["armenian", "armn"], ["avestan", "avst"], ["balinese", "bali"], ["bamum", "bamu"],
    ["bassavah", "bass"], ["batak", "batk"], ["bengali", "beng"], ["beriaerfe", "berf"],
    ["bhaiksuki", "bhks"], ["bopomofo", "bopo"], ["brahmi", "brah"], ["braille", "brai"],
    ["buginese", "bugi"], ["buhid", "buhd"], ["canadianaboriginal", "cans"], ["carian", "cari"],
    ["caucasianalbanian", "aghb"], ["chakma", "cakm"], ["cham"], ["cherokee", "cher"],
    ["chorasmian", "chrs"], ["common", "zyyy"], ["coptic", "copt", "qaac"], ["cuneiform",
    "xsux"], ["cypriot", "cprt"], ["cyprominoan", "cpmn"], ["cyrillic", "cyrl"], ["deseret",
    "dsrt"], ["devanagari", "deva"], ["divesakuru", "diak"], ["dogra", "dogr"], ["duployan",
    "dupl"], ["egyptianhieroglyphs", "egyp"], ["elbasan", "elba"], ["elymaic", "elym"],
    ["ethiopic", "ethi"], ["garay", "gara"], ["georgian", "geor"], ["glagolitic", "glag"],
    ["gothic", "goth"], ["grantha", "gran"], ["greek", "grek"], ["gujarati", "gujr"],
    ["gunjalagondi", "gong"], ["gurmukhi", "guru"], ["gurungkhema", "gukh"], ["hani", "han"],
    ["hangul", "hang"], ["hanifirohingya", "rohg"], ["hanunoo", "hano"], ["hatran", "hatr"],
    ["hebrew", "hebr"], ["hiragana", "hira"], ["imperialaramaic", "armi"], ["inherited", "qaai",
    "zinh"], ["inscriptionalpahlavi", "phli"], ["inscriptionalparthian", "prti"], ["javanese",
    "java"], ["kaithi", "kthi"], ["kannada", "knda"], ["katakana", "kana"], ["kawi"],
    ["kayahli", "kali"], ["kharoshthi", "khar"], ["khitansmallscript", "kits"], ["khmer",
    "khmr"], ["khojki", "khoj"], ["khudawadi", "sind"], ["kiratrai", "krai"], ["laoo", "lao"],
    ["latin", "latn"], ["lepcha", "lepc"], ["limbu", "limb"], ["lineara", "lina"], ["linearb",
    "linb"], ["lisu"], ["lycian", "lyci"], ["lydian", "lydi"], ["mahajani", "mahj"], ["makasar",
    "maka"], ["malayalam", "mlym"], ["mandaic", "mand"], ["manichaean", "mani"], ["marchen",
    "marc"], ["masaramgondi", "gonm"], ["medefaidrin", "medf"], ["meeteimayek", "mtei"],
    ["mendekikakui", "mend"], ["meroiticcursive", "merc"], ["meroitichieroglyphs", "mero"],
    ["miao", "plrd"], ["modi"], ["mongolian", "mong"], ["mroo", "mro"], ["multani", "mult"],
    ["myanmar", "mymr"], ["nabataean", "nbat"], ["nagmundari", "nagm"], ["nandinagari", "nand"],
    ["newtailue", "talu"], ["newa"], ["nkoo", "nko"], ["nushu", "nshu"],
    ["nyiakengpuachuehmong", "hmnp"], ["ogham", "ogam"], ["olchiki", "olck"], ["olonal",
    "onao"], ["oldhungarian", "hung"], ["olditalic", "ital"], ["oldnortharabian", "narb"],
    ["oldpermic", "perm"], ["oldpersian", "xpeo"], ["oldsogdian", "sogo"], ["oldsoutharabian",
    "sarb"], ["oldturkic", "orkh"], ["olduyghur", "ougr"], ["oriya", "orya"], ["osage", "osge"],
    ["osmanya", "osma"], ["pahawhhmong", "hmng"], ["palmyrene", "palm"], ["paucinhau", "pauc"],
    ["phagspa", "phag"], ["phoenician", "phnx"], ["psalterpahlavi", "phlp"], ["rejang", "rjng"],
    ["runic", "runr"], ["samaritan", "samr"], ["saurashtra", "saur"], ["sharada", "shrd"],
    ["shavian", "shaw"], ["siddham", "sidd"], ["sidetic", "sidt"], ["signwriting", "sgnw"],
    ["sinhala", "sinh"], ["sogdian", "sogd"], ["sorasompeng", "sora"], ["soyombo", "soyo"],
    ["sundanese", "sund"], ["sunuwar", "sunu"], ["sylotinagri", "sylo"], ["syriac", "syrc"],
    ["tagalog", "tglg"], ["tagbanwa", "tagb"], ["taile", "tale"], ["taitham", "lana"],
    ["taiviet", "tavt"], ["taiyo", "tayo"], ["takri", "takr"], ["tamil", "taml"], ["tangsa",
    "tnsa"], ["tangut", "tang"], ["telugu", "telu"], ["thaana", "thaa"], ["thai"], ["tibetan",
    "tibt"], ["tifinagh", "tfng"], ["tirhuta", "tirh"], ["todhri", "todr"], ["tolongsiki",
    "tols"], ["toto"], ["tulutigalari", "tutg"], ["ugaritic", "ugar"], ["vaii", "vai"],
    ["vithkuqi", "vith"], ["wancho", "wcho"], ["warangciti", "wara"], ["yezidi", "yezi"],
    ["yiii", "yi"], ["zanabazarsquare", "zanb"]]

/-- The runs of characters of one script; the last class is that of no script. -/
def table : List Nat :=
  decode <| String.join [
    "PX2g2QP6g2QPl1g21PFg21P5g2NP1g2VP1g2XEPd1g25P5D2PKw1m3j14P1j13k52j14P1j11k54j11P1j11P1j1",
    "3k51j11k51j1Kk51j1-1QEj1GUb4w12Uf5k514c1k524o1k5243k51t1t1k58t1Rk54t16k5B35P136P13EP133P",
    "13W1P13Aw1B3Qw113i3P13Y1n4Ek51n4y1k52n433m1z4o1k5Ef3x1k52f33Z4k1k52Z4Fk51r2Sk52r21k51n4B",
    "k553Y1k553h2P13TW1n2w14W1FP2W1QA4k51A8k52A2k52AMk51A7k51A1k53A4k52A9k52A2k52A4k58A1k54A2",
    "k51A5k52APk52m13k51m16k54m12k52m1Mk51m17k51m12k51m12k51m12k52m11k51m15k54m12k52m13k53m11",
    "k57m14k51m11k57m1Hk5Ak13k51k19k51k13k51k1Mk51k17k51k12k51k15k52k1Ak51k13k51k13k52k11k5Fk",
    "14k52k1Ck57k17k51u33k51u38k52u32k52u3Mk51u37k51u32k51u35k52u39k52u32k52u33k57u33k54u32k5",
    "1u35k52u3Ik5Av42k51v46k53v43k51v44k53v42k51v41k51v42k53v42k53v43k53v4Ck54v45k53v43k51v44",
    "k52v41k56v41k5Ev4Lk55y4Dk51y43k51y4Nk51y4Gk52y49k51y43k51y44k57y42k51y43k51y42k52y44k52y",
    "4Ak57y49-1Dk51-13k51-1Nk51-1Ak51-15k52-19k51-13k51-14k57-12k55-13k51-14k52-1Ak51-13k5Cq2",
    "Dk51q23k51q2p1k51q23k51q26k54q2Gk52q2Qk51g43k51g4Ik53g4Ok51g49k51g41k52g47k53g41k54g46k5",
    "1g41k51g48k56g4Ak52g43k5C+4w1k54P1+4Sk5b1f22k51f21k51f25k51f2Ok51f21k51f2Nk52f25k51f21k5",
    "1f27k51f2Ak52f24k5W1-4e2k51-4a1k54-4d1k51-4a1k51-4Fk51-47P4-42k5b1Z3W5f1c1k51f11k55f11k5",
    "2f1h1P1f14p1W8d1f2k51d14k52d17k51d11k51d14k52d1f1k51d14k52d1X1k51d14k52d17k51d11k51d14k5",
    "2d1Fk51d1v1k51d14k52d1Z2k52d1W1k53d1Qk56Ns2k52N6k52IWKi3Tk53Y4h2P3Y4Bk57o4Mk59o41r1LP2k5",
    "9HKk5Cp4Dk51p43k51p42k5Cb2+2k52b2Ak56b2Ak56W32P2W31P1W3Kk56W3v2k57W3h1k55Ic2k5Ai2Vk51i2C",
    "k54i2Ck54i21k53i2Cq4Uk52q45k5Bd3i1k54d3Qk56d3Bk53d32b2W1GSk52G2r4-1k51r4Tk52r4Bk56r4Ak56",
    "r4Ek52w1k1k52w1Ck5K6j2k516o1k4W29q1k5894h2u1k53h2Fk53h23j3m1UBk55f1h1k52f13k48k58w13P1w1",
    "DP1w17P4w11P6w11P3w12P1k55g2c1j15U1g2n1j15g24j15g2DU1g2c2j11w1W2g2W8j1Mk52j16k52j1c1k52j",
    "16k52j18k51j11k51j11k51j11k51j1Vk52j1r1k51j1Fk51j1Ek52j16k51j1Jk52j13k51j19k51PCw12Pt2k5",
    "1PBg21k52PBg21PFk51g2Dk53PY1k5Ew1X1k5FPc1j11P3g22P6g21PRg21PHg2f1P3k54PwKk5MPBk5LPWTFW8P",
    "qJk52Pg4g1W3g2W1Qq3k55Q7f1c1k51f11k55f11k52W5u1k57W52k5EW51d1Nk59d17k51d17k51d17k51d17k5",
    "1d17k51d17k51d17k51d17k51UW1P+2k5Y1o1Qk51o1v2k5Co1s6k5QPLo11P1o11PPo19w14p12P8o14P4k51u1",
    "s2k52w12P2u13P1W2w2P2W23k55Dh1k51p1+2k51PGDW1Pc1k59P1W2Gp1Vk51PW2p1VPn2W2l1P1W2u2Pe5o1Wk",
    "6PW2o1WmKi5ja1k53i5t1k59l2m1d5i9k5KUW37u2k58PY1g2c3P3g2o2k5Kg2Fm4j1k53PAk56+3u1k58a4c2k5",
    "8a4Ck56W1W1Y2k1P1Y21X4a1k5BX41p1Tk53z1k2k51P1z1Ak54z12Z3Vk51Mt1k59MEk52MAk52M4Z3W1s4Z2k5",
    "Os45w2Nk5Ad16k52d16k52d16k59d17k51d17k51g2h1P1g29j11g24P2k54Nm2w2k1k52w2Ak56p1azAk5Cp1Nk",
    "54p1n1k5ae8o1kBk52o1g3k5c1g27k5C45k55t1Qk51t15k51t11k51t12k51t12k51t1A3kFP23m4k5W13Gw1GP",
    "Ak56w1EU2PZ1k51PJk51P4k5435k513d4k52P1k51PW1g2QP6g2QPBW2AP1W2j1P2p1Vk53p16k52p16k52p16k5",
    "2p13k53P7k51P7k5AP5k52k2Ck51k2Qk51k2Jk51k22k51k2Fk52k2Ek5Y1k2x3k55P3k54Pj1k53P9j1l2k51PD",
    "k53j11k5l1Pj1w11k5Y4m2Tk53Jn1k5Fw11PRk54m3a1k59m33h1Rk55o3h1k55c5Uk51c51p3a1k54p3Ek5g1Vm",
    "2c4m1w3Uk52w3Ak56v3a1k54v3a1k54b1e1k58Kq1k5BK1e5Bk51e5Fk51e57k51e52k51e5Bk51e5Fk51e57k51",
    "e52k53Y5q1k5Cj2t9k59j2Mk5Aj28k5Og26k51g2g1k51g29k5b2S6k52S1k51Si1k51S2k53S1k52S1v1Mk51v1",
    "9y3W1a3Vk58a39k5m1s1Jk51s12k55s15-3Sk53-31n2Qk55n21e4Qk5c1z2W1y2Ok54y2Kk52y2k1Z24k51Z22k",
    "55Z28k51Z23k51Z2Tk52Z23k54Z2Ak57Z29k57r3W1n3W1k5W1s2d1k54s2Ck595s1k5357y1Mk52y18x1Jk55x1",
    "8W4Ik57W44k5CW47k5m2s3f2k5t1l3p1k5Dl3p1k57l36q1e1k58q1Ak56e1c1k53e1Tk58e12k5m63Vk51h5g1k",
    "51h53k52h52k5G36k5839k5X136q3e1k58h4g1k5Mt3Qk5c1OSk5Kc1Nk59Ek2k54Ea1k59E1+1Z2k5A+11k52i4",
    "Pk57i4Ak56Lr1k51LIk58o2d1k59b4W3k51g4Kk5Bc2Ik51c2l1k5+1Y37k51Y31k51Y34k51Y3Fk51Y3Bk56d2x",
    "1k55d2Ak56i14k51i18k52i12k52i1Mk51i17k51i12k51i15k51w11i19k52i12k52i13k52i11k56i11k55i17",
    "k52i17k53i15k5Bb5Ak51b51k52b51k51b5c1k51b5Ak51b51k52b51k51b54k51b5Ak51b52k58b52k5Te3y2k5",
    "1e35k5UX5e2k58X5Ak5c5d4s1k52d4c1k5Y1-2b2k5B-2Ak56W3Dk5Ju4w1k56u4Ak56Z3Kk5S1Rk521Fk541Nk5",
    "v5Y1y1k5a3g5p2k5Cg51X17k52X11k52X18k51X12k51X1Uk51X12k52X1Ck59X1Ak5c2c38k52c3k1k52c3Bk5R",
    "j5e2k58j4p2k5DIGz3v1k57W1Ak5s2b48k5u2l4Y1k5El4Ak56C9k51Cj1k51CEk5ACTk53t2W1k52t2Mk51t2Ek",
    "5f2u27k51u22k51u2i1k53u21k51u22k51u29k58u2Ak56l16k51l12k51l1b1k51l12k51l16k57l1Ak56Z5i1k",
    "54Z5Ak5s7p2Pk57X2Hk51X2f1k53X2Tk5r2l21k5Fv4o1k5Dv41RwSk5c3Rl3k51R5k5BRa6k5io2TZ3k5Da1sY1",
    "k5Aa1xy3k552dIk5vr6n1w1k5cs17vHk57X3Vk51X3Ak54X32w4l2k51w4Ak568Uk5286k5Ax3c2k5Ax3Ak51x37",
    "k51x3Lk55x3Jk5mDe2w1k5c6v2x2k55BPk52BPk5i1+2h2k54+2v1k57+2Hk5W2x41g31o12a21k5Bo17k59x4Wu",
    "6a2sEk5f1a21x4Vk5X3x4p3k5zl8W24k51W27k51W22k51W21u1-8W23k5Fu11k5Tu13k52W21k5EW24k58g3iCk",
    "5ae2Z1h3k55Z1Dk53Z19k57Z1Ak52Z14P4k5yw3Pz7k53PqDk56PNk5FPHk5Fw1k1k52w1Nk59Pq3k5y1Ps7k5AP",
    "d1k52P+1w13PHw18P2w17PUw14Pz1k5Lj1c2k5w3PKk5CPKk5CPt2k59PPk5d4Pr2k51Pd2k51P2k52P1k52P2k5",
    "2P4k51PCk51P1k51P7k51PX2k51P4k52P8k51P7k51PSk51P4k51P5k51P1k53P7k51PqAk52Pa9k52Po1f4iKk5",
    "Ff45k51f4Fk5mY1g2Vk56g26k5r6g17k51g1Hk52g17k51g12k51g15k55U+1k5X1U1k5m3h3j1k53h3Ek52h3Ak",
    "54h32k5WAa5Vk5Hf5w1k55f51k5mEb3g1k5s6k3h1k54k31k5W6t4Vk51t4Mk58t42k5W7d17k51d14k51d12k51",
    "d1Fk51x2b6k52x2Gk5f10i2k540Ak5402k5nOPa2k5i2Pz1k5Y634k513Rk5132k5131k5231k513Ak5134k5131",
    "k5131k5631k5431k5131k5131k5133k5132k5131k5231k5131k5131k5131k5131k5132k5131k5234k5137k51",
    "34k5134k5131k513Ak513Hk5533k5135k513Hk5q132k5k8Pi1k54Pa3k5CPFk52PFk51PFk51Pb1k5APk5k5u1P",
    "Qu11P2k5DPi1k54P9k57P2k5EP6k5w4PvUk53PHk53PDk53Pw6k56PCk54P1k5FPCk54Pu1k58PAk56Pe1k58PUk",
    "52PCk54P2k5EP9k5d1PuAk58PEk52PDk53PBk53Pv1k51P1k54PGk52PCk54PAk57Pp4k51Pd3k5bW1o1Wtf1k5W",
    "1o1+e4k52o1kq5k52o1nf7k5Fo1kJk5Yj2o1+Gk5Yl1o1hw4k55o1gf8k5dyoLP1k5UPW3k5W4w1m7k5mm-5"]

/-- For each script, the characters used with it whose script is another, and those of the
script that are not used with it. -/
def extensionDifferences : List String :=
  ["-m10W10km60nl30", "", "", "im10E030W10AAQ0+k60nl30ytp11Wj1R", "eO0", "t50uhB1", "", "",
    "", "", "yL0qq11H1gx401021108080204022v-Y10", "", "", "dM012D0dfB2491CA32060Z60fgp11w84",
    "", "", "lkg10", "rv51", "", "t50Yz7020pk30", "aO0i10i10", "cl29mo19", "", "WO21061M1B1",
    "",
    String.join [
      "t50aG0A012109010w40tK0E030W10ZP1ry10ll12d21h6110jc10D073151220qP0V0A020vj30O1A04010iDF",
      "1220191CG51043x2130w21p4FW1b190m1d1u1m1FBp10u2OA4W3UXuS7e99q70W50kxK1b81w84A0j11WB24i1",
      "38XDQajk13yr5H+s71"],
    "t50eI03110i31XrA0ecr1R", "", "WeW224i138", "WeW21", "yL0Z221010102050pB1nh60gY40", "",
    "yL0qq11H1gx4c111sV0-vX19", "", "ah2BWsd19", "t50lI110O1tuA0ZpZ33", "", "t50jI0", "",
    "kO0", "im10E030", "t50nc10nx20+w30sk30", "t50hI010+B020X80nx20+w30el30hXU0",
    "t50iI120e10", "ng21H1WKDyc4011U231sV0goy10qa3110", "t50eI1201010A0k1020k10ho61xK0",
    "ng21H1gsd19", "t50ib21", "ng21H1gsd19", "bh20",
    "t50uvBF1220191CA3206043x50q4FW1b190m1d1u1m1FBp10u2OA4W3UXuS7zvL1w84w-q1H+s71",
    "XWC2491CG060Z60fgp11w84", "im10E030W10p40", "rv51", "", "dO1",
    "XWC2491CG51041x2330w21egp11w84A0j11", "",
    "WOE1110F27111G020I0504Cr81aEAQ0WN1zx421C16406031c61s1010rN0vv33h31boq10wY40", "", "",
    "lkg10", "ch29Xc90+lU9", "ng21H1gx401160N010xvY15",
    "bO0T0zcB2491CG51041x2330w21egp11w84A0j11", "", "kfg10", "", "", "", "ct29Wgd19",
    "ah21gsd19", "", "",
    "t50aG0A012109010c1E1110F27111c10504Cr81gc11ez10yd30sH0W60cf30edU7cH0", "", "bh20",
    "deW2i1", "WeW224i138", "yL0G0yfB1", "wY80", "t50vhB0", "t50ib2BWsd19", "",
    "ng21H1qx40N0zvY12", "Wo10", "Wo10", "", "ah21", "", "", "", "", "zY80", "", "mXg19",
    "YW6110fX20n+3153", "", "cp29", "kfg10", "", "", "ng20I1WS9v-308070rvY15", "",
    "ng21Yy401190601010", "im10E030+uz11", "", "", "", "", "ah21", "wY8020pk30F0", "", "",
    "t50eI052A0lB0", "", "", "", "wY80rk30", "Wo10nbX20", "ng21H1qx40N0", "XO02060i20", "", "",
    "", "", "YW6110fX20o+30", "", "Wo10", "", "ht52", "nnB0", "", "ng20by401021209020YwY1520",
    "t50", "", "", "", "ah21iy40", "Wo10", "", "", "", "WO1109020S030", "ah21W49",
    "ZO12110O27111wM0E120W10AAQ0dy5010", "rv51", "rv51", "WO15130pf39", "", "", "",
    "ah21gsd19", "ng21H1qx40uWZ10jmQ010t11", "", "m-BFlF0", "ng21H1lx411010N0",
    "im10E120W29eyz10A0", "yL0Q0h10j10", "eWC3", "YO01013P0", "ng21H1lx40C0F0zvY19",
    "XO020209010g20", "", "yL0", "cd39YW4010xvY15x50", "", "", "", "", "", "im10E030W29",
    "XWC15927-60bpp14", ""]

/-- The place of the script with the given name. -/
def index? (name : String) : Option Nat :=
  names.findIdx? fun forms => forms.contains name

/-- The characters of a script. -/
def set? (name : String) : Option CharSet :=
  (index? name).map fun i => classSet table (· == i)

/-- The characters used with a script. -/
def extensionSet? (name : String) : Option CharSet := do
  let i ← index? name
  let differences ← extensionDifferences[i]?
  return (classSet table (· == i)).symmDiff (charSet differences)

end Jadn.Unicode.Script
