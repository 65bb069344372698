import Jadn.Unicode.Table

/-!
Writing directions of characters and how characters join their neighbours in cursive scripts.
-/

namespace Jadn.Unicode

/-- The classes of direction that rules about domain names tell apart. -/
inductive Direction where
  | left
  | right
  | arabicLetter
  | arabicNumber
  | europeanNumber
  | nonspacing
  | neutral
  /-- Separators and marks of embedding. -/
  | other
  deriving DecidableEq, Inhabited

def directionRuns : List (Nat × Nat × Nat) :=
  runsFrom 0 <| decode <| String.join [
    "69756E756F4A670Q660Q6A716a10167426101634101650N610V610XE62076E026E0569016H5m304620861056",
    "201610k3610i4570W8675j111511152115211591m136622162216121625B2m15L3A613223512b35731615622",
    "526154224A2N512U5T2v25B2F1h159126413511O541159115311571f155122m137592g15O315W10t15101510",
    "458045103570A520T510w151045606510K540C62076102550v152035O0N5203510B520v151045804530I540B",
    "6801580w15102510156065A0B540S510z1510C530Z16D5103510t1510153055I0A540I6702510w1510F590D5",
    "40Q520v152045507510K540R510e25503560v251025B6107580Y35102590B580e2520R5101510151640p15E0",
    "1550152055n108510c3540156015202520P5204530G540D51025206510F510-L530m16G0W3610-J710Q650o3",
    "530T520U5E0I5E0q15201570851025B076101530G6R5361510r3520Y1510s353045209510657660u46Y10N52",
    "02530u151015901510258065D0m15q20m1510155015105510B620R590B61520W154025201530u15101520351",
    "01530w15802550r453015D01570451065103520c65W20zD6101630B630D630D650B637B6301116O776m17166",
    "746641034665014A660G6m15m162016401620A610163056601610161016104610B6204650564026G0f16jD0b",
    "26Q016o74K0k26YE016pA0W86WO0b766045307670-3510W35W16WG7164036P09540261056205640u25262036",
    "10w2610a66m10j1630m16G0S630o16F0C640d5640Z3620V610Wk66W20mqL6W20z9630-254615A620U520m252",
    "0E6Y10c3610v351035104510P5201645408680q16C0a25A0I5I0D510c1580P5B0k1530m151025402520d1510",
    "Z2560252025B035108510l1510p15101530252055201510g152085B0f3660r351025104530jvJ11511A611c1",
    "2p36G2hB6I2W2622s16e12D635G6G5G6W22l46H4A670Q660Q6B0w36W10X8610+16j2036W20j15Z40W3514V0s",
    "35A0Wa11-8611X75F1e1581b5561k2671WE2a15C3G1f1551o73W11h1521L2u1561m12M5B2V1I541w301510s1",
    "5F0B6K0A5102520A530n1540252075B0p1530a15501590z1510C520q1590A5402510-253025101520651025-",
    "10-251035D0G520v15203510b15Q0x1570C5101510151016D5V0u158025301510N510q2560151045201520k7",
    "56045201520R5a10p158025101520V6W10h1510151025601510b353025401590-75901520W852015104510m4",
    "5804510W15602520e15602540859015602530k15D01520c651015301510w36F0W25E0q25N01570152015h20n",
    "15L01590W253025101510xA520B520q158025101510N5s20b16g10XY551065P0+bB5C03530Wk2550x1570sH6",
    "30-E510-1540l261015C0jbJ52016mY40A6cG5m20tG5309685802570U540x16v2536x30W26W30xR610v1610v",
    "1610v1610v1610A4o10WG5t1045o108510E510M5bZ10W85m10-25n30m1570tB5I0i1540F6nE0S540+7520F6X",
    "60Z1510251075205590Y81m65m11a2571cP2-J6mG4B650V610w1660z16v10w36mi24A6cW10XWWO6-75Wu-10W",
    "WW4"]

def direction (c : Char) : Direction :=
  match classIn directionRuns c with
  | 0 => .left
  | 1 => .right
  | 2 => .arabicLetter
  | 3 => .arabicNumber
  | 4 => .europeanNumber
  | 5 => .nonspacing
  | 6 => .neutral
  | _ => .other

/-- How a character joins its neighbours. -/
inductive Joining where
  | none
  | left
  | right
  | dual
  /-- The neighbours join across it. -/
  | transparent
  | causing
  deriving DecidableEq, Inhabited

def joiningRuns : List (Nat × Nat × Nat) :=
  runsFrom 0 <| decode <| String.join [
    "0j5410oI4m30p8470d84j101410142014201410e24B0141033101243121312135243D513721324L0E3241230",
    "1233G2I3c1213229312131213222012147024602420144220A3302310F412141332534213921312131213221",
    "4R02213B233F22342131223322360c14B0P3X149065102410O440149014301450I21352231213A2131234304",
    "31013401213122052J53310235213107493A230121322236213F014O014W10t14101410448044103470A420T",
    "410w141044408410K420Q4102420v14104420442024303410U4203410B420v1410445014204410K420M46014",
    "10w14102410144084107420B420U410z1410C410o14103410t14101430543014407420B420T410w141024106",
    "4105420K420S420v142044408410K420T410e241074301410w24102470C480Y34102490B470f2420R4101410",
    "1410t14E01450142054B014a109410c3440146014202420P4204430G440D41024206410F410-L430oT430T42",
    "0U420U420W24201470841024B09410f13102514301410G3v20C423Y141310r3430442094106430x64202410w",
    "1410147014101410248064A02410m14k1024C0K440m1410145014105410e1490C420W144024201430u141014",
    "2034101430w14802420u443014D01470441064103420c64W20hG410151420Q450n14505460W34X10+-2430j4",
    "410W34W10gH440h3420qkT44014A0W1420m2420m841034104410P4205410J3o1110n2420Q4I0D410c1480P4B",
    "0k1430m141024402420d1410Z246024202420C4108410l1410p14101430242054201410g14208410k7410241",
    "04410mvJ410XN4G0G4G0l6410v7430XG410Y7410r4450cq143014205440e14304410W4352101210122021125",
    "3411352133210221420434210m43121312333213221312231210N24320nA113X12131440X2450z9420L21320",
    "1320o1460m133213H014B33210R34223C440g13101322301312232213201312231042131110r1410s14F0f14",
    "102420A430n144024207410z1430a14501480+1410C420q1490A4402410-24302410142064102410z4410348",
    "0L420v14203410b14703450c2460D41014101410E420r248024301410N410q2460141044201420k744064201",
    "420R420r248024101420g3410141024601410b3410141024401450Z84901420W842014104410m44402420441",
    "0W14A0e14602440841094602430k14D01420c641014301410f647014601410o24M0247014201420w34603410",
    "142014701410e242034101410xA420B420q145054101410N410rc54H064F0ecB4C03430Wk2450x1470uW1410",
    "-1440n2410ubJ4201440yo44k1024N0WH43094G02470U440q4430xz14t1044o108410E410M45014F0mg14701",
    "4H0247014201450a3410W5470tB410z1440yF440+7420p7410241074205410wE470f13a2480rrbO410U4W30W",
    "44m70mm-5"]

def joining (c : Char) : Joining :=
  match classIn joiningRuns c with
  | 1 => .left
  | 2 => .right
  | 3 => .dual
  | 4 => .transparent
  | 5 => .causing
  | _ => .none

end Jadn.Unicode
