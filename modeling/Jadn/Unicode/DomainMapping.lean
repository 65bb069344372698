import Jadn.Unicode.Table

/-!
How the characters of internationalized domain names are read: as they are, as other
characters, as nothing, or not at all.
-/

namespace Jadn.Unicode

def domainRefused : CharSet := charSet <| String.join [
    "W4VuM1637010K0jC0c11o1130t17R36GM0W60m11x11b3Dx11n11F0S110B4W16h20X508121M07012419121471",
    "32051P1306321M07020202110532132164016H9309030M0702051A030311E41C670308121M07020519121363",
    "32051I9206230422010222232C3523041151DL4D030N0G190304620302141A6M030N0A051903046243041A03",
    "BD030p103063G1Q030I2O090117213601085A13Bw13Ta1201050O010N1501070A14Ve20a13d10a10F0Da1c60",
    "1411vB041701041f1041X1041701041F0v1041Z21W12Q5s2161WK0S2v26M8O8KBD0302B+21A5A5Q5v26h14c2",
    "9V0C3C312g115Ai13Q5B2+11X20T1B5A5E1k11CJj20c57y12F2+14h11B7h14sG161c116180101010V1r10F0E",
    "160J13090E1K216s1481R0D2Y1DX1Ei43wKLBKe1Jus11+B4j101411u162DO87070707070707070+3X1Q0v2Bs",
    "6f1W20s21d34h10+20s29l10YD040G0qbS2t18yAJu57z6Jy12A5u17c27C5q3AU2k20B3X10t18E1A1d3NS9616",
    "1687070y13+31A5azABN3n1Ze8kB1g3b17B54Q050102020gKVY1066G0X11J04350d4110+5261616132707GC0",
    "Q0J020F1EX1x3433j12u20D21k1k1X4T2n1ES3a18U4h14U0b13Ef1+41A5a13a13e17q1AC0F07020B0F07022q",
    "1Bt98M98N60g109a26110i102211N0e279l1J024X12R4Rb1u13K1o10248030T133A696W2Vd13C8s12T1R4Q64",
    "B7l2f2s1p1Cp16k17A5c12T72l6V0g10312F679W1k17g1LQb1SJN8k23a18+105CP6A5r10I7d18W30KAI0l1z1",
    "701040F0B5x14A5408121M0702050A12131151471725AA01110c10A0111040A0272Sy205Te27Ab5s11c1X1b2",
    "AA5DIw15A5KRR1F3Nu5y1Z3p2B81118020U021C8Ab281k11BQe27p2Cf26Ar28t2Y1DA590j10E9T2W11M0Ee27",
    "020i12102097A56020b102066A5i13Ar7P6H0f12Tq21Eo1CxSb3l305Aa6ho2Z3CmX1FM9xy34dIur6w1bs1vH6",
    "V0A3n20A5U169c29A070L4JlDw1b6x24P1Ph1h23v16H-15A78sc7e1W1W3p3yl8407020Z9E1S311D47iCZe2h3",
    "4D296A18xw3z72qD5NEHEk11N8q3x1s79d11Y6Kc2v3KBKBt28Pc4r20d2021112140C01070X20418070S04050",
    "1270qA1a91+LE50FlY1V56q670H1702054+1W11l3j12E1A32-9VGw141lEg1r6h131-5V0M72-6704020F0b61G",
    "e1i23A32mOa2h2z1X640R0201110A040101513101010302011101010101020114070404010A0H43050Hp12j8",
    "i13a3BF1F0F0b1Aj5t1TCi13962D6v4vU2H2D2w65C31EC3u17A5e17U1C32D9c1uA7E1D2B2v1013G1C3A6p40d",
    "3aW1Wtf1V+e41kq51nf7EkJXj2+GXl1hw44gf8bapLm7lm-5"]

def domainIgnored : CharSet := charSet <| String.join [
    "j50XL0lm31po11r24x-10q2455qd40xap1Fl70W50-dl13lc57byhOl7"]

def domainReplacements : List (Nat × Bool × List Char) :=
  let numbers := decode <| String.join [
      "X21X301Y301Z301a301b301c301d301e301f301g301h301i301j301k301l301m301n301o301p301q301r301s",
      "301t301u301v301w3b21W172W1eO11X342W1aO21o101p102W1XO01yT22W1dP01n101l313n1aY8q103n1aY8o1",
      "03p1aY8q111W701X701Y701Z701a701b701c701d701e701f701g701h701i701j701k701l701m701n701o701p",
      "701q701r701s711u701v701w701x701y701z701+7X11X811Z811b811d811f811h811j811l811n811p811r811",
      "t811v811x811z811-811X911Z911b911d911f911h911j911l912f3dO12f3g302f3g301r911t921w911y911+9",
      "12i3t502i3t501YA11aA11cA11eA12yLk301hA11jA11lA11nA11pA11rA11tA11vA11xA11zA11-A11XB11ZB11",
      "bB11dB11fB11hB11jB11lB11nB11pB11rB11tB11-701wB11yB11+B11p311pI01ZC11bC11qI01eC11sI01tI01",
      "iC21zE01vI01xI01oC11WJ01ZJ11fJ01eJ01vC31lJ01oJ11rJ01XD11ZD11bD11WK01eD11ZK21jD11eK01mD11",
      "gK01hK01qD11sD11oK01vD31zD72a3+B02a3+B02a3+B02i3g302i3g302i3g302k3g302k3g302k3g301kE11mE",
      "11oE11qE11sE11uE11wE11yE21-E11XF11ZF11bF11dF11fF11hF11jF11lF22a3w302a3w302a3w301rF11rC01",
      "-D01vF11xF11zF11-F11XG11ZG11bG11dG11fG11hG11jG11lG11nG11pG11rG11tG11vG11xG11zG11-G11+C11",
      "ZH11bH11dH11fH11hH11jH11lH11nH11pH71bZB01yH11wC01cZB21YI11WC01fK01iK01dI11fI11hI11jI11lI",
      "X31e301cJ01g301o301vJ01xJ01XK01t301v3V2W1cO02W1dO02W1gO02W1eP02W1ZO02W1hO21ZJ01i301p301u",
      "301rKx21WO01XO11pO02eOXO01vTg11nR11pR11vL11tR32W1vT31x101pV42W1XO03W1eOXO01iT01t501jT01k",
      "T01lT11iU11jU01kU11nT01oT01pT01qT01rT01sT01tT01uT01vT01wT01xT01yT01zT01+T01-T01WU01XU11Z",
      "U01aU01bU01cU01dU01eU01fU01gU01hUZ11tU01oT01uT01bU01jU01hU01cU01WU11vU11xU11zU11-U11XV11",
      "ZV11bV11dV11fV11hV11jV11lV11wT01XU01ZU11uT01rT11uV11ZU01xV21xR01yR01zR01mY101nY101oY101p",
      "Y101qY101rY101sY101tY101uY101vY101wY101xY101yY101zY101+Y101-Y101mX101nX101oX101pX101qX10",
      "1rX101sX101tX101uX101vX101wX101xX101yX101zX101+X101-X101WY101XY101YY101ZY101aY101bY101cY",
      "101dY101eY101fY101gY101hY101iY101jY101kY101lY1m11XZ111ZZ111bZ111dZ111fZ111hZ111jZ111lZ11",
      "1nZ111pZ111rZ111tZ111vZ111xZ111zZ111-Z111Xa191ha111ja111la111na111pa111ra111ta111va111xa",
      "111za111-a111Xb111Zb111bb111db111fb111hb111jb111lb111nb111pb111rb111tb111vb111xb111zb111",
      "-b111lc101Yc111ac111cc111ec111gc111ic111kc121nc111pc111rc111tc111vc111xc111zc111-c111Xd1",
      "11Zd111bd111dd111fd111hd111jd111ld111nd111pd111rd111td111vd111xd111zd111-d111Xe111Ze111b",
      "e111de111fe111he111je111le111ne111pe111re111te111ve111xe111ze111-e111Xf111Zf111bf111df11",
      "1ff111hf111jf111lf121Xh101Yh101Zh101ah101bh101ch101dh101eh101fh101gh101hh101ih101jh101kh",
      "101lh101mh101nh101oh101ph101qh101rh101sh101th101uh101vh101wh101xh101yh101zh101+h101-h101",
      "Wi101Xi101Yi101Zi101ai101bi101ci1m12bh1Yi1j72dn1qp102eo1qp102ds1qp102go1qp1-M2re2yf202se",
      "2yf202te2yf202ye2yf202Xf2yf202Yf2yf202hf2yf202lf2yf2y32Xj2yj202Yj2yj212lj2yj2p22on2yn222",
      "un2yn2Y12sm2yn202tm2yn202ym2yn222hn2yn2z72Xv2yv202Yv2yv2rM2jo3on3-32js3or3e12hr3vq302hr3",
      "Xr3k11hu3s12Yw3tz392iw3tz342nw3tz342sw3tz342xw3tz3C2Ww3rz392nx3ox312nx3qx302oz3Wy303oz3n",
      "x3Wy302pz3Wy303pz3nx3Wy372nx3Wy3H2oy3tz392yy3tz342Xz3tz342cz3tz342hz3tz3C2my3rz3c71WeB01",
      "XeB01YeB01ZeB01aeB01beB01ceB01deB01eeB01feB01geB01heB01ieB01jeB01keB01leB01meB01neB01oeB",
      "01peB01qeB01reB01seB01teB01ueB01veB01weB01xeB01yeB01zeB01+eB01-eB01WfB01XfB01YfB01ZfB01a",
      "fB01bfB11dfB51jfBk11yc4xN1m-401n-401o-401p-401q-401r-4Ya21oX101qX101+X101XY101YY101YY101",
      "gY101ZZ101hof101ga761mc401nc401oc401pc401qc401rc401sc401tc401uc401vc401wc401xc401yc401zc",
      "401+c401-c401Wd401Xd401Yd401Zd401ad401bd401cd401dd401ed401fd401gd401hd401id401jd401kd401",
      "ld401md401nd401od401pd401qd401rd401sd401td401ud401vd401wd421zd401+d401-d4i31X301c701Y311",
      "a301b301zE01d301e301f301g301h301i301j301k311l301ZH01m301o301q301r301t301X301mI01nI01Ye70",
      "1Y301a301b301vI01xI01yI01d311h301j301hA01l301qI01se701te701m301q301r301ze701lJ01s301bf70",
      "1oT01pT01qT01cU01dU01f301o301r301s301oT01pT01XU01cU01dUD1zX1Y11oI01Z301rI01m701yI01c301-",
      "I01XJ01bJ01eJ01fJ01gJ01xh701zK01jJ01bi701-K01nJ01mJ01oJ01pJ01qJ01rJ01uJ01YK01ZK01hD01fK0",
      "1gK01ye701hK01iK01w301mK01nK01oK01uTW21Xm711Zm711bm711dm711fm711hm711jm711lm711nm711pm71",
      "1rm711tm711vm711xm711zm711-m711Xn711Zn711bn711dn711fn711hn711jn711ln711nn711pn711rn711tn",
      "711vn711xn711zn711-n711Xo711Zo711bo711do711fo711ho711jo711lo711no711po711ro711to711vo711",
      "xo711zo711-o711Xp711Zp711bp711dp711fp711hp711jp711lp711np711pp711rp711tp711vp711xp711zp7",
      "11-p711Xq711Zq711bq711dq711fq711hq711jq711lq711nq711pq711rq752X3+L01Xp721-611Xr711Zr711b",
      "r711dr711fr711hr711jr711lr711nr711pr711rr711tr711vr711xr711zr711-r711Xs711Zs711bs711ds71",
      "1fs711hs711js711ls711ns711ps711rs711ts711vs711xs711zs711-s711Xt711Zt711bt711dt711ft711ht",
      "711jt711lt711nt711pt711rt711tt711vt711xt711zt711-t791Wu701Xu701Yu701Zu701au701bu701cu701",
      "du781mu701nu701ou701pu701qu701ru7A1Wv701Xv701Yv701Zv701av701bv701cv701dv781mv701nv701ov7",
      "01pv701qv701rv701sv701tv781Ww701Xw701Yw701Zw701aw701bw7B1nw711pw711rw711tw781Wx701Xx701Y",
      "x701Zx701ax701bx701cx701dx711iT11jT11kT11lT11iU11jU11kU22Wu7vT02Xu7vT02Yu7vT02Zu7vT02au7",
      "vT02bu7vT02cu7vT02du7vT02Wu7vT02Xu7vT02Yu7vT02Zu7vT02au7vT02bu7vT02cu7vT02du7vT02Wv7vT02",
      "Xv7vT02Yv7vT02Zv7vT02av7vT02bv7vT02cv7vT02dv7vT02Wv7vT02Xv7vT02Yv7vT02Zv7vT02av7vT02bv7v",
      "T02cv7vT02dv7vT02Wx7vT02Xx7vT02Yx7vT02Zx7vT02ax7vT02bx7vT02cx7vT02dx7vT02Wx7vT02Xx7vT02Y",
      "x7vT02Zx7vT02ax7vT02bx7vT02cx7vT02dx7vT22mx7vT02nTvT02iTvT22sz7vT01mz701nz701mx701iT02nT",
      "vT02W1pO01vT02W1pO02W1YQ03W1eOYQ02qx7vT02tTvT02kTvT22c+7vT01ox701jT01qx701kT02tTvT03W1pO",
      "WO03W1pOXO03W1pOYQ31mS41m+701n+701sx701lT13W1qOWO03W1qOXO03W1qOYQ31mT41W-701X-701wx701jU",
      "01b-703W1eOWO03W1eOXO01W322yx7vT02fUvT02kUvT22s-7vT01ux701iU01yx701kU02fUvT02W1XO02W1qO1",
      "1W101W101W101W101W101W101W101W101W101W101W161mW852W1pPN1W132oX8oX803oX8oX8oX812rX8rX803r",
      "X8rX8rX842X1X112W1bO82-1-102-1X102X1-1D4oX8oX8oX8oX871W1G1m101f321q101r101s101t101u101v1",
      "01h101om801z101e101f101k301m101n101o101p101q101r101s101t101u101v101h101om801z101e101f111",
      "X301b301l301u301vI01e301h301i301j301k301m301p301q3B2o3p3t23X3l1Z303X3l1p301Z302m5Z313Z3l",
      "1l303Z3l1r301xI12m5c301d301e301e301e301e301d901f301f301i301i311k302k3l321m301n301o301o30",
      "1o322p3j303q3b3i302q3j311w311fU11w311h301b701Y301Z311b301b301c301kg801j301l301mk101nk101",
      "ok101pk101f313c3X3u301WU01pT01pT01WU01nm841a301a301b301f301g363n1aY8t103n1aY8v104n1aY8n1",
      "m103n1aY8p103o1aY8p103n1aY8r103o1aY8r103p1aY8r103q1aY8r103n1aY8s103r1aY8s103n1aY8u103p1a",
      "Y8u103r1aY8u103t1aY8u102n1aY801f302f3f303f3f3f302f3s301s302s3f303s3f3f304s3f3f3f302f3u30",
      "1u302u3f303u3f3f301i301Z301a301j301f302f3f303f3f3f302f3s301s302s3f303s3f3f304s3f3f3f302f",
      "3u301u302u3f303u3f3f301i301Z301a301j331ai853m1aY8p1Y52hn8hn803hn8hn8hn812kn8kn803kn8kn8k",
      "n8u71eWC01fWCr91n101o101p101q101r101s101t101u101v102n1m102n1n102n1o102n1p102n1q102n1r102",
      "n1s102n1t102n1u102n1v102o1m103e1n1f103e1o1f103e1p1f103e1q1f103e1r1f103e1s1f103e1t1f103e1",
      "u1f103e1v1f104e1n1m1f104e1n1n1f104e1n1o1f104e1n1p1f104e1n1q1f104e1n1r1f104e1n1s1f104e1n1",
      "t1f104e1n1u1f104e1n1v1f104e1o1m1f1K3e1X3f103e1Y3f103e1Z3f103e1a3f103e1b3f103e1c3f103e1d3",
      "f103e1e3f103e1f3f103e1g3f103e1h3f103e1i3f103e1j3f103e1k3f103e1l3f103e1m3f103e1n3f103e1o3",
      "f103e1p3f103e1q3f103e1r3f103e1s3f103e1t3f103e1u3f103e1v3f103e1w3f101X301Y301Z301a301b301",
      "c301d301e301f301g301h301i301j301k301l301m301n301o301p301q301r301s301t301u301v301w301X301",
      "Y301Z301a301b301c301d301e301f301g301h301i301j301k301l301m301n301o301p301q301r301s301t301",
      "u301v301w301m1Xf14hn8hn8hn8hn8d33w1w1z102z1z103z1z1z1b32zsAuPZ91mXB01nXB01oXB01pXB01qXB0",
      "1rXB01sXB01tXB01uXB01vXB01wXB01xXB01yXB01zXB01+XB01-XB01WYB01XYB01YYB01ZYB01aYB01bYB01cY",
      "B01dYB01eYB01fYB01gYB01hYB01iYB01jYB01kYB01lYB01mYB01nYB01oYB01pYB01qYB01rYB01sYB01tYB01",
      "uYB01vYB01wYB01xYB01yYB01zYB01+YB01-YBm11XZB11hJ01zh701zJ21eZB11gZB11iZB11nI01nJ01mI01oI",
      "11pZB21sZB61g301s301-H01WI01XaB11ZaB11baB11daB11faB11haB11jaB11laB11naB11paB11raB11taB11",
      "vaB11xaB11zaB11-aB11XbB11ZbB11bbB11dbB11fbB11hbB11jbB11lbB11nbB11pbB11rbB11tbB11vbB11xbB",
      "11zbB11-bB11XcB11ZcB11bcB11dcB11fcB11hcB11jcB11lcB11ncB11pcB11rcB11tcB11vcB11xcB11zcB11-",
      "cB11XdB11ZdB81idB11kdB41pdBy31XhBl91j+Qp21-yd1C1WmJ01enJ01snJ01-nJ01voJ01bqJ01iqJ01WrJ01",
      "wrJ01-fK01bhK01hhK01YiK01siK01hjK01WlK01rlK01WmK01xqK01vtK01ruK01wuK01uvK01XwK01ywK01fxK",
      "01YyK01szK01e+K01Z-K01tsL01-uL01hdM01YeM01geM01reM01dfM01phM01mwM01WyM01u-M01lWN01YXN01u",
      "XN01kZN01nZN01xkN01blN01nlN01+lN01opN01wpN01-pN01qtN01+tN01huN01puN01mwN01XxN01pxN01Z+N0",
      "1emO01snO01hoO01lfP01qfP01diP01tiP01ajP01vjP01WlP01blP01mtP01euP01evP01WvQ01YxQ01vxQ01pz",
      "Q01h+Q01q+Q01x+Q01lWR01qWR01qXR01hZS01gnS01snS01xnS01-nS01doS01voS01xoS01irS01ayS01fyS01",
      "ycT01cdT01ueT01-eT01efT01mfT01hiT01oiT01spT01zpT01krT01-rT01ktT01x+T01Y-T01p-T01wfU01ujU",
      "01+jU01qpU01hsU01vtU01pZV01udV01svV01nwV01gyV01zzV01XWW101iWW101oWW101pXW101-ZW101faW101",
      "ZlW101glW101plW101ylW101imW101xmW101-mW101kpW101opW101upW101joX101hpX101WYY101iYY101ZZY1",
      "01+hY101hiY101okY101WmY101tXZ101cYZ101rYZ101uZZ101zaZ101ahZ101mhZ101pjZ101hrZ101gsZ101xy",
      "Z101mzZ101rzZ101naa101fga101cka101ika101nka101thb101Wib101ymb101srb101vrb101etb101nwb101",
      "+wb101Yxb101fxb101h+b101j-b101p-b101XWc101ebc101xcc101-cc101sic101vic101ijc101erc101usc1",
      "01-sc101bvc101lvc101ovc101yvc101wwc101bdd101rpd101-pd101brd101xrd101Zsd101jsd101nsd101vt",
      "d101ztd101kud101pud101Wvd101xvd101gwd101owd101jyd101yyd101Wzd1g11W111k1p11oWC11XwK01awK0",
      "1bwKW32W1vaC02W1waC22eaCgaC-22pbCecCn11We401Xe401gj401Ye401ij401jj401Ze401ae401be401mj40",
      "1nj401oj401pj401qj401rj401we401ce401de401ee401Xf401fe401ge401he401ie401je401ke401le401me",
      "401ne401oe401Xh401Yh401Zh401ah401bh401ch401dh401eh401fh401gh401hh401ih401jh401kh401lh401",
      "mh401nh401oh401ph401qh401rh411qe401re401dk401ek401ik401kk401pk401tk401vk401ye401zk401-k4",
      "01ze401+e401Wf401Yf401Zf401df401ff401hf401if401jf401kf401lf401of401sf401Wg401dg401ig401n",
      "l401ol401tg401ug401vg401ai401bi401ei401ni401oi401qi401+i401Xj431WmJ01iqJ01fmJ01xsL01gmJ0",
      "1jnJ01hmJ01ofT01voJ01vmJ01XmJ01ffM01mvL01wrJW33e1We4f103e1Ye4f103e1Ze4f103e1be4f103e1ce4",
      "f103e1de4f103e1fe4f103e1he4f103e1ie4f103e1ke4f103e1le4f103e1me4f103e1ne4f103e1oe4f103e1W",
      "Wh1f103e1uai1f103e1ati1f103e1yxj1f103e1ekk1f103e1qWl1f103e1ibm1f103e1agn1f103e1myn1f103e",
      "1eXp1f103e1qpp1f103e1Wcq1f103e1iuq1f103e1ugr1f103e1ydo1f104e1ann1aWo1f104e1ann1asr1f113e",
      "1WmJf103e1iqJf103e1fmJf103e1xsLf103e1qqJf103e1jhKf103e1ZmJf103e1hhKf103e1zoJf103e1XwKf10",
      "3e1euPf103e1hZSf103e1qXRf103e1evPf103e1nka1f103e1-uLf103e1blPf103e1gXQf103e1fuPf103e1+fU",
      "f103e1jWLf103e1vpSf103e1XbZ1f103e1zgUf103e1qrKf103e1ZtJf103e1yZLf103e1cxMf103e1ZtTf103e1",
      "XuJf103e1dcZ1f103e1qwKf103e1jhUf103e1nuJf103e1glW1f103e1plW1f101lgL01ypN01diP01lyU83m3q3",
      "b302o1n102o1o102o1p102o1q102o1r102o1s102o1t102o1u102o1v102p1m102p1n102p1o102p1p102p1q102",
      "p1r101We401Ye401Ze401be401ce401de401fe401he401ie401ke401le401me401ne401oe401WWh101uai101",
      "ati101yxj101ekk101qWl101ibm101agn101myn101eXp101qpp101Wcq101iuq101ugr102uXp1Wdh102ydo1uw",
      "n101mrn111WmJ01iqJ01fmJ01xsL01qqJ01jhK01ZmJ01hhK01zoJ01XwK01euP01hZS01qXR01evP01nka101-u",
      "L01blP01gXQ01fuP01+fU01jWL01vpS01XbZ101zgU01qrK01ukU01tfT01phM01fZa101gfK01mxK01edR01bWc",
      "101nuJ01viK01ZxQ01gmJ01jnJ01hmJ01clN01p-K01xvK01tyM01cxM01ZtT01XuJ01dcZ101qwK01yeM02p1s1",
      "02p1t102p1u102p1v102q1m102q1n102q1o102q1p102q1q102q1r102q1s102q1t102q1u102q1v102r1m102n1",
      "euP02o1euP02p1euP02q1euP02r1euP02s1euP02t1euP02u1euP02v1euP03n1m1euP03n1n1euP03n1o1euP02",
      "e3d303b3o3d302b3s303i3q3a301YbC01abC01cbC01ebC01gbC01hbC01jbC01lbC01nbC01pbC01rbC01tbC01",
      "vbC01xbC01zbC01-bC01XcC01acC01ccC01ecC01gcC01hcC01icC01jcC01kcC01lcC01ocC01rcC01ucC01xcC",
      "01+cC01-cC01WdC01XdC01YdC01adC01cdC01edC01fdC01gdC01hdC01idC01jdC01ldC01mdC01ndC01odC02a",
      "tJiaL04YbCncCydCecC04YbChdCrcCXbC04YbCpdCwcCYbC03YbCydChdC04abChcCpdCmbC03abCpdCXcC03cbC",
      "fbCpdC05ebCvbClbCydCfcC04ebCydChbCydC03gbCpdCvbC03gbCydCWdC03hbCabCgdC04hbCfdCZcCecC04hb",
      "CjdCgdCydC03ibCjdCpdC03ibCpdC+cC02kbCibC03kbChcCydC04jbCbdCgdCydC04kbChdCWcCydC02jbCjdC0",
      "5jbCjdCmbCfdCWdC06jbCjdCXdCydCecChdC05jbCjdCldCZcCecC03mbCfdCWdC05mbCfdCWdCecCpdC05lbChd",
      "CybCabCjdC04lbCjdCydCjcC03nbCydCvbC03pbChdCgcC03pbCydCzcC04rbCabClbChdC05rbCpdCXcCydCWdC",
      "04tbCgdCpdCmbC03xbCpdCXcC03xbCpdCecC03WcCydCvbC02dcCtbC02fcChdC02ecCpdC02gcCkcC03kcCZcCe",
      "cC03lcCabCacC05ncCydCxbCpdCecC03ncCydCacC04mcCydCidChdC05qcCYbCvbCecChdC03qcClbChdC02qcC",
      "pbC02pcChdC05rcCXbCfdCZcCfcC04rcCZbCydCecC05scCZcCtbCdbChdC03rcCfdCpdC05ucClbC-bCydChdC0",
      "2wcCzbC03wcChcCocC03ucChdCacC03wcCpdCvbC03wcCydCubC03vcCydC-bC04zcCabCpdCecC03ycChdCecC0",
      "2xcCpdC03zcCpdCfcC03xcCydChdC03xcCydCpdC04+cCabClbCjdC03+cCabChdC03+cCZcClcC03+cChdClbC0",
      "5+cCpdCtbCddCpdC04-cClbCjdCpdC02-cCgdC05-cCgdCmcCydChdC02XdCibC04XdCibCecCpdC04XdCydCecC",
      "hdC03adCydCfcC03adCydChdC03cdCYbCpdC04gdCZcCecChdC02gdCfdC03hdCqcCydC04hdCydCscChdC02idC",
      "WdC05idCpdCecCobCpdC03ldCZcCecC02m1vbS02n1vbS02o1vbS02p1vbS02q1vbS02r1vbS02s1vbS02t1vbS0",
      "2u1vbS02v1vbS03n1m1vbS03n1n1vbS03n1o1vbS03n1p1vbS03n1q1vbS03n1r1vbS03n1s1vbS03n1t1vbS03n",
      "1u1vbS03n1v1vbS03o1m1vbS03o1n1vbS03o1o1vbS03o1p1vbS03o1q1vbS03e3m3X302a3X302X3r303Y3X3o3",
      "02l3s302m3Z302a3j303a3j3o103a3j3p102f3r302ppNmmO02jnPiaL02dfMZxQ02kmPxbR04gXQluNwuJ+fU02",
      "m3X302k3X302yTX302j3X302h3X302h3Y302j3Y302d3Y303Z3X3i304h3Z3X3i302m3c302k3c302yTc302yTd3",
      "02j3d302h3d302e3w303h3e3w303j3e3w303d3e3w303q3e3w302yTi302j3i302a3i302h3i302c3j302k3j302",
      "yTj302j3j302Z3j302h3j303j3j3o103Z3j3o102j3o103h3j3o103j3j3p103Z3j3p102j3p103h3j3p103j3rm",
      "8p304j3rm8p3o102m3X303h3m3X303j3m3X303d3m3X303o3X3a305o3X3a3rm8p306o3X3a3rm8p3o102m3p302",
      "k3p302yTp302j3p302m3s302k3s302yTs302j3s302h3s302j3s302m3t302k3t302yTt302j3t302h3t302j3t3",
      "02h3fU02j3fU12Y3n302Z3Z302Z3a304Z3rm8h3d312a3Y302d3v302e3X302e3m302f3k302h3h302h3j302h3q",
      "302i3j302i3k303i3l3d302i3u302j3Y303j3f3i303j3l3i302m3e313m3m3j302m3o302p3o302p3s302t3Y30",
      "3s3rm8j303X3rm8j302n1blP02o1blP02p1blP02q1blP02r1blP02s1blP02t1blP02u1blP02v1blP03n1m1bl",
      "P03n1n1blP03n1o1blP03n1p1blP03n1q1blP03n1r1blP03n1s1blP03n1t1blP03n1u1blP03n1v1blP03o1m1",
      "blP03o1n1blP03o1o1blP03o1p1blP03o1q1blP03o1r1blP03o1s1blP03o1t1blP03o1u1blP03o1v1blP03p1",
      "m1blP03p1n1blP03d3X3i3WoS1Xof111Zof111bof111dof111fof111hof111jof111lof111nof111pof111ro",
      "f111tof111vof111xof111zof111-of111Xpf111Zpf111bpf111dpf111fpf111hpf111jpf1J1Xqf111Zqf111",
      "bqf111dqf111fqf111hqf111jqf111lqf111nqf111pqf111rqf111tqf111vqf111xqf111gY101iY1a41Zvf11",
      "1bvf111dvf111fvf111hvf111jvf111lvf131pvf111rvf111tvf111vvf111xvf111zvf111-vf111Xwf111Zwf",
      "111bwf111dwf111fwf111hwf111jwf111lwf111nwf111pwf111rwf111twf111vwf111xwf111zwf111-wf111X",
      "xf111Zxf111bxf111dxf111fxf111hxf111jxf111lxf111lxf181wxf111yxf111vh701-xf111Xyf111Zyf111",
      "byf111dyf141iyf111bJ21nyf111pyf131tyf111vyf111xyf111zyf111-yf111Xzf111Zzf111bzf111dzf111",
      "fzf111cJ01yI01XJ01iJ01gJ11+K01dK01zK01pwg101rzf111tzf111vzf111xzf111zzf111-zf111X+f111Z+",
      "f111qyf101YK01ki701e+f111g+f111aJ01j+f111l+f111n+f111p+f111r+f111t+f111v+f111x+f111xCK1p",
      "301Z301c301n301s-f121d901pAYR1dvf101tvg101hJ01owg191jK61Wz401Xz401Yz401Zz401az401bz401cz",
      "401dz401ez401fz401gz401hz401iz401jz401kz401lz401mz401nz401oz401pz401qz401rz401sz401tz401",
      "uz401vz401wz401xz401yz401zz401+z401-z401W+401X+401Y+401Z+401a+401b+401c+401d+401e+401f+4",
      "01g+401h+401i+401j+401k+401l+401m+401n+401o+401p+401q+401r+401s+401t+401u+401v+401w+401x",
      "+401y+401z+401++401-+401W-401X-401Y-401Z-401a-401b-401c-401d-401e-401f-401g-401h-401i-40",
      "1j-401k-401l-4WgJ1eYZ101qtP01gsZ101ecZ101nsR01onJ01b-K01yyd101yyd101ngM01nka101diL01egM0",
      "1slO01fpT01byV01-nX101wzX101udY101laa101YmQ01xeR01vcS01++S01zXX101gha101nlc101YqJ01rxK01",
      "auQ01xmS01jnX101+md101mgN01h-R01jkX101ahY101fsO01ukW101-WY101gsN01tuP01ghR01ytS01kca101c",
      "yJ01tjK01+sK01acP01psQ01mmS01dtT01XWW101cmX101yoX101llZ101ovb101lxc101wld101iaU01-hU01Wj",
      "V01f+W101aua101-pd101ssY101-cM01auN01WZV01+ZW101YpS01gcU01YcZ101ttb101ucM01YZN01pmQ01wkR",
      "01luR01lfV01tnV01hob101osK01haW101ykK01ikK01ymU01+jV01n-W101rpb101WyY101lsO01YmQ01+tY101",
      "vnJ01d-M01oWO01dyS01mhT01tuK01xdU01-zJ01fzN01jmJ01icR01uhP01YfV01Z+K01+YM01XuT01fYX101gr",
      "Y101wzQ01mzZ101eaR01+tO01btW101WzO01bhT01krJ01fhK01fkK01XaQ01ddV01lpW101osY101lka101rtK0",
      "1YYL01phM01itN01bkP01+-R01gfU01jjb101gpc101tqd101ksd101xqK01csP01txQ01YxZ101qpN01miO01Wm",
      "O01waP01ZvR01fgS01faT01gkU01qlV01lZW101cvZ101kdX101ZXa101gwa101tmK01ZrK01zbL01ecS01YcY10",
      "1grY101fsN01r-N01xxO01kzQ01+XV01rxS01atJ01vtL01d-M01wjN01yWO01ozS01fZT01wyV01cYW101qna10",
      "1stb101ewb101uWc101hyJ01kjU01qja101urb101XdO01cqJ01wcK01k-M01-XN01viP01YmQ01kkS01YoT01yd",
      "X101yZa101jyd101eqP01knb101fqK01xxP01p-P01XgR01yqR01fWT01vgT01hZU01meV01+Yc101jhK01knO01",
      "upb101hXK01veN01glR01gvZ101hyN01agO01tWQ01dyS01cqb101fnK01lWL01bZN01pmP01kwP01ebQ01bdR01",
      "cWT01YlT01vxV01lcY101XdY101ika101Ytb101-vK01wrR01zWL01mkS01uaT01wlX101Zrb101tYd101-qd101",
      "tyP01hkR01elW101hsU01WvU01oaV01WsS01vaS01uwY101WsJ01svW101wnK01dmK01crN01psO01scV01byM01",
      "+eR01qrP01xvZ101iYY101job101hiY101psN01WgK01WkL21wYM11qpP21+kK01gvS01gsT01yfU01+gU01bhU0",
      "1liU01swb101+bV01zzV11omX111utY121uXa101zda131ldc101ydc101efc101qjd101+ca101trb101kzJ01d",
      "dK01jgK01fsK01atK01nwK01ziL01cmL01epL01WYM01ebM01aZN01kZN01qaO01ehO01kiO01olO01lgP01YlP0",
      "1nqP01baQ01thR01wmR01YvR01khS01hnS01YXT01naU01+fU01fgU01egU01mgU01sgU01zgU01jiU01kiU01Wo",
      "U01XqU01W+U01qlV01fmV01XoV01oxV01bWW101jlW101vpW101vpW101tYX101meY101siY101XuY101vvY101p",
      "cZ101eeZ101szZ101uXa101Ztb101--b101xXc101rZO01ktm401umW121cnJ01rjK01ehK01WyJ01bgK01WiK01",
      "dsK01wtK01ziL01rgL01viL01YlL01wYM01pbM01agM01qgM01YpM01evM01osN01vsN01fxN01jzN01ucO01kgO",
      "01eeO01kiO01WhO01olO01qnO01a+O01yWP01oYP01sgP01qpP01tuP01xuP01swP01vxQ01wzQ01XgR01xsR01h",
      "sR01YvR01+WS01khS01dzT01rnS01lrS01gvS01nZT01ceT01xfT01zmT01-mT01gsT01xsT01qtT01gwT01WwT0",
      "1icU01nrU01W+U01xZV01xgV01qlV01+vV01bWW101owW101l-W101vxX101XgY101ciY101siY101-rY101utY1",
      "01hsY101XuY101+tY101jtY101vvY101gyY101eeZ101uvZ101oZa101via101spa101ypb101Ztb101swb101x+",
      "b101--b101hWc101xXc101ouc101yyd101gYg401aYg401r+i401zyE01uWG01vXG01foq401mct401ps-401Zwd",
      "101kyd1c12c3c302c3f302c3i303c3c3f303c3c3i302p3q302p3q3C2qh1sh102qh1bh102qh1hh102+h1sh102",
      "qh1jh152vk1qj112ol1tj101Yl101mk101pk101qk101xk101yk101zk101el101gl101h102fl1Xk102fl1Yk10",
      "3fl1yj1Xk103fl1yj1Yk102mk1tj102mk1uj102mk1yj102nk1yj102ok1yj102pk1yj102qk1yj102rk1yj102s",
      "k1yj112uk1yj102vk1yj102wk1yj102xk1yj102yk1yj112+k1yj112Wl1yj102Xl1yj112Zl1yj102al1yj112c",
      "l1yj102dl1yj102el1yj102fl1yj102gl1yj102rk1vj102nk1-j102xk1-j102al1-j102mk1yk101np101np10",
      "1xp101xp101xp101xp101+p101+p101+p101+p101Wq101Wq101Wq101Wq101wp101wp101wp101wp101-p101-p",
      "101-p101-p101vp101vp101vp101vp101ar101ar101ar101ar101cr101cr101cr101cr101aq101aq101aq101",
      "aq101Zq101Zq101Zq101Zq101cq101cq101cq101cq101dq101dq101dq101dq101jq101jq101iq101iq101kq1",
      "01kq101eq101eq101uq101uq101nq101nq101fr101fr101fr101fr101lr101lr101lr101lr101pr101pr101p",
      "r101pr101nr101nr101nr101nr101wr101wr101xr101xr101xr101xr101Ws101Ws101Xs101Xs101Xs101Xs10",
      "1+r101+r101+r101+r101os101os101ps101ps1X11jr101jr101jr101jr101ds101ds101cs101cs101es101e",
      "s102ds1qp101hs101hs101bs101bs101fs101fs101ms101ms101ms101ms101fo101fo102cn1dn102cn1dn102",
      "cn1rs102cn1rs102cn1eo102cn1eo102cn1ds102cn1ds102cn1cs102cn1cs102cn1es102cn1es102cn1ms102",
      "cn1ms102cn1ms102cn1fo102cn1fo102cn1fo101is101is101is101is102cn1in102cn1jn102cn1bo102cn1f",
      "o102cn1go102en1in102en1jn102en1kn102en1bo102en1fo102en1go102gn1in102gn1jn102gn1kn102gn1b",
      "o102gn1fo102gn1go102hn1in102hn1bo102hn1fo102hn1go102in1jn102in1bo102jn1in102jn1bo102kn1i",
      "n102kn1jn102kn1bo102pn1in102pn1jn102pn1kn102pn1bo102rn1jn102rn1bo102sn1in102sn1jn102sn1k",
      "n102sn1bo102tn1jn102tn1bo102un1bo102vn1in102vn1bo102wn1in102wn1bo102Xo1in102Xo1jn102Xo1k",
      "n102Xo1bo102Xo1fo102Xo1go102Yo1jn102Yo1bo102Yo1fo102Yo1go102Zo1dn102Zo1in102Zo1jn102Zo1k",
      "n102Zo1ao102Zo1bo102Zo1fo102Zo1go102ao1in102ao1jn102ao1kn102ao1bo102ao1fo102ao1go102bo1i",
      "n102bo1jn102bo1kn102bo1bo102bo1fo102bo1go102co1in102co1jn102co1kn102co1bo102co1fo102co1g",
      "o102do1in102do1bo102do1fo102do1go102go1in102go1jn102go1kn102go1bo102go1fo102go1go102mn1m",
      "p102nn1mp102fo1mp103W1io1no103W1jo1no103W1ko1no103W1lo1no103W1mo1no103W1no1mp102cn1nn102",
      "cn1on102cn1bo102cn1co102cn1fo102cn1go102en1nn102en1on102en1bo102en1co102en1fo102en1go102",
      "gn1nn102gn1on102gn1bo102gn1co102gn1fo102gn1go102hn1nn102hn1on102hn1bo102hn1co102hn1fo102",
      "hn1go102Xo1fo102Xo1go102Yo1fo102Yo1go102Zo1dn102Zo1ao102Zo1bo102Zo1fo102Zo1go102ao1bo102",
      "ao1fo102ao1go102bo1dn102bo1bo102co1nn102co1on102co1bo102co1co102co1fo102co1go102fo1mp102",
      "go1nn102go1on102go1bo102go1co102go1fo102go1go102cn1in102cn1jn102cn1kn102cn1bo102cn1do102",
      "en1in102en1jn102en1kn102en1bo102en1do102gn1in102gn1jn102gn1kn102gn1bo102gn1do102hn1bo102",
      "in1jn102in1bo102jn1in102jn1bo102kn1in102kn1bo102pn1in102pn1jn102pn1kn102pn1bo102rn1jn102",
      "rn1kn102rn1bo102sn1in102sn1jn102sn1kn102sn1bo102tn1jn102un1bo102vn1in102vn1bo102wn1in102",
      "wn1bo102Xo1in102Xo1jn102Xo1kn102Xo1bo102Yo1jn102Yo1bo102Zo1in102Zo1jn102Zo1kn102Zo1ao102",
      "Zo1bo102ao1in102ao1jn102ao1kn102ao1bo102ao1do102bo1in102bo1jn102bo1kn102bo1bo102co1in102",
      "co1jn102co1kn102co1bo102co1do102do1in102do1bo102do1mp102go1in102go1jn102go1kn102go1bo102",
      "go1do102cn1bo102cn1do102en1bo102en1do102gn1bo102gn1do102hn1bo102hn1do102pn1bo102pn1do102",
      "qn1bo102qn1do102Zo1ao102Zo1bo102ao1bo102co1bo102co1do102go1bo102go1do103Wo1ko1no103Wo1lo",
      "1no103Wo1mo1no102tn1fo102tn1go102vn1fo102vn1go102wn1fo102wn1go102pn1fo102pn1go102qn1fo10",
      "2qn1go102jn1fo102jn1go102in1fo102in1go102kn1fo102kn1go102rn1fo102rn1go102sn1fo102sn1go10",
      "2qn1in102qn1jn102qn1kn102qn1bo102qn1nn102pn1nn102rn1nn102sn1nn102tn1fo102tn1go102vn1fo10",
      "2vn1go102wn1fo102wn1go102pn1fo102pn1go102qn1fo102qn1go102jn1fo102jn1go102in1fo102in1go10",
      "2kn1fo102kn1go102rn1fo102rn1go102sn1fo102sn1go102qn1in102qn1jn102qn1kn102qn1bo102qn1nn10",
      "2pn1nn102rn1nn102sn1nn102qn1in102qn1jn102qn1kn102qn1bo102pn1do102qn1do102tn1bo102pn1in10",
      "2pn1jn102pn1kn102qn1in102qn1jn102qn1kn102tn1bo102un1bo102dn1ho102dn1ho1I3gn1in1bo103gn1j",
      "n1in103gn1jn1in103gn1jn1bo103gn1kn1bo103gn1bo1in103gn1bo1jn103gn1bo1kn103in1bo1jn103in1b",
      "o1jn103jn1bo1go103jn1bo1fo103pn1jn1in103pn1in1jn103pn1in1fo103pn1bo1jn103pn1bo1jn103pn1b",
      "o1in103pn1bo1bo103pn1bo1bo103rn1jn1jn103rn1jn1jn103rn1bo1bo103qn1jn1bo103qn1jn1bo103qn1i",
      "n1go103qn1bo1kn103qn1bo1kn103qn1bo1bo103qn1bo1bo103sn1jn1fo103sn1kn1bo103sn1kn1bo103tn1b",
      "o1jn103tn1bo1jn103tn1bo1bo103tn1bo1go103vn1in1bo103vn1bo1bo103vn1bo1bo103vn1bo1fo103wn1b",
      "o1bo103wn1bo1go103wn1bo1fo103Xo1kn1bo103Xo1kn1bo103Yo1bo1jn103Yo1bo1bo103ao1jn1bo103ao1j",
      "n1go103ao1jn1fo103ao1in1in103ao1in1in103ao1kn1bo103ao1kn1bo103ao1bo1jn103ao1bo1jn103bo1j",
      "n1in103bo1jn1bo103bo1jn1go103bo1in1jn103bo1in1bo103bo1kn1in103bo1kn1bo123bo1in1kn103do1b",
      "o1in103do1bo1bo103co1jn1bo103co1jn1fo103co1in1bo103co1in1bo103co1in1fo103co1bo1go103co1b",
      "o1fo103go1bo1bo103go1bo1bo103en1kn1go103gn1in1go103gn1in1fo103gn1kn1go103gn1kn1fo103gn1b",
      "o1go103gn1bo1fo103in1bo1go103in1jn1fo103in1bo1fo103pn1kn1fo103rn1jn1go103qn1jn1go103sn1j",
      "n1go103ao1in1go103ao1bo1go103go1jn1go103go1in1go103go1bo1go103bo1bo1go103Yo1bo1go103co1j",
      "n1go103Yo1bo1jn103ao1jn1bo103vn1bo1go103Zo1bo1go103co1in1jn103bo1kn1go103ao1in1bo103Zo1b",
      "o1bo103ao1in1bo103co1in1jn103in1jn1go103jn1in1go103bo1in1go103Xo1bo1go103en1jn1go103Zo1b",
      "o1bo103vn1in1bo103rn1bo1bo103pn1kn1go103co1in1go1e13rn1ao1os103Yo1ao1os104dn1ao1ao1do104",
      "dn1Zo1en1nn104bo1jn1bo1ln104rn1ao1vn1bo104nn1pn1eo1ao104vn1ao1go1do104eo1pn1ao1bo103rn1a",
      "o1fo10Irn1ao1fo1W1dn1ao1ao1do1W1vn1ao1go1do1W1eo1pn1ao1bo108in1ao1W1in1ao1dn1ao1do104nn1",
      "is1dn1ao1J1i101XWC11w101x101X101-101sWC01tWCO1qW801pW801-201-201e101f101x301z301qWC01rWC",
      "01mWC01nWC01gWC01hWC01eWC01fWC01iWC01jWC01kWC01lWC21x201z202W1bO02W1bO02W1bO02W1bO01-201",
      "-201-201i101XWC21x101w101-101X101qW801e101f101x301z301qWC01rWC01Z101c101g101h101j101y101",
      "+101z111y201a101b101W242W1ho102Wo1ho102W1io112W1jo112W1ko102Wo1ko102W1lo102Wo1lo102W1mo1",
      "02Wo1mo102W1no102Wo1no102W1oo102Wo1oo101Xn101Yn101Yn101Zn101Zn101an101an101bn101bn101cn1",
      "01cn101cn101cn101dn101dn101en101en101en101en101fn101fn101gn101gn101gn101gn101hn101hn101h",
      "n101hn101in101in101in101in101jn101jn101jn101jn101kn101kn101kn101kn101ln101ln101mn101mn10",
      "1nn101nn101on101on101pn101pn101pn101pn101qn101qn101qn101qn101rn101rn101rn101rn101sn101sn",
      "101sn101sn101tn101tn101tn101tn101un101un101un101un101vn101vn101vn101vn101wn101wn101wn101",
      "wn101Xo101Xo101Xo101Xo101Yo101Yo101Yo101Yo101Zo101Zo101Zo101Zo101ao101ao101ao101ao101bo1",
      "01bo101bo101bo101co101co101co101co101do101do101do101do101eo101eo101fo101fo101go101go101g",
      "o101go102ao1Yn102ao1Yn102ao1Zn102ao1Zn102ao1bn102ao1bn102ao1dn102ao1dn141X101Y101Z101a10",
      "1b101c101d101e101f101g101h101i101j101k101l101m101n101o101p101q101r101s101t101u101v101w10",
      "1x101y101z101+101-101W201X301Y301Z301a301b301c301d301e301f301g301h301i301j301k301l301m30",
      "1n301o301p301q301r301s301t301u301v301w301x201y201z201+201-201W301X301Y301Z301a301b301c30",
      "1d301e301f301g301h301i301j301k301l301m301n301o301p301q301r301s301t301u301v301w301x301y30",
      "1z301+301biA01ciA01k101iWC01jWC01XWC01xdC01odC01XbC01ZbC01bbC01dbC01fbC01ZdC01bdC01ddC01",
      "ZcC01ydC01YbC01abC01cbC01ebC01gbC01hbC01jbC01lbC01nbC01pbC01rbC01tbC01vbC01xbC01zbC01-bC",
      "01XcC01acC01ccC01ecC01gcC01hcC01icC01jcC01kcC01lcC01ocC01rcC01ucC01xcC01+cC01-cC01WdC01X",
      "dC01YdC01adC01cdC01edC01fdC01gdC01hdC01idC01jdC01ldC01pdC01vaC01waC11We401Xe401gj401Ye40",
      "1ij401jj401Ze401ae401be401mj401nj401oj401pj401qj401rj401we401ce401de401ee401Xf401fe401ge",
      "401he401ie401je401ke401le401me401ne401oe431Xh401Yh401Zh401ah401bh401ch421dh401eh401fh401",
      "gh401hh401ih421jh401kh401lh401mh401nh401oh421ph401qh401rh431Y501Z501i502W1aO01c501b501fb",
      "811Ye901mi801ni801oi801pi801Wj901hk9nW11eXX201fXX201gXX201hXX201iXX201jXX201kXX201lXX201",
      "mXX201nXX201oXX201pXX201qXX201rXX201sXX201tXX201uXX201vXX201wXX201xXX201yXX201zXX201+XX2",
      "01-XX201WYX201XYX201YYX201ZYX201aYX201bYX201cYX201dYX201eYX201fYX201gYX201hYX201iYX201jY",
      "X201kYX201lYX2e41ucX201vcX201wcX201xcX201ycX201zcX201+cX201-cX201WdX201XdX201YdX201ZdX20",
      "1adX201bdX201cdX201ddX201edX201fdX201gdX201hdX201idX201jdX201kdX201ldX201mdX201ndX201odX",
      "201pdX201qdX201rdX201sdX201tdX201udX201vdX201wdX201xdX2y41tiX201uiX201viX201wiX201xiX201",
      "yiX201ziX201+iX201-iX201WjX201XjX211ZjX201ajX201bjX201cjX201djX201ejX201fjX201gjX201hjX2",
      "01ijX201jjX201kjX201ljX201mjX201njX211pjX201qjX201rjX201sjX201tjX201ujX201vjX211xjX201yj",
      "X2hF1mM01nM01c701vK01pI11ZL01cxg101bL01aL01sI01tI01ni701uI01+I01fL01aJ01YJ01WJ01xK01d901",
      "yK01dJ01aK01gL01hL01iJ01aut301kyf101kJ01but301kK01cut301u701sJ01tJ01n301wJ01eut301zJ01+J",
      "01WK01eL01cL01dxg101dL01eK01nZB11lK01XL01YL01uK01WE01XE01YE01gut301+ut3bc11WcZ201XcZ201Y",
      "cZ201ZcZ201acZ201bcZ201ccZ201dcZ201ecZ201fcZ201gcZ201hcZ201icZ201jcZ201kcZ201lcZ201mcZ20",
      "1ncZ201ocZ201pcZ201qcZ201rcZ201scZ201tcZ201ucZ201vcZ201wcZ201xcZ201ycZ201zcZ201+cZ201-cZ",
      "201WdZ201XdZ201YdZ201ZdZ201adZ201bdZ201cdZ201ddZ201edZ201fdZ201gdZ201hdZ201idZ201jdZ201k",
      "dZ201ldZ201mdZ201ndZ201odZ2z41mhZ201nhZ201ohZ201phZ201qhZ201rhZ201shZ201thZ201uhZ201vhZ2",
      "01whZ201xhZ201yhZ201zhZ201+hZ201-hZ201WiZ201XiZ201YiZ201ZiZ201aiZ201biZ2wv21Wcc201Xcc201",
      "Ycc201Zcc201acc201bcc201ccc201dcc201ecc201fcc201gcc201hcc201icc201jcc201kcc201lcc201mcc2",
      "01ncc201occ201pcc201qcc201rcc201scc201tcc201ucc201vcc201wcc201xcc201ycc201zcc201+cc201-c",
      "c2WiL1Wpx201Xpx201Ypx201Zpx201apx201bpx201cpx201dpx201epx201fpx201gpx201hpx201ipx201jpx2",
      "01kpx201lpx201mpx201npx201opx201ppx201qpx201rpx201spx201tpx201upx201vpx201wpx201xpx201yp",
      "x201zpx201+px201-px2W21xrx201yrx201zrx201+rx201-rx201Wsx201Xsx201Ysx201Zsx201asx201bsx20",
      "1csx201dsx201esx201fsx201gsx201hsx201isx201jsx201ksx201lsx201msx201nsx201osx201psx2zmN1X",
      "301Y301Z301a301b301c301d301e301f301g301h301i301j301k301l301m301n301o301p301q301r301s301t",
      "301u301v301w301m101n101o101p101q101r101s101t101u101v1aZ12tgq3bhq302ugq3bhq303ugq3bhq3khq",
      "303ugq3bhq3lhq303ugq3bhq3mhq303ugq3bhq3nhq303ugq3bhq3ohq3s22vjq3bhq302wjq3bhq303vjq3bhq3",
      "khq303wjq3bhq3khq303vjq3bhq3lhq303wjq3bhq3lhq3-H1X301Y301Z301a301b301c301d301e301f301g30",
      "1h301i301j301k301l301m301n301o301p301q301r301s301t301u301v301w301X301Y301Z301a301b301c30",
      "1d301e301f301g301h301i301j301k301l301m301n301o301p301q301r301s301t301u301v301w301X301Y30",
      "1Z301a301b301c301d301e301f301g301h301i301j301k301l301m301n301o301p301q301r301s301t301u30",
      "1v301w301X301Y301Z301a301b301c301d311f301g301h301i301j301k301l301m301n301o301p301q301r30",
      "1s301t301u301v301w301X301Y301Z301a301b301c301d301e301f301g301h301i301j301k301l301m301n30",
      "1o301p301q301r301s301t301u301v301w301X301Y301Z301a301b301c301d301e301f301g301h301i301j30",
      "1k301l301m301n301o301p301q301r301s301t301u301v301w301X311Z301a321d321g301h321k301l301m30",
      "1n311p301q301r301s301t301u301v301w301X301Y301Z301a311c311e301f301g301h301i301j301k311m30",
      "1n301o301p301q301r301s301t301u301v301w301X301Y301Z301a301b301c301d301e301f301g301h301i30",
      "1j301k301l301m301n301o301p301q301r301s301t301u301v301w301X301Y301Z301a301b301c301d301e30",
      "1f301g301h301i301j301k301l301m301n301o301p301q301r301s301t301u301v301w301X301Y311a301b30",
      "1c301d321g301h301i301j301k301l301m301n311p301q301r301s301t301u301v311X301Y301Z301a301b30",
      "1c301d301e301f301g301h301i301j301k301l301m301n301o301p301q301r301s301t301u301v301w301X30",
      "1Y311a301b301c301d311f301g301h301i301j311l331p301q301r301s301t301u301v311X301Y301Z301a30",
      "1b301c301d301e301f301g301h301i301j301k301l301m301n301o301p301q301r301s301t301u301v301w30",
      "1X301Y301Z301a301b301c301d301e301f301g301h301i301j301k301l301m301n301o301p301q301r301s30",
      "1t301u301v301w301X301Y301Z301a301b301c301d301e301f301g301h301i301j301k301l301m301n301o30",
      "1p301q301r301s301t301u301v301w301X301Y301Z301a301b301c301d301e301f301g301h301i301j301k30",
      "1l301m301n301o301p301q301r301s301t301u301v301w301X301Y301Z301a301b301c301d301e301f301g30",
      "1h301i301j301k301l301m301n301o301p301q301r301s301t301u301v301w301X301Y301Z301a301b301c30",
      "1d301e301f301g301h301i301j301k301l301m301n301o301p301q301r301s301t301u301v301w301X301Y30",
      "1Z301a301b301c301d301e301f301g301h301i301j301k301l301m301n301o301p301q301r301s301t301u30",
      "1v301w301X301Y301Z301a301b301c301d301e301f301g301h301i301j301k301l301m301n301o301p301q30",
      "1r301s301t301u301v301w301X301Y301Z301a301b301c301d301e301f301g301h301i301j301k301l301m30",
      "1n301o301p301q301r301s301t301u301v301w301X301Y301Z301a301b301c301d301e301f301g301h301i30",
      "1j301k301l301m301n301o301p301q301r301s301t301u301v301w301X301Y301Z301a301b301c301d301e30",
      "1f301g301h301i301j301k301l301m301n301o301p301q301r301s301t301u301v301w301X301Y301Z301a30",
      "1b301c301d301e301f301g301h301i301j301k301l301m301n301o301p301q301r301s301t301u301v301w30",
      "1X301Y301Z301a301b301c301d301e301f301g301h301i301j301k301l301m301n301o301p301q301r301s30",
      "1t301u301v301w301n901tH21nT01oT01pT01qT01rT01sT01tT01uT01vT01wT01xT01yT01zT01+T01-T01WU0",
      "1XU01uT01ZU01aU01bU01cU01dU01eU01fU01dm801nT01oT01pT01qT01rT01sT01tT01uT01vT01wT01xT01yT",
      "01zT01+T01-T01WU01XU01ZU01ZU01aU01bU01cU01dU01eU01fU01Ym801rT01uT01wT01cU01XU01WU01nT01o",
      "T01pT01qT01rT01sT01tT01uT01vT01wT01xT01yT01zT01+T01-T01WU01XU01uT01ZU01aU01bU01cU01dU01e",
      "U01fU01dm801nT01oT01pT01qT01rT01sT01tT01uT01vT01wT01xT01yT01zT01+T01-T01WU01XU01ZU01ZU01",
      "aU01bU01cU01dU01eU01fU01Ym801rT01uT01wT01cU01XU01WU01nT01oT01pT01qT01rT01sT01tT01uT01vT0",
      "1wT01xT01yT01zT01+T01-T01WU01XU01uT01ZU01aU01bU01cU01dU01eU01fU01dm801nT01oT01pT01qT01rT",
      "01sT01tT01uT01vT01wT01xT01yT01zT01+T01-T01WU01XU01ZU01ZU01aU01bU01cU01dU01eU01fU01Ym801r",
      "T01uT01wT01cU01XU01WU01nT01oT01pT01qT01rT01sT01tT01uT01vT01wT01xT01yT01zT01+T01-T01WU01X",
      "U01uT01ZU01aU01bU01cU01dU01eU01fU01dm801nT01oT01pT01qT01rT01sT01tT01uT01vT01wT01xT01yT01",
      "zT01+T01-T01WU01XU01ZU01ZU01aU01bU01cU01dU01eU01fU01Ym801rT01uT01wT01cU01XU01WU01nT01oT0",
      "1pT01qT01rT01sT01tT01uT01vT01wT01xT01yT01zT01+T01-T01WU01XU01uT01ZU01aU01bU01cU01dU01eU0",
      "1fU01dm801nT01oT01pT01qT01rT01sT01tT01uT01vT01wT01xT01yT01zT01+T01-T01WU01XU01ZU01ZU01aU",
      "01bU01cU01dU01eU01fU01Ym801rT01uT01wT01cU01XU01WU01zU01zU21m101n101o101p101q101r101s101t",
      "101u101v101m101n101o101p101q101r101s101t101u101v101m101n101o101p101q101r101s101t101u101v",
      "101m101n101o101p101q101r101s101t101u101v101m101n101o101p101q101r101s101t101u101v1mX21mX1",
      "01nX101oX101pX101qX101rX101sX101tX101uX101wX101xX101yX101+X101-X101WY101XY101YY101ZY101a",
      "Y101bY101cY101dY101eY101hY101jY101kY101fqf101vc101sY101uY101fd101lb101lc101mX101nX101oX1",
      "01pX101qX101rX101sX101tX101uX101wX101xX101+X101-X101XY101ZY101aY101bY101cY101dY101eY101g",
      "Y101hY101na101sY101rY101-Y101hb101nof101nb1oa21Yfw301Zfw301afw301bfw301cfw301dfw301efw30",
      "1ffw301gfw301hfw301ifw301jfw301kfw301lfw301mfw301nfw301ofw301pfw301qfw301rfw301sfw301tfw",
      "301ufw301vfw301wfw301xfw301yfw301zfw301+fw301-fw301Wgw301Xgw301Ygw301Zgw3+c11dn101en101i",
      "n101ln111eo101on101jn101tn101go101Zo101ao101bo101co101pn101vn101Xo101rn101Yo101nn101qn10",
      "1gn101hn101kn101mn101sn101un101wn101kp101wr101Xr101lp111en101in111do121jn111go101Zo101ao",
      "101bo101co101pn101vn101Xo101rn101Yo111qn101gn101hn101kn111sn111wn161in141jn111go111ao111",
      "co101pn101vn111rn101Yo111qn121kn111sn111wn111wr111lp111en101in111do121jn101tn101go101Zo1",
      "11bo101co101pn101vn101Xo101rn101Yo111qn101gn101hn101kn111sn101un101wn101kp111Xr111dn101e",
      "n101in101ln101do101eo101on101jn101tn101go111ao101bo101co101pn101vn101Xo101rn101Yo101nn10",
      "1qn101gn101hn101kn101mn101sn101un101wn151en101in101ln111eo101on101jn101tn101go111ao101bo",
      "101co101pn101vn101Xo101rn101Yo101nn101qn101gn101hn101kn101mn101sn101un101wn1bI2m1i102n1i",
      "102o1i102p1i102q1i102r1i102s1i102t1i102u1i102v1i153e1X3f103e1Y3f103e1Z3f103e1a3f103e1b3f",
      "103e1c3f103e1d3f103e1e3f103e1f3f103e1g3f103e1h3f103e1i3f103e1j3f103e1k3f103e1l3f103e1m3f",
      "103e1n3f103e1o3f103e1p3f103e1q3f103e1r3f103e1s3f103e1t3f103e1u3f103e1v3f103e1w3f103qWCp3",
      "rWC01Z301o302Z3a302t3w311X301Y301Z301a301b301c301d301e301f301g301h301i301j301k301l301m30",
      "1n301o301p301q301r301s301t301u301v301w302e3s302j3s302p3a302p3p303m3m3s302t3Z3Q2j3Z302j3a",
      "302j3o3Z12a3g3l32xZChYC02pbCpbC01rbCD1hoO01twM01i+K01dcC01iqJ01weM01ZlY101ffM01arJ01WnP0",
      "1XfS01viP01joK01iyN01jiK01mjP01zmK01YgV01-eT01fbZ101mdM01vXL01quR01rqO01rwO01WmJ01fmJ01g",
      "Ya101clN01jnJ01p-K01duO01mhZ101poO01XiU01wpU01eWL01WqR01fuP01euP01pfT01opK01sjL01jga143q",
      "WCivPrWC03qWCfmJrWC03qWCiqJrWC03qWCfyMrWC03qWCvbSrWC03qWCpoOrWC03qWCtsTrWC03qWCzsKrWC03q",
      "WCtgPrWC71tyN01l-K+i21m101n101o101p101q101r101s101t101u101v1cW-11znJ01unJ01XoJ01YfW401Wx",
      "J01kzJ01xzJ01YWK01wZK01vaK01ddK01lcK01+aD01wnX401jgK01qgK01ahK01thK01yeX401vbD01dhK01jiK",
      "01hgX401tiK01ajK01isJ01ijK01rjK01-ka501rlK01ZmK01-cD01xnK01coK01opK01tpK01reD01dsK01fsK0",
      "1atK01wtK01buK01cuK01tuK01fwK01nwK01wwK01pxK01zxK01-xK01-xK01-xK01inY401mZS01g+K01-+K01Z",
      "xY401h-K01n-K01cWL01+aL01uXL01eYL01eZL01YbL01sdL01meL01pgL01ZhL01aiL01aiL01viL01hjL01pjL",
      "01YkL01suL01cmL01tuL01noL01qpL01dmK01kdM01k+L01q-L01jWM01hyL01oXM01nXM01ibM01adb401odM01",
      "tdM01ceM01weM01YfM01YhM01erb401gtb401ilM01xmM01dnM01ukM01cpM01ktD01ytD01euM01+vM01+vM01e",
      "kc401Z+M01u+M01d-M01p-M01uuc401--M01cWN01pwN01YXN01XyD01WZN01kZN01WcN01jaN01ald401ZgN01c",
      "ld401khN01hhN01yhN01XlN01YlN01lXE01zlN01enN01znN01fpN01YZE01Zie401yZE01mrN01prN01srN01gs",
      "N01oye501+tN01nve401nve401XmW101YvN01YvN01dcE01uri401wku401YxN01hxN01ZdE01wyN01j+N01t+N0",
      "1v-N01XaO01wfE01yeE01qaO01qsf401dcO01egO01igO01kgO01igO01whO01kiO01ojO01ajO01ljO01+kO01o",
      "lO01slO01mmO01xmO01zoO01nrO01qsO01mwO01iug401zvO01ytO01exO01ZyO01a-O01n-g401YXP01b+O01fz",
      "O01knE01fZP01+ZP01zaP01tZP01ipE01lgP01ihP01gWi401ZlP01utP01foP01vuE01nqP01euE01atE01oiK0",
      "1riK01WuP01yqP01jbW101v+G01tuP01xuP01XvP01+wP01pwP01Z+i401fwE01w-P01byP01oYQ01baQ01jZj40",
      "1kaQ01-WQ01qeQ01zyE01YgQ01ZjQ01glQ01erQ01Zrj401xsQ01uWF01XvQ01dbk401qwQ01kYF01oxQ01-yQ01",
      "wzQ01xzQ01jqk401hed401wtk401kYR01ybl401-bR01jcR01dZR01seR01+fR01thR01XgR01fhR01uhR01biR0",
      "1+el401qfR01lnR01kpR01pfF01hsR01dsR01nsl401vlR01kxR01+wl401kyl401c+R01vXS01+WS01xWS01siF",
      "01gYS01zZS01tZS01jbS01bfX401bgS01Zpm401yiS01hzm401enS01rnS01moS01emn401WqS01rqS01rvn401q",
      "Wo401wxS01hyS01irF01bzS01urF01urF01dYT01yYT01nZT01baT01gcT01xuF01afT01sXp401+fT01oap401m",
      "hT01-ie401mmT01Xzp401uzp401aYq401y-F01eWG01qtT01pdq401odq401veq401pfq401+uT01-uT01-uT01g",
      "wT01vXG01hyT01cYG01saG01zWr401kYU01iaU01icU01ZdG01cnr401sgU01wqr401bsr401liU01hlU01lfG01",
      "WoU01goU01loU01yhs401drs401drs401ktU01YmG01hzs401c+U01f+U01dnG01Wat401ocV01WrG01edV01ZdV",
      "01WeV01cyt401ZhV01XuG01dkV01YmV01boV01qvG01enu401dou401vwG01vsu401wxV01+vu401ryV01w-V01b",
      "WW101wcv401Zfv401WZW101ejv401mZW101-wi401r+G01obW101ZeW101hWH01+fW101rrM01dzv401rzv401py",
      "i401yyi401XmW101amW101+yZ101hZH01nqW101hqW101zqW101prK01nrW101prW101zrW101ctW101yvw401bt",
      "W101zuW101ZxW101jzW101ZvW101zzW101d-W101tYX101pwW101g+W101i+W101y+W101sXx401hhx401rcx401",
      "hfH01ndX101pdX101seX101g+y401ahX101ivx401zgH01XhH01nzx401ocy401hhH01moX101yoX101dpX101fp",
      "X101frX101eqX101kuX101YtX101vxX101evX101hxX101cyX101tkH01X-X101XWY101vlH01WZY101ZZY101dp",
      "z401tcY101+cY101rnH01wdY101xbD01kb+401ch+401+rH01dsH01WrY101jtY101gyY101rYZ101eb-401hbZ1",
      "01XcZ101xeZ101thZ101lv-401aWY401hkZ101yjZ101mlZ101+cY401qsZ101uvZ101okX501jlX501qaa101nd",
      "a101nea101kvX501xea101una101tsa101usa101ypa101v-a101rWb101w-Y501hib101riI01tjb101thZ501c",
      "lI01Zsb101ojN01Zvb101bga501wma501kpI01spI01W-b101gWb501orI01sab501hWc101hWc101fXc101sjb5",
      "01Ydc101pvI01ffc101djc101Ykc101+lc101k+I01mvc501ouc101WYd101zdd101kcJ01jdJ01dhd101kce501",
      "udJ01bee501kme501nqe501xrd101sgJ01vtd101+td101bud101lud101sud101xvd101Wmf5"]
  entriesFrom numbers.length 0 (fun n => (n, true)) numbers

/-- What a character stands for in a domain name, none when it may not occur. -/
def mapDomainChar? (c : Char) : Option (List Char) :=
  if c.toNat < 0x80 then some [c.toLower]
  else if domainRefused.contains c then none
  else if domainIgnored.contains c then some []
  else match domainReplacements.lookup c.toNat with
    | some (_, text) => some text
    | none => some [c]

end Jadn.Unicode
