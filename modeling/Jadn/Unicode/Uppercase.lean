import Jadn.Unicode.Table

/-!
Upper case of characters, which may be more than one character.
-/

namespace Jadn.Unicode

def uppercaseForms : List (Nat × Bool × List Char) :=
  let numbers := decode <| String.join [
      "r51ySf12p2p201W601X601Y601Z601a601b601c601d601e601f601g601h601i601j601k601l601m601n601o6",
      "01p601q601r601s611u601v601w601x601y601z601+601uB11W811Y811a811c811e811g811i811k811m811o8",
      "11q811s811u811w811y811+811W911Y911a911c911e911g911i911k911f211o911q911s921v911x911z911-9",
      "11XA11ZA11bA11dA02yLk211gA11iA11kA11mA11oA11qA11sA11uA11wA11yA11+A11WB11YB11aB11cB11eB11",
      "gB11iB11kB11mB11oB11qB11sB21vB11xB11zB01p201ZI21YC11aC21dC31hC51nC21sF31uC01zH01y+f121WH",
      "21WD11YD11aD21dD41iD21lD31pD11rD21uD31yD11tF51aE01aE11dE01dE11gE01gE11jE11lE11nE11pE11rE",
      "11tE11vE11xE01kC11+E11WF11YF11aF11cF11eF11gF11iF11kF02g2iO11nF01nF11qF31uF11wF11yF11+F11",
      "WG11YG11aG11cG11eG11gG11iG11kG11mG11oG11qG11sG11uG11wG11yG11+G31YH11aH11cH11eH11gH11iH11",
      "kH11mH11oH81xH21+ZB01-ZB11XI41cI11eI11gI11iI11kI01lZB01jZB01mZB01XC01cC11fC01gC11lC11mC0",
      "1hzf131pC01izf111qC01h+f101jyf101gzf111tC01sC01kzf101YZB01jzf121yC11kZB01zC21-C71aZB21cD",
      "11b+f101fD31nzf101kD01aI01nD01oD01bI51tDA1ozf101mzf1c51vSh11mR11oR31sR31zV01+V01-VI3vSeO",
      "XOR1cS01eS01fS01gS03bTeOXO01nS01oS01pS01qS01rS01sS01tS01uS01vS01wS01xS01yS01zS01+S01-S01",
      "WT01XT01ZT01ZT01aT01bT01cT01dT01eT01fT01gT01hT01iS01kS01lS11oS01uS31cT01WT01lU11uU11wU11",
      "yU11+U11WV11YV11aV11cV11eV11gV11iV11kV01wS01XT01vV01-R11rS21tV21wVq11mW101nW101oW101pW10",
      "1qW101rW101sW101tW101uW101vW101wW101xW101yW101zW101+W101-W101WX101XX101YX101ZX101aX101bX",
      "101cX101dX101eX101fX101gX101hX101iX101jX101kX101lX101WW101XW101YW101ZW101aW101bW101cW101",
      "dW101eW101fW101gW101hW101iW101jW101kW101lW111WZ111YZ111aZ111cZ111eZ111gZ111iZ111kZ111mZ1",
      "11oZ111qZ111sZ111uZ111wZ111yZ111+Z111Wa191ga111ia111ka111ma111oa111qa111sa111ua111wa111y",
      "a111+a111Wb111Yb111ab111cb111eb111gb111ib111kb111mb111ob111qb111sb111ub111wb111yb111+b12",
      "1Xc111Zc111bc111dc111fc111hc111jc101Wc111mc111oc111qc111sc111uc111wc111yc111+c111Wd111Yd",
      "111ad111cd111ed111gd111id111kd111md111od111qd111sd111ud111wd111yd111+d111We111Ye111ae111",
      "ce111ee111ge111ie111ke111me111oe111qe111se111ue111we111ye111+e111Wf111Yf111af111cf111ef1",
      "11gf111if111kf1n11nf101of101pf101qf101rf101sf101tf101uf101vf101wf101xf101yf101zf101+f101",
      "-f101Wg101Xg101Yg101Zg101ag101bg101cg101dg101eg101fg101gg101hg101ig101jg101kg101lg101mg1",
      "01ng101og101pg101qg101rg101sg102rf1og1ew21ma701na701oa701pa701qa701ra701sa701ta701ua701v",
      "a701wa701xa701ya701za701+a701-a701Wb701Xb701Yb701Zb701ab701bb701cb701db701eb701fb701gb70",
      "1hb701ib701jb701kb701lb701mb701nb701ob701pb701qb701rb701sb701tb701ub701vb701wb721zb701+b",
      "701-b7uN1m-401n-401o-401p-401q-401r-4Ya21oW101qW101+W101XX101YX101YX101gX101YZ101gof111f",
      "a7k71zxf131ZZBG1c+f1o31Wm711Ym711am711cm711em711gm711im711km711mm711om711qm711sm711um711",
      "wm711ym711+m711Wn711Yn711an711cn711en711gn711in711kn711mn711on711qn711sn711un711wn711yn7",
      "11+n711Wo711Yo711ao711co711eo711go711io711ko711mo711oo711qo711so711uo711wo711yo711+o711W",
      "p711Yp711ap711cp711ep711gp711ip711kp711mp711op711qp711sp711up711wp711yp711+p711Wq711Yq71",
      "1aq711cq711eq711gq711iq711kq711mq711oq711qq702e2nP02q2eO02t2gO02v2gO02X2+L01Wp751Wr711Yr",
      "711ar711cr711er711gr711ir711kr711mr711or711qr711sr711ur711wr711yr711+r711Ws711Ys711as711",
      "cs711es711gs711is711ks711ms711os711qs711ss711us711ws711ys711+s711Wt711Yt711at711ct711et7",
      "11gt711it711kt711mt711ot711qt711st711ut711wt711yt711+t701eu701fu701gu701hu701iu701ju701k",
      "u701lu781uu701vu701wu701xu701yu701zu7A1ev701fv701gv701hv701iv701jv701kv701lv781uv701vv70",
      "1wv701xv701yv701zv701+v701-v781ew701fw701gw701hw701iw701jw7A2bTpO01vw703bTpOWO01xw703bTp",
      "OXO01zw703bTpOYQ01-w781ex701fx701gx701hx701ix701jx701kx701lx781wz701xz701e+701f+701g+701",
      "h+701w+701x+701u-701v-701g-701h-701w-701x-722eu7vS02fu7vS02gu7vS02hu7vS02iu7vS02ju7vS02k",
      "u7vS02lu7vS02eu7vS02fu7vS02gu7vS02hu7vS02iu7vS02ju7vS02ku7vS02lu7vS02ev7vS02fv7vS02gv7vS",
      "02hv7vS02iv7vS02jv7vS02kv7vS02lv7vS02ev7vS02fv7vS02gv7vS02hv7vS02iv7vS02jv7vS02kv7vS02lv",
      "7vS02ex7vS02fx7vS02gx7vS02hx7vS02ix7vS02jx7vS02kx7vS02lx7vS02ex7vS02fx7vS02gx7vS02hx7vS0",
      "2ix7vS02jx7vS02kx7vS02lx7vS01uz701vz702wz7vS02nSvS02cSvS12nSYQ03nSYQvS42nSvS11vS32g+7vS0",
      "2tSvS02fSvS12tSYQ03tSYQvS42tSvS31u+701v+703vSeOWO03vSeOXO22vSYQ03vSeOYQ81e-701f-703bTeOW",
      "O03bTeOXO02XTpO01i-702bTYQ03bTeOYQA2w-7vS02fTvS02lSvS12fTYQ03fTYQvS42fTvSnA1of8X11Wh801X",
      "h801Yh801Zh801ah801bh801ch801dh801eh801fh801gh801hh801ih801jh801kh801lh841Zi8hQ1sb901tb9",
      "01ub901vb901wb901xb901yb901zb901+b901-b901Wc901Xc901Yc901Zc901ac901bc901cc901dc901ec901f",
      "c901gc901hc901ic901jc901kc901lc9cw11WWB01XWB01YWB01ZWB01aWB01bWB01cWB01dWB01eWB01fWB01gW",
      "B01hWB01iWB01jWB01kWB01lWB01mWB01nWB01oWB01pWB01qWB01rWB01sWB01tWB01uWB01vWB01wWB01xWB01",
      "yWB01zWB01+WB01-WB01WXB01XXB01YXB01ZXB01aXB01bXB01cXB01dXB01eXB01fXB01gXB01hXB01iXB01jXB",
      "01kXB01lXB11WZB31wH01+H11dZB11fZB11hZB61oZB21rZBA1WaB11YaB11aaB11caB11eaB11gaB11iaB11kaB",
      "11maB11oaB11qaB11saB11uaB11waB11yaB11+aB11WbB11YbB11abB11cbB11ebB11gbB11ibB11kbB11mbB11o",
      "bB11qbB11sbB11ubB11wbB11ybB11+bB11WcB11YcB11acB11ccB11ecB11gcB11icB11kcB11mcB11ocB11qcB1",
      "1scB11ucB11wcB11ycB11+cB11WdB11YdB81hdB11jdB41odBC1Wb401Xb401Yb401Zb401ab401bb401cb401db",
      "401eb401fb401gb401hb401ib401jb401kb401lb401mb401nb401ob401pb401qb401rb401sb401tb401ub401",
      "vb401wb401xb401yb401zb401+b401-b401Wc401Xc401Yc401Zc401ac401bc411dc451jc4peU1Wof111Yof11",
      "1aof111cof111eof111gof111iof111kof111mof111oof111qof111sof111uof111wof111yof111+of111Wpf",
      "111Ypf111apf111cpf111epf111gpf111ipf1J1Wqf111Yqf111aqf111cqf111eqf111gqf111iqf111kqf111m",
      "qf111oqf111qqf111sqf111uqf111wqf1d41Yvf111avf111cvf111evf111gvf111ivf111kvf131ovf111qvf1",
      "11svf111uvf111wvf111yvf111+vf111Wwf111Ywf111awf111cwf111ewf111gwf111iwf111kwf111mwf111ow",
      "f111qwf111swf111uwf111wwf111ywf111+wf111Wxf111Yxf111axf111cxf111exf111gxf111ixf111kxf1A1",
      "vxf111xxf121+xf111Wyf111Yyf111ayf111cyf141hyf141myf111oyf101a+f121syf111uyf111wyf111yyf1",
      "11+yf111Wzf111Yzf111azf111czf111ezf1B1qzf111szf111uzf111wzf111yzf111+zf111W+f111Y+f141d+",
      "f111f+f121i+f111k+f111m+f111o+f111q+f111s+f111u+f111w+f1Q1r-f1yQ1pzf1S1Wz401Xz401Yz401Zz",
      "401az401bz401cz401dz401ez401fz401gz401hz401iz401jz401kz401lz401mz401nz401oz401pz401qz401",
      "rz401sz401tz401uz401vz401wz401xz401yz401zz401+z401-z401W+401X+401Y+401Z+401a+401b+401c+4",
      "01d+401e+401f+401g+401h+401i+401j+401k+401l+401m+401n+401o+401p+401q+401r+401s+401t+401u",
      "+401v+401w+401x+401y+401z+401++401-+401W-401X-401Y-401Z-401a-401b-401c-401d-401e-401f-40",
      "1g-401h-401i-401j-401k-401l-4WwJ2c2c202c2f202c2i203c2c2f203c2c2i202p2q202p2q2C2ag1cg102a",
      "g1rf102ag1xf102kg1cg102ag1zf1fX11Xv-101Yv-101Zv-101av-101bv-101cv-101dv-101ev-101fv-101g",
      "v-101hv-101iv-101jv-101kv-101lv-101mv-101nv-101ov-101pv-101qv-101rv-101sv-101tv-101uv-10",
      "1vv-101wv-1jc11WWX201XWX201YWX201ZWX201aWX201bWX201cWX201dWX201eWX201fWX201gWX201hWX201i",
      "WX201jWX201kWX201lWX201mWX201nWX201oWX201pWX201qWX201rWX201sWX201tWX201uWX201vWX201wWX20",
      "1xWX201yWX201zWX201+WX201-WX201WXX201XXX201YXX201ZXX201aXX201bXX201cXX201dXX2e41mbX201nb",
      "X201obX201pbX201qbX201rbX201sbX201tbX201ubX201vbX201wbX201xbX201ybX201zbX201+bX201-bX201",
      "WcX201XcX201YcX201ZcX201acX201bcX201ccX201dcX201ecX201fcX201gcX201hcX201icX201jcX201kcX2",
      "01lcX201mcX201ncX201ocX201pcX2x41mhX201nhX201ohX201phX201qhX201rhX201shX201thX201uhX201v",
      "hX201whX211yhX201zhX201+hX201-hX201WiX201XiX201YiX201ZiX201aiX201biX201ciX201diX201eiX20",
      "1fiX201giX211iiX201jiX201kiX201liX201miX201niX201oiX211qiX201riX2Zu11WaZ201XaZ201YaZ201Z",
      "aZ201aaZ201baZ201caZ201daZ201eaZ201faZ201gaZ201haZ201iaZ201jaZ201kaZ201laZ201maZ201naZ20",
      "1oaZ201paZ201qaZ201raZ201saZ201taZ201uaZ201vaZ201waZ201xaZ201yaZ201zaZ201+aZ201-aZ201WbZ",
      "201XbZ201YbZ201ZbZ201abZ201bbZ201cbZ201dbZ201ebZ201fbZ201gbZ201hbZ201ibZ201jbZ201kbZ201l",
      "bZ201mbZ201nbZ201obZ2z31mgZ201ngZ201ogZ201pgZ201qgZ201rgZ201sgZ201tgZ201ugZ201vgZ201wgZ2",
      "01xgZ201ygZ201zgZ201+gZ201-gZ201WhZ201XhZ201YhZ201ZhZ201ahZ201bhZ2wv21Wbc201Xbc201Ybc201",
      "Zbc201abc201bbc201cbc201dbc201ebc201fbc201gbc201hbc201ibc201jbc201kbc201lbc201mbc201nbc2",
      "01obc201pbc201qbc201rbc201sbc201tbc201ubc201vbc201wbc201xbc201ybc201zbc201+bc201-bc2WiL1",
      "Wox201Xox201Yox201Zox201aox201box201cox201dox201eox201fox201gox201hox201iox201jox201kox2",
      "01lox201mox201nox201oox201pox201qox201rox201sox201tox201uox201vox201wox201xox201yox201zo",
      "x201+ox201-ox2x11Wrx201Xrx201Yrx201Zrx201arx201brx201crx201drx201erx201frx201grx201hrx20",
      "1irx201jrx201krx201lrx201mrx201nrx201orx201prx201qrx201rrx201srx201trx201urx2koU1Wew301X",
      "ew301Yew301Zew301aew301bew301cew301dew301eew301few301gew301hew301iew301jew301kew301lew30",
      "1mew301new301oew301pew301qew301rew301sew301tew301uew301vew301wew301xew301yew301zew301+ew",
      "301-ew301Wfw301Xfw3"]
  entriesFrom numbers.length 0 (fun n => (n, true)) numbers

def uppercase (c : Char) : List Char :=
  if c.toNat < 0x80 then [c.toUpper]
  else match uppercaseForms.lookup c.toNat with
    | some (_, text) => text
    | none => [c]

/-- The text with its first character in upper case. -/
def capitalize (text : String) : String :=
  match text.toList with
  | [] => ""
  | c :: cs => String.ofList (uppercase c ++ cs)

end Jadn.Unicode
