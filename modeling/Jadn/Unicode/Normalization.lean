import Jadn.Unicode.Table

/-!
Canonical equivalence of texts: what characters decompose into, how combining characters are
ordered, and the composed normal form in which equivalent texts are equal.
-/

namespace Jadn.Unicode

def combiningRuns : List (Nat × Nat × Nat) :=
  runsFrom 0 <| decode <| String.join [
    "0WOc7Le71y64e71u61y65g62y64g62y6B15y64c78m71c71y63c73y6201c73y64c71e71y62c71f71g72f71g72",
    "f71c7D0p8c750f8y61c74y61c73+61y61c76y66c72y61c72+61a71c71A1B1C1D1E1F1G1H1I1J2K1L1M101N10",
    "1O1P101c71y6101I10e2c78U1V1W110m1R1S1T1U1V1W11X11Y11c72y62c75y61c72y610GZ110b3c7702c74y6",
    "1c7102c7201y61c72y610Z1a110Uc71y61c72y61c72y63c71y62c71y61c73y61c71y61c71y61c71y61c720W5",
    "c77y61c7109y610Oc7401c7901c7301c750h1y630x1c72y63c740g1c75y65c7E01y61c72y61c72y61c73y63R",
    "1S1T1c73y61c72y62c750y1710G9103c71y61c720d3710G910m1c710z1710G910k3710G910k3710G910-3910",
    "k3710G9107q21x210b3710G910j3920G910y3910j3d32910Dh340i3s32910Dw340i2y620Ry6101y6101u610t",
    "1X41Y4101a4105Y4402Y4101c729101c720+1y610m37101920o2y610lMc730qT920U910z4910Ac710h6a710l",
    "4+61c71y610x6c71y610d2910Kc7802y610m1c75y66c72y6101y62c72y62c75y61c7Iy6102c76y61c74g710e",
    "2710F910c1c71y61c770s1920w1710B920Z2710u4c730111y65c72y64c71011704y6106c7103c720c6c72y61",
    "c77y61c72g71s61y61g61c7b1e71a72y61w61c71f71y61c71y610mMc7212c7413c7204c710312c71y61c7112",
    "y64c710+-2c730j4910W3c7W10gHw61a71e71+61W720f3820qkTc7104c7A0W1c720m2c720q8910b1910t4910",
    "Rc7I0v1y630b1910-2710C910l7c7101c72y6102c7205c7201c710q1910s7910mvJQ10XOc77y67c720jUy610",
    "Y7y610r4c750oq1y6101c710e1c7111y6104910b5c71y610zHc740X2c750z9c720j2y6201y630c2y62c73y61",
    "c71y640n1c71y61c71y610W6910f1910E910v191710b2c730m1920+1710i29109710g391710o571910m2720G",
    "910Oc7703c750v2930n39103710Nc710Z391710x791710+3910s391710p3910j891710Y89204710y4910p291",
    "0I910n2910bD910Y87101920n2910fD920ilG910Wk2150x1c770vb1620ibJ110cc5u621303Y71u6508y6802c",
    "75y620Uc740q4c730xj3c7701c7H02c7701c7201c750a3c710W5c770tBc710z1c740yFe72y61c710+7c71y61",
    "0p7c7102c7107c7205c710wEy670j3c76710rrbU"]

/-- The class that orders combining characters, zero for all others. -/
def combiningClass (c : Char) : Nat :=
  if c.toNat < 0x300 then 0 else classIn combiningRuns c

/-- Characters with their full decompositions, marked where the normal form composes them. -/
def decompositions : List (Nat × Bool × List Char) :=
  let numbers := decode <| String.join [
      "W65X2WO05X2XO05X2YO05X2ZO05X2eO05X2gO15Z2dP05b2WO05b2XO05b2YO05b2eO05f2WO05f2XO05f2YO05f",
      "2eO15k2ZO05l2WO05l2XO05l2YO05l2ZO05l2eO25r2WO05r2XO05r2YO05r2eO05v2XO25X3WO05X3XO05X3YO0",
      "5X3ZO05X3eO05X3gO15Z3dP05b3WO05b3XO05b3YO05b3eO05f3WO05f3XO05f3YO05f3eO15k3ZO05l3WO05l3X",
      "O05l3YO05l3ZO05l3eO25r3WO05r3XO05r3YO05r3eO05v3XO15v3eO05X2aO05X3aO05X2cO05X3cO05X2eP05X",
      "3eP05Z2XO05Z3XO05Z2YO05Z3YO05Z2dO05Z3dO05Z2iO05Z3iO05a2iO05a3iO25b2aO05b3aO05b2cO05b3cO0",
      "5b2dO05b3dO05b2eP05b3eP05b2iO05b3iO05d2YO05d3YO05d2cO05d3cO05d2dO05d3dO05d2dP05d3dP05e2Y",
      "O05e3YO25f2ZO05f3ZO05f2aO05f3aO05f2cO05f3cO05f2eP05f3eP05f2dO35g2YO05g3YO05h2dP05h3dP15i",
      "2XO05i3XO05i2dP05i3dP05i2iO05i3iO45k2XO05k3XO05k2dP05k3dP05k2iO05k3iO35l2aO05l3aO05l2cO0",
      "5l3cO05l2hO05l3hO25o2XO05o3XO05o2dP05o3dP05o2iO05o3iO05p2XO05p3XO05p2YO05p3YO05p2dP05p3d",
      "P05p2iO05p3iO05q2dP05q3dP05q2iO05q3iO25r2ZO05r3ZO05r2aO05r3aO05r2cO05r3cO05r2gO05r3gO05r",
      "2hO05r3hO05r2eP05r3eP05t2YO05t3YO05v2YO05v3YO05v2eO05w2XO05w3XO05w2dO05w3dO05w2iO05w3iOX",
      "15l2xO05l3xOD5r2xO05r3xOS5X2iO05X3iO05f2iO05f3iO05l2iO05l3iO05r2iO05r3iO07r2eOaO07r3eOaO",
      "07r2eOXO07r3eOXO07r2eOiO07r3eOiO07r2eOWO07r3eOWO17X2eOaO07X3eOaO07X2dOaO07X3dOaO05c6aO05",
      "c7aO25d2iO05d3iO05h2iO05h3iO05l2eP05l3eP07l2ePaO07l3ePaO05tDiO05oKiO05g3iO35d2XO05d3XO25",
      "k2WO05k3WO07X2gOXO07X3gOXO05c6XO05c7XO05u6XO05u7XO05X2lO05X3lO05X2nO05X3nO05b2lO05b3lO05",
      "b2nO05b3nO05f2lO05f3lO05f2nO05f3nO05l2lO05l3lO05l2nO05l3nO05o2lO05o3lO05o2nO05o3nO05r2lO",
      "05r3lO05r2nO05r3nO05p2cP05p3cP05q2cP05q3cP25e2iO05e3iO65X2dO05X3dO05b2dP05b3dP07l2eOaO07",
      "l3eOaO07l2ZOaO07l3ZOaO05l2dO05l3dO07l2dOaO07l3dOaO05v2aO05v3aOi82WO02XO12pO04eOXOl12vL92",
      "x165e5XO05nSXO02t505rSXO05tSXO05vSXO15-SXO15bTXO05fTXO07vTeOXOP5vSeO05bTeO05nTXO05rTXO05",
      "tTXO05vTXO07bUeOXOP5vTeO05bUeO05-TXO05bUXO05fUXO45oUXO05oUeOh15rW1WO05rW1eO15pW1XO35cW1e",
      "O45wW1XO05uW1WO05ZX1cOA5uW1cOV5uX1cOM5rX1WO05rX1eO15pX1XO35sY1eO45wX1XO05uX1WO05ZY1cON5q",
      "Z1lO05rZ1lOf25sW1cO05sX1cOD5mW1cO05mX1cO05mW1eO05mX1eO25rW1cO05rX1cO25uc1eO05vc1eO05sW1e",
      "O05sX1eO05tW1eO05tX1eO25uW1aO05uX1aO05uW1eO05uX1eO05+W1eO05+X1eO25ed1eO05fd1eO05jX1eO05j",
      "Y1eO05ZX1aO05ZY1aO05ZX1eO05ZY1eO05ZX1hO05ZY1hO05dX1eO05dY1eO25hX1eO05hY1eOe95dn1po105dn1",
      "qo105eo1qo105dn1ro105go1qo1v45rs1qo115Xs1qo1G5os1qo1rI5ef2yf275mf2yf225pf2yf2Z14re2yf204",
      "se2yf204te2yf204ye2yf204Xf2yf204Yf2yf204hf2yf204lf2yf2h35dk2+j205dk2tk2F4Xj2yj204Yj2yj21",
      "4lj2yj2p24on2yn224un2yn2Y14sm2yn204tm2yn204ym2yn224hn2yn2f75dw2sw225dw2+v205dw2tw2F4Xv2y",
      "v204Yv2yv2s15oy2t+2r15c+2+z205d+2+z205c+2t+2x35cY3sY3t35-b3rc365cc3rc305cc3sc315cc3Yc307",
      "cc3Yc3rc3+35cg3+f305dg3+f305cg3tg3j45vk3gk315vk3lk307vk3lk3gk305vk3-k3aB4Yw3tz394iw3tz34",
      "4nw3tz344sw3tz344xw3tz3C4Ww3rz394nx3ox314nx3qx304oz3Wy314pz3Wy384nx3Wy3H4oy3tz394yy3tz34",
      "4Xz3tz344cz3tz344hz3tz3C4my3rz3i35bX4kX4-s25bu6rv615du6rv615fu6rv615hu6rv615ju6rv635nu6r",
      "v6e15wv6rv615yv6rv625+v6rv605-v6rv615Yw6rv6yL5X2bP05X3bP05Y2dO05Y3dO05Y2ZP05Y3ZP05Y2nP05",
      "Y3nP07Z2dPXO07Z3dPXO05a2dO05a3dO05a2ZP05a3ZP05a2nP05a3nP05a2dP05a3dP05a2jP05a3jP07b2aOWO",
      "07b3aOWO07b2aOXO07b3aOXO05b2jP05b3jP05b2mP05b3mP07b2dPcO07b3dPcO05c2dO05c3dO05d2aO05d3aO",
      "05e2dO05e3dO05e2ZP05e3ZP05e2eO05e3eO05e2dP05e3dP05e2kP05e3kP05f2mP05f3mP07f2eOXO07f3eOXO",
      "05h2XO05h3XO05h2ZP05h3ZP05h2nP05h3nP05i2ZP05i3ZP07i2ZPaO07i3ZPaO05i2nP05i3nP05i2jP05i3jP",
      "05j2XO05j3XO05j2dO05j3dO05j2ZP05j3ZP05k2dO05k3dO05k2ZP05k3ZP05k2nP05k3nP05k2jP05k3jP07l2",
      "ZOXO07l3ZOXO07l2ZOeO07l3ZOeO07l2aOWO07l3aOWO07l2aOXO07l3aOXO05m2XO05m3XO05m2dO05m3dO05o2",
      "dO05o3dO05o2ZP05o3ZP07o2ZPaO07o3ZPaO05o2nP05o3nP05p2dO05p3dO05p2ZP05p3ZP07p2XOdO07p3XOdO",
      "07p2iOdO07p3iOdO07p2ZPdO07p3ZPdO05q2dO05q3dO05q2ZP05q3ZP05q2nP05q3nP05q2jP05q3jP05r2aP05",
      "r3aP05r2mP05r3mP05r2jP05r3jP07r2ZOXO07r3ZOXO07r2aOeO07r3aOeO05s2ZO05s3ZO05s2ZP05s3ZP05t2",
      "WO05t3WO05t2XO05t3XO05t2eO05t3eO05t2dO05t3dO05t2ZP05t3ZP05u2dO05u3dO05u2eO05u3eO05v2dO05",
      "v3dO05w2YO05w3YO05w2ZP05w3ZP05w2nP05w3nP05e3nP05q3eO05t3gO05v3gO15-BdO45X2ZP05X3ZP05X2fO",
      "05X3fO07X2YOXO07X3YOXO07X2YOWO07X3YOWO07X2YOfO07X3YOfO07X2YOZO07X3YOZO07X2ZPYO07X3ZPYO07",
      "X2cOXO07X3cOXO07X2cOWO07X3cOWO07X2cOfO07X3cOfO07X2cOZO07X3cOZO07X2ZPcO07X3ZPcO05b2ZP05b3",
      "ZP05b2fO05b3fO05b2ZO05b3ZO07b2YOXO07b3YOXO07b2YOWO07b3YOWO07b2YOfO07b3YOfO07b2YOZO07b3YO",
      "ZO07b2ZPYO07b3ZPYO05f2fO05f3fO05f2ZP05f3ZP05l2ZP05l3ZP05l2fO05l3fO07l2YOXO07l3YOXO07l2YO",
      "WO07l3YOWO07l2YOfO07l3YOfO07l2YOZO07l3YOZO07l2ZPYO07l3ZPYO07l2xOXO07l3xOXO07l2xOWO07l3xO",
      "WO07l2xOfO07l3xOfO07l2xOZO07l3xOZO07l2xOZP07l3xOZP05r2ZP05r3ZP05r2fO05r3fO07r2xOXO07r3xO",
      "XO07r2xOWO07r3xOWO07r2xOfO07r3xOfO07r2xOZO07r3xOZO07r2xOZP07r3xOZP05v2WO05v3WO05v2ZP05v3",
      "ZP05v2fO05v3fO05v2ZO05v3ZO65nTpO05nTqO07nTpOWO07nTqOWO07nTpOXO07nTqOXO07nTpOYQ07nTqOYQ05",
      "nSpO05nSqO07nSpOWO07nSqOWO07nSpOXO07nSqOXO07nSpOYQ07nSqOYQ05rTpO05rTqO07rTpOWO07rTqOWO07",
      "rTpOXO07rTqOXO25rSpO05rSqO07rSpOWO07rSqOWO07rSpOXO07rSqOXO25tTpO05tTqO07tTpOWO07tTqOWO07",
      "tTpOXO07tTqOXO07tTpOYQ07tTqOYQ05tSpO05tSqO07tSpOWO07tSqOWO07tSpOXO07tSqOXO07tSpOYQ07tSqO",
      "YQ05vTpO05vTqO07vTpOWO07vTqOWO07vTpOXO07vTqOXO07vTpOYQ07vTqOYQ05vSpO05vSqO07vSpOWO07vSqO",
      "WO07vSpOXO07vSqOXO07vSpOYQ07vSqOYQ05-TpO05-TqO07-TpOWO07-TqOWO07-TpOXO07-TqOXO25-SpO05-S",
      "qO07-SpOWO07-SqOWO07-SpOXO07-SqOXO25bUpO05bUqO07bUpOWO07bUqOWO07bUpOXO07bUqOXO07bUpOYQ07",
      "bUqOYQ15bTqO17bTqOWO17bTqOXO17bTqOYQ05fUpO05fUqO07fUpOWO07fUqOWO07fUpOXO07fUqOXO07fUpOYQ",
      "07fUqOYQ05fTpO05fTqO07fTpOWO07fTqOWO07fTpOXO07fTqOXO07fTpOYQ07fTqOYQ05nTWO04nTXO05rTWO04",
      "rTXO05tTWO04tTXO05vTWO04vTXO05-TWO04-TXO05bUWO04bUXO05fUWO04fUXO27nTpObQ07nTqObQ09nTpOWO",
      "bQ09nTqOWObQ09nTpOXObQ09nTqOXObQ09nTpOYQbQ09nTqOYQbQ07nSpObQ07nSqObQ09nSpOWObQ09nSqOWObQ",
      "09nSpOXObQ09nSqOXObQ09nSpOYQbQ09nSqOYQbQ07tTpObQ07tTqObQ09tTpOWObQ09tTqOWObQ09tTpOXObQ09",
      "tTqOXObQ09tTpOYQbQ09tTqOYQbQ07tSpObQ07tSqObQ09tSpOWObQ09tSqOWObQ09tSpOXObQ09tSqOXObQ09tS",
      "pOYQbQ09tSqOYQbQ07fUpObQ07fUqObQ09fUpOWObQ09fUqOWObQ09fUpOXObQ09fUqOXObQ09fUpOYQbQ09fUqO",
      "YQbQ07fTpObQ07fTqObQ09fTpOWObQ09fTqOWObQ09fTpOXObQ09fTqOXObQ09fTpOYQbQ09fTqOYQbQ05nTcO05",
      "nTaO07nTWObQ05nTbQ07nTXObQ15nTYQ07nTYQbQ05nScO05nSaO05nSWO04nSXO05nSbQ12vT25e5YQ07tTWObQ",
      "05tTbQ07tTXObQ15tTYQ07tTYQbQ05rSWO04rSXO05tSWO04tSXO05tSbQ05-z7WO05-z7XO05-z7YQ05vTcO05v",
      "TaO07vTeOWO06vTeOXO25vTYQ07vTeOYQ05vScO05vSaO05vSWO04vSXO15+-7WO05+-7XO05+-7YQ05bUcO05bU",
      "aO07bUeOWO06bUeOXO05XUpO05XUqO05bUYQ07bUeOYQ05bTcO05bTaO05bTWO04bTXO05XTqO05e5WO04e5XO02",
      "W327fUWObQ05fUbQ07fUXObQ15fUYQ07fUYQbQ05-SWO04-SXO05fTWO04fTXO05fTbQ02q522YW802ZW8a92fT3",
      "2h204X2gOk35mi8uP05oi8uPI5qi8uPU5mk8uP05qk8uP05ok8uPq15Zm8uP45em8uP25hm8uPN5Zn8uP15bn8uP",
      "Q5yn8uP25Zo8uP25bo8uP15eo8uPM5z1uP15Xp8uPA5jo8uP05y1uP05+1uP05ap8uP05bp8uP25op8uP05pp8uP",
      "25sp8uP05tp8uP65wp8uP05xp8uP25Yq8uP05Zq8uP25cq8uP05dq8uPY15Yr8uP05er8uP05fr8uP05hr8uPm15",
      "yp8uP05zp8uP05nq8uP05oq8uP65or8uP05pr8uP05qr8uP05rr8uPx12eWC02fWCnz14zsAuPlh15hYCvaC15jY",
      "CvaC15lYCvaC15nYCvaC15pYCvaC15rYCvaC15tYCvaC15vYCvaC15xYCvaC15zYCvaC15-YCvaC15XZCvaC25aZ",
      "CvaC15cZCvaC15eZCvaC65lZCvaC05lZCwaC15oZCvaC05oZCwaC15rZCvaC05rZCwaC15uZCvaC05uZCwaC15xZ",
      "CvaC05xZCwaCM5cYCvaC95zaCvaCD5hbCvaC15jbCvaC15lbCvaC15nbCvaC15pbCvaC15rbCvaC15tbCvaC15vb",
      "CvaC15xbCvaC15zbCvaC15-bCvaC15XcCvaC25acCvaC15ccCvaC15ecCvaC65lcCvaC05lcCwaC15ocCvaC05oc",
      "CwaC15rcCvaC05rcCwaC15ucCvaC05ucCwaC15xcCvaC05xcCwaCM5cbCvaC25ldCvaC05mdCvaC05ndCvaC05od",
      "CvaC35zdCvaCXWo12eYZ102qtP02gsZ102ecZ102nsR02onJ02b-K02yyd102yyd102ngM02nka102diL02egM02",
      "slO02fpT02byV02-nX102wzX102udY102laa102YmQ02xeR02vcS02++S02zXX102gha102nlc102YqJ02rxK02a",
      "uQ02xmS02jnX102+md102mgN02h-R02jkX102ahY102fsO02ukW102-WY102gsN02tuP02ghR02ytS02kca102cy",
      "J02tjK02+sK02acP02psQ02mmS02dtT02XWW102cmX102yoX102llZ102ovb102lxc102wld102iaU02-hU02WjV",
      "02f+W102aua102-pd102ssY102-cM02auN02WZV02+ZW102YpS02gcU02YcZ102ttb102ucM02YZN02pmQ02wkR0",
      "2luR02lfV02tnV02hob102osK02haW102ykK02ikK02ymU02+jV02n-W102rpb102WyY102lsO02YmQ02+tY102v",
      "nJ02d-M02oWO02dyS02mhT02tuK02xdU02-zJ02fzN02jmJ02icR02uhP02YfV02Z+K02+YM02XuT02fYX102grY",
      "102wzQ02mzZ102eaR02+tO02btW102WzO02bhT02krJ02fhK02fkK02XaQ02ddV02lpW102osY102lka102rtK02",
      "YYL02phM02itN02bkP02+-R02gfU02jjb102gpc102tqd102ksd102xqK02csP02txQ02YxZ102qpN02miO02WmO",
      "02waP02ZvR02fgS02faT02gkU02qlV02lZW102cvZ102kdX102ZXa102gwa102tmK02ZrK02zbL02ecS02YcY102",
      "grY102fsN02r-N02xxO02kzQ02+XV02rxS02atJ02vtL02d-M02wjN02yWO02ozS02fZT02wyV02cYW102qna102",
      "stb102ewb102uWc102hyJ02kjU02qja102urb102XdO02cqJ02wcK02k-M02-XN02viP02YmQ02kkS02YoT02ydX",
      "102yZa102jyd102eqP02knb102fqK02xxP02p-P02XgR02yqR02fWT02vgT02hZU02meV02+Yc102jhK02knO02u",
      "pb102hXK02veN02glR02gvZ102hyN02agO02tWQ02dyS02cqb102fnK02lWL02bZN02pmP02kwP02ebQ02bdR02c",
      "WT02YlT02vxV02lcY102XdY102ika102Ytb102-vK02wrR02zWL02mkS02uaT02wlX102Zrb102tYd102-qd102t",
      "yP02hkR02elW102hsU02WvU02oaV02WsS02vaS02uwY102WsJ02svW102wnK02dmK02crN02psO02scV02byM02+",
      "eR02qrP02xvZ102iYY102job102hiY102psN02WgK02WkL22wYM12qpP22+kK02gvS02gsT02yfU02+gU02bhU02",
      "liU02swb102+bV02zzV12omX112utY122uXa102zda132ldc102ydc102efc102qjd102+ca102trb102kzJ02dd",
      "K02jgK02fsK02atK02nwK02ziL02cmL02epL02WYM02ebM02aZN02kZN02qaO02ehO02kiO02olO02lgP02YlP02",
      "nqP02baQ02thR02wmR02YvR02khS02hnS02YXT02naU02+fU02fgU02egU02mgU02sgU02zgU02jiU02kiU02WoU",
      "02XqU02W+U02qlV02fmV02XoV02oxV02bWW102jlW102vpW102vpW102tYX102meY102siY102XuY102vvY102pc",
      "Z102eeZ102szZ102uXa102Ztb102--b102xXc102rZO02ktm402umW122cnJ02rjK02ehK02WyJ02bgK02WiK02d",
      "sK02wtK02ziL02rgL02viL02YlL02wYM02pbM02agM02qgM02YpM02evM02osN02vsN02fxN02jzN02ucO02kgO0",
      "2eeO02kiO02WhO02olO02qnO02a+O02yWP02oYP02sgP02qpP02tuP02xuP02swP02vxQ02wzQ02XgR02xsR02hs",
      "R02YvR02+WS02khS02dzT02rnS02lrS02gvS02nZT02ceT02xfT02zmT02-mT02gsT02xsT02qtT02gwT02WwT02",
      "icU02nrU02W+U02xZV02xgV02qlV02+vV02bWW102owW102l-W102vxX102XgY102ciY102siY102-rY102utY10",
      "2hsY102XuY102+tY102jtY102vvY102gyY102eeZ102uvZ102oZa102via102spa102ypb102Ztb102swb102x+b",
      "102--b102hWc102xXc102ouc102yyd102gYg402aYg402r+i402zyE02uWG02vXG02foq402mct402ps-402Zwd1",
      "02kyd1Z24vk1qj114ol1tj1A4fl1Xk104fl1Yk106fl1yj1Xk106fl1yj1Yk104mk1tj104mk1uj104mk1yj104n",
      "k1yj104ok1yj104pk1yj104qk1yj104rk1yj104sk1yj114uk1yj104vk1yj104wk1yj104xk1yj104yk1yj114+",
      "k1yj114Wl1yj104Xl1yj114Zl1yj104al1yj114cl1yj104dl1yj104el1yj104fl1yj104gl1yj104rk1vj104n",
      "k1-j104xk1-j104al1-j1wp25okX2dOQ5wkX2dOrr25vaa2wba215xaa2wba2E5bba2wba2Y45nfa2dfa205ofa2",
      "dfa2xG5dwa2+va205dwa2twa2s15Yya2f+a215aya2xza285hya2Y+a225mya2f+a2p15Y+a2Y+a215Y+a2uza20",
      "5Y+a2f+a2o75vbb2wbb205vbb2mbb215vbb2zbb2x75ujb2ljb205vjb2ljb2yR5rfc2mfc2e-H5+eu2+eu205+e",
      "u2ffu205+eu2-eu205ffu2-eu205+eu2Wfu207+eu2+eu2-eu207+eu2ffu2-eu207+eu2+eu2Wfu2-X35dhx2dh",
      "x205Zhx2dhx207Zhx2dhx2dhx2p-O4tgq3bhq304ugq3bhq306ugq3bhq3khq306ugq3bhq3lhq306ugq3bhq3mh",
      "q306ugq3bhq3nhq306ugq3bhq3ohq3s24vjq3bhq304wjq3bhq306vjq3bhq3khq306wjq3bhq3khq306vjq3bhq",
      "3lhq306wjq3bhq3lhq3-nf22znJ02unJ02XoJ02YfW402WxJ02kzJ02xzJ02YWK02wZK02vaK02ddK02lcK02+aD",
      "02wnX402jgK02qgK02ahK02thK02yeX402vbD02dhK02jiK02hgX402tiK02ajK02isJ02ijK02rjK02-ka502rl",
      "K02ZmK02-cD02xnK02coK02opK02tpK02reD02dsK02fsK02atK02wtK02buK02cuK02tuK02fwK02nwK02wwK02",
      "pxK02zxK02-xK02-xK02-xK02inY402mZS02g+K02-+K02ZxY402h-K02n-K02cWL02+aL02uXL02eYL02eZL02Y",
      "bL02sdL02meL02pgL02ZhL02aiL02aiL02viL02hjL02pjL02YkL02suL02cmL02tuL02noL02qpL02dmK02kdM0",
      "2k+L02q-L02jWM02hyL02oXM02nXM02ibM02adb402odM02tdM02ceM02weM02YfM02YhM02erb402gtb402ilM0",
      "2xmM02dnM02ukM02cpM02ktD02ytD02euM02+vM02+vM02ekc402Z+M02u+M02d-M02p-M02uuc402--M02cWN02",
      "pwN02YXN02XyD02WZN02kZN02WcN02jaN02ald402ZgN02cld402khN02hhN02yhN02XlN02YlN02lXE02zlN02e",
      "nN02znN02fpN02YZE02Zie402yZE02mrN02prN02srN02gsN02oye502+tN02nve402nve402XmW102YvN02YvN0",
      "2dcE02uri402wku402YxN02hxN02ZdE02wyN02j+N02t+N02v-N02XaO02wfE02yeE02qaO02qsf402dcO02egO0",
      "2igO02kgO02igO02whO02kiO02ojO02ajO02ljO02+kO02olO02slO02mmO02xmO02zoO02nrO02qsO02mwO02iu",
      "g402zvO02ytO02exO02ZyO02a-O02n-g402YXP02b+O02fzO02knE02fZP02+ZP02zaP02tZP02ipE02lgP02ihP",
      "02gWi402ZlP02utP02foP02vuE02nqP02euE02atE02oiK02riK02WuP02yqP02jbW102v+G02tuP02xuP02XvP0",
      "2+wP02pwP02Z+i402fwE02w-P02byP02oYQ02baQ02jZj402kaQ02-WQ02qeQ02zyE02YgQ02ZjQ02glQ02erQ02",
      "Zrj402xsQ02uWF02XvQ02dbk402qwQ02kYF02oxQ02-yQ02wzQ02xzQ02jqk402hed402wtk402kYR02ybl402-b",
      "R02jcR02dZR02seR02+fR02thR02XgR02fhR02uhR02biR02+el402qfR02lnR02kpR02pfF02hsR02dsR02nsl4",
      "02vlR02kxR02+wl402kyl402c+R02vXS02+WS02xWS02siF02gYS02zZS02tZS02jbS02bfX402bgS02Zpm402yi",
      "S02hzm402enS02rnS02moS02emn402WqS02rqS02rvn402qWo402wxS02hyS02irF02bzS02urF02urF02dYT02y",
      "YT02nZT02baT02gcT02xuF02afT02sXp402+fT02oap402mhT02-ie402mmT02Xzp402uzp402aYq402y-F02eWG",
      "02qtT02pdq402odq402veq402pfq402+uT02-uT02-uT02gwT02vXG02hyT02cYG02saG02zWr402kYU02iaU02i",
      "cU02ZdG02cnr402sgU02wqr402bsr402liU02hlU02lfG02WoU02goU02loU02yhs402drs402drs402ktU02YmG",
      "02hzs402c+U02f+U02dnG02Wat402ocV02WrG02edV02ZdV02WeV02cyt402ZhV02XuG02dkV02YmV02boV02qvG",
      "02enu402dou402vwG02vsu402wxV02+vu402ryV02w-V02bWW102wcv402Zfv402WZW102ejv402mZW102-wi402",
      "r+G02obW102ZeW102hWH02+fW102rrM02dzv402rzv402pyi402yyi402XmW102amW102+yZ102hZH02nqW102hq",
      "W102zqW102prK02nrW102prW102zrW102ctW102yvw402btW102zuW102ZxW102jzW102ZvW102zzW102d-W102t",
      "YX102pwW102g+W102i+W102y+W102sXx402hhx402rcx402hfH02ndX102pdX102seX102g+y402ahX102ivx402",
      "zgH02XhH02nzx402ocy402hhH02moX102yoX102dpX102fpX102frX102eqX102kuX102YtX102vxX102evX102h",
      "xX102cyX102tkH02X-X102XWY102vlH02WZY102ZZY102dpz402tcY102+cY102rnH02wdY102xbD02kb+402ch+",
      "402+rH02dsH02WrY102jtY102gyY102rYZ102eb-402hbZ102XcZ102xeZ102thZ102lv-402aWY402hkZ102yjZ",
      "102mlZ102+cY402qsZ102uvZ102okX502jlX502qaa102nda102nea102kvX502xea102una102tsa102usa102y",
      "pa102v-a102rWb102w-Y502hib102riI02tjb102thZ502clI02Zsb102ojN02Zvb102bga502wma502kpI02spI",
      "02W-b102gWb502orI02sab502hWc102hWc102fXc102sjb502Ydc102pvI02ffc102djc102Ykc102+lc102k+I0",
      "2mvc502ouc102WYd102zdd102kcJ02jdJ02dhd102kce502udJ02bee502kme502nqe502xrd102sgJ02vtd102+",
      "td102bud102lud102sud102xvd102Wmf5"]
  entriesFrom numbers.length 0 (fun n => (n / 2, n % 2 == 1)) numbers

namespace Hangul

/-!
Syllables are numbered by a leading consonant, a vowel and a trailing consonant, if any.
-/

def syllables : Nat := 0xAC00
def leading : Nat := 0x1100
def vowels : Nat := 0x1161
/-- The number before that of the first trailing consonant. -/
def trailing : Nat := 0x11A7

def isSyllable (n : Nat) : Bool := syllables ≤ n && n < syllables + 19 * 21 * 28

def decompose (n : Nat) : List Nat :=
  let index := n - syllables
  [leading + index / (21 * 28), vowels + index % (21 * 28) / 28] ++
    if index % 28 = 0 then [] else [trailing + index % 28]

def compose? (a b : Nat) : Option Nat :=
  if leading ≤ a ∧ a < leading + 19 ∧ vowels ≤ b ∧ b < vowels + 21 then
    some (syllables + ((a - leading) * 21 + (b - vowels)) * 28)
  else if isSyllable a ∧ (a - syllables) % 28 = 0 ∧ trailing < b ∧ b < trailing + 28 then
    some (a + (b - trailing))
  else none

end Hangul

def decompose (c : Char) : List Char :=
  if c.toNat < 0xC0 then [c]
  else if Hangul.isSyllable c.toNat then (Hangul.decompose c.toNat).map Char.ofNat
  else match decompositions.lookup c.toNat with
    | some (_, text) => text
    | none => [c]

/-- The character that two characters compose to; the second one combines. -/
def compose? (a b : Char) : Option Char :=
  if b.toNat < 0x300 then none
  else match Hangul.compose? a.toNat b.toNat with
    | some n => some (Char.ofNat n)
    | none =>
      let text := decompose a ++ [b]
      (decompositions.find? fun (_, composes, t) => composes && t == text).map fun (n, _) =>
        Char.ofNat n

/-- Puts a character in front, behind the combining characters of lower classes. -/
def insertOrdered (c : Char) : List Char → List Char
  | [] => [c]
  | d :: rest =>
    if combiningClass d ≠ 0 ∧ combiningClass d < combiningClass c then
      d :: insertOrdered c rest
    else c :: d :: rest

def decomposed (text : List Char) : List Char :=
  (text.flatMap decompose).foldr insertOrdered []

/-- Composes a decomposed text, given the character to compose with and the combining
characters, last first, that stand between it and the rest. -/
def composeFrom (starter : Char) (marks : List Char) : List Char → List Char
  | [] => starter :: marks.reverse
  | c :: rest =>
    let cls := combiningClass c
    let isBlocked := marks.head?.any fun m => cls ≤ combiningClass m
    match if isBlocked then none else compose? starter c with
    | some d => composeFrom d marks rest
    | none =>
      if cls = 0 then starter :: marks.reverse ++ composeFrom c [] rest
      else composeFrom starter (c :: marks) rest

/-- The composed normal form; combining characters at the front stay as they are. -/
def normalized (text : List Char) : List Char :=
  let text := decomposed text
  let isMark (c : Char) : Bool := combiningClass c != 0
  text.takeWhile isMark ++
    match text.dropWhile isMark with
    | [] => []
    | c :: rest => composeFrom c [] rest

end Jadn.Unicode
