import Jadn.Unicode.Category

/-!
Binary properties of characters.

A property is written as the categories that it covers for the most part and the characters
on which it differs from them. Names are given in lower case without spaces, hyphens and low
lines, in their long and short forms.
-/

namespace Jadn.Unicode

/-- The characters on which a property differs from a union of categories settle it. -/
def propertySet (categories : List Category) (differences : String) : CharSet :=
  (Category.set categories).symmDiff (charSet differences)

namespace Property
open Category

def asciiHexDigit (_ : Unit) : CharSet :=
  propertySet []
    "m1975Q5"

def alphabetic (_ : Unit) : CharSet :=
  propertySet [otherLetter, modifierLetter, letterNumber] <|
    String.join [
      "X2P6Pw10AM1U1Y6134l62Pr40TG2132106012101J1o21g48b51b19e1d1D10111110e2Am1C16G0b36432140Z1",
      "0UFc3Ab31381213g30y1B366Js112E1152A1T2w162121A0A1T2w14412140U130B2w171211L1M242w16212191",
      "A1U0x143212A0e14v16121281B1T2w16121281B1F0C3w161212A0A1T2h251017I1z1026I0Z302511G0Z5I9A1",
      "Z1k3B1023N342122633DB10A32b110502g122WLr225qO1U1U1U1Y2Iy51Y10s3B48+64v192Jg21B2n14m1Ey12",
      "U821v1Ao1If2A5g122W2h1-1C1X1u1X1Br8252b125271010101U2q11610321633254C5216b80402910346010",
      "10131540235440q11nPp1su1x32c36331Cb11050o5VWYUj1674R21Y4j21M331i2O1307080N4u21o1F10v10c1",
      "4SBj13m1Bb10Z2DC081j12o10122150i1450w1g1587l2Z17ruJ6C460YW1P6PxW14b4l2W3Z14Z1q3A1E16111A",
      "1E1611aY121153mJo1Do1n13e1L306Lb91j22Z82r1Dj11B2j1890z12a1BI1v12m1CE1y28206020z49N3w1621",
      "21A0A1q2810201311d3C12g3Hj7626T1o2E10g3Ad3DX8Cd3-1m2511213010k462540S9g1413IAk1De67d6716",
      "p2L1Dw353011121030Y241113yA39110m1632zkGGne3-1W1O2Ox301s173z21ibJ0Xx5q21c2112021231B1016",
      "1W21327161R131410361pA2O1O1U1O1U1O1U1O1U1O17qv191J65r661G261114a30po10207150gGZ230e-1P6P",
      "6P"]

def bidiControl (_ : Unit) : CharSet :=
  propertySet []
    "ym10nl61Q4t13"

def caseIgnorable (_ : Unit) : CharSet :=
  propertySet [nonspacingMark, modifierLetter, modifierSymbol, format, enclosingMark]
    "d1060B0y30lM0tE0q40Zn61A020hlt10+1020n5060B0"

def cased (_ : Unit) : CharSet :=
  propertySet [] <|
    String.join [
      "X2P6Pl10A0405M1U1Y6134l62Y171U4W30g132123106012101J1o21g48b51b19e1tu2b110502g113WLr225Ya",
      "2A5g122W2-5W2r8252b125271010101U2q11610321633254C5216q30D0GCb304029103460101013154023544",
      "0HV31nPp1su1a76331Cb11050oeUj1ITa4b3331i2K512rPg11D6l2WwJ6C4fW1P6Pbb1l2W3Z14Z1q3A1E16111",
      "A1E1611ZE0221f118bc1o1Do1z2LALwu2-1WhL-1W1O2OifPq21c2112021231B10161W21327161R131410361p",
      "A2O1O1U1O1U1O1U1O1U1O17qv191J65b8z1oa2Z2i-1P6P6P"]

def changesWhenCasefolded (_ : Unit) : CharSet :=
  propertySet [uppercaseLetter, titlecaseLetter] <|
    String.join [
      "r50f10f30r10bE0y30D6P130nC0um3r225Ya28nG1a778787A220A220g1220g8040322220346030312110A150",
      "QFcQPWrX1l2WwJ6C4eds1PQPQPQ01120212317QPQ1132716R113141036RPQPQPQPQPQPUOX1OX1OX1OX1OX10"]

def changesWhenCasemapped (_ : Unit) : CharSet :=
  propertySet [] <|
    String.join [
      "X2P6Pw10AM1U1-11p21R2D21104y21H6Q1110113113142011207020113550A1c50g132132106012101J1k13W",
      "1141a48b51b1Ac1uu2b110502g122WLr225Ya2A5g122v5030G0n3x4201r3252b125271010101U2q116103216",
      "33254C5216f903160R0HV31nPp1su1m311117b37331Cb11050oeUj1IRc4D2z19E32241O1i1O1yQ0Sl2WwJ6C4",
      "fW1P6Pbb1l2W3Z14Z1q3A1E16111A1E1611Zs1o1Do1z2LALwu2-1WhL-1W1O2OinUZ2"]

def changesWhenLowercased (_ : Unit) : CharSet :=
  propertySet [uppercaseLetter, titlecaseLetter] <|
    String.join [
      "oU2jf7040322220346030312110A150QFcQPmvh3PQPQPQ01120212317QPQ1132716R113141036RPQPQPQPQPQ",
      "PUOX1OX1OX1OX1OX10"]

def changesWhenTitlecased (_ : Unit) : CharSet :=
  propertySet [lowercaseLetter] <|
    String.join [
      "u90q20S1E030502020c10l10I5R02010222040511021161110226410262Gr40s50ZB0d10dw2g122WW3h1-1C2",
      "21F1BX8110gJ03130R040402183c1FmQPdy102024e30hoU1-17L060P0g20rPY11658nbg2PQ61HQPQ310161AQ",
      "PQPQPQPQPQPQPQPQRSO15QO15QO15QO15QO1510qv191J65"]

def changesWhenUppercased (_ : Unit) : CharSet :=
  propertySet [lowercaseLetter, titlecaseLetter] <|
    String.join [
      "u90q20S1E030Y30I5R02010222040511021161110226410262Gr40s50ZB0d10tx5h1-1C221F1BX8110gJ0313",
      "0R040402183c1FmQPdy102024e30hoU1-17L060P0g20rPY11658nbg2PQ61HQPQ310161AQPQPQPQPQPQPQPQPQ",
      "RSO15QO15QO15QO15QO1510qv191J65"]

def dash (_ : Unit) : CharSet :=
  propertySet [dashPunctuation]
    "pY80d10F0cC0"

def defaultIgnorableCodePoint (_ : Unit) : CharSet :=
  propertySet []
    "j50XL0iM0Yw21po11r24x-14Q4n1Fqd40xap1Fl70W50l28dbl13lc57bqhO--3"

def deprecated (_ : Unit) : CharSet :=
  propertySet []
    "fA0ff10Ze2010fX21bc25vL1sctR0"

def diacritic (_ : Unit) : CharSet :=
  propertySet [modifierSymbol] <|
    String.join [
      "t50uFH4BE47010Hk21755H050e84n60t1i110111110Z4741c414132Z2Qx2Aw1AY11k30F7f19GRz10G033S0g2",
      "0G0k30G0k30G0l12y10G070t30k30G0k30G0j31G0y30l30C510h30D4h21R0101041Y2211+10m3011e1144P61",
      "0A1XM2qT1U0q4A90xA2a90K720m1E2A3E2Be20F0c18s11w10B1Y21W25o2O406022o1+1m1Z15Bb1Alt32z90wF",
      "5f31X30ohT0C110S1o21b18e30e3061C0b10t40RHv13a10-20C0a10r42X23p10b3390Y41mvJ0p4GzIFWA0j11",
      "WQ0-a151f118zJ240b51xH5c10Q4iC022c2An13W60f10e21u31+10i2092e31o51m21G0O634v2211D1-2030x3",
      "1x71+30s31p30j81Y8140y40p20I0n20bD0Y8011n20X20dB1N0id5EvcB0Wk24x16qH1YHGm21+-F31611Xu7j1",
      "2MWH2358726U3Yq3z1Y66tB0z13+N1WN6j3212mr24"]

def emoji (_ : Unit) : CharSet :=
  propertySet [] <|
    String.join [
      "Z106059l3040jy70C0u60M0w25F1lB1C0c50PA42d60d71A090w1314902021204020112030318250105BB1201",
      "110I021I5101131502141B15120511011K155132040202510201010603060A1F02040104210B1m1290E0E0qB",
      "1lE2J1p1040wc10C0vI010ghl30g60W51C1E029h2P11N0K028L1k5X12l321122o2221c81+1B51N7127C02320",
      "41D120819052C28220104060306r2m1b257233930113029Z7B40x8k1191u5m3C3A3u1104F2B49"]

def emojiComponent (_ : Unit) : CharSet :=
  propertySet []
    "Z106059p+70r60hft10s+y1PxF4mj13ipXO-2"

def emojiModifier (_ : Unit) : CharSet :=
  propertySet []
    "x-y34"

def emojiModifierBase (_ : Unit) : CharSet :=
  propertySet [] <|
    String.join [
      "zm90x60G3tZp30y122022r312ALI3042127010O0f6140L041k5234p20G290B0-H02087609922u10z111110H2",
      "1Cb72g18"]

def emojiPresentation (_ : Unit) : CharSet :=
  propertySet [] <|
    String.join [
      "wu81j633020fG1L1o1Bh10J0D081H1518050L0711040207041S0Z10104210z12O0E0xQ1p1040kbn30g60+502",
      "9h2P10O0K02412L1k5W1C81b21LCg144CG303c2101w52+1D31NI0Q1D0s2q2m1b260322333B178Z7B40x8k119",
      "1u5m3C3A3u1104F2B49"]

def extendedPictographic (_ : Unit) : CharSet :=
  propertySet [] <|
    String.join [
      "f5040jy70C0u60M0w25F1lB1C0c50PA42d60d71A090w1314902021204020112030318250105BB1201110I021",
      "I5101131502141B15120511011K155132040202510201010603060A1F02040104210B1m1290E0E0qB1lE2J1p",
      "1040wc10C0vI010ghl30d13a3BF1F0E1b19m31C1E029Jt1REA0K028139M6x52l321122o222135z71+1B51N71",
      "27C0232041D120819052C28220104060306r2m1b2572G30152Cw6b1C3u17A5e17U1C32D9c1Ck1191u5u27En4",
      "W8zV"]

def extender (_ : Unit) : CharSet :=
  propertySet [] <|
    String.join [
      "t50uG1kR0vD0sJ0f40v20mN0-30Zg20u10ZJ0kC0a20fy40h14d31z22suR0sl10YU0M0f40i30L1xZL0mW21hk1",
      "0R040dc10b90q31oF2lc10WQ0ehJ1ya1110E1egS1nb10qQ2"]

def graphemeBase (_ : Unit) : CharSet :=
  propertySet [unassigned, nonspacingMark, format, enclosingMark] <|
    String.join [
      "W1+2X1ze21N1bB1N1b31N1d7101320282c31N1s31E1qf21T1-V1410142a31c22pX12ZW42YfU1h31+nBWe8zq1",
      "2-m41p31d81D181-2181110341-61B1m71b81uJ1B1Ym11jbK2ohO256iqhQ+--11+--11"]

def graphemeExtend (_ : Unit) : CharSet :=
  propertySet [nonspacingMark, enclosingMark] <|
    String.join [
      "+j20O0cB0O0c30O0e7010411191d30O0t30F0rf20U0WW10501051b30d21uW10XX41ZfU0i30zkL1Wn40q30e80",
      "E090W3090201250W70C0n70c80vJ0C0Zm10kbK1phO165jrhO-2"]

def graphemeLink (_ : Unit) : CharSet :=
  propertySet [] <|
    String.join [
      "jg20-30-30-30-30-30-30-30j31G0y30l30-30f60q51vs11U0z40jK0Z70b31c21hi40cqU0b10t40k40i30r9",
      "0s70noN0cm10f10E0v10v31h40q30q50Y30q70-30y70-30s30q30j80Z81X50p20I0n20bD0a81n20fD1"]

def hexDigit (_ : Unit) : CharSet :=
  propertySet []
    "m1975Q5fr-1975Q5"

def hyphen (_ : Unit) : CharSet :=
  propertySet []
    "j10-30yc10xp40fW21bm30ZN0dhp10f50t20"

def idsBinaryOperator (_ : Unit) : CharSet :=
  propertySet []
    "m-B129nF0"

def idsTrinaryOperator (_ : Unit) : CharSet :=
  propertySet []
    "o-B1"

def idsUnaryOperator (_ : Unit) : CharSet :=
  propertySet []
    "+-B1"

def idCompatMathContinue (_ : Unit) : CharSet :=
  propertySet []
    "o5150sz703A1EpB040M0Ybj30P0V0P0V0P0V0P0V0P0"

def idCompatMathStart (_ : Unit) : CharSet :=
  propertySet []
    "Ym8040M0Ybj30P0V0P0V0P0V0P0V0P0"

def idContinue (_ : Unit) : CharSet :=
  propertySet [unassigned, otherPunctuation, otherSymbol, otherNumber, mathSymbol, modifierSymbol,
      currencySymbol, format, dashPunctuation, enclosingMark, spaceSeparator] <|
    String.join [
      "W172m1101S1010X1A1A121gM1nz24gX19eP2yP1mn129872E292r12D2e41K1uE4S2yX1Ek22UAoCM+14V2ZW142",
      "202D21A41H1H8gDA1803w32z21Zuf1We8zX12s62RG12F6e52m1101S101020201vaWS+--11+--11"]

def idStart (_ : Unit) : CharSet :=
  propertySet [otherLetter, modifierLetter, letterNumber] <|
    String.join [
      "X2P6Pw10AM1U1Y6134l62PW632132106012101J1o21g48b51b19e1tu2b110502g122WLr225da11vVA5g122W2",
      "h1-1C1X1b3r8252b125271010101U2q11610321633254C5216b80402910256010101A40235440q11xp2x32c3",
      "6331Cb11050X80hJ1ZjTj1IRc4j21M331i2O130rPg1587l2WwJ6C4fW1P6Pbb1l2W3Z14Z1q3A1E16111A1E161",
      "1Zs1o1Do1z2LALwu2-1WhL-1W1O2OifPq21c2112021231B10161W21327161R131410361pA2O1O1U1O1U1O1U1",
      "O1U1O17qv191J65rk2Z2"]

def ideographic (_ : Unit) : CharSet :=
  propertySet [] <|
    String.join [
      "cWC1P8E2bU-j6W2-lKWeMjB2f3geT0D49rc7f1VX3o3zx8hCaeJ-sf1W1ze42jq52mf7FjJYj2zGYl1gw45ff8"]

def joinControl (_ : Unit) : CharSet :=
  propertySet []
    "iW81"

def logicalOrderException (_ : Unit) : CharSet :=
  propertySet []
    "Wo34x34mt2220wda112011"

def lowercase (_ : Unit) : CharSet :=
  propertySet [lowercaseLetter] <|
    String.join [
      "g50F0rF871U4W30q10Xi30lX3+1D0Y1a1nL0D0GCp6FmQPoy11+mU1o60W4331YR390sWN0221f118rZs1z1"]

def math (_ : Unit) : CharSet :=
  propertySet [mathSymbol] <|
    String.join [
      "+20nR220Q121WX70R2B0W13O1E1X2C403144I04029103460312112153354h24231111101421414H211016106",
      "1Y93e5110O0H0zD1C854512134E01025O1v1010T391sA1V9pCL-13W11ZZr101040p6010Xcr1q21c211202123",
      "1B10161W21327161R131410361pA2O1O1U1O1U1O1U1O1U1O172n1Wm531Q11102019131010604010101211102",
      "01010101011102316131310191G52141G"]

def modifierCombiningMark (_ : Unit) : CharSet :=
  propertySet []
    "qo1120Z406031XF11230V0"

def noncharacterCodePoint (_ : Unit) : CharSet :=
  propertySet [] <|
    String.join [
      "mk-1VkG1+--11+--11+--11+--11+--11+--11+--11+--11+--11+--11+--11+--11+--11+--11+--11+--11"]

def otherAlphabetic (_ : Unit) : CharSet :=
  propertySet [] <|
    String.join [
      "ZRCWID10111110e2Am1C16G0b36432140Z10UFc3Ab31381213g30y1B366Js112E1152A1T2w162121A0A1T2w1",
      "4412140U130B2w171211L1M242w16212191A1U0x143212A0e14v16121281B1T2w16121281B1F0C3w161212A0",
      "A1T2h251017I1z1026I0Z302511G0Z5I9A1Z1k3B1023N342122633DB10A3qp11U1U1U1Y2Iy51Y10s3B48+64v",
      "192Jg21B2n14m1Ey12U821v1Ao1IyCX1Xs1Pme2VqZU7Y11YB080N4u21o1F10v10c14SBj13m1Bb10Z2DC081j1",
      "2o10122150i1450j77pvJ0tY24cq121153qO3X20XA1j22Z82r1Dj11B2j1890z12a1BI1v12m1CE1y28206020z",
      "49N3w162121A0A1q2810201311d3C12g3Hj7626T1o2E10g3Ad3DX8Ct7511213010k462540S9g1413IAk1De67",
      "d6716p2L1Dw353011121030Y241113yA39110m1632zkGGWn301s173z21ibJ0Xx861G261114a30po10207150n",
      "I0e-1P6P6P"]

def otherDefaultIgnorableCodePoint (_ : Unit) : CharSet :=
  propertySet []
    "lQ0lm31po11lb20+d40xnp10l28dWWQ01TW3-3m7lm3"

def otherGraphemeExtend (_ : Unit) : CharSet :=
  propertySet [] <|
    String.join [
      "+j20O0cB0O0c30O0e7010411191d30O0t30F0rf20U0WW10501051b30d21uW10XX41ZfU0i30zkL1Wn40q30e80",
      "E090W3090201250W70C0n70c80vJ0C0Zm10kbK1phO165jrhO-2"]

def otherIDContinue (_ : Unit) : CharSet :=
  propertySet []
    "t50lM0X-38ep10nn11jd40fpp10"

def otherIDStart (_ : Unit) : CharSet :=
  propertySet []
    "ba61na20L0ix31"

def otherLowercase (_ : Unit) : CharSet :=
  propertySet [] <|
    String.join [
      "g50F0rF871U4W30q10Xi30lX3+1D0Y1a1nL0D0GCp6FmQPoy11+mU1o60W4331YR390sWN0221f118rZs1z1"]

def otherMath (_ : Unit) : CharSet :=
  propertySet [] <|
    String.join [
      "+20nR220Q121WX70R2B0W13O1E1X2C403144I04029103460312112153354h24231111101421414H211016106",
      "1Y93e5110O0H0zD1C854512134E01025O1v1010T391sA1V9pCL-13W11ZZr101040p6010Xcr1q21c211202123",
      "1B10161W21327161R131410361pA2O1O1U1O1U1O1U1O1U1O172n1Wm531Q11102019131010604010101211102",
      "01010101011102316131310191G52141G"]

def otherUppercase (_ : Unit) : CharSet :=
  propertySet []
    "Wh8FcQPWZp3P6P6P"

def patternSyntax (_ : Unit) : CharSet :=
  propertySet [] <|
    String.join [
      "X1EA6Q310Q3Y1610111011404030N0V0uu7N8E2I19n9lMW5rJUhZ1WG-3XC24OF0jep11b81"]

def patternWhiteSpace (_ : Unit) : CharSet :=
  propertySet []
    "94I0a30ey71O1"

def prependedConcatenationMark (_ : Unit) : CharSet :=
  propertySet []
    "Wm15t60n10WC1m20w+X20F0"

def quotationMark (_ : Unit) : CharSet :=
  propertySet []
    "Y1040Z40F0yw77P1dm30fE3D2Xnp13z5040w21"

def radical (_ : Unit) : CharSet :=
  propertySet []
    "WqBP1u2Cr6"

def regionalIndicator (_ : Unit) : CharSet :=
  propertySet []
    "cly3P"

def sentenceTerminal (_ : Unit) : CharSet :=
  propertySet [] <|
    String.join [
      "X10C0G0fg10p42q50h12s70z101031b91at11sO041bO0c61z41j1050w91YB3Y51A121T2x51X21aT0N192lb32",
      "o90D0M1jD0ydT0k81Z7030+B1s21-20u41p42m41v70cnK021x1031f50C0G0X20qt21zd14i13z51r33-32X416",
      "0G1u2111i30g91r31rB15Ef31v72bG010x71t21aD1qL1g21fvI1b40X21B0fH1e90cmJ0el70"]

def softDotted (_ : Unit) : CharSet :=
  propertySet [] <|
    String.join [
      "f31a60v80U0q10K0WA0Y3010fe60p10D030a40z40bD0s61ov20bzf31o11o11o11o11o11o11o11o11o11o11o1",
      "1o11ca20n91Q0"]

def terminalPunctuation (_ : Unit) : CharSet :=
  propertySet [] <|
    String.join [
      "X10A010B130+P080XG0v10e20E012q50h1A10h71s1517V0b81qd11i5045t91rO7bO0y32d21z4230d1321w91Y",
      "B3Y51A112T2x54+11aT0N192lb32o90D040A01131iD1xdT1j82Z74+B1s21-20t42p42-30G1v70cnK021v1213",
      "f50A010B130X2020wX10m10ca10d60s91u45a25v23uT4i13z56m33-32X4160G1u24i30g91r32C1cB33Ef31v7",
      "2bG010x71t2141+C2j10bK1g21hf14vlH1b40X22A0fH1d91cmJ0dl73"]

def unifiedIdeograph (_ : Unit) : CharSet :=
  propertySet []
    "WWD-j6W2-lKkmM11011A0101122skX2-sf1W1ze42jq52mf7FjJYj4gw45ff8"

def uppercase (_ : Unit) : CharSet :=
  propertySet [uppercaseLetter]
    "Wh8FcQPWZp3P6P6P"

def variationSelector (_ : Unit) : CharSet :=
  propertySet []
    "hW6210mlv1FmtWQl7"

def whiteSpace (_ : Unit) : CharSet :=
  propertySet [spaceSeparator]
    "94t30Yz71"

def xidContinue (_ : Unit) : CharSet :=
  propertySet [unassigned, otherPunctuation, otherSymbol, otherNumber, mathSymbol, modifierSymbol,
      currencySymbol, format, dashPunctuation, enclosingMark, spaceSeparator] <|
    String.join [
      "W172m1101S1010X1A1A121zL1B1nz24gX19eP2yP1mn129872E292r12D2e41K1uE4S2yX1Ek22UAoCM+14V2ZW1",
      "42202D21A41H1H8gDA1803w61Zuf1We8zQ6v62v52Q2RG12F6G101010101010101e42m1101S101020201vaWS+",
      "--11+--11"]

def xidStart (_ : Unit) : CharSet :=
  propertySet [otherLetter, modifierLetter, letterNumber] <|
    String.join [
      "X2P6Pw10AM1U1Y6134l62PW632123106012101J1o21g48b51b19e1gb20-30iFb110502g122WLr225da11vVA5",
      "g122W2h1-1C1X1b3r8252b125271010101U2q11610321633254C5216b80402910256010101A40235440q11xp",
      "2x32c36331Cb11050X80mWUj1IRc4j21M331i2O130rPg1587l2WwJ6C4cA5sC1q3010101010101010Y5P6PZ21",
      "WZ1l2W3Z14Z1q3A1E16111A1E1611Zs1o1Do1z2LALwu2-1WhL-1W1O2OifPq21c2112021231B10161W2132716",
      "1R131410361pA2O1O1U1O1U1O1U1O1U1O17qv191J65rk2Z2"]

end Property

section Names
open Property

/-- The set that the name of a binary property denotes. -/
def property? (name : String) : Option CharSet :=
  match name with
  | "ahex" | "asciihexdigit" => some (asciiHexDigit ())
  | "alpha" | "alphabetic" => some (alphabetic ())
  | "bidic" | "bidicontrol" => some (bidiControl ())
  | "caseignorable" | "ci" => some (caseIgnorable ())
  | "cased" => some (cased ())
  | "changeswhencasefolded" | "cwcf" => some (changesWhenCasefolded ())
  | "changeswhencasemapped" | "cwcm" => some (changesWhenCasemapped ())
  | "changeswhenlowercased" | "cwl" => some (changesWhenLowercased ())
  | "changeswhentitlecased" | "cwt" => some (changesWhenTitlecased ())
  | "changeswhenuppercased" | "cwu" => some (changesWhenUppercased ())
  | "dash" => some (dash ())
  | "defaultignorablecodepoint" | "di" => some (defaultIgnorableCodePoint ())
  | "dep" | "deprecated" => some (deprecated ())
  | "dia" | "diacritic" => some (diacritic ())
  | "emoji" => some (emoji ())
  | "ecomp" | "emojicomponent" => some (emojiComponent ())
  | "emod" | "emojimodifier" => some (emojiModifier ())
  | "ebase" | "emojimodifierbase" => some (emojiModifierBase ())
  | "emojipresentation" | "epres" => some (emojiPresentation ())
  | "extendedpictographic" | "extpict" => some (extendedPictographic ())
  | "ext" | "extender" => some (extender ())
  | "graphemebase" | "grbase" => some (graphemeBase ())
  | "graphemeextend" | "grext" => some (graphemeExtend ())
  | "graphemelink" | "grlink" => some (graphemeLink ())
  | "hex" | "hexdigit" => some (hexDigit ())
  | "hyphen" => some (hyphen ())
  | "idsb" | "idsbinaryoperator" => some (idsBinaryOperator ())
  | "idst" | "idstrinaryoperator" => some (idsTrinaryOperator ())
  | "idsu" | "idsunaryoperator" => some (idsUnaryOperator ())
  | "idcompatmathcontinue" => some (idCompatMathContinue ())
  | "idcompatmathstart" => some (idCompatMathStart ())
  | "idc" | "idcontinue" => some (idContinue ())
  | "ids" | "idstart" => some (idStart ())
  | "ideo" | "ideographic" => some (ideographic ())
  | "joinc" | "joincontrol" => some (joinControl ())
  | "loe" | "logicalorderexception" => some (logicalOrderException ())
  | "lower" | "lowercase" => some (lowercase ())
  | "math" => some (math ())
  | "mcm" | "modifiercombiningmark" => some (modifierCombiningMark ())
  | "nchar" | "noncharactercodepoint" => some (noncharacterCodePoint ())
  | "oalpha" | "otheralphabetic" => some (otherAlphabetic ())
  | "odi" | "otherdefaultignorablecodepoint" => some (otherDefaultIgnorableCodePoint ())
  | "ogrext" | "othergraphemeextend" => some (otherGraphemeExtend ())
  | "oidc" | "otheridcontinue" => some (otherIDContinue ())
  | "oids" | "otheridstart" => some (otherIDStart ())
  | "olower" | "otherlowercase" => some (otherLowercase ())
  | "omath" | "othermath" => some (otherMath ())
  | "otheruppercase" | "oupper" => some (otherUppercase ())
  | "patsyn" | "patternsyntax" => some (patternSyntax ())
  | "patternwhitespace" | "patws" => some (patternWhiteSpace ())
  | "pcm" | "prependedconcatenationmark" => some (prependedConcatenationMark ())
  | "qmark" | "quotationmark" => some (quotationMark ())
  | "radical" => some (radical ())
  | "regionalindicator" | "ri" => some (regionalIndicator ())
  | "sentenceterminal" | "sterm" => some (sentenceTerminal ())
  | "sd" | "softdotted" => some (softDotted ())
  | "term" | "terminalpunctuation" => some (terminalPunctuation ())
  | "uideo" | "unifiedideograph" => some (unifiedIdeograph ())
  | "upper" | "uppercase" => some (uppercase ())
  | "variationselector" | "vs" => some (variationSelector ())
  | "space" | "whitespace" | "wspace" => some (whiteSpace ())
  | "xidc" | "xidcontinue" => some (xidContinue ())
  | "xids" | "xidstart" => some (xidStart ())
  | _ => none

end Names

end Jadn.Unicode
