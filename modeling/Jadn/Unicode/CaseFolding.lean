import Jadn.Unicode.Table

/-!
Simple case folding: the characters that differ in case only, as classes of two and more.
-/

namespace Jadn.Unicode

/-- Members of a class from the steps between them. -/
def members (start : Nat) : Nat → List Nat → List Nat × List Nat
  | count + 1, step :: rest =>
    let (found, rest) := members (start + step) count rest
    ((start + step) :: found, rest)
  | _, rest => ([], rest)

/-- Classes from the number of members after the first, the step from the first member of the
class before, and the steps between members. -/
def classesFrom : Nat → Nat → List Nat → List (List Nat)
  | fuel + 1, start, count :: step :: rest =>
    let first := start + step
    let (others, rest) := members first count rest
    (first :: others) :: classesFrom fuel first rest
  | _, _, _ => []

/-- The classes of characters that fold to one another. -/
def caseClasses : List (List Nat) :=
  let numbers := decode <| String.join [
    "1X2W111W111W111W111W111W111W111W111W111W121W1-b811W111W111W111W111W111W111W121W1i811W111",
    "W111W111W111W111W111W12x2dNW11BW111W111W111W111W121W1cY811W111W111W111W111W111W111W111W1",
    "11W111W111W111W111W111W111W111W111W112W111W111W111W111W111W111W111-j71W1v311112112112112",
    "1121121121121121121121121121121121121121121121121121121121141121121131121121121121121121",
    "12113112112112112112112112112112112112112112112112112112112112112112112113112112113Z611o",
    "611112112k611112j611j611113l211g611h611112j611l611X311p611n611112Z511Xof111p611r611Y411s",
    "611112112112w611112w613112w611112v611v611112112x611114113u125112311231113112112112112112",
    "1121121131121121121121121121121121231113114112112112112112112112112112112112112112112112",
    "112112112112114112112112112112112112112118hnA11113enA11-nA11-nA11113b211d211112112112112",
    "112-mA11ymA11+mA1Algf115hgf113dhf111eff111agf114agf111tlA11Xgf115zlA1CdlA15Zgf115gff11Mr",
    "ef111oef13d5q2W1bW71h1112114115Y411Y411Y412q317c112b111b111b112W212-111-111ZY711W121W1U1",
    "1W111W121W1W211W111W131W1PZ122W1s111W112W111W111W121W1M21W1m122V111W111W121W1F11W111W121",
    "W1zg711W111W115pX71V819112112112112112112112112112112112114715113116m211m211m211m211m211",
    "m211m211m211m211m211m211m211m211m211m211m211W111W121W1kY611W121W1jY611W111W111W111W111W1",
    "11W111W111W111W121W1aY611W111W121W1YY631W1YY6111W111W111W111W111W111W111W121W1yX611W111W",
    "111W111W111W11n11221aX61211211211211211211211211211211211211211211211A112112112112112112",
    "112112112112112112112112112112112112112112112112112112112112112F111121121121121121121131",
    "1211211211211211211211211211211211211211211211211211211211211211211211211211211211211211",
    "2112112112112112112112112112112112112112112112112112113m111m111m111m111m111m111m111m111m",
    "111m111m111m111m111m111m111m111m111m111m111m111m111m111m111m111m111m111m111m111m111m111m",
    "111m111m111m111m111m111m111m11gw2WZ711WZ711WZ711WZ711WZ711WZ711WZ711WZ711WZ711WZ711WZ711",
    "WZ711WZ711WZ711WZ711WZ711WZ711WZ711WZ711WZ711WZ711WZ711WZ711WZ711WZ711WZ711WZ711WZ711WZ7",
    "11WZ711WZ711WZ711WZ711WZ711WZ711WZ711WZ711WZ712WZ716WZ713W+211W+211W+211W+211W+211W+211W",
    "+211W+211W+211W+211W+211W+211W+211W+211W+211W+211W+211W+211W+211W+211W+211W+211W+211W+21",
    "1W+211W+211W+211W+211W+211W+211W+211W+211W+211W+211W+211W+211W+211W+211W+211W+211W+211W+",
    "211W+213W+211W+211W+21XLm+b111m+b111m+b111m+b111m+b111m+b111m+b111m+b111m+b111m+b111m+b1",
    "11m+b111m+b111m+b111m+b111m+b111m+b111m+b111m+b111m+b111m+b111m+b111m+b111m+b111m+b111m+",
    "b111m+b111m+b111m+b111m+b111m+b111m+b111m+b111m+b111m+b111m+b111m+b111m+b111m+b111m+b111",
    "m+b111m+b111m+b111m+b111m+b111m+b111m+b111m+b111m+b111m+b111m+b111m+b111m+b111m+b111m+b1",
    "11m+b111m+b111m+b111m+b111m+b111m+b111m+b111m+b111m+b111m+b111m+b111m+b111m+b111m+b111m+",
    "b111m+b111m+b111m+b111m+b111m+b111m+b111m+b111m+b111m+b111m+b11181181181181181182pa2YkY1",
    "11111m7amY114ct31HunY11o3112112112112112112112112112112112112112112112112112112112112112",
    "1121121121121121121121121121121121121121121121121121121121121121121121121121121221w11211",
    "211211211211211211211211211211211211211211211211211211211211211211211211211C112112112112",
    "1121121121121121121121121121121121121121121121121121121121121121121121121121121121121121",
    "1211211211211211211211211211211211211211211281181181181181181181181981181181181181181B81",
    "181181181181181181181981181181181181181181181981181181181181181C812812812819811811811811",
    "811811811819g211g211s211s211s211s211a311a311W411W411m311m311+311+31381181181181181181181",
    "181981181181181181181181181981181181181181181181181981181291G91D81181F81181471E91-9S1k1G",
    "11G11G11G11G11G11G11G11G11G11G11G11G11G11G11G1K11pPQ11Q11Q11Q11Q11Q11Q11Q11Q11Q11Q11Q11Q",
    "11Q11Q11Q11Q11Q11Q11Q11Q11Q11Q11Q11Q11Q1nv1m111m111m111m111m111m111m111m111m111m111m111m",
    "111m111m111m111m111m111m111m111m111m111m111m111m111m111m111m111m111m111m111m111m111m111m",
    "111m111m111m111m111m111m111m111m111m111m111m111m111m111m11n111711211211711311B1121121121",
    "1211211211211211211211211211211211211211211211211211211211211211211211211211211211211211",
    "211211211211211211211211211211211211211211211211211911211511kgU1121121121121141121121121",
    "1211211211211211211211211211211211211211K11211211211211211211211211211211211211211e41121",
    "1211211211211211411211211211211211211211211211211211211211211211211211211211211211211211",
    "211211211211211211211B112113112112112112115115112112m11211211211211211211211211211211BWT",
    "1111211211211211211211211511211311211211211211211211211R11muK11yW1W111W111W111W111W111W1",
    "11W111W111W111W111W111W111W111W111W111W111W111W111W111W111W111W111W111W111W111W11cc1e111",
    "e111e111e111e111e111e111e111e111e111e111e111e111e111e111e111e111e111e111e111e111e111e111",
    "e111e111e111e111e111e111e111e111e111e111e111e111e111e111e111e111e11f4e111e111e111e111e11",
    "1e111e111e111e111e111e111e111e111e111e111e111e111e111e111e111e111e111e111e111e111e111e11",
    "1e111e111e111e111e111e111e111e111e11z4d111d111d111d111d111d111d111d111d111d111d112d111d1",
    "11d111d111d111d111d111d111d111d111d111d111d111d111d112d111d111d111d111d111d111d112d111d1",
    "1ht1W211W211W211W211W211W211W211W211W211W211W211W211W211W211W211W211W211W211W211W211W211",
    "W211W211W211W211W211W211W211W211W211W211W211W211W211W211W211W211W211W211W211W211W211W211",
    "W211W211W211W211W211W211W211W21+4W111W111W111W111W111W111W111W111W111W111W111W111W111W11",
    "1W111W111W111W111W111W111W111W11xv2W111W111W111W111W111W111W111W111W111W111W111W111W111W",
    "111W111W111W111W111W111W111W111W111W111W111W111W111W111W111W111W111W111W11XiLW111W111W11",
    "1W111W111W111W111W111W111W111W111W111W111W111W111W111W111W111W111W111W111W111W111W111W11",
    "1W111W111W111W111W111W111W11X2R11R11R11R11R11R11R11R11R11R11R11R11R11R11R11R11R11R11R11R",
    "11R11R11R11R11R1eoUY111Y111Y111Y111Y111Y111Y111Y111Y111Y111Y111Y111Y111Y111Y111Y111Y111Y",
    "111Y111Y111Y111Y111Y111Y111Y111Y111Y111Y111Y111Y111Y111Y111Y111Y1"]
  classesFrom numbers.length 0 numbers

/-- Adds all characters that differ from a member in case only. -/
def closeUnderCase (s : CharSet) : CharSet :=
  let touched := caseClasses.filter fun cls =>
    cls.any fun c => s.ranges.any fun (low, high) => low ≤ c && c ≤ high
  s.union (.ofRanges (touched.flatten.map fun c => (c, c)))

end Jadn.Unicode
