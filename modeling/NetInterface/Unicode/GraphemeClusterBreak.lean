import NetInterface.Unicode.Runs

/-!
How every code point behaves at the boundaries of what a reader takes for one character.
-/

namespace NetInterface.Unicode.GraphemeClusterBreak

/-- The abbreviation of the class of each run of code points. -/
def runs : List String := [
  "CN10 LF1 CN2 CR1 CN18 XX95 CN33 XX13 CN1 XX594 EX112 XX275 EX7 XX263 EX45 XX1 EX1 XX1 EX2",
  "XX1 EX2 XX1 EX1 XX56 PP6 XX10 EX11 XX1 CN1 XX46 EX21 XX16 EX1 XX101 EX7 PP1 XX1 EX6 XX2",
  "EX2 XX1 EX4 XX33 PP1 XX1 EX1 XX30 EX27 XX91 EX11 XX58 EX9 XX9 EX1 XX24 EX4 XX1 EX9 XX1 EX3",
  "XX1 EX5 XX43 EX3 XX52 PP2 XX5 EX9 XX42 EX24 PP1 EX32 SM1 XX54 EX1 SM1 EX1 XX1 SM3 EX8 SM4",
  "EX1 SM2 XX1 EX7 XX10 EX2 XX29 EX1 SM2 XX56 EX1 XX1 EX1 SM2 EX4 XX2 SM2 XX2 SM2 EX1 XX9 EX1",
  "XX10 EX2 XX26 EX1 XX2 EX2 SM1 XX56 EX1 XX1 SM3 EX2 XX4 EX2 XX2 EX3 XX3 EX1 XX30 EX2 XX3",
  "EX1 XX11 EX2 SM1 XX56 EX1 XX1 SM3 EX5 XX1 EX2 SM1 XX1 SM2 EX1 XX20 EX2 XX22 EX6 XX1 EX1",
  "SM2 XX56 EX1 XX1 EX2 SM1 EX4 XX2 SM2 XX2 SM2 EX1 XX7 EX3 XX10 EX2 XX30 EX1 XX59 EX1 SM1",
  "EX1 SM2 XX3 SM3 XX1 SM3 EX1 XX9 EX1 XX40 EX1 SM3 EX1 XX55 EX1 XX1 EX3 SM4 XX1 EX3 XX1 EX4",
  "XX7 EX2 XX11 EX2 XX29 EX1 SM2 XX56 EX1 XX1 SM1 EX2 SM1 EX1 SM2 XX1 EX3 XX1 EX4 XX7 EX2",
  "XX11 EX2 XX15 SM1 XX12 EX2 SM2 XX55 EX2 XX1 EX1 SM2 EX4 XX1 SM3 XX1 SM3 EX1 PP1 XX8 EX1",
  "XX10 EX2 XX29 EX1 SM2 XX70 EX1 XX4 EX1 SM2 EX3 XX1 EX1 XX1 SM7 EX1 XX18 SM2 XX61 EX1 XX1",
  "SM1 EX7 XX12 EX8 XX98 EX1 XX1 SM1 EX9 XX11 EX7 XX73 EX2 XX27 EX1 XX1 EX1 XX1 EX1 XX4 SM2",
  "XX49 EX14 SM1 EX5 XX1 EX2 XX5 EX11 XX1 EX36 XX9 EX1 XX102 EX4 SM1 EX6 XX1 EX2 SM2 EX2 XX23",
  "SM2 EX2 XX4 EX3 XX16 EX4 XX13 EX1 XX1 SM1 EX2 XX6 EX1 XX15 EX1 XX98 L96 V72 T88 XX349 EX3",
  "XX946 EX4 XX28 EX3 XX29 EX2 XX30 EX2 XX64 EX2 SM1 EX7 SM8 EX1 SM2 EX11 XX9 EX1 XX45 EX3",
  "CN1 EX1 XX117 EX2 XX34 EX1 XX118 EX3 SM4 EX2 SM3 XX4 SM2 EX1 SM6 EX3 XX219 EX2 SM2 EX1",
  "XX57 SM1 EX1 SM1 EX7 XX1 EX1 XX1 EX1 XX2 EX8 SM6 EX10 XX2 EX1 XX48 EX31 XX49 EX4 SM1 XX47",
  "EX10 SM4 EX3 XX38 EX9 XX12 EX2 SM1 XX30 SM1 EX4 SM2 EX6 XX56 EX1 SM1 EX2 SM3 EX1 SM1 EX5",
  "XX48 SM8 EX8 SM2 EX2 XX152 EX3 XX1 EX13 SM1 EX7 XX4 EX1 XX6 EX1 XX2 SM1 EX2 XX198 EX64",
  "XX523 CN1 EX1 ZWJ1 CN2 XX24 CN7 XX49 CN16 XX96 EX33 XX3070 EX3 XX141 EX1 XX96 EX32 XX554",
  "EX6 XX105 EX2 XX30164 EX4 XX1 EX10 XX32 EX2 XX80 EX2 XX272 EX1 XX3 EX1 XX4 EX1 XX23 SM2",
  "EX2 SM1 XX4 EX1 XX83 SM2 XX50 SM16 EX2 XX26 EX18 XX13 EX1 XX38 EX8 XX25 EX11 SM1 EX1 XX12",
  "L29 XX3 EX3 SM1 XX47 EX1 SM2 EX4 SM2 EX2 SM2 EX1 XX36 EX1 XX67 EX6 SM2 EX2 SM2 EX2 XX12",
  "EX1 XX8 EX1 SM1 XX46 EX1 XX51 EX1 XX1 EX3 XX2 EX2 XX5 EX2 XX1 EX1 XX41 SM1 EX2 SM2 XX5 SM1",
  "EX1 XX236 SM2 EX1 SM2 EX1 SM2 XX1 SM1 EX1 XX18 LV1 LVT27 LV1 LVT27 LV1 LVT27 LV1 LVT27 LV1",
  "LVT27 LV1 LVT27 LV1 LVT27 LV1 LVT27 LV1 LVT27 LV1 LVT27 LV1 LVT27 LV1 LVT27 LV1 LVT27 LV1",
  "LVT27 LV1 LVT27 LV1 LVT27 LV1 LVT27 LV1 LVT27 LV1 LVT27 LV1 LVT27 LV1 LVT27 LV1 LVT27 LV1",
  "LVT27 LV1 LVT27 LV1 LVT27 LV1 LVT27 LV1 LVT27 LV1 LVT27 LV1 LVT27 LV1 LVT27 LV1 LVT27 LV1",
  "LVT27 LV1 LVT27 LV1 LVT27 LV1 LVT27 LV1 LVT27 LV1 LVT27 LV1 LVT27 LV1 LVT27 LV1 LVT27 LV1",
  "LVT27 LV1 LVT27 LV1 LVT27 LV1 LVT27 LV1 LVT27 LV1 LVT27 LV1 LVT27 LV1 LVT27 LV1 LVT27 LV1",
  "LVT27 LV1 LVT27 LV1 LVT27 LV1 LVT27 LV1 LVT27 LV1 LVT27 LV1 LVT27 LV1 LVT27 LV1 LVT27 LV1",
  "LVT27 LV1 LVT27 LV1 LVT27 LV1 LVT27 LV1 LVT27 LV1 LVT27 LV1 LVT27 LV1 LVT27 LV1 LVT27 LV1",
  "LVT27 LV1 LVT27 LV1 LVT27 LV1 LVT27 LV1 LVT27 LV1 LVT27 LV1 LVT27 LV1 LVT27 LV1 LVT27 LV1",
  "LVT27 LV1 LVT27 LV1 LVT27 LV1 LVT27 LV1 LVT27 LV1 LVT27 LV1 LVT27 LV1 LVT27 LV1 LVT27 LV1",
  "LVT27 LV1 LVT27 LV1 LVT27 LV1 LVT27 LV1 LVT27 LV1 LVT27 LV1 LVT27 LV1 LVT27 LV1 LVT27 LV1",
  "LVT27 LV1 LVT27 LV1 LVT27 LV1 LVT27 LV1 LVT27 LV1 LVT27 LV1 LVT27 LV1 LVT27 LV1 LVT27 LV1",
  "LVT27 LV1 LVT27 LV1 LVT27 LV1 LVT27 LV1 LVT27 LV1 LVT27 LV1 LVT27 LV1 LVT27 LV1 LVT27 LV1",
  "LVT27 LV1 LVT27 LV1 LVT27 LV1 LVT27 LV1 LVT27 LV1 LVT27 LV1 LVT27 LV1 LVT27 LV1 LVT27 LV1",
  "LVT27 LV1 LVT27 LV1 LVT27 LV1 LVT27 LV1 LVT27 LV1 LVT27 LV1 LVT27 LV1 LVT27 LV1 LVT27 LV1",
  "LVT27 LV1 LVT27 LV1 LVT27 LV1 LVT27 LV1 LVT27 LV1 LVT27 LV1 LVT27 LV1 LVT27 LV1 LVT27 LV1",
  "LVT27 LV1 LVT27 LV1 LVT27 LV1 LVT27 LV1 LVT27 LV1 LVT27 LV1 LVT27 LV1 LVT27 LV1 LVT27 LV1",
  "LVT27 LV1 LVT27 LV1 LVT27 LV1 LVT27 LV1 LVT27 LV1 LVT27 LV1 LVT27 LV1 LVT27 LV1 LVT27 LV1",
  "LVT27 LV1 LVT27 LV1 LVT27 LV1 LVT27 LV1 LVT27 LV1 LVT27 LV1 LVT27 LV1 LVT27 LV1 LVT27 LV1",
  "LVT27 LV1 LVT27 LV1 LVT27 LV1 LVT27 LV1 LVT27 LV1 LVT27 LV1 LVT27 LV1 LVT27 LV1 LVT27 LV1",
  "LVT27 LV1 LVT27 LV1 LVT27 LV1 LVT27 LV1 LVT27 LV1 LVT27 LV1 LVT27 LV1 LVT27 LV1 LVT27 LV1",
  "LVT27 LV1 LVT27 LV1 LVT27 LV1 LVT27 LV1 LVT27 LV1 LVT27 LV1 LVT27 LV1 LVT27 LV1 LVT27 LV1",
  "LVT27 LV1 LVT27 LV1 LVT27 LV1 LVT27 LV1 LVT27 LV1 LVT27 LV1 LVT27 LV1 LVT27 LV1 LVT27 LV1",
  "LVT27 LV1 LVT27 LV1 LVT27 LV1 LVT27 LV1 LVT27 LV1 LVT27 LV1 LVT27 LV1 LVT27 LV1 LVT27 LV1",
  "LVT27 LV1 LVT27 LV1 LVT27 LV1 LVT27 LV1 LVT27 LV1 LVT27 LV1 LVT27 LV1 LVT27 LV1 LVT27 LV1",
  "LVT27 LV1 LVT27 LV1 LVT27 LV1 LVT27 LV1 LVT27 LV1 LVT27 LV1 LVT27 LV1 LVT27 LV1 LVT27 LV1",
  "LVT27 LV1 LVT27 LV1 LVT27 LV1 LVT27 LV1 LVT27 LV1 LVT27 LV1 LVT27 LV1 LVT27 LV1 LVT27 LV1",
  "LVT27 LV1 LVT27 LV1 LVT27 LV1 LVT27 LV1 LVT27 LV1 LVT27 LV1 LVT27 LV1 LVT27 LV1 LVT27 LV1",
  "LVT27 LV1 LVT27 LV1 LVT27 LV1 LVT27 LV1 LVT27 LV1 LVT27 LV1 LVT27 LV1 LVT27 LV1 LVT27 LV1",
  "LVT27 LV1 LVT27 LV1 LVT27 LV1 LVT27 LV1 LVT27 LV1 LVT27 LV1 LVT27 LV1 LVT27 LV1 LVT27 LV1",
  "LVT27 LV1 LVT27 LV1 LVT27 LV1 LVT27 LV1 LVT27 LV1 LVT27 LV1 LVT27 LV1 LVT27 LV1 LVT27 LV1",
  "LVT27 LV1 LVT27 LV1 LVT27 LV1 LVT27 LV1 LVT27 LV1 LVT27 LV1 LVT27 LV1 LVT27 LV1 LVT27 LV1",
  "LVT27 LV1 LVT27 LV1 LVT27 LV1 LVT27 LV1 LVT27 LV1 LVT27 LV1 LVT27 LV1 LVT27 LV1 LVT27 LV1",
  "LVT27 LV1 LVT27 LV1 LVT27 LV1 LVT27 LV1 LVT27 LV1 LVT27 LV1 LVT27 LV1 LVT27 LV1 LVT27 LV1",
  "LVT27 LV1 LVT27 LV1 LVT27 LV1 LVT27 LV1 LVT27 LV1 LVT27 LV1 LVT27 LV1 LVT27 LV1 LVT27 LV1",
  "LVT27 LV1 LVT27 LV1 LVT27 LV1 LVT27 LV1 LVT27 LV1 LVT27 LV1 LVT27 LV1 LVT27 LV1 LVT27 LV1",
  "LVT27 LV1 LVT27 LV1 LVT27 LV1 LVT27 LV1 LVT27 LV1 LVT27 LV1 LVT27 LV1 LVT27 LV1 LVT27 LV1",
  "LVT27 LV1 LVT27 LV1 LVT27 LV1 LVT27 LV1 LVT27 LV1 LVT27 LV1 LVT27 LV1 LVT27 LV1 LVT27 LV1",
  "LVT27 LV1 LVT27 LV1 LVT27 LV1 LVT27 LV1 LVT27 LV1 LVT27 LV1 LVT27 LV1 LVT27 LV1 LVT27 LV1",
  "LVT27 LV1 LVT27 LV1 LVT27 LV1 LVT27 LV1 LVT27 LV1 LVT27 LV1 LVT27 LV1 LVT27 LV1 LVT27 LV1",
  "LVT27 LV1 LVT27 LV1 LVT27 LV1 LVT27 LV1 LVT27 LV1 LVT27 LV1 LVT27 LV1 LVT27 LV1 LVT27 LV1",
  "LVT27 LV1 LVT27 LV1 LVT27 LV1 LVT27 LV1 LVT27 LV1 LVT27 LV1 LVT27 LV1 LVT27 LV1 LVT27 LV1",
  "LVT27 LV1 LVT27 LV1 LVT27 LV1 LVT27 LV1 LVT27 LV1 LVT27 LV1 LVT27 LV1 LVT27 LV1 LVT27 LV1",
  "LVT27 LV1 LVT27 LV1 LVT27 LV1 LVT27 LV1 LVT27 LV1 LVT27 LV1 LVT27 LV1 LVT27 LV1 LVT27 LV1",
  "LVT27 LV1 LVT27 LV1 LVT27 LV1 LVT27 LV1 LVT27 LV1 LVT27 LV1 LVT27 LV1 LVT27 XX12 V23 XX4",
  "T49 XX8994 EX1 XX737 EX16 XX16 EX16 XX207 CN1 XX158 EX2 XX80 CN12 XX513 EX1 XX226 EX1",
  "XX149 EX5 XX1670 EX3 XX1 EX2 XX5 EX4 XX40 EX3 XX4 EX1 XX165 EX2 XX573 EX4 XX65 EX5 XX317",
  "EX2 XX79 EX4 XX70 EX11 XX49 EX4 XX122 SM1 EX1 SM1 XX53 EX15 XX41 EX1 XX2 EX2 XX10 EX3 SM1",
  "XX45 SM3 EX4 SM2 EX2 XX2 PP1 XX4 EX1 XX10 PP1 XX50 EX3 XX36 EX5 SM1 EX8 XX16 SM2 XX44 EX1",
  "XX12 EX2 SM1 XX48 SM3 EX9 SM1 EX1 XX1 PP2 XX5 EX4 XX1 SM1 EX1 XX92 SM3 EX3 SM2 EX4 XX6 EX1",
  "XX2 EX1 XX157 EX1 SM3 EX8 XX21 EX2 SM2 XX55 EX2 XX1 EX1 SM1 EX1 SM4 XX2 SM2 XX2 SM2 EX1",
  "XX9 EX1 XX10 SM2 XX2 EX7 XX3 EX5 XX67 EX1 SM2 EX6 XX1 EX1 XX2 EX1 XX1 EX3 SM1 XX1 SM2 EX3",
  "PP1 EX1 XX14 EX2 XX82 SM3 EX8 SM2 EX3 SM1 EX1 XX23 EX1 XX81 EX1 SM2 EX6 SM1 EX1 SM2 EX1",
  "SM1 EX2 SM1 EX2 XX235 EX1 SM2 EX4 XX2 SM4 EX2 SM1 EX2 XX27 EX2 XX82 SM3 EX8 SM2 EX1 SM1",
  "EX2 XX106 EX1 SM1 EX1 SM2 EX8 XX101 EX1 SM1 EX1 XX2 EX4 SM1 EX5 XX256 SM3 EX9 SM1 EX2",
  "XX245 EX1 SM5 XX1 SM2 XX2 EX4 PP1 SM1 PP1 SM1 EX1 XX141 SM3 EX4 XX2 EX2 SM4 EX1 XX3 SM1",
  "XX28 EX10 XX40 EX6 SM1 PP1 EX4 XX8 EX1 XX9 EX6 SM2 EX3 XX40 PP6 EX13 SM1 EX2 XX405 SM1 EX7",
  "XX1 EX6 SM1 EX1 XX82 EX22 XX1 SM1 EX7 SM1 EX2 SM1 EX2 XX122 EX6 XX3 EX1 XX1 EX2 XX1 EX7",
  "PP1 EX1 XX66 SM5 XX1 EX2 XX1 SM2 EX1 SM1 EX1 XX347 EX2 SM2 XX9 EX2 PP1 SM1 XX48 SM2 EX5",
  "XX3 SM2 EX3 XX23 EX1 XX5333 CN16 EX1 XX6 EX15 XX11464 EX12 SM3 EX3 XX2496 EX5 XX59 EX7",
  "XX556 V1 XX3 V4 XX484 EX1 XX1 SM55 XX7 EX4 XX81 EX1 XX11 EX2 XX19627 EX2 XX1 CN4 XX4700",
  "EX46 XX2 EX23 XX542 EX5 XX3 EX6 CN8 EX8 XX2 EX7 XX30 EX4 XX148 EX3 XX1979 EX55 XX4 EX50",
  "XX8 EX1 XX14 EX1 XX22 EX5 XX1 EX15 XX1360 EX7 XX1 EX17 XX2 EX7 XX1 EX2 XX1 EX5 XX100 EX1",
  "XX160 EX7 XX375 EX1 XX61 EX4 XX508 EX4 XX254 EX2 XX736 EX7 XX109 EX7 XX2203 RI26 XX507 EX5",
  "XX789504 CN32 EX96 CN128 EX240 CN3600 XX192512"]

def table : Labelled :=
  .ofLines runs

/-- The abbreviation of each class and the names it is looked up by. -/
def names : List (String × List String) := [
  ("CN", ["cn", "control"]),
  ("CR", ["cr"]),
  ("EX", ["ex", "extend"]),
  ("L", ["l"]),
  ("LF", ["lf"]),
  ("LV", ["lv"]),
  ("LVT", ["lvt"]),
  ("PP", ["pp", "prepend"]),
  ("RI", ["ri", "regionalindicator"]),
  ("SM", ["sm", "spacingmark"]),
  ("T", ["t"]),
  ("V", ["v"]),
  ("ZWJ", ["zwj"])]

def named? (name : String) : Option CodePoints :=
  (names.find? (·.2.contains name)).map fun (label, _) => table.points (· = label)

end NetInterface.Unicode.GraphemeClusterBreak
