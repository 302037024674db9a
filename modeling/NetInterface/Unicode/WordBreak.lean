import NetInterface.Unicode.Runs

/-!
How every code point behaves at the boundaries of words.
-/

namespace NetInterface.Unicode.WordBreak

/-- The abbreviation of the class of each run of code points. -/
def runs : List String := [
  "XX10 LF1 NL2 CR1 XX18 WSegSpace1 XX1 DQ1 XX4 SQ1 XX4 MN1 XX1 MB1 XX1 NU10 ML1 MN1 XX5 LE26",
  "XX4 EX1 XX1 LE26 XX10 NL1 XX36 LE1 XX2 FO1 XX7 LE1 XX1 ML1 LE1 XX1 LE1 XX5 LE23 XX1 LE31",
  "XX1 LE480 XX6 LE34 Extend112 LE5 XX1 LE2 XX2 LE4 MN1 LE1 XX6 LE1 ML1 LE3 XX1 LE1 XX1 LE20",
  "XX1 LE83 XX1 LE139 XX1 Extend7 LE166 XX1 LE38 XX2 LE4 XX1 LE1 ML1 LE41 MN1 LE1 XX6",
  "Extend45 XX1 Extend1 XX1 Extend2 XX1 Extend2 XX1 Extend1 XX8 HL27 XX4 HL4 LE1 ML1 XX11 NU6",
  "XX6 MN2 XX2 Extend11 XX1 FO1 XX3 LE43 Extend21 NU10 XX1 NU1 MN1 XX1 LE2 Extend1 LE99 XX1",
  "LE1 Extend7 NU1 XX1 Extend6 LE2 Extend2 XX1 Extend4 LE2 NU10 LE3 XX2 LE1 XX15 LE2 Extend1",
  "LE30 Extend27 XX2 LE89 Extend11 LE1 XX14 NU10 LE33 Extend9 LE2 XX2 MN1 XX1 LE1 XX2 Extend1",
  "XX2 LE22 Extend4 LE1 Extend9 LE1 Extend3 LE1 Extend5 XX18 LE25 Extend3 XX4 LE11 XX5 LE24",
  "XX1 LE6 XX1 NU2 XX5 Extend9 LE42 Extend24 NU1 Extend33 LE54 Extend3 LE1 Extend18 LE1",
  "Extend7 LE10 Extend2 XX2 NU10 XX1 LE16 Extend3 XX1 LE8 XX2 LE2 XX2 LE22 XX1 LE7 XX1 LE1",
  "XX3 LE4 XX2 Extend1 LE1 Extend7 XX2 Extend2 XX2 Extend3 LE1 XX8 Extend1 XX4 LE2 XX1 LE3",
  "Extend2 XX2 NU10 LE2 XX10 LE1 XX1 Extend1 XX2 Extend3 XX1 LE6 XX4 LE2 XX2 LE22 XX1 LE7 XX1",
  "LE2 XX1 LE2 XX1 LE2 XX2 Extend1 XX1 Extend5 XX4 Extend2 XX2 Extend3 XX3 Extend1 XX7 LE4",
  "XX1 LE1 XX7 NU10 Extend2 LE3 Extend1 XX11 Extend3 XX1 LE9 XX1 LE3 XX1 LE22 XX1 LE7 XX1 LE2",
  "XX1 LE5 XX2 Extend1 LE1 Extend8 XX1 Extend3 XX1 Extend3 XX2 LE1 XX15 LE2 Extend2 XX2 NU10",
  "XX9 LE1 Extend6 XX1 Extend3 XX1 LE8 XX2 LE2 XX2 LE22 XX1 LE7 XX1 LE2 XX1 LE5 XX2 Extend1",
  "LE1 Extend7 XX2 Extend2 XX2 Extend3 XX7 Extend3 XX4 LE2 XX1 LE3 Extend2 XX2 NU10 XX1 LE1",
  "XX16 Extend1 LE1 XX1 LE6 XX3 LE3 XX1 LE4 XX3 LE2 XX1 LE1 XX1 LE2 XX3 LE2 XX3 LE3 XX3 LE12",
  "XX4 Extend5 XX3 Extend3 XX1 Extend4 XX2 LE1 XX6 Extend1 XX14 NU10 XX16 Extend5 LE8 XX1 LE3",
  "XX1 LE23 XX1 LE16 XX2 Extend1 LE1 Extend7 XX1 Extend3 XX1 Extend4 XX7 Extend2 XX1 LE3 XX2",
  "LE1 XX2 LE2 Extend2 XX2 NU10 XX16 LE1 Extend3 XX1 LE8 XX1 LE3 XX1 LE23 XX1 LE10 XX1 LE5",
  "XX2 Extend1 LE1 Extend7 XX1 Extend3 XX1 Extend4 XX7 Extend2 XX6 LE2 XX1 LE2 Extend2 XX2",
  "NU10 XX1 LE2 Extend1 XX12 Extend4 LE9 XX1 LE3 XX1 LE41 Extend2 LE1 Extend7 XX1 Extend3 XX1",
  "Extend4 LE1 XX5 LE3 Extend1 XX7 LE3 Extend2 XX2 NU10 XX10 LE6 XX1 Extend3 XX1 LE18 XX3",
  "LE24 XX1 LE9 XX1 LE1 XX2 LE7 XX3 Extend1 XX4 Extend6 XX1 Extend1 XX1 Extend8 XX6 NU10 XX2",
  "Extend2 XX61 Extend1 XX2 Extend7 XX12 Extend8 XX1 NU10 XX87 Extend1 XX2 Extend9 XX11",
  "Extend7 XX1 NU10 XX38 LE1 XX23 Extend2 XX6 NU10 XX11 Extend1 XX1 Extend1 XX1 Extend1 XX4",
  "Extend2 LE8 XX1 LE36 XX4 Extend20 XX1 Extend2 LE5 Extend11 XX1 Extend36 XX9 Extend1 XX100",
  "Extend20 XX1 NU10 XX12 Extend4 XX4 Extend3 XX1 Extend3 XX2 Extend7 XX3 Extend4 XX13",
  "Extend12 XX1 Extend1 NU10 Extend4 XX2 LE38 XX1 LE1 XX5 LE1 XX2 LE43 XX1 LE333 XX1 LE4 XX2",
  "LE7 XX1 LE1 XX1 LE4 XX2 LE41 XX1 LE4 XX2 LE33 XX1 LE4 XX2 LE7 XX1 LE1 XX1 LE4 XX2 LE15 XX1",
  "LE57 XX1 LE4 XX2 LE67 XX2 Extend3 XX32 LE16 XX16 LE86 XX2 LE6 XX3 LE620 XX2 LE17",
  "WSegSpace1 LE26 XX5 LE75 XX3 LE11 XX7 LE18 Extend4 XX9 LE19 Extend3 XX11 LE18 Extend2 XX12",
  "LE13 XX1 LE3 XX1 Extend2 XX64 Extend32 XX9 Extend1 XX2 NU10 XX33 Extend3 FO1 Extend1 NU10",
  "XX6 LE89 XX7 LE5 Extend2 LE34 Extend1 LE1 XX5 LE70 XX10 LE31 XX1 Extend12 XX4 Extend12",
  "XX10 NU10 XX128 NU11 XX37 LE23 Extend5 XX57 Extend10 XX1 Extend29 XX2 Extend1 NU10 XX6",
  "NU10 XX22 Extend31 XX49 Extend5 LE47 Extend17 LE8 XX3 NU10 XX17 Extend9 XX12 Extend3 LE30",
  "Extend13 LE2 NU10 LE44 Extend14 XX12 LE36 Extend20 XX8 NU10 XX3 LE3 NU10 LE36 XX2 LE11 XX5",
  "LE43 XX2 LE3 XX16 Extend3 XX1 Extend21 LE4 Extend1 LE6 Extend1 LE2 Extend3 LE1 XX5 LE192",
  "Extend64 LE278 XX2 LE6 XX2 LE38 XX2 LE6 XX2 LE8 XX1 LE1 XX1 LE1 XX1 LE1 XX1 LE31 XX2 LE53",
  "XX1 LE7 XX1 LE1 XX3 LE3 XX1 LE7 XX3 LE4 XX2 LE6 XX4 LE13 XX5 LE3 XX1 LE7 XX3 WSegSpace7",
  "XX1 WSegSpace3 XX1 Extend1 ZWJ1 FO2 XX8 MB2 XX10 MB1 XX2 ML1 NL2 FO5 EX1 XX15 EX2 XX3 MN1",
  "XX15 EX1 XX10 WSegSpace1 FO5 XX1 FO10 XX1 LE1 XX13 LE1 XX16 LE13 XX51 Extend33 XX17 LE1",
  "XX4 LE1 XX2 LE10 XX1 LE1 XX3 LE5 XX6 LE1 XX1 LE1 XX1 LE1 XX1 LE4 XX1 LE11 XX2 LE4 XX5 LE5",
  "XX4 LE1 XX17 LE41 XX813 LE52 XX1814 LE229 XX6 LE4 Extend3 LE2 XX12 LE38 XX1 LE1 XX5 LE1",
  "XX2 LE56 XX7 LE1 XX15 Extend1 LE23 XX9 LE7 XX1 LE7 XX1 LE7 XX1 LE7 XX1 LE7 XX1 LE7 XX1 LE7",
  "XX1 LE7 XX1 Extend32 XX47 LE1 XX464 WSegSpace1 XX4 LE1 XX36 Extend6 XX1 KA5 XX5 LE2 XX92",
  "Extend2 KA2 XX3 KA91 XX1 KA4 XX5 LE43 XX1 LE94 XX17 LE32 XX48 KA16 XX208 KA47 XX1 KA88",
  "XX27816 LE1165 XX67 LE46 XX2 LE269 XX3 LE16 NU10 LE2 XX20 LE47 Extend4 XX1 Extend10 XX1",
  "LE31 Extend2 LE80 Extend2 XX22 LE198 XX2 LE2 XX1 LE1 XX1 LE8 XX21 LE16 Extend1 LE3 Extend1",
  "LE4 Extend1 LE23 Extend5 XX4 Extend1 XX19 LE52 XX12 Extend2 LE50 Extend18 XX10 NU10 XX6",
  "Extend18 LE6 XX3 LE1 XX1 LE2 Extend1 NU10 LE28 Extend8 XX2 LE23 Extend13 XX12 LE29 XX3",
  "Extend4 LE47 Extend14 XX14 LE1 NU10 XX11 Extend1 XX10 NU10 XX6 LE41 Extend14 XX9 LE3",
  "Extend1 LE8 Extend2 XX2 NU10 XX33 Extend3 XX50 Extend1 XX1 Extend3 XX2 Extend2 XX5 Extend2",
  "XX1 Extend1 XX30 LE11 Extend5 XX2 LE3 Extend2 XX10 LE6 XX2 LE6 XX2 LE6 XX9 LE7 XX1 LE7 XX1",
  "LE58 XX6 LE115 Extend8 XX1 Extend2 XX2 NU10 XX6 LE11172 XX12 LE23 XX4 LE49 XX8964 LE7 XX12",
  "LE5 XX5 HL1 Extend1 HL10 XX1 HL13 XX1 HL5 XX1 HL1 XX1 HL2 XX1 HL2 XX1 HL10 LE98 XX33 LE363",
  "XX18 LE64 XX2 LE54 XX40 LE12 XX4 Extend16 MN1 XX2 ML1 MN1 XX11 Extend16 XX3 EX2 XX24 EX3",
  "MN1 XX1 MB1 XX1 MN1 ML1 XX26 LE5 XX1 LE135 XX2 FO1 XX7 MB1 XX4 MN1 XX1 MB1 XX1 NU10 ML1",
  "MN1 XX5 LE26 XX4 EX1 XX1 LE26 XX11 KA56 Extend2 LE31 XX3 LE6 XX2 LE6 XX2 LE6 XX2 LE3 XX28",
  "FO3 XX4 LE12 XX1 LE26 XX1 LE19 XX1 LE2 XX1 LE15 XX2 LE14 XX34 LE123 XX69 LE53 XX136",
  "Extend1 XX130 LE29 XX3 LE49 XX15 Extend1 XX31 LE32 XX13 LE30 XX5 LE38 Extend5 XX5 LE30 XX2",
  "LE36 XX4 LE8 XX1 LE5 XX42 LE158 XX2 NU10 XX6 LE36 XX4 LE36 XX4 LE40 XX8 LE52 XX12 LE11 XX1",
  "LE15 XX1 LE7 XX1 LE2 XX1 LE11 XX1 LE15 XX1 LE7 XX1 LE2 XX3 LE52 XX12 LE311 XX9 LE22 XX10",
  "LE8 XX24 LE6 XX1 LE42 XX1 LE9 XX69 LE6 XX2 LE1 XX1 LE44 XX1 LE2 XX3 LE1 XX2 LE23 XX10 LE23",
  "XX9 LE31 XX65 LE19 XX1 LE2 XX10 LE22 XX10 LE26 XX70 LE56 XX6 LE2 XX64 LE1 Extend3 XX1",
  "Extend2 XX5 Extend4 LE4 XX1 LE3 XX1 LE29 XX2 Extend3 XX4 Extend1 XX32 LE29 XX3 LE29 XX35",
  "LE8 XX1 LE28 Extend2 XX25 LE54 XX10 LE22 XX10 LE19 XX13 LE18 XX110 LE73 XX55 LE51 XX13",
  "LE51 XX13 LE36 Extend4 XX8 NU10 XX6 NU10 LE28 XX3 Extend5 XX1 LE23 XX250 LE42 XX1 Extend2",
  "XX3 LE2 XX16 LE3 XX55 Extend4 LE29 XX10 LE1 XX8 LE22 Extend11 XX31 LE18 Extend4 XX42 LE21",
  "XX27 LE23 XX9 Extend3 LE53 Extend15 XX31 NU10 Extend1 LE2 Extend2 LE1 XX9 Extend4 LE45",
  "Extend11 XX2 NU1 XX4 Extend1 XX10 NU1 XX2 LE25 XX7 NU10 XX6 Extend3 LE36 Extend14 XX1 NU10",
  "XX4 LE1 Extend2 LE1 XX8 LE35 Extend1 XX2 LE1 XX9 Extend3 LE48 Extend14 LE4 XX4 Extend4 XX1",
  "Extend2 NU10 LE1 XX1 LE1 XX35 LE18 XX1 LE25 Extend12 XX6 Extend1 LE2 Extend1 XX62 LE7 XX1",
  "LE1 XX1 LE4 XX1 LE15 XX1 LE10 XX7 LE47 Extend12 XX5 NU10 XX6 Extend4 XX1 LE8 XX2 LE2 XX2",
  "LE22 XX1 LE7 XX1 LE2 XX1 LE5 XX1 Extend2 LE1 Extend7 XX2 Extend2 XX2 Extend3 XX2 LE1 XX6",
  "Extend1 XX5 LE5 Extend2 XX2 Extend7 XX3 Extend5 XX11 LE10 XX1 LE1 XX2 LE1 XX1 LE38 XX1 LE1",
  "Extend9 XX1 Extend1 XX2 Extend1 XX1 Extend4 XX1 Extend5 LE1 Extend1 LE1 XX13 Extend2 XX29",
  "LE53 Extend18 LE4 XX5 NU10 XX4 Extend1 LE3 XX30 LE48 Extend20 LE2 XX1 LE1 XX8 NU10 XX166",
  "LE47 Extend7 XX2 Extend9 XX23 LE4 Extend2 XX34 LE48 Extend17 XX3 LE1 XX11 NU10 XX38 LE43",
  "Extend13 LE1 XX7 NU10 XX6 NU20 XX57 Extend15 XX4 NU10 XX198 LE44 Extend15 XX101 LE64 NU10",
  "XX21 LE8 XX2 LE1 XX2 LE8 XX1 LE2 XX1 LE24 Extend6 XX1 Extend2 XX2 Extend4 LE1 Extend1 LE1",
  "Extend2 XX12 NU10 XX70 LE8 XX2 LE39 Extend7 XX2 Extend7 LE1 XX1 LE1 Extend1 XX27 LE1",
  "Extend10 LE40 Extend7 LE1 Extend4 XX8 Extend1 XX8 LE1 Extend11 LE46 Extend16 XX3 LE1 XX18",
  "LE73 XX199 LE33 XX15 NU10 XX6 LE9 XX1 LE37 Extend8 XX1 Extend8 LE1 XX15 NU10 XX24 LE30 XX2",
  "Extend22 XX1 Extend14 XX73 LE7 XX1 LE2 XX1 LE38 Extend6 XX3 Extend1 XX1 Extend2 XX1",
  "Extend7 LE1 Extend1 XX8 NU10 XX6 LE6 XX1 LE2 XX1 LE32 Extend5 XX1 Extend2 XX1 Extend5 LE1",
  "XX7 NU10 XX310 LE19 Extend4 XX9 Extend2 LE1 Extend1 LE13 XX1 LE34 Extend7 XX3 Extend5 XX13",
  "NU10 Extend1 XX85 LE1 XX79 LE922 XX102 LE111 XX17 LE196 XX2636 LE97 XX15 LE1072 FO16",
  "Extend1 LE6 Extend15 XX10 LE3995 XX5 LE583 XX6841 LE30 Extend18 NU10 XX1734 LE569 XX7 LE31",
  "XX1 NU10 XX6 LE79 XX1 NU10 XX6 LE30 XX2 Extend5 XX11 LE48 Extend7 XX9 LE4 XX12 NU10 XX9",
  "LE21 XX5 LE19 XX432 LE45 XX3 NU10 XX198 LE64 XX128 LE75 XX4 Extend1 LE1 Extend55 XX7",
  "Extend4 LE13 XX64 LE2 XX1 LE1 Extend1 XX11 Extend2 XX16382 KA4 XX1 KA7 XX1 KA2 XX1 KA1",
  "XX287 KA3 XX50 KA1 XX14 KA4 XX2712 LE107 XX5 LE13 XX3 LE9 XX7 LE10 XX3 Extend2 XX1 FO4",
  "XX4172 NU10 XX518 Extend46 XX2 Extend23 XX542 Extend5 XX3 Extend6 FO8 Extend8 XX2 Extend7",
  "XX30 Extend4 XX148 Extend3 XX443 LE85 XX1 LE71 XX1 LE2 XX2 LE1 XX2 LE2 XX2 LE4 XX1 LE12",
  "XX1 LE1 XX1 LE7 XX1 LE65 XX1 LE4 XX2 LE8 XX1 LE7 XX1 LE28 XX1 LE4 XX1 LE5 XX1 LE1 XX3 LE7",
  "XX1 LE340 XX2 LE25 XX1 LE25 XX1 LE31 XX1 LE25 XX1 LE31 XX1 LE25 XX1 LE31 XX1 LE25 XX1 LE31",
  "XX1 LE25 XX1 LE8 XX2 NU50 XX512 Extend55 XX4 Extend50 XX8 Extend1 XX14 Extend1 XX22",
  "Extend5 XX1 Extend15 XX1104 LE31 XX6 LE6 XX213 Extend7 XX1 Extend17 XX2 Extend7 XX1",
  "Extend2 XX1 Extend5 XX5 LE62 XX33 Extend1 XX112 LE45 XX3 Extend7 LE7 XX2 NU10 XX4 LE1",
  "XX321 LE30 Extend1 XX17 LE44 Extend4 NU10 XX470 LE28 Extend4 NU10 XX214 LE30 Extend2 LE1",
  "NU10 XX485 LE7 XX1 LE4 XX1 LE2 XX1 LE15 XX1 LE197 XX11 Extend7 XX41 LE68 Extend7 LE1 XX4",
  "NU10 XX1190 LE4 XX1 LE27 XX1 LE2 XX1 LE1 XX2 LE1 XX1 LE10 XX1 LE4 XX1 LE1 XX1 LE1 XX6 LE1",
  "XX4 LE1 XX1 LE1 XX1 LE1 XX1 LE3 XX1 LE2 XX1 LE1 XX2 LE1 XX1 LE1 XX1 LE1 XX1 LE1 XX1 LE1",
  "XX1 LE2 XX1 LE1 XX2 LE4 XX1 LE7 XX1 LE4 XX1 LE4 XX1 LE1 XX1 LE10 XX1 LE17 XX5 LE3 XX1 LE5",
  "XX1 LE17 XX628 LE26 XX6 LE26 XX6 LE26 XX92 RI26 XX507 Extend5 XX2032 NU10 XX787463 FO1",
  "XX30 Extend96 XX128 Extend240 XX196112"]

def table : Labelled :=
  .ofLines runs

/-- The abbreviation of each class and the names it is looked up by. -/
def names : List (String × List String) := [
  ("CR", ["cr"]),
  ("DQ", ["dq", "doublequote"]),
  ("EX", ["ex", "extendnumlet"]),
  ("Extend", ["extend"]),
  ("FO", ["fo", "format"]),
  ("HL", ["hl", "hebrewletter"]),
  ("KA", ["ka", "katakana"]),
  ("LE", ["le", "aletter"]),
  ("LF", ["lf"]),
  ("MB", ["mb", "midnumlet"]),
  ("ML", ["ml", "midletter"]),
  ("MN", ["mn", "midnum"]),
  ("NL", ["nl", "newline"]),
  ("NU", ["nu", "numeric"]),
  ("RI", ["ri", "regionalindicator"]),
  ("SQ", ["sq", "singlequote"]),
  ("WSegSpace", ["wsegspace"]),
  ("ZWJ", ["zwj"])]

def named? (name : String) : Option CodePoints :=
  (names.find? (·.2.contains name)).map fun (label, _) => table.points (· = label)

end NetInterface.Unicode.WordBreak
