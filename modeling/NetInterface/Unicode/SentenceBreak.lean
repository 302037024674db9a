import NetInterface.Unicode.Runs

/-!
How every code point behaves at the boundaries of sentences.
-/

namespace NetInterface.Unicode.SentenceBreak

/-- The abbreviation of the class of each run of code points. -/
def runs : List String := [
  "XX9 SP1 LF1 SP2 CR1 XX18 SP1 ST1 CL1 XX4 CL3 XX2 SC2 AT1 XX1 NU10 SC2 XX3 ST1 XX1 UP26 CL1",
  "XX1 CL1 XX3 LO26 CL1 XX1 CL1 XX7 SE1 XX26 SP1 XX9 LO1 CL1 XX1 FO1 XX7 LO1 XX4 LO1 CL1 XX4",
  "UP23 XX1 UP7 LO24 XX1 LO8 UP1 LO1 UP1 LO1 UP1 LO1 UP1 LO1 UP1 LO1 UP1 LO1 UP1 LO1 UP1 LO1",
  "UP1 LO1 UP1 LO1 UP1 LO1 UP1 LO1 UP1 LO1 UP1 LO1 UP1 LO1 UP1 LO1 UP1 LO1 UP1 LO1 UP1 LO1",
  "UP1 LO1 UP1 LO1 UP1 LO1 UP1 LO1 UP1 LO1 UP1 LO1 UP1 LO1 UP1 LO1 UP1 LO2 UP1 LO1 UP1 LO1",
  "UP1 LO1 UP1 LO1 UP1 LO1 UP1 LO1 UP1 LO1 UP1 LO2 UP1 LO1 UP1 LO1 UP1 LO1 UP1 LO1 UP1 LO1",
  "UP1 LO1 UP1 LO1 UP1 LO1 UP1 LO1 UP1 LO1 UP1 LO1 UP1 LO1 UP1 LO1 UP1 LO1 UP1 LO1 UP1 LO1",
  "UP1 LO1 UP1 LO1 UP1 LO1 UP1 LO1 UP1 LO1 UP1 LO1 UP1 LO1 UP2 LO1 UP1 LO1 UP1 LO3 UP2 LO1",
  "UP1 LO1 UP2 LO1 UP3 LO2 UP4 LO1 UP2 LO1 UP3 LO3 UP2 LO1 UP2 LO1 UP1 LO1 UP1 LO1 UP2 LO1",
  "UP1 LO2 UP1 LO1 UP2 LO1 UP3 LO1 UP1 LO1 UP2 LO2 LE1 UP1 LO3 LE4 UP2 LO1 UP2 LO1 UP2 LO1",
  "UP1 LO1 UP1 LO1 UP1 LO1 UP1 LO1 UP1 LO1 UP1 LO1 UP1 LO1 UP1 LO2 UP1 LO1 UP1 LO1 UP1 LO1",
  "UP1 LO1 UP1 LO1 UP1 LO1 UP1 LO1 UP1 LO1 UP1 LO2 UP2 LO1 UP1 LO1 UP3 LO1 UP1 LO1 UP1 LO1",
  "UP1 LO1 UP1 LO1 UP1 LO1 UP1 LO1 UP1 LO1 UP1 LO1 UP1 LO1 UP1 LO1 UP1 LO1 UP1 LO1 UP1 LO1",
  "UP1 LO1 UP1 LO1 UP1 LO1 UP1 LO1 UP1 LO1 UP1 LO1 UP1 LO1 UP1 LO1 UP1 LO1 UP1 LO1 UP1 LO1",
  "UP1 LO1 UP1 LO1 UP1 LO1 UP1 LO1 UP1 LO7 UP2 LO1 UP2 LO2 UP1 LO1 UP4 LO1 UP1 LO1 UP1 LO1",
  "UP1 LO1 UP1 LO69 LE1 LO36 LE7 LO2 XX4 LE12 XX14 LO5 XX7 LE1 XX1 LE1 XX17 EX112 UP1 LO1 UP1",
  "LO1 LE1 XX1 UP1 LO1 XX2 LO4 SC1 UP1 XX6 UP1 XX1 UP3 XX1 UP1 XX1 UP2 LO1 UP17 XX1 UP9 LO35",
  "UP1 LO2 UP3 LO3 UP1 LO1 UP1 LO1 UP1 LO1 UP1 LO1 UP1 LO1 UP1 LO1 UP1 LO1 UP1 LO1 UP1 LO1",
  "UP1 LO1 UP1 LO1 UP1 LO5 UP1 LO1 XX1 UP1 LO1 UP2 LO2 UP51 LO48 UP1 LO1 UP1 LO1 UP1 LO1 UP1",
  "LO1 UP1 LO1 UP1 LO1 UP1 LO1 UP1 LO1 UP1 LO1 UP1 LO1 UP1 LO1 UP1 LO1 UP1 LO1 UP1 LO1 UP1",
  "LO1 UP1 LO1 UP1 LO1 XX1 EX7 UP1 LO1 UP1 LO1 UP1 LO1 UP1 LO1 UP1 LO1 UP1 LO1 UP1 LO1 UP1",
  "LO1 UP1 LO1 UP1 LO1 UP1 LO1 UP1 LO1 UP1 LO1 UP1 LO1 UP1 LO1 UP1 LO1 UP1 LO1 UP1 LO1 UP1",
  "LO1 UP1 LO1 UP1 LO1 UP1 LO1 UP1 LO1 UP1 LO1 UP1 LO1 UP1 LO1 UP1 LO1 UP2 LO1 UP1 LO1 UP1",
  "LO1 UP1 LO1 UP1 LO1 UP1 LO1 UP1 LO2 UP1 LO1 UP1 LO1 UP1 LO1 UP1 LO1 UP1 LO1 UP1 LO1 UP1",
  "LO1 UP1 LO1 UP1 LO1 UP1 LO1 UP1 LO1 UP1 LO1 UP1 LO1 UP1 LO1 UP1 LO1 UP1 LO1 UP1 LO1 UP1",
  "LO1 UP1 LO1 UP1 LO1 UP1 LO1 UP1 LO1 UP1 LO1 UP1 LO1 UP1 LO1 UP1 LO1 UP1 LO1 UP1 LO1 UP1",
  "LO1 UP1 LO1 UP1 LO1 UP1 LO1 UP1 LO1 UP1 LO1 UP1 LO1 UP1 LO1 UP1 LO1 UP1 LO1 UP1 LO1 UP1",
  "LO1 UP1 LO1 UP1 LO1 UP1 LO1 UP1 LO1 UP1 LO1 UP1 LO1 UP1 LO1 UP1 LO1 XX1 UP38 XX2 LE1 XX3",
  "SC1 XX2 LO41 ST1 XX7 EX45 XX1 EX1 XX1 EX2 XX1 EX2 XX1 EX1 XX8 LE27 XX4 LE5 XX12 NU6 XX6",
  "SC2 XX2 EX11 XX1 FO1 ST3 LE43 EX21 NU10 XX1 NU2 XX1 LE2 EX1 LE99 ST1 LE1 EX7 NU1 XX1 EX6",
  "LE2 EX2 XX1 EX4 LE2 NU10 LE3 XX2 LE1 ST3 XX12 FO1 LE1 EX1 LE30 EX27 XX2 LE89 EX11 LE1 XX14",
  "NU10 LE33 EX9 LE2 XX2 SC1 ST1 LE1 XX2 EX1 XX2 LE22 EX4 LE1 EX9 LE1 EX3 LE1 EX5 XX9 ST1 XX1",
  "ST1 XX3 ST2 XX1 LE25 EX3 XX4 LE11 XX5 LE24 XX1 LE6 XX1 NU2 XX5 EX9 LE42 EX24 NU1 EX33 LE54",
  "EX3 LE1 EX18 LE1 EX7 LE10 EX2 ST2 NU10 XX1 LE16 EX3 XX1 LE8 XX2 LE2 XX2 LE22 XX1 LE7 XX1",
  "LE1 XX3 LE4 XX2 EX1 LE1 EX7 XX2 EX2 XX2 EX3 LE1 XX8 EX1 XX4 LE2 XX1 LE3 EX2 XX2 NU10 LE2",
  "XX10 LE1 XX1 EX1 XX2 EX3 XX1 LE6 XX4 LE2 XX2 LE22 XX1 LE7 XX1 LE2 XX1 LE2 XX1 LE2 XX2 EX1",
  "XX1 EX5 XX4 EX2 XX2 EX3 XX3 EX1 XX7 LE4 XX1 LE1 XX7 NU10 EX2 LE3 EX1 XX11 EX3 XX1 LE9 XX1",
  "LE3 XX1 LE22 XX1 LE7 XX1 LE2 XX1 LE5 XX2 EX1 LE1 EX8 XX1 EX3 XX1 EX3 XX2 LE1 XX15 LE2 EX2",
  "XX2 NU10 XX9 LE1 EX6 XX1 EX3 XX1 LE8 XX2 LE2 XX2 LE22 XX1 LE7 XX1 LE2 XX1 LE5 XX2 EX1 LE1",
  "EX7 XX2 EX2 XX2 EX3 XX7 EX3 XX4 LE2 XX1 LE3 EX2 XX2 NU10 XX1 LE1 XX16 EX1 LE1 XX1 LE6 XX3",
  "LE3 XX1 LE4 XX3 LE2 XX1 LE1 XX1 LE2 XX3 LE2 XX3 LE3 XX3 LE12 XX4 EX5 XX3 EX3 XX1 EX4 XX2",
  "LE1 XX6 EX1 XX14 NU10 XX16 EX5 LE8 XX1 LE3 XX1 LE23 XX1 LE16 XX2 EX1 LE1 EX7 XX1 EX3 XX1",
  "EX4 XX7 EX2 XX1 LE3 XX2 LE1 XX2 LE2 EX2 XX2 NU10 XX16 LE1 EX3 XX1 LE8 XX1 LE3 XX1 LE23 XX1",
  "LE10 XX1 LE5 XX2 EX1 LE1 EX7 XX1 EX3 XX1 EX4 XX7 EX2 XX6 LE2 XX1 LE2 EX2 XX2 NU10 XX1 LE2",
  "EX1 XX12 EX4 LE9 XX1 LE3 XX1 LE41 EX2 LE1 EX7 XX1 EX3 XX1 EX4 LE1 XX5 LE3 EX1 XX7 LE3 EX2",
  "XX2 NU10 XX10 LE6 XX1 EX3 XX1 LE18 XX3 LE24 XX1 LE9 XX1 LE1 XX2 LE7 XX3 EX1 XX4 EX6 XX1",
  "EX1 XX1 EX8 XX6 NU10 XX2 EX2 XX13 LE48 EX1 LE2 EX7 XX5 LE7 EX8 XX1 NU10 XX39 LE2 XX1 LE1",
  "XX1 LE5 XX1 LE24 XX1 LE1 XX1 LE10 EX1 LE2 EX9 LE1 XX2 LE5 XX1 LE1 XX1 EX7 XX1 NU10 XX2 LE4",
  "XX32 LE1 XX23 EX2 XX6 NU10 XX11 EX1 XX1 EX1 XX1 EX1 CL4 EX2 LE8 XX1 LE36 XX4 EX20 XX1 EX2",
  "LE5 EX11 XX1 EX36 XX9 EX1 XX57 LE43 EX20 LE1 NU10 ST2 XX4 LE6 EX4 LE4 EX3 LE1 EX3 LE2 EX7",
  "LE3 EX4 LE13 EX12 LE1 EX1 NU10 EX4 XX2 UP38 XX1 UP1 XX5 UP1 XX2 LE43 XX1 LO1 LE332 XX1 LE4",
  "XX2 LE7 XX1 LE1 XX1 LE4 XX2 LE41 XX1 LE4 XX2 LE33 XX1 LE4 XX2 LE7 XX1 LE1 XX1 LE4 XX2 LE15",
  "XX1 LE57 XX1 LE4 XX2 LE67 XX2 EX3 XX2 ST1 XX4 ST2 XX23 LE16 XX16 UP86 XX2 LO6 XX3 LE620",
  "XX1 ST1 LE17 SP1 LE26 CL2 XX3 LE75 XX3 LE11 XX7 LE18 EX4 XX9 LE19 EX3 ST2 XX9 LE18 EX2",
  "XX12 LE13 XX1 LE3 XX1 EX2 XX12 LE52 EX32 ST2 XX1 LE1 XX4 LE1 EX1 XX2 NU10 XX24 SC1 ST1 XX4",
  "SC1 ST1 XX1 EX3 FO1 EX1 NU10 XX6 LE89 XX7 LE5 EX2 LE34 EX1 LE1 XX5 LE70 XX10 LE31 XX1 EX12",
  "XX4 EX12 XX8 ST2 NU10 LE30 XX2 LE5 XX11 LE44 XX4 LE26 XX6 NU11 XX37 LE23 EX5 XX4 LE53 EX10",
  "XX1 EX29 XX2 EX1 NU10 XX6 NU10 XX13 LE1 ST4 XX4 EX31 XX49 EX5 LE47 EX17 LE8 XX1 ST2 NU10",
  "ST2 XX2 ST2 XX11 EX9 XX9 ST3 EX3 LE30 EX13 LE2 NU10 LE44 EX14 XX12 LE36 EX20 XX3 ST2 XX3",
  "NU10 XX3 LE3 NU10 LE36 ST2 LO9 UP1 LO1 XX5 LE43 XX2 LE3 XX16 EX3 XX1 EX21 LE4 EX1 LE6 EX1",
  "LE2 EX3 LE1 XX5 LO192 EX64 UP1 LO1 UP1 LO1 UP1 LO1 UP1 LO1 UP1 LO1 UP1 LO1 UP1 LO1 UP1 LO1",
  "UP1 LO1 UP1 LO1 UP1 LO1 UP1 LO1 UP1 LO1 UP1 LO1 UP1 LO1 UP1 LO1 UP1 LO1 UP1 LO1 UP1 LO1",
  "UP1 LO1 UP1 LO1 UP1 LO1 UP1 LO1 UP1 LO1 UP1 LO1 UP1 LO1 UP1 LO1 UP1 LO1 UP1 LO1 UP1 LO1",
  "UP1 LO1 UP1 LO1 UP1 LO1 UP1 LO1 UP1 LO1 UP1 LO1 UP1 LO1 UP1 LO1 UP1 LO1 UP1 LO1 UP1 LO1",
  "UP1 LO1 UP1 LO1 UP1 LO1 UP1 LO1 UP1 LO1 UP1 LO1 UP1 LO1 UP1 LO1 UP1 LO1 UP1 LO1 UP1 LO1",
  "UP1 LO1 UP1 LO1 UP1 LO1 UP1 LO1 UP1 LO1 UP1 LO1 UP1 LO1 UP1 LO1 UP1 LO1 UP1 LO1 UP1 LO1",
  "UP1 LO1 UP1 LO1 UP1 LO1 UP1 LO1 UP1 LO1 UP1 LO1 UP1 LO1 UP1 LO1 UP1 LO1 UP1 LO1 UP1 LO1",
  "UP1 LO9 UP1 LO1 UP1 LO1 UP1 LO1 UP1 LO1 UP1 LO1 UP1 LO1 UP1 LO1 UP1 LO1 UP1 LO1 UP1 LO1",
  "UP1 LO1 UP1 LO1 UP1 LO1 UP1 LO1 UP1 LO1 UP1 LO1 UP1 LO1 UP1 LO1 UP1 LO1 UP1 LO1 UP1 LO1",
  "UP1 LO1 UP1 LO1 UP1 LO1 UP1 LO1 UP1 LO1 UP1 LO1 UP1 LO1 UP1 LO1 UP1 LO1 UP1 LO1 UP1 LO1",
  "UP1 LO1 UP1 LO1 UP1 LO1 UP1 LO1 UP1 LO1 UP1 LO1 UP1 LO1 UP1 LO1 UP1 LO1 UP1 LO1 UP1 LO1",
  "UP1 LO1 UP1 LO1 UP1 LO1 UP1 LO1 UP1 LO1 UP1 LO9 UP8 LO6 XX2 UP6 XX2 LO8 UP8 LO8 UP8 LO6",
  "XX2 UP6 XX2 LO8 XX1 UP1 XX1 UP1 XX1 UP1 XX1 UP1 LO8 UP8 LO14 XX2 LO8 UP8 LO8 UP8 LO8 UP8",
  "LO5 XX1 LO2 UP5 XX1 LO1 XX3 LO3 XX1 LO2 UP5 XX3 LO4 XX2 LO2 UP4 XX4 LO8 UP5 XX5 LO3 XX1",
  "LO2 UP5 XX3 SP11 FO1 EX2 FO2 XX3 SC2 XX3 CL8 XX4 AT1 XX3 SE2 FO5 SP1 XX9 CL2 XX1 ST2 XX7",
  "CL2 ST3 XX21 SP1 FO5 XX1 FO10 XX1 LO1 XX11 CL2 LO1 XX13 CL2 XX1 LO13 XX51 EX33 XX17 UP1",
  "XX4 UP1 XX2 LO1 UP3 LO2 UP3 LO1 XX1 UP1 XX3 UP5 XX6 UP1 XX1 UP1 XX1 UP1 XX1 UP4 XX1 LO1",
  "UP4 LO1 LE4 LO1 XX2 LO2 UP2 XX5 UP1 LO4 XX4 LO1 XX17 UP16 LO16 LE3 UP1 LO1 LE4 XX383 CL4",
  "XX29 CL2 XX395 UP26 LO26 XX625 CL6 XX7 CL14 XX79 CL2 XX31 CL10 XX403 CL22 XX63 CL4 XX32",
  "CL2 XX514 UP48 LO48 UP1 LO1 UP3 LO2 UP1 LO1 UP1 LO1 UP1 LO1 UP4 LO1 UP1 LO2 UP1 LO8 UP3",
  "LO1 UP1 LO1 UP1 LO1 UP1 LO1 UP1 LO1 UP1 LO1 UP1 LO1 UP1 LO1 UP1 LO1 UP1 LO1 UP1 LO1 UP1",
  "LO1 UP1 LO1 UP1 LO1 UP1 LO1 UP1 LO1 UP1 LO1 UP1 LO1 UP1 LO1 UP1 LO1 UP1 LO1 UP1 LO1 UP1",
  "LO1 UP1 LO1 UP1 LO1 UP1 LO1 UP1 LO1 UP1 LO1 UP1 LO1 UP1 LO1 UP1 LO1 UP1 LO1 UP1 LO1 UP1",
  "LO1 UP1 LO1 UP1 LO1 UP1 LO1 UP1 LO1 UP1 LO1 UP1 LO1 UP1 LO1 UP1 LO1 UP1 LO1 UP1 LO1 UP1",
  "LO1 UP1 LO1 UP1 LO1 UP1 LO1 UP1 LO1 UP1 LO2 XX6 UP1 LO1 UP1 LO1 EX3 UP1 LO1 XX5 ST3 XX4",
  "LO38 XX1 LO1 XX5 LO1 XX2 LE56 XX7 LE1 XX15 EX1 LE23 XX9 LE7 XX1 LE7 XX1 LE7 XX1 LE7 XX1",
  "LE7 XX1 LE7 XX1 LE7 XX1 LE7 XX1 EX32 CL14 XX14 CL2 XX2 CL10 XX4 ST1 LE1 XX12 ST1 XX5 CL1",
  "XX16 ST2 CL8 XX419 SP1 SC1 ST1 XX2 LE3 CL10 XX2 CL8 XX1 CL3 XX1 LE9 EX6 XX1 LE5 XX2 LE5",
  "XX4 LE86 XX2 EX2 XX2 LE3 XX1 LE90 XX1 LE4 XX5 LE43 XX1 LE94 XX17 LE32 XX48 LE16 XX512",
  "LE6592 XX64 LE22157 XX67 LE46 XX1 ST1 LE269 XX1 ST2 LE16 NU10 LE2 XX20 UP1 LO1 UP1 LO1 UP1",
  "LO1 UP1 LO1 UP1 LO1 UP1 LO1 UP1 LO1 UP1 LO1 UP1 LO1 UP1 LO1 UP1 LO1 UP1 LO1 UP1 LO1 UP1",
  "LO1 UP1 LO1 UP1 LO1 UP1 LO1 UP1 LO1 UP1 LO1 UP1 LO1 UP1 LO1 UP1 LO1 UP1 LO1 LE1 EX4 XX1",
  "EX10 XX1 LE1 UP1 LO1 UP1 LO1 UP1 LO1 UP1 LO1 UP1 LO1 UP1 LO1 UP1 LO1 UP1 LO1 UP1 LO1 UP1",
  "LO1 UP1 LO1 UP1 LO1 UP1 LO1 UP1 LO3 EX2 LE80 EX2 XX1 ST1 XX3 ST1 XX31 LE9 XX2 UP1 LO1 UP1",
  "LO1 UP1 LO1 UP1 LO1 UP1 LO1 UP1 LO1 UP1 LO3 UP1 LO1 UP1 LO1 UP1 LO1 UP1 LO1 UP1 LO1 UP1",
  "LO1 UP1 LO1 UP1 LO1 UP1 LO1 UP1 LO1 UP1 LO1 UP1 LO1 UP1 LO1 UP1 LO1 UP1 LO1 UP1 LO1 UP1",
  "LO1 UP1 LO1 UP1 LO1 UP1 LO1 UP1 LO1 UP1 LO1 UP1 LO1 UP1 LO1 UP1 LO1 UP1 LO1 UP1 LO1 UP1",
  "LO1 UP1 LO1 UP1 LO1 UP1 LO10 UP1 LO1 UP1 LO1 UP2 LO1 UP1 LO1 UP1 LO1 UP1 LO1 UP1 LO1 LE1",
  "XX2 UP1 LO1 UP1 LO1 LE1 UP1 LO1 UP1 LO3 UP1 LO1 UP1 LO1 UP1 LO1 UP1 LO1 UP1 LO1 UP1 LO1",
  "UP1 LO1 UP1 LO1 UP1 LO1 UP1 LO1 UP5 LO1 UP5 LO1 UP1 LO1 UP1 LO1 UP1 LO1 UP1 LO1 UP1 LO1",
  "UP1 LO1 UP1 LO1 UP4 LO1 UP1 LO1 UP2 LO1 XX2 UP1 LO1 XX1 LO1 XX1 LO1 UP1 LO1 UP1 LO1 UP1",
  "LO1 UP1 XX21 LO3 UP1 LO1 LE1 LO3 LE7 EX1 LE3 EX1 LE4 EX1 LE23 EX5 XX4 EX1 XX19 LE52 XX2",
  "ST2 XX8 EX2 LE50 EX18 XX8 ST2 NU10 XX6 EX18 LE6 XX3 LE1 XX1 LE2 EX1 NU10 LE28 EX8 XX1 ST1",
  "LE23 EX13 XX12 LE29 XX3 EX4 LE47 EX14 XX7 ST2 XX5 LE1 NU10 XX6 LE5 EX1 LE10 NU10 LE5 XX1",
  "LE41 EX14 XX9 LE3 EX1 LE8 EX2 XX2 NU10 XX3 ST3 LE23 XX3 LE1 EX3 LE50 EX1 LE1 EX3 LE2 EX2",
  "LE5 EX2 LE1 EX1 LE1 XX24 LE3 XX2 LE11 EX5 ST2 LE3 EX2 XX10 LE6 XX2 LE6 XX2 LE6 XX9 LE7 XX1",
  "LE7 XX1 LO43 XX1 LO14 XX6 LO80 LE35 EX8 ST1 EX2 XX2 NU10 XX6 LE11172 XX12 LE23 XX4 LE49",
  "XX8452 LE366 XX2 LE106 XX38 LO7 XX12 LO5 XX5 LE1 EX1 LE10 XX1 LE13 XX1 LE5 XX1 LE1 XX1 LE2",
  "XX1 LE2 XX1 LE108 XX33 LE363 CL2 XX16 LE64 XX2 LE54 XX40 LE12 XX4 EX16 SC2 ST1 SC2 ST2 CL2",
  "XX7 EX16 XX1 SC2 XX2 CL16 XX2 CL2 XX7 SC2 AT1 XX1 SC2 ST2 SC1 CL6 XX4 SC1 XX12 LE5 XX1",
  "LE135 XX2 FO1 XX1 ST1 XX6 CL2 XX2 SC2 AT1 XX1 NU10 SC2 XX3 ST1 XX1 UP26 CL1 XX1 CL1 XX3",
  "LO26 CL1 XX1 CL1 XX1 CL2 ST1 CL2 SC1 XX1 LE56 EX2 LE31 XX3 LE6 XX2 LE6 XX2 LE6 XX2 LE3",
  "XX28 FO3 XX4 LE12 XX1 LE26 XX1 LE19 XX1 LE2 XX1 LE15 XX2 LE14 XX34 LE123 XX69 LE53 XX136",
  "EX1 XX130 LE29 XX3 LE49 XX15 EX1 XX31 LE32 XX13 LE30 XX5 LE38 EX5 XX5 LE30 XX2 LE36 XX4",
  "LE8 XX1 LE5 XX42 UP40 LO40 LE78 XX2 NU10 XX6 UP36 XX4 LO36 XX4 LE40 XX8 LE52 XX12 UP11 XX1",
  "UP15 XX1 UP7 XX1 UP2 XX1 LO11 XX1 LO15 XX1 LO7 XX1 LO2 XX3 LE52 XX12 LE311 XX9 LE22 XX10",
  "LE8 XX24 LO1 LE2 LO3 XX1 LO42 XX1 LO9 XX69 LE6 XX2 LE1 XX1 LE44 XX1 LE2 XX3 LE1 XX2 LE23",
  "XX10 LE23 XX9 LE31 XX65 LE19 XX1 LE2 XX10 LE22 XX10 LE26 XX70 LE56 XX6 LE2 XX64 LE1 EX3",
  "XX1 EX2 XX5 EX4 LE4 XX1 LE3 XX1 LE29 XX2 EX3 XX4 EX1 XX22 ST2 XX8 LE29 XX3 LE29 XX35 LE8",
  "XX1 LE28 EX2 XX25 LE54 XX10 LE22 XX10 LE19 XX13 LE18 XX110 LE73 XX55 UP51 XX13 LO51 XX13",
  "LE36 EX4 XX8 NU10 XX6 NU10 LE6 UP22 XX3 EX5 XX1 LE1 LO22 XX250 LE42 XX1 EX2 XX3 LE2 XX16",
  "LE3 XX55 EX4 LE29 XX10 LE1 XX8 LE22 EX11 XX4 ST5 XX22 LE18 EX4 ST4 XX38 LE21 XX27 LE23 XX9",
  "EX3 LE53 EX15 ST2 XX29 NU10 EX1 LE2 EX2 LE1 XX9 EX4 LE45 EX11 XX2 NU1 ST4 EX1 XX10 NU1 XX2",
  "LE25 XX7 NU10 XX6 EX3 LE36 EX14 XX1 NU10 XX1 ST3 LE1 EX2 LE1 XX8 LE35 EX1 XX2 LE1 XX9 EX3",
  "LE48 EX14 LE4 ST2 XX2 EX4 ST1 EX2 NU10 LE1 XX1 LE1 XX1 ST2 XX32 LE18 XX1 LE25 EX12 ST2 XX1",
  "ST2 XX1 EX1 LE2 EX1 XX62 LE7 XX1 LE1 XX1 LE4 XX1 LE15 XX1 LE10 ST1 XX6 LE47 EX12 XX5 NU10",
  "XX6 EX4 XX1 LE8 XX2 LE2 XX2 LE22 XX1 LE7 XX1 LE2 XX1 LE5 XX1 EX2 LE1 EX7 XX2 EX2 XX2 EX3",
  "XX2 LE1 XX6 EX1 XX5 LE5 EX2 XX2 EX7 XX3 EX5 XX11 LE10 XX1 LE1 XX2 LE1 XX1 LE38 XX1 LE1 EX9",
  "XX1 EX1 XX2 EX1 XX1 EX4 XX1 EX5 LE1 EX1 LE1 ST2 XX11 EX2 XX29 LE53 EX18 LE4 ST2 XX3 NU10",
  "XX4 EX1 LE3 XX30 LE48 EX20 LE2 XX1 LE1 XX8 NU10 XX166 LE47 EX7 XX2 EX9 XX1 ST2 XX5 ST15",
  "LE4 EX2 XX34 LE48 EX17 ST2 XX1 LE1 XX11 NU10 XX38 LE43 EX13 LE1 XX7 NU10 XX6 NU20 XX28",
  "LE27 XX2 EX15 XX4 NU10 XX2 ST3 XX1 LE7 XX185 LE44 EX15 XX101 UP32 LO32 NU10 XX21 LE8 XX2",
  "LE1 XX2 LE8 XX1 LE2 XX1 LE24 EX6 XX1 EX2 XX2 EX4 LE1 EX1 LE1 EX2 ST1 XX1 ST1 XX9 NU10 XX70",
  "LE8 XX2 LE39 EX7 XX2 EX7 LE1 XX1 LE1 EX1 XX27 LE1 EX10 LE40 EX7 LE1 EX4 XX3 ST2 XX3 EX1",
  "XX8 LE1 EX11 LE46 EX16 XX1 ST2 LE1 XX18 LE73 XX199 LE33 XX15 NU10 XX6 LE9 XX1 LE37 EX8 XX1",
  "EX8 LE1 ST2 XX13 NU10 XX24 LE30 XX2 EX22 XX1 EX14 XX73 LE7 XX1 LE2 XX1 LE38 EX6 XX3 EX1",
  "XX1 EX2 XX1 EX7 LE1 EX1 XX8 NU10 XX6 LE6 XX1 LE2 XX1 LE32 EX5 XX1 EX2 XX1 EX5 LE1 XX7 NU10",
  "XX310 LE19 EX4 ST2 XX7 EX2 LE1 EX1 LE13 XX1 LE34 EX7 XX3 EX5 ST2 XX11 NU10 EX1 XX85 LE1",
  "XX79 LE922 XX102 LE111 XX17 LE196 XX2636 LE97 XX15 LE1072 FO16 EX1 LE6 EX15 XX10 LE3995",
  "XX5 LE583 XX6841 LE30 EX18 NU10 XX1734 LE569 XX7 LE31 XX1 NU10 XX4 ST2 LE79 XX1 NU10 XX6",
  "LE30 XX2 EX5 ST1 XX10 LE48 EX7 ST2 XX7 LE4 ST1 XX11 NU10 XX9 LE21 XX5 LE19 XX432 LE45 XX1",
  "ST2 NU10 XX198 UP32 LO32 XX24 ST1 XX103 LE75 XX4 EX1 LE1 EX55 XX7 EX4 LE13 XX64 LE2 XX1",
  "LE1 EX1 XX11 EX2 XX14 LE6136 XX8 LE1238 XX41 LE10 XX8935 LE4 XX1 LE7 XX1 LE2 XX1 LE291",
  "XX15 LE1 XX29 LE3 XX2 LE1 XX14 LE4 XX8 LE396 XX2308 LE107 XX5 LE13 XX3 LE9 XX7 LE10 XX3",
  "EX2 ST1 FO4 XX4172 NU10 XX518 EX46 XX2 EX23 XX542 EX5 XX3 EX6 FO8 EX8 XX2 EX7 XX30 EX4",
  "XX148 EX3 XX443 UP26 LO26 UP26 LO7 XX1 LO18 UP26 LO26 UP1 XX1 UP2 XX2 UP1 XX2 UP2 XX2 UP4",
  "XX1 UP8 LO4 XX1 LO1 XX1 LO7 XX1 LO11 UP26 LO26 UP2 XX1 UP4 XX2 UP8 XX1 UP7 XX1 LO26 UP2",
  "XX1 UP4 XX1 UP5 XX1 UP1 XX3 UP7 XX1 LO26 UP26 LO26 UP26 LO26 UP26 LO26 UP26 LO26 UP26 LO26",
  "UP26 LO28 XX2 UP25 XX1 LO25 XX1 LO6 UP25 XX1 LO25 XX1 LO6 UP25 XX1 LO25 XX1 LO6 UP25 XX1",
  "LO25 XX1 LO6 UP25 XX1 LO25 XX1 LO6 UP1 LO1 XX2 NU50 XX512 EX55 XX4 EX50 XX8 EX1 XX14 EX1",
  "XX3 ST1 XX18 EX5 XX1 EX15 XX1104 LO10 LE1 LO20 XX6 LO6 XX213 EX7 XX1 EX17 XX2 EX7 XX1 EX2",
  "XX1 EX5 XX5 LO62 XX33 EX1 XX112 LE45 XX3 EX7 LE7 XX2 NU10 XX4 LE1 XX321 LE30 EX1 XX17 LE44",
  "EX4 NU10 XX470 LE28 EX4 NU10 XX214 LE30 EX2 LE1 NU10 XX485 LE7 XX1 LE4 XX1 LE2 XX1 LE15",
  "XX1 LE197 XX11 EX7 XX41 UP34 LO34 EX7 LE1 XX4 NU10 XX1190 LE4 XX1 LE27 XX1 LE2 XX1 LE1 XX2",
  "LE1 XX1 LE10 XX1 LE4 XX1 LE1 XX1 LE1 XX6 LE1 XX4 LE1 XX1 LE1 XX1 LE1 XX1 LE3 XX1 LE2 XX1",
  "LE1 XX2 LE1 XX1 LE1 XX1 LE1 XX1 LE1 XX1 LE1 XX1 LE2 XX1 LE1 XX2 LE4 XX1 LE7 XX1 LE4 XX1",
  "LE4 XX1 LE1 XX1 LE10 XX1 LE17 XX5 LE3 XX1 LE5 XX1 LE17 XX628 UP26 XX6 UP26 XX6 UP26 XX1260",
  "CL3 XX1399 NU10 XX1030 LE42720 XX32 LE4154 XX6 LE222 XX2 LE5762 XX14 LE7473 XX15 LE622",
  "XX2466 LE542 XX1506 LE4939 XX5 LE4192 XX711761 FO1 XX30 EX96 XX128 EX240 XX196112"]

def table : Labelled :=
  .ofLines runs

/-- The abbreviation of each class and the names it is looked up by. -/
def names : List (String × List String) := [
  ("AT", ["at", "aterm"]),
  ("CL", ["cl", "close"]),
  ("CR", ["cr"]),
  ("EX", ["ex", "extend"]),
  ("FO", ["fo", "format"]),
  ("LE", ["le", "oletter"]),
  ("LF", ["lf"]),
  ("LO", ["lo", "lower"]),
  ("NU", ["nu", "numeric"]),
  ("SC", ["sc", "scontinue"]),
  ("SE", ["se", "sep"]),
  ("SP", ["sp"]),
  ("ST", ["st", "sterm"]),
  ("UP", ["up", "upper"])]

def named? (name : String) : Option CodePoints :=
  (names.find? (·.2.contains name)).map fun (label, _) => table.points (· = label)

end NetInterface.Unicode.SentenceBreak
