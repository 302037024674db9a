import NetInterface.Pattern.Matcher.Basic

/-!
The normal form of matchers, which is kept by the functions that build them.

Sequences and choices are flat, neighbouring literals are one, a class of a single character is a
literal, and branches that are all single characters or all classes are one class. What all
branches of a choice begin with stands before the choice.
-/

namespace NetInterface.Pattern.Matcher

open Unicode

/-- Matches nothing at all. -/
def never : Matcher :=
  .oneOf ⟨.none, true⟩

def ofClass (charClass : CharClass) : Matcher :=
  if charClass.points.isEmpty then never
  else
    match charClass.points.only? with
    | some point => .literal [Char.ofNat point]
    | none => .oneOf charClass

/-- What consumes nothing is repeated once at most. -/
def repeated (least : Nat) (most : Option Nat) (greedy : Bool) (body : Matcher) : Matcher :=
  let (least, most) :=
    if body.isEmptyOnly then (min least 1, some (min (most.getD 1) 1)) else (least, most)
  if most = some 0 then .empty
  else if least = 1 ∧ most = some 1 then body
  else .repetition least most greedy body

def parts : Matcher → List Matcher
  | .empty => []
  | .sequence parts => parts
  | part => [part]

/-- Puts a part before others, joining literals. -/
def joinPart : Matcher → List Matcher → List Matcher
  | .literal first, .literal second :: parts => .literal (first ++ second) :: parts
  | part, parts => part :: parts

def ofParts (matchers : List Matcher) : Matcher :=
  match (matchers.flatMap parts).foldr joinPart [] with
  | [] => .empty
  | [part] => part
  | parts => .sequence parts

def branches : Matcher → List Matcher
  | .choice branches => branches
  | branch => [branch]

def singleCharacter? : Matcher → Option Nat
  | .literal [character] => some character.toNat
  | _ => none

def points? : Matcher → Option CodePoints
  | .oneOf charClass => some charClass.points
  | _ => none

/-- A choice between flat branches whose beginnings differ. -/
def ofDistinctBranches : List Matcher → Matcher
  | [] => never
  | [branch] => branch
  | branches =>
      match branches.mapM singleCharacter?, branches.mapM points? with
      | some points, _ => ofClass ⟨.ofList points, false⟩
      | _, some sets => ofClass ⟨sets.foldl .union .none, false⟩
      | none, none => .choice branches

/-- What two sequences begin with. -/
def commonParts : List Matcher → List Matcher → List Matcher
  | left :: lefts, right :: rights =>
      if left.isSame right then left :: commonParts lefts rights else []
  | _, _ => []

/-- What all branches begin with, if they are sequences, and what remains of each. -/
def commonBeginning (branches : List Matcher) : List Matcher × List Matcher :=
  match branches.mapM (fun | .sequence parts => some parts | _ => none) with
  | some (first :: others) =>
      let shared := others.foldl commonParts first
      (shared, (first :: others).map fun parts => ofParts (parts.drop shared.length))
  | _ => ([], branches)

def ofBranches (matchers : List Matcher) : Matcher :=
  match matchers.flatMap branches with
  | [branch] => branch
  | flat =>
      match commonBeginning flat with
      | ([], branches) => ofDistinctBranches branches
      | (shared, rests) => ofParts (shared ++ [ofDistinctBranches (rests.flatMap branches)])

end NetInterface.Pattern.Matcher
