import NetInterface.Pattern.CharClass

/-!
Matchers: patterns with all modes resolved.

What can be said of the matches of a matcher without a text to search: how many characters they
have at least, and the conditions under which all of them begin and end.
-/

namespace NetInterface.Pattern

inductive Matcher where
  | empty
  | literal (characters : List Char)
  | oneOf (charClass : CharClass)
  | condition (condition : Condition)
  | repetition (least : Nat) (most : Option Nat) (greedy : Bool) (body : Matcher)
  /-- A group whose match is recorded. -/
  | group (body : Matcher)
  | sequence (parts : List Matcher)
  | choice (branches : List Matcher)

namespace Matcher

mutual

/-- Whether two matchers are the same. Two groups never are, because each records its own match. -/
def isSame : Matcher → Matcher → Bool
  | .empty, .empty => true
  | .literal left, .literal right => left = right
  | .oneOf left, .oneOf right => left = right
  | .condition left, .condition right => left = right
  | .repetition least most greedy body, .repetition least' most' greedy' body' =>
      least = least' && most = most' && greedy = greedy' && isSame body body'
  | .sequence parts, .sequence parts' => areSame parts parts'
  | .choice branches, .choice branches' => areSame branches branches'
  | _, _ => false

def areSame : List Matcher → List Matcher → Bool
  | [], [] => true
  | left :: lefts, right :: rights => isSame left right && areSame lefts rights
  | _, _ => false

end

mutual

/-- Whether the matcher consumes no characters. -/
def isEmptyOnly : Matcher → Bool
  | .empty | .condition _ => true
  | .literal _ | .oneOf _ => false
  | .repetition _ _ _ body => isEmptyOnly body
  | .group body => isEmptyOnly body
  | .sequence parts => areEmptyOnly parts
  | .choice branches => areEmptyOnly branches

def areEmptyOnly : List Matcher → Bool
  | [] => true
  | matcher :: matchers => isEmptyOnly matcher && areEmptyOnly matchers

end

mutual

/-- The least number of characters that a match consumes; unknown for what never matches. -/
def leastLength? : Matcher → Option Nat
  | .empty | .condition _ => some 0
  | .literal characters => some characters.length
  | .oneOf charClass => if charClass.points.isEmpty then none else some 1
  | .repetition least _ _ body => (leastLength? body).map (least * ·)
  | .group body => leastLength? body
  | .sequence parts => (leastLengths? parts).map (·.foldl (· + ·) 0)
  | .choice branches => (leastLengths? branches).bind (·.min?)

def leastLengths? : List Matcher → Option (List Nat)
  | [] => some []
  | matcher :: matchers => do
      let length ← leastLength? matcher
      return length :: (← leastLengths? matchers)

end

mutual

/-- Whether every match begins under the condition. -/
def beginsWith (wanted : Condition) : Matcher → Bool
  | .condition anchor => anchor = wanted
  | .repetition least _ _ body => 0 < least && beginsWith wanted body
  | .group body => beginsWith wanted body
  | .sequence parts => someBeginsWith wanted parts
  | .choice branches => allBeginWith wanted branches
  | .empty | .literal _ | .oneOf _ => false

/-- Whether that holds of one of the parts that no character precedes. -/
def someBeginsWith (wanted : Condition) : List Matcher → Bool
  | [] => false
  | part :: parts =>
      beginsWith wanted part || (isEmptyOnly part && someBeginsWith wanted parts)

def allBeginWith (wanted : Condition) : List Matcher → Bool
  | [] => true
  | branch :: branches => beginsWith wanted branch && allBeginWith wanted branches

end

mutual

/-- Whether every match ends under the condition. -/
def endsWith (wanted : Condition) : Matcher → Bool
  | .condition anchor => anchor = wanted
  | .repetition least _ _ body => 0 < least && endsWith wanted body
  | .group body => endsWith wanted body
  | .sequence parts => someEndsWith wanted parts
  | .choice branches => allEndWith wanted branches
  | .empty | .literal _ | .oneOf _ => false

/-- Whether that holds of one of the parts that no character follows. -/
def someEndsWith (wanted : Condition) : List Matcher → Bool
  | [] => false
  | part :: parts =>
      someEndsWith wanted parts || (areEmptyOnly parts && endsWith wanted part)

def allEndWith (wanted : Condition) : List Matcher → Bool
  | [] => true
  | branch :: branches => endsWith wanted branch && allEndWith wanted branches

end

end Matcher

end NetInterface.Pattern
