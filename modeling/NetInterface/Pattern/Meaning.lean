import NetInterface.Pattern.Automaton.Size
import NetInterface.Pattern.Matcher.NormalForm
import NetInterface.Pattern.Matcher.Search
import NetInterface.Pattern.Reader

/-!
The matcher that a written pattern stands for.
-/

namespace NetInterface.Pattern

open Unicode

def Anchor.condition (modes : Modes) : Anchor → Condition
  | .lineStart => if modes.multiLine then .lineStart modes.carriageReturn else .textStart
  | .lineEnd => if modes.multiLine then .lineEnd modes.carriageReturn else .textEnd
  | .textStart => .textStart
  | .textEnd => .textEnd
  | .word place => .word place modes.unicode

namespace Modes

/-- A dot matches everything, or everything but the characters that end a line. -/
def dot (modes : Modes) : Except Fault CodePoints :=
  if !modes.unicode then
    .error .unicodeRequired
  else if modes.dotMatchesNewline then
    .ok .full
  else if modes.carriageReturn then
    .ok (CodePoints.ofList ['\n'.toNat, '\r'.toNat]).complement
  else
    .ok (CodePoints.ofList ['\n'.toNat]).complement

/-- Outside Unicode mode an octet above ASCII cannot be matched alone, and the case of characters
above ASCII is not ignored. -/
def literal (modes : Modes) (literal : Literal) : Except Fault Matcher :=
  let single : CodePoints := .ofList [literal.character.toNat]
  if modes.unicode || literal.character.toNat < 0x80 then
    .ok (.ofClass ⟨modes.close single, !modes.unicode⟩)
  else if literal.asOctet then
    .error .unicodeRequired
  else
    .ok (.literal [literal.character])

end Modes

namespace Tree

mutual

/-- The matcher of a tree, and the modes that hold after it. -/
def matcher (modes : Modes) : Tree → Except Fault (Matcher × Modes)
  | .empty => .ok (.empty, modes)
  | .modes changes => .ok (.empty, modes.changeAll changes)
  | .literal single => return (← modes.literal single, modes)
  | .dot => return (.ofClass ⟨← modes.dot, false⟩, modes)
  | .anchor kind => .ok (.condition (kind.condition modes), modes)
  | .charClass tree => return (.ofClass (← tree.charClass modes), modes)
  | .repetition least most greedy body => do
      let (body, modes) ← body.matcher modes
      return (.repeated least most (greedy != modes.swapGreed) body, modes)
  | .group captures changes body => do
      let (body, _) ← body.matcher (modes.changeAll changes)
      return (if captures then .group body else body, modes)
  | .alternation branches => do
      let (branches, modes) ← matchers modes branches
      return (.ofBranches branches, modes)
  | .concatenation items => do
      let (parts, modes) ← matchers modes items
      return (.ofParts parts, modes)

def matchers (modes : Modes) : List Tree → Except Fault (List Matcher × Modes)
  | [] => .ok ([], modes)
  | tree :: trees => do
      let (first, modes) ← tree.matcher modes
      let (others, modes) ← matchers modes trees
      return (first :: others, modes)

end

end Tree

/-- The matcher of a pattern text. -/
def compile (text : String) : Except Fault Matcher := do
  let (matcher, _) ← (← Tree.parse text).matcher {}
  if Automaton.isTooLarge matcher then
    .error .tooLarge
  else
    return matcher

/-- The names that a pattern text matches, or else what is wrong with it. -/
def read (text : String) : Except String (String → Bool) :=
  match compile text with
  | .ok matcher => .ok matcher.matchesIn
  | .error fault => .error fault.message

end NetInterface.Pattern
