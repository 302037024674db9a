import NetInterface.Pattern.Tree

/-!
The modes that hold at a place of a pattern.

Modes are threaded through the parts of a pattern in reading order; a group restores them.
-/

namespace NetInterface.Pattern

structure Modes where
  caseInsensitive : Bool := false
  multiLine : Bool := false
  dotMatchesNewline : Bool := false
  swapGreed : Bool := false
  carriageReturn : Bool := false
  unicode : Bool := true

namespace Modes

/-- Ignored blanks concern the reading of a pattern only. -/
def change (modes : Modes) (change : ModeChange) : Modes :=
  match change.mode with
  | .caseInsensitive => { modes with caseInsensitive := change.on }
  | .multiLine => { modes with multiLine := change.on }
  | .dotMatchesNewline => { modes with dotMatchesNewline := change.on }
  | .swapGreed => { modes with swapGreed := change.on }
  | .carriageReturn => { modes with carriageReturn := change.on }
  | .unicode => { modes with unicode := change.on }
  | .ignoreBlanks => modes

def changeAll (modes : Modes) (changes : List ModeChange) : Modes :=
  changes.foldl change modes

end Modes

end NetInterface.Pattern
