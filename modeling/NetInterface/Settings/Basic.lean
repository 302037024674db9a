import NetInterface.Filter
import NetInterface.Settings.Format
import NetInterface.Settings.Target

/-!
Settings: which interfaces to show and how.
-/

namespace NetInterface

structure Settings where
  /-- The interface that is asked for; without one all that the filter accepts are listed. -/
  target : Option Target
  format : OutputFormat
  filter : FilterChain
  verbose : Bool

namespace Settings

def targetText (settings : Settings) : String :=
  match settings.target with
  | some target => target.text
  | none => "all"

def text (settings : Settings) : String :=
  "Config \x7b target: " ++ settings.targetText ++ ", format: " ++ settings.format.label ++
    ", includes: " ++ toString settings.filter.includes.length ++
    ", excludes: " ++ toString settings.filter.excludes.length ++ " \x7d"

end Settings

end NetInterface
