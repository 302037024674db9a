import NetInterface.Listing.Basic
import NetInterface.Native.SystemError

/-!
The native layer that interface listings come from.

A handle is acquired once, listings are fetched any number of times and the handle is released.
Each call may fail on its own, and every fetch may answer differently.
-/

namespace NetInterface

inductive NativeError where
  | system (operation : String) (error : SystemError)
  | permissionDenied (context : String)
  | platform (message : String)
deriving DecidableEq, Repr

namespace NativeError

def message : NativeError → String
  | .system operation error => operation ++ " failed: " ++ error.message
  | .permissionDenied context => "Permission denied: " ++ context
  | .platform message => "Platform error: " ++ message

/-- A failed system call; a lack of permission is told apart. -/
def ofSystem (operation : String) (error : SystemError) : NativeError :=
  if error = .notPermitted ∨ error = .accessDenied then
    .permissionDenied (operation ++ ": " ++ error.message)
  else
    .system operation error

end NativeError

/-- The handle of a source. Nothing more is known of it than whether it is held. -/
abbrev Handle := Unit

structure Source where
  acquire : Except NativeError Handle
  /-- The answer to the fetch with the given number, counted from zero. -/
  fetch : Nat → Except NativeError Listing
  release : Except NativeError Unit

namespace Source

/-- The first interface of one fetch that has the given name. -/
def lookupName (source : Source) (number : Nat) (name : String) :
    Except NativeError (Option ListedInterface) :=
  (source.fetch number).map (·.withName? name)

/-- The first interface of one fetch that has the given index. -/
def lookupIndex (source : Source) (number : Nat) (index : UInt32) :
    Except NativeError (Option ListedInterface) :=
  (source.fetch number).map (·.withIndex? index)

end Source

end NetInterface
