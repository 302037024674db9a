import NetInterface.Listing.Conversion
import NetInterface.Native.Source
import NetInterface.Snapshot
import NetInterface.Text.Literal

/-!
A browser over the interfaces of a source.

A browser holds one native handle from its creation until it is closed. The first read that
succeeds fetches the listing and caches its snapshot, which every later read shares; a failed fetch
leaves the browser as it was. Closing drops the snapshot and releases the handle, once, and so does
the drop of a browser that nobody closed. Nothing but the order of these steps ties the handle to
the cache.

All that a browser does is written to its events, in order.
-/

namespace NetInterface

inductive BrowserError where
  | illegalState (state : IllegalState)
  | native (error : NativeError)
deriving DecidableEq, Repr

def BrowserError.message : BrowserError → String
  | .illegalState state => state.message
  | .native error => "Native operation failed: " ++ error.message

/-- What a browser did. -/
inductive Event where
  | acquired
  | acquireFailed (error : NativeError)
  | fetched
  | fetchFailed (error : NativeError)
  | skipped (part : SkippedPart)
  | populated (interfaces : Nat)
  | released
  | releaseFailed (error : NativeError)
deriving DecidableEq, Repr

namespace Event

def isAcquire : Event → Bool
  | .acquired | .acquireFailed _ => true
  | _ => false

def isFetch : Event → Bool
  | .fetched | .fetchFailed _ => true
  | _ => false

def isRelease : Event → Bool
  | .released | .releaseFailed _ => true
  | _ => false

/-- Whether the event is reported as a warning. -/
def isWarning : Event → Bool
  | .skipped _ | .releaseFailed _ => true
  | _ => false

end Event

/-- A snapshot with the number of the fetch that it was made from. -/
structure Population where
  fetch : Nat
  snapshot : Snapshot

namespace Population

def ofListing (fetch : Nat) (listing : Listing) : Population :=
  ⟨fetch, .ofList listing.interfaces⟩

end Population

/-- What a browser holds: its handle until it is released, and the population that it caches. -/
structure Holdings where
  handle : Option Handle
  cache : Option Population

namespace Holdings

def isClosed (holdings : Holdings) : Bool :=
  holdings.handle.isNone

def isPopulated (holdings : Holdings) : Bool :=
  holdings.cache.isSome

def text : Holdings → String
  | ⟨none, _⟩ => "InterfaceBrowser: closed"
  | ⟨some _, none⟩ => "InterfaceBrowser: pending population"
  | ⟨some _, some population⟩ =>
      "InterfaceBrowser: contains info on " ++ toString population.snapshot.size ++ " interfaces"

/-- What is cached, written as a literal. -/
def inspectCache (holdings : Holdings) : String :=
  match holdings.cache with
  | some population =>
      "Some(" ++ Text.Literal.quotedList (population.snapshot.toList.map (·.name)) ++ ")"
  | none => "None"

def inspect (holdings : Holdings) : String :=
  "InterfaceBrowser \x7b closed: " ++ toString holdings.isClosed ++ ", cached: " ++
    holdings.inspectCache ++ ", .. \x7d"

end Holdings

structure Browser where
  holdings : Holdings
  events : List Event

namespace Browser

def acquires (browser : Browser) : Nat :=
  browser.events.countP Event.isAcquire

/-- How often the listing was fetched, which is also the number of the next fetch. -/
def fetches (browser : Browser) : Nat :=
  browser.events.countP Event.isFetch

def releases (browser : Browser) : Nat :=
  browser.events.countP Event.isRelease

def record (browser : Browser) (events : List Event) : Browser :=
  { browser with events := browser.events ++ events }

/-- What acquiring the handle of the source leads to. -/
def acquisition (source : Source) : Event :=
  match source.acquire with
  | .ok _ => .acquired
  | .error error => .acquireFailed error

/-- A browser that has acquired its handle and done nothing else. -/
def new (handle : Handle) : Browser :=
  ⟨⟨some handle, none⟩, [.acquired]⟩

def create (source : Source) : Except BrowserError Browser :=
  match source.acquire with
  | .ok handle => .ok (new handle)
  | .error error => .error (.native error)

/-- What is in the cache, and the browser without it. -/
def takeCache (browser : Browser) : Option Population × Browser :=
  (browser.holdings.cache, { browser with holdings.cache := none })

def insertCache (browser : Browser) (population : Population) : Browser :=
  { browser with holdings.cache := some population }

/-- What is recorded when a listing is fetched and converted to so many interfaces. -/
def populating (listing : Listing) (interfaces : Nat) : List Event :=
  .fetched :: listing.skipped.map .skipped ++ [.populated interfaces]

/-- Fetches and converts the next listing. What it is converted to is not cached yet. -/
def populate (source : Source) (browser : Browser) :
    Except BrowserError Population × Browser :=
  match source.fetch browser.fetches with
  | .error error => (.error (.native error), browser.record [.fetchFailed error])
  | .ok listing =>
      let population := Population.ofListing browser.fetches listing
      (.ok population, browser.record (populating listing population.snapshot.size))

/-- The population that reads answer from, made now if none is cached. The cache is emptied before
and is filled again after a success only. -/
def read (source : Source) (browser : Browser) : Except BrowserError Population × Browser :=
  match browser.holdings.handle with
  | none => (.error (.illegalState .closed), browser)
  | some _ =>
      let (cached, emptied) := browser.takeCache
      let populated : Except BrowserError Population × Browser :=
        match cached with
        | some population => (.ok population, emptied)
        | none => emptied.populate source
      match populated with
      | (.ok population, after) => (.ok population, after.insertCache population)
      | (.error error, after) => (.error error, after)

/-- What releasing the handle of the source leads to. -/
def releasing (source : Source) : Event :=
  match source.release with
  | .ok () => .released
  | .error error => .releaseFailed error

/-- Empties the cache, and takes and releases the handle unless it already was released. A failed
release counts. -/
def close (source : Source) (browser : Browser) : Browser :=
  let emptied : Browser := { browser with holdings.cache := none }
  match emptied.holdings.handle with
  | none => emptied
  | some _ => { emptied with holdings.handle := none }.record [releasing source]

/-- The end of a browser that goes out of use, which is closed then. -/
def drop (source : Source) (browser : Browser) : Browser :=
  browser.close source

end Browser

/-- Visits the items in order, with a state, until a visit says to stop; whether none did. -/
def visitWhile {Item State : Type} (visit : Item → State → Bool × State) :
    List Item → State → Bool × State
  | [], state => (true, state)
  | item :: items, state =>
      match visit item state with
      | (true, state) => visitWhile visit items state
      | (false, state) => (false, state)

namespace Browser

/-- Visits the interfaces in order until a visit says to stop. What the visits do to the browser
does not change which interfaces are visited. -/
def forEach {State : Type} (source : Source)
    (visit : Interface → Browser × State → Bool × (Browser × State)) (browser : Browser)
    (state : State) : Except BrowserError Bool × (Browser × State) :=
  match browser.read source with
  | (.error error, browser) => (.error error, browser, state)
  | (.ok population, browser) =>
      let (completed, after) := visitWhile visit population.snapshot.toList (browser, state)
      (.ok completed, after)

end Browser

end NetInterface
