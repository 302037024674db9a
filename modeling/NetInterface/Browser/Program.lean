import NetInterface.Browser.Basic

/-!
Programs that use a browser.

A program asks the browser questions, one after another, and may choose each from the answers so
far. A visit of all interfaces runs a program for each of them, which may use the browser too and
says whether to go on. A run of a program ends in the drop of the browser, which closes it.
-/

namespace NetInterface

inductive Query where
  | named (name : String)
  | numbered (index : UInt32)
  | list
  | size
  | isEmpty
  | isClosed
  | isPopulated
  | text
  | inspect
  | close
deriving DecidableEq, Repr

inductive Answer where
  | found (interface : Option Interface)
  | listed (population : Population)
  | size (interfaces : Nat)
  | truth (value : Bool)
  | text (value : String)
  | done
  | visited (completed : Bool) (visits : List (Interface × List Answer))
  | failed (error : BrowserError)

/-- An interface that was visited and the answers that its visit was given. -/
abbrev Visit := Interface × List Answer

/-- A program, which may end by saying whether to go on. -/
inductive Program where
  | stop (goOn : Bool)
  | ask (query : Query) (next : Answer → Program)
  /-- Visits all interfaces; a visit is told of the visits before it. -/
  | forEach (visit : List Visit → Interface → Program) (next : Answer → Program)
deriving Inhabited

/-- A query that was put to a browser: the browser before it, the answer and the browser after. -/
structure Step where
  before : Browser
  query : Query
  answer : Answer
  after : Browser

namespace Browser

/-- The answer to a read, given what it is to say of the population. -/
def answerRead (source : Source) (browser : Browser) (say : Population → Answer) :
    Answer × Browser :=
  match browser.read source with
  | (.ok population, browser) => (say population, browser)
  | (.error error, browser) => (.failed error, browser)

def answer (source : Source) (browser : Browser) : Query → Answer × Browser
  | .named name =>
      browser.answerRead source fun population => .found (population.snapshot.named? name)
  | .numbered index =>
      browser.answerRead source fun population => .found (population.snapshot.numbered? index)
  | .list => browser.answerRead source .listed
  | .size => browser.answerRead source fun population => .size population.snapshot.size
  | .isEmpty =>
      browser.answerRead source fun population => .truth (population.snapshot.size = 0)
  | .isClosed => (.truth browser.holdings.isClosed, browser)
  | .isPopulated => (.truth browser.holdings.isPopulated, browser)
  | .text => (.text browser.holdings.text, browser)
  | .inspect => (.text browser.holdings.inspect, browser)
  | .close => (.done, browser.close source)

def step (source : Source) (browser : Browser) (query : Query) : Step :=
  ⟨browser, query, (browser.answer source query).1, (browser.answer source query).2⟩

end Browser

namespace Program

/-- How a program ended: what it said last, the answers it was given and the browser. The steps
are its queries and those of its visits in the order in which they were put; a visit of all
interfaces begins with the step of a list. -/
structure Outcome where
  goOn : Bool
  answers : List Answer
  browser : Browser
  steps : List Step

/-- The outcome of a program that was given one more answer before, in so many steps. -/
def Outcome.after (steps : List Step) (answer : Answer) (outcome : Outcome) : Outcome :=
  { outcome with answers := answer :: outcome.answers, steps := steps ++ outcome.steps }

/-- How a visit of all interfaces ended. -/
structure Tour where
  answer : Answer
  browser : Browser
  steps : List Step

/-- One visit, which is told of the visits before it; their steps are kept as well. -/
def visitOne (visit : List Visit → Interface → Browser → Outcome) (interface : Interface)
    (state : Browser × List Visit × List Step) : Bool × Browser × List Visit × List Step :=
  let (browser, visits, steps) := state
  let outcome := visit visits interface browser
  (outcome.goOn, outcome.browser, visits ++ [(interface, outcome.answers)],
    steps ++ outcome.steps)

/-- Visits all interfaces until a visit says to stop. -/
def tour (source : Source) (visit : List Visit → Interface → Browser → Outcome)
    (browser : Browser) : Tour :=
  let (result, after, visits, steps) :=
    browser.forEach source (visitOne visit) ([], [browser.step source .list])
  match result with
  | .ok completed => ⟨.visited completed visits, after, steps⟩
  | .error error => ⟨.failed error, after, steps⟩

def run (source : Source) : Program → Browser → Outcome
  | .stop goOn, browser => ⟨goOn, [], browser, []⟩
  | .ask query next, browser =>
      let step := browser.step source query
      ((next step.answer).run source step.after).after [step] step.answer
  | .forEach visit next, browser =>
      let tour :=
        tour source (fun visits interface => (visit visits interface).run source) browser
      ((next tour.answer).run source tour.browser).after tour.steps tour.answer

end Program

/-- A whole session with a source: what was answered and all that the browser did. -/
structure Session where
  answers : Except BrowserError (List Answer)
  events : List Event

namespace Session

/-- Creates a browser, runs the program and drops the browser. -/
def run (source : Source) (program : Program) : Session :=
  match Browser.create source with
  | .error error => ⟨.error error, [Browser.acquisition source]⟩
  | .ok browser =>
      let outcome := program.run source browser
      ⟨.ok outcome.answers, (outcome.browser.drop source).events⟩

end Session

end NetInterface
