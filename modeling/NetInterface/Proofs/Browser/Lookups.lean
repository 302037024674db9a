import NetInterface.Proofs.Browser.View
import NetInterface.Proofs.Snapshot.Lookup

/-!
Lookups of a source beside those of a browser.

A source looks through the listing of a fetch, one entry after another. A browser that reads the
same listing asks the indexes of its snapshot instead. Both find the same place (`lookups_agree`),
except that the browser takes a name that no interface has for a GUID and finds no interface under
zero.
-/

namespace NetInterface

namespace Listing

/-- The place is the first one with an interface that passes the test, and this is the interface. -/
structure FirstAt (listing : Listing) (test : ListedInterface → Bool) (position : Nat)
    (listed : ListedInterface) : Prop where
  place : listing[position]? = some listed
  passes : test listed = true
  earliest : ∀ earlier other, earlier < position → listing[earlier]? = some other →
    test other = false

/-- A search goes by the first place that passes, or there is none. -/
theorem find?_cases (listing : Listing) (test : ListedInterface → Bool) :
    (∃ position listed, listing.FirstAt test position listed ∧ listing.find? test = some listed ∧
      listing.findIdx? test = some position) ∨
    (∀ listed ∈ listing, test listed = false) ∧ listing.find? test = none ∧
      listing.findIdx? test = none := by
  cases located : listing.findIdx? test with
  | none =>
      have absent := List.findIdx?_eq_none_iff.mp located
      refine .inr ⟨absent, ?_, rfl⟩
      rw [List.find?_eq_none]
      exact fun listed member => ne_true_of_eq_false (absent listed member)
  | some position =>
      obtain ⟨bound, passes, earliest⟩ := List.findIdx?_eq_some_iff_getElem.mp located
      have place := List.getElem?_eq_getElem bound
      refine .inl ⟨position, listing[position], ⟨place, passes, ?_⟩, ?_, rfl⟩
      · intro earlier other before here
        obtain ⟨_, rfl⟩ := List.getElem?_eq_some_iff.mp here
        exact eq_false_of_ne_true (earliest earlier before)
      · rw [List.find?_eq_bind_findIdx?_getElem?, located, Option.bind_some, place]

theorem findIdx?_interfaces (listing : Listing) (test : Interface → Bool) :
    listing.interfaces.findIdx? test = listing.findIdx? fun listed =>
      test (listed.interface listing) := by
  rw [interfaces, List.findIdx?_map]
  rfl

end Listing

namespace Browser

/-- The fetch with the number is the one that the reads of the browser answer from: the one that
populated it, or the next one. -/
inductive ReadsFetch (source : Source) (browser : Browser) : Nat → Prop
  | populated {number : Nat} {listing : Listing} (fetched : source.fetch number = .ok listing)
      (populated : browser.phase = .populated (.ofListing number listing)) :
      ReadsFetch source browser number
  | pending (pending : browser.phase = .pending) : ReadsFetch source browser browser.fetches

/-- A browser of a run reads from some fetch until it is closed. -/
theorem exists_readsFetch {source : Source} {browser : Browser}
    (created : create source = .ok browser) (program : Program)
    (unclosed : (program.run source browser).browser.phase ≠ .closed) :
    ∃ number, (program.run source browser).browser.ReadsFetch source number := by
  obtain ⟨-, rfl⟩ := acquire_of_create created
  have account := (program.run_trace source _).preserves Account.effect (.created source)
  generalize (program.run source (.new ())).browser = after at unclosed account
  cases phase : after.phase with
  | closed => exact absurd phase unclosed
  | pending => exact ⟨_, .pending phase⟩
  | populated population =>
      obtain ⟨⟨number, listing, -, fetched, rfl⟩, -⟩ := account.of_populated phase
      exact ⟨number, .populated fetched phase⟩

namespace ReadsFetch

variable {source : Source} {browser : Browser} {number : Nat}

theorem read_of_ok (reads : ReadsFetch source browser number) {listing : Listing}
    (fetched : source.fetch number = .ok listing) :
    ∃ after, browser.read source = (.ok (.ofListing number listing), after) := by
  cases reads with
  | populated known populated =>
      cases known.symm.trans fetched
      exact ⟨browser, read_of_populated source populated⟩
  | pending pending => exact ⟨_, read_of_fetched source pending fetched⟩

theorem read_of_error (reads : ReadsFetch source browser number) {error : NativeError}
    (failed : source.fetch number = .error error) :
    ∃ after, browser.read source = (.error (.native error), after) := by
  cases reads with
  | populated known populated => cases known.symm.trans failed
  | pending pending => exact ⟨_, read_of_failed source pending failed⟩

end ReadsFetch

end Browser

/-- The place of the interface that the query asks for. -/
def Query.place? (snapshot : Snapshot) : Query → Option Nat
  | .named name => snapshot.findName? name
  | .numbered index => snapshot.findIndex? index
  | _ => none

/-- The browser has a snapshot of the interfaces or makes it now, and answers the query with the
one in that place of it, or with none. -/
def Browser.FindsAt (source : Source) (browser : Browser) (interfaces : List Interface)
    (query : Query) (place? : Option Nat) : Prop :=
  ∃ population after, browser.read source = (.ok population, after) ∧
    population.snapshot.toList = interfaces ∧ query.place? population.snapshot = place? ∧
    (browser.answer source query).1 = .found (place?.bind (interfaces[·]?))

open Browser

/-- The lookup gives the first interface that passes the test, and the browser the one made from
it. -/
def FindSame (source : Source) (browser : Browser) (listing : Listing)
    (looked : Except NativeError (Option ListedInterface)) (test : ListedInterface → Bool)
    (query : Query) : Prop :=
  ∃ position listed, listing.FirstAt test position listed ∧ looked = .ok (some listed) ∧
    listing.interfaces[position]? = some (listed.interface listing) ∧
    browser.FindsAt source listing.interfaces query (some position)

/-- The lookups with a fetch of the listing and the browser agree on names and on numbers. -/
structure LookupsAgree (source : Source) (lookup : Nat) (browser : Browser) (listing : Listing) :
    Prop where
  /-- A name that no interface has may still be the GUID of one. -/
  named : ∀ name,
    FindSame source browser listing (source.lookupName lookup name) (·.name = name)
      (.named name) ∨
    source.lookupName lookup name = .ok none ∧
      browser.FindsAt source listing.interfaces (.named name)
        ((Guid.parse name).toOption.bind fun guid =>
          listing.interfaces.findIdx? (·.guid = some guid))
  numbered : ∀ index, index ≠ 0 →
    FindSame source browser listing (source.lookupIndex lookup index) (·.index = index)
      (.numbered index) ∨
    source.lookupIndex lookup index = .ok none ∧
      browser.FindsAt source listing.interfaces (.numbered index) none
  zero : browser.FindsAt source listing.interfaces (.numbered 0) none

/-- The lookups with a failed fetch and the browser report the failure. -/
structure LookupsFail (source : Source) (lookup : Nat) (browser : Browser) (error : NativeError) :
    Prop where
  named : ∀ name, source.lookupName lookup name = .error error ∧
    (browser.answer source (.named name)).1 = .failed (.native error)
  numbered : ∀ index, source.lookupIndex lookup index = .error error ∧
    (browser.answer source (.numbered index)).1 = .failed (.native error)

section

variable {source : Source} {browser : Browser} {number lookup : Nat} {listing : Listing}
  {error : NativeError}

/-- A browser that reads answers with the interface in the place that its snapshot looks up. -/
theorem Browser.ReadsFetch.findsAt (reads : browser.ReadsFetch source number)
    (fetched : source.fetch number = .ok listing) {query : Query}
    (reading : query.reading? = some fun population =>
      .found ((query.place? population.snapshot).bind population.snapshot.get?)) :
    browser.FindsAt source listing.interfaces query
      (query.place? (.ofList listing.interfaces)) := by
  obtain ⟨after, succeeded⟩ := reads.read_of_ok fetched
  have kept := Snapshot.toList_ofList listing.interfaces
  have get : (Snapshot.ofList listing.interfaces).get? = (listing.interfaces[·]?) := by
    funext position
    rw [Snapshot.get?, ← Array.getElem?_toList]
    exact congrArg (·[position]?) kept
  refine ⟨_, after, succeeded, kept, rfl, ?_⟩
  rw [← get, answer_eq_answerRead source browser reading, answerRead, succeeded]
  rfl

theorem Browser.ReadsFetch.findsAt_named (reads : browser.ReadsFetch source number)
    (fetched : source.fetch number = .ok listing) (name : String) :
    browser.FindsAt source listing.interfaces (.named name)
      ((listing.findIdx? (·.name = name)).or
        ((Guid.parse name).toOption.bind fun guid =>
          listing.interfaces.findIdx? (·.guid = some guid))) := by
  have finds : browser.FindsAt source _ (.named name) _ := reads.findsAt fetched rfl
  have names := (Snapshot.indexed_ofList listing.interfaces).findName?_eq name
  rw [Snapshot.toList_ofList,
    listing.findIdx?_interfaces fun interface => decide (interface.name = name)] at names
  rwa [Query.place?, names] at finds

theorem Browser.ReadsFetch.findsAt_numbered (reads : browser.ReadsFetch source number)
    (fetched : source.fetch number = .ok listing) (index : UInt32) :
    browser.FindsAt source listing.interfaces (.numbered index)
      (if index = 0 then none else listing.findIdx? (·.index = index)) := by
  have finds : browser.FindsAt source _ (.numbered index) _ := reads.findsAt fetched rfl
  have numbers := Snapshot.findIndex?_ofList listing.interfaces index
  rw [listing.findIdx?_interfaces fun interface => decide (interface.index = index)] at numbers
  rwa [Query.place?, numbers] at finds

/-- A search of the listing and the browser find the same, or the search finds nothing. -/
theorem findSame_or_absent {test : ListedInterface → Bool} {query : Query} {instead : Option Nat}
    {looked : Except NativeError (Option ListedInterface)}
    (searched : looked = .ok (listing.find? test))
    (finds : browser.FindsAt source listing.interfaces query
      ((listing.findIdx? test).or instead)) :
    FindSame source browser listing looked test query ∨
      looked = .ok none ∧ browser.FindsAt source listing.interfaces query instead := by
  rcases listing.find?_cases test with
    ⟨position, listed, first, found, located⟩ | ⟨-, found, located⟩
  · rw [located] at finds
    refine .inl ⟨position, listed, first, searched.trans (congrArg _ found), ?_, finds⟩
    rw [Listing.interfaces, List.getElem?_map, first.place]
    rfl
  · rw [located] at finds
    exact .inr ⟨searched.trans (congrArg _ found), finds⟩

theorem Browser.ReadsFetch.lookupsAgree (reads : browser.ReadsFetch source number)
    (fetched : source.fetch number = .ok listing) (given : source.fetch lookup = .ok listing) :
    LookupsAgree source lookup browser listing where
  named name := by
    have searched : source.lookupName lookup name = .ok (listing.withName? name) := by
      rw [Source.lookupName, given]
      rfl
    exact findSame_or_absent searched (reads.findsAt_named fetched name)
  numbered index known := by
    have searched : source.lookupIndex lookup index = .ok (listing.withIndex? index) := by
      rw [Source.lookupIndex, given]
      rfl
    have finds := reads.findsAt_numbered fetched index
    rw [if_neg known] at finds
    exact findSame_or_absent searched ((Option.or_none).symm ▸ finds)
  zero := by
    have finds := reads.findsAt_numbered fetched 0
    rwa [if_pos rfl] at finds

theorem Browser.ReadsFetch.lookupsFail (reads : browser.ReadsFetch source number)
    (failed : source.fetch number = .error error) (given : source.fetch lookup = .error error) :
    LookupsFail source lookup browser error := by
  obtain ⟨after, refused⟩ := reads.read_of_error failed
  have answered {query : Query} {say : Population → Answer} (reading : query.reading? = some say) :
      (browser.answer source query).1 = .failed (.native error) := by
    rw [answer_eq_answerRead source browser reading, answerRead, refused]
  constructor
  · intro name
    rw [Source.lookupName, given]
    exact ⟨rfl, answered rfl⟩
  · intro index
    rw [Source.lookupIndex, given]
    exact ⟨rfl, answered rfl⟩

end

/-- Where a lookup of the source is given the listing that a browser reads, or the failure, the two
agree. Until it is closed a browser always reads some fetch. -/
theorem lookups_agree (source : Source) :
    (∀ program browser, Browser.create source = .ok browser →
      (Program.run source program browser).browser.phase ≠ .closed →
      ∃ number, (Program.run source program browser).browser.ReadsFetch source number) ∧
    ∀ (browser : Browser) (number lookup : Nat), browser.ReadsFetch source number →
      source.fetch lookup = source.fetch number →
      (∀ listing, source.fetch number = .ok listing →
        LookupsAgree source lookup browser listing) ∧
      ∀ error, source.fetch number = .error error → LookupsFail source lookup browser error := by
  refine ⟨fun program browser created => exists_readsFetch created program, ?_⟩
  intro browser number lookup reads same
  refine ⟨?_, ?_⟩
  · intro listing fetched
    exact reads.lookupsAgree fetched (same.trans fetched)
  · intro error failed
    exact reads.lookupsFail failed (same.trans failed)

/-- An interface without a number, two that share a name and a number, the first with a malformed
hardware address, and one with a GUID. -/
def Listing.crowded : Listing :=
  [⟨0, "any", 1, none, none, none, []⟩, ⟨2, "eth0", 1, none, some [1], none, []⟩,
    ⟨2, "eth0", 0, some 1500, none, none, []⟩,
    ⟨3, "wlan0", 1, none, none, some "6ba7b810-9dad-11d1-80b4-00c04fd430c8", []⟩]

/-- A source that is busy at first. -/
def Source.crowded : Source where
  acquire := .ok ()
  fetch number := if number = 0 then .error (.platform "busy") else .ok .crowded
  release := .ok ()

theorem crowded_lookups_agree :
    let source := Source.crowded
    let pending : Browser := .new ()
    let browser := (Program.run source (.ask (.named "eth0") fun _ => .stop true) pending).browser
    (∃ number, browser.ReadsFetch source number) ∧
    LookupsFail source 0 pending (.platform "busy") ∧ LookupsAgree source 2 browser .crowded ∧
    (∃ listed, source.lookupIndex 2 0 = .ok (some listed) ∧ listed.name = "any") ∧
    (browser.answer source (.numbered 0)).1 = .found none := by
  intro source pending browser
  obtain ⟨reads, agree⟩ := lookups_agree source
  have agrees : LookupsAgree source 2 browser .crowded :=
    (agree browser 1 2 (.pending rfl) rfl).1 .crowded rfl
  refine ⟨reads _ pending rfl nofun, ?_, agrees, ⟨_, rfl, rfl⟩, ?_⟩
  · exact (agree pending 0 0 (.pending rfl) rfl).2 _ rfl
  · obtain ⟨_, _, _, _, _, answered⟩ := agrees.zero
    exact answered

end NetInterface
