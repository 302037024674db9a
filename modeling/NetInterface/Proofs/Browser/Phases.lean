import NetInterface.Browser.Basic

/-!
The phases of a browser.

What a browser holds is a handle or none and a cache or none. Three of the four cases are phases of
its life. The fourth one, a cache that outlives its handle, is not `Consistent`, and a browser would
report it as closed and as populated at once. Reads and closings are described by the phase that
they find (`read_eq`, `close_of_closed`, `close_of_unclosed`), and what is not consistent counts as
closed there.
-/

namespace NetInterface

inductive Phase where
  | pending
  | populated (population : Population)
  | closed

/-- What a browser in the phase is to hold. -/
def Phase.holdings : Phase → Holdings
  | .pending => ⟨some (), none⟩
  | .populated population => ⟨some (), some population⟩
  | .closed => ⟨none, none⟩

namespace Holdings

variable {holdings : Holdings}

def phase : Holdings → Phase
  | ⟨none, _⟩ => .closed
  | ⟨some _, none⟩ => .pending
  | ⟨some _, some population⟩ => .populated population

/-- No cache outlives its handle. -/
def Consistent (holdings : Holdings) : Prop :=
  holdings.handle = none → holdings.cache = none

theorem phase_eq_closed : holdings.phase = .closed ↔ holdings.handle = none := by
  obtain ⟨_ | _, _ | _⟩ := holdings <;> simp [phase]

theorem phase_eq_pending : holdings.phase = .pending ↔ holdings = ⟨some (), none⟩ := by
  obtain ⟨_ | _, _ | _⟩ := holdings <;> simp [phase]

theorem phase_eq_populated {population : Population} :
    holdings.phase = .populated population ↔ holdings = ⟨some (), some population⟩ := by
  obtain ⟨_ | _, _ | _⟩ := holdings <;> simp [phase]

theorem isPopulated_of_pending (pending : holdings.phase = .pending) :
    holdings.isPopulated = false := by
  rw [phase_eq_pending.mp pending]
  rfl

theorem isClosed_eq_false (unclosed : holdings.phase ≠ .closed) : holdings.isClosed = false := by
  rw [isClosed, Option.isNone_eq_false_iff, Option.isSome_iff_ne_none]
  exact fun closed => unclosed (phase_eq_closed.mpr closed)

theorem consistent_holdings (phase : Phase) : phase.holdings.Consistent := by
  cases phase with
  | pending | populated => exact nofun
  | closed => exact fun _ => rfl

/-- Holdings that are consistent are those that their phase stands for. -/
theorem Consistent.eq_holdings (consistent : holdings.Consistent) :
    holdings = holdings.phase.holdings := by
  obtain ⟨handle, cache⟩ := holdings
  cases handle with
  | none =>
      obtain rfl : cache = none := consistent rfl
      rfl
  | some => cases cache <;> rfl

end Holdings

namespace Browser

def phase (browser : Browser) : Phase :=
  browser.holdings.phase

/-- The browser that has fetched the listing and cached what it is converted to. -/
def fill (browser : Browser) (listing : Listing) : Browser :=
  let population := Population.ofListing browser.fetches listing
  (browser.record (populating listing population.snapshot.size)).insertCache population

theorem events_fill (browser : Browser) (listing : Listing) :
    (browser.fill listing).events =
      browser.events ++
        populating listing (Population.ofListing browser.fetches listing).snapshot.size :=
  rfl

section

variable (source : Source) {browser : Browser}

theorem holdings_fill (pending : browser.phase = .pending) (listing : Listing) :
    (browser.fill listing).holdings = ⟨some (), some (.ofListing browser.fetches listing)⟩ := by
  simp only [fill, insertCache, record, Holdings.phase_eq_pending.mp pending]

theorem phase_fill (pending : browser.phase = .pending) (listing : Listing) :
    (browser.fill listing).phase = .populated (.ofListing browser.fetches listing) :=
  congrArg Holdings.phase (holdings_fill pending listing)

/-- A read that finds a population leaves it where it was, and one that fails to make one leaves
the cache as empty as it was. -/
theorem read_eq (browser : Browser) :
    browser.read source =
      match browser.phase with
      | .closed => (.error (.illegalState .closed), browser)
      | .populated population => (.ok population, browser)
      | .pending =>
          match source.fetch browser.fetches with
          | .error error => (.error (.native error), browser.record [.fetchFailed error])
          | .ok listing => (.ok (.ofListing browser.fetches listing), browser.fill listing) := by
  obtain ⟨⟨handle, cache⟩, events⟩ := browser
  cases handle with
  | none => rfl
  | some handle =>
      cases cache with
      | some population => rfl
      | none =>
          simp only [read, takeCache, populate, phase, Holdings.phase]
          cases source.fetch (fetches ⟨⟨some handle, none⟩, events⟩) with
          | error error => rfl
          | ok listing => rfl

theorem read_of_closed (closed : browser.phase = .closed) :
    browser.read source = (.error (.illegalState .closed), browser) := by
  rw [read_eq, closed]

theorem read_of_populated {population : Population}
    (populated : browser.phase = .populated population) :
    browser.read source = (.ok population, browser) := by
  rw [read_eq, populated]

theorem read_of_failed (pending : browser.phase = .pending) {error : NativeError}
    (failed : source.fetch browser.fetches = .error error) :
    browser.read source = (.error (.native error), browser.record [.fetchFailed error]) := by
  rw [read_eq, pending]
  simp only [failed]

theorem read_of_fetched (pending : browser.phase = .pending) {listing : Listing}
    (fetched : source.fetch browser.fetches = .ok listing) :
    browser.read source = (.ok (.ofListing browser.fetches listing), browser.fill listing) := by
  rw [read_eq, pending]
  simp only [fetched]

theorem close_of_closed (closed : browser.phase = .closed) :
    browser.close source = ⟨⟨none, none⟩, browser.events⟩ := by
  simp only [close, Holdings.phase_eq_closed.mp closed]

theorem close_of_unclosed (unclosed : browser.phase ≠ .closed) :
    browser.close source = ⟨⟨none, none⟩, browser.events ++ [releasing source]⟩ := by
  have held : browser.holdings.handle ≠ none :=
    fun absent => unclosed (Holdings.phase_eq_closed.mpr absent)
  obtain ⟨handle, same⟩ := Option.ne_none_iff_exists'.mp held
  simp only [close, same, record]

/-- Nothing is held after a close, whatever was held before. -/
theorem holdings_close (browser : Browser) : (browser.close source).holdings = ⟨none, none⟩ := by
  by_cases closed : browser.phase = .closed
  · rw [close_of_closed source closed]
  · rw [close_of_unclosed source closed]

/-- A browser that holds nothing does not change when it is closed. -/
theorem close_of_emptied (emptied : browser.holdings = ⟨none, none⟩) :
    browser.close source = browser := by
  obtain ⟨holdings, events⟩ := browser
  cases emptied
  rfl

/-- Closing again does nothing. -/
theorem close_close (browser : Browser) :
    (browser.close source).close source = browser.close source :=
  close_of_emptied source (holdings_close source browser)

/-- The drop of a closed browser does nothing. -/
theorem drop_close (browser : Browser) :
    (browser.close source).drop source = browser.close source :=
  close_close source browser

end

end Browser

end NetInterface
