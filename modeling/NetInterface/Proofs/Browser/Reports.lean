import NetInterface.Proofs.Browser.Phases
import Std.Data.String.ToNat

/-!
What a browser reports of itself.

Whether it is closed is read off the handle, whether it is populated off the cache, and its texts
off both. These reports tell of one and the same phase exactly if no cache outlives its handle
(`reported_iff`).
-/

namespace NetInterface

namespace Holdings

variable {holdings : Holdings}

/-- The reports on what a browser holds agree with its phase and with one another. -/
structure Reported (holdings : Holdings) : Prop where
  held : holdings = holdings.phase.holdings
  isClosed : holdings.isClosed = true ↔ holdings.phase = .closed
  isPopulated : holdings.isPopulated = true ↔ ∃ population, holdings.phase = .populated population
  exclusive : holdings.isClosed = true → holdings.isPopulated = false
  text_closed : holdings.text = "InterfaceBrowser: closed" ↔ holdings.isClosed = true
  text_pending : holdings.text = "InterfaceBrowser: pending population" ↔
    holdings.isClosed = false ∧ holdings.isPopulated = false
  text_populated : ∀ number : Nat,
    holdings.text = "InterfaceBrowser: contains info on " ++ toString number ++ " interfaces" ↔
      ∃ population, holdings.phase = .populated population ∧ population.snapshot.size = number
  inspect : ∃ cached,
    holdings.inspect = "InterfaceBrowser \x7b closed: " ++ toString holdings.isClosed ++
      ", cached: " ++ cached ++ ", .. \x7d" ∧ (cached = "None" ↔ holdings.isPopulated = false)

theorem text_of_populated (population : Population) :
    text ⟨some (), some population⟩ =
      "InterfaceBrowser: contains info on " ++ toString population.snapshot.size ++ " interfaces" :=
  rfl

theorem text_of_populated_injective {population : Population} {number : Nat}
    (same : text ⟨some (), some population⟩ =
      "InterfaceBrowser: contains info on " ++ toString number ++ " interfaces") :
    population.snapshot.size = number := by
  rw [text_of_populated, String.append_left_inj, String.append_right_inj] at same
  exact Nat.repr_inj.mp same

theorem ne_text_of_populated (number : Nat) :
    "InterfaceBrowser: closed" ≠
        "InterfaceBrowser: contains info on " ++ toString number ++ " interfaces" ∧
      "InterfaceBrowser: pending population" ≠
        "InterfaceBrowser: contains info on " ++ toString number ++ " interfaces" := by
  constructor
  · intro same
    have characters := congrArg String.toList same
    simp only [String.toList_append] at characters
    simp at characters
  · intro same
    have characters := congrArg String.toList same
    simp only [String.toList_append] at characters
    simp at characters

theorem text_of_closed_ne_pending :
    "InterfaceBrowser: closed" ≠ "InterfaceBrowser: pending population" := by
  decide

theorem text_eq_closed (holdings : Holdings) :
    holdings.text = "InterfaceBrowser: closed" ↔ holdings.isClosed = true := by
  obtain ⟨handle, cache⟩ := holdings
  cases handle with
  | none => exact ⟨fun _ => rfl, fun _ => rfl⟩
  | some handle =>
      cases cache with
      | none => exact ⟨fun same => absurd same.symm text_of_closed_ne_pending, nofun⟩
      | some population =>
          exact ⟨fun same => absurd same.symm (ne_text_of_populated _).1, nofun⟩

theorem text_eq_pending (holdings : Holdings) :
    holdings.text = "InterfaceBrowser: pending population" ↔
      holdings.isClosed = false ∧ holdings.isPopulated = false := by
  obtain ⟨handle, cache⟩ := holdings
  cases handle with
  | none => exact ⟨fun same => absurd same text_of_closed_ne_pending, nofun⟩
  | some handle =>
      cases cache with
      | none => exact ⟨fun _ => ⟨rfl, rfl⟩, fun _ => rfl⟩
      | some population =>
          exact ⟨fun same => absurd same.symm (ne_text_of_populated _).2, nofun⟩

theorem text_eq_populated (holdings : Holdings) (number : Nat) :
    holdings.text = "InterfaceBrowser: contains info on " ++ toString number ++ " interfaces" ↔
      ∃ population, holdings.phase = .populated population ∧ population.snapshot.size = number := by
  constructor
  · intro same
    obtain ⟨handle, cache⟩ := holdings
    cases handle with
    | none => exact absurd same (ne_text_of_populated number).1
    | some handle =>
        cases cache with
        | none => exact absurd same (ne_text_of_populated number).2
        | some population => exact ⟨population, rfl, text_of_populated_injective same⟩
  · rintro ⟨population, populated, rfl⟩
    rw [phase_eq_populated.mp populated]
    exact text_of_populated population

theorem inspectCache_eq_none (holdings : Holdings) :
    holdings.inspectCache = "None" ↔ holdings.isPopulated = false := by
  obtain ⟨handle, cache⟩ := holdings
  cases cache with
  | none => exact ⟨fun _ => rfl, fun _ => rfl⟩
  | some population =>
      refine ⟨fun same => ?_, nofun⟩
      have characters := congrArg String.toList same
      simp only [inspectCache, String.toList_append] at characters
      simp at characters

theorem Consistent.reported (consistent : holdings.Consistent) : holdings.Reported := by
  have told : holdings.phase.holdings.isPopulated = true ↔
      ∃ population, holdings.phase = .populated population := by
    cases holdings.phase <;> simp [Phase.holdings, Holdings.isPopulated]
  constructor
  case held => exact consistent.eq_holdings
  case isClosed => rw [phase_eq_closed, isClosed, Option.isNone_iff_eq_none]
  case isPopulated => rwa [← consistent.eq_holdings] at told
  case exclusive =>
    intro closed
    rw [isPopulated, consistent (Option.isNone_iff_eq_none.mp closed)]
    rfl
  case text_closed => exact text_eq_closed holdings
  case text_pending => exact text_eq_pending holdings
  case text_populated => exact text_eq_populated holdings
  case inspect => exact ⟨holdings.inspectCache, rfl, inspectCache_eq_none holdings⟩

/-- A cache without its handle is reported as closed and as populated, and nothing else keeps the
reports from agreeing. -/
theorem reported_iff : holdings.Reported ↔ holdings.Consistent := by
  refine ⟨?_, Consistent.reported⟩
  intro reported released
  have unpopulated := reported.exclusive (by rw [isClosed, released]; rfl)
  simpa [isPopulated] using unpopulated

end Holdings

end NetInterface
