import NetInterface.Interface.Sample
import NetInterface.Proofs.Interface.Text
import NetInterface.Proofs.Report.Listings

/-!
What the listing of interfaces in lines tells.

A listing is cut into its lines and the lines into interfaces, since only the first line of each
interface is not indented. So listings are the same exactly if the interfaces are shown alike, one
by one.
-/

namespace NetInterface

open Text

namespace Report

theorem lines_eq_terminated (interfaces : List Interface) :
    lines interfaces = terminated (interfaces.flatMap fun interface =>
      interface.headline :: interface.indentedLines) := by
  induction interfaces with
  | nil => rfl
  | cons interface interfaces inductionHypothesis =>
      rw [lines_cons, List.flatMap_cons, terminated_append, interface.text_eq_terminated,
        inductionHypothesis]

/-- The lines of a listing are those of its interfaces. -/
theorem linesOf_lines {interfaces : List Interface}
    (solid : ∀ interface ∈ interfaces, interface.IsSolid) :
    linesOf (lines interfaces) =
      interfaces.flatMap fun interface => interface.headline :: interface.indentedLines := by
  rw [lines_eq_terminated, linesOf_terminated]
  intro line member
  obtain ⟨interface, listed, shown⟩ := List.mem_flatMap.mp member
  rcases List.mem_cons.mp shown with rfl | indented
  · exact Interface.unbroken_headline (solid interface listed)
  · exact Interface.unbroken_indentedLines (solid interface listed) line indented

theorem lines_eq_of_readsAlike {left right : List Interface}
    (alike : List.Forall₂ Interface.ReadsAlike left right) : lines left = lines right := by
  induction alike with
  | nil => rfl
  | cons first _ inductionHypothesis =>
      rw [lines_cons, lines_cons, first.text_eq, inductionHypothesis]

/-- The lines that are not indented are the headlines, and listings are the same exactly if their
interfaces are shown alike. -/
theorem lines_tell_interfaces {left : List Interface}
    (solid : ∀ interface ∈ left, interface.IsSolid) :
    (linesOf (lines left)).filter (!isIndented ·) = left.map Interface.headline ∧
      ∀ right : List Interface, (∀ interface ∈ right, interface.IsSolid) →
        (lines left = lines right ↔ List.Forall₂ Interface.ReadsAlike left right) := by
  have opens {interfaces : List Interface}
      (solid : ∀ interface ∈ interfaces, interface.IsSolid) :
      ∀ interface ∈ interfaces,
        OpensWith (!isIndented ·) interface.headline interface.indentedLines :=
    fun interface listed => Interface.opensWith_headline (solid interface listed)
  constructor
  · rw [linesOf_lines solid]
    exact filter_sections (opens solid)
  · intro right otherSolid
    refine ⟨fun same => ?_, lines_eq_of_readsAlike⟩
    have sections := congrArg linesOf same
    rw [linesOf_lines solid, linesOf_lines otherSolid] at sections
    have parts := forall₂_of_sections_eq (opens solid) (opens otherSolid) sections
    -- Interfaces in the same place are listed, so both are known to be solid.
    obtain ⟨lengths, pairs⟩ := List.forall₂_iff_zip.mp parts
    refine List.forall₂_iff_zip.mpr ⟨lengths, fun {interface other} paired => ?_⟩
    obtain ⟨listed, otherListed⟩ := List.of_mem_zip paired
    obtain ⟨headlines, indented⟩ := pairs paired
    exact Interface.readsAlike_of_lines (solid interface listed) (otherSolid other otherListed)
      headlines indented

/-- A GUID is not shown, and the order of the interfaces is. -/
theorem sample_lines_tell_interfaces :
    let loopback := Interface.bare 1 "lo"
    let sample := Sample.interface
    let other : Interface := { sample with guid := none }
    (linesOf (lines [loopback, sample])).filter (!isIndented ·) =
        [loopback, sample].map Interface.headline ∧
      sample ≠ other ∧ lines [loopback, sample] = lines [loopback, other] ∧
      lines [loopback, sample] ≠ lines [sample, loopback] := by
  intro loopback sample other
  have loopbackSolid : loopback.IsSolid := ⟨by decide, by decide, List.forall_mem_nil _⟩
  have sampleSolid : sample.IsSolid := ⟨by decide, by decide, by decide⟩
  have otherSolid : other.IsSolid := ⟨sampleSolid.named, sampleSolid.name, sampleSolid.scopes⟩
  have solid : ∀ interface ∈ [loopback, sample], interface.IsSolid := by
    simp [loopbackSolid, sampleSolid]
  obtain ⟨headlines, told⟩ := lines_tell_interfaces solid
  have guids : sample ≠ other := fun same => absurd (congrArg Interface.guid same) (by decide)
  refine ⟨headlines, guids, ?_, ?_⟩
  · rw [told [loopback, other] (by simp [loopbackSolid, otherSolid])]
    exact .cons ⟨rfl, rfl, rfl, rfl, rfl, rfl, rfl⟩ (.cons ⟨rfl, rfl, rfl, rfl, rfl, rfl, rfl⟩ .nil)
  · rw [ne_eq, told [sample, loopback] (by simp [loopbackSolid, sampleSolid])]
    intro alike
    cases alike with
    | cons first rest => exact absurd first.index (by decide)

end Report

end NetInterface
