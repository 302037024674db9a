import NetInterface.Proofs.Browser.View
import NetInterface.Proofs.Report.Listings
import NetInterface.Proofs.Snapshot.Lookup

/-!
What a target shows.

A text of digits whose number fits an index asks for the first interface with that number, and every
other text for the first one with that name, or else with the GUID that it writes (`requested?`).
A report on a target is this interface alone, or nothing if there is none.
-/

namespace NetInterface

open Text

namespace Browser

/-- The browser is open, and the interfaces are those that it has or that its next read fetches. -/
inductive Presents (source : Source) (browser : Browser) : List Interface → Prop
  | populated {fetch : Nat} {interfaces : List Interface}
      (populated : browser.phase = .populated ⟨fetch, .ofList interfaces⟩) :
      Presents source browser interfaces
  | pending {listing : Listing} (pending : browser.phase = .pending)
      (fetched : source.fetch browser.fetches = .ok listing) :
      Presents source browser listing.interfaces

theorem Presents.read {source : Source} {browser : Browser} {interfaces : List Interface}
    (presents : Presents source browser interfaces) :
    ∃ fetch, browser.read source =
      (.ok ⟨fetch, .ofList interfaces⟩, (browser.read source).2) := by
  cases presents with
  | populated populated => exact ⟨_, by rw [read_of_populated source populated]⟩
  | pending pending fetched =>
      exact ⟨browser.fetches, by rw [read_of_fetched source pending fetched, Population.ofListing]⟩

/-- A run leaves a browser that presents interfaces, unless it is closed or its next fetch fails. -/
theorem presents_of_run {source : Source} {browser after : Browser} {population : Population}
    (created : create source = .ok browser) (program : Program)
    (succeeded : (program.run source browser).browser.read source = (.ok population, after)) :
    ∃ interfaces, (program.run source browser).browser.Presents source interfaces := by
  obtain ⟨-, rfl⟩ := acquire_of_create created
  rcases snapshot_of_read succeeded with populated | ⟨pending, listing, fetched, -⟩
  · have account := (program.run_trace source _).preserves Account.effect (.created source)
    obtain ⟨⟨number, listing, -, -, rfl⟩, -⟩ := account.of_populated populated
    exact ⟨listing.interfaces, .populated populated⟩
  · exact ⟨listing.interfaces, .pending pending fetched⟩

end Browser

namespace Target

/-- The number that a text of digits writes, if it fits an index. -/
def writtenIndex? (text : String) : Option Nat :=
  if text ≠ "" ∧ text.toList.all Char.isDigit ∧ Nat.ofDigitChars 10 text.toList 0 < UInt32.size then
    some (Nat.ofDigitChars 10 text.toList 0)
  else
    none

theorem writtenIndex?_lt {text : String} {number : Nat}
    (written : writtenIndex? text = some number) : number < UInt32.size := by
  unfold writtenIndex? at written
  split at written
  · next digits =>
    obtain rfl := Option.some.inj written
    exact digits.2.2
  · cases written

/-- A text asks for the index that it writes, if it writes one, and for a name otherwise. -/
theorem parse_eq (text : String) :
    parse text =
      match writtenIndex? text with
      | some number => .index (.ofNat number)
      | none => .name text := by
  unfold parse writtenIndex? decimalNumber?
  by_cases digits : text.toList ≠ [] ∧ text.toList.all Char.isDigit
  · have nonempty : text ≠ "" := by simpa using digits.1
    by_cases fits : Nat.ofDigitChars 10 text.toList 0 < UInt32.size
    · rw [if_pos digits, if_pos ⟨nonempty, digits.2, fits⟩, Option.bind_some, word32?,
        if_pos fits]
    · rw [if_pos digits, if_neg fun all => fits all.2.2, Option.bind_some, word32?, if_neg fits]
  · rw [if_neg digits, if_neg fun all => digits ⟨by simpa using all.1, all.2.1⟩]
    rfl

end Target

namespace Report

/-- What is written of one interface. -/
def rendering (format : OutputFormat) (interface : Interface) : String :=
  match format with
  | .text => interface.text ++ "\n"
  | .json => interface.json.indented ++ "\n"

theorem writeInterface_of_room (format : OutputFormat) (interface : Interface)
    (written : List UInt8) :
    writeInterface format ⟨written, none⟩ interface =
      (.ok (), ⟨written ++ Utf8.octets (rendering format interface), none⟩) := by
  cases format with
  | text => rfl
  | json => simp [writeInterface, writeDocument, rendering, Sink.write, Sink.take]

/-- The first interface with the number that the text writes or, if it writes none, with the text as
its name or its GUID. No interface has the number zero. -/
def requested? (interfaces : List Interface) (text : String) : Option Interface :=
  match Target.writtenIndex? text with
  | some number => if number = 0 then none else interfaces.find? (·.index.toNat = number)
  | none => Snapshot.firstNamed? interfaces text

theorem firstNumbered?_ofNat (interfaces : List Interface) {number : Nat}
    (fits : number < UInt32.size) :
    Snapshot.firstNumbered? interfaces (.ofNat number) =
      if number = 0 then none else interfaces.find? (·.index.toNat = number) := by
  have same (index : UInt32) : index = .ofNat number ↔ index.toNat = number := by
    rw [← UInt32.toNat_inj, UInt32.toNat_ofNat_of_lt' fits]
  have unknown : UInt32.ofNat number = 0 ↔ number = 0 := by
    rw [eq_comm, same, eq_comm]
    rfl
  unfold Snapshot.firstNumbered?
  simp only [same, unknown]

/-- A target finds in a snapshot the interface that its text asks for. -/
theorem find?_parse (interfaces : List Interface) (text : String) :
    find? (.ofList interfaces) (.parse text) = requested? interfaces text := by
  have indexed := Snapshot.indexed_ofList interfaces
  have kept := Snapshot.toList_ofList interfaces
  unfold requested?
  rw [Target.parse_eq]
  cases written : Target.writtenIndex? text with
  | some number =>
      simp only [find?, indexed.numbered?_eq, kept]
      exact firstNumbered?_ofNat interfaces (Target.writtenIndex?_lt written)
  | none => simp only [find?, indexed.named?_eq, kept]

/-- A report of one interface, or of none that was not found, into a sink with room. -/
def alone (format : OutputFormat) (browser : Browser) (written : List UInt8) :
    Option Interface → Except ReportError Showing × Browser × Sink
  | some interface =>
      (.ok (.shown 1), browser, ⟨written ++ Utf8.octets (rendering format interface), none⟩)
  | none => (.ok .notFound, browser, ⟨written, none⟩)

section

variable {source : Source} {browser : Browser} {interfaces : List Interface} {settings : Settings}
  {text : String}

theorem write_of_target (presents : browser.Presents source interfaces)
    (asked : settings.target = some (.parse text)) (written : List UInt8) :
    write source settings browser ⟨written, none⟩ =
      alone settings.format (browser.read source).2 written (requested? interfaces text) := by
  obtain ⟨fetch, read⟩ := presents.read
  simp only [write, asked, showTarget]
  rw [read]
  simp only [find?_parse]
  cases requested? interfaces text with
  | none => rfl
  | some interface =>
      simp only [writeInterface_of_room]
      rfl

/-- A target shows exactly the interface that its text asks for, alone in either format, or nothing.
The filter has no part in it. -/
theorem targets_show_requested (presents : browser.Presents source interfaces)
    (asked : settings.target = some (.parse text)) (written : List UInt8) :
    write source settings browser ⟨written, none⟩ =
        alone settings.format (browser.read source).2 written (requested? interfaces text) ∧
      ∀ filter any sink,
        write source { settings with filter } any sink = write source settings any sink := by
  refine ⟨write_of_target presents asked written, ?_⟩
  intro filter any sink
  simp only [write, asked]

/-- Leading zeros do not count, of two interfaces with one index or GUID the first is shown, and a
name comes before a GUID. -/
theorem numbered_and_named_targets_shown :
    let guid := "4D36E972-E325-11CE-BFC1-08002BE10318"
    let source : Source :=
      { acquire := .ok ()
        fetch := fun _ => .ok
          [⟨0, "lo", 0, none, none, none, []⟩, ⟨7, "eth0", 0, none, none, some guid, []⟩,
            ⟨7, "eth1", 0, none, none, some guid, []⟩, ⟨8, guid, 0, none, none, none, []⟩]
        release := .ok () }
    let eth0 : Interface :=
      { Interface.bare 7 "eth0" with guid := some ⟨0x4d36e972e32511cebfc108002be10318⟩ }
    let browser : Browser := .new ()
    let report (text : String) :=
      write source ⟨some (.parse text), .json, ⟨[], [.flags [.up]]⟩, false⟩ browser ⟨[], none⟩
    let shows := alone .json (browser.read source).2 []
    report "0000000000007" = shows (some eth0) ∧ report "0" = shows none ∧
      report "99999999999" = shows none ∧ report guid = shows (some (.bare 8 guid)) ∧
      report "{4d36e972-e325-11ce-bfc1-08002be10318}" = shows (some eth0) := by
  intro guid source eth0 browser report shows
  have presents : browser.Presents source _ := .pending rfl rfl
  have reported (text : String) : report text = shows (requested? _ text) :=
    (targets_show_requested presents rfl []).1
  simp only [reported]
  refine ⟨?_, ?_, ?_, ?_, ?_⟩ <;> exact congrArg shows (by decide)

/-- An interface is shown to whoever asks for its name, whatever the filter says, unless the name
reads as an index. Such a name asks for the first interface with this index, and for none if the
index is zero. -/
theorem listed_name_shown {listing : Listing}
    (presents : browser.Presents source listing.interfaces) {listed : ListedInterface}
    (member : listed ∈ listing) (asked : settings.target = some (.parse listed.name))
    (written : List UInt8) :
    (Target.writtenIndex? listed.name = none →
        ∃ shown ∈ listing.interfaces, shown.name = listed.name ∧
          write source settings browser ⟨written, none⟩ =
            alone settings.format (browser.read source).2 written (some shown)) ∧
      ∀ number, Target.writtenIndex? listed.name = some number →
        write source settings browser ⟨written, none⟩ =
          alone settings.format (browser.read source).2 written
            (if number = 0 then none
              else listing.interfaces.find? (·.index.toNat = number)) := by
  rw [write_of_target presents asked written]
  constructor
  · intro unnumbered
    have named : (listing.interfaces.find? (·.name = listed.name)).isSome = true := by
      rw [List.find?_isSome]
      exact ⟨listed.interface listing, List.mem_map_of_mem member,
        by simp [ListedInterface.interface]⟩
    obtain ⟨shown, found⟩ := Option.isSome_iff_exists.mp named
    refine ⟨shown, List.mem_of_find?_eq_some found, by simpa using List.find?_some found, ?_⟩
    simp only [requested?, unnumbered, Snapshot.firstNamed?, found]
  · intro number numbered
    simp only [requested?, numbered]

end

/-- The filter does not hide an interface that is named, and a name of digits is an index. -/
theorem filtered_name_shown :
    let source : Source :=
      { acquire := .ok ()
        fetch := fun _ => .ok
          [⟨1, "2", 0, none, none, none, []⟩, ⟨2, "eth0", 0x8, none, none, none, []⟩]
        release := .ok () }
    let eth0 : Interface := { Interface.bare 2 "eth0" with flags := 0x8 }
    let browser : Browser := .new ()
    let settings (text : String) : Settings :=
      ⟨some (.parse text), .text, ⟨[], [.flags [.loopback]]⟩, false⟩
    let report (text : String) := write source (settings text) browser ⟨[], none⟩
    (∃ shown : Interface, shown.name = "eth0" ∧
        report "eth0" = alone .text (browser.read source).2 [] (some shown)) ∧
      report "2" = alone .text (browser.read source).2 [] (some eth0) := by
  intro source eth0 browser settings report
  let listing : Listing :=
    [⟨1, "2", 0, none, none, none, []⟩, ⟨2, "eth0", 0x8, none, none, none, []⟩]
  have presents : browser.Presents source listing.interfaces := .pending rfl rfl
  have first : listing[0] ∈ listing := by simp
  have second : listing[1] ∈ listing := by simp
  constructor
  · have asked : (settings "eth0").target = some (.parse listing[1].name) := rfl
    obtain ⟨shown, -, named, reported⟩ :=
      (listed_name_shown presents second asked []).1 (by decide)
    exact ⟨shown, named, reported⟩
  · have asked : (settings "2").target = some (.parse listing[0].name) := rfl
    exact (listed_name_shown presents first asked []).2 2 (by decide)

/-- An interface named with digits is not found by its name. -/
theorem digit_name_not_shown :
    ¬ ∀ (source : Source) (browser : Browser) (listing : Listing) (listed : ListedInterface)
        (settings : Settings) (written : List UInt8),
      browser.Presents source listing.interfaces → listed ∈ listing → listed.name ≠ "" →
        settings.target = some (.parse listed.name) →
          ∃ shown : Interface, shown.name = listed.name ∧
            write source settings browser ⟨written, none⟩ =
              alone settings.format (browser.read source).2 written (some shown) := by
  intro always
  let listed : ListedInterface := ⟨1, "123", 0, none, none, none, []⟩
  let source : Source :=
    { acquire := .ok ()
      fetch := fun _ => .ok [listed]
      release := .ok () }
  let settings : Settings := ⟨some (.parse "123"), .text, .empty, false⟩
  have presents : Browser.Presents source (.new ()) (Listing.interfaces [listed]) :=
    .pending rfl rfl
  obtain ⟨shown, -, reported⟩ :=
    always source _ [listed] listed settings [] presents (by simp) (by decide) rfl
  have unrequested : requested? (Listing.interfaces [listed]) "123" = none := by decide
  rw [write_of_target presents rfl, unrequested] at reported
  cases congrArg Prod.fst reported

end Report

end NetInterface
