import NetInterface.Interface.Basic
import NetInterface.Proofs.Address.Ipv4Text
import NetInterface.Proofs.Address.ScopedText
import NetInterface.Proofs.HardwareAddress
import NetInterface.Proofs.Text.Lines

/-!
What the text of an interface tells.

The headline is cut at marks that the part before them cannot contain, and every detail line begins
with the kind of its address. So an interface without white space in its names is told from others
by its lines up to the texts of its addresses (`ReadsAlike`).
-/

namespace NetInterface

open Text

/-! ### No line breaks -/

theorem Ipv4.unbroken_text (address : Ipv4) : Unbroken address.text := by
  unfold Unbroken text characters
  rw [String.toList_ofList]
  intro member
  rcases mem_joinWith member with dot | ⟨field, among, inside⟩
  · cases dot
  · obtain ⟨octet, -, rfl⟩ := List.mem_map.mp among
    exact not_mem_toDigits (by decide) octet.toNat inside

theorem HardwareAddress.unbroken_text (address : HardwareAddress) : Unbroken address.text := by
  unfold Unbroken text
  rw [String.toList_ofList, characters_eq]
  intro member
  rcases mem_joinWith member with colon | ⟨field, among, inside⟩
  · cases colon
  · obtain ⟨octet, -, rfl⟩ := List.mem_map.mp among
    cases isHexDigit_of_mem_hexDigits inside

/-- What holds of the token of every flag holds of all tokens that are shown. -/
theorem FlagTable.forall_mem_tokens {F : Type} {table : FlagTable F} {property : String → Prop}
    (rows : ∀ row ∈ table.rows, property row.token) (mask : UInt32) :
    ∀ token ∈ table.tokens mask, property token := by
  intro token member
  obtain ⟨row, among, rfl⟩ := List.mem_map.mp member
  exact rows row (List.mem_of_mem_filter among)

namespace ScopedIpv6

/-- The scope has no name or a name without white space. -/
def HasSolidScope (ipv6 : ScopedIpv6) : Prop :=
  ∀ name ∈ ipv6.scopeName, IsSolid name

instance (ipv6 : ScopedIpv6) : Decidable ipv6.HasSolidScope :=
  inferInstanceAs (Decidable (∀ name ∈ ipv6.scopeName, IsSolid name))

theorem unbroken_text {ipv6 : ScopedIpv6} (solid : ipv6.HasSolidScope) : Unbroken ipv6.text := by
  have address : '\n' ∉ ipv6.address.characters :=
    Ipv6.not_mem_characters (by decide) (by decide) ipv6.address
  unfold Unbroken text characters scopeText
  rw [String.toList_ofList]
  cases named : ipv6.scopeName with
  | some name =>
      have whole : '\n' ∉ name.toList := (solid name named).unbroken
      simp [address, whole]
  | none =>
      cases ipv6.scopeId with
      | none => simpa using address
      | some id =>
          have digits : '\n' ∉ Nat.toDigits 10 id.toNat := not_mem_toDigits (by decide) id.toNat
          simp [address, digits]

theorem unbroken_scopeLabel {ipv6 : ScopedIpv6} {label : String}
    (labelled : ipv6.scopeLabel = some label) : Unbroken label := by
  obtain ⟨id, -, rfl⟩ := Option.map_eq_some_iff.mp labelled
  exact unbroken_append.mpr ⟨by decide, unbroken_leastHex id.toNat⟩

end ScopedIpv6

namespace AssignedAddress

variable {α : Type}

/-- All addresses that belong to an assigned address. -/
def addresses (assigned : AssignedAddress α) : List α :=
  assigned.address :: (assigned.broadcast.toList ++ assigned.peer.toList)

theorem unbroken_prefixText (assigned : AssignedAddress α) : Unbroken assigned.prefixText := by
  unfold prefixText
  split
  · split
    · decide
    · exact unbroken_append.mpr ⟨by decide, unbroken_toString _⟩
  · decide

variable [Address α]

theorem unbroken_otherText {assigned : AssignedAddress α}
    (unbroken : ∀ address ∈ assigned.addresses, Unbroken (Address.text address)) :
    Unbroken assigned.otherText := by
  unfold otherText
  cases broadcast : assigned.broadcast with
  | some address =>
      exact unbroken_append.mpr ⟨by decide, unbroken address (by simp [addresses, broadcast])⟩
  | none =>
      cases peer : assigned.peer with
      | some address =>
          exact unbroken_append.mpr ⟨by decide, unbroken address (by simp [addresses, peer])⟩
      | none => exact (by decide : Unbroken "")

theorem unbroken_scopeText {assigned : AssignedAddress α}
    (unbroken : ∀ label, Address.scopeLabel assigned.address = some label → Unbroken label) :
    Unbroken assigned.scopeText := by
  unfold scopeText
  split
  · next label labelled => exact unbroken_append.mpr ⟨by decide, unbroken label labelled⟩
  · decide

theorem unbroken_text {assigned : AssignedAddress α}
    (texts : ∀ address ∈ assigned.addresses, Unbroken (Address.text address))
    (labels : ∀ label, Address.scopeLabel assigned.address = some label → Unbroken label) :
    Unbroken assigned.text := by
  have shown : ∀ token ∈ AddressFlag.table.tokens assigned.flags, Unbroken token :=
    FlagTable.forall_mem_tokens (by decide) assigned.flags
  have tokens : ∀ part ∈ (AddressFlag.table.tokens assigned.flags).map (" " ++ ·),
      Unbroken part := by
    intro part member
    obtain ⟨token, among, rfl⟩ := List.mem_map.mp member
    exact unbroken_append.mpr ⟨by decide, shown token among⟩
  have address : Unbroken (Address.text assigned.address) :=
    texts assigned.address List.mem_cons_self
  simp only [text, unbroken_append]
  exact ⟨⟨⟨⟨address, assigned.unbroken_prefixText⟩, unbroken_otherText texts⟩,
    unbroken_join tokens⟩, unbroken_scopeText labels⟩

end AssignedAddress

namespace Interface

/-- The interface has a name, and neither its name nor that of any scope has white space in it. -/
structure IsSolid (interface : Interface) : Prop where
  named : interface.name ≠ ""
  name : Text.IsSolid interface.name
  scopes : ∀ assigned ∈ interface.ipv6, ∀ address ∈ assigned.addresses, address.HasSolidScope

/-- What the text of an interface tells is the same. -/
structure ReadsAlike (first second : Interface) : Prop where
  index : first.index = second.index
  name : first.name = second.name
  flags : first.flags = second.flags
  mtu : first.mtu = second.mtu
  hardwareAddress : first.hardwareAddress = second.hardwareAddress
  ipv4 : first.ipv4.map (·.text) = second.ipv4.map (·.text)
  ipv6 : first.ipv6.map (·.text) = second.ipv6.map (·.text)

/-! ### The headline -/

def mtuText : Option UInt64 → String
  | some mtu => " mtu " ++ toString mtu.toNat
  | none => ""

theorem unbroken_mtuText (mtu : Option UInt64) : Unbroken (mtuText mtu) := by
  cases mtu with
  | none => decide
  | some mtu => exact unbroken_append.mpr ⟨by decide, unbroken_toString mtu.toNat⟩

theorem mtuText_injective : Function.Injective mtuText := by
  intro mtu other same
  cases mtu with
  | none =>
      cases other with
      | none => rfl
      | some other => simp [mtuText] at same
  | some mtu =>
      cases other with
      | none => simp [mtuText] at same
      | some other =>
          have digits : Nat.toDigits 10 mtu.toNat = Nat.toDigits 10 other.toNat := by
            simpa [mtuText, ← String.toList_inj] using same
          rw [UInt64.toNat_inj.mp (injective_of_reads decimalNumber?_toDigits digits)]

theorem headline_eq (interface : Interface) :
    interface.headline = interface.name ++ " (" ++ toString interface.index.toNat ++ "): flags=" ++
      interface.flagsText ++ mtuText interface.mtu := rfl

theorem unbroken_headline {interface : Interface} (solid : interface.IsSolid) :
    Unbroken interface.headline := by
  have tokens : ∀ token ∈ InterfaceFlag.table.tokens interface.flags, Unbroken token :=
    FlagTable.forall_mem_tokens (by decide) interface.flags
  have flags : Unbroken interface.flagsText := by
    simp only [flagsText, unbroken_append]
    exact ⟨⟨⟨unbroken_leastHex _, by decide⟩, unbroken_intercalate (by decide) tokens⟩, by decide⟩
  simp only [headline_eq, unbroken_append]
  exact ⟨⟨⟨⟨⟨solid.name.unbroken, by decide⟩, unbroken_toString _⟩, by decide⟩, flags⟩,
    unbroken_mtuText interface.mtu⟩

theorem toList_headline (interface : Interface) :
    interface.headline.toList = interface.name.toList ++ ' ' :: ('(' ::
      (Nat.toDigits 10 interface.index.toNat ++ ')' :: (": flags=".toList ++
        (leastHex interface.flags.toNat ++ '<' ::
          ((String.intercalate "," (InterfaceFlag.table.tokens interface.flags)).toList ++ '>' ::
            (mtuText interface.mtu).toList))))) := by
  simp [headline_eq, flagsText]

/-- A headline tells everything that is in it. -/
theorem headline_inj {first second : Interface} (solid : first.IsSolid)
    (otherSolid : second.IsSolid) (same : first.headline = second.headline) :
    first.index = second.index ∧ first.name = second.name ∧ first.flags = second.flags ∧
      first.mtu = second.mtu := by
  have written := congrArg String.toList same
  rw [toList_headline, toList_headline] at written
  -- Each part is cut off at a mark that it cannot contain, from the front to the back. The names of
  -- the flags follow from the mask, so they need not be read.
  have space : isWhiteSpace ' ' = true := by decide
  obtain ⟨names, behindName⟩ := (append_separator_inj (solid.name.not_mem space)
    (otherSolid.name.not_mem space)).mp written
  have unclosed (number : Nat) : ')' ∉ Nat.toDigits 10 number :=
    not_mem_toDigits (by decide) number
  obtain ⟨indices, behindIndex⟩ := (append_separator_inj (unclosed _) (unclosed _)).mp
    (List.cons.inj behindName).2
  have unopened (number : Nat) : '<' ∉ leastHex number := not_mem_leastHex (by decide) number
  obtain ⟨masks, behindMask⟩ := (append_separator_inj (unopened _) (unopened _)).mp
    (List.append_cancel_left behindIndex)
  have flags : first.flags = second.flags :=
    UInt32.toNat_inj.mp (injective_of_reads hexNumber?_leastHex masks)
  rw [flags] at behindMask
  have mtus := (List.cons.inj (List.append_cancel_left behindMask)).2
  exact ⟨UInt32.toNat_inj.mp (injective_of_reads decimalNumber?_toDigits indices),
    String.toList_inj.mp names, flags, mtuText_injective (String.toList_inj.mp mtus)⟩

/-! ### The detail lines -/

inductive DetailKind where
  | ether
  | inet
  | inet6
deriving DecidableEq

namespace DetailKind

def label : DetailKind → String
  | .ether => "ether "
  | .inet => "inet  "
  | .inet6 => "inet6 "

theorem length_label (kind : DetailKind) : kind.label.toList.length = 6 := by
  cases kind <;> simp [label]

theorem unbroken_label (kind : DetailKind) : Unbroken kind.label := by
  cases kind <;> decide

end DetailKind

/-- The texts of the addresses of one kind, as they are shown in the detail lines. -/
def shown (interface : Interface) : DetailKind → List String
  | .ether => interface.hardwareAddress.toList.map (·.text)
  | .inet => interface.ipv4.map (·.text)
  | .inet6 => interface.ipv6.map (·.text)

/-- A detail line after the indentation. -/
def detailLine (detail : DetailKind × String) : String :=
  detail.1.label ++ detail.2

def details (interface : Interface) : List (DetailKind × String) :=
  (interface.shown .ether).map (.ether, ·) ++ (interface.shown .inet).map (.inet, ·) ++
    (interface.shown .inet6).map (.inet6, ·)

theorem detailLines_eq (interface : Interface) :
    interface.detailLines = interface.details.map detailLine := by
  simp [detailLines, details, shown, detailLine, DetailKind.label, Function.comp_def]

theorem detailLine_injective : Function.Injective detailLine := by
  rintro ⟨kind, text⟩ ⟨other, otherText⟩ same
  have written := congrArg String.toList same
  simp only [detailLine, String.toList_append] at written
  obtain ⟨labels, texts⟩ := List.append_inj written
    (kind.length_label.trans other.length_label.symm)
  have kinds : kind = other := by
    revert labels
    cases kind <;> cases other <;> decide
  rw [kinds, String.toList_inj.mp texts]

theorem details_of_kind (interface : Interface) (kind : DetailKind) :
    (interface.details.filter (·.1 = kind)).map (·.2) = interface.shown kind := by
  have texts (other : DetailKind) (shown : List String) :
      ((shown.map (other, ·)).filter (·.1 = kind)).map (·.2) =
        if other = kind then shown else [] := by
    by_cases same : other = kind
    · simp [List.filter_map, same, Function.comp_def]
    · simp [List.filter_map, same, Function.comp_def]
  simp only [details, List.filter_append, List.map_append, texts]
  cases kind <;> simp

/-- The detail lines tell the texts of the addresses of each kind. -/
theorem shown_eq_of_detailLines {first second : Interface}
    (same : first.detailLines = second.detailLines) : first.shown = second.shown := by
  rw [detailLines_eq, detailLines_eq] at same
  have details := List.map_injective_iff.mpr detailLine_injective same
  funext kind
  rw [← details_of_kind, details, details_of_kind]

theorem unbroken_shown {interface : Interface} (solid : interface.IsSolid) (kind : DetailKind) :
    ∀ text ∈ interface.shown kind, Unbroken text := by
  intro text member
  cases kind with
  | ether =>
      obtain ⟨address, -, rfl⟩ := List.mem_map.mp member
      exact address.unbroken_text
  | inet =>
      obtain ⟨assigned, -, rfl⟩ := List.mem_map.mp member
      exact AssignedAddress.unbroken_text (fun address _ => address.unbroken_text) nofun
  | inet6 =>
      obtain ⟨assigned, among, rfl⟩ := List.mem_map.mp member
      exact AssignedAddress.unbroken_text
        (fun address belongs =>
          ScopedIpv6.unbroken_text (solid.scopes assigned among address belongs))
        fun label labelled => ScopedIpv6.unbroken_scopeLabel labelled

/-! ### All lines -/

/-- The detail lines as they stand below the headline. -/
def indentedLines (interface : Interface) : List String :=
  interface.detailLines.map ("        " ++ ·)

theorem unbroken_indentedLines {interface : Interface} (solid : interface.IsSolid) :
    ∀ line ∈ interface.indentedLines, Unbroken line := by
  intro line member
  rw [indentedLines, detailLines_eq, List.map_map] at member
  obtain ⟨⟨kind, text⟩, among, rfl⟩ := List.mem_map.mp member
  have shown : text ∈ interface.shown kind := by
    rw [← interface.details_of_kind kind]
    exact List.mem_map.mpr ⟨(kind, text), List.mem_filter.mpr ⟨among, by simp⟩, rfl⟩
  exact unbroken_append.mpr ⟨by decide, unbroken_append.mpr
    ⟨kind.unbroken_label, unbroken_shown solid kind text shown⟩⟩

/-- Only the headline of an interface is not indented. -/
theorem opensWith_headline {interface : Interface} (solid : interface.IsSolid) :
    OpensWith (!isIndented ·) interface.headline interface.indentedLines where
  first := by
    simp only [headline_eq, String.append_assoc, isIndented_append solid.named,
      solid.name.not_isIndented, Bool.not_false]
  others := by
    intro line member
    obtain ⟨detail, -, rfl⟩ := List.mem_map.mp member
    rw [isIndented_append (by decide)]
    rfl

theorem text_eq_terminated (interface : Interface) :
    interface.text ++ "\n" = terminated (interface.headline :: interface.indentedLines) := by
  -- A detail line begins with its line break in the text and ends with it among the lines.
  have behind (details : List String) :
      String.join (details.map ("\n        " ++ ·)) ++ "\n" =
        "\n" ++ terminated (details.map ("        " ++ ·)) := by
    induction details with
    | nil => rfl
    | cons detail details inductionHypothesis =>
        have indentation : "\n        " = "\n" ++ "        " := rfl
        rw [List.map_cons, String.join_cons, String.append_assoc, inductionHypothesis,
          List.map_cons, terminated_cons, indentation]
        simp only [String.append_assoc]
  rw [text, terminated_cons, String.append_assoc, behind, String.append_assoc]
  rfl

theorem ReadsAlike.text_eq {first second : Interface} (alike : first.ReadsAlike second) :
    first.text = second.text := by
  obtain ⟨index, name, flags, mtu, hardwareAddress, ipv4, ipv6⟩ := alike
  have headlines : first.headline = second.headline := by
    simp only [headline_eq, flagsText, index, name, flags, mtu]
  have details : first.details = second.details := by
    simp only [details, shown, hardwareAddress, ipv4, ipv6]
  simp only [text, detailLines_eq, headlines, details]

/-- Interfaces are told by their lines. -/
theorem readsAlike_of_lines {first second : Interface} (solid : first.IsSolid)
    (otherSolid : second.IsSolid) (headlines : first.headline = second.headline)
    (indented : first.indentedLines = second.indentedLines) : first.ReadsAlike second := by
  obtain ⟨index, name, flags, mtu⟩ := headline_inj solid otherSolid headlines
  have details : first.detailLines = second.detailLines :=
    List.map_injective_iff.mpr (fun _ _ same => by simpa using same) indented
  have shown := shown_eq_of_detailLines details
  have addresses := List.map_injective_iff.mpr HardwareAddress.text_injective
    (congrFun shown .ether)
  have hardwareAddress : first.hardwareAddress = second.hardwareAddress := by
    simpa using congrArg List.head? addresses
  exact ⟨index, name, flags, mtu, hardwareAddress, congrFun shown .inet, congrFun shown .inet6⟩

end Interface

end NetInterface
