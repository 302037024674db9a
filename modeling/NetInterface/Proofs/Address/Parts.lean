import NetInterface.Address.Assigned

/-!
Addresses taken apart and put together again.

The octets of an address decode to the address and to nothing else, and parts are joined to an
assigned address exactly if they keep its rules, and then as they are.
-/

namespace NetInterface

namespace Ipv4

@[simp]
theorem length_octets (address : Ipv4) : address.octets.length = 4 := rfl

@[simp]
theorem ofOctets_octets (address : Ipv4) : ofOctets address.octets = .ok address := rfl

theorem ofOctets_of_length {octets : List UInt8} (complete : octets.length = 4) :
    ∃ address, ofOctets octets = .ok address := by
  match octets, complete with
  | [first, second, third, fourth], _ => exact ⟨⟨first, second, third, fourth⟩, rfl⟩

theorem ofOctets_of_length_ne {octets : List UInt8} (other : octets.length ≠ 4) :
    ofOctets octets = .error (.invalidLength .v4 octets.length) := by
  have undecoded : ofOctets? octets = none := by
    unfold ofOctets?
    split
    · simp at other
    · rfl
  simp [ofOctets, undecoded]

theorem octets_of_ofOctets {octets : List UInt8} {address : Ipv4}
    (decoded : ofOctets octets = .ok address) : address.octets = octets := by
  unfold ofOctets ofOctets? at decoded
  split at decoded
  next found =>
    split at found
    · cases found
      cases decoded
      rfl
    · cases found
  · cases decoded

end Ipv4

namespace Ipv6

theorem wordOfOctets_octetsOfWord (word : UInt16) :
    wordOfOctets (UInt8.ofNat (word.toNat / 256)) (UInt8.ofNat (word.toNat % 256)) = word := by
  have bound := word.toNat_lt
  apply UInt16.toNat_inj.mp
  simp only [wordOfOctets, UInt16.toNat_ofNat', UInt8.toNat_ofNat']
  omega

theorem wordsOfOctets?_flatMap (words : List UInt16) :
    wordsOfOctets? (words.flatMap octetsOfWord) = some words := by
  induction words with
  | nil => rfl
  | cons word words inductionHypothesis =>
      simp only [List.flatMap_cons, octetsOfWord, List.cons_append, List.nil_append,
        wordsOfOctets?, wordOfOctets_octetsOfWord, inductionHypothesis, Option.map_some]

theorem length_flatMap_octetsOfWord (words : List UInt16) :
    (words.flatMap octetsOfWord).length = 2 * words.length := by
  induction words with
  | nil => rfl
  | cons word words inductionHypothesis =>
      rw [List.flatMap_cons, List.length_append, inductionHypothesis, List.length_cons]
      simp only [octetsOfWord, List.length_cons, List.length_nil]
      omega

@[simp]
theorem length_octets (address : Ipv6) : address.octets.length = 16 := by
  rw [octets, length_flatMap_octetsOfWord, address.length_words]

@[simp]
theorem ofOctets_octets (address : Ipv6) : ofOctets address.octets = .ok address := by
  simp [ofOctets, ofOctets?, octets, wordsOfOctets?_flatMap, ofWords?, address.length_words]

theorem octets_injective : Function.Injective octets := by
  intro address other same
  have decoded : ofOctets address.octets = ofOctets other.octets := congrArg ofOctets same
  simpa using decoded

/-- Octets of an even number are joined to half as many words. -/
theorem length_wordsOfOctets? (octets : List UInt8) :
    (wordsOfOctets? octets).map List.length =
      if octets.length % 2 = 0 then some (octets.length / 2) else none := by
  fun_induction wordsOfOctets? octets with
  | case1 => rfl
  | case2 high low remaining inductionHypothesis =>
      have joined (words? : Option (List UInt16)) :
          (words?.map (wordOfOctets high low :: ·)).map List.length =
            (words?.map List.length).map (· + 1) := by
        cases words? <;> rfl
      have halved : (remaining.length + 1 + 1) / 2 = remaining.length / 2 + 1 := by omega
      have parity : (remaining.length + 1 + 1) % 2 = remaining.length % 2 := by omega
      rw [joined, inductionHypothesis]
      simp only [List.length_cons, halved, parity]
      split <;> rfl
  | case3 => rfl

theorem ofOctets_of_length {octets : List UInt8} (complete : octets.length = 16) :
    ∃ address, ofOctets octets = .ok address := by
  have counted : (wordsOfOctets? octets).map List.length = some 8 := by
    simp [length_wordsOfOctets?, complete]
  obtain ⟨words, joined, eight⟩ := Option.map_eq_some_iff.mp counted
  exact ⟨⟨words, eight⟩, by simp [ofOctets, ofOctets?, joined, ofWords?, eight]⟩

theorem ofOctets_of_length_ne {octets : List UInt8} (other : octets.length ≠ 16) :
    ofOctets octets = .error (.invalidLength .v6 octets.length) := by
  have undecoded : ofOctets? octets = none := by
    cases joined : wordsOfOctets? octets with
    | none => simp [ofOctets?, joined]
    | some words =>
        have counted := length_wordsOfOctets? octets
        have incomplete : words.length ≠ 8 := by
          intro eight
          simp only [joined, Option.map_some, eight] at counted
          split at counted
          · have half : 8 = octets.length / 2 := Option.some.inj counted
            omega
          · cases counted
        simp [ofOctets?, joined, ofWords?, incomplete]
  simp [ofOctets, undecoded]

theorem octetsOfWord_wordOfOctets (high low : UInt8) :
    octetsOfWord (wordOfOctets high low) = [high, low] := by
  have highBound := high.toNat_lt
  have lowBound := low.toNat_lt
  have value : (wordOfOctets high low).toNat = 256 * high.toNat + low.toNat := by
    rw [wordOfOctets, UInt16.toNat_ofNat']
    omega
  have first : (256 * high.toNat + low.toNat) / 256 = high.toNat := by omega
  have second : (256 * high.toNat + low.toNat) % 256 = low.toNat := by omega
  simp [octetsOfWord, value, first, second]

theorem flatMap_of_wordsOfOctets? {octets : List UInt8} {words : List UInt16}
    (joined : wordsOfOctets? octets = some words) : words.flatMap octetsOfWord = octets := by
  fun_induction wordsOfOctets? octets generalizing words with
  | case1 =>
      cases joined
      rfl
  | case2 high low remaining inductionHypothesis =>
      obtain ⟨others, rest, rfl⟩ := Option.map_eq_some_iff.mp joined
      simp [octetsOfWord_wordOfOctets, inductionHypothesis rest]
  | case3 => cases joined

theorem octets_of_ofOctets {octets : List UInt8} {address : Ipv6}
    (decoded : ofOctets octets = .ok address) : address.octets = octets := by
  unfold ofOctets at decoded
  split at decoded
  next found =>
    obtain ⟨words, joined, complete⟩ := Option.bind_eq_some_iff.mp found
    unfold ofWords? at complete
    split at complete
    · cases complete
      cases decoded
      exact flatMap_of_wordsOfOctets? joined
    · cases complete
  · cases decoded

end Ipv6

namespace ScopedIpv6

@[simp]
theorem ofOctets_octets (address : Ipv6) (scopeId : Option UInt32) :
    ofOctets address.octets scopeId = .ok ((unscoped address).withScopeId (scopeId.getD 0)) := by
  simp [ofOctets, Except.map]

@[simp]
theorem address_unscoped (address : Ipv6) : (unscoped address).address = address := rfl

@[simp]
theorem scopeId_unscoped (address : Ipv6) : (unscoped address).scopeId = none := rfl

@[simp]
theorem scopeName_unscoped (address : Ipv6) : (unscoped address).scopeName = none := rfl

@[simp]
theorem address_withScopeId (ipv6 : ScopedIpv6) (id : UInt32) :
    (ipv6.withScopeId id).address = ipv6.address := by
  unfold withScopeId
  split <;> rfl

@[simp]
theorem scopeId_withScopeId (ipv6 : ScopedIpv6) (id : UInt32) :
    (ipv6.withScopeId id).scopeId = if id = 0 then none else some id := by
  unfold withScopeId
  split <;> simp_all

@[simp]
theorem scopeName_withScopeId (ipv6 : ScopedIpv6) (id : UInt32) :
    (ipv6.withScopeId id).scopeName = ipv6.scopeName := by
  unfold withScopeId
  split <;> rfl

@[simp]
theorem withScopeId_zero (address : Ipv6) : (unscoped address).withScopeId 0 = unscoped address :=
  rfl

@[simp]
theorem address_withScopeName (ipv6 : ScopedIpv6) (name : String) :
    (ipv6.withScopeName name).address = ipv6.address := by
  unfold withScopeName
  split <;> rfl

@[simp]
theorem scopeId_withScopeName (ipv6 : ScopedIpv6) (name : String) :
    (ipv6.withScopeName name).scopeId = ipv6.scopeId := by
  unfold withScopeName
  split <;> rfl

@[simp]
theorem scopeName_withScopeName (ipv6 : ScopedIpv6) (name : String) :
    (ipv6.withScopeName name).scopeName = if name = "" then none else some name := by
  unfold withScopeName
  split <;> simp_all

/-- Octets decode to the address that has them, with the scope id, zero standing for none, and
without a scope name. -/
theorem of_ofOctets {octets : List UInt8} {scopeId : Option UInt32} {ipv6 : ScopedIpv6}
    (decoded : ofOctets octets scopeId = .ok ipv6) :
    ipv6.address.octets = octets ∧ ipv6.scopeId = scopeId.filter (· ≠ 0) ∧
      ipv6.scopeName = none := by
  cases plain : Ipv6.ofOctets octets with
  | error error => simp [ofOctets, plain, Except.map] at decoded
  | ok address =>
      obtain rfl : (unscoped address).withScopeId (scopeId.getD 0) = ipv6 := by
        simpa [ofOctets, plain, Except.map] using decoded
      refine ⟨by simp [Ipv6.octets_of_ofOctets plain], ?_, by simp⟩
      cases scopeId with
      | none => simp
      | some id => by_cases zero : id = 0 <;> simp [zero, Option.filter]

end ScopedIpv6

namespace AssignedAddress

variable {α : Type} [Address α]

/-- A prefix is joined if it is no longer than the address. -/
theorem changeSome_withPrefixLength (address : α) {prefixLength : Option Nat} (flags : UInt32)
    (fits : ∀ length, prefixLength = some length → length ≤ (Address.family α).maxPrefixLength) :
    changeSome withPrefixLength prefixLength ((bare address).withFlags flags) =
      .ok ⟨address, prefixLength, none, none, flags⟩ := by
  cases prefixLength with
  | none => rfl
  | some length => simp [changeSome, withPrefixLength, bare, withFlags, fits length rfl]

/-- A prefix that is too long is refused, whatever the other parts are. -/
theorem ofParts_of_prefixTooLong (address : α) {length : Nat} (broadcast peer : Option α)
    (flags : UInt32) (long : (Address.family α).maxPrefixLength < length) :
    ofParts address (some length) broadcast peer flags =
      .error (.prefixTooLong length (Address.text address) (Address.family α)) := by
  have refused : changeSome withPrefixLength (some length) ((bare address).withFlags flags) =
      .error (.prefixTooLong length (Address.text address) (Address.family α)) := by
    simp [changeSome, withPrefixLength, bare, withFlags, long]
  unfold ofParts
  rw [refused]
  rfl

/-- A broadcast and a peer address are refused together. -/
theorem ofParts_of_both (address : α) {prefixLength : Option Nat} (broadcast peer : α)
    (flags : UInt32)
    (fits : ∀ length, prefixLength = some length → length ≤ (Address.family α).maxPrefixLength) :
    ofParts address prefixLength (some broadcast) (some peer) flags =
      .error (.broadcastAndPeer (Address.text address)) := by
  unfold ofParts
  rw [changeSome_withPrefixLength address flags fits]
  rfl

/-- Parts that keep the rules are joined as they are. -/
theorem ofParts_eq_ok (address : α) {prefixLength : Option Nat} {broadcast peer : Option α}
    (flags : UInt32)
    (fits : ∀ length, prefixLength = some length → length ≤ (Address.family α).maxPrefixLength)
    (exclusive : broadcast = none ∨ peer = none) :
    ofParts address prefixLength broadcast peer flags =
      .ok ⟨address, prefixLength, broadcast, peer, flags⟩ := by
  have prefixed := changeSome_withPrefixLength address flags fits
  have joined : (changeSome withBroadcast broadcast ⟨address, prefixLength, none, none, flags⟩ >>=
      changeSome withPeer peer) = .ok ⟨address, prefixLength, broadcast, peer, flags⟩ := by
    cases broadcast with
    | none => cases peer <;> rfl
    | some broadcast =>
        rcases exclusive with absent | absent
        · cases absent
        · rw [absent]
          rfl
  unfold ofParts
  rw [prefixed]
  exact joined

/-- Parts are joined if they keep the rules, and then as they are. -/
theorem ofParts_eq_ok_iff {address : α} {prefixLength : Option Nat} {broadcast peer : Option α}
    {flags : UInt32} {assigned : AssignedAddress α} :
    ofParts address prefixLength broadcast peer flags = .ok assigned ↔
      (∀ length, prefixLength = some length → length ≤ (Address.family α).maxPrefixLength) ∧
        (broadcast = none ∨ peer = none) ∧
        assigned = ⟨address, prefixLength, broadcast, peer, flags⟩ := by
  constructor
  · intro joined
    have fits : ∀ length, prefixLength = some length →
        length ≤ (Address.family α).maxPrefixLength := by
      rintro length rfl
      apply Nat.le_of_not_lt
      intro long
      rw [ofParts_of_prefixTooLong address broadcast peer flags long] at joined
      cases joined
    have exclusive : broadcast = none ∨ peer = none := by
      cases broadcast with
      | none => exact .inl rfl
      | some broadcast =>
          cases peer with
          | none => exact .inr rfl
          | some peer =>
              rw [ofParts_of_both address broadcast peer flags fits] at joined
              cases joined
    rw [ofParts_eq_ok address flags fits exclusive] at joined
    exact ⟨fits, exclusive, (Except.ok.inj joined).symm⟩
  · rintro ⟨fits, exclusive, rfl⟩
    exact ofParts_eq_ok address flags fits exclusive

end AssignedAddress

end NetInterface
