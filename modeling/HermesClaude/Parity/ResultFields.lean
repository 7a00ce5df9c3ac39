/-
# What an accepted document says

A document is decoded to a packet exactly when it has the entries of that packet in some
order, with a schema version that compares equal to `1`, when the packet is valid on its
own and when the packet hash is that of the document.
-/

import HermesClaude.Library.Checks
import HermesClaude.Parity.Results

namespace HermesClaude.Parity

open HermesClaude.Python HermesClaude.Library

/-! ## Checks in a row -/

section Checks

variable {α β : Type} {a : α} {b : β}

theorem refuseIf_eq_ok {condition : Bool} {violation : ResultViolation} {u : Unit} :
    refuseIf condition violation = .ok u ↔ condition = false := by
  cases condition with
  | false => simp [refuseIf]
  | true => simp [refuseIf]

theorem require_eq_ok {condition : Bool} {message : PyStr} {u : Unit} :
    require condition message = .ok u ↔ condition = true := by
  rw [require, refuseIf_eq_ok, Bool.not_eq_false']

theorem orRefuse_eq_ok {value : Option α} {violation : ResultViolation} :
    orRefuse value violation = .ok a ↔ value = some a := by
  cases value with
  | none => simp [orRefuse]
  | some x => simp [orRefuse]

theorem orRaise_eq_ok {value : Option α} {exception : String} :
    orRaise value exception = .ok a ↔ value = some a := orRefuse_eq_ok

theorem requireText_eq_ok {valid : PyStr → Bool} {value : Json} {message : PyStr}
    {text : { text : PyStr // valid text = true }} :
    requireText valid value message = .ok text ↔ value = .str text.val := by
  unfold requireText
  cases value with
  | str s =>
    by_cases hs : valid s = true
    · simp [hs, Subtype.ext_iff]
    · have hne : s ≠ text.val := fun heq => hs (heq ▸ text.property)
      simp [hs, hne]
  | null | bool _ | int _ | float _ | list _ | dict _ => simp

theorem optional_eq_ok {valid : PyStr → Bool} {value : Json} {message : PyStr}
    {text : Option { text : PyStr // valid text = true }} :
    optional (requireText valid · message) value = .ok text ↔ value = ResultPacket.ofOptional text := by
  have hmap : ((requireText valid value message).map some = .ok text) ↔
      ∃ s, text = some s ∧ value = .str s.val := by
    cases hvalue : requireText valid value message with
    | error violation =>
      constructor
      · intro h
        cases h
      · rintro ⟨s, -, h⟩
        rw [requireText_eq_ok.mpr h] at hvalue
        cases hvalue
    | ok s =>
      have hs := requireText_eq_ok.mp hvalue
      constructor
      · intro h
        cases h
        exact ⟨s, rfl, hs⟩
      · rintro ⟨t, rfl, ht⟩
        rw [requireText_eq_ok.mpr ht] at hvalue
        cases hvalue
        rfl
  cases value with
  | null => cases text with
    | none => simp [optional, ResultPacket.ofOptional]
    | some s => simp [optional, ResultPacket.ofOptional]
  | str _ | bool _ | int _ | float _ | list _ | dict _ => cases text with
    | none => simp [optional, hmap, ResultPacket.ofOptional]
    | some s => simp [optional, hmap, ResultPacket.ofOptional]

/-- A value is read as the member whose text it is. -/
theorem memberWith_eq_some {E : Type} {members : List E} {value : E → PyStr} {raw : Json} {e : E}
    (hall : ∀ e, e ∈ members) (hinjective : Function.Injective value) :
    memberWith members value raw = some e ↔ raw = .str (value e) := by
  constructor
  · intro h
    have htext := List.find?_some h
    cases raw with
    | str s =>
      simp only [Json.str?, Option.some.injEq, decide_eq_true_eq] at htext
      rw [htext]
    | null | bool _ | int _ | float _ | list _ | dict _ => simp [Json.str?] at htext
  · rintro rfl
    cases hfind : memberWith members value (.str (value e)) with
    | none =>
      have hno := List.find?_eq_none.mp hfind e (hall e)
      simp [Json.str?] at hno
    | some found =>
      have htext := List.find?_some hfind
      simp only [Json.str?, Option.some.injEq, decide_eq_true_eq] at htext
      rw [hinjective htext]

theorem requireMember_eq_ok {E : Type} {members : List E} {value : E → PyStr} {raw : Json} {e : E}
    {message : PyStr} (hall : ∀ e, e ∈ members) (hinjective : Function.Injective value) :
    requireMember members value raw message = .ok e ↔ raw = .str (value e) := by
  unfold requireMember
  split
  · next hcontainer =>
    constructor
    · intro h
      cases h
    · rintro rfl
      simp [isHashable] at hcontainer
  · rw [orRefuse_eq_ok, memberWith_eq_some hall hinjective]

end Checks

theorem mem_executionClassifications (e : ExecutionClassification) : e ∈ executionClassifications := by
  cases e <;> decide

theorem ExecutionClassification.value_injective : Function.Injective value := by
  intro a b h
  revert h
  cases a <;> cases b <;> decide

theorem Lane.value_injective : Function.Injective value := by
  intro a b h
  revert h
  cases a <;> cases b <;> decide

theorem TrialPath.value_injective : Function.Injective value := by
  intro a b h
  revert h
  cases a <;> cases b <;> decide

theorem BillingClassification.value_injective : Function.Injective value := by
  intro a b h
  revert h
  cases a <;> cases b <;> decide

/-! ## Events -/

/-- What is checked of the event at an index. -/
structure EventFits (index : Nat) (event : Entries) : Prop where
  known : ∀ item ∈ event, item.1 ∈ eventFields
  sequence : Json.pyEq (event.field "sequence") (.int (index + 1)) = true
  kind : isOneOf eventKinds (event.field "kind") = true
  status : ∃ status : Option SafeId, event.field "status" = ResultPacket.ofOptional status
  hashes : ∀ item ∈ event, item.1 ∈ eventHashFields → ∃ digest : Digest, item.2 = .str digest.val
  outcome : if (event.field "kind").str? = some (lit "terminal")
    then isOneOf terminalOutcomes (event.field "terminal_outcome") = true
    else event.field "terminal_outcome" = .null

/-- The events from an index on. -/
def EventsFit (index : Nat) : List Entries → Prop
  | [] => True
  | event :: events => EventFits index event ∧ EventsFit (index + 1) events

theorem isHashable_of_isOneOf {texts : List PyStr} {value : Json} (h : isOneOf texts value = true) :
    isHashable value = true := by
  cases value with
  | list _ | dict _ => cases h
  | null | bool _ | int _ | float _ | str _ => rfl

theorem checkEventHashes_eq_ok {index : Nat} {event : Entries} {u : Unit} :
    checkEventHashes index event = .ok u ↔
      ∀ item ∈ event, item.1 ∈ eventHashFields → ∃ digest : Digest, item.2 = .str digest.val := by
  induction event with
  | nil => simp [checkEventHashes]
  | cons item event ih =>
    obtain ⟨key, value⟩ := item
    rw [checkEventHashes, List.forall_mem_cons]
    by_cases hkey : key ∈ eventHashFields
    · rw [if_pos hkey, bind_eq_ok]
      simp only [hash, requireText_eq_ok, ih, hkey, true_imp_iff, exists_and_right]
    · rw [if_neg hkey, ih]
      simp [hkey]

theorem checkOutcome_eq_ok {kind outcome : Json} {u : Unit} :
    checkOutcome kind outcome = .ok u ↔
      if kind.str? = some (lit "terminal") then isOneOf terminalOutcomes outcome = true
      else outcome = .null := by
  unfold checkOutcome
  by_cases hkind : kind.str? = some (lit "terminal")
  · rw [if_pos hkind, if_pos hkind, bind_eq_ok]
    simp only [refuseIf_eq_ok, require_eq_ok, Bool.not_eq_false']
    constructor
    · rintro ⟨-, -, h⟩
      exact h
    · intro h
      exact ⟨(), isHashable_of_isOneOf h, h⟩
  · rw [if_neg hkind, if_neg hkind, require_eq_ok]
    cases outcome <;> simp

theorem normalizeEvent_eq_ok {index : Nat} {raw : Json} {event : Entries} :
    normalizeEvent index raw = .ok event ↔ raw = .dict event ∧ EventFits index event := by
  cases raw with
  | dict items =>
    unfold normalizeEvent
    simp only [bind_eq_ok, refuseIf_eq_ok, require_eq_ok, safeId, optional_eq_ok,
      checkEventHashes_eq_ok, checkOutcome_eq_ok, exists_const, Json.dict.injEq]
    constructor
    · rintro ⟨hunknown, hsequence, -, hkind, status, hstatus, hhashes, houtcome, h⟩
      obtain rfl : items = event := Except.ok.inj h
      refine ⟨rfl, ?_, hsequence, hkind, ⟨status, hstatus⟩, hhashes, houtcome⟩
      intro item hitem
      by_contra hno
      simp only [Bool.not_eq_false', List.isEmpty_iff, List.map_eq_nil_iff,
        List.filter_eq_nil_iff] at hunknown
      exact hunknown item hitem (by simpa using hno)
    · rintro ⟨rfl, h⟩
      have hunknown : (items.filter fun item => item.1 ∉ eventFields) = [] := by
        rw [List.filter_eq_nil_iff]
        intro item hitem
        simpa using h.known item hitem
      obtain ⟨status, hstatus⟩ := h.status
      refine ⟨?_, h.sequence, ?_, h.kind, status, hstatus, h.hashes, h.outcome, rfl⟩
      · rw [hunknown]
        rfl
      · rw [isHashable_of_isOneOf h.kind]
        rfl
  | null | bool _ | int _ | float _ | str _ | list _ => simp [normalizeEvent]

theorem normalizeFrom_eq_ok {index : Nat} {items : List Json} {events : List Entries} :
    normalizeFrom index items = .ok events ↔
      items = events.map .dict ∧ EventsFit index events := by
  induction items generalizing index events with
  | nil =>
    cases events with
    | nil => simp [normalizeFrom, EventsFit]
    | cons event events => simp [normalizeFrom]
  | cons raw items ih =>
    rw [normalizeFrom]
    simp only [bind_eq_ok, normalizeEvent_eq_ok, ih]
    constructor
    · rintro ⟨event, ⟨rfl, hevent⟩, rest, ⟨rfl, hrest⟩, h⟩
      cases h
      exact ⟨rfl, hevent, hrest⟩
    · rintro ⟨hitems, hevents⟩
      cases events with
      | nil => cases hitems
      | cons event events =>
        cases hitems
        exact ⟨event, ⟨rfl, hevents.1⟩, events, ⟨rfl, hevents.2⟩, rfl⟩

theorem normalizeEvents_eq_ok {value : Json} {events : List Entries} :
    normalizeEvents value = .ok events ↔
      value = .list (events.map .dict) ∧ events.length ≤ maxNormalizedEvents ∧ EventsFit 0 events := by
  cases value with
  | list items =>
    unfold normalizeEvents
    dsimp only
    by_cases hmany : items.length > maxNormalizedEvents
    · rw [if_pos hmany]
      constructor
      · intro h
        cases h
      · rintro ⟨hitems, hbound, -⟩
        cases hitems
        rw [List.length_map] at hmany
        omega
    · rw [if_neg hmany, normalizeFrom_eq_ok, Json.list.injEq]
      constructor
      · rintro ⟨rfl, hfit⟩
        rw [List.length_map] at hmany
        exact ⟨rfl, by omega, hfit⟩
      · rintro ⟨rfl, -, hfit⟩
        exact ⟨rfl, hfit⟩
  | null | bool _ | int _ | float _ | str _ | dict _ => simp [normalizeEvents]

/-! ## Fields -/

namespace ResultPacket

theorem requireInt_eq_ok {least most : Int} {value : Json} {message : PyStr} {n : Nat}
    (hleast : 0 ≤ least) :
    requireInt least most value message = .ok n ↔
      value = .int n ∧ least ≤ n ∧ (n : Int) ≤ most := by
  cases value with
  | int i =>
    rw [requireInt, Json.int.injEq]
    by_cases hrange : least ≤ i ∧ i ≤ most
    · rw [if_pos hrange, Except.ok.injEq]
      omega
    · rw [if_neg hrange]
      constructor
      · intro h
        cases h
      · rintro ⟨rfl, h⟩
        exact absurd h hrange
  | null | bool _ | float _ | str _ | list _ | dict _ => simp [requireInt]

theorem requireIntFrom_eq_ok {least : Int} {value : Json} {message : PyStr} {n : Nat}
    (hleast : 0 ≤ least) :
    requireIntFrom least value message = .ok n ↔ value = .int n ∧ least ≤ n := by
  cases value with
  | int i =>
    rw [requireIntFrom, Json.int.injEq]
    by_cases hrange : least ≤ i
    · rw [if_pos hrange, Except.ok.injEq]
      omega
    · rw [if_neg hrange]
      constructor
      · intro h
        cases h
      · rintro ⟨rfl, h⟩
        exact absurd h hrange
  | null | bool _ | float _ | str _ | list _ | dict _ => simp [requireIntFrom]

theorem checkViolations_eq_ok {value : Json} {u : Unit} :
    checkViolations value = .ok u ↔ value = .list [] := by
  cases value with
  | list items =>
    unfold checkViolations
    simp only [bind_eq_ok, require_eq_ok, List.isEmpty_iff, Json.list.injEq]
    constructor
    · rintro ⟨-, -, h⟩
      exact h
    · rintro rfl
      exact ⟨(), rfl, rfl⟩
  | null | bool _ | int _ | float _ | str _ | dict _ => simp [checkViolations]

/-- What is checked of a packet, whatever document it comes from. -/
structure Valid (floats : FloatText) (packet : ResultPacket) : Prop where
  billing : packet.billingClassification ≠ .notSafe ∧ packet.billingClassification ≠ .unknown
  turnCount : packet.turnCount ≤ 180
  trialIndex : 1 ≤ packet.trialIndex
  count : packet.normalizedEvents.length ≤ maxNormalizedEvents
  events : EventsFit 0 packet.normalizedEvents
  terminal : checkTerminal packet.classification (packet.normalizedEvents.filter isTerminal) = .ok ()
  proofs : needsProofs packet.classification = true →
    packet.primaryProofHash ≠ none ∧ packet.secondaryProofHash ≠ none
  trace : sha256Value floats (.list (packet.normalizedEvents.map .dict)) = some packet.traceHash
  candidate : Parity.candidateHash floats packet.candidate = some packet.candidateHash

/-- The fields of a document are those of a packet. -/
structure Decodes (floats : FloatText) (entries : Entries) (packet : ResultPacket) : Prop where
  schemaVersion : Json.pyEq (entries.field "schema_version") (.int 1) = true
  fields : ∀ field ∈ packet.fields, entries.field field.1 = field.2
  valid : packet.Valid floats
  content : sha256Value floats (.dict entries.withoutHash) = some packet.packetHash

theorem fromFields_eq_ok {floats : FloatText} {entries : Entries} {packet : ResultPacket} :
    fromFields floats entries = .ok packet ↔ Decodes floats entries packet := by
  have hlanes : ∀ lane, lane ∈ [Lane.rc, .runtime] := by
    intro lane
    cases lane <;> decide
  have hpaths : ∀ path, path ∈ [TrialPath.positive, .denial, .recovery] := by
    intro path
    cases path <;> decide
  have hbillings : ∀ billing, billing ∈ billingClassifications := by
    intro billing
    cases billing <;> decide
  unfold fromFields
  simp only [bind_eq_ok, require_eq_ok, exists_const, orRefuse_eq_ok, orRaise_eq_ok, safeId, hash,
    sha, requireText_eq_ok, optional_eq_ok,
    requireMember_eq_ok hlanes Lane.value_injective,
    requireMember_eq_ok hpaths TrialPath.value_injective,
    requireMember_eq_ok hbillings BillingClassification.value_injective,
    memberWith_eq_some mem_executionClassifications ExecutionClassification.value_injective,
    requireInt_eq_ok (le_refl 0), requireIntFrom_eq_ok (zero_le_one' Int), checkViolations_eq_ok,
    normalizeEvents_eq_ok, decide_eq_true_eq, Bool.and_eq_true]
  constructor
  · rintro ⟨hschema, classification, hclassification, capability, hcapability, source, hsource, lane,
      hlane, path, hpath, execution, hexecution, sdk, hsdk, profile, hprofile, runner, hrunner, billing,
      hbilling, hsafe, turns, hturns, trial, htrial, _, hsilent, hviolations, h⟩
    obtain ⟨reason, hreason, events, hevents, u, hterminal, primary, hprimary, secondary,
      hsecondary, hproofs, h⟩ := h
    obtain ⟨trace, htrace, digest, hdigest, hsame, catalog, hcatalog, profileHash, hprofileHash,
      inventory, hinventory, plugin, hplugin, host, hhost, h⟩ := h
    obtain ⟨expected, hexpected, candidate, hcandidate, hbound, packetHash, hpacketHash, h⟩ := h
    obtain ⟨content, hcontent, hequal, contract, hcontract, h⟩ := h
    obtain ⟨hturns, -, hmost⟩ := hturns
    obtain ⟨htrial, hleast⟩ := htrial
    obtain ⟨hevents, hcount, hfit⟩ := hevents
    obtain rfl := Except.ok.inj h
    have hfallback : entries.field "silent_fallback" = .bool false := by
      revert hsilent
      cases entries.field "silent_fallback" with
      | bool b => cases b <;> simp
      | null | int _ | float _ | str _ | list _ | dict _ => simp
    have hturn : turns ≤ 180 := by omega
    have hindex : 1 ≤ trial := by omega
    rw [← hsame] at hdigest
    rw [← hbound] at hexpected
    rw [← hequal] at hcontent
    refine ⟨hschema, ?_, ⟨hsafe, hturn, hindex, hcount, hfit, hterminal, ?_, hdigest, hexpected⟩, hcontent⟩
    · simp only [ResultPacket.fields, List.forall_mem_cons, List.not_mem_nil, false_imp_iff,
        implies_true, and_true]
      exact ⟨hcapability, hsource, hlane, hpath, hexecution, hclassification, hcontract, hcatalog,
        hplugin, hhost, hsdk, hprofile, hprofileHash, hrunner, hinventory, hcandidate, hbilling, hturns,
        htrial, hevents, htrace, hprimary, hsecondary, hfallback, hviolations, hreason, hpacketHash⟩
    · intro hneeds
      dsimp only at hneeds ⊢
      rw [hneeds] at hproofs
      cases primary <;> cases secondary <;> simp at hproofs ⊢
  · rintro ⟨hschema, hfields, hvalid, hcontent⟩
    simp only [ResultPacket.fields, List.forall_mem_cons, List.not_mem_nil, false_imp_iff,
      implies_true, and_true] at hfields
    obtain ⟨hcapability, hsource, hlane, hpath, hexecution, hclassification, hcontract, hcatalog,
      hplugin, hhost, hsdk, hprofile, hprofileHash, hrunner, hinventory, hcandidate, hbilling, hturns,
      htrial, hevents, htrace, hprimary, hsecondary, hfallback, hviolations, hreason, hpacketHash⟩ :=
      hfields
    have hturn := hvalid.turnCount
    have htrials := hvalid.trialIndex
    have hproofs : (!(needsProofs packet.classification &&
        (packet.primaryProofHash.isNone || packet.secondaryProofHash.isNone))) = true := by
      cases hneeds : needsProofs packet.classification with
      | false => rfl
      | true =>
        obtain ⟨hprimary, hsecondary⟩ := hvalid.proofs hneeds
        rw [← Option.isSome_iff_ne_none] at hprimary hsecondary
        rw [Option.isNone_eq_false_iff.mpr hprimary, Option.isNone_eq_false_iff.mpr hsecondary]
        rfl
    exact ⟨hschema, _, hclassification, _, hcapability, _, hsource, _, hlane, _, hpath, _, hexecution, _,
      hsdk, _, hprofile, _, hrunner, _, hbilling, hvalid.billing, _, ⟨hturns, by omega, by omega⟩, _,
      ⟨htrial, by omega⟩, by rw [hfallback], by rw [hfallback], hviolations, _, hreason, _,
      ⟨hevents, hvalid.count, hvalid.events⟩, (), hvalid.terminal, _, hprimary, _, hsecondary, hproofs, _,
      htrace, _, hvalid.trace, rfl, _, hcatalog, _, hprofileHash, _, hinventory, _, hplugin, _, hhost, _,
      hvalid.candidate, _, hcandidate, rfl, _, hpacketHash, _, hcontent, rfl, _, hcontract, rfl⟩

end ResultPacket

/-! ## Nothing forbidden -/

theorem rejectForbiddenKeys_of_isHashable {location : PyStr} {value : Json}
    (h : isHashable value = true) : rejectForbiddenKeys location value = .ok () := by
  cases value with
  | list _ | dict _ => cases h
  | null | bool _ | int _ | float _ | str _ => rfl

theorem rejectForbiddenItems_of_forall {location : PyStr} {items : Entries}
    (h : ∀ item ∈ items, item.1 ∉ forbiddenKeys ∧
      ∀ location, rejectForbiddenKeys location item.2 = .ok ()) :
    rejectForbiddenItems location items = .ok () := by
  induction items with
  | nil => rfl
  | cons item items ih =>
    obtain ⟨key, child⟩ := item
    obtain ⟨⟨hkey, hchild⟩, hitems⟩ := List.forall_mem_cons.mp h
    rw [rejectForbiddenItems, if_neg hkey, hchild]
    exact ih hitems

theorem rejectForbiddenList_of_forall {location : PyStr} {index : Nat} {items : List Json}
    (h : ∀ item ∈ items, ∀ location, rejectForbiddenKeys location item = .ok ()) :
    rejectForbiddenList location index items = .ok () := by
  induction items generalizing index with
  | nil => rfl
  | cons item items ih =>
    obtain ⟨hitem, hitems⟩ := List.forall_mem_cons.mp h
    rw [rejectForbiddenList, hitem]
    exact ih hitems

/-- A field of a dictionary is the value of its entry. -/
theorem field_eq_of_mem {entries : Entries} (hunique : (entries.map Prod.fst).Nodup) {name : String}
    {value : Json} (h : (lit name, value) ∈ entries) : entries.field name = value := by
  rw [Entries.field, Json.key?_eq_some hunique h]
  rfl

theorem isHashable_ofOptional {valid : PyStr → Bool}
    (text : Option { text : PyStr // valid text = true }) :
    isHashable (ResultPacket.ofOptional text) = true := by
  cases text <;> rfl

theorem isHashable_of_pyEq_int {value : Json} {i : Int} (h : Json.pyEq value (.int i) = true) :
    isHashable value = true := by
  cases value with
  | list _ | dict _ => cases h
  | null | bool _ | int _ | float _ | str _ => rfl

/-- The values of an event are no containers. -/
theorem EventFits.isHashable {index : Nat} {event : Entries} (h : EventFits index event)
    (hunique : (event.map Prod.fst).Nodup) : ∀ item ∈ event, isHashable item.2 = true := by
  rintro ⟨key, value⟩ hitem
  have hfield : ∀ name, key = lit name → event.field name = value := by
    rintro name rfl
    exact field_eq_of_mem hunique hitem
  rcases List.mem_append.mp (h.known _ hitem) with hkey | hkey
  · simp only [List.mem_cons, List.not_mem_nil, or_false] at hkey
    rcases hkey with hkey | hkey | hkey | hkey
    · rw [← hfield _ hkey]
      exact isHashable_of_pyEq_int h.sequence
    · rw [← hfield _ hkey]
      exact isHashable_of_isOneOf h.kind
    · rw [← hfield _ hkey]
      obtain ⟨status, hstatus⟩ := h.status
      rw [hstatus]
      exact isHashable_ofOptional status
    · rw [← hfield _ hkey]
      have houtcome := h.outcome
      split at houtcome
      · exact isHashable_of_isOneOf houtcome
      · rw [houtcome]
        rfl
  · obtain ⟨digest, hdigest⟩ := h.hashes _ hitem hkey
    dsimp only at hdigest ⊢
    rw [hdigest]
    rfl

theorem eventFields_allowed : ∀ key ∈ eventFields, key ∉ forbiddenKeys := by decide

theorem packetFields_allowed : ∀ key ∈ packetFields, key ∉ forbiddenKeys := by decide

theorem EventsFit.allowed {index : Nat} {events : List Entries} (h : EventsFit index events)
    (hunique : ∀ event ∈ events, (event.map Prod.fst).Nodup) :
    ∀ event ∈ events, ∀ location, rejectForbiddenKeys location (.dict event) = .ok () := by
  induction events generalizing index with
  | nil => simp
  | cons event events ih =>
    obtain ⟨hfirst, hrest⟩ := List.forall_mem_cons.mp hunique
    rw [List.forall_mem_cons]
    constructor
    · intro location
      apply rejectForbiddenItems_of_forall
      intro item hitem
      refine ⟨eventFields_allowed _ (h.1.known _ hitem), fun location => ?_⟩
      exact rejectForbiddenKeys_of_isHashable (h.1.isHashable hfirst _ hitem)
    · exact ih h.2 hrest

/-! ## Documents -/

namespace ResultPacket

theorem entriesWith_keys (schemaVersion : Json) (packet : ResultPacket) :
    (packet.entriesWith schemaVersion).map Prod.fst = packetFields := by
  simp only [entriesWith, fields, packetFields, List.map_cons, List.map_nil]

theorem packetFields_nodup : packetFields.Nodup := by decide

section

variable {floats : FloatText} {entries : Entries} {packet : ResultPacket}

/-- The entries of an accepted document are those of its packet, in some order. -/
theorem Decodes.perm (h : Decodes floats entries packet)
    (hkeys : (entries.map Prod.fst).Perm packetFields) :
    entries.Perm (packet.entriesWith (entries.field "schema_version")) := by
  have hunique : (entries.map Prod.fst).Nodup := hkeys.nodup_iff.mpr packetFields_nodup
  have hvalues : ∀ item ∈ packet.entriesWith (entries.field "schema_version"),
      ∀ value, (item.1, value) ∈ entries → value = item.2 := by
    intro item hitem value hvalue
    obtain ⟨field, hfield, rfl⟩ := List.mem_map.mp hitem
    rw [← field_eq_of_mem hunique hvalue]
    rcases List.mem_cons.mp hfield with rfl | hfield
    · rfl
    · exact h.fields field hfield
  have hsame : ∀ key, key ∈ entries.map Prod.fst ↔
      key ∈ (packet.entriesWith (entries.field "schema_version")).map Prod.fst := by
    intro key
    rw [entriesWith_keys, hkeys.mem_iff]
  rw [List.perm_ext_iff_of_nodup hunique.of_map]
  · rintro ⟨key, value⟩
    constructor
    · intro hmem
      obtain ⟨item, hitem, rfl⟩ := List.mem_map.mp ((hsame _).mp (List.mem_map_of_mem hmem))
      rw [hvalues item hitem value hmem]
      exact hitem
    · intro hmem
      obtain ⟨item, hitem, rfl⟩ := List.mem_map.mp ((hsame _).mpr (List.mem_map_of_mem hmem))
      have hvalue : item.2 = value := hvalues _ hmem item.2 hitem
      rw [← hvalue]
      exact hitem
  · apply List.Nodup.of_map Prod.fst
    rw [entriesWith_keys]
    exact packetFields_nodup

/-- A document of the right keys that decodes has no forbidden ones. -/
theorem Decodes.allowed (h : Decodes floats entries packet)
    (hkeys : (entries.map Prod.fst).Perm packetFields)
    (hunique : (Json.dict entries).UniqueKeys) :
    rejectForbiddenKeys (lit "packet") (.dict entries) = .ok () := by
  have hperm := h.perm hkeys
  apply rejectForbiddenItems_of_forall
  intro item hitem
  refine ⟨packetFields_allowed _ (hkeys.mem_iff.mp (List.mem_map_of_mem hitem)), ?_⟩
  have hmem := hperm.mem_iff.mp hitem
  obtain ⟨field, hfield, rfl⟩ := List.mem_map.mp hmem
  have hevents : ∀ location,
      rejectForbiddenKeys location (.list (packet.normalizedEvents.map .dict)) = .ok () := by
    intro location
    apply rejectForbiddenList_of_forall
    rw [List.forall_mem_map]
    apply h.valid.events.allowed
    have hlist : (lit "normalized_events", Json.list (packet.normalizedEvents.map .dict)) ∈ entries := by
      apply hperm.mem_iff.mpr
      simp [entriesWith, ResultPacket.fields]
    have hevents := (Json.uniqueKeysItems_iff entries).mp hunique.2 _ hlist
    rw [Json.UniqueKeys, Json.uniqueKeysList_iff, List.forall_mem_map] at hevents
    intro event hevent
    exact (hevents event hevent).1
  have hfields : ∀ field ∈ packet.fields, ∀ location,
      rejectForbiddenKeys location field.2 = .ok () := by
    simp only [ResultPacket.fields, List.forall_mem_cons, List.not_mem_nil, false_imp_iff,
      implies_true, and_true]
    and_intros
    all_goals
      intro location
      first
      | exact hevents location
      | exact rejectForbiddenKeys_of_isHashable (isHashable_ofOptional _)
      | rfl
  rcases List.mem_cons.mp hfield with rfl | hfield
  · intro location
    exact rejectForbiddenKeys_of_isHashable (isHashable_of_pyEq_int h.schemaVersion)
  · exact hfields field hfield

theorem fieldsMatch_iff (hunique : (entries.map Prod.fst).Nodup) :
    ((packetFields.filter fun field => !Json.hasKey entries field).isEmpty &&
        ((entries.map Prod.fst).filter fun field => field ∉ packetFields).isEmpty) = true ↔
      (entries.map Prod.fst).Perm packetFields := by
  have hhas : ∀ key, Json.hasKey entries key = true ↔ key ∈ entries.map Prod.fst := by
    intro key
    simp [Json.hasKey]
  rw [List.perm_ext_iff_of_nodup hunique packetFields_nodup]
  simp only [Bool.and_eq_true, List.isEmpty_iff, List.filter_eq_nil_iff, Bool.not_eq_true',
    Bool.not_eq_false, hhas, decide_eq_true_eq, not_not]
  constructor
  · rintro ⟨hmissing, hunknown⟩ key
    exact ⟨hunknown key, hmissing key⟩
  · intro h
    exact ⟨fun key => (h key).mpr, fun key => (h key).mp⟩

/-- Documents are accepted for what their entries say. -/
theorem fromDict_eq_ok {value : PyValue} :
    fromDict floats value = .ok packet ↔
      ∃ entries, jsonCompatible value = some (.dict entries) ∧
        (entries.map Prod.fst).Perm packetFields ∧ Decodes floats entries packet := by
  unfold fromDict
  cases hcopy : jsonCompatible value with
  | none => simp
  | some raw =>
    have hunique := uniqueKeys_of_jsonCompatible hcopy
    cases raw with
    | dict items =>
      dsimp only [Json.dict?, Option.getD_some]
      constructor
      · intro h
        split at h
        · cases h
        · next hmatch =>
          rw [Bool.not_eq_true', Bool.not_eq_false, fieldsMatch_iff hunique.1] at hmatch
          obtain ⟨-, -, hdecode⟩ := bind_eq_ok.mp h
          exact ⟨items, rfl, hmatch, fromFields_eq_ok.mp hdecode⟩
      · rintro ⟨entries, hentries, hkeys, hdecodes⟩
        cases hentries
        have hmatch := (fieldsMatch_iff hunique.1).mpr hkeys
        split
        · next hno =>
          rw [hmatch] at hno
          cases hno
        · rw [hdecodes.allowed hkeys hunique]
          exact fromFields_eq_ok.mpr hdecodes
    | null | bool _ | int _ | float _ | str _ | list _ => simp [Json.dict?, Json.hasKey, packetFields]

end

end ResultPacket

end HermesClaude.Parity
