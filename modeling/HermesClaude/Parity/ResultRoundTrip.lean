/-
# Stored packets

A packet comes back from its own document and from its file, up to the order of keys,
exactly when the hash of the document it came from is that of the document it writes, and
when that document fits in the file that the reader admits.
-/

import HermesClaude.Parity.ResultFields
import HermesClaude.Python.JsonRoundTrip
import HermesClaude.Python.JsonSize

namespace HermesClaude.Parity

open HermesClaude.Python HermesClaude.Library

/-! ## Events in order -/

/-- An event with its keys in order. -/
def sortEvent (event : Entries) : Entries := sortItems (Json.sortKeysItems event)

theorem sortKeys_of_isHashable {value : Json} (h : isHashable value = true) :
    value.sortKeys = value := by
  cases value with
  | list _ | dict _ => cases h
  | null | bool _ | int _ | float _ | str _ => rfl

theorem field_of_perm {entries entries' : Entries} (hperm : entries.Perm entries')
    (hunique : (entries.map Prod.fst).Nodup) (name : String) :
    entries.field name = entries'.field name := by
  rw [Entries.field, Entries.field, Json.key?_of_perm hperm hunique]

section Events

variable {index : Nat} {event : Entries}

theorem EventFits.perm {event' : Entries} (h : EventFits index event) (hperm : event.Perm event')
    (hunique : (event.map Prod.fst).Nodup) : EventFits index event' where
  known item hitem := h.known item (hperm.mem_iff.mpr hitem)
  sequence := by
    rw [← field_of_perm hperm hunique]
    exact h.sequence
  kind := by
    rw [← field_of_perm hperm hunique]
    exact h.kind
  status := by
    rw [← field_of_perm hperm hunique]
    exact h.status
  hashes item hitem := h.hashes item (hperm.mem_iff.mpr hitem)
  outcome := by
    rw [← field_of_perm hperm hunique, ← field_of_perm hperm hunique]
    exact h.outcome

/-- Sorting an event only moves its entries: none of them is a container. -/
theorem EventFits.sortEvent_perm (h : EventFits index event) (hunique : (event.map Prod.fst).Nodup) :
    event.Perm (sortEvent event) := by
  have hsame : Json.sortKeysItems event = event.map id := by
    rw [Json.sortKeysItems_eq]
    apply List.map_congr_left
    intro item hitem
    rw [sortKeys_of_isHashable (h.isHashable hunique item hitem)]
    rfl
  rw [sortEvent, hsame, List.map_id]
  exact (sortItems_perm event).symm

theorem EventsFit.sortEvent_perm {events : List Entries} (h : EventsFit index events)
    (hunique : ∀ event ∈ events, (event.map Prod.fst).Nodup) :
    ∀ event ∈ events, event.Perm (sortEvent event) := by
  induction events generalizing index with
  | nil => simp
  | cons event events ih =>
    obtain ⟨hfirst, hrest⟩ := List.forall_mem_cons.mp hunique
    rw [List.forall_mem_cons]
    exact ⟨h.1.sortEvent_perm hfirst, ih h.2 hrest⟩

theorem EventsFit.sortEvents {events : List Entries} (h : EventsFit index events)
    (hunique : ∀ event ∈ events, (event.map Prod.fst).Nodup) :
    EventsFit index (events.map sortEvent) := by
  induction events generalizing index with
  | nil => trivial
  | cons event events ih =>
    obtain ⟨hfirst, hrest⟩ := List.forall_mem_cons.mp hunique
    exact ⟨h.1.perm (h.1.sortEvent_perm hfirst) hfirst, ih h.2 hrest⟩

theorem isDouble_natCast {n : Nat} (h : n < 2 ^ 53) : IsDouble n := by
  refine ⟨n, 0, ?_, by omega, by omega, by simp⟩
  rw [abs_of_nonneg (Int.natCast_nonneg n)]
  exact_mod_cast h

/-- The only float of an event is a sequence number. -/
theorem EventFits.hasDoubles (h : EventFits index event) (hunique : (event.map Prod.fst).Nodup)
    (hindex : index + 1 < 2 ^ 53) : Json.HasDoublesItems event := by
  rw [Json.hasDoublesItems_iff]
  rintro ⟨key, value⟩ hitem
  have hhashable := h.isHashable hunique _ hitem
  cases value with
  | list _ | dict _ => cases hhashable
  | null | bool _ | int _ | str _ => trivial
  | float q =>
    have hfield : ∀ name, key = lit name → event.field name = .float q := by
      rintro name rfl
      exact field_eq_of_mem hunique hitem
    rcases List.mem_append.mp (h.known _ hitem) with hkey | hkey
    · simp only [List.mem_cons, List.not_mem_nil, or_false] at hkey
      rcases hkey with hkey | hkey | hkey | hkey
      · have hsequence := h.sequence
        rw [hfield _ hkey] at hsequence
        have hq : (((index : Int) + 1 : Int) : Rat) = q := by
          simpa [Json.pyEq, Json.number?] using hsequence
        have hdouble := isDouble_natCast hindex
        rw [← hq]
        exact_mod_cast hdouble
      · have hkind := h.kind
        rw [hfield _ hkey] at hkind
        cases hkind
      · obtain ⟨status, hstatus⟩ := h.status
        rw [hfield _ hkey] at hstatus
        cases status <;> cases hstatus
      · have houtcome := h.outcome
        rw [hfield _ hkey] at houtcome
        split at houtcome
        · cases houtcome
        · cases houtcome
    · obtain ⟨digest, hdigest⟩ := h.hashes _ hitem hkey
      cases hdigest

theorem EventsFit.hasDoubles {events : List Entries} (h : EventsFit index events)
    (hunique : ∀ event ∈ events, (event.map Prod.fst).Nodup)
    (hindex : index + events.length < 2 ^ 53) : ∀ event ∈ events, Json.HasDoublesItems event := by
  induction events generalizing index with
  | nil => simp
  | cons event events ih =>
    obtain ⟨hfirst, hrest⟩ := List.forall_mem_cons.mp hunique
    rw [List.length_cons] at hindex
    rw [List.forall_mem_cons]
    exact ⟨h.1.hasDoubles hfirst (by omega), ih h.2 hrest (by omega)⟩

end Events

namespace ResultPacket

/-- A packet with the keys of its events in order. -/
def sortEvents (packet : ResultPacket) : ResultPacket :=
  { packet with normalizedEvents := packet.normalizedEvents.map sortEvent }

theorem checkTerminal_map {f : Entries → Entries} {events : List Entries}
    (h : ∀ event ∈ events, (f event).field "terminal_outcome" = event.field "terminal_outcome")
    (classification : ExecutionClassification) :
    checkTerminal classification (events.map f) = checkTerminal classification events := by
  cases events with
  | nil => rfl
  | cons event events =>
    have hevent := h event List.mem_cons_self
    unfold checkTerminal
    simp only [List.map_cons, List.head?_cons, Option.any_some, hevent, List.isEmpty_cons,
      List.length_cons, List.length_map]

section

variable {floats : FloatText} {packet : ResultPacket}

theorem checkTerminal_sortEvents (hvalid : packet.Valid floats)
    (hunique : ∀ event ∈ packet.normalizedEvents, (event.map Prod.fst).Nodup) :
    checkTerminal packet.classification ((packet.normalizedEvents.map sortEvent).filter isTerminal) =
      .ok () := by
  have hperm := hvalid.events.sortEvent_perm hunique
  have hfield : ∀ event ∈ packet.normalizedEvents, ∀ name,
      (sortEvent event).field name = event.field name := by
    intro event hevent name
    exact (field_of_perm (hperm event hevent) (hunique event hevent) name).symm
  have hfilter : (packet.normalizedEvents.map sortEvent).filter isTerminal =
      (packet.normalizedEvents.filter isTerminal).map sortEvent := by
    rw [List.filter_map]
    congr 1
    apply List.filter_congr
    intro event hevent
    rw [Function.comp, isTerminal, hfield event hevent, isTerminal]
  rw [hfilter, checkTerminal_map]
  · exact hvalid.terminal
  · intro event hevent
    exact hfield event (List.mem_of_mem_filter hevent) "terminal_outcome"

theorem events_unique {entries : Entries} {schemaVersion : Json}
    (hperm : entries.Perm (packet.entriesWith schemaVersion))
    (hunique : Json.UniqueKeysItems entries) :
    (Json.list (packet.normalizedEvents.map .dict)).UniqueKeys := by
  have hmem : (lit "normalized_events", Json.list (packet.normalizedEvents.map .dict)) ∈ entries := by
    apply hperm.mem_iff.mpr
    simp [entriesWith, fields]
  exact (Json.uniqueKeysItems_iff entries).mp hunique _ hmem

theorem event_unique (h : (Json.list (packet.normalizedEvents.map .dict)).UniqueKeys) :
    ∀ event ∈ packet.normalizedEvents, (event.map Prod.fst).Nodup := by
  rw [Json.UniqueKeys, Json.uniqueKeysList_iff, List.forall_mem_map] at h
  intro event hevent
  exact (h event hevent).1

theorem sortKeys_events :
    (Json.list (packet.normalizedEvents.map .dict)).sortKeys =
      .list ((packet.normalizedEvents.map sortEvent).map .dict) := by
  rw [Json.sortKeys, Json.sortKeysList_eq, List.map_map, List.map_map]
  rfl

theorem Valid.sortEvents (h : packet.Valid floats)
    (hunique : (Json.list (packet.normalizedEvents.map .dict)).UniqueKeys) :
    packet.sortEvents.Valid floats where
  billing := h.billing
  turnCount := h.turnCount
  trialIndex := h.trialIndex
  count := by
    rw [ResultPacket.sortEvents, List.length_map]
    exact h.count
  events := h.events.sortEvents (event_unique hunique)
  terminal := checkTerminal_sortEvents h (event_unique hunique)
  proofs := h.proofs
  trace := by
    rw [ResultPacket.sortEvents, ← sortKeys_events, sha256Value_sortKeys floats hunique]
    exact h.trace
  candidate := h.candidate

/-- Sorting the keys of a document sorts those of the events. -/
theorem sortKeysItems_entriesWith {schemaVersion : Json} (h : isHashable schemaVersion = true) :
    Json.sortKeysItems (packet.entriesWith schemaVersion) =
      packet.sortEvents.entriesWith schemaVersion := by
  have hevents : Json.sortKeysList (packet.normalizedEvents.map .dict) =
      (packet.normalizedEvents.map sortEvent).map .dict := Json.list.inj sortKeys_events
  have hoptional : ∀ {valid : PyStr → Bool} (text : Option { text : PyStr // valid text = true }),
      (ofOptional text).sortKeys = ofOptional text :=
    fun text => sortKeys_of_isHashable (isHashable_ofOptional text)
  rw [Json.sortKeysItems_eq]
  simp only [entriesWith, fields, ResultPacket.sortEvents, List.map_cons, List.map_nil,
    sortKeys_of_isHashable h, hevents, hoptional, Json.sortKeys, Json.sortKeysList]

/-! ## Documents with the entries of a packet -/

/-- What is left without the hash is in the same order. -/
theorem withoutHash_perm {entries entries' : Entries} (h : entries.Perm entries') :
    entries.withoutHash.Perm entries'.withoutHash := h.filter _

theorem withoutHash_nodup {entries : Entries} (h : (entries.map Prod.fst).Nodup) :
    (entries.withoutHash.map Prod.fst).Nodup :=
  (List.filter_sublist.map Prod.fst).nodup h

/-- A document with the entries of a valid packet is decoded to it if the hash is right. -/
theorem decodes_of_perm {entries : Entries} {schemaVersion : Json} (hvalid : packet.Valid floats)
    (hperm : entries.Perm (packet.entriesWith schemaVersion))
    (hschema : Json.pyEq schemaVersion (.int 1) = true)
    (hcontent : sha256Value floats (.dict entries.withoutHash) = some packet.packetHash) :
    Decodes floats entries packet := by
  have hunique : (entries.map Prod.fst).Nodup := by
    rw [(hperm.map Prod.fst).nodup_iff, entriesWith_keys]
    exact packetFields_nodup
  have hfield : ∀ field ∈ ("schema_version", schemaVersion) :: packet.fields,
      entries.field field.1 = field.2 := by
    intro field hfield
    exact field_eq_of_mem hunique (hperm.mem_iff.mpr (List.mem_map_of_mem hfield))
  obtain ⟨hversion, hfields⟩ := List.forall_mem_cons.mp hfield
  refine ⟨?_, hfields, hvalid, hcontent⟩
  rw [hversion]
  exact hschema

/-- The hash that a document holds is that of any packet with its entries. -/
theorem packetHash_eq {entries : Entries} {schemaVersion : Json}
    (hperm : entries.Perm (packet.entriesWith schemaVersion)) {packet' : ResultPacket}
    (h : Decodes floats entries packet') : packet'.packetHash.val = packet.packetHash.val := by
  have hunique : (entries.map Prod.fst).Nodup := by
    rw [(hperm.map Prod.fst).nodup_iff, entriesWith_keys]
    exact packetFields_nodup
  have hhash : ∀ packet : ResultPacket, ("packet_hash", .str packet.packetHash.val) ∈ packet.fields := by
    intro packet
    simp [fields]
  have hmem : (lit "packet_hash", Json.str packet.packetHash.val) ∈ entries := by
    apply hperm.mem_iff.mpr
    exact List.mem_map_of_mem (f := fun field : String × Json => (lit field.1, field.2))
      (List.mem_cons_of_mem _ (hhash packet))
  have hread := h.fields _ (hhash packet')
  rw [field_eq_of_mem hunique hmem] at hread
  exact (Json.str.inj hread).symm

/-- Reading a document of plain JSON with the entries of a packet. -/
theorem fromDict_toValue {entries : Entries} {schemaVersion : Json}
    (hunique : (Json.dict entries).UniqueKeys)
    (hperm : entries.Perm (packet.entriesWith schemaVersion)) {packet' : ResultPacket} :
    fromDict floats (Json.dict entries).toValue = .ok packet' ↔ Decodes floats entries packet' := by
  rw [fromDict_eq_ok, jsonCompatible_toValue hunique]
  constructor
  · rintro ⟨_, hentries, -, hdecodes⟩
    cases hentries
    exact hdecodes
  · intro hdecodes
    refine ⟨entries, rfl, ?_, hdecodes⟩
    rw [← entriesWith_keys schemaVersion packet]
    exact hperm.map Prod.fst

/-- The document of a packet has no key twice. -/
theorem toEntries_unique (h : (Json.list (packet.normalizedEvents.map .dict)).UniqueKeys) :
    (Json.dict packet.toEntries).UniqueKeys := by
  have hoptional : ∀ {valid : PyStr → Bool} (text : Option { text : PyStr // valid text = true }),
      (ofOptional text).UniqueKeys := by
    intro valid text
    cases text <;> trivial
  constructor
  · rw [toEntries, entriesWith_keys]
    exact packetFields_nodup
  · simp only [toEntries, entriesWith, fields, List.map_cons, List.map_nil, Json.UniqueKeysItems,
      hoptional, Json.UniqueKeys, Json.UniqueKeysList, and_self, and_true, true_and]
    exact h

theorem toEntries_hasDoubles (hvalid : packet.Valid floats)
    (h : (Json.list (packet.normalizedEvents.map .dict)).UniqueKeys) :
    (Json.dict packet.toEntries).HasDoubles := by
  have hoptional : ∀ {valid : PyStr → Bool} (text : Option { text : PyStr // valid text = true }),
      (ofOptional text).HasDoubles := by
    intro valid text
    cases text <;> trivial
  have hcount : 0 + packet.normalizedEvents.length < 2 ^ 53 := by
    have hbound := hvalid.count
    rw [maxNormalizedEvents] at hbound
    omega
  have hevents : (Json.list (packet.normalizedEvents.map .dict)).HasDoubles := by
    rw [Json.HasDoubles, Json.hasDoublesList_iff, List.forall_mem_map]
    exact hvalid.events.hasDoubles (event_unique h) hcount
  simp only [toEntries, entriesWith, fields, List.map_cons, List.map_nil, Json.HasDoubles,
    Json.HasDoublesItems, hoptional, Json.HasDoublesList, and_self, and_true, true_and]
  exact hevents

/-- A packet comes back from its own document if the hash is that of this document. -/
theorem fromDict_toDict (hvalid : packet.Valid floats)
    (h : (Json.list (packet.normalizedEvents.map .dict)).UniqueKeys) :
    fromDict floats packet.toDict = .ok packet ↔
      sha256Value floats (.dict packet.toEntries.withoutHash) = some packet.packetHash := by
  have hperm : packet.toEntries.Perm (packet.entriesWith (.int 1)) := .refl _
  rw [toDict, fromDict_toValue (toEntries_unique h) hperm]
  constructor
  · intro hdecodes
    exact hdecodes.content
  · intro hcontent
    have hone : Json.pyEq (.int 1) (.int 1) = true := by simp [Json.pyEq, Json.number?]
    exact decodes_of_perm hvalid hperm hone hcontent

end

end ResultPacket

/-! ## Files -/

theorem fileEncoder_lawful (floats : FloatText) : (fileEncoder floats).Lawful :=
  ⟨[0x20], (by decide : lit ": " = [0x3A, 0x20]), List.all_eq_true.mp (by decide)⟩

theorem foldl_setPair {result fields : List (PyStr × PyValue)}
    (h : ((result ++ fields).map Prod.fst).Nodup) : fields.foldl setPair result = result ++ fields := by
  induction fields generalizing result with
  | nil => rw [List.foldl_nil, List.append_nil]
  | cons field fields ih =>
    have hfresh : result.any (fun item => item.1 == field.1) = false := by
      rw [List.any_eq_false]
      intro item hitem hkey
      rw [List.map_append, List.map_cons] at h
      exact (List.nodup_append.mp h).2.2 item.1 (List.mem_map_of_mem hitem) field.1
        List.mem_cons_self (by simpa using hkey)
    have hset : setPair result field = result ++ [field] := by
      rw [setPair, hfresh]
      rfl
    rw [List.foldl_cons, hset, ih]
    · simp
    · simpa using h

theorem defaultDecoder_lawful (floats : FloatText) : (defaultDecoder floats).Lawful := by
  intro fields h
  have hfields : fields.foldl setPair [] = fields := foldl_setPair h
  simp only [defaultDecoder, hfields]

/-- A text without carriage returns is read as it is. -/
theorem universalNewlines_of_printable {text : PyStr} (h : JSONEncoder.Printable text) :
    universalNewlines text = text := by
  fun_induction universalNewlines text with
  | case1 => rfl
  | case2 rest ih =>
    have hreturn := h 0x0D List.mem_cons_self
    exact absurd hreturn (by decide)
  | case3 c rest hpair ih =>
    obtain ⟨hc, hrest⟩ := List.forall_mem_cons.mp h
    have hne : c ≠ 0x0D := by
      rintro rfl
      revert hc
      decide
    rw [if_neg hne, ih hrest]

/-- A file has one byte more than its document. -/
theorem fileBytes_length (floats : FloatText) (value : Json) :
    (fileBytes floats value).map List.length = ((fileEncoder floats).size 0 value).map (· + 1) := by
  have hline : utf8Size [0x0A] = some 1 := by decide
  rw [fileBytes, Option.map_bind, ← JSONEncoder.utf8Size_encode, Option.map_bind]
  congr 1
  funext text
  rw [Function.comp, Function.comp, encodeUtf8_length, utf8Size_append, hline]
  cases utf8Size text <;> rfl

/-- What is read of a file is the document with its keys in order. -/
theorem readFile_fileBytes {floats : FloatText} {value : Json} {data : Bytes}
    (hdoubles : value.HasDoubles) (hunique : value.UniqueKeys)
    (hdata : fileBytes floats value = some data) :
    readFile floats data = some value.sortKeys.toValue := by
  rw [fileBytes, Option.bind_eq_some_iff] at hdata
  obtain ⟨text, htext, hdata⟩ := hdata
  have hseparator : JSONEncoder.Printable (fileEncoder floats).keySeparator :=
    JSONEncoder.printable_of_all (by decide : (lit ": ").all _ = true)
  have hspaces : ∀ c ∈ ([0x0A] : PyStr), c.isJsonSpace = true := List.all_eq_true.mp (by decide)
  have hprintable : JSONEncoder.Printable (text ++ [0x0A]) :=
    (JSONEncoder.printable_encode hseparator hdoubles htext).append
      (JSONEncoder.printable_of_all (by decide))
  have hloads : (defaultDecoder floats).loads (text ++ [0x0A]) = some value.sortKeys.toValue :=
    JSONDecoder.loads_dumps (fileEncoder_lawful floats) (defaultDecoder_lawful floats) rfl hdoubles
      hunique htext hspaces
  rw [readFile, decodeUtf8_encodeUtf8 hdata false, Option.bind_some,
    universalNewlines_of_printable hprintable, hloads]

namespace ResultPacket

section

variable {floats : FloatText} {packet : ResultPacket}

/-- What is read of the file of a packet, where it is not too large. -/
theorem readResultPacket_write (hvalid : packet.Valid floats)
    (h : (Json.list (packet.normalizedEvents.map .dict)).UniqueKeys) {data : Bytes}
    (hdata : packet.write floats = some data) (path : PyStr) :
    readResultPacket floats path (some data) =
      if data.length > maxPacketBytes then
        .error (.violation (lit "result packet exceeds the bounded file size"))
      else fromDict floats (Json.dict packet.toEntries).sortKeys.toValue := by
  rw [readResultPacket,
    readFile_fileBytes (toEntries_hasDoubles hvalid h) (toEntries_unique h) hdata]

/-- The sorted document of a packet is the document of the sorted packet. -/
theorem sortKeysItems_toEntries (packet : ResultPacket) :
    Json.sortKeysItems packet.toEntries = packet.sortEvents.toEntries :=
  sortKeysItems_entriesWith rfl

theorem withoutHash_sortKeysItems (entries : Entries) :
    Entries.withoutHash (Json.sortKeysItems entries) = Json.sortKeysItems entries.withoutHash := by
  rw [Json.sortKeysItems_eq, Json.sortKeysItems_eq, Entries.withoutHash, Entries.withoutHash,
    List.filter_map]
  rfl

/-- Sorting a document does not change its hash. -/
theorem sha256Value_withoutHash {entries sorted : Entries} (hunique : (Json.dict entries).UniqueKeys)
    (hsorted : sorted.Perm (Json.sortKeysItems entries)) :
    sha256Value floats (.dict sorted.withoutHash) = sha256Value floats (.dict entries.withoutHash) := by
  have hrest : (Json.dict entries.withoutHash).UniqueKeys := by
    refine ⟨withoutHash_nodup hunique.1, ?_⟩
    rw [Json.uniqueKeysItems_iff]
    intro item hitem
    exact (Json.uniqueKeysItems_iff entries).mp hunique.2 item (List.mem_of_mem_filter hitem)
  have hperm : sorted.withoutHash.Perm (sortItems (Json.sortKeysItems entries.withoutHash)) := by
    rw [← withoutHash_sortKeysItems]
    exact (withoutHash_perm hsorted).trans (sortItems_perm _).symm
  have hnodup : (sorted.withoutHash.map Prod.fst).Nodup := by
    apply withoutHash_nodup
    rw [(hsorted.map Prod.fst).nodup_iff, Json.sortKeysItems_keys]
    exact hunique.1
  rw [sha256Value_dict_of_perm floats hperm hnodup, ← sha256Value_sortKeys floats hrest]
  rfl

/-- A packet equals itself with the keys of its events in order. -/
theorem sortEvents_pyEq (h : (Json.list (packet.normalizedEvents.map .dict)).UniqueKeys) :
    packet.sortEvents.pyEq packet := by
  refine ⟨rfl, ?_⟩
  have hitems := Json.pyEqList_map (Json.pyEq_sortKeysList h)
  rw [List.map_map] at hitems
  rw [ResultPacket.sortEvents, List.map_map]
  exact hitems

/-- What survives storage: the packet comes back from its document and, up to the order of
keys, from its file. -/
structure SurvivesStorage (floats : FloatText) (path : PyStr) (packet : ResultPacket) : Prop where
  document : fromDict floats packet.toDict = .ok packet
  file : ∃ data stored, packet.write floats = some data ∧
    readResultPacket floats path (some data) = .ok stored ∧ stored.pyEq packet

/-- The file of a packet is read as the packet, with the keys of its events in order. -/
theorem readResultPacket_stored (hvalid : packet.Valid floats)
    (h : (Json.list (packet.normalizedEvents.map .dict)).UniqueKeys)
    (hcontent : sha256Value floats (.dict packet.toEntries.withoutHash) = some packet.packetHash)
    {data : Bytes} (hdata : packet.write floats = some data) (hsize : data.length ≤ maxPacketBytes)
    (path : PyStr) : readResultPacket floats path (some data) = .ok packet.sortEvents := by
  have hsorted := sortItems_perm (Json.sortKeysItems packet.toEntries)
  have hperm : (sortItems (Json.sortKeysItems packet.toEntries)).Perm
      (packet.sortEvents.entriesWith (.int 1)) := by
    rw [sortKeysItems_toEntries]
    exact sortItems_perm _
  have hone : Json.pyEq (.int 1) (.int 1) = true := by simp [Json.pyEq, Json.number?]
  rw [readResultPacket_write hvalid h hdata, if_neg (by omega), Json.sortKeys,
    fromDict_toValue (Json.uniqueKeys_sortKeys (toEntries_unique h)) hperm]
  apply decodes_of_perm (hvalid.sortEvents h) hperm hone
  rw [sha256Value_withoutHash (toEntries_unique h) hsorted]
  exact hcontent

/-- A packet survives storage if the hash is that of its document and the file fits. -/
theorem survivesStorage_iff (hvalid : packet.Valid floats)
    (h : (Json.list (packet.normalizedEvents.map .dict)).UniqueKeys) (path : PyStr) :
    SurvivesStorage floats path packet ↔
      sha256Value floats (.dict packet.toEntries.withoutHash) = some packet.packetHash ∧
        ∃ size, (fileEncoder floats).size 0 (.dict packet.toEntries) = some size ∧
          size + 1 ≤ maxPacketBytes := by
  have hlength := fileBytes_length floats (.dict packet.toEntries)
  constructor
  · rintro ⟨hdocument, data, stored, hdata, hread, -⟩
    refine ⟨(fromDict_toDict hvalid h).mp hdocument, ?_⟩
    rw [readResultPacket_write hvalid h hdata] at hread
    rw [ResultPacket.write] at hdata
    rw [hdata, Option.map_some] at hlength
    obtain ⟨size, hsize, hbytes⟩ := Option.map_eq_some_iff.mp hlength.symm
    refine ⟨size, hsize, ?_⟩
    by_contra hlarge
    rw [if_pos (by omega)] at hread
    cases hread
  · rintro ⟨hcontent, size, hsize, hfits⟩
    refine ⟨(fromDict_toDict hvalid h).mpr hcontent, ?_⟩
    rw [hsize, Option.map_some] at hlength
    obtain ⟨data, hdata, hbytes⟩ := Option.map_eq_some_iff.mp hlength
    exact ⟨data, packet.sortEvents, hdata, readResultPacket_stored hvalid h hcontent hdata (by omega) path,
      sortEvents_pyEq h⟩

end

end ResultPacket

/-! ## Accepted documents -/

/-- The entries of a document with `1` for the schema version. -/
def Entries.stored (entries : Entries) : Entries :=
  Json.setItem entries (lit "schema_version") (.int 1)

namespace ResultPacket

section

variable {floats : FloatText} {packet : ResultPacket}

/-- The document of a packet is the accepted one with `1` for the schema version. -/
theorem stored_perm {entries : Entries} {schemaVersion : Json}
    (hperm : entries.Perm (packet.entriesWith schemaVersion)) :
    entries.stored.Perm packet.toEntries := by
  have hhas : Json.hasKey entries (lit "schema_version") = true := by
    rw [Json.hasKey, List.any_eq_true]
    exact ⟨(lit "schema_version", schemaVersion), hperm.mem_iff.mpr List.mem_cons_self, by simp⟩
  have hnodup := packetFields_nodup
  rw [← entriesWith_keys schemaVersion packet, entriesWith, List.map_cons, List.map_cons,
    List.nodup_cons] at hnodup
  dsimp only at hnodup
  have hmap := hperm.map fun item =>
    if item.1 = lit "schema_version" then (lit "schema_version", .int 1) else item
  rw [Entries.stored, Json.setItem, if_pos hhas]
  refine hmap.trans (.of_eq ?_)
  rw [entriesWith, List.map_cons, List.map_cons, if_pos rfl, toEntries, entriesWith, List.map_cons]
  congr 1
  conv_rhs => rw [← List.map_id (List.map _ _)]
  apply List.map_congr_left
  intro item hitem
  rw [if_neg]
  · rfl
  · intro hkey
    have hmem := List.mem_map_of_mem (f := Prod.fst) hitem
    rw [hkey] at hmem
    exact absurd hmem hnodup.1

/-- What an accepted document is, in terms of its packet. -/
theorem exists_source {document : PyValue} (h : fromDict floats document = .ok packet) :
    ∃ entries : Entries, jsonCompatible document = some (.dict entries) ∧ (Json.dict entries).UniqueKeys ∧
      entries.Perm (packet.entriesWith (entries.field "schema_version")) ∧
        Decodes floats entries packet := by
  obtain ⟨entries, hcopy, hkeys, hdecodes⟩ := fromDict_eq_ok.mp h
  exact ⟨entries, hcopy, uniqueKeys_of_jsonCompatible hcopy, hdecodes.perm hkeys, hdecodes⟩

/-- The hash of a document is that of the document with `1` for the schema version. -/
def KeepsHash (floats : FloatText) (document : PyValue) : Prop :=
  ∃ entries : Entries, jsonCompatible document = some (.dict entries) ∧
    sha256Value floats (.dict entries.stored.withoutHash) =
      sha256Value floats (.dict entries.withoutHash)

/-- A document with `1` for the schema version, indented and ended by a line feed, is no
larger than the reader admits. -/
def FitsFile (floats : FloatText) (document : PyValue) : Prop :=
  ∃ (entries : Entries) (size : Nat), jsonCompatible document = some (.dict entries) ∧
    (fileEncoder floats).size 0 (.dict entries.stored) = some size ∧ size + 1 ≤ maxPacketBytes

theorem size_of_perm {entries entries' : Entries} (hperm : entries.Perm entries')
    (hunique : (entries.map Prod.fst).Nodup) :
    (fileEncoder floats).size 0 (.dict entries) = (fileEncoder floats).size 0 (.dict entries') := by
  rw [← JSONEncoder.utf8Size_encode, ← JSONEncoder.utf8Size_encode,
    JSONEncoder.encode_dict_of_perm hperm hunique]

/-- An accepted document keeps its hash if it is the hash of the document of its packet. -/
theorem keepsHash_iff {document : PyValue} (h : fromDict floats document = .ok packet) :
    KeepsHash floats document ↔
      sha256Value floats (.dict packet.toEntries.withoutHash) = some packet.packetHash := by
  obtain ⟨entries, hcopy, hunique, hperm, hdecodes⟩ := exists_source h
  have hhash : sha256Value floats (.dict entries.stored.withoutHash) =
      sha256Value floats (.dict packet.toEntries.withoutHash) :=
    sha256Value_dict_of_perm floats (withoutHash_perm (stored_perm hperm))
      (withoutHash_nodup (Json.setItem_nodup hunique.1 _ _))
  rw [← hhash, ← hdecodes.content]
  constructor
  · rintro ⟨copy, hcopy', hsame⟩
    rw [hcopy] at hcopy'
    cases hcopy'
    exact hsame
  · intro hsame
    exact ⟨entries, hcopy, hsame⟩

/-- An accepted document fits if the document of its packet does. -/
theorem fitsFile_iff {document : PyValue} (h : fromDict floats document = .ok packet) :
    FitsFile floats document ↔
      ∃ size, (fileEncoder floats).size 0 (.dict packet.toEntries) = some size ∧
        size + 1 ≤ maxPacketBytes := by
  obtain ⟨entries, hcopy, hunique, hperm, -⟩ := exists_source h
  rw [← size_of_perm (stored_perm hperm) (Json.setItem_nodup hunique.1 _ _)]
  constructor
  · rintro ⟨copy, size, hcopy', hsize, hfits⟩
    rw [hcopy] at hcopy'
    cases hcopy'
    exact ⟨size, hsize, hfits⟩
  · rintro ⟨size, hsize, hfits⟩
    exact ⟨entries, size, hcopy, hsize, hfits⟩

/-- The events of a decoded packet have no key twice. -/
theorem unique_of_fromDict {document : PyValue} (h : fromDict floats document = .ok packet) :
    (Json.list (packet.normalizedEvents.map .dict)).UniqueKeys := by
  obtain ⟨entries, -, hunique, hperm, -⟩ := exists_source h
  exact events_unique hperm hunique.2

theorem valid_of_fromDict {document : PyValue} (h : fromDict floats document = .ok packet) :
    packet.Valid floats := by
  obtain ⟨entries, -, -, -, hdecodes⟩ := exists_source h
  exact hdecodes.valid

/-- A packet survives storage if the document that it comes from keeps its hash and fits. -/
theorem survivesStorage_of_document {document : PyValue} (h : fromDict floats document = .ok packet)
    (path : PyStr) :
    SurvivesStorage floats path packet ↔ KeepsHash floats document ∧ FitsFile floats document := by
  rw [survivesStorage_iff (valid_of_fromDict h) (unique_of_fromDict h) path, keepsHash_iff h,
    fitsFile_iff h]

/-- Only a schema version that is not the integer `1` can change the hash. -/
theorem keepsHash_of_schemaVersion {document : PyValue} (h : fromDict floats document = .ok packet)
    (hschema : ∀ entries : Entries, jsonCompatible document = some (.dict entries) →
      entries.field "schema_version" = .int 1) : KeepsHash floats document := by
  obtain ⟨entries, hcopy, hunique, hperm, -⟩ := exists_source h
  have hstored := stored_perm hperm
  rw [hschema entries hcopy] at hperm
  refine ⟨entries, hcopy, ?_⟩
  apply sha256Value_dict_of_perm floats (withoutHash_perm (hstored.trans hperm.symm))
  exact withoutHash_nodup (Json.setItem_nodup hunique.1 _ _)

end

/-! ## Built packets -/

/-- The schema version of the document that is decoded is the integer `1`. -/
theorem build_schemaVersion {floats : FloatText} {args : BuildArguments} {packet : ResultPacket}
    (h : build floats args = .ok packet) :
    ∃ document, fromDict floats document = .ok packet ∧
      ∀ entries : Entries, jsonCompatible document = some (.dict entries) →
        entries.field "schema_version" = .int 1 := by
  unfold build at h
  simp only [bind_eq_ok] at h
  obtain ⟨identity, -, classification, -, trace, -, content, -, hdocument⟩ := h
  refine ⟨_, hdocument, ?_⟩
  intro entries hcopy
  rw [dictOf, BuildArguments.fields, List.cons_append, List.map_cons, jsonCompatible,
    Option.map_eq_some_iff] at hcopy
  obtain ⟨copies, hcopies, hsame⟩ := hcopy
  cases hsame
  rw [jsonCompatibleItems, jsonCompatible, Option.bind_some] at hcopies
  have hkey : Json.key? entries (lit "schema_version") =
      Json.key? [(lit "schema_version", .int 1)] (lit "schema_version") := by
    apply key?_of_jsonCompatibleItems hcopies
    simp only [List.cons_append, List.nil_append, List.map_cons, List.map_nil, List.forall_mem_cons,
      List.not_mem_nil, false_imp_iff, implies_true, and_true]
    and_intros
    all_goals
      rw [PyValue.isText, beq_eq_false_iff_ne]
      decide
  rw [Entries.field, hkey]
  rfl

/-- The hash of a packet that is built is that of its document. -/
theorem content_of_build {floats : FloatText} {args : BuildArguments} {packet : ResultPacket}
    (h : build floats args = .ok packet) :
    sha256Value floats (.dict packet.toEntries.withoutHash) = some packet.packetHash := by
  obtain ⟨document, hdocument, hschema⟩ := build_schemaVersion h
  rw [← keepsHash_iff hdocument]
  exact keepsHash_of_schemaVersion hdocument hschema

/-- The file of a packet that is built is read as the packet, where it fits. -/
theorem readResultPacket_build {floats : FloatText} {args : BuildArguments} {packet : ResultPacket}
    (h : build floats args = .ok packet) {data : Bytes} (hdata : packet.write floats = some data)
    (hsize : data.length ≤ maxPacketBytes) (path : PyStr) :
    readResultPacket floats path (some data) = .ok packet.sortEvents := by
  obtain ⟨document, hdocument, -⟩ := build_schemaVersion h
  exact readResultPacket_stored (valid_of_fromDict hdocument) (unique_of_fromDict hdocument)
    (content_of_build h) hdata hsize path

/-- Packets survive storage, and exactly these: the hash of the accepted document is that of
the document with the integer `1` for its schema version, and this one fits in a file.  The
packets that `build` returns come back from their documents, and from their files where
they fit. -/
theorem packets_survive_storage (floats : FloatText) (path : PyStr) :
    (∀ document packet, fromDict floats document = .ok packet →
      (SurvivesStorage floats path packet ↔
        KeepsHash floats document ∧ FitsFile floats document)) ∧
    ∀ args packet, build floats args = .ok packet →
      fromDict floats packet.toDict = .ok packet ∧
        (SurvivesStorage floats path packet ↔ FitsFile floats packet.toDict) := by
  refine ⟨fun document packet h => survivesStorage_of_document h path, ?_⟩
  intro args packet hbuild
  obtain ⟨document, h, hschema⟩ := build_schemaVersion hbuild
  have hdict : fromDict floats packet.toDict = .ok packet := by
    rw [fromDict_toDict (valid_of_fromDict h) (unique_of_fromDict h)]
    exact content_of_build hbuild
  refine ⟨hdict, ?_⟩
  rw [survivesStorage_of_document hdict path]
  apply and_iff_right
  apply keepsHash_of_schemaVersion hdict
  intro entries hcopy
  have hunique := toEntries_unique (unique_of_fromDict h)
  rw [toDict, jsonCompatible_toValue hunique] at hcopy
  cases hcopy
  exact field_eq_of_mem hunique.1 List.mem_cons_self

/-- The hash of the document below. -/
def pendingHash : PyStr := lit "eff02d82c00604199334c534f3729a491a1249314ed013c6cf049e34d9aa7063"

/-- A document in which `True` stands for the schema version. -/
def pendingDocument : PyValue :=
  dictOf [
    ("schema_version", .bool true),
    ("capability_id", .str (lit "cap")),
    ("source_pack", .str (lit "pack")),
    ("lane", .str (lit "rc")),
    ("path", .str (lit "positive")),
    ("execution_id", .str (lit "run")),
    ("classification", .str (lit "PENDING")),
    ("contract_hash", .str (List.replicate 64 0x66)),
    ("catalog_hash", .str (List.replicate 64 0x61)),
    ("plugin_sha", .str (List.replicate 40 0x62)),
    ("host_sha", .str (List.replicate 40 0x63)),
    ("sdk_version", .str (lit "1")),
    ("profile_id", .str (lit "profile")),
    ("profile_hash", .str (List.replicate 64 0x64)),
    ("runner_version", .str (lit "1")),
    ("inventory_hash", .str (List.replicate 64 0x65)),
    ("candidate_hash",
      .str (lit "39991b74f4b00447baa5ffb159da8acb872b5eeacaa48c158debd1dd09fbf126")),
    ("billing_classification", .str (lit "none")),
    ("turn_count", .int 0),
    ("trial_index", .int 1),
    ("normalized_events", .list []),
    ("trace_hash", .str (lit "4f53cda18c2baa0c0354bb5f9a3ecbe5ed12ab4d8e11ba873c2f11161202b945")),
    ("primary_proof_hash", .none),
    ("secondary_proof_hash", .none),
    ("silent_fallback", .bool false),
    ("invariant_violations", .list []),
    ("reason_code", .none),
    ("packet_hash", .str (lit "eff02d82c00604199334c534f3729a491a1249314ed013c6cf049e34d9aa7063"))]

/-- The document is accepted, and with `1` for the schema version it has another hash. -/
theorem pendingDocument_evaluated :
    ((fromDict exactFloatText pendingDocument).toOption.any fun packet =>
      packet.packetHash.val = pendingHash) = true ∧
    (((jsonCompatible pendingDocument).bind Json.dict?).any fun entries =>
      (sha256Value exactFloatText (.dict (Entries.stored entries).withoutHash)).all fun hash =>
        hash ≠ pendingHash) = true := by
  constructor
  all_goals decide +kernel

theorem exists_pendingPacket : ∃ packet, fromDict exactFloatText pendingDocument = .ok packet ∧
    packet.packetHash.val = pendingHash := by
  have haccepted := pendingDocument_evaluated.1
  cases hpacket : fromDict exactFloatText pendingDocument with
  | error violation =>
    rw [hpacket] at haccepted
    cases haccepted
  | ok packet =>
    rw [hpacket] at haccepted
    exact ⟨packet, rfl, of_decide_eq_true haccepted⟩

/-- The document does not keep its hash. -/
theorem pendingDocument_changes {packet : ResultPacket}
    (h : fromDict exactFloatText pendingDocument = .ok packet)
    (hhash : packet.packetHash.val = pendingHash) : ¬KeepsHash exactFloatText pendingDocument := by
  rintro ⟨entries, hcopy, hsame⟩
  obtain ⟨entries', hcopy', -, -, hdecodes⟩ := exists_source h
  rw [hcopy] at hcopy'
  cases hcopy'
  have hother := pendingDocument_evaluated.2
  rw [hcopy, Option.bind_some, Json.dict?, Option.any_some, hsame, hdecodes.content] at hother
  have hdiffers : decide (packet.packetHash.val ≠ pendingHash) = true := hother
  exact of_decide_eq_true hdiffers hhash

theorem pending_packet_survives_storage_iff : ∃ packet,
    fromDict exactFloatText pendingDocument = .ok packet ∧
      (SurvivesStorage exactFloatText (lit "packet.json") packet ↔
        KeepsHash exactFloatText pendingDocument ∧ FitsFile exactFloatText pendingDocument) := by
  obtain ⟨packet, hpacket, -⟩ := exists_pendingPacket
  exact ⟨packet, hpacket,
    (packets_survive_storage exactFloatText (lit "packet.json")).1 pendingDocument packet hpacket⟩

/-- A packet decoded from a schema version of `True` does not come back from its document. -/
theorem packet_lost : ∃ packet, fromDict exactFloatText pendingDocument = .ok packet ∧
    fromDict exactFloatText packet.toDict ≠ .ok packet := by
  obtain ⟨packet, hpacket, hhash⟩ := exists_pendingPacket
  refine ⟨packet, hpacket, ?_⟩
  intro hback
  have hcontent := (fromDict_toDict (valid_of_fromDict hpacket) (unique_of_fromDict hpacket)).mp hback
  exact pendingDocument_changes hpacket hhash ((keepsHash_iff hpacket).mpr hcontent)

end ResultPacket

end HermesClaude.Parity
