/-
# Exact inventories

An inventory does not depend on the order in which its entries were given, and is what is
read back from its document.  The drift between two inventories names each difference once,
and there is none exactly where both list the same entries.
-/

import HermesClaude.Parity.CanonicalForm
import HermesClaude.Parity.Inventory

namespace HermesClaude.Parity.Inventory

open HermesClaude.Python HermesClaude.Library ResultPacket

/-! ## Reading back -/

/-- A document has the fields that it was made of. -/
theorem object_dictOf (fields : List (String × PyValue)) (field : PyStr) :
    object (dictOf fields) field (fields.map Prod.fst) =
      .ok (fields.map fun field => (.str (lit field.1), field.2)) := by
  have hkeys : (fields.map Prod.fst).all (fun key =>
      (fields.map fun field => (PyValue.str (lit field.1), field.2)).any fun item =>
        item.1.isText (lit key)) = true := by
    simp only [List.all_eq_true, List.any_eq_true, List.mem_map]
    rintro key ⟨field, hfield, rfl⟩
    exact ⟨_, ⟨field, hfield, rfl⟩, PyValue.isText_iff.mpr rfl⟩
  have hitems : (fields.map fun field => (PyValue.str (lit field.1), field.2)).all (fun item =>
      (fields.map Prod.fst).any fun key => item.1.isText (lit key)) = true := by
    simp only [List.all_eq_true, List.any_eq_true, List.mem_map]
    rintro _ ⟨field, hfield, rfl⟩
    exact ⟨_, ⟨field, hfield, rfl⟩, PyValue.isText_iff.mpr rfl⟩
  rw [object, dictOf, PyValue.mapping?]
  dsimp only
  rw [hkeys, hitems, Bool.true_and, if_pos rfl]

/-- An item of a document is what its fields say. -/
theorem item_document (fields : List (String × PyValue)) (key : String) :
    item (fields.map fun field => (.str (lit field.1), field.2)) key =
      (fields.lookup key).getD .none := by
  rw [item, PyValue.lookupKey]
  congr 1
  induction fields with
  | nil => rfl
  | cons field rest ih =>
    rcases field with ⟨name, value⟩
    rw [List.map_cons, List.find?_cons, List.lookup_cons]
    by_cases hkey : key = name
    · subst hkey
      simp [PyValue.isText]
    · have hne : PyValue.isText (.str (lit name)) (lit key) = false := by
        simp [PyValue.isText, lit_injective.eq_iff, Ne.symm hkey]
      rw [hne, beq_false_of_ne hkey]
      exact ih

theorem entryFrom_toDict (field nameField : String) (entry : InventoryEntry) :
    entryFrom field nameField entry.toDict = .ok entry := by
  rw [entryFrom, bind_eq_ok]
  refine ⟨_, object_dictOf _ _, ?_⟩
  refine bind_eq_ok.mpr ⟨entry.name, name_eq_ok.mpr (item_document _ _), ?_⟩
  refine bind_eq_ok.mpr ⟨entry.schemaSha256, sha_eq_ok.mpr (item_document _ _), ?_⟩
  exact bind_eq_ok.mpr ⟨entry.enabled, boolean_eq_ok.mpr (item_document _ _), rfl⟩

theorem side_value (declaredBy : Side) : side (.str declaredBy.value) = .ok declaredBy := by
  cases declaredBy
  · rfl
  · rfl

theorem tool_toDict (entry : ToolInventoryEntry) : tool entry.toDict = .ok entry := by
  rw [tool, bind_eq_ok]
  refine ⟨_, object_dictOf _ _, ?_⟩
  refine bind_eq_ok.mpr ⟨entry.name, name_eq_ok.mpr (item_document _ _), ?_⟩
  refine bind_eq_ok.mpr ⟨entry.schemaSha256, sha_eq_ok.mpr (item_document _ _), ?_⟩
  refine bind_eq_ok.mpr ⟨entry.declaredBy, ?_, ?_⟩
  · rw [item_document]
    exact side_value entry.declaredBy
  exact bind_eq_ok.mpr ⟨entry.enabled, boolean_eq_ok.mpr (item_document _ _), rfl⟩

section Lists

variable {E : Type} {key : E → PyStr} {parse : PyValue → Except PyStr E}

/-- What is read from the documents of entries is the entries. -/
theorem mapM_parse {ι : Type} {f : ι → Except PyStr E} {document : E → ι}
    (hparse : ∀ entry, f (document entry) = .ok entry) (entries : List E) :
    (entries.map document).mapM f = .ok entries := by
  rw [mapM_eq_ok, List.forall₂_map_left_iff, List.forall₂_same]
  intro entry _
  exact hparse entry

theorem mapM_object (entries : List E) :
    (entries.map Given.object).mapM (Given.read parse) = .ok entries := by
  apply mapM_parse
  intro entry
  rfl

theorem sorted_map_key {entries : List E} (h : InKeyOrder key entries) :
    sorted (entries.map key) = entries.map key := by
  change sortByKey id (entries.map key) = entries.map key
  exact sortByKey_eq_self (List.pairwise_map.mpr h)

theorem readSorted_documents {document : E → PyValue} (hparse : ∀ entry, parse (document entry) = .ok entry)
    (entries : SortedEntries key) (field : PyStr) :
    readSorted key (.list (entries.1.map document)) field parse = .ok entries.1 := by
  rw [readSorted, bind_eq_ok]
  refine ⟨_, rfl, bind_eq_ok.mpr ⟨entries.1, mapM_parse hparse entries.1, ?_⟩⟩
  rw [sorted_map_key entries.2, if_pos rfl]

theorem sortEntries_self (entries : SortedEntries key) (field : PyStr) :
    sortEntries key entries.1 field = .ok entries := by
  rw [sortEntries, dif_pos entries.2.nodup, Except.ok.injEq, Subtype.ext_iff]
  exact sortByKey_eq_self entries.2

end Lists

theorem qualifiedName_str (found : QualifiedName) (field : PyStr) :
    qualifiedName (.str found.1) field = .ok found := by
  have hname : name (.str (unqualified found.1)) (field ++ lit " name") = .ok ⟨_, found.2⟩ :=
    name_eq_ok.mpr rfl
  rw [qualifiedName, bind_eq_ok]
  exact ⟨⟨_, hname⟩, attach_eq_ok.mpr hname, rfl⟩

theorem sortedNames_of_sequence {value : PyValue} {names : SortedNames}
    (hvalue : value.sequence? = some names.items) (field : PyStr) :
    sortedNames value field = .ok names := by
  rw [sortedNames, bind_eq_ok]
  refine ⟨names.items, ?_, bind_eq_ok.mpr ⟨names.1, ?_, ?_⟩⟩
  · rw [array, hvalue]
  · apply mapM_parse
    intro found
    exact qualifiedName_str found _
  · rw [dif_pos names.2.nodup, dif_pos (sortByKey_eq_self names.2)]

variable {library : CanonicalLibrary}

theorem verifyHash_self (digest : Digest) (field : PyStr) : verifyHash (.str digest.1) digest field = .ok () := by
  rw [verifyHash, bind_eq_ok]
  exact ⟨digest, sha_eq_ok.mpr rfl, if_pos rfl⟩

/-- Making an inventory of the parts of one gives it again. -/
theorem DeclaredInventory.make_self (inventory : DeclaredInventory library) :
    DeclaredInventory.make library (.int 1) (inventory.tools.1.map .object)
      (inventory.mcpServers.1.map .object) (.str inventory.declaredInventorySha256.1) = .ok inventory := by
  rw [DeclaredInventory.make, bind_eq_ok]
  refine ⟨(), rfl, bind_eq_ok.mpr ⟨_, mapM_object _, ?_⟩⟩
  refine bind_eq_ok.mpr ⟨_, sortEntries_self inventory.tools _, ?_⟩
  refine bind_eq_ok.mpr ⟨_, mapM_object _, ?_⟩
  refine bind_eq_ok.mpr ⟨_, sortEntries_self inventory.mcpServers _, ?_⟩
  refine bind_eq_ok.mpr ⟨⟨_, inventory.verified⟩, attach_eq_ok.mpr inventory.verified, ?_⟩
  exact bind_eq_ok.mpr ⟨(), verifyHash_self _ _, rfl⟩

theorem DeclaredInventory.fromMapping_toDict (inventory : DeclaredInventory library) :
    DeclaredInventory.fromMapping library inventory.toDict = .ok inventory := by
  rw [DeclaredInventory.fromMapping, bind_eq_ok]
  refine ⟨_, object_dictOf _ _, ?_⟩
  simp only [item_document]
  refine bind_eq_ok.mpr ⟨_, readSorted_documents tool_toDict inventory.tools _, ?_⟩
  refine bind_eq_ok.mpr ⟨_, readSorted_documents (entryFrom_toDict _ _) inventory.mcpServers _, ?_⟩
  exact inventory.make_self

theorem InventoryDrift.make_items (drift : InventoryDrift) :
    InventoryDrift.make (.tuple drift.unknownNames.items) (.tuple drift.missingNames.items)
      (.tuple drift.schemaDriftNames.items) = .ok drift := by
  rw [InventoryDrift.make, bind_eq_ok]
  refine ⟨_, sortedNames_of_sequence rfl _, bind_eq_ok.mpr ⟨_, sortedNames_of_sequence rfl _, ?_⟩⟩
  exact bind_eq_ok.mpr ⟨_, sortedNames_of_sequence rfl _, rfl⟩

theorem ObservedInventory.make_self (inventory : ObservedInventory library) :
    ObservedInventory.make library (.str inventory.candidateSha256.1) (inventory.tools.1.map .object)
      (inventory.mcpServers.1.map .object) (.str inventory.observedInventorySha256.1)
      (.tuple inventory.unknownNames.items) (.tuple inventory.missingNames.items)
      (.tuple inventory.schemaDriftNames.items) = .ok inventory := by
  rw [ObservedInventory.make, bind_eq_ok]
  refine ⟨inventory.candidateSha256, sha_eq_ok.mpr rfl, bind_eq_ok.mpr ⟨_, mapM_object _, ?_⟩⟩
  refine bind_eq_ok.mpr ⟨_, sortEntries_self inventory.tools _, ?_⟩
  refine bind_eq_ok.mpr ⟨_, mapM_object _, ?_⟩
  refine bind_eq_ok.mpr ⟨_, sortEntries_self inventory.mcpServers _, ?_⟩
  refine bind_eq_ok.mpr ⟨_, inventory.toInventoryDrift.make_items, ?_⟩
  refine bind_eq_ok.mpr ⟨⟨_, inventory.verified⟩, attach_eq_ok.mpr inventory.verified, ?_⟩
  exact bind_eq_ok.mpr ⟨(), verifyHash_self _ _, rfl⟩

theorem ObservedInventory.fromMapping_toDict (inventory : ObservedInventory library) :
    ObservedInventory.fromMapping library inventory.toDict = .ok inventory := by
  rw [ObservedInventory.fromMapping, bind_eq_ok]
  refine ⟨_, object_dictOf _ _, ?_⟩
  simp only [item_document]
  refine bind_eq_ok.mpr ⟨_, readSorted_documents (entryFrom_toDict _ _) inventory.tools _, ?_⟩
  refine bind_eq_ok.mpr ⟨_, readSorted_documents (entryFrom_toDict _ _) inventory.mcpServers _, ?_⟩
  refine bind_eq_ok.mpr ⟨_, sortedNames_of_sequence rfl _, ?_⟩
  refine bind_eq_ok.mpr ⟨_, sortedNames_of_sequence rfl _, ?_⟩
  refine bind_eq_ok.mpr ⟨_, sortedNames_of_sequence rfl _, ?_⟩
  exact bind_eq_ok.mpr ⟨_, inventory.make_self, rfl⟩

/-! ## Any order -/

section Order

variable {E : Type} {key : E → PyStr}

theorem sortEntries_perm {entries entries' : List E} (h : entries.Perm entries') (field : PyStr) :
    sortEntries key entries field = sortEntries key entries' field := by
  rw [sortEntries, sortEntries]
  by_cases hnodup : (entries.map key).Nodup
  · have hnodup' : (entries'.map key).Nodup := (h.map key).nodup_iff.mp hnodup
    rw [dif_pos hnodup, dif_pos hnodup', Except.ok.injEq, Subtype.ext_iff]
    exact sortByKey_eq_of_perm hnodup h
  · rw [dif_neg hnodup, dif_neg fun h' => hnodup ((h.map key).nodup_iff.mpr h')]

end Order

variable {tools tools' : List (Given ToolInventoryEntry)}
  {mcpServers mcpServers' : List (Given InventoryEntry)}

theorem buildDeclaredInventory_perm {schemaVersion : PyValue} {inventory : DeclaredInventory library}
    (htools : tools.Perm tools') (hservers : mcpServers.Perm mcpServers')
    (h : buildDeclaredInventory library tools mcpServers schemaVersion = .ok inventory) :
    buildDeclaredInventory library tools' mcpServers' schemaVersion = .ok inventory := by
  rcases bind_eq_ok.mp h with ⟨_, hversion, h⟩
  rcases bind_eq_ok.mp h with ⟨read, hread, h⟩
  rcases bind_eq_ok.mp h with ⟨sortedTools, hsorted, h⟩
  rcases bind_eq_ok.mp h with ⟨readServers, hreadServers, h⟩
  rcases bind_eq_ok.mp h with ⟨sortedServers, hsortedServers, h⟩
  rcases mapM_perm htools hread with ⟨read', hread', hperm⟩
  rcases mapM_perm hservers hreadServers with ⟨readServers', hreadServers', hpermServers⟩
  rw [sortEntries_perm hperm] at hsorted
  rw [sortEntries_perm hpermServers] at hsortedServers
  refine bind_eq_ok.mpr ⟨_, hversion, bind_eq_ok.mpr ⟨read', hread', ?_⟩⟩
  refine bind_eq_ok.mpr ⟨sortedTools, hsorted, bind_eq_ok.mpr ⟨readServers', hreadServers', ?_⟩⟩
  exact bind_eq_ok.mpr ⟨sortedServers, hsortedServers, h⟩

theorem buildObservedInventory_perm {tools tools' : List (Given InventoryEntry)}
    {candidateSha256 : PyValue} {declared : Option (Given (DeclaredInventory library))}
    {inventory : ObservedInventory library}
    (htools : tools.Perm tools') (hservers : mcpServers.Perm mcpServers')
    (h : buildObservedInventory library candidateSha256 tools mcpServers declared = .ok inventory) :
    buildObservedInventory library candidateSha256 tools' mcpServers' declared = .ok inventory := by
  rcases bind_eq_ok.mp h with ⟨_, hcandidate, h⟩
  rcases bind_eq_ok.mp h with ⟨read, hread, h⟩
  rcases bind_eq_ok.mp h with ⟨sortedTools, hsorted, h⟩
  rcases bind_eq_ok.mp h with ⟨readServers, hreadServers, h⟩
  rcases bind_eq_ok.mp h with ⟨sortedServers, hsortedServers, h⟩
  rcases mapM_perm htools hread with ⟨read', hread', hperm⟩
  rcases mapM_perm hservers hreadServers with ⟨readServers', hreadServers', hpermServers⟩
  rw [sortEntries_perm hperm] at hsorted
  rw [sortEntries_perm hpermServers] at hsortedServers
  refine bind_eq_ok.mpr ⟨_, hcandidate, bind_eq_ok.mpr ⟨read', hread', ?_⟩⟩
  refine bind_eq_ok.mpr ⟨sortedTools, hsorted, bind_eq_ok.mpr ⟨readServers', hreadServers', ?_⟩⟩
  exact bind_eq_ok.mpr ⟨sortedServers, hsortedServers, h⟩

/-- Entry objects are refused with the same message in any order. -/
theorem buildDeclaredInventory_objects {tools tools' : List ToolInventoryEntry}
    {mcpServers mcpServers' : List InventoryEntry} (schemaVersion : PyValue)
    (htools : tools.Perm tools') (hservers : mcpServers.Perm mcpServers') :
    buildDeclaredInventory library (tools.map .object) (mcpServers.map .object) schemaVersion =
      buildDeclaredInventory library (tools'.map .object) (mcpServers'.map .object) schemaVersion := by
  simp only [buildDeclaredInventory, mapM_object, ok_bind, sortEntries_perm htools,
    sortEntries_perm hservers]

theorem buildObservedInventory_objects {tools tools' mcpServers mcpServers' : List InventoryEntry}
    (candidateSha256 : PyValue) (declared : Option (Given (DeclaredInventory library)))
    (htools : tools.Perm tools') (hservers : mcpServers.Perm mcpServers') :
    buildObservedInventory library candidateSha256 (tools.map .object) (mcpServers.map .object) declared =
      buildObservedInventory library candidateSha256 (tools'.map .object) (mcpServers'.map .object)
        declared := by
  simp only [buildObservedInventory, mapM_object, ok_bind, sortEntries_perm htools,
    sortEntries_perm hservers]

/-! ## Names of differences -/

/-- The names as texts. -/
def SortedNames.texts (names : SortedNames) : List PyStr := names.1.map Subtype.val

theorem unqualified_qualify (key : Kind × PyStr) : unqualified (qualify key) = key.2 := by
  rcases key with ⟨kind, name⟩
  cases kind
  · rfl
  · rfl

theorem Kind.value_injective : Function.Injective Kind.value := by
  intro a b h
  cases a <;> cases b <;> first | rfl | exact absurd h (by decide)

/-- A qualified name says the kind and the name, colons in the name or not. -/
theorem qualify_injective : Function.Injective qualify := by
  intro x y h
  have hname : x.2 = y.2 := by rw [← unqualified_qualify x, h, unqualified_qualify]
  rcases x with ⟨kind, name⟩
  rcases y with ⟨kind', name'⟩
  cases hname
  rw [qualify, qualify, List.append_left_inj, List.append_left_inj] at h
  cases Kind.value_injective h
  rfl

/-- Names of different keys are sorted and accepted. -/
theorem sortedNames_driftNames {keys : List (Kind × PyStr)} (hnodup : keys.Nodup)
    (hnames : ∀ key ∈ keys, isName key.2 = true) :
    ∃ names : SortedNames, names.texts = sorted (keys.map qualify) ∧
      ∀ field, sortedNames (driftNames keys) field = .ok names := by
  have hqualified : ∀ text ∈ sorted (keys.map qualify), isName (unqualified text) = true := by
    intro text htext
    rcases List.mem_map.mp ((List.mem_insertionSort _).mp htext) with ⟨key, hkey, rfl⟩
    rw [unqualified_qualify]
    exact hnames key hkey
  have horder : (sorted (keys.map qualify)).Pairwise (· < ·) := by
    change InKeyOrder id (sortByKey id (keys.map qualify))
    apply inKeyOrder_sortByKey
    rw [List.map_id]
    exact hnodup.map qualify_injective
  have hlift : ∃ names : List QualifiedName, names.map Subtype.val = sorted (keys.map qualify) :=
    ⟨_, List.attachWith_map_subtype_val hqualified⟩
  rcases hlift with ⟨names, hvalues⟩
  rw [← hvalues] at horder
  refine ⟨⟨names, List.pairwise_map.mp horder⟩, hvalues, ?_⟩
  intro field
  apply sortedNames_of_sequence
  rw [driftNames, PyValue.sequence?, SortedNames.items, ← hvalues, List.map_map]
  rfl

/-! ## The index -/

/-- The kinds, names, digests and flags of an inventory. -/
def entrySet (tools mcpServers : List InventoryEntry) : Set (Kind × InventoryEntry) :=
  {row | match row.1 with | .tool => row.2 ∈ tools | .mcpServer => row.2 ∈ mcpServers}

/-- The entries of what is declared. -/
def DeclaredInventory.entrySet (inventory : DeclaredInventory library) : Set (Kind × InventoryEntry) :=
  Inventory.entrySet (inventory.tools.1.map ToolInventoryEntry.toInventoryEntry) inventory.mcpServers.1

/-- The entries of what was observed. -/
def ObservedInventory.entrySet (inventory : ObservedInventory library) : Set (Kind × InventoryEntry) :=
  Inventory.entrySet inventory.tools.1 inventory.mcpServers.1

/-- Where an entry stands in the index. -/
def indexRow (row : Kind × InventoryEntry) : (Kind × PyStr) × (Digest × Bool) :=
  ((row.1, row.2.key), (row.2.schemaSha256, row.2.enabled))

theorem indexRow_injective : Function.Injective indexRow := by
  intro x y h
  rcases x with ⟨kind, name, schemaSha256, enabled⟩
  rcases y with ⟨kind', name', schemaSha256', enabled'⟩
  simp only [indexRow, InventoryEntry.key, Prod.mk.injEq] at h
  rcases h with ⟨⟨rfl, hname⟩, rfl, rfl⟩
  cases Subtype.ext hname
  rfl

section Index

variable {tools mcpServers tools' mcpServers' : List InventoryEntry}

theorem mem_index {entry : (Kind × PyStr) × (Digest × Bool)} :
    entry ∈ index tools mcpServers ↔ ∃ row ∈ entrySet tools mcpServers, indexRow row = entry := by
  rw [index, List.mem_append, List.mem_map, List.mem_map]
  constructor
  · intro h
    rcases h with ⟨found, hfound, rfl⟩ | ⟨found, hfound, rfl⟩
    · exact ⟨(.tool, found), hfound, rfl⟩
    · exact ⟨(.mcpServer, found), hfound, rfl⟩
  · intro h
    rcases h with ⟨⟨kind, found⟩, hfound, rfl⟩
    cases kind with
    | tool => exact Or.inl ⟨found, hfound, rfl⟩
    | mcpServer => exact Or.inr ⟨found, hfound, rfl⟩

/-- Two indexes have the same rows exactly where the entries are the same. -/
theorem index_iff : (∀ entry, entry ∈ index tools mcpServers ↔ entry ∈ index tools' mcpServers') ↔
    entrySet tools mcpServers = entrySet tools' mcpServers' := by
  constructor
  · intro h
    ext row
    have hrow := h (indexRow row)
    simp only [mem_index, indexRow_injective.eq_iff, exists_eq_right] at hrow
    exact hrow
  · intro h entry
    rw [mem_index, mem_index, h]

/-- Tools and servers are not mixed up, whatever their names. -/
theorem nodup_index (htools : InKeyOrder InventoryEntry.key tools)
    (hservers : InKeyOrder InventoryEntry.key mcpServers) :
    ((index tools mcpServers).map Prod.fst).Nodup := by
  have hkind : ∀ kind : Kind, Function.Injective fun name : PyStr => (kind, name) :=
    fun kind _ _ h => (Prod.mk.inj h).2
  have hrows : (index tools mcpServers).map Prod.fst =
      (tools.map InventoryEntry.key).map (Kind.tool, ·) ++
        (mcpServers.map InventoryEntry.key).map (Kind.mcpServer, ·) := by
    simp only [index, List.map_append, List.map_map]
    rfl
  rw [hrows]
  apply List.Nodup.append (htools.nodup.map (hkind .tool)) (hservers.nodup.map (hkind .mcpServer))
  intro key htool hserver
  rcases List.mem_map.mp htool with ⟨name, -, rfl⟩
  rcases List.mem_map.mp hserver with ⟨name', -, h⟩
  cases h

theorem isName_of_mem_index {key : Kind × PyStr} (h : key ∈ (index tools mcpServers).map Prod.fst) :
    isName key.2 = true := by
  rcases List.mem_map.mp h with ⟨entry, hentry, rfl⟩
  rcases mem_index.mp hentry with ⟨row, -, rfl⟩
  exact row.2.name.2

end Index

variable {left : DeclaredInventory library} {right : ObservedInventory library}

theorem DeclaredInventory.nodup_index (inventory : DeclaredInventory library) :
    (inventory.index.map Prod.fst).Nodup :=
  Inventory.nodup_index (List.pairwise_map.mpr inventory.tools.2) inventory.mcpServers.2

theorem ObservedInventory.nodup_index (inventory : ObservedInventory library) :
    (inventory.index.map Prod.fst).Nodup :=
  Inventory.nodup_index inventory.tools.2 inventory.mcpServers.2

/-- The names of a drift are those of the keys that were added, that are missing, and whose
values changed. -/
structure DriftBetween (left : DeclaredInventory library) (right : ObservedInventory library)
    (drift : InventoryDrift) : Prop where
  unknown : drift.unknownNames.texts = sorted ((addedKeys left.index right.index).map qualify)
  missing : drift.missingNames.texts = sorted ((addedKeys right.index left.index).map qualify)
  changed : drift.schemaDriftNames.texts = sorted ((changedKeys left.index right.index).map qualify)

/-- The drift of two inventories can always be stated. -/
theorem exists_driftOf (left : DeclaredInventory library) (right : ObservedInventory library) :
    ∃ drift, driftOf left right = .ok drift ∧ DriftBetween left right drift := by
  have hunknown : ∀ key ∈ addedKeys left.index right.index, isName key.2 = true :=
    fun key hkey => isName_of_mem_index (mem_addedKeys.mp hkey).1
  have hmissing : ∀ key ∈ addedKeys right.index left.index, isName key.2 = true :=
    fun key hkey => isName_of_mem_index (mem_addedKeys.mp hkey).1
  have hchanged : ∀ key ∈ changedKeys left.index right.index, isName key.2 = true :=
    fun key hkey => isName_of_mem_index (changedKeys_subset right.nodup_index hkey).1
  rcases sortedNames_driftNames (nodup_addedKeys right.nodup_index) hunknown with ⟨unknown, hu, hreadu⟩
  rcases sortedNames_driftNames (nodup_addedKeys left.nodup_index) hmissing with ⟨missing, hm, hreadm⟩
  rcases sortedNames_driftNames (nodup_changedKeys left.nodup_index) hchanged with
    ⟨changed, hc, hreadc⟩
  refine ⟨⟨unknown, missing, changed⟩, ?_, hu, hm, hc⟩
  rw [driftOf, InventoryDrift.make, bind_eq_ok]
  refine ⟨unknown, hreadu _, bind_eq_ok.mpr ⟨missing, hreadm _, ?_⟩⟩
  exact bind_eq_ok.mpr ⟨changed, hreadc _, rfl⟩

theorem disjoint_names {names names' : SortedNames} {keys keys' : List (Kind × PyStr)}
    (hnames : names.texts = sorted (keys.map qualify))
    (hnames' : names'.texts = sorted (keys'.map qualify)) (h : List.Disjoint keys keys') :
    List.Disjoint names.texts names'.texts := by
  rw [hnames, hnames']
  intro text htext htext'
  rcases List.mem_map.mp ((List.mem_insertionSort _).mp htext) with ⟨key, hkey, rfl⟩
  rcases List.mem_map.mp ((List.mem_insertionSort _).mp htext') with ⟨key', hkey', hsame⟩
  cases qualify_injective hsame
  exact h hkey hkey'

theorem isEmpty_names {names : SortedNames} {keys : List (Kind × PyStr)}
    (hnames : names.texts = sorted (keys.map qualify)) : names.1.isEmpty = true ↔ keys = [] := by
  have hlength : names.1.length = keys.length := by
    have h := congrArg List.length hnames
    rw [SortedNames.texts, List.length_map, sorted, List.length_insertionSort, List.length_map] at h
    exact h
  rw [List.isEmpty_iff, ← List.length_eq_zero_iff, hlength, List.length_eq_zero_iff]

theorem SortedNames.ordered (names : SortedNames) : names.texts.Pairwise (· < ·) :=
  List.pairwise_map.mpr names.2

namespace DriftBetween

variable {drift : InventoryDrift}

/-- There is no drift exactly where both inventories list the same entries. -/
theorem exact_iff (h : DriftBetween left right drift) :
    drift.exact = true ↔ left.entrySet = right.entrySet := by
  have hempty : drift.exact = true ↔ drift.unknownNames.1.isEmpty = true ∧
      drift.missingNames.1.isEmpty = true ∧ drift.schemaDriftNames.1.isEmpty = true := by
    rw [InventoryDrift.exact]
    simp [and_assoc]
  rw [hempty, isEmpty_names h.unknown, isEmpty_names h.missing, isEmpty_names h.changed,
    no_difference_iff right.nodup_index]
  exact index_iff

end DriftBetween

/-- **Inventory drift is exact.**  Inventories do not depend on the order of the entries that
they are built from, and are what is read back from their documents.  The drift of two
inventories has sorted names, no name twice and none in two of its lists, and is empty exactly
where both list the same kinds, names, schema digests and flags.

Where elements are mappings with several mistakes, it depends on the order which of these is
reported. -/
theorem inventory_drift_exact (library : CanonicalLibrary) :
    (∀ {tools tools' : List (Given ToolInventoryEntry)} {mcpServers mcpServers' : List (Given InventoryEntry)}
        (schemaVersion : PyValue), tools.Perm tools' → mcpServers.Perm mcpServers' →
      (buildDeclaredInventory library tools mcpServers schemaVersion).toOption =
        (buildDeclaredInventory library tools' mcpServers' schemaVersion).toOption) ∧
    (∀ {tools tools' mcpServers mcpServers' : List (Given InventoryEntry)} (candidateSha256 : PyValue)
        (declared : Option (Given (DeclaredInventory library))), tools.Perm tools' →
        mcpServers.Perm mcpServers' →
      (buildObservedInventory library candidateSha256 tools mcpServers declared).toOption =
        (buildObservedInventory library candidateSha256 tools' mcpServers' declared).toOption) ∧
    (∀ {tools tools' : List ToolInventoryEntry} {mcpServers mcpServers' : List InventoryEntry}
        (schemaVersion : PyValue), tools.Perm tools' → mcpServers.Perm mcpServers' →
      buildDeclaredInventory library (tools.map .object) (mcpServers.map .object) schemaVersion =
        buildDeclaredInventory library (tools'.map .object) (mcpServers'.map .object) schemaVersion) ∧
    (∀ {tools tools' mcpServers mcpServers' : List InventoryEntry} (candidateSha256 : PyValue)
        (declared : Option (Given (DeclaredInventory library))), tools.Perm tools' →
        mcpServers.Perm mcpServers' →
      buildObservedInventory library candidateSha256 (tools.map .object) (mcpServers.map .object)
          declared =
        buildObservedInventory library candidateSha256 (tools'.map .object) (mcpServers'.map .object)
          declared) ∧
    (∀ inventory : DeclaredInventory library,
      DeclaredInventory.fromMapping library inventory.toDict = .ok inventory) ∧
    (∀ inventory : ObservedInventory library,
      ObservedInventory.fromMapping library inventory.toDict = .ok inventory) ∧
    ∀ (declared : DeclaredInventory library) (observed : ObservedInventory library),
      ∃ drift, deriveInventoryDrift library (.object declared) (.object observed) = .ok drift ∧
        List.Disjoint drift.unknownNames.texts drift.missingNames.texts ∧
        List.Disjoint drift.unknownNames.texts drift.schemaDriftNames.texts ∧
        List.Disjoint drift.missingNames.texts drift.schemaDriftNames.texts ∧
        (∀ names ∈ [drift.unknownNames, drift.missingNames, drift.schemaDriftNames],
          names.texts.Pairwise (· < ·)) ∧
        (drift.exact = true ↔ declared.entrySet = observed.entrySet) := by
  refine ⟨?_, ?_, buildDeclaredInventory_objects, buildObservedInventory_objects,
    DeclaredInventory.fromMapping_toDict, ObservedInventory.fromMapping_toDict, ?_⟩
  · intro tools tools' mcpServers mcpServers' schemaVersion htools hservers
    apply toOption_congr
    · intro inventory h
      exact buildDeclaredInventory_perm htools hservers h
    · intro inventory h
      exact buildDeclaredInventory_perm htools.symm hservers.symm h
  · intro tools tools' mcpServers mcpServers' candidateSha256 declared htools hservers
    apply toOption_congr
    · intro inventory h
      exact buildObservedInventory_perm htools hservers h
    · intro inventory h
      exact buildObservedInventory_perm htools.symm hservers.symm h
  · intro declared observed
    rcases exists_driftOf declared observed with ⟨drift, hdrift, hbetween⟩
    refine ⟨drift, hdrift, ?_, ?_, ?_, ?_, hbetween.exact_iff⟩
    · exact disjoint_names hbetween.unknown hbetween.missing disjoint_addedKeys
    · apply disjoint_names hbetween.unknown hbetween.changed
      exact disjoint_added_changed observed.nodup_index
    · apply disjoint_names hbetween.missing hbetween.changed
      exact disjoint_missing_changed observed.nodup_index
    · intro names _
      exact names.ordered

end HermesClaude.Parity.Inventory
