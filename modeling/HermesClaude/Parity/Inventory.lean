/-
# Tool inventories

What a profile declares and what a run observes: tools and MCP servers, each with the digest
of its schema.  An inventory is sorted by name and hashed, and is read back only where it
is sorted and the hash is right.  Drift is the difference of two inventories, in names that
say whether a tool or a server is meant.

Raised errors are their messages.  An element of a document is a mapping; entry objects are
given to the builders only.
-/

import HermesClaude.Library.Checks
import HermesClaude.Library.Keyed
import HermesClaude.Parity.Canonical
import HermesClaude.Parity.Results

namespace HermesClaude.Parity.Inventory

open HermesClaude.Python HermesClaude.Library ResultPacket

/-! ## Checks of single values -/

/-- `_object`, with the items of the mapping. -/
def object (value : PyValue) (field : PyStr) (keys : List String) :
    Except PyStr (List (PyValue × PyValue)) :=
  match value.mapping? with
  | some items =>
    if keys.all (fun key => items.any fun item => item.1.isText (lit key)) &&
        items.all fun item => keys.any fun key => item.1.isText (lit key)
    then .ok items
    else .error (field ++ lit " has unexpected fields")
  | none => .error (field ++ lit " has unexpected fields")

/-- `raw[key]`. -/
def item (raw : List (PyValue × PyValue)) (key : String) : PyValue :=
  (PyValue.lookupKey raw (lit key)).getD .none

/-- `_array`. -/
def array (value : PyValue) (field : PyStr) : Except PyStr (List PyValue) :=
  match value.sequence? with
  | some items => .ok items
  | none => .error (field ++ lit " must be an array")

/-- Texts that `validate_identifier` accepts. -/
def isName (text : PyStr) : Bool :=
  !text.isEmpty && text.length ≤ 128 && text.all CodePoint.isIdentifier

/-- The name of a tool or a server. -/
abbrev Name := { text : PyStr // isName text = true }

theorem isSurrogate_eq_false_of_isIdentifier {c : CodePoint} (h : c.isIdentifier = true) :
    c.isSurrogate = false ∧ c.isAsciiControl = false ∧ c.utf8Width = 1 ∧ c.val < 128 := by
  simp only [CodePoint.isIdentifier, CodePoint.isSurrogate, CodePoint.isAsciiControl,
    CodePoint.utf8Width, Bool.or_eq_true, Bool.and_eq_true, decide_eq_true_eq, beq_iff_eq,
    Bool.or_eq_false_iff, Bool.and_eq_false_iff, decide_eq_false_iff_not,
    beq_eq_false_iff_ne] at h ⊢
  split_ifs <;> omega

/-- A text of identifier characters is as long in UTF-8 as it is in characters. -/
theorem utf8Size_of_isIdentifier {text : PyStr} (h : ∀ c ∈ text, c.isIdentifier = true) :
    utf8Size text = some text.length := by
  have hplain : text.any CodePoint.isSurrogate = false := by
    rw [List.any_eq_false]
    intro c hc
    rw [(isSurrogate_eq_false_of_isIdentifier (h c hc)).1]
    exact Bool.false_ne_true
  have hwidths : text.map CodePoint.utf8Width = text.map fun _ => 1 := by
    apply List.map_congr_left
    intro c hc
    exact (isSurrogate_eq_false_of_isIdentifier (h c hc)).2.2.1
  rw [utf8Size, hplain, hwidths]
  simp

theorem validateIdentifier_eq_ok {value : PyValue} {field text : PyStr} :
    validateIdentifier value field = .ok text ↔ value = .str text ∧ isName text = true := by
  cases value with
  | str s =>
    constructor
    · intro h
      rw [validateIdentifier] at h
      split at h
      · cases h
      · next size hsize =>
        split_ifs at h with hbounded hgrammar hcontrol
        cases h
        simp only [Bool.or_eq_true, not_or, Bool.not_eq_true, Bool.not_eq_false',
          decide_eq_true_eq, List.all_eq_true] at hbounded hgrammar
        rw [utf8Size_of_isIdentifier hgrammar.2, Option.some.injEq] at hsize
        refine ⟨rfl, ?_⟩
        simp only [isName, Bool.and_eq_true, decide_eq_true_eq, List.all_eq_true]
        refine ⟨⟨?_, ?_⟩, hgrammar.2⟩
        · rw [hbounded.1.1]
          rfl
        · omega
    · intro h
      rcases h with ⟨h, hname⟩
      cases h
      simp only [isName, Bool.and_eq_true, Bool.not_eq_true', decide_eq_true_eq,
        List.all_eq_true] at hname
      rcases hname with ⟨⟨hsome, hlength⟩, hall⟩
      have hascii : text.any (fun c => c.val ≥ 128) = false := by
        rw [List.any_eq_false]
        intro c hc
        have hlt := (isSurrogate_eq_false_of_isIdentifier (hall c hc)).2.2.2
        simpa using hlt
      have hcontrol : isControlBearing text = false := by
        rw [isControlBearing, List.any_eq_false]
        intro c hc
        rw [(isSurrogate_eq_false_of_isIdentifier (hall c hc)).2.1]
        exact Bool.false_ne_true
      have hstrip : strip text = text :=
        strip_eq_self fun c hc => CodePoint.isSpace_eq_false_of_isIdentifier (hall c hc)
      simp [validateIdentifier, utf8Size_of_isIdentifier hall, hascii, hcontrol, hstrip, hsome,
        hlength, List.all_eq_true.mpr hall]
  | _ =>
    apply iff_of_false
    · exact nofun
    · exact nofun

/-- `_name`. -/
def name (value : PyValue) (field : PyStr) : Except PyStr Name := do
  let text ← attach (validateIdentifier value field)
  return ⟨text.1, (validateIdentifier_eq_ok.mp text.2).2⟩

/-- `_sha`. -/
def sha (value : PyValue) (field : PyStr) : Except PyStr Digest :=
  match value with
  | .str text =>
    if h : isHex 64 text = true then .ok ⟨text, h⟩
    else .error (field ++ lit " must be a lowercase SHA-256 digest")
  | _ => .error (field ++ lit " must be a lowercase SHA-256 digest")

/-- `_bool`. -/
def boolean : PyValue → Except PyStr Bool
  | .bool b => .ok b
  | _ => .error (lit "enabled must be a boolean")

theorem name_eq_ok {value : PyValue} {field : PyStr} {result : Name} :
    name value field = .ok result ↔ value = .str result.1 := by
  rw [name, bind_eq_ok]
  constructor
  · intro h
    rcases h with ⟨text, -, h⟩
    cases h
    exact (validateIdentifier_eq_ok.mp text.2).1
  · intro h
    have hvalid : validateIdentifier value field = .ok result.1 :=
      validateIdentifier_eq_ok.mpr ⟨h, result.2⟩
    exact ⟨⟨result.1, hvalid⟩, attach_eq_ok.mpr hvalid, rfl⟩

theorem sha_eq_ok {value : PyValue} {field : PyStr} {result : Digest} :
    sha value field = .ok result ↔ value = .str result.1 := by
  cases value with
  | str text =>
    rw [sha, PyValue.str.injEq]
    split_ifs with h
    · rw [Except.ok.injEq, Subtype.ext_iff]
    · apply iff_of_false
      · exact nofun
      · intro htext
        rw [htext] at h
        exact h result.2
  | _ =>
    apply iff_of_false
    · exact nofun
    · exact nofun

theorem boolean_eq_ok {value : PyValue} {result : Bool} :
    boolean value = .ok result ↔ value = .bool result := by
  cases value with
  | bool b => rw [boolean, Except.ok.injEq, PyValue.bool.injEq]
  | _ =>
    apply iff_of_false
    · exact nofun
    · exact nofun

/-! ## Qualified names -/

/-- What an inventory lists. -/
inductive Kind
  | tool
  | mcpServer
  deriving DecidableEq

/-- The text before the separator of a qualified name. -/
def Kind.value : Kind → PyStr
  | .tool => lit "tool"
  | .mcpServer => lit "mcp_server"

/-- `f"{kind}:{name}"`. -/
def qualify (key : Kind × PyStr) : PyStr := key.1.value ++ lit ":" ++ key.2

/-- What `value.partition(":")` leaves of a text after a kind and the first separator; an
empty text where there is no kind. -/
def unqualified (text : PyStr) : PyStr :=
  match text.dropWhile (· ≠ 0x3A) with
  | [] => []
  | _ :: rest =>
    if text.takeWhile (· ≠ 0x3A) ∈ [Kind.tool.value, Kind.mcpServer.value] then rest else []

/-- A text that `_qualified_name` accepts. -/
abbrev QualifiedName := { text : PyStr // isName (unqualified text) = true }

/-- `_qualified_name`. -/
def qualifiedName (value : PyValue) (field : PyStr) : Except PyStr QualifiedName :=
  match value with
  | .str text => do
    let found ← attach (name (.str (unqualified text)) (field ++ lit " name"))
    return ⟨text, PyValue.str.inj (name_eq_ok.mp found.2) ▸ found.1.2⟩
  | _ => .error (field ++ lit " name is not a bounded identifier")

/-- Qualified names in their order, each once. -/
abbrev SortedNames := { names : List QualifiedName // InKeyOrder Subtype.val names }

/-- `_sorted_names`. -/
def sortedNames (value : PyValue) (field : PyStr) : Except PyStr SortedNames := do
  let items ← array value field
  let names ← items.mapM fun item => qualifiedName item (field ++ lit " item")
  if hnodup : (names.map Subtype.val).Nodup then
    if hsorted : sortByKey Subtype.val names = names then
      .ok ⟨names, hsorted ▸ inKeyOrder_sortByKey hnodup⟩
    else .error (field ++ lit " must be sorted")
  else .error (field ++ lit " contains duplicate names")

/-! ## Entries -/

/-- `ObservedInventoryEntry`, also `MCPServerInventoryEntry`. -/
structure InventoryEntry where
  name : Name
  schemaSha256 : Digest
  enabled : Bool
  deriving DecidableEq

/-- `_SIDES`: who declares a tool. -/
inductive Side
  | host
  | plugin
  deriving DecidableEq

def Side.value : Side → PyStr
  | .host => lit "host"
  | .plugin => lit "plugin"

/-- `ToolInventoryEntry`. -/
structure ToolInventoryEntry extends InventoryEntry where
  declaredBy : Side
  deriving DecidableEq

/-- `to_dict` of an observed entry or of a server. -/
def InventoryEntry.toDict (entry : InventoryEntry) : PyValue :=
  dictOf [("name", .str entry.name.1), ("schema_sha256", .str entry.schemaSha256.1),
    ("enabled", .bool entry.enabled)]

/-- `ToolInventoryEntry.to_dict`. -/
def ToolInventoryEntry.toDict (entry : ToolInventoryEntry) : PyValue :=
  dictOf [("name", .str entry.name.1), ("schema_sha256", .str entry.schemaSha256.1),
    ("declared_by", .str entry.declaredBy.value), ("enabled", .bool entry.enabled)]

/-- `declared_by not in _SIDES`. -/
def side (value : PyValue) : Except PyStr Side :=
  if value.isText Side.host.value then .ok .host
  else if value.isText Side.plugin.value then .ok .plugin
  else .error (lit "declared_by must be host or plugin")

/-- Read an entry of three fields. -/
def entryFrom (field nameField : String) (value : PyValue) : Except PyStr InventoryEntry := do
  let raw ← object value (lit field) ["name", "schema_sha256", "enabled"]
  let name ← name (item raw "name") (lit nameField)
  let schemaSha256 ← sha (item raw "schema_sha256") (lit "schema_sha256")
  let enabled ← boolean (item raw "enabled")
  return { name, schemaSha256, enabled }

/-- `_tool` of a mapping. -/
def tool (value : PyValue) : Except PyStr ToolInventoryEntry := do
  let raw ← object value (lit "tool") ["name", "schema_sha256", "declared_by", "enabled"]
  let name ← name (item raw "name") (lit "tool name")
  let schemaSha256 ← sha (item raw "schema_sha256") (lit "schema_sha256")
  let declaredBy ← side (item raw "declared_by")
  let enabled ← boolean (item raw "enabled")
  return { name, schemaSha256, enabled, declaredBy }

/-- `_server` of a mapping. -/
def server : PyValue → Except PyStr InventoryEntry := entryFrom "MCP server" "MCP server name"

/-- `_observed` of a mapping. -/
def observed : PyValue → Except PyStr InventoryEntry := entryFrom "observed entry" "inventory name"

/-- An object, or a mapping that it is read from. -/
inductive Given (E : Type)
  | object (value : E)
  | mapping (value : PyValue)

/-- The object itself, or the one that a mapping describes. -/
def Given.read {E : Type} (parse : PyValue → Except PyStr E) : Given E → Except PyStr E
  | .object value => .ok value
  | .mapping value => parse value

/-- Entries in the order of their names, no name twice. -/
abbrev SortedEntries {E : Type} (name : E → PyStr) := { entries : List E // InKeyOrder name entries }

/-- `_sort_entries`. -/
def sortEntries {E : Type} (name : E → PyStr) (entries : List E) (field : PyStr) :
    Except PyStr (SortedEntries name) :=
  if h : (entries.map name).Nodup then .ok ⟨sortByKey name entries, inKeyOrder_sortByKey h⟩
  else .error (field ++ lit " contains duplicate names")

/-- `_read_sorted`. -/
def readSorted {E : Type} (name : E → PyStr) (values : PyValue) (field : PyStr)
    (parser : PyValue → Except PyStr E) : Except PyStr (List E) := do
  let items ← array values field
  let entries ← items.mapM parser
  if entries.map name = sorted (entries.map name) then .ok entries
  else .error (field ++ lit " must be sorted")

/-- The name that an observed entry or a server is sorted by. -/
def InventoryEntry.key (entry : InventoryEntry) : PyStr := entry.name.1

/-- The name that a tool is sorted by. -/
def ToolInventoryEntry.key (entry : ToolInventoryEntry) : PyStr := entry.name.1

/-! ## Inventories -/

section Inventories

variable (library : CanonicalLibrary)

/-- `canonical_sha256`. -/
def canonicalSha256 (value : PyValue) : Except PyStr Digest := do
  let data ← canonicalJsonBytes library value
  return ⟨hexdigest data, isHex_hexdigest data⟩

/-- `_verify_hash`. -/
def verifyHash (actual : PyValue) (expected : Digest) (field : PyStr) : Except PyStr Unit := do
  let digest ← sha actual field
  if digest = expected then .ok ()
  else .error (field ++ lit " does not match its projection")

/-- `_declared_projection`. -/
def declaredProjection (tools : List ToolInventoryEntry) (mcpServers : List InventoryEntry) :
    PyValue :=
  dictOf [("tools", .list (tools.map ToolInventoryEntry.toDict)),
    ("mcp_servers", .list (mcpServers.map InventoryEntry.toDict))]

/-- `_observed_projection`. -/
def observedProjection (candidateSha256 : Digest) (tools mcpServers : List InventoryEntry) : PyValue :=
  dictOf [("candidate_sha256", .str candidateSha256.1),
    ("tools", .list (tools.map InventoryEntry.toDict)),
    ("mcp_servers", .list (mcpServers.map InventoryEntry.toDict))]

/-- `DeclaredInventory`.  Its `schema_version` is always 1. -/
structure DeclaredInventory where
  tools : SortedEntries ToolInventoryEntry.key
  mcpServers : SortedEntries InventoryEntry.key
  declaredInventorySha256 : Digest
  verified : canonicalSha256 library (declaredProjection tools.1 mcpServers.1) = .ok declaredInventorySha256

/-- `type(schema_version) is not int or schema_version != 1`, and its error. -/
def checkVersion : PyValue → Except PyStr Unit
  | .int 1 => .ok ()
  | _ => .error (lit "schema_version must be 1")

namespace DeclaredInventory

/-- `DeclaredInventory(schema_version, tools, mcp_servers, declared_inventory_sha256)`. -/
def make (schemaVersion : PyValue) (tools : List (Given ToolInventoryEntry))
    (mcpServers : List (Given InventoryEntry)) (declaredInventorySha256 : PyValue) :
    Except PyStr (DeclaredInventory library) := do
  checkVersion schemaVersion
  let tools ← sortEntries ToolInventoryEntry.key (← tools.mapM (Given.read tool)) (lit "tools")
  let mcpServers ← sortEntries InventoryEntry.key (← mcpServers.mapM (Given.read server))
    (lit "mcp_servers")
  let digest ← attach (canonicalSha256 library (declaredProjection tools.1 mcpServers.1))
  verifyHash declaredInventorySha256 digest.1 (lit "declared_inventory_sha256")
  return { tools, mcpServers, declaredInventorySha256 := digest.1, verified := digest.2 }

/-- `DeclaredInventory.from_mapping`. -/
def fromMapping (value : PyValue) : Except PyStr (DeclaredInventory library) := do
  let raw ← object value (lit "declared inventory")
    ["schema_version", "tools", "mcp_servers", "declared_inventory_sha256"]
  let tools ← readSorted ToolInventoryEntry.key (item raw "tools") (lit "tools") tool
  let mcpServers ← readSorted InventoryEntry.key (item raw "mcp_servers") (lit "mcp_servers") server
  make library (item raw "schema_version") (tools.map .object) (mcpServers.map .object)
    (item raw "declared_inventory_sha256")

variable {library}

/-- `DeclaredInventory.to_dict`. -/
def toDict (inventory : DeclaredInventory library) : PyValue :=
  dictOf [("schema_version", .int 1),
    ("tools", .list (inventory.tools.1.map ToolInventoryEntry.toDict)),
    ("mcp_servers", .list (inventory.mcpServers.1.map InventoryEntry.toDict)),
    ("declared_inventory_sha256", .str inventory.declaredInventorySha256.1)]

end DeclaredInventory

/-- `build_declared_inventory`. -/
def buildDeclaredInventory (tools : List (Given ToolInventoryEntry))
    (mcpServers : List (Given InventoryEntry)) (schemaVersion : PyValue := .int 1) :
    Except PyStr (DeclaredInventory library) := do
  checkVersion schemaVersion
  let tools ← sortEntries ToolInventoryEntry.key (← tools.mapM (Given.read tool)) (lit "tools")
  let mcpServers ← sortEntries InventoryEntry.key (← mcpServers.mapM (Given.read server))
    (lit "mcp_servers")
  let digest ← canonicalSha256 library (declaredProjection tools.1 mcpServers.1)
  DeclaredInventory.make library schemaVersion (tools.1.map .object) (mcpServers.1.map .object)
    (.str digest.1)

/-- `InventoryDrift`. -/
structure InventoryDrift where
  unknownNames : SortedNames
  missingNames : SortedNames
  schemaDriftNames : SortedNames
  deriving DecidableEq

namespace InventoryDrift

/-- `InventoryDrift(unknown_names, missing_names, schema_drift_names)`. -/
def make (unknownNames missingNames schemaDriftNames : PyValue := .tuple []) :
    Except PyStr InventoryDrift := do
  let unknownNames ← sortedNames unknownNames (lit "unknown_names")
  let missingNames ← sortedNames missingNames (lit "missing_names")
  let schemaDriftNames ← sortedNames schemaDriftNames (lit "schema_drift_names")
  return { unknownNames, missingNames, schemaDriftNames }

/-- `InventoryDrift.exact`. -/
def exact (drift : InventoryDrift) : Bool :=
  !(!drift.unknownNames.1.isEmpty || !drift.missingNames.1.isEmpty ||
    !drift.schemaDriftNames.1.isEmpty)

end InventoryDrift

/-- The names as the elements of an array. -/
def SortedNames.items (names : SortedNames) : List PyValue := names.1.map fun name => .str name.1

/-- `ObservedInventory`. -/
structure ObservedInventory extends InventoryDrift where
  candidateSha256 : Digest
  tools : SortedEntries InventoryEntry.key
  mcpServers : SortedEntries InventoryEntry.key
  observedInventorySha256 : Digest
  verified : canonicalSha256 library (observedProjection candidateSha256 tools.1 mcpServers.1) =
    .ok observedInventorySha256

/-- `_index`: the digest and the flag of every kind and name. -/
def index (tools mcpServers : List InventoryEntry) : List ((Kind × PyStr) × (Digest × Bool)) :=
  tools.map (fun entry => ((.tool, entry.key), (entry.schemaSha256, entry.enabled))) ++
    mcpServers.map fun entry => ((.mcpServer, entry.key), (entry.schemaSha256, entry.enabled))

variable {library}

/-- The index of what is declared. -/
def DeclaredInventory.index (inventory : DeclaredInventory library) :=
  Inventory.index (inventory.tools.1.map ToolInventoryEntry.toInventoryEntry) inventory.mcpServers.1

/-- The index of what was observed. -/
def ObservedInventory.index (inventory : ObservedInventory library) :=
  Inventory.index inventory.tools.1 inventory.mcpServers.1

/-- `sorted(f"{kind}:{name}" for ..)`, as a tuple. -/
def driftNames (keys : List (Kind × PyStr)) : PyValue :=
  .tuple ((sorted (keys.map qualify)).map .str)

/-- `derive_inventory_drift` of two inventories. -/
def driftOf (left : DeclaredInventory library) (right : ObservedInventory library) :
    Except PyStr InventoryDrift :=
  let expected := left.index
  let actual := right.index
  InventoryDrift.make (driftNames (addedKeys expected actual)) (driftNames (addedKeys actual expected))
    (driftNames (changedKeys expected actual))

variable (library)

namespace ObservedInventory

/-- `ObservedInventory(candidate_sha256, tools, mcp_servers, observed_inventory_sha256, ..)`. -/
def make (candidateSha256 : PyValue) (tools mcpServers : List (Given InventoryEntry))
    (observedInventorySha256 : PyValue)
    (unknownNames missingNames schemaDriftNames : PyValue := .tuple []) :
    Except PyStr (ObservedInventory library) := do
  let candidateSha256 ← sha candidateSha256 (lit "candidate_sha256")
  let tools ← sortEntries InventoryEntry.key (← tools.mapM (Given.read observed)) (lit "tools")
  let mcpServers ← sortEntries InventoryEntry.key (← mcpServers.mapM (Given.read observed))
    (lit "mcp_servers")
  let drift ← InventoryDrift.make unknownNames missingNames schemaDriftNames
  let digest ← attach
    (canonicalSha256 library (observedProjection candidateSha256 tools.1 mcpServers.1))
  verifyHash observedInventorySha256 digest.1 (lit "observed_inventory_sha256")
  return { drift with
    candidateSha256, tools, mcpServers, observedInventorySha256 := digest.1, verified := digest.2 }

/-- `ObservedInventory.from_mapping`. -/
def fromMapping (value : PyValue) (declared : Option (Given (DeclaredInventory library)) := none) :
    Except PyStr (ObservedInventory library) := do
  let raw ← object value (lit "observed inventory")
    ["candidate_sha256", "tools", "mcp_servers", "observed_inventory_sha256", "unknown_names",
      "missing_names", "schema_drift_names"]
  let tools ← readSorted InventoryEntry.key (item raw "tools") (lit "tools") observed
  let mcpServers ← readSorted InventoryEntry.key (item raw "mcp_servers") (lit "mcp_servers") observed
  let unknownNames ← sortedNames (item raw "unknown_names") (lit "unknown_names")
  let missingNames ← sortedNames (item raw "missing_names") (lit "missing_names")
  let schemaDriftNames ← sortedNames (item raw "schema_drift_names") (lit "schema_drift_names")
  let result ← make library (item raw "candidate_sha256") (tools.map .object) (mcpServers.map .object)
    (item raw "observed_inventory_sha256") (.tuple unknownNames.items) (.tuple missingNames.items)
    (.tuple schemaDriftNames.items)
  match declared with
  | none => return result
  | some declared =>
    let expected ← driftOf (← declared.read (DeclaredInventory.fromMapping library)) result
    if result.toInventoryDrift = expected then return result
    else .error (lit "observed inventory drift does not match declared inventory")

variable {library}

/-- `ObservedInventory.to_dict`. -/
def toDict (inventory : ObservedInventory library) : PyValue :=
  dictOf [("candidate_sha256", .str inventory.candidateSha256.1),
    ("tools", .list (inventory.tools.1.map InventoryEntry.toDict)),
    ("mcp_servers", .list (inventory.mcpServers.1.map InventoryEntry.toDict)),
    ("observed_inventory_sha256", .str inventory.observedInventorySha256.1),
    ("unknown_names", .list inventory.unknownNames.items),
    ("missing_names", .list inventory.missingNames.items),
    ("schema_drift_names", .list inventory.schemaDriftNames.items)]

end ObservedInventory

/-- `derive_inventory_drift`. -/
def deriveInventoryDrift (declared : Given (DeclaredInventory library))
    (observed : Given (ObservedInventory library)) : Except PyStr InventoryDrift := do
  let left ← declared.read (DeclaredInventory.fromMapping library)
  let right ← observed.read fun value => ObservedInventory.fromMapping library value
  driftOf left right

/-- `build_observed_inventory`. -/
def buildObservedInventory (candidateSha256 : PyValue) (tools mcpServers : List (Given InventoryEntry))
    (declared : Option (Given (DeclaredInventory library)) := none) :
    Except PyStr (ObservedInventory library) := do
  let candidate ← sha candidateSha256 (lit "candidate_sha256")
  let tools ← sortEntries InventoryEntry.key (← tools.mapM (Given.read observed)) (lit "tools")
  let mcpServers ← sortEntries InventoryEntry.key (← mcpServers.mapM (Given.read observed))
    (lit "mcp_servers")
  let digest ← canonicalSha256 library (observedProjection candidate tools.1 mcpServers.1)
  let provisional ← ObservedInventory.make library (.str candidate.1) (tools.1.map .object)
    (mcpServers.1.map .object) (.str digest.1)
  let drift ← match declared with
    | none => InventoryDrift.make
    | some declared => deriveInventoryDrift library declared (.object provisional)
  ObservedInventory.make library (.str candidate.1) (tools.1.map .object) (mcpServers.1.map .object)
    (.str digest.1) (.tuple drift.unknownNames.items) (.tuple drift.missingNames.items)
    (.tuple drift.schemaDriftNames.items)

end Inventories

end HermesClaude.Parity.Inventory
