/-
# Gateway inventories

The tools of a gateway run: those delivered to the model and those that the host executes,
each with the digest of its schema.  An inventory is built from schemas in any order and is
read back from its document, where every field is checked again.

The mappings of a document are dictionaries, and what the file of an inventory holds is a
value of its own.
-/

import HermesClaude.Library.Indexed
import HermesClaude.Library.Keyed
import HermesClaude.Parity.GatewayEvents
import HermesClaude.Parity.Results

namespace HermesClaude.Parity

open HermesClaude.Python HermesClaude.Library ResultPacket

/-- What building and loading an inventory raise. -/
inductive V4GatewayInventoryError
  /-- `V4GatewayInventoryViolation(message)`. -/
  | violation (message : PyStr)
  /-- The `ValueError` of a text that has no encoding or of a number with too many digits,
  which is not caught. -/
  | valueError
  deriving DecidableEq

/-- `V4GatewayTool`. -/
structure V4GatewayTool where
  name : PyStr
  schemaSha256 : PyStr
  deriving DecidableEq

/-- `V4GatewayInventory`. -/
structure V4GatewayInventory where
  profileId : PyStr
  profileSha256 : PyStr
  hostSha : PyStr
  deliveredTools : List V4GatewayTool
  executableTools : List V4GatewayTool
  inventorySha256 : PyStr
  deriving DecidableEq

/-- `HERMES_DISCOVERY_TOOLS`. -/
def hermesDiscoveryTools : List PyStr := ["tool_search", "tool_describe", "tool_call"].map lit

/-- `_NATIVE_CLAUDE_TOOLS`, also the gateway's `_NATIVE_NAMES`. -/
def nativeClaudeTools : List PyStr := ["agent", "bash", "read", "write", "edit", "web"].map lit

namespace V4GatewayInventory

/-- What a check gives. -/
abbrev Checked := Except V4GatewayInventoryError

/-- `if not condition: raise V4GatewayInventoryViolation(message)`. -/
def ensure (condition : Bool) (message : PyStr) : Checked Unit :=
  if condition then .ok () else .error (.violation message)

/-! ## Documents -/

/-- `V4GatewayTool.to_dict`. -/
def toolDict (tool : V4GatewayTool) : Json :=
  .dict [(lit "name", .str tool.name), (lit "schema_sha256", .str tool.schemaSha256)]

/-- `delivered_names`, also `executable_names`. -/
def names (tools : List V4GatewayTool) : List PyStr := tools.map V4GatewayTool.name

/-- The digest of every name. -/
def byName (tools : List V4GatewayTool) : List (PyStr × PyStr) :=
  tools.map fun tool => (tool.name, tool.schemaSha256)

/-- What an inventory is hashed as. -/
def payload (inventory : V4GatewayInventory) : Entries :=
  [(lit "schema_version", .int 1),
    (lit "profile_id", .str inventory.profileId),
    (lit "profile_sha256", .str inventory.profileSha256),
    (lit "host_sha", .str inventory.hostSha),
    (lit "delivered_tools", .list (inventory.deliveredTools.map toolDict)),
    (lit "executable_tools", .list (inventory.executableTools.map toolDict))]

/-- `to_dict`. -/
def toDict (inventory : V4GatewayInventory) : Json :=
  .dict (inventory.payload ++ [(lit "inventory_sha256", .str inventory.inventorySha256)])

/-- `host_event_names`. -/
def hostEventNames (inventory : V4GatewayInventory) : List PyStr :=
  names inventory.deliveredTools ++ names inventory.executableTools

/-- `mcp_event_names`. -/
def mcpEventNames (inventory : V4GatewayInventory) : List PyStr :=
  (names inventory.deliveredTools).map fun name => toolPrefix ++ name

/-! ## Checks of single values -/

/-- A value that must be a text of some form. -/
def checkText (valid : PyStr → Bool) (value : PyValue) (message : PyStr) : Checked PyStr :=
  match value with
  | .str text => if valid text then .ok text else .error (.violation message)
  | _ => .error (.violation message)

/-- A digest of so many characters, not all of them zero. -/
def isDigest (size : Nat) (text : PyStr) : Bool :=
  isHex size text && text != List.replicate size 0x30

/-- `_digest`. -/
def digest (size : Nat) (value : PyValue) (field : PyStr) : Checked PyStr :=
  checkText (isDigest size) value (field ++ lit " is not a nonzero lowercase digest")

/-- A character of `[A-Za-z0-9]`. -/
def isLetterOrDigit (c : CodePoint) : Bool :=
  c.isIdentifier && c ∉ lit "_.:-"

/-- `_SAFE_NAME.fullmatch(text)`. -/
def isSafeName : PyStr → Bool
  | [] => false
  | first :: rest => isLetterOrDigit first && rest.length ≤ 127 && rest.all CodePoint.isIdentifier

/-- Texts that `_name` accepts.  Their case is folded once they are known to be ASCII. -/
def isToolName (text : PyStr) : Bool :=
  isSafeName text && text.map CodePoint.asciiLower ∉ nativeClaudeTools &&
    !(lit "mcp__").isPrefixOf text

/-- `_name`. -/
def name (value : PyValue) (field : PyStr) : Checked PyStr :=
  checkText isToolName value (field ++ lit " is invalid or Claude-native")

/-- `profile_id and len(profile_id) <= 128`. -/
def isProfileId (text : PyStr) : Bool := !text.isEmpty && text.length ≤ 128

/-- The check of `profile_id`. -/
def profileIdentifier (value : PyValue) : Checked PyStr :=
  checkText isProfileId value (lit "profile_id is invalid")

/-! ## Entries -/

/-- `set(mapping) == fields`. -/
def isClosed (items : Frame) (fields : List String) : Bool :=
  fields.all (fun field => items.any fun item => item.1.isText (lit field)) &&
    items.all fun item => fields.any fun field => item.1.isText (lit field)

/-- `_ENTRY_FIELDS`. -/
def entryFields : List String := ["name", "schema_sha256"]

/-- `f"{field}[{index}]"`. -/
def indexed (field : PyStr) (index : Nat) : PyStr := field ++ lit "[" ++ decimal index ++ lit "]"

/-- The body of the loop of `_entries`. -/
def entry (field : PyStr) (raw : PyValue × Nat) : Checked V4GatewayTool :=
  match raw.1.mapping? with
  | none => .error (.violation (indexed field raw.2 ++ lit " fields are not closed"))
  | some items => do
    ensure (isClosed items entryFields) (indexed field raw.2 ++ lit " fields are not closed")
    let name ← name (getItem items "name") (indexed field raw.2 ++ lit ".name")
    let schemaSha256 ← digest 64 (getItem items "schema_sha256")
      (indexed field raw.2 ++ lit ".schema_sha256")
    return { name, schemaSha256 }

/-- `_entries`. -/
def entries (value : PyValue) (field : PyStr) : Checked (List V4GatewayTool) :=
  match value.sequence? with
  | none | some [] => .error (.violation (field ++ lit " must be a non-empty list"))
  | some (first :: rest) => do
    let tools ← (first :: rest).zipIdx.mapM (entry field)
    ensure (names tools = sorted (names tools)) (field ++ lit " is not sorted")
    ensure (decide (names tools).Nodup) (field ++ lit " contains duplicate names")
    return tools

section Inventories

variable (floats : FloatText)

/-- `sha256_value`. -/
def sha256 (value : Json) : Checked PyStr :=
  match sha256Value floats value with
  | some digest => .ok digest
  | none => .error .valueError

/-- The check of the digest that a document claims, if it claims one. -/
def checkClaim (claimedSha256 : PyValue) (actual : PyStr) : Checked Unit :=
  match claimedSha256 with
  | .none => .ok ()
  | claimed => do
    let claimed ← digest 64 claimed (lit "inventory_sha256")
    ensure (claimed = actual) (lit "inventory_sha256 does not match the canonical inventory")

/-- `_build`. -/
def build (profileId profileSha256 hostSha deliveredTools executableTools : PyValue)
    (claimedSha256 : PyValue := .none) : Checked V4GatewayInventory := do
  let profileId ← profileIdentifier profileId
  let profileSha256 ← digest 64 profileSha256 (lit "profile_sha256")
  let hostSha ← digest 40 hostSha (lit "host_sha")
  let deliveredTools ← entries deliveredTools (lit "delivered_tools")
  let executableTools ← entries executableTools (lit "executable_tools")
  let delivered := byName deliveredTools
  let executable := byName executableTools
  ensure ((addedKeys executable delivered).all fun name => name ∈ hermesDiscoveryTools)
    (lit "delivered tools absent from the executable surface are not Hermes discovery bridges")
  ensure (changedKeys delivered executable).isEmpty
    (lit "shared delivered/executable tool schemas differ")
  let inventory : V4GatewayInventory :=
    { profileId, profileSha256, hostSha, deliveredTools, executableTools, inventorySha256 := [] }
  let inventorySha256 ← sha256 floats (.dict inventory.payload)
  checkClaim claimedSha256 inventorySha256
  return { inventory with inventorySha256 }

/-! ## Building -/

/-- The body of the loop of `_schema_entries`. -/
def schemaEntry (field : PyStr) (raw : PyValue × Nat) : Checked V4GatewayTool :=
  match raw.1.mapping? with
  | none => .error (.violation (indexed field raw.2 ++ lit " must be a mapping"))
  | some items =>
    let function :=
      if (getItem items "type").isText (lit "function") then getItem items "function" else raw.1
    match function.mapping? with
    | none => .error (.violation (indexed field raw.2 ++ lit " has no function schema"))
    | some function => do
      let name ← name (getItem function "name") (indexed field raw.2 ++ lit ".name")
      let parameters := (PyValue.lookupKey function (lit "parameters")).getD (.dict [])
      ensure parameters.mapping?.isSome (indexed field raw.2 ++ lit " parameters are invalid")
      match jsonCompatible parameters with
      | none =>
        .error (.violation (indexed field raw.2 ++ lit " parameters are not JSON-compatible"))
      | some normalized => do
        let schemaSha256 ← sha256 floats normalized
        return { name, schemaSha256 }

/-- `_schema_entries`, of a list of schemas. -/
def schemaEntries (schemas : List PyValue) (field : PyStr) : Checked PyValue := do
  let rows ← schemas.zipIdx.mapM (schemaEntry floats field)
  return .list ((sortByKey V4GatewayTool.name rows).map fun row => (toolDict row).toValue)

/-- `build_v4_gateway_inventory`. -/
def buildV4GatewayInventory (profileId profileSha256 hostSha : PyStr)
    (deliveredSchemas executableSchemas : List PyValue) : Checked V4GatewayInventory := do
  let deliveredTools ← schemaEntries floats deliveredSchemas (lit "delivered_schemas")
  let executableTools ← schemaEntries floats executableSchemas (lit "executable_schemas")
  build floats (.str profileId) (.str profileSha256) (.str hostSha) deliveredTools executableTools

/-! ## Loading -/

/-- What an inventory is loaded from. -/
inductive Source
  | object (inventory : V4GatewayInventory)
  | mapping (items : Frame)
  /-- A path: whether it is a regular file of at most `_MAX_BYTES` bytes, and what
  `yaml.safe_load` makes of its text, if it does not raise. -/
  | path (bounded : Bool) (loaded : Option PyValue)

/-- The value whose fields are checked. -/
def Source.raw : Source → Checked PyValue
  | .object inventory => .ok inventory.toDict.toValue
  | .mapping items => .ok (.dict items)
  | .path bounded loaded =>
    if !bounded then .error (.violation (lit "inventory path is not a bounded regular file"))
    else match loaded.bind jsonCompatible with
      | some raw => .ok raw.toValue
      | none => .error (.violation (lit "inventory cannot be parsed safely"))

/-- `_ROOT_FIELDS`. -/
def rootFields : List String :=
  ["schema_version", "profile_id", "profile_sha256", "host_sha", "delivered_tools",
    "executable_tools", "inventory_sha256"]

/-- `value == 1`. -/
def isOne : PyValue → Bool
  | .int i => i = 1
  | .bool b => b
  | .float f => f = .finite 1
  | _ => false

/-- The check of one expectation, if there is one. -/
def checkExpected (expected : Option PyStr) (actual : PyStr) (field : String) : Checked Unit :=
  ensure (expected.all fun expected => actual = expected)
    (lit "inventory " ++ lit field ++ lit " does not match the candidate")

/-- The checks of what is expected of an inventory. -/
def checkAllExpected (inventory : V4GatewayInventory)
    (expectedProfileId expectedProfileSha256 expectedHostSha : Option PyStr) : Checked Unit := do
  checkExpected expectedProfileId inventory.profileId "profile_id"
  checkExpected expectedProfileSha256 inventory.profileSha256 "profile_sha256"
  checkExpected expectedHostSha inventory.hostSha "host_sha"

/-- The inventory that the fields of a value make. -/
def fromRaw (raw : PyValue) : Checked V4GatewayInventory :=
  match raw.mapping? with
  | none => .error (.violation (lit "inventory envelope fields are not closed"))
  | some items => do
    ensure (isClosed items rootFields && isOne (getItem items "schema_version"))
      (lit "inventory envelope fields are not closed")
    build floats (getItem items "profile_id") (getItem items "profile_sha256")
      (getItem items "host_sha") (getItem items "delivered_tools")
      (getItem items "executable_tools") (getItem items "inventory_sha256")

/-- `load_v4_gateway_inventory`. -/
def loadV4GatewayInventory (source : Source)
    (expectedProfileId expectedProfileSha256 expectedHostSha : Option PyStr) :
    Checked V4GatewayInventory := do
  let raw ← source.raw
  let inventory ← fromRaw floats raw
  checkAllExpected inventory expectedProfileId expectedProfileSha256 expectedHostSha
  return inventory

end Inventories

/-! ## What is accepted -/

section Accepted

theorem ensure_eq_ok {condition : Bool} {message : PyStr} {u : Unit} :
    ensure condition message = .ok u ↔ condition = true := by
  cases condition with
  | false => simp [ensure]
  | true => simp [ensure]

theorem checkText_eq_ok {valid : PyStr → Bool} {value : PyValue} {message text : PyStr} :
    checkText valid value message = .ok text ↔ value = .str text ∧ valid text = true := by
  cases value with
  | str found =>
    rw [checkText, PyValue.str.injEq]
    split_ifs with h
    · rw [Except.ok.injEq]
      exact ⟨fun hfound => ⟨hfound, hfound ▸ h⟩, And.left⟩
    · apply iff_of_false
      · intro hfound
        cases hfound
      · intro hfound
        exact h (hfound.1 ▸ hfound.2)
  | _ =>
    apply iff_of_false
    · intro hfound
      cases hfound
    · intro hfound
      cases hfound.1

/-- What is asked of a tool. -/
structure ToolWellFormed (tool : V4GatewayTool) : Prop where
  name : isToolName tool.name = true
  schemaSha256 : isDigest 64 tool.schemaSha256 = true

/-- What is asked of a list of tools. -/
structure ToolsWellFormed (tools : List V4GatewayTool) : Prop where
  nonempty : tools ≠ []
  each : ∀ tool ∈ tools, ToolWellFormed tool
  inOrder : InKeyOrder V4GatewayTool.name tools

/-- A mapping that says what a tool is. -/
def DescribesTool (raw : PyValue) (tool : V4GatewayTool) : Prop :=
  ∃ items, raw.mapping? = some items ∧ isClosed items entryFields = true ∧
    getItem items "name" = .str tool.name ∧ getItem items "schema_sha256" = .str tool.schemaSha256

/-- A sequence that says what the tools are. -/
def DescribesTools (value : PyValue) (tools : List V4GatewayTool) : Prop :=
  ∃ rows, value.sequence? = some rows ∧ List.Forall₂ DescribesTool rows tools

theorem entry_eq_ok {field : PyStr} {raw : PyValue × Nat} {tool : V4GatewayTool} :
    entry field raw = .ok tool ↔ DescribesTool raw.1 tool ∧ ToolWellFormed tool := by
  rw [entry, DescribesTool]
  cases raw.1.mapping? with
  | none =>
    apply iff_of_false
    · intro h
      cases h
    · rintro ⟨⟨items, h, -⟩, -⟩
      cases h
  | some items =>
    simp only [bind_eq_ok, ensure_eq_ok, name, digest, checkText_eq_ok, Option.some.injEq,
      exists_eq_left']
    constructor
    · rintro ⟨-, hclosed, name, ⟨hname, hvalid⟩, schema, ⟨hschema, hdigest⟩, h⟩
      cases h
      exact ⟨⟨hclosed, hname, hschema⟩, ⟨hvalid, hdigest⟩⟩
    · rintro ⟨⟨hclosed, hname, hschema⟩, hvalid⟩
      exact ⟨(), hclosed, tool.name, ⟨hname, hvalid.name⟩, tool.schemaSha256,
        ⟨hschema, hvalid.schemaSha256⟩, rfl⟩

/-- Names are sorted and distinct where they are in order. -/
theorem sorted_nodup_iff {tools : List V4GatewayTool} :
    (names tools = sorted (names tools) ∧ (names tools).Nodup) ↔
      InKeyOrder V4GatewayTool.name tools := by
  constructor
  · rintro ⟨hsorted, hnodup⟩
    have hkeys : InKeyOrder id (sortByKey id (names tools)) :=
      inKeyOrder_sortByKey (by rwa [List.map_id])
    have hsame : sortByKey id (names tools) = names tools := hsorted.symm
    rw [hsame] at hkeys
    exact List.pairwise_map.mp hkeys
  · intro h
    have hkeys : InKeyOrder id (names tools) := List.pairwise_map.mpr h
    exact ⟨(sortByKey_eq_self hkeys).symm, h.nodup⟩

theorem entries_eq_ok {value : PyValue} {field : PyStr} {tools : List V4GatewayTool} :
    entries value field = .ok tools ↔ DescribesTools value tools ∧ ToolsWellFormed tools := by
  rw [entries, DescribesTools]
  cases value.sequence? with
  | none =>
    apply iff_of_false
    · intro h
      cases h
    · rintro ⟨⟨rows, h, -⟩, -⟩
      cases h
  | some rows =>
    cases rows with
    | nil =>
      apply iff_of_false
      · intro h
        cases h
      · rintro ⟨⟨rows, h, hrows⟩, hwell⟩
        cases h
        cases hrows
        exact hwell.nonempty rfl
    | cons first rest =>
      have hrows : ∀ found, (first :: rest).zipIdx.mapM (entry field) = .ok found ↔
          List.Forall₂ DescribesTool (first :: rest) found ∧ ∀ tool ∈ found, ToolWellFormed tool := by
        intro found
        rw [← forall₂_and_right]
        exact mapM_zipIdx_eq_ok fun raw index tool => entry_eq_ok
      simp only [bind_eq_ok, ensure_eq_ok, decide_eq_true_eq, hrows, Option.some.injEq,
        exists_eq_left']
      constructor
      · rintro ⟨found, ⟨hfound, hwell⟩, -, hsorted, -, hnodup, h⟩
        cases h
        refine ⟨hfound, ?_, hwell, sorted_nodup_iff.mp ⟨hsorted, hnodup⟩⟩
        rintro rfl
        cases hfound
      · rintro ⟨hfound, hwell⟩
        obtain ⟨hsorted, hnodup⟩ := sorted_nodup_iff.mpr hwell.inOrder
        exact ⟨tools, ⟨hfound, hwell.each⟩, (), hsorted, (), hnodup, rfl⟩

/-! ### Inventories -/

variable {floats : FloatText}

theorem sha256_eq_ok {value : Json} {found : PyStr} :
    sha256 floats value = .ok found ↔ sha256Value floats value = some found := by
  rw [sha256]
  cases sha256Value floats value with
  | none => simp
  | some digest => simp

theorem checkClaim_eq_ok {claimed : PyValue} {actual : PyStr} {u : Unit} :
    checkClaim claimed actual = .ok u ↔
      claimed = .none ∨ claimed = .str actual ∧ isDigest 64 actual = true := by
  cases claimed with
  | none => exact iff_of_true rfl (.inl rfl)
  | _ =>
    simp only [checkClaim, digest, bind_eq_ok, checkText_eq_ok, ensure_eq_ok, decide_eq_true_eq,
      reduceCtorEq, false_or]
    constructor
    · rintro ⟨found, ⟨hclaimed, hdigest⟩, rfl⟩
      exact ⟨hclaimed, hdigest⟩
    · rintro ⟨hclaimed, hdigest⟩
      exact ⟨actual, ⟨hclaimed, hdigest⟩, rfl⟩

theorem byName_keys (tools : List V4GatewayTool) : (byName tools).map Prod.fst = names tools := by
  rw [byName, List.map_map]
  rfl

/-- Every delivered tool is executable, or a bridge that finds tools. -/
theorem discovery_iff {delivered executable : List V4GatewayTool} :
    ((addedKeys (byName executable) (byName delivered)).all fun name => name ∈ hermesDiscoveryTools) =
        true ↔
      ∀ tool ∈ delivered, tool.name ∈ names executable ∨ tool.name ∈ hermesDiscoveryTools := by
  simp only [List.all_eq_true, mem_addedKeys, byName_keys, decide_eq_true_eq, and_imp]
  constructor
  · intro h tool htool
    by_cases hexecutable : tool.name ∈ names executable
    · exact .inl hexecutable
    · exact .inr (h tool.name (List.mem_map_of_mem htool) hexecutable)
  · intro h name hname hnot
    obtain ⟨tool, htool, rfl⟩ := List.mem_map.mp hname
    exact (h tool htool).resolve_left hnot

/-- A tool that is delivered and executable has one schema. -/
theorem shared_iff {delivered executable : List V4GatewayTool} (hnodup : (names executable).Nodup) :
    (changedKeys (byName delivered) (byName executable)).isEmpty = true ↔
      ∀ tool ∈ delivered, ∀ other ∈ executable, tool.name = other.name → tool = other := by
  rw [← byName_keys] at hnodup
  rw [List.isEmpty_iff, List.eq_nil_iff_forall_not_mem]
  simp only [mem_changedKeys hnodup]
  constructor
  · intro h tool htool other hother hname
    have hschema : other.schemaSha256 = tool.schemaSha256 := by
      by_contra hne
      refine h tool.name ⟨tool.schemaSha256, other.schemaSha256, List.mem_map_of_mem htool, ?_, hne⟩
      rw [hname]
      exact List.mem_map_of_mem hother
    cases tool
    cases other
    simp_all
  · rintro h name ⟨schema, otherSchema, htool, hother, hne⟩
    obtain ⟨tool, hmem, hpair⟩ := List.mem_map.mp htool
    obtain ⟨other, hmem', hpair'⟩ := List.mem_map.mp hother
    cases hpair
    obtain ⟨hname, hschema⟩ := Prod.mk.inj hpair'
    rw [h tool hmem other hmem' hname.symm] at hne
    exact hne hschema.symm

/-- What every inventory that is built or loaded has. -/
structure WellFormed (floats : FloatText) (inventory : V4GatewayInventory) : Prop where
  profileId : isProfileId inventory.profileId = true
  profileSha256 : isDigest 64 inventory.profileSha256 = true
  hostSha : isDigest 40 inventory.hostSha = true
  delivered : ToolsWellFormed inventory.deliveredTools
  executable : ToolsWellFormed inventory.executableTools
  discovery : ∀ tool ∈ inventory.deliveredTools,
    tool.name ∈ names inventory.executableTools ∨ tool.name ∈ hermesDiscoveryTools
  shared : ∀ tool ∈ inventory.deliveredTools, ∀ other ∈ inventory.executableTools,
    tool.name = other.name → tool = other
  verified : sha256Value floats (.dict inventory.payload) = some inventory.inventorySha256

theorem build_eq_ok {profileId profileSha256 hostSha delivered executable claimed : PyValue}
    {inventory : V4GatewayInventory} :
    build floats profileId profileSha256 hostSha delivered executable claimed = .ok inventory ↔
      profileId = .str inventory.profileId ∧ profileSha256 = .str inventory.profileSha256 ∧
        hostSha = .str inventory.hostSha ∧ DescribesTools delivered inventory.deliveredTools ∧
        DescribesTools executable inventory.executableTools ∧
        (claimed = .none ∨
          claimed = .str inventory.inventorySha256 ∧ isDigest 64 inventory.inventorySha256 = true) ∧
        inventory.WellFormed floats := by
  simp only [build, profileIdentifier, digest, bind_eq_ok, checkText_eq_ok, entries_eq_ok,
    ensure_eq_ok, discovery_iff, sha256_eq_ok, checkClaim_eq_ok]
  constructor
  · rintro ⟨profile, ⟨rfl, hprofile⟩, profileSha, ⟨rfl, hsha⟩, host, ⟨rfl, hhost⟩, deliveredTools,
      ⟨hdelivered, hdeliveredWell⟩, executableTools, ⟨hexecutable, hexecutableWell⟩, -, hdiscovery, -,
      hshared, digest, hverified, -, hclaimed, h⟩
    cases h
    rw [shared_iff hexecutableWell.inOrder.nodup] at hshared
    exact ⟨rfl, rfl, rfl, hdelivered, hexecutable, hclaimed, hprofile, hsha, hhost, hdeliveredWell,
      hexecutableWell, hdiscovery, hshared, hverified⟩
  · rintro ⟨rfl, rfl, rfl, hdelivered, hexecutable, hclaimed, hwell⟩
    exact ⟨_, ⟨rfl, hwell.profileId⟩, _, ⟨rfl, hwell.profileSha256⟩, _, ⟨rfl, hwell.hostSha⟩, _,
      ⟨hdelivered, hwell.delivered⟩, _, ⟨hexecutable, hwell.executable⟩, (), hwell.discovery, (),
      (shared_iff hwell.executable.inOrder.nodup).mpr hwell.shared, _, hwell.verified, (), hclaimed,
      rfl⟩

/-- The fields of a document say what an inventory is. -/
structure Describes (items : Frame) (inventory : V4GatewayInventory) : Prop where
  closed : isClosed items rootFields = true
  version : isOne (getItem items "schema_version") = true
  profileId : getItem items "profile_id" = .str inventory.profileId
  profileSha256 : getItem items "profile_sha256" = .str inventory.profileSha256
  hostSha : getItem items "host_sha" = .str inventory.hostSha
  delivered : DescribesTools (getItem items "delivered_tools") inventory.deliveredTools
  executable : DescribesTools (getItem items "executable_tools") inventory.executableTools
  /-- A document may leave its digest open with `None`. -/
  claimed : getItem items "inventory_sha256" = .none ∨
    getItem items "inventory_sha256" = .str inventory.inventorySha256 ∧
      isDigest 64 inventory.inventorySha256 = true

theorem fromRaw_eq_ok {items : Frame} {inventory : V4GatewayInventory} :
    fromRaw floats (.dict items) = .ok inventory ↔
      Describes items inventory ∧ inventory.WellFormed floats := by
  simp only [fromRaw, PyValue.mapping?, bind_eq_ok, ensure_eq_ok, Bool.and_eq_true, build_eq_ok]
  constructor
  · rintro ⟨-, ⟨hclosed, hversion⟩, hprofile, hsha, hhost, hdelivered, hexecutable, hclaimed, hwell⟩
    exact ⟨⟨hclosed, hversion, hprofile, hsha, hhost, hdelivered, hexecutable, hclaimed⟩, hwell⟩
  · rintro ⟨h, hwell⟩
    exact ⟨(), ⟨h.closed, h.version⟩, h.profileId, h.profileSha256, h.hostSha, h.delivered,
      h.executable, h.claimed, hwell⟩

theorem checkAllExpected_eq_ok {inventory : V4GatewayInventory} {profileId profileSha256 hostSha : Option PyStr}
    {u : Unit} : checkAllExpected inventory profileId profileSha256 hostSha = .ok u ↔
      (∀ expected ∈ profileId, inventory.profileId = expected) ∧
        (∀ expected ∈ profileSha256, inventory.profileSha256 = expected) ∧
        ∀ expected ∈ hostSha, inventory.hostSha = expected := by
  simp only [checkAllExpected, checkExpected, bind_eq_ok, ensure_eq_ok, Option.all_eq_true,
    decide_eq_true_eq]
  constructor
  · rintro ⟨-, hprofile, -, hsha, hhost⟩
    exact ⟨hprofile, hsha, hhost⟩
  · rintro ⟨hprofile, hsha, hhost⟩
    exact ⟨(), hprofile, (), hsha, hhost⟩

/-- **What is loaded.** A document is accepted as an inventory exactly where its fields are closed
and say what the inventory is, the inventory is well formed and carries the digest of its own
content, and it is the expected one. -/
theorem load_document_iff (floats : FloatText) (items : Frame) (inventory : V4GatewayInventory)
    (profileId profileSha256 hostSha : Option PyStr) :
    loadV4GatewayInventory floats (.mapping items) profileId profileSha256 hostSha = .ok inventory ↔
      Describes items inventory ∧ inventory.WellFormed floats ∧
        (∀ expected ∈ profileId, inventory.profileId = expected) ∧
        (∀ expected ∈ profileSha256, inventory.profileSha256 = expected) ∧
        ∀ expected ∈ hostSha, inventory.hostSha = expected := by
  simp only [loadV4GatewayInventory, Source.raw, ok_bind, bind_eq_ok, fromRaw_eq_ok,
    checkAllExpected_eq_ok]
  constructor
  · rintro ⟨found, ⟨hdescribes, hwell⟩, -, hexpected, h⟩
    cases h
    exact ⟨hdescribes, hwell, hexpected⟩
  · rintro ⟨hdescribes, hwell, hexpected⟩
    exact ⟨inventory, ⟨hdescribes, hwell⟩, (), hexpected, rfl⟩

end Accepted

end V4GatewayInventory

end HermesClaude.Parity
