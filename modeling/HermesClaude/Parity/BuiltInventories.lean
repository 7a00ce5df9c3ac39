/-
# Built inventories

An inventory that is built lists exactly the tools of its schemas, in whatever order these were
given, and is loaded again from its own document.  A gateway that is given its names takes them
where none is too long for the kind of an event.
-/

import HermesClaude.Parity.GatewayInventory
import HermesClaude.Parity.InventoryDrift

namespace HermesClaude.Parity.V4GatewayInventory

open HermesClaude.Python HermesClaude.Library ResultPacket

variable {floats : FloatText}

/-! ## Reading back -/

/-- The items of a document as a mapping has them. -/
def documentItems (fields : List (String × PyValue)) : Frame :=
  fields.map fun field => (.str (lit field.1), field.2)

theorem isClosed_documentItems (fields : List (String × PyValue)) :
    isClosed (documentItems fields) (fields.map Prod.fst) = true := by
  simp only [isClosed, documentItems, Bool.and_eq_true, List.all_eq_true, List.any_eq_true,
    List.mem_map, PyValue.isText_iff]
  constructor
  · rintro _ ⟨field, hfield, rfl⟩
    exact ⟨_, ⟨field, hfield, rfl⟩, rfl⟩
  · rintro _ ⟨field, hfield, rfl⟩
    exact ⟨_, ⟨field, hfield, rfl⟩, rfl⟩

theorem getItem_documentItems (fields : List (String × PyValue)) (key : String) :
    getItem (documentItems fields) key = (fields.lookup key).getD .none :=
  Inventory.item_document fields key

/-- A mapping that is written for a tool describes this tool only. -/
theorem describesTool_toolDict {tool found : V4GatewayTool} :
    DescribesTool (toolDict tool).toValue found ↔ tool = found := by
  constructor
  · rintro ⟨items, hitems, -, hname, hschema⟩
    cases hitems
    cases found
    cases hname
    cases hschema
    rfl
  · rintro rfl
    exact ⟨_, rfl, isClosed_documentItems
      [("name", .str tool.name), ("schema_sha256", .str tool.schemaSha256)], rfl, rfl⟩

theorem describesTools_documents {tools found : List V4GatewayTool} :
    DescribesTools (.list (tools.map fun tool => (toolDict tool).toValue)) found ↔ tools = found := by
  have hrows : List.Forall₂ DescribesTool (tools.map fun tool => (toolDict tool).toValue) found ↔
      tools = found := by
    rw [List.forall₂_map_left_iff]
    simp only [describesTool_toolDict]
    change List.Forall₂ Eq tools found ↔ tools = found
    rw [List.forall₂_eq_eq_eq]
  constructor
  · rintro ⟨rows, h, hfound⟩
    cases h
    exact hrows.mp hfound
  · intro h
    exact ⟨_, rfl, hrows.mpr h⟩

/-- The fields of the document of an inventory. -/
def fields (inventory : V4GatewayInventory) : List (String × PyValue) :=
  [("schema_version", .int 1), ("profile_id", .str inventory.profileId),
    ("profile_sha256", .str inventory.profileSha256), ("host_sha", .str inventory.hostSha),
    ("delivered_tools", .list (inventory.deliveredTools.map fun tool => (toolDict tool).toValue)),
    ("executable_tools", .list (inventory.executableTools.map fun tool => (toolDict tool).toValue)),
    ("inventory_sha256", .str inventory.inventorySha256)]

theorem toDict_toValue (inventory : V4GatewayInventory) :
    inventory.toDict.toValue = .dict (documentItems inventory.fields) := by
  simp only [toDict, payload, List.cons_append, List.nil_append, Json.toValue, Json.toValueItems,
    Json.toValueList_eq, List.map_map]
  rfl

/-- Building an inventory of the parts of a well-formed one checks only the claim. -/
theorem build_of_wellFormed {inventory : V4GatewayInventory} (h : inventory.WellFormed floats)
    {delivered executable : PyValue} (hdelivered : DescribesTools delivered inventory.deliveredTools)
    (hexecutable : DescribesTools executable inventory.executableTools) (claimed : PyValue) :
    build floats (.str inventory.profileId) (.str inventory.profileSha256) (.str inventory.hostSha)
        delivered executable claimed = (do
      checkClaim claimed inventory.inventorySha256
      return inventory) := by
  have hprofile : profileIdentifier (.str inventory.profileId) = .ok inventory.profileId :=
    checkText_eq_ok.mpr ⟨rfl, h.profileId⟩
  have hprofileSha : digest 64 (.str inventory.profileSha256) (lit "profile_sha256") =
      .ok inventory.profileSha256 := checkText_eq_ok.mpr ⟨rfl, h.profileSha256⟩
  have hhost : digest 40 (.str inventory.hostSha) (lit "host_sha") = .ok inventory.hostSha :=
    checkText_eq_ok.mpr ⟨rfl, h.hostSha⟩
  have hdeliveredTools : entries delivered (lit "delivered_tools") = .ok inventory.deliveredTools :=
    entries_eq_ok.mpr ⟨hdelivered, h.delivered⟩
  have hexecutableTools : entries executable (lit "executable_tools") = .ok inventory.executableTools :=
    entries_eq_ok.mpr ⟨hexecutable, h.executable⟩
  have hshared := (shared_iff h.executable.inOrder.nodup).mpr h.shared
  have hsha : sha256 floats (.dict inventory.payload) = .ok inventory.inventorySha256 :=
    sha256_eq_ok.mpr h.verified
  simp only [build, hprofile, hprofileSha, hhost, hdeliveredTools, hexecutableTools, ok_bind, ensure,
    discovery_iff.mpr h.discovery, hshared, if_true]
  change (sha256 floats (.dict inventory.payload) >>= _) = _
  rw [hsha]
  rfl

/-- The digest of an inventory is one of hexadecimal digits. -/
theorem WellFormed.isHex {inventory : V4GatewayInventory} (h : inventory.WellFormed floats) :
    isHex 64 inventory.inventorySha256 = true := by
  obtain ⟨data, -, hdata⟩ := Option.map_eq_some_iff.mp h.verified
  rw [← hdata]
  exact isHex_hexdigest data

/-- `value != "0" * 64`, and the error where it is not. -/
def ensureNonzero (inventory : V4GatewayInventory) : Checked Unit :=
  ensure (inventory.inventorySha256 != List.replicate 64 0x30)
    (lit "inventory_sha256" ++ lit " is not a nonzero lowercase digest")

/-- Reading the document of a well-formed inventory only looks at its digest again. -/
theorem fromRaw_toDict {inventory : V4GatewayInventory} (h : inventory.WellFormed floats) :
    fromRaw floats inventory.toDict.toValue = (do
      ensureNonzero inventory
      return inventory) := by
  have hclaim : checkClaim (.str inventory.inventorySha256) inventory.inventorySha256 =
      ensureNonzero inventory := by
    simp only [checkClaim, digest, checkText, isDigest, h.isHex, Bool.true_and, ensureNonzero, ensure]
    split_ifs with hnonzero
    · rw [ok_bind]
      simp
    · rfl
  have hclosed : (isClosed (documentItems inventory.fields) rootFields &&
      isOne (getItem (documentItems inventory.fields) "schema_version")) = true :=
    Bool.and_eq_true_iff.mpr ⟨isClosed_documentItems inventory.fields, rfl⟩
  have hbuild := build_of_wellFormed h (describesTools_documents.mpr rfl)
    (describesTools_documents.mpr rfl) (.str inventory.inventorySha256)
  rw [hclaim] at hbuild
  rw [toDict_toValue, fromRaw]
  dsimp only [PyValue.mapping?]
  rw [ensure, if_pos hclosed, ok_bind]
  simp only [getItem_documentItems]
  exact hbuild

/-! ## Building from schemas -/

/-- What a schema says of a tool, wherever it stands in its list. -/
def SchemaOf (floats : FloatText) (raw : PyValue) (tool : V4GatewayTool) : Prop :=
  schemaEntry floats [] (raw, 0) = .ok tool

/-- The place of a schema only matters in errors. -/
theorem schemaEntry_eq_ok (field : PyStr) (raw : PyValue) (index : Nat) (tool : V4GatewayTool) :
    schemaEntry floats field (raw, index) = .ok tool ↔ SchemaOf floats raw tool := by
  rw [SchemaOf, schemaEntry, schemaEntry]
  cases raw.mapping? with
  | none => simp
  | some items =>
    dsimp only
    cases PyValue.mapping? (if (getItem items "type").isText (lit "function") then
        getItem items "function" else raw) with
    | none => simp
    | some function =>
      simp only [bind_eq_ok, ensure_eq_ok, name, checkText_eq_ok]
      cases jsonCompatible ((PyValue.lookupKey function (lit "parameters")).getD (.dict [])) with
      | none => simp
      | some normalized => exact Iff.rfl

/-- The tools that schemas say, in any order. -/
def SchemasOf (floats : FloatText) (schemas : List PyValue) (tools : List V4GatewayTool) : Prop :=
  ∃ rows, List.Forall₂ (SchemaOf floats) schemas rows ∧ rows.Perm tools

/-- The order of schemas does not matter for what they say. -/
theorem SchemasOf.perm {schemas schemas' : List PyValue} {tools : List V4GatewayTool}
    (h : SchemasOf floats schemas tools) (hperm : schemas.Perm schemas') :
    SchemasOf floats schemas' tools := by
  obtain ⟨rows, hrows, htools⟩ := h
  obtain ⟨rows', hrows', hperm'⟩ := List.perm_comp_forall₂ hperm.symm hrows
  exact ⟨rows', hrows', hperm'.trans htools⟩

/-- Schemas give the documents of their tools, in the order of their names. -/
theorem schemaEntries_eq_ok {schemas : List PyValue} {field : PyStr} {value : PyValue} :
    schemaEntries floats schemas field = .ok value ↔
      ∃ rows, List.Forall₂ (SchemaOf floats) schemas rows ∧
        value = .list ((sortByKey V4GatewayTool.name rows).map fun row => (toolDict row).toValue) := by
  rw [schemaEntries, bind_eq_ok]
  have hrows : ∀ rows, schemas.zipIdx.mapM (schemaEntry floats field) = .ok rows ↔
      List.Forall₂ (SchemaOf floats) schemas rows := by
    intro rows
    exact mapM_zipIdx_eq_ok (schemaEntry_eq_ok field)
  constructor
  · rintro ⟨rows, h, hvalue⟩
    cases hvalue
    exact ⟨rows, (hrows rows).mp h, rfl⟩
  · rintro ⟨rows, h, rfl⟩
    exact ⟨rows, (hrows rows).mpr h, rfl⟩

/-- Tools in the order of their names are the sorted tools of schemas. -/
theorem sorted_rows_iff {rows tools : List V4GatewayTool} (h : InKeyOrder V4GatewayTool.name tools) :
    sortByKey V4GatewayTool.name rows = tools ↔ rows.Perm tools := by
  constructor
  · rintro rfl
    exact (perm_sortByKey rows).symm
  · intro hperm
    rw [← sortByKey_eq_self h]
    exact sortByKey_eq_of_perm ((hperm.map V4GatewayTool.name).nodup_iff.mpr h.nodup) hperm

/-- An inventory that is built is well formed and lists the tools of its schemas. -/
theorem buildV4GatewayInventory_eq_ok {profileId profileSha256 hostSha : PyStr}
    {delivered executable : List PyValue} {inventory : V4GatewayInventory} :
    buildV4GatewayInventory floats profileId profileSha256 hostSha delivered executable =
        .ok inventory ↔
      (inventory.profileId = profileId ∧ inventory.profileSha256 = profileSha256 ∧
        inventory.hostSha = hostSha) ∧ SchemasOf floats delivered inventory.deliveredTools ∧
        SchemasOf floats executable inventory.executableTools ∧ inventory.WellFormed floats := by
  simp only [buildV4GatewayInventory, bind_eq_ok, schemaEntries_eq_ok, build_eq_ok,
    PyValue.str.injEq]
  constructor
  · rintro ⟨_, ⟨rows, hrows, rfl⟩, _, ⟨rows', hrows', rfl⟩, hprofile, hsha, hhost, hdelivered,
      hexecutable, -, hwell⟩
    rw [describesTools_documents, sorted_rows_iff hwell.delivered.inOrder] at hdelivered
    rw [describesTools_documents, sorted_rows_iff hwell.executable.inOrder] at hexecutable
    exact ⟨⟨hprofile.symm, hsha.symm, hhost.symm⟩, ⟨rows, hrows, hdelivered⟩,
      ⟨rows', hrows', hexecutable⟩, hwell⟩
  · rintro ⟨⟨hprofile, hsha, hhost⟩, ⟨rows, hrows, hdelivered⟩, ⟨rows', hrows', hexecutable⟩, hwell⟩
    refine ⟨_, ⟨rows, hrows, rfl⟩, _, ⟨rows', hrows', rfl⟩, hprofile.symm, hsha.symm, hhost.symm, ?_,
      ?_, .inl trivial, hwell⟩
    · rw [describesTools_documents, sorted_rows_iff hwell.delivered.inOrder]
      exact hdelivered
    · rw [describesTools_documents, sorted_rows_iff hwell.executable.inOrder]
      exact hexecutable

/-- **What is built is loaded.** Loading a built inventory gives it back and checks nothing that
building has not checked, except that its digest is not a row of zeros and that it is the expected
one. -/
theorem load_built (floats : FloatText) (profileId profileSha256 hostSha : PyStr)
    (delivered executable : List PyValue) (expectedId expectedSha256 expectedHost : Option PyStr) :
    (do
      let inventory ←
        buildV4GatewayInventory floats profileId profileSha256 hostSha delivered executable
      loadV4GatewayInventory floats (.object inventory) expectedId expectedSha256 expectedHost) =
    (do
      let inventory ←
        buildV4GatewayInventory floats profileId profileSha256 hostSha delivered executable
      ensureNonzero inventory
      checkAllExpected inventory expectedId expectedSha256 expectedHost
      return inventory) := by
  cases hbuilt : buildV4GatewayInventory floats profileId profileSha256 hostSha delivered executable with
  | error violation => rfl
  | ok inventory =>
    have hwell := (buildV4GatewayInventory_eq_ok.mp hbuilt).2.2.2
    simp only [ok_bind, loadV4GatewayInventory, Source.raw, fromRaw_toDict hwell]
    cases ensureNonzero inventory with
    | error violation => rfl
    | ok _ => rfl

/-- The schema of a tool without parameters. -/
def plainSchema (name : String) : PyValue := .dict [(.str (lit "name"), .str (lit name))]

/-- The names that `_host_inventory` takes.  Their case is folded once they are known to be
ASCII. -/
def isInventoryName (namespacePrefix text : PyStr) : Bool :=
  matchesSafeKind text &&
    if namespacePrefix = [] then text.map CodePoint.asciiLower ∉ nativeClaudeTools
    else text != namespacePrefix && namespacePrefix.isPrefixOf text

/-- `_host_inventory`, of a set of texts. -/
def hostInventory (tools : Option (List PyStr)) (namespacePrefix : PyStr := []) :
    Except GatewayError (List PyStr) :=
  match tools with
  | none => .ok (if namespacePrefix = [] then hostTools else mcpTools)
  | some tools =>
    if tools.all (isInventoryName namespacePrefix) then .ok tools
    else .error (.value "tool inventory contains an invalid or native name")

/-- The names that `Gateway` is made with for an inventory. -/
def gatewayTools (inventory : V4GatewayInventory) : Except GatewayError (List PyStr × List PyStr) := do
  let hosts ← hostInventory (some inventory.hostEventNames)
  let mcps ← hostInventory (some inventory.mcpEventNames) toolPrefix
  return (hosts, mcps)

/-- No name is too long for an event, under its prefix where it is delivered. -/
def NamesFit (inventory : V4GatewayInventory) : Prop :=
  (∀ tool ∈ inventory.deliveredTools, tool.name.length ≤ 77) ∧
    ∀ tool ∈ inventory.executableTools, tool.name.length ≤ 96

instance (inventory : V4GatewayInventory) : Decidable inventory.NamesFit :=
  inferInstanceAs (Decidable (_ ∧ _))

section Admission

variable {text : PyStr}

theorem isSafeName_iff : isSafeName text = true → 1 ≤ text.length ∧ ∀ c ∈ text, c.isIdentifier = true := by
  cases text with
  | nil =>
    intro h
    cases h
  | cons first rest =>
    simp only [isSafeName, isLetterOrDigit, Bool.and_eq_true, List.all_eq_true, List.forall_mem_cons]
    rintro ⟨⟨⟨hfirst, -⟩, -⟩, hrest⟩
    exact ⟨Nat.succ_pos _, hfirst, hrest⟩

theorem isToolName_iff : isToolName text = true ↔ isSafeName text = true ∧
    text.map CodePoint.asciiLower ∉ nativeClaudeTools ∧ (lit "mcp__").isPrefixOf text = false := by
  simp only [isToolName, Bool.and_eq_true, decide_eq_true_eq, Bool.not_eq_true', and_assoc]

theorem matchesSafeKind_of_isIdentifier (h : ∀ c ∈ text, c.isIdentifier = true) :
    matchesSafeKind text = true ↔ 1 ≤ text.length ∧ text.length ≤ 96 := by
  have hall : text.all isKindCharacter = true := by
    rw [List.all_eq_true]
    intro c hc
    rw [isKindCharacter, h c hc]
    rfl
  simp only [matchesSafeKind, hall, Bool.and_true, Bool.and_eq_true, decide_eq_true_eq]

/-- A name of a tool is taken for a host tool where it is short enough. -/
theorem isInventoryName_host (h : isToolName text = true) :
    isInventoryName [] text = true ↔ text.length ≤ 96 := by
  obtain ⟨hsafe, hnative, -⟩ := isToolName_iff.mp h
  obtain ⟨hsome, hall⟩ := isSafeName_iff hsafe
  rw [isInventoryName, if_pos rfl, Bool.and_eq_true, matchesSafeKind_of_isIdentifier hall]
  simp only [hnative, hsome, true_and, not_false_eq_true, decide_true, and_true]

/-- Under the prefix there is less room. -/
theorem isInventoryName_mcp (h : isToolName text = true) :
    isInventoryName toolPrefix (toolPrefix ++ text) = true ↔ text.length ≤ 77 := by
  obtain ⟨hsome, hall⟩ := isSafeName_iff (isToolName_iff.mp h).1
  have hprefix : toolPrefix.length = 19 := by decide
  have hnonempty : toolPrefix ≠ [] := by decide
  have hletters : ∀ c ∈ toolPrefix ++ text, c.isIdentifier = true := by
    rw [List.forall_mem_append]
    exact ⟨List.all_eq_true.mp rfl, hall⟩
  have hlonger : toolPrefix ++ text ≠ toolPrefix := by
    intro hsame
    have hlength := congrArg List.length hsame
    rw [List.length_append] at hlength
    omega
  rw [isInventoryName, if_neg hnonempty, Bool.and_eq_true, matchesSafeKind_of_isIdentifier hletters,
    List.length_append, hprefix]
  simp only [bne_iff_ne, ne_eq, hlonger, not_false_eq_true, Bool.and_eq_true, List.isPrefixOf_iff_prefix,
    List.prefix_append, and_self, and_true]
  omega

/-- The names of a well-formed inventory are taken where they fit. -/
theorem gatewayTools_of_wellFormed {inventory : V4GatewayInventory} (h : inventory.WellFormed floats) :
    gatewayTools inventory =
      if inventory.NamesFit then .ok (inventory.hostEventNames, inventory.mcpEventNames)
      else .error (.value "tool inventory contains an invalid or native name") := by
  have hdelivered : ∀ tool ∈ inventory.deliveredTools, isToolName tool.name = true :=
    fun tool htool => (h.delivered.each tool htool).name
  have hexecutable : ∀ tool ∈ inventory.executableTools, isToolName tool.name = true :=
    fun tool htool => (h.executable.each tool htool).name
  have hhosts : inventory.hostEventNames.all (isInventoryName []) = true ↔
      (∀ tool ∈ inventory.deliveredTools, tool.name.length ≤ 96) ∧
        ∀ tool ∈ inventory.executableTools, tool.name.length ≤ 96 := by
    simp only [hostEventNames, names, List.all_append, List.all_map, Bool.and_eq_true,
      List.all_eq_true, Function.comp_apply]
    exact and_congr
      (forall₂_congr fun tool htool => isInventoryName_host (hdelivered tool htool))
      (forall₂_congr fun tool htool => isInventoryName_host (hexecutable tool htool))
  have hmcps : inventory.mcpEventNames.all (isInventoryName toolPrefix) = true ↔
      ∀ tool ∈ inventory.deliveredTools, tool.name.length ≤ 77 := by
    simp only [mcpEventNames, names, List.all_map, List.all_eq_true, Function.comp_apply]
    exact forall₂_congr fun tool htool => isInventoryName_mcp (hdelivered tool htool)
  simp only [gatewayTools, hostInventory, hhosts, hmcps]
  by_cases hfit : inventory.NamesFit
  · have hshort : ∀ tool ∈ inventory.deliveredTools, tool.name.length ≤ 96 :=
      fun tool htool => (hfit.1 tool htool).trans (by decide)
    rw [if_pos ⟨hshort, hfit.2⟩, ok_bind, if_pos hfit.1, if_pos hfit]
    rfl
  · rw [if_neg hfit]
    split_ifs with hhost hmcp
    · exact absurd ⟨hmcp, hhost.2⟩ hfit
    · rfl
    · rfl
    · rfl

end Admission

/-- **What a gateway takes.** For whatever inventory is loaded, a gateway is made with its names
exactly where every delivered name has at most 77 characters and every executable one at most
96. -/
theorem gateway_takes_loaded (floats : FloatText) (source : Source)
    (expectedId expectedSha256 expectedHost : Option PyStr) :
    (loadV4GatewayInventory floats source expectedId expectedSha256 expectedHost).map gatewayTools =
      (loadV4GatewayInventory floats source expectedId expectedSha256 expectedHost).map
        fun inventory =>
          if inventory.NamesFit then .ok (inventory.hostEventNames, inventory.mcpEventNames)
          else .error (.value "tool inventory contains an invalid or native name") := by
  cases hload : loadV4GatewayInventory floats source expectedId expectedSha256 expectedHost with
  | error violation => rfl
  | ok inventory =>
    have hwell : inventory.WellFormed floats := by
      obtain ⟨raw, -, h⟩ := bind_eq_ok.mp hload
      obtain ⟨found, hfound, h⟩ := bind_eq_ok.mp h
      obtain ⟨-, -, h⟩ := bind_eq_ok.mp h
      cases h
      cases hraw : raw.mapping? with
      | none =>
        rw [fromRaw, hraw] at hfound
        cases hfound
      | some items =>
        rw [fromRaw, hraw] at hfound
        obtain ⟨-, -, hbuild⟩ := bind_eq_ok.mp hfound
        exact (build_eq_ok.mp hbuild).2.2.2.2.2.2
    rw [Except.map, Except.map, gatewayTools_of_wellFormed hwell]

end HermesClaude.Parity.V4GatewayInventory
