/-
# Stored manifests

A manifest that a run has written is loaded with the same receipts and the same packet
hashes, if its receipts have ids of their own and it fits in the file that is admitted.
-/

import HermesClaude.Parity.Manifest
import HermesClaude.Parity.ResultRoundTrip

namespace HermesClaude.Parity

open HermesClaude.Python HermesClaude.Library

theorem hasFields_of_perm {entries : Entries} {fields : List PyStr}
    (h : (entries.map Prod.fst).Perm fields) : hasFields entries fields = true := by
  rw [hasFields, Bool.and_eq_true, List.all_eq_true, List.all_eq_true]
  constructor
  · intro field hfield
    obtain ⟨item, hitem, hkey⟩ := List.mem_map.mp (h.mem_iff.mpr hfield)
    rw [Json.hasKey, List.any_eq_true]
    exact ⟨item, hitem, by simpa using hkey⟩
  · intro item hitem
    simpa using h.mem_iff.mp (List.mem_map_of_mem hitem)

/-! ## Receipts -/

/-- A receipt as it may stand in a manifest. -/
structure Receipt.WellFormed (receipt : Receipt) : Prop where
  receiptId : receipt.receiptId.length = 64
  executionIdHash : receipt.executionIdHash.length = 64
  trialIndex : 1 ≤ receipt.trialIndex

section Receipts

variable {receipt : Receipt}

theorem receiptFields_nodup : receiptFields.Nodup := by decide

theorem Receipt.toEntries_keys (receipt : Receipt) : receipt.toEntries.map Prod.fst = receiptFields :=
  rfl

theorem digestText_str {text : PyStr} (h : text.length = 64) : digestText (.str text) = some text := by
  rw [digestText, if_pos h]

theorem requireIntFrom_natCast {least n : Nat} (h : least ≤ n) (message : PyStr) :
    ResultPacket.requireIntFrom least (.int n) message = .ok n := by
  rw [ResultPacket.requireIntFrom_eq_ok (Int.natCast_nonneg least)]
  exact ⟨rfl, by exact_mod_cast h⟩

theorem loadPath_ofPath (path : Option TrialPath) :
    loadPath (.str (scopeOf path)) (ofPath path) = .ok path := by
  cases path with
  | none => rfl
  | some path => cases path <;> rfl

/-- A receipt is loaded from its entries, in any order. -/
theorem loadReceipt_of_perm {entries : Entries} (hperm : entries.Perm receipt.toEntries)
    (hwell : receipt.WellFormed) {seen : List PyStr} (hseen : receipt.receiptId ∉ seen) :
    loadReceipt seen (.dict entries) = .ok receipt := by
  have hkeys : (entries.map Prod.fst).Perm receiptFields := hperm.map Prod.fst
  have hunique : (entries.map Prod.fst).Nodup := hkeys.nodup_iff.mpr receiptFields_nodup
  have hfield : ∀ {name : String} {value : Json}, (lit name, value) ∈ receipt.toEntries →
      entries.field name = value :=
    fun hmem => field_eq_of_mem hunique (hperm.mem_iff.mpr hmem)
  have hid : entries.field "receipt_id" = .str receipt.receiptId := hfield (by simp [Receipt.toEntries])
  have hhash : entries.field "execution_id_hash" = .str receipt.executionIdHash :=
    hfield (by simp [Receipt.toEntries])
  have hscope : entries.field "scope" = .str (scopeOf receipt.path) :=
    hfield (by simp [Receipt.toEntries])
  have hpath : entries.field "path" = ofPath receipt.path := hfield (by simp [Receipt.toEntries])
  have hindex : entries.field "trial_index" = .int receipt.trialIndex :=
    hfield (by simp [Receipt.toEntries])
  have hturns : entries.field "turn_count" = .int receipt.turnCount :=
    hfield (by simp [Receipt.toEntries])
  have hone := requireIntFrom_natCast hwell.trialIndex
  have hzero := requireIntFrom_natCast (Nat.zero_le receipt.turnCount)
  rw [Nat.cast_one] at hone
  rw [Nat.cast_zero] at hzero
  simp only [loadReceipt, bind_eq_ok, require_eq_ok, refuseIf_eq_ok, orRefuse_eq_ok, hid, hhash,
    hscope, hpath, hindex, hturns, digestText_str hwell.receiptId, digestText_str hwell.executionIdHash,
    hone, hzero, loadPath_ofPath]
  refine ⟨(), hasFields_of_perm hkeys, (), rfl, (), ?_, (), rfl, (), ?_, _, rfl, _, rfl, _, rfl, _,
    rfl, _, rfl, rfl⟩
  · simpa [isOneOf, Json.str?] using hseen
  · cases receipt.path <;> simp [isOneOf, Json.str?, scopeOf]

theorem Receipt.toEntries_sorted (receipt : Receipt) :
    (Json.dict receipt.toEntries).sortKeys = .dict (sortItems receipt.toEntries) := by
  obtain ⟨receiptId, executionIdHash, path, trialIndex, turnCount⟩ := receipt
  cases path <;> rfl

/-- Receipts with ids of their own are loaded in order. -/
theorem loadReceipts_sorted {receipts : List Receipt} (hwell : ∀ receipt ∈ receipts, receipt.WellFormed)
    (hnodup : (receipts.map Receipt.receiptId).Nodup) {seen : List PyStr}
    (hseen : ∀ receipt ∈ receipts, receipt.receiptId ∉ seen) :
    loadReceipts seen (receipts.map fun receipt => .dict (sortItems receipt.toEntries)) =
      .ok receipts := by
  induction receipts generalizing seen with
  | nil => rfl
  | cons receipt receipts ih =>
    obtain ⟨hfirst, hrest⟩ := List.forall_mem_cons.mp hwell
    obtain ⟨hfresh, hothers⟩ := List.forall_mem_cons.mp hseen
    rw [List.map_cons, List.nodup_cons] at hnodup
    have hload := loadReceipt_of_perm (sortItems_perm receipt.toEntries) hfirst hfresh
    have hnext : ∀ other ∈ receipts, other.receiptId ∉ receipt.receiptId :: seen := by
      intro other hother hmem
      rcases List.mem_cons.mp hmem with hsame | hmem
      · apply hnodup.1
        rw [← hsame]
        exact List.mem_map_of_mem hother
      · exact hothers other hother hmem
    rw [List.map_cons, loadReceipts, hload]
    simp only [bind_eq_ok]
    exact ⟨receipt, rfl, receipts, ih hrest hnodup.2 hnext, rfl⟩

end Receipts

/-! ## Manifests -/

section Manifests

variable {floats : FloatText} {identity : ManifestIdentity} {receipts : List Receipt}
  {hashes : List PyStr}

theorem manifestFields_nodup : manifestFields.Nodup := by decide

/-- The entries of a manifest, with its hash. -/
def manifestEntries (identity : ManifestIdentity) (receipts : List Receipt) (hashes : List PyStr)
    (digest : PyStr) : Entries :=
  manifestContent identity receipts hashes ++ [(lit "manifest_hash", .str digest)]

theorem manifestEntries_keys (digest : PyStr) :
    (manifestEntries identity receipts hashes digest).map Prod.fst = manifestFields := by
  simp only [manifestEntries, manifestContent, ManifestIdentity.fields, manifestFields,
    List.map_cons, List.map_nil, List.cons_append, List.nil_append]

theorem mapM_digestText {texts : List PyStr} (h : ∀ text ∈ texts, text.length = 64) :
    (texts.map Json.str).mapM digestText = some texts := by
  induction texts with
  | nil => rfl
  | cons text texts ih =>
    obtain ⟨hfirst, hrest⟩ := List.forall_mem_cons.mp h
    rw [List.map_cons, List.mapM_cons, digestText_str hfirst, ih hrest]
    rfl

theorem receipts_sorted (receipts : List Receipt) :
    Json.sortKeysList (receipts.map fun receipt => .dict receipt.toEntries) =
      receipts.map fun receipt => .dict (sortItems receipt.toEntries) := by
  rw [Json.sortKeysList_eq, List.map_map]
  congr 1
  funext receipt
  exact receipt.toEntries_sorted

theorem texts_sorted (texts : List PyStr) : Json.sortKeysList (texts.map .str) = texts.map .str := by
  rw [Json.sortKeysList_eq, List.map_map]
  rfl

theorem Receipt.toEntries_unique (receipt : Receipt) : (Json.dict receipt.toEntries).UniqueKeys := by
  refine ⟨?_, ?_⟩
  · rw [receipt.toEntries_keys]
    exact receiptFields_nodup
  · obtain ⟨receiptId, executionIdHash, path, trialIndex, turnCount⟩ := receipt
    cases path <;> simp [Receipt.toEntries, ofPath, Json.UniqueKeysItems, Json.UniqueKeys]

theorem Receipt.toEntries_hasDoubles (receipt : Receipt) :
    (Json.dict receipt.toEntries).HasDoubles := by
  obtain ⟨receiptId, executionIdHash, path, trialIndex, turnCount⟩ := receipt
  cases path <;> simp [Receipt.toEntries, ofPath, Json.HasDoublesItems, Json.HasDoubles]

/-- A manifest has no key twice. -/
theorem manifestEntries_unique (digest : PyStr) :
    (Json.dict (manifestEntries identity receipts hashes digest)).UniqueKeys := by
  refine ⟨?_, ?_⟩
  · rw [manifestEntries_keys]
    exact manifestFields_nodup
  · simp only [manifestEntries, manifestContent, ManifestIdentity.fields, List.map_cons, List.map_nil,
      List.cons_append, List.nil_append, Json.UniqueKeysItems,
      Json.UniqueKeys, Json.uniqueKeysList_iff, List.forall_mem_map, true_and, and_true, implies_true]
    intro receipt _
    exact receipt.toEntries_unique

/-- A manifest has no floats. -/
theorem manifestEntries_hasDoubles (digest : PyStr) :
    (Json.dict (manifestEntries identity receipts hashes digest)).HasDoubles := by
  simp only [manifestEntries, manifestContent, ManifestIdentity.fields, List.map_cons, List.map_nil,
    List.cons_append, List.nil_append, Json.HasDoublesItems,
    Json.HasDoubles, Json.hasDoublesList_iff, List.forall_mem_map, true_and, and_true, implies_true]
  intro receipt _
  exact receipt.toEntries_hasDoubles

/-- Sorting the keys of a manifest sorts those of its receipts. -/
theorem sortKeysItems_manifestEntries (digest : PyStr) :
    Json.sortKeysItems (manifestEntries identity receipts hashes digest) =
      (identity.fields.map fun field => (lit field.1, field.2)) ++
        [(lit "executions", .list (receipts.map fun receipt => .dict (sortItems receipt.toEntries))),
          (lit "packet_hashes", .list ((sorted hashes).map .str)),
          (lit "manifest_hash", .str digest)] := by
  simp only [Json.sortKeysItems_eq, manifestEntries, manifestContent, ManifestIdentity.fields,
    List.map_cons, List.map_nil, List.cons_append, List.nil_append,
    receipts_sorted, texts_sorted, Json.sortKeys]

/-- What is left without the hash is the content. -/
theorem withoutHash_manifestEntries (digest : PyStr) :
    (Json.sortKeysItems (manifestEntries identity receipts hashes digest)).filter
        (fun item => item.1 ≠ lit "manifest_hash") =
      Json.sortKeysItems (manifestContent identity receipts hashes) := by
  have hkeys : ∀ item ∈ manifestContent identity receipts hashes, item.1 ≠ lit "manifest_hash" := by
    have hnames : ∀ name ∈ (manifestContent identity receipts hashes).map Prod.fst,
        name ≠ lit "manifest_hash" := by
      simp only [manifestContent, ManifestIdentity.fields, List.map_cons, List.map_nil,
        List.cons_append, List.nil_append]
      decide
    intro item hitem
    exact hnames item.1 (List.mem_map_of_mem hitem)
  rw [Json.sortKeysItems_eq, Json.sortKeysItems_eq, List.filter_map, manifestEntries,
    List.filter_append]
  have hall : (manifestContent identity receipts hashes).filter
      ((fun item : PyStr × Json => decide (item.1 ≠ lit "manifest_hash")) ∘
        fun item => (item.1, item.2.sortKeys)) = manifestContent identity receipts hashes := by
    apply List.filter_eq_self.mpr
    intro item hitem
    simpa using hkeys item hitem
  rw [hall]
  simp

theorem manifestContent_unique :
    (Json.dict (manifestContent identity receipts hashes)).UniqueKeys := by
  obtain ⟨hkeys, hvalues⟩ : (Json.dict (manifestEntries identity receipts hashes [])).UniqueKeys :=
    manifestEntries_unique []
  rw [Json.uniqueKeysItems_iff] at hvalues
  refine ⟨?_, (Json.uniqueKeysItems_iff _).mpr ?_⟩
  · rw [manifestEntries, List.map_append] at hkeys
    exact (List.nodup_append.mp hkeys).1
  · intro item hitem
    exact hvalues item (List.mem_append_left _ hitem)

/-- The hash of what is loaded is the hash of the content. -/
theorem sha256Value_loaded {loaded : Entries} {digest : PyStr}
    (hperm : loaded.Perm (Json.sortKeysItems (manifestEntries identity receipts hashes digest))) :
    sha256Value floats (.dict (loaded.filter fun item => item.1 ≠ lit "manifest_hash")) =
      sha256Value floats (.dict (manifestContent identity receipts hashes)) := by
  have hrest := hperm.filter fun item => item.1 ≠ lit "manifest_hash"
  rw [withoutHash_manifestEntries] at hrest
  have hsorted := hrest.trans (sortItems_perm _).symm
  have hnodup : ((loaded.filter fun item => item.1 ≠ lit "manifest_hash").map Prod.fst).Nodup := by
    rw [(hrest.map Prod.fst).nodup_iff, Json.sortKeysItems_keys]
    exact manifestContent_unique.1
  rw [sha256Value_dict_of_perm floats hsorted hnodup, ← sha256Value_sortKeys floats manifestContent_unique]
  rfl

/-- Everything that is asked of what a manifest says. -/
structure Loadable (identity : ManifestIdentity) (receipts : List Receipt) (hashes : List PyStr) :
    Prop where
  wellFormed : ∀ receipt ∈ receipts, receipt.WellFormed
  nodup : (receipts.map Receipt.receiptId).Nodup
  budget : (receipts.map Receipt.turnCount).sum ≤ turnBudget identity.lane
  hashes : ∀ hash ∈ hashes, hash.length = 64

/-- What a manifest is bound to equals itself. -/
theorem identity_matches {loaded : Entries}
    (h : ∀ field ∈ identity.fields, loaded.field field.1 = field.2) :
    (identity.fields.all fun field => Json.pyEq (loaded.field field.1) field.2) = true := by
  rw [List.all_eq_true]
  intro field hfield
  rw [h field hfield]
  apply Json.pyEq_self
  revert field
  simp [ManifestIdentity.fields, Json.UniqueKeys]

theorem length_of_mem_sorted (h : ∀ hash ∈ hashes, hash.length = 64) :
    ∀ hash ∈ sorted hashes, hash.length = 64 := by
  intro hash hmem
  exact h hash ((List.perm_insertionSort _ hashes).mem_iff.mp hmem)

/-- A manifest is loaded from its entries, in any order. -/
theorem loadContent_sorted {loaded : Entries} {digest : PyStr}
    (hperm : loaded.Perm (Json.sortKeysItems (manifestEntries identity receipts hashes digest)))
    (hdigest : sha256Value floats (.dict (manifestContent identity receipts hashes)) = some digest)
    (hload : Loadable identity receipts hashes) :
    loadContent floats identity loaded = .ok (receipts, sorted hashes) := by
  have hkeys : (loaded.map Prod.fst).Perm manifestFields := by
    have hnames := hperm.map Prod.fst
    rw [Json.sortKeysItems_keys, manifestEntries_keys] at hnames
    exact hnames
  have hunique : (loaded.map Prod.fst).Nodup := hkeys.nodup_iff.mpr manifestFields_nodup
  have hfield : ∀ {name : String} {value : Json},
      (lit name, value) ∈ Json.sortKeysItems (manifestEntries identity receipts hashes digest) →
      loaded.field name = value :=
    fun hmem => field_eq_of_mem hunique (hperm.mem_iff.mpr hmem)
  rw [sortKeysItems_manifestEntries] at hfield
  have hidentity := identity_matches fun field hmem =>
    hfield (List.mem_append_left _ (List.mem_map_of_mem hmem))
  have hexecutions := hfield (List.mem_append_right _ List.mem_cons_self)
  have hhashes := hfield (List.mem_append_right _ (List.mem_cons_of_mem _ List.mem_cons_self))
  have hhash := hfield
    (List.mem_append_right _ (List.mem_cons_of_mem _ (List.mem_cons_of_mem _ List.mem_cons_self)))
  have hreceipts : loadReceipts [] _ = .ok receipts :=
    loadReceipts_sorted hload.wellFormed hload.nodup fun _ _ => List.not_mem_nil
  have hdigests := mapM_digestText (length_of_mem_sorted hload.hashes)
  have hsame : Json.pyEq (.str digest) (.str digest) = true := Json.pyEq_self trivial
  simp only [loadContent, bind_eq_ok, require_eq_ok, orRaise_eq_ok, orRefuse_eq_ok, decide_eq_true_eq]
  refine ⟨(), hasFields_of_perm hkeys, (), hidentity, digest, ?_, (), ?_,
    (_, (sorted hashes).map .str), ?_, receipts, hreceipts, (), hload.budget, sorted hashes, hdigests,
    rfl⟩
  · rw [sha256Value_loaded hperm, hdigest]
  · rw [hhash, hsame]
  · rw [hexecutions, hhashes]
    rfl

/-- A manifest that is written is loaded with its receipts and its packet hashes. -/
theorem loadManifest_manifestBytes {data : Bytes}
    (hdata : manifestBytes floats identity receipts hashes = some data)
    (hload : Loadable identity receipts hashes) (hsize : data.length ≤ maxManifestBytes) :
    loadManifest floats identity data = .ok (receipts, sorted hashes) := by
  obtain ⟨payload, hpayload, hbytes⟩ := Option.bind_eq_some_iff.mp hdata
  obtain ⟨digest, hdigest, rfl⟩ := Option.map_eq_some_iff.mp hpayload
  have hunique : (Json.dict (manifestEntries identity receipts hashes digest)).UniqueKeys :=
    manifestEntries_unique digest
  have hread := readFile_fileBytes (manifestEntries_hasDoubles digest) hunique hbytes
  rw [loadManifest, if_neg (by omega), hread]
  dsimp only
  rw [jsonCompatible_toValue (Json.uniqueKeys_sortKeys hunique)]
  exact loadContent_sorted (sortItems_perm _) hdigest hload

end Manifests

end HermesClaude.Parity
