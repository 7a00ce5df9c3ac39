/-
# Schemas in another order

The hash of a schema is a function of its content, whatever the order of its mappings and
sets, as long as no two items of a mapping that get the same label become different
values.  Where two do, the one that comes last decides.
-/

import HermesClaude.Prompt.SchemaHash

namespace HermesClaude.Prompt

open HermesClaude.Python HermesClaude.Library HermesClaude.Parity

namespace SchemaValue

/-! ## The same content in another order -/

/-- The same value up to the order of its mappings and sets, at any depth. -/
inductive Reordered : SchemaValue → SchemaValue → Prop
  | refl (value : SchemaValue) : Reordered value value
  | trans {a b c : SchemaValue} (hab : Reordered a b) (hbc : Reordered b c) : Reordered a c
  | mapping {cls : PyStr} {items items' : List (SchemaValue × SchemaValue)}
      (hperm : items.Perm items') : Reordered (.mapping cls items) (.mapping cls items')
  | set {cls : PyStr} {items items' : List SchemaValue} (hperm : items.Perm items') :
      Reordered (.set cls items) (.set cls items')
  | inKey {cls : PyStr} {before after : List (SchemaValue × SchemaValue)} {key key' item : SchemaValue}
      (h : Reordered key key') :
      Reordered (.mapping cls (before ++ (key, item) :: after))
        (.mapping cls (before ++ (key', item) :: after))
  | inValue {cls : PyStr} {before after : List (SchemaValue × SchemaValue)} {key item item' : SchemaValue}
      (h : Reordered item item') :
      Reordered (.mapping cls (before ++ (key, item) :: after))
        (.mapping cls (before ++ (key, item') :: after))
  | inSequence {cls : PyStr} {before after : List SchemaValue} {item item' : SchemaValue}
      (h : Reordered item item') :
      Reordered (.sequence cls (before ++ item :: after)) (.sequence cls (before ++ item' :: after))
  | inSet {cls : PyStr} {before after : List SchemaValue} {item item' : SchemaValue}
      (h : Reordered item item') :
      Reordered (.set cls (before ++ item :: after)) (.set cls (before ++ item' :: after))

/-! ## What a new order leaves alone -/

theorem Reordered.typeName_eq {a b : SchemaValue} (h : Reordered a b) : a.typeName = b.typeName := by
  induction h with
  | trans _ _ ihab ihbc => exact ihab.trans ihbc
  | _ => rfl

theorem Reordered.textKey_eq {a b : SchemaValue} (h : Reordered a b) : a.textKey = b.textKey := by
  induction h with
  | trans _ _ ihab ihbc => exact ihab.trans ihbc
  | _ => rfl

theorem Reordered.wellFormed {a b : SchemaValue} (h : Reordered a b) (ha : a.WellFormed) :
    b.WellFormed := by
  induction h with
  | refl value => exact ha
  | trans _ _ ihab ihbc => exact ihbc (ihab ha)
  | mapping hperm =>
    rcases ha with ⟨hkeys, hitems⟩
    rw [wellFormedItems_iff] at hitems
    refine ⟨(hperm.filterMap _).nodup_iff.mp hkeys, (wellFormedItems_iff _).mpr ?_⟩
    intro item hitem
    exact hitems item (hperm.mem_iff.mpr hitem)
  | set hperm =>
    have hitems := (wellFormedList_iff _).mp ha
    exact (wellFormedList_iff _).mpr fun item hitem => hitems item (hperm.mem_iff.mpr hitem)
  | inKey hkey _ =>
    rcases ha with ⟨hkeys, hitems⟩
    rw [wellFormedItems_iff, List.forall_mem_append, List.forall_mem_cons] at hitems
    rw [List.filterMap_append, List.filterMap_cons, hkey.textKey_eq] at hkeys
    refine ⟨?_, (wellFormedItems_iff _).mpr ?_⟩
    · rw [List.filterMap_append, List.filterMap_cons]
      exact hkeys
    · rw [List.forall_mem_append, List.forall_mem_cons]
      exact hitems
  | inValue hitem ih =>
    rcases ha with ⟨hkeys, hitems⟩
    rw [wellFormedItems_iff, List.forall_mem_append, List.forall_mem_cons] at hitems
    rw [List.filterMap_append, List.filterMap_cons] at hkeys
    refine ⟨?_, (wellFormedItems_iff _).mpr ?_⟩
    · rw [List.filterMap_append, List.filterMap_cons]
      exact hkeys
    · rw [List.forall_mem_append, List.forall_mem_cons]
      exact ⟨hitems.1, ih hitems.2.1, hitems.2.2⟩
  | inSequence hitem ih =>
    have hitems := (wellFormedList_iff _).mp ha
    apply (wellFormedList_iff _).mpr
    rw [List.forall_mem_append, List.forall_mem_cons] at hitems ⊢
    exact ⟨hitems.1, ih hitems.2.1, hitems.2.2⟩
  | inSet hitem ih =>
    have hitems := (wellFormedList_iff _).mp ha
    apply (wellFormedList_iff _).mpr
    rw [List.forall_mem_append, List.forall_mem_cons] at hitems ⊢
    exact ⟨hitems.1, ih hitems.2.1, hitems.2.2⟩

/-! ## Labels that agree -/

section Agreement

variable (floats : FloatText)

/-- Items of a mapping under one label become the same pair. -/
def LabelsAgree (items : List (SchemaValue × SchemaValue)) : Prop :=
  KeysAgree Prod.fst (items.map fun item => (item.1.label, canonicalPair floats item))

mutual

/-- In every mapping that is looked into, labels agree. -/
def Agrees : SchemaValue → Prop
  | .mapping _ items => LabelsAgree floats items ∧ AgreesItems items
  | .sequence _ items | .set _ items => AgreesList items
  | _ => True

def AgreesItems : List (SchemaValue × SchemaValue) → Prop
  | [] => True
  | (key, item) :: rest => (key.textKey.isSome = true → Agrees item) ∧ AgreesItems rest

def AgreesList : List SchemaValue → Prop
  | [] => True
  | item :: rest => Agrees item ∧ AgreesList rest

end

theorem agreesItems_iff (items : List (SchemaValue × SchemaValue)) :
    AgreesItems floats items ↔ ∀ item ∈ items, item.1.textKey.isSome = true → Agrees floats item.2 := by
  induction items with
  | nil => simp [AgreesItems]
  | cons item rest ih => rw [AgreesItems, ih, List.forall_mem_cons]

theorem agreesList_iff (items : List SchemaValue) :
    AgreesList floats items ↔ ∀ item ∈ items, Agrees floats item := by
  induction items with
  | nil => simp [AgreesList]
  | cons item rest ih => rw [AgreesList, ih, List.forall_mem_cons]

variable {floats}

/-- Agreeing labels are agreeing keys of the pairs. -/
theorem LabelsAgree.keysAgree {items : List (SchemaValue × SchemaValue)} {pairs : List (PyStr × Json)}
    (h : LabelsAgree floats items) (hpairs : canonicalPairs floats items = some pairs) :
    KeysAgree Prod.fst pairs := by
  rw [canonicalPairs_eq] at hpairs
  have hfind : ∀ pair ∈ pairs, (pair.1, some pair) ∈
      items.map fun item => (item.1.label, canonicalPair floats item) := by
    intro pair hpair
    rcases exists_of_mem_mapM hpairs hpair with ⟨item, hitem, hcanonical⟩
    rw [List.mem_map]
    exact ⟨item, hitem, by rw [hcanonical, label_of_canonicalPair hcanonical]⟩
  intro a ha b hb hkey
  have hsame := h _ (hfind a ha) _ (hfind b hb) hkey
  exact Option.some.inj (congrArg Prod.snd hsame)

theorem clean_of_list {values : List Json} (h : (Json.list values).CleanTexts) :
    ∀ value ∈ values, value.CleanTexts := (Json.cleanTextsList_iff values).mp h

/-- The value under a label is part of the dictionary. -/
theorem mem_dictOf_of_keysAgree {pairs : List (PyStr × Json)} (hagree : KeysAgree Prod.fst pairs)
    {pair : PyStr × Json} (hpair : pair ∈ pairs) : pair ∈ dictOf (sortByKey Prod.fst pairs) := by
  have hfound : pair ∈ pairs.filter (·.1 = pair.1) := List.mem_filter.mpr ⟨hpair, by simp⟩
  have hne := List.ne_nil_of_mem hfound
  have hlast := List.getLast_mem hne
  rw [List.mem_filter, decide_eq_true_iff] at hlast
  have hsame := hagree _ hlast.1 pair hpair hlast.2
  have hkey := key?_sorted pairs pair.1
  rw [List.getLast?_eq_some_getLast hne, Option.map_some, hsame] at hkey
  exact (Json.key?_eq_some_iff (nodup_dictOf pairs)).mp hkey

theorem hashEncoder_lawful (floats : FloatText) : (hashEncoder floats).Lawful :=
  ⟨[], rfl, List.forall_mem_nil _⟩

/-- Different canonical documents have different texts, if they can be encoded. -/
theorem keysAgree_withText {values : List Json} {texts : List (PyStr × Json)}
    (hdocuments : ∀ value ∈ values, CanonicalDocument value) (hclean : ∀ value ∈ values, value.CleanTexts)
    (htexts : values.mapM (withText floats) = some texts) : KeysAgree Prod.fst texts := by
  have hpairs : ∀ pair ∈ texts, pair.2 ∈ values ∧
      (hashEncoder floats).asciiDumps pair.2 = some pair.1 := by
    intro pair hpair
    rcases exists_of_mem_mapM htexts hpair with ⟨value, hvalue, htext⟩
    rw [withText_eq_some] at htext
    rw [htext.2]
    exact ⟨hvalue, htext.1⟩
  intro a ha b hb hkey
  have ha' := hpairs a ha
  have hb' := hpairs b hb
  rw [← hkey] at hb'
  have hseparator : Simple (hashEncoder floats).keySeparator := simple_of_all (by rfl)
  have hsorted := JSONEncoder.sortKeys_eq_of_asciiDumps (hashEncoder_lawful floats)
    (hdocuments _ ha'.1).doubles (hdocuments _ hb'.1).doubles (hdocuments _ ha'.1).uniqueKeys
    (hdocuments _ hb'.1).uniqueKeys hseparator (hclean _ ha'.1) (hclean _ hb'.1) ha'.2 hb'.2
  rw [(hdocuments _ ha'.1).sorted, (hdocuments _ hb'.1).sorted] at hsorted
  exact Prod.ext hkey hsorted

/-- Sets with the same elements are sorted to the same list. -/
theorem sortByText_of_perm {values values' sorted : List Json} (hperm : values'.Perm values)
    (hdocuments : ∀ value ∈ values, CanonicalDocument value) (hclean : ∀ value ∈ values, value.CleanTexts)
    (h : sortByText floats values = some sorted) : sortByText floats values' = some sorted := by
  rw [sortByText, Option.map_eq_some_iff] at h ⊢
  rcases h with ⟨texts, htexts, rfl⟩
  rcases mapM_perm_option hperm.symm htexts with ⟨texts', htexts', hsame⟩
  have hagree := keysAgree_withText hdocuments hclean htexts
  exact ⟨texts', htexts', by rw [sortByKey_eq_of_keysAgree hagree hsame.symm]⟩

/-- Replacing the item of a mapping by one that becomes the same pair. -/
theorem canonicalPairs_replace {before after : List (SchemaValue × SchemaValue)}
    {item item' : SchemaValue × SchemaValue} (h : canonicalPair floats item = canonicalPair floats item') :
    canonicalPairs floats (before ++ item :: after) = canonicalPairs floats (before ++ item' :: after) := by
  rw [canonicalPairs_eq, canonicalPairs_eq]
  apply mapM_congr_option
  rw [List.map_append, List.map_append, List.map_cons, List.map_cons, h]

theorem labelsAgree_replace {before after : List (SchemaValue × SchemaValue)}
    {item item' : SchemaValue × SchemaValue} (hlabel : item.1.label = item'.1.label)
    (h : canonicalPair floats item = canonicalPair floats item')
    (hagree : LabelsAgree floats (before ++ item :: after)) :
    LabelsAgree floats (before ++ item' :: after) := by
  rw [LabelsAgree, List.map_append, List.map_cons, hlabel, h] at hagree
  rw [LabelsAgree, List.map_append, List.map_cons]
  exact hagree

theorem canonicalItems_replace {before after : List SchemaValue} {item item' : SchemaValue}
    (h : canonicalValue floats item = canonicalValue floats item') :
    canonicalItems floats (before ++ item :: after) = canonicalItems floats (before ++ item' :: after) := by
  rw [canonicalItems_eq, canonicalItems_eq]
  apply mapM_congr_option
  rw [List.map_append, List.map_append, List.map_cons, List.map_cons, h]

theorem Reordered.label_eq {key key' : SchemaValue} (h : Reordered key key') :
    key.label = key'.label := by
  cases hkey : key.textKey with
  | none => rw [label_other hkey, label_other (h.textKey_eq ▸ hkey), h.typeName_eq]
  | some name => rw [label_text hkey, label_text (h.textKey_eq ▸ hkey)]

theorem Reordered.canonicalPair_key (floats : FloatText) {key key' : SchemaValue}
    (h : Reordered key key') (item : SchemaValue) :
    canonicalPair floats (key, item) = canonicalPair floats (key', item) := by
  cases hkey : key.textKey with
  | none =>
    rw [canonicalPair_other hkey, canonicalPair_other (h.textKey_eq ▸ hkey), h.typeName_eq]
  | some name => rw [canonicalPair_text hkey, canonicalPair_text (h.textKey_eq ▸ hkey)]

/-- The part of a canonical dictionary that an item under a text key became. -/
theorem exists_value {items : List (SchemaValue × SchemaValue)} {pairs : List (PyStr × Json)}
    (hagree : LabelsAgree floats items) (hpairs : canonicalPairs floats items = some pairs)
    (hclean : (Json.dict (dictOf (sortByKey Prod.fst pairs))).CleanTexts) {key item : SchemaValue}
    (hitem : (key, item) ∈ items) {name : PyStr} (hkey : key.textKey = some name) :
    ∃ value, canonicalValue floats item = some value ∧ value.CleanTexts := by
  have hkeys := hagree.keysAgree hpairs
  rw [canonicalPairs_eq] at hpairs
  rcases exists_mem_of_mapM hpairs hitem with ⟨pair, hpair, hcanonical⟩
  rw [canonicalPair_text hkey, Option.map_eq_some_iff] at hcanonical
  rcases hcanonical with ⟨value, hvalue, rfl⟩
  have hmem := mem_dictOf_of_keysAgree hkeys hpair
  exact ⟨value, hvalue, ((Json.cleanTextsItems_iff _).mp hclean _ hmem).2⟩

/-- The part of a canonical list that an item became. -/
theorem exists_itemValue {items : List SchemaValue} {values : List Json}
    (hvalues : canonicalItems floats items = some values) (hclean : ∀ value ∈ values, value.CleanTexts)
    {item : SchemaValue} (hitem : item ∈ items) :
    ∃ value, canonicalValue floats item = some value ∧ value.CleanTexts := by
  rcases exists_mem_of_mapM ((canonicalItems_eq _).symm.trans hvalues) hitem with ⟨value, hmem, hvalue⟩
  exact ⟨value, hvalue, hclean value hmem⟩

theorem clean_of_set {cls : PyStr} {items : List SchemaValue} {document : Json} {values : List Json}
    (hdocument : canonicalValue floats (.set cls items) = some document)
    (hvalues : canonicalItems floats items = some values) (hclean : document.CleanTexts) :
    ∀ value ∈ values, value.CleanTexts := by
  rw [canonicalValue, hvalues, Option.bind_some] at hdocument
  rcases Option.map_eq_some_iff.mp hdocument with ⟨sorted, hsorted, rfl⟩
  intro value hvalue
  exact clean_of_list hclean value ((perm_of_sortByText hsorted).mem_iff.mpr hvalue)

/-- The items of a mapping in another order. -/
theorem canonical_mapping_perm {cls : PyStr} {items items' : List (SchemaValue × SchemaValue)}
    (hperm : items.Perm items') {document : Json} (hagrees : Agrees floats (.mapping cls items))
    (hdocument : canonicalValue floats (.mapping cls items) = some document) :
    Agrees floats (.mapping cls items') ∧ canonicalValue floats (.mapping cls items') = some document := by
  rw [canonicalValue, Option.map_eq_some_iff] at hdocument
  rcases hdocument with ⟨pairs, hpairs, rfl⟩
  have hkeys := hagrees.1.keysAgree hpairs
  rw [canonicalPairs_eq] at hpairs
  rcases mapM_perm_option hperm hpairs with ⟨pairs', hpairs', hsame⟩
  constructor
  · constructor
    · intro x hx y hy
      exact hagrees.1 x ((hperm.map _).mem_iff.mpr hx) y ((hperm.map _).mem_iff.mpr hy)
    · rw [agreesItems_iff]
      intro item hitem
      exact (agreesItems_iff _ _).mp hagrees.2 item (hperm.mem_iff.mpr hitem)
  · rw [canonicalValue, canonicalPairs_eq, hpairs', Option.map_some,
      sortByKey_eq_of_keysAgree hkeys hsame.symm]

/-- The items of a set in another order. -/
theorem canonical_set_perm {cls : PyStr} {items items' : List SchemaValue} (hperm : items.Perm items')
    {document : Json} (hwell : WellFormedList items) (hagrees : Agrees floats (.set cls items))
    (hdocument : canonicalValue floats (.set cls items) = some document) (hclean : document.CleanTexts) :
    Agrees floats (.set cls items') ∧ canonicalValue floats (.set cls items') = some document := by
  have hset := hdocument
  simp only [canonicalValue, Option.bind_eq_some_iff, Option.map_eq_some_iff] at hset
  rcases hset with ⟨values, hvalues, sorted, hsorted, rfl⟩
  have hdocuments := canonicalDocument_items hwell hvalues
  have hcleans := clean_of_set hdocument hvalues hclean
  rw [canonicalItems_eq] at hvalues
  rcases mapM_perm_option hperm hvalues with ⟨values', hvalues', hsame⟩
  constructor
  · rw [Agrees, agreesList_iff]
    intro item hitem
    exact (agreesList_iff _ _).mp hagrees item (hperm.mem_iff.mpr hitem)
  · rw [canonicalValue, canonicalItems_eq, hvalues', Option.bind_some,
      sortByText_of_perm hsame hdocuments hcleans hsorted, Option.map_some]

/-- **One change of order.**  Where labels agree, the canonical document stays the same. -/
theorem Reordered.canonical {a b : SchemaValue} (h : Reordered a b) {document : Json}
    (hwell : a.WellFormed) (hagrees : Agrees floats a) (hdocument : canonicalValue floats a = some document)
    (hclean : document.CleanTexts) : Agrees floats b ∧ canonicalValue floats b = some document := by
  induction h generalizing document with
  | refl value => exact ⟨hagrees, hdocument⟩
  | trans hab _ ihab ihbc =>
    have hmiddle := ihab hwell hagrees hdocument hclean
    exact ihbc (hab.wellFormed hwell) hmiddle.1 hmiddle.2 hclean
  | mapping hperm => exact canonical_mapping_perm hperm hagrees hdocument
  | set hperm => exact canonical_set_perm hperm hwell hagrees hdocument hclean
  | @inKey cls before after key key' item hkey _ =>
    have hpair := hkey.canonicalPair_key floats item
    constructor
    · refine ⟨labelsAgree_replace hkey.label_eq hpair hagrees.1, ?_⟩
      have hitems := (agreesItems_iff _ _).mp hagrees.2
      rw [List.forall_mem_append, List.forall_mem_cons] at hitems
      rw [agreesItems_iff, List.forall_mem_append, List.forall_mem_cons]
      refine ⟨hitems.1, ?_, hitems.2.2⟩
      intro htext
      exact hitems.2.1 (hkey.textKey_eq ▸ htext)
    · rw [canonicalValue, ← canonicalPairs_replace hpair]
      exact hdocument
  | @inValue cls before after key item item' hitem ih =>
    have hitems := (agreesItems_iff _ _).mp hagrees.2
    have hwells := (wellFormedItems_iff _).mp hwell.2
    rw [List.forall_mem_append, List.forall_mem_cons] at hitems hwells
    have hmem : (key, item) ∈ before ++ (key, item) :: after := by simp
    have hsame : (key.textKey.isSome = true → Agrees floats item') ∧
        canonicalPair floats (key, item) = canonicalPair floats (key, item') := by
      cases hkey : key.textKey with
      | none =>
        rw [canonicalPair_other hkey, canonicalPair_other hkey, hitem.typeName_eq]
        exact ⟨nofun, rfl⟩
      | some name =>
        rw [canonicalValue, Option.map_eq_some_iff] at hdocument
        rcases hdocument with ⟨pairs, hpairs, rfl⟩
        rcases exists_value hagrees.1 hpairs hclean hmem hkey with ⟨value, hvalue, hvalueclean⟩
        have hnew := ih hwells.2.1 (hitems.2.1 (by rw [hkey]; rfl)) hvalue hvalueclean
        rw [canonicalPair_text hkey, canonicalPair_text hkey, hvalue, hnew.2]
        exact ⟨fun _ => hnew.1, rfl⟩
    constructor
    · refine ⟨labelsAgree_replace (by rfl) hsame.2 hagrees.1, ?_⟩
      rw [agreesItems_iff, List.forall_mem_append, List.forall_mem_cons]
      exact ⟨hitems.1, hsame.1, hitems.2.2⟩
    · rw [canonicalValue, ← canonicalPairs_replace hsame.2]
      exact hdocument
  | @inSequence cls before after item item' hitem ih =>
    have hitems := (agreesList_iff _ _).mp hagrees
    have hwells := (wellFormedList_iff _).mp hwell
    rw [List.forall_mem_append, List.forall_mem_cons] at hitems hwells
    rw [canonicalValue, Option.map_eq_some_iff] at hdocument
    rcases hdocument with ⟨values, hvalues, rfl⟩
    rcases exists_itemValue hvalues (clean_of_list hclean) (List.mem_append_right before List.mem_cons_self)
      with ⟨value, hvalue, hvalueclean⟩
    have hnew := ih hwells.2.1 hitems.2.1 hvalue hvalueclean
    constructor
    · rw [Agrees, agreesList_iff, List.forall_mem_append, List.forall_mem_cons]
      exact ⟨hitems.1, hnew.1, hitems.2.2⟩
    · rw [canonicalValue, ← canonicalItems_replace (hvalue.trans hnew.2.symm), hvalues, Option.map_some]
  | @inSet cls before after item item' hitem ih =>
    have hitems := (agreesList_iff _ _).mp hagrees
    have hwells := (wellFormedList_iff _).mp hwell
    rw [List.forall_mem_append, List.forall_mem_cons] at hitems hwells
    have hset := hdocument
    simp only [canonicalValue, Option.bind_eq_some_iff] at hset
    rcases hset with ⟨values, hvalues, -⟩
    rcases exists_itemValue hvalues (clean_of_set hdocument hvalues hclean)
      (List.mem_append_right before List.mem_cons_self) with ⟨value, hvalue, hvalueclean⟩
    have hnew := ih hwells.2.1 hitems.2.1 hvalue hvalueclean
    constructor
    · rw [Agrees, agreesList_iff, List.forall_mem_append, List.forall_mem_cons]
      exact ⟨hitems.1, hnew.1, hitems.2.2⟩
    · rw [canonicalValue, ← canonicalItems_replace (hvalue.trans hnew.2.symm)]
      exact hdocument

end Agreement

end SchemaValue

end HermesClaude.Prompt
