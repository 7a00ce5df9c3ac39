/-
# Which schemas have a hash of their own

A schema keeps its hash in every order exactly if, in each mapping that is looked into, a
key that is no text gets a label under which nothing else would become a different value.
-/

import HermesClaude.Prompt.SchemaOrder

namespace HermesClaude.Prompt

open HermesClaude.Python HermesClaude.Library HermesClaude.Parity

namespace SchemaValue

variable {floats : FloatText}

/-! ## Schemas that keep their canonical document -/

/-- The canonical document is the same in every order. -/
def Stable (floats : FloatText) (value : SchemaValue) : Prop :=
  ∃ document, ∀ other, Reordered value other → canonicalValue floats other = some document

/-- The item that comes last decides what is under its label. -/
theorem key?_of_last {items : List (SchemaValue × SchemaValue)} {item : SchemaValue × SchemaValue}
    {pairs : List (PyStr × Json)} (h : canonicalPairs floats (items ++ [item]) = some pairs) :
    ∃ pair, canonicalPair floats item = some pair ∧
      Json.key? (dictOf (sortByKey Prod.fst pairs)) pair.1 = some pair.2 := by
  rw [canonicalPairs_eq, mapM_eq_some, List.map_append, List.append_eq_map_iff] at h
  rcases h with ⟨before, last, rfl, -, hlast⟩
  rw [List.map_singleton, List.map_eq_singleton_iff] at hlast
  rcases hlast with ⟨pair, rfl, hpair⟩
  refine ⟨pair, hpair.symm, ?_⟩
  rw [key?_sorted, List.filter_append, List.filter_singleton]
  simp

/-- In a stable mapping every item decides what is under its label. -/
theorem Stable.lookup {cls : PyStr} {items : List (SchemaValue × SchemaValue)}
    {entries : List (PyStr × Json)}
    (h : ∀ other, Reordered (.mapping cls items) other → canonicalValue floats other = some (.dict entries))
    {before after : List (SchemaValue × SchemaValue)} {key item item' : SchemaValue}
    (hitems : items = before ++ (key, item) :: after) (hitem : Reordered item item') :
    ∃ pair, canonicalPair floats (key, item') = some pair ∧ Json.key? entries pair.1 = some pair.2 := by
  have hmoved : items.Perm ((before ++ after) ++ (key, item) :: []) := by
    rw [hitems]
    exact List.perm_middle.trans (List.perm_append_singleton _ _).symm
  have hother := h _ ((Reordered.mapping hmoved).trans (.inValue hitem))
  rw [canonicalValue, Option.map_eq_some_iff] at hother
  rcases hother with ⟨pairs, hpairs, hentries⟩
  rw [Json.dict.injEq] at hentries
  rw [← hentries]
  exact key?_of_last hpairs

theorem Stable.labelsAgree {cls : PyStr} {items : List (SchemaValue × SchemaValue)}
    {entries : List (PyStr × Json)}
    (h : ∀ other, Reordered (.mapping cls items) other → canonicalValue floats other = some (.dict entries)) :
    LabelsAgree floats items := by
  have hlookup : ∀ x ∈ items.map fun item => (item.1.label, canonicalPair floats item),
      ∃ pair, x = (pair.1, some pair) ∧ Json.key? entries pair.1 = some pair.2 := by
    intro x hx
    rcases List.mem_map.mp hx with ⟨item, hitem, rfl⟩
    rcases List.mem_iff_append.mp hitem with ⟨before, after, hitems⟩
    rcases Stable.lookup h hitems (.refl item.2) with ⟨pair, hpair, hkey⟩
    exact ⟨pair, by rw [hpair, label_of_canonicalPair hpair], hkey⟩
  intro a ha b hb hkey
  rcases hlookup a ha with ⟨pair, rfl, hpair⟩
  rcases hlookup b hb with ⟨pair', rfl, hpair'⟩
  have hlabel : pair.1 = pair'.1 := hkey
  rw [hlabel, hpair', Option.some_inj] at hpair
  rw [Prod.ext hlabel hpair.symm]

/-- The items under text keys of a stable mapping are stable. -/
theorem Stable.value {cls : PyStr} {items : List (SchemaValue × SchemaValue)}
    {entries : List (PyStr × Json)}
    (h : ∀ other, Reordered (.mapping cls items) other → canonicalValue floats other = some (.dict entries))
    {key item : SchemaValue} (hitem : (key, item) ∈ items) (htext : key.textKey.isSome = true) :
    Stable floats item := by
  rcases Option.isSome_iff_exists.mp htext with ⟨name, hname⟩
  rcases List.mem_iff_append.mp hitem with ⟨before, after, hitems⟩
  have hlookup : ∀ other, Reordered item other →
      ∃ value, canonicalValue floats other = some value ∧ Json.key? entries name = some value := by
    intro other hother
    rcases Stable.lookup h hitems hother with ⟨pair, hpair, hkey⟩
    rw [canonicalPair_text hname, Option.map_eq_some_iff] at hpair
    rcases hpair with ⟨value, hvalue, rfl⟩
    exact ⟨value, hvalue, hkey⟩
  rcases hlookup item (.refl item) with ⟨document, -, hdocument⟩
  refine ⟨document, ?_⟩
  intro other hother
  rcases hlookup other hother with ⟨value, hvalue, hkey⟩
  rw [hvalue, Option.some.inj (hkey.symm.trans hdocument)]

theorem Stable.inSequence {cls : PyStr} {items : List SchemaValue}
    (h : Stable floats (.sequence cls items)) : ∀ item ∈ items, Stable floats item := by
  rcases h with ⟨document, h⟩
  intro item hitem
  rcases List.mem_iff_append.mp hitem with ⟨before, after, rfl⟩
  have hvalues : ∀ other, Reordered item other → ∃ values, document = .list values ∧
      before.map (canonicalValue floats) ++ canonicalValue floats other ::
        after.map (canonicalValue floats) = values.map some := by
    intro other hother
    have hdocument := h _ (.inSequence hother)
    rw [canonicalValue, Option.map_eq_some_iff] at hdocument
    rcases hdocument with ⟨values, hvalues, rfl⟩
    rw [canonicalItems_eq, mapM_eq_some, List.map_append, List.map_cons] at hvalues
    exact ⟨values, rfl, hvalues⟩
  rcases hvalues item (.refl item) with ⟨values, rfl, hitems⟩
  have hfirst : ∃ value, canonicalValue floats item = some value := by
    have hmem : canonicalValue floats item ∈ values.map some := by
      rw [← hitems]
      simp
    rcases List.mem_map.mp hmem with ⟨value, -, hvalue⟩
    exact ⟨value, hvalue.symm⟩
  rcases hfirst with ⟨value, hvalue⟩
  refine ⟨value, ?_⟩
  intro other hother
  rcases hvalues other hother with ⟨values', heq, hitems'⟩
  rw [Json.list.injEq] at heq
  rw [← heq, ← hitems, List.append_cancel_left_eq, List.cons.injEq] at hitems'
  rw [hitems'.1, hvalue]

theorem Stable.inSet {cls : PyStr} {items : List SchemaValue}
    (h : Stable floats (.set cls items)) : ∀ item ∈ items, Stable floats item := by
  rcases h with ⟨document, h⟩
  intro item hitem
  rcases List.mem_iff_append.mp hitem with ⟨before, after, rfl⟩
  have hvalues : ∀ other, Reordered item other → ∃ sorted, document = .list sorted ∧
      (before.map (canonicalValue floats) ++ canonicalValue floats other ::
        after.map (canonicalValue floats)).Perm (sorted.map some) := by
    intro other hother
    have hdocument := h _ (.inSet hother)
    simp only [canonicalValue, Option.bind_eq_some_iff, Option.map_eq_some_iff] at hdocument
    rcases hdocument with ⟨values, hvalues, sorted, hsorted, rfl⟩
    rw [canonicalItems_eq, mapM_eq_some, List.map_append, List.map_cons] at hvalues
    rw [hvalues]
    exact ⟨sorted, rfl, ((perm_of_sortByText hsorted).map some).symm⟩
  rcases hvalues item (.refl item) with ⟨sorted, rfl, hitems⟩
  have hfirst : ∃ value, canonicalValue floats item = some value := by
    have hmem : canonicalValue floats item ∈ sorted.map some := by
      rw [← hitems.mem_iff]
      simp
    rcases List.mem_map.mp hmem with ⟨value, -, hvalue⟩
    exact ⟨value, hvalue.symm⟩
  rcases hfirst with ⟨value, hvalue⟩
  refine ⟨value, ?_⟩
  intro other hother
  rcases hvalues other hother with ⟨sorted', heq, hitems'⟩
  rw [Json.list.injEq] at heq
  rw [← heq] at hitems'
  have hperm := (List.perm_middle.symm.trans (hitems'.trans hitems.symm)).trans List.perm_middle
  have hsame : [_].Perm [_] := (List.perm_append_right_iff _).mp hperm
  rw [List.singleton_perm_singleton] at hsame
  rw [hsame, hvalue]

mutual

/-- **What a stable schema looks like.**  By induction on the schema. -/
theorem Stable.agrees {value : SchemaValue} (h : Stable floats value) : Agrees floats value := by
  match value with
  | .none | .bool _ | .int _ _ | .str _ _ | .float _ _ | .bytes _ _ | .object _ => trivial
  | .mapping cls items =>
    rcases h with ⟨document, h⟩
    have hself := h _ (.refl _)
    rw [canonicalValue, Option.map_eq_some_iff] at hself
    rcases hself with ⟨pairs, -, rfl⟩
    exact ⟨Stable.labelsAgree h, Stable.agreesItems fun _ hitem htext => Stable.value h hitem htext⟩
  | .sequence cls items => exact Stable.agreesList h.inSequence
  | .set cls items => exact Stable.agreesList h.inSet

theorem Stable.agreesItems {items : List (SchemaValue × SchemaValue)}
    (h : ∀ item ∈ items, item.1.textKey.isSome = true → Stable floats item.2) :
    AgreesItems floats items := by
  match items with
  | [] => trivial
  | (key, item) :: rest =>
    rw [List.forall_mem_cons] at h
    exact ⟨fun htext => Stable.agrees (h.1 htext), Stable.agreesItems h.2⟩

theorem Stable.agreesList {items : List SchemaValue} (h : ∀ item ∈ items, Stable floats item) :
    AgreesList floats items := by
  match items with
  | [] => trivial
  | item :: rest =>
    rw [List.forall_mem_cons] at h
    exact ⟨Stable.agrees h.1, Stable.agreesList h.2⟩

end

/-! ## Labels that do not clash -/

/-- A value that becomes `{"__type__": name}`. -/
def IsMarkerOf (name : PyStr) : SchemaValue → Prop
  | .object cls => cls = name
  | .mapping _ [(.str _ key, .str _ text)] => key = lit "__type__" ∧ text = name
  | _ => False

/-- What shares the label of a key that is no text becomes the same marker. -/
def NoClash (items : List (SchemaValue × SchemaValue)) : Prop :=
  ∀ a ∈ items, a.1.textKey = Option.none → ∀ b ∈ items, b.1.label = a.1.label →
    (b.1.textKey = Option.none ∧ b.2.typeName = a.2.typeName) ∨
      (b.1.textKey.isSome = true ∧ IsMarkerOf a.2.typeName b.2)

mutual

/-- In no mapping that is looked into do labels clash. -/
def Unambiguous : SchemaValue → Prop
  | .mapping _ items => NoClash items ∧ UnambiguousItems items
  | .sequence _ items | .set _ items => UnambiguousList items
  | _ => True

def UnambiguousItems : List (SchemaValue × SchemaValue) → Prop
  | [] => True
  | (key, item) :: rest => (key.textKey.isSome = true → Unambiguous item) ∧ UnambiguousItems rest

def UnambiguousList : List SchemaValue → Prop
  | [] => True
  | item :: rest => Unambiguous item ∧ UnambiguousList rest

end

theorem typeMarker_injective {name name' : PyStr} (h : typeMarker name = typeMarker name') :
    name = name' := by
  simpa [typeMarker] using h

theorem keyLabel_ne_type (name : PyStr) : keyLabel name ≠ lit "__type__" := by
  intro h
  have hhead := congrArg List.head? h
  rw [keyLabel, List.append_assoc, List.head?_append_of_ne_nil _ (by decide)] at hhead
  revert hhead
  decide

/-- A set becomes a list. -/
theorem exists_list_of_set {cls : PyStr} {items : List SchemaValue} {document : Json}
    (h : canonicalValue floats (.set cls items) = some document) : ∃ values, document = .list values := by
  simp only [canonicalValue, Option.bind_eq_some_iff, Option.map_eq_some_iff] at h
  rcases h with ⟨_, _, sorted, _, rfl⟩
  exact ⟨sorted, rfl⟩

/-- Text becomes itself, and nothing else becomes text. -/
theorem canonicalValue_eq_str {item : SchemaValue} {text : PyStr}
    (h : canonicalValue floats item = some (.str text)) : ∃ cls, item = .str cls text := by
  cases item with
  | str cls s =>
    rw [canonicalValue, Option.some_inj, Json.str.injEq] at h
    exact ⟨cls, by rw [h]⟩
  | none | bool | int | bytes | object => simp [canonicalValue, typeMarker] at h
  | float cls f => cases f <;> simp [canonicalValue, floatMarker] at h
  | mapping cls items => simp [canonicalValue] at h
  | sequence cls items => simp [canonicalValue] at h
  | set cls items =>
    rcases exists_list_of_set h with ⟨values, hvalues⟩
    cases hvalues

/-- A mapping that becomes a marker has nothing but the text `__type__`. -/
theorem isMarkerOf_mapping {cls name : PyStr} {items : List (SchemaValue × SchemaValue)}
    (hwell : (SchemaValue.mapping cls items).WellFormed)
    (h : canonicalValue floats (.mapping cls items) = some (typeMarker name)) :
    IsMarkerOf name (.mapping cls items) := by
  rw [canonicalValue, Option.map_eq_some_iff] at h
  rcases h with ⟨pairs, hpairs, hentries⟩
  rw [typeMarker, Json.dict.injEq] at hentries
  have hkeys : ∀ pair ∈ pairs, pair.1 = lit "__type__" := by
    intro pair hpair
    have hmem : pair ∈ pairs.filter (·.1 = pair.1) := List.mem_filter.mpr ⟨hpair, by simp⟩
    have hlookup := key?_sorted pairs pair.1
    rw [List.getLast?_eq_some_getLast (List.ne_nil_of_mem hmem), Option.map_some, hentries] at hlookup
    have hunique : ([(lit "__type__", Json.str name)].map Prod.fst).Nodup := List.nodup_singleton _
    have hsingle := (Json.key?_eq_some_iff hunique).mp hlookup
    exact congrArg Prod.fst (List.mem_singleton.mp hsingle)
  have hitems : ∀ item ∈ items, item.1.textKey = some (lit "__type__") := by
    intro item hitem
    rcases exists_mem_of_mapM ((canonicalPairs_eq _).symm.trans hpairs) hitem with ⟨pair, hpair, hcanonical⟩
    have hlabel := (label_of_canonicalPair hcanonical).symm.trans (hkeys pair hpair)
    cases hkey : item.1.textKey with
    | none =>
      rw [label_other hkey] at hlabel
      exact absurd hlabel (keyLabel_ne_type _)
    | some text => rw [← hlabel, label_text hkey]
  have hunique := hwell.1
  match items, hpairs, hitems, hunique with
  | [], hpairs, _, _ =>
    cases hpairs
    cases hentries
  | [(key, item)], hpairs, hitems, _ =>
    have hkey := hitems (key, item) List.mem_cons_self
    rw [canonicalPairs_eq, mapM_eq_some, List.map_singleton, canonicalPair_text hkey, eq_comm,
      List.map_eq_singleton_iff] at hpairs
    rcases hpairs with ⟨pair, rfl, hpair⟩
    rw [eq_comm, Option.map_eq_some_iff] at hpair
    rcases hpair with ⟨value, hvalue, rfl⟩
    change [(lit "__type__", value)] = [(lit "__type__", Json.str name)] at hentries
    rw [List.cons.injEq, Prod.mk.injEq] at hentries
    rw [hentries.1.2] at hvalue
    rcases canonicalValue_eq_str hvalue with ⟨cls, rfl⟩
    cases key <;> cases hkey
    exact ⟨rfl, rfl⟩
  | first :: second :: rest, _, hitems, hunique =>
    have hfirst := hitems first List.mem_cons_self
    have hsecond := hitems second (List.mem_cons_of_mem _ List.mem_cons_self)
    rw [List.filterMap_cons, hfirst, List.filterMap_cons, hsecond] at hunique
    exact absurd List.mem_cons_self (List.nodup_cons.mp hunique).1

/-- The values that become a marker. -/
theorem canonicalValue_eq_typeMarker {item : SchemaValue} (hwell : item.WellFormed) (name : PyStr) :
    canonicalValue floats item = some (typeMarker name) ↔ IsMarkerOf name item := by
  constructor
  · intro h
    cases item with
    | mapping cls items => exact isMarkerOf_mapping hwell h
    | object cls =>
      rw [canonicalValue, Option.some_inj] at h
      exact typeMarker_injective h
    | none | bool | int | str => simp [canonicalValue, typeMarker] at h
    | bytes cls length =>
      have hkey : lit "__bytes_length__" ≠ lit "__type__" := by decide
      simp [canonicalValue, typeMarker, hkey] at h
    | float cls f =>
      have hkey : lit "__float__" ≠ lit "__type__" := by decide
      cases f <;> simp [canonicalValue, floatMarker, typeMarker, hkey] at h
    | sequence cls items => simp [canonicalValue, typeMarker] at h
    | set cls items =>
      rcases exists_list_of_set h with ⟨values, hvalues⟩
      cases hvalues
  · intro h
    match item, h with
    | .object cls, h => exact congrArg (fun name => some (typeMarker name)) h
    | .mapping _ [(.str _ key, .str _ text)], h =>
      rcases h with ⟨rfl, rfl⟩
      rfl

theorem labelsAgree_iff_forall {items : List (SchemaValue × SchemaValue)} : LabelsAgree floats items ↔
    ∀ a ∈ items, ∀ b ∈ items, a.1.label = b.1.label → canonicalPair floats a = canonicalPair floats b := by
  constructor
  · intro h a ha b hb hlabel
    have hsame := h _ (List.mem_map_of_mem ha) _ (List.mem_map_of_mem hb) hlabel
    exact congrArg Prod.snd hsame
  · intro h x hx y hy hlabel
    rcases List.mem_map.mp hx with ⟨a, ha, rfl⟩
    rcases List.mem_map.mp hy with ⟨b, hb, rfl⟩
    rw [Prod.mk.injEq]
    exact ⟨hlabel, h a ha b hb hlabel⟩

/-- What a key that is no text shares its label with. -/
theorem canonicalPair_eq_iff {a b : SchemaValue × SchemaValue} (ha : a.1.textKey = Option.none)
    (hb : b.2.WellFormed) (hlabel : b.1.label = a.1.label) :
    canonicalPair floats a = canonicalPair floats b ↔
      (b.1.textKey = Option.none ∧ b.2.typeName = a.2.typeName) ∨
        (b.1.textKey.isSome = true ∧ IsMarkerOf a.2.typeName b.2) := by
  rcases a with ⟨key, item⟩
  rcases b with ⟨key', item'⟩
  rw [canonicalPair_other ha, ← label_other ha, ← hlabel]
  cases hkey : key'.textKey with
  | none =>
    rw [canonicalPair_other hkey, ← label_other hkey, Option.some_inj, Prod.mk.injEq]
    constructor
    · intro h
      exact Or.inl ⟨rfl, (typeMarker_injective h.2).symm⟩
    · intro h
      rcases h with h | h
      · exact ⟨rfl, congrArg typeMarker h.2.symm⟩
      · cases h.1
  | some name =>
    rw [canonicalPair_text hkey, label_text hkey, eq_comm, Option.map_eq_some_iff]
    simp only [Prod.mk.injEq, true_and, exists_eq_right]
    rw [canonicalValue_eq_typeMarker hb]
    constructor
    · intro h
      exact Or.inr ⟨rfl, h⟩
    · intro h
      rcases h with h | h
      · cases h.1
      · exact h.2

/-- Labels agree exactly if they do not clash. -/
theorem labelsAgree_iff {cls : PyStr} {items : List (SchemaValue × SchemaValue)}
    (hwell : (SchemaValue.mapping cls items).WellFormed) : LabelsAgree floats items ↔ NoClash items := by
  have hitems := (wellFormedItems_iff _).mp hwell.2
  rw [labelsAgree_iff_forall]
  constructor
  · intro h a ha hkey b hb hlabel
    exact (canonicalPair_eq_iff hkey (hitems b hb) hlabel).mp (h a ha b hb hlabel.symm)
  · intro h a ha b hb hlabel
    cases hkey : a.1.textKey with
    | none => exact (canonicalPair_eq_iff hkey (hitems b hb) hlabel.symm).mpr (h a ha hkey b hb hlabel.symm)
    | some name =>
      cases hkey' : b.1.textKey with
      | none =>
        exact ((canonicalPair_eq_iff hkey' (hitems a ha) hlabel).mpr (h b hb hkey' a ha hlabel)).symm
      | some name' =>
        rw [label_text hkey, label_text hkey'] at hlabel
        rw [← hlabel] at hkey'
        rw [eq_of_nodup_filterMap hwell.1 ha hb hkey hkey']

mutual

theorem agrees_iff {value : SchemaValue} (hwell : value.WellFormed) :
    Agrees floats value ↔ value.Unambiguous := by
  match value with
  | .none | .bool _ | .int _ _ | .str _ _ | .float _ _ | .bytes _ _ | .object _ => exact Iff.rfl
  | .mapping cls items => exact and_congr (labelsAgree_iff hwell) (agreesItems_iff_unambiguous hwell.2)
  | .sequence cls items => exact agreesList_iff_unambiguous hwell
  | .set cls items => exact agreesList_iff_unambiguous hwell

theorem agreesItems_iff_unambiguous {items : List (SchemaValue × SchemaValue)}
    (hwell : WellFormedItems items) : AgreesItems floats items ↔ UnambiguousItems items := by
  match items with
  | [] => exact Iff.rfl
  | (key, item) :: rest =>
    exact and_congr (imp_congr_right fun _ => agrees_iff hwell.1) (agreesItems_iff_unambiguous hwell.2)

theorem agreesList_iff_unambiguous {items : List SchemaValue} (hwell : WellFormedList items) :
    AgreesList floats items ↔ UnambiguousList items := by
  match items with
  | [] => exact Iff.rfl
  | item :: rest => exact and_congr (agrees_iff hwell.1) (agreesList_iff_unambiguous hwell.2)

end

/-! ## The hash -/

/-- The bytes that are hashed. -/
def hashedBytes (floats : FloatText) (schema : SchemaValue) : Option Bytes :=
  (canonicalValue floats schema).bind (jsonBytes floats)

theorem stableToolSchemaHash_eq (schema : SchemaValue) :
    stableToolSchemaHash floats schema = (hashedBytes floats schema).map hexdigest := by
  rw [stableToolSchemaHash, hashedBytes]
  cases canonicalValue floats schema <;> rfl

/-- SHA-256 tells the orders of a schema apart wherever their bytes differ. -/
def CollisionFree (floats : FloatText) (schema : SchemaValue) : Prop :=
  ∀ other, Reordered schema other → stableToolSchemaHash floats other = stableToolSchemaHash floats schema →
    hashedBytes floats other = hashedBytes floats schema

theorem clean_of_encodeUtf8 {text : PyStr} {data : Bytes} (h : encodeUtf8 text = some data) :
    Clean text := by
  unfold encodeUtf8 at h
  split at h
  · cases h
  · next hnone =>
    intro c hc
    rw [List.any_eq_true] at hnone
    rw [← Bool.not_eq_true]
    intro hsurrogate
    exact hnone ⟨c, hc, hsurrogate⟩

/-- Canonical documents with the same bytes are equal. -/
theorem eq_of_jsonBytes {document document' : Json} {data : Bytes} (h : CanonicalDocument document)
    (h' : CanonicalDocument document') (hdata : jsonBytes floats document = some data)
    (hdata' : jsonBytes floats document' = some data) : document = document' := by
  rw [jsonBytes, Option.bind_eq_some_iff] at hdata hdata'
  rcases hdata with ⟨text, htext, hencode⟩
  rcases hdata' with ⟨text', htext', hencode'⟩
  have hsame : some text = some text' :=
    (decodeUtf8_encodeUtf8 hencode false).symm.trans (decodeUtf8_encodeUtf8 hencode' false)
  rw [← Option.some.inj hsame] at htext'
  have hsorted := JSONEncoder.sortKeys_eq_of_dumps (hashEncoder_lawful floats) h.doubles h'.doubles
    h.uniqueKeys h'.uniqueKeys htext htext'
  rwa [h.sorted, h'.sorted] at hsorted

/-- A schema with a hash has a canonical document without lone surrogates. -/
theorem exists_document {schema : SchemaValue} (hwell : schema.WellFormed)
    (h : (stableToolSchemaHash floats schema).isSome = true) :
    ∃ document, canonicalValue floats schema = some document ∧ document.CleanTexts := by
  rw [stableToolSchemaHash_eq, Option.isSome_map, Option.isSome_iff_exists] at h
  rcases h with ⟨data, hdata⟩
  rw [hashedBytes, Option.bind_eq_some_iff] at hdata
  rcases hdata with ⟨document, hdocument, hdata⟩
  rw [jsonBytes, Option.bind_eq_some_iff] at hdata
  rcases hdata with ⟨text, htext, hdata⟩
  have hspec := JSONEncoder.encode_spec (simple_of_all (by rfl))
    (canonicalDocument hwell hdocument).doubles htext
  exact ⟨document, hdocument, hspec.2.mp (clean_of_encodeUtf8 hdata)⟩

/-- **The hash of a schema is a function of its content** exactly if no labels clash. -/
theorem schema_hash_stable_iff {schema : SchemaValue} (hwell : schema.WellFormed)
    (hhash : (stableToolSchemaHash floats schema).isSome = true)
    (hcollisions : CollisionFree floats schema) :
    (∀ other, Reordered schema other →
      stableToolSchemaHash floats other = stableToolSchemaHash floats schema) ↔ schema.Unambiguous := by
  rcases exists_document hwell hhash with ⟨document, hdocument, hclean⟩
  constructor
  · intro h
    rw [← agrees_iff hwell]
    apply Stable.agrees
    refine ⟨document, ?_⟩
    intro other hother
    have hbytes := hcollisions other hother (h other hother)
    rw [stableToolSchemaHash_eq, Option.isSome_map, Option.isSome_iff_exists] at hhash
    rcases hhash with ⟨data, hdata⟩
    rw [hdata, hashedBytes, Option.bind_eq_some_iff] at hbytes
    rcases hbytes with ⟨document', hdocument', hdata'⟩
    rw [hashedBytes, hdocument, Option.bind_some] at hdata
    rw [hdocument', eq_of_jsonBytes (canonicalDocument (hother.wellFormed hwell) hdocument')
      (canonicalDocument hwell hdocument) hdata' hdata]
  · intro h other hother
    have hcanonical := hother.canonical hwell ((agrees_iff hwell).mpr h) hdocument hclean
    rw [stableToolSchemaHash, hcanonical.2, stableToolSchemaHash, hdocument]


/-- A schema with one text key. -/
def namedSchema : SchemaValue := .mapping (lit "dict") [(.str (lit "str") (lit "name"), .none)]

/-- Two numbers as keys, of items of different types. -/
def numberKeys : List (SchemaValue × SchemaValue) :=
  [(.int (lit "int") 1, .str (lit "str") (lit "a")), (.int (lit "int") 2, .int (lit "int") 3)]

theorem schema_hash_stable_iff_named :
    (∀ other, Reordered namedSchema other →
      stableToolSchemaHash exactFloatText other = stableToolSchemaHash exactFloatText namedSchema) ↔
        namedSchema.Unambiguous := by
  have hwell : namedSchema.WellFormed := ⟨List.nodup_singleton _, trivial, trivial⟩
  have hhash : (stableToolSchemaHash exactFloatText namedSchema).isSome = true := rfl
  have hunambiguous : namedSchema.Unambiguous := by
    refine ⟨?_, fun _ => trivial, trivial⟩
    intro a ha hkey
    rw [List.mem_singleton.mp ha] at hkey
    cases hkey
  have hcollisions : CollisionFree exactFloatText namedSchema := by
    intro other hother _
    rcases exists_document hwell hhash with ⟨document, hdocument, hclean⟩
    have hcanonical := hother.canonical hwell ((agrees_iff hwell).mpr hunambiguous) hdocument hclean
    rw [hashedBytes, hcanonical.2, hashedBytes, hdocument]
  exact schema_hash_stable_iff hwell hhash hcollisions

/-- The last of the numbers decides. -/
theorem schema_hash_depends_on_order :
    Reordered (.mapping (lit "dict") numberKeys) (.mapping (lit "dict") numberKeys.reverse) ∧
      stableToolSchemaHash exactFloatText (.mapping (lit "dict") numberKeys) ≠
        stableToolSchemaHash exactFloatText (.mapping (lit "dict") numberKeys.reverse) := by
  refine ⟨.mapping (List.reverse_perm _).symm, ?_⟩
  decide +kernel

end SchemaValue

end HermesClaude.Prompt
