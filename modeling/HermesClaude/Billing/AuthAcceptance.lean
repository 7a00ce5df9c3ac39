/-
# When an authentication status is accepted

The hook keeps what a status field says, so only a text is accepted that is a document with an
accepted value in each of the four fields.  The bound on the size is met twice: by the payload, and
by the approximation of its fields, which counts more for some fields than they take in the text.
-/

import HermesClaude.Billing.AuthStatus
import HermesClaude.Python.Stripping

namespace HermesClaude.Billing

open HermesClaude.Python

/-! ## What the hook keeps -/

/-- The status fields of an object. -/
def statusPairs (pairs : List (PyStr × PyValue)) : List (PyStr × PyValue) :=
  pairs.filter fun pair => pair.1 ∈ statusFields

/-- The status fields among the keys of an object. -/
def statusKeys (items : List (PyValue × PyValue)) : List PyStr :=
  (items.map fun item => item.1.keyText).filter fun key => key ∈ statusFields

mutual

/-- No object of a value has a status field twice. -/
def StatusFieldsOnce : PyValue → Prop
  | .list items => StatusFieldsOnceList items
  | .dict items => (statusKeys items).Nodup ∧ StatusFieldsOnceItems items
  | .none | .bool _ | .int _ | .float _ | .str _ | .bytes _ | .tuple _ | .set _ | .object _ _ => True

def StatusFieldsOnceList : List PyValue → Prop
  | [] => True
  | item :: items => StatusFieldsOnce item ∧ StatusFieldsOnceList items

def StatusFieldsOnceItems : List (PyValue × PyValue) → Prop
  | [] => True
  | (_, item) :: items => StatusFieldsOnce item ∧ StatusFieldsOnceItems items

end

section Hook

variable {items : List (PyValue × PyValue)} {fields : List (PyStr × PyValue)} {key : PyStr}

theorem jsonObjectPairsFrom_eq (pairs : List (PyStr × PyValue)) :
    ∀ result : List (PyStr × PyValue), (result.map Prod.fst).Nodup →
      jsonObjectPairsFrom result pairs =
        if ((result ++ statusPairs pairs).map Prod.fst).Nodup then
          some (.dict (pairItems (result ++ statusPairs pairs)))
        else none := by
  induction pairs with
  | nil =>
    intro result hresult
    rw [statusPairs, List.filter_nil, List.append_nil, if_pos hresult, jsonObjectPairsFrom]
  | cons pair pairs ih =>
    rcases pair with ⟨key, value⟩
    intro result hresult
    rw [jsonObjectPairsFrom]
    by_cases hstatus : key ∈ statusFields
    · have hcons : statusPairs ((key, value) :: pairs) = (key, value) :: statusPairs pairs := by
        rw [statusPairs, List.filter_cons_of_pos (by simpa using hstatus), statusPairs]
      rw [hcons]
      by_cases hmem : key ∈ result.map Prod.fst
      · rw [if_pos ⟨hstatus, hmem⟩, if_neg]
        intro hnodup
        rw [List.map_append, List.nodup_append] at hnodup
        exact hnodup.2.2 key hmem key (by simp) rfl
      · rw [if_neg fun h => hmem h.2, if_pos hstatus, ih, List.append_assoc, List.singleton_append]
        rw [List.map_append, List.nodup_append]
        refine ⟨hresult, List.nodup_singleton _, ?_⟩
        intro other hother same hsame heq
        rw [List.map_singleton, List.mem_singleton] at hsame
        rw [heq, hsame] at hother
        exact hmem hother
    · have hcons : statusPairs ((key, value) :: pairs) = statusPairs pairs := by
        rw [statusPairs, List.filter_cons_of_neg (by simpa using hstatus), statusPairs]
      rw [if_neg fun h => hstatus h.1, if_neg hstatus, ih result hresult, hcons]

/-- The hook gives the status fields of an object, unless one of them is there twice. -/
theorem jsonObjectPairs_eq (pairs : List (PyStr × PyValue)) :
    jsonObjectPairs pairs =
      if ((statusPairs pairs).map Prod.fst).Nodup then some (.dict (pairItems (statusPairs pairs)))
      else none := by
  rw [jsonObjectPairs, jsonObjectPairsFrom_eq pairs [] List.nodup_nil, List.nil_append]

theorem keys_foldHookItems {hook : List (PyStr × PyValue) → Option PyValue}
    (items : List (PyValue × PyValue)) :
    ∀ {fields : List (PyStr × PyValue)}, foldHookItems hook items = some fields →
      fields.map Prod.fst = items.map fun item => item.1.keyText := by
  induction items with
  | nil =>
    intro fields h
    rw [foldHookItems] at h
    cases h
    rfl
  | cons item items ih =>
    rcases item with ⟨key, item⟩
    intro fields h
    rw [foldHookItems] at h
    rcases Option.bind_eq_some_iff.mp h with ⟨value, -, h⟩
    rcases Option.map_eq_some_iff.mp h with ⟨others, hothers, rfl⟩
    rw [List.map_cons, List.map_cons, ih hothers]

theorem keys_statusPairs (h : foldHookItems jsonObjectPairs items = some fields) :
    (statusPairs fields).map Prod.fst = statusKeys items := by
  rw [statusKeys, ← keys_foldHookItems items h, List.filter_map]
  rfl

mutual

/-- The hook refuses the values that repeat a status field. -/
theorem isSome_foldHook : ∀ value : PyValue,
    (foldHook jsonObjectPairs value).isSome = true ↔ StatusFieldsOnce value
  | .list items => by
    rw [foldHook, StatusFieldsOnce, Option.isSome_map]
    exact isSome_foldHookList items
  | .dict items => by
    rw [foldHook, StatusFieldsOnce, ← isSome_foldHookItems items]
    cases hfold : foldHookItems jsonObjectPairs items with
    | none => simp
    | some fields =>
      rw [Option.bind_some, jsonObjectPairs_eq, keys_statusPairs hfold]
      split_ifs with hnodup
      · simp [hnodup]
      · simp [hnodup]
  | .none | .bool _ | .int _ | .float _ | .str _ | .bytes _ | .tuple _ | .set _ | .object _ _ => by
    simp [foldHook, StatusFieldsOnce]

theorem isSome_foldHookList : ∀ items : List PyValue,
    (foldHookList jsonObjectPairs items).isSome = true ↔ StatusFieldsOnceList items
  | [] => by simp [foldHookList, StatusFieldsOnceList]
  | item :: items => by
    rw [foldHookList, StatusFieldsOnceList, ← isSome_foldHook item, ← isSome_foldHookList items]
    cases foldHook jsonObjectPairs item with
    | none => simp
    | some value => simp

theorem isSome_foldHookItems : ∀ items : List (PyValue × PyValue),
    (foldHookItems jsonObjectPairs items).isSome = true ↔ StatusFieldsOnceItems items
  | [] => by simp [foldHookItems, StatusFieldsOnceItems]
  | (key, item) :: items => by
    rw [foldHookItems, StatusFieldsOnceItems, ← isSome_foldHook item, ← isSome_foldHookItems items]
    cases foldHook jsonObjectPairs item with
    | none => simp
    | some value => simp

end

/-- The hook changes nothing but objects and what contains them. -/
theorem eq_of_foldHook {value folded : PyValue} (h : foldHook jsonObjectPairs value = some folded)
    (hlist : ∀ items, folded ≠ .list items) (hdict : ∀ items, folded ≠ .dict items) : value = folded := by
  cases value with
  | list items =>
    rw [foldHook] at h
    rcases Option.map_eq_some_iff.mp h with ⟨values, -, heq⟩
    exact absurd heq.symm (hlist values)
  | dict items =>
    rw [foldHook] at h
    rcases Option.bind_eq_some_iff.mp h with ⟨fields, -, h⟩
    rw [jsonObjectPairs_eq] at h
    split_ifs at h
    exact absurd (Option.some.inj h).symm (hdict _)
  | _ => exact Option.some.inj h

theorem exists_dict_of_foldHook {value : PyValue} {found : List (PyValue × PyValue)}
    (h : foldHook jsonObjectPairs value = some (.dict found)) : ∃ items, value = .dict items := by
  cases value with
  | list items =>
    rw [foldHook] at h
    rcases Option.map_eq_some_iff.mp h with ⟨values, -, heq⟩
    cases heq
  | dict items => exact ⟨items, rfl⟩
  | _ => cases h

theorem lookupKey_cons (item : PyValue × PyValue) (items : List (PyValue × PyValue)) (key : PyStr) :
    PyValue.lookupKey (item :: items) key =
      if item.1.isText key then some item.2 else PyValue.lookupKey items key := by
  rw [PyValue.lookupKey, List.find?_cons]
  cases item.1.isText key with
  | true => rfl
  | false => rfl

theorem isText_iff_keyText (value : PyValue) (hkey : key ≠ []) :
    value.isText key = true ↔ value.keyText = key := by
  cases value with
  | str s => simp [PyValue.isText, PyValue.keyText]
  | _ => simp [PyValue.isText, PyValue.keyText, hkey.symm]

theorem ne_nil_of_mem_statusFields (h : key ∈ statusFields) : key ≠ [] := by
  have hall : statusFields.all (fun key => !key.isEmpty) = true := by decide
  have hkey := List.all_eq_true.mp hall key h
  rw [Bool.not_eq_true', List.isEmpty_eq_false_iff] at hkey
  exact hkey

/-- What a status field says after the hook is what it said before, up to the hook. -/
theorem lookupKey_statusPairs (hkey : key ∈ statusFields) (items : List (PyValue × PyValue)) :
    ∀ {fields : List (PyStr × PyValue)}, foldHookItems jsonObjectPairs items = some fields →
      PyValue.lookupKey (pairItems (statusPairs fields)) key =
        (PyValue.lookupKey items key).bind (foldHook jsonObjectPairs) := by
  induction items with
  | nil =>
    intro fields h
    rw [foldHookItems] at h
    cases h
    rfl
  | cons item items ih =>
    rcases item with ⟨name, item⟩
    intro fields h
    rw [foldHookItems] at h
    rcases Option.bind_eq_some_iff.mp h with ⟨value, hvalue, h⟩
    rcases Option.map_eq_some_iff.mp h with ⟨others, hothers, rfl⟩
    have hraw := isText_iff_keyText name (ne_nil_of_mem_statusFields hkey)
    rw [lookupKey_cons]
    by_cases hname : name.keyText = key
    · have hstatus : name.keyText ∈ statusFields := hname ▸ hkey
      rw [if_pos (hraw.mpr hname), statusPairs, List.filter_cons_of_pos (by simpa using hstatus), pairItems,
        List.map_cons, lookupKey_cons, if_pos (by simp [PyValue.isText, hname]), Option.bind_some, hvalue]
    · rw [if_neg (fun h => hname (hraw.mp h)), ← ih hothers]
      by_cases hstatus : name.keyText ∈ statusFields
      · rw [statusPairs, List.filter_cons_of_pos (by simpa using hstatus), pairItems, List.map_cons,
          lookupKey_cons, if_neg (by simp [PyValue.isText, hname]), statusPairs, pairItems]
      · rw [statusPairs, List.filter_cons_of_neg (by simpa using hstatus), statusPairs]

/-- Where no status field is there twice there are at most four of them. -/
theorem length_statusPairs_le (hnodup : ((statusPairs fields).map Prod.fst).Nodup) :
    (statusPairs fields).length ≤ statusFields.length := by
  have hsubset : (statusPairs fields).map Prod.fst ⊆ statusFields := by
    intro key hkey
    rcases List.mem_map.mp hkey with ⟨pair, hpair, rfl⟩
    simpa using (List.mem_filter.mp hpair).2
  have hle := (List.subperm_of_subset hnodup hsubset).length_le
  rw [List.length_map] at hle
  exact hle

end Hook

/-! ## The fields that were read -/

section Fields

variable (library : StatusLibrary)

/-- The mapping of the fields that a document has. -/
def fieldsRead (read : PyStr → Option PyValue) : List (PyStr × PyValue) :=
  library.order.filterMap fun key => (read key).map fun value => (key, value)

/-- The judgement of the fields of a document. -/
def judgeFields (limit : Nat) (read : PyStr → Option PyValue) : AuthCategory :=
  if mappingIsOversized limit (fieldsRead library read) then .oversized
  else judgeMapping library (fieldsRead library read)

/-- What a document says of a field, as the hook leaves it. -/
def foldedField (items : List (PyValue × PyValue)) (key : PyStr) : Option PyValue :=
  (PyValue.lookupKey items key).bind (foldHook jsonObjectPairs)

variable {library} {read read' : PyStr → Option PyValue} {limit : Nat}

theorem fieldsRead_congr (h : ∀ key ∈ statusFields, read key = read' key) :
    fieldsRead library read = fieldsRead library read' := by
  apply List.filterMap_congr
  intro key hkey
  rw [h key (library.order_perm.mem_iff.mp hkey)]

theorem lookup_filterMap (keys : List PyStr) (key : PyStr) :
    (keys.filterMap fun name => (read name).map fun value => (name, value)).lookup key =
      if key ∈ keys then read key else none := by
  induction keys with
  | nil => rfl
  | cons name keys ih =>
    by_cases hname : key = name
    · subst hname
      rw [if_pos List.mem_cons_self]
      cases hread : read key with
      | none =>
        rw [List.filterMap_cons_none (by rw [hread]; rfl), ih, hread]
        exact ite_self _
      | some value =>
        rw [List.filterMap_cons_some (by rw [hread]; rfl), List.lookup_cons_self]
    · have hskip : (if key ∈ name :: keys then read key else none) =
          if key ∈ keys then read key else none := by
        simp [hname]
      rw [hskip, ← ih]
      cases hread : read name with
      | none => rw [List.filterMap_cons_none (by rw [hread]; rfl)]
      | some value =>
        rw [List.filterMap_cons_some (by rw [hread]; rfl), List.lookup_cons, beq_eq_false_iff_ne.mpr hname]

theorem lookup_fieldsRead (library : StatusLibrary) (read : PyStr → Option PyValue) (key : PyStr)
    (hkey : key ∈ statusFields) :
    (fieldsRead library read).lookup key = read key := by
  rw [fieldsRead, lookup_filterMap, if_pos (library.order_perm.mem_iff.mpr hkey)]

/-- What the approximation counts for a value whose text can be encoded. -/
def valueCost : PyValue → Nat
  | .str s => (utf8Size s).getD 0 + 2
  | .bytes data => data.length + 2
  | .dict _ => 16
  | _ => 8

/-- What the approximation counts for a field. -/
def fieldCost (field : PyStr × PyValue) : Nat := field.1.length + 4 + valueCost field.2

theorem mappingIsOversized_cons {value : PyValue}
    (hplain : ∀ s, value = .str s → (utf8Size s).isSome = true) (budget : Int) (key : PyStr)
    (rest : List (PyStr × PyValue)) :
    mappingIsOversized budget ((key, value) :: rest) =
      if budget - (key.length + 4) < 0 then true
      else if budget - (key.length + 4) - valueCost value < 0 then true
      else mappingIsOversized (budget - (key.length + 4) - valueCost value) rest := by
  cases value with
  | str s =>
    rcases Option.isSome_iff_exists.mp (hplain s rfl) with ⟨size, hsize⟩
    simp only [mappingIsOversized, hsize, valueCost, Option.getD_some, Nat.cast_add, Nat.cast_ofNat]
  | bytes data => simp only [mappingIsOversized, valueCost, Nat.cast_add, Nat.cast_ofNat]
  | dict items => rfl
  | _ => rfl

/-- The fields are too large where they cost more than the budget. -/
theorem mappingIsOversized_eq (mapping : List (PyStr × PyValue)) :
    ∀ budget : Int, 0 ≤ budget →
      (∀ field ∈ mapping, ∀ s, field.2 = .str s → (utf8Size s).isSome = true) →
      mappingIsOversized budget mapping = decide (budget < ((mapping.map fieldCost).sum : Nat)) := by
  induction mapping with
  | nil =>
    intro budget hbudget hplain
    rw [mappingIsOversized, List.map_nil, List.sum_nil]
    symm
    simpa using hbudget
  | cons field mapping ih =>
    rcases field with ⟨key, value⟩
    intro budget hbudget hplain
    rw [mappingIsOversized_cons (hplain _ List.mem_cons_self), List.map_cons, List.sum_cons, fieldCost]
    dsimp only
    split_ifs with hkey hvalue
    · symm
      rw [decide_eq_true_eq]
      omega
    · symm
      rw [decide_eq_true_eq]
      omega
    · rw [ih _ (by omega) fun field hfield => hplain field (List.mem_cons_of_mem _ hfield)]
      apply decide_eq_decide.mpr
      omega

end Fields

/-! ## The fields that are accepted -/

/-- A text names one of a set, once it is trimmed and case folded. -/
structure Names (library : StatusLibrary) (allowed : List PyStr) (raw : PyStr) : Prop where
  short : (library.casefold (strip raw)).length ≤ maxEnumTextLength
  clear : ∀ c ∈ library.casefold (strip raw), c.isAsciiControl = false
  mem : library.casefold (strip raw) ∈ allowed

section Judging

variable {library : StatusLibrary} {allowed : List PyStr} {raw : PyStr}

theorem normaliseEnumText_str {text : PyStr} :
    normaliseEnumText library (.str raw) = some text ↔
      text = library.casefold (strip raw) ∧ text ≠ [] ∧ text.length ≤ maxEnumTextLength ∧
        ∀ c ∈ text, c.isAsciiControl = false := by
  have hany : ∀ s : PyStr, s.any CodePoint.isAsciiControl = true ↔ ¬∀ c ∈ s, c.isAsciiControl = false := by
    intro s
    simp [List.any_eq_true]
  rw [normaliseEnumText]
  constructor
  · intro h
    split_ifs at h with hsize hcontrol
    cases h
    rw [not_or, not_lt] at hsize
    rw [hany, not_not] at hcontrol
    exact ⟨rfl, hsize.1, hsize.2, hcontrol⟩
  · intro h
    rcases h with ⟨rfl, hne, hshort, hclear⟩
    rw [if_neg (not_or.mpr ⟨hne, not_lt.mpr hshort⟩), if_neg (fun h => (hany _).mp h hclear)]

theorem Names.normaliseEnumText_eq (h : Names library allowed raw) (hne : [] ∉ allowed) :
    normaliseEnumText library (.str raw) = some (library.casefold (strip raw)) := by
  apply normaliseEnumText_str.mpr
  refine ⟨rfl, ?_, h.short, h.clear⟩
  intro hnil
  exact hne (hnil ▸ h.mem)

theorem names_of_normaliseEnumText {value : PyValue} {text : PyStr}
    (h : normaliseEnumText library value = some text) (hmem : text ∈ allowed) :
    ∃ raw, value = .str raw ∧ Names library allowed raw := by
  cases value with
  | str raw =>
    rcases normaliseEnumText_str.mp h with ⟨rfl, -, hshort, hclear⟩
    exact ⟨raw, rfl, hshort, hclear, hmem⟩
  | _ => cases h

theorem isSpace_of_isSurrogate {c : CodePoint} (h : c.isSurrogate = true) : c.isSpace = false := by
  simp only [CodePoint.isSurrogate, CodePoint.isSpace, Bool.and_eq_true, decide_eq_true_eq,
    Bool.or_eq_false_iff, Bool.and_eq_false_iff, decide_eq_false_iff_not, beq_eq_false_iff_ne] at h ⊢
  omega

/-- A text that names one of a set of encodable texts can be encoded itself. -/
theorem Names.isSome_utf8Size (h : Names library allowed raw)
    (hallowed : allowed.all (fun text => text.all fun c => !c.isSurrogate) = true) :
    (utf8Size raw).isSome = true := by
  rw [utf8Size, if_neg]
  · rfl
  · intro hany
    rcases List.any_eq_true.mp hany with ⟨c, hc, hsurrogate⟩
    have hfolded : c ∈ library.casefold (strip raw) := by
      apply List.mem_flatMap.mpr
      refine ⟨c, mem_strip hc (isSpace_of_isSurrogate hsurrogate), ?_⟩
      rw [library.fold_surrogate c hsurrogate]
      exact List.mem_singleton_self c
    have hplain := List.all_eq_true.mp (List.all_eq_true.mp hallowed _ h.mem) c hfolded
    rw [hsurrogate] at hplain
    cases hplain

theorem not_mem_of_all {sets others : List PyStr} (h : sets.all (fun text => text ∉ others) = true)
    {text : PyStr} (hmem : text ∈ sets) : text ∉ others := by
  simpa using List.all_eq_true.mp h text hmem

/-- The subscription decides just where the provider is the first party and the method OAuth. -/
theorem judgeRoute_eq_none {authMethod apiProvider : PyStr} :
    judgeRoute authMethod apiProvider = none ↔
      authMethod ∈ oauthMethods ∧ apiProvider ∈ firstPartyProviders := by
  rw [judgeRoute]
  constructor
  · intro h
    split_ifs at h with _ _ _ hprovider hmethod
    exact ⟨hmethod, hprovider⟩
  · intro h
    rcases h with ⟨hmethod, hprovider⟩
    rw [if_neg (not_mem_of_all (by decide) hmethod), if_neg (not_mem_of_all (by decide) hmethod),
      if_neg (not_mem_of_all (by decide) hprovider), if_neg (not_not.mpr hprovider),
      if_neg (not_not.mpr hmethod)]

theorem judgeRoute_ne {authMethod apiProvider : PyStr} :
    judgeRoute authMethod apiProvider ≠ some .subscriptionOauth := by
  intro h
  rw [judgeRoute] at h
  split_ifs at h <;> cases h

theorem judgeSubscription_eq {subscriptionType : Option PyValue} :
    judgeSubscription library subscriptionType = .subscriptionOauth ↔
      ∃ raw, subscriptionType = some (.str raw) ∧ Names library subscriptionTypes raw := by
  constructor
  · intro h
    rw [judgeSubscription.eq_def] at h
    split at h
    · cases h
    · next raw =>
      split_ifs at h
      split at h
      · cases h
      · next text htext =>
        split_ifs at h with _ hknown
        rcases names_of_normaliseEnumText htext (hknown) with ⟨raw', heq, hnames⟩
        cases heq
        exact ⟨raw, rfl, hnames⟩
    · cases h
  · intro h
    rcases h with ⟨raw, rfl, hnames⟩
    have hblank : strip raw ≠ [] := by
      intro hnil
      have hmem := hnames.mem
      have hfold : library.casefold [] = [] := rfl
      rw [hnil, hfold] at hmem
      exact absurd hmem (by decide)
    rw [judgeSubscription]
    simp only [if_neg hblank, hnames.normaliseEnumText_eq (by decide)]
    rw [if_neg (not_mem_of_all (by decide) hnames.mem), if_neg (not_not.mpr hnames.mem)]

end Judging

/-- The fields of a document that is accepted. -/
structure Accepted (library : StatusLibrary) (read : PyStr → Option PyValue)
    (method provider subscription : PyStr) : Prop where
  loggedIn : read (lit "loggedIn") = some (.bool true)
  authMethod : read (lit "authMethod") = some (.str method)
  apiProvider : read (lit "apiProvider") = some (.str provider)
  subscriptionType : read (lit "subscriptionType") = some (.str subscription)
  method_names : Names library oauthMethods method
  provider_names : Names library firstPartyProviders provider
  subscription_names : Names library subscriptionTypes subscription

section Reading

theorem eq_some_of_getD {found : Option PyValue} {value : PyValue} (h : found.getD .none = value)
    (hvalue : value ≠ .none) : found = some value := by
  cases found with
  | none => exact absurd h.symm hvalue
  | some other => exact congrArg some h

variable {library : StatusLibrary} {read : PyStr → Option PyValue} {method provider subscription : PyStr}

theorem judgeMapping_eq :
    judgeMapping library (fieldsRead library read) = .subscriptionOauth ↔
      ∃ method provider subscription, Accepted library read method provider subscription := by
  have hlogin := lookup_fieldsRead library read (lit "loggedIn") (by decide)
  have hmethod := lookup_fieldsRead library read (lit "authMethod") (by decide)
  have hprovider := lookup_fieldsRead library read (lit "apiProvider") (by decide)
  have hsubscription := lookup_fieldsRead library read (lit "subscriptionType") (by decide)
  simp only [judgeMapping, hlogin, hmethod, hprovider, hsubscription]
  constructor
  · intro h
    split at h
    · cases h
    · next hlogged =>
      split at h
      · next authMethod apiProvider hauth hapi =>
        cases hroute : judgeRoute authMethod apiProvider with
        | some category =>
          rw [hroute, Option.getD_some] at h
          exact absurd (h ▸ hroute) judgeRoute_ne
        | none =>
          rw [hroute, Option.getD_none] at h
          rcases judgeRoute_eq_none.mp hroute with ⟨hoauth, hfirst⟩
          rcases names_of_normaliseEnumText hauth hoauth with ⟨method, hmethod, hmethodNames⟩
          rcases names_of_normaliseEnumText hapi hfirst with ⟨provider, hprovider, hproviderNames⟩
          rcases judgeSubscription_eq.mp h with ⟨subscription, hsub, hsubNames⟩
          exact ⟨method, provider, subscription, eq_some_of_getD hlogged (by simp),
            eq_some_of_getD hmethod (by simp), eq_some_of_getD hprovider (by simp), hsub, hmethodNames,
            hproviderNames, hsubNames⟩
      · cases h
    · cases h
  · intro h
    rcases h with ⟨method, provider, subscription, h⟩
    rw [h.loggedIn, h.authMethod, h.apiProvider, h.subscriptionType]
    simp only [Option.getD_some, h.method_names.normaliseEnumText_eq (by decide),
      h.provider_names.normaliseEnumText_eq (by decide),
      judgeRoute_eq_none.mpr ⟨h.method_names.mem, h.provider_names.mem⟩, Option.getD_none]
    exact judgeSubscription_eq.mpr ⟨subscription, rfl, h.subscription_names⟩

/-- What the approximation counts for the fields that are accepted. -/
theorem Accepted.cost (h : Accepted library read method provider subscription) :
    ((fieldsRead library read).map fieldCost).sum =
      75 + ((utf8Size method).getD 0 + (utf8Size provider).getD 0 + (utf8Size subscription).getD 0) := by
  have hperm := ((library.order_perm.filterMap fun key =>
    (read key).map fun value => (key, value)).map fieldCost).sum_eq
  have hlength : (lit "loggedIn").length = 8 ∧ (lit "authMethod").length = 10 ∧
      (lit "apiProvider").length = 11 ∧ (lit "subscriptionType").length = 16 := by decide
  rw [fieldsRead, hperm]
  simp only [statusFields, List.filterMap_cons, List.filterMap_nil, h.loggedIn, h.authMethod, h.apiProvider,
    h.subscriptionType, Option.map_some, List.map_cons, List.map_nil, List.sum_cons, List.sum_nil, fieldCost,
    valueCost, hlength]
  omega

theorem Accepted.isSome_utf8Size (h : Accepted library read method provider subscription) :
    ∀ field ∈ fieldsRead library read, ∀ s, field.2 = .str s → (utf8Size s).isSome = true := by
  intro field hfield s hs
  rcases List.mem_filterMap.mp hfield with ⟨key, hkey, hread⟩
  rcases Option.map_eq_some_iff.mp hread with ⟨value, hvalue, rfl⟩
  have hstatus := library.order_perm.mem_iff.mp hkey
  simp only [statusFields, List.mem_cons, List.not_mem_nil, or_false] at hstatus
  rw [show value = .str s from hs] at hvalue
  rcases hstatus with rfl | rfl | rfl | rfl
  · rw [h.loggedIn] at hvalue
    cases hvalue
  · rw [h.authMethod] at hvalue
    cases hvalue
    exact h.method_names.isSome_utf8Size (by decide)
  · rw [h.apiProvider] at hvalue
    cases hvalue
    exact h.provider_names.isSome_utf8Size (by decide)
  · rw [h.subscriptionType] at hvalue
    cases hvalue
    exact h.subscription_names.isSome_utf8Size (by decide)

/-- The judgement of the fields. -/
theorem judgeFields_eq {limit : Nat} :
    judgeFields library limit read = .subscriptionOauth ↔
      ∃ method provider subscription, Accepted library read method provider subscription ∧
        75 + ((utf8Size method).getD 0 + (utf8Size provider).getD 0 + (utf8Size subscription).getD 0) ≤
          limit := by
  have hfits : ∀ {method provider subscription}, Accepted library read method provider subscription →
      (mappingIsOversized limit (fieldsRead library read) = false ↔
        75 + ((utf8Size method).getD 0 + (utf8Size provider).getD 0 + (utf8Size subscription).getD 0) ≤
          limit) := by
    intro method provider subscription h
    rw [mappingIsOversized_eq _ _ (Int.natCast_nonneg limit) h.isSome_utf8Size, h.cost,
      decide_eq_false_iff_not]
    omega
  rw [judgeFields]
  constructor
  · intro h
    split_ifs at h with hsize
    rcases judgeMapping_eq.mp h with ⟨method, provider, subscription, haccepted⟩
    rw [Bool.not_eq_true] at hsize
    exact ⟨method, provider, subscription, haccepted, (hfits haccepted).mp hsize⟩
  · intro h
    rcases h with ⟨method, provider, subscription, haccepted, hsize⟩
    rw [(hfits haccepted).mpr hsize]
    exact judgeMapping_eq.mpr ⟨method, provider, subscription, haccepted⟩

end Reading

/-! ## The payload -/

/-- A payload is the text of an object, and none of its objects has a status field twice. -/
def IsStatusDocument (library : StatusLibrary) (data : Bytes) (items : List (PyValue × PyValue)) : Prop :=
  ∃ text, decodeUtf8 false data = some text ∧
    (jsonDecoder library.floats).loads text = some (.dict items) ∧ StatusFieldsOnce (.dict items)

/-- The judgement of a value that was parsed. -/
def judgePayload (library : StatusLibrary) (limit : Nat) (payload : PyValue) : AuthCategory :=
  match statusMapping library payload limit with
  | .error category => category
  | .ok mapping => judgeMapping library mapping

section Payload

variable {library : StatusLibrary} {limit : Nat} {data : Bytes} {items : List (PyValue × PyValue)}

/-- `json.loads` with the hook. -/
theorem loads_jsonObjectPairs (text : PyStr) :
    ((jsonDecoder library.floats).withHook jsonObjectPairs).loads text =
      ((jsonDecoder library.floats).loads text).bind (foldHook jsonObjectPairs) := by
  apply JSONDecoder.loads_withHook rfl
  intro word value h
  change jsonConstant word = some value at h
  rw [jsonConstant] at h
  split_ifs at h
  · cases h
    rfl
  · cases h
    rfl

/-- What a payload comes to that is not longer than the limit. -/
theorem parseAuthStatus_bytes (hlow : 1 ≤ limit) (hhigh : limit ≤ maxStatusBytes)
    (hlength : data.length ≤ limit) :
    parseAuthStatus library (.bytes data) (.int limit) =
      authResult ((((decodeUtf8 false data).bind (jsonDecoder library.floats).loads).bind
        (foldHook jsonObjectPairs)).elim .malformed (judgePayload library limit)) := by
  have hpositive : ¬(limit : Int) ≤ 0 := by omega
  have hmin : min (limit : Int).toNat maxStatusBytes = limit := by
    rw [Int.toNat_natCast]
    exact min_eq_left hhigh
  simp only [parseAuthStatus, if_neg hpositive, hmin, payloadToMapping, if_neg (not_lt.mpr hlength)]
  cases hdecode : decodeUtf8 false data with
  | none => rfl
  | some text =>
    simp only [textMapping, utf8Size_of_decodeUtf8 hdecode, if_neg (not_lt.mpr hlength),
      loads_jsonObjectPairs, Option.bind_some]
    cases ((jsonDecoder library.floats).loads text).bind (foldHook jsonObjectPairs) with
    | none => rfl
    | some payload =>
      rw [Option.elim_some, judgePayload]
      dsimp only
      cases statusMapping library payload limit with
      | error category => rfl
      | ok mapping => rfl

theorem judgePayload_of_foldHook {folded : PyValue}
    (h : foldHook jsonObjectPairs (.dict items) = some folded) :
    judgePayload library limit folded = judgeFields library limit (foldedField items) := by
  rw [foldHook] at h
  rcases Option.bind_eq_some_iff.mp h with ⟨fields, hfields, h⟩
  rw [jsonObjectPairs_eq] at h
  split_ifs at h with hnodup
  cases h
  have hcount : ¬(pairItems (statusPairs fields)).length > maxMappingKeys := by
    have hle := length_statusPairs_le hnodup
    rw [pairItems, List.length_map]
    exact not_lt.mpr (hle.trans (by decide))
  have hread : (library.order.filterMap fun key =>
      (PyValue.lookupKey (pairItems (statusPairs fields)) key).map fun value => (key, value)) =
        fieldsRead library (foldedField items) := by
    apply fieldsRead_congr
    intro key hkey
    exact lookupKey_statusPairs hkey items hfields
  rw [judgePayload, statusMapping, normaliseStatusMapping]
  simp only [PyValue.mapping?, Option.bind_some, if_neg hcount, hread]
  rw [judgeFields]
  split_ifs <;> rfl

theorem judgePayload_eq_malformed {payload : PyValue} (h : ∀ items, payload ≠ .dict items) :
    judgePayload library limit payload = .malformed := by
  cases payload with
  | dict items => exact absurd rfl (h items)
  | _ => rfl

/-- A field is accepted by what it says in the document. -/
theorem accepted_foldedField {method provider subscription : PyStr} :
    Accepted library (foldedField items) method provider subscription ↔
      Accepted library (PyValue.lookupKey items) method provider subscription := by
  have hread : ∀ key value, (∀ items, value ≠ .list items) → (∀ items, value ≠ .dict items) →
      foldHook jsonObjectPairs value = some value →
      (foldedField items key = some value ↔ PyValue.lookupKey items key = some value) := by
    intro key value hlist hdict hself
    rw [foldedField]
    constructor
    · intro h
      rcases Option.bind_eq_some_iff.mp h with ⟨raw, hraw, hfold⟩
      rw [hraw, eq_of_foldHook hfold hlist hdict]
    · intro h
      rw [h, Option.bind_some, hself]
  have hlogin := hread (lit "loggedIn") (.bool true) (by simp) (by simp) rfl
  have htext := fun key text => hread key (.str text) (by simp) (by simp) rfl
  constructor
  · intro h
    exact ⟨hlogin.mp h.loggedIn, (htext _ _).mp h.authMethod, (htext _ _).mp h.apiProvider,
      (htext _ _).mp h.subscriptionType, h.method_names, h.provider_names, h.subscription_names⟩
  · intro h
    exact ⟨hlogin.mpr h.loggedIn, (htext _ _).mpr h.authMethod, (htext _ _).mpr h.apiProvider,
      (htext _ _).mpr h.subscriptionType, h.method_names, h.provider_names, h.subscription_names⟩

theorem allowed_authResult {category : AuthCategory} :
    (authResult category).allowed = true ↔ category = .subscriptionOauth := by
  rw [authResult]
  exact decide_eq_true_iff

/-- What a document comes to depends on its status fields. -/
theorem parseAuthStatus_document (hlow : 1 ≤ limit) (hhigh : limit ≤ maxStatusBytes)
    (hlength : data.length ≤ limit) (h : IsStatusDocument library data items) :
    parseAuthStatus library (.bytes data) (.int limit) =
      authResult (judgeFields library limit (foldedField items)) := by
  rcases h with ⟨text, hdecode, hloads, honce⟩
  rcases Option.isSome_iff_exists.mp ((isSome_foldHook _).mpr honce) with ⟨folded, hfold⟩
  rw [parseAuthStatus_bytes hlow hhigh hlength, hdecode, Option.bind_some, hloads, Option.bind_some,
    hfold, Option.elim_some, judgePayload_of_foldHook hfold]

/-- A payload is a document where its judgement is not that it is malformed. -/
theorem exists_document (hlow : 1 ≤ limit) (hhigh : limit ≤ maxStatusBytes)
    (hlength : data.length ≤ limit) (h : parseAuthStatus library (.bytes data) (.int limit) ≠ authResult .malformed) :
    ∃ items, IsStatusDocument library data items := by
  rw [parseAuthStatus_bytes hlow hhigh hlength] at h
  cases hfold : ((decodeUtf8 false data).bind (jsonDecoder library.floats).loads).bind
      (foldHook jsonObjectPairs) with
  | none =>
    rw [hfold] at h
    exact absurd rfl h
  | some folded =>
    rw [hfold, Option.elim_some] at h
    rcases Option.bind_eq_some_iff.mp hfold with ⟨document, hread, hhook⟩
    rcases Option.bind_eq_some_iff.mp hread with ⟨text, hdecode, hloads⟩
    have hshape : ∃ found, folded = .dict found := by
      by_contra hnone
      rw [not_exists] at hnone
      exact h (congrArg authResult (judgePayload_eq_malformed hnone))
    rcases hshape with ⟨found, rfl⟩
    rcases exists_dict_of_foldHook hhook with ⟨items, rfl⟩
    exact ⟨items, text, hdecode, hloads, (isSome_foldHook _).mp (Option.isSome_iff_exists.mpr ⟨_, hhook⟩)⟩

theorem allowed_iff_accepted (library : StatusLibrary) (limit : Nat) (data : Bytes) (hlow : 1 ≤ limit)
    (hhigh : limit ≤ maxStatusBytes) (hlength : data.length ≤ limit) :
    (parseAuthStatus library (.bytes data) (.int limit)).allowed = true ↔
      ∃ items method provider subscription, IsStatusDocument library data items ∧
        Accepted library (PyValue.lookupKey items) method provider subscription ∧
        75 + ((utf8Size method).getD 0 + (utf8Size provider).getD 0 + (utf8Size subscription).getD 0) ≤
          limit := by
  constructor
  · intro h
    have hnot : parseAuthStatus library (.bytes data) (.int limit) ≠ authResult .malformed := by
      intro hmalformed
      rw [hmalformed] at h
      cases h
    rcases exists_document hlow hhigh hlength hnot with ⟨items, hitems⟩
    rw [parseAuthStatus_document hlow hhigh hlength hitems, allowed_authResult] at h
    rcases judgeFields_eq.mp h with ⟨method, provider, subscription, haccepted, hsize⟩
    exact ⟨items, method, provider, subscription, hitems, accepted_foldedField.mp haccepted, hsize⟩
  · intro h
    rcases h with ⟨items, method, provider, subscription, hitems, haccepted, hsize⟩
    rw [parseAuthStatus_document hlow hhigh hlength hitems, allowed_authResult]
    exact judgeFields_eq.mpr ⟨method, provider, subscription, accepted_foldedField.mpr haccepted, hsize⟩

/-- **The authentication status.**  A payload within the limit is allowed just if it is a document
with accepted fields that also fit the limit as the approximation counts them; and two payloads with
the same status fields have the same result. -/
theorem parseAuthStatus_allowed_iff (library : StatusLibrary) (limit : Nat) (hlow : 1 ≤ limit)
    (hhigh : limit ≤ maxStatusBytes) :
    (∀ data : Bytes, data.length ≤ limit →
      ((parseAuthStatus library (.bytes data) (.int limit)).allowed = true ↔
        ∃ items method provider subscription, IsStatusDocument library data items ∧
          Accepted library (PyValue.lookupKey items) method provider subscription ∧
          75 + ((utf8Size method).getD 0 + (utf8Size provider).getD 0 + (utf8Size subscription).getD 0) ≤
            limit)) ∧
    ∀ data data' : Bytes, data.length ≤ limit → data'.length ≤ limit →
      ∀ items items', IsStatusDocument library data items → IsStatusDocument library data' items' →
        (∀ key ∈ statusFields, PyValue.lookupKey items key = PyValue.lookupKey items' key) →
        parseAuthStatus library (.bytes data) (.int limit) =
          parseAuthStatus library (.bytes data') (.int limit) := by
  constructor
  · intro data hlength
    exact allowed_iff_accepted library limit data hlow hhigh hlength
  · intro data data' hlength hlength' items items' hitems hitems' hsame
    have hfields : fieldsRead library (foldedField items) = fieldsRead library (foldedField items') := by
      apply fieldsRead_congr
      intro key hkey
      rw [foldedField, foldedField, hsame key hkey]
    rw [parseAuthStatus_document hlow hhigh hlength hitems,
      parseAuthStatus_document hlow hhigh hlength' hitems', judgeFields, judgeFields, hfields]

end Payload

/-! ## A payload of the CLI -/

/-- A library that knows the letters of ASCII. -/
def asciiStatusLibrary : StatusLibrary where
  floats := exactFloatText
  fold c := [c.asciiLower]
  fold_surrogate c h := by
    have hlarge : ¬(0x41 ≤ c.val ∧ c.val ≤ 0x5A) := by
      simp only [CodePoint.isSurrogate, Bool.and_eq_true, decide_eq_true_eq] at h
      omega
    rw [CodePoint.asciiLower, if_neg hlarge]
  order := statusFields
  order_perm := .refl statusFields

/-- The status of a subscription, on one line without spaces. -/
def proStatus : Bytes :=
  (lit ("\x7b\"loggedIn\":true,\"authMethod\":\"oauth\",\"apiProvider\":\"firstparty\"," ++
    "\"subscriptionType\":\"pro\"\x7d")).map fun c => UInt8.ofNat c.val

theorem parseAuthStatus_proStatus :
    1 ≤ 1024 ∧ 1024 ≤ maxStatusBytes ∧ proStatus.length ≤ 1024 ∧
      ∃ items method provider subscription, IsStatusDocument asciiStatusLibrary proStatus items ∧
        Accepted asciiStatusLibrary (PyValue.lookupKey items) method provider subscription ∧
        75 + ((utf8Size method).getD 0 + (utf8Size provider).getD 0 + (utf8Size subscription).getD 0) ≤
          1024 :=
  ⟨by decide, by decide, by decide +kernel,
    ((parseAuthStatus_allowed_iff asciiStatusLibrary 1024 (by decide) (by decide)).1 proStatus
      (by decide +kernel)).mp (by decide +kernel)⟩

/-- The approximation counts three bytes more than the payload has. -/
theorem parseAuthStatus_tight_limit :
    ∃ (library : StatusLibrary) (limit : Nat) (data : Bytes),
      1 ≤ limit ∧ limit ≤ maxStatusBytes ∧ data.length ≤ limit ∧
        (∃ items method provider subscription, IsStatusDocument library data items ∧
          Accepted library (PyValue.lookupKey items) method provider subscription) ∧
        parseAuthStatus library (.bytes data) (.int limit) = authResult .oversized := by
  have hallowed := allowed_iff_accepted asciiStatusLibrary 1024 proStatus (by decide) (by decide)
    (by decide +kernel)
  rcases hallowed.mp (by decide +kernel) with
    ⟨items, method, provider, subscription, hitems, haccepted, -⟩
  exact ⟨asciiStatusLibrary, 90, proStatus, by decide, by decide, by decide +kernel,
    ⟨items, method, provider, subscription, hitems, haccepted⟩, by decide +kernel⟩

end HermesClaude.Billing
