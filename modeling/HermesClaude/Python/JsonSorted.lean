/-
# Documents up to the order of their keys

Python compares dictionaries without regard to the order of their entries, and the
encoder sorts them.  So sorting the keys of a document changes neither what it is equal to
nor what is written for it.
-/

import HermesClaude.Python.JsonCodec

namespace HermesClaude.Python

namespace Json

/-! ## Setting an entry -/

/-- A new key goes to the end. -/
theorem setItem_of_notMem {items : List (PyStr × Json)} {key : PyStr} (h : key ∉ items.map Prod.fst)
    (value : Json) : setItem items key value = items ++ [(key, value)] := by
  have hno : hasKey items key = false := by
    rw [hasKey, List.any_eq_false]
    intro item hitem hkey
    exact h (List.mem_map.mpr ⟨item, hitem, by simpa using hkey⟩)
  rw [setItem, hno]
  rfl

theorem setItem_keys (items : List (PyStr × Json)) (key : PyStr) (value : Json) :
    (setItem items key value).map Prod.fst =
      if hasKey items key then items.map Prod.fst else items.map Prod.fst ++ [key] := by
  unfold setItem
  split
  · rw [List.map_map]
    apply List.map_congr_left
    intro item _
    dsimp only [Function.comp]
    split
    · next heq => exact heq.symm
    · rfl
  · rw [List.map_append]
    rfl

theorem setItem_nodup {items : List (PyStr × Json)} (h : (items.map Prod.fst).Nodup) (key : PyStr)
    (value : Json) : ((setItem items key value).map Prod.fst).Nodup := by
  rw [setItem_keys]
  split
  · exact h
  · next hno =>
    rw [List.nodup_append]
    refine ⟨h, List.nodup_singleton _, ?_⟩
    rintro _ hmem _ hkey rfl
    obtain ⟨item, hitem, rfl⟩ := List.mem_map.mp hmem
    apply hno
    rw [hasKey, List.any_eq_true]
    exact ⟨item, hitem, by simpa using List.mem_singleton.mp hkey⟩

theorem setItem_values {P : Json → Prop} {items : List (PyStr × Json)} (h : ∀ item ∈ items, P item.2)
    (key : PyStr) {value : Json} (hvalue : P value) : ∀ item ∈ setItem items key value, P item.2 := by
  intro item hitem
  unfold setItem at hitem
  split at hitem
  · obtain ⟨source, hsource, rfl⟩ := List.mem_map.mp hitem
    split
    · exact hvalue
    · exact h source hsource
  · rcases List.mem_append.mp hitem with hitem | hitem
    · exact h item hitem
    · rw [List.mem_singleton.mp hitem]
      exact hvalue

/-! ## Entries in any order -/

theorem key?_eq_some {items : List (PyStr × Json)} (hunique : (items.map Prod.fst).Nodup)
    {item : PyStr × Json} (h : item ∈ items) : key? items item.1 = some item.2 := by
  induction items with
  | nil => cases h
  | cons first items ih =>
    obtain ⟨hfresh, hrest⟩ := List.nodup_cons.mp hunique
    rw [key?, List.lookup_cons]
    rcases List.mem_cons.mp h with rfl | h
    · simp
    · have hne : (item.1 == first.1) = false := by
        rw [beq_eq_false_iff_ne]
        intro heq
        exact hfresh (heq ▸ List.mem_map_of_mem h)
      rw [hne]
      exact ih hrest h

/-- Looking a key up finds its only entry. -/
theorem key?_eq_some_iff {items : List (PyStr × Json)} (hunique : (items.map Prod.fst).Nodup)
    {key : PyStr} {value : Json} : key? items key = some value ↔ (key, value) ∈ items := by
  constructor
  · intro h
    obtain ⟨before, after, hitems, -⟩ := List.lookup_eq_some_iff.mp h
    rw [hitems]
    simp
  · intro h
    exact key?_eq_some hunique h

/-- The order of the entries of a dictionary does not show in a lookup. -/
theorem key?_of_perm {items items' : List (PyStr × Json)} (hperm : items.Perm items')
    (hunique : (items.map Prod.fst).Nodup) (key : PyStr) : key? items key = key? items' key := by
  have hunique' : (items'.map Prod.fst).Nodup := (hperm.map Prod.fst).nodup_iff.mp hunique
  apply Option.ext
  intro value
  rw [key?_eq_some_iff hunique, key?_eq_some_iff hunique', hperm.mem_iff]

theorem pyEqItems_iff (xs ys : List (PyStr × Json)) :
    pyEqItems xs ys = true ↔ ∀ x ∈ xs, ∃ y, key? ys x.1 = some y ∧ pyEq x.2 y = true := by
  induction xs with
  | nil => simp [pyEqItems]
  | cons x xs ih =>
    rw [pyEqItems, Bool.and_eq_true, ih, List.forall_mem_cons]
    cases key? ys x.1 with
    | none => simp
    | some y => simp

theorem pyEqList_map {f : Json → Json} {items : List Json}
    (h : ∀ item ∈ items, pyEq (f item) item = true) : pyEqList (items.map f) items = true := by
  induction items with
  | nil => rfl
  | cons item items ih =>
    rw [List.map_cons, pyEqList, h item List.mem_cons_self,
      ih fun item hitem => h item (List.mem_cons_of_mem _ hitem)]
    rfl

/-- A dictionary equals what is left of it when its entries are replaced by equal ones and
put in another order. -/
theorem pyEq_dict_of_perm {f : Json → Json} {items sorted : List (PyStr × Json)}
    (hunique : (items.map Prod.fst).Nodup)
    (hperm : sorted.Perm (items.map fun item => (item.1, f item.2)))
    (h : ∀ item ∈ items, pyEq (f item.2) item.2 = true) :
    pyEq (.dict sorted) (.dict items) = true := by
  have hlength : sorted.length = items.length := by
    rw [hperm.length_eq, List.length_map]
  have hitems : pyEqItems sorted items = true := by
    rw [pyEqItems_iff]
    intro x hx
    obtain ⟨item, hitem, rfl⟩ := List.mem_map.mp (hperm.mem_iff.mp hx)
    exact ⟨item.2, key?_eq_some hunique hitem, h item hitem⟩
  rw [pyEq]
  simp [dict?, hlength, hitems]

mutual

theorem pyEq_self {value : Json} (h : value.UniqueKeys) : pyEq value value = true := by
  match value with
  | .null => rfl
  | .bool b => simp [pyEq, number?]
  | .int i => simp [pyEq, number?]
  | .float q => simp [pyEq, number?]
  | .str s => simp [pyEq, str?]
  | .list items =>
    have hitems : pyEqList (items.map id) items = true := pyEqList_map (pyEq_selfList h)
    rw [List.map_id] at hitems
    simpa [pyEq, list?] using hitems
  | .dict items =>
    apply pyEq_dict_of_perm (f := id) h.1
    · simp
    · exact pyEq_selfItems h.2

theorem pyEq_selfList {items : List Json} (h : UniqueKeysList items) :
    ∀ item ∈ items, pyEq item item = true := by
  match items with
  | [] => simp
  | item :: items =>
    rw [List.forall_mem_cons]
    exact ⟨pyEq_self h.1, pyEq_selfList h.2⟩

theorem pyEq_selfItems {items : List (PyStr × Json)} (h : UniqueKeysItems items) :
    ∀ item ∈ items, pyEq item.2 item.2 = true := by
  match items with
  | [] => simp
  | (key, item) :: items =>
    rw [List.forall_mem_cons]
    exact ⟨pyEq_self h.1, pyEq_selfItems h.2⟩

end

mutual

/-- A document equals itself with its keys in order. -/
theorem pyEq_sortKeys {value : Json} (h : value.UniqueKeys) :
    pyEq value.sortKeys value = true := by
  match value with
  | .null => rfl
  | .bool b => simp [sortKeys, pyEq, number?]
  | .int i => simp [sortKeys, pyEq, number?]
  | .float q => simp [sortKeys, pyEq, number?]
  | .str s => simp [sortKeys, pyEq, str?]
  | .list items =>
    have hitems := pyEqList_map (pyEq_sortKeysList h)
    rw [sortKeys, sortKeysList_eq]
    simpa [pyEq, list?] using hitems
  | .dict items =>
    rw [sortKeys, sortKeysItems_eq]
    exact pyEq_dict_of_perm h.1 (sortItems_perm _) (pyEq_sortKeysItems h.2)

theorem pyEq_sortKeysList {items : List Json} (h : UniqueKeysList items) :
    ∀ item ∈ items, pyEq item.sortKeys item = true := by
  match items with
  | [] => simp
  | item :: items =>
    rw [List.forall_mem_cons]
    exact ⟨pyEq_sortKeys h.1, pyEq_sortKeysList h.2⟩

theorem pyEq_sortKeysItems {items : List (PyStr × Json)} (h : UniqueKeysItems items) :
    ∀ item ∈ items, pyEq item.2.sortKeys item.2 = true := by
  match items with
  | [] => simp
  | (key, item) :: items =>
    rw [List.forall_mem_cons]
    exact ⟨pyEq_sortKeys h.1, pyEq_sortKeysItems h.2⟩

end

theorem sortKeysItems_keys (items : List (PyStr × Json)) :
    (sortKeysItems items).map Prod.fst = items.map Prod.fst := by
  rw [sortKeysItems_eq, List.map_map]
  rfl

mutual

/-- Sorting repeats no key. -/
theorem uniqueKeys_sortKeys {value : Json} (h : value.UniqueKeys) : value.sortKeys.UniqueKeys := by
  match value with
  | .null | .bool _ | .int _ | .float _ | .str _ => trivial
  | .list items =>
    rw [sortKeys, UniqueKeys, uniqueKeysList_iff, sortKeysList_eq, List.forall_mem_map]
    exact uniqueKeys_sortKeysList h
  | .dict items =>
    have hperm := sortItems_perm (sortKeysItems items)
    rw [sortKeys, UniqueKeys]
    constructor
    · rw [(hperm.map Prod.fst).nodup_iff, sortKeysItems_keys]
      exact h.1
    · rw [uniqueKeysItems_iff]
      intro item hitem
      have hmem := hperm.mem_iff.mp hitem
      rw [sortKeysItems_eq] at hmem
      obtain ⟨source, hsource, rfl⟩ := List.mem_map.mp hmem
      exact uniqueKeys_sortKeysItems h.2 source hsource

theorem uniqueKeys_sortKeysList {items : List Json} (h : UniqueKeysList items) :
    ∀ item ∈ items, item.sortKeys.UniqueKeys := by
  match items with
  | [] => simp
  | item :: items =>
    rw [List.forall_mem_cons]
    exact ⟨uniqueKeys_sortKeys h.1, uniqueKeys_sortKeysList h.2⟩

theorem uniqueKeys_sortKeysItems {items : List (PyStr × Json)} (h : UniqueKeysItems items) :
    ∀ item ∈ items, item.2.sortKeys.UniqueKeys := by
  match items with
  | [] => simp
  | (key, item) :: items =>
    rw [List.forall_mem_cons]
    exact ⟨uniqueKeys_sortKeys h.1, uniqueKeys_sortKeysItems h.2⟩

end

end Json

/-! ## The text of a document -/

/-- Sorting again changes nothing. -/
theorem sortItems_of_perm {β : Type} {items items' : List (PyStr × β)}
    (h : items.Perm items') (hunique : (items.map Prod.fst).Nodup) :
    sortItems items = sortItems items' := by
  have hsorted := (sortItems_perm items).trans (h.trans (sortItems_perm items').symm)
  refine List.Perm.eq_of_pairwise ?_ (sortItems_sorted items) (sortItems_sorted items') hsorted
  intro a b ha hb hab hba
  have ha := (sortItems_perm items).mem_iff.mp ha
  have hb := h.mem_iff.mpr ((sortItems_perm items').mem_iff.mp hb)
  exact List.inj_on_of_nodup_map hunique ha hb (le_antisymm hab hba)

namespace JSONEncoder

variable {encoder : JSONEncoder}

theorem encodeItems_cons {level : Nat} {item : PyStr × Json} {items : List (PyStr × Json)}
    {fields : List (PyStr × PyStr)} :
    encoder.encodeItems level (item :: items) = some fields ↔
      ∃ text rest, encoder.encode level item.2 = some text ∧
        encoder.encodeItems level items = some rest ∧ fields = (item.1, text) :: rest := by
  obtain ⟨key, value⟩ := item
  simp only [encodeItems, Option.bind_eq_bind, Option.bind_eq_some_iff, Option.pure_def,
    Option.some.injEq]
  constructor
  · rintro ⟨text, htext, rest, hrest, rfl⟩
    exact ⟨text, rest, htext, hrest, rfl⟩
  · rintro ⟨text, rest, htext, hrest, rfl⟩
    exact ⟨text, htext, rest, hrest, rfl⟩

theorem encodeItems_keys {level : Nat} {items : List (PyStr × Json)}
    {fields : List (PyStr × PyStr)} (h : encoder.encodeItems level items = some fields) :
    fields.map Prod.fst = items.map Prod.fst := by
  induction items generalizing fields with
  | nil =>
    cases h
    rfl
  | cons item items ih =>
    obtain ⟨text, rest, -, hrest, rfl⟩ := encodeItems_cons.mp h
    rw [List.map_cons, List.map_cons, ih hrest]

/-- Entries in another order are written in another order. -/
theorem encodeItems_perm {level : Nat} {items items' : List (PyStr × Json)}
    {fields : List (PyStr × PyStr)} (hperm : items.Perm items')
    (h : encoder.encodeItems level items = some fields) :
    ∃ fields', encoder.encodeItems level items' = some fields' ∧ fields.Perm fields' := by
  induction hperm generalizing fields with
  | nil => exact ⟨fields, h, .refl _⟩
  | cons item _ ih =>
    obtain ⟨text, rest, htext, hrest, rfl⟩ := encodeItems_cons.mp h
    obtain ⟨rest', hrest', hperm⟩ := ih hrest
    exact ⟨(item.1, text) :: rest', encodeItems_cons.mpr ⟨text, rest', htext, hrest', rfl⟩,
      hperm.cons _⟩
  | swap first second items =>
    obtain ⟨text, rest, htext, hrest, rfl⟩ := encodeItems_cons.mp h
    obtain ⟨text', rest', htext', hrest', rfl⟩ := encodeItems_cons.mp hrest
    exact ⟨(first.1, text') :: (second.1, text) :: rest', encodeItems_cons.mpr ⟨text', _, htext',
      encodeItems_cons.mpr ⟨text, rest', htext, hrest', rfl⟩, rfl⟩, .swap _ _ _⟩
  | trans _ _ ih ih' =>
    obtain ⟨fields', hfields', hperm⟩ := ih h
    obtain ⟨fields'', hfields'', hperm'⟩ := ih' hfields'
    exact ⟨fields'', hfields'', hperm.trans hperm'⟩

/-- The order of the entries of a dictionary does not show in its text. -/
theorem encode_dict_of_perm {level : Nat} {items items' : List (PyStr × Json)}
    (hperm : items.Perm items') (hunique : (items.map Prod.fst).Nodup) :
    encoder.encode level (.dict items) = encoder.encode level (.dict items') := by
  rw [encode, encode]
  cases hfields : encoder.encodeItems (level + 1) items with
  | some fields =>
    obtain ⟨fields', hfields', hperm'⟩ := encodeItems_perm hperm hfields
    have hkeys : (fields.map Prod.fst).Nodup := by
      rw [encodeItems_keys hfields]
      exact hunique
    rw [hfields', Option.map_some, Option.map_some, sortItems_of_perm hperm' hkeys]
  | none =>
    cases hfields' : encoder.encodeItems (level + 1) items' with
    | none => rfl
    | some fields' =>
      obtain ⟨fields, hsome, -⟩ := encodeItems_perm hperm.symm hfields'
      rw [hfields] at hsome
      cases hsome

mutual

/-- A document with its keys in order is written as before. -/
theorem encode_sortKeys (level : Nat) {value : Json} (hunique : value.UniqueKeys) :
    encoder.encode level value.sortKeys = encoder.encode level value := by
  match value with
  | .null | .bool _ | .int _ | .float _ | .str _ => rfl
  | .list items => rw [Json.sortKeys, encode, encode, encodeList_sortKeys (level + 1) hunique]
  | .dict items =>
    have hkeys : ((Json.sortKeysItems items).map Prod.fst).Nodup := by
      rw [Json.sortKeysItems_keys]
      exact hunique.1
    rw [Json.sortKeys, ← encode_dict_of_perm (sortItems_perm _).symm hkeys, encode, encode,
      encodeItems_sortKeys (level + 1) hunique.2]

theorem encodeList_sortKeys (level : Nat) {items : List Json}
    (hunique : Json.UniqueKeysList items) :
    encoder.encodeList level (Json.sortKeysList items) = encoder.encodeList level items := by
  match items with
  | [] => rfl
  | item :: items =>
    rw [Json.sortKeysList, encodeList, encodeList, encode_sortKeys level hunique.1,
      encodeList_sortKeys level hunique.2]

theorem encodeItems_sortKeys (level : Nat) {items : List (PyStr × Json)}
    (hunique : Json.UniqueKeysItems items) :
    encoder.encodeItems level (Json.sortKeysItems items) = encoder.encodeItems level items := by
  match items with
  | [] => rfl
  | (key, item) :: items =>
    rw [Json.sortKeysItems, encodeItems, encodeItems, encode_sortKeys level hunique.1,
      encodeItems_sortKeys level hunique.2]

end

/-! ## No controls -/

/-- A text without ASCII controls but for line feeds. -/
def Printable (text : PyStr) : Prop := ∀ c ∈ text, 0x20 ≤ c.val ∨ c.val = 0x0A

theorem printable_of_all {text : PyStr}
    (h : text.all (fun c => 0x20 ≤ c.val || c.val = 0x0A) = true) : Printable text := by
  intro c hc
  simpa using List.all_eq_true.mp h c hc

theorem Printable.append {text text' : PyStr} (h : Printable text) (h' : Printable text') :
    Printable (text ++ text') := by
  intro c hc
  rcases List.mem_append.mp hc with hc | hc
  · exact h c hc
  · exact h' c hc

theorem Printable.cons {c : CodePoint} {text : PyStr} (hc : 0x20 ≤ c.val) (h : Printable text) :
    Printable (c :: text) :=
  List.forall_mem_cons.mpr ⟨Or.inl hc, h⟩

theorem printable_of_isDigit {text : PyStr} (h : ∀ c ∈ text, c.isDigit = true) : Printable text := by
  intro c hc
  have hdigit := h c hc
  simp only [CodePoint.isDigit, Bool.and_eq_true, decide_eq_true_eq] at hdigit
  omega

theorem ofHexDigit_le {n : Nat} (h : n < 16) : 0x20 ≤ (CodePoint.ofHexDigit n).val := by
  rw [CodePoint.ofHexDigit, Fin.val_ofNat]
  split <;> omega

theorem printable_escapeChar (c : CodePoint) : Printable (escapeChar c) := by
  unfold escapeChar
  split
  · exact printable_of_all (by decide)
  split
  · exact printable_of_all (by decide)
  split
  · exact printable_of_all (by decide)
  split
  · exact printable_of_all (by decide)
  split
  · exact printable_of_all (by decide)
  split
  · exact printable_of_all (by decide)
  split
  · exact printable_of_all (by decide)
  split
  · next hcontrol =>
    have hhigh := ofHexDigit_le (n := c.val / 16) (by omega)
    have hlow := ofHexDigit_le (n := c.val % 16) (by omega)
    intro d hd
    simp only [List.mem_cons, List.not_mem_nil, or_false] at hd
    rcases hd with rfl | rfl | rfl | rfl | rfl | rfl
    · decide
    · decide
    · decide
    · decide
    · exact Or.inl hhigh
    · exact Or.inl hlow
  · next hplain =>
    intro d hd
    rw [List.mem_singleton.mp hd]
    omega

theorem printable_encodeString (s : PyStr) : Printable (encodeString s) := by
  apply Printable.cons (by decide)
  apply Printable.append
  · intro c hc
    obtain ⟨d, -, hd⟩ := List.mem_flatMap.mp hc
    exact printable_escapeChar d c hd
  · exact printable_of_all (by decide)

theorem printable_number {sign digits fraction exponent : PyStr}
    (h : IsNumber sign digits fraction exponent) :
    Printable (sign ++ digits ++ fraction ++ exponent) := by
  apply Printable.append
  · apply Printable.append
    · apply Printable.append
      · rcases h.sign with rfl | rfl <;> exact printable_of_all (by decide)
      · rcases h.digits with rfl | ⟨_, _, -, -, hdigits⟩
        · exact printable_of_all (by decide)
        · exact printable_of_isDigit hdigits
    · rcases h.fraction with rfl | ⟨fraction, -, rfl, hdigits⟩
      · exact printable_of_all (by decide)
      · exact Printable.cons (by decide) (printable_of_isDigit hdigits)
  · rcases h.exponent with rfl | ⟨sign, digits, hsign, -, rfl, hdigits⟩
    · exact printable_of_all (by decide)
    · apply Printable.cons (by decide)
      apply Printable.append _ (printable_of_isDigit hdigits)
      rcases hsign with rfl | rfl | rfl <;> exact printable_of_all (by decide)

theorem printable_newline (level : Nat) : Printable (encoder.newline level) := by
  unfold newline
  split
  · exact printable_of_all (by decide)
  · intro c hc
    rcases List.mem_cons.mp hc with rfl | hc
    · exact Or.inr rfl
    · rw [List.eq_of_mem_replicate hc]
      decide

theorem printable_closeItems {closing : CodePoint} (hclosing : 0x20 ≤ closing.val) (level : Nat)
    {texts : List PyStr} (h : ∀ text ∈ texts, Printable text) :
    Printable (encoder.closeItems closing level texts) := by
  induction texts with
  | nil => exact (printable_newline level).append (Printable.cons hclosing (by simp [Printable]))
  | cons text texts ih =>
    obtain ⟨htext, htexts⟩ := List.forall_mem_cons.mp h
    exact Printable.cons (by decide) ((printable_newline _).append (htext.append (ih htexts)))

theorem printable_enclose {opening closing : CodePoint} (hopening : 0x20 ≤ opening.val)
    (hclosing : 0x20 ≤ closing.val) (level : Nat) {texts : List PyStr}
    (h : ∀ text ∈ texts, Printable text) : Printable (encoder.enclose opening closing level texts) := by
  cases texts with
  | nil => exact Printable.cons hopening (Printable.cons hclosing (by simp [Printable]))
  | cons text texts =>
    obtain ⟨htext, htexts⟩ := List.forall_mem_cons.mp h
    exact Printable.cons hopening ((printable_newline _).append
      (htext.append (printable_closeItems hclosing level htexts)))

section

set_option linter.unusedSectionVars false

variable (hseparator : Printable encoder.keySeparator)

include hseparator

theorem printable_entry {field : PyStr × PyStr} (h : Printable field.2) : Printable (encoder.entry field) :=
  (printable_encodeString field.1).append (hseparator.append h)

mutual

/-- What is written has no controls but line feeds: those of strings are escaped. -/
theorem printable_encode {level : Nat} {value : Json} {text : PyStr} (hdoubles : value.HasDoubles)
    (h : encoder.encode level value = some text) : Printable text := by
  match value with
  | .null | .bool true | .bool false =>
    cases h
    exact printable_of_all (by decide)
  | .int i =>
    obtain ⟨sign, rfl, hnumber⟩ := intRepr_isNumber h
    simpa using printable_number hnumber
  | .float q =>
    cases h
    obtain ⟨sign, digits, fraction, exponent, hrepr, hnumber, -⟩ :=
      encoder.floats.repr_number q hdoubles
    rw [hrepr]
    exact printable_number hnumber
  | .str s =>
    cases h
    exact printable_encodeString s
  | .list items =>
    rw [encode, Option.map_eq_some_iff] at h
    obtain ⟨texts, htexts, rfl⟩ := h
    exact printable_enclose (by decide) (by decide) level (printable_encodeList hdoubles htexts)
  | .dict items =>
    rw [encode, Option.map_eq_some_iff] at h
    obtain ⟨fields, hfields, rfl⟩ := h
    apply printable_enclose (by decide) (by decide)
    intro text htext
    obtain ⟨field, hfield, rfl⟩ := List.mem_map.mp htext
    apply printable_entry hseparator
    exact printable_encodeItems hdoubles hfields field ((sortItems_perm fields).mem_iff.mp hfield)

theorem printable_encodeList {level : Nat} {items : List Json} {texts : List PyStr}
    (hdoubles : Json.HasDoublesList items) (h : encoder.encodeList level items = some texts) :
    ∀ text ∈ texts, Printable text := by
  match items with
  | [] =>
    cases h
    simp
  | item :: items =>
    simp only [encodeList, Option.bind_eq_bind, Option.bind_eq_some_iff] at h
    obtain ⟨text, htext, texts, htexts, h⟩ := h
    cases h
    rw [List.forall_mem_cons]
    exact ⟨printable_encode hdoubles.1 htext, printable_encodeList hdoubles.2 htexts⟩

theorem printable_encodeItems {level : Nat} {items : List (PyStr × Json)}
    {fields : List (PyStr × PyStr)} (hdoubles : Json.HasDoublesItems items)
    (h : encoder.encodeItems level items = some fields) : ∀ field ∈ fields, Printable field.2 := by
  match items with
  | [] =>
    cases h
    simp
  | (key, item) :: items =>
    obtain ⟨text, rest, htext, hrest, rfl⟩ := encodeItems_cons.mp h
    rw [List.forall_mem_cons]
    exact ⟨printable_encode hdoubles.1 htext, printable_encodeItems hdoubles.2 hrest⟩

end

end

end JSONEncoder

end HermesClaude.Python
