/-
# The canonical form

`canonicalize` checks the keys of an object before it normalises them and the strings of a
document after.  So its result passes the same checks again, and survives being written and
loaded, just where no key has outgrown its bound, or gained a control, in normalisation.
-/

import HermesClaude.Parity.Canonical
import HermesClaude.Python.JsonRoundTrip

namespace HermesClaude.Parity

open HermesClaude.Python

section Form

variable (library : CanonicalLibrary)

/-- A text that the bounds on strings admit. -/
structure IsCanonicalText (text : PyStr) : Prop where
  normal : library.nfc text = text
  length : text.length ≤ maxStringLength
  controls : isControlBearing text = false

mutual

/-- A document that is its own canonical form, at most so deep. -/
def IsCanonical (depth : Int) : Json → Prop
  | .str s => 0 ≤ depth ∧ IsCanonicalText library s
  | .list items => 0 ≤ depth ∧ items.length ≤ maxCollectionLength ∧ IsCanonicalList depth items
  | .dict items => 0 ≤ depth ∧ items.length ≤ maxCollectionLength ∧
      (items.map Prod.fst).Nodup ∧ IsCanonicalItems depth items
  | .null | .bool _ | .int _ | .float _ => 0 ≤ depth

def IsCanonicalList (depth : Int) : List Json → Prop
  | [] => True
  | item :: items => IsCanonical (depth - 1) item ∧ IsCanonicalList depth items

def IsCanonicalItems (depth : Int) : List (PyStr × Json) → Prop
  | [] => True
  | (key, item) :: items =>
    IsCanonicalText library key ∧ IsCanonical (depth - 1) item ∧ IsCanonicalItems depth items

end

mutual

/-- Every object key is within the bounds once it is normalised. -/
def KeysFit : PyValue → Prop
  | .dict items => KeysFitItems items
  | .list items | .tuple items => KeysFitList items
  | .none | .bool _ | .int _ | .float _ | .str _ | .bytes _ | .set _ | .object _ _ => True

def KeysFitItems : List (PyValue × PyValue) → Prop
  | [] => True
  | (.str key, item) :: items =>
    ((library.nfc key).length ≤ maxStringLength ∧ isControlBearing (library.nfc key) = false) ∧
      KeysFit item ∧ KeysFitItems items
  | (_, item) :: items => KeysFit item ∧ KeysFitItems items

def KeysFitList : List PyValue → Prop
  | [] => True
  | item :: items => KeysFit item ∧ KeysFitList items

end

end Form

variable {library : CanonicalLibrary}

theorem canonicalText_eq_ok {path s : PyStr} {value : Json}
    (h : canonicalText library path s = .ok value) :
    value = .str (library.nfc s) ∧ IsCanonicalText library (library.nfc s) := by
  unfold canonicalText at h
  dsimp only at h
  split at h
  · cases h
  · next hlength =>
    split at h
    · cases h
    · next hcontrols =>
      cases h
      exact ⟨rfl, library.nfc_nfc s, Nat.not_lt.mp hlength, by simpa using hcontrols⟩

theorem canonicalText_self {path s : PyStr} (h : IsCanonicalText library s) :
    canonicalText library path s = .ok (.str s) := by
  rw [canonicalText, h.normal, if_neg (Nat.not_lt.mpr h.length), h.controls]
  rfl

theorem hasKey_iff {items : List (PyStr × Json)} {key : PyStr} :
    Json.hasKey items key = true ↔ key ∈ items.map Prod.fst := by
  simp [Json.hasKey]

/-- One more item of a mapping. -/
theorem canonicalItems_cons {path key : PyStr} {depth : Int} {result out : List (PyStr × Json)}
    {item : PyValue} {items : List (PyValue × PyValue)} :
    canonicalItems library path depth result ((.str key, item) :: items) = .ok out ↔
      (key.length ≤ maxStringLength ∧ isControlBearing key = false) ∧
      library.nfc key ∉ result.map Prod.fst ∧
      ∃ value, canonicalValue library (path ++ lit "." ++ key) (depth - 1) item = .ok value ∧
        canonicalItems library path depth (result ++ [(library.nfc key, value)]) items = .ok out := by
  rw [canonicalItems]
  by_cases hfits : (key.length > maxStringLength || isControlBearing key) = true
  · rw [if_pos hfits]
    simp only [Bool.or_eq_true, decide_eq_true_eq] at hfits
    constructor
    · rintro ⟨⟩
    · rintro ⟨⟨hlength, hcontrols⟩, -⟩
      rcases hfits with hfits | hfits
      · omega
      · rw [hcontrols] at hfits
        cases hfits
  · rw [if_neg hfits]
    simp only [Bool.or_eq_true, decide_eq_true_eq, not_or, Nat.not_lt, Bool.not_eq_true] at hfits
    by_cases hduplicate : Json.hasKey result (library.nfc key) = true
    · rw [if_pos hduplicate]
      constructor
      · rintro ⟨⟩
      · rintro ⟨-, hfresh, -⟩
        exact absurd (hasKey_iff.mp hduplicate) hfresh
    · rw [if_neg hduplicate]
      cases hvalue : canonicalValue library (path ++ lit "." ++ key) (depth - 1) item with
      | error message => simp [Except.bind]
      | ok value =>
        simp only [Except.bind, Except.ok.injEq, exists_eq_left']
        exact ⟨fun hrest => ⟨hfits, mt hasKey_iff.mpr hduplicate, hrest⟩, fun h => h.2.2⟩

/-- One more element of an array. -/
theorem canonicalList_cons {path : PyStr} {depth : Int} {index : Nat} {item : PyValue}
    {items : List PyValue} {out : List Json} :
    canonicalList library path depth index (item :: items) = .ok out ↔
      ∃ value values, out = value :: values ∧
        canonicalValue library (path ++ lit "[" ++ decimal index ++ lit "]") (depth - 1) item =
          .ok value ∧
        canonicalList library path depth (index + 1) items = .ok values := by
  rw [canonicalList]
  cases hvalue : canonicalValue library (path ++ lit "[" ++ decimal index ++ lit "]") (depth - 1)
      item with
  | error message => simp [Except.bind]
  | ok value =>
    cases hvalues : canonicalList library path depth (index + 1) items with
    | error message => simp [Except.bind, Except.map]
    | ok values => simp [Except.bind, Except.map, eq_comm]

mutual

/-- A canonical document is left as it is. -/
theorem canonicalValue_self {path : PyStr} {depth : Int} {value : Json}
    (h : IsCanonical library depth value) :
    canonicalValue library path depth value.toValue = .ok value := by
  match value with
  | .null | .bool _ | .int _ | .float _ =>
    rw [Json.toValue, canonicalValue, if_neg (Int.not_lt.mpr h)]
  | .str s =>
    rw [Json.toValue, canonicalValue, if_neg (Int.not_lt.mpr h.1)]
    exact canonicalText_self h.2
  | .list items =>
    rw [Json.toValue, canonicalValue, if_neg (Int.not_lt.mpr h.1), if_neg, canonicalList_self 0 h.2.2]
    · rfl
    · rw [Json.toValueList_eq, List.length_map]
      exact Nat.not_lt.mpr h.2.1
  | .dict items =>
    rw [Json.toValue, canonicalValue, if_neg (Int.not_lt.mpr h.1), if_neg, canonicalItems_self [] h.2.2.2]
    · rfl
    · exact h.2.2.1
    · rw [Json.toValueItems_eq, List.length_map]
      exact Nat.not_lt.mpr h.2.1

theorem canonicalList_self {path : PyStr} {depth : Int} {items : List Json} (index : Nat)
    (h : IsCanonicalList library depth items) :
    canonicalList library path depth index (Json.toValueList items) = .ok items := by
  match items with
  | [] => rfl
  | item :: items =>
    rw [Json.toValueList, canonicalList_cons]
    exact ⟨item, items, rfl, canonicalValue_self h.1, canonicalList_self (index + 1) h.2⟩

theorem canonicalItems_self {path : PyStr} {depth : Int} {items : List (PyStr × Json)}
    (result : List (PyStr × Json)) (h : IsCanonicalItems library depth items)
    (hunique : ((result ++ items).map Prod.fst).Nodup) :
    canonicalItems library path depth result (Json.toValueItems items) = .ok (result ++ items) := by
  match items with
  | [] => rw [Json.toValueItems, canonicalItems, List.append_nil]
  | (key, item) :: items =>
    obtain ⟨hkey, hitem, hitems⟩ := h
    rw [Json.toValueItems, canonicalItems_cons, hkey.normal]
    refine ⟨⟨hkey.length, hkey.controls⟩, ?_, item, canonicalValue_self hitem, ?_⟩
    · rw [List.map_append, List.map_cons] at hunique
      intro hmem
      exact (List.nodup_append.mp hunique).2.2 key hmem key List.mem_cons_self rfl
    · have hrest : canonicalItems library path depth (result ++ [(key, item)])
          (Json.toValueItems items) = .ok (result ++ [(key, item)] ++ items) := by
        apply canonicalItems_self _ hitems
        rw [List.append_assoc]
        exact hunique
      rw [List.append_assoc] at hrest
      exact hrest

end

mutual

/-- The canonical form of a document is canonical where its keys fit. -/
theorem isCanonical_of_keysFit {path : PyStr} {depth : Int} {value : PyValue} {form : Json}
    (h : canonicalValue library path depth value = .ok form) (hkeys : KeysFit library value) :
    IsCanonical library depth form := by
  rw [canonicalValue.eq_def] at h
  split at h
  · cases h
  · next hdepth =>
    have hdepth : 0 ≤ depth := Int.not_lt.mp hdepth
    match value with
    | .none | .bool _ | .int _ =>
      cases h
      exact hdepth
    | .str s =>
      obtain ⟨rfl, htext⟩ := canonicalText_eq_ok h
      exact ⟨hdepth, htext⟩
    | .float (.finite q) =>
      cases h
      exact hdepth
    | .float .nan | .float (.infinite _) | .bytes _ | .set _ | .object _ _ => cases h
    | .list items | .tuple items =>
      dsimp only at h
      split at h
      · cases h
      · next hlength =>
        cases hitems : canonicalList library path depth 0 items with
        | error message =>
          rw [hitems] at h
          cases h
        | ok values =>
          rw [hitems] at h
          cases h
          obtain ⟨hvalues, hsize⟩ := isCanonicalList_of_keysFit hitems hkeys
          exact ⟨hdepth, by omega, hvalues⟩
    | .dict items =>
      dsimp only at h
      split at h
      · cases h
      · next hlength =>
        cases hitems : canonicalItems library path depth [] items with
        | error message =>
          rw [hitems] at h
          cases h
        | ok values =>
          rw [hitems] at h
          cases h
          obtain ⟨tail, rfl, hsize, htail, hunique⟩ := isCanonicalItems_of_keysFit hitems hkeys
          exact ⟨hdepth, by omega, hunique List.nodup_nil, htail⟩

theorem isCanonicalList_of_keysFit {path : PyStr} {depth : Int} {index : Nat}
    {items : List PyValue} {values : List Json}
    (h : canonicalList library path depth index items = .ok values)
    (hkeys : KeysFitList library items) :
    IsCanonicalList library depth values ∧ values.length = items.length := by
  match items with
  | [] =>
    cases h
    exact ⟨trivial, rfl⟩
  | item :: items =>
    obtain ⟨value, values, rfl, hvalue, hvalues⟩ := canonicalList_cons.mp h
    obtain ⟨hrest, hsize⟩ := isCanonicalList_of_keysFit hvalues hkeys.2
    exact ⟨⟨isCanonical_of_keysFit hvalue hkeys.1, hrest⟩, by simp [hsize]⟩

theorem isCanonicalItems_of_keysFit {path : PyStr} {depth : Int}
    {items : List (PyValue × PyValue)} {result out : List (PyStr × Json)}
    (h : canonicalItems library path depth result items = .ok out)
    (hkeys : KeysFitItems library items) :
    ∃ tail, out = result ++ tail ∧ tail.length = items.length ∧
      IsCanonicalItems library depth tail ∧
      ((result.map Prod.fst).Nodup → (out.map Prod.fst).Nodup) := by
  match items with
  | [] =>
    cases h
    exact ⟨[], (List.append_nil result).symm, rfl, trivial, id⟩
  | (.str key, item) :: items =>
    obtain ⟨-, hfresh, value, hvalue, hrest⟩ := canonicalItems_cons.mp h
    obtain ⟨⟨hlength, hcontrols⟩, hitem, hitems⟩ := hkeys
    obtain ⟨tail, rfl, hsize, htail, hunique⟩ := isCanonicalItems_of_keysFit hrest hitems
    refine ⟨(library.nfc key, value) :: tail, by simp, by simp [hsize],
      ⟨⟨library.nfc_nfc key, hlength, hcontrols⟩, isCanonical_of_keysFit hvalue hitem, htail⟩, ?_⟩
    intro hresult
    apply hunique
    rw [List.map_append, List.map_singleton, List.nodup_append]
    refine ⟨hresult, List.nodup_singleton _, ?_⟩
    rintro a ha b hb rfl
    rw [List.mem_singleton.mp hb] at ha
    exact hfresh ha
  | (.none, _) :: _ | (.bool _, _) :: _ | (.int _, _) :: _ | (.float _, _) :: _
  | (.bytes _, _) :: _ | (.list _, _) :: _ | (.tuple _, _) :: _ | (.set _, _) :: _
  | (.dict _, _) :: _ | (.object _ _, _) :: _ =>
    rw [canonicalItems] at h
    · cases h
    · rintro key item ⟨⟩

end

/-- The loop over the items of a mapping keeps what it has built. -/
theorem canonicalItems_extends {path : PyStr} {depth : Int} {items : List (PyValue × PyValue)}
    {result out : List (PyStr × Json)}
    (h : canonicalItems library path depth result items = .ok out) : ∃ tail, out = result ++ tail := by
  induction items generalizing result with
  | nil =>
    cases h
    exact ⟨[], by rw [List.append_nil]⟩
  | cons entry items ih =>
    obtain ⟨key, item⟩ := entry
    cases key with
    | str key =>
      obtain ⟨-, -, value, -, hrest⟩ := canonicalItems_cons.mp h
      obtain ⟨tail, htail⟩ := ih hrest
      exact ⟨(library.nfc key, value) :: tail, by rw [htail, List.append_assoc]; rfl⟩
    | none | bool | int | float | bytes | list | tuple | set | dict | object =>
      rw [canonicalItems] at h
      · cases h
      · rintro key item ⟨⟩

mutual

/-- A canonical form that is accepted once more has keys that fit. -/
theorem keysFit_of_again {path path' : PyStr} {depth : Int} {value : PyValue} {form : Json}
    (h : canonicalValue library path depth value = .ok form)
    (hagain : ∃ form', canonicalValue library path' depth form.toValue = .ok form') :
    KeysFit library value := by
  obtain ⟨form', hagain⟩ := hagain
  rw [canonicalValue.eq_def] at h
  split at h
  · cases h
  · match value with
    | .none | .bool _ | .int _ | .str _ | .float _ | .bytes _ | .set _ | .object _ _ => trivial
    | .list items | .tuple items =>
      dsimp only at h
      split at h
      · cases h
      · cases hitems : canonicalList library path depth 0 items with
        | error message =>
          rw [hitems] at h
          cases h
        | ok values =>
          rw [hitems] at h
          cases h
          rw [Json.toValue, canonicalValue] at hagain
          split at hagain
          · cases hagain
          · split at hagain
            · cases hagain
            · cases hvalues : canonicalList library path' depth 0 (Json.toValueList values) with
              | error message =>
                rw [hvalues] at hagain
                cases hagain
              | ok values' => exact keysFitList_of_again hitems ⟨values', hvalues⟩
    | .dict items =>
      dsimp only at h
      split at h
      · cases h
      · cases hitems : canonicalItems library path depth [] items with
        | error message =>
          rw [hitems] at h
          cases h
        | ok values =>
          rw [hitems] at h
          cases h
          rw [Json.toValue, canonicalValue] at hagain
          split at hagain
          · cases hagain
          · split at hagain
            · cases hagain
            · cases hvalues : canonicalItems library path' depth [] (Json.toValueItems values) with
              | error message =>
                rw [hvalues] at hagain
                cases hagain
              | ok values' =>
                have hout : canonicalItems library path depth [] items = .ok ([] ++ values) := hitems
                exact keysFitItems_of_again hout ⟨[], values', hvalues⟩

theorem keysFitList_of_again {path path' : PyStr} {depth : Int} {index index' : Nat}
    {items : List PyValue} {values : List Json}
    (h : canonicalList library path depth index items = .ok values)
    (hagain : ∃ values',
      canonicalList library path' depth index' (Json.toValueList values) = .ok values') :
    KeysFitList library items := by
  match items with
  | [] => trivial
  | item :: items =>
    obtain ⟨value, values, rfl, hvalue, hvalues⟩ := canonicalList_cons.mp h
    obtain ⟨values', hagain⟩ := hagain
    rw [Json.toValueList] at hagain
    obtain ⟨value', rest', -, hvalue', hrest'⟩ := canonicalList_cons.mp hagain
    exact ⟨keysFit_of_again hvalue ⟨value', hvalue'⟩, keysFitList_of_again hvalues ⟨rest', hrest'⟩⟩

theorem keysFitItems_of_again {path path' : PyStr} {depth : Int}
    {items : List (PyValue × PyValue)} {result tail : List (PyStr × Json)}
    (h : canonicalItems library path depth result items = .ok (result ++ tail))
    (hagain : ∃ result' out,
      canonicalItems library path' depth result' (Json.toValueItems tail) = .ok out) :
    KeysFitItems library items := by
  match items with
  | [] => trivial
  | (.str key, item) :: items =>
    obtain ⟨-, -, value, hvalue, hrest⟩ := canonicalItems_cons.mp h
    obtain ⟨more, hmore⟩ := canonicalItems_extends hrest
    rw [List.append_assoc, List.append_cancel_left_eq, List.singleton_append] at hmore
    subst hmore
    obtain ⟨result', out, hagain⟩ := hagain
    rw [Json.toValueItems] at hagain
    obtain ⟨hkey, -, value', hvalue', hrest'⟩ := canonicalItems_cons.mp hagain
    refine ⟨hkey, keysFit_of_again hvalue ⟨value', hvalue'⟩, ?_⟩
    have hout : canonicalItems library path depth (result ++ [(library.nfc key, value)]) items =
        .ok (result ++ [(library.nfc key, value)] ++ more) := by
      rw [List.append_assoc]
      exact hrest
    exact keysFitItems_of_again hout ⟨_, out, hrest'⟩
  | (.none, _) :: _ | (.bool _, _) :: _ | (.int _, _) :: _ | (.float _, _) :: _
  | (.bytes _, _) :: _ | (.list _, _) :: _ | (.tuple _, _) :: _ | (.set _, _) :: _
  | (.dict _, _) :: _ | (.object _ _, _) :: _ =>
    rw [canonicalItems] at h
    · cases h
    · rintro key item ⟨⟩

end

/-! ## Canonical documents in the order of their keys -/

theorem isCanonicalItems_iff {depth : Int} (items : List (PyStr × Json)) :
    IsCanonicalItems library depth items ↔ ∀ item ∈ items,
      IsCanonicalText library item.1 ∧ IsCanonical library (depth - 1) item.2 := by
  induction items with
  | nil => simp [IsCanonicalItems]
  | cons item items ih => rw [IsCanonicalItems, ih, List.forall_mem_cons, and_assoc]

mutual

theorem uniqueKeys_of_isCanonical {depth : Int} {value : Json}
    (h : IsCanonical library depth value) : value.UniqueKeys := by
  match value with
  | .null | .bool _ | .int _ | .float _ | .str _ => trivial
  | .list items => exact uniqueKeysList_of_isCanonical h.2.2
  | .dict items => exact ⟨h.2.2.1, uniqueKeysItems_of_isCanonical h.2.2.2⟩

theorem uniqueKeysList_of_isCanonical {depth : Int} {items : List Json}
    (h : IsCanonicalList library depth items) : Json.UniqueKeysList items := by
  match items with
  | [] => trivial
  | item :: items => exact ⟨uniqueKeys_of_isCanonical h.1, uniqueKeysList_of_isCanonical h.2⟩

theorem uniqueKeysItems_of_isCanonical {depth : Int} {items : List (PyStr × Json)}
    (h : IsCanonicalItems library depth items) : Json.UniqueKeysItems items := by
  match items with
  | [] => trivial
  | (_, item) :: items =>
    exact ⟨uniqueKeys_of_isCanonical h.2.1, uniqueKeysItems_of_isCanonical h.2.2⟩

end

mutual

theorem isCanonical_sortKeys {depth : Int} {value : Json} (h : IsCanonical library depth value) :
    IsCanonical library depth value.sortKeys := by
  match value with
  | .null | .bool _ | .int _ | .float _ | .str _ => exact h
  | .list items =>
    obtain ⟨hdepth, hlength, hitems⟩ := h
    refine ⟨hdepth, ?_, isCanonicalList_sortKeys hitems⟩
    rwa [Json.sortKeysList_eq, List.length_map]
  | .dict items =>
    obtain ⟨hdepth, hlength, hunique, hitems⟩ := h
    have hperm := sortItems_perm (Json.sortKeysItems items)
    refine ⟨hdepth, ?_, ?_, ?_⟩
    · rwa [hperm.length_eq, Json.sortKeysItems_eq, List.length_map]
    · rw [(hperm.map Prod.fst).nodup_iff, Json.sortKeysItems_eq, List.map_map]
      exact hunique
    · have hsorted := (isCanonicalItems_iff _).mp (isCanonicalItems_sortKeys hitems)
      rw [isCanonicalItems_iff]
      intro item hitem
      exact hsorted item (hperm.mem_iff.mp hitem)

theorem isCanonicalList_sortKeys {depth : Int} {items : List Json}
    (h : IsCanonicalList library depth items) :
    IsCanonicalList library depth (Json.sortKeysList items) := by
  match items with
  | [] => exact h
  | item :: items => exact ⟨isCanonical_sortKeys h.1, isCanonicalList_sortKeys h.2⟩

theorem isCanonicalItems_sortKeys {depth : Int} {items : List (PyStr × Json)}
    (h : IsCanonicalItems library depth items) :
    IsCanonicalItems library depth (Json.sortKeysItems items) := by
  match items with
  | [] => exact h
  | (_, item) :: items =>
    exact ⟨h.1, isCanonical_sortKeys h.2.1, isCanonicalItems_sortKeys h.2.2⟩

end

/-! ## Floats -/

mutual

/-- Every float is one that Python has. -/
def HasDoubles : PyValue → Prop
  | .float (.finite q) => IsDouble q
  | .list items | .tuple items => HasDoublesList items
  | .dict items => HasDoublesItems items
  | .none | .bool _ | .int _ | .str _ | .bytes _ | .set _ | .object _ _
  | .float .nan | .float (.infinite _) => True

def HasDoublesList : List PyValue → Prop
  | [] => True
  | item :: items => HasDoubles item ∧ HasDoublesList items

def HasDoublesItems : List (PyValue × PyValue) → Prop
  | [] => True
  | (_, item) :: items => HasDoubles item ∧ HasDoublesItems items

end

mutual

theorem hasDoubles_of_canonicalValue {path : PyStr} {depth : Int} {value : PyValue} {form : Json}
    (h : canonicalValue library path depth value = .ok form) (hdoubles : HasDoubles value) :
    form.HasDoubles := by
  rw [canonicalValue.eq_def] at h
  split at h
  · cases h
  · match value with
    | .none | .bool _ | .int _ =>
      cases h
      trivial
    | .str s =>
      obtain ⟨rfl, -⟩ := canonicalText_eq_ok h
      trivial
    | .float (.finite q) =>
      cases h
      exact hdoubles
    | .float .nan | .float (.infinite _) | .bytes _ | .set _ | .object _ _ => cases h
    | .list items | .tuple items =>
      dsimp only at h
      split at h
      · cases h
      · cases hitems : canonicalList library path depth 0 items with
        | error message =>
          rw [hitems] at h
          cases h
        | ok values =>
          rw [hitems] at h
          cases h
          exact hasDoublesList_of_canonicalList hitems hdoubles
    | .dict items =>
      dsimp only at h
      split at h
      · cases h
      · cases hitems : canonicalItems library path depth [] items with
        | error message =>
          rw [hitems] at h
          cases h
        | ok values =>
          rw [hitems] at h
          cases h
          exact hasDoublesItems_of_canonicalItems hitems hdoubles trivial

theorem hasDoublesList_of_canonicalList {path : PyStr} {depth : Int} {index : Nat}
    {items : List PyValue} {values : List Json}
    (h : canonicalList library path depth index items = .ok values)
    (hdoubles : HasDoublesList items) : Json.HasDoublesList values := by
  match items with
  | [] =>
    cases h
    trivial
  | item :: items =>
    obtain ⟨value, values, rfl, hvalue, hvalues⟩ := canonicalList_cons.mp h
    exact ⟨hasDoubles_of_canonicalValue hvalue hdoubles.1,
      hasDoublesList_of_canonicalList hvalues hdoubles.2⟩

theorem hasDoublesItems_of_canonicalItems {path : PyStr} {depth : Int}
    {items : List (PyValue × PyValue)} {result out : List (PyStr × Json)}
    (h : canonicalItems library path depth result items = .ok out)
    (hdoubles : HasDoublesItems items) (hresult : Json.HasDoublesItems result) :
    Json.HasDoublesItems out := by
  match items with
  | [] =>
    cases h
    exact hresult
  | (.str key, item) :: items =>
    obtain ⟨-, -, value, hvalue, hrest⟩ := canonicalItems_cons.mp h
    apply hasDoublesItems_of_canonicalItems hrest hdoubles.2
    rw [Json.hasDoublesItems_iff] at hresult ⊢
    intro entry hentry
    rcases List.mem_append.mp hentry with hentry | hentry
    · exact hresult entry hentry
    · rw [List.mem_singleton.mp hentry]
      exact hasDoubles_of_canonicalValue hvalue hdoubles.1
  | (.none, _) :: _ | (.bool _, _) :: _ | (.int _, _) :: _ | (.float _, _) :: _
  | (.bytes _, _) :: _ | (.list _, _) :: _ | (.tuple _, _) :: _ | (.set _, _) :: _
  | (.dict _, _) :: _ | (.object _ _, _) :: _ =>
    rw [canonicalItems] at h
    · cases h
    · rintro key item ⟨⟩

end

/-! ## The normal form -/

theorem canonicalEncoder_lawful (library : CanonicalLibrary) : (canonicalEncoder library).Lawful :=
  ⟨[], (by decide : lit ":" = [0x3A]), by simp⟩

theorem strictDecoder_lawful (library : CanonicalLibrary) : (strictDecoder library).Lawful := by
  intro fields hunique
  exact if_pos hunique

theorem encodeCanonical_eq_ok {value : Json} {data : Bytes}
    (h : encodeCanonical library value = .ok data) :
    ∃ text, (canonicalEncoder library).dumps value = some text ∧ encodeUtf8 text = some data := by
  unfold encodeCanonical at h
  split at h
  · next hencode =>
    cases h
    exact Option.bind_eq_some_iff.mp hencode
  · cases h

/-- A canonical document is loaded from its bytes with its keys in order. -/
theorem loadJson_encodeCanonical {value : Json} {data : Bytes} (hcanonical : IsCanonical library 64 value)
    (hdoubles : value.HasDoubles) (h : encodeCanonical library value = .ok data) :
    loadJson library (.bytes data) = some value.sortKeys := by
  obtain ⟨text, htext, hdata⟩ := encodeCanonical_eq_ok h
  have hunique := uniqueKeys_of_isCanonical hcanonical
  have hdecode := decodeBytes_dumps (canonicalEncoder_lawful library)
    (JSONEncoder.printable_of_all (by decide : (lit ":").all _ = true)) (strictDecoder_lawful library)
    rfl hdoubles hunique htext hdata library.decodeWide
  have hloads := JSONDecoder.loads_dumps (canonicalEncoder_lawful library)
    (strictDecoder_lawful library) rfl hdoubles hunique htext (List.forall_mem_nil _)
  have hform : canonicalize library value.sortKeys.toValue = .ok value.sortKeys :=
    canonicalValue_self (isCanonical_sortKeys hcanonical)
  rw [List.append_nil] at hloads
  simp only [loadJson, hdecode, Option.bind_some, hloads, hform]
  rfl

/-- The same bytes are written for a canonical document and what is loaded of it. -/
theorem encodeCanonical_sortKeys {value : Json} {data : Bytes} (hunique : value.UniqueKeys)
    (h : encodeCanonical library value = .ok data) :
    encodeCanonical library value.sortKeys = .ok data := by
  rw [← h, encodeCanonical, JSONEncoder.dumps, JSONEncoder.encode_sortKeys 0 hunique]
  rfl

theorem canonicalJsonBytes_eq {value : PyValue} {form : Json}
    (h : canonicalize library value = .ok form) :
    canonicalJsonBytes library value = encodeCanonical library form := by
  rw [canonicalJsonBytes, h]
  rfl

/-- Canonical JSON is a normal form just where every key fits once it is normalised: then
the form is its own form, and is equal to what is loaded from its bytes, for which the same
bytes are written. -/
theorem canonical_json_normal_form (library : CanonicalLibrary) (value : PyValue) (form : Json)
    (hdoubles : HasDoubles value) (h : canonicalize library value = .ok form) :
    ((∃ again, canonicalize library form.toValue = .ok again ∧ again.pyEq form = true) ∧
      ∀ data, canonicalJsonBytes library value = .ok data →
        ∃ loaded, loadJson library (.bytes data) = some loaded ∧ loaded.pyEq form = true ∧
          canonicalJsonBytes library loaded.toValue = .ok data) ↔
      KeysFit library value := by
  constructor
  · rintro ⟨⟨again, hagain, -⟩, -⟩
    exact keysFit_of_again h ⟨again, hagain⟩
  · intro hkeys
    have hcanonical := isCanonical_of_keysFit h hkeys
    have hunique := uniqueKeys_of_isCanonical hcanonical
    refine ⟨⟨form, canonicalValue_self hcanonical, Json.pyEq_self hunique⟩, ?_⟩
    intro data hdata
    rw [canonicalJsonBytes_eq h] at hdata
    have hloaded := loadJson_encodeCanonical hcanonical (hasDoubles_of_canonicalValue h hdoubles) hdata
    refine ⟨form.sortKeys, hloaded, Json.pyEq_sortKeys hunique, ?_⟩
    have hform : canonicalize library form.sortKeys.toValue = .ok form.sortKeys :=
      canonicalValue_self (isCanonical_sortKeys hcanonical)
    rw [canonicalJsonBytes_eq hform]
    exact encodeCanonical_sortKeys hunique hdata

/-- Normalisation as far as `DEVANAGARI LETTER QA` goes, which is always decomposed. -/
def decomposeQa (text : PyStr) : PyStr :=
  text.flatMap fun c => if c = 0x958 then [0x915, 0x93C] else [c]

/-- A library for running the model on text that is otherwise normalised. -/
def sampleLibrary : CanonicalLibrary where
  nfc := decomposeQa
  nfc_nfc text := by
    rw [decomposeQa, decomposeQa, List.flatMap_assoc]
    congr 1
    funext c
    by_cases hqa : c = 0x958
    · simp [hqa]
    · simp [hqa]
  floats := exactFloatText
  decodeWide _ _ := none

/-- A list with an object in it is its own normal form. -/
theorem canonical_json_normal_form_list :
    let value := PyValue.list [.bool true, .dict [(.str [0x61], .int 1)]]
    let form := Json.list [.bool true, .dict [([0x61], .int 1)]]
    (∃ again, canonicalize sampleLibrary form.toValue = .ok again ∧ again.pyEq form = true) ∧
      ∀ data, canonicalJsonBytes sampleLibrary value = .ok data →
        ∃ loaded, loadJson sampleLibrary (.bytes data) = some loaded ∧ loaded.pyEq form = true ∧
          canonicalJsonBytes sampleLibrary loaded.toValue = .ok data :=
  (canonical_json_normal_form sampleLibrary
    (.list [.bool true, .dict [(.str [0x61], .int 1)]])
    (.list [.bool true, .dict [([0x61], .int 1)]])
    ⟨trivial, ⟨trivial, trivial⟩, trivial⟩ rfl).mpr
    ⟨trivial, ⟨⟨by decide, by decide⟩, trivial, trivial⟩, trivial⟩

/-- A key of the longest admitted length that is decomposed is accepted once and not again. -/
theorem canonical_json_not_normal_form :
    let value := PyValue.dict [(.str (List.replicate 4096 0x958), .none)]
    ∃ form, canonicalize sampleLibrary value = .ok form ∧
      ∀ again, canonicalize sampleLibrary form.toValue ≠ .ok again := by
  intro value
  have hplain : isControlBearing (List.replicate 4096 0x958) = false := by
    rw [isControlBearing, List.any_replicate]
    rfl
  have hitems : canonicalItems sampleLibrary (lit "$") 64 []
      [(.str (List.replicate 4096 0x958), .none)] =
      .ok [(decomposeQa (List.replicate 4096 0x958), .null)] := by
    rw [canonicalItems_cons]
    refine ⟨⟨?_, hplain⟩, List.not_mem_nil, .null, rfl, rfl⟩
    rw [List.length_replicate]
    exact Nat.le_refl _
  have hform : canonicalize sampleLibrary value =
      .ok (.dict [(decomposeQa (List.replicate 4096 0x958), .null)]) := by
    rw [canonicalize, canonicalValue, hitems]
    rfl
  refine ⟨_, hform, ?_⟩
  intro again hagain
  obtain ⟨⟨hlength, -⟩, -⟩ := keysFit_of_again hform ⟨again, hagain⟩
  have hlong : (decomposeQa (List.replicate 4096 0x958)).length = 8192 := by
    rw [decomposeQa, List.length_flatMap, List.map_replicate, List.sum_replicate]
    rfl
  exact absurd (hlong ▸ hlength) (by decide)

end HermesClaude.Parity
