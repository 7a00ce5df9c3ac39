/-
# Copies of copies

A copy is plain JSON within the bounds itself: it has no more values and no more text than
the graph, and copying it gives it again.  It is made of new containers; all that it shares
with the graph are scalars.
-/

import HermesClaude.Bridge.PlainJsonExact
import Mathlib.Algebra.Order.Monoid.Prod
import Mathlib.Algebra.Order.BigOperators.Group.List

namespace HermesClaude.Bridge

open HermesClaude.Python

universe u

/-! ## Costs -/

section Costs

variable {α : Type u} (V : ObjectView α)

/-- What one object costs: one value, and the bytes of its text. -/
def cost (a : α) : Nat × Nat := (1, textSize V a)

/-- What everything that is met on so many levels costs. -/
def visitCost (levels : Nat) (a : α) : Nat × Nat := ((visits V levels a).map (cost V)).sum

theorem visitCost_eq (levels : Nat) (a : α) :
    visitCost V levels a = ((visits V levels a).length, textBytes V (visits V levels a)) := by
  rw [visitCost]
  induction visits V levels a with
  | nil => rfl
  | cons b rest ih =>
    rw [List.map_cons, List.sum_cons, ih, cost, Prod.mk_add_mk, List.length_cons, Nat.add_comm 1]
    rfl

theorem visitCost_succ (levels : Nat) (a : α) : visitCost V (levels + 1) a =
    cost V a + ((parts V a).map (visitCost V levels)).sum := by
  rw [visitCost, visits, List.map_cons, List.sum_cons]
  congr 1
  induction parts V a with
  | nil => rfl
  | cons b rest ih => rw [List.flatMap_cons, List.map_append, List.sum_append, ih]; rfl

end Costs

theorem mem_setItem {items : List (PyStr × Json)} {key : PyStr} {value : Json} {entry : PyStr × Json}
    (h : entry ∈ Json.setItem items key value) : entry = (key, value) ∨ entry ∈ items := by
  rw [Json.setItem] at h
  split at h
  · rcases List.mem_map.mp h with ⟨source, hsource, rfl⟩
    split
    · exact Or.inl rfl
    · exact Or.inr hsource
  · rcases List.mem_append.mp h with h | h
    · exact Or.inr h
    · exact Or.inl (List.mem_singleton.mp h)

/-- Setting an entry adds its weight at most. -/
theorem weight_setItem_le (weight : PyStr × Json → Nat × Nat) {items : List (PyStr × Json)}
    (hunique : (items.map Prod.fst).Nodup) (key : PyStr) (value : Json) :
    ((Json.setItem items key value).map weight).sum ≤ (items.map weight).sum + weight (key, value) := by
  induction items with
  | nil => simp [Json.setItem, Json.hasKey]
  | cons head rest ih =>
    rw [List.map_cons, List.nodup_cons] at hunique
    by_cases hhead : head.1 = key
    · have hset : Json.setItem (head :: rest) key value = (key, value) :: rest := by
        have hrest : rest.map (fun item => if item.1 = key then (key, value) else item) = rest := by
          have hsame : rest.map (fun item => if item.1 = key then (key, value) else item) =
              rest.map id := by
            apply List.map_congr_left
            intro item hitem
            have hne : item.1 ≠ key := by
              intro heq
              exact hunique.1 (hhead ▸ heq ▸ List.mem_map_of_mem hitem)
            exact if_neg hne
          rw [hsame, List.map_id]
        simp [Json.setItem, Json.hasKey, hhead, hrest]
      rw [hset, List.map_cons, List.map_cons, List.sum_cons, List.sum_cons, add_comm (weight (key, value))]
      exact add_le_add_left le_add_self _
    · have hset : Json.setItem (head :: rest) key value = head :: Json.setItem rest key value := by
        have hkey : Json.hasKey (head :: rest) key = Json.hasKey rest key := by
          simp [Json.hasKey, hhead]
        rw [Json.setItem, hkey, Json.setItem]
        split_ifs
        · rw [List.map_cons, if_neg hhead]
        · rfl
      rw [hset, List.map_cons, List.map_cons, List.sum_cons, List.sum_cons, add_assoc]
      exact add_le_add_right (ih hunique.2) _

/-! ## Copying a copy -/

section Again

variable {α : Type u} {V : ObjectView α}

/-- What entries cost, keys and values. -/
def entryCost (levels : Nat) (entry : PyStr × Json) : Nat × Nat :=
  visitCost Json.view levels (.str entry.1) + visitCost Json.view levels entry.2

/-- What items of a mapping cost, keys and values. -/
def itemCost (V : ObjectView α) (levels : Nat) (item : α × α) : Nat × Nat :=
  visitCost V levels item.1 + visitCost V levels item.2

/-- A scalar that costs as much as its copy. -/
theorem leaf_again {levels : Nat} {active : List α} {active' : List Json} {a : α} {json : Json}
    (h : Fits V levels active a) (ha : isContainer V a = false)
    (hjson : isContainer Json.view json = false) (hplain : IsPlain V a → IsPlain Json.view json)
    (hcost : textSize V a = textSize Json.view json) :
    Fits Json.view levels active' json ∧ visitCost Json.view levels json ≤ visitCost V levels a := by
  cases levels with
  | zero => exact h.elim
  | succ levels =>
    rw [fits_leaf levels active' hjson, visitCost, visitCost, visits_leaf levels hjson,
      visits_leaf levels ha]
    refine ⟨hplain h.1, ?_⟩
    simp [cost, hcost]

theorem sum_parts_mapping (levels : Nat) (items : List (α × α)) :
    ((items.flatMap fun item => [item.1, item.2]).map (visitCost V levels)).sum =
      (items.map (itemCost V levels)).sum := by
  induction items with
  | nil => rfl
  | cons item rest ih =>
    simp only [List.flatMap_cons, List.cons_append, List.nil_append, List.map_cons, List.sum_cons, ih,
      itemCost, add_assoc]

theorem text_again {levels : Nat} {active : List α} {a : α} {s : PyStr} (active' : List Json)
    (hnode : V.node a = .str s) (h : Fits V levels active a) :
    Fits Json.view levels active' (.str s) ∧ visitCost Json.view levels (.str s) ≤ visitCost V levels a := by
  apply leaf_again h
  · rw [isContainer, hnode]
  · rfl
  · rw [IsPlain, hnode]
    exact id
  · rw [textSize, hnode]
    rfl

/-- A dictionary whose entries can be copied. -/
theorem dict_again {levels : Nat} {active' : List Json} {entries : List (PyStr × Json)}
    (h : ∀ entry ∈ entries, Fits Json.view levels (.dict entries :: active') (.str entry.1) ∧
      Fits Json.view levels (.dict entries :: active') entry.2) :
    Fits Json.view (levels + 1) active' (.dict entries) ∧
      visitCost Json.view (levels + 1) (.dict entries) = (1, 0) + (entries.map (entryCost levels)).sum := by
  have hparts : parts Json.view (.dict entries) =
      (entries.map fun entry => (Json.str entry.1, entry.2)).flatMap fun item => [item.1, item.2] := rfl
  constructor
  · refine ⟨⟨?_, rfl⟩, fun _ _ _ => rfl, ?_⟩
    · intro item hitem
      rcases List.mem_map.mp hitem with ⟨entry, -, rfl⟩
      exact ⟨entry.1, rfl⟩
    · intro b hb
      rw [hparts] at hb
      rcases List.mem_flatMap.mp hb with ⟨item, hitem, hb⟩
      rcases List.mem_map.mp hitem with ⟨entry, hentry, rfl⟩
      simp only [List.mem_cons, List.not_mem_nil, or_false] at hb
      rcases hb with rfl | rfl
      · exact (h entry hentry).1
      · exact (h entry hentry).2
  · rw [visitCost_succ, hparts, sum_parts_mapping, List.map_map]
    rfl

mutual

/-- What is copied once can be copied again, at no higher cost. -/
theorem Shows.again {a : α} {json : Json} (h : Shows V a json) {levels : Nat} {active : List α}
    (active' : List Json) (hfits : Fits V levels active a) :
    Fits Json.view levels active' json ∧ visitCost Json.view levels json ≤ visitCost V levels a := by
  match h with
  | .null hnode =>
    apply leaf_again hfits
    · rw [isContainer, hnode]
    · rfl
    · exact fun _ => trivial
    · rw [textSize, hnode]
      rfl
  | .bool hnode =>
    apply leaf_again hfits
    · rw [isContainer, hnode]
    · rfl
    · exact fun _ => trivial
    · rw [textSize, hnode]
      rfl
  | .int hnode =>
    apply leaf_again hfits
    · rw [isContainer, hnode]
    · rfl
    · rw [IsPlain, hnode]
      exact id
    · rw [textSize, hnode]
      rfl
  | .float hnode =>
    apply leaf_again hfits
    · rw [isContainer, hnode]
    · rfl
    · exact fun _ => ⟨_, rfl⟩
    · rw [textSize, hnode]
      rfl
  | .str hnode => exact text_again active' hnode hfits
  | @Shows.list _ _ _ items values hnode content =>
    cases levels with
    | zero => exact hfits.elim
    | succ levels =>
      have hparts : parts V a = items := by
        rcases hnode with hnode | hnode
        · rw [parts, hnode]
        · rw [parts, hnode]
      have hbelow := hfits.2.2
      rw [hparts] at hbelow
      rcases content.again (.list values :: active') hbelow with ⟨hvalues, hcost⟩
      refine ⟨⟨trivial, fun _ _ _ => rfl, hvalues⟩, ?_⟩
      rw [visitCost_succ, visitCost_succ, hparts]
      apply add_le_add _ hcost
      exact ⟨le_refl _, Nat.zero_le _⟩
  | @Shows.dict _ _ _ items entries hnode content =>
    cases levels with
    | zero => exact hfits.elim
    | succ levels =>
      have hparts : parts V a = items.flatMap fun item => [item.1, item.2] := by rw [parts, hnode]
      have hbelow : ∀ item ∈ items, Fits V levels (a :: active) item.1 ∧
          Fits V levels (a :: active) item.2 := by
        intro item hitem
        have hmem : ∀ b ∈ [item.1, item.2], b ∈ parts V a := by
          intro b hb
          rw [hparts]
          exact List.mem_flatMap.mpr ⟨item, hitem, hb⟩
        exact ⟨hfits.2.2 _ (hmem _ (by simp)), hfits.2.2 _ (hmem _ (by simp))⟩
      rcases content.again (.dict entries :: active') hbelow List.nodup_nil (List.forall_mem_nil _) with
        ⟨hentries, hcost⟩
      rcases dict_again hentries with ⟨hdict, heq⟩
      refine ⟨hdict, ?_⟩
      rw [heq, visitCost_succ, hparts, sum_parts_mapping]
      rw [List.map_nil, List.sum_nil, zero_add] at hcost
      apply add_le_add _ hcost
      exact ⟨le_refl _, Nat.zero_le _⟩

theorem ShowsItems.again {items : List α} {values : List Json} (h : ShowsItems V items values)
    {levels : Nat} {active : List α} (active' : List Json) (hfits : ∀ b ∈ items, Fits V levels active b) :
    (∀ value ∈ values, Fits Json.view levels active' value) ∧
      (values.map (visitCost Json.view levels)).sum ≤ (items.map (visitCost V levels)).sum := by
  match h with
  | .nil => exact ⟨List.forall_mem_nil _, le_refl _⟩
  | .cons first others =>
    rw [List.forall_mem_cons] at hfits
    rcases first.again active' hfits.1 with ⟨hfirst, hcost⟩
    rcases others.again active' hfits.2 with ⟨hothers, hcosts⟩
    rw [List.map_cons, List.map_cons, List.sum_cons, List.sum_cons]
    exact ⟨List.forall_mem_cons.mpr ⟨hfirst, hothers⟩, add_le_add hcost hcosts⟩

theorem ShowsEntries.again {done entries : List (PyStr × Json)} {items : List (α × α)}
    (h : ShowsEntries V done items entries) {levels : Nat} {active : List α} (active' : List Json)
    (hfits : ∀ item ∈ items, Fits V levels active item.1 ∧ Fits V levels active item.2)
    (hunique : (done.map Prod.fst).Nodup)
    (hdone : ∀ entry ∈ done, Fits Json.view levels active' (.str entry.1) ∧
      Fits Json.view levels active' entry.2) :
    (∀ entry ∈ entries, Fits Json.view levels active' (.str entry.1) ∧
        Fits Json.view levels active' entry.2) ∧
      (entries.map (entryCost levels)).sum ≤
        (done.map (entryCost levels)).sum + (items.map (itemCost V levels)).sum := by
  match h with
  | .nil => exact ⟨hdone, le_self_add⟩
  | @ShowsEntries.cons _ _ _ _ _ _ name value _ named shows others =>
    rw [List.forall_mem_cons] at hfits
    have hkey := text_again active' named hfits.1.1
    have hchild := shows.again active' hfits.1.2
    have hset : ∀ entry ∈ Json.setItem done name value, Fits Json.view levels active' (.str entry.1) ∧
        Fits Json.view levels active' entry.2 := by
      intro entry hentry
      rcases mem_setItem hentry with rfl | hentry
      · exact ⟨hkey.1, hchild.1⟩
      · exact hdone entry hentry
    rcases others.again active' hfits.2 (Json.setItem_nodup hunique name value) hset with
      ⟨hentries, hcost⟩
    refine ⟨hentries, hcost.trans ?_⟩
    rw [List.map_cons, List.sum_cons, ← add_assoc]
    apply add_le_add_left
    apply (weight_setItem_le (entryCost levels) hunique name value).trans
    apply add_le_add_right
    exact add_le_add hkey.2 hchild.2

end

mutual

/-- A copy has no key twice. -/
theorem Shows.uniqueKeys {a : α} {json : Json} (h : Shows V a json) : json.UniqueKeys := by
  match h with
  | .null _ | .bool _ | .int _ | .float _ | .str _ => trivial
  | .list _ content => exact content.uniqueKeys
  | .dict _ content => exact content.uniqueKeys List.nodup_nil trivial

theorem ShowsItems.uniqueKeys {items : List α} {values : List Json} (h : ShowsItems V items values) :
    Json.UniqueKeysList values := by
  match h with
  | .nil => trivial
  | .cons first others => exact ⟨first.uniqueKeys, others.uniqueKeys⟩

theorem ShowsEntries.uniqueKeys {done entries : List (PyStr × Json)} {items : List (α × α)}
    (h : ShowsEntries V done items entries) (hunique : (done.map Prod.fst).Nodup)
    (hdone : Json.UniqueKeysItems done) :
    (entries.map Prod.fst).Nodup ∧ Json.UniqueKeysItems entries := by
  match h with
  | .nil => exact ⟨hunique, hdone⟩
  | @ShowsEntries.cons _ _ _ _ _ _ name _ _ _ shows others =>
    apply others.uniqueKeys (Json.setItem_nodup hunique name _)
    rw [Json.uniqueKeysItems_iff] at hdone ⊢
    exact Json.setItem_values hdone name shows.uniqueKeys

end

mutual

/-- Plain JSON shows itself only. -/
theorem Shows.eq_self {json json' : Json} (h : Shows Json.view json json') (hunique : json.UniqueKeys) :
    json' = json := by
  match h with
  | .null hnode => cases json <;> first | rfl | cases hnode
  | .bool hnode => cases json <;> cases hnode; rfl
  | .int hnode => cases json <;> cases hnode; rfl
  | .float hnode => cases json <;> cases hnode; rfl
  | .str hnode => cases json <;> cases hnode; rfl
  | @Shows.list _ _ _ items _ hnode content =>
    cases json with
    | list elements =>
      have hitems : elements = items := by
        rcases hnode with hnode | hnode
        · exact Node.list.inj hnode
        · cases hnode
      have hvalues := content.eq_self (hitems ▸ hunique)
      rw [hvalues, hitems]
    | _ => rcases hnode with hnode | hnode <;> cases hnode
  | .dict hnode content =>
    cases json with
    | dict entries =>
      have hitems := (Node.mapping.inj hnode).1.symm
      have hentries := content.eq_self entries hitems hunique.1 hunique.2
      rw [hentries]
      rfl
    | _ => cases hnode

theorem ShowsItems.eq_self {items values : List Json} (h : ShowsItems Json.view items values)
    (hunique : Json.UniqueKeysList items) : values = items := by
  match h with
  | .nil => rfl
  | .cons first others => rw [first.eq_self hunique.1, others.eq_self hunique.2]

theorem ShowsEntries.eq_self {done result : List (PyStr × Json)} {items : List (Json × Json)}
    (h : ShowsEntries Json.view done items result) (entries : List (PyStr × Json))
    (hitems : items = entries.map fun entry => (.str entry.1, entry.2))
    (hunique : ((done ++ entries).map Prod.fst).Nodup) (hvalues : Json.UniqueKeysItems entries) :
    result = done ++ entries := by
  match h with
  | .nil =>
    rw [List.map_eq_nil_iff.mp hitems.symm, List.append_nil]
  | @ShowsEntries.cons _ _ _ _ key child name value _ named shows others =>
    cases entries with
    | nil => cases hitems
    | cons entry rest =>
      rw [List.map_cons, List.cons.injEq, Prod.mk.injEq] at hitems
      rcases hitems with ⟨⟨hkey, hchild⟩, hrest⟩
      have hname : name = entry.1 := by
        rw [hkey] at named
        exact (Node.str.inj named).symm
      have hvalue : value = entry.2 := (shows.eq_self (hchild ▸ hvalues.1)).trans hchild
      have hfresh : name ∉ done.map Prod.fst := by
        rw [List.map_append, List.map_cons] at hunique
        intro hmem
        exact (List.nodup_append.mp hunique).2.2 _ hmem _ List.mem_cons_self hname
      have hset : Json.setItem done name value = done ++ [entry] := by
        rw [Json.setItem_of_notMem hfresh, hname, hvalue]
      have hsplit : done ++ entry :: rest = Json.setItem done name value ++ rest := by
        rw [hset, List.append_assoc]
        rfl
      rw [hsplit] at hunique ⊢
      exact others.eq_self rest hrest hunique hvalues.2

end

/-- **A copy of a copy** is the copy. -/
theorem copyPlainJson_again {maxBytes : Nat} {value : α} {json : Json}
    (h : copyPlainJson V value maxBytes = some json) :
    copyPlainJson Json.view json maxBytes = some json := by
  have hshows := copyPlainJson_shows h
  have hcopied : (copyPlainJson V value maxBytes).isSome = true := by rw [h]; rfl
  rcases copyPlainJson_isSome.mp hcopied with ⟨hfits, hnodes, hbytes⟩
  rcases hshows.again [] hfits with ⟨hagain, hcost⟩
  rw [visitCost_eq, visitCost_eq] at hcost
  have hsome : (copyPlainJson Json.view json maxBytes).isSome = true :=
    copyPlainJson_isSome.mpr ⟨hagain, hcost.1.trans hnodes, hcost.2.trans hbytes⟩
  rcases Option.isSome_iff_exists.mp hsome with ⟨json', hjson'⟩
  rw [hjson', (copyPlainJson_shows hjson').eq_self hshows.uniqueKeys]

end Again

end HermesClaude.Bridge
