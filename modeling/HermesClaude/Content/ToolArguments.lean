/-
# Bounded tool arguments

The input of a tool call comes from the provider as a graph of objects, which may be
deep, wide, shared or cyclic.  The sanitiser walks it with a bound on the depth and
the set of the containers that it is inside of, and builds a fresh tree of plain JSON.

An object shows what `isinstance` finds: an instance of a subclass shows as the type
that it derives from, and an object that is no scalar, mapping, list or tuple shows
nothing.
-/

import HermesClaude.Content.Provenance
import HermesClaude.Python.JsonSorted
import Mathlib.Data.Finset.Basic

namespace HermesClaude.Content

open HermesClaude.Python
open HermesClaude.Python.Json (setItem)

universe u v

/-- `_MAX_ARGUMENT_STRING_CHARS`. -/
def maxArgumentStringChars : Nat := 2000

/-- `_MAX_ARGUMENT_KEYS`. -/
def maxArgumentKeys : Nat := 32

/-- `_MAX_ARGUMENT_DEPTH`. -/
def maxArgumentDepth : Nat := 4

/-- `_UNAVAILABLE`. -/
def unavailable : Json := .str (lit "[unavailable]")

/-- A graph of objects. -/
structure ObjectGraph (α : Type u) (ι : Type v) where
  node : α → Node α
  /-- `id(value)`. -/
  identity : α → ι

section Sanitiser

variable {α : Type u} {ι : Type v} [DecidableEq ι] (G : ObjectGraph α ι)

/-- What becomes of a scalar; anything else is none. -/
def safeScalar : Node α → Option Json
  | .none => some .null
  | .str s => some (.str (s.take maxArgumentStringChars))
  | .bool b => some (.bool b)
  | .int i => some (if i.natAbs ≤ maxUsageTokens then .int i else unavailable)
  | .float (.finite q) => some (.float q)
  | .float _ => some unavailable
  | _ => none

/-- The elements of a list, one after the other. -/
def safeItems (safe : Finset ι → α → Json × Finset ι) : Finset ι → List α → List Json × Finset ι
  | seen, [] => ([], seen)
  | seen, item :: rest =>
    let (value, seen) := safe seen item
    let (values, seen) := safeItems safe seen rest
    (value :: values, seen)

/-- The items of a mapping, of which those with another key than text are left out. -/
def safeEntries (safe : Finset ι → α → Json × Finset ι) :
    Finset ι → List (PyStr × Json) → List (α × α) → List (PyStr × Json) × Finset ι
  | seen, out, [] => (out, seen)
  | seen, out, (key, item) :: rest =>
    match G.node key with
    | .str name =>
      let (value, seen) := safe seen item
      safeEntries safe seen (setItem out (name.take maxIdentifierChars) value) rest
    | _ => safeEntries safe seen out rest

/-- `_safe_json_value` with so many levels of containers left below
`_MAX_ARGUMENT_DEPTH`, and the set of active containers afterwards. -/
def safeJsonValue : Nat → Finset ι → α → Json × Finset ι
  | 0, seen, value => ((safeScalar (G.node value)).getD unavailable, seen)
  | levels + 1, seen, value =>
    match safeScalar (G.node value) with
    | some scalar => (scalar, seen)
    | none =>
      let identity := G.identity value
      if identity ∈ seen then (unavailable, seen)
      else match G.node value with
        | .mapping _ true => (unavailable, (insert identity seen).erase identity)
        | .mapping items false =>
          let (out, active) := safeEntries G (safeJsonValue levels) (insert identity seen) []
            (items.take maxArgumentKeys)
          (.dict out, active.erase identity)
        | .list items | .tuple items =>
          let (out, active) := safeItems (safeJsonValue levels) (insert identity seen)
            (items.take maxArgumentItems)
          (.list out, active.erase identity)
        | _ => (unavailable, seen)

end Sanitiser

/-! ## Bounded values -/

/-- Plain JSON within the bounds of an argument, with so many levels of containers. -/
def Bounded : Nat → Json → Prop
  | _, .null | _, .bool _ | _, .float _ => True
  | _, .int i => i.natAbs ≤ maxUsageTokens
  | _, .str s => s.length ≤ maxArgumentStringChars
  | 0, .list _ | 0, .dict _ => False
  | levels + 1, .list items => items.length ≤ maxArgumentItems ∧ ∀ item ∈ items, Bounded levels item
  | levels + 1, .dict entries =>
    entries.length ≤ maxArgumentKeys ∧ (entries.map Prod.fst).Nodup ∧
      ∀ entry ∈ entries, entry.1.length ≤ maxIdentifierChars ∧ Bounded levels entry.2

theorem bounded_unavailable (levels : Nat) : Bounded levels unavailable := by
  unfold unavailable
  cases levels <;> exact (by decide : (lit "[unavailable]").length ≤ maxArgumentStringChars)

section Spec

variable {α : Type u} {ι : Type v} {G : ObjectGraph α ι}

theorem bounded_safeScalar {node : Node α} {scalar : Json} (h : safeScalar node = some scalar)
    (levels : Nat) : Bounded levels scalar := by
  cases node with
  | none => cases h; cases levels <;> trivial
  | bool b => cases h; cases levels <;> trivial
  | str s => cases h; cases levels <;> exact List.length_take_le _ _
  | int i =>
    cases h
    split
    · cases levels <;> assumption
    · exact bounded_unavailable levels
  | float f =>
    cases f with
    | finite q => cases h; cases levels <;> trivial
    | nan => cases h; exact bounded_unavailable levels
    | infinite negative => cases h; exact bounded_unavailable levels
  | list items => cases h
  | tuple items => cases h
  | mapping items raises => cases h
  | other => cases h

/-- A walk that keeps the set of active containers and builds bounded values. -/
structure Sanitises (safe : Finset ι → α → Json × Finset ι) (levels : Nat) : Prop where
  bounded : ∀ seen value, Bounded levels (safe seen value).1
  restores : ∀ seen value, (safe seen value).2 = seen

variable {safe : Finset ι → α → Json × Finset ι} {levels : Nat}

theorem Sanitises.items (h : Sanitises safe levels) (seen : Finset ι) (items : List α) :
    (safeItems safe seen items).1.length = items.length ∧
      (∀ value ∈ (safeItems safe seen items).1, Bounded levels value) ∧
      (safeItems safe seen items).2 = seen := by
  induction items with
  | nil => exact ⟨rfl, List.forall_mem_nil _, rfl⟩
  | cons item rest ih =>
    simp only [safeItems, h.restores, List.length_cons, List.forall_mem_cons]
    exact ⟨congrArg (· + 1) ih.1, ⟨h.bounded seen item, ih.2.1⟩, ih.2.2⟩

/-- The entries that a mapping has after some of its items. -/
structure Entries (levels count : Nat) (entries : List (PyStr × Json)) : Prop where
  length : entries.length ≤ count
  nodup : (entries.map Prod.fst).Nodup
  keys : ∀ entry ∈ entries, entry.1.length ≤ maxIdentifierChars
  values : ∀ entry ∈ entries, Bounded levels entry.2

theorem Entries.setItem {count : Nat} {entries : List (PyStr × Json)} {key : PyStr} {value : Json}
    (h : Entries levels count entries) (hkey : key.length ≤ maxIdentifierChars)
    (hvalue : Bounded levels value) : Entries levels (count + 1) (Json.setItem entries key value) where
  length := by
    have hlength := h.length
    unfold Json.setItem
    split
    · rw [List.length_map]
      omega
    · rw [List.length_append, List.length_singleton]
      omega
  nodup := Json.setItem_nodup h.nodup key value
  keys := by
    intro entry hentry
    have hmem : entry.1 ∈ (Json.setItem entries key value).map Prod.fst := List.mem_map_of_mem hentry
    have hold : ∀ name ∈ entries.map Prod.fst, name.length ≤ maxIdentifierChars :=
      List.forall_mem_map.mpr h.keys
    rw [Json.setItem_keys] at hmem
    split at hmem
    · exact hold _ hmem
    · rw [List.mem_append, List.mem_singleton] at hmem
      rcases hmem with hmem | hmem
      · exact hold _ hmem
      · rw [hmem]
        exact hkey
  values := Json.setItem_values h.values key hvalue

theorem Entries.mono {count count' : Nat} {entries : List (PyStr × Json)}
    (h : Entries levels count entries) (hle : count ≤ count') : Entries levels count' entries :=
  { h with length := h.length.trans hle }

theorem Sanitises.entries (h : Sanitises safe levels) (seen : Finset ι) {count : Nat}
    {out : List (PyStr × Json)} (hout : Entries levels count out) (items : List (α × α)) :
    Entries levels (count + items.length) (safeEntries G safe seen out items).1 ∧
      (safeEntries G safe seen out items).2 = seen := by
  induction items generalizing count out with
  | nil => exact ⟨hout, rfl⟩
  | cons item rest ih =>
    have hcount : count + (item :: rest).length = (count + 1) + rest.length := by
      rw [List.length_cons]
      omega
    rw [hcount, safeEntries]
    split
    · simp only [h.restores]
      exact ih (hout.setItem (List.length_take_le _ _) (h.bounded seen item.2))
    · exact ih (hout.mono (Nat.le_succ _))

variable [DecidableEq ι]

/-- One container more. -/
theorem Sanitises.container (h : Sanitises (safeJsonValue G levels) levels) (seen : Finset ι)
    (value : α) : Bounded (levels + 1) (safeJsonValue G (levels + 1) seen value).1 ∧
      (safeJsonValue G (levels + 1) seen value).2 = seen := by
  have hunavailable := bounded_unavailable (levels + 1)
  rw [safeJsonValue]
  cases hscalar : safeScalar (G.node value) with
  | some scalar => exact ⟨bounded_safeScalar hscalar _, rfl⟩
  | none =>
    by_cases hseen : G.identity value ∈ seen
    · rw [if_pos hseen]
      exact ⟨hunavailable, rfl⟩
    · have hrestore := Finset.erase_insert hseen
      have hlist := fun items : List α =>
        h.items (insert (G.identity value) seen) (items.take maxArgumentItems)
      simp only [if_neg hseen]
      split
      · exact ⟨hunavailable, hrestore⟩
      · next items _ =>
        have hnone : Entries levels 0 [] :=
          ⟨Nat.le_refl _, List.nodup_nil, List.forall_mem_nil _, List.forall_mem_nil _⟩
        have hentries := h.entries (G := G) (insert (G.identity value) seen) hnone
          (items.take maxArgumentKeys)
        have hlength := hentries.1.length
        have htake := List.length_take_le maxArgumentKeys items
        dsimp only
        rw [hentries.2]
        refine ⟨⟨by omega, hentries.1.nodup, ?_⟩, hrestore⟩
        intro entry hentry
        exact ⟨hentries.1.keys entry hentry, hentries.1.values entry hentry⟩
      · next items _ =>
        dsimp only
        rw [(hlist items).2.2]
        exact ⟨⟨(hlist items).1.trans_le (List.length_take_le _ _), (hlist items).2.1⟩, hrestore⟩
      · next items _ =>
        dsimp only
        rw [(hlist items).2.2]
        exact ⟨⟨(hlist items).1.trans_le (List.length_take_le _ _), (hlist items).2.1⟩, hrestore⟩
      · exact ⟨hunavailable, rfl⟩

/-- **The walk.**  By induction on the levels that are left. -/
theorem sanitises_safeJsonValue (levels : Nat) : Sanitises (safeJsonValue G levels) levels := by
  induction levels with
  | zero =>
    constructor
    · intro seen value
      rw [safeJsonValue]
      cases hscalar : safeScalar (G.node value) with
      | none => exact bounded_unavailable 0
      | some scalar => exact bounded_safeScalar hscalar 0
    · intro seen value
      rfl
  | succ levels ih =>
    constructor
    · intro seen value
      exact (ih.container seen value).1
    · intro seen value
      exact (ih.container seen value).2

end Spec

/-! ## Values that are bounded already -/

/-- A fresh tree of plain JSON: every object is at a place of its own, the path to it. -/
def placeItems (path : List Nat) (items : List Json) : List (List Nat × Json) :=
  items.zipIdx.map fun item => (item.2 :: path, item.1)

/-- The keys and values of a dictionary at their places. -/
def placeEntries (path : List Nat) (entries : List (PyStr × Json)) :
    List ((List Nat × Json) × (List Nat × Json)) :=
  entries.zipIdx.map fun entry =>
    (((2 * entry.2) :: path, .str entry.1.1), ((2 * entry.2 + 1) :: path, entry.1.2))

/-- What an object of the tree shows. -/
def placedNode : List Nat × Json → Node (List Nat × Json)
  | (_, .null) => .none
  | (_, .bool b) => .bool b
  | (_, .int i) => .int i
  | (_, .float q) => .float (.finite q)
  | (_, .str s) => .str s
  | (path, .list items) => .list (placeItems path items)
  | (path, .dict entries) => .mapping (placeEntries path entries) false

/-- The graph of a tree. -/
def placed : ObjectGraph (List Nat × Json) (List Nat) where
  node := placedNode
  identity := Prod.fst

@[simp]
theorem placed_identity (path : List Nat) (value : Json) : placed.identity (path, value) = path := rfl

/-- A walk that leaves bounded values alone, wherever they are. -/
def Fixes (safe : Finset (List Nat) → List Nat × Json → Json × Finset (List Nat)) (levels : Nat) :
    Prop :=
  ∀ (seen : Finset (List Nat)) (path : List Nat) (value : Json),
    (∀ active ∈ seen, active.length < path.length) → Bounded levels value →
      safe seen (path, value) = (value, seen)

section Fixed

variable {safe : Finset (List Nat) → List Nat × Json → Json × Finset (List Nat)} {levels : Nat}
  {seen : Finset (List Nat)} {path : List Nat}

theorem Fixes.items (h : Fixes safe levels) (hseen : ∀ active ∈ seen, active.length < path.length + 1)
    {items : List Json} (hitems : ∀ item ∈ items, Bounded levels item) :
    safeItems safe seen (placeItems path items) = (items, seen) := by
  unfold placeItems
  generalize 0 = start
  induction items generalizing start with
  | nil => rfl
  | cons item rest ih =>
    rw [List.forall_mem_cons] at hitems
    rw [List.zipIdx_cons, List.map_cons, safeItems, h seen (start :: path) item hseen hitems.1]
    simp only [ih hitems.2]

theorem Fixes.entries (h : Fixes safe levels)
    (hseen : ∀ active ∈ seen, active.length < path.length + 1) {out entries : List (PyStr × Json)}
    (hunique : ((out ++ entries).map Prod.fst).Nodup)
    (hentries : ∀ entry ∈ entries, entry.1.length ≤ maxIdentifierChars ∧ Bounded levels entry.2) :
    safeEntries placed safe seen out (placeEntries path entries) = (out ++ entries, seen) := by
  unfold placeEntries
  generalize 0 = start
  induction entries generalizing out start with
  | nil =>
    rw [List.append_nil]
    rfl
  | cons entry rest ih =>
    rw [List.forall_mem_cons] at hentries
    have hnew : entry.1 ∉ out.map Prod.fst := by
      intro hmem
      rw [List.map_append, List.map_cons] at hunique
      exact (List.nodup_append.mp hunique).2.2 _ hmem _ List.mem_cons_self rfl
    have hkey : entry.1.take maxIdentifierChars = entry.1 := List.take_of_length_le hentries.1.1
    have hvalue := h seen ((2 * start + 1) :: path) entry.2 hseen hentries.1.2
    have hrest : ((out ++ [(entry.1, entry.2)] ++ rest).map Prod.fst).Nodup := by
      rw [List.append_assoc]
      exact hunique
    rw [List.zipIdx_cons, List.map_cons, safeEntries]
    simp only [placed, placedNode, hvalue, hkey]
    rw [Json.setItem_of_notMem hnew]
    exact (ih hrest hentries.2 (start + 1)).trans (by simp)

end Fixed

/-- A scalar that is bounded already. -/
theorem safeJsonValue_scalar {levels : Nat} {seen : Finset (List Nat)} {path : List Nat} {value : Json}
    (h : safeScalar (placedNode (path, value)) = some value) :
    safeJsonValue placed levels seen (path, value) = (value, seen) := by
  have hnode : safeScalar (placed.node (path, value)) = some value := h
  cases levels with
  | zero => rw [safeJsonValue, hnode, Option.getD_some]
  | succ levels => simp only [safeJsonValue, hnode]

/-- Inside a container the places are longer by one step. -/
theorem active_lt {seen : Finset (List Nat)} {path : List Nat}
    (h : ∀ active ∈ seen, active.length < path.length) :
    ∀ active ∈ insert path seen, active.length < path.length + 1 := by
  intro active hactive
  rw [Finset.mem_insert] at hactive
  rcases hactive with rfl | hactive
  · exact Nat.lt_succ_self _
  · exact Nat.lt_succ_of_lt (h active hactive)

/-- Bounded values are left alone. -/
theorem fixes_safeJsonValue (levels : Nat) : Fixes (safeJsonValue placed levels) levels := by
  induction levels with
  | zero =>
    intro seen path value _ hbounded
    apply safeJsonValue_scalar
    cases value with
    | null | bool | float => rfl
    | int i => exact congrArg some (if_pos hbounded)
    | str s => exact congrArg (fun text => some (Json.str text)) (List.take_of_length_le hbounded)
    | list items => exact hbounded.elim
    | dict entries => exact hbounded.elim
  | succ levels ih =>
    intro seen path value hseen hbounded
    have hfresh : path ∉ seen := by
      intro hmem
      exact Nat.lt_irrefl _ (hseen path hmem)
    have hrestore := Finset.erase_insert hfresh
    cases value with
    | null | bool | float => exact safeJsonValue_scalar rfl
    | int i => exact safeJsonValue_scalar (congrArg some (if_pos hbounded))
    | str s =>
      apply safeJsonValue_scalar
      exact congrArg (fun text => some (Json.str text)) (List.take_of_length_le hbounded)
    | list items =>
      have htake : (placeItems path items).take maxArgumentItems = placeItems path items := by
        apply List.take_of_length_le
        rw [placeItems, List.length_map, List.length_zipIdx]
        exact hbounded.1
      have hnode : placed.node (path, .list items) = .list (placeItems path items) := rfl
      have hwalk := ih.items (active_lt hseen) hbounded.2
      simp only [safeJsonValue, hnode, safeScalar, placed_identity, if_neg hfresh, htake, hwalk,
        hrestore]
    | dict entries =>
      have htake : (placeEntries path entries).take maxArgumentKeys = placeEntries path entries := by
        apply List.take_of_length_le
        rw [placeEntries, List.length_map, List.length_zipIdx]
        exact hbounded.1
      have hnode : placed.node (path, .dict entries) = .mapping (placeEntries path entries) false :=
        rfl
      have hwalk : safeEntries placed _ _ [] (placeEntries path entries) = ([] ++ entries, _) :=
        ih.entries (active_lt hseen) hbounded.2.1 hbounded.2.2
      rw [List.nil_append] at hwalk
      simp only [safeJsonValue, hnode, safeScalar, placed_identity, if_neg hfresh, htake, hwalk,
        hrestore]

/-! ## The sanitiser -/

/-- **Arguments are bounded, and sanitising is idempotent.**  For every graph of objects, what the
sanitiser returns is within the bounds, sanitising it again returns the same, and no
call leaves a container active. -/
theorem safe_json_value_bounded {α : Type u} {ι : Type v} [DecidableEq ι] (G : ObjectGraph α ι)
    (value : α) :
    Bounded maxArgumentDepth (safeJsonValue G maxArgumentDepth ∅ value).1 ∧
      (safeJsonValue placed maxArgumentDepth ∅
        ([], (safeJsonValue G maxArgumentDepth ∅ value).1)).1 =
        (safeJsonValue G maxArgumentDepth ∅ value).1 ∧
      ∀ (levels : Nat) (seen : Finset ι) (part : α), (safeJsonValue G levels seen part).2 = seen := by
  have hbounded := (sanitises_safeJsonValue (G := G) maxArgumentDepth).bounded ∅ value
  refine ⟨hbounded, ?_, ?_⟩
  · have hfixed := fixes_safeJsonValue maxArgumentDepth ∅ [] _ (by simp) hbounded
    exact congrArg Prod.fst hfixed
  · intro levels seen part
    exact (sanitises_safeJsonValue levels).restores seen part

end HermesClaude.Content
