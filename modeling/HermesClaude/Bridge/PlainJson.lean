/-
# The bounded JSON copier

Tool arguments, tool results and tool schemas come from outside as object graphs.
The bridge never keeps such a graph: it copies it into plain JSON first, within
bounds on depth, on the number of values and on the total size of the text.

The depth bound is what the recursion is on, so a cyclic graph is handled like any
other one.
-/

import HermesClaude.Python.Json

namespace HermesClaude.Bridge

open HermesClaude.Python

universe u

/-- `_MAX_INPUT_UTF8_BYTES`. -/
def maxInputUtf8Bytes : Nat := 64 * 1024

/-- `_MAX_RESULT_UTF8_BYTES`. -/
def maxResultUtf8Bytes : Nat := 64 * 1024

/-- `_MAX_JSON_DEPTH`. -/
def maxJsonDepth : Nat := 64

/-- `_MAX_JSON_NODES`. -/
def maxJsonNodes : Nat := 10000

/-- What the copier has counted so far: `nodes` and `input_bytes`. -/
structure Budget where
  nodes : Nat := 0
  inputBytes : Nat := 0

/-- One more value. -/
def Budget.node (budget : Budget) : Option Budget :=
  if budget.nodes + 1 > maxJsonNodes then none else some { budget with nodes := budget.nodes + 1 }

/-- The bytes of one more text. -/
def Budget.text (budget : Budget) (maxBytes : Nat) (s : PyStr) : Option Budget :=
  match utf8Size s with
  | none => none
  | some size =>
    if budget.inputBytes + size > maxBytes then none
    else some { budget with inputBytes := budget.inputBytes + size }

/-- `value.bit_length()`. -/
def bitLength (i : Int) : Nat := if i = 0 then 0 else i.natAbs.log2 + 1

/-- The bound on integers. -/
def intWithinBound (i : Int) : Bool := bitLength i ≤ maxResultUtf8Bytes * 8

section Copy

variable {α : Type u}

/-- The loop over the elements of a list. -/
def copyItems (copy : Budget → α → Option (Json × Budget)) : Budget → List α → Option (List Json × Budget)
  | budget, [] => some ([], budget)
  | budget, child :: rest => do
    let (value, budget) ← copy budget child
    let (values, budget) ← copyItems copy budget rest
    return (value :: values, budget)

/-- The loop over the items of a mapping, with the dictionary built so far. -/
def copyEntries (V : ObjectView α) (copy : Budget → α → Option (Json × Budget)) :
    Budget → List (PyStr × Json) → List (α × α) → Option (List (PyStr × Json) × Budget)
  | budget, done, [] => some (done, budget)
  | budget, done, (key, child) :: rest =>
    match V.node key with
    | .str name => do
      let (_, budget) ← copy budget key
      let (value, budget) ← copy budget child
      copyEntries V copy budget (Json.setItem done name value) rest
    | _ => none

/-- The inner `copy` of `_copy_plain_json`, or `none` for `_INVALID`.  The first argument is how many more
levels the depth bound leaves, and `active` is the path of containers being copied. -/
def copyValue (V : ObjectView α) (maxBytes : Nat) : Nat → List α → Budget → α → Option (Json × Budget)
  | 0, _, _, _ => none
  | levels + 1, active, budget, current => do
    let budget ← budget.node
    match V.node current with
    | .str s => do
      let budget ← budget.text maxBytes s
      return (.str s, budget)
    | .none => return (.null, budget)
    | .bool b => return (.bool b, budget)
    | .int i => if intWithinBound i then return (.int i, budget) else none
    | .float (.finite q) => return (.float q, budget)
    | .float _ => none
    | .list items | .tuple items =>
      if active.any (V.same current) then none
      else do
        let (values, budget) ← copyItems (copyValue V maxBytes levels (current :: active)) budget items
        return (.list values, budget)
    | .mapping items raises =>
      if active.any (V.same current) then none
      else do
        let (entries, budget) ←
          copyEntries V (copyValue V maxBytes levels (current :: active)) budget [] items
        if raises then none else return (.dict entries, budget)
    | .other => none

/-- `_copy_plain_json`, or `none` for `_INVALID`. -/
def copyPlainJson (V : ObjectView α) (value : α) (maxBytes : Nat := maxInputUtf8Bytes) :
    Option Json :=
  (copyValue V maxBytes (maxJsonDepth + 1) [] {} value).map Prod.fst

end Copy

/-! ## What a copy shows -/

section Shows

variable {α : Type u} (V : ObjectView α)

mutual

/-- An object has exactly the content of a JSON value. -/
inductive Shows : α → Json → Prop
  | null {a : α} (h : V.node a = .none) : Shows a .null
  | bool {a : α} {b : Bool} (h : V.node a = .bool b) : Shows a (.bool b)
  | int {a : α} {i : Int} (h : V.node a = .int i) : Shows a (.int i)
  | float {a : α} {q : Rat} (h : V.node a = .float (.finite q)) : Shows a (.float q)
  | str {a : α} {s : PyStr} (h : V.node a = .str s) : Shows a (.str s)
  | list {a : α} {items : List α} {values : List Json}
      (h : V.node a = .list items ∨ V.node a = .tuple items) (content : ShowsItems items values) :
      Shows a (.list values)
  | dict {a : α} {items : List (α × α)} {entries : List (PyStr × Json)}
      (h : V.node a = .mapping items false) (content : ShowsEntries [] items entries) :
      Shows a (.dict entries)

/-- The elements of a list, one by one. -/
inductive ShowsItems : List α → List Json → Prop
  | nil : ShowsItems [] []
  | cons {a : α} {rest : List α} {value : Json} {values : List Json} (first : Shows a value)
      (others : ShowsItems rest values) : ShowsItems (a :: rest) (value :: values)

/-- The items of a mapping, assigned one after the other to a dictionary. -/
inductive ShowsEntries : List (PyStr × Json) → List (α × α) → List (PyStr × Json) → Prop
  | nil {done : List (PyStr × Json)} : ShowsEntries done [] done
  | cons {done entries : List (PyStr × Json)} {key child : α} {name : PyStr} {value : Json}
      {rest : List (α × α)} (named : V.node key = .str name) (shows : Shows child value)
      (others : ShowsEntries (Json.setItem done name value) rest entries) :
      ShowsEntries done ((key, child) :: rest) entries

end

variable {V}

theorem copyItems_shows {copy : Budget → α → Option (Json × Budget)}
    (hcopy : ∀ {budget value json after}, copy budget value = some (json, after) →
      Shows V value json)
    {budget after : Budget} {items : List α} {values : List Json}
    (h : copyItems copy budget items = some (values, after)) : ShowsItems V items values := by
  induction items generalizing budget after values with
  | nil =>
    simp only [copyItems, Option.some.injEq, Prod.mk.injEq] at h
    rw [← h.1]
    exact .nil
  | cons child rest ih =>
    simp only [copyItems, Option.bind_eq_bind, Option.bind_eq_some_iff] at h
    obtain ⟨⟨value, middle⟩, hfirst, ⟨others, last⟩, hrest, heq⟩ := h
    simp only [Option.pure_def, Option.some.injEq, Prod.mk.injEq] at heq
    rw [← heq.1]
    exact .cons (hcopy hfirst) (ih hrest)

theorem copyEntries_shows {copy : Budget → α → Option (Json × Budget)}
    (hcopy : ∀ {budget value json after}, copy budget value = some (json, after) →
      Shows V value json)
    {budget after : Budget} {done entries : List (PyStr × Json)} {items : List (α × α)}
    (h : copyEntries V copy budget done items = some (entries, after)) :
    ShowsEntries V done items entries := by
  induction items generalizing budget after done with
  | nil =>
    simp only [copyEntries, Option.some.injEq, Prod.mk.injEq] at h
    rw [← h.1]
    exact .nil
  | cons item rest ih =>
    obtain ⟨key, child⟩ := item
    simp only [copyEntries] at h
    split at h
    next name hname =>
      simp only [Option.bind_eq_bind, Option.bind_eq_some_iff] at h
      obtain ⟨⟨_, _⟩, _, ⟨value, _⟩, hchild, hrest⟩ := h
      exact .cons hname (hcopy hchild) (ih hrest)
    next => exact absurd h (by simp)

theorem copyValue_shows {maxBytes levels : Nat} {active : List α} {budget after : Budget}
    {value : α} {json : Json}
    (h : copyValue V maxBytes levels active budget value = some (json, after)) :
    Shows V value json := by
  induction levels generalizing active budget value json after with
  | zero => exact absurd h (by simp [copyValue])
  | succ levels ih =>
    rw [copyValue, Option.bind_eq_bind, Option.bind_eq_some_iff] at h
    obtain ⟨counted, _, h⟩ := h
    cases hnode : V.node value with
    | none =>
      simp only [hnode, Option.pure_def, Option.some.injEq, Prod.mk.injEq] at h
      exact h.1 ▸ .null hnode
    | bool b =>
      simp only [hnode, Option.pure_def, Option.some.injEq, Prod.mk.injEq] at h
      exact h.1 ▸ .bool hnode
    | int i =>
      simp only [hnode, Option.pure_def, Option.ite_none_right_eq_some, Option.some.injEq,
        Prod.mk.injEq] at h
      exact h.2.1 ▸ .int hnode
    | float f =>
      cases f with
      | finite q =>
        simp only [hnode, Option.pure_def, Option.some.injEq, Prod.mk.injEq] at h
        exact h.1 ▸ .float hnode
      | nan | infinite => simp [hnode] at h
    | str s =>
      simp only [hnode, Option.bind_eq_some_iff, Option.pure_def, Option.some.injEq,
        Prod.mk.injEq] at h
      obtain ⟨_, _, rfl, _⟩ := h
      exact .str hnode
    | list items | tuple items =>
      simp only [hnode, Option.bind_eq_bind, Option.ite_none_left_eq_some,
        Option.bind_eq_some_iff, Option.pure_def, Option.some.injEq, Prod.mk.injEq] at h
      obtain ⟨_, ⟨values, _⟩, hitems, rfl, _⟩ := h
      exact .list (by simp [hnode]) (copyItems_shows ih hitems)
    | mapping items raises =>
      simp only [hnode, Option.bind_eq_bind, Option.ite_none_left_eq_some,
        Option.bind_eq_some_iff, Option.pure_def, Option.some.injEq, Prod.mk.injEq] at h
      obtain ⟨_, ⟨entries, _⟩, hentries, hraises, rfl, _⟩ := h
      rw [Bool.not_eq_true] at hraises
      exact .dict (hraises ▸ hnode) (copyEntries_shows ih hentries)
    | other => simp [hnode] at h

/-- **The copier is sound**: a copy has exactly the content of the graph. -/
theorem copyPlainJson_shows {value : α} {json : Json} {maxBytes : Nat}
    (h : copyPlainJson V value maxBytes = some json) : Shows V value json := by
  rw [copyPlainJson, Option.map_eq_some_iff] at h
  obtain ⟨⟨_, _⟩, hcopy, rfl⟩ := h
  exact copyValue_shows hcopy

end Shows

end HermesClaude.Bridge
