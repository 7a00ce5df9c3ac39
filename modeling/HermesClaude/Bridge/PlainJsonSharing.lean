/-
# What a copy shares with the graph

`copy` returns a scalar as the object that it is and builds a new container for every
container.  Here the objects are kept apart that the copier returns from those that it builds.
-/

import HermesClaude.Bridge.PlainJsonCopies

namespace HermesClaude.Bridge

open HermesClaude.Python

universe u

/-- A value that the copier returns: an object of the graph, or a list or a dictionary that it
has built.  Of the keys only the text is kept. -/
inductive Built (α : Type u)
  | given (a : α)
  | list (items : List (Built α))
  | dict (entries : List (PyStr × Built α))

namespace Built

section

variable {α : Type u}

/-- `copied_dict[copied_key] = child_copy`. -/
def setItem (entries : List (PyStr × Built α)) (key : PyStr) (value : Built α) :
    List (PyStr × Built α) :=
  if entries.any fun item => item.1 == key then
    entries.map fun item => if item.1 = key then (key, value) else item
  else entries ++ [(key, value)]

variable (V : ObjectView α)

/-- The content of a scalar. -/
def scalar (a : α) : Json :=
  match V.node a with
  | .bool b => .bool b
  | .int i => .int i
  | .float (.finite q) => .float q
  | .str s => .str s
  | _ => .null

mutual

/-- The content of a value. -/
def toJson : Built α → Json
  | .given a => scalar V a
  | .list items => .list (toJsonList items)
  | .dict entries => .dict (toJsonEntries entries)

def toJsonList : List (Built α) → List Json
  | [] => []
  | item :: rest => toJson item :: toJsonList rest

def toJsonEntries : List (PyStr × Built α) → List (PyStr × Json)
  | [] => []
  | (key, item) :: rest => (key, toJson item) :: toJsonEntries rest

end

mutual

/-- Whether every object of the graph in a value is a scalar. -/
def OfScalars : Built α → Prop
  | .given a => isContainer V a = false
  | .list items => OfScalarsList items
  | .dict entries => OfScalarsEntries entries

def OfScalarsList : List (Built α) → Prop
  | [] => True
  | item :: rest => OfScalars item ∧ OfScalarsList rest

def OfScalarsEntries : List (PyStr × Built α) → Prop
  | [] => True
  | (_, item) :: rest => OfScalars item ∧ OfScalarsEntries rest

end

theorem toJsonEntries_eq (entries : List (PyStr × Built α)) :
    toJsonEntries V entries = entries.map fun entry => (entry.1, toJson V entry.2) := by
  induction entries with
  | nil => rfl
  | cons entry rest ih => rw [toJsonEntries, ih, List.map_cons]

theorem ofScalarsEntries_iff (entries : List (PyStr × Built α)) :
    OfScalarsEntries V entries ↔ ∀ entry ∈ entries, OfScalars V entry.2 := by
  induction entries with
  | nil => exact iff_of_true trivial (List.forall_mem_nil _)
  | cons entry rest ih => rw [OfScalarsEntries, ih, List.forall_mem_cons]

theorem toJsonEntries_setItem (entries : List (PyStr × Built α)) (key : PyStr) (value : Built α) :
    toJsonEntries V (setItem entries key value) =
      Json.setItem (toJsonEntries V entries) key (toJson V value) := by
  have hkey : Json.hasKey (toJsonEntries V entries) key = entries.any fun item => item.1 == key := by
    rw [toJsonEntries_eq, Json.hasKey, List.any_map]
    rfl
  rw [setItem, Json.setItem, hkey]
  split
  · rw [toJsonEntries_eq, toJsonEntries_eq, List.map_map, List.map_map]
    apply List.map_congr_left
    intro entry _
    dsimp only [Function.comp]
    split <;> rfl
  · rw [toJsonEntries_eq, toJsonEntries_eq, List.map_append]
    rfl

theorem OfScalarsEntries.setItem {entries : List (PyStr × Built α)} {value : Built α}
    (h : OfScalarsEntries V entries) (key : PyStr) (hvalue : OfScalars V value) :
    OfScalarsEntries V (setItem entries key value) := by
  rw [ofScalarsEntries_iff] at h ⊢
  intro entry hentry
  rw [Built.setItem] at hentry
  split at hentry
  · rcases List.mem_map.mp hentry with ⟨source, hsource, rfl⟩
    split
    · exact hvalue
    · exact h source hsource
  · rcases List.mem_append.mp hentry with hentry | hentry
    · exact h entry hentry
    · rw [List.mem_singleton.mp hentry]
      exact hvalue

end

end Built

/-! ## The copier, with its objects -/

section Copy

variable {α : Type u}

/-- The loop over the elements of a list. -/
def copyObjectItems (copy : Budget → α → Option (Built α × Budget)) :
    Budget → List α → Option (List (Built α) × Budget)
  | budget, [] => some ([], budget)
  | budget, child :: rest => do
    let (value, budget) ← copy budget child
    let (values, budget) ← copyObjectItems copy budget rest
    return (value :: values, budget)

/-- The loop over the items of a mapping, with the dictionary built so far. -/
def copyObjectEntries (V : ObjectView α) (copy : Budget → α → Option (Built α × Budget)) :
    Budget → List (PyStr × Built α) → List (α × α) → Option (List (PyStr × Built α) × Budget)
  | budget, done, [] => some (done, budget)
  | budget, done, (key, child) :: rest =>
    match V.node key with
    | .str name => do
      let (_, budget) ← copy budget key
      let (value, budget) ← copy budget child
      copyObjectEntries V copy budget (Built.setItem done name value) rest
    | _ => none

/-- The inner `copy` of `_copy_plain_json`, with the object that it returns. -/
def copyObject (V : ObjectView α) (maxBytes : Nat) :
    Nat → List α → Budget → α → Option (Built α × Budget)
  | 0, _, _, _ => none
  | levels + 1, active, budget, current =>
    budget.node.bind fun budget =>
      match V.node current with
      | .str s => (budget.text maxBytes s).bind fun budget => some (.given current, budget)
      | .none | .bool _ | .float (.finite _) => some (.given current, budget)
      | .int i => if intWithinBound i then some (.given current, budget) else none
      | .float _ => none
      | .list items | .tuple items =>
        if active.any (V.same current) then none
        else
          (copyObjectItems (copyObject V maxBytes levels (current :: active)) budget items).bind
            fun (values, budget) => some (.list values, budget)
      | .mapping items raises =>
        if active.any (V.same current) then none
        else
          (copyObjectEntries V (copyObject V maxBytes levels (current :: active)) budget [] items).bind
            fun (entries, budget) => if raises then none else some (.dict entries, budget)
      | .other => none

/-- `_copy_plain_json`, with the object that it returns. -/
def copyPlainObject (V : ObjectView α) (value : α) (maxBytes : Nat := maxInputUtf8Bytes) :
    Option (Built α) :=
  (copyObject V maxBytes (maxJsonDepth + 1) [] {} value).map Prod.fst

variable {V : ObjectView α} {maxBytes : Nat}

/-- The content of what was returned, and what was counted. -/
def shown (V : ObjectView α) (result : Built α × Budget) : Json × Budget := (result.1.toJson V, result.2)

theorem copyItems_shown {copy : Budget → α → Option (Json × Budget)}
    {copyObject : Budget → α → Option (Built α × Budget)}
    (hcopy : ∀ budget a, copy budget a = (copyObject budget a).map (shown V)) (budget : Budget)
    (items : List α) : copyItems copy budget items =
      (copyObjectItems copyObject budget items).map fun r => (Built.toJsonList V r.1, r.2) := by
  induction items generalizing budget with
  | nil => rfl
  | cons child rest ih =>
    rw [copyItems, copyObjectItems, hcopy]
    cases hfirst : copyObject budget child with
    | none => rfl
    | some first =>
      simp only [Option.map_some, shown, Option.bind_eq_bind, Option.bind_some, ih]
      cases copyObjectItems copyObject first.2 rest with
      | none => rfl
      | some others => rfl

theorem copyEntries_shown {copy : Budget → α → Option (Json × Budget)}
    {copyObject : Budget → α → Option (Built α × Budget)}
    (hcopy : ∀ budget a, copy budget a = (copyObject budget a).map (shown V)) (budget : Budget)
    (done : List (PyStr × Built α)) (items : List (α × α)) :
    copyEntries V copy budget (Built.toJsonEntries V done) items =
      (copyObjectEntries V copyObject budget done items).map fun r =>
        (Built.toJsonEntries V r.1, r.2) := by
  induction items generalizing budget done with
  | nil => rfl
  | cons item rest ih =>
    rcases item with ⟨key, child⟩
    rw [copyEntries, copyObjectEntries]
    cases hname : V.node key with
    | str name =>
      dsimp only
      rw [hcopy]
      cases hkey : copyObject budget key with
      | none => rfl
      | some copied =>
        simp only [Option.map_some, shown, Option.bind_eq_bind, Option.bind_some, hcopy]
        cases hchild : copyObject copied.2 child with
        | none => rfl
        | some value =>
          simp only [Option.map_some, shown, Option.bind_some, ← Built.toJsonEntries_setItem]
          exact ih _ _
    | _ => rfl

/-- The copier of content is the copier of objects, seen from outside. -/
theorem copyValue_shown (levels : Nat) (active : List α) (budget : Budget) (a : α) :
    copyValue V maxBytes levels active budget a =
      (copyObject V maxBytes levels active budget a).map (shown V) := by
  induction levels generalizing active budget a with
  | zero => rw [copyValue, copyObject, Option.map_none]
  | succ levels ih =>
    rw [copyValue, copyObject]
    cases hcounted : budget.node with
    | none => rfl
    | some counted =>
      simp only [Option.bind_eq_bind, Option.bind_some]
      cases hnode : V.node a with
      | none | bool b => simp [shown, Built.toJson, Built.scalar, hnode]
      | int i =>
        by_cases hbound : intWithinBound i = true
        · simp [shown, Built.toJson, Built.scalar, hnode, hbound]
        · simp [hbound]
      | float f =>
        cases f with
        | finite q => simp [shown, Built.toJson, Built.scalar, hnode]
        | nan | infinite => rfl
      | str s =>
        dsimp only
        cases counted.text maxBytes s with
        | none => rfl
        | some budget => simp [shown, Built.toJson, Built.scalar, hnode]
      | list items | tuple items =>
        by_cases hactive : active.any (V.same a) = true
        · simp [hactive]
        · simp only [hactive, copyItems_shown (ih (a :: active))]
          cases copyObjectItems (copyObject V maxBytes levels (a :: active)) counted items with
          | none => rfl
          | some result => rfl
      | mapping items raises =>
        by_cases hactive : active.any (V.same a) = true
        · simp [hactive]
        · simp only [hactive]
          have hentries := copyEntries_shown (ih (a :: active)) counted [] items
          rw [Built.toJsonEntries] at hentries
          simp only [hentries]
          cases copyObjectEntries V (copyObject V maxBytes levels (a :: active)) counted [] items with
          | none => rfl
          | some result => cases raises <;> rfl
      | other => rfl

/-! ## Scalars only -/

theorem copyObjectItems_ofScalars {copy : Budget → α → Option (Built α × Budget)}
    (hcopy : ∀ {budget a built after}, copy budget a = some (built, after) → built.OfScalars V)
    {budget after : Budget} {items : List α} {values : List (Built α)}
    (h : copyObjectItems copy budget items = some (values, after)) : Built.OfScalarsList V values := by
  induction items generalizing budget after values with
  | nil =>
    cases h
    trivial
  | cons child rest ih =>
    rw [copyObjectItems, Option.bind_eq_bind, Option.bind_eq_some_iff] at h
    rcases h with ⟨⟨value, middle⟩, hfirst, h⟩
    rcases Option.bind_eq_some_iff.mp h with ⟨⟨others, last⟩, hrest, h⟩
    cases h
    exact ⟨hcopy hfirst, ih hrest⟩

theorem copyObjectEntries_ofScalars {copy : Budget → α → Option (Built α × Budget)}
    (hcopy : ∀ {budget a built after}, copy budget a = some (built, after) → built.OfScalars V)
    {budget after : Budget} {done entries : List (PyStr × Built α)} {items : List (α × α)}
    (hdone : Built.OfScalarsEntries V done)
    (h : copyObjectEntries V copy budget done items = some (entries, after)) :
    Built.OfScalarsEntries V entries := by
  induction items generalizing budget after done with
  | nil =>
    cases h
    exact hdone
  | cons item rest ih =>
    rcases item with ⟨key, child⟩
    rw [copyObjectEntries] at h
    split at h
    · next name _ =>
      rw [Option.bind_eq_bind, Option.bind_eq_some_iff] at h
      rcases h with ⟨⟨_, first⟩, -, h⟩
      rcases Option.bind_eq_some_iff.mp h with ⟨⟨value, second⟩, hchild, h⟩
      exact ih (hdone.setItem V name (hcopy hchild)) h
    · cases h

/-- All that a copy shares with the graph are scalars. -/
theorem copyObject_ofScalars {levels : Nat} {active : List α} {budget after : Budget} {a : α}
    {built : Built α} (h : copyObject V maxBytes levels active budget a = some (built, after)) :
    built.OfScalars V := by
  induction levels generalizing active budget a built after with
  | zero =>
    rw [copyObject] at h
    cases h
  | succ levels ih =>
    rw [copyObject, Option.bind_eq_some_iff] at h
    rcases h with ⟨counted, -, h⟩
    have hscalar : ∀ {b}, isContainer V a = false → some (Built.given a, b) = some (built, after) →
        built.OfScalars V := by
      intro b hleaf heq
      cases heq
      exact hleaf
    cases hnode : V.node a with
    | none | bool b =>
      rw [hnode] at h
      exact hscalar (by rw [isContainer, hnode]) h
    | int i =>
      rw [hnode] at h
      exact hscalar (by rw [isContainer, hnode]) (Option.ite_none_right_eq_some.mp h).2
    | float f =>
      rw [hnode] at h
      cases f with
      | finite q => exact hscalar (by rw [isContainer, hnode]) h
      | nan | infinite => cases h
    | str s =>
      rw [hnode] at h
      rcases Option.bind_eq_some_iff.mp h with ⟨_, -, h⟩
      exact hscalar (by rw [isContainer, hnode]) h
    | list items | tuple items =>
      rw [hnode] at h
      rcases Option.bind_eq_some_iff.mp (Option.ite_none_left_eq_some.mp h).2 with ⟨_, hitems, h⟩
      cases h
      exact copyObjectItems_ofScalars ih hitems
    | mapping items raises =>
      rw [hnode] at h
      rcases Option.bind_eq_some_iff.mp (Option.ite_none_left_eq_some.mp h).2 with ⟨_, hentries, h⟩
      cases (Option.ite_none_left_eq_some.mp h).2
      have hnone : Built.OfScalarsEntries V ([] : List (PyStr × Built α)) := by
        rw [Built.OfScalarsEntries]
        trivial
      exact copyObjectEntries_ofScalars ih hnone hentries
    | other =>
      rw [hnode] at h
      cases h

/-- A copy is made of new containers and of scalars of the graph. -/
theorem copyPlainObject_spec {value : α} {json : Json} (h : copyPlainJson V value maxBytes = some json) :
    ∃ built, copyPlainObject V value maxBytes = some built ∧ built.toJson V = json ∧ built.OfScalars V := by
  rw [copyPlainJson, copyValue_shown, Option.map_map, Option.map_eq_some_iff] at h
  rcases h with ⟨⟨built, after⟩, hcopy, hjson⟩
  refine ⟨built, ?_, hjson, copyObject_ofScalars hcopy⟩
  rw [copyPlainObject, hcopy]
  rfl

end Copy

/-! ## Exactness -/

section Exactness

/-- A graph of objects that are told apart by their identity. -/
def graphView {α : Type u} [DecidableEq α] (node : α → Node α) : ObjectView α where
  node := node
  same a b := a = b

/-- **The argument copier is exact.**  A graph is copied if and only if it has no cycle, every
object in it is plain, and its values are few enough, not too deep and not too long, where a
value and its text count at every place where the value stands.  The copy has the content of
the graph, is built of new containers, and is its own copy. -/
theorem argument_copier_exact {α : Type u} [DecidableEq α] (node : α → Node α) (value : α)
    (maxBytes : Nat) :
    ((copyPlainJson (graphView node) value maxBytes).isSome = true ↔
      Acyclic (graphView node) value ∧ (∀ a, Reaches (graphView node) value a → IsPlain (graphView node) a) ∧
      DepthAtMost (graphView node) maxJsonDepth value ∧
      (visits (graphView node) (maxJsonDepth + 1) value).length ≤ maxJsonNodes ∧
      textBytes (graphView node) (visits (graphView node) (maxJsonDepth + 1) value) ≤ maxBytes) ∧
    ∀ json, copyPlainJson (graphView node) value maxBytes = some json →
      Shows (graphView node) value json ∧
      (∃ built, copyPlainObject (graphView node) value maxBytes = some built ∧
        built.toJson (graphView node) = json ∧ built.OfScalars (graphView node)) ∧
      copyPlainJson Json.view json maxBytes = some json := by
  have hsame : ∀ a b, (graphView node).same a b = true → a = b := fun a b => of_decide_eq_true
  constructor
  · rw [copyPlainJson_isSome, fits_iff hsame, and_assoc, and_assoc]
  · intro json h
    exact ⟨copyPlainJson_shows h, copyPlainObject_spec h, copyPlainJson_again h⟩

/-! ### Shared objects -/

/-- Lists that each hold the one before twice. -/
def doubled : Nat → Node Nat
  | 0 => .list []
  | n + 1 => .list [n, n]

theorem depthAtMost_doubled {n depth : Nat} (h : n ≤ depth) :
    DepthAtMost (graphView doubled) depth n := by
  induction n generalizing depth with
  | zero =>
    cases depth with
    | zero => rfl
    | succ depth => exact List.forall_mem_nil _
  | succ n ih =>
    cases depth with
    | zero => exact absurd h (Nat.not_succ_le_zero n)
    | succ depth =>
      intro b hb
      have heq : b = n := by simpa [parts, graphView, doubled] using hb
      rw [heq]
      exact ih (Nat.le_of_succ_le_succ h)

/-- A value counts at each place where it stands. -/
theorem length_visits_doubled (n levels : Nat) :
    (visits (graphView doubled) (levels + n + 1) n).length + 1 = 2 ^ (n + 1) := by
  induction n with
  | zero => rfl
  | succ n ih =>
    have hvisits : visits (graphView doubled) (levels + (n + 1) + 1) (n + 1) =
        (n + 1) :: (visits (graphView doubled) (levels + n + 1) n ++
          (visits (graphView doubled) (levels + n + 1) n ++ [])) := rfl
    rw [hvisits, List.length_cons, List.length_append, List.length_append, List.length_nil]
    omega

theorem le_of_reaches_doubled {n a : Nat} (h : Reaches (graphView doubled) n a) : a ≤ n := by
  induction h with
  | refl => exact le_refl n
  | @tail b c _ hc ih =>
    cases b with
    | zero => cases hc
    | succ b =>
      have heq : c = b := by simpa [Holds, parts, graphView, doubled] using hc
      omega

/-- Fifteen lists, none of them too deep, are refused, as each but the last stands twice in the
next one. -/
theorem shared_lists_refused : copyPlainJson (graphView doubled) 14 = none ∧
    Acyclic (graphView doubled) 14 ∧
    (∀ a, Reaches (graphView doubled) 14 a → IsPlain (graphView doubled) a) ∧
    DepthAtMost (graphView doubled) maxJsonDepth 14 ∧
    ∃ nodes : List Nat, (∀ a, Reaches (graphView doubled) 14 a → a ∈ nodes) ∧
      nodes.length ≤ maxJsonNodes ∧ textBytes (graphView doubled) nodes ≤ maxInputUtf8Bytes := by
  have hdepth : DepthAtMost (graphView doubled) maxJsonDepth 14 := depthAtMost_doubled (by decide)
  refine ⟨?_, hdepth.acyclic, ?_, hdepth, List.range 15, ?_, ?_, ?_⟩
  · rw [← Option.not_isSome_iff_eq_none, copyPlainJson_isSome]
    intro h
    have hvisits : (visits (graphView doubled) 65 14).length + 1 = 2 ^ 15 := length_visits_doubled 14 50
    have hnodes : (visits (graphView doubled) 65 14).length ≤ 10000 := h.2.1
    omega
  · intro a _
    cases a with
    | zero => trivial
    | succ a => trivial
  · intro a ha
    rw [List.mem_range]
    exact Nat.lt_succ_of_le (le_of_reaches_doubled ha)
  · decide
  · decide

end Exactness

end HermesClaude.Bridge
