/-
# Object hooks

`json.loads` calls `object_pairs_hook` on the pairs of each object as soon as it has read it.
The result is the same as reading the whole text first, pairs and all, and then calling the
hook on the objects from the inside out.
-/

import HermesClaude.Python.JsonCodec

namespace HermesClaude.Python

/-- The text of a key. -/
def PyValue.keyText : PyValue → PyStr
  | .str text => text
  | _ => []

/-- The items of an object that keeps all its pairs. -/
def pairItems (fields : List (PyStr × PyValue)) : List (PyValue × PyValue) :=
  fields.map fun field => (.str field.1, field.2)

/-- A hook that keeps all pairs, repeated keys included. -/
def keepPairs (fields : List (PyStr × PyValue)) : Option PyValue := some (.dict (pairItems fields))

section Fold

variable (hook : List (PyStr × PyValue) → Option PyValue)

mutual

/-- Call a hook on all objects of a value, from the inside out. -/
def foldHook : PyValue → Option PyValue
  | .list items => (foldHookList items).map .list
  | .dict items => (foldHookItems items).bind hook
  | .none => some .none
  | .bool b => some (.bool b)
  | .int i => some (.int i)
  | .float f => some (.float f)
  | .str s => some (.str s)
  | .bytes b => some (.bytes b)
  | .tuple items => some (.tuple items)
  | .set items => some (.set items)
  | .object cls attrs => some (.object cls attrs)

def foldHookList : List PyValue → Option (List PyValue)
  | [] => some []
  | item :: items =>
    (foldHook item).bind fun value => (foldHookList items).map fun values => value :: values

def foldHookItems : List (PyValue × PyValue) → Option (List (PyStr × PyValue))
  | [] => some []
  | (key, item) :: items =>
    (foldHook item).bind fun value =>
      (foldHookItems items).map fun fields => (key.keyText, value) :: fields

end

end Fold

namespace JSONDecoder

variable {decoder : JSONDecoder} {hook : List (PyStr × PyValue) → Option PyValue}

/-- The decoder with another hook. -/
def withHook (decoder : JSONDecoder) (hook : List (PyStr × PyValue) → Option PyValue) : JSONDecoder :=
  { decoder with objectPairsHook := hook }

/-- Words and numbers are no objects. -/
theorem foldHook_scanToken
    (hconstant : ∀ {word value}, decoder.parseConstant word = some value → foldHook hook value = some value)
    {s rest : PyStr} {value : PyValue} (h : decoder.scanToken s = some (value, rest)) :
    foldHook hook value = some value := by
  rw [scanToken] at h
  split at h
  · next found hfound =>
    cases h
    rcases List.exists_of_findSome?_eq_some hfound with ⟨word, hword, heq⟩
    rcases Option.map_eq_some_iff.mp heq with ⟨_, -, heq⟩
    cases heq
    simp only [jsonLiterals, List.mem_cons, List.not_mem_nil, or_false] at hword
    rcases hword with rfl | rfl | rfl
    · rfl
    · rfl
    · rfl
  · split at h
    · next number hnumber =>
      rcases Option.map_eq_some_iff.mp h with ⟨found, hfound, heq⟩
      cases heq
      rw [parseNumber] at hfound
      split at hfound
      · cases hfound
        rfl
      · rcases Option.map_eq_some_iff.mp hfound with ⟨_, -, rfl⟩
        rfl
    · rcases Option.bind_eq_some_iff.mp h with ⟨⟨word, _⟩, -, h⟩
      rcases Option.map_eq_some_iff.mp h with ⟨found, hfound, heq⟩
      cases heq
      exact hconstant hfound

theorem foldHook_pairItems (fields : List (PyStr × PyValue)) :
    foldHook hook (.dict (pairItems fields)) = (foldHookItems hook (pairItems fields)).bind hook := by
  rw [foldHook]

theorem foldHookItems_nil : foldHookItems hook (pairItems []) = some [] := by
  rw [pairItems, List.map_nil, foldHookItems]

theorem foldHookItems_cons (key : PyStr) (item : PyValue) (fields : List (PyStr × PyValue)) :
    foldHookItems hook (pairItems ((key, item) :: fields)) =
      (foldHook hook item).bind fun value =>
        (foldHookItems hook (pairItems fields)).map fun fields => (key, value) :: fields := by
  rw [pairItems, List.map_cons, foldHookItems]
  rfl

section Scan

variable {fuel : Nat}

/-- What a part of the decoder reads, after the hook was called on it. -/
def hooked {β γ : Type} (fold : β → Option γ) (read : Option (β × PyStr)) : Option (γ × PyStr) :=
  read.bind fun r => (fold r.1).map fun value => (value, r.2)

theorem scanItems_withHook
    (hitem : ∀ s, (decoder.withHook hook).scanOnce fuel s =
      hooked (foldHook hook) (decoder.scanOnce fuel s))
    (hitems : ∀ s, (decoder.withHook hook).scanItems fuel s =
      hooked (foldHookList hook) (decoder.scanItems fuel s)) (s : PyStr) :
    (decoder.withHook hook).scanItems (fuel + 1) s =
      hooked (foldHookList hook) (decoder.scanItems (fuel + 1) s) := by
  rw [scanItems, scanItems, hitem]
  cases hread : decoder.scanOnce fuel s with
  | none => rfl
  | some read =>
    rcases read with ⟨item, rest⟩
    simp only [hooked, Option.bind_eq_bind, Option.bind_some]
    cases hfold : foldHook hook item with
    | none =>
      split
      · simp [foldHookList, hfold]
      · next rest _ =>
        cases decoder.scanItems fuel (skipSpace rest) with
        | none => rfl
        | some others => simp [foldHookList, hfold]
      · rfl
    | some value =>
      simp only [Option.map_some, Option.bind_some]
      split
      · simp [foldHookList, hfold]
      · next rest _ =>
        rw [hitems]
        cases decoder.scanItems fuel (skipSpace rest) with
        | none => rfl
        | some others =>
          simp only [hooked, Option.bind_some, Option.pure_def, foldHookList, hfold]
          cases foldHookList hook others.1 with
          | none => rfl
          | some values => rfl
      · rfl

theorem scanFields_withHook
    (hitem : ∀ s, (decoder.withHook hook).scanOnce fuel s =
      hooked (foldHook hook) (decoder.scanOnce fuel s))
    (hfields : ∀ s, (decoder.withHook hook).scanFields fuel s =
      hooked (fun fields => foldHookItems hook (pairItems fields)) (decoder.scanFields fuel s)) (s : PyStr) :
    (decoder.withHook hook).scanFields (fuel + 1) s =
      hooked (fun fields => foldHookItems hook (pairItems fields)) (decoder.scanFields (fuel + 1) s) := by
  rw [scanFields.eq_def, scanFields.eq_def]
  dsimp only
  split
  · next rest =>
    cases hkey : scanString none rest with
    | none => rfl
    | some read =>
      rcases read with ⟨key, rest⟩
      simp only [Option.bind_eq_bind, Option.bind_some]
      split
      · next rest _ =>
        rw [hitem]
        cases hread : decoder.scanOnce fuel (skipSpace rest) with
        | none => rfl
        | some read =>
          rcases read with ⟨item, rest⟩
          simp only [hooked, Option.bind_some]
          cases hfold : foldHook hook item with
          | none =>
            split
            · simp [foldHookItems_cons, hfold]
            · next rest _ =>
              cases decoder.scanFields fuel (skipSpace rest) with
              | none => rfl
              | some others => simp [foldHookItems_cons, hfold]
            · rfl
          | some value =>
            simp only [Option.map_some, Option.bind_some]
            split
            · simp [foldHookItems_cons, foldHookItems_nil, hfold]
            · next rest _ =>
              rw [hfields]
              cases decoder.scanFields fuel (skipSpace rest) with
              | none => rfl
              | some others =>
                simp only [hooked, Option.bind_some, Option.pure_def, foldHookItems_cons, hfold]
                cases foldHookItems hook (pairItems others.1) with
                | none => rfl
                | some fields => rfl
            · rfl
      · rfl
  · rfl

theorem scanOnce_withHook (hplain : decoder.objectPairsHook = keepPairs)
    (hconstant : ∀ {word value}, decoder.parseConstant word = some value → foldHook hook value = some value)
    (hitems : ∀ s, (decoder.withHook hook).scanItems fuel s =
      hooked (foldHookList hook) (decoder.scanItems fuel s))
    (hfields : ∀ s, (decoder.withHook hook).scanFields fuel s =
      hooked (fun fields => foldHookItems hook (pairItems fields)) (decoder.scanFields fuel s)) (s : PyStr) :
    (decoder.withHook hook).scanOnce (fuel + 1) s =
      hooked (foldHook hook) (decoder.scanOnce (fuel + 1) s) := by
  cases s with
  | nil => rfl
  | cons c rest =>
    rw [scanOnce, scanOnce]
    split_ifs
    · cases scanString none rest with
      | none => rfl
      | some read => rfl
    · split
      · rw [hplain]
        rfl
      · rw [hfields, hplain]
        cases decoder.scanFields fuel (skipSpace rest) with
        | none => rfl
        | some read =>
          simp only [hooked, keepPairs, Option.bind_eq_bind, Option.bind_some, Option.pure_def,
            foldHook_pairItems]
          cases foldHookItems hook (pairItems read.1) with
          | none => rfl
          | some fields =>
            simp only [Option.map_some, Option.bind_some, withHook]
            cases hook fields with
            | none => rfl
            | some value => rfl
    · split
      · rfl
      · rw [hitems]
        cases decoder.scanItems fuel (skipSpace rest) with
        | none => rfl
        | some read =>
          simp only [hooked, Option.bind_some, Option.map_some, foldHook]
          cases foldHookList hook read.1 with
          | none => rfl
          | some values => rfl
    · change decoder.scanToken (c :: rest) = _
      cases htoken : decoder.scanToken (c :: rest) with
      | none => rfl
      | some read =>
        rcases read with ⟨value, rest⟩
        simp only [hooked, Option.bind_some, foldHook_scanToken hconstant htoken]
        rfl

/-- Calling the hook while reading, or afterwards. -/
theorem scan_withHook (hplain : decoder.objectPairsHook = keepPairs)
    (hconstant : ∀ {word value}, decoder.parseConstant word = some value → foldHook hook value = some value)
    (fuel : Nat) :
    (∀ s, (decoder.withHook hook).scanOnce fuel s = hooked (foldHook hook) (decoder.scanOnce fuel s)) ∧
    (∀ s, (decoder.withHook hook).scanItems fuel s =
      hooked (foldHookList hook) (decoder.scanItems fuel s)) ∧
    (∀ s, (decoder.withHook hook).scanFields fuel s =
      hooked (fun fields => foldHookItems hook (pairItems fields)) (decoder.scanFields fuel s)) := by
  induction fuel with
  | zero =>
    refine ⟨?_, ?_, ?_⟩
    · intro s
      rw [scanOnce, scanOnce]
      rfl
    · intro s
      rw [scanItems, scanItems]
      rfl
    · intro s
      rw [scanFields, scanFields]
      rfl
  | succ fuel ih =>
    exact ⟨scanOnce_withHook hplain hconstant ih.2.1 ih.2.2, scanItems_withHook ih.1 ih.2.1,
      scanFields_withHook ih.1 ih.2.2⟩

/-- **Object hooks.** A text is read with a hook as it is read without one, and the hook called
on the objects afterwards. -/
theorem loads_withHook (hplain : decoder.objectPairsHook = keepPairs)
    (hconstant : ∀ {word value}, decoder.parseConstant word = some value → foldHook hook value = some value)
    (text : PyStr) : (decoder.withHook hook).loads text = (decoder.loads text).bind (foldHook hook) := by
  rw [loads, loads]
  split
  · rfl
  · rw [(scan_withHook hplain hconstant _).1]
    cases decoder.scanOnce (text.length + 1) (skipSpace text) with
    | none => rfl
    | some read =>
      rcases read with ⟨value, rest⟩
      simp only [hooked, Option.bind_some]
      cases hfold : foldHook hook value with
      | none =>
        simp only [Option.map_none]
        split <;> simp [hfold]
      | some folded =>
        simp only [Option.map_some]
        split <;> simp [hfold]

end Scan

end JSONDecoder

end HermesClaude.Python
