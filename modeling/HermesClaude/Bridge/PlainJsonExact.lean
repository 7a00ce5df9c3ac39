/-
# What the JSON copier accepts

The copier counts as it goes and keeps the path of containers that it is in.  What it accepts
can be said of the graph alone: there is no cycle, every object is plain, and the values,
counted at each place where they are met, are few enough, not too deep and not too long.
-/

import HermesClaude.Bridge.PlainJson
import HermesClaude.Python.JsonSorted
import Mathlib.Logic.Relation

namespace HermesClaude.Bridge

open HermesClaude.Python

universe u v

/-! ## Graphs -/

section Graph

variable {α : Type u} (V : ObjectView α)

/-- What an object holds: the elements of a list, the keys and values of a mapping. -/
def parts (a : α) : List α :=
  match V.node a with
  | .list items | .tuple items => items
  | .mapping items _ => items.flatMap fun item => [item.1, item.2]
  | _ => []

/-- A list, a tuple or a mapping. -/
def isContainer (a : α) : Bool :=
  match V.node a with
  | .list _ | .tuple _ | .mapping _ _ => true
  | _ => false

/-- An object that plain JSON may contain, whatever its parts are. -/
def IsPlain (a : α) : Prop :=
  match V.node a with
  | .none | .bool _ | .list _ | .tuple _ => True
  | .int i => intWithinBound i = true
  | .float f => ∃ q, f = .finite q
  | .str s => (utf8Size s).isSome = true
  | .mapping items raises => (∀ item ∈ items, ∃ name, V.node item.1 = .str name) ∧ raises = false
  | .other => False

/-- One object holds another. -/
def Holds (a b : α) : Prop := b ∈ parts V a

/-- The objects of the graph of an object. -/
def Reaches : α → α → Prop := Relation.ReflTransGen (Holds V)

/-- No object of a graph holds itself, directly or through others. -/
def Acyclic (root : α) : Prop := ∀ a, Reaches V root a → ¬ Relation.TransGen (Holds V) a a

/-- No path in a graph is longer than so many steps. -/
def DepthAtMost : Nat → α → Prop
  | 0, a => parts V a = []
  | depth + 1, a => ∀ b ∈ parts V a, DepthAtMost depth b

/-- The values that are met on so many levels, each at every place where it stands. -/
def visits : Nat → α → List α
  | 0, _ => []
  | levels + 1, a => a :: (parts V a).flatMap (visits levels)

/-- The bytes of a text; anything else has none. -/
def textSize (a : α) : Nat :=
  match V.node a with
  | .str s => (utf8Size s).getD 0
  | _ => 0

/-- The bytes of all texts among the values. -/
def textBytes (values : List α) : Nat := (values.map (textSize V)).sum

end Graph

/-! ## Budgets -/

section Copies

variable {α : Type u} {V : ObjectView α} {maxBytes : Nat}

/-- The budget after some values. -/
def Budget.add (V : ObjectView α) (budget : Budget) (values : List α) : Budget where
  nodes := budget.nodes + values.length
  inputBytes := budget.inputBytes + textBytes V values

/-- Neither bound is exceeded. -/
structure Within (maxBytes : Nat) (budget : Budget) : Prop where
  nodes : budget.nodes ≤ maxJsonNodes
  bytes : budget.inputBytes ≤ maxBytes

@[simp]
theorem Budget.add_nil (budget : Budget) : budget.add V [] = budget := rfl

theorem Budget.add_append (budget : Budget) (xs ys : List α) :
    budget.add V (xs ++ ys) = (budget.add V xs).add V ys := by
  simp only [Budget.add, textBytes, List.length_append, List.map_append, List.sum_append, Nat.add_assoc]

/-- What fits with more values fits with fewer. -/
theorem Within.of_add {budget : Budget} {values : List α} (h : Within maxBytes (budget.add V values)) :
    Within maxBytes budget where
  nodes := Nat.le_trans (Nat.le_add_right _ _) h.nodes
  bytes := Nat.le_trans (Nat.le_add_right _ _) h.bytes

/-- A part of the copier copies what fits, and counts what it visits. -/
def Copies {β : Type u} {γ : Type v} (V : ObjectView α) (maxBytes : Nat) (fits : β → Prop)
    (visit : β → List α) (copy : Budget → β → Option (γ × Budget)) : Prop :=
  ∀ (budget after : Budget) (x : β), Within maxBytes budget →
    ((∃ result, copy budget x = some (result, after)) ↔
      fits x ∧ after = budget.add V (visit x) ∧ Within maxBytes after)

variable {fits : α → Prop} {visit : α → List α} {copy : Budget → α → Option (Json × Budget)}

theorem copyItems_copies (hcopy : Copies V maxBytes fits visit copy) :
    Copies V maxBytes (fun items => ∀ x ∈ items, fits x) (fun items => items.flatMap visit)
      (copyItems copy) := by
  intro budget after items
  induction items generalizing budget after with
  | nil =>
    intro hstart
    constructor
    · intro h
      rcases h with ⟨values, h⟩
      cases h
      exact ⟨List.forall_mem_nil _, rfl, hstart⟩
    · intro h
      rcases h with ⟨-, rfl, -⟩
      exact ⟨[], rfl⟩
  | cons x rest ih =>
    intro hstart
    simp only [List.flatMap_cons, Budget.add_append, List.forall_mem_cons]
    constructor
    · intro h
      rcases h with ⟨values, h⟩
      simp only [copyItems, Option.bind_eq_bind, Option.bind_eq_some_iff] at h
      rcases h with ⟨⟨value, middle⟩, hfirst, ⟨others, last⟩, hrest, heq⟩
      cases heq
      rcases (hcopy _ _ _ hstart).mp ⟨value, hfirst⟩ with ⟨hx, rfl, hmiddle⟩
      rcases (ih _ _ hmiddle).mp ⟨others, hrest⟩ with ⟨hall, hlast, hafter⟩
      exact ⟨⟨hx, hall⟩, hlast, hafter⟩
    · intro h
      rcases h with ⟨⟨hx, hall⟩, rfl, hafter⟩
      have hmiddle := hafter.of_add
      rcases (hcopy _ _ _ hstart).mpr ⟨hx, rfl, hmiddle⟩ with ⟨value, hfirst⟩
      rcases (ih _ _ hmiddle).mpr ⟨hall, rfl, hafter⟩ with ⟨others, hrest⟩
      exact ⟨value :: others, by simp [copyItems, hfirst, hrest]⟩

theorem copyEntries_copies (hcopy : Copies V maxBytes fits visit copy) (done : List (PyStr × Json)) :
    Copies V maxBytes
      (fun items => ∀ item ∈ items, (∃ name, V.node item.1 = .str name) ∧ fits item.1 ∧ fits item.2)
      (fun items => (items.flatMap fun item => [item.1, item.2]).flatMap visit)
      (fun budget items => copyEntries V copy budget done items) := by
  intro budget after items
  induction items generalizing budget after done with
  | nil =>
    intro hstart
    constructor
    · intro h
      rcases h with ⟨values, h⟩
      cases h
      exact ⟨List.forall_mem_nil _, rfl, hstart⟩
    · intro h
      rcases h with ⟨-, rfl, -⟩
      exact ⟨done, rfl⟩
  | cons item rest ih =>
    intro hstart
    rcases item with ⟨key, child⟩
    simp only [List.flatMap_cons, List.cons_append, List.nil_append, Budget.add_append,
      List.forall_mem_cons]
    constructor
    · intro h
      rcases h with ⟨entries, h⟩
      simp only [copyEntries] at h
      split at h
      · next name hname =>
        simp only [Option.bind_eq_bind, Option.bind_eq_some_iff] at h
        rcases h with ⟨⟨copied, first⟩, hkey, ⟨value, second⟩, hchild, hrest⟩
        rcases (hcopy _ _ _ hstart).mp ⟨copied, hkey⟩ with ⟨hfitsKey, rfl, hfirst⟩
        rcases (hcopy _ _ _ hfirst).mp ⟨value, hchild⟩ with ⟨hfitsChild, rfl, hsecond⟩
        rcases (ih _ _ _ hsecond).mp ⟨entries, hrest⟩ with ⟨hall, hlast, hafter⟩
        exact ⟨⟨⟨⟨name, hname⟩, hfitsKey, hfitsChild⟩, hall⟩, hlast, hafter⟩
      · cases h
    · intro h
      rcases h with ⟨⟨⟨⟨name, hname⟩, hfitsKey, hfitsChild⟩, hall⟩, rfl, hafter⟩
      have hsecond := hafter.of_add
      have hfirst := hsecond.of_add
      rcases (hcopy _ _ _ hstart).mpr ⟨hfitsKey, rfl, hfirst⟩ with ⟨copied, hkey⟩
      rcases (hcopy _ _ _ hfirst).mpr ⟨hfitsChild, rfl, hsecond⟩ with ⟨value, hchild⟩
      rcases (ih (Json.setItem done name value) _ _ hsecond).mpr ⟨hall, rfl, hafter⟩ with ⟨entries, hrest⟩
      exact ⟨entries, by simp [copyEntries, hname, hkey, hchild, hrest]⟩

/-! ## Values -/

/-- What the copier checks of an object on a path of containers, but for the budget. -/
def Fits (V : ObjectView α) : Nat → List α → α → Prop
  | 0, _, _ => False
  | levels + 1, active, a =>
    IsPlain V a ∧ (isContainer V a = true → ∀ b ∈ active, V.same a b = false) ∧
      ∀ b ∈ parts V a, Fits V levels (a :: active) b

/-- Counting an object that is no text. -/
theorem node_eq_some {budget counted : Budget} {a : α} (hstart : Within maxBytes budget)
    (htext : textSize V a = 0) : budget.node = some counted ↔
      counted = budget.add V [a] ∧ Within maxBytes counted := by
  have hadd : budget.add V [a] = { budget with nodes := budget.nodes + 1 } := by
    simp [Budget.add, textBytes, htext]
  rw [Budget.node, hadd]
  split_ifs with hmany
  · apply iff_of_false
    · exact nofun
    · rintro ⟨rfl, hwithin⟩
      have hnodes : budget.nodes + 1 ≤ maxJsonNodes := hwithin.nodes
      omega
  · rw [Option.some.injEq]
    constructor
    · rintro rfl
      exact ⟨rfl, ⟨Nat.le_of_not_gt hmany, hstart.bytes⟩⟩
    · intro h
      exact h.1.symm

/-- A scalar that is no text is copied wherever it may be counted. -/
theorem scalar_copies {budget after : Budget} {a : α} (hstart : Within maxBytes budget)
    (htext : textSize V a = 0) (value : Json) :
    (∃ result, (budget.node.bind fun counted => some (value, counted)) = some (result, after)) ↔
      after = budget.add V [a] ∧ Within maxBytes after := by
  rw [← node_eq_some hstart htext]
  constructor
  · intro h
    rcases h with ⟨result, h⟩
    rcases Option.bind_eq_some_iff.mp h with ⟨counted, hcounted, heq⟩
    cases heq
    exact hcounted
  · intro h
    exact ⟨value, by rw [h]; rfl⟩

/-- A text is copied where it has an encoding that the budget allows. -/
theorem text_copies {budget after : Budget} {a : α} {s : PyStr} (hnode : V.node a = .str s) :
    (∃ result, (budget.node.bind fun counted => (counted.text maxBytes s).bind fun counted =>
        some (Json.str s, counted)) = some (result, after)) ↔
      (utf8Size s).isSome = true ∧ after = budget.add V [a] ∧ Within maxBytes after := by
  cases hsize : utf8Size s with
  | none =>
    apply iff_of_false
    · rintro ⟨_, h⟩
      rcases Option.bind_eq_some_iff.mp h with ⟨counted, -, h⟩
      simp [Budget.text, hsize] at h
    · intro h
      cases h.1
  | some size =>
    have hadd : budget.add V [a] = ⟨budget.nodes + 1, budget.inputBytes + size⟩ := by
      simp [Budget.add, textBytes, textSize, hnode, hsize]
    rw [hadd]
    constructor
    · intro h
      rcases h with ⟨result, h⟩
      rcases Option.bind_eq_some_iff.mp h with ⟨counted, hcounted, h⟩
      rcases Option.bind_eq_some_iff.mp h with ⟨last, hlast, h⟩
      cases h
      rcases Option.ite_none_left_eq_some.mp hcounted with ⟨hmany, heq⟩
      cases heq
      simp only [Budget.text, hsize] at hlast
      rcases Option.ite_none_left_eq_some.mp hlast with ⟨hlong, heq⟩
      cases heq
      exact ⟨rfl, rfl, ⟨Nat.le_of_not_gt hmany, Nat.le_of_not_gt hlong⟩⟩
    · intro h
      rcases h with ⟨-, rfl, hwithin⟩
      have hmany : ¬ maxJsonNodes < budget.nodes + 1 := Nat.not_lt.mpr hwithin.nodes
      have hlong : ¬ maxBytes < budget.inputBytes + size := Nat.not_lt.mpr hwithin.bytes
      exact ⟨.str s, by simp [Budget.node, Budget.text, hsize, hmany, hlong]⟩

/-- A container is copied where it is not being copied already and its parts are copied. -/
theorem container_copies {γ : Type v} {loop : Budget → Option (γ × Budget)} {build : γ → Json}
    {blocked : Bool} (raises : Bool) {inner : List α} {ok : Prop} {budget after : Budget} {a : α}
    (hstart : Within maxBytes budget) (htext : textSize V a = 0)
    (hloop : ∀ budget after : Budget, Within maxBytes budget →
      ((∃ result, loop budget = some (result, after)) ↔
        ok ∧ after = budget.add V inner ∧ Within maxBytes after)) :
    (∃ result, (budget.node.bind fun counted => if blocked = true then none else
        (loop counted).bind fun r => if raises = true then none else some (build r.1, r.2)) =
          some (result, after)) ↔
      (blocked = false ∧ raises = false ∧ ok) ∧ after = budget.add V (a :: inner) ∧
        Within maxBytes after := by
  have hsplit : budget.add V (a :: inner) = (budget.add V [a]).add V inner :=
    Budget.add_append budget [a] inner
  rw [hsplit]
  constructor
  · intro h
    rcases h with ⟨result, h⟩
    rcases Option.bind_eq_some_iff.mp h with ⟨counted, hcounted, h⟩
    rcases (node_eq_some hstart htext).mp hcounted with ⟨rfl, hmiddle⟩
    rcases Option.ite_none_left_eq_some.mp h with ⟨hblocked, h⟩
    rcases Option.bind_eq_some_iff.mp h with ⟨⟨built, last⟩, hbuilt, h⟩
    rcases Option.ite_none_left_eq_some.mp h with ⟨hraises, h⟩
    cases h
    rcases (hloop _ _ hmiddle).mp ⟨built, hbuilt⟩ with ⟨hok, hlast, hafter⟩
    rw [Bool.not_eq_true] at hblocked hraises
    exact ⟨⟨hblocked, hraises, hok⟩, hlast, hafter⟩
  · intro h
    rcases h with ⟨⟨rfl, rfl, hok⟩, rfl, hafter⟩
    have hmiddle := hafter.of_add
    have hcounted := (node_eq_some hstart htext).mpr ⟨rfl, hmiddle⟩
    rcases (hloop _ _ hmiddle).mpr ⟨hok, rfl, hafter⟩ with ⟨built, hbuilt⟩
    exact ⟨build built, by simp [hcounted, hbuilt]⟩

theorem parts_of_not_container {a : α} (h : isContainer V a = false) : parts V a = [] := by
  cases hnode : V.node a with
  | list items => simp [isContainer, hnode] at h
  | tuple items => simp [isContainer, hnode] at h
  | mapping items raises => simp [isContainer, hnode] at h
  | _ => simp [parts, hnode]

theorem fits_leaf (levels : Nat) (active : List α) {a : α} (h : isContainer V a = false) :
    Fits V (levels + 1) active a ↔ IsPlain V a := by
  rw [Fits, parts_of_not_container h, h]
  simp

theorem visits_leaf (levels : Nat) {a : α} (h : isContainer V a = false) :
    visits V (levels + 1) a = [a] := by
  rw [visits, parts_of_not_container h]
  rfl

/-- A scalar that is no text is copied wherever it may be counted and is plain. -/
theorem leaf_copies {levels : Nat} {active : List α} {budget after : Budget} {a : α} {value : Json}
    (hstart : Within maxBytes budget) (hleaf : isContainer V a = false) (htext : textSize V a = 0)
    (hplain : IsPlain V a) :
    (∃ result, (budget.node.bind fun counted => some (value, counted)) = some (result, after)) ↔
      Fits V (levels + 1) active a ∧ after = budget.add V (visits V (levels + 1) a) ∧
        Within maxBytes after := by
  rw [fits_leaf levels active hleaf, visits_leaf levels hleaf, iff_true_intro hplain, true_and]
  exact scalar_copies hstart htext value

/-- What is not plain is not copied. -/
theorem refused_copies {levels : Nat} {active : List α} {budget after : Budget} {a : α}
    (hplain : ¬ IsPlain V a) :
    (∃ result, (budget.node.bind fun _ => none) = some ((result, after) : Json × Budget)) ↔
      Fits V (levels + 1) active a ∧ after = budget.add V (visits V (levels + 1) a) ∧
        Within maxBytes after := by
  apply iff_of_false
  · rintro ⟨_, h⟩
    rcases Option.bind_eq_some_iff.mp h with ⟨_, -, h⟩
    cases h
  · intro h
    exact hplain h.1.1

theorem not_active_iff {active : List α} {a : α} :
    active.any (V.same a) = false ↔ ∀ b ∈ active, V.same a b = false := by
  simp [List.any_eq_false]

theorem copyValue_copies (levels : Nat) (active : List α) :
    Copies V maxBytes (Fits V levels active) (visits V levels) (copyValue V maxBytes levels active) := by
  induction levels generalizing active with
  | zero =>
    intro budget after a _
    apply iff_of_false
    · rintro ⟨_, h⟩
      cases h
    · intro h
      exact h.1
  | succ levels ih =>
    intro budget after a hstart
    rw [copyValue]
    cases hnode : V.node a with
    | none =>
      apply leaf_copies hstart
      · rw [isContainer, hnode]
      · rw [textSize, hnode]
      · rw [IsPlain, hnode]
        trivial
    | bool b =>
      apply leaf_copies hstart
      · rw [isContainer, hnode]
      · rw [textSize, hnode]
      · rw [IsPlain, hnode]
        trivial
    | int i =>
      by_cases hbound : intWithinBound i = true
      · simp only [hbound, if_true]
        apply leaf_copies hstart
        · rw [isContainer, hnode]
        · rw [textSize, hnode]
        · rw [IsPlain, hnode]
          exact hbound
      · simp only [hbound]
        apply refused_copies
        rw [IsPlain, hnode]
        exact hbound
    | float f =>
      cases f with
      | finite q =>
        apply leaf_copies hstart
        · rw [isContainer, hnode]
        · rw [textSize, hnode]
        · rw [IsPlain, hnode]
          exact ⟨q, rfl⟩
      | nan =>
        apply refused_copies
        rw [IsPlain, hnode]
        intro h
        rcases h with ⟨q, hq⟩
        cases hq
      | infinite negative =>
        apply refused_copies
        rw [IsPlain, hnode]
        intro h
        rcases h with ⟨q, hq⟩
        cases hq
    | str s =>
      have hleaf : isContainer V a = false := by rw [isContainer, hnode]
      have hplain : IsPlain V a ↔ (utf8Size s).isSome = true := by rw [IsPlain, hnode]
      rw [fits_leaf levels active hleaf, visits_leaf levels hleaf, hplain]
      exact text_copies hnode
    | list items =>
      have hfits : Fits V (levels + 1) active a ↔ active.any (V.same a) = false ∧ false = false ∧
          ∀ b ∈ items, Fits V levels (a :: active) b := by
        rw [Fits, not_active_iff]
        simp [IsPlain, isContainer, parts, hnode]
      have hvisits : visits V (levels + 1) a = a :: items.flatMap (visits V levels) := by
        rw [visits, parts, hnode]
      rw [hfits, hvisits]
      exact container_copies false hstart (by rw [textSize, hnode]) fun budget after =>
        copyItems_copies (ih (a :: active)) budget after items
    | tuple items =>
      have hfits : Fits V (levels + 1) active a ↔ active.any (V.same a) = false ∧ false = false ∧
          ∀ b ∈ items, Fits V levels (a :: active) b := by
        rw [Fits, not_active_iff]
        simp [IsPlain, isContainer, parts, hnode]
      have hvisits : visits V (levels + 1) a = a :: items.flatMap (visits V levels) := by
        rw [visits, parts, hnode]
      rw [hfits, hvisits]
      exact container_copies false hstart (by rw [textSize, hnode]) fun budget after =>
        copyItems_copies (ih (a :: active)) budget after items
    | mapping items raises =>
      have hfits : Fits V (levels + 1) active a ↔ active.any (V.same a) = false ∧ raises = false ∧
          ∀ item ∈ items, (∃ name, V.node item.1 = .str name) ∧
            Fits V levels (a :: active) item.1 ∧ Fits V levels (a :: active) item.2 := by
        rw [Fits, not_active_iff]
        simp only [IsPlain, isContainer, parts, hnode, List.mem_flatMap, List.mem_cons,
          List.not_mem_nil, or_false]
        constructor
        · intro h
          refine ⟨h.2.1 trivial, h.1.2, ?_⟩
          intro item hitem
          exact ⟨h.1.1 item hitem, h.2.2 _ ⟨item, hitem, Or.inl rfl⟩, h.2.2 _ ⟨item, hitem, Or.inr rfl⟩⟩
        · intro h
          refine ⟨⟨fun item hitem => (h.2.2 item hitem).1, h.2.1⟩, fun _ => h.1, ?_⟩
          rintro b ⟨item, hitem, rfl | rfl⟩
          · exact (h.2.2 item hitem).2.1
          · exact (h.2.2 item hitem).2.2
      have hvisits : visits V (levels + 1) a =
          a :: (items.flatMap fun item => [item.1, item.2]).flatMap (visits V levels) := by
        rw [visits, parts, hnode]
      rw [hfits, hvisits]
      exact container_copies raises hstart (by rw [textSize, hnode]) fun budget after =>
        copyEntries_copies (ih (a :: active)) [] budget after items
    | other =>
      apply refused_copies
      rw [IsPlain, hnode]
      exact id

end Copies

/-! ## Acyclic graphs -/

section Exact

variable {α : Type u} {V : ObjectView α} {maxBytes : Nat}

theorem depthAtMost_of_fits {depth : Nat} {active : List α} {a : α}
    (h : Fits V (depth + 1) active a) : DepthAtMost V depth a := by
  induction depth generalizing active a with
  | zero =>
    apply List.eq_nil_iff_forall_not_mem.mpr
    intro b hb
    exact h.2.2 b hb
  | succ depth ih =>
    intro b hb
    exact ih (h.2.2 b hb)

theorem plain_of_fits {levels : Nat} {active : List α} {a b : α} (h : Fits V levels active a)
    (hreach : Reaches V a b) : IsPlain V b := by
  induction levels generalizing active a with
  | zero => exact h.elim
  | succ levels ih =>
    rcases hreach.cases_head with rfl | ⟨c, hc, hreach⟩
    · exact h.1
    · exact ih (h.2.2 c hc) hreach

theorem DepthAtMost.of_holds {depth : Nat} {a b : α} (h : DepthAtMost V depth a) (hb : Holds V a b) :
    ∃ less < depth, DepthAtMost V less b := by
  cases depth with
  | zero =>
    rw [Holds, show parts V a = [] from h] at hb
    cases hb
  | succ depth => exact ⟨depth, Nat.lt_succ_self depth, h b hb⟩

theorem DepthAtMost.of_transGen {depth : Nat} {a b : α} (h : DepthAtMost V depth a)
    (hpath : Relation.TransGen (Holds V) a b) : ∃ less < depth, DepthAtMost V less b := by
  induction hpath with
  | single hb => exact h.of_holds hb
  | tail _ hc ih =>
    rcases ih with ⟨middle, hmiddle, hdepth⟩
    rcases hdepth.of_holds hc with ⟨less, hless, hdepth⟩
    exact ⟨less, Nat.lt_trans hless hmiddle, hdepth⟩

/-- A cycle has paths of any length. -/
theorem DepthAtMost.not_cyclic {depth : Nat} {a : α} (h : DepthAtMost V depth a) :
    ¬ Relation.TransGen (Holds V) a a := by
  intro hcycle
  induction depth using Nat.strongRecOn with
  | ind depth ih =>
    rcases h.of_transGen hcycle with ⟨less, hless, hdepth⟩
    exact ih less hless hdepth

theorem DepthAtMost.acyclic {depth : Nat} {a : α} (h : DepthAtMost V depth a) : Acyclic V a := by
  intro b hreach
  rcases Relation.reflTransGen_iff_eq_or_transGen.mp hreach with rfl | hpath
  · exact h.not_cyclic
  · rcases h.of_transGen hpath with ⟨_, -, hdepth⟩
    exact hdepth.not_cyclic

/-- On a path of a graph without cycles, no container is met again. -/
theorem fits_of_acyclic (hsame : ∀ a b, V.same a b = true → a = b) {depth : Nat} {active : List α}
    {a : α} (hdepth : DepthAtMost V depth a) (hplain : ∀ b, Reaches V a b → IsPlain V b)
    (hacyclic : Acyclic V a) (hactive : ∀ b ∈ active, Relation.TransGen (Holds V) b a) :
    Fits V (depth + 1) active a := by
  have hnew : ∀ b ∈ active, V.same a b = false := by
    intro b hb
    rw [← Bool.not_eq_true]
    intro heq
    have hcycle := hactive b hb
    rw [← hsame a b heq] at hcycle
    exact hacyclic a .refl hcycle
  induction depth generalizing active a with
  | zero =>
    refine ⟨hplain a .refl, fun _ => hnew, ?_⟩
    rw [show parts V a = [] from hdepth]
    exact List.forall_mem_nil _
  | succ depth ih =>
    refine ⟨hplain a .refl, fun _ => hnew, ?_⟩
    intro b hb
    have hpath : Relation.TransGen (Holds V) a b := .single hb
    have hpaths : ∀ c ∈ a :: active, Relation.TransGen (Holds V) c b := by
      intro c hc
      rcases List.mem_cons.mp hc with rfl | hc
      · exact hpath
      · exact (hactive c hc).trans hpath
    have hbelow : Acyclic V b := fun c hreach => hacyclic c (.head hb hreach)
    apply ih (hdepth b hb) (fun c hreach => hplain c (.head hb hreach)) hbelow hpaths
    intro c hc
    rw [← Bool.not_eq_true]
    intro heq
    have hcycle := hpaths c hc
    rw [← hsame b c heq] at hcycle
    exact hbelow b .refl hcycle

/-- What the copier checks is what can be said of the graph. -/
theorem fits_iff (hsame : ∀ a b, V.same a b = true → a = b) {depth : Nat} {a : α} :
    Fits V (depth + 1) [] a ↔
      Acyclic V a ∧ (∀ b, Reaches V a b → IsPlain V b) ∧ DepthAtMost V depth a := by
  constructor
  · intro h
    exact ⟨(depthAtMost_of_fits h).acyclic, fun b => plain_of_fits h, depthAtMost_of_fits h⟩
  · intro h
    exact fits_of_acyclic hsame h.2.2 h.2.1 h.1 (List.forall_mem_nil _)

theorem copyPlainJson_isSome {value : α} : (copyPlainJson V value maxBytes).isSome = true ↔
    Fits V (maxJsonDepth + 1) [] value ∧
      (visits V (maxJsonDepth + 1) value).length ≤ maxJsonNodes ∧
      textBytes V (visits V (maxJsonDepth + 1) value) ≤ maxBytes := by
  have hstart : Within maxBytes {} := ⟨Nat.zero_le _, Nat.zero_le _⟩
  have hadd : Budget.add V {} (visits V (maxJsonDepth + 1) value) =
      ⟨(visits V (maxJsonDepth + 1) value).length, textBytes V (visits V (maxJsonDepth + 1) value)⟩ := by
    simp [Budget.add]
  rw [copyPlainJson, Option.isSome_map]
  constructor
  · intro h
    rcases Option.isSome_iff_exists.mp h with ⟨⟨json, after⟩, hjson⟩
    rcases (copyValue_copies _ _ _ _ _ hstart).mp ⟨json, hjson⟩ with ⟨hfits, rfl, hwithin⟩
    rw [hadd] at hwithin
    exact ⟨hfits, hwithin.nodes, hwithin.bytes⟩
  · intro h
    have hwithin : Within maxBytes (Budget.add V {} (visits V (maxJsonDepth + 1) value)) := by
      rw [hadd]
      exact ⟨h.2.1, h.2.2⟩
    rcases (copyValue_copies _ _ _ _ _ hstart).mpr ⟨h.1, rfl, hwithin⟩ with ⟨json, hjson⟩
    rw [hjson]
    rfl

end Exact

end HermesClaude.Bridge
