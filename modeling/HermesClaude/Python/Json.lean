/-
# Object graphs and plain JSON

Values from outside are graphs of Python objects: containers may be shared, may
contain themselves, and need not be built-in types.  What the adapter can observe of
one object is a node; a view says which node an object shows and which objects are
the same one.

Plain JSON is what is left once a graph has been copied: a tree of exact built-in
values, which is again a view of itself.
-/

import HermesClaude.Python.Value

namespace HermesClaude.Python

universe u

/-- What can be observed of one Python object whose parts are of type `α`. -/
inductive Node (α : Type u)
  | none
  | bool (b : Bool)
  | int (i : Int)
  | float (f : PyFloat)
  | str (s : PyStr)
  | list (items : List α)
  | tuple (items : List α)
  | /-- A mapping, built-in or not: what iterating over `items()` yields, and whether
    the iteration then raises. -/
    mapping (items : List (α × α)) (raises : Bool)
  | /-- Anything else, subclasses of the types above included. -/
    other

/-- A way to look at values of type `α` as Python objects. -/
structure ObjectView (α : Type u) where
  node : α → Node α
  /-- `id(a) == id(b)`. -/
  same : α → α → Bool

namespace ObjectView

variable {α : Type u} (V : ObjectView α)

/-- Whether an object is the string `text`. -/
def isText (v : α) (text : PyStr) : Bool :=
  match V.node v with
  | .str s => s == text
  | _ => false

/-- `isinstance(value, Mapping)`, with the items of the mapping. -/
def mapping? (v : α) : Option (List (α × α)) :=
  match V.node v with
  | .mapping items _ => some items
  | _ => Option.none

/-- `mapping.get(key)`, or `none` where the key is missing. -/
def get (items : List (α × α)) (key : String) : Option α :=
  (items.find? fun item => V.isText item.1 (lit key)).map Prod.snd

/-- `iter(value)`, or `none` where Python raises `TypeError`. -/
def iterate (v : α) : Option (List α) :=
  match V.node v with
  | .list items => some items
  | .tuple items => some items
  | .mapping items _ => some (items.map Prod.fst)
  | _ => Option.none

end ObjectView

/-- A tree of exact built-in JSON values; a float is finite. -/
inductive Json
  | null
  | bool (b : Bool)
  | int (i : Int)
  | float (q : Rat)
  | str (s : PyStr)
  | list (items : List Json)
  | dict (items : List (PyStr × Json))

namespace Json

/-- The entry of a dictionary under a key. -/
def key? (items : List (PyStr × Json)) (key : PyStr) : Option Json := items.lookup key

/-- `key in dict`. -/
def hasKey (items : List (PyStr × Json)) (key : PyStr) : Bool := items.any fun item => item.1 == key

/-- `dict[key] = value`: a key that is present keeps its place. -/
def setItem (items : List (PyStr × Json)) (key : PyStr) (value : Json) : List (PyStr × Json) :=
  if hasKey items key then items.map fun item => if item.1 = key then (key, value) else item
  else items ++ [(key, value)]

/-- A dictionary with string keys as a node sees it. -/
def node : Json → Node Json
  | .null => .none
  | .bool b => .bool b
  | .int i => .int i
  | .float q => .float (.finite q)
  | .str s => .str s
  | .list items => .list items
  | .dict items => .mapping (items.map fun item => (.str item.1, item.2)) false

/-- A JSON tree as a graph of objects: no container is a part of itself. -/
def view : ObjectView Json where
  node := node
  same _ _ := false

/-- `type(value) is dict`, with the entries. -/
def dict? : Json → Option (List (PyStr × Json))
  | .dict items => some items
  | _ => none

/-- `type(value) is list`, with the elements. -/
def list? : Json → Option (List Json)
  | .list items => some items
  | _ => none

/-- `type(value) is str`, with the text. -/
def str? : Json → Option PyStr
  | .str s => some s
  | _ => none

/-- The number a value compares as: `True` is `1`. -/
def number? : Json → Option Rat
  | .bool b => some (if b then 1 else 0)
  | .int i => some i
  | .float q => some q
  | _ => none

/-- Whether two values have the same exact type. -/
def sameType : Json → Json → Bool
  | .null, .null => true
  | .bool _, .bool _ => true
  | .int _, .int _ => true
  | .float _, .float _ => true
  | .str _, .str _ => true
  | .list _, .list _ => true
  | .dict _, .dict _ => true
  | _, _ => false

mutual

/-- `a == b`: numbers compare by value across their types, dictionaries by their
entries in any order. -/
def pyEq : Json → Json → Bool
  | .null, b => match b with
    | .null => true
    | _ => false
  | .str s, b => b.str? == some s
  | .list xs, b => match b.list? with
    | some ys => pyEqList xs ys
    | none => false
  | .dict xs, b => match b.dict? with
    | some ys => xs.length == ys.length && pyEqItems xs ys
    | none => false
  | .bool x, b => b.number? == some (if x then 1 else 0)
  | .int x, b => b.number? == some (x : Rat)
  | .float x, b => b.number? == some x

/-- `==` of two lists. -/
def pyEqList : List Json → List Json → Bool
  | [], [] => true
  | x :: xs, y :: ys => pyEq x y && pyEqList xs ys
  | _, _ => false

/-- Whether every entry has an equal one under its key. -/
def pyEqItems : List (PyStr × Json) → List (PyStr × Json) → Bool
  | [], _ => true
  | (key, x) :: xs, ys =>
    (match key? ys key with
      | some y => pyEq x y
      | none => false) && pyEqItems xs ys

end

end Json

end HermesClaude.Python
