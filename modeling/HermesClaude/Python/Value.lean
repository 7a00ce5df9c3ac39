/-
# Python values

SDK messages reach the adapter as duck-typed objects: the code asks for a class
name, an attribute or a mapping key and decides on the value it finds.  This
module is the finite part of Python's data model those reads need.  An object is
its class name and its attributes; a dictionary is the list of its items in
insertion order, of which a lookup reads the first with the key.

Floats matter only through comparison and finiteness, so a finite float is the
rational it denotes.
-/

import HermesClaude.Python.Text

namespace HermesClaude.Python

/-- A Python `float`, up to the sign of zero. -/
inductive PyFloat
  | nan
  | infinite (negative : Bool)
  | finite (value : Rat)
  deriving DecidableEq

/-- A Python value as the adapter can observe it. -/
inductive PyValue
  | none
  | bool (b : Bool)
  | int (i : Int)
  | float (f : PyFloat)
  | str (s : PyStr)
  | bytes (b : List UInt8)
  | list (items : List PyValue)
  | tuple (items : List PyValue)
  | set (items : List PyValue)
  | dict (items : List (PyValue × PyValue))
  | object (cls : String) (attrs : List (String × PyValue))

namespace PyValue

/-- `_sdk_type_name`: `type(obj).__name__`. -/
def typeName : PyValue → String
  | .none => "NoneType"
  | .bool _ => "bool"
  | .int _ => "int"
  | .float _ => "float"
  | .str _ => "str"
  | .bytes _ => "bytes"
  | .list _ => "list"
  | .tuple _ => "tuple"
  | .set _ => "set"
  | .dict _ => "dict"
  | .object cls _ => cls

/-- `getattr(obj, name)`, or `none` where Python raises `AttributeError`.  The
built-in types carry none of the attributes the adapter asks for. -/
def getAttr (v : PyValue) (name : String) : Option PyValue :=
  match v with
  | .object _ attrs => attrs.lookup name
  | _ => Option.none

/-- `_safe_attr(obj, name, default)`, also `getattr(obj, name, default)`. -/
def safeAttr (v : PyValue) (name : String) (default : PyValue := .none) : PyValue :=
  (v.getAttr name).getD default

/-- Whether a value is the string `text`. -/
def isText (v : PyValue) (text : PyStr) : Bool :=
  match v with
  | .str s => s == text
  | _ => false

/-- The item of a dictionary under a string key. -/
def lookupKey (items : List (PyValue × PyValue)) (key : PyStr) : Option PyValue :=
  (items.find? fun item => item.1.isText key).map Prod.snd

/-- `isinstance(value, Mapping)`, with the items of the mapping. -/
def mapping? : PyValue → Option (List (PyValue × PyValue))
  | .dict items => some items
  | _ => Option.none

/-- `isinstance(value, Sequence) and not isinstance(value, (str, bytes, bytearray))`,
with the elements of the sequence. -/
def sequence? : PyValue → Option (List PyValue)
  | .list items => some items
  | .tuple items => some items
  | _ => Option.none

/-- `value is None`. -/
def isNone : PyValue → Bool
  | .none => true
  | _ => false

/-- `bool(value)`. -/
def truthy : PyValue → Bool
  | .none => false
  | .bool b => b
  | .int i => i != 0
  | .float f => f != .finite 0
  | .str s => !s.isEmpty
  | .bytes b => !b.isEmpty
  | .list items => !items.isEmpty
  | .tuple items => !items.isEmpty
  | .set items => !items.isEmpty
  | .dict items => !items.isEmpty
  | .object _ _ => true

/-- `iter(value)`, or `none` where Python raises `TypeError`. -/
def iterate : PyValue → Option (List PyValue)
  | .str s => some (s.map fun c => .str [c])
  | .bytes b => some (b.map fun byte => .int byte.toNat)
  | .list items => some items
  | .tuple items => some items
  | .set items => some items
  | .dict items => some (items.map Prod.fst)
  | _ => Option.none

mutual

/-- Whether `hash(value)` succeeds.  Containers that can change are unhashable. -/
def hashable : PyValue → Bool
  | .list _ => false
  | .set _ => false
  | .dict _ => false
  | .tuple items => hashableAll items
  | .none => true
  | .bool _ => true
  | .int _ => true
  | .float _ => true
  | .str _ => true
  | .bytes _ => true
  | .object _ _ => true

/-- Whether every element is hashable. -/
def hashableAll : List PyValue → Bool
  | [] => true
  | item :: rest => item.hashable && hashableAll rest

end

/-- `value in {texts}`: membership in a set of strings, or `none` where hashing
the value raises `TypeError`. -/
def memTexts (v : PyValue) (texts : List PyStr) : Option Bool :=
  if v.hashable then some (texts.any fun text => v.isText text) else Option.none

@[simp]
theorem isNone_none : PyValue.none.isNone = true := rfl

theorem isNone_iff {v : PyValue} : v.isNone = true ↔ v = .none := by
  cases v <;> simp [isNone]

theorem isText_iff {v : PyValue} {text : PyStr} : v.isText text = true ↔ v = .str text := by
  cases v <;> simp [isText]

@[simp]
theorem getAttr_object (cls : String) (attrs : List (String × PyValue)) (name : String) :
    (PyValue.object cls attrs).getAttr name = attrs.lookup name := rfl

@[simp]
theorem typeName_object (cls : String) (attrs : List (String × PyValue)) :
    (PyValue.object cls attrs).typeName = cls := rfl

/-- A class name outside the built-in ones belongs to an object. -/
theorem exists_object_of_typeName {v : PyValue} {cls : String} (h : v.typeName = cls)
    (hcls : cls ∉ ["NoneType", "bool", "int", "float", "str", "bytes", "list", "tuple", "set",
      "dict"]) : ∃ attrs, v = .object cls attrs := by
  cases v with
  | object name attrs => exact ⟨attrs, by rw [← h]; rfl⟩
  | none | bool | int | float | str | bytes | list | tuple | set | dict =>
    subst h
    simp [typeName] at hcls

end PyValue

end HermesClaude.Python
