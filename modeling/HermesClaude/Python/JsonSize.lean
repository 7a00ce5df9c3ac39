/-
# How long a document is

The number of bytes that the encoder writes for a document, counted over the document
itself: the layout adds a fixed width to every item of a container.
-/

import HermesClaude.Python.JsonSorted

namespace HermesClaude.Python

theorem utf8Size_append (text text' : PyStr) :
    utf8Size (text ++ text') =
      (utf8Size text).bind fun size => (utf8Size text').map fun size' => size + size' := by
  unfold utf8Size
  rw [List.any_append, List.map_append, List.sum_append]
  by_cases hfirst : text.any CodePoint.isSurrogate = true
  · simp [hfirst]
  · by_cases hsecond : text'.any CodePoint.isSurrogate = true
    · simp [hfirst, hsecond]
    · simp [hfirst, hsecond]

/-- An ASCII character takes one byte. -/
theorem utf8Size_cons {c : CodePoint} (hc : c.val < 0x80) (text : PyStr) :
    utf8Size (c :: text) = (utf8Size text).map (1 + ·) := by
  have hone : utf8Size [c] = some 1 := by
    have hplain : c.isSurrogate = false := by
      rw [CodePoint.isSurrogate]
      simp
      omega
    simp [utf8Size, hplain, CodePoint.utf8Width, hc]
  rw [← List.singleton_append, utf8Size_append, hone]
  rfl

theorem utf8Size_ascii {text : PyStr} (h : ∀ c ∈ text, c.val < 0x80) :
    utf8Size text = some text.length := by
  induction text with
  | nil => rfl
  | cons c text ih =>
    obtain ⟨hc, htext⟩ := List.forall_mem_cons.mp h
    rw [utf8Size_cons hc, ih htext, Option.map_some, List.length_cons, Nat.add_comm]

/-- The size of several texts. -/
def totalSize : List PyStr → Option Nat
  | [] => some 0
  | text :: texts => (utf8Size text).bind fun size => (totalSize texts).map fun total => size + total

theorem totalSize_perm {texts texts' : List PyStr} (h : texts.Perm texts') :
    totalSize texts = totalSize texts' := by
  induction h with
  | nil => rfl
  | cons text _ ih => rw [totalSize, totalSize, ih]
  | swap first second texts =>
    simp only [totalSize]
    cases utf8Size first with
    | none => cases utf8Size second <;> rfl
    | some m =>
      cases utf8Size second with
      | none => rfl
      | some n =>
        cases totalSize texts with
        | none => rfl
        | some total =>
          simp only [Option.bind_some, Option.map_some, Option.some.injEq]
          omega
  | trans _ _ ih ih' => rw [ih, ih']

namespace JSONEncoder

variable (encoder : JSONEncoder)

/-- The width of a line break and the indentation behind it. -/
def newlineSize (level : Nat) : Nat :=
  match encoder.indent with
  | none => 0
  | some width => 1 + width * level

/-- The size of a container of so many items of a total size. -/
def containerSize (level count total : Nat) : Nat :=
  if count = 0 then 2
  else 1 + count * (encoder.newlineSize (level + 1) + 1) + total + encoder.newlineSize level

mutual

/-- The size of the text of a document. -/
def size (level : Nat) : Json → Option Nat
  | .null => some 4
  | .bool true => some 4
  | .bool false => some 5
  | .int i => (intRepr i).bind utf8Size
  | .float q => utf8Size (encoder.floats.repr q)
  | .str s => utf8Size (encodeString s)
  | .list items => (sizeList (level + 1) items).map (encoder.containerSize level items.length)
  | .dict items => (sizeItems (level + 1) items).map (encoder.containerSize level items.length)

/-- The size of the items of an array. -/
def sizeList (level : Nat) : List Json → Option Nat
  | [] => some 0
  | item :: items =>
    (size level item).bind fun first => (sizeList level items).map fun total => first + total

/-- The size of the entries of an object. -/
def sizeItems (level : Nat) : List (PyStr × Json) → Option Nat
  | [] => some 0
  | (key, item) :: items => do
    let keySize ← utf8Size (encodeString key ++ encoder.keySeparator)
    let valueSize ← size level item
    let total ← sizeItems level items
    pure (keySize + valueSize + total)

end

variable {encoder}

theorem utf8Size_newline (level : Nat) :
    utf8Size (encoder.newline level) = some (encoder.newlineSize level) := by
  unfold newline newlineSize
  cases encoder.indent with
  | none => rfl
  | some width =>
    rw [utf8Size_ascii]
    · simp [Nat.add_comm]
    · intro c hc
      rcases List.mem_cons.mp hc with rfl | hc
      · decide
      · rw [List.eq_of_mem_replicate hc]
        decide

theorem utf8Size_closeItems {closing : CodePoint} (hclosing : closing.val < 0x80) (level : Nat)
    (texts : List PyStr) :
    utf8Size (encoder.closeItems closing level texts) = (totalSize texts).map fun total =>
      texts.length * (encoder.newlineSize (level + 1) + 1) + total + encoder.newlineSize level + 1 := by
  induction texts with
  | nil =>
    rw [closeItems, utf8Size_append, utf8Size_newline, utf8Size_cons hclosing]
    simp [totalSize, utf8Size]
  | cons text texts ih =>
    rw [closeItems, utf8Size_cons (by decide), utf8Size_append, utf8Size_newline, utf8Size_append, ih,
      totalSize]
    cases utf8Size text with
    | none => rfl
    | some size =>
      cases totalSize texts with
      | none => rfl
      | some total =>
        simp only [Option.bind_some, Option.map_some, Option.some.injEq, List.length_cons,
          Nat.add_mul]
        omega

theorem utf8Size_enclose {opening closing : CodePoint} (hopening : opening.val < 0x80)
    (hclosing : closing.val < 0x80) (level : Nat) (texts : List PyStr) :
    utf8Size (encoder.enclose opening closing level texts) =
      (totalSize texts).map (encoder.containerSize level texts.length) := by
  cases texts with
  | nil =>
    rw [enclose, utf8Size_cons hopening, utf8Size_cons hclosing]
    rfl
  | cons text texts =>
    rw [enclose, utf8Size_cons hopening, utf8Size_append, utf8Size_newline, utf8Size_append,
      utf8Size_closeItems hclosing, totalSize]
    cases utf8Size text with
    | none => rfl
    | some size =>
      cases totalSize texts with
      | none => rfl
      | some total =>
        simp only [Option.bind_some, Option.map_some, Option.some.injEq, List.length_cons,
          containerSize, Nat.add_mul, Nat.succ_ne_zero, if_false]
        omega

theorem encodeList_length {level : Nat} {items : List Json} {texts : List PyStr}
    (h : encoder.encodeList level items = some texts) : texts.length = items.length := by
  induction items generalizing texts with
  | nil =>
    cases h
    rfl
  | cons item items ih =>
    simp only [encodeList, Option.bind_eq_bind, Option.bind_eq_some_iff] at h
    obtain ⟨text, -, rest, hrest, h⟩ := h
    cases h
    rw [List.length_cons, List.length_cons, ih hrest]

mutual

/-- The size of a document is that of its text. -/
theorem utf8Size_encode (level : Nat) (value : Json) :
    (encoder.encode level value).bind utf8Size = encoder.size level value := by
  match value with
  | .null | .bool true | .bool false | .int _ | .float _ | .str _ => rfl
  | .list items =>
    rw [encode, size, ← totalSize_encodeList (level + 1) items]
    cases htexts : encoder.encodeList (level + 1) items with
    | none => rfl
    | some texts =>
      rw [Option.map_some, Option.bind_some, utf8Size_enclose (by decide) (by decide),
        encodeList_length htexts]
      rfl
  | .dict items =>
    rw [encode, size, ← totalSize_encodeItems (level + 1) items]
    cases hfields : encoder.encodeItems (level + 1) items with
    | none => rfl
    | some fields =>
      have hlength : fields.length = items.length := by
        rw [← List.length_map Prod.fst, encodeItems_keys hfields, List.length_map]
      rw [Option.map_some, Option.bind_some, utf8Size_enclose (by decide) (by decide),
        totalSize_perm ((sortItems_perm fields).map encoder.entry), List.length_map,
        (sortItems_perm fields).length_eq, hlength]
      rfl

theorem totalSize_encodeList (level : Nat) (items : List Json) :
    (encoder.encodeList level items).bind totalSize = encoder.sizeList level items := by
  match items with
  | [] => rfl
  | item :: items =>
    rw [encodeList, sizeList, ← utf8Size_encode level item, ← totalSize_encodeList level items]
    cases encoder.encode level item with
    | none => rfl
    | some text =>
      cases encoder.encodeList level items with
      | none => simp
      | some texts => rfl

theorem totalSize_encodeItems (level : Nat) (items : List (PyStr × Json)) :
    ((encoder.encodeItems level items).bind fun fields => totalSize (fields.map encoder.entry)) =
      encoder.sizeItems level items := by
  match items with
  | [] => rfl
  | (key, item) :: items =>
    rw [encodeItems, sizeItems, ← utf8Size_encode level item, ← totalSize_encodeItems level items]
    cases encoder.encode level item with
    | none => simp
    | some text =>
      cases encoder.encodeItems level items with
      | none => simp
      | some fields =>
        have hentry : utf8Size (encoder.entry (key, text)) =
            (utf8Size (encodeString key ++ encoder.keySeparator)).bind fun size =>
              (utf8Size text).map fun size' => size + size' := by
          rw [← utf8Size_append, entry, List.append_assoc]
        simp only [Option.bind_eq_bind, Option.bind_some, Option.pure_def, List.map_cons, totalSize,
          hentry]
        cases utf8Size (encodeString key ++ encoder.keySeparator) with
        | none => rfl
        | some size =>
          cases utf8Size text with
          | none => rfl
          | some size' =>
            cases totalSize (fields.map encoder.entry) with
            | none => rfl
            | some total => rfl

end

end JSONEncoder

end HermesClaude.Python
