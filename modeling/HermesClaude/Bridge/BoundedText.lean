/-
# Text cut in the middle

A text is normalised to words with one blank between them.  One that is still too
large keeps its beginning and its end, with a marker between them.  Two loops fill
one budget of bytes, from the front and from the back, and never meet.

A cut that falls next to a blank is not stable: the marker brings its own blanks, so
normalising again removes one of the two.
-/

import HermesClaude.Bridge.Tools
import Mathlib.Algebra.Order.BigOperators.Group.List
import Mathlib.Algebra.Order.Group.Nat
import Mathlib.Data.List.Chain
import Mathlib.Data.List.TakeWhile

namespace HermesClaude.Bridge

open HermesClaude.Python

variable {db : UnicodeDatabase} {redact : PyStr → PyStr} {limit : Nat} {s t text value : PyStr}

/-! ## Words with one blank between them -/

/-- A word of a text. -/
structure IsWord (word : PyStr) : Prop where
  ne_nil : word ≠ []
  solid : ∀ c ∈ word, c.isSpace = false

/-- Not two blanks in a row. -/
def Apart (c d : CodePoint) : Prop := c.isSpace = true → d.isSpace = false

instance : DecidableRel Apart := fun c d =>
  inferInstanceAs (Decidable (c.isSpace = true → d.isSpace = false))

/-- A blank is apart from a character that is none. -/
theorem Apart.left {c : CodePoint} (h : Apart c 0x20) : c.isSpace = false := by
  rw [← Bool.not_eq_true]
  intro hspace
  exact absurd (h hspace) (by decide)

theorem Apart.right {c : CodePoint} (h : Apart 0x20 c) : c.isSpace = false := h (by decide)

/-- Text in which nothing is left to normalise. -/
structure Collapsed (s : PyStr) : Prop where
  blanks : ∀ c ∈ s, c.isSpace = true → c = 0x20
  head : ∀ c ∈ s.head?, c.isSpace = false
  last : ∀ c ∈ s.getLast?, c.isSpace = false
  apart : s.IsChain Apart

theorem isSpace_blank : CodePoint.isSpace 0x20 = true := by decide

theorem lit_blank : lit " " = [0x20] := by decide

theorem IsWord.collapsed {word : PyStr} (h : IsWord word) : Collapsed word where
  blanks := by
    intro c hc hspace
    rw [h.solid c hc] at hspace
    cases hspace
  head := by
    intro c hc
    exact h.solid c (List.mem_of_mem_head? hc)
  last := by
    intro c hc
    exact h.solid c (List.mem_of_mem_getLast? hc)
  apart := by
    apply List.Pairwise.isChain
    apply List.pairwise_of_forall_mem_list
    intro c _ d hd _
    exact h.solid d hd

/-- A word, a blank and more text. -/
theorem IsWord.collapsed_append {word : PyStr} (h : IsWord word) (ht : Collapsed t) (hne : t ≠ []) :
    Collapsed (word ++ 0x20 :: t) where
  blanks := by
    intro c hc hspace
    rw [List.mem_append, List.mem_cons] at hc
    rcases hc with hc | rfl | hc
    · exact h.collapsed.blanks c hc hspace
    · rfl
    · exact ht.blanks c hc hspace
  head := by
    intro c hc
    rw [List.head?_append_of_ne_nil _ h.ne_nil] at hc
    exact h.collapsed.head c hc
  last := by
    intro c hc
    have hblank : (0x20 : CodePoint) :: t ≠ [] := List.cons_ne_nil _ _
    rw [List.getLast?_append_of_ne_nil _ hblank, List.getLast?_cons_of_ne_nil hne] at hc
    exact ht.last c hc
  apart := by
    rw [List.isChain_append, List.isChain_cons]
    refine ⟨h.collapsed.apart, ⟨?_, ht.apart⟩, ?_⟩
    · intro d hd _
      exact ht.head d hd
    · intro c hc d _ hspace
      rw [h.collapsed.last c hc] at hspace
      cases hspace

/-- The words of a text. -/
def wordsOf (s : PyStr) : List PyStr := (s.splitOnP CodePoint.isSpace).filter (· ≠ [])

theorem joinWords_eq (s : PyStr) : joinWords s = (lit " ").intercalate (wordsOf s) := rfl

/-- The pieces between blanks have none, and only characters of the text. -/
theorem mem_of_mem_splitOnP : ∀ piece ∈ s.splitOnP CodePoint.isSpace, ∀ c ∈ piece,
    c ∈ s ∧ c.isSpace = false := by
  induction s with
  | nil => simp
  | cons c rest ih =>
    have hrest : ∀ piece ∈ rest.splitOnP CodePoint.isSpace, ∀ d ∈ piece,
        d ∈ c :: rest ∧ d.isSpace = false := by
      intro piece hpiece d hd
      have hold := ih piece hpiece d hd
      exact ⟨List.mem_cons_of_mem _ hold.1, hold.2⟩
    intro piece hpiece
    rw [List.splitOnP_cons_eq_if_modifyHead] at hpiece
    cases hspace : c.isSpace with
    | true =>
      rw [if_pos hspace, List.mem_cons] at hpiece
      rcases hpiece with rfl | hpiece
      · simp
      · exact hrest piece hpiece
    | false =>
      rw [if_neg (by simp [hspace])] at hpiece
      cases hsplit : rest.splitOnP CodePoint.isSpace with
      | nil => exact absurd hsplit (List.splitOnP_ne_nil _ _)
      | cons first more =>
        rw [hsplit] at hrest hpiece
        rw [List.modifyHead_cons, List.mem_cons] at hpiece
        rcases hpiece with rfl | hpiece
        · exact List.forall_mem_cons.mpr
            ⟨⟨List.mem_cons_self, hspace⟩, hrest first List.mem_cons_self⟩
        · exact hrest piece (List.mem_cons_of_mem _ hpiece)

theorem mem_of_mem_intercalate {words : List PyStr} {c : CodePoint}
    (h : c ∈ (lit " ").intercalate words) : c = 0x20 ∨ ∃ word ∈ words, c ∈ word := by
  induction words with
  | nil => cases h
  | cons word words ih =>
    cases words with
    | nil =>
      rw [List.intercalate_singleton] at h
      exact Or.inr ⟨word, List.mem_cons_self, h⟩
    | cons next more =>
      rw [List.intercalate_cons_cons, List.mem_append, List.mem_append, lit_blank,
        List.mem_singleton, ← lit_blank] at h
      rcases h with (h | h) | h
      · exact Or.inr ⟨word, List.mem_cons_self, h⟩
      · exact Or.inl h
      · rcases ih h with hblank | ⟨found, hfound, hc⟩
        · exact Or.inl hblank
        · exact Or.inr ⟨found, List.mem_cons_of_mem _ hfound, hc⟩

theorem isWord_of_mem_wordsOf {word : PyStr} (h : word ∈ wordsOf s) : IsWord word := by
  rw [wordsOf, List.mem_filter] at h
  exact ⟨by simpa using h.2, fun c hc => (mem_of_mem_splitOnP word h.1 c hc).2⟩

theorem intercalate_ne_nil {word : PyStr} {words : List PyStr} (h : IsWord word) :
    (lit " ").intercalate (word :: words) ≠ [] := by
  cases words with
  | nil =>
    rw [List.intercalate_singleton]
    exact h.ne_nil
  | cons next more =>
    rw [List.intercalate_cons_cons]
    simp [h.ne_nil]

/-- Words joined by blanks. -/
theorem collapsed_intercalate {words : List PyStr} (h : ∀ word ∈ words, IsWord word) :
    Collapsed ((lit " ").intercalate words) := by
  induction words with
  | nil => exact ⟨by simp, by simp, by simp, List.isChain_nil⟩
  | cons word words ih =>
    rw [List.forall_mem_cons] at h
    cases words with
    | nil =>
      rw [List.intercalate_singleton]
      exact h.1.collapsed
    | cons next more =>
      rw [List.intercalate_cons_cons, lit_blank, List.append_assoc, List.singleton_append,
        ← lit_blank]
      exact h.1.collapsed_append (ih h.2) (intercalate_ne_nil (h.2 next List.mem_cons_self))

/-- Normalising adds nothing but blanks. -/
theorem mem_of_mem_joinWords {c : CodePoint} (h : c ∈ joinWords s) : c = 0x20 ∨ c ∈ s := by
  rcases mem_of_mem_intercalate h with hblank | ⟨word, hword, hc⟩
  · exact Or.inl hblank
  · exact Or.inr (mem_of_mem_splitOnP word (List.mem_of_mem_filter hword) c hc).1

/-- **Normalised text.** -/
theorem collapsed_joinWords (s : PyStr) : Collapsed (joinWords s) := by
  apply collapsed_intercalate
  intro word hword
  exact isWord_of_mem_wordsOf hword

theorem joinWords_of_isWord {word : PyStr} (h : IsWord word) : joinWords word = word := by
  rw [joinWords_eq, wordsOf, List.splitOnP_eq_singleton h.solid]
  simp [h.ne_nil]

theorem wordsOf_append {word : PyStr} (h : IsWord word) (t : PyStr) :
    wordsOf (word ++ 0x20 :: t) = word :: wordsOf t := by
  rw [wordsOf, List.splitOnP_append_cons_of_forall_mem h.solid _ isSpace_blank,
    List.filter_cons_of_pos (by simpa using h.ne_nil)]
  rfl

theorem joinWords_append {word : PyStr} (h : IsWord word) (ht : joinWords t = t) (hne : t ≠ []) :
    joinWords (word ++ 0x20 :: t) = word ++ 0x20 :: t := by
  have hwords : wordsOf t ≠ [] := by
    intro hnone
    rw [joinWords_eq, hnone, List.intercalate_nil] at ht
    exact hne ht.symm
  rw [joinWords_eq, wordsOf_append h, List.intercalate_cons_of_ne_nil hwords, ← joinWords_eq, ht,
    lit_blank, List.append_assoc, List.singleton_append]

/-- The first word of normalised text, and what follows the blank after it. -/
theorem Collapsed.cases (h : Collapsed s) (hne : s ≠ []) :
    IsWord s ∨ ∃ word t, IsWord word ∧ Collapsed t ∧ t ≠ [] ∧ s = word ++ 0x20 :: t := by
  have hsplit := List.takeWhile_append_dropWhile (p := fun c => !CodePoint.isSpace c) (l := s)
  have hsolid : ∀ c ∈ s.takeWhile fun c => !c.isSpace, c.isSpace = false := by
    intro c hc
    simpa using List.mem_takeWhile_imp hc
  have hfirst : (s.takeWhile fun c => !c.isSpace) ≠ [] := by
    cases s with
    | nil => exact absurd rfl hne
    | cons c rest =>
      rw [List.takeWhile_cons_of_pos (by simp [h.head c rfl])]
      exact List.cons_ne_nil _ _
  cases hrest : s.dropWhile fun c => !c.isSpace with
  | nil =>
    rw [hrest, List.append_nil] at hsplit
    rw [hsplit] at hsolid
    exact Or.inl ⟨hne, hsolid⟩
  | cons c t =>
    have hspace : c.isSpace = true := by
      have hstops := List.head?_dropWhile_not (fun c => !CodePoint.isSpace c) s
      rw [hrest] at hstops
      simpa using hstops
    rw [hrest] at hsplit
    have hc : c = 0x20 := by
      apply h.blanks c _ hspace
      rw [← hsplit]
      simp
    subst hc
    rw [← hsplit] at h
    have hchain := List.isChain_cons.mp (List.isChain_append.mp h.apart).2.1
    have ht : t ≠ [] := by
      rintro rfl
      have hblank := h.last 0x20 (by simp)
      rw [isSpace_blank] at hblank
      cases hblank
    refine Or.inr ⟨_, t, ⟨hfirst, hsolid⟩, ?_, ht, hsplit.symm⟩
    constructor
    · intro c hc hblank
      exact h.blanks c (by simp [hc]) hblank
    · intro c hc
      exact hchain.1 c hc isSpace_blank
    · intro c hc
      apply h.last c
      rw [List.getLast?_append_of_ne_nil _ (List.cons_ne_nil _ _), List.getLast?_cons_of_ne_nil ht]
      exact hc
    · exact hchain.2

/-- Normalised text is left alone. -/
theorem Collapsed.joinWords_eq_self (h : Collapsed s) : joinWords s = s := by
  induction hlength : s.length using Nat.strongRecOn generalizing s with
  | ind n ih =>
    subst hlength
    by_cases hne : s = []
    · subst hne
      rfl
    · rcases h.cases hne with hword | ⟨word, t, hword, ht, htne, rfl⟩
      · exact joinWords_of_isWord hword
      · have hshort : t.length < (word ++ 0x20 :: t).length := by
          rw [List.length_append, List.length_cons]
          omega
        exact joinWords_append hword (ih _ hshort ht rfl) htne

theorem joinWords_eq_self_iff (s : PyStr) : joinWords s = s ↔ Collapsed s := by
  constructor
  · intro h
    rw [← h]
    exact collapsed_joinWords s
  · exact Collapsed.joinWords_eq_self

/-! ## The two loops -/

@[simp]
theorem byteCount_append (s t : PyStr) : byteCount (s ++ t) = byteCount s + byteCount t := by
  rw [byteCount, List.map_append, List.sum_append]
  rfl

theorem byteCount_reverse (s : PyStr) : byteCount s.reverse = byteCount s := by
  rw [byteCount, List.map_reverse, List.sum_reverse]
  rfl

theorem byteCount_takeBytes_le (limit : Nat) (s : PyStr) : byteCount (takeBytes limit s) ≤ limit := by
  induction s generalizing limit with
  | nil => exact Nat.zero_le _
  | cons c rest ih =>
    rw [takeBytes]
    split
    · exact Nat.zero_le _
    · have hrest := ih (limit - c.utf8Width)
      rw [byteCount, List.map_cons, List.sum_cons, ← byteCount]
      omega

theorem prefix_takeBytes (limit : Nat) (s : PyStr) : takeBytes limit s <+: s := by
  induction s generalizing limit with
  | nil => exact List.prefix_refl _
  | cons c rest ih =>
    rw [takeBytes]
    split
    · exact List.nil_prefix
    · exact List.cons_prefix_cons.mpr ⟨rfl, ih _⟩

/-- The size of pieces with one more byte for each. -/
def pieceBytes (pieces : List PyStr) : Nat := (pieces.map fun piece => byteCount piece + 1).sum

theorem one_le_utf8Width (c : CodePoint) : 1 ≤ c.utf8Width := by
  unfold CodePoint.utf8Width
  split_ifs <;> omega

/-- A separator has at least one byte. -/
theorem pieceBytes_splitOnP_le (s : PyStr) :
    pieceBytes (s.splitOnP CodePoint.isSpace) ≤ byteCount s + 1 := by
  induction s with
  | nil => exact Nat.le_refl _
  | cons c rest ih =>
    have hwidth := one_le_utf8Width c
    have hcount : byteCount (c :: rest) = c.utf8Width + byteCount rest := by
      rw [byteCount, List.map_cons, List.sum_cons, ← byteCount]
    rw [List.splitOnP_cons_eq_if_modifyHead]
    split
    · have hempty : pieceBytes ([] :: rest.splitOnP CodePoint.isSpace) =
          1 + pieceBytes (rest.splitOnP CodePoint.isSpace) := rfl
      omega
    · cases hsplit : rest.splitOnP CodePoint.isSpace with
      | nil => exact absurd hsplit (List.splitOnP_ne_nil _ _)
      | cons first more =>
        rw [hsplit, pieceBytes, List.map_cons, List.sum_cons] at ih
        rw [List.modifyHead_cons, pieceBytes, List.map_cons, List.sum_cons, byteCount,
          List.map_cons, List.sum_cons, ← byteCount]
        omega

theorem byteCount_intercalate_le (word : PyStr) (words : List PyStr) :
    byteCount ((lit " ").intercalate (word :: words)) + 1 ≤ pieceBytes (word :: words) := by
  induction words generalizing word with
  | nil => rw [List.intercalate_singleton]; exact Nat.le_refl _
  | cons next more ih =>
    have hmore := ih next
    have hblank : byteCount (lit " ") = 1 := by decide
    rw [List.intercalate_cons_cons, byteCount_append, byteCount_append, hblank, pieceBytes,
      List.map_cons, List.sum_cons, ← pieceBytes]
    omega

/-- Normalising makes no text larger. -/
theorem byteCount_joinWords_le (s : PyStr) : byteCount (joinWords s) ≤ byteCount s := by
  have hpieces := pieceBytes_splitOnP_le s
  have hfilter : pieceBytes (wordsOf s) ≤ pieceBytes (s.splitOnP CodePoint.isSpace) :=
    (List.filter_sublist.map _).sum_le_sum (by simp)
  rw [joinWords_eq]
  cases hwords : wordsOf s with
  | nil => exact Nat.zero_le _
  | cons word words =>
    have hjoin := byteCount_intercalate_le word words
    rw [hwords] at hfilter
    omega

/-- A prefix and a suffix that are too small together to cover a text do not meet. -/
theorem exists_middle (hs : s <+: text) (ht : t <:+ text)
    (hsize : byteCount s + byteCount t < byteCount text) : ∃ middle, text = s ++ middle ++ t := by
  rcases hs with ⟨rest, rfl⟩
  rw [byteCount_append] at hsize
  rcases List.suffix_or_suffix_of_suffix ht (List.suffix_append s rest) with hshort | hlong
  · rcases hshort with ⟨middle, rfl⟩
    exact ⟨middle, (List.append_assoc _ _ _).symm⟩
  · rcases hlong with ⟨more, rfl⟩
    rw [byteCount_append] at hsize
    omega

/-- The bytes left for the text beside the marker. -/
def remainingBytes (limit : Nat) : Nat := limit - byteCount truncationMarker

/-- `head_chars`. -/
def headChars (limit : Nat) (value : PyStr) : PyStr := takeBytes (remainingBytes limit / 2) value

/-- `tail_chars`, in the order of the text. -/
def tailChars (limit : Nat) (value : PyStr) : PyStr :=
  (takeBytes (remainingBytes limit - remainingBytes limit / 2) value.reverse).reverse

/-- The text that `_bounded_text` measures and cuts. -/
def normalized (db : UnicodeDatabase) (value : PyStr) : PyStr :=
  joinWords (value.map fun c => if db.isOther c then 0x20 else c)

theorem prefix_headChars (limit : Nat) (value : PyStr) : headChars limit value <+: value :=
  prefix_takeBytes _ _

theorem tailChars_suffix (limit : Nat) (value : PyStr) : tailChars limit value <:+ value := by
  rw [← List.reverse_prefix, tailChars, List.reverse_reverse]
  exact prefix_takeBytes _ _

/-- The two loops share the budget. -/
theorem byteCount_chars_le (limit : Nat) (value : PyStr) :
    byteCount (headChars limit value) + byteCount (tailChars limit value) ≤ remainingBytes limit := by
  have hhead := byteCount_takeBytes_le (remainingBytes limit / 2) value
  have htail := byteCount_takeBytes_le (remainingBytes limit - remainingBytes limit / 2)
    value.reverse
  rw [headChars, tailChars, byteCount_reverse]
  omega

/-! ## Bounded text -/

theorem isOther_blank : db.isOther 0x20 = false := by
  rw [db.isOther_ascii 0x20 (by decide)]
  decide

/-- Nothing of a category C is left. -/
theorem isOther_of_mem_normalized {c : CodePoint} (h : c ∈ normalized db value) :
    db.isOther c = false := by
  rcases mem_of_mem_joinWords h with rfl | hc
  · exact isOther_blank
  · rcases List.mem_map.mp hc with ⟨d, _, rfl⟩
    split
    · exact isOther_blank
    · simpa using ‹¬db.isOther d = true›

/-- Text with nothing of a category C has an encoding. -/
theorem utf8Size_eq (h : ∀ c ∈ s, db.isOther c = false) : utf8Size s = some (byteCount s) := by
  have hnone : s.any CodePoint.isSurrogate = false := by
    rw [List.any_eq_false]
    intro c hc hsurrogate
    have hother := h c hc
    rw [db.isOther_surrogate c hsurrogate] at hother
    cases hother
  rw [utf8Size, hnone]
  rfl

theorem normalized_eq_joinWords (h : ∀ c ∈ s, db.isOther c = false) :
    normalized db s = joinWords s := by
  have hmap : (s.map fun c => if db.isOther c then 0x20 else c) = s := by
    conv_rhs => rw [← List.map_id s]
    apply List.map_congr_left
    intro c hc
    rw [h c hc]
    rfl
  rw [normalized, hmap]

/-- What the function returns, with a name for each part. -/
theorem boundedText_eq (db : UnicodeDatabase) (redact : PyStr → PyStr) (value : PyStr)
    (hlimit : byteCount truncationMarker < limit) :
    boundedText db redact value limit =
      let text := normalized db (redact value)
      if byteCount text ≤ limit then some text
      else some (headChars limit text ++ truncationMarker ++ tailChars limit text) := by
  have hclear : ∀ c ∈ normalized db (redact value), db.isOther c = false :=
    fun c hc => isOther_of_mem_normalized hc
  have hsize := utf8Size_eq hclear
  rw [normalized] at hsize
  simp only [boundedText, hsize]
  rw [if_neg (Nat.not_le.mpr hlimit)]
  rfl

/-- The cut leaves a character that is no blank on both sides of the marker. -/
structure CutInsideWords (limit : Nat) (text : PyStr) : Prop where
  head : ∃ c ∈ (headChars limit text).getLast?, c.isSpace = false
  tail : ∃ c ∈ (tailChars limit text).head?, c.isSpace = false

theorem head?_truncationMarker : truncationMarker.head? = some 0x20 := by decide

theorem getLast?_truncationMarker : truncationMarker.getLast? = some 0x20 := by decide

theorem isChain_truncationMarker : truncationMarker.IsChain Apart := by decide

theorem blanks_truncationMarker : ∀ c ∈ truncationMarker, c.isSpace = true → c = 0x20 := by
  have hall : (truncationMarker.all fun c => !c.isSpace || c == 0x20) = true := by decide
  intro c hc hspace
  have hblank := List.all_eq_true.mp hall c hc
  rw [hspace] at hblank
  simpa using hblank

theorem truncationMarker_ne_nil : truncationMarker ≠ [] := by decide

/-- Beside a marker, which begins and ends with a blank, no piece may have one. -/
theorem Collapsed.beside_marker (h : Collapsed (s ++ truncationMarker ++ t)) :
    (∃ c ∈ s.getLast?, c.isSpace = false) ∧ ∃ c ∈ t.head?, c.isSpace = false := by
  have hchain := List.isChain_append.mp h.apart
  constructor
  · cases s using List.reverseRecOn with
    | nil =>
      have hblank := h.head 0x20 (by simp [List.head?_append, head?_truncationMarker])
      cases isSpace_blank.symm.trans hblank
    | append_singleton init c =>
      have hjoin := (List.isChain_append.mp hchain.1).2.2 c (by simp) 0x20 head?_truncationMarker
      exact ⟨c, by simp, hjoin.left⟩
  · have hend : (s ++ truncationMarker).getLast? = some 0x20 := by
      rw [List.getLast?_append_of_ne_nil _ truncationMarker_ne_nil, getLast?_truncationMarker]
    cases t with
    | nil =>
      rw [List.append_nil] at h
      cases isSpace_blank.symm.trans (h.last 0x20 hend)
    | cons c rest => exact ⟨c, rfl, (hchain.2.2 0x20 hend c rfl).right⟩

/-- A marker between two pieces of normalised text that do not touch it with a blank. -/
theorem Collapsed.marked (h : Collapsed text) (hs : s <+: text) (ht : t <:+ text)
    (hlast : ∃ c ∈ s.getLast?, c.isSpace = false) (hhead : ∃ c ∈ t.head?, c.isSpace = false) :
    Collapsed (s ++ truncationMarker ++ t) := by
  rcases hlast with ⟨c, hc, hcsolid⟩
  rcases hhead with ⟨d, hd, hdsolid⟩
  have hsne : s ≠ [] := List.ne_nil_of_mem (List.mem_of_mem_getLast? hc)
  have htne : t ≠ [] := List.ne_nil_of_mem (List.mem_of_mem_head? hd)
  constructor
  · intro e he
    rw [List.mem_append, List.mem_append] at he
    rcases he with (he | he) | he
    · exact h.blanks e (hs.subset he)
    · exact blanks_truncationMarker e he
    · exact h.blanks e (ht.subset he)
  · intro e he
    apply h.head e
    rcases hs with ⟨rest, rfl⟩
    rw [List.append_assoc, List.head?_append_of_ne_nil _ hsne] at he
    rwa [List.head?_append_of_ne_nil _ hsne]
  · intro e he
    apply h.last e
    rcases ht with ⟨rest, rfl⟩
    rw [List.getLast?_append_of_ne_nil _ htne] at he
    rwa [List.getLast?_append_of_ne_nil _ htne]
  · have hschain : s.IsChain Apart := by
      rcases hs with ⟨rest, rfl⟩
      exact (List.isChain_append.mp h.apart).1
    have htchain : t.IsChain Apart := by
      rcases ht with ⟨rest, rfl⟩
      exact (List.isChain_append.mp h.apart).2.1
    apply List.IsChain.append (hschain.append isChain_truncationMarker _) htchain
    · intro e _ f hf _
      rw [Option.mem_unique hf hd]
      exact hdsolid
    · intro e he f _ hspace
      rw [Option.mem_unique he hc, hcsolid] at hspace
      cases hspace

/-- The horizontal ellipsis is the marker's only character beyond ASCII. -/
theorem isOther_of_mem_truncationMarker (hellipsis : db.isOther 0x2026 = false) :
    ∀ c ∈ truncationMarker, db.isOther c = false := by
  have hall : (truncationMarker.all fun c =>
      c == 0x2026 || (decide (c.val < 128) && !c.isAsciiControl)) = true := by decide
  intro c hc
  have hkind := List.all_eq_true.mp hall c hc
  rw [Bool.or_eq_true, Bool.and_eq_true, beq_iff_eq, decide_eq_true_eq] at hkind
  rcases hkind with rfl | ⟨hascii, hcontrol⟩
  · exact hellipsis
  · rw [db.isOther_ascii c hascii]
    simpa using hcontrol

theorem isOther_of_mem_cut (limit : Nat) (hellipsis : db.isOther 0x2026 = false)
    (htext : ∀ c ∈ text, db.isOther c = false) :
    ∀ c ∈ headChars limit text ++ truncationMarker ++ tailChars limit text,
      db.isOther c = false := by
  intro c hc
  rw [List.mem_append, List.mem_append] at hc
  rcases hc with (hc | hc) | hc
  · exact htext c ((prefix_headChars limit text).subset hc)
  · exact isOther_of_mem_truncationMarker hellipsis c hc
  · exact htext c ((tailChars_suffix limit text).subset hc)

/-- Text of the right size is returned as it is exactly if nothing is left to normalise. -/
theorem boundedText_eq_self_iff (hlimit : byteCount truncationMarker < limit)
    (hs : ∀ c ∈ s, db.isOther c = false) (hsize : byteCount s ≤ limit) :
    boundedText db id s limit = some s ↔ Collapsed s := by
  rw [boundedText_eq _ _ _ hlimit, id, normalized_eq_joinWords hs, ← joinWords_eq_self_iff]
  simp only [if_pos ((byteCount_joinWords_le s).trans hsize), Option.some.injEq]

theorem byteCount_cut_le (hlimit : byteCount truncationMarker < limit) (text : PyStr) :
    byteCount (headChars limit text ++ truncationMarker ++ tailChars limit text) ≤ limit := by
  have hchars := byteCount_chars_le limit text
  rw [remainingBytes] at hchars
  rw [byteCount_append, byteCount_append]
  omega

/-- The two ends that are kept of a long text do not overlap. -/
theorem exists_middle_of_lt (hlong : limit < byteCount text) :
    ∃ middle, text = headChars limit text ++ middle ++ tailChars limit text := by
  have hchars := byteCount_chars_le limit text
  rw [remainingBytes] at hchars
  have hbudget : byteCount (headChars limit text) + byteCount (tailChars limit text) < byteCount text := by
    omega
  exact exists_middle (prefix_headChars limit text) (tailChars_suffix limit text) hbudget

/-- A text that was cut is returned as it is exactly if it was cut inside words. -/
theorem boundedText_cut_eq_self_iff (hellipsis : db.isOther 0x2026 = false)
    (hlimit : byteCount truncationMarker < limit) (htext : ∀ c ∈ text, db.isOther c = false)
    (hcollapsed : Collapsed text) :
    boundedText db id (headChars limit text ++ truncationMarker ++ tailChars limit text) limit =
        some (headChars limit text ++ truncationMarker ++ tailChars limit text) ↔
      CutInsideWords limit text := by
  have hother := isOther_of_mem_cut limit hellipsis htext
  rw [boundedText_eq_self_iff hlimit hother (byteCount_cut_le hlimit text)]
  constructor
  · intro h
    have hbeside := h.beside_marker
    exact ⟨hbeside.1, hbeside.2⟩
  · intro hcut
    exact hcollapsed.marked (prefix_headChars limit text) (tailChars_suffix limit text) hcut.head hcut.tail

/-- **Bounded text is faithful.**  It is the normalised text if that fits, otherwise its
beginning, the marker and its end, which do not overlap.  Bounding it again changes
nothing exactly if the text was not cut, or was cut inside words. -/
theorem bounded_text_faithful (hellipsis : db.isOther 0x2026 = false)
    (hlimit : byteCount truncationMarker < limit) (redact : PyStr → PyStr) (value : PyStr) :
    let text := normalized db (redact value)
    ∃ result, boundedText db redact value limit = some result ∧
      (∃ size ≤ limit, utf8Size result = some size) ∧
      (byteCount text ≤ limit → result = text) ∧
      (limit < byteCount text →
        result = headChars limit text ++ truncationMarker ++ tailChars limit text ∧
          ∃ middle, text = headChars limit text ++ middle ++ tailChars limit text) ∧
      (boundedText db id result limit = some result ↔
        byteCount text ≤ limit ∨ CutInsideWords limit text) := by
  intro text
  have htext : ∀ c ∈ text, db.isOther c = false := fun c hc => isOther_of_mem_normalized hc
  have hcollapsed : Collapsed text := collapsed_joinWords _
  have hresult := boundedText_eq db redact value hlimit
  rw [show normalized db (redact value) = text from rfl] at hresult
  by_cases hfits : byteCount text ≤ limit
  · simp only [if_pos hfits] at hresult
    refine ⟨text, hresult, ⟨_, hfits, utf8Size_eq htext⟩, fun _ => rfl, ?_, ?_⟩
    · intro hlong
      exact absurd hfits (Nat.not_le.mpr hlong)
    · rw [boundedText_eq_self_iff hlimit htext hfits]
      exact ⟨fun _ => Or.inl hfits, fun _ => hcollapsed⟩
  · simp only [if_neg hfits] at hresult
    have hother := isOther_of_mem_cut limit hellipsis htext
    refine ⟨_, hresult, ⟨_, byteCount_cut_le hlimit text, utf8Size_eq hother⟩, ?_, ?_, ?_⟩
    · intro hshort
      exact absurd hshort hfits
    · intro hlong
      exact ⟨rfl, exists_middle_of_lt hlong⟩
    · rw [boundedText_cut_eq_self_iff hellipsis hlimit htext hcollapsed, or_iff_right hfits]

/-- A text with a blank at the cut. -/
def blankAtCut : PyStr := lit "a bcdefghijklmnopqrstuvwxyz"

theorem bounded_text_faithful_blankAtCut :
    asciiDatabase.isOther 0x2026 = false ∧ byteCount truncationMarker < 25 ∧
      ∃ result, boundedText asciiDatabase id blankAtCut 25 = some result ∧
        (∃ size ≤ 25, utf8Size result = some size) ∧
        (byteCount blankAtCut ≤ 25 → result = blankAtCut) ∧
        (25 < byteCount blankAtCut →
          result = lit "a " ++ truncationMarker ++ lit "yz" ∧
            ∃ middle, blankAtCut = lit "a " ++ middle ++ lit "yz") ∧
        (boundedText asciiDatabase id result 25 = some result ↔
          byteCount blankAtCut ≤ 25 ∨ CutInsideWords 25 blankAtCut) := by
  have hnormalized : normalized asciiDatabase (id blankAtCut) = blankAtCut := by decide
  have hhead : headChars 25 blankAtCut = lit "a " := by decide
  have htail : tailChars 25 blankAtCut = lit "yz" := by decide
  have hfaithful := @bounded_text_faithful asciiDatabase 25 (by decide) (by decide) id blankAtCut
  dsimp only at hfaithful
  rw [hnormalized, hhead, htail] at hfaithful
  exact ⟨by decide, by decide, hfaithful⟩

/-- The blank before the marker is removed the second time. -/
theorem bounded_text_not_stable :
    ∃ result, boundedText asciiDatabase id blankAtCut 25 = some result ∧
      boundedText asciiDatabase id result 25 ≠ some result := by
  refine ⟨lit "a " ++ truncationMarker ++ lit "yz", by decide, by decide⟩

end HermesClaude.Bridge
