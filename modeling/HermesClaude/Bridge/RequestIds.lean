/-
# Request ids that the bridge makes

A call that comes without a request id gets one: the correlation of the turn, or nothing where
that would be too long, and the number of the call on the bridge.  The number can be read off
the id again, whatever stands before it, so that no two calls of a bridge share an id, across
turns with any correlations.

An id is made when its call begins and before it waits for anything, so that calls that
overlap have their ids in the order in which they began.
-/

import HermesClaude.Bridge.Calls
import HermesClaude.Library.System
import HermesClaude.Python.JsonText

namespace HermesClaude.Bridge

open HermesClaude.Python HermesClaude.Library

universe u

/-! ## Reading the number of an id -/

/-- The digits at the end of a text. -/
def endDigits (s : PyStr) : PyStr := (s.reverse.takeWhile CodePoint.isDigit).reverse

/-- The number that a text ends in. -/
def idNumber (s : PyStr) : Nat := ofDecimal (endDigits s)

theorem endDigits_append {s digits : PyStr} {c : CodePoint} (hc : c.isDigit = false)
    (hdigits : ∀ d ∈ digits, d.isDigit = true) : endDigits (s ++ c :: digits) = digits := by
  have hreverse : (s ++ c :: digits).reverse = digits.reverse ++ c :: s.reverse := by simp
  have hstops : (c :: s.reverse).takeWhile CodePoint.isDigit = [] :=
    List.takeWhile_cons_of_neg (by simp [hc])
  rw [endDigits, hreverse, List.takeWhile_append_of_pos, hstops, List.append_nil, List.reverse_reverse]
  intro d hd
  exact hdigits d (List.mem_reverse.mp hd)

theorem lit_toString (n : Nat) : lit (toString n) = decimal n := by
  rw [lit, decimal, Nat.toString_eq_repr, Nat.toList_repr]

/-- Zeros before a number do not change it. -/
theorem ofDecimal_zeros (k : Nat) (digits : PyStr) :
    ofDecimal (List.replicate k 0x30 ++ digits) = ofDecimal digits := by
  induction k with
  | zero => rfl
  | succ k ih =>
    rw [List.replicate_succ, List.cons_append]
    exact ih

theorem isDigit_of_mem_paddedCount {n : Nat} {c : CodePoint} (h : c ∈ HostToolBridge.paddedCount n) :
    c.isDigit = true := by
  unfold HostToolBridge.paddedCount at h
  rw [lit_toString] at h
  rcases List.mem_append.mp h with h | h
  · rw [List.eq_of_mem_replicate h]
    decide
  · exact decimal_isDigit h

theorem ofDecimal_paddedCount (n : Nat) : ofDecimal (HostToolBridge.paddedCount n) = n := by
  unfold HostToolBridge.paddedCount
  rw [lit_toString, ofDecimal_zeros, ofDecimal_decimal]

/-- The number of a call, behind whatever its id begins with. -/
theorem idNumber_call (start : PyStr) (n : Nat) :
    idNumber (start ++ (lit "sdk-call-" ++ HostToolBridge.paddedCount n)) = n := by
  have hcall : lit "sdk-call-" = lit "sdk-call" ++ [0x2D] := by decide
  have hsplit : start ++ (lit "sdk-call-" ++ HostToolBridge.paddedCount n) =
      (start ++ lit "sdk-call") ++ 0x2D :: HostToolBridge.paddedCount n := by
    rw [hcall]
    simp only [List.append_assoc, List.cons_append, List.nil_append]
  rw [idNumber, hsplit, endDigits_append (by decide) fun d hd => isDigit_of_mem_paddedCount hd,
    ofDecimal_paddedCount]

/-! ## Accepted ids -/

theorem safeIdentifier_eq_some {s id : PyStr} {limit : Nat} (h : safeIdentifier (.str s) limit = some id) :
    id = s := by
  have hsame : some s = some id := (Option.ite_none_right_eq_some.mp h).2
  exact (Option.some.inj hsame).symm

theorem utf8Width_of_isIdentifier {c : CodePoint} (h : c.isIdentifier = true) :
    c.utf8Width = 1 ∧ c.isSurrogate = false := by
  have hlt : c.val < 0x80 := by
    simp only [CodePoint.isIdentifier, Bool.or_eq_true, Bool.and_eq_true, decide_eq_true_eq,
      beq_iff_eq] at h
    omega
  constructor
  · rw [CodePoint.utf8Width, if_pos hlt]
  · simp only [CodePoint.isSurrogate, Bool.and_eq_false_iff, decide_eq_false_iff_not]
    omega

/-- Identifier characters have one byte each. -/
theorem utf8Size_of_isIdentifier {s : PyStr} (h : ∀ c ∈ s, c.isIdentifier = true) :
    utf8Size s = some s.length := by
  have hplain : s.any CodePoint.isSurrogate = false := by
    rw [List.any_eq_false]
    intro c hc
    simp [(utf8Width_of_isIdentifier (h c hc)).2]
  have hwidths : s.map CodePoint.utf8Width = List.replicate s.length 1 := by
    rw [List.eq_replicate_iff]
    refine ⟨List.length_map _, ?_⟩
    intro width hwidth
    rcases List.mem_map.mp hwidth with ⟨c, hc, rfl⟩
    exact (utf8Width_of_isIdentifier (h c hc)).1
  rw [utf8Size, hplain, hwidths, List.sum_replicate]
  simp

/-- A text of identifier characters is accepted exactly if it is not empty and not too long. -/
theorem safeIdentifier_iff {s : PyStr} {limit : Nat} (h : ∀ c ∈ s, c.isIdentifier = true) :
    safeIdentifier (.str s) limit = some s ↔ s ≠ [] ∧ s.length ≤ limit := by
  have hall : s.all CodePoint.isIdentifier = true := List.all_eq_true.mpr h
  rw [safeIdentifier, hall, utf8Size_of_isIdentifier h]
  simp

theorem isIdentifier_of_isDigit {c : CodePoint} (h : c.isDigit = true) : c.isIdentifier = true := by
  simp only [CodePoint.isDigit, Bool.and_eq_true, decide_eq_true_eq] at h
  simp only [CodePoint.isIdentifier, Bool.or_eq_true, Bool.and_eq_true, decide_eq_true_eq, beq_iff_eq]
  omega

/-- The part of an id that every call has. -/
def callSuffix (n : Nat) : PyStr := lit "sdk-call-" ++ HostToolBridge.paddedCount n

theorem isIdentifier_of_mem_callSuffix {n : Nat} {c : CodePoint} (h : c ∈ callSuffix n) :
    c.isIdentifier = true := by
  rcases List.mem_append.mp h with h | h
  · have hall : (lit "sdk-call-").all CodePoint.isIdentifier = true := by decide
    exact List.all_eq_true.mp hall c h
  · exact isIdentifier_of_isDigit (isDigit_of_mem_paddedCount h)

/-- The suffix alone is short enough for 247 digits. -/
theorem length_callSuffix_le_iff (n : Nat) :
    (callSuffix n).length ≤ maxRequestIdUtf8Bytes ↔ n < 10 ^ 247 := by
  have hstart : (lit "sdk-call-").length = 9 := by decide
  have hdigits : (decimal n).length ≤ 247 ↔ n < 10 ^ 247 := by
    rw [decimal, List.length_map]
    exact Nat.length_toDigits_le_iff (by omega) (by omega)
  refine Iff.trans ?_ hdigits
  clear hdigits
  unfold callSuffix HostToolBridge.paddedCount maxRequestIdUtf8Bytes
  rw [lit_toString]
  simp only [List.length_append, List.length_replicate, hstart]
  omega

namespace HostToolBridge

variable {db : UnicodeDatabase} (bridge : HostToolBridge db)

/-- The id that a call is given: with a correlation where that is accepted, else its suffix. -/
theorem nextSdkRequestId_fst : ∃ start,
    (safeIdentifier (.str (start ++ callSuffix (bridge.sdkCallCount + 1))) maxRequestIdUtf8Bytes).isSome ∧
      bridge.nextSdkRequestId.1 = start ++ callSuffix (bridge.sdkCallCount + 1) ∨
    (safeIdentifier (.str (start ++ callSuffix (bridge.sdkCallCount + 1))) maxRequestIdUtf8Bytes) = none ∧
      bridge.nextSdkRequestId.1 = callSuffix (bridge.sdkCallCount + 1) := by
  have hfirst : ∃ start, bridge.nextSdkRequestId.1 =
      (safeIdentifier (.str (start ++ callSuffix (bridge.sdkCallCount + 1))) maxRequestIdUtf8Bytes).getD
        (callSuffix (bridge.sdkCallCount + 1)) := ⟨_, rfl⟩
  rcases hfirst with ⟨start, hstart⟩
  refine ⟨start, ?_⟩
  rw [hstart]
  cases hsafe : safeIdentifier (.str (start ++ callSuffix (bridge.sdkCallCount + 1)))
      maxRequestIdUtf8Bytes with
  | none => exact .inr ⟨rfl, rfl⟩
  | some id => exact .inl ⟨rfl, safeIdentifier_eq_some hsafe⟩

/-- The number of a call can be read off its id. -/
theorem idNumber_nextSdkRequestId :
    idNumber bridge.nextSdkRequestId.1 = bridge.sdkCallCount + 1 := by
  rcases bridge.nextSdkRequestId_fst with ⟨start, ⟨-, hid⟩ | ⟨-, hid⟩⟩
  · rw [hid, callSuffix, idNumber_call]
  · rw [hid, ← List.nil_append (callSuffix _), callSuffix, idNumber_call]

/-- **Valid ids.** The id of a call passes the check of `handle_tool_call` exactly if the number
of the call has at most 247 digits. -/
theorem safeIdentifier_nextSdkRequestId_iff :
    safeIdentifier (.str bridge.nextSdkRequestId.1) maxRequestIdUtf8Bytes =
      some bridge.nextSdkRequestId.1 ↔ bridge.sdkCallCount + 1 < 10 ^ 247 := by
  have hsuffix : safeIdentifier (.str (callSuffix (bridge.sdkCallCount + 1))) maxRequestIdUtf8Bytes =
      some (callSuffix (bridge.sdkCallCount + 1)) ↔ bridge.sdkCallCount + 1 < 10 ^ 247 := by
    have hne : callSuffix (bridge.sdkCallCount + 1) ≠ [] := by
      have hstart : lit "sdk-call-" ≠ [] := by decide
      simp [callSuffix, hstart]
    rw [safeIdentifier_iff fun c => isIdentifier_of_mem_callSuffix, length_callSuffix_le_iff,
      and_iff_right hne]
  rcases bridge.nextSdkRequestId_fst with ⟨start, ⟨hsome, hid⟩ | ⟨-, hid⟩⟩
  · rcases Option.isSome_iff_exists.mp hsome with ⟨id, hsafe⟩
    have hlonger : (callSuffix (bridge.sdkCallCount + 1)).length ≤ maxRequestIdUtf8Bytes := by
      have hsize := (Option.ite_none_right_eq_some.mp hsafe).1
      simp only [Bool.and_eq_true, Option.any_eq_true, decide_eq_true_eq] at hsize
      rcases hsize.2 with ⟨size, hsize, hle⟩
      have hlength := length_le_of_utf8Size hsize
      rw [List.length_append] at hlength
      omega
    rw [hid, hsafe, safeIdentifier_eq_some hsafe]
    exact iff_of_true rfl ((length_callSuffix_le_iff _).mp hlonger)
  · rw [hid, hsuffix]

end HostToolBridge

/-! ## Calls of a bridge -/

section Runs

variable {α : Type u} {db : UnicodeDatabase} (V : ObjectView α) (codec : ResultCodec)

namespace HostToolBridge

/-- `execute_tool`: a call without a request id is given one. -/
def executeTool (bridge : HostToolBridge db) (requestId : Option PyValue) (name : PyValue)
    (arguments : α) (host : HostBehaviour α) : FinishedCall db :=
  match requestId with
  | none =>
    let (id, bridge) := bridge.nextSdkRequestId
    bridge.handleToolCall V codec (.str id) name arguments host
  | some requestId => bridge.handleToolCall V codec requestId name arguments host

end HostToolBridge

/-- What is called on a bridge. -/
inductive BridgeCall (α : Type u)
  | beginTurn (correlationId : PyValue)
  | handler (name : PyStr) (arguments : α) (host : HostBehaviour α)
  | executeTool (requestId : Option PyValue) (name : PyValue) (arguments : α) (host : HostBehaviour α)

/-- A bridge and the request ids that it made, the first one first. -/
structure BridgeRun (db : UnicodeDatabase) where
  bridge : HostToolBridge db
  generated : List PyStr := []

/-- The bridge after one more call.  A correlation that is refused leaves the bridge alone. -/
def BridgeRun.next (r : BridgeRun db) : BridgeCall α → BridgeRun db
  | .beginTurn correlationId =>
    match r.bridge.beginTurn correlationId with
    | .error _ => r
    | .ok bridge => { r with bridge }
  | .handler name arguments host => {
      bridge := (r.bridge.sdkHandler V codec name arguments host).2.bridge
      generated := r.generated ++ [r.bridge.nextSdkRequestId.1] }
  | .executeTool requestId name arguments host => {
      bridge := (r.bridge.executeTool V codec requestId name arguments host).bridge
      generated := match requestId with
        | none => r.generated ++ [r.bridge.nextSdkRequestId.1]
        | some _ => r.generated }

/-- All calls of a bridge, in any order. -/
def bridgeSystem (bridge : HostToolBridge db) : System (BridgeRun db) (BridgeCall α) where
  init := { bridge }
  next r call := some (r.next V codec call)

variable {V codec}

namespace HostToolBridge

theorem handleToolCall_sdkCallCount (V : ObjectView α) (codec : ResultCodec) (bridge : HostToolBridge db)
    (requestId name : PyValue) (arguments : α) (host : HostBehaviour α) :
    (bridge.handleToolCall V codec requestId name arguments host).bridge.sdkCallCount =
      bridge.sdkCallCount := by
  unfold handleToolCall
  split
  · rfl
  · split <;> rfl

theorem beginTurn_sdkCallCount {bridge begun : HostToolBridge db} {correlationId : PyValue}
    (h : bridge.beginTurn correlationId = .ok begun) : begun.sdkCallCount = bridge.sdkCallCount := by
  unfold beginTurn at h
  cases hcorrelation : bindCorrelation correlationId with
  | error violation =>
    rw [hcorrelation] at h
    cases h
  | ok id =>
    rw [hcorrelation] at h
    cases h
    rfl

/-- A new bridge has made no id. -/
theorem create_sdkCallCount {complete : Bool} {specs : α} {excluded correlation : PyValue}
    {bridge : HostToolBridge db} (h : create db V complete specs excluded correlation = .ok bridge) :
    bridge.sdkCallCount = 0 := by
  unfold create assemble at h
  cases complete with
  | false => cases h
  | true =>
    cases hcorrelation : bindCorrelation correlation with
    | error violation => rw [hcorrelation] at h; cases h
    | ok id =>
      cases hexcluded : excludedNames excluded with
      | error violation => rw [hcorrelation, hexcluded] at h; cases h
      | ok names =>
        cases hnormalize : normalizeToolSchemas db V specs with
        | error violation => rw [hcorrelation, hexcluded, hnormalize] at h; cases h
        | ok definitions =>
          rw [hcorrelation, hexcluded, hnormalize] at h
          cases h
          rfl

end HostToolBridge

/-- The ids of a run carry the numbers of their calls. -/
structure BridgeRun.Numbered (r : BridgeRun db) : Prop where
  count : r.bridge.sdkCallCount = r.generated.length
  numbers : r.generated.map idNumber = List.range' 1 r.generated.length
  valid : ∀ id ∈ r.generated, safeIdentifier (.str id) maxRequestIdUtf8Bytes = some id ↔
    idNumber id < 10 ^ 247

/-- One more id, with the next number. -/
theorem BridgeRun.Numbered.generate {r : BridgeRun db} (h : r.Numbered) {bridge : HostToolBridge db}
    (hcount : bridge.sdkCallCount = r.bridge.sdkCallCount + 1) :
    BridgeRun.Numbered { bridge, generated := r.generated ++ [r.bridge.nextSdkRequestId.1] } where
  count := by rw [hcount, h.count, List.length_append, List.length_singleton]
  numbers := by
    rw [List.map_append, List.map_singleton, h.numbers, HostToolBridge.idNumber_nextSdkRequestId,
      h.count, List.length_append, List.length_singleton, List.range'_concat, Nat.one_mul, Nat.add_comm 1]
  valid := by
    intro id hid
    rcases List.mem_append.mp hid with hid | hid
    · exact h.valid id hid
    · rw [List.mem_singleton.mp hid, HostToolBridge.idNumber_nextSdkRequestId]
      exact r.bridge.safeIdentifier_nextSdkRequestId_iff

theorem BridgeRun.Numbered.next {r : BridgeRun db} (h : r.Numbered) (call : BridgeCall α) :
    (r.next V codec call).Numbered := by
  cases call with
  | beginTurn correlationId =>
    rw [BridgeRun.next]
    cases hbegun : r.bridge.beginTurn correlationId with
    | error violation => exact h
    | ok begun =>
      have hcount : begun.sdkCallCount = r.bridge.sdkCallCount :=
        HostToolBridge.beginTurn_sdkCallCount hbegun
      exact ⟨hcount.trans h.count, h.numbers, h.valid⟩
  | handler name arguments host =>
    apply h.generate
    exact HostToolBridge.handleToolCall_sdkCallCount _ _ _ _ _ _ _
  | executeTool requestId name arguments host =>
    cases requestId with
    | none =>
      apply h.generate
      exact HostToolBridge.handleToolCall_sdkCallCount _ _ _ _ _ _ _
    | some requestId =>
      have hcount := HostToolBridge.handleToolCall_sdkCallCount V codec r.bridge requestId name
        arguments host
      exact ⟨hcount.trans h.count, h.numbers, h.valid⟩

/-- Every run numbers its ids. -/
theorem BridgeRun.numbered_of_reachable {bridge : HostToolBridge db} (hnew : bridge.sdkCallCount = 0)
    {r : BridgeRun db} (hr : (bridgeSystem V codec bridge).Reachable r) : r.Numbered := by
  apply hr.invariant
  · exact ⟨hnew, rfl, nofun⟩
  · intro s t call _ hs htaken
    cases htaken
    exact hs.next call

/-- The id at a place of a run has the number of the place. -/
theorem BridgeRun.Numbered.idNumber_getElem {r : BridgeRun db} (h : r.Numbered) {k : Nat}
    (hk : k < r.generated.length) : idNumber r.generated[k] = k + 1 := by
  have hmap : (r.generated.map idNumber)[k]? = some (idNumber r.generated[k]) := by
    rw [List.getElem?_map, List.getElem?_eq_getElem hk, Option.map_some]
  rw [h.numbers, List.getElem?_range' hk, Option.some.injEq] at hmap
  omega

/-- **Request ids.** However turns begin and calls come on a new bridge, the ids that it makes are
pairwise distinct, and each passes the check of `handle_tool_call` exactly if fewer than `10 ^ 247`
ids were made up to it. -/
theorem request_ids_distinct_valid {complete : Bool} {specs : α} {excluded correlation : PyValue}
    {bridge : HostToolBridge db}
    (hcreate : HostToolBridge.create db V complete specs excluded correlation = .ok bridge)
    {r : BridgeRun db} (hr : (bridgeSystem V codec bridge).Reachable r) :
    r.generated.Nodup ∧ ∀ k (hk : k < r.generated.length),
      safeIdentifier (.str r.generated[k]) maxRequestIdUtf8Bytes = some r.generated[k] ↔
        k + 1 < 10 ^ 247 := by
  have hnumbered := BridgeRun.numbered_of_reachable (HostToolBridge.create_sdkCallCount hcreate) hr
  constructor
  · apply List.Nodup.of_map idNumber
    rw [hnumbered.numbers]
    exact List.nodup_range'
  · intro k hk
    rw [hnumbered.valid _ (List.getElem_mem hk), hnumbered.idNumber_getElem hk]

end Runs

/-! ## Two runs -/

open HostToolBridge

/-- A call of a tool without a request id. -/
def deployCall : BridgeCall Json := .executeTool none (.str (lit "deploy")) (.dict []) failingHost

/-- A codec for calls whose result is never read. -/
def unreadCodec : ResultCodec where
  dumps := fun _ => none
  loads := fun _ => none
  redact := id

/-- A bridge with one tool, before its first turn. -/
def deployBridge : HostToolBridge asciiDatabase where
  correlationId := none
  definitions := [⟨lit "deploy", lit "deploy", .dict [(lit "type", .str (lit "object"))], by decide, by decide⟩]

theorem create_deployBridge :
    HostToolBridge.create asciiDatabase Json.view true (.list [deploySpec]) = .ok deployBridge := rfl

/-- A turn has the correlation that an earlier id ends in, and the next one has an id for its
correlation. -/
theorem request_ids_distinct_valid_copied :
    ∃ r, (bridgeSystem Json.view unreadCodec deployBridge).Reachable r ∧
      r.generated = [lit "sdk:sdk-call-0001", lit "t:sdk-call-0001:sdk-call-0002"] ∧
      r.generated.Nodup ∧ ∀ k (hk : k < r.generated.length),
        safeIdentifier (.str r.generated[k]) maxRequestIdUtf8Bytes = some r.generated[k] ↔
          k + 1 < 10 ^ 247 := by
  obtain ⟨r, hr, hgenerated⟩ := System.exists_reachable_of_run
    (S := bridgeSystem Json.view unreadCodec deployBridge)
    (P := fun r => r.generated = [lit "sdk:sdk-call-0001", lit "t:sdk-call-0001:sdk-call-0002"])
    [deployCall, .beginTurn (.str (lit "t:sdk-call-0001")), deployCall] ⟨_, rfl, by decide⟩
  exact ⟨r, hr, hgenerated, request_ids_distinct_valid create_deployBridge hr⟩

/-- Any number of ids is made. -/
theorem exists_reachable_generated (n : Nat) :
    ∃ r, (bridgeSystem Json.view unreadCodec deployBridge).Reachable r ∧ r.generated.length = n := by
  induction n with
  | zero => exact ⟨_, .init, rfl⟩
  | succ n ih =>
    rcases ih with ⟨r, hr, hlength⟩
    refine ⟨r.next Json.view unreadCodec deployCall, hr.step rfl, ?_⟩
    change (r.generated ++ [r.bridge.nextSdkRequestId.1]).length = n + 1
    rw [List.length_append, hlength, List.length_singleton]

/-- The number of the last of so many calls is too long for an id. -/
theorem request_id_refused :
    ∃ r, (bridgeSystem Json.view unreadCodec deployBridge).Reachable r ∧ r.generated.length = 10 ^ 247 ∧
      ∃ id ∈ r.generated, safeIdentifier (.str id) maxRequestIdUtf8Bytes ≠ some id := by
  rcases exists_reachable_generated (10 ^ 247) with ⟨r, hr, hlength⟩
  have hnumbered := BridgeRun.numbered_of_reachable (create_sdkCallCount create_deployBridge) hr
  have hpositive : 0 < 10 ^ 247 := Nat.pow_pos (by omega)
  have hlast : 10 ^ 247 - 1 < r.generated.length := by
    rw [hlength]
    exact Nat.sub_lt hpositive Nat.one_pos
  refine ⟨r, hr, hlength, r.generated[10 ^ 247 - 1], List.getElem_mem hlast, ?_⟩
  rw [ne_eq, hnumbered.valid _ (List.getElem_mem hlast), hnumbered.idNumber_getElem hlast,
    Nat.sub_add_cancel hpositive]
  exact Nat.lt_irrefl _

end HermesClaude.Bridge
