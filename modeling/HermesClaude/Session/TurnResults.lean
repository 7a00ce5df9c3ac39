/-
# What a turn can return

The guarantees of a turn's outcome, read off the invariant of the session: when
COMPLETE is returned, what paid-use evidence does to the result, and what a content
block outside the zero-native boundary does to the turn that received it.
-/

import HermesClaude.Session.Runs

namespace HermesClaude.Session

open HermesClaude.Python HermesClaude.Billing HermesClaude.Content HermesClaude.Library

instance (ending : Ending) : Decidable ending.Completes :=
  match ending with
  | .returned result =>
    decidable_of_iff (result.outcome = .complete)
      ⟨fun h => ⟨result, rfl, h⟩, fun ⟨_, heq, h⟩ => by cases heq; exact h⟩
  | .raisedCancelled => isFalse fun ⟨_, heq, _⟩ => by cases heq
  | .raisedError => isFalse fun ⟨_, heq, _⟩ => by cases heq

/-! ## COMPLETE -/

/-- **COMPLETE is sound.**  A turn that returned COMPLETE had taken exactly one
result, which was neither an error nor aborted; the gate allowed the evidence of the
messages it had taken; and no marker of a violation had been put into its inbox. -/
theorem complete_turn_sound {C : SessionContext} {s : SDKSession}
    (hs : (sessionSystem C).Reachable s) {f : Finished} (hf : f ∈ s.finished)
    {result : SessionTurnResult} (hreturned : f.ending = .returned result)
    (hcomplete : result.outcome = .complete) :
    (∃ position message,
      (messages f.inbox.taken).filter (fun entry => isResult entry.2) = [(position, message)] ∧
      message.safeAttr "is_error" ≠ .bool true ∧
      (message.safeAttr "terminal_reason").memTexts
        [lit "aborted_streaming", lit "aborted_tools"] = some false) ∧
    (classifySdkBilling C.unicode
      (mergedEvidence (updatesOf C (messages f.inbox.taken)))).allowed = true ∧
    ∀ item ∈ f.inbox.sent, item ≠ .nativeToolViolation ∧ item ≠ .postTerminalOutput := by
  have hcompleted := (sound_of_reachable hs).history.completed f hf ⟨result, hreturned, hcomplete⟩
  obtain ⟨position, message, htaken, herror, hreason, -, -⟩ := hcompleted.result
  refine ⟨⟨position, message, htaken, herror, hreason⟩, hcompleted.allowed, fun item hitem => ?_⟩
  have hclean := hcompleted.clean item hitem
  constructor <;> rintro rfl <;> cases hclean

theorem complete_turn_sound_subscription : ∃ s f,
    (sessionSystem plainContext).Reachable s ∧ f ∈ s.finished ∧ f.turn = 1 ∧
    (∃ position message,
      (messages f.inbox.taken).filter (fun entry => isResult entry.2) = [(position, message)] ∧
      message.safeAttr "is_error" ≠ .bool true ∧
      (message.safeAttr "terminal_reason").memTexts
        [lit "aborted_streaming", lit "aborted_tools"] = some false) ∧
    (classifySdkBilling asciiDatabase
      (mergedEvidence (updatesOf plainContext (messages f.inbox.taken)))).allowed = true ∧
    ∀ item ∈ f.inbox.sent, item ≠ .nativeToolViolation ∧ item ≠ .postTerminalOutput := by
  obtain ⟨s, hs, f, hf, hturn, result, hreturned, hcomplete⟩ :
      ∃ s, (sessionSystem plainContext).Reachable s ∧
        ∃ f ∈ s.finished, f.turn = 1 ∧ f.ending.Completes :=
    System.exists_reachable_of_run
      (wholeTurn subscriptionMessages) (by decide)
  exact ⟨s, f, hs, hf, hturn, complete_turn_sound hs hf hreturned hcomplete⟩

/-! ## Paid use -/

/-- Paid-use evidence decides a turn that is delivered the given messages and then
the result: if one of the messages carries it, the turn does not complete and the
result is not projected. -/
def PaidUseDecides (C : SessionContext) (before : List PyValue) (result : PyValue) : Prop :=
  (∃ message ∈ before, ∃ update,
    extractSdkBillingEvidence C.unicode message = some update ∧ update.PaidUse C.unicode) →
  ∀ s, (sessionSystem C).Reachable s →
    ∀ turn, (deliveredTo turn s.stream).map Prod.snd = before ++ [result] →
      (∀ f ∈ s.finished, f.turn = turn → ¬ f.ending.Completes) ∧
      ∀ x ∈ s.projected, x.turn = turn →
        ∀ message, (x.position, message) ∈ deliveredTo turn s.stream → isResult message = false

/-- The registers stop the turn: after some update they show a sign of paid use
while no field is malformed, or in the end they do not describe a subscription. -/
def RegistersStop (U : UnicodeDatabase) (updates : List SDKBillingEvidence) : Prop :=
  (∃ seen, seen <+: updates ∧ seen ≠ [] ∧ ¬ (registers seen).Malformed U ∧
    ((registers seen).PaidUse U ∨ (registers seen).OverageWindow U)) ∨
  ¬ (registers updates).Subscription U

/-- The evidence lets a turn pass exactly when the registers do not stop it. -/
theorem cleared_iff {C : SessionContext} {updates : List SDKBillingEvidence}
    (hupdates : updates ≠ [])
    (htuple : ∀ u ∈ updates, ∃ items, u.malformedFields = .tuple items) :
    (NeverBlocks C updates ∧
      (classifySdkBilling C.unicode (mergedEvidence updates)).allowed = true) ↔
    ¬ RegistersStop C.unicode updates := by
  have hnever : NeverBlocks C updates ↔ ¬ ∃ seen, seen <+: updates ∧ seen ≠ [] ∧
      ¬ (registers seen).Malformed C.unicode ∧
      ((registers seen).PaidUse C.unicode ∨ (registers seen).OverageWindow C.unicode) := by
    constructor
    · rintro hnever ⟨seen, hseen, hne, hsign⟩
      have hquiet := hnever seen hseen
      rw [classify_mergedEvidence C.unicode hne fun u hu => htuple u (hseen.subset hu),
        ← Bool.not_eq_true, immediate_classifySdkBilling_iff] at hquiet
      exact hquiet hsign
    · intro hnone seen hseen
      by_cases hne : seen = []
      · subst hne
        rfl
      · rw [classify_mergedEvidence C.unicode hne fun u hu => htuple u (hseen.subset hu),
          ← Bool.not_eq_true, immediate_classifySdkBilling_iff]
        exact fun hsign => hnone ⟨seen, hseen, hne, hsign⟩
  rw [hnever, classify_mergedEvidence C.unicode hupdates htuple, allowed_classifySdkBilling_iff,
    RegistersStop, not_or, not_not]

/-- What a projected result says about the messages before it. -/
theorem cleared_of_projected {C : SessionContext} {s : SDKSession}
    (hs : (sessionSystem C).Reachable s) {before : List PyValue} {result : PyValue}
    (hordinary : ∀ message ∈ before, isResult message = false) {x : ProjectedMessage}
    (hx : x ∈ s.projected)
    (hdelivered : (deliveredTo x.turn s.stream).map Prod.snd = before ++ [result])
    {message : PyValue} (hmem : (x.position, message) ∈ deliveredTo x.turn s.stream)
    (hresult : isResult message = true) :
    NeverBlocks C (before.filterMap (extractSdkBillingEvidence C.unicode)) ∧
      (classifySdkBilling C.unicode (mergedEvidence
        (before.filterMap (extractSdkBillingEvidence C.unicode)))).allowed = true := by
  have hcleared := (sound_of_reachable hs).history.cleared x hx message hmem hresult
  obtain ⟨entries, last, hsplit, hentries, hlast⟩ := List.map_eq_append_iff.mp hdelivered
  obtain ⟨entry, rest, rfl, -, hrest⟩ := List.map_eq_cons_iff.mp hlast
  rw [List.map_eq_nil_iff] at hrest
  subst hrest
  rw [hsplit] at hmem hcleared
  -- only the last delivery can be the result
  have hentry : entry = (x.position, message) := by
    rcases List.mem_append.mp hmem with hearlier | hnew
    · have hmessage : message ∈ before := by
        rw [← hentries]
        exact List.mem_map_of_mem hearlier
      rw [hordinary message hmessage] at hresult
      cases hresult
    · exact (List.mem_singleton.mp hnew).symm
  subst hentry
  have hordered := deliveredTo_ascending x.turn s.stream
  rw [hsplit] at hordered
  rw [filter_before hordered] at hcleared
  have hupdates : updatesOf C entries =
      before.filterMap (extractSdkBillingEvidence C.unicode) := by
    rw [← hentries, List.filterMap_map]
    rfl
  rw [← hupdates]
  exact ⟨hcleared.unblocked, hcleared.allowed⟩

/-- **When paid use decides.**  Later messages can hide paid-use evidence from the
gate, but only while a malformed value keeps it from acting: paid use decides every
turn exactly when nothing carries it, or the registers stop the turn. -/
theorem paid_use_decides_iff {C : SessionContext} {before : List PyValue} {result : PyValue}
    (hordinary : ∀ message ∈ before, isResult message = false)
    (hresult : isResult result = true)
    (hadmitted : (admitAll C.allowedTools [] (before ++ [result])).isSome) :
    PaidUseDecides C before result ↔
      (¬ ∃ message ∈ before, ∃ update,
        extractSdkBillingEvidence C.unicode message = some update ∧
          update.PaidUse C.unicode) ∨
      RegistersStop C.unicode (before.filterMap (extractSdkBillingEvidence C.unicode)) := by
  have htuple : ∀ u ∈ before.filterMap (extractSdkBillingEvidence C.unicode),
      ∃ items, u.malformedFields = .tuple items := by
    intro u hu
    obtain ⟨message, -, hupdate⟩ := List.mem_filterMap.mp hu
    exact malformedFields_of_extract C.unicode hupdate
  constructor
  · intro hdecides
    by_contra hcondition
    rw [not_or, not_not] at hcondition
    obtain ⟨hpaid, hpasses⟩ := hcondition
    obtain ⟨message, hmessage, update, hupdate, -⟩ := id hpaid
    have hne : before.filterMap (extractSdkBillingEvidence C.unicode) ≠ [] :=
      List.ne_nil_of_mem (List.mem_filterMap.mpr ⟨message, hmessage, hupdate⟩)
    obtain ⟨hnever, hallowed⟩ := (cleared_iff hne htuple).mpr hpasses
    obtain ⟨s, hs, hdelivered, hprojected, hmem⟩ :=
      exists_projected_result hordinary hresult hadmitted hnever hallowed
    have hhidden := (hdecides hpaid s hs 1 hdelivered).2 _ hprojected rfl result hmem
    rw [hresult] at hhidden
    cases hhidden
  · rintro hcondition ⟨message, hmessage, update, hupdate, hpaid⟩ s hs turn hdelivered
    have hstops := hcondition.resolve_left
      fun hnone => hnone ⟨message, hmessage, update, hupdate, hpaid⟩
    have hne : before.filterMap (extractSdkBillingEvidence C.unicode) ≠ [] :=
      List.ne_nil_of_mem (List.mem_filterMap.mpr ⟨message, hmessage, hupdate⟩)
    have hnotProjected : ∀ x ∈ s.projected, x.turn = turn → ∀ message,
        (x.position, message) ∈ deliveredTo turn s.stream → isResult message = false := by
      rintro x hx rfl other hother
      rw [← Bool.not_eq_true]
      exact fun hisResult => (cleared_iff hne htuple).mp
        (cleared_of_projected hs hordinary hx hdelivered hother hisResult) hstops
    refine ⟨?_, hnotProjected⟩
    rintro f hf rfl hcompletes
    obtain ⟨position, other, htaken, -, -, hprojected, hother⟩ :=
      ((sound_of_reachable hs).history.completed f hf hcompletes).result
    have hisResult : isResult other = true := by
      have := List.mem_filter.mp (htaken ▸ List.mem_singleton_self (position, other))
      exact this.2
    rw [hnotProjected _ hprojected rfl other hother] at hisResult
    cases hisResult

theorem paid_use_decides_iff_overage :
    PaidUseDecides plainContext [overageMessage (.bool true)] plainResult := by
  refine (paid_use_decides_iff (by decide) rfl (by decide)).mpr (.inr (.inl ?_))
  exact ⟨_, List.prefix_refl _, by decide, by decide, .inl (.inr (.inl rfl))⟩

/-- A malformed API key source, active overage, the same no longer in use, and a
subscription source that replaces the malformed one. -/
def maskedMessages : List PyValue :=
  [initMessage (.int 123), overageMessage (.bool true), overageMessage (.bool false),
    initMessage (.str (lit "none"))]

/-- A malformed field hides active overage from the gate until both have been
overwritten, and the turn completes. -/
theorem masked_paid_use_completes : ¬ PaidUseDecides plainContext maskedMessages plainResult := by
  intro hdecides
  have hran : ((sessionSystem plainContext).run (sessionSystem plainContext).init
      (wholeTurn maskedMessages)).isSome := by decide
  have hcompletes : ∃ f ∈ (((sessionSystem plainContext).run (sessionSystem plainContext).init
      (wholeTurn maskedMessages)).get hran).finished, f.turn = 1 ∧ f.ending.Completes := by
    decide +revert
  have hstream : (((sessionSystem plainContext).run (sessionSystem plainContext).init
      (wholeTurn maskedMessages)).get hran).stream =
      (maskedMessages ++ [plainResult]).map deliveredFirst := rfl
  obtain ⟨f, hf, hturn, hcompletes⟩ := hcompletes
  refine (hdecides ⟨overageMessage (.bool true), by simp [maskedMessages], _, rfl,
    .inr (.inl rfl)⟩ _ (System.Reachable.init.run (Option.some_get hran).symm) 1 ?_).1 f hf hturn
    hcompletes
  rw [hstream]
  exact deliveredTo_map_deliveredFirst _

/-! ## The zero-native boundary -/

/-- Whether some content block of a message crosses the boundary. -/
def CarriesCrossingBlock (allowed : List PyStr) (message : PyValue) : Prop :=
  ∃ content, (message.safeAttr "content").sequence? = some content ∧
    ∃ block ∈ content, CrossesBoundary allowed block

/-- The boundary holds for a message: if one of its content blocks crosses it, the
check finds a violation, whatever the stream has named before, so that no run
projects the message or completes the turn that received it. -/
def BoundaryHolds (allowed : List PyStr) (message : PyValue) : Prop :=
  CarriesCrossingBlock allowed message →
    (∀ indexes, ∃ after, zeroNativeViolation message allowed indexes = some (true, after)) ∧
    ∀ C s, C.allowedTools = allowed → (sessionSystem C).Reachable s →
      ∀ r position, s.stream[position]? = some r → r.message = message →
        (∀ x ∈ s.projected, x.position ≠ position) ∧
        ∀ f ∈ s.finished, r.inbox = some f.turn → ¬ f.ending.Completes

/-- The check looks at a crossing block of the message, or rejects the message
without looking at its content. -/
def CheckReaches (allowed : List PyStr) (message : PyValue) : Prop :=
  messageViolates message = true ∨
    (message.typeName = "StreamEvent" ∧
      ∀ indexes, ∃ after, streamToolViolation message allowed indexes = some (true, after)) ∨
    (message.typeName ≠ "StreamEvent" ∧
      ∃ content, (message.safeAttr "content").sequence? = some content ∧
        ∃ block ∈ content.take maxArgumentItems, CrossesBoundary allowed block)

theorem violation_iff_checkReaches {allowed : List PyStr} {message : PyValue} :
    (∀ indexes, ∃ after, zeroNativeViolation message allowed indexes = some (true, after)) ↔
      CheckReaches allowed message := by
  unfold CheckReaches
  by_cases hmessage : messageViolates message = true
  · simp [zeroNativeViolation, hmessage]
  · by_cases hstream : message.typeName = "StreamEvent"
    · simp [zeroNativeViolation, hmessage, hstream]
    · cases hcontent : (message.safeAttr "content").sequence? with
      | none => simp [zeroNativeViolation, hmessage, hstream, hcontent]
      | some content =>
        simp [zeroNativeViolation_of_content hcontent hstream, hmessage, hstream,
          blockViolates_iff]

/-- Messages that the check rejects whatever was named before are rejected when they
are received. -/
def RejectedAreNative (C : SessionContext) (s : SDKSession) : Prop :=
  ∀ r ∈ s.stream, (∀ indexes, ∃ after,
    zeroNativeViolation r.message C.allowedTools indexes = some (true, after)) → r.fate = .native

theorem native_of_rejected {C : SessionContext} {s : SDKSession}
    (hs : (sessionSystem C).Reachable s) {r : Reception} (hr : r ∈ s.stream)
    (hrejected : ∀ indexes, ∃ after,
      zeroNativeViolation r.message C.allowedTools indexes = some (true, after)) :
    r.fate = .native := by
  suffices hall : RejectedAreNative C s from hall r hr hrejected
  refine System.Reachable.invariant ?_ ?_ hs
  · intro r hr
    cases hr
  · rintro s t label - hs hnext r hr hrejected
    rcases SDKSession.next_stream hnext with hsame | ⟨message, -, rfl⟩
    · rw [hsame] at hr
      exact hs r hr hrejected
    · obtain ⟨fate, hstream, hfate⟩ := SDKSession.receive_stream (C := C) (s := s) message
      rw [hstream] at hr
      rcases List.mem_append.mp hr with hold | hnew
      · exact hs r hold hrejected
      · rw [List.mem_singleton] at hnew
        subst hnew
        obtain ⟨after, hcheck⟩ := hrejected s.streamToolIndexes
        rw [hcheck] at hfate
        exact hfate

/-- **Where the boundary holds.**  The check reads a fixed number of content blocks,
so the boundary holds for a message exactly when no block crosses it or the check
reaches one that does. -/
theorem boundary_holds_iff {allowed : List PyStr} {message : PyValue} :
    BoundaryHolds allowed message ↔
      ¬ CarriesCrossingBlock allowed message ∨ CheckReaches allowed message := by
  rw [← violation_iff_checkReaches]
  constructor
  · intro hholds
    by_cases hcarries : CarriesCrossingBlock allowed message
    · exact .inr (hholds hcarries).1
    · exact .inl hcarries
  · rintro hcondition hcarries
    have hrejected := hcondition.resolve_left fun hnone => hnone hcarries
    refine ⟨hrejected, ?_⟩
    rintro C s rfl hs r position hget rfl
    have hmem : r ∈ s.stream := List.mem_of_getElem? hget
    have hnative := native_of_rejected hs hmem hrejected
    constructor
    · rintro x hx rfl
      obtain ⟨other, hother⟩ := ((SDKSession.mailbox_consistent hs).owned x hx).2.delivered
      obtain ⟨r', hget', -, hfate, -⟩ := mem_deliveredTo.mp hother
      have hsame : r' = r := by
        have hget'' : s.stream[x.position]? = some r' := hget'
        rw [hget] at hget''
        exact (Option.some.inj hget'').symm
      rw [hsame, hnative] at hfate
      cases hfate
    · intro f hf hinbox hcompletes
      have hquiet := ((sound_of_reachable hs).history.completed f hf hcompletes).undisturbed r
        hmem hinbox
      rw [hnative] at hquiet
      cases hquiet

/-- Thirty-two text blocks and a server tool block behind them. -/
def lateServerTool : PyValue :=
  .object "AssistantMessage" [("content",
    .list (List.replicate maxArgumentItems (.object "TextBlock" []) ++
      [.object "ServerToolUseBlock" []]))]

/-- The check misses a server tool block behind thirty-two others. -/
theorem late_server_tool_passes : ¬ BoundaryHolds [] lateServerTool := by
  intro hholds
  obtain ⟨hrejected, -⟩ := hholds ⟨_, rfl, .object "ServerToolUseBlock" [], by simp, .inl rfl⟩
  obtain ⟨after, hcheck⟩ := hrejected []
  have hpasses : zeroNativeViolation lateServerTool [] [] = some (false, []) := by decide
  rw [hpasses] at hcheck
  cases hcheck

end HermesClaude.Session
