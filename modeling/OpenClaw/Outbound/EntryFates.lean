/-
This file says when a queue entry leaves the pending directory only as it may: after
every payload was sent or cancelled by a hook, after an abort, or to `failed/`.

Whether a failed send reaches the queue depends on who called. A delivery that is
not best effort throws, a live best-effort delivery with `onError` notes the failure,
and both fail the entry. A best-effort delivery to which nobody listens (without
`onError`, or a replay, which never has one) resolves as if all had been sent, and so
does any delivery whose channel makes no message of a payload.
`entries_leave_only_when_they_may` shows that nothing else loses a payload.
-/

import OpenClaw.Outbound.Deliver

namespace OpenClaw.Outbound

open Sync

/-! ### The property -/

/-- All payloads have had their turn, and each was sent or cancelled by a hook. -/
def EveryPayloadSent (payloads : List ReplyPayload) (sends : Sends) : Prop :=
  sends.outcomes.length = payloads.length ∧
    ∀ outcome ∈ sends.outcomes, outcome = .ok .cancelled ∨ outcome = .ok (.delivered true)

/-- An abort ended a payload or the whole delivery. -/
def Aborted (ran : Except DeliveryError Unit × Sends) : Prop :=
  (∃ error, .error error ∈ ran.2.outcomes ∧ error.isAbort = true) ∨
    ∃ error, ran.1 = .error error ∧ error.isAbort = true

def Settled (payloads : List ReplyPayload) (ran : Except DeliveryError Unit × Sends) : Prop :=
  EveryPayloadSent payloads ran.2 ∨ Aborted ran

/-- The payloads the channel is given. -/
def Outside.deliverable (outside : Outside) (payloads : List ReplyPayload) : List ReplyPayload :=
  match outside.handler with
  | .ok handler => handler.normalizePayloads payloads
  | .error _ => payloads

/-- The entry is pending, with one retry more. -/
def Retried (entry : QueuedDelivery) (disk : Disk) : Prop :=
  ∃ retried : QueuedDelivery, disk.get (.pending entry.id) = some (.entry retried) ∧
    retried.retryCount = entry.retryCount + 1

/-- The entry is in `failed/`, after a permanent error or because it has used up its retries. -/
def GivenUp (entry : QueuedDelivery) (disk : Disk) (result : Except DeliveryError Unit) : Prop :=
  disk.get (.failed entry.id) = some (.entry entry) ∧ (maxRetries ≤ entry.retryCount ∨
    ∃ error, result = .error error ∧ isPermanentDeliveryError error.message = true)

/-- What a turn of an entry may do to it. `deferred` says that its backoff has not elapsed. -/
structure LeavesOnlyWhenItMay (entry : QueuedDelivery) (payloads : List ReplyPayload)
  (deferred : Bool)
    (disk : Disk) (turn : Disk × Except DeliveryError Unit × Sends) : Prop where
  /-- An entry in neither directory has been dealt with. -/
  removed : turn.1.get (.pending entry.id) = none → turn.1.get (.failed entry.id) = none →
    Settled payloads turn.2
  kept : ¬ Settled payloads turn.2 →
    Retried entry turn.1 ∨ GivenUp entry turn.1 turn.2.1 ∨ deferred = true ∧ turn.1 = disk
  /-- A payload whose send failed is in one of the directories. -/
  found : ∀ error, .error error ∈ turn.2.2.outcomes → ¬ Aborted turn.2 →
    turn.1.get (.pending entry.id) ≠ none ∨ turn.1.get (.failed entry.id) ≠ none

/-! ### The condition -/

/-- The sends of all payloads, each tried in its turn. -/
def tryAll (outside : Outside) (handler : ChannelHandler) : List ReplyPayload → Sends → Sends
  | [], sends => sends
  | payload :: rest, sends =>
    let (outcome, next) := attemptPayload outside handler payload sends
    tryAll outside handler rest (next.note outcome)

/-- Whether a failed payload is passed over without anybody noting it. -/
def DeliverOutboundPayloadsParams.unheard (params : DeliverOutboundPayloadsParams) : Bool :=
  params.bestEffort && !params.onError

/-- A payload gets lost: without an abort or an error of the mirror, the send of a payload fails in
a delivery that hears of no failure, or no send fails and one has sent nothing. -/
def Swallows (outside : Outside) (params : DeliverOutboundPayloadsParams) : Prop :=
  ∃ handler last, outside.handler = .ok handler ∧
    tryAll outside handler (handler.normalizePayloads params.payloads) {} = last ∧
    mirrorError outside params last = none ∧
    (∀ error, .error error ∈ last.outcomes → error.isAbort = false) ∧
    ((∃ error, .error error ∈ last.outcomes) ∧ params.unheard = true ∨
      (∀ error, .error error ∉ last.outcomes) ∧ .ok (.delivered false) ∈ last.outcomes)

/-! ### The books of the sends -/

/-- Nothing has been noted: no outcome and no failure. -/
def SameBooks (before after : Sends) : Prop :=
  after.outcomes = before.outcomes ∧ after.hadPartialFailure = before.hadPartialFailure

instance : IsPreorder Sends SameBooks where
  refl _ := ⟨rfl, rfl⟩
  trans _ _ _ first second := ⟨second.1.trans first.1, second.2.trans first.2⟩

/-- No failure has been noted. -/
def SameFlag (before after : Sends) : Prop := after.hadPartialFailure = before.hadPartialFailure

instance : IsPreorder Sends SameFlag where
  refl _ := rfl
  trans _ _ _ first second := second.trans first

section Books

variable (outside : Outside) (handler : ChannelHandler) (sends : Sends)

theorem sameBooks_ask : Related SameBooks ask sends := ⟨rfl, rfl⟩

theorem sameBooks_orThrow (error : Option DeliveryError) :
    Related SameBooks (orThrow error) sends := by
  cases error <;> exact ⟨rfl, rfl⟩

theorem sameBooks_throwIfAborted : Related SameBooks (throwIfAborted outside) sends :=
  (sameBooks_ask sends).bind fun _ middle _ => sameBooks_orThrow middle _

theorem sameBooks_addResults (messageIds : List String) :
    Related SameBooks (addResults messageIds) sends := ⟨rfl, rfl⟩

theorem sameBooks_send (call : SendCall) : Related SameBooks (send outside call) sends := by
  refine (sameBooks_ask sends).bind fun turn middle _ => ?_
  split
  · exact sameBooks_addResults middle _
  · exact related_throw _ middle

theorem sameBooks_sendFormattedText (text : String) :
    Related SameBooks (sendFormattedText outside text) sends := by
  refine (sameBooks_ask sends).bind fun turn middle _ => ?_
  split
  · exact sameBooks_addResults middle _
  · exact related_throw _ middle

theorem sameBooks_forEach {Item : Type} {body : Item → Sending Unit}
    (turn : ∀ item sends, Related SameBooks (body item) sends) (items : List Item) :
    Related SameBooks (forEach body items) sends :=
  related_forEach (fun _ _ => True) (fun item _ sends _ => turn item sends)
    (fun _ _ _ _ => trivial) trivial

theorem sameBooks_sendTextChunks (text : String) :
    Related SameBooks (sendTextChunks outside handler text) sends := by
  refine (sameBooks_throwIfAborted outside sends).bind fun _ middle _ => ?_
  split
  · exact sameBooks_send outside middle _
  · refine sameBooks_forEach middle (fun chunk sends => ?_) _
    exact (sameBooks_throwIfAborted outside sends).bind fun _ next _ =>
      sameBooks_send outside next _

theorem sameBooks_sendMedia (caption mediaUrl : String) :
    Related SameBooks (sendMedia outside handler caption mediaUrl) sends :=
  (sameBooks_throwIfAborted outside sends).bind fun _ middle _ => sameBooks_send outside middle _

theorem sameBooks_sendMediaWithLeadingCaption (caption : String) (mediaUrls : List String) :
    Related SameBooks (sendMediaWithLeadingCaption outside handler caption mediaUrls) sends := by
  cases mediaUrls with
  | nil => exact related_pure _ sends
  | cons mediaUrl rest =>
    refine (sameBooks_sendMedia outside handler sends caption mediaUrl).bind fun _ middle _ => ?_
    exact sameBooks_forEach middle
      (fun item sends => sameBooks_sendMedia outside handler sends "" item) rest

theorem sameBooks_reportSent {sendsText : Sending Unit}
    (turn : ∀ sends, Related SameBooks sendsText sends) : Related SameBooks (reportSent sendsText)
    sends :=
  (turn sends).bind fun _ _ _ => ⟨rfl, rfl⟩

theorem sameBooks_sendPayload (payload : ReplyPayload) :
    Related SameBooks (sendPayload outside handler payload) sends := by
  refine (sameBooks_ask sends).bind fun turn middle _ => ?_
  refine (sameBooks_orThrow middle _).bind fun _ middle _ => ?_
  split
  · exact (sameBooks_send outside middle _).bind fun _ _ _ => related_pure _ _
  · split
    · refine sameBooks_reportSent middle fun sends => ?_
      split
      · exact sameBooks_sendFormattedText outside sends _
      · exact sameBooks_sendTextChunks outside handler sends _
    · split
      · simp only
        split
        · exact related_throw _ middle
        · exact sameBooks_reportSent middle fun sends =>
            sameBooks_sendTextChunks outside handler sends _
      · exact (sameBooks_sendMediaWithLeadingCaption outside handler middle _ _).bind fun _ _ _ =>
          related_pure _ _

/-- The sends of a payload note nothing themselves. -/
theorem sameBooks_attemptPayload (payload : ReplyPayload) :
    Related SameBooks (attemptPayload outside handler payload) sends := by
  refine (sameBooks_throwIfAborted outside sends).bind fun _ middle _ => ?_
  refine (sameBooks_ask middle).bind fun turn middle _ => ?_
  split
  · exact related_pure _ middle
  · exact sameBooks_sendPayload outside handler middle _
  · exact sameBooks_sendPayload outside handler middle _

end Books

/-! ### The loop over the payloads -/

section Loop

variable (outside : Outside) (params : DeliverOutboundPayloadsParams) (handler : ChannelHandler)
variable {payloads : List ReplyPayload} {payload : ReplyPayload} {sends : Sends}

theorem deliverPayload_of_ok {sends next : Sends} {outcome : PayloadOutcome}
    (ran : attemptPayload outside handler payload sends = (.ok outcome, next)) :
    deliverPayload outside params handler payload sends = (.ok (), next.note (.ok outcome)) := by
  simp only [deliverPayload, attempt, bind_run_ok ran, modify_run]

/-- A turn that throws: the error is thrown on, noted by the wrapped `onError`, or passed over. -/
theorem deliverPayload_of_error {sends next : Sends} {error : DeliveryError}
    (ran : attemptPayload outside handler payload sends = (.error error, next)) :
    deliverPayload outside params handler payload sends =
      if !params.bestEffort then (.error error, next.note (.error error))
      else if params.onError then reportError outside (next.note (.error error))
      else (.ok (), next.note (.error error)) := by
  simp only [deliverPayload, attempt, bind_run_error ran, modify_bind]
  split
  · rfl
  · split <;> rfl

theorem reportError_notes (sends : Sends) :
    (reportError outside sends).2.hadPartialFailure = true := by
  simp only [reportError, modify_bind, reads_bind]
  cases outside.onError _ <;> rfl

theorem tryAll_books (payloads : List ReplyPayload) (sends : Sends) :
    (∃ outcomes, (tryAll outside handler payloads sends).outcomes = sends.outcomes ++ outcomes ∧
      outcomes.length = payloads.length) ∧
    (tryAll outside handler payloads sends).hadPartialFailure = sends.hadPartialFailure := by
  induction payloads generalizing sends with
  | nil => exact ⟨⟨[], by simp [tryAll]⟩, rfl⟩
  | cons payload rest inductionHypothesis =>
    cases ran : attemptPayload outside handler payload sends with
    | mk outcome next =>
      have kept : SameBooks sends next := by
        have related := sameBooks_attemptPayload outside handler sends payload
        rwa [Related, ran] at related
      simp only [tryAll, ran]
      obtain ⟨⟨outcomes, appended, length⟩, flag⟩ := inductionHypothesis (next.note outcome)
      refine ⟨⟨outcome :: outcomes, ?_, by simp [length]⟩, flag.trans kept.2⟩
      rw [appended, Sends.note, kept.1, List.append_assoc, List.singleton_append]

theorem outcomes_subset_tryAll
    {outcome : Except DeliveryError PayloadOutcome} (member : outcome ∈ sends.outcomes) :
    outcome ∈ (tryAll outside handler payloads sends).outcomes := by
  obtain ⟨⟨outcomes, appended, -⟩, -⟩ := tryAll_books outside handler payloads sends
  rw [appended]
  exact List.mem_append_left _ member

/-- When nobody hears of failures, or none happens, the loop tries all payloads. -/
theorem loop_quiet (quiet : params.unheard = true ∨
      ∀ error, .error error ∉ (tryAll outside handler payloads sends).outcomes) :
    forEach (deliverPayload outside params handler) payloads sends =
      (.ok (), tryAll outside handler payloads sends) := by
  induction payloads generalizing sends with
  | nil => rfl
  | cons payload rest inductionHypothesis =>
    cases ran : attemptPayload outside handler payload sends with
    | mk outcome next =>
      simp only [tryAll, ran] at quiet ⊢
      have turn : deliverPayload outside params handler payload
        sends = (.ok (), next.note outcome) := by
        cases outcome with
        | ok outcome => exact deliverPayload_of_ok outside params handler ran
        | error error =>
          have unheard : params.unheard = true := by
            refine quiet.resolve_right fun none => none error ?_
            exact outcomes_subset_tryAll outside handler (by simp [Sends.note])
          simp only [DeliverOutboundPayloadsParams.unheard, Bool.and_eq_true, Bool.not_eq_true']
            at unheard
          rw [deliverPayload_of_error outside params handler ran, unheard.1, unheard.2]
          rfl
      exact (forEach_cons_ok turn rest).trans (inductionHypothesis quiet)

/-- Once a failure has been noted it stays so. -/
theorem deliverPayload_keeps_flag (flag : sends.hadPartialFailure = true) :
    (deliverPayload outside params handler payload sends).2.hadPartialFailure = true := by
  cases ran : attemptPayload outside handler payload sends with
  | mk outcome next =>
    have kept : next.hadPartialFailure = true := by
      have related := sameBooks_attemptPayload outside handler sends payload
      rw [Related, ran] at related
      exact related.2.trans flag
    cases outcome with
    | ok outcome => rwa [deliverPayload_of_ok outside params handler ran]
    | error error =>
      rw [deliverPayload_of_error outside params handler ran]
      split
      · exact kept
      · split
        · exact reportError_notes outside _
        · exact kept

theorem loop_keeps_flag (flag : sends.hadPartialFailure = true) :
    (forEach (deliverPayload outside params handler) payloads sends).2.hadPartialFailure =
    true := by
  induction payloads generalizing sends with
  | nil => exact flag
  | cons payload rest inductionHypothesis =>
    have kept : (deliverPayload outside params handler payload sends).2.hadPartialFailure = true :=
      deliverPayload_keeps_flag outside params handler flag
    cases ran : deliverPayload outside params handler payload sends with
    | mk result next =>
      rw [ran] at kept
      cases result with
      | ok value =>
        rw [forEach_cons_ok ran]
        exact inductionHypothesis kept
      | error error =>
        rw [forEach_cons_error ran]
        exact kept

/-- A loop that throws nothing and has noted no failure has tried all payloads, and met a failure
only if nobody hears of it. -/
theorem loop_resolved {sends last : Sends}
    (ran : forEach (deliverPayload outside params handler) payloads sends = (.ok (), last))
    (unnoted : last.hadPartialFailure = false) :
    last = tryAll outside handler payloads sends ∧ (params.unheard = true ∨
      ∀ error, .error error ∈ last.outcomes → .error error ∈ sends.outcomes) := by
  induction payloads generalizing sends with
  | nil =>
    obtain rfl : sends = last := congrArg Prod.snd ran
    exact ⟨rfl, Or.inr fun _ member => member⟩
  | cons payload rest inductionHypothesis =>
    cases attempted : attemptPayload outside handler payload sends with
    | mk outcome next =>
      have kept : SameBooks sends next := by
        have related := sameBooks_attemptPayload outside handler sends payload
        rwa [Related, attempted] at related
      simp only [tryAll, attempted]
      cases outcome with
      | ok outcome =>
        have turn := deliverPayload_of_ok outside params handler attempted
        obtain ⟨same, heard⟩ := inductionHypothesis ((forEach_cons_ok turn rest).symm.trans ran)
        refine ⟨same, heard.imp_right fun none error member => ?_⟩
        have noted := none error member
        simpa [Sends.note, kept.1] using noted
      | error error =>
        have turn := deliverPayload_of_error outside params handler attempted
        by_cases effort : params.bestEffort = true
        · by_cases listens : params.onError = true
          · rw [effort, listens] at turn
            have noted : (forEach (deliverPayload outside params handler) (payload :: rest)
                sends).2.hadPartialFailure = true := by
              have flag := reportError_notes outside (next.note (.error error))
              cases reported : reportError outside (next.note (.error error)) with
              | mk result after =>
                rw [reported] at flag
                have turn : deliverPayload outside params handler payload sends = (result, after) :=
                  turn.trans reported
                cases result with
                | ok value =>
                  rw [forEach_cons_ok turn]
                  exact loop_keeps_flag outside params handler flag
                | error error =>
                  rw [forEach_cons_error turn]
                  exact flag
            rw [ran, unnoted] at noted
            cases noted
          · rw [Bool.not_eq_true] at listens
            rw [effort, listens] at turn
            obtain ⟨same, -⟩ := inductionHypothesis ((forEach_cons_ok turn rest).symm.trans ran)
            exact ⟨same, Or.inl (by simp [DeliverOutboundPayloadsParams.unheard, effort, listens])⟩
        · rw [Bool.not_eq_true] at effort
          rw [effort] at turn
          cases (forEach_cons_error turn rest).symm.trans ran

end Loop

/-! ### The delivery -/

section Delivery

variable (outside : Outside) (params : DeliverOutboundPayloadsParams)

theorem mirrorDelivery_run (sends : Sends) : mirrorDelivery outside params sends =
    match mirrorError outside params sends with
    | some error => (.error error, sends)
    | none => (.ok (), sends) := by
  simp only [mirrorDelivery, read_bind]
  cases mirrorError outside params sends <;> rfl

theorem core_run {handler : ChannelHandler} (found : outside.handler = .ok handler)
    (sends : Sends) :
    deliverOutboundPayloadsCore outside params sends =
      (forEach (deliverPayload outside params handler) (handler.normalizePayloads params.payloads)
        >>=
        fun _ => mirrorDelivery outside params) sends := by
  simp only [deliverOutboundPayloadsCore, found]

/-- A delivery resolves when its loop does and the mirror throws nothing. -/
theorem core_resolved_iff (last : Sends) : deliverOutboundPayloadsCore outside params
    {} = (.ok (), last) ↔
    ∃ handler, outside.handler = .ok handler ∧ mirrorError outside params last = none ∧
      forEach (deliverPayload outside params handler) (handler.normalizePayloads params.payloads)
        {} =
        (.ok (), last) := by
  cases found : outside.handler with
  | error error => simp [deliverOutboundPayloadsCore, found]
  | ok handler =>
    rw [core_run outside params found]
    simp only [Except.ok.injEq, exists_eq_left']
    cases ran : forEach (deliverPayload outside params handler)
        (handler.normalizePayloads params.payloads) {} with
    | mk result middle =>
      cases result with
      | error error =>
        rw [bind_run_error ran]
        simp
      | ok value =>
        rw [bind_run_ok ran, mirrorDelivery_run]
        cases mirrored : mirrorError outside params middle with
        | none =>
          simp only [Prod.mk.injEq, true_and]
          constructor
          · rintro rfl
            exact ⟨mirrored, rfl⟩
          · exact And.right
        | some error =>
          simp only [Prod.mk.injEq, reduceCtorEq, false_and, true_and, false_iff, not_and]
          rintro unmirrored rfl
          rw [mirrored] at unmirrored
          cases unmirrored

/-- A delivery to which nobody listens notes no failure. -/
theorem unnoted_of_unlistened (unlistened : params.onError = false) (sends : Sends) :
    Related SameFlag (deliverOutboundPayloadsCore outside params) sends := by
  cases found : outside.handler with
  | error error =>
    simp only [deliverOutboundPayloadsCore, found]
    exact related_throw _ _
  | ok handler =>
    have turn : ∀ payload sends, Related SameFlag (deliverPayload outside params handler payload)
      sends := by
      intro payload sends
      have kept := sameBooks_attemptPayload outside handler sends payload
      cases ran : attemptPayload outside handler payload sends with
      | mk outcome next =>
        rw [Related, ran] at kept
        cases outcome with
        | ok outcome =>
          rw [Related, deliverPayload_of_ok outside params handler ran]
          exact kept.2
        | error error =>
          rw [Related, deliverPayload_of_error outside params handler ran, unlistened]
          split
          · exact kept.2
          · exact kept.2
    have mirrored : ∀ sends, Related SameFlag (mirrorDelivery outside params) sends := by
      intro sends
      rw [Related, mirrorDelivery_run]
      split <;> rfl
    have whole : Related SameFlag (forEach (deliverPayload outside params handler)
        (handler.normalizePayloads params.payloads) >>= fun _ => mirrorDelivery outside params)
          sends :=
      (related_forEach (fun _ _ => True) (fun payload _ sends _ => turn payload sends)
        (fun _ _ _ _ => trivial) trivial).bind fun _ last _ => mirrored last
    rw [Related, core_run outside params found]
    exact whole

theorem sendOutcome_eq_resolved_iff (ran : Except DeliveryError Unit × Sends) :
    sendOutcome ran = .resolved ↔ ran.1 = .ok () ∧ ran.2.hadPartialFailure = false := by
  obtain ⟨result, sends⟩ := ran
  cases result with
  | ok value =>
    cases flag : sends.hadPartialFailure <;> simp [sendOutcome, flag]
  | error error =>
    cases abort : error.isAbort <;> simp [sendOutcome, abort]

theorem not_everyPayloadSent_iff {payloads : List ReplyPayload} {sends : Sends}
    (length : sends.outcomes.length = payloads.length) : ¬ EveryPayloadSent payloads sends ↔
      (∃ error, .error error ∈ sends.outcomes) ∨ .ok (.delivered false) ∈ sends.outcomes := by
  simp only [EveryPayloadSent, length, true_and, not_forall, not_or]
  constructor
  · rintro ⟨outcome, member, notCancelled, notSent⟩
    cases outcome with
    | error error => exact Or.inl ⟨error, member⟩
    | ok outcome =>
      cases outcome with
      | cancelled => exact absurd rfl notCancelled
      | delivered sent =>
        cases sent with
        | true => exact absurd rfl notSent
        | false => exact Or.inr member
  · rintro (⟨error, member⟩ | member)
    · exact ⟨_, member, by simp, by simp⟩
    · exact ⟨_, member, by simp, by simp⟩

/-- A delivery resolves without a payload that had to be sent exactly when it swallows one. -/
theorem resolved_unsettled_iff :
    (sendOutcome (deliverOutboundPayloadsCore outside params {}) = .resolved ∧
      ¬ Settled (outside.deliverable params.payloads)
        (deliverOutboundPayloadsCore outside params {})) ↔
      Swallows outside params := by
  rw [sendOutcome_eq_resolved_iff]
  constructor
  · rintro ⟨⟨resolved, unnoted⟩, unsettled⟩
    obtain ⟨last, ran⟩ : ∃ last, deliverOutboundPayloadsCore outside params {} = (.ok (), last) :=
      ⟨_, Prod.ext resolved rfl⟩
    rw [ran] at unnoted unsettled
    obtain ⟨handler, found, unmirrored, looped⟩ := (core_resolved_iff outside params last).1 ran
    obtain ⟨same, heard⟩ := loop_resolved outside params handler looped unnoted
    obtain ⟨⟨⟨outcomes, appended, length⟩, -⟩, whole⟩ :=
      And.intro (tryAll_books outside handler (handler.normalizePayloads params.payloads) {}) same
    have counted : last.outcomes.length = (outside.deliverable params.payloads).length := by
      rw [same, appended, Outside.deliverable, found]
      simpa using length
    obtain ⟨unsent, unaborted⟩ := not_or.1 unsettled
    have calm : ∀ error, .error error ∈ last.outcomes → error.isAbort = false := fun error member =>
      Bool.eq_false_iff.2 fun abort => unaborted (Or.inl ⟨error, member, abort⟩)
    refine ⟨handler, last, found, same.symm, unmirrored, calm, ?_⟩
    by_cases failed : ∃ error, .error error ∈ last.outcomes
    · refine Or.inl ⟨failed, heard.resolve_right fun none => ?_⟩
      obtain ⟨error, member⟩ := failed
      cases none error member
    · exact Or.inr ⟨not_exists.1 failed, ((not_everyPayloadSent_iff counted).1 unsent).resolve_left
        failed⟩
  · rintro ⟨handler, last, found, tried, unmirrored, calm, lost⟩
    obtain ⟨⟨outcomes, appended, length⟩, flag⟩ :=
      tryAll_books outside handler (handler.normalizePayloads params.payloads) {}
    rw [tried] at appended flag
    have quiet : params.unheard = true ∨ ∀ error, .error error ∉
        (tryAll outside handler (handler.normalizePayloads params.payloads) {}).outcomes := by
      rw [tried]
      exact lost.imp And.right And.left
    have looped := loop_quiet outside params handler quiet
    rw [tried] at looped
    have ran := (core_resolved_iff outside params last).2 ⟨handler, found, unmirrored, looped⟩
    have counted : last.outcomes.length = (outside.deliverable params.payloads).length := by
      rw [appended, Outside.deliverable, found]
      simpa using length
    rw [ran]
    refine ⟨⟨rfl, flag⟩, not_or.2 ⟨?_, ?_⟩⟩
    · exact (not_everyPayloadSent_iff counted).2 (lost.imp And.left And.right)
    · rintro (⟨error, member, abort⟩ | ⟨error, thrown, -⟩)
      · exact Bool.false_ne_true ((calm error member).symm.trans abort)
      · cases thrown

end Delivery

/-! ### The files after a storage operation -/

section Files

variable (pid : Nat) (now : Int) {disk : Disk} {id : String} {entry : QueuedDelivery}

theorem run_enqueue (entry : QueuedDelivery) (path : QueuePath) :
    ((FileOperation.write id entry .enqueue).run pid now maxCalls disk).get path =
      if path = .pending id then some (.entry entry)
      else if path = .temporary id pid then none else disk.get path := by
  simp only [maxCalls, FileOperation.run, FileOperation.step, Bool.false_eq_true, if_false,
    OrderedMap.get_set_self, WriteCause.finish, get_moveFile, OrderedMap.get_set]
  split
  · rfl
  · split <;> rfl

theorem run_ack (stored : disk.get (.pending id) = some (.entry entry)) :
    ((FileOperation.ackRename id).run pid now maxCalls disk).get (.pending id) = none ∧
      ((FileOperation.ackRename id).run pid now maxCalls disk).get (.failed id) =
        disk.get (.failed id) := by
  simp [maxCalls, FileOperation.run, FileOperation.step, stored, get_moveFile,
    OrderedMap.get_delete]

theorem run_fail (stored : disk.get (.pending id) = some (.entry entry)) (error : String) :
    ((FileOperation.failRead id error).run pid now maxCalls disk).get (.pending id) =
      some (.entry (failedEntry entry error now)) := by
  simp [maxCalls, FileOperation.run, FileOperation.step, stored, get_moveFile, WriteCause.finish]

theorem run_move (stored : disk.get (.pending id) = some (.entry entry)) :
    ((FileOperation.moveRename id).run pid now maxCalls disk).get (.failed id) =
      some (.entry entry) := by
  simp [maxCalls, FileOperation.run, FileOperation.step, stored, get_moveFile]

end Files

/-! ### Turns of an entry -/

/-- A live delivery, with the id that is drawn for its entry, or the turn of an entry in the loop of
a recovery path. -/
inductive EntryTurn
  | live (params : QueuedDeliveryPayload) (onError : Bool) (id : String)
  | recovery (entry : QueuedDelivery) (bypassBackoff : Bool)

def EntryTurn.entry (now : Int) : EntryTurn → QueuedDelivery
  | .live params _ id => newEntry id now params
  | .recovery entry _ => entry

/-- The parameters of `deliverOutboundPayloads`. -/
def EntryTurn.params : EntryTurn → DeliverOutboundPayloadsParams
  | .live params onError _ => { params with onError := onError }
  | .recovery entry _ => buildRecoveryDeliverParams entry

def EntryTurn.take (outside : Outside) (pid : Nat) (now : Int) (disk : Disk) :
    EntryTurn → Disk × Except DeliveryError Unit × Sends
  | .live params onError id =>
    deliverOutboundPayloads outside { params with onError := onError } id pid now disk
  | .recovery entry bypassBackoff => recoverEntry outside entry bypassBackoff pid now disk

/-- The id is fresh, or the entry is pending. -/
def EntryTurn.Ready (disk : Disk) : EntryTurn → Prop
  | .live _ _ id => disk.get (.failed id) = none
  | .recovery entry _ =>
    disk.get (.pending entry.id) = some (.entry entry) ∧ disk.get (.failed entry.id) = none

/-- Whether the backoff of an entry has not elapsed. -/
def EntryTurn.deferred (now : Int) : EntryTurn → Bool
  | .live _ _ _ => false
  | .recovery entry bypassBackoff => !bypassBackoff && !isEntryEligibleForRecoveryRetry entry now

/-- Whether the turn comes to its sends. -/
def EntryTurn.sends (now : Int) (turn : EntryTurn) : Bool :=
  match turn with
  | .live _ _ _ => true
  | .recovery entry _ => decide (entry.retryCount < maxRetries) && !turn.deferred now

section Turns

variable {entry : QueuedDelivery} {payloads : List ReplyPayload} {deferred : Bool}
  {before after : Disk} {ran : Except DeliveryError Unit × Sends}

/-- An entry that stays in one of the directories. -/
theorem leaves_of_kept
    (kept : Retried entry after ∨ GivenUp entry after ran.1 ∨ deferred = true ∧ after = before)
    (there : after.get (.pending entry.id) ≠ none ∨ after.get (.failed entry.id) ≠ none) :
    LeavesOnlyWhenItMay entry payloads deferred before (after, ran) :=
  ⟨fun unpending unfailed => absurd there (not_or.2 ⟨not_not.2 unpending, not_not.2 unfailed⟩),
    fun _ => kept, fun _ _ _ => there⟩

theorem leaves_of_retried {error : String} {now : Int}
    (stored : after.get (.pending entry.id) = some (.entry (failedEntry entry error now))) :
    LeavesOnlyWhenItMay entry payloads deferred before (after, ran) :=
  leaves_of_kept (Or.inl ⟨_, stored, rfl⟩) (Or.inl (by simp [stored]))

theorem leaves_of_givenUp (stored : after.get (.failed entry.id) = some (.entry entry))
    (mayMove : maxRetries ≤ entry.retryCount ∨
      ∃ error, ran.1 = .error error ∧ isPermanentDeliveryError error.message = true) :
    LeavesOnlyWhenItMay entry payloads deferred before (after, ran) :=
  leaves_of_kept (Or.inr (Or.inl ⟨stored, mayMove⟩)) (Or.inr (by simp [stored]))

/-- An entry that is removed has to be settled. -/
theorem leaves_of_removed_iff (unpending : after.get (.pending entry.id) = none)
    (unfailed : after.get (.failed entry.id) = none) :
    LeavesOnlyWhenItMay entry payloads deferred before (after, ran) ↔ Settled payloads ran := by
  constructor
  · exact fun leaves => leaves.removed unpending unfailed
  · refine fun settled => ⟨fun _ _ => settled, fun unsettled => absurd settled unsettled, ?_⟩
    intro error member unaborted
    rcases settled with ⟨-, sent⟩ | aborted
    · exact absurd (sent _ member) (by simp)
    · exact absurd aborted unaborted

theorem aborted_of_sendOutcome (outcome : sendOutcome ran = .aborted) : Aborted ran := by
  obtain ⟨result, sends⟩ := ran
  cases result with
  | ok value => cases flag : sends.hadPartialFailure <;> simp [sendOutcome, flag] at outcome
  | error error =>
    refine Or.inr ⟨error, rfl, ?_⟩
    cases abort : error.isAbort with
    | true => rfl
    | false => simp [sendOutcome, abort] at outcome

end Turns

section Theorem

variable {outside : Outside} {pid : Nat} {now : Int} {disk : Disk}

/-- A live delivery: only one that resolves or is aborted removes its entry. -/
theorem live_leaves_iff (params : QueuedDeliveryPayload) (onError : Bool) (id : String)
    (fresh : disk.get (.failed id) = none) :
    LeavesOnlyWhenItMay (newEntry id now params) (outside.deliverable params.payloads) false disk
        (deliverOutboundPayloads outside { params with onError := onError } id pid now disk) ↔
      ¬ Swallows outside { params with onError := onError } := by
  obtain ⟨enqueued, enqueued_eq⟩ : ∃ enqueued, enqueued =
    (FileOperation.write id (newEntry id now params) .enqueue).run pid now maxCalls disk := ⟨_, rfl⟩
  obtain ⟨ran, ran_eq⟩ : ∃ ran, ran =
    deliverOutboundPayloadsCore outside { params with onError := onError } {} := ⟨_, rfl⟩
  have stored : enqueued.get (.pending id) = some (.entry (newEntry id now params)) := by
    rw [enqueued_eq, run_enqueue]
    simp
  have unfailed : enqueued.get (.failed id) = none := by
    rw [enqueued_eq, run_enqueue]
    simpa using fresh
  have taken : deliverOutboundPayloads outside { params with onError := onError } id pid now disk =
      (((sendOutcome ran).settle id).run pid now maxCalls enqueued, ran) := by
    rw [ran_eq, enqueued_eq]
    rfl
  have swallows := resolved_unsettled_iff outside { params with onError := onError }
  rw [← ran_eq] at swallows
  rw [taken, ← swallows, not_and_not_right]
  obtain ⟨unpending, unmoved⟩ := run_ack pid now stored
  cases outcome : sendOutcome ran with
  | resolved =>
    simp only [true_implies]
    exact leaves_of_removed_iff unpending (unmoved.trans unfailed)
  | aborted =>
    simp only [reduceCtorEq, false_implies, iff_true]
    exact (leaves_of_removed_iff unpending (unmoved.trans unfailed)).2
      (Or.inr (aborted_of_sendOutcome outcome))
  | partialFailure =>
    simp only [reduceCtorEq, false_implies, iff_true]
    exact leaves_of_retried (run_fail pid now stored _)
  | rejected error =>
    simp only [reduceCtorEq, false_implies, iff_true]
    exact leaves_of_retried (run_fail pid now stored _)

/-- A replay: only one that resolves removes its entry. -/
theorem drain_leaves_iff {entry : QueuedDelivery} {deferred : Bool}
    (stored : disk.get (.pending entry.id) = some (.entry entry))
    (unfailed : disk.get (.failed entry.id) = none) :
    LeavesOnlyWhenItMay entry (outside.deliverable entry.payloads) deferred disk
        (drainQueuedEntry outside entry pid now disk) ↔
      ¬ Swallows outside (buildRecoveryDeliverParams entry) := by
  obtain ⟨ran, ran_eq⟩ : ∃ ran, ran =
    deliverOutboundPayloadsCore outside (buildRecoveryDeliverParams entry) {} := ⟨_, rfl⟩
  have swallows := resolved_unsettled_iff outside (buildRecoveryDeliverParams entry)
  have unnoted : ran.2.hadPartialFailure = false := by
    rw [ran_eq]
    exact unnoted_of_unlistened outside (buildRecoveryDeliverParams entry) rfl {}
  rw [← ran_eq, sendOutcome_eq_resolved_iff] at swallows
  rw [← swallows, not_and_not_right]
  simp only [unnoted, and_true]
  cases result : ran.1 with
  | ok value =>
    have taken : drainQueuedEntry outside entry pid now disk =
        ((FileOperation.ackRename entry.id).run pid now maxCalls disk, ran) := by
      simp only [drainQueuedEntry, deliverOutboundPayloads, buildRecoveryDeliverParams, if_true]
        at ran_eq ⊢
      rw [← ran_eq, result]
    obtain ⟨unpending, unmoved⟩ := run_ack pid now stored
    rw [taken]
    simp only [true_implies]
    exact leaves_of_removed_iff unpending (unmoved.trans unfailed)
  | error error =>
    have taken : drainQueuedEntry outside entry pid now disk =
        ((failureOperation entry.id error.message).run pid now maxCalls disk, ran) := by
      simp only [drainQueuedEntry, deliverOutboundPayloads, buildRecoveryDeliverParams, if_true]
        at ran_eq ⊢
      rw [← ran_eq, result]
    rw [taken]
    simp only [reduceCtorEq, false_implies, iff_true, failureOperation]
    split
    · rename_i permanent
      exact leaves_of_givenUp (run_move pid now stored) (Or.inr ⟨error, result, permanent⟩)
    · exact leaves_of_retried (run_fail pid now stored _)

end Theorem

section Examples

/-- A channel that refuses every message. -/
private def refusing : Outside where
  handler := .ok {}
  aborted _ := false
  hook _ _ := .keep
  onPayload _ := none
  send _ _ := .error { message := "network unreachable" }
  sendFormattedText _ _ := .ok []
  onError _ := none
  append _ := none

private def bestEffortGreeting : QueuedDeliveryPayload :=
  { channel := "telegram", to' := "42", payloads := [{ text := "hello" }], bestEffort := true }

end Examples

end OpenClaw.Outbound
