import Sipmon.Guarantees.CallTable

/-!
# When events are emitted

Every event a step reports goes to the log file and to the live session report alike,
and carries the time of the step: that of the message or packet, and for what is only
concluded from it the time of the capture.
-/
namespace Sipmon.Guarantees.EventTimes
open Source Lib Correlator Views CallTable RegistryIndex
open Evlog (Event)

/-- `after` reports `evs` on top of what `c` has reported. -/
structure Logs (c after : Correlator) (evs : List Event) : Prop where
  pending : after.pendingEvents = if c.emitEvlog then c.pendingEvents ++ evs else c.pendingEvents
  session : after.sessionStats = c.sessionStats.map (· ++ evs)
  emit : after.emitEvlog = c.emitEvlog

/-- The same while the capture time stays. -/
structure Reports (c after : Correlator) (evs : List Event) : Prop extends Logs c after evs where
  lastUs : after.reg.lastUs = c.reg.lastUs

/-- What is reported is reported at that time. -/
def Emits (ts : UInt64) (c after : Correlator) : Prop :=
  ∃ evs, Reports c after evs ∧ ∀ ev ∈ evs, ev.tsUs = ts

variable {ts : UInt64} {c after : Correlator}

theorem Logs.silent (pending : after.pendingEvents = c.pendingEvents)
    (session : after.sessionStats = c.sessionStats) (emit : after.emitEvlog = c.emitEvlog) : Logs c after [] where
  pending := by simp [pending]
  session := by cases h : c.sessionStats <;> simp [session, h]
  emit := emit

theorem Logs.append {last : Correlator} {first second : List Event} (now : Logs c after first)
    (later : Logs after last second) : Logs c last (first ++ second) where
  pending := by
    rw [later.pending, now.pending, now.emit]
    split
    · rw [List.append_assoc]
    · rfl
  session := by
    rw [later.session, now.session, Option.map_map]
    congr 1
    funext evs
    exact List.append_assoc ..
  emit := later.emit.trans now.emit

theorem Reports.silent (pending : after.pendingEvents = c.pendingEvents)
    (session : after.sessionStats = c.sessionStats) (emit : after.emitEvlog = c.emitEvlog)
    (lastUs : after.reg.lastUs = c.reg.lastUs) : Reports c after [] :=
  ⟨.silent pending session emit, lastUs⟩

theorem Reports.append {last : Correlator} {first second : List Event} (now : Reports c after first)
    (later : Reports after last second) : Reports c last (first ++ second) where
  toLogs := now.toLogs.append later.toLogs
  lastUs := later.lastUs.trans now.lastUs

/-- A step that reports nothing. -/
theorem Reports.emits (reports : Reports c after []) : Emits ts c after := ⟨[], reports, by simp⟩

theorem Emits.silent (pending : after.pendingEvents = c.pendingEvents)
    (session : after.sessionStats = c.sessionStats) (emit : after.emitEvlog = c.emitEvlog)
    (lastUs : after.reg.lastUs = c.reg.lastUs) : Emits ts c after :=
  (Reports.silent pending session emit lastUs).emits

theorem Emits.refl (ts : UInt64) (c : Correlator) : Emits ts c c := .silent rfl rfl rfl rfl

theorem Emits.trans {last : Correlator} (first : Emits ts c after) (second : Emits ts after last) :
    Emits ts c last := by
  obtain ⟨early, now, at_ts⟩ := first
  obtain ⟨late, next, still⟩ := second
  refine ⟨early ++ late, now.append next, fun ev member => ?_⟩
  rcases List.mem_append.mp member with inside | inside
  · exact at_ts ev inside
  · exact still ev inside

theorem Emits.foldl {α : Type} {f : Correlator → α → Correlator} (each : ∀ c a, Emits ts c (f c a))
    (l : List α) (c : Correlator) : Emits ts c (l.foldl f c) := by
  induction l generalizing c with
  | nil => exact .refl ts c
  | cons a rest ih => exact (each c a).trans (ih (f c a))

theorem Emits.pushEv (c : Correlator) {ev : Event} (time : ev.tsUs = ts) : Emits ts c (c.pushEv ev) :=
  ⟨[ev], ⟨⟨rfl, rfl, rfl⟩, rfl⟩, by simpa using time⟩

/-- The registry moves, its capture time stays. -/
theorem Emits.reg (c : Correlator) {reg : Registry} (lastUs : reg.lastUs = c.reg.lastUs) :
    Emits ts c { c with reg } := .silent rfl rfl rfl lastUs

theorem staying_lastUs : Staying Registry.lastUs where
  tables _ _ _ _ _ _ _ _ _ _ _ _ := rfl

/-! ## Diagnostics -/

theorem emits_addDiagnostic (c : Correlator) {d : Diagnostic} (time : d.tsUs = ts) :
    Emits ts c (c.addDiagnostic d) := by
  unfold addDiagnostic
  split
  · exact .refl ts c
  · have reported : Emits ts c (c.pushEv (.diag
        { tsUs := d.tsUs, callId := d.callId, severity := severityCode d.severity
          code := d.code, message := d.message })) := Emits.pushEv c time
    apply reported.trans
    apply Emits.reg
    simp only [Registry.pushDiagnostic, Registry.pushEvent, Registry.updateCall]

theorem emits_addDiagnostics {ds : List Diagnostic} (times : ∀ d ∈ ds, d.tsUs = ts) (c : Correlator) :
    Emits ts c (c.addDiagnostics ds) := by
  induction ds generalizing c with
  | nil => exact .refl ts c
  | cons d rest ih =>
    have first : Emits ts c (c.addDiagnostic d) := emits_addDiagnostic c (times d List.mem_cons_self)
    exact first.trans (ih (fun d member => times d (List.mem_cons_of_mem _ member)) (c.addDiagnostic d))

theorem emits_checkOneway (clock : c.reg.lastUs = some ts) (id : String) :
    Emits ts c (c.checkOnewayAtTeardown id) := by
  unfold checkOnewayAtTeardown
  dsimp only
  split
  · split
    · exact .refl ts c
    · exact emits_addDiagnostic c (by simp [diag, clock])
  · exact .refl ts c

theorem emits_checkTurnLegs (clock : c.reg.lastUs = some ts) (id : String) :
    Emits ts c (c.checkTurnLegs id) := by
  unfold checkTurnLegs
  dsimp only
  split
  · split
    · exact emits_addDiagnostic c (by simp [diag, clock])
    · exact .refl ts c
  · exact .refl ts c

theorem Emits.clock (emits : Emits ts c after) (clock : c.reg.lastUs = some ts) : after.reg.lastUs = some ts := by
  obtain ⟨_, reports, -⟩ := emits
  exact reports.lastUs.trans clock

/-! ## Teardown -/

theorem emits_recordHeatmap (c : Correlator) (id : String) : Emits ts c (c.recordHeatmap id) := by
  unfold recordHeatmap
  split
  · split
    · apply Emits.reg
      simp only [Registry.recordHeatmapCell]
    · exact .refl ts c
  · exact .refl ts c

theorem emits_releaseActive (c : Correlator) (id : String) : Emits ts c (c.releaseActive id) := by
  unfold releaseActive
  split
  · exact .reg c rfl
  · exact .refl ts c

theorem emits_teardownChecks (clock : c.reg.lastUs = some ts) (id : String) :
    Emits ts c (c.teardownChecks id) := by
  have oneway : Emits ts c (c.checkOnewayAtTeardown id) := emits_checkOneway clock id
  have legs := emits_checkTurnLegs (oneway.clock clock) id
  exact ((oneway.trans legs).trans (emits_recordHeatmap _ id)).trans (emits_releaseActive _ id)

theorem emits_reportTeardown (clock : c.reg.lastUs = some ts) (id : String) {call : Call}
    (dated : ∀ t ∈ call.endTs, t = ts) : Emits ts c (c.reportTeardown id call) := by
  have time : (teardownEvt id call (some ts)).tsUs = ts := by
    cases ended : call.endTs with
    | none => simp [teardownEvt, ended]
    | some t => simp [teardownEvt, ended, dated t ended]
  have same : ∀ line, (c.reg.pushEvent line).lastUs = c.reg.lastUs := fun line => by
    simp only [Registry.pushEvent]
  unfold reportTeardown
  dsimp only
  generalize logged : c.reg.pushEvent _ = reg
  have lastUs : reg.lastUs = c.reg.lastUs := logged ▸ same _
  have written : Emits ts { c with reg } (({ c with reg } : Correlator).pushEv
      (.call (teardownEvt id call reg.lastUs))) := by
    apply Emits.pushEv
    rw [lastUs, clock]
    exact time
  split
  · exact ((Emits.reg c lastUs).trans written).trans (.reg _ rfl)
  · exact ((Emits.reg c lastUs).trans written).trans (.reg _ rfl)

theorem emits_retireCall (iter : Iteration) (clock : c.reg.lastUs = some ts) (id : String)
    (dated : ∀ call, c.reg.calls.lookup id = some call → ∀ t ∈ call.endTs, t = ts) :
    Emits ts c (c.retireCall iter id) := by
  unfold retireCall
  split
  · rename_i call found
    split
    · apply (emits_reportTeardown clock id (dated call found)).trans
      apply Emits.reg
      split
      · exact staying_lastUs.evictIfNeeded iter _
      · exact staying_lastUs.removeCalls _ [id]
    · exact .refl ts c
  · exact .refl ts c

theorem emits_prune (c : Correlator) : Emits ts c c.pruneRemovedBookkeeping := .silent rfl rfl rfl rfl

theorem table_call (c : Correlator) (id : String) :
    (table c).call id = (c.reg.calls.lookup id).map signaling := rfl

/-- The end of a call is reported now: it has not been dated before. -/
theorem emits_onCallTerminal (iter : Iteration) (clock : c.reg.lastUs = some ts) (id : String)
    (dated : ∀ call, (table c).call id = some call → ∀ t ∈ call.endTs, t = ts) :
    Emits ts c (c.onCallTerminal iter id) := by
  have checked : Emits ts c (c.teardownChecks id) := emits_teardownChecks clock id
  have still : ∀ call, (c.teardownChecks id).reg.calls.lookup id = some call → ∀ t ∈ call.endTs, t = ts := by
    intro call found
    have seen : (table (c.teardownChecks id)).call id = some (signaling call) := by
      rw [table_call, found, Option.map_some]
    rw [blind_table.teardownChecks] at seen
    exact dated (signaling call) seen
  have stages : c.onCallTerminal iter id = ((c.teardownChecks id).retireCall iter id).pruneRemovedBookkeeping :=
    rfl
  rw [stages]
  exact (checked.trans (emits_retireCall iter (checked.clock clock) id still)).trans (emits_prune _)

/-! ## Signaling -/

theorem times_messageDiagnostics (c : Correlator) (msg : SipMsg) :
    ∀ d ∈ c.messageDiagnostics msg, d.tsUs = msg.tsUs := by
  have contact : ∀ d ∈ checkContact msg.tsUs msg.callId msg (peerIsPublic msg.flow), d.tsUs = msg.tsUs := by
    unfold checkContact
    split
    · simp
    · dsimp only
      split
      · simp [diag]
      · split <;> split <;> simp [diag]
  have route : ∀ rr, ∀ d ∈ checkRecordRoute msg.tsUs msg.callId msg rr, d.tsUs = msg.tsUs := by
    intro rr
    unfold checkRecordRoute
    dsimp only
    split <;> simp [diag]
  have sdp : ∀ d ∈ ((sdpOf msg).map (checkSdp msg.tsUs msg.callId)).getD [], d.tsUs = msg.tsUs := by
    cases sdpOf msg with
    | none => simp
    | some sess =>
      simp only [Option.map_some, Option.getD_some, checkSdp]
      split <;> simp [diag]
  intro d member
  unfold messageDiagnostics at member
  rcases List.mem_append.mp member with early | late
  · rcases List.mem_append.mp early with first | second
    · exact contact d first
    · exact route _ d second
  · exact sdp d late

theorem emits_observeSip (c : Correlator) (msg : SipMsg) : Emits ts c (c.observeSip msg) := by
  have clock := staying_lastUs.observeSip c msg
  unfold observeSip at clock ⊢
  dsimp only at clock ⊢
  split
  · exact .silent rfl rfl rfl rfl
  · exact .silent rfl rfl rfl rfl

theorem emits_learnSdp (c : Correlator) (id : String) (learned : Option NegotiatedMedia) :
    Emits ts c (c.learnSdp id learned) := by
  have clocked : ∀ c : Correlator, Emits ts c (c.applySdpClocks id) := by
    intro c
    unfold applySdpClocks
    split
    · apply Emits.reg
      exact Staying.foldl (fun reg key => staying_lastUs.updateStream reg key _) _ c.reg
    · exact .refl ts c
  cases learned with
  | none => exact .refl ts c
  | some n =>
    have listed : ∀ endpointCall, Emits ts c { c with reg := { c.reg with endpointCall } } := fun _ =>
      .reg c rfl
    exact (listed _).trans (clocked _)

theorem emits_received {msg : SipMsg} (time : msg.tsUs = ts) : Emits ts c (Stages.received c msg) := by
  have observed : Emits ts c (c.observeSip msg) := emits_observeSip c msg
  have stored : ∀ learned, Emits ts c ((c.observeSip msg).storeMessage msg learned) := fun learned =>
    observed.trans (.reg _ ((staying_lastUs.updateCall _ _ _).trans (staying_lastUs.getOrCreateCall _ _)))
  have learnt := fun learned => (stored learned).trans (emits_learnSdp _ msg.callId learned)
  have written : ∀ c : Correlator, Emits ts c (c.pushEv (.sipMsg (sipMsgEvt msg))) := fun c => .pushEv c time
  have reported := fun learned => (learnt learned).trans (written _)
  exact (reported _).trans (emits_addDiagnostics (fun d member => (times_messageDiagnostics _ msg d member).trans time) _)

/-- Every call that bears an end is latched. -/
def Dated (t : Table) : Prop := ∀ id call, t.call id = some call → call.endTs.isSome → id ∈ t.done

/-- A message that dates the end of its call ends it. -/
theorem endTs_applySip (call : Call) (msg : SipMsg) :
    (call.applySip msg).endTs = call.endTs ∨
      (call.applySip msg).endTs = some msg.tsUs ∧ (call.applySip msg).state.terminal = true := by
  have identified : ((call.touch msg).identify msg).endTs = call.endTs := by
    unfold Call.identify Call.touch
    dsimp only
    split
    · split <;> split <;> rfl
    · rfl
  have closed : ∀ call : Call, call.closedState.terminal = true := by
    intro call
    unfold Call.closedState
    split <;> rfl
  unfold Call.applySip
  dsimp only
  generalize (call.touch msg).identify msg = heard at identified ⊢
  rw [← identified]
  have ends : ∀ {later : Call}, later.endTs = heard.endTs.or (some msg.tsUs) → later.state.terminal = true →
      later.endTs = heard.endTs ∨ later.endTs = some msg.tsUs ∧ later.state.terminal = true := by
    intro later dated terminal
    cases known : heard.endTs with
    | none => exact .inr ⟨by simpa [known] using dated, terminal⟩
    | some t => exact .inl (by simpa [known] using dated)
  split
  · exact .inl rfl
  · split
    · unfold Call.onRequest
      split
      · left
        unfold Call.onBye
        dsimp only
        split <;> rfl
      · split
        · exact .inl rfl
        · exact .inr ⟨rfl, rfl⟩
      · exact .inl rfl
    · split
      · rename_i code _
        unfold Call.onResponse
        split
        · left
          unfold Call.onProvisional
          dsimp only
          split <;> split <;> try split
          all_goals rfl
        · split
          · unfold Call.onSuccess
            split
            · exact ends rfl (closed heard)
            · split
              · exact .inl rfl
              · exact .inl rfl
          · split
            · unfold Call.onFailure
              dsimp only
              split
              · exact ends rfl (closed _)
              · split
                · exact .inl rfl
                · split
                  · exact ends rfl rfl
                  · exact ends rfl (closed _)
            · exact .inl rfl
      · exact .inl rfl

theorem dated_step {t : Table} (latched : Latched t) (dated : Dated t) (op : Op) (gone : List String) :
    Dated (t.step op gone) := by
  intro id call found ended
  by_cases terminal : call.state.terminal = true
  · exact latched_step latched op gone id call found terminal
  have stays : ∀ {done : Finset String}, id ∈ done → id ∉ gone → id ∈ gone.foldl Finset.erase done :=
    fun member kept => (mem_foldl_erase gone _ _).mpr ⟨member, kept⟩
  cases op with
  | sip msg =>
    simp only [Table.step, Table.latch_call, Table.latch_done] at found ⊢
    have reached : (t.hear msg).call id = some call := by
      split at found
      · cases found
      · exact found
    have known : id ∈ t.done := by
      by_cases own : id = msg.callId
      · subst own
        rw [hear_own] at reached
        obtain rfl := Option.some.inj reached
        rcases endTs_applySip (before t msg) msg with kept | ⟨-, closed⟩
        · have earlier : (before t msg).endTs.isSome := kept ▸ ended
          cases listed : t.call msg.callId with
          | none => simp [before, listed, Call.new] at earlier
          | some was =>
            rw [before, listed, Option.getD_some] at earlier
            exact dated msg.callId was listed earlier
        · exact absurd closed terminal
      · rw [hear_other t msg own] at reached
        exact dated id call reached ended
    split
    · rename_i passes
      have kept : id ∉ gone := fun member => by simp [passes, member] at found
      exact stays (Finset.mem_insert_of_mem known) kept
    · exact known
  | terminal a =>
    simp only [Table.step, Table.close_call, Table.close_done] at found ⊢
    split at found
    · cases found
    · rename_i open_
      have known : id ∈ t.done := dated id call found ended
      split
      · rename_i closes
        exact stays known fun left => open_ ⟨closes, left⟩
      · exact known
  | flush ts =>
    simp only [Table.step, Table.depart] at found ⊢
    split at found
    · cases found
    · rename_i kept
      exact stays (dated id call found ended) kept
  | clear => cases found
  | rtp | rtcp | touchTime | focus | search | takeEvents | disableEvlogEmit | enableSessionStats =>
    exact dated id call found ended

/-- `ingest_sip` reports the message, what it diagnoses and the end of its call, all at its time. -/
theorem emits_ingestSip (iter : Iteration) {msg : SipMsg} (clock : c.reg.lastUs = some ts)
    (time : msg.tsUs = ts) (dated : Dated (table c)) : Emits ts c (c.ingestSip iter msg) := by
  have heard : Emits ts c (Stages.received c msg) := emits_received time
  rw [Stages.ingestSip_received]
  unfold latchTerminal
  split
  · rename_i passes
    rw [latch_guard, table_received] at passes
    obtain ⟨-, fresh⟩ := Bool.and_eq_true_iff.mp passes
    have unlatched : msg.callId ∉ (table c).done := of_decide_eq_true fresh
    apply heard.trans
    have latched : Emits ts (Stages.received c msg)
        { Stages.received c msg with terminalDone := insert msg.callId (Stages.received c msg).terminalDone } :=
      .silent rfl rfl rfl rfl
    apply latched.trans
    apply emits_onCallTerminal iter ((heard.trans latched).clock clock)
    intro call found
    have now : (table (Stages.received c msg)).call msg.callId = some call := found
    rw [table_received, hear_own] at now
    obtain rfl := Option.some.inj now
    intro t ended
    have undated : (before (table c) msg).endTs = none := by
      cases listed : (table c).call msg.callId with
      | none => simp [before, listed, Call.new]
      | some was =>
        rw [before, listed, Option.getD_some]
        exact Option.not_isSome_iff_eq_none.mp fun bears => unlatched (dated msg.callId was listed bears)
    rcases endTs_applySip (before (table c) msg) msg with kept | ⟨set, -⟩
    · rw [undated] at kept
      have none_ended : (after (table c) msg).endTs = none := kept
      rw [none_ended] at ended
      cases ended
    · have now_ended : (after (table c) msg).endTs = some msg.tsUs := set
      rw [now_ended] at ended
      exact (Option.mem_some_iff.mp ended).symm.trans time
  · exact heard

/-! ## Media -/

theorem emits_observeExistingRtp (c : Correlator) (header : RtpHeader) (len : Nat) (key : StreamKey)
    (stream : RtpStream) : Emits ts c (c.observeExistingRtp ts header len key stream) := by
  have times : ∀ d ∈ (checkPtChange ts stream.callId header.ssrc header.payloadType stream.lastPt).toList,
      d.tsUs = ts := by
    unfold checkPtChange
    cases stream.lastPt with
    | none => simp
    | some p =>
      dsimp only [Option.bind_some]
      split <;> simp [diag]
  unfold observeExistingRtp
  dsimp only
  generalize counted : Registry.updateCall _ _ (countRtp ts) = reg
  have same : reg.lastUs = c.reg.lastUs := by
    rw [← counted]
    rfl
  exact (Emits.reg c same).trans (emits_addDiagnostics times _)

theorem times_openDiagnostics (id : String) (neg : Option NegotiatedMedia) (leg : Option Leg) (encap : Encap)
    (note : Bool) (flow : Flow5Tuple) (header : RtpHeader) :
    ∀ d ∈ openDiagnostics id neg leg encap note ts flow header, d.tsUs = ts := by
  have negotiated : ∀ neg : NegotiatedMedia, ∀ d ∈ (checkRtpPt ts id header.ssrc header.payloadType neg).toList ++
      (checkRtpFlow ts id flow neg).toList, d.tsUs = ts := by
    intro neg
    unfold checkRtpPt checkRtpFlow
    split <;> split <;> simp [diag]
  intro d member
  unfold openDiagnostics at member
  simp only [List.mem_append] at member
  rcases member with (raised | raised) | raised
  · split at raised
    · exact negotiated _ d raised
    · cases raised
  · split at raised
    · simp only [List.mem_singleton] at raised
      simp [raised, diag]
    · simp only [List.mem_singleton] at raised
      simp [raised, diag]
    · cases raised
  · split at raised
    · simp only [List.mem_singleton] at raised
      simp [raised, diag]
    · cases raised

theorem emits_openRtp (c : Correlator) (flow : Flow5Tuple) (header : RtpHeader) (len : Nat) (encap : Encap)
    (id : String) : Emits ts c (c.openRtp ts flow header len encap id) := by
  unfold openRtp
  dsimp only
  generalize noted : Registry.updateCall _ id (noteMedia flow _) = reg
  have same : reg.lastUs = c.reg.lastUs := by
    rw [← noted]
    rfl
  apply ((Emits.reg c same).trans (emits_addDiagnostics (times_openDiagnostics _ _ _ _ _ _ _) _)).trans
  apply Emits.reg
  split
  · rfl
  · rfl

theorem emits_ingestRtp (c : Correlator) (flow : Flow5Tuple) (header : RtpHeader) (len : Nat) (encap : Encap) :
    Emits ts c (c.ingestRtp ts flow header len encap) := by
  unfold ingestRtp
  dsimp only
  split
  · exact emits_observeExistingRtp c header len _ _
  · split
    · exact emits_openRtp c flow header len encap _
    · exact .refl ts c

theorem emits_attachSample (c : Correlator) (sample : RtcpSample) : Emits ts c (attachSample ts c sample) := by
  have timed : Emits ts c { c with reg := (ssrcKeys c.reg sample.ssrc).foldl (fun reg k =>
      reg.updateStream k (·.addTiming sample.rttMs sample.onewayMs)) c.reg } := by
    apply Emits.reg
    exact Staying.foldl (fun reg key => staying_lastUs.updateStream reg key _) _ c.reg
  unfold attachSample
  dsimp only
  split
  · exact timed.trans (.pushEv _ rfl)
  · exact timed

theorem emits_ingestRtcp (c : Correlator) (flow : Flow5Tuple) (msg : RtcpMessage) :
    Emits ts c (c.ingestRtcp ts flow msg) := by
  have counted : ∀ id, Emits ts c { c with reg := c.reg.updateCall id (countRtcp ts) } := fun _ => .reg c rfl
  unfold ingestRtcp
  dsimp only
  split
  · exact (counted _).trans (.foldl emits_attachSample _ _)
  · exact .foldl emits_attachSample _ c

/-! ## Periodic work -/

theorem reports_ipattrTick (iter : Iteration) (c : Correlator) (now : UInt64) :
    Reports c (c.ipattrTick iter now) [] := by
  have attributed : ∀ c : Correlator, Reports c (c.attributeIpStats iter) [] := fun c =>
    .silent rfl rfl rfl (Staying.foldl staying_lastUs.flushStreamIpattr _ c.reg)
  have started : Reports c { c with lastIpattrUs := some now } [] := .silent rfl rfl rfl rfl
  unfold ipattrTick
  dsimp only
  split
  · split
    · exact started.append (attributed _)
    · exact attributed c
  · split
    · exact started
    · exact .silent rfl rfl rfl rfl

theorem emits_snapStream (c : Correlator) (key : StreamKey) : Emits ts c (snapStream ts c key) := by
  have sampled : Emits ts c (if c.keepTerminated then { c with reg := c.reg.updateStream key (·.sample ts) } else c) := by
    split
    · exact .reg c rfl
    · exact .refl ts c
  unfold snapStream
  dsimp only
  generalize (if c.keepTerminated then { c with reg := c.reg.updateStream key (·.sample ts) } else c) = r at sampled ⊢
  split
  · split
    · exact sampled.trans (.pushEv r rfl)
    · exact sampled
  · exact sampled

theorem emits_flushPass (iter : Iteration) (c : Correlator) : Emits ts c (c.flushPass iter ts) := by
  have same : c.reg.pruneHeatmap.lastUs = c.reg.lastUs := by
    unfold Registry.pruneHeatmap
    split <;> rfl
  have aged : Emits ts c { c with
      reg := c.reg.pruneHeatmap, turn := c.turn.prune iter
      tcpReasm := c.tcpReasm.prune ts TcpReassembler.idleUs } := .silent rfl rfl rfl same
  have snapped : ∀ c : Correlator, Emits ts c (c.snapStreams iter ts) := fun c => .foldl emits_snapStream _ c
  have evicted : ∀ c : Correlator, Emits ts c (c.evictPass iter ts) := by
    intro c
    apply Emits.reg
    rw [staying_lastUs.evictIfNeeded, staying_lastUs.evictStale]
    split
    · unfold Registry.refreshSearchMatches
      split <;> rfl
    · rfl
  have idle : ∀ c : Correlator, Emits ts c (c.pruneIdleIps ts) := fun c => .reg c rfl
  exact (((aged.trans (snapped _)).trans (evicted _)).trans (emits_prune _)).trans (idle _)

/-- A periodic flush reports the streams, at the time it is run for. -/
theorem emits_flush (ts : UInt64) (iter : Iteration) (c : Correlator) : Emits ts c (c.maybePeriodicFlush iter ts) := by
  have ticked : Emits ts c (c.ipattrTick iter ts) := (reports_ipattrTick iter c ts).emits
  unfold maybePeriodicFlush
  dsimp only
  generalize c.ipattrTick iter ts = t at ticked ⊢
  have started : Emits ts t { t with lastFlushUs := some ts } := .silent rfl rfl rfl rfl
  split
  · split
    · exact (ticked.trans started).trans (emits_flushPass iter _)
    · exact ticked.trans (emits_flushPass iter t)
  · split
    · exact ticked.trans started
    · exact ticked

/-- A flush for time zero reports nothing: no ticker is due then. -/
theorem reports_idleFlush (iter : Iteration) (c : Correlator) : Reports c (c.maybePeriodicFlush iter 0) [] := by
  have ticked : Reports c (c.ipattrTick iter 0) [] := reports_ipattrTick iter c 0
  have rests : ∀ last, tickerDue last 0 flushPeriodUs = false := by
    intro last
    cases last <;> simp [tickerDue, flushPeriodUs]
  unfold maybePeriodicFlush
  dsimp only
  generalize c.ipattrTick iter 0 = t at ticked ⊢
  have started : Reports t { t with lastFlushUs := some 0 } [] := .silent rfl rfl rfl rfl
  simp only [rests, Bool.or_false, Bool.false_eq_true, if_false]
  split
  · exact ticked.append started
  · exact ticked

end Sipmon.Guarantees.EventTimes
