import Sipmon.Guarantees.CallTable

/-!
# The per-IP active-call gauge

The gauge of an address moves in two places: an initial INVITE raises it on
both its addresses, and terminal handling releases the addresses of its call.
Every other stage leaves it alone.
-/
namespace Sipmon.Guarantees.ActiveGauge
open Source Lib Views Stages CallTable Correlator

def active (store : IpStatsStore) (ip : IpAddr) : Nat :=
  ((store.lookup ip).map IpStats.activeCalls).getD 0

def activeCalls (c : Correlator) : IpAddr → Nat := active c.reg.ipstats

/-- The largest value of a gauge. -/
def ceiling : Nat := 2 ^ 32 - 1

theorem active_entry {store : IpStatsStore} {update : IpStats → IpStats}
    (keeps : ∀ s, (update s).activeCalls = s.activeCalls) (ip : IpAddr) :
    active (store.entry ip update) = active store := by
  funext a
  unfold active IpStatsStore.entry FiniteMap.upsert
  by_cases here : a = ip
  · subst here
    rw [AList.lookup_insert]
    cases store.lookup a with
    | none => exact keeps (.new a)
    | some s => exact keeps s
  · rw [AList.lookup_insert_ne here]

/-- A row moves by the delta, within the range of the counter. -/
theorem active_addActive (store : IpStatsStore) (ip a : IpAddr) (delta : Int) :
    active (store.addActive ip delta) a =
      if a = ip then min ((active store a : Int) + delta).toNat ceiling else active store a := by
  unfold active IpStatsStore.addActive IpStatsStore.entry FiniteMap.upsert
  by_cases here : a = ip
  · subst here
    rw [AList.lookup_insert, if_pos rfl]
    cases store.lookup a <;> rfl
  · rw [AList.lookup_insert_ne here, if_neg here]

theorem active_attributeTo (store : IpStatsStore) (d : Registry.IpAttr) :
    active (Registry.attributeTo store d) = active store := by
  have bumped : ∀ (s : IpStats) ts update, (s.bump ts update).activeCalls = s.activeCalls :=
    fun _ _ _ => rfl
  have packets : ∀ (store : IpStatsStore) ip ts pkts bytes dir,
      active (store.observePackets ip ts pkts bytes dir) = active store := by
    intro store ip ts pkts bytes dir
    refine active_entry (fun s => ?_) ip
    unfold IpStats.addPackets
    split
    · rfl
    · cases dir <;> exact bumped _ _ _
  have losses : ∀ (store : IpStatsStore) ip ts lost dir,
      active (store.observeLost ip ts lost dir) = active store := by
    intro store ip ts lost dir
    refine active_entry (fun s => ?_) ip
    unfold IpStats.addLost
    split
    · rfl
    · cases dir <;> exact bumped _ _ _
  unfold Registry.attributeTo
  dsimp only
  split <;> split <;> simp only [packets, losses]

theorem active_pruneIdle (store : IpStatsStore) (cutoff : Nat) :
    active (store.pruneIdle cutoff) = active store := by
  funext ip
  unfold active IpStatsStore.pruneIdle
  rw [FiniteMap.lookup_retain]
  cases store.lookup ip with
  | none => rfl
  | some s =>
    -- a row that is dropped counts no call
    by_cases kept : (0 < s.activeCalls || cutoff ≤ (s.lastSeenUs.getD 0).toNat) = true
    · simp only [Option.filter, kept, if_true]
    · have idle : s.activeCalls = 0 := by
        simp only [Bool.or_eq_true, decide_eq_true_eq, not_or] at kept
        omega
      simp only [Option.filter, if_neg kept]
      exact idle.symm

/-! ## Stages that leave the activeCalls alone -/

theorem mute_gauge : Mute activeCalls where
  diag c d := by
    unfold addDiagnostic
    dsimp only
    split
    · rfl
    · simp only [activeCalls, pushEv, Registry.updateCall, Registry.pushEvent, Registry.pushDiagnostic]
  heatmap _ _ := rfl

theorem ipstats_foldl {α : Type} {op : Registry → α → Registry}
    (keeps : ∀ reg a, active (op reg a).ipstats = active reg.ipstats) (l : List α) (reg : Registry) :
    active (l.foldl op reg).ipstats = active reg.ipstats := by
  induction l generalizing reg with
  | nil => rfl
  | cons a rest ih => exact (ih (op reg a)).trans (keeps reg a)

theorem active_flushStreamIpattr (reg : Registry) (key : StreamKey) :
    active (reg.flushStreamIpattr key).ipstats = active reg.ipstats := by
  unfold Registry.flushStreamIpattr
  split
  · exact active_attributeTo _ _
  · rfl

theorem active_removeCalls (reg : Registry) (ids : List String) :
    active (reg.removeCalls ids).ipstats = active reg.ipstats := by
  have streams : ∀ (reg : Registry) (key : StreamKey),
      active (reg.dropStream key).ipstats = active reg.ipstats := active_flushStreamIpattr
  have dropped : ∀ (reg : Registry) (id : String),
      active (reg.dropCall id).ipstats = active reg.ipstats := fun reg id =>
    ipstats_foldl streams _ { reg with
      calls := reg.calls.erase id, removed := reg.removed ++ [id]
      streamIndex := reg.streamIndex.erase id }
  exact ipstats_foldl dropped ids reg

theorem active_evictIfNeeded (iter : Iteration) (reg : Registry) :
    active (reg.evictIfNeeded iter).ipstats = active reg.ipstats := by
  have evicted : ∀ (reg : Registry) (key : StreamKey),
      active (reg.evictStream key).ipstats = active reg.ipstats := fun _ _ => rfl
  unfold Registry.evictIfNeeded
  dsimp only
  generalize cut : (if reg.maxCalls < reg.calls.size then reg.removeCalls reg.excessCalls else reg) = r
  have removed : active r.ipstats = active reg.ipstats := by
    rw [← cut]
    split
    · exact active_removeCalls reg _
    · rfl
  split
  · exact (ipstats_foldl evicted _ r).trans removed
  · exact removed

theorem active_evictStale (iter : Iteration) (reg : Registry) (ttlSecs nowUs : UInt64) :
    active (reg.evictStale iter ttlSecs nowUs).ipstats = active reg.ipstats := by
  unfold Registry.evictStale
  split
  · rfl
  · exact active_removeCalls reg _

theorem ipstats_learnSdp (c : Correlator) (id : String) (learned : Option NegotiatedMedia) :
    (c.learnSdp id learned).reg.ipstats = c.reg.ipstats := by
  have clocked : ∀ (keys : List StreamKey) (neg : NegotiatedMedia) (reg : Registry),
      (keys.foldl (fun reg key => reg.updateStream key (reclock neg)) reg).ipstats = reg.ipstats := by
    intro keys neg
    induction keys with
    | nil => exact fun _ => rfl
    | cons key rest ih => exact fun reg => (ih (reg.updateStream key (reclock neg))).trans rfl
  unfold learnSdp
  split
  · unfold learnEndpoints applySdpClocks
    dsimp only
    split
    · exact clocked _ _ _
    · rfl
  · rfl

theorem ipstats_storeMessage (c : Correlator) (msg : SipMsg) (learned : Option NegotiatedMedia) :
    (c.storeMessage msg learned).reg.ipstats = c.reg.ipstats := by
  unfold storeMessage Registry.getOrCreateCall
  split <;> rfl

theorem gauge_reportTeardown (c : Correlator) (id : String) (call : Call) :
    activeCalls (c.reportTeardown id call) = activeCalls c := by
  unfold reportTeardown
  dsimp only
  split <;> simp only [activeCalls, pushEv, Registry.pushEvent]

theorem gauge_retireCall (iter : Iteration) (c : Correlator) (id : String) :
    activeCalls (c.retireCall iter id) = activeCalls c := by
  unfold retireCall
  split
  · next call _ =>
    split
    · refine Eq.trans ?_ (gauge_reportTeardown c id call)
      unfold activeCalls
      dsimp only
      split
      · exact active_evictIfNeeded iter _
      · exact active_removeCalls _ [id]
    · rfl
  · rfl

theorem gauge_attachSample (ts : UInt64) (c : Correlator) (sample : RtcpSample) :
    activeCalls (attachSample ts c sample) = activeCalls c := by
  have one : ∀ (reg : Registry) (k : StreamKey), active (reg.updateStream k
      (·.addTiming sample.rttMs sample.onewayMs)).ipstats = active reg.ipstats := fun _ _ => rfl
  have timed := ipstats_foldl one (ssrcKeys c.reg sample.ssrc) c.reg
  unfold attachSample
  dsimp only
  split <;> exact timed

theorem gauge_foldl {α : Type} {op : Correlator → α → Correlator}
    (keeps : ∀ c a, activeCalls (op c a) = activeCalls c) (l : List α) (c : Correlator) :
    activeCalls (l.foldl op c) = activeCalls c := by
  induction l generalizing c with
  | nil => rfl
  | cons a rest ih => exact (ih (op c a)).trans (keeps c a)

/-! ## What moves the activeCalls -/

theorem gauge_ingestRtcp (c : Correlator) (ts : UInt64) (flow : Flow5Tuple) (msg : RtcpMessage) :
    activeCalls (c.ingestRtcp ts flow msg) = activeCalls c := by
  unfold ingestRtcp
  dsimp only
  split <;> exact gauge_foldl (gauge_attachSample ts) _ _

theorem gauge_ingestRtp (c : Correlator) (ts : UInt64) (flow : Flow5Tuple) (header : RtpHeader)
    (len : Nat) (encap : Encap) : activeCalls (c.ingestRtp ts flow header len encap) = activeCalls c := by
  unfold ingestRtp
  dsimp only
  split
  · unfold observeExistingRtp
    dsimp only
    rw [mute_gauge.addDiagnostics]
    rfl
  · split
    · unfold openRtp
      dsimp only
      generalize openDiagnostics _ _ _ _ _ ts flow header = diags
      generalize opened : Registry.updateCall _ _ (noteMedia flow _) = reg
      have listed : activeCalls { c with reg } = activeCalls c := by rw [← opened]; rfl
      have reported := (mute_gauge.addDiagnostics { c with reg } diags).trans listed
      split <;> exact reported
    · rfl

theorem gauge_setSearch (iter : Iteration) (c : Correlator) (q : Option String) :
    activeCalls (c.setSearch iter q) = activeCalls c := by
  unfold setSearch Registry.setSearchHint Registry.refreshSearchMatches activeCalls
  dsimp only
  repeat' split
  all_goals rfl

/-- The addresses an INVITE is counted on. -/
def invitees (msg : SipMsg) : List IpAddr := [msg.flow.src.ip, msg.flow.dst.ip]

/-- A gauge counts more calls, as long as it has room for them. -/
theorem active_raise (ends : List IpAddr) (store : IpStatsStore) (ip : IpAddr)
    (room : active store ip + ends.count ip ≤ ceiling) :
    active (ends.foldl (fun store ip => store.addActive ip 1) store) ip =
      active store ip + ends.count ip := by
  induction ends generalizing store with
  | nil => simp
  | cons a rest ih =>
    have one := active_addActive store a ip 1
    rw [List.count_cons] at room
    by_cases here : ip = a
    · rw [if_pos here] at one
      simp only [here, beq_self_eq_true, if_true] at room one
      have next : active (store.addActive a 1) a = active store a + 1 := by omega
      have others := ih (store.addActive a 1) (by rw [here, next]; omega)
      rw [here] at others ⊢
      rw [List.foldl_cons, others, next, List.count_cons_self]
      omega
    · rw [if_neg here] at one
      simp only [beq_iff_eq, Ne.symm here, if_false, Nat.add_zero] at room
      rw [List.foldl_cons, ih (store.addActive a 1) (by rw [one]; exact room), one,
        List.count_cons_of_ne (Ne.symm here)]

/-- Counting an INVITE, as long as the counters have room. -/
theorem gauge_received (c : Correlator) (msg : SipMsg) (ip : IpAddr)
    (room : msg.isInitialInvite = true → activeCalls c ip + (invitees msg).count ip ≤ ceiling) :
    activeCalls (received c msg) ip =
      if msg.isInitialInvite then activeCalls c ip + (invitees msg).count ip else activeCalls c ip := by
  have observed : activeCalls (received c msg) = active (c.observeSip msg).reg.ipstats := by
    unfold received
    dsimp only
    rw [mute_gauge.addDiagnostics]
    unfold activeCalls
    exact congrArg active ((ipstats_learnSdp _ _ _).trans (ipstats_storeMessage _ _ _))
  rw [observed]
  unfold observeSip
  dsimp only
  cases initial : msg.isInitialInvite with
  | false => rfl
  | true => exact active_raise (invitees msg) c.reg.ipstats ip (room initial)

/-- What is left of a gauge when some of its calls are released. -/
theorem active_release (ends : List IpAddr) (store : IpStatsStore) (ip : IpAddr)
    (capped : ∀ a, active store a ≤ ceiling) :
    active (ends.foldl (fun store ip => store.addActive ip (-1)) store) ip =
      active store ip - ends.count ip := by
  induction ends generalizing store with
  | nil => simp
  | cons a rest ih =>
    have one : ∀ b, active (store.addActive a (-1)) b =
        if b = a then active store b - 1 else active store b := by
      intro b
      have bound := capped b
      rw [active_addActive]
      split
      · omega
      · rfl
    have stays : ∀ b, active (store.addActive a (-1)) b ≤ ceiling := by
      intro b
      have bound := capped b
      rw [one]
      split <;> omega
    rw [List.foldl_cons, ih _ stays, one, List.count_cons]
    by_cases here : ip = a
    · simp only [here, if_true, beq_self_eq_true]
      omega
    · simp only [if_neg here, beq_iff_eq, Ne.symm here, if_false, Nat.add_zero]

/-- The endpoints a tracked call releases. -/
def released (c : Correlator) (id : String) : List IpAddr :=
  (((table c).call id).map Call.activeIps).getD []

theorem gauge_pruneRemovedBookkeeping (c : Correlator) :
    activeCalls c.pruneRemovedBookkeeping = activeCalls c := rfl

theorem gauge_onCallTerminal (iter : Iteration) (c : Correlator) (id : String)
    (capped : ∀ a, activeCalls c a ≤ ceiling) (ip : IpAddr) :
    activeCalls (c.onCallTerminal iter id) ip = activeCalls c ip - (released c id).count ip := by
  have checked := mute_gauge.checks c id
  have still := blind_table.checks c id
  unfold onCallTerminal
  rw [gauge_pruneRemovedBookkeeping, gauge_retireCall]
  unfold teardownChecks released
  generalize ((c.checkOnewayAtTeardown id).checkTurnLegs id).recordHeatmap id = r at checked still ⊢
  rw [← checked] at capped ⊢
  rw [← still]
  have found : (table r).call id = (r.reg.calls.lookup id).map signaling := rfl
  unfold releaseActive
  rw [found]
  cases r.reg.calls.lookup id with
  | none => simp
  | some call => exact active_release call.activeIps r.reg.ipstats ip capped

/-! ## The periodic pass -/

theorem gauge_maybePeriodicFlush (iter : Iteration) (c : Correlator) (ts : UInt64) :
    activeCalls (c.maybePeriodicFlush iter ts) = activeCalls c := by
  have attributed : ∀ c : Correlator, activeCalls (c.attributeIpStats iter) = activeCalls c := fun c =>
    ipstats_foldl active_flushStreamIpattr _ c.reg
  have ticked : activeCalls (c.ipattrTick iter ts) = activeCalls c := by
    unfold ipattrTick
    dsimp only
    split <;> split
    · exact attributed { c with lastIpattrUs := some ts }
    · exact attributed c
    · rfl
    · rfl
  have one : ∀ (c : Correlator) (key : StreamKey), activeCalls (snapStream ts c key) = activeCalls c := by
    intro c key
    unfold snapStream
    dsimp only
    repeat' split
    all_goals rfl
  have snap : activeCalls (snapped iter c ts) = activeCalls c := by
    have aged : ∀ reg : Registry, reg.pruneHeatmap.ipstats = reg.ipstats := by
      intro reg
      unfold Registry.pruneHeatmap
      split <;> rfl
    refine (gauge_foldl one _ _).trans (Eq.trans ?_ ticked)
    exact congrArg active (aged (flushed iter c ts).reg)
  have evicted : activeCalls ((snapped iter c ts).evictPass iter ts) = activeCalls (snapped iter c ts) := by
    unfold evictPass activeCalls
    dsimp only
    rw [active_evictIfNeeded, active_evictStale]
    split
    · unfold Registry.refreshSearchMatches
      split <;> rfl
    · rfl
  have idle : ∀ c : Correlator, activeCalls (c.pruneIdleIps ts) = activeCalls c := fun c =>
    active_pruneIdle _ _
  unfold maybePeriodicFlush
  dsimp only
  by_cases due : tickerDue (c.ipattrTick iter ts).lastFlushUs ts flushPeriodUs = true
  · simp only [due, Bool.or_true, if_true]
    refine (idle ((snapped iter c ts).evictPass iter ts).pruneRemovedBookkeeping).trans ?_
    rw [gauge_pruneRemovedBookkeeping, evicted, snap]
  · simp only [due, Bool.or_false, if_false, Bool.false_eq_true]
    split <;> exact ticked

end Sipmon.Guarantees.ActiveGauge
