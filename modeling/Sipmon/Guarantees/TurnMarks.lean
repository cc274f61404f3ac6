import Sipmon.Source.Frame

/-!
# The correlator without its TURN marks

`core` is the correlator without the marks TURN carriage leaves on streams and
calls, without the TURN packet counter and without the logs. `logs` is what
diagnostics are written to. A diagnostic moves the logs, and the core only
through the counters of its call; an informational one moves the logs alone.
-/
namespace Sipmon.Guarantees.TurnMarks
open Source Lib

def unmarkedStream (s : RtpStream) : RtpStream := { s with viaTurn := false, turnNoteEmitted := false }
def unmarkedCall (call : Call) : Call := { call with viaTurn := false }

@[ext]
structure Core where
  streams : StreamKey → Option RtpStream
  calls : String → Option Call
  rest : Correlator

/-- Everything but streams, calls, logs and the TURN packet counter. -/
def rest (c : Correlator) : Correlator :=
  { c with
    reg := { c.reg with calls := FiniteMap.empty, streams := FiniteMap.empty
                        events := [], diagnostics := [], eventsVer := 0, diagVer := 0 }
    pendingEvents := [], sessionStats := none, turn := { c.turn with pktsTurn := 0 } }

def core (c : Correlator) : Core :=
  { streams := fun k => (c.reg.streams.lookup k).map unmarkedStream
    calls := fun id => (c.reg.calls.lookup id).map unmarkedCall
    rest := rest c }

/-- The logs, and the settings that govern them. -/
structure Logs where
  lines : List String
  diagnostics : List Diagnostic
  recorded : List Evlog.Event
  report : Option (List Evlog.Event)
  minSeverity : Severity
  emitEvlog : Bool
  maxDiagnostics : Nat

def logs (c : Correlator) : Logs :=
  { lines := c.reg.events, diagnostics := c.reg.diagnostics, recorded := c.pendingEvents
    report := c.sessionStats, minSeverity := c.minSeverity, emitEvlog := c.emitEvlog
    maxDiagnostics := c.reg.maxDiagnostics }

/-! ## The core is a congruence -/

theorem map_alike {α β : Type} {plain : α → β} {f g : α → α} {x y : Option α}
    (alike : ∀ a b, plain a = plain b → plain (f a) = plain (g b))
    (same : x.map plain = y.map plain) : (x.map f).map plain = (y.map g).map plain := by
  cases x with
  | none => cases y with
    | none => rfl
    | some b => cases same
  | some a => cases y with
    | none => cases same
    | some b => exact congrArg some (alike a b (Option.some.inj same))

theorem core_updateCall {a b : Correlator} (same : core a = core b) (id : String)
    {f g : Call → Call}
    (alike : ∀ x y, unmarkedCall x = unmarkedCall y → unmarkedCall (f x) = unmarkedCall (g y)) :
    core { a with reg := a.reg.updateCall id f } = core { b with reg := b.reg.updateCall id g } := by
  have streams : (core a).streams = (core b).streams := congrArg Core.streams same
  have rests : (core a).rest = (core b).rest := congrArg Core.rest same
  refine Core.ext streams (funext fun k => ?_) rests
  have here := congrFun (congrArg Core.calls same) k
  simp only [core, Registry.updateCall, FiniteMap.lookup_modify] at here ⊢
  split
  · exact map_alike alike here
  · exact here

theorem core_updateStream {a b : Correlator} (same : core a = core b) (key : StreamKey)
    {f g : RtpStream → RtpStream}
    (alike : ∀ x y, unmarkedStream x = unmarkedStream y → unmarkedStream (f x) = unmarkedStream (g y)) :
    core { a with reg := a.reg.updateStream key f } =
      core { b with reg := b.reg.updateStream key g } := by
  have calls : (core a).calls = (core b).calls := congrArg Core.calls same
  have rests : (core a).rest = (core b).rest := congrArg Core.rest same
  refine Core.ext (funext fun k => ?_) calls rests
  have here := congrFun (congrArg Core.streams same) k
  simp only [core, Registry.updateStream, FiniteMap.lookup_modify] at here ⊢
  split
  · exact map_alike alike here
  · exact here

theorem core_minSeverity {a b : Correlator} (same : core a = core b) :
    a.minSeverity = b.minSeverity := by
  have severity : (core a).rest.minSeverity = (core b).rest.minSeverity := by rw [same]
  exact severity

theorem unmarked_countDiagnostic (severity : Severity) {x y : Call}
    (same : unmarkedCall x = unmarkedCall y) :
    unmarkedCall (Correlator.countDiagnostic severity x) =
      unmarkedCall (Correlator.countDiagnostic severity y) := by
  have counts := congrArg (Correlator.countDiagnostic severity) same
  cases severity <;> exact counts

/-- What a diagnostic above the threshold does to the core. -/
theorem core_reported (c : Correlator) {d : Diagnostic}
    (reported : ¬ d.severity.rank < c.minSeverity.rank) :
    core (c.addDiagnostic d) =
      core { c with reg := c.reg.updateCall d.callId (Correlator.countDiagnostic d.severity) } := by
  unfold Correlator.addDiagnostic
  dsimp only
  rw [if_neg reported]
  simp only [core, rest, Correlator.pushEv, Registry.updateCall, Registry.pushEvent,
    Registry.pushDiagnostic]

theorem core_addDiagnostic {a b : Correlator} (same : core a = core b) (d : Diagnostic) :
    core (a.addDiagnostic d) = core (b.addDiagnostic d) := by
  have threshold := core_minSeverity same
  by_cases below : d.severity.rank < a.minSeverity.rank
  · have skipped : a.addDiagnostic d = a ∧ b.addDiagnostic d = b := by
      unfold Correlator.addDiagnostic
      exact ⟨if_pos below, if_pos (threshold ▸ below)⟩
    rw [skipped.1, skipped.2, same]
  · rw [core_reported a below, core_reported b (threshold ▸ below)]
    exact core_updateCall same d.callId fun _ _ => unmarked_countDiagnostic d.severity

theorem core_addDiagnostics {a b : Correlator} (same : core a = core b) (ds : List Diagnostic) :
    core (a.addDiagnostics ds) = core (b.addDiagnostics ds) := by
  induction ds generalizing a b with
  | nil => exact same
  | cons d more ih => exact ih (core_addDiagnostic same d)

theorem core_info (c : Correlator) {d : Diagnostic} (info : d.severity = .info) :
    core (c.addDiagnostic d) = core c := by
  by_cases below : d.severity.rank < c.minSeverity.rank
  · unfold Correlator.addDiagnostic
    rw [if_pos below]
  · rw [core_reported c below, info]
    refine Core.ext rfl (funext fun k => ?_) rfl
    simp only [core, Registry.updateCall, FiniteMap.lookup_modify]
    split
    · rw [Option.map_map]
      rfl
    · rfl

/-! ## The logs are a congruence -/

theorem logs_addDiagnostic {a b : Correlator} (same : logs a = logs b) (d : Diagnostic) :
    logs (a.addDiagnostic d) = logs (b.addDiagnostic d) := by
  obtain ⟨lines, diagnostics, recorded, report, severity, emits, cap⟩ := Logs.mk.inj same
  unfold Correlator.addDiagnostic
  rw [severity]
  split
  · exact same
  · simp only [logs, Correlator.pushEv, Registry.updateCall, Registry.pushEvent,
      Registry.pushDiagnostic, lines, diagnostics, recorded, report, severity, emits, cap]

theorem logs_addDiagnostics {a b : Correlator} (same : logs a = logs b) (ds : List Diagnostic) :
    logs (a.addDiagnostics ds) = logs (b.addDiagnostics ds) := by
  induction ds generalizing a b with
  | nil => exact same
  | cons d more ih => exact ih (logs_addDiagnostic same d)

/-! ## RTP -/

theorem unmarked_applyClockRate {x y : RtpStream} (same : unmarkedStream x = unmarkedStream y)
    (rate : UInt32) : unmarkedStream (x.applyClockRate rate) = unmarkedStream (y.applyClockRate rate) := by
  have moved : ∀ s : RtpStream,
      unmarkedStream (s.applyClockRate rate) = (unmarkedStream s).applyClockRate rate := by
    intro s
    unfold RtpStream.applyClockRate
    split <;> rfl
  rw [moved, moved, same]

theorem unmarked_observe {x y : RtpStream} (same : unmarkedStream x = unmarkedStream y)
    (ts : UInt64) (header : RtpHeader) (len : Nat) :
    unmarkedStream (x.observe ts header len) = unmarkedStream (y.observe ts header len) := by
  have moved : ∀ s : RtpStream,
      unmarkedStream (s.observe ts header len) = (unmarkedStream s).observe ts header len := by
    intro s
    unfold RtpStream.observe RtpStream.applyClockRate
    dsimp only [unmarkedStream]
    split <;> (try split) <;> rfl
  rw [moved, moved, same]

/-- Carriage changes no more than the marks of a new stream. -/
theorem unmarked_openStream (neg : Option NegotiatedMedia) (leg : Option Leg) (encap other : Encap)
    (reverseExists : Bool) (ts : UInt64) (header : RtpHeader) (len : Nat) {x y : RtpStream}
    (same : unmarkedStream x = unmarkedStream y) :
    unmarkedStream (Correlator.openStream neg leg encap reverseExists ts header len x) =
      unmarkedStream (Correlator.openStream neg leg other reverseExists ts header len y) := by
  have reversed : ∀ {x y : RtpStream}, unmarkedStream x = unmarkedStream y →
      unmarkedStream { x with reverseSeen := x.reverseSeen || reverseExists } =
        unmarkedStream { y with reverseSeen := y.reverseSeen || reverseExists } := fun alike =>
    congrArg (fun s : RtpStream => { s with reverseSeen := s.reverseSeen || reverseExists }) alike
  have legged : ∀ {x y : RtpStream} {m n : Bool} {m' n' : Bool}, unmarkedStream x = unmarkedStream y →
      unmarkedStream { x with viaTurn := m, leg := leg.or x.leg, turnNoteEmitted := n } =
        unmarkedStream { y with viaTurn := m', leg := leg.or y.leg, turnNoteEmitted := n' } :=
    fun alike => congrArg (fun s : RtpStream => { s with leg := leg.or s.leg }) alike
  unfold Correlator.openStream
  dsimp only
  refine reversed (unmarked_observe (legged ?_) ts header len)
  cases neg with
  | none => exact same
  | some neg =>
    exact unmarked_applyClockRate (congrArg (fun s : RtpStream =>
      { s with codec := neg.codecForPt header.payloadType }) same) _

end Sipmon.Guarantees.TurnMarks
