import Sipmon.Source.Evlog.Lite
import Sipmon.Source.Replay
import Sipmon.Source.Snapshot

/-!
# Exporting an event log (`src/main.rs:1243-1317`)

A fresh correlator is fed the recorded messages again; the recorded streams,
diagnostics and heatmap buckets are set aside and added to its snapshot.
-/
namespace Sipmon.Source
open Lib (Iteration)
open Lib.ByteReader (Bytes)
open Evlog

def severityOf (code : UInt8) : Severity :=
  if code = 0 then .info else if code = 1 then .warn else .critical

/-- The diagnostic of a record. -/
def recordedDiagnostic (e : DiagEvt) : Diagnostic :=
  { tsUs := e.tsUs, callId := e.callId, severity := severityOf e.severity, code := codeFromStr e.code
    message := e.message }

/-- What the loop of `run_export` keeps. -/
structure ExportState where
  corr : Correlator
  streamsExtra : List StreamSummary := []
  diagsExtra : List Diagnostic := []
  bucketsExtra : List (UInt64 × String × MetricSet) := []

namespace ExportState

/-- The bounds are in seconds. -/
def inRange (lower upper : Option UInt64) (ts : UInt64) : Bool :=
  lower.all (fun f => decide (f * 1000000 ≤ ts)) && upper.all fun t => decide (ts ≤ t * 1000000)

/-- A message is fed again; what it makes the correlator emit is dropped. -/
def reingest (iter : Iteration) (corr : Correlator) (msg : SipMsg) : Correlator :=
  (corr.ingestSip iter msg).takeEvents.2

/-- One record; the buckets are taken from the whole file. -/
def record (parseMessage : SipParser) (iter : Iteration) (lower upper : Option UInt64) (x : ExportState)
    (raw : RawRecord) : ExportState :=
  let inRange := inRange lower upper raw.tsUs
  let decoded := decodePayload raw.ty raw.tsUs raw.payload
  match raw.ty.toNat with
  | 1 => match inRange, decoded with
    | true, .ok (.sipMsg e) => { x with corr := reingest iter x.corr (evtToSipmsg parseMessage e) }
    | _, _ => x
  | 4 => match inRange, parseStreamSummary raw.payload with
    | true, some s => { x with streamsExtra := x.streamsExtra ++ [s] }
    | _, _ => x
  | 8 => match inRange, decoded with
    | true, .ok (.diag e) => { x with diagsExtra := x.diagsExtra ++ [recordedDiagnostic e] }
    | _, _ => x
  | 6 => match decoded with
    | .ok (.healthBucket e) =>
      { x with bucketsExtra := x.bucketsExtra ++ [(e.bucketUs, e.dimKey, e.metrics)] }
    | _ => x
  | _ => x

/-- The snapshot that is written. -/
def finish (iter : Iteration) (x : ExportState) : Snapshot :=
  let snap := (x.corr.reg.snapshotFull iter).1
  { snap with
    streams := snap.streams ++ x.streamsExtra, diagnostics := snap.diagnostics ++ x.diagsExtra
    buckets := snap.buckets ++ x.bucketsExtra }

end ExportState

/-- `run_export`, up to the snapshot; a framing error ends the log. -/
def runExport (parseMessage : SipParser) (iter : Iteration) (config : Config) (file : Bytes)
    (lower upper : Option UInt64) : Snapshot :=
  ((EvlogReader.new file).rawReplay.1.foldl (ExportState.record parseMessage iter lower upper)
    { corr := .new iter config "export" }).finish iter

end Sipmon.Source
