import PolledChannels.Log.Emitter
import PolledChannels.Scenario.Catalogue

/-!
# Running scenarios

Scenarios run one after the other. With a log, every scenario is framed by an entry for its start
and one for its end, and the events of its channels stand in between.
-/

namespace PolledChannels.Scenario

/-- The scenarios to run: all of them, or the one with a name. -/
def chosen (only : Option String) : Except Problem (List Name) :=
  match only with
  | none => .ok Name.all
  | some text =>
    match Name.ofText? text with
    | some name => .ok [name]
    | none => .error (.unknown text)

def recordStart (clock : Clock) (name : Name) (sink : Log.Sink) : Log.Sink :=
  ((sink.setScenario (some name.text)).record
    { timestamp := clock.timestamp, traceId := "", level := .info, event := "scenario_start" }).1

def recordEnd (clock : Clock) (r : Result) (sink : Log.Sink) : Log.Sink :=
  let entry : Log.Entry := {
    timestamp := clock.timestamp, traceId := "", level := if r.error.isSome then .error else .info
    event := "scenario_end", outcome := some r.outcome, durationMs := some r.durationMs
    details := r.error.map fun e => .object [("error", .string e)] }
  (sink.record entry).1.setScenario none

/-- Runs a scenario with a provider of its own; the result, and the events of its channels. -/
def runOne (name : Name) (logging : Bool) (st : Station) : Result × List Event × Station :=
  let start := { st with provider := { logging }, reports := [] }
  let (outcome, st) := name.run.run start
  let result := {
    name := name.text, durationMs := (st.now - start.now).toUInt64
    outcome := match outcome with
      | .ok _ => .pass
      | .error _ => .fail
    error := match outcome with
      | .ok _ => none
      | .error p => some p.message }
  (result, st.reports.map Report.event, { st with reports := [] })

def runAll (clock : Clock) : List Name → Option Log.Sink → Station →
    List Result × Option Log.Sink
  | [], sink, _ => ([], sink)
  | name :: rest, sink, st =>
    let sink := sink.map (recordStart clock name)
    let (result, events, st) := runOne name sink.isSome st
    let sink :=
      sink.map fun s => recordEnd clock result (events.foldl (fun s e => s.emit clock e) s)
    let (results, sink) := runAll clock rest sink st
    (result :: results, sink)

/-- Runs the chosen scenarios on a machine. The log has to be written out at the end. -/
def run (host : Host) (clock : Clock) (only : Option String) (sink : Option Log.Sink) :
    Except Problem Summary × Option Log.Sink :=
  match chosen only with
  | .error p => (.error p, sink)
  | .ok names =>
    let (results, sink) := runAll clock names sink { network := { host } }
    match (sink.map Log.Sink.flush).getD (.ok ()) with
    | .ok _ => (.ok (Summary.ofResults results), sink)
    | .error e => (.error (.io e), sink)

/-- Runs the scenario with a name alone and without a log. -/
def runNamed (host : Host) (text : String) : Except Problem Unit :=
  match Name.ofText? text with
  | none => .error (.unknown text)
  | some name => (name.run.run { network := { host } }).1

end PolledChannels.Scenario
