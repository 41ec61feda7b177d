/-
The command line: play the beginning of every stream of a file.

The first argument is the file and the second, if there is one, how many samples are
asked of each stream; further arguments are ignored.  What happens is logged, as far
as the filter lets it through.
-/
import PullStreams.CommandLine.Playback
import PullStreams.Config.File
import PullStreams.Demux.Probe
import PullStreams.Log.Filter

namespace PullStreams

/-- What a run of the program comes to. -/
structure RunReport where
  exitCode : Nat
  log : List LogRecord
  /-- The lines for the error output. -/
  complaints : List String
  deriving Repr

namespace CommandLine

def usage : String := "usage: media-source <file> [samples-per-stream]"

def standardSamples : Nat := 16

/-- The name of the thread that speaks. -/
def threadName (config : SourceConfig) : Party → String
  | .caller => "main"
  | .executor => config.executorThreadName
  | .feeder => config.readThreadName
  | .demuxer => "symphonia-demux"

/-- The name that records of another logger bear. -/
def otherLogger : String := "log"

/-- What was said, as a record.  Records do not tell where in a program they were made. -/
def recordOf (config : SourceConfig) (said : Said) : LogRecord :=
  { level := said.notice.level
    target := if said.notice.isOwn then said.notice.target else otherLogger
    line := if said.notice.isOwn then some 0 else none
    thread := threadName config said.party
    message := said.notice.message
    fields := [] }

/-- The filter of a run, and what is said about its directives.  The environment's is used if it
is understood as a whole, and the configuration's otherwise. -/
def filterOf (environment : Option String) (config : Config) : LogFilter × List String :=
  match environment.bind fun text => (LogFilter.parse text).toOption with
  | some filter => (filter, [])
  | none => (LogFilter.parseLossy config.directive, LogFilter.complaints config.directive)

/-- A run that ends with an error before anything is played. -/
def givenUp (e : ProgramError) : RunReport :=
  { exitCode := 1, log := [], complaints := ["Error: " ++ e.report] }

/-- How many samples the arguments ask for. -/
def samplesOf : List String → Except ProgramError Nat
  | [] => .ok standardSamples
  | count :: _ => (parseCount count).mapError .count

/-- Opens the file and plays it.  The log is what the session said. -/
def playFile (files : Files) (config : SourceConfig) (path : String) (samples : Nat) :
    List Said × Except ProgramError Unit :=
  let engine := Demux.engine OpenedSource
  match files.openSource path none with
  | .error e => ([], .error (.io e))
  | .ok source =>
    match Session.ofSource engine config source with
    | .error refusal => (refusal.journal.filterMap Entry.said?, .error (.source refusal.cause))
    | .ok session =>
      let (session, result) := Playback.run engine path samples session
      (session.journal.filterMap Entry.said?, result)

/-- Runs the program in a working directory, under the environment's filter. -/
def run (files : Files) (environment : Option String) : List String → RunReport
  | [] => { exitCode := 2, log := [], complaints := [usage] }
  | path :: rest =>
    match samplesOf rest with
    | .error e => givenUp e
    | .ok samples =>
      match Config.load files with
      | .error e => givenUp (.source e)
      | .ok config =>
        let (filter, complaints) := filterOf environment config
        let (said, result) := playFile files config.source path samples
        let log := (said.filter fun { notice, .. } =>
          filter.allows notice.level notice.target notice.fields).map (recordOf config.source)
        match result with
        | .ok () => { exitCode := 0, log, complaints }
        | .error e => { exitCode := 1, log, complaints := complaints ++ ["Error: " ++ e.report] }

end CommandLine
end PullStreams
