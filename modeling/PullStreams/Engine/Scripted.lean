/-
Engines that follow a script.

The script says which streams a probe finds and which the connected backend has, what
each stream's pulls give, and which calls fail.  A seek that succeeds puts every stream
back to its beginning.
-/
import PullStreams.Engine

namespace PullStreams

/-- A stream and what its pulls give, one after the other. -/
structure ScriptedStream where
  entry : CatalogEntry
  buffers : List (Except SourceError Buffer)

structure EngineScript where
  mimeType : String
  duration : Option Duration
  streams : List ScriptedStream
  /-- The streams of the connected backend. -/
  connected : List ScriptedStream
  probeFault : Option SourceError
  createFault : Option SourceError
  connectFault : Option SourceError
  seekFault : Option SourceError
  /-- By backend index. -/
  enableFaults : List (Option SourceError)
  disableFaults : List (Option SourceError)

/-- How many entries of each stream were pulled. -/
abbrev ScriptedBackend := List Nat

namespace EngineScript

/-- Success, unless a fault stands against it. -/
def succeedUnless (fault : Option SourceError) : Except SourceError Unit :=
  match fault with
  | some e => .error e
  | none => .ok ()

/-- Every stream at its beginning. -/
def rewound (script : EngineScript) : ScriptedBackend := script.connected.map fun _ => 0

/-- The entry that a stream's next pull takes, if there is one left. -/
def entry? (script : EngineScript) (backend : ScriptedBackend) (index : Nat) :
    Option (Except SourceError Buffer) := do
  let stream ← script.connected[index]?
  let cursor ← backend[index]?
  stream.buffers[cursor]?

/-- Takes the next entry of a stream. -/
def pull (script : EngineScript) (backend : ScriptedBackend) (index : Nat) :
    Outcome ScriptedBackend (Option Buffer) :=
  match script.entry? backend index with
  | none => .ok backend none
  | some entry => ⟨backend.modify index (· + 1), [], entry.map some⟩

/-- The engine that follows a script, over byte sources of any kind. -/
def engine (script : EngineScript) (σ : Type) : Engine σ ScriptedBackend where
  probe _ source :=
    ⟨source, [], do
      succeedUnless script.probeFault
      return ⟨script.mimeType, script.duration, script.streams.map (·.entry)⟩⟩
  create := do
    succeedUnless script.createFault
    return script.rewound
  catalog _ := script.connected.map (·.entry)
  connect backend _ := .done ⟨backend, [], succeedUnless script.connectFault⟩
  enable backend index _ := .done ⟨backend, [], succeedUnless (script.enableFaults[index]?).join⟩
  disable backend index := .done ⟨backend, [], succeedUnless (script.disableFaults[index]?).join⟩
  seek backend _ _ :=
    .done (match script.seekFault with
      | some e => .error backend e
      | none => .ok script.rewound ())
  pull backend index := .done (script.pull backend index)
  disconnect backend := (backend, [])

end EngineScript
end PullStreams
