/-
Opening a session, and opening its backend.

A session begins with a probe of its byte source; the streams that the probe finds
are laid out once and for all.  The backend is created, connected and bound to the
layout at the first start.  When that fails the session keeps the reason, and every
later start fails with it.
-/
import PullStreams.Session

namespace PullStreams

/-- Why a session did not open, and what had happened until then. -/
structure Refusal (τ : Type) where
  cause : SourceError
  journal : List (Entry τ)

namespace Session

variable {σ β τ : Type} [ByteSource σ]

/-- A stopped session over a probed source.  The streams that are active by default are
selected. -/
def fresh (config : SourceConfig) (info : MediaInfo) (layout : Layout) (source : σ) :
    Session σ β τ :=
  { info, layout
    phase := .stopped
    rate := .one
    streams := layout.descriptors.map fun _ => .idle
    selection := layout.defaultActive
    resources := .unopened
    presentationEnded := false
    commands := .empty
    executorBroke := false
    feederStart := .of config.readThreadName config.readBufferSize
    feeder := .ofSource source info.size
    events := .empty
    journal := [] }

/-- The failure for a container without streams. -/
def noStreams (mimeType : String) : SourceError :=
  .unsupportedFormat ("no streams found in " ++ mimeType)

/-- The session over a byte source that was probed, with the journal of the probe. -/
def ofProbe (config : SourceConfig) (source : σ) (size : Nat) (journal : List (Entry τ))
    (probe : ProbeInfo) : Except SourceError (Session σ β τ) :=
  let policy := config.policyFor probe.mimeType
  let layout := Layout.plan policy probe.streams
  if layout.isEmpty then .error (noStreams probe.mimeType)
  else
    let s := fresh config ⟨probe.mimeType, size, probe.duration⟩ layout source
    .ok ((s.recordAll journal).say .caller
      (.opened probe.mimeType size layout.length policy.name))

/-- Probes a byte source and opens a session over its streams. -/
def ofSource (E : Engine σ β) (config : SourceConfig) (source : σ) :
    Except (Refusal τ) (Session σ β τ) :=
  if !ByteSource.isSeekable source then .error ⟨.notSeekable, []⟩
  else
    match ByteSource.length source with
    | .error e => .error ⟨.io e, []⟩
    | .ok size =>
      let probe := E.probe config.probeChunkSize source
      let journal : List (Entry τ) :=
        .called (.probe config.probeChunkSize) ::
          probe.notices.map fun n => .said ⟨n.speaker .caller, n⟩
      (probe.result.bind (ofProbe config probe.after size journal)).mapError (⟨·, journal⟩)

/-! ### The backend -/

/-- Lets a backend go, and then the feeder, which may have broken off long before. -/
def releaseBackend (E : Engine σ β) (s : Session σ β τ) (party : Party) (backend : β) :
    Session σ β τ :=
  let s := (s.noteCall .disconnect).sayAll party (E.disconnect backend).2
  if s.feederStart = .breaksOff then s.say party .feederBroke else s

/-- Throws away a backend that has no feeder.  It disconnects of its own accord. -/
def forgoBackend (E : Engine σ β) (s : Session σ β τ) (backend : β) : Session σ β τ :=
  s.sayAll .executor (E.disconnect backend).2

/-- Binds the layout to a connected backend. -/
def bindBackend (E : Engine σ β) (s : Session σ β τ) (backend : β) : Session σ β τ :=
  let catalog := E.catalog backend
  let binding := s.layout.bind catalog
  let s := s.sayAll .executor
    ((binding.unbound s.layout).map fun (logical, kind) => .noBackendStream logical kind)
  { s.say .executor (.backendConnected catalog.length binding.codes) with
    resources := .opened backend binding }

/-- Connects a new backend and binds the layout to it. -/
def connectBackend (E : Engine σ β) (s : Session σ β τ) (backend : β) : Session σ β τ :=
  let (s, outcome) :=
    (s.noteCall (.connect s.info.size)).drive .executor (E.connect backend s.info.size)
  match outcome.result with
  | .error e =>
    { s.releaseBackend E .executor outcome.after with resources := .failed e.message }
  | .ok () => s.bindBackend E outcome.after

/-- Creates the backend, unless that was tried before. -/
def openResources (E : Engine σ β) (s : Session σ β τ) : Session σ β τ :=
  match s.resources with
  | .unopened =>
    let s := s.noteCall .create
    match E.create, E.spawnFeeder with
    | .error e, _ => { s with resources := .failed e.message }
    | .ok backend, .error e =>
      { s.forgoBackend E backend with resources := .failed (SourceError.io e).message }
    | .ok backend, .ok () => s.connectBackend E backend
  | _ => s

end Session
end PullStreams
