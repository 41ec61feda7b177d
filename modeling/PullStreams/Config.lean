/-
Configuration: the tuning of a source, and what is logged.

Mime types are compared without regard to the case of ASCII letters.
`Config.directive` is the filter directive of a configuration: its level, what is
always filtered, and then its own filters.
-/
import PullStreams.Layout.Order

namespace PullStreams

/-- Tuning of a single source. -/
structure SourceConfig where
  /-- How many bytes are looked at to tell the container. -/
  probeChunkSize : Nat
  /-- The room that the feeder's buffer has in the beginning. -/
  readBufferSize : Nat
  /-- Mime types whose streams are shown grouped by kind, backwards. -/
  reorderedMimeTypes : List String
  executorThreadName : String
  readThreadName : String
  deriving DecidableEq, Repr

/-- What is logged. -/
structure LoggingConfig where
  level : Option String
  filters : Option String
  deriving DecidableEq, Repr

structure Config where
  source : SourceConfig
  logging : Option LoggingConfig
  deriving DecidableEq, Repr

/-- A text with its ASCII letters small. -/
def asciiLower (s : String) : String := String.ofList (s.toList.map Char.toLower)

namespace SourceConfig

def standard : SourceConfig where
  probeChunkSize := 4096
  readBufferSize := 4096
  reorderedMimeTypes := ["video/mp4"]
  executorThreadName := "media-source-cmd"
  readThreadName := "media-source-read"

/-- Whether the streams of a mime type are shown in the other order. -/
def reorders (c : SourceConfig) (mimeType : String) : Bool :=
  c.reorderedMimeTypes.any fun m => asciiLower m == asciiLower mimeType

/-- The order in which the streams of a mime type are shown. -/
def policyFor (c : SourceConfig) (mimeType : String) : OrderPolicy :=
  if c.reorders mimeType then .reverseGrouped else .natural

end SourceConfig

namespace Config

def standard : Config where
  source := .standard
  logging := none

/-- The level that is logged when none is configured. -/
def standardLevel : String := "info"

/-- What is filtered whatever the configuration says. -/
def fixedFilter : String := "symphonia=warn"

/-- The filter directive of a configuration. -/
def directive (c : Config) : String :=
  let level := (c.logging.bind (·.level)).getD standardLevel
  let filters := (c.logging.bind (·.filters)).getD ""
  ",".intercalate ([level, fixedFilter] ++ if filters.isEmpty then [] else [filters])

end Config
end PullStreams
