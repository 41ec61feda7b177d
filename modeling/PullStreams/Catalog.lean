/-
Catalogs: what is known about the streams of a probed byte source or of a
connected backend.

A stream of which no format is known counts as of unknown kind.
-/
import PullStreams.Media.Format
import PullStreams.Time.Duration

namespace PullStreams

/-- What a catalog tells about one stream. -/
structure CatalogEntry where
  format : Option MediaFormat
  language : Option String
  name : Option String
  deriving DecidableEq, Repr

namespace CatalogEntry

/-- The format, or the unknown one. -/
def formatOrUnknown (e : CatalogEntry) : MediaFormat := e.format.getD .unknown

def kind (e : CatalogEntry) : MediaKind := e.formatOrUnknown.kind

end CatalogEntry

/-- The streams, in the order in which a backend counts them. -/
abbrev Catalog := List CatalogEntry

/-- What a probe learns before any backend exists. -/
structure ProbeInfo where
  mimeType : String
  duration : Option Duration
  streams : Catalog
  deriving Repr

end PullStreams
