/-
Descriptions of streams, and presentations: the streams of a source together with
a selection among them.

A presentation holds one mark per stream (`Presentation.length_selected`); building
one cuts or fills the marks that it is given, and selecting keeps their number.
-/
import PullStreams.Error
import PullStreams.Media.Format
import PullStreams.Time.Duration

namespace PullStreams

/-- The public description of one elementary stream. -/
structure StreamDescriptor where
  /-- Counts from 1 in the order in which consumers see the streams. -/
  id : UInt32
  format : MediaFormat
  language : Option String
  name : Option String
  /-- At most one stream of this kind is meant to be active. -/
  mutuallyExclusive : Bool
  deriving DecidableEq, Repr

namespace StreamDescriptor

def kind (d : StreamDescriptor) : MediaKind := d.format.kind

/-- The stream as status lines name it. -/
def label (d : StreamDescriptor) : String :=
  "MediaStream \x7b id: " ++ toString d.id.toNat ++ ", kind: " ++ d.kind.name ++ " \x7d"

end StreamDescriptor

/-- The id of the stream at a zero-based index.  Ids are 32-bit words and wrap. -/
def streamIdAt (index : Nat) : UInt32 := UInt32.ofNat index + 1

/-- `marks` cut, or filled up with `false`, to `count` entries. -/
def fitMarks (marks : List Bool) (count : Nat) : List Bool :=
  marks.take count ++ List.replicate (count - marks.length) false

@[simp] theorem length_fitMarks (marks : List Bool) (count : Nat) :
    (fitMarks marks count).length = count := by
  simp only [fitMarks, List.length_append, List.length_take, List.length_replicate]
  omega

/-- The streams of a source together with a selection. -/
structure Presentation where
  streams : List StreamDescriptor
  selected : List Bool
  mimeType : String
  totalSize : Nat
  duration : Option Duration
  length_selected : selected.length = streams.length

namespace Presentation

/-- A presentation of `streams`, with as many of the marks as there are streams. -/
def ofMarks (streams : List StreamDescriptor) (marks : List Bool) (mimeType : String)
    (totalSize : Nat) (duration : Option Duration) : Presentation :=
  { streams, selected := fitMarks marks streams.length, mimeType, totalSize, duration
    length_selected := length_fitMarks .. }

/-- The streams with their marks. -/
def entries (p : Presentation) : List (StreamDescriptor × Bool) :=
  p.streams.zip p.selected

def streamCount (p : Presentation) : Nat := p.streams.length

def stream? (p : Presentation) (index : Nat) : Option (StreamDescriptor × Bool) :=
  p.entries[index]?

def isSelected (p : Presentation) (index : Nat) : Bool :=
  p.selected[index]?.getD false

/-- The ids of the selected streams, in order. -/
def selectedIds (p : Presentation) : List UInt32 :=
  (p.entries.filter (·.2)).map (·.1.id)

/-- Marks or unmarks the stream at `index`. -/
def setSelected (p : Presentation) (index : Nat) (mark : Bool) :
    Except SourceError Presentation :=
  if index < p.selected.length then
    .ok { p with
      selected := p.selected.set index mark
      length_selected := by simp [p.length_selected] }
  else .error (.invalidStream (streamIdAt index))

def select (p : Presentation) (index : Nat) : Except SourceError Presentation :=
  p.setSelected index true

def deselect (p : Presentation) (index : Nat) : Except SourceError Presentation :=
  p.setSelected index false

/-- The presentation with no stream selected. -/
def deselectAll (p : Presentation) : Presentation :=
  { p with
    selected := p.selected.map fun _ => false
    length_selected := by simp [p.length_selected] }

/-- Exactly the streams at `indices` selected; fails at the first that does not exist. -/
def withSelection (p : Presentation) (indices : List Nat) : Except SourceError Presentation :=
  indices.foldlM select p.deselectAll

end Presentation
end PullStreams
