/-
A format reader that follows a script.

It gives the packets and failures of a list in order and has ended after the last.
A seek turns out as was said beforehand: it fails, or goes on from a given place of
the list.  The calls are remembered.
-/
import PullStreams.Demux.FormatReader

namespace PullStreams

/-- A call of a scripted reader. -/
inductive ReaderCall where
  /-- The place in the script that was read, if there was one left. -/
  | next (place : Option Nat)
  | seek (time : ClockTime)
  deriving Repr

structure PacketScript where
  entries : List (Except DemuxError Packet)
  place : Nat
  /-- How the next seek turns out: a failure, or the place to go on from. -/
  seekTurn : Except DemuxError Nat
  /-- Oldest first. -/
  calls : List ReaderCall

namespace PacketScript

def ofEntries (entries : List (Except DemuxError Packet)) : PacketScript :=
  { entries, place := 0, seekTurn := .ok 0, calls := [] }

/-- How many entries are left. -/
def remaining (s : PacketScript) : Nat := s.entries.length - s.place

/-- The script after its current entry was read. -/
def stepped (s : PacketScript) : PacketScript :=
  { s with place := s.place + 1, calls := s.calls ++ [.next (some s.place)] }

theorem remaining_stepped {s : PacketScript} (h : s.place < s.entries.length) :
    s.stepped.remaining < s.remaining := by
  simp only [remaining, stepped]
  omega

def next (s : PacketScript) : Fetched remaining s :=
  if h : s.place < s.entries.length then
    match s.entries[s.place] with
    | .ok p => .packet p s.stepped (remaining_stepped h)
    | .error e => .failed e s.stepped
  else .failed .endOfStream { s with calls := s.calls ++ [.next none] }

def seek (s : PacketScript) (time : ClockTime) : PacketScript × Except DemuxError Unit :=
  let s := { s with calls := s.calls ++ [ReaderCall.seek time] }
  match s.seekTurn with
  | .error e => (s, .error e)
  | .ok place => ({ s with place }, .ok ())

instance : FormatReader PacketScript Id where
  remaining := remaining
  next := next
  seek := seek

end PacketScript
end PullStreams
