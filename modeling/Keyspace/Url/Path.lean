import Keyspace.Text.Fields

/-!
# Dot segments

A path is resolved by walking over its segments: a single dot is dropped, two dots drop the
segment before them. The empty segment in front of a rooted path is never dropped, and a path
without dot segments stays as it is.
-/

namespace Keyspace.Url

/-- The segment that stands for the place itself. -/
def currentSegment : List Char := ['.']

/-- The segment that stands for the place above. -/
def parentSegment : List Char := ['.', '.']

/-- Walk over one segment; the segments kept so far are given last one first. -/
def resolveSegment (kept : List (List Char)) (segment : List Char) : List (List Char) :=
  if segment = currentSegment then kept
  else if segment = parentSegment then
    if kept = [[]] then kept else kept.drop 1
  else segment :: kept

/-- A path without its dot segments. -/
def resolvePath (path : List Char) : List Char :=
  let segments := Text.fields '/' path
  if segments.contains currentSegment || segments.contains parentSegment then
    Text.unfields '/' (segments.foldl resolveSegment []).reverse
  else path

end Keyspace.Url
