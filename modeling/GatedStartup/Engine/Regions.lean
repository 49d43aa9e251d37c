import GatedStartup.Index.Definition
import GatedStartup.Table

/-! The regions of a cache held in memory, by canonical path. A canonical path is made of its
segments, each after a slash; segments have text, no slash, and no white space around them. -/
namespace GatedStartup.Engine

open Index

/-- The segments of a path: what is left between slashes after trimming. -/
def segments (path : String) : List String :=
  (Text.split '/' path).filterMap Text.trimmed?

/-- Each segment after a slash. -/
def joined (segments : List String) : String :=
  String.join (segments.map fun segment => "/" ++ segment)

/-- Nothing when the path is made of slashes and white space only. -/
def canonical? (path : String) : Option String :=
  match segments path with
  | [] => none
  | found => some (joined found)

abbrev Regions := Table String Region

namespace Regions

/-- Adds the region if it is not there, and returns the one that is. -/
def intern (regions : Regions) (region : Region) : Region × Regions :=
  match regions.get? region.fullPath with
  | some known => (known, regions)
  | none => (region, regions.insert region.fullPath region)

/-- Creates a region for each prefix of the segments that has none, below `parent`. The last is
returned, or `deepest` when there are no segments. -/
def createBelow (parent : String) (deepest : Option Region) (regions : Regions) :
    List String → Option Region × Regions
  | [] => (deepest, regions)
  | segment :: rest =>
    let path := parent ++ "/" ++ segment
    let made := regions.intern ⟨segment, path⟩
    createBelow path (some made.1) made.2 rest

/-- Creates the region at a path, and its parents. A blank path creates none. -/
def create (regions : Regions) (path : String) : Option Region × Regions :=
  createBelow "" none regions (segments path)

/-- Any spelling of the path finds the region. -/
def find? (regions : Regions) (path : String) : Option Region :=
  (canonical? path).bind regions.get?

def paths (regions : Regions) : List String := regions.keys

end Regions
end GatedStartup.Engine
