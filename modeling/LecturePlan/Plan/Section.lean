import LecturePlan.Plan.Clip
import LecturePlan.Warning
/-!
# The production plan

A plan is an ordered list of sections: speech over a frame, a video clip, or an audio clip over a
frame.  Beside them stand the pools of media files, the marks and chapters with the sections that
begin there, and the warnings.
-/

namespace LecturePlan

/-- What is seen while a section plays. -/
inductive Frame where
  /-- A page of a declared deck, counted from one. -/
  | slide (deck : String) (page : Nat) (fit : Fit)
  /-- A picture of the pool. -/
  | image (id : Nat) (fit : Fit)
  /-- The last frame of a video variant. -/
  | video (id : Nat) (variant : String)
deriving DecidableEq, Repr

/-- The kind of a frame. -/
def Frame.kind : Frame → String
  | .slide .. => "slide"
  | .image .. => "image"
  | .video .. => "video"

/-- How a clip is played, where that is not as it is. -/
structure Playback where
  /-- Speed in percent. -/
  speed : Option Nat
  /-- Relative volume in decibels. -/
  soundLevel : Option Int
  repeatCount : Option Nat
deriving DecidableEq, Repr

/-- What a section plays. -/
inductive SectionKind where
  /-- Speech of a voice over a frame; `content` is a document of its own. -/
  | speech (frame : Frame) (voice content : String)
  | video (id : Nat) (variant : String) (playback : Playback)
  | audio (id : Nat) (variant : String) (playback : Playback) (frame : Frame)
deriving DecidableEq, Repr

/-- One unit of production. -/
structure Section where
  id : Nat
  kind : SectionKind
deriving DecidableEq, Repr

namespace Section

/-- The name of what a section plays. -/
def typeName (s : Section) : String :=
  match s.kind with
  | .speech .. => "ssml"
  | .video .. => "video"
  | .audio .. => "audio"

/-- The frame that a section is played over. -/
def frame? (s : Section) : Option Frame :=
  match s.kind with
  | .speech frame _ _ => some frame
  | .video .. => none
  | .audio _ _ _ frame => some frame

/-- The voice of a speech section. -/
def voice? (s : Section) : Option String :=
  match s.kind with
  | .speech _ voice _ => some voice
  | _ => none

/-- The document of a speech section. -/
def content? (s : Section) : Option String :=
  match s.kind with
  | .speech _ _ content => some content
  | _ => none

end Section

/-- A mark with a title. -/
structure Chapter where
  title : String
  markName : String
  sectionId : Nat
deriving DecidableEq, Repr

/-- A production plan. -/
structure Plan where
  sections : List Section
  videos : List Resource
  audios : List Resource
  images : List ImageResource
  /-- The section that begins at each mark. -/
  marks : Table Nat
  chapters : List Chapter
  warnings : List Warning
deriving DecidableEq

namespace Plan

/-- The plan of nothing. -/
def empty : Plan := ⟨[], [], [], [], ∅, [], []⟩

/-- The section with an id. -/
def section? (p : Plan) (id : Nat) : Option Section := p.sections.find? fun s => s.id == id

/-- The documents of all speech sections, in order. -/
def speech (p : Plan) : List String := p.sections.filterMap Section.content?

end Plan

end LecturePlan
