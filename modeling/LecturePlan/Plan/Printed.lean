import LecturePlan.Json.Printer
import LecturePlan.Plan.Section
/-!
# The printed plan

A plan as a JSON document.  Fields stand in a fixed order, tables in the order of their keys; a choice
that was not made and an empty list of warnings are left out.
-/

namespace LecturePlan

open Json (Document)

/-- Fields that are left out where there is nothing to say. -/
def presentFields (fields : List (String × Option Document)) : List (String × Document) :=
  fields.filterMap fun f => f.2.map fun d => (f.1, d)

/-- A table as an object. -/
def Table.printed {α : Type} (print : α → Document) (t : Table α) : Document :=
  .object (t.entries.map fun e => (e.1, print e.2))

/-- The name of a fit. -/
def Fit.printed (f : Fit) : Document := .text f.name

/-- A frame, with its kind in front. -/
def Frame.printed (f : Frame) : Document :=
  .object (("type", .text f.kind) :: match f with
    | .slide deck page fit =>
      [("deck_id", .text deck), ("page", .number page), ("fit", fit.printed)]
    | .image id fit => [("resource_id", .number id), ("fit", fit.printed)]
    | .video id variant => [("resource_id", .number id), ("variant_key", .text variant)])

/-- The fields of a clip that is played. -/
def clipFields (id : Nat) (variant : String) (p : Playback) : List (String × Document) :=
  presentFields [("resource_id", some (.number id)), ("variant_key", some (.text variant)),
    ("speed", p.speed.map fun n => .number n), ("soundLevel", p.soundLevel.map .number),
    ("repeatCount", p.repeatCount.map fun n => .number n)]

/-- A section, with its id and what it plays in front. -/
def Section.printed (s : Section) : Document :=
  .object (("id", .number s.id) :: ("type", .text s.typeName) :: match s.kind with
    | .speech frame voice content =>
      [("frame", frame.printed), ("voice", .text voice), ("content", .text content)]
    | .video id variant playback => clipFields id variant playback
    | .audio id variant playback frame =>
      clipFields id variant playback ++ [("frame", frame.printed)])

/-- A variant of a media file. -/
def Variant.printed (v : Variant) : Document :=
  .object (presentFields [("clipBegin", some (.text v.clipBegin.toString)),
    ("clipEnd", some (.text v.clipEnd.toString)), ("fit", v.fit.map Fit.printed)])

/-- A video or audio file. -/
def Resource.printed (r : Resource) : Document :=
  .object [("id", .number r.id), ("path", .text r.path.toString),
    ("variants", r.variants.printed Variant.printed)]

/-- A picture. -/
def ImageResource.printed (r : ImageResource) : Document :=
  .object [("id", .number r.id), ("path", .text r.path.toString)]

/-- A chapter. -/
def Chapter.printed (c : Chapter) : Document :=
  .object [("title", .text c.title), ("mark_name", .text c.markName),
    ("section_id", .number c.sectionId)]

/-- A warning. -/
def Warning.printed (w : Warning) : Document :=
  .object [("tag", .text w.tag), ("message", .text w.message)]

/-- The fields of a plan. -/
def Plan.fields (p : Plan) : List (String × Document) :=
  presentFields [("sections", some (.array (p.sections.map Section.printed))),
    ("video_resources", some (.array (p.videos.map Resource.printed))),
    ("audio_resources", some (.array (p.audios.map Resource.printed))),
    ("image_resources", some (.array (p.images.map ImageResource.printed))),
    ("marks", some (p.marks.printed fun (n : Nat) => .number n)),
    ("chapters", some (.array (p.chapters.map Chapter.printed))),
    ("warnings", if p.warnings.isEmpty then none
      else some (.array (p.warnings.map Warning.printed)))]

/-- A plan under its title. -/
def Plan.printed (p : Plan) (title : String) : Document :=
  .object (("title", .text title) :: p.fields)

end LecturePlan
