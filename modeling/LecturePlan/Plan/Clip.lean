import LecturePlan.Path
import LecturePlan.Plan.Fit
import LecturePlan.Table
import LecturePlan.Timestamp
/-!
# Clips and pictures

The media files of a plan are pooled: a file stands in its pool once, under its position there.  A
video or audio file has a variant for every trim window and fit that is asked of it, under a key
that spells these out.
-/

namespace LecturePlan

/-- One end of a trim window. -/
inductive ClipBound where
  /-- The beginning of the file. -/
  | start
  /-- The end of the file. -/
  | end'
  /-- A point inside of it. -/
  | at' (t : Timestamp)
deriving DecidableEq, Repr

/-- The text of a bound. -/
def ClipBound.toString : ClipBound → String
  | .start => "START"
  | .end' => "END"
  | .at' t => t.canonical

/-- A trim window of a media file and, for videos, the fit. -/
structure Variant where
  clipBegin : ClipBound
  clipEnd : ClipBound
  fit : Option Fit
deriving DecidableEq, Repr

/-- The key of a variant. -/
def Variant.key (v : Variant) : String :=
  v.clipBegin.toString ++ "-" ++ v.clipEnd.toString ++
    match v.fit with
    | some f => "-" ++ f.name
    | none => ""

/-- A video or audio file. -/
structure Resource where
  /-- Its position in the pool. -/
  id : Nat
  path : Path
  variants : Table Variant
deriving DecidableEq

/-- A picture. -/
structure ImageResource where
  /-- Its position in the pool. -/
  id : Nat
  path : Path
deriving DecidableEq, Repr

/-! ## 1. Pools -/

/-- Adds a variant under its key, unless the key is taken. -/
def Resource.addVariant (r : Resource) (v : Variant) : Resource :=
  if r.variants.contains v.key then r else { r with variants := r.variants.insert v.key v }

/-- Adds a variant to the resource with an id. -/
def addVariantTo (id : Nat) (v : Variant) (pool : List Resource) : List Resource :=
  pool.map fun r => if r.id = id then r.addVariant v else r

/-- The id of a file in a pool, and the pool with the file in it. -/
def internResource (path : Path) (pool : List Resource) : Nat × List Resource :=
  match pool.find? fun r => r.path == path with
  | some r => (r.id, pool)
  | none => (pool.length, pool ++ [⟨pool.length, path, ∅⟩])

/-- The id of a picture in a pool, and the pool with the picture in it. -/
def internImage (path : Path) (pool : List ImageResource) : Nat × List ImageResource :=
  match pool.find? fun r => r.path == path with
  | some r => (r.id, pool)
  | none => (pool.length, pool ++ [⟨pool.length, path⟩])

/-- The id of a file in a pool, and the pool with the file and a variant of it. -/
def internVariant (path : Path) (v : Variant) (pool : List Resource) : Nat × List Resource :=
  let found := internResource path pool
  (found.1, addVariantTo found.1 v found.2)

end LecturePlan
