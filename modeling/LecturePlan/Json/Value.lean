/-!
# JSON values

The values of a JSON text.  Numbers keep their spelling, because a reader of settings has to tell
`1` from `1.0`.  A string is `none` when it names half of a surrogate pair: it is well formed, but
there is no text that it stands for, so only readers that need its text refuse it.
-/

namespace LecturePlan.Json

/-- A JSON value. -/
inductive Value where
  | null
  | bool (b : Bool)
  | number (spelling : List Char)
  | string (text : Option (List Char))
  | array (items : List Value)
  | object (fields : List (Option (List Char) × Value))
deriving Inhabited

end LecturePlan.Json
