/-
Whole numbers with too many digits, as the reader of JSON meets them: it gives
up on a text that is one, however right its form is.
-/
import InspectionFeed.Json.Reader
import Mathlib.Data.List.TakeWhile

namespace InspectionFeed.Json

variable {c : Char} {cs : List Char}

/-! ## The first character -/

end InspectionFeed.Json
