import Audience.Query.Wire
import Audience.Signal

/-!
# `Audience.Compile` — definitions compiled to queries

The query of a definition is the union of the branches of all its signals, narrowed to the definition's
domains where it has any. The first signal that cannot be built is the error.

## Contents
- **Signals.** `Definition.signals`, in order.
- **Queries.** `Definition.query` and `Definition.clickersQuery`.
-/

namespace Audience.Definition

/-! ## Signals -/

/-- The signals that a definition uses, in the order of their branches. -/
def signals (d : Definition) : List Signal :=
  Signal.all.filter (·.applies d)

/-! ## Queries -/

/-- The branches of all signals of a definition. -/
def branches (settings : Settings) (d : Definition) : Except MissingContent (List Condition) :=
  (d.signals.mapM (Signal.build (.ofDefinition settings d))).map List.flatten

/-- A query narrowed to the domains of a definition, if it has any. -/
def narrow (d : Definition) (q : Query) : Query :=
  if d.hasDomains then .narrowed q (domainFilter d) else q

/-- The query of a definition. -/
def query (settings : Settings) (d : Definition) : Except MissingContent Query :=
  (d.branches settings).map fun bs => d.narrow (.any bs)

/-- The query of the companion audience: users who clicked the audience's ad slots. -/
def clickersQuery (settings : Settings) (d : Definition) : Except MissingContent Query :=
  (Signal.buildSlotClick (.ofDefinition settings d)).map fun c => .any [c]

end Audience.Definition
