import Manifest.Operator
import Manifest.Value.Text

/-!
# Relationships

A relationship operator orders resources. Between arrays it orders every element of the one before
every element of the other. What it says is recorded as edges, and its result is the right
operand, so that operators can be chained.
-/

namespace Manifest

/-- What an edge asks for. -/
inductive EdgeKind where
  /-- the source comes first -/
  | before
  /-- the source comes first, and the target is told when it changes -/
  | notify
deriving DecidableEq

/-- The name of a kind of edge. -/
def EdgeKind.name : EdgeKind → String
  | .before => "Before"
  | .notify => "Notify"

/-- An edge between two resources. -/
structure Edge where
  /-- what comes first -/
  source : Value
  /-- what comes after it -/
  target : Value
  /-- what the edge asks for -/
  kind : EdgeKind

/-- The text of an edge inside a diagnostic. -/
def Edge.debug (e : Edge) : String :=
  "Edge \x7b source: " ++ e.source.debug ++ ", target: " ++ e.target.debug ++ ", kind: "
    ++ e.kind.name ++ " \x7d"

/-- The resources that an operand stands for. -/
def Value.resources : Value → List Value
  | .array items => items
  | v => [v]

namespace RelationshipOp

/-- Whether the source of the edges is on the left. -/
def sourceOnLeft : RelationshipOp → Bool
  | .before | .notifies => true
  | .after | .subscribes => false

/-- The kind of the edges. -/
def edgeKind : RelationshipOp → EdgeKind
  | .before | .after => .before
  | .notifies | .subscribes => .notify

/-- The edges of a relationship, source by source. -/
def edges (op : RelationshipOp) (left right : Value) : List Edge :=
  let (sources, targets) := if op.sourceOnLeft then (left, right) else (right, left)
  sources.resources.flatMap fun s => targets.resources.map fun t => ⟨s, t, op.edgeKind⟩

end RelationshipOp

end Manifest
