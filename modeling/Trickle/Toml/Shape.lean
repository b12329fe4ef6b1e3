/-
This file says what a node of a settings document is taken for when a setting of
another type was expected. Only plain values are shown with their content; dates and
times count as tables.
-/

import Trickle.Number.Shortest
import Trickle.Text.Quoted
import Trickle.Toml.Node

namespace Trickle.Toml

/-- What a node is taken for. -/
inductive Shape where
  | text (value : String)
  | integer (value : Int)
  | decimal (value : Binary64)
  | boolean (value : Bool)
  | sequence
  | mapping
  deriving DecidableEq, Repr

/-- What a node is taken for. -/
def Node.shape : Node → Shape
  | .text value => .text value
  | .integer value => .integer value
  | .decimal value => .decimal value
  | .boolean value => .boolean value
  | .list _ | .tables _ => .sequence
  | .moment | .closedTable _ | .table _ _ => .mapping

/-- The wording of a shape. -/
def Shape.wording : Shape → String
  | .text value => s!"string {quotedText value}"
  | .integer value => s!"integer `{value}`"
  | .decimal value => s!"floating point `{value.text}`"
  | .boolean value => s!"boolean `{value}`"
  | .sequence => "sequence"
  | .mapping => "map"

end Trickle.Toml
