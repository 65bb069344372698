import Jadn.Pattern.Match
import Jadn.Pattern.Parser
import Jadn.Pattern.Size

/-!
Compiled patterns. A pattern is found anywhere in a text unless it says where it has to stand.
-/

namespace Jadn

structure Pattern where
  /-- The text that was compiled. -/
  source : String
  node : Pattern.Node
  deriving Inhabited

namespace Pattern

def compile (source : String) : Except Fault Pattern := do
  let e ← Expr.parse source
  let node ← e.toNode
  if sizeLimit < node.size then .error .tooLarge else .ok ⟨source, node⟩

/-- Whether some part of the text matches. -/
def occursIn (p : Pattern) (text : String) : Bool := p.node.occursIn text

/-- The text of a pattern that has to match from the first character to the last. -/
def anchored (source : String) : String := "^(?:" ++ source ++ ")$"

/-- Compiles a pattern for whole texts. -/
def compileAnchored (source : String) : Except Fault Pattern := compile (anchored source)

end Pattern

end Jadn
