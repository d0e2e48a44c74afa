import Toolbox.Code.Grammar.Item

/-!
# Reading types, paths and expressions

The rules of the grammar, tied together.  Rules nest no deeper than there are tokens, up to a
constant, for between a rule and itself at least one token is taken.
-/

namespace Toolbox

namespace Grammar

/-- Readers that never read anything. -/
def failing : Grammar where
  type _ := Reader.failExpected typeStarts
  bound _ _ := Reader.failExpected ["identifier"]
  expression _ := Reader.refuse "expected an expression"
  operand _ := Reader.refuse "expected an expression"
  statementExpression := Reader.refuse "expected an expression"
  pattern := Reader.failExpected ["identifier"]
  statements := Reader.refuse "expected an expression"
  item := Reader.failExpected ["identifier"]
  fields := Reader.failExpected ["curly braces"]
  useTree _ := Reader.failExpected ["identifier"]

/-- Readers made from the rules, which contain what `g` reads. -/
def step (g : Grammar) : Grammar where
  type := g.typeRule
  bound := g.boundRule
  expression := g.expressionRule
  operand := g.operandRule
  statementExpression := g.statementExpressionRule
  pattern := g.patternRule
  statements := g.statementsRule
  item := g.itemRule
  fields := g.fieldsRule
  useTree := g.useTreeRule

/-- Readers of what nests no deeper than `depth`. -/
def ofDepth : Nat → Grammar
  | 0 => failing
  | depth + 1 => (ofDepth depth).step

/-- Runs a reader with a grammar that is deep enough for what lies ahead. -/
def run {α : Type} (read : Grammar → Reader α) : Reader α := do
  read (ofDepth (4 * ((← Reader.ahead).length + 2)))

end Grammar

namespace Reader

def expression : Reader (ExprForm × List Token) := noted (Grammar.run (·.expression true))

def path : Reader (List Token) := return (← noted (Grammar.run (·.path .type))).2

end Reader

namespace TypeExpr

/-- The type that tokens are. -/
def ofTokens? (ts : List Token) : Option TypeExpr :=
  (Reader.readAll (Grammar.run fun g => return (← g.type true).type) ts).toOption

/-- The type that a text is; a text that cannot be read is a type of another shape. -/
def ofText (s : String) : TypeExpr :=
  let ts := Token.scan s
  (ofTokens? ts).getD (.other ts)

end TypeExpr

end Toolbox
