/-!
# Operators on variants

The operators that the engine evaluates, in its order, with the engine's spelling and the word that
names each of them in generated methods.
-/

namespace EngineBindings

/-- An operator of the engine. -/
inductive VariantOperator where
  | equal
  | notEqual
  | less
  | lessEqual
  | greater
  | greaterEqual
  | add
  | subtract
  | multiply
  | divide
  | negate
  | positive
  | module
  | power
  | shiftLeft
  | shiftRight
  | bitAnd
  | bitOr
  | bitXor
  | bitNegate
  | and
  | or
  | xor
  | not
  | elem
  deriving DecidableEq, Inhabited

namespace VariantOperator

/-- All operators in the engine's order. -/
def all : List VariantOperator :=
  [equal, notEqual, less, lessEqual, greater, greaterEqual, add, subtract, multiply, divide,
    negate, positive, module, power, shiftLeft, shiftRight, bitAnd, bitOr, bitXor, bitNegate, and,
    or, xor, not, elem]

/-- The number of an operator in the engine's order. -/
def ordinal (op : VariantOperator) : Nat :=
  op.ctorIdx

/-- The name of an operator in generated code. -/
def caseName : VariantOperator → String
  | equal => "Equal"
  | notEqual => "NotEqual"
  | less => "Less"
  | lessEqual => "LessEqual"
  | greater => "Greater"
  | greaterEqual => "GreaterEqual"
  | add => "Add"
  | subtract => "Subtract"
  | multiply => "Multiply"
  | divide => "Divide"
  | negate => "Negate"
  | positive => "Positive"
  | module => "Module"
  | power => "Power"
  | shiftLeft => "ShiftLeft"
  | shiftRight => "ShiftRight"
  | bitAnd => "BitAnd"
  | bitOr => "BitOr"
  | bitXor => "BitXor"
  | bitNegate => "BitNegate"
  | and => "And"
  | or => "Or"
  | xor => "Xor"
  | not => "Not"
  | elem => "In"

/-- The spelling of an operator in the engine's reflection data. -/
def engineName : VariantOperator → String
  | equal => "=="
  | notEqual => "!="
  | less => "<"
  | lessEqual => "<="
  | greater => ">"
  | greaterEqual => ">="
  | add => "+"
  | subtract => "-"
  | multiply => "*"
  | divide => "/"
  | negate => "unary-"
  | positive => "unary+"
  | module => "%"
  | power => "**"
  | shiftLeft => "<<"
  | shiftRight => ">>"
  | bitAnd => "&"
  | bitOr => "|"
  | bitXor => "^"
  | bitNegate => "~"
  | and => "and"
  | or => "or"
  | xor => "xor"
  | not => "not"
  | elem => "in"

/-- The word that names an operator in generated methods. -/
def methodSuffix : VariantOperator → String
  | equal => "equal"
  | notEqual => "not_equal"
  | less => "less"
  | lessEqual => "less_equal"
  | greater => "greater"
  | greaterEqual => "greater_equal"
  | add => "add"
  | subtract => "subtract"
  | multiply => "multiply"
  | divide => "divide"
  | negate => "negate"
  | positive => "positive"
  | module => "module"
  | power => "power"
  | shiftLeft => "shift_left"
  | shiftRight => "shift_right"
  | bitAnd => "bit_and"
  | bitOr => "bit_or"
  | bitXor => "bit_xor"
  | bitNegate => "bit_negate"
  | and => "and"
  | or => "or"
  | xor => "xor"
  | not => "not"
  | elem => "in"

/-- The operator with an engine spelling. -/
def ofEngineName? (name : String) : Option VariantOperator :=
  all.find? (fun op => op.engineName == name)

/-- Whether an operator takes no right operand. -/
def isUnary : VariantOperator → Bool
  | negate | positive | bitNegate | not => true
  | _ => false

end VariantOperator

end EngineBindings
