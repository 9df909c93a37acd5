import TypedSql.Expr
import TypedSql.Dialect

namespace TypedSql

/-- Why an expression cannot be evaluated or compiled. -/
inductive Unsupported where
  | columnAsLiteral
  | strayList
  | notBoolean
  | arithmeticOnNonNumbers
  | arithmeticOverflow
  | orderingWithNull
  | incompatibleComparison
  | textMethodOnNonText
  | missingArgument
  | invalidPattern
  | textTooLong
  | roundDigitsNotInt32
  | listExpected
  | absOfNonNumber
  | datePartOfNonDate
  | negativeRoundDigits
  | roundOfNonNumber
  | averageOfNonList
  | averageOverColumns
  | averageOfNonNumbers
  | nonBooleanColumn
  | arithmeticAsPredicate
  | scalarAsPredicate
  | nonBooleanPredicate
  | argumentCount
  | nullArgument
  | roundDigitsNotLiteral
  | testAsOperand
  | columnsInArguments
  | arithmeticOverColumns
  | operandShape
  deriving DecidableEq, Repr

def Unsupported.text : Unsupported → String
  | columnAsLiteral => "column reference where a literal was expected"
  | strayList => "a list is only valid as an IN or average argument"
  | notBoolean => "expression is not boolean"
  | arithmeticOnNonNumbers => "arithmetic on non-numeric literals"
  | arithmeticOverflow => "arithmetic overflow or division by zero"
  | orderingWithNull => "ordering comparison with null"
  | incompatibleComparison => "comparison of incompatible literals"
  | textMethodOnNonText => "text method on a non-text literal"
  | missingArgument => "missing method argument"
  | invalidPattern => "invalid regular expression"
  | textTooLong => "string too long"
  | roundDigitsNotInt32 => "round digits must be an int32"
  | listExpected => "IN expects a list"
  | absOfNonNumber => "abs of a non-numeric literal"
  | datePartOfNonDate => "date part of a non-date literal"
  | negativeRoundDigits => "negative rounding digits"
  | roundOfNonNumber => "round of a non-numeric literal"
  | averageOfNonList => "average expects a list of literals"
  | averageOverColumns => "average over entity columns"
  | averageOfNonNumbers => "average of non-numeric literals"
  | nonBooleanColumn => "non-boolean column used as a predicate"
  | arithmeticAsPredicate => "arithmetic expression used as a predicate"
  | scalarAsPredicate => "scalar method used as a predicate"
  | nonBooleanPredicate => "non-boolean expression used as a predicate"
  | argumentCount => "wrong number of method arguments"
  | nullArgument => "null method argument"
  | roundDigitsNotLiteral => "rounding digits must be a literal int32"
  | testAsOperand => "predicate method used as an operand"
  | columnsInArguments => "scalar method arguments cannot reference columns"
  | arithmeticOverColumns => "arithmetic over entity columns"
  | operandShape => "unsupported operand shape"

/-- Why no statement can be made although every expression in it is in order. -/
inductive InvalidStatement where
  | updateWithoutSet
  | insertWithoutColumns
  | tableAlreadyJoined
  | joinWithoutTables
  | joinWithoutProperties
  deriving DecidableEq, Repr

def InvalidStatement.text : InvalidStatement → String
  | updateWithoutSet => "UPDATE without SET"
  | insertWithoutColumns => "INSERT without columns"
  | tableAlreadyJoined => "right-hand table is already part of the join graph"
  | joinWithoutTables => "join definition without tables"
  | joinWithoutProperties => "join projection binds no property"

inductive Error where
  | unsupported (expr : Expr) (reason : Unsupported)
  | aliasCapacityExceeded (capacity : Nat)
  | aliasNotFound (table : String)
  | illegalCast (property : String) (source target : FieldType)
  | viewNotFound (output : String)
  | dialectUnsupported (operator : String) (dialect : Dialect)
  | invalidStatement (reason : InvalidStatement)
  | dialectMismatch (output : String) (stored connection : Dialect)
  | mapping (column : String) (cause : ConversionError)

def Error.message : Error → String
  | unsupported expr reason => s!"unsupported expression `{expr.text}`: {reason.text}"
  | aliasCapacityExceeded capacity =>
    s!"alias capacity exceeded: at most {capacity} tables per join graph"
  | aliasNotFound table => s!"table `{table}` has no alias in this join graph"
  | illegalCast property source target =>
    s!"cannot cast `{property}` from {source.name} to {target.name}"
  | viewNotFound output => s!"no stored view for `{output}`"
  | dialectUnsupported operator dialect => s!"`{operator}` is not supported by {dialect.name}"
  | invalidStatement reason => s!"invalid statement: {reason.text}"
  | dialectMismatch output stored connection =>
    s!"execution error: view `{output}` renders for {stored.name} " ++
      s!"but the connection speaks {connection.name}"
  | mapping column cause => s!"mapping error in column `{column}`: {cause.message}"

end TypedSql
