import Enclosure.Grammar.Basic

/-!
# The rules of the abstract grammar

The names of all rules, in families: statements, expressions, parameters, patterns, assignment
targets, and mistakes.  A rule of the last family matches text that is wrong in a way that has a
diagnosis of its own.

What is here:

* The families and `Rule`, their union, with `Rule.number`, which tells rules apart.
* One function per family that makes an item out of a rule name.
-/

set_option autoImplicit false

namespace Enclosure.Abstract

/-- Statements and the parts of statements. -/
inductive StatementRule where
  | file | embedded | statements | statement | simpleStmts | simpleStmt | compoundStmt
  | assignment | annotatedRhs | augAssign | returnStmt | raiseStmt | globalStmt | nonlocalStmt
  | delStmt | yieldStmt | assertStmt | importStmt | importName | importFrom | importFromTargets
  | importFromAsNames | importFromAsName | dottedAsNames | dottedAsName | dottedName
  | block | decorators | classDef | classDefRaw | functionDef | functionDefRaw
  | ifStmt | elifStmt | elseBlock | whileStmt | forStmt | withStmt | withItem
  | tryStmt | exceptBlock | exceptStarBlock | finallyBlock | matchStmt | subjectExpr | caseBlock
  | guard

/-- Expressions and the parts of expressions. -/
inductive ExpressionRule where
  | expressions | expression | yieldExpr | starExpressions | starExpression
  | starNamedExpressions | starNamedExpression | assignmentExpression | namedExpression
  | disjunction | conjunction | inversion | comparison | compareOpBitwiseOrPair
  | eqBitwiseOr | notEqBitwiseOr | lteBitwiseOr | ltBitwiseOr | gteBitwiseOr | gtBitwiseOr
  | notInBitwiseOr | inBitwiseOr | isNotBitwiseOr | isBitwiseOr
  | bitwiseOr | bitwiseXor | bitwiseAnd | shiftExpr | sum | term | factor | power | awaitPrimary
  | primary | slices | slice | atom | group | lambdef | strings | list | tuple | set | dict
  | doubleStarredKvpairs | doubleStarredKvpair | kvpair | forIfClauses | forIfClause
  | listComp | setComp | genExp | dictComp | arguments | args | kwargs | starredExpression
  | kwargOrStarred | kwargOrDoubleStarred | expressionWithoutMistakes

/-- The parameters of functions and of anonymous functions. -/
inductive ParameterRule where
  | params | parameters | slashNoDefault | slashWithDefault | starEtc | kwds
  | paramNoDefault | paramNoDefaultStarTyped | paramWithDefault | paramMaybeDefault
  | param | paramStarTyped | typing | starTyping | default
  | lambdaParams | lambdaParameters | lambdaSlashNoDefault | lambdaSlashWithDefault
  | lambdaStarEtc | lambdaKwds | lambdaParamNoDefault | lambdaParamWithDefault
  | lambdaParamMaybeDefault | lambdaParam

/-- The patterns of a case. -/
inductive PatternRule where
  | patterns | pattern | asPattern | orPattern | closedPattern | literalPattern | literalExpr
  | complexNumber | signedNumber | signedRealNumber | realNumber | imaginaryNumber
  | capturePattern | captureTarget | wildcardPattern | valuePattern | attr | nameOrAttr
  | groupPattern | sequencePattern | openSequencePattern | maybeSequencePattern
  | maybeStarPattern | starPattern | mappingPattern | itemsPattern | keyValuePattern
  | doubleStarPattern | classPattern | positionalPatterns | keywordPatterns | keywordPattern

/-- What can be assigned to or deleted. -/
inductive TargetRule where
  | starTargets | starTargetsListSeq | starTargetsTupleSeq | starTarget | targetWithStarAtom
  | starAtom | singleTarget | singleSubscriptAttributeTarget | delTargets | delTarget | delTAtom
  | tPrimary | tLookahead

/-- Mistakes with a diagnosis of their own. -/
inductive MistakeRule where
  | arguments | kwarg | legacyExpression | expression | namedExpression | assignment
  | annAssignTarget | delStmt | block | comprehension | dictComprehension
  | parameters | parametersHelper | default | starEtc | kwds
  | lambdaParameters | lambdaParametersHelper | lambdaStarEtc | lambdaKwds
  | withItem | forTarget | group | importFromTargets | withStmt | withStmtIndent
  | tryStmt | exceptStmt | finallyStmt | exceptStmtIndent | exceptStarStmtIndent
  | matchStmt | caseBlock | asPattern | classPattern | classArgumentPattern
  | ifStmt | elifStmt | elseStmt | whileStmt | forStmt | defRaw | classDefRaw
  | doubleStarredKvpairs | kvpair

/-- All rules. -/
inductive Rule where
  | statement (r : StatementRule)
  | expression (r : ExpressionRule)
  | parameter (r : ParameterRule)
  | pattern (r : PatternRule)
  | target (r : TargetRule)
  | mistake (r : MistakeRule)

/-- A number for each rule; no two rules have the same. -/
def Rule.number : Rule → Nat
  | .statement r => r.ctorIdx
  | .expression r => 100 + r.ctorIdx
  | .parameter r => 200 + r.ctorIdx
  | .pattern r => 300 + r.ctorIdx
  | .target r => 400 + r.ctorIdx
  | .mistake r => 500 + r.ctorIdx

/-- A place where a statement rule fits. -/
def stmt (r : StatementRule) : Item Rule := .rule (.statement r)

/-- A place where an expression rule fits. -/
def expr (r : ExpressionRule) : Item Rule := .rule (.expression r)

/-- A place where a parameter rule fits. -/
def parm (r : ParameterRule) : Item Rule := .rule (.parameter r)

/-- A place where a pattern rule fits. -/
def patt (r : PatternRule) : Item Rule := .rule (.pattern r)

/-- A place where a target rule fits. -/
def targ (r : TargetRule) : Item Rule := .rule (.target r)

/-- A place where a mistake fits. -/
def wrong (r : MistakeRule) : Item Rule := .rule (.mistake r)

end Enclosure.Abstract
