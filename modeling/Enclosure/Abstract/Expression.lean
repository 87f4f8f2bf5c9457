import Enclosure.Abstract.Build
import Enclosure.Abstract.Literal

/-!
# Expressions

The rules for expressions, from lists of starred expressions down to atoms, and the arguments of a
call.

What is here:

* `ExpressionRule.body`.
-/

set_option autoImplicit false

namespace Enclosure.Abstract

/-- A chain of one operator: a first operand and at least one more. -/
def chain (mark : String) : Action := fun s vs =>
  yields (.phrase (Site.phrase s "BoolOp" "" (Phrase.mark mark :: partsOf vs [0, 1])))

/-- An operation on two operands, at the items `0` and `2`. -/
def binary (kind : String) : Action := fun s vs =>
  yields (.phrase (Site.phrase s "BinOp" ""
    (partsOf vs [0] ++ [Phrase.mark kind] ++ partsOf vs [2])))

/-- An operation on the operand at item `1`. -/
def unary (kind : String) : Action := fun s vs =>
  yields (.phrase (Site.phrase s "UnaryOp" "" (Phrase.mark kind :: partsOf vs [1])))

/-- A comparison operator with its right operand, at the given item. -/
def compared (kind : String) (operand : Nat) : Action := fun _ vs =>
  yields (.many [.phrase (Phrase.mark kind), arg vs operand])

/-- The first members of some pairs. -/
def firsts (v : Value) : List Phrase := v.items.flatMap fun p => (p.item 0).phrases

/-- The second members of some pairs. -/
def seconds (v : Value) : List Phrase := v.items.flatMap fun p => (p.item 1).phrases

/-- Arguments: those by position, and those by keyword.  A starred expression among keywords counts
as one by position. -/
def argumentGroups (positional keywords : List Phrase) : Value :=
  .many
    [ .many ((positional ++ keywords.filter fun p => p.kind == "Starred").map .phrase),
      .many ((keywords.filter fun p => p.kind != "Starred").map .phrase)]

/-- A part that always has a place in its kind: the parameters of an anonymous function. -/
def orNoParameters (ps : List Phrase) : List Phrase :=
  if ps.isEmpty then [Phrase.mark "arguments"] else ps

/-- One expression, or part of one. -/
def ExpressionRule.body : ExpressionRule → RuleBody Rule
  | .expressions => rule
    [ alt [expr .expression, .plus (seq [tok ",", expr .expression] 1), .opt (tok ",")]
        (used "Tuple" "Load" [0, 1]),
      alt [expr .expression, tok ","] (used "Tuple" "Load" [0]),
      just (expr .expression)]
  | .expression => kept
    [ mistake [wrong .expression],
      mistake [wrong .legacyExpression],
      alt [expr .disjunction, tok "if", expr .disjunction, tok "else", expr .expression]
        (node "IfExp" [2, 0, 4]),
      just (expr .disjunction),
      just (expr .lambdef)]
  | .yieldExpr => rule
    [ alt [tok "yield", tok "from", expr .expression] (node "YieldFrom" [2]),
      alt [tok "yield", .opt (expr .starExpressions)] (node "Yield" [1])]
  | .starExpressions => rule
    [ alt [expr .starExpression, .plus (seq [tok ",", expr .starExpression] 1), .opt (tok ",")]
        (used "Tuple" "Load" [0, 1]),
      alt [expr .starExpression, tok ","] (used "Tuple" "Load" [0]),
      just (expr .starExpression)]
  | .starExpression => kept
    [ alt [tok "*", expr .bitwiseOr] (used "Starred" "Load" [1]),
      just (expr .expression)]
  | .starNamedExpressions => rule
    [alt [.sep (tok ",") (expr .starNamedExpression), .opt (tok ",")] (pick 0)]
  | .starNamedExpression => rule
    [ alt [tok "*", expr .bitwiseOr] (used "Starred" "Load" [1]),
      just (expr .namedExpression)]
  | .assignmentExpression => rule
    [alt [tok "NAME", tok ":=", .cut, expr .expression] fun s vs =>
      yields (.phrase (Site.phrase s "NamedExpr" ""
        (nameOf "Store" (arg vs 0) :: partsOf vs [2])))]
  | .namedExpression => rule
    [ just (expr .assignmentExpression),
      mistake [wrong .namedExpression],
      alt [expr .expression, .notAhead (tok ":=")] (pick 0)]
  | .disjunction => kept
    [ alt [expr .conjunction, .plus (seq [tok "or", expr .conjunction] 1)] (chain "Or"),
      just (expr .conjunction)]
  | .conjunction => kept
    [ alt [expr .inversion, .plus (seq [tok "and", expr .inversion] 1)] (chain "And"),
      just (expr .inversion)]
  | .inversion => kept
    [ alt [tok "not", expr .inversion] (unary "Not"),
      just (expr .comparison)]
  | .comparison => rule
    [ alt [expr .bitwiseOr, .plus (expr .compareOpBitwiseOrPair)] fun s vs =>
        yields (.phrase (Site.phrase s "Compare" ""
          (partsOf vs [0] ++ firsts (arg vs 1) ++ seconds (arg vs 1)))),
      just (expr .bitwiseOr)]
  | .compareOpBitwiseOrPair => rule
    [ just (expr .eqBitwiseOr), just (expr .notEqBitwiseOr), just (expr .lteBitwiseOr),
      just (expr .ltBitwiseOr), just (expr .gteBitwiseOr), just (expr .gtBitwiseOr),
      just (expr .notInBitwiseOr), just (expr .inBitwiseOr), just (expr .isNotBitwiseOr),
      just (expr .isBitwiseOr)]
  | .eqBitwiseOr => rule [alt [tok "==", expr .bitwiseOr] (compared "Eq" 1)]
  | .notEqBitwiseOr => rule [alt [oneOf [tok "!="], expr .bitwiseOr] (compared "NotEq" 1)]
  | .lteBitwiseOr => rule [alt [tok "<=", expr .bitwiseOr] (compared "LtE" 1)]
  | .ltBitwiseOr => rule [alt [tok "<", expr .bitwiseOr] (compared "Lt" 1)]
  | .gteBitwiseOr => rule [alt [tok ">=", expr .bitwiseOr] (compared "GtE" 1)]
  | .gtBitwiseOr => rule [alt [tok ">", expr .bitwiseOr] (compared "Gt" 1)]
  | .notInBitwiseOr => rule
    [alt [tok "not", tok "in", expr .bitwiseOr] (compared "NotIn" 2)]
  | .inBitwiseOr => rule [alt [tok "in", expr .bitwiseOr] (compared "In" 1)]
  | .isNotBitwiseOr => rule
    [alt [tok "is", tok "not", expr .bitwiseOr] (compared "IsNot" 2)]
  | .isBitwiseOr => rule [alt [tok "is", expr .bitwiseOr] (compared "Is" 1)]
  | .bitwiseOr => leftRec
    [ alt [expr .bitwiseOr, tok "|", expr .bitwiseXor] (binary "BitOr"),
      just (expr .bitwiseXor)]
  | .bitwiseXor => leftRec
    [ alt [expr .bitwiseXor, tok "^", expr .bitwiseAnd] (binary "BitXor"),
      just (expr .bitwiseAnd)]
  | .bitwiseAnd => leftRec
    [ alt [expr .bitwiseAnd, tok "&", expr .shiftExpr] (binary "BitAnd"),
      just (expr .shiftExpr)]
  | .shiftExpr => leftRec
    [ alt [expr .shiftExpr, tok "<<", expr .sum] (binary "LShift"),
      alt [expr .shiftExpr, tok ">>", expr .sum] (binary "RShift"),
      just (expr .sum)]
  | .sum => leftRec
    [ alt [expr .sum, tok "+", expr .term] (binary "Add"),
      alt [expr .sum, tok "-", expr .term] (binary "Sub"),
      just (expr .term)]
  | .term => leftRec
    [ alt [expr .term, tok "*", expr .factor] (binary "Mult"),
      alt [expr .term, tok "/", expr .factor] (binary "Div"),
      alt [expr .term, tok "//", expr .factor] (binary "FloorDiv"),
      alt [expr .term, tok "%", expr .factor] (binary "Mod"),
      alt [expr .term, tok "@", expr .factor] (binary "MatMult"),
      just (expr .factor)]
  | .factor => kept
    [ alt [tok "+", expr .factor] (unary "UAdd"),
      alt [tok "-", expr .factor] (unary "USub"),
      alt [tok "~", expr .factor] (unary "Invert"),
      just (expr .power)]
  | .power => rule
    [ alt [expr .awaitPrimary, tok "**", expr .factor] (binary "Pow"),
      just (expr .awaitPrimary)]
  | .awaitPrimary => kept
    [ alt [tok "await", expr .primary] (node "Await" [1]),
      just (expr .primary)]
  | .primary => leftRec
    [ alt [expr .primary, tok ".", tok "NAME"] (used "Attribute" "Load" [0]),
      alt [expr .primary, expr .genExp] (node "Call" [0, 1]),
      alt [expr .primary, tok "(", .opt (expr .arguments), tok ")"] (node "Call" [0, 2]),
      alt [expr .primary, tok "[", expr .slices, tok "]"] (used "Subscript" "Load" [0, 2]),
      just (expr .atom)]
  | .slices => rule
    [ alt [expr .slice, .notAhead (tok ",")] (pick 0),
      alt [.sep (tok ",") (oneOf [expr .slice, expr .starredExpression]), .opt (tok ",")]
        (used "Tuple" "Load" [0])]
  | .slice => rule
    [ alt [.opt (expr .expression), tok ":", .opt (expr .expression),
          .opt (seq [tok ":", .opt (expr .expression)] 1)]
        (node "Slice" [0, 2, 3]),
      just (expr .namedExpression)]
  | .atom => rule
    [ alt [tok "NAME"] (asName 0 "Load"),
      alt [tok "True"] (constant "True"),
      alt [tok "False"] (constant "False"),
      alt [tok "None"] (constant "None"),
      alt [.ahead (tok "STRING"), expr .strings] (pick 1),
      alt [tok "NUMBER"] (numeral 0),
      alt [.ahead (tok "("), oneOf [expr .tuple, expr .group, expr .genExp]] (pick 1),
      alt [.ahead (tok "["), oneOf [expr .list, expr .listComp]] (pick 1),
      alt [.ahead (tok "\x7b"),
          oneOf [expr .dict, expr .set, expr .dictComp, expr .setComp]] (pick 1),
      alt [tok "..."] (constant "ellipsis")]
  | .group => rule
    [ alt [tok "(", oneOf [expr .yieldExpr, expr .namedExpression], tok ")"] (pick 1),
      mistake [wrong .group]]
  | .lambdef => rule
    [alt [tok "lambda", .opt (parm .lambdaParams), tok ":", expr .expression] fun s vs =>
      yields (.phrase (Site.phrase s "Lambda" ""
        (orNoParameters (partsOf vs [1]) ++ partsOf vs [3])))]
  | .strings => kept [alt [.plus (tok "STRING")] (stringLiterals 0)]
  | .list => rule
    [alt [tok "[", .opt (expr .starNamedExpressions), tok "]"] (used "List" "Load" [1])]
  | .tuple => rule
    [alt [tok "(",
        .opt (.group [alt [expr .starNamedExpression, tok ",", .opt (expr .starNamedExpressions)]
          together]),
        tok ")"]
      (used "Tuple" "Load" [1])]
  | .set => rule [alt [tok "\x7b", expr .starNamedExpressions, tok "\x7d"] (node "Set" [1])]
  | .dict => rule
    [ alt [tok "\x7b", .opt (expr .doubleStarredKvpairs), tok "\x7d"] fun s vs =>
        yields (.phrase (Site.phrase s "Dict" "" (firsts (arg vs 1) ++ seconds (arg vs 1)))),
      mistake [tok "\x7b", wrong .doubleStarredKvpairs, tok "\x7d"]]
  | .doubleStarredKvpairs => rule
    [alt [.sep (tok ",") (expr .doubleStarredKvpair), .opt (tok ",")] (pick 0)]
  | .doubleStarredKvpair => rule
    [ alt [tok "**", expr .bitwiseOr] fun _ vs => yields (.many [.nothing, arg vs 1]),
      just (expr .kvpair)]
  | .kvpair => rule
    [alt [expr .expression, tok ":", expr .expression] fun _ vs =>
      yields (.many [arg vs 0, arg vs 2])]
  | .forIfClauses => rule [just (.plus (expr .forIfClause))]
  | .forIfClause => rule
    [ alt [tok "async", tok "for", targ .starTargets, tok "in", .cut, expr .disjunction,
          .star (seq [tok "if", expr .disjunction] 1)]
        (bare "comprehension" [2, 4, 5]),
      alt [tok "for", targ .starTargets, tok "in", .cut, expr .disjunction,
          .star (seq [tok "if", expr .disjunction] 1)]
        (bare "comprehension" [1, 3, 4]),
      mistake [wrong .forTarget]]
  | .listComp => rule
    [ alt [tok "[", expr .namedExpression, expr .forIfClauses, tok "]"] (node "ListComp" [1, 2]),
      mistake [wrong .comprehension]]
  | .setComp => rule
    [ alt [tok "\x7b", expr .namedExpression, expr .forIfClauses, tok "\x7d"]
        (node "SetComp" [1, 2]),
      mistake [wrong .comprehension]]
  | .genExp => rule
    [ alt [tok "(", .group
            [ just (expr .assignmentExpression),
              alt [expr .expression, .notAhead (tok ":=")] (pick 0)],
          expr .forIfClauses, tok ")"]
        (node "GeneratorExp" [1, 2]),
      mistake [wrong .comprehension]]
  | .dictComp => rule
    [ alt [tok "\x7b", expr .kvpair, expr .forIfClauses, tok "\x7d"] (node "DictComp" [1, 2]),
      mistake [wrong .dictComprehension]]
  | .arguments => kept
    [ alt [expr .args, .opt (tok ","), .ahead (tok ")")] (pick 0),
      mistake [wrong .arguments]]
  | .args => rule
    [ alt [.sep (tok ",") (.group
            [ just (expr .starredExpression),
              alt [.group
                  [ just (expr .assignmentExpression),
                    alt [expr .expression, .notAhead (tok ":=")] (pick 0)],
                  .notAhead (tok "=")]
                (pick 0)]),
          .opt (seq [tok ",", expr .kwargs] 1)]
        fun _ vs => yields (argumentGroups (arg vs 0).phrases (arg vs 1).phrases),
      alt [expr .kwargs] fun _ vs => yields (argumentGroups [] (arg vs 0).phrases)]
  | .kwargs => rule
    [ alt [.sep (tok ",") (expr .kwargOrStarred), tok ",",
          .sep (tok ",") (expr .kwargOrDoubleStarred)]
        fun _ vs => yields (.many [arg vs 0, arg vs 2]),
      just (.sep (tok ",") (expr .kwargOrStarred)),
      just (.sep (tok ",") (expr .kwargOrDoubleStarred))]
  | .starredExpression => rule
    [alt [tok "*", expr .expression] (used "Starred" "Load" [1])]
  | .kwargOrStarred => rule
    [ mistake [wrong .kwarg],
      alt [tok "NAME", tok "=", expr .expression] (worded "keyword" 0 [2]),
      just (expr .starredExpression)]
  | .kwargOrDoubleStarred => rule
    [ mistake [wrong .kwarg],
      alt [tok "NAME", tok "=", expr .expression] (worded "keyword" 0 [2]),
      alt [tok "**", expr .expression] (node "keyword" [1])]
  | .expressionWithoutMistakes =>
    { alternatives :=
        [ alt [expr .disjunction, tok "if", expr .disjunction, tok "else", expr .expression]
            (node "IfExp" [2, 0, 4]),
          just (expr .disjunction),
          just (expr .lambdef)]
      quiet := true }

end Enclosure.Abstract
