import Enclosure.Abstract.Build

/-!
# Statements

The rules for whole texts, simple and compound statements.  Parts of a phrase stand in the order in
which its kind lists them, so the decorators of a function come after its body and before what it
returns, and the block after `else` follows all handlers.

What is here:

* `StatementRule.body`.
-/

set_option autoImplicit false

namespace Enclosure.Abstract

/-- The definition with its decorators in place: the value of a bare function definition is the
phrase without what it returns, and that. -/
def decorated (s : List Phrase) : Value → Value
  | .many [.phrase p, returns] => .phrase (p.withParts (p.parts ++ s ++ returns.phrases))
  | .phrase p => .phrase (p.withParts (p.parts ++ s))
  | v => v

/-- A function definition of the given kind; the items name, parameters, result and block stand at
the given places. -/
def functionNode (kind : String) (name params returns block : Nat) : Action := fun s vs =>
  let parameters := match (arg vs params).phrases with
    | [] => [Phrase.mk "arguments" none "" []]
    | ps => ps
  yields (.many
    [.phrase (Site.phrase s kind (wordOf (arg vs name)) (parameters ++ partsOf vs [block])),
      arg vs returns])

/-- An operator mark of an augmented assignment. -/
def operator (mark kind : String) : Alternative Rule :=
  alt [tok mark] fun _ _ => yields (.phrase (Phrase.mark kind))

/-- An imported name, with the name it gets if it gets another. -/
def aliasNode (name : Nat) : Action := fun s vs =>
  yields (.phrase (Site.phrase s "alias" (wordOf (arg vs name)) []))

/-- One or more statements in a row. -/
def StatementRule.body : StatementRule → RuleBody Rule
  | .file => rule [alt [.opt (stmt .statements), tok "ENDMARKER"] (bare "Module" [0])]
  | .embedded => rule [just (expr .starExpressions)]
  | .statements => rule [alt [.plus (stmt .statement)] (pick 0)]
  | .statement => rule [just (stmt .compoundStmt), just (stmt .simpleStmts)]
  | .simpleStmts => rule
    [ alt [stmt .simpleStmt, .notAhead (tok ";"), tok "NEWLINE"] (pick 0),
      alt [.sep (tok ";") (stmt .simpleStmt), .opt (tok ";"), tok "NEWLINE"] (pick 0)]
  | .simpleStmt => kept
    [ just (stmt .assignment),
      alt [expr .starExpressions] (node "Expr" [0]),
      alt [.ahead (tok "return"), stmt .returnStmt] (pick 1),
      alt [.ahead (oneOf [tok "import", tok "from"]), stmt .importStmt] (pick 1),
      alt [.ahead (tok "raise"), stmt .raiseStmt] (pick 1),
      alt [tok "pass"] (node "Pass" []),
      alt [.ahead (tok "del"), stmt .delStmt] (pick 1),
      alt [.ahead (tok "yield"), stmt .yieldStmt] (pick 1),
      alt [.ahead (tok "assert"), stmt .assertStmt] (pick 1),
      alt [tok "break"] (node "Break" []),
      alt [tok "continue"] (node "Continue" []),
      alt [.ahead (tok "global"), stmt .globalStmt] (pick 1),
      alt [.ahead (tok "nonlocal"), stmt .nonlocalStmt] (pick 1)]
  | .compoundStmt => rule
    [ alt [.ahead (oneOf [tok "def", tok "@", tok "async"]), stmt .functionDef] (pick 1),
      alt [.ahead (tok "if"), stmt .ifStmt] (pick 1),
      alt [.ahead (oneOf [tok "class", tok "@"]), stmt .classDef] (pick 1),
      alt [.ahead (oneOf [tok "with", tok "async"]), stmt .withStmt] (pick 1),
      alt [.ahead (oneOf [tok "for", tok "async"]), stmt .forStmt] (pick 1),
      alt [.ahead (tok "try"), stmt .tryStmt] (pick 1),
      alt [.ahead (tok "while"), stmt .whileStmt] (pick 1),
      just (stmt .matchStmt)]
  | .assignment => rule
    [ alt [tok "NAME", tok ":", expr .expression, .opt (seq [tok "=", stmt .annotatedRhs] 1)]
        fun s vs => yields (.phrase (Site.phrase s "AnnAssign" ""
          (nameOf "Store" (arg vs 0) :: partsOf vs [2, 3]))),
      alt [.group
            [ alt [tok "(", targ .singleTarget, tok ")"] (pick 1),
              just (targ .singleSubscriptAttributeTarget)],
          tok ":", expr .expression, .opt (seq [tok "=", stmt .annotatedRhs] 1)]
        (node "AnnAssign" [0, 2, 3]),
      alt [.plus (seq [targ .starTargets, tok "="] 0),
          oneOf [expr .yieldExpr, expr .starExpressions], .notAhead (tok "=")]
        (node "Assign" [0, 1]),
      alt [targ .singleTarget, stmt .augAssign, .cut,
          oneOf [expr .yieldExpr, expr .starExpressions]]
        (node "AugAssign" [0, 1, 2]),
      mistake [wrong .assignment]]
  | .annotatedRhs => rule [just (expr .yieldExpr), just (expr .starExpressions)]
  | .augAssign => rule
    [ operator "+=" "Add", operator "-=" "Sub", operator "*=" "Mult", operator "@=" "MatMult",
      operator "/=" "Div", operator "%=" "Mod", operator "&=" "BitAnd", operator "|=" "BitOr",
      operator "^=" "BitXor", operator "<<=" "LShift", operator ">>=" "RShift",
      operator "**=" "Pow", operator "//=" "FloorDiv"]
  | .returnStmt => rule [alt [tok "return", .opt (expr .starExpressions)] (node "Return" [1])]
  | .raiseStmt => rule
    [ alt [tok "raise", expr .expression, .opt (seq [tok "from", expr .expression] 1)]
        (node "Raise" [1, 2]),
      alt [tok "raise"] (node "Raise" [])]
  | .globalStmt => rule [alt [tok "global", .sep (tok ",") (tok "NAME")] (node "Global" [])]
  | .nonlocalStmt => rule [alt [tok "nonlocal", .sep (tok ",") (tok "NAME")] (node "Nonlocal" [])]
  | .delStmt => rule
    [ alt [tok "del", targ .delTargets, .ahead (oneOf [tok ";", tok "NEWLINE"])]
        (node "Delete" [1]),
      mistake [wrong .delStmt]]
  | .yieldStmt => rule [alt [expr .yieldExpr] (node "Expr" [0])]
  | .assertStmt => rule
    [alt [tok "assert", expr .expression, .opt (seq [tok ",", expr .expression] 1)]
      (node "Assert" [1, 2])]
  | .importStmt => rule [just (stmt .importName), just (stmt .importFrom)]
  | .importName => rule [alt [tok "import", stmt .dottedAsNames] (node "Import" [1])]
  | .importFrom => rule
    [ alt [tok "from", .star (oneOf [tok ".", tok "..."]), stmt .dottedName, tok "import",
          stmt .importFromTargets]
        (node "ImportFrom" [4]),
      alt [tok "from", .plus (oneOf [tok ".", tok "..."]), tok "import", stmt .importFromTargets]
        (node "ImportFrom" [3])]
  | .importFromTargets => rule
    [ alt [tok "(", stmt .importFromAsNames, .opt (tok ","), tok ")"] (pick 1),
      alt [stmt .importFromAsNames, .notAhead (tok ",")] (pick 0),
      alt [tok "*"] (aliasNode 0),
      mistake [wrong .importFromTargets]]
  | .importFromAsNames => rule [just (.sep (tok ",") (stmt .importFromAsName))]
  | .importFromAsName => rule
    [alt [tok "NAME", .opt (seq [tok "as", tok "NAME"] 1)] (aliasNode 0)]
  | .dottedAsNames => rule [just (.sep (tok ",") (stmt .dottedAsName))]
  | .dottedAsName => rule
    [alt [stmt .dottedName, .opt (seq [tok "as", tok "NAME"] 1)] (aliasNode 0)]
  | .dottedName => leftRec
    [ alt [stmt .dottedName, tok ".", tok "NAME"] fun s vs =>
        yields (.phrase (Site.phrase s "Name" (wordOf (arg vs 0) ++ "." ++ wordOf (arg vs 2)) [])),
      alt [tok "NAME"] (asName 0 "Load")]
  | .block => kept
    [ alt [tok "NEWLINE", tok "INDENT", stmt .statements, tok "DEDENT"] (pick 2),
      just (stmt .simpleStmts),
      mistake [wrong .block]]
  | .decorators => rule
    [just (.plus (seq [tok "@", expr .namedExpression, tok "NEWLINE"] 1))]
  | .classDef => rule
    [ alt [stmt .decorators, stmt .classDefRaw] fun _ vs =>
        yields (decorated (arg vs 0).phrases (arg vs 1)),
      just (stmt .classDefRaw)]
  | .classDefRaw => rule
    [ mistake [wrong .classDefRaw],
      alt [tok "class", tok "NAME", .opt (seq [tok "(", .opt (expr .arguments), tok ")"] 1),
          tok ":", stmt .block]
        (worded "ClassDef" 1 [2, 4])]
  | .functionDef => rule
    [ alt [stmt .decorators, stmt .functionDefRaw] fun _ vs =>
        yields (decorated (arg vs 0).phrases (arg vs 1)),
      alt [stmt .functionDefRaw] fun _ vs => yields (decorated [] (arg vs 0))]
  | .functionDefRaw => rule
    [ mistake [wrong .defRaw],
      alt [tok "def", tok "NAME", .must "(", .opt (parm .params), tok ")",
          .opt (seq [tok "->", expr .expression] 1), .must ":", stmt .block]
        (functionNode "FunctionDef" 1 3 5 7),
      alt [tok "async", tok "def", tok "NAME", .must "(", .opt (parm .params), tok ")",
          .opt (seq [tok "->", expr .expression] 1), .must ":", stmt .block]
        (functionNode "AsyncFunctionDef" 2 4 6 8)]
  | .ifStmt => rule
    [ mistake [wrong .ifStmt],
      alt [tok "if", expr .namedExpression, tok ":", stmt .block, stmt .elifStmt]
        (node "If" [1, 3, 4]),
      alt [tok "if", expr .namedExpression, tok ":", stmt .block, .opt (stmt .elseBlock)]
        (node "If" [1, 3, 4])]
  | .elifStmt => rule
    [ mistake [wrong .elifStmt],
      alt [tok "elif", expr .namedExpression, tok ":", stmt .block, stmt .elifStmt]
        (node "If" [1, 3, 4]),
      alt [tok "elif", expr .namedExpression, tok ":", stmt .block, .opt (stmt .elseBlock)]
        (node "If" [1, 3, 4])]
  | .elseBlock => rule
    [ mistake [wrong .elseStmt],
      alt [tok "else", .must ":", stmt .block] (pick 2)]
  | .whileStmt => rule
    [ mistake [wrong .whileStmt],
      alt [tok "while", expr .namedExpression, tok ":", stmt .block, .opt (stmt .elseBlock)]
        (node "While" [1, 3, 4])]
  | .forStmt => rule
    [ mistake [wrong .forStmt],
      alt [tok "for", targ .starTargets, tok "in", .cut, expr .starExpressions, tok ":",
          stmt .block, .opt (stmt .elseBlock)]
        (node "For" [1, 3, 5, 6]),
      alt [tok "async", tok "for", targ .starTargets, tok "in", .cut, expr .starExpressions,
          tok ":", stmt .block, .opt (stmt .elseBlock)]
        (node "AsyncFor" [2, 4, 6, 7]),
      mistake [wrong .forTarget]]
  | .withStmt => rule
    [ mistake [wrong .withStmtIndent],
      alt [tok "with", tok "(", .sep (tok ",") (stmt .withItem), .opt (tok ","), tok ")", tok ":",
          stmt .block]
        (node "With" [2, 6]),
      alt [tok "with", .sep (tok ",") (stmt .withItem), tok ":", stmt .block]
        (node "With" [1, 3]),
      alt [tok "async", tok "with", tok "(", .sep (tok ",") (stmt .withItem), .opt (tok ","),
          tok ")", tok ":", stmt .block]
        (node "AsyncWith" [3, 7]),
      alt [tok "async", tok "with", .sep (tok ",") (stmt .withItem), tok ":", stmt .block]
        (node "AsyncWith" [2, 4]),
      mistake [wrong .withStmt]]
  | .withItem => rule
    [ alt [expr .expression, tok "as", targ .starTarget,
          .ahead (oneOf [tok ",", tok ")", tok ":"])]
        (bare "withitem" [0, 2]),
      mistake [wrong .withItem],
      alt [expr .expression] (bare "withitem" [0])]
  | .tryStmt => rule
    [ mistake [wrong .tryStmt],
      alt [tok "try", .must ":", stmt .block, stmt .finallyBlock] (node "Try" [2, 3]),
      alt [tok "try", .must ":", stmt .block, .plus (stmt .exceptBlock), .opt (stmt .elseBlock),
          .opt (stmt .finallyBlock)]
        (node "Try" [2, 3, 4, 5]),
      alt [tok "try", .must ":", stmt .block, .plus (stmt .exceptStarBlock),
          .opt (stmt .elseBlock), .opt (stmt .finallyBlock)]
        (node "TryStar" [2, 3, 4, 5])]
  | .exceptBlock => rule
    [ mistake [wrong .exceptStmtIndent],
      alt [tok "except", expr .expression, .opt (seq [tok "as", tok "NAME"] 1), tok ":",
          stmt .block]
        (worded "ExceptHandler" 2 [1, 4]),
      alt [tok "except", tok ":", stmt .block] (node "ExceptHandler" [2]),
      mistake [wrong .exceptStmt]]
  | .exceptStarBlock => rule
    [ mistake [wrong .exceptStarStmtIndent],
      alt [tok "except", tok "*", expr .expression, .opt (seq [tok "as", tok "NAME"] 1), tok ":",
          stmt .block]
        (worded "ExceptHandler" 3 [2, 5]),
      mistake [wrong .exceptStmt]]
  | .finallyBlock => rule
    [ mistake [wrong .finallyStmt],
      alt [tok "finally", .must ":", stmt .block] (pick 2)]
  | .matchStmt => rule
    [ alt [.soft "match", stmt .subjectExpr, tok ":", tok "NEWLINE", tok "INDENT",
          .plus (stmt .caseBlock), tok "DEDENT"]
        (node "Match" [1, 5]),
      mistake [wrong .matchStmt]]
  | .subjectExpr => rule
    [ alt [expr .starNamedExpression, tok ",", .opt (expr .starNamedExpressions)]
        (used "Tuple" "Load" [0, 2]),
      just (expr .namedExpression)]
  | .caseBlock => rule
    [ mistake [wrong .caseBlock],
      alt [.soft "case", patt .patterns, .opt (stmt .guard), tok ":", stmt .block]
        (bare "match_case" [1, 2, 4])]
  | .guard => rule [alt [tok "if", expr .namedExpression] (pick 1)]

end Enclosure.Abstract
