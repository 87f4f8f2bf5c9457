import Enclosure.Abstract.Build

/-!
# Mistakes

Rules that match wrong text in order to say what is wrong with it.  They are tried only after the
text has been found to be wrong.

What is here:

* `MistakeRule.body`.
-/

set_option autoImplicit false

namespace Enclosure.Abstract

/-- Whether a phrase is the name of a former statement. -/
def isFormerStatement (p : Phrase) : Bool :=
  p.kind == "Name" && (p.word == "print" || p.word == "exec")

/-- The first phrase of the `i`-th item. -/
def phraseAt (vs : List Value) (i : Nat) : Phrase :=
  ((arg vs i).phrases.head?).getD (Phrase.mark "")

/-- Report a mistake for the line of the `i`-th item, which the message describes. -/
def objectTo (i : Nat) (before after : String) : Action := fun _ vs =>
  let p := phraseAt vs i
  object p.firstLine (before ++ p.describe ++ after)

/-- A soft keyword. -/
def softKeyword : Item Rule := oneOf [.soft "_", .soft "case", .soft "match"]

/-- A generator expression next to other arguments needs brackets of its own. -/
def bareGenerator : Action := fun _ vs =>
  let positional := ((arg vs 0).item 0).phrases
  if positional.length ≤ 1 then .ok none
  else
    object ((positional.getLast?.map Phrase.firstLine).getD 0)
          "Generator expression must be parenthesized"

/-- The members of `with` heads, without and with brackets around them. -/
def withHead (bracketed : Bool) : List (Item Rule) :=
  let member := fun (e : ExpressionRule) =>
    Item.group [alt [expr e, .opt (seq [tok "as", targ .starTarget] 1)] (pick 0)]
  if bracketed then
    [.opt (tok "async"), tok "with", tok "(", .sep (tok ",") (member .expressions), .opt (tok ","),
      tok ")"]
  else [.opt (tok "async"), tok "with", .sep (tok ",") (member .expression)]

/-- A parameter list with a mistake; `one` is a parameter without default, `close` is the bracket or
colon that ends the list. -/
def parameterMistakes (noDefault maybeDefault slashNoDefault slashWithDefault helper : Item Rule)
    (inBrackets : Item Rule) (kind : String) : List (Alternative Rule) :=
  let slashed := oneOf [slashNoDefault, slashWithDefault]
  [ alt [.star noDefault, helper, noDefault]
      (objectAt 2 "non-default argument follows default argument"),
    alt [.star noDefault, tok "(", inBrackets, .opt (tok ","), tok ")"]
      (objectAt 1 s!"{kind} parameters cannot be parenthesized"),
    alt [tok "/", tok ","] (objectAt 0 "at least one argument must precede /"),
    alt [slashed, .star maybeDefault, tok "/"] (objectAt 2 "/ may appear only once"),
    alt [.opt slashed, .star maybeDefault, tok "*", oneOf [tok ",", noDefault],
        .star maybeDefault, tok "/"]
      (objectAt 5 "/ must be ahead of *"),
    alt [.plus maybeDefault, tok "/", tok "*"] (objectAt 2 "expected comma between / and *")]

/-- The alternatives for what follows a double star and must not. -/
def doubleStarMistakes (one : Item Rule) : List (Alternative Rule) :=
  [ alt [tok "**", one, tok "="] (objectAt 2 "var-keyword argument cannot have default value"),
    alt [tok "**", one, tok ",", one]
      (objectAt 3 "arguments cannot follow var-keyword argument"),
    alt [tok "**", one, tok ",", oneOf [tok "*", tok "**", tok "/"]]
      (objectAt 3 "arguments cannot follow var-keyword argument")]

/-- One kind of mistake. -/
def MistakeRule.body : MistakeRule → RuleBody Rule
  | .arguments => rule
    [ alt [expr .args, tok ",", tok "*"] fun s _ =>
        object (s.first)
          "iterable argument unpacking follows keyword argument unpacking",
      alt [expr .expression, expr .forIfClauses, tok ",",
          .opt (oneOf [expr .args,
            .group [alt [expr .expression, expr .forIfClauses] (pick 0)]])]
        (objectAt 0 "Generator expression must be parenthesized"),
      alt [tok "NAME", tok "=", expr .expression, expr .forIfClauses]
        (objectAt 0 "invalid syntax. Maybe you meant '==' or ':=' instead of '='?"),
      alt [expr .args, expr .forIfClauses] bareGenerator,
      alt [expr .args, tok ",", expr .expression, expr .forIfClauses]
        (objectAt 2 "Generator expression must be parenthesized"),
      alt [expr .args, tok ",", expr .args] fun s vs =>
        let unpacks := ((arg vs 0).item 1).phrases.any fun k => k.word == ""
        let what := if unpacks then "keyword argument unpacking" else "keyword argument"
        object (s.reached)
          s!"positional argument follows {what}"]
  | .kwarg => rule
    [ alt [oneOf [tok "True", tok "False", tok "None"], tok "="] fun _ vs =>
        object ((arg vs 0).line)
          s!"cannot assign to {wordOf (arg vs 0)}",
      alt [tok "NAME", tok "=", expr .expression, expr .forIfClauses]
        (objectAt 0 "invalid syntax. Maybe you meant '==' or ':=' instead of '='?"),
      alt [.notAhead (.group [alt [tok "NAME", tok "="] (pick 0)]), expr .expression, tok "="]
        (objectAt 1 "expression cannot contain assignment, perhaps you meant \"==\"?")]
  | .legacyExpression => rule
    [alt [tok "NAME", .notAhead (tok "("), expr .starExpressions] fun _ vs =>
      let word := wordOf (arg vs 0)
      if word == "print" || word == "exec" then
        object ((arg vs 0).line)
          s!"Missing parentheses in call to '{word}'. Did you mean {word}(...)?"
      else .ok none]
  | .expression => rule
    [ alt [.notAhead (.group
            [alt [tok "NAME", tok "STRING"] (pick 0), just softKeyword]),
          expr .disjunction, expr .expressionWithoutMistakes] fun s vs =>
        if isFormerStatement (phraseAt vs 1) || s.depth == 0 then .ok none
        else
          object ((phraseAt vs 1).firstLine)
          "invalid syntax. Perhaps you forgot a comma?",
      alt [expr .disjunction, tok "if", expr .disjunction,
          .notAhead (oneOf [tok "else", tok ":"])]
        (objectAt 0 "expected 'else' after 'if' expression")]
  | .namedExpression => kept
    [ alt [expr .expression, tok ":=", expr .expression]
        (objectTo 0 "cannot use assignment expressions with " ""),
      alt [tok "NAME", tok "=", expr .bitwiseOr, .notAhead (oneOf [tok "=", tok ":="])]
        (objectAt 0 "invalid syntax. Maybe you meant '==' or ':=' instead of '='?"),
      alt [.notAhead (oneOf [expr .list, expr .tuple, expr .genExp, tok "True", tok "None",
            tok "False"]),
          expr .bitwiseOr, tok "=", expr .bitwiseOr, .notAhead (oneOf [tok "=", tok ":="])]
        (objectTo 1 "cannot assign to " " here. Maybe you meant '==' instead of '='?")]
  | .assignment => rule
    [ alt [wrong .annAssignTarget, tok ":", expr .expression] fun _ vs =>
        let p := phraseAt vs 0
        object (p.firstLine)
          s!"only single target (not {p.describe}) can be annotated",
      alt [expr .starNamedExpression, tok ",", .star (expr .starNamedExpressions), tok ":",
          expr .expression]
        (objectAt 0 "only single target (not tuple) can be annotated"),
      alt [expr .expression, tok ":", expr .expression]
        (objectAt 0 "illegal target for annotation"),
      alt [.star (seq [targ .starTargets, tok "="] 0), expr .starExpressions, tok "="]
        (objectToTarget 1 .assigned),
      alt [.star (seq [targ .starTargets, tok "="] 0), expr .yieldExpr, tok "="]
        (objectAt 1 "assignment to yield expression not possible"),
      alt [expr .starExpressions, stmt .augAssign,
          oneOf [expr .yieldExpr, expr .starExpressions]] fun _ vs =>
        let p := phraseAt vs 0
        object (p.firstLine)
          s!"'{p.describe}' is an illegal expression for augmented assignment"]
  | .annAssignTarget => rule
    [ just (expr .list),
      just (expr .tuple),
      alt [tok "(", wrong .annAssignTarget, tok ")"] (pick 1)]
  | .delStmt => rule [alt [tok "del", expr .starExpressions] (objectToTarget 1 .deleted)]
  | .block => rule
    [alt [tok "NEWLINE", .notAhead (tok "INDENT")] (objectHere "expected an indented block")]
  | .comprehension => rule
    [ alt [oneOf [tok "[", tok "(", tok "\x7b"], expr .starredExpression, expr .forIfClauses]
        (objectAt 1 "iterable unpacking cannot be used in comprehension"),
      alt [oneOf [tok "[", tok "\x7b"], expr .starNamedExpression, tok ",",
          expr .starNamedExpressions, expr .forIfClauses]
        (objectAt 1 "did you forget parentheses around the comprehension target?"),
      alt [oneOf [tok "[", tok "\x7b"], expr .starNamedExpression, tok ",", expr .forIfClauses]
        (objectAt 1 "did you forget parentheses around the comprehension target?")]
  | .dictComprehension => rule
    [alt [tok "\x7b", tok "**", expr .bitwiseOr, expr .forIfClauses, tok "\x7d"]
      (objectAt 1 "dict unpacking cannot be used in dict comprehension")]
  | .parameters => rule
    (parameterMistakes (parm .paramNoDefault) (parm .paramMaybeDefault) (parm .slashNoDefault)
      (parm .slashWithDefault) (wrong .parametersHelper) (.plus (parm .paramNoDefault)) "Function")
  | .parametersHelper => rule
    [just (parm .slashWithDefault), just (.plus (parm .paramWithDefault))]
  | .default => rule
    [alt [tok "=", .ahead (oneOf [tok ")", tok ","])]
      (objectAt 0 "expected default value expression")]
  | .starEtc => rule
    [ alt [tok "*", oneOf [tok ")",
          .group [alt [tok ",", oneOf [tok ")", tok "**"]] (pick 0)]]]
        (objectAt 0 "named arguments must follow bare *"),
      alt [tok "*", parm .param, tok "="]
        (objectAt 2 "var-positional argument cannot have default value"),
      alt [tok "*", oneOf [parm .paramNoDefault, tok ","], .star (parm .paramMaybeDefault),
          tok "*", oneOf [parm .paramNoDefault, tok ","]]
        (objectAt 3 "* argument may appear only once")]
  | .kwds => rule (doubleStarMistakes (parm .param))
  | .lambdaParameters => rule
    (parameterMistakes (parm .lambdaParamNoDefault) (parm .lambdaParamMaybeDefault)
      (parm .lambdaSlashNoDefault) (parm .lambdaSlashWithDefault)
      (wrong .lambdaParametersHelper) (.sep (tok ",") (parm .lambdaParam)) "Lambda expression")
  | .lambdaParametersHelper => rule
    [just (parm .lambdaSlashWithDefault), just (.plus (parm .lambdaParamWithDefault))]
  | .lambdaStarEtc => rule
    [ alt [tok "*", oneOf [tok ":",
          .group [alt [tok ",", oneOf [tok ":", tok "**"]] (pick 0)]]]
        (objectHere "named arguments must follow bare *"),
      alt [tok "*", parm .lambdaParam, tok "="]
        (objectAt 2 "var-positional argument cannot have default value"),
      alt [tok "*", oneOf [parm .lambdaParamNoDefault, tok ","],
          .star (parm .lambdaParamMaybeDefault), tok "*",
          oneOf [parm .lambdaParamNoDefault, tok ","]]
        (objectAt 3 "* argument may appear only once")]
  | .lambdaKwds => rule (doubleStarMistakes (parm .lambdaParam))
  | .withItem => rule
    [alt [expr .expression, tok "as", expr .expression,
        .ahead (oneOf [tok ",", tok ")", tok ":"])]
      (objectToTarget 2 .assigned)]
  | .forTarget => rule
    [alt [.opt (tok "async"), tok "for", expr .starExpressions] (objectToTarget 2 .looped)]
  | .group => rule
    [ alt [tok "(", expr .starredExpression, tok ")"]
        (objectAt 1 "cannot use starred expression here"),
      alt [tok "(", tok "**", expr .expression, tok ")"]
        (objectAt 1 "cannot use double starred expression here")]
  | .importFromTargets => rule
    [alt [stmt .importFromAsNames, tok ",", tok "NEWLINE"]
      (objectHere "trailing comma not allowed without surrounding parentheses")]
  | .withStmt => rule
    [ alt (withHead false ++ [tok "NEWLINE"]) (objectHere "expected ':'"),
      alt (withHead true ++ [tok "NEWLINE"]) (objectHere "expected ':'")]
  | .withStmtIndent => rule
    [ alt (withHead false ++ [tok ":", tok "NEWLINE", .notAhead (tok "INDENT")])
        (missingBlock "'with' statement" 1),
      alt (withHead true ++ [tok ":", tok "NEWLINE", .notAhead (tok "INDENT")])
        (missingBlock "'with' statement" 1)]
  | .tryStmt => rule
    [ alt [tok "try", tok ":", tok "NEWLINE", .notAhead (tok "INDENT")]
        (missingBlock "'try' statement" 0),
      alt [tok "try", tok ":", stmt .block, .notAhead (oneOf [tok "except", tok "finally"])]
        (objectHere "expected 'except' or 'finally' block"),
      alt [tok "try", tok ":", .star (stmt .block), .group
            [ alt [.plus (stmt .exceptBlock), stmt .exceptStarBlock] (pick 0),
              alt [.plus (stmt .exceptStarBlock), stmt .exceptBlock] (pick 0)],
          .star (stmt .block)]
        (objectHere "cannot have both 'except' and 'except*' on the same 'try'")]
  | .exceptStmt => rule
    [ alt [tok "except", .opt (tok "*"), expr .expression, tok ",", expr .expressions,
          .opt (seq [tok "as", tok "NAME"] 1), tok ":"]
        (objectAt 2 "multiple exception types must be parenthesized"),
      alt [tok "except", .opt (tok "*"), expr .expression, .opt (seq [tok "as", tok "NAME"] 1),
          tok "NEWLINE"]
        (objectHere "expected ':'"),
      alt [tok "except", tok "NEWLINE"] (objectHere "expected ':'"),
      alt [tok "except", tok "*", oneOf [tok "NEWLINE", tok ":"]]
        (objectHere "expected one or more exception types")]
  | .finallyStmt => rule
    [alt [tok "finally", tok ":", tok "NEWLINE", .notAhead (tok "INDENT")]
      (missingBlock "'finally' statement" 0)]
  | .exceptStmtIndent => rule
    [ alt [tok "except", expr .expression, .opt (seq [tok "as", tok "NAME"] 1), tok ":",
          tok "NEWLINE", .notAhead (tok "INDENT")]
        (missingBlock "'except' statement" 0),
      alt [tok "except", tok ":", tok "NEWLINE", .notAhead (tok "INDENT")]
        (missingBlock "'except' statement" 0)]
  | .exceptStarStmtIndent => rule
    [alt [tok "except", tok "*", expr .expression, .opt (seq [tok "as", tok "NAME"] 1), tok ":",
        tok "NEWLINE", .notAhead (tok "INDENT")]
      (missingBlock "'except*' statement" 0)]
  | .matchStmt => rule
    [ alt [.soft "match", stmt .subjectExpr, tok "NEWLINE"] (objectHere "expected ':'"),
      alt [.soft "match", stmt .subjectExpr, tok ":", tok "NEWLINE", .notAhead (tok "INDENT")]
        (missingBlock "'match' statement" 0)]
  | .caseBlock => rule
    [ alt [.soft "case", patt .patterns, .opt (stmt .guard), tok "NEWLINE"]
        (objectHere "expected ':'"),
      alt [.soft "case", patt .patterns, .opt (stmt .guard), tok ":", tok "NEWLINE",
          .notAhead (tok "INDENT")]
        (missingBlock "'case' statement" 0)]
  | .asPattern => rule
    [ alt [patt .orPattern, tok "as", .soft "_"] (objectAt 2 "cannot use '_' as a target"),
      alt [patt .orPattern, tok "as", .notAhead (tok "NAME"), expr .expression]
        (objectAt 3 "invalid pattern target")]
  | .classPattern => rule
    [alt [patt .nameOrAttr, tok "(", wrong .classArgumentPattern] fun _ vs =>
      object ((phraseAt vs 2).firstLine)
          "positional patterns follow keyword patterns"]
  | .classArgumentPattern => rule
    [alt [.opt (seq [patt .positionalPatterns, tok ","] 0), patt .keywordPatterns, tok ",",
        patt .positionalPatterns]
      (pick 3)]
  | .ifStmt => rule
    [ alt [tok "if", expr .namedExpression, tok "NEWLINE"] (objectHere "expected ':'"),
      alt [tok "if", expr .namedExpression, tok ":", tok "NEWLINE", .notAhead (tok "INDENT")]
        (missingBlock "'if' statement" 0)]
  | .elifStmt => rule
    [ alt [tok "elif", expr .namedExpression, tok "NEWLINE"] (objectHere "expected ':'"),
      alt [tok "elif", expr .namedExpression, tok ":", tok "NEWLINE", .notAhead (tok "INDENT")]
        (missingBlock "'elif' statement" 0)]
  | .elseStmt => rule
    [alt [tok "else", tok ":", tok "NEWLINE", .notAhead (tok "INDENT")]
      (missingBlock "'else' statement" 0)]
  | .whileStmt => rule
    [ alt [tok "while", expr .namedExpression, tok "NEWLINE"] (objectHere "expected ':'"),
      alt [tok "while", expr .namedExpression, tok ":", tok "NEWLINE", .notAhead (tok "INDENT")]
        (missingBlock "'while' statement" 0)]
  | .forStmt => rule
    [ alt [.opt (tok "async"), tok "for", targ .starTargets, tok "in", expr .starExpressions,
          tok "NEWLINE"]
        (objectHere "expected ':'"),
      alt [.opt (tok "async"), tok "for", targ .starTargets, tok "in", expr .starExpressions,
          tok ":", tok "NEWLINE", .notAhead (tok "INDENT")]
        (missingBlock "'for' statement" 1)]
  | .defRaw => rule
    [alt [.opt (tok "async"), tok "def", tok "NAME", tok "(", .opt (parm .params), tok ")",
        .opt (seq [tok "->", expr .expression] 1), tok ":", tok "NEWLINE",
        .notAhead (tok "INDENT")]
      (missingBlock "function definition" 1)]
  | .classDefRaw => rule
    [ alt [tok "class", tok "NAME", .opt (seq [tok "(", .opt (expr .arguments), tok ")"] 1),
          tok "NEWLINE"]
        (objectHere "expected ':'"),
      alt [tok "class", tok "NAME", .opt (seq [tok "(", .opt (expr .arguments), tok ")"] 1),
          tok ":", tok "NEWLINE", .notAhead (tok "INDENT")]
        (missingBlock "class definition" 0)]
  | .doubleStarredKvpairs => rule
    [ alt [.sep (tok ",") (expr .doubleStarredKvpair), tok ",", wrong .kvpair] (pick 2),
      alt [expr .expression, tok ":", tok "*", expr .bitwiseOr]
        (objectAt 2 "cannot use a starred expression in a dictionary value"),
      alt [expr .expression, tok ":", .ahead (oneOf [tok "\x7d", tok ","])]
        (objectAt 1 "expression expected after dictionary key and ':'")]
  | .kvpair => rule
    [ alt [expr .expression, .notAhead (tok ":")]
        (objectAt 0 "':' expected after dictionary key"),
      alt [expr .expression, tok ":", tok "*", expr .bitwiseOr]
        (objectAt 2 "cannot use a starred expression in a dictionary value"),
      alt [expr .expression, tok ":", .ahead (oneOf [tok "\x7d", tok ","])]
        (objectAt 1 "expression expected after dictionary key and ':'")]


end Enclosure.Abstract
