import Enclosure.Abstract.Build
import Enclosure.Abstract.Literal

/-!
# Patterns

The patterns of the cases of a match statement.

What is here:

* `PatternRule.body`.
-/

set_option autoImplicit false

namespace Enclosure.Abstract

/-- The phrase for a single key word. -/
def singleton : Action := node "MatchSingleton" []

/-- The patterns of a mapping: its keys, the patterns they go with. -/
def mappingNode (items : Option Nat) : Action := fun s vs =>
  let pairs := ((items.map (arg vs)).getD .nothing).items
  yields (.phrase (Site.phrase s "MatchMapping" ""
    (pairs.flatMap (fun p => (p.item 0).phrases) ++ pairs.flatMap fun p => (p.item 1).phrases)))

/-- The patterns of a class: the class, the patterns by position, the patterns by keyword. -/
def classNode (positional keyword : Option Nat) : Action := fun s vs =>
  let of := fun (i : Option Nat) => ((i.map (arg vs)).getD .nothing)
  yields (.phrase (Site.phrase s "MatchClass" ""
    (partsOf vs [0] ++ (of positional).phrases ++ (of keyword).phrases)))

/-- One pattern, or part of one. -/
def PatternRule.body : PatternRule → RuleBody Rule
  | .patterns => rule
    [ alt [patt .openSequencePattern] (node "MatchSequence" [0]),
      just (patt .pattern)]
  | .pattern => rule [just (patt .asPattern), just (patt .orPattern)]
  | .asPattern => rule
    [ alt [patt .orPattern, tok "as", patt .captureTarget] (worded "MatchAs" 2 [0]),
      mistake [wrong .asPattern]]
  | .orPattern => rule
    [alt [.sep (tok "|") (patt .closedPattern)] fun s vs =>
      match (arg vs 0).phrases with
      | [p] => yields (.phrase p)
      | ps => yields (.phrase (Site.phrase s "MatchOr" "" ps))]
  | .closedPattern => kept
    [ just (patt .literalPattern), just (patt .capturePattern), just (patt .wildcardPattern),
      just (patt .valuePattern), just (patt .groupPattern), just (patt .sequencePattern),
      just (patt .mappingPattern), just (patt .classPattern)]
  | .literalPattern => rule
    [ alt [patt .signedNumber, .notAhead (oneOf [tok "+", tok "-"])] (node "MatchValue" [0]),
      alt [patt .complexNumber] (node "MatchValue" [0]),
      alt [expr .strings] (node "MatchValue" [0]),
      alt [tok "None"] singleton,
      alt [tok "True"] singleton,
      alt [tok "False"] singleton]
  | .literalExpr => rule
    [ alt [patt .signedNumber, .notAhead (oneOf [tok "+", tok "-"])] (pick 0),
      just (patt .complexNumber),
      just (expr .strings),
      alt [tok "None"] (constant "None"),
      alt [tok "True"] (constant "True"),
      alt [tok "False"] (constant "False")]
  | .complexNumber => rule
    [ alt [patt .signedRealNumber, tok "+", patt .imaginaryNumber] fun s vs =>
        yields (.phrase (Site.phrase s "BinOp" ""
          (partsOf vs [0] ++ [Phrase.mark "Add"] ++ partsOf vs [2]))),
      alt [patt .signedRealNumber, tok "-", patt .imaginaryNumber] fun s vs =>
        yields (.phrase (Site.phrase s "BinOp" ""
          (partsOf vs [0] ++ [Phrase.mark "Sub"] ++ partsOf vs [2])))]
  | .signedNumber => rule
    [ alt [tok "NUMBER"] (numeral 0),
      alt [tok "-", tok "NUMBER"] (negated 1)]
  | .signedRealNumber => rule
    [ just (patt .realNumber),
      alt [tok "-", patt .realNumber] fun s vs =>
        yields (.phrase (Site.phrase s "UnaryOp" "" (Phrase.mark "USub" :: partsOf vs [1])))]
  | .realNumber => rule [alt [tok "NUMBER"] (partOfComplex false 0)]
  | .imaginaryNumber => rule [alt [tok "NUMBER"] (partOfComplex true 0)]
  | .capturePattern => rule [alt [patt .captureTarget] (worded "MatchAs" 0 [])]
  | .captureTarget => rule
    [alt [.notAhead (.soft "_"), tok "NAME", .notAhead (oneOf [tok ".", tok "(", tok "="])]
      (asName 1 "Store")]
  | .wildcardPattern => rule [alt [.soft "_"] (node "MatchAs" [])]
  | .valuePattern => rule
    [alt [patt .attr, .notAhead (oneOf [tok ".", tok "(", tok "="])] (node "MatchValue" [0])]
  | .attr => leftRec
    [alt [patt .nameOrAttr, tok ".", tok "NAME"] (used "Attribute" "Load" [0])]
  | .nameOrAttr => rule
    [ just (patt .attr),
      alt [tok "NAME"] (asName 0 "Load")]
  | .groupPattern => rule [alt [tok "(", patt .pattern, tok ")"] (pick 1)]
  | .sequencePattern => rule
    [ alt [tok "[", .opt (patt .maybeSequencePattern), tok "]"] (node "MatchSequence" [1]),
      alt [tok "(", .opt (patt .openSequencePattern), tok ")"] (node "MatchSequence" [1])]
  | .openSequencePattern => rule
    [alt [patt .maybeStarPattern, tok ",", .opt (patt .maybeSequencePattern)] fun _ vs =>
      yields (.many [arg vs 0, arg vs 2])]
  | .maybeSequencePattern => rule
    [alt [.sep (tok ",") (patt .maybeStarPattern), .opt (tok ",")] (pick 0)]
  | .maybeStarPattern => rule [just (patt .starPattern), just (patt .pattern)]
  | .starPattern => kept
    [ alt [tok "*", patt .captureTarget] (worded "MatchStar" 1 []),
      alt [tok "*", patt .wildcardPattern] (node "MatchStar" [])]
  | .mappingPattern => rule
    [ alt [tok "\x7b", tok "\x7d"] (mappingNode none),
      alt [tok "\x7b", patt .doubleStarPattern, .opt (tok ","), tok "\x7d"] (mappingNode none),
      alt [tok "\x7b", patt .itemsPattern, tok ",", patt .doubleStarPattern, .opt (tok ","),
          tok "\x7d"]
        (mappingNode (some 1)),
      alt [tok "\x7b", patt .itemsPattern, .opt (tok ","), tok "\x7d"] (mappingNode (some 1))]
  | .itemsPattern => rule [just (.sep (tok ",") (patt .keyValuePattern))]
  | .keyValuePattern => rule
    [alt [oneOf [patt .literalExpr, patt .attr], tok ":", patt .pattern] fun _ vs =>
      yields (.many [arg vs 0, arg vs 2])]
  | .doubleStarPattern => rule [alt [tok "**", patt .captureTarget] (pick 1)]
  | .classPattern => rule
    [ alt [patt .nameOrAttr, tok "(", tok ")"] (classNode none none),
      alt [patt .nameOrAttr, tok "(", patt .positionalPatterns, .opt (tok ","), tok ")"]
        (classNode (some 2) none),
      alt [patt .nameOrAttr, tok "(", patt .keywordPatterns, .opt (tok ","), tok ")"]
        (classNode none (some 2)),
      alt [patt .nameOrAttr, tok "(", patt .positionalPatterns, tok ",", patt .keywordPatterns,
          .opt (tok ","), tok ")"]
        (classNode (some 2) (some 4)),
      mistake [wrong .classPattern]]
  | .positionalPatterns => rule [just (.sep (tok ",") (patt .pattern))]
  | .keywordPatterns => rule [just (.sep (tok ",") (patt .keywordPattern))]
  | .keywordPattern => rule [alt [tok "NAME", tok "=", patt .pattern] (pick 2)]

end Enclosure.Abstract
