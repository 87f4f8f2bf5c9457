import Enclosure.Abstract.Build

/-!
# Targets

What can stand on the left of an assignment, after `for`, after `as` in a `with` statement, and
after `del`.

What is here:

* `TargetRule.body`.
-/

set_option autoImplicit false

namespace Enclosure.Abstract

/-- An attribute or an element of something, in the given use. -/
def memberTargets (use : String) : List (Alternative Rule) :=
  [ alt [targ .tPrimary, tok ".", tok "NAME", .notAhead (targ .tLookahead)]
      (used "Attribute" use [0]),
    alt [targ .tPrimary, tok "[", expr .slices, tok "]", .notAhead (targ .tLookahead)]
      (used "Subscript" use [0, 2])]

/-- One target, or part of one. -/
def TargetRule.body : TargetRule → RuleBody Rule
  | .starTargets => rule
    [ alt [targ .starTarget, .notAhead (tok ",")] (pick 0),
      alt [targ .starTarget, .star (seq [tok ",", targ .starTarget] 1), .opt (tok ",")]
        (used "Tuple" "Store" [0, 1])]
  | .starTargetsListSeq => rule [alt [.sep (tok ",") (targ .starTarget), .opt (tok ",")] (pick 0)]
  | .starTargetsTupleSeq => rule
    [ alt [targ .starTarget, .plus (seq [tok ",", targ .starTarget] 1), .opt (tok ",")]
        fun _ vs => yields (.many [arg vs 0, arg vs 1]),
      alt [targ .starTarget, tok ","] fun _ vs => yields (.many [arg vs 0])]
  | .starTarget => kept
    [ alt [tok "*", .group [alt [.notAhead (tok "*"), targ .starTarget] (pick 1)]]
        fun s vs => yields (.phrase (Site.phrase s "Starred" ""
          ((partsOf vs [1]).map (Phrase.withContext "Store") ++ [Phrase.mark "Store"]))),
      just (targ .targetWithStarAtom)]
  | .targetWithStarAtom => kept (memberTargets "Store" ++ [just (targ .starAtom)])
  | .starAtom => rule
    [ alt [tok "NAME"] (asName 0 "Store"),
      alt [tok "(", targ .targetWithStarAtom, tok ")"] (inUse 1 "Store"),
      alt [tok "(", .opt (targ .starTargetsTupleSeq), tok ")"] (used "Tuple" "Store" [1]),
      alt [tok "[", .opt (targ .starTargetsListSeq), tok "]"] (used "List" "Store" [1])]
  | .singleTarget => rule
    [ just (targ .singleSubscriptAttributeTarget),
      alt [tok "NAME"] (asName 0 "Store"),
      alt [tok "(", targ .singleTarget, tok ")"] (pick 1)]
  | .singleSubscriptAttributeTarget => rule (memberTargets "Store")
  | .delTargets => rule [alt [.sep (tok ",") (targ .delTarget), .opt (tok ",")] (pick 0)]
  | .delTarget => kept (memberTargets "Del" ++ [just (targ .delTAtom)])
  | .delTAtom => rule
    [ alt [tok "NAME"] (asName 0 "Del"),
      alt [tok "(", targ .delTarget, tok ")"] (inUse 1 "Del"),
      alt [tok "(", .opt (targ .delTargets), tok ")"] (used "Tuple" "Del" [1]),
      alt [tok "[", .opt (targ .delTargets), tok "]"] (used "List" "Del" [1])]
  | .tPrimary => leftRec
    [ alt [targ .tPrimary, tok ".", tok "NAME", .ahead (targ .tLookahead)]
        (used "Attribute" "Load" [0]),
      alt [targ .tPrimary, tok "[", expr .slices, tok "]", .ahead (targ .tLookahead)]
        (used "Subscript" "Load" [0, 2]),
      alt [targ .tPrimary, expr .genExp, .ahead (targ .tLookahead)] (node "Call" [0, 1]),
      alt [targ .tPrimary, tok "(", .opt (expr .arguments), tok ")", .ahead (targ .tLookahead)]
        (node "Call" [0, 2]),
      alt [expr .atom, .ahead (targ .tLookahead)] (pick 0)]
  | .tLookahead => rule [just (tok "("), just (tok "["), just (tok ".")]

end Enclosure.Abstract
