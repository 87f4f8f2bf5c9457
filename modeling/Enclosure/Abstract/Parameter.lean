import Enclosure.Abstract.Build

/-!
# Parameters

The parameters of a function and of an anonymous function follow the same scheme: parameters by
position only, a slash, parameters by position or keyword, a star, parameters by keyword only, and a
double star.  They differ in what a single parameter looks like and in what ends the list.

What is here:

* `parametersOf`: the phrase for all parameters.
* `ParameterRule.body`.
-/

set_option autoImplicit false

namespace Enclosure.Abstract

/-- The parameter of each pair of a parameter and its default. -/
def pairNames (v : Value) : List Phrase := v.items.flatMap fun p => (p.item 0).phrases

/-- The default of each pair that has one. -/
def pairDefaults (v : Value) : List Phrase := v.items.flatMap fun p => (p.item 1).phrases

/-- All parameters in order: by position only, by position or keyword, the rest by position, by
keyword only with their defaults, the rest by keyword, and the defaults of the former two.
`slashed` and `slashedPairs` are what stands before a slash, `rest` is what the star brings. -/
def parametersOf (slashed slashedPairs plain pairs rest : Value) : Except Refusal (Option Value) :=
  let positionOnly := slashed.phrases ++ (slashedPairs.item 0).phrases ++
    pairNames (slashedPairs.item 1)
  let positional := plain.phrases ++ pairNames pairs
  let keywordOnly := rest.item 1
  let defaults := pairDefaults (slashedPairs.item 1) ++ pairDefaults pairs
  yields (.phrase (.mk "arguments" none ""
    (positionOnly ++ positional ++ (rest.item 0).phrases ++ pairNames keywordOnly ++
      pairDefaults keywordOnly ++ (rest.item 2).phrases ++ defaults)))

/-- What a star brings: the rest by position, the pairs by keyword only, the rest by keyword. -/
def starRest (position keywords rest : Option Nat) : Action := fun _ vs =>
  let at? := fun (i : Option Nat) => (i.map (arg vs)).getD .nothing
  yields (.many [at? position, .many (at? keywords).items, at? rest])

/-- A parameter with its default, if it has one. -/
def withDefault (default : Nat) : Action := fun _ vs => yields (.many [arg vs 0, arg vs default])

/-- The alternatives for a whole list of parameters, from its parts. -/
def parameterAlternatives (slashNoDefault slashWithDefault noDefault withDefault starEtc : Item Rule) :
    List (Alternative Rule) :=
  [ alt [slashNoDefault, .star noDefault, .star withDefault, .opt starEtc] fun _ vs =>
      parametersOf (arg vs 0) .nothing (arg vs 1) (arg vs 2) (arg vs 3),
    alt [slashWithDefault, .star withDefault, .opt starEtc] fun _ vs =>
      parametersOf .nothing (arg vs 0) .nothing (arg vs 1) (arg vs 2),
    alt [.plus noDefault, .star withDefault, .opt starEtc] fun _ vs =>
      parametersOf .nothing .nothing (arg vs 0) (arg vs 1) (arg vs 2),
    alt [.plus withDefault, .opt starEtc] fun _ vs =>
      parametersOf .nothing .nothing .nothing (arg vs 0) (arg vs 1),
    alt [starEtc] fun _ vs =>
      parametersOf .nothing .nothing .nothing .nothing (arg vs 0)]

/-- One list of parameters, or part of one. -/
def ParameterRule.body : ParameterRule → RuleBody Rule
  | .params => rule [mistake [wrong .parameters], just (parm .parameters)]
  | .parameters => rule
    (parameterAlternatives (parm .slashNoDefault) (parm .slashWithDefault) (parm .paramNoDefault)
      (parm .paramWithDefault) (parm .starEtc))
  | .slashNoDefault => rule
    [ alt [.plus (parm .paramNoDefault), tok "/", tok ","] (pick 0),
      alt [.plus (parm .paramNoDefault), tok "/", .ahead (tok ")")] (pick 0)]
  | .slashWithDefault => rule
    [ alt [.star (parm .paramNoDefault), .plus (parm .paramWithDefault), tok "/", tok ","]
        together,
      alt [.star (parm .paramNoDefault), .plus (parm .paramWithDefault), tok "/", .ahead (tok ")")]
        together]
  | .starEtc => rule
    [ mistake [wrong .starEtc],
      alt [tok "*", parm .paramNoDefault, .star (parm .paramMaybeDefault), .opt (parm .kwds)]
        (starRest (some 1) (some 2) (some 3)),
      alt [tok "*", parm .paramNoDefaultStarTyped, .star (parm .paramMaybeDefault),
          .opt (parm .kwds)]
        (starRest (some 1) (some 2) (some 3)),
      alt [tok "*", tok ",", .plus (parm .paramMaybeDefault), .opt (parm .kwds)]
        (starRest none (some 2) (some 3)),
      alt [parm .kwds] (starRest none none (some 0))]
  | .kwds => rule
    [ mistake [wrong .kwds],
      alt [tok "**", parm .paramNoDefault] (pick 1)]
  | .paramNoDefault => rule
    [ alt [parm .param, tok ","] (pick 0),
      alt [parm .param, .ahead (tok ")")] (pick 0)]
  | .paramNoDefaultStarTyped => rule
    [ alt [parm .paramStarTyped, tok ","] (pick 0),
      alt [parm .paramStarTyped, .ahead (tok ")")] (pick 0)]
  | .paramWithDefault => rule
    [ alt [parm .param, parm .default, tok ","] (withDefault 1),
      alt [parm .param, parm .default, .ahead (tok ")")] (withDefault 1)]
  | .paramMaybeDefault => rule
    [ alt [parm .param, .opt (parm .default), tok ","] (withDefault 1),
      alt [parm .param, .opt (parm .default), .ahead (tok ")")] (withDefault 1)]
  | .param => rule [alt [tok "NAME", .opt (parm .typing)] (worded "arg" 0 [1])]
  | .paramStarTyped => rule
    [alt [tok "NAME", parm .starTyping] (worded "arg" 0 [1])]
  | .typing => rule [alt [tok ":", expr .expression] (pick 1)]
  | .starTyping => rule [alt [tok ":", expr .starExpression] (pick 1)]
  | .default => rule
    [ alt [tok "=", expr .expression] (pick 1),
      mistake [wrong .default]]
  | .lambdaParams => rule [mistake [wrong .lambdaParameters], just (parm .lambdaParameters)]
  | .lambdaParameters => rule
    (parameterAlternatives (parm .lambdaSlashNoDefault) (parm .lambdaSlashWithDefault)
      (parm .lambdaParamNoDefault) (parm .lambdaParamWithDefault) (parm .lambdaStarEtc))
  | .lambdaSlashNoDefault => rule
    [ alt [.plus (parm .lambdaParamNoDefault), tok "/", tok ","] (pick 0),
      alt [.plus (parm .lambdaParamNoDefault), tok "/", .ahead (tok ":")] (pick 0)]
  | .lambdaSlashWithDefault => rule
    [ alt [.star (parm .lambdaParamNoDefault), .plus (parm .lambdaParamWithDefault), tok "/",
          tok ","]
        together,
      alt [.star (parm .lambdaParamNoDefault), .plus (parm .lambdaParamWithDefault), tok "/",
          .ahead (tok ":")]
        together]
  | .lambdaStarEtc => rule
    [ mistake [wrong .lambdaStarEtc],
      alt [tok "*", parm .lambdaParamNoDefault, .star (parm .lambdaParamMaybeDefault),
          .opt (parm .lambdaKwds)]
        (starRest (some 1) (some 2) (some 3)),
      alt [tok "*", tok ",", .plus (parm .lambdaParamMaybeDefault), .opt (parm .lambdaKwds)]
        (starRest none (some 2) (some 3)),
      alt [parm .lambdaKwds] (starRest none none (some 0))]
  | .lambdaKwds => rule
    [ mistake [wrong .lambdaKwds],
      alt [tok "**", parm .lambdaParamNoDefault] (pick 1)]
  | .lambdaParamNoDefault => rule
    [ alt [parm .lambdaParam, tok ","] (pick 0),
      alt [parm .lambdaParam, .ahead (tok ":")] (pick 0)]
  | .lambdaParamWithDefault => rule
    [ alt [parm .lambdaParam, parm .default, tok ","] (withDefault 1),
      alt [parm .lambdaParam, parm .default, .ahead (tok ":")] (withDefault 1)]
  | .lambdaParamMaybeDefault => rule
    [ alt [parm .lambdaParam, .opt (parm .default), tok ","] (withDefault 1),
      alt [parm .lambdaParam, .opt (parm .default), .ahead (tok ":")] (withDefault 1)]
  | .lambdaParam => rule [alt [tok "NAME"] (worded "arg" 0 [])]

end Enclosure.Abstract
