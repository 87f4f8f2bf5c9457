import Std.Data.HashMap
import Enclosure.Grammar.Basic
import Enclosure.Token.Lexer

/-!
# Matching a grammar against tokens

`Grammar.matchRule` tries a rule at a place of a token sequence.  A rule that is marked for it keeps
its outcome at each place, so it is tried there once; a rule that may start with itself is tried
again and again with its last outcome as the start, as long as that reaches further.

Rules nest at most `maxNesting` deep.  Repetitions and groups count as rules of their own, as they
would if each had a name.

What is here:

* `Halt`: why matching ends early.
* `Progress`: the place reached, the furthest token looked at, and the outcomes kept.
* `Outcome`: a value, no match, or an early end.
* `Grammar.matchRule` and `Grammar.start`.
-/

set_option autoImplicit false

namespace Enclosure

/-- Why matching ended early. -/
inductive Halt where
  /-- The text is refused; tokens have been looked at up to the given place. -/
  | refused (r : Refusal) (reached : Nat)
  /-- A token was needed that the scanner could not deliver. -/
  | outOfTokens

/-- Rules nest too deep. -/
def Halt.tooDeep : Halt := .refused .tooDeep 0

/-- What changes while matching. -/
structure Progress where
  /-- The place of the next token. -/
  place : Nat
  /-- One more than the furthest place looked at. -/
  reached : Nat
  /-- Outcomes by place and rule: the value, if there was one, and the place after it. -/
  kept : Std.HashMap Nat (Option Value × Nat)

/-- How an attempt to match ends. -/
inductive Outcome where
  | found (v : Value) (p : Progress)
  | missed (p : Progress)
  | halted (h : Halt)

/-- How an attempt to match the items of an alternative ends; after a cut no other alternative may
be tried. -/
inductive ItemsOutcome where
  | found (vs : List Value) (p : Progress)
  | missed (afterCut : Bool) (p : Progress)
  | halted (h : Halt)

/-- What stays the same while matching. -/
structure Setting (ρ : Type) where
  grammar : Grammar ρ
  tokens : Array Token
  embedded : List Char → Nat → Except Refusal Phrase

namespace Grammar

variable {ρ : Type}

/-- How deep rules may nest. -/
def maxNesting : Nat := 6000

/-- Look at the next token. -/
def peek (c : Setting ρ) (p : Progress) : Option (Token × Progress) :=
  match c.tokens[p.place]? with
  | some t => some (t, if p.reached ≤ p.place then { p with reached := p.place + 1 } else p)
  | none => none

/-- The next token, if it is one of those wanted. -/
def expect (c : Setting ρ) (p : Progress) (wanted : Token → Bool) : Outcome :=
  match peek c p with
  | none => .halted .outOfTokens
  | some (t, p) =>
    if wanted t then .found (.token t) { p with place := p.place + 1 } else .missed p

/-- The last line of the last token before a place that is not layout. -/
def lastLineBefore (tokens : Array Token) : Nat → Nat
  | 0 => (tokens[0]?.map Token.lastLine).getD 0
  | n + 1 =>
    match tokens[n]? with
    | some t => if t.isLayout then lastLineBefore tokens n else t.lastLine
    | none => lastLineBefore tokens n

/-- What an alternative knows that started at a place and has now fitted. -/
def site (c : Setting ρ) (start : Nat) (p : Progress) : Site :=
  { first := (c.tokens[start]?.map Token.line).getD 0
    last := lastLineBefore c.tokens p.place
    depth := (c.tokens[p.place - 1]?.map Token.depth).getD 0
    reached := (c.tokens[p.reached - 1]?.map Token.line).getD 0
    embedded := c.embedded }

/-- Where the outcome of a rule at a place is kept. -/
def key (c : Setting ρ) (r : ρ) (place : Nat) : Nat := place * 1024 + c.grammar.number r

mutual

/-- Try a rule at the present place, `depth` rules deep. -/
def matchRule (c : Setting ρ) : Nat → Bool → Nat → ρ → Progress → Outcome
  | 0, _, _, _, _ => .halted .tooDeep
  | fuel + 1, mistakes, depth, r, p =>
    if maxNesting ≤ depth then .halted .tooDeep
    else
      let body := c.grammar.body r
      let mistakes := mistakes && !body.quiet
      if body.leftRecursive || body.kept then
        match peek c p with
        | none => .halted .outOfTokens
        | some (_, p) =>
          match p.kept[key c r p.place]? with
          | some (some v, after) => .found v { p with place := after }
          | some (none, _) => .missed p
          | none =>
            if body.leftRecursive then
              grow c fuel mistakes (depth + 1) r body.alternatives p.place none p.place p
            else
              let start := p.place
              match matchFirst c fuel mistakes (depth + 1) start body.alternatives p with
              | .found v p =>
                .found v { p with kept := p.kept.insert (key c r start) (some v, p.place) }
              | .missed p =>
                .missed { p with kept := p.kept.insert (key c r start) (none, start) }
              | .halted h => .halted h
      else matchFirst c fuel mistakes (depth + 1) p.place body.alternatives p

/-- Try a rule that may start with itself from the best outcome so far, until it reaches no
further. -/
def grow (c : Setting ρ) :
    Nat → Bool → Nat → ρ → List (Alternative ρ) → Nat → Option Value → Nat → Progress → Outcome
  | 0, _, _, _, _, _, _, _, _ => .halted .tooDeep
  | fuel + 1, mistakes, depth, r, alternatives, start, best, after, p =>
    if maxNesting ≤ depth then .halted .tooDeep
    else
      let p := { p with kept := p.kept.insert (key c r start) (best, after), place := start }
      match matchFirst c fuel mistakes (depth + 1) start alternatives p with
      | .halted h => .halted h
      | .missed p => settle best after p
      | .found v p =>
        if p.place ≤ after then settle best after p
        else grow c fuel mistakes depth r alternatives start (some v) p.place p
where
  settle : Option Value → Nat → Progress → Outcome
    | some v, after, p => .found v { p with place := after }
    | none, after, p => .missed { p with place := after }

/-- Take the first alternative that fits. -/
def matchFirst (c : Setting ρ) :
    Nat → Bool → Nat → Nat → List (Alternative ρ) → Progress → Outcome
  | 0, _, _, _, _, _ => .halted .tooDeep
  | _ + 1, _, _, start, [], p => .missed { p with place := start }
  | fuel + 1, mistakes, depth, start, .mk items action onlyMistakes :: others, p =>
    if onlyMistakes && !mistakes then matchFirst c fuel mistakes depth start others p
    else
      match matchItems c fuel mistakes depth items [] false { p with place := start } with
      | .halted h => .halted h
      | .missed true p => .missed { p with place := start }
      | .missed false p => matchFirst c fuel mistakes depth start others p
      | .found vs p =>
        match action (site c start p) vs with
        | .ok (some v) => .found v p
        | .ok none => .missed { p with place := start }
        | .error e => .halted (.refused e p.reached)

/-- Match items one after the other; the values found so far are given last one first. -/
def matchItems (c : Setting ρ) :
    Nat → Bool → Nat → List (Item ρ) → List Value → Bool → Progress → ItemsOutcome
  | 0, _, _, _, _, _, _ => .halted .tooDeep
  | _ + 1, _, _, [], vs, _, p => .found vs.reverse p
  | fuel + 1, mistakes, depth, .cut :: items, vs, _, p =>
    matchItems c fuel mistakes depth items vs true p
  | fuel + 1, mistakes, depth, item :: items, vs, afterCut, p =>
    match matchItem c fuel mistakes depth item p with
    | .found v p => matchItems c fuel mistakes depth items (v :: vs) afterCut p
    | .missed p => .missed afterCut p
    | .halted h => .halted h

/-- Match one item. -/
def matchItem (c : Setting ρ) : Nat → Bool → Nat → Item ρ → Progress → Outcome
  | 0, _, _, _, _ => .halted .tooDeep
  | _ + 1, _, _, .tok sort, p => expect c p fun t => t.sort == sort
  | _ + 1, _, _, .soft word, p => expect c p fun t => t.sort == "NAME" && t.text == word
  | fuel + 1, mistakes, depth, .rule r, p => matchRule c fuel mistakes depth r p
  | fuel + 1, mistakes, depth, .opt i, p =>
    let start := p.place
    match matchItem c fuel mistakes depth i p with
    | .missed p => .found .nothing { p with place := start }
    | o => o
  | fuel + 1, mistakes, depth, .star i, p =>
    if maxNesting ≤ depth then .halted .tooDeep
    else matchMany c fuel mistakes (depth + 1) i [] p
  | fuel + 1, mistakes, depth, .plus i, p =>
    if maxNesting ≤ depth then .halted .tooDeep
    else
      match matchMany c fuel mistakes (depth + 1) i [] p with
      | .found (.many []) p => .missed p
      | o => o
  | fuel + 1, mistakes, depth, .sep separator element, p =>
    if maxNesting ≤ depth then .halted .tooDeep
    else
      match matchItem c fuel mistakes (depth + 1) element p with
      | .found v p =>
        if maxNesting ≤ depth + 1 then .halted .tooDeep
        else
          match matchSeparated c fuel mistakes (depth + 2) separator element [v] p with
          | .found v p => .found v p
          | o => o
      | o => o
  | fuel + 1, mistakes, depth, .ahead i, p =>
    let start := p.place
    match matchItem c fuel mistakes depth i p with
    | .found v p => .found v { p with place := start }
    | o => o
  | fuel + 1, mistakes, depth, .notAhead i, p =>
    let start := p.place
    match matchItem c fuel mistakes depth i p with
    | .found _ p => .missed { p with place := start }
    | .missed p => .found .nothing { p with place := start }
    | o => o
  | _ + 1, _, _, .must sort, p =>
    match peek c p with
    | none => .halted .outOfTokens
    | some (t, p) =>
      if t.sort == sort then .found (.token t) { p with place := p.place + 1 }
      else
        .halted (.refused (.mistake { message := s!"expected '{sort}'", line := t.line }) p.reached)
  | _ + 1, _, _, .cut, p => .found .nothing p
  | fuel + 1, mistakes, depth, .group alternatives, p =>
    if maxNesting ≤ depth then .halted .tooDeep
    else matchFirst c fuel mistakes (depth + 1) p.place alternatives p

/-- Match an item as often as it fits. -/
def matchMany (c : Setting ρ) :
    Nat → Bool → Nat → Item ρ → List Value → Progress → Outcome
  | 0, _, _, _, _, _ => .halted .tooDeep
  | fuel + 1, mistakes, depth, i, vs, p =>
    let start := p.place
    match matchItem c fuel mistakes depth i p with
    | .found v p => matchMany c fuel mistakes depth i (v :: vs) p
    | .missed p => .found (.many vs.reverse) { p with place := start }
    | .halted h => .halted h

/-- Match further elements of a separated list. -/
def matchSeparated (c : Setting ρ) :
    Nat → Bool → Nat → Item ρ → Item ρ → List Value → Progress → Outcome
  | 0, _, _, _, _, _, _ => .halted .tooDeep
  | fuel + 1, mistakes, depth, separator, element, vs, p =>
    let start := p.place
    match matchItem c fuel mistakes depth separator p with
    | .found _ p =>
      match matchItem c fuel mistakes depth element p with
      | .found v p => matchSeparated c fuel mistakes depth separator element (v :: vs) p
      | .missed p => .found (.many vs.reverse) { p with place := start }
      | .halted h => .halted h
    | .missed p => .found (.many vs.reverse) { p with place := start }
    | .halted h => .halted h

end

/-- The start of a text, with the outcomes of an earlier attempt forgotten. -/
def start (reached : Nat) : Progress := ⟨0, reached, ∅⟩

/-- Enough fuel for any attempt: a path through the rules is at most `maxNesting` deep, takes a
bounded number of steps at each level, and repeats an item only after a token. -/
def fuelFor (c : Setting ρ) : Nat := 128 * maxNesting + 8 * c.tokens.size + 64

end Grammar
end Enclosure
