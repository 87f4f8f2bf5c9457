import Enclosure.Console.Emoji
import Enclosure.Console.Style
import Enclosure.Text.Quoted
import Enclosure.Text.Word

/-!
# Markup

Texts for the terminal may hold tags in brackets, which switch a style on or off and are not shown
themselves.  A backslash in front of a tag takes its meaning away.  On a terminal without styles only
the text between the tags is left; but the styles are looked at all the same, and a style that cannot
be read may keep the text from being shown.

A tag whose name starts with an at sign is an action, and its parameters are a value that is written
out, which is read when the tag is closed.  How values are read is left open here.

What is here:

* `tagAt?`: the tag at the front of some characters.
* `Markup.pieces`: the texts and the tags of some characters.
* `Markup.Values`: how values are read.
* `Markup.Opened`, `Markup.Span`: styles that are open, and parts of a text with a style.
* `Markup.show`: what is to be seen and in which styles, or why nothing is.
* `Markup.escape`: some characters with all tags made to be shown.
-/

set_option autoImplicit false

namespace Enclosure.Console

/-- A tag with the backslashes in front of it. -/
structure TagText where
  escapes : Nat
  body : List Char
deriving Repr, DecidableEq

/-- How many characters a tag takes with its brackets and its backslashes. -/
def TagText.length (t : TagText) : Nat := t.escapes + t.body.length + 2

/-- Whether a tag can start with a character. -/
def isTagStart (c : Char) : Bool := ('a' ≤ c && c ≤ 'z') || c == '#' || c == '/' || c == '@'

/-- What stands in front of the closing bracket of a tag whose opening bracket has been passed. -/
def tagBody? : List Char → Option (List Char)
  | [] => none
  | c :: cs =>
    if isTagStart c then
      let more := cs.takeWhile fun d => d != '[' && d != ']'
      if (cs.drop more.length).head? = some ']' then some (c :: more) else none
    else none

/-- The tag at the front of some characters, backslashes included. -/
def tagAt? (cs : List Char) : Option TagText :=
  let escapes := (cs.takeWhile (· == '\\')).length
  match cs.drop escapes with
  | '[' :: rest => (tagBody? rest).map fun body => ⟨escapes, body⟩
  | _ => none

namespace Markup

/-- A part of a text with tags. -/
inductive Piece where
  | text (cs : List Char)
  /-- A tag, with the place of its bracket. -/
  | tag (body : List Char) (place : Nat)
deriving Repr, DecidableEq

/-- Some characters as a piece, unless there are none. -/
def textPiece (cs : List Char) : List Piece := if cs.isEmpty then [] else [.text cs]

/-- The pieces that a tag at a place stands for: half of its backslashes, and the tag itself, as a
text if a backslash is left. -/
def tagPieces (t : TagText) (place : Nat) : List Piece :=
  let half := t.escapes / 2
  textPiece (List.replicate half '\\') ++
    (if t.escapes % 2 = 1 then [.text ('[' :: t.body ++ [']'])]
      else [.tag t.body (place + 2 * half)])

/-- The pieces of some characters at a place; `before` holds the characters since the last tag, last
one first. -/
def piecesFrom (place : Nat) (before : List Char) : List Char → List Piece
  | [] => textPiece before.reverse
  | c :: cs =>
    match tagAt? (c :: cs) with
    | some t =>
      textPiece before.reverse ++ tagPieces t place ++
        piecesFrom (place + t.length) [] ((c :: cs).drop t.length)
    | none => piecesFrom (place + 1) (c :: before) cs
termination_by cs => cs.length
decreasing_by
  · simp only [TagText.length, List.length_drop, List.length_cons]; omega
  · simp

/-- The pieces of some characters. -/
def pieces (cs : List Char) : List Piece := piecesFrom 0 [] cs

/-- Control characters that do not reach the terminal. -/
def isStripped (c : Char) : Bool := [7, 8, 11, 12, 13].contains c.toNat

/-- A text in which a backslash in front of a bracket is left out. -/
def unescapeBrackets : List Char → List Char
  | '\\' :: '[' :: cs => '[' :: unescapeBrackets cs
  | c :: cs => c :: unescapeBrackets cs
  | [] => []

/-- What is seen of a text without tags. -/
def seen (cs : List Char) : List Char := (Emoji.replace cs).filter fun c => !isStripped c

/-! ## Values -/

/-- Why a text is not a value that is written out. -/
inductive ValueFault where
  /-- It cannot be read, for a reason. -/
  | unreadable (reason : String)
  /-- It can be read, but is no value, for a reason. -/
  | unusable (reason : String)
deriving Repr, DecidableEq

/-- How values that are written out are read. -/
abbrev Values := List Char → Except ValueFault Unit

/-- Whether a character belongs to the name of an action. -/
def isActionChar (c : Char) : Bool := Text.isWordChar c || c == '.'

/-- The value that the parameters of an action hold: what is in brackets behind a name, nothing in
brackets if there is a name alone, and else all of them. -/
def valueText (parameters : List Char) : List Char :=
  let trimmed := Text.trimChars parameters
  let rest := trimmed.dropWhile isActionChar
  if rest.isEmpty then ['(', ')']
  else if rest.head? == some '(' && rest.getLast? == some ')' && !rest.contains '\n' then rest
  else trimmed

/-! ## Faults -/

/-- What can be wrong with tags. -/
inductive Fault where
  /-- A tag that closes the last style, but no style is open. -/
  | nothingOpen (place : Nat)
  /-- A tag that closes a style which is not open. -/
  | notOpen (tag : String) (place : Nat)
  /-- An action whose parameters are not as they should be. -/
  | badValue (parameters : List Char) (fault : ValueFault)
deriving Repr, DecidableEq

/-- A fault in words. -/
def Fault.message : Fault → String
  | nothingOpen place => s!"closing tag '[/]' at position {place} has nothing to close"
  | notOpen tag place => s!"closing tag '[{tag}]' at position {place} doesn't match any open tag"
  | badValue parameters (.unreadable reason) =>
    let value := Text.quoted (String.ofList (valueText parameters))
    let all := Text.quoted (String.ofList parameters)
    s!"error parsing {value} in {all}; {reason}"
  | badValue parameters (.unusable reason) =>
    let all := Text.quoted (String.ofList parameters)
    s!"error parsing {all}; {reason}"

/-- Why a text cannot be shown. -/
inductive Refusal where
  | tags (fault : Fault)
  /-- A number in a style cannot be read. -/
  | number (fault : NumberFault)
deriving Repr, DecidableEq

/-! ## Styles -/

/-- A style that has been switched on. -/
structure Opened where
  /-- How much of the text comes before it. -/
  start : Nat
  name : String
  /-- What the tag says behind an equals sign, if there is one. -/
  parameters : Option (List Char) := none
deriving Repr, DecidableEq

/-- A part of a text with a style. -/
structure Span where
  start : Nat
  stop : Nat
  style : List Char
deriving Repr, DecidableEq

/-- What is to be seen, with its styles in the order in which they have been switched off. -/
structure Seen where
  chars : List Char
  spans : List Span
deriving Repr, DecidableEq

/-- What is seen behind some characters, and behind some parts with styles. -/
def Seen.behind (cs : List Char) (spans : List Span) (s : Seen) : Seen :=
  ⟨cs ++ s.chars, spans ++ s.spans⟩

namespace Opened

/-- The words that ask for the style. -/
def words (o : Opened) : List Char :=
  match o.parameters with
  | some parameters => o.name.toList ++ ' ' :: parameters
  | none => o.name.toList

/-- The part of the text up to a place. -/
def span (stop : Nat) (o : Opened) : Span := ⟨o.start, stop, o.words⟩

/-- Whether a tag stands for an action. -/
def isAction (o : Opened) : Bool := o.name.toList.head? == some '@'

/-- The value that the parameters hold, read. -/
def checkValue (values : Values) (o : Opened) : Except Fault Unit :=
  match o.parameters with
  | none => .ok ()
  | some [] => .ok ()
  | some parameters => (values (valueText parameters)).mapError (.badValue parameters)

/-- The parts of the text that are left of a style that is switched off; an action leaves none. -/
def close (values : Values) (stop : Nat) (o : Opened) : Except Fault (List Span) :=
  if o.isAction then (o.checkValue values).map fun _ => [] else .ok [o.span stop]

end Opened

/-! ## Tags -/

/-- The name of a tag, which ends where its parameters start. -/
def tagName (body : List Char) : List Char := body.takeWhile (· != '=')

/-- The parameters of a tag. -/
def tagParameters? (body : List Char) : Option (List Char) :=
  if body.contains '=' then some (body.drop ((tagName body).length + 1)) else none

/-- The style that a closing tag with a name means, the innermost one if there is no name, and those
that stay open. -/
def takeOut (opened : List Opened) (body name : List Char) (place : Nat) :
    Except Refusal (Opened × List Opened) :=
  if name.isEmpty then
    match opened with
    | [] => .error (.tags (.nothingOpen place))
    | o :: outer => .ok (o, outer)
  else
    match Style.normalize name with
    | .error fault => .error (.number fault)
    | .ok style =>
      match opened.find? (·.name == style) with
      | some o => .ok (o, opened.eraseP (·.name == style))
      | none => .error (.tags (.notOpen (String.ofList body) place))

/-- The styles that are open after a tag, the innermost one first, and the parts of the text that it
leaves behind; `length` is how much of the text comes before it. -/
def follow (values : Values) (length : Nat) (opened : List Opened) (body : List Char)
    (place : Nat) : Except Refusal (List Opened × List Span) :=
  match tagName body with
  | '/' :: name =>
    match takeOut opened body (Text.trimChars name) place with
    | .error refusal => .error refusal
    | .ok (o, others) => ((o.close values length).mapError .tags).map fun spans => (others, spans)
  | name =>
    match Style.normalize name with
    | .error fault => .error (.number fault)
    | .ok style => .ok (⟨length, style, tagParameters? body⟩ :: opened, [])

/-! ## Texts -/

/-- What is seen of pieces while some styles are open; those that stay open reach to the end. -/
def showPieces (values : Values) (length : Nat) (opened : List Opened) :
    List Piece → Except Refusal Seen
  | [] => .ok ⟨[], opened.map (·.span length)⟩
  | .text cs :: ps =>
    let shown := seen (unescapeBrackets cs)
    (showPieces values (length + shown.length) opened ps).map (·.behind shown [])
  | .tag body place :: ps =>
    match follow values length opened body place with
    | .error refusal => .error refusal
    | .ok (opened, spans) => (showPieces values length opened ps).map (·.behind [] spans)

/-- What is seen of some characters. -/
def «show» (values : Values) (cs : List Char) : Except Refusal Seen :=
  if cs.contains '[' then showPieces values 0 [] (pieces cs) else .ok ⟨seen cs, []⟩

/-- Some characters in front of which every tag is made to be shown. -/
def escapeTags : List Char → List Char
  | [] => []
  | c :: cs =>
    match tagAt? (c :: cs) with
    | some t =>
      List.replicate (2 * t.escapes + 1) '\\' ++ '[' :: t.body ++ ']' ::
        escapeTags ((c :: cs).drop t.length)
    | none => c :: escapeTags cs
termination_by cs => cs.length
decreasing_by
  · simp only [TagText.length, List.length_drop, List.length_cons]; omega
  · simp

/-- Some characters with all tags made to be shown; a single backslash at the end is doubled, lest it
take effect on what follows. -/
def escape (cs : List Char) : List Char :=
  let escaped := escapeTags cs
  match escaped.reverse with
  | '\\' :: '\\' :: _ => escaped
  | '\\' :: _ => escaped ++ ['\\']
  | _ => escaped

end Markup
end Enclosure.Console
