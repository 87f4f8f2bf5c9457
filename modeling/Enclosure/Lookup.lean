import Enclosure.Backend.Basic
import Enclosure.Field.Record
import Enclosure.Text.Blank

/-!
# Searching and checking

The two questions that a back end is used for: which construct encloses a range of lines, and
whether a text is well formed.  A search that finds no tree finds nothing; only failures of a
foreign kind get past it.

What is here:

* `diagnosis`: what a check says about a failure.
* `Backend.find`: the construct around a range.
* `Backend.check`: whether a text is well formed.
-/

set_option autoImplicit false

namespace Enclosure

/-- The context of a node, which a search only finds if it has one. -/
def Node.toContext (n : Node) : Except Failure Context :=
  match n.context? with
  | some c => .ok c
  | none => .error (.foreign "ValueError" (Codes.ofString n.spanless))

namespace Text

/-- A text without the white space around it. -/
def trimCodes (xs : Codes) : Codes :=
  ((xs.dropWhile fun x => isBlankCode x.val).reverse.dropWhile fun x => isBlankCode x.val).reverse

end Text

/-- The words that some diagnoses start with. -/
def framing : Codes := Codes.ofString "Invalid: "

/-- What a check says about a failure: its message without white space around it and without the
words it may start with. -/
def diagnosis (message : Codes) : Codes :=
  let trimmed := Text.trimCodes message
  let bare := if framing.isPrefixOf trimmed then trimmed.drop framing.length else trimmed
  if bare.isEmpty then Codes.ofString "Unknown error" else bare

/-- The verdict on a text that is refused; a message with surrogates makes none. -/
def Verdict.refused (message : Codes) : Except Failure Verdict :=
  match message.toString? with
  | some s => .ok ⟨false, s⟩
  | none =>
    .error (.invalid (Fault.message ⟨[.field "error"], .brokenText, .text message⟩))

namespace Backend

/-- The construct around a range of lines. -/
def find (b : Backend) (earlier : Nat) (source : Codes) (range : LineRange) (mode : Mode)
    (kinds : Kinds) : Traced (Except Failure (Option Context)) :=
  if range.isEmpty then pure (.ok none)
  else do
    match ← b.ask earlier source with
    | .error failure =>
      if failure.isForeign then pure (.error failure)
      else
        Traced.note (.searchFailed b.name failure.message)
        pure (.ok none)
    | .ok nodes =>
      match select nodes range mode kinds with
      | none => pure (.ok none)
      | some n => pure (n.toContext.map some)

/-- Whether a text is well formed. -/
def check (b : Backend) (earlier : Nat) (source : Codes) : Traced (Except Failure Verdict) := do
  match ← b.ask earlier source with
  | .ok _ => pure (.ok ⟨true, ""⟩)
  | .error (.unparsable message _) => pure (Verdict.refused (diagnosis message))
  | .error (.unavailable message) =>
    Traced.note (.checkFailed b.name message)
    pure (Verdict.refused (diagnosis message))
  | .error failure => pure (.error failure)

end Backend
end Enclosure
