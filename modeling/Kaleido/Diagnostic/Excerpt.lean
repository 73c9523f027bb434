import Kaleido.Diagnostic

/-!
# Excerpts

A diagnostic shown with the line of the source that it is about and a caret under its column.
The spaces at the start of the line are left out, and the caret moves with the text. A caret that
would stand too far to the right is not shown, and there is no excerpt then.
-/
namespace Kaleido

/-- Text moved to the right edge of a field of a given width. -/
def Text.padLeft (fill : Char) (width : Nat) (text : String) : String :=
  String.ofList (List.replicate (width - text.length) fill) ++ text

namespace Diagnostic

/-- The first line of an excerpt: the name of the cause and its tip. -/
def headline (diagnostic : Diagnostic) : String :=
  match diagnostic.cause.tip? with
  | none => "Error: " ++ diagnostic.cause.name
  | some tip => "Error: " ++ diagnostic.cause.name ++ " (" ++ tip ++ ")"

/-- The line of the source that the diagnostic is about; empty if the source has no such line. -/
def sourceLine (diagnostic : Diagnostic) (source : String) : List Char :=
  ((Text.line? source diagnostic.position.line).getD "").toList

/-- The number of spaces left out at the start of a line. -/
def indentation (line : List Char) : Nat := (line.takeWhile (· = ' ')).length

/-- The width of the caret line: the caret stands at its end. -/
def caretWidth (diagnostic : Diagnostic) (line : List Char) : Nat :=
  max 1 (diagnostic.position.column.toNat - indentation line)

/-- The excerpt of a diagnostic, five lines long. -/
def excerpt (diagnostic : Diagnostic) (source file : String) : String :=
  let number := diagnostic.position.line.toNat.repr
  let margin := Text.padLeft ' ' (number.length + 2) "|"
  let line := diagnostic.sourceLine source
  diagnostic.headline ++ "\n" ++
    "-> " ++ file ++ ":" ++ diagnostic.position.text ++ "\n" ++
    margin ++ "\n" ++
    number ++ " | " ++ String.ofList (Text.trimEnd (line.drop (indentation line))) ++ "\n" ++
    margin ++ " " ++ Text.padLeft '-' (diagnostic.caretWidth line) "^" ++ "\n"

/-- The greatest width of a caret line. -/
def greatestWidth : Nat := 65535

/-- The excerpt of a diagnostic, if its caret line is not too wide. -/
def excerpt? (diagnostic : Diagnostic) (source file : String) : Option String :=
  if diagnostic.caretWidth (diagnostic.sourceLine source) ≤ greatestWidth then
    some (diagnostic.excerpt source file)
  else none

end Diagnostic

end Kaleido
