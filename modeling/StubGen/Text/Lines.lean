import StubGen.Text.Basic

/-!
# Lines

Lines end with a line feed; a carriage return right before it belongs to the line end. A text
always has a last line, which is empty when the text ends with a line feed.
-/

namespace StubGen.Text

/-- The line without the carriage return at its end, if it has one. -/
def dropReturn (line : Text) : Text := (stripEnd? ['\r'] line).getD line

/-- The lines of a text, without their line ends. -/
def lines (t : Text) : List Text := (t.splitOn '\n').map dropReturn

end StubGen.Text
