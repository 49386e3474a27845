/-!
# Lines of printed text

A text that is printed as a line of its own may hold line feeds, and then shows as several
lines. A carriage return before a line feed belongs to the end of its line.
-/

namespace EtherRelay.Text

/-- A line without a carriage return at its end. -/
def withoutReturn (line : List Char) : List Char :=
  if line.getLast? = some '\r' then line.dropLast else line

/-- The lines that show when a text is printed with a line feed behind it. -/
def lines (text : String) : List String :=
  (text.toList.splitOn '\n').map fun line => String.ofList (withoutReturn line)

end EtherRelay.Text
