/-!
# Lines of a text

A line ends before a newline; what stands after the last newline is a line of its own unless it is
empty. A carriage return before the newline stays in the line: whoever reads the line strips it of
blanks, and of the return with them.
-/

namespace PolledChannels.Text

/-- The lines of a text, where `taken` holds the characters of the line so far, last first. -/
def linesFrom (taken : List Char) : List Char → List (List Char)
  | [] => if taken.isEmpty then [] else [taken.reverse]
  | c :: cs => if c = '\n' then taken.reverse :: linesFrom [] cs else linesFrom (c :: taken) cs

def lines (cs : List Char) : List (List Char) := linesFrom [] cs

end PolledChannels.Text
