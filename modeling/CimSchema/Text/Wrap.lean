import CimSchema.Text.Blank

/-!
# Greedy line filling

Words are put on a line as long as they fit. The width of a text is the length of its UTF-8 form.

## Main definitions

* `wrapWords` - words, filled into lines of a given width.
* `wrap` - the words of a text, filled into lines.
-/

namespace CimSchema.Text

/-- Puts `words` after the open line, as long as they fit into `width`. A word that does not fit
opens the next line, so that a word wider than `width` has a line of its own. -/
def fillLines (width : Nat) (line : String) : List String → List String
  | [] => [line]
  | word :: words =>
    if line.utf8ByteSize + 1 + word.utf8ByteSize ≤ width then
      fillLines width (line ++ " " ++ word) words
    else
      line :: fillLines width word words

/-- Words, filled into lines of at most `width` bytes. -/
def wrapWords (width : Nat) : List String → List String
  | [] => []
  | word :: words => fillLines width word words

/-- The words of `text`, filled into lines of at most `width` bytes. -/
def wrap (width : Nat) (text : String) : List String :=
  wrapWords width (words text)

end CimSchema.Text
