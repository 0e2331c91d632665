/-!
# Blanks, trimming and words

The blanks of this library are the characters with the Unicode property `White_Space`.
Text is cut into *words*, its maximal runs without a blank.

## Main definitions

* `isBlank` - the property `White_Space`.
* `trimList`, `trim` - text without the blanks at its two ends.
* `wordsList`, `words` - the words of a text, from left to right.
* `collapse` - the words of a text, joined by single spaces.
-/

namespace CimSchema.Text

/-- The characters with the Unicode property `White_Space`. -/
def isBlank (c : Char) : Bool :=
  let n := c.toNat
  (9 ≤ n && n ≤ 13) || n == 0x20 || n == 0x85 || n == 0xA0 || n == 0x1680
    || (0x2000 ≤ n && n ≤ 0x200A) || n == 0x2028 || n == 0x2029 || n == 0x202F
    || n == 0x205F || n == 0x3000

/-- The part of `cs` that is left when blanks at its end are dropped. -/
def trimEndList : List Char → List Char
  | [] => []
  | c :: cs =>
    match trimEndList cs with
    | [] => if isBlank c then [] else [c]
    | rest => c :: rest

/-- The part of `cs` that is left when blanks at both ends are dropped. -/
def trimList (cs : List Char) : List Char :=
  trimEndList (cs.dropWhile isBlank)

/-- `s` without the blanks at its two ends. -/
def trim (s : String) : String :=
  String.ofList (trimList s.toList)

/-- Whether `s` holds nothing but blanks. -/
def isBlankText (s : String) : Bool :=
  s.toList.all isBlank

/-- The maximal runs of `cs` without a blank, from left to right. -/
def wordsList : List Char → List (List Char)
  | [] => []
  | c :: cs =>
    if isBlank c then wordsList cs
    else
      match cs with
      | [] => [[c]]
      | d :: _ =>
        if isBlank d then [c] :: wordsList cs
        else
          match wordsList cs with
          | [] => [[c]]
          | w :: ws => (c :: w) :: ws

/-- The words of `s`. -/
def words (s : String) : List String :=
  (wordsList s.toList).map String.ofList

/-- The words of `s`, with one space between neighbours. -/
def collapse (s : String) : String :=
  " ".intercalate (words s)

end CimSchema.Text
