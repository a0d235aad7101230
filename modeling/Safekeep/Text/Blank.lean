/-!
# Blank characters

`isBlank` is the Unicode White_Space property: the 25 code points TAB to CR, space, NEL, NBSP,
the Ogham space mark, the en quad to the hair space, the line and paragraph separators, the
narrow and medium mathematical spaces and the ideographic space. `trim` drops blanks at both
ends of a text and `words` cuts a text at every run of blanks, keeping the non-empty pieces.
-/

namespace Safekeep.Text

def isBlank (c : Char) : Bool :=
  let n := c.toNat
  (0x09 ≤ n && n ≤ 0x0D) || n == 0x20 || n == 0x85 || n == 0xA0 || n == 0x1680 ||
    (0x2000 ≤ n && n ≤ 0x200A) || n == 0x2028 || n == 0x2029 || n == 0x202F ||
    n == 0x205F || n == 0x3000

def trimList (cs : List Char) : List Char :=
  ((cs.dropWhile isBlank).reverse.dropWhile isBlank).reverse

def trim (s : String) : String :=
  String.ofList (trimList s.toList)

def trimStart (s : String) : String :=
  String.ofList (s.toList.dropWhile isBlank)

/-- Cut at blanks: `cur` is the word being read, reversed. -/
def wordsFrom (cur : List Char) : List Char → List (List Char)
  | [] => if cur.isEmpty then [] else [cur.reverse]
  | c :: rest =>
    if isBlank c then
      if cur.isEmpty then wordsFrom [] rest else cur.reverse :: wordsFrom [] rest
    else wordsFrom (c :: cur) rest

def wordList (cs : List Char) : List (List Char) :=
  wordsFrom [] cs

/-- The words of a text: its maximal runs of non-blank characters. -/
def words (s : String) : List String :=
  (wordList s.toList).map String.ofList

end Safekeep.Text
