import QueryWeave.Directive.Keyword
import QueryWeave.Document.Comment
import QueryWeave.Text.Grapheme.Cluster
import QueryWeave.Weave.Splice

/-!
# End markers

A block of table lines ends with a comment that names the directive and repeats its query. In a
later run the block reaches up to that comment, if no other comment stands before it.
-/

namespace QueryWeave

open Text

/-- The query in an end marker is shortened to this many characters. -/
def endMarkerWidth : Nat := 80

/-- How the text of an end marker begins. -/
def endWord (keyword : Keyword) : Text := "END ".toList ++ keyword.word

namespace CommentStyle

/-- The end marker of a block. -/
def endMarker (style : CommentStyle) (keyword : Keyword) (query : Text) : Text :=
  style.marker :: ' ' :: (endWord keyword ++ ' ' :: shorten endMarkerWidth query)

/-- The number of old lines before the end marker of a block that begins with these lines. -/
def blockSize? (style : CommentStyle) (keyword : Keyword) (lines : List Text) : Option Nat :=
  style.next? (endWord keyword) lines

/-- Puts new lines and an end marker in the place of an old block, its end marker included; without
an old block they are inserted. -/
def closedBlock (style : CommentStyle) (keyword : Keyword) (query : Text)
    (lines new : List Text) : Splice where
  removed := match style.blockSize? keyword lines with
    | some n => n + 1
    | none => 0
  content := new ++ [style.endMarker keyword query]

end CommentStyle

end QueryWeave
