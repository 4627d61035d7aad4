import QueryWeave.Directive.Keyword
import QueryWeave.Document.Comment

/-!
# Directives

A comment block is a directive, a word that looks like a misspelled keyword, or plain prose.
-/

namespace QueryWeave

/-- A comment block with a keyword. -/
structure Directive where
  keyword : Keyword
  /-- The whole comment. -/
  command : Text
  /-- What follows the keyword. -/
  body : Text
  /-- The index of the first line of the comment. -/
  startLine : Nat
  /-- The index of the line after the comment, where its results are written. -/
  insertLine : Nat
  /-- The number of blanks before the comment marker. -/
  indent : Nat
  deriving DecidableEq, Repr

/-- What a comment block is. -/
inductive CommentClass
  | directive (d : Directive)
  /-- Begins with a word that might be meant as a keyword. -/
  | unknown (word : Text)
  | plain
  deriving DecidableEq, Repr

/-- Classifies a block by its first word. Words of at least four characters that do not begin with
a dash might be meant as keywords. -/
def CommentBlock.classify (block : CommentBlock) : CommentClass :=
  let (word, body) := Keyword.split block.text
  match Keyword.ofWord? word with
  | some keyword =>
    .directive ⟨keyword, block.text, body, block.start, block.next, block.indent⟩
  | none => if 4 ≤ word.length ∧ word.head? ≠ some '-' then .unknown word else .plain

end QueryWeave
