import QueryWeave.Text.White
import QueryWeave.Text.Integer

/-!
# Keywords

A comment is a directive if it begins with one of a fixed set of upper-case words.
-/

namespace QueryWeave

open Text

/-- What a directive asks for. -/
inductive Keyword
  /-- Opens or closes a named range of the document. -/
  | range
  /-- Runs a statement. -/
  | sql
  /-- Loads files into a table. -/
  | importData
  /-- Goes over to another database. -/
  | connect
  /-- Draws a result as a box table. -/
  | textTable
  /-- Plots the rows of a result as one curve. -/
  | plot
  /-- Plots the rows of a result as several curves. -/
  | multiPlot
  /-- Writes a result as rows of a LaTeX table. -/
  | tabular
  /-- Writes a result as rows between tabs. -/
  | tabTable
  /-- Defines a macro for every column of a result. -/
  | defMacro
  deriving DecidableEq, Repr

namespace Keyword

/-- All keywords. -/
def all : List Keyword :=
  [range, sql, importData, connect, textTable, plot, multiPlot, tabular, tabTable, defMacro]

/-- The word of a keyword. -/
def word : Keyword → Text
  | range => "RANGE"
  | sql => "SQL"
  | importData => "IMPORT-DATA"
  | connect => "CONNECT"
  | textTable => "TEXTTABLE"
  | plot => "PLOT"
  | multiPlot => "MULTIPLOT"
  | tabular => "TABULAR"
  | tabTable => "TABTABLE"
  | defMacro => "DEFMACRO"

/-- The keyword of a word; `MACRO` is another word for macro definitions. -/
def ofWord? (w : Text) : Option Keyword :=
  if w = "MACRO".toList then some defMacro else all.find? fun k => k.word == w

@[simp] theorem ofWord?_word (k : Keyword) : ofWord? k.word = some k := by
  cases k <;> decide

/-- A character that a keyword can have. -/
def isWordChar (c : Char) : Bool := ('A' ≤ c && c ≤ 'Z') || c == '-' || c == '_'

/-- The word at the beginning of a comment, and what follows it after one character of white space,
if there is one. -/
def split (comment : Text) : Text × Text :=
  let word := comment.takeWhile isWordChar
  match comment.dropWhile isWordChar with
  | [] => (word, [])
  | c :: rest => (word, if isWhite c then rest else c :: rest)

end Keyword

end QueryWeave
