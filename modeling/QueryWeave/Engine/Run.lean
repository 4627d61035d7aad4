import QueryWeave.Engine.Fetch

/-!
# Runs

A run goes through a document once, from its first line to its last. Directives are carried out in
order, and what they write is not looked at again: the run goes on after it. One run is one
transaction, and a failure ends it, located at the directive that failed.

A run ends because the lines that it has not looked at get fewer with every step
(`CommentStyle.length_lt_of_collect?`). A directive that fails has no change to make: the run stops
in front of the lines that it would have changed.
-/

namespace QueryWeave

open Text

/-- Where a run stands in its document. -/
structure Position where
  /-- The lines that the run has passed or written, the nearest first. -/
  above : List Text := []
  /-- The lines that the run has not looked at. -/
  rest : List Text
  gate : RangeGate
  output : Output
  deriving Repr

namespace Position

/-- The document as it is now. -/
def document (p : Position) : Document := ⟨p.above.reverse ++ p.rest⟩

/-- The index of the first line that the run has not looked at. -/
def line (p : Position) : Nat := p.above.length

/-- The position behind the first of the remaining lines, given with those after it. -/
def pass (p : Position) (line : Text) (rest : List Text) : Position :=
  { p with above := line :: p.above, rest }

/-- The position behind a comment, given the lines after it. -/
def passBlock (p : Position) (block : CommentBlock) (after : List Text) : Position :=
  { p with
    above := (p.rest.take (block.next - block.start)).reverse ++ p.above
    rest := after }

/-- The position behind what a directive has written. -/
def passSplice (p : Position) (s : Splice) (indent : Nat) (output : Output) : Position :=
  { p with
    above := (s.written indent).reverse ++ p.above
    rest := p.rest.drop s.removed
    output }

/-- A failure, located at the directive that failed. -/
def located (p : Position) (d : Directive) (cause : Failure) : Failure :=
  .directive d.keyword (d.startLine + 1) d.command (p.document.byteOffset d.startLine)
    (utf8Size ((p.document.get? d.startLine).getD [])) cause

end Position

namespace Run

variable {ω κ : Type}

/-- What was left by a run: the document, the output, and the failure that ended it. -/
structure Outcome where
  position : Position
  failure : Option Failure

/-- Carries out a directive, given the lines after it: the change of these lines, and the output. -/
def carryOut (b : Backend ω κ) (importer : Importer ω κ) (d : Directive) (output : Output)
    (lines : List Text) : Action ω κ (Splice × Output) := do
  Action.note (.began d)
  let m ← Action.fetch b importer d
  Action.ofExcept ((output.weave d m lines).mapError .shape)

/-- Goes through the rest of a document. -/
def walk (b : Backend ω κ) (importer : Importer ω κ) (p : Position) (s : Session ω κ) :
    Outcome × Session ω κ :=
  match _hp : p.rest with
  | [] => (⟨p, none⟩, s)
  | line :: rest =>
    match hc : p.output.comments.collect? p.line (line :: rest) with
    | none => walk b importer (p.pass line rest) s
    | some (block, after) =>
      have := CommentStyle.length_lt_of_collect? hc
      let q := p.passBlock block after
      match block.classify with
      | .plain => walk b importer q s
      | .unknown word =>
        walk b importer q (s.note (.warned (.unknownKeyword (block.start + 1) word)))
      | .directive d =>
        if d.keyword = .range then
          -- ranges are followed even where the gate is closed, or it could never open
          let (gate, warning) := q.gate.apply d.body
          walk b importer { q with gate } (match warning with
            | some w => s.note (.warned (.range w))
            | none => s)
        else if q.gate.active then
          match carryOut b importer d q.output after s with
          | .ok (splice, output) s => walk b importer (q.passSplice splice d.indent output) s
          | .error e s => (⟨q, some (q.located d e)⟩, s)
        else walk b importer q s
termination_by p.rest.length
decreasing_by
  all_goals
    simp only [Position.pass, Position.passBlock, Position.passSplice, _hp, List.length_drop,
      List.length_cons] at *
    omega

/-- What a run can be told about a document. -/
structure Settings where
  /-- The ranges that are carried out; all of the document if there are none. -/
  ranges : Option (List Text) := none
  /-- The name of the data file; made from the name of the document if it is not given. -/
  dataFile : Option Text := none
  deriving DecidableEq, Repr

/-- The position before the first line of a document. -/
def start (settings : Settings) (kind : DocumentKind) (name : Text) (d : Document) : Position where
  rest := d.lines
  gate := .start settings.ranges
  output := .start kind name settings.dataFile

/-- Runs a document as one transaction: the document and its output afterwards, and the failure if
there is one. When the transaction cannot even be opened, the document is not looked at. -/
def process (b : Backend ω κ) (importer : Importer ω κ) (settings : Settings) (kind : DocumentKind)
    (name : Text) (d : Document) (s : Session ω κ) : Outcome × Session ω κ :=
  let p := start settings kind name d
  match Action.startTransaction b s with
  | .error e s => (⟨p, some e⟩, s)
  | .ok _ s =>
    match walk b importer p s with
    | (⟨q, none⟩, s) =>
      match Action.commit b s with
      | .ok _ s => (⟨q, none⟩, s)
      | .error e s => (⟨q, some e⟩, s)
    | (⟨q, some e⟩, s) =>
      -- what was written before the failure stays in the document, for the report
      match Action.abandon b s with
      | .ok _ s => (⟨q, some e⟩, s)
      | .error _ s => (⟨q, some e⟩, s)

/-- Loads lines into a lasting table as one transaction. -/
def importLines (b : Backend ω κ) (importer : Importer ω κ) (lines : List Text)
    (options : ImportOptions) : Action ω κ Nat :=
  Action.inTransaction b (importer lines options false)

end Run

end QueryWeave
