import QueryWeave.Proofs.Commands

/-!
# Comments that stay

Every handler deletes the lines that it takes for its own old ones, each by a pattern of its own.
The comments of an author stand between these lines, and a directive that is lost is lost silently.
Of the comments, only the end marker of an old table is deleted, with one exception: a line passes
for an old gnuplot assignment whatever stands before its equals sign. A comment such as
`# SQL UPDATE t SET x = 1` directly below a macro directive is lost.

Main statements: `Run.process_latex_comments`, `Run.process_gnuplot_comments`.
-/

namespace QueryWeave

open Text

/-! ## Comments of the author -/

/-- The directives whose results end with a marker. -/
def Keyword.tables : List Keyword := [.textTable, .tabular, .tabTable]

namespace CommentStyle

/-- Whether a line is a comment that begins like the end marker of a directive. -/
def isEndOf (style : CommentStyle) (keyword : Keyword) (line : Text) : Bool :=
  (style.comment? line).any (startsWith (endWord keyword))

/-- Whether a line is a comment that no table has left. -/
def isAuthored (style : CommentStyle) (line : Text) : Bool :=
  style.isComment line && !Keyword.tables.any (style.isEndOf · line)

variable {style : CommentStyle}

theorem isAuthored_of_not_comment {line : Text} (h : style.isComment line = false) :
    style.isAuthored line = false := by
  simp [isAuthored, h]

theorem isAuthored_of_isEndOf {keyword : Keyword} (hk : keyword ∈ Keyword.tables) {line : Text}
    (h : style.isEndOf keyword line = true) : style.isAuthored line = false := by
  have hany : Keyword.tables.any (style.isEndOf · line) = true := List.any_eq_true.2 ⟨_, hk, h⟩
  simp [isAuthored, hany]

/-! ## Old tables -/

/-- A search ends at the first comment, and succeeds if that is the one that is searched for. -/
theorem next?_eq_some {word : Text} {lines : List Text} {n : Nat}
    (h : style.next? word lines = some n) :
    ∃ front marker rest, lines = front ++ marker :: rest ∧ front.length = n ∧
      (∀ line ∈ front, style.isComment line = false) ∧
      (style.comment? marker).any (startsWith word) = true := by
  induction lines generalizing n with
  | nil => simp [next?] at h
  | cons line rest ih =>
    rw [next?] at h
    split at h
    · next s hs =>
      split at h
      · next hword =>
        cases h
        exact ⟨[], line, rest, rfl, rfl, by simp, by simp [hs, hword]⟩
      · cases h
    · next hnone =>
      obtain ⟨m, hm, rfl⟩ := Option.map_eq_some_iff.1 h
      obtain ⟨front, marker, below, rfl, hlength, hfront, hmarker⟩ := ih hm
      refine ⟨line :: front, marker, below, rfl, by simp [hlength], ?_, hmarker⟩
      simpa [comment?_eq_none.1 hnone] using hfront

end CommentStyle

/-- The comments among the lines that a change removes. -/
def Splice.lost (s : Splice) (style : CommentStyle) (lines : List Text) : List Text :=
  (lines.take s.removed).filter style.isComment

/-- A change loses no comment but the end marker of an old table of its directive. -/
structure Splice.Spares (s : Splice) (style : CommentStyle) (keyword : Keyword)
    (lines : List Text) : Prop where
  length : (s.lost style lines).length ≤ 1
  marker : ∀ line ∈ s.lost style lines,
    keyword ∈ Keyword.tables ∧ style.isEndOf keyword line = true

namespace Splice.Spares

variable {style : CommentStyle} {s : Splice} {keyword : Keyword} {lines : List Text}

theorem of_lost_eq_nil (h : s.lost style lines = []) : s.Spares style keyword lines where
  length := by simp [h]
  marker := by simp [h]

theorem of_silent (h : s.Silent style lines) : s.Spares style keyword lines := by
  apply of_lost_eq_nil
  simpa [lost] using h.removed

/-- An old table is removed with its marker, above which no other comment stands. -/
theorem closedBlock (hk : keyword ∈ Keyword.tables) (query : Text) (lines new : List Text) :
    (style.closedBlock keyword query lines new).Spares style keyword lines := by
  cases hsize : style.blockSize? keyword lines with
  | none =>
    apply of_lost_eq_nil
    simp [lost, CommentStyle.closedBlock, hsize]
  | some n =>
    obtain ⟨front, marker, rest, rfl, rfl, hfront, hmarker⟩ := CommentStyle.next?_eq_some hsize
    have htake : (front ++ marker :: rest).take (front.length + 1) = front ++ [marker] := by
      simp [List.take_append, List.take_of_length_le]
    have hlost : (style.closedBlock keyword query (front ++ marker :: rest) new).lost style
        (front ++ marker :: rest) = [marker].filter style.isComment := by
      have hnone : front.filter style.isComment = [] := by simpa using hfront
      simp only [lost, CommentStyle.closedBlock, hsize, htake, List.filter_append, hnone,
        List.nil_append]
    constructor
    · rw [hlost]
      exact List.length_filter_le ..
    · rw [hlost]
      intro line hline
      cases List.mem_singleton.1 (List.mem_filter.1 hline).1
      exact ⟨hk, hmarker⟩

/-- What is spared is every comment of the author. -/
theorem isAuthored_eq_false (h : s.Spares style keyword lines) :
    ∀ line ∈ lines.take s.removed, style.isAuthored line = false := by
  intro line hline
  cases hcomment : style.isComment line with
  | false => exact CommentStyle.isAuthored_of_not_comment hcomment
  | true =>
    obtain ⟨hk, hend⟩ := h.marker line (List.mem_filter.2 ⟨hline, hcomment⟩)
    exact CommentStyle.isAuthored_of_isEndOf hk hend

end Splice.Spares

/-! ## What a change removes -/

/-- The directives that fetch a material. -/
def Material.keywords : Material → List Keyword
  | .nothing => [.range, .sql, .importData, .connect]
  | .box _ => [.textTable]
  | .rows style .. => [style.keyword]
  | .points _ => [.plot]
  | .curves _ => [.multiPlot]
  | .macros _ => [.defMacro]

theorem Action.mem_keywords_of_fetch {ω κ : Type} {b : Backend ω κ} {importer : Importer ω κ}
    {d : Directive} {s t : Session ω κ} {m : Material} (h : fetch b importer d s = .ok m t) :
    d.keyword ∈ m.keywords := by
  unfold fetch at h
  -- each keyword has one material, which the last of its steps gives
  cases hk : d.keyword <;> rw [hk] at h
  case range =>
    cases h
    simp [Material.keywords]
  case sql | importData | connect | textTable | plot | tabular | tabTable =>
    obtain ⟨_, _, -, h⟩ := bind_eq_ok h
    cases h
    simp [Material.keywords, RowStyle.keyword]
  case multiPlot =>
    obtain ⟨_, _, -, h⟩ := bind_eq_ok h
    obtain ⟨_, _, -, h⟩ := bind_eq_ok h
    obtain ⟨_, _, -, h⟩ := bind_eq_ok h
    cases h
    simp [Material.keywords]
  case defMacro =>
    obtain ⟨_, _, -, h⟩ := bind_eq_ok h
    obtain ⟨_, _, -, h⟩ := bind_eq_ok h
    cases h
    simp [Material.keywords]

namespace Output

variable {o output : Output} {d : Directive} {m : Material} {lines : List Text} {splice : Splice}

/-- A change spares the comments, unless it writes gnuplot macros. -/
theorem spares_of_weave (hk : d.keyword ∈ m.keywords)
    (hmacros : o.kind = .gnuplot → d.keyword ≠ .defMacro)
    (h : o.weave d m lines = .ok (splice, output)) :
    splice.Spares o.comments d.keyword lines := by
  cases m with
  | nothing =>
    cases h
    exact .of_lost_eq_nil rfl
  | box t =>
    cases h
    rw [List.mem_singleton.1 hk]
    exact .closedBlock (by decide) ..
  | rows style t r =>
    cases h
    have htables : style.keyword ∈ Keyword.tables := by cases style <;> decide
    rw [List.mem_singleton.1 hk]
    exact .closedBlock htables ..
  | points rows =>
    cases o with
    | latex =>
      cases h
      exact .of_silent (Latex.plot_silent (by decide) rows lines)
    | gnuplot f =>
      cases h
      exact .of_silent (gnuplot_silent f _ lines)
  | curves p =>
    cases o with
    | latex =>
      cases h
      exact .of_silent (Latex.multiPlot_silent (by decide) p lines)
    | gnuplot f =>
      cases h
      exact .of_silent (gnuplot_silent f _ lines)
  | macros ms =>
    cases o with
    | latex =>
      obtain ⟨change, hchange, heq⟩ := Except.map_eq_ok h
      cases heq
      exact .of_silent (Latex.defMacro_silent (by decide) hchange)
    | gnuplot f => exact absurd (List.mem_singleton.1 hk) (hmacros rfl)

/-- gnuplot macros take the place of whatever looks like assignments. -/
theorem take_removed_of_weave (hk : d.keyword ∈ m.keywords) (ho : o.kind = .gnuplot)
    (hmacros : d.keyword = .defMacro) (h : o.weave d m lines = .ok (splice, output)) :
    lines.take splice.removed = lines.takeWhile Fragment.isAssignment := by
  rw [hmacros] at hk
  cases m with
  | macros ms =>
    cases o with
    | latex => cases ho
    | gnuplot f =>
      obtain ⟨change, hchange, heq⟩ := Except.map_eq_ok h
      obtain ⟨new, -, rfl⟩ := Except.map_eq_ok hchange
      cases heq
      exact (List.prefix_iff_eq_take.1 (List.takeWhile_prefix _)).symm
  | rows style => cases style <;> simp [Material.keywords, RowStyle.keyword] at hk
  | nothing | box | points | curves => simp [Material.keywords] at hk

end Output

/-! ## What a run keeps -/

namespace Run

variable {ω κ : Type} {b : Backend ω κ} {importer : Importer ω κ}

/-- Lines that no change removes stay, in their order. -/
theorem filter_sublist_woven {keep : Text → Bool} (p : Position) (s : Session ω κ)
    (h : ∀ q d r splice, Writes b importer p s q d r splice →
      ∀ line ∈ r.rest.take splice.removed, keep line = false) :
    (p.rest.filter keep).Sublist (woven b importer p s) := by
  induction p, s using run_induction b importer with
  | nothing p s hlook =>
    rw [Position.look_eq_nothing.1 hlook]
    exact List.nil_sublist _
  | passed p s q w hlook ih =>
    obtain ⟨first, more, gate, hrest, hq, -⟩ := Position.look_passed hlook
    have hwoven : woven b importer p s = first :: more ++ woven b importer q (s.told w) :=
      woven_advance (.passed hlook) (by rw [hq]; rfl)
    have hlater := ih fun q' d r splice hw => h q' d r splice (hw.step (.passed hlook))
    rw [hrest, hwoven, List.filter_append]
    exact List.filter_sublist.append hlater
  | failed p s q d e t hlook hfail =>
    rw [woven_failed hlook hfail]
    exact List.filter_sublist
  | carried p s q d splice output t hlook hdone ih =>
    obtain ⟨first, more, -, hrest, hq, -⟩ := Position.look_due hlook
    have habove : (q.passSplice splice d.indent output).above =
        (first :: more ++ splice.written d.indent).reverse ++ p.above := by
      rw [hq, List.reverse_append, List.append_assoc]
      rfl
    have hwoven := woven_advance (.carried hlook hdone) habove
    have hlater := ih fun q' d' r splice' hw => h q' d' r splice' (hw.step (.carried hlook hdone))
    -- of the lines below the comment, the removed ones need not stay
    have hremoved : (q.rest.take splice.removed).filter keep = [] := by
      simpa using h p d q splice (.here hlook hdone)
    have hbelow := congrArg (List.filter keep) (List.take_append_drop splice.removed q.rest)
    rw [List.filter_append, hremoved, List.nil_append] at hbelow
    rw [hrest, hwoven, List.filter_append, ← hbelow, List.append_assoc]
    exact List.filter_sublist.append (hlater.trans (List.sublist_append_right ..))

variable {settings : Settings} {kind : DocumentKind} {name : Text} {input : Document}
  {s : Session ω κ}

theorem filter_sublist_process {keep : Text → Bool}
    (h : ∀ q d r splice, Changes b importer settings kind name input s q d r splice →
      ∀ line ∈ r.rest.take splice.removed, keep line = false) :
    (input.lines.filter keep).Sublist
      (process b importer settings kind name input s).1.position.document.lines := by
  cases hopen : Action.startTransaction b s with
  | error e t =>
    rw [position_process_of_refused hopen]
    exact List.filter_sublist
  | ok x t =>
    rw [position_process hopen, walk_document]
    exact filter_sublist_woven (start settings kind name input) t
      fun q d r splice hw => h q d r splice ⟨t, hopen, hw⟩

theorem Changes.exists_weave {q r : Position} {d : Directive} {splice : Splice}
    (h : Changes b importer settings kind name input s q d r splice) :
    r.output.kind = kind ∧ ∃ m output, d.keyword ∈ m.keywords ∧
      r.output.weave d m r.rest = .ok (splice, output) := by
  obtain ⟨t, hopen, m, output, hobtains, hweave⟩ := h
  have hkind : r.output.kind = kind := Fetches.kind_eq ⟨t, hopen, hobtains⟩
  obtain ⟨n, t', u, -, -, hfetch⟩ := hobtains
  exact ⟨hkind, m, output, Action.mem_keywords_of_fetch hfetch, hweave⟩

/-- A directive spares the comments, unless it writes gnuplot macros. -/
theorem Changes.spares {q r : Position} {d : Directive} {splice : Splice}
    (h : Changes b importer settings kind name input s q d r splice)
    (hmacros : kind = .gnuplot → d.keyword ≠ .defMacro) :
    splice.Spares ⟨kind.marker⟩ d.keyword r.rest := by
  obtain ⟨rfl, m, output, hk, hweave⟩ := h.exists_weave
  exact Output.spares_of_weave hk hmacros hweave

/-! ## The two kinds of documents -/

/-- A LaTeX document keeps the comments of its author, unchanged and in their order, whether its run
succeeds or not. Of the other comments, a directive loses at most the end marker of its
old table. -/
theorem process_latex_comments (b : Backend ω κ) (importer : Importer ω κ) (settings : Settings)
    (name : Text) (input : Document) (s : Session ω κ) :
    (input.lines.filter (CommentStyle.isAuthored ⟨'%'⟩)).Sublist
      (process b importer settings .latex name input s).1.position.document.lines ∧
    ∀ q d r splice, Changes b importer settings .latex name input s q d r splice →
      splice.Spares ⟨'%'⟩ d.keyword r.rest := by
  have spared : ∀ q d r splice, Changes b importer settings .latex name input s q d r splice →
      splice.Spares ⟨'%'⟩ d.keyword r.rest := fun q d r splice h => h.spares nofun
  exact ⟨filter_sublist_process fun q d r splice h => (spared q d r splice h).isAuthored_eq_false,
    spared⟩

/-- A gnuplot document keeps the comments of its author that do not look like assignments. The
others are lost where they stand among the assignments directly below a macro directive. If none
stands there, all comments of the author are kept, unchanged and in their order. -/
theorem process_gnuplot_comments (b : Backend ω κ) (importer : Importer ω κ) (settings : Settings)
    (name : Text) (input : Document) (s : Session ω κ) :
    let lines := (process b importer settings .gnuplot name input s).1.position.document.lines
    (input.lines.filter fun line =>
      CommentStyle.isAuthored ⟨'#'⟩ line && !Fragment.isAssignment line).Sublist lines ∧
    (∀ q d r splice, Changes b importer settings .gnuplot name input s q d r splice →
      if d.keyword = .defMacro then
        r.rest.take splice.removed = r.rest.takeWhile Fragment.isAssignment
      else splice.Spares ⟨'#'⟩ d.keyword r.rest) ∧
    ((∀ q d r splice, Changes b importer settings .gnuplot name input s q d r splice →
      d.keyword = .defMacro → ∀ line ∈ r.rest.takeWhile Fragment.isAssignment,
        CommentStyle.isAuthored ⟨'#'⟩ line = false) →
      (input.lines.filter (CommentStyle.isAuthored ⟨'#'⟩)).Sublist lines) := by
  intro lines
  have removed : ∀ q d r splice, Changes b importer settings .gnuplot name input s q d r splice →
      if d.keyword = .defMacro then
        r.rest.take splice.removed = r.rest.takeWhile Fragment.isAssignment
      else splice.Spares ⟨'#'⟩ d.keyword r.rest := by
    intro q d r splice h
    split
    · next hmacros =>
      obtain ⟨hkind, m, output, hk, hweave⟩ := h.exists_weave
      exact Output.take_removed_of_weave hk hkind hmacros hweave
    · next hmacros => exact h.spares fun _ => hmacros
  refine ⟨?_, removed, fun hnone => ?_⟩
  · apply filter_sublist_process
    intro q d r splice h line hline
    have hremoved := removed q d r splice h
    split at hremoved
    · -- the line is among the assignments
      rw [hremoved] at hline
      have hassignment := List.all_eq_true.1 List.all_takeWhile line hline
      simp [hassignment]
    · have hauthored := hremoved.isAuthored_eq_false line hline
      simp [hauthored]
  · apply filter_sublist_process
    intro q d r splice h line hline
    have hremoved := removed q d r splice h
    split at hremoved
    · next hmacros =>
      rw [hremoved] at hline
      exact hnone q d r splice h hmacros line hline
    · exact hremoved.isAuthored_eq_false line hline

/-- A comment below the assignments of a macro directive, which are renewed. -/
theorem process_gnuplot_comments_below_macro :
    let input : Document := ⟨["# DEFMACRO SELECT 1 AS n".toList, "n = 2".toList,
      "# after the macro".toList, "# SQL UPDATE t SET x = 1".toList]⟩
    let s := Rehearsal.session [.result ["n".toList] [[some "1".toList]] none]
    (input.lines.filter (CommentStyle.isAuthored ⟨'#'⟩)).Sublist
      (process Rehearsal.backend (Importer.resultLines Rehearsal.backend) {} .gnuplot "doc".toList
        input s).1.position.document.lines := by
  intro input s
  have hchecked : ∀ x ∈ fetchedBy Rehearsal.backend (Importer.resultLines Rehearsal.backend) {}
      .gnuplot "doc".toList input s, ∀ line ∈ x.2.2.1.rest.takeWhile Fragment.isAssignment,
        CommentStyle.isAuthored ⟨'#'⟩ line = false := by decide +kernel
  apply (process_gnuplot_comments Rehearsal.backend (Importer.resultLines Rehearsal.backend) {}
    "doc".toList input s).2.2
  intro q d r splice h _
  obtain ⟨m, output, hmem, -⟩ := h.mem_fetchedBy
  exact hchecked _ hmem

/-- A directive below a macro directive that looks like an assignment is lost: it is neither kept
nor begun, and the run succeeds. -/
theorem directive_lost_below_macro :
    let input : Document := ⟨["# DEFMACRO SELECT 1 AS n".toList,
      "# SQL UPDATE t SET x = 1".toList]⟩
    let s := Rehearsal.session [.result ["n".toList] [[some "1".toList]] none]
    let run := process Rehearsal.backend (Importer.resultLines Rehearsal.backend) {} .gnuplot
      "doc".toList input s
    run.1.failure.isNone = true ∧
      run.1.position.document.lines = ["# DEFMACRO SELECT 1 AS n".toList, "n = 1".toList] ∧
      ¬ (input.lines.filter (CommentStyle.isAuthored ⟨'#'⟩)).Sublist
        run.1.position.document.lines ∧
      run.2.begun = ["DEFMACRO SELECT 1 AS n".toList] := by
  intro input s run
  have hlines : run.1.position.document.lines =
      ["# DEFMACRO SELECT 1 AS n".toList, "n = 1".toList] := by decide +kernel
  have hauthored : input.lines.filter (CommentStyle.isAuthored ⟨'#'⟩) = input.lines := by
    decide +kernel
  refine ⟨by decide +kernel, hlines, ?_, by decide +kernel⟩
  rw [hlines, hauthored]
  intro hkept
  exact absurd (hkept.subset (List.mem_cons_of_mem _ (List.mem_singleton_self _))) (by decide)

end Run

end QueryWeave
