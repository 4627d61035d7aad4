import QueryWeave.Plot.Header
import QueryWeave.Proofs.ReplacedWords

/-!
# Texts of plot headers

The list of columns in front of a query for several curves is taken apart at its first closing
parenthesis, at its first bar and at all commas. Which texts are headers is said here by a grammar
(`MultiPlotHeader.Spells`) that knows of no order in which these are looked for: since none of the
characters can stand in a column, they delimit the parts wherever they are found. Reading accepts
the texts of the grammar and no others. In particular, a header can be written with white space
around each of its parts (`WrittenHeader.text`), and is read back.

Main statement: `MultiPlotHeader.read_iff_spells`.
-/

namespace QueryWeave

open Text

namespace LegendSource

theorem ofColumn?_eq_some_iff {name : Text} {source : LegendSource} :
    ofColumn? name = some source ↔ source.column? = some name := by
  constructor
  · intro h
    have hname := List.find?_some h
    exact eq_of_beq hname
  · intro h
    cases source with
    | groups => cases h
    | title =>
      cases h
      rfl
    | plainTitle =>
      cases h
      rfl

end LegendSource

namespace MultiPlotHeader

/-! ## The grammar -/

/-- What can stand in the list as a column: bare text in which no character delimits the parts. -/
structure IsColumn (name : Text) : Prop where
  bare : IsBare name
  comma : ',' ∉ name
  bar : '|' ∉ name
  closing : ')' ∉ name

instance (name : Text) : Decidable (IsColumn name) :=
  decidable_of_iff (IsBare name ∧ ',' ∉ name ∧ '|' ∉ name ∧ ')' ∉ name)
    ⟨fun ⟨hbare, hcomma, hbar, hclosing⟩ => ⟨hbare, hcomma, hbar, hclosing⟩,
      fun h => ⟨h.bare, h.comma, h.bar, h.closing⟩⟩

/-- What says where the legends come from: nothing, or the name of a column behind a bar. -/
inductive IsNote : Text → LegendSource → Prop
  | groups : IsNote [] .groups
  | title {s : Text} (hs : IsPadded s "title".toList) : IsNote ('|' :: s) .title
  | plainTitle {s : Text} (hs : IsPadded s "ptitle".toList) : IsNote ('|' :: s) .plainTitle

/-- A query is another one with the columns, joined by commas, in the place of every `MULTIPLOT`. -/
def Fills (groups : List Text) (template query : Text) : Prop :=
  ∃ pieces, IsCutAt "MULTIPLOT".toList template pieces ∧ join (join [','] groups) pieces = query

/-- The text is a header: columns between parentheses, perhaps with a note behind them, and a
query. -/
inductive Spells : Text → MultiPlotHeader → Prop
  | intro {before note rest template : Text} {names : List Text} {h : MultiPlotHeader}
    (hbefore : IsSpace before) (hne : h.groups ≠ []) (hcolumns : ∀ g ∈ h.groups, IsColumn g)
    (hnames : List.Forall₂ IsPadded names h.groups) (hnote : IsNote note h.legend)
    (hrest : IsPadded rest template) (htemplate : IsBare template)
    (hfills : Fills h.groups template h.query) :
    Spells (before ++ '(' :: (join [','] names ++ note ++ ')' :: rest)) h

/-! ## Parts -/

theorem fills_iff {groups : List Text} {template query : Text} :
    Fills groups template query ↔ fillIn groups template = query :=
  (replaceWord_eq_iff (by decide)).symm

/-- Behind a bar stands the name of a column of legends, with white space around it. -/
theorem isNote_bar_iff {s : Text} {legend : LegendSource} :
    IsNote ('|' :: s) legend ↔ LegendSource.ofColumn? (trim s) = some legend := by
  rw [LegendSource.ofColumn?_eq_some_iff]
  constructor
  · intro h
    cases h with
    | title hs | plainTitle hs =>
      rw [IsBare.trim_eq (by decide) hs]
      rfl
  · intro h
    have hs : IsPadded s (trim s) := isPadded_trim s
    cases legend with
    | groups => cases h
    | title =>
      rw [← Option.some.inj h] at hs
      exact .title hs
    | plainTitle =>
      rw [← Option.some.inj h] at hs
      exact .plainTitle hs

theorem closing_notMem_note {note : Text} {legend : LegendSource} (h : IsNote note legend) :
    ')' ∉ note := by
  intro hmem
  cases h with
  | groups => cases hmem
  | title hs | plainTitle hs =>
    rcases List.mem_cons.1 hmem with hbar | hmem
    · cases hbar
    · exact absurd (mem_of_isPadded hs (by decide) hmem) (by decide)

/-- The list ends at the first closing parenthesis. -/
theorem splitList?_eq_some_iff {body list rest : Text} :
    splitList? body = some (list, rest) ↔
      ')' ∉ list ∧ ∃ before, IsSpace before ∧ body = before ++ '(' :: (list ++ ')' :: rest) := by
  constructor
  · intro h
    unfold splitList? at h
    split at h
    · next inner hstart =>
      obtain ⟨rfl, hclosing⟩ := cut?_eq_some_iff.1 h
      refine ⟨hclosing, body.takeWhile isWhite, List.all_eq_true.1 List.all_takeWhile, ?_⟩
      rw [← hstart]
      exact List.takeWhile_append_dropWhile.symm
    · cases h
  · rintro ⟨hclosing, before, hbefore, rfl⟩
    have hstart : trimStart (before ++ '(' :: (list ++ ')' :: rest)) =
        '(' :: (list ++ ')' :: rest) := by
      refine (takeWhile_dropWhile_append _ hbefore ?_).2
      rintro _ ⟨⟩
      decide
    rw [splitList?, hstart]
    exact cut?_eq_some_iff.2 ⟨rfl, hclosing⟩

/-- The columns end at the first bar. -/
theorem splitLegend_eq_ok_iff {list columns : Text} {legend : LegendSource} :
    splitLegend list = .ok (columns, legend) ↔
      '|' ∉ columns ∧ ∃ note, IsNote note legend ∧ list = columns ++ note := by
  constructor
  · intro h
    unfold splitLegend at h
    split at h
    · next hcut =>
      cases h
      exact ⟨notMem_of_cut?_eq_none hcut, [], .groups, (List.append_nil _).symm⟩
    · next before name hcut =>
      split at h
      · next source hsource =>
        cases h
        obtain ⟨rfl, hbar⟩ := cut?_eq_some_iff.1 hcut
        exact ⟨hbar, '|' :: name, isNote_bar_iff.2 hsource, rfl⟩
      · cases h
  · rintro ⟨hbar, note, hnote, rfl⟩
    -- a note that is not empty begins with the bar at which the list is cut
    cases note with
    | nil =>
      cases hnote
      rw [List.append_nil, splitLegend, cut?_eq_none hbar]
    | cons c s =>
      have hc : c = '|' := by cases hnote <;> rfl
      subst hc
      rw [splitLegend, cut?_eq_some_iff.2 ⟨rfl, hbar⟩]
      simp only [isNote_bar_iff.1 hnote]

/-- The parts that a text is taken apart into when it is read. -/
theorem read_eq_ok_iff {body : Text} {h : MultiPlotHeader} :
    read body = .ok h ↔ ∃ list rest columns, splitList? body = some (list, rest) ∧
      splitLegend list = .ok (columns, h.legend) ∧ (columns.splitOn ',').map trim = h.groups ∧
      [] ∉ h.groups ∧ trim rest ≠ [] ∧ fillIn h.groups (trim rest) = h.query := by
  constructor
  · intro hread
    unfold read at hread
    split at hread
    · cases hread
    · next list rest hlist =>
      split at hread
      · cases hread
      · next columns legend hlegend =>
        dsimp only at hread
        split at hread
        · cases hread
        · next hblank =>
          split at hread
          · cases hread
          · next hquery =>
            cases hread
            exact ⟨list, rest, columns, hlist, hlegend, rfl, by simpa using hblank, hquery, rfl⟩
  · rintro ⟨list, rest, columns, hlist, hlegend, hgroups, hblank, hquery, hfill⟩
    rw [read, hlist]
    simp only [hlegend, hgroups, hfill]
    simp [hblank, hquery]

/-! ## Headers -/

/-- Bare texts are found again when white space is put around each of them. -/
theorem map_trim_of_forall₂ {names groups : List Text} (h : List.Forall₂ IsPadded names groups)
    (hbare : ∀ g ∈ groups, IsBare g) : names.map trim = groups := by
  induction h with
  | nil => rfl
  | cons hpadded _ ih =>
    obtain ⟨hg, hgroups⟩ := List.forall_mem_cons.1 hbare
    rw [List.map_cons, hg.trim_eq hpadded, ih hgroups]

/-- The pieces between the commas are columns with white space around them. -/
theorem map_trim_splitOn_eq_iff {columns : Text} {groups : List Text} :
    (columns.splitOn ',').map trim = groups ∧ [] ∉ groups ∧ '|' ∉ columns ∧ ')' ∉ columns ↔
      groups ≠ [] ∧ (∀ g ∈ groups, IsColumn g) ∧
        ∃ names, List.Forall₂ IsPadded names groups ∧ columns = join [','] names := by
  constructor
  · rintro ⟨rfl, hblank, hbar, hclosing⟩
    refine ⟨?_, ?_, columns.splitOn ',', ?_, (join_splitOn ',' columns).symm⟩
    · rw [ne_eq, List.map_eq_nil_iff]
      exact List.splitOnP_ne_nil _ _
    · intro g hg
      have hne : g ≠ [] := fun h => hblank (h ▸ hg)
      obtain ⟨piece, hpiece, rfl⟩ := List.mem_map.1 hg
      have hsub : ∀ c ∈ trim piece, c ∈ columns ∧ (c == ',') = false := fun c hc =>
        mem_splitOnP hpiece (trim_subset piece hc)
      exact ⟨isBare_trim hne, fun hc => absurd (hsub _ hc).2 (by decide),
        fun hc => hbar (hsub _ hc).1, fun hc => hclosing (hsub _ hc).1⟩
    · rw [List.forall₂_map_right_iff, List.forall₂_same]
      exact fun piece _ => isPadded_trim piece
  · rintro ⟨hne, hcolumns, names, hnames, rfl⟩
    obtain rfl := map_trim_of_forall₂ hnames fun g hg => (hcolumns g hg).bare
    rw [List.forall_mem_map] at hcolumns
    -- the white space around a column does not delimit anything either
    have hpad : ∀ name, ∀ c ∈ name, isWhite c = false → c ∈ trim name :=
      fun name c hmem hc => mem_of_isPadded (isPadded_trim name) hc hmem
    have hfree : ∀ c, isWhite c = false → c ≠ ',' → (∀ name ∈ names, c ∉ trim name) →
        c ∉ join [','] names := by
      intro c hc hcomma hnames hmem
      rcases mem_join hmem with hmem | ⟨name, hname, hmem⟩
      · exact hcomma (List.mem_singleton.1 hmem)
      · exact hnames name hname (hpad name c hmem hc)
    refine ⟨?_, ?_, ?_, ?_⟩
    · rw [splitOn_join (by simpa using hne)]
      exact fun name hname hmem => (hcolumns name hname).comma (hpad name ',' hmem (by decide))
    · intro hmem
      obtain ⟨name, hname, hnil⟩ := List.mem_map.1 hmem
      exact (hcolumns name hname).bare.ne_nil hnil
    · exact hfree '|' (by decide) (by decide) fun name hname => (hcolumns name hname).bar
    · exact hfree ')' (by decide) (by decide) fun name hname => (hcolumns name hname).closing

/-- A header is read from the texts that spell it, and from no others. -/
theorem read_eq_ok_iff_spells {body : Text} {h : MultiPlotHeader} :
    read body = .ok h ↔ Spells body h := by
  rw [read_eq_ok_iff]
  constructor
  · rintro ⟨list, rest, columns, hlist, hlegend, hgroups, hblank, hquery, hfill⟩
    obtain ⟨hclosing, before, hbefore, rfl⟩ := splitList?_eq_some_iff.1 hlist
    obtain ⟨hbar, note, hnote, rfl⟩ := splitLegend_eq_ok_iff.1 hlegend
    obtain ⟨hne, hcolumns, names, hnames, rfl⟩ := map_trim_splitOn_eq_iff.1
      ⟨hgroups, hblank, hbar, fun hc => hclosing (List.mem_append_left _ hc)⟩
    exact .intro hbefore hne hcolumns hnames hnote (isPadded_trim rest) (isBare_trim hquery)
      (fills_iff.2 hfill)
  · intro hspells
    cases hspells with
    | intro hbefore hne hcolumns hnames hnote hrest htemplate hfills =>
      rename_i before note rest template names
      obtain ⟨hgroups, hblank, hbar, hclosing⟩ := map_trim_splitOn_eq_iff.2
        ⟨hne, hcolumns, names, hnames, rfl⟩
      have hlist : ')' ∉ join [','] names ++ note := fun hc =>
        (List.mem_append.1 hc).elim hclosing (closing_notMem_note hnote)
      have hquery : trim rest = template := htemplate.trim_eq hrest
      refine ⟨join [','] names ++ note, rest, join [','] names, ?_, ?_, hgroups, hblank, ?_, ?_⟩
      · exact splitList?_eq_some_iff.2 ⟨hlist, before, hbefore, rfl⟩
      · exact splitLegend_eq_ok_iff.2 ⟨hbar, note, hnote, rfl⟩
      · rw [hquery]
        exact htemplate.ne_nil
      · rw [hquery]
        exact fills_iff.1 hfills

end MultiPlotHeader

/-! ## Written headers -/

/-- White space on both sides of a text. -/
structure Margin where
  before : Text
  after : Text
  isSpace_before : IsSpace before
  isSpace_after : IsSpace after

namespace Margin

/-- The text between the white space. -/
def around (m : Margin) (s : Text) : Text := m.before ++ s ++ m.after

theorem isPadded_around (m : Margin) (s : Text) : IsPadded (m.around s) s :=
  ⟨m.before, m.after, m.isSpace_before, m.isSpace_after, rfl⟩

/-- No white space on either side. -/
def none : Margin := ⟨[], [], nofun, nofun⟩

end Margin

/-- The white space in a header: in front of the list, around the columns by their number, around
the name of the column of legends, and around the query. -/
structure Spacing where
  lead : Text
  column : Nat → Margin
  legend : Margin
  query : Margin
  isSpace_lead : IsSpace lead

/-- A header as it is written, with a query that the columns have not been put into yet. -/
structure WrittenHeader where
  groups : List Text
  legend : LegendSource
  template : Text
  ne_nil : groups ≠ []
  isColumn : ∀ g ∈ groups, MultiPlotHeader.IsColumn g
  isBare : IsBare template

namespace WrittenHeader

open MultiPlotHeader

variable (w : WrittenHeader) (sp : Spacing)

/-- The columns with white space around them. -/
def names : List Text := w.groups.mapIdx fun i g => (sp.column i).around g

/-- The bar and the name of the column of legends, if there is one. -/
def note : Text :=
  match w.legend.column? with
  | some name => '|' :: sp.legend.around name
  | none => []

/-- The text of the header. -/
def text : Text :=
  sp.lead ++ '(' :: (join [','] (w.names sp) ++ w.note sp ++ ')' :: sp.query.around w.template)

theorem isPadded_names : List.Forall₂ IsPadded (w.names sp) w.groups := by
  rw [List.forall₂_iff_get]
  refine ⟨List.length_mapIdx, fun i hname hgroup => ?_⟩
  simp only [names, List.get_eq_getElem, List.getElem_mapIdx]
  exact (sp.column i).isPadded_around _

theorem isNote_note : IsNote (w.note sp) w.legend := by
  rw [note]
  cases w.legend with
  | groups => exact .groups
  | title => exact .title (sp.legend.isPadded_around _)
  | plainTitle => exact .plainTitle (sp.legend.isPadded_around _)

theorem spells_text {query : Text} (h : Fills w.groups w.template query) :
    Spells (w.text sp) ⟨w.groups, w.legend, query⟩ :=
  .intro sp.isSpace_lead w.ne_nil w.isColumn (w.isPadded_names sp) (w.isNote_note sp)
    (sp.query.isPadded_around w.template) w.isBare h

end WrittenHeader

namespace MultiPlotHeader

/-- A header is read from the texts that spell it and from no others. So however much white space
is put between the parts of a header, it is read back: its columns, the source of its legends, and
its query with the columns in the place of every `MULTIPLOT`. -/
theorem read_iff_spells :
    (∀ body h, read body = .ok h ↔ Spells body h) ∧
    ∀ (w : WrittenHeader) (sp : Spacing), ∃ query, Fills w.groups w.template query ∧
      (¬ "MULTIPLOT".toList <:+: w.template → query = w.template) ∧
      read (w.text sp) = .ok ⟨w.groups, w.legend, query⟩ := by
  refine ⟨fun body h => read_eq_ok_iff_spells, fun w sp => ?_⟩
  have hfills : Fills w.groups w.template (fillIn w.groups w.template) := fills_iff.2 rfl
  refine ⟨fillIn w.groups w.template, hfills, fun hfree => replaceWord_of_free hfree, ?_⟩
  exact read_eq_ok_iff_spells.2 (w.spells_text sp hfills)

/-- A column that is called `MULTIPLOT` itself is put into the query and not replaced there; and a
header without the word is read back. -/
theorem read_iff_spells_nested :
    read "\t( MULTIPLOT ,n| ptitle)\nSELECT MULTIPLOT".toList =
      .ok ⟨["MULTIPLOT".toList, "n".toList], .plainTitle, "SELECT MULTIPLOT,n".toList⟩ ∧
    ¬ "MULTIPLOT".toList <:+: "SELECT x".toList ∧
    read " ( a b |title)SELECT x".toList = .ok ⟨["a b".toList], .title, "SELECT x".toList⟩ := by
  have hfree : ∀ s : Text, 'M' ∉ s → ¬ "MULTIPLOT".toList <:+: s := fun s hs hheld =>
    hs (hheld.mem (List.mem_cons_self ..))
  have hpieces : IsCutAt "MULTIPLOT".toList "SELECT MULTIPLOT".toList ["SELECT ".toList, []] :=
    ⟨by decide, rfl, List.forall_mem_cons.2 ⟨hfree _ (by decide),
      List.forall_mem_cons.2 ⟨hfree _ (by decide), nofun⟩⟩⟩
  have hnames : List.Forall₂ IsPadded [" MULTIPLOT ".toList, "n".toList]
      ["MULTIPLOT".toList, "n".toList] :=
    .cons ⟨" ".toList, " ".toList, by decide, by decide, rfl⟩
      (.cons ⟨[], [], by decide, by decide, rfl⟩ .nil)
  have hrest : IsPadded "\nSELECT MULTIPLOT".toList "SELECT MULTIPLOT".toList :=
    ⟨"\n".toList, [], by decide, by decide, rfl⟩
  have hspells : Spells "\t( MULTIPLOT ,n| ptitle)\nSELECT MULTIPLOT".toList
      ⟨["MULTIPLOT".toList, "n".toList], .plainTitle, "SELECT MULTIPLOT,n".toList⟩ :=
    @Spells.intro "\t".toList "| ptitle".toList _ _ _ ⟨_, _, _⟩ (by decide) (by decide) (by decide)
      hnames (.plainTitle ⟨" ".toList, [], by decide, by decide, rfl⟩) hrest (by decide)
      ⟨_, hpieces, rfl⟩
  refine ⟨(read_iff_spells.1 _ _).2 hspells, hfree _ (by decide), ?_⟩
  let w : WrittenHeader :=
    ⟨["a b".toList], .title, "SELECT x".toList, by decide, by decide, by decide⟩
  let blank : Margin := ⟨" ".toList, " ".toList, by decide, by decide⟩
  obtain ⟨query, -, hquery, hread⟩ := read_iff_spells.2 w
    ⟨" ".toList, fun _ => blank, .none, .none, by decide⟩
  obtain rfl := hquery (hfree _ (by decide))
  exact hread

end MultiPlotHeader

end QueryWeave
