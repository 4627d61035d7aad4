import QueryWeave.Proofs.Confinement
import QueryWeave.Proofs.Iteration
import QueryWeave.Proofs.Reweaving

/-!
# A run over its own output

Two runs go in lockstep: the first over the lines of a document, the second over the lines that the
first has made of them. At corresponding positions both have the same lines above, the same gate and
the same output, and their sessions differ in their transcripts alone; only the lines below differ.
What makes the second run take the same step is that it meets the same comment, not continued by the
line that follows it now, and that the change it makes there finds exactly the lines that the first
run has written.

Main statements: one step of the second run (`Run.Advance.again`), and from it the whole of it
(`Run.walk_again`).
-/

namespace QueryWeave

open Text

/-! ## What is fetched -/

namespace Action

variable {ω κ α β : Type} {b : Backend ω κ} {importer : Importer ω κ}

/-- What two actions give one after the other, the second one gives. -/
theorem bind_eq_ok {a : Action ω κ α} {f : α → Action ω κ β} {s u : Session ω κ} {y : β}
    (h : (a >>= f) s = .ok y u) : ∃ x t, a s = .ok x t ∧ f x t = .ok y u := by
  have h' : EStateM.bind a f s = .ok y u := h
  unfold EStateM.bind at h'
  cases ha : a s with
  | ok x t =>
    rw [ha] at h'
    exact ⟨x, t, rfl, h'⟩
  | error e t =>
    rw [ha] at h'
    cases h'

/-- The clause that a table is formatted with is the one of the directive. -/
private theorem clause_of_queryFormatted {body : Text} {s t : Session ω κ} {table : ResultTable}
    {r : Reformat} (h : queryFormatted b body s = .ok (table, r) t) :
    ∃ sql, Clause.ofQuery body = .ok (r.clause, sql) := by
  obtain ⟨⟨c, sql⟩, u, hsplit, h⟩ := bind_eq_ok h
  obtain ⟨table', v, -, h⟩ := bind_eq_ok h
  cases h
  cases hclause : Clause.ofQuery body with
  | error e =>
    rw [splitClause, hclause] at hsplit
    cases hsplit
  | ok p =>
    rw [splitClause, hclause] at hsplit
    cases hsplit
    exact ⟨sql, rfl⟩

/-- Rows are fetched with the clause of their directive. -/
theorem clause_of_fetch {d : Directive} {s t : Session ω κ} {style : RowStyle}
    {table : ResultTable} {r : Reformat}
    (h : fetch b importer d s = .ok (.rows style table r) t) :
    ∃ sql, Clause.ofQuery d.body = .ok (r.clause, sql) := by
  unfold fetch at h
  -- only two keywords fetch rows, and both read the clause in the same way
  cases hk : d.keyword <;> rw [hk] at h
  case range => cases h
  case sql | importData | connect | textTable | plot =>
    obtain ⟨_, _, -, h⟩ := bind_eq_ok h
    cases h
  case tabular | tabTable =>
    obtain ⟨⟨table', r'⟩, _, hrows, h⟩ := bind_eq_ok h
    cases h
    exact clause_of_queryFormatted hrows
  case multiPlot =>
    obtain ⟨_, _, -, h⟩ := bind_eq_ok h
    obtain ⟨_, _, -, h⟩ := bind_eq_ok h
    obtain ⟨_, _, -, h⟩ := bind_eq_ok h
    cases h
  case defMacro =>
    obtain ⟨⟨_, _⟩, _, -, h⟩ := bind_eq_ok h
    obtain ⟨_, _, -, h⟩ := bind_eq_ok h
    cases h

end Action

/-! ## Lockstep -/

namespace Run

variable {ω κ : Type} {b : Backend ω κ} {importer : Importer ω κ}

/-- In a run from a position, the position `q` is reached, where the directive `d` is due above the
lines of the position `r`, and the material `m` is fetched for it. -/
def Obtains (b : Backend ω κ) (importer : Importer ω κ) (p : Position) (s : Session ω κ)
    (q : Position) (d : Directive) (r : Position) (m : Material) : Prop :=
  ∃ n t u, Reaches b importer n p s q t ∧ q.look = .due d r ∧
    Action.fetch b importer d (t.note (.began d)) = .ok m u

theorem Obtains.step {p p' q r : Position} {s s' : Session ω κ} {d : Directive} {m : Material}
    (first : Advance b importer p s p' s') (h : Obtains b importer p' s' q d r m) :
    Obtains b importer p s q d r m := by
  obtain ⟨n, t, u, hreach, hrest⟩ := h
  exact ⟨n + 1, t, u, .step first hreach, hrest⟩

theorem Obtains.here {p r : Position} {s u : Session ω κ} {d : Directive} {m : Material}
    (look : p.look = .due d r)
    (fetch : Action.fetch b importer d (s.note (.began d)) = .ok m u) :
    Obtains b importer p s p d r m := ⟨0, s, u, .refl, look, fetch⟩

/-- Everything that the run from a position fetches, in order: the position where a directive is
reached, the directive, the position behind its comment, and the material. -/
def fetched (b : Backend ω κ) (importer : Importer ω κ) (p : Position) (s : Session ω κ) :
    List (Position × Directive × Position × Material) :=
  match hlook : p.look with
  | .nothing => []
  | .passed q w =>
    have := (Position.rest_of_passed hlook).2
    fetched b importer q (s.told w)
  | .due d q =>
    match hfetch : Action.fetch b importer d (s.note (.began d)) with
    | .error _ _ => []
    | .ok m t =>
      (p, d, q, m) :: match hweave : q.output.weave d m q.rest with
        | .error _ => []
        | .ok (splice, output) =>
          have := (Advance.carried hlook (carryOut_eq_ok.2 ⟨m, hfetch, hweave⟩)).rest_suffix.2
          fetched b importer (q.passSplice splice d.indent output) t
termination_by p.rest.length

/-- One iteration of the search for what is fetched. -/
private theorem fetched_eq (p : Position) (s : Session ω κ) :
    fetched b importer p s =
      match p.look with
      | .nothing => []
      | .passed q w => fetched b importer q (s.told w)
      | .due d q =>
        match Action.fetch b importer d (s.note (.began d)) with
        | .error _ _ => []
        | .ok m t =>
          (p, d, q, m) :: match q.output.weave d m q.rest with
            | .error _ => []
            | .ok (splice, output) =>
              fetched b importer (q.passSplice splice d.indent output) t := by
  rw [fetched]
  split
  · next h => simp only [h]
  · next q w h => simp only [h]
  · next d q h =>
    simp only [h]
    split
    · next e t hfetch => simp only [hfetch]
    · next m t hfetch =>
      simp only [hfetch]
      split
      · next e hweave => simp only [hweave]
      · next splice output hweave => simp only [hweave]

/-- What is fetched in a run is found in its list, so that a condition on all of it can be
checked. -/
theorem Obtains.mem_fetched {p q r : Position} {s : Session ω κ} {d : Directive} {m : Material}
    (h : Obtains b importer p s q d r m) : (q, d, r, m) ∈ fetched b importer p s := by
  obtain ⟨n, t, u, hreach, hlook, hfetch⟩ := h
  induction hreach with
  | refl =>
    rw [fetched_eq, hlook]
    simp only [hfetch]
    exact List.mem_cons_self ..
  | step first _ ih =>
    have hmem := ih hlook hfetch
    rw [fetched_eq]
    cases first with
    | passed look =>
      simp only [look]
      exact hmem
    | carried look done =>
      obtain ⟨m', hfetch', hweave⟩ := carryOut_eq_ok.1 done
      simp only [look, hfetch', hweave]
      exact List.mem_cons_of_mem _ hmem

/-- The session after a warning is like any other session after any other warning. -/
theorem alike_told {s s' : Session ω κ} (h : s.Alike s') (w w' : Option Warning) :
    (s.told w).Alike (s'.told w') := by
  cases w with
  | none =>
    cases w' with
    | none => exact h
    | some v => exact ⟨h.connection, h.world⟩
  | some v =>
    cases w' with
    | none => exact ⟨h.connection, h.world⟩
    | some v' => exact ⟨h.connection, h.world⟩

/-- An iteration does not change the name of the data file. -/
theorem Advance.quotable {p q : Position} {s t : Session ω κ} (h : Advance b importer p s q t)
    (ho : p.output.Quotable) : q.output.Quotable := by
  cases h with
  | passed look =>
    obtain ⟨first, more, gate, -, hq, -, -⟩ := Position.look_passed look
    rw [hq]
    exact ho
  | carried look done =>
    obtain ⟨first, more, -, -, hr, -⟩ := Position.look_due look
    obtain ⟨m, -, hweave⟩ := carryOut_eq_ok.1 done
    apply Output.quotable_of_weave hweave
    rw [hr]
    exact ho

/-- An iteration can be made again above the lines that it leaves, in a session that is alike. It
leaves the same lines then. -/
theorem Advance.again (hi : importer.Confined) {p q : Position} {s s' t : Session ω κ}
    (h : Advance b importer p s q t) (hs : s.Alike s') (ho : p.output.Quotable)
    (hlines : ∀ line ∈ p.rest, '\n' ∉ line)
    (hfits : ∀ q d r m, Obtains b importer p s q d r m → m.Fits r.output r.rest)
    {lines : List Text} (hhead : lines.head? = q.rest.head?) :
    ∃ written t', q.above = written.reverse ++ p.above ∧
      Advance b importer { p with rest := written ++ lines } s' { q with rest := lines } t' ∧
      t.Alike t' := by
  cases h with
  | @passed _ _ w look =>
    obtain ⟨first, more, gate, hrest, hq, -, hagain⟩ := Position.look_passed look
    -- the comment, or the line, is followed by the same line as before
    obtain ⟨w', hw'⟩ := hagain { p with rest := first :: more ++ lines } lines rfl rfl rfl
      fun line hline => .inl (hhead ▸ hline)
    have hposition : ({ ({ p with rest := first :: more ++ lines } : Position).behind
        (first :: more) lines with gate } : Position) = { q with rest := lines } := by
      rw [hq]
      rfl
    rw [hposition] at hw'
    exact ⟨first :: more, s'.told w', by rw [hq]; rfl, .passed hw', alike_told hs w w'⟩
  | @carried r _ _ d splice output look done =>
    obtain ⟨first, more, -, hrest, hr, -, -, hplace, -, -, -, hagain⟩ := Position.look_due look
    obtain ⟨m, hfetch, hweave⟩ := carryOut_eq_ok.1 done
    have houtput : r.output = p.output := by rw [hr]; rfl
    have hm : m.Fits r.output r.rest := hfits p d r m (.here look hfetch)
    have hbehind : ∀ line ∈ r.rest, '\n' ∉ line := fun line hline =>
      hlines line (hrest ▸ List.mem_append_right _ hline)
    -- the clause of the rows stands in the directive, which has no newline
    have hclause : ∀ style table f, m = .rows style table f → f.clause.IsOneLine := by
      rintro style table f rfl
      obtain ⟨sql, hclause⟩ := Action.clause_of_fetch hfetch
      exact Clause.isOneLine_of_ofQuery hclause (Position.newline_mem_body look hlines)
    have hsame := Output.weave_again hweave hm (houtput ▸ ho) hbehind hclause d.indent hhead
    -- the comment of the directive is not continued by what was written below it
    have hapart := Output.apart_of_quietRows hweave hm.quietRows
      (Output.content_ne_nil hweave hm) p.rest d.indent
    have hbelow : (splice.written d.indent ++ lines).head? =
        (splice.written d.indent ++ r.rest.drop splice.removed).head? := by
      rw [List.head?_append, List.head?_append, hhead]
      rfl
    have hlook := hagain { p with rest := first :: more ++ splice.written d.indent ++ lines }
      (splice.written d.indent ++ lines) rfl rfl (List.append_assoc ..) fun line hline =>
        houtput ▸ hapart first (by rw [hrest]; rfl) line (hbelow ▸ hline)
    have hd : d.standingAt (Position.line { p with
        rest := first :: more ++ splice.written d.indent ++ lines }) (first :: more).length = d :=
      hplace.symm
    rw [hd] at hlook
    obtain ⟨x, u, u', hu, hu', halike, -, -⟩ := Action.fetch_alike (b := b) hi hs d p.line
      (first :: more).length
    rw [← hplace] at hu'
    rw [hfetch] at hu
    cases x with
    | error e => cases hu
    | ok m' =>
      cases hu
      -- the second run fetches the same, and finds the lines that it was written as
      have hdone : carryOut b importer d p.output (splice.written d.indent ++ lines) s' =
          .ok (splice.again, output) u' := carryOut_eq_ok.2 ⟨m, hu', houtput ▸ hsame⟩
      have hposition : (Position.behind { p with
          rest := first :: more ++ splice.written d.indent ++ lines } (first :: more)
            (splice.written d.indent ++ lines)).passSplice splice.again d.indent output =
          { r.passSplice splice d.indent output with rest := lines } := by
        have hwritten : splice.again.written d.indent = splice.written d.indent := rfl
        have hdrop : (splice.written d.indent ++ lines).drop splice.again.removed = lines :=
          List.drop_left' (by rw [Splice.written, List.length_map]; rfl)
        rw [hr]
        simp only [Position.passSplice, Position.behind, hwritten, hdrop]
      refine ⟨first :: more ++ splice.written d.indent, u', ?_, ?_, halike⟩
      · rw [hr, List.reverse_append, List.append_assoc]
        rfl
      · rw [← hposition]
        exact .carried hlook hdone

/-- A run over what a successful run has made of its lines, in a session that is alike, leaves these
lines as they are, and gives the same output. -/
theorem walk_again (hi : importer.Confined) (p : Position) (s s' : Session ω κ) (hs : s.Alike s')
    (hok : (walk b importer p s).1.failure = none) (ho : p.output.Quotable)
    (hlines : ∀ line ∈ p.rest, '\n' ∉ line)
    (hfits : ∀ q d r m, Obtains b importer p s q d r m → m.Fits r.output r.rest) :
    ∃ t', walk b importer { p with rest := woven b importer p s } s' =
        (⟨(walk b importer p s).1.position, none⟩, t') ∧
      (walk b importer p s).2.Alike t' := by
  induction p, s using advance_induction b importer generalizing s' with
  | nothing p s hlook =>
    have hrest := Position.look_eq_nothing.1 hlook
    have hsame : { p with rest := woven b importer p s } = p := by
      rw [woven_nothing hlook, ← hrest]
    refine ⟨s', by rw [hsame, walk_nothing hlook, walk_nothing hlook], ?_⟩
    rw [walk_nothing hlook]
    exact hs
  | failed p s q d e t hlook hfail =>
    rw [walk_failed hlook hfail] at hok
    cases hok
  | advance p s q t hstep ih =>
    obtain ⟨written, t', habove, hstep', ht⟩ :=
      hstep.again hi hs ho hlines hfits (head_woven b importer q t)
    rw [walk_advance hstep] at hok ⊢
    obtain ⟨u, hwalk, hu⟩ := ih t' ht hok (hstep.quotable ho)
      (fun line hline => hlines line (hstep.rest_suffix.1.subset hline))
      (fun q' d r m h => hfits q' d r m (h.step hstep))
    refine ⟨u, ?_, hu⟩
    rw [woven_advance hstep habove, walk_advance hstep']
    exact hwalk

end Run

end QueryWeave
