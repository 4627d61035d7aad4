import QueryWeave.Proofs.Replay

/-!
# A later run that follows a run

Where the results of a database are any texts, the second of two runs is not in lockstep with the
first: it has to find its way through whatever it does not recognise of an old fragment.
`Run.Follows` relates the positions of the two runs by the comments that are still to come, and each
iteration of the first run preserves it (`Follows.passed`, `Follows.begin_again`). What happens in
between depends on the lines that are left of the old fragment: without directives they are passed
(`Run.walk_undirected`, `Follows.resume`), and otherwise one of them is begun (`Run.walk_directed`).

Main statements: `Run.walk_begun`, `Run.Follows.begin_again`.
-/

namespace QueryWeave

open Text

/-! ## Comments at a position -/

namespace Position

/-- A comment that begins with no keyword is passed. -/
private theorem judge_remark {q : Position} {block : CommentBlock}
    (h : Keyword.ofComment? block.text = none) : ∃ w, q.judge block = .passed q w := by
  simp only [judge]
  split
  · exact ⟨_, rfl⟩
  · exact ⟨_, rfl⟩
  · next d hd => exact absurd hd (CommentBlock.classify_ne_directive h d)

/-- Behind an open gate, a comment that begins with a keyword is due, unless it is about a range. -/
private theorem judge_keyword {q : Position} {block : CommentBlock} {k : Keyword}
    (h : Keyword.ofComment? block.text = some k) (hrange : k ≠ .range)
    (hactive : q.gate.active = true) :
    ∃ d, q.judge block = .due d q ∧ d.command = block.text := by
  obtain ⟨d, hclass, rfl, hcommand⟩ := CommentBlock.classify_of_ofComment? h
  exact ⟨d, by simp only [judge, hclass, hrange, hactive, if_true, if_false], hcommand⟩

/-- Lines of which the last does not join those below are looked at by themselves: the position
passes a line that is no comment, or it judges the first of their comments. The lines after it do
not join those below either. -/
private theorem look_of_append {p : Position} {left others : List Text}
    (hrest : p.rest = left ++ others) (hne : left ≠ [])
    (hlast : ∀ line, left.getLast? = some line → p.output.comments.indent? 2 line = none) :
    ∃ front after, left = front ++ after ∧ after.length < left.length ∧
      (∀ line, after.getLast? = some line → p.output.comments.indent? 2 line = none) ∧
      (p.output.comments.remarks left = p.output.comments.remarks after ∧
          p.look = .passed (p.behind front (after ++ others)) none ∨
        ∃ block, p.output.comments.remarks left =
            block.text :: p.output.comments.remarks after ∧
          p.look = (p.behind front (after ++ others)).judge block) := by
  have hafter : ∀ first more after, left = first :: more ++ after →
      after.length < left.length ∧
        ∀ line, after.getLast? = some line → p.output.comments.indent? 2 line = none := by
    rintro first more after rfl
    constructor
    · simp only [List.length_append, List.length_cons]
      omega
    · intro line hline
      apply hlast line
      rw [List.getLast?_append, hline]
      rfl
  cases hcollect : p.output.comments.collect? p.line left with
  | none =>
    -- the first of the lines is no comment
    obtain ⟨line, after, rfl⟩ := List.exists_cons_of_ne_nil hne
    have hline := CommentStyle.collect?_eq_none.1 hcollect
    obtain ⟨hlt, hlast'⟩ := hafter line [] after rfl
    exact ⟨[line], after, rfl, hlt, hlast',
      .inl ⟨CommentStyle.remarks_cons hline after, look_of_not_comment hrest hline⟩⟩
  | some found =>
    obtain ⟨block, after⟩ := found
    obtain ⟨first, more, hlines, -, hmore, -, -, hagain⟩ := CommentStyle.collect?_eq_some hcollect
    -- the last of the lines carries no doubled marker, so the comment ends with it
    have hstop : ∀ line, (after ++ others).head? = some line → after.head? = some line ∨
        p.output.comments.continues first line = false := by
      intro line hline
      cases after with
      | cons l ls => exact .inl hline
      | nil =>
        right
        rw [Bool.eq_false_iff]
        intro hcontinues
        obtain ⟨i, hfirst, -⟩ := CommentStyle.continues_iff.1 hcontinues
        rw [hlines, List.append_nil] at hlast
        cases more with
        | nil =>
          rw [hlast first rfl] at hfirst
          cases hfirst
        | cons l ls =>
          have hmem := List.getLast_mem (List.cons_ne_nil l ls)
          obtain ⟨j, -, hj⟩ := CommentStyle.continues_iff.1 (hmore _ hmem)
          have hend :
              (first :: l :: ls).getLast? = some ((l :: ls).getLast (List.cons_ne_nil l ls)) :=
            List.getLast?_eq_some_getLast (List.cons_ne_nil first (l :: ls))
          rw [hlast _ hend] at hj
          cases hj
    have hcollect' := hagain p.line (after ++ others) hstop
    have hrest' : p.rest = first :: more ++ (after ++ others) := by
      rw [hrest, hlines, List.append_assoc]
    rw [← hrest'] at hcollect'
    have hremarks := CommentStyle.remarks_collect hcollect
    obtain ⟨hlt, hlast'⟩ := hafter first more after hlines
    exact ⟨first :: more, after, hlines, hlt, hlast',
      .inr ⟨block.standingAt p.line (first :: more).length, hremarks,
        look_of_collect? hcollect' hrest' rfl rfl⟩⟩

end Position

/-- A warning begins no directive. -/
theorem Session.begun_told {ω κ : Type} (s : Session ω κ) (w : Option Warning) :
    (s.told w).begun = s.begun := by
  cases w with
  | none => rfl
  | some v => exact Session.begun_note rfl

namespace Run

variable {ω κ : Type} {b : Backend ω κ} {importer : Importer ω κ}

/-! ## Directives that are begun -/

/-- A text is a directive among the comments of the lines, wherever these are cut. -/
structure IsCommand (style : CommentStyle) (lines : List Text) (text : Text) : Prop where
  block : ∃ rest, rest <:+ lines ∧ ∃ start block after,
    style.collect? start rest = some (block, after) ∧ block.text = text
  keyword : Keyword.ofComment? text ≠ none

/-- To carry out a directive is to begin it, and no other one. -/
theorem begun_of_carryOut (hi : importer.Confined) {d : Directive} {o : Output}
    {lines : List Text} {s t : Session ω κ} :
    (∀ r, carryOut b importer d o lines s = .ok r t → t.begun = s.begun ++ [d.command]) ∧
      ∀ e, carryOut b importer d o lines s = .error e t → t.begun = s.begun ++ [d.command] := by
  obtain ⟨x, u, -, hu, -, -, hbegun, -⟩ := Action.fetch_alike (b := b) hi (.refl s) d 0 0
  rw [carryOut_eq, hu]
  cases x with
  | error e' =>
    constructor
    · intro r h
      cases h
    · intro e h
      cases h
      exact hbegun
  | ok m =>
    simp only [Action.outcome]
    cases o.weave d m lines with
    | error e' =>
      constructor
      · intro r h
        cases h
      · intro e h
        cases h
        exact hbegun
    | ok r' =>
      constructor
      · intro r h
        cases h
        exact hbegun
      · intro e h
        cases h

/-- The commands of a run are comments of the lines before it that begin with a keyword. -/
theorem walk_begun (hi : importer.Confined) (p : Position) (s : Session ω κ) :
    ∃ commands, (walk b importer p s).2.begun = s.begun ++ commands ∧
      ∀ c ∈ commands, IsCommand p.output.comments p.rest c := by
  -- a directive that is due is a comment of the lines, and so is one of a later position
  have here : ∀ {p q : Position} {d : Directive}, p.look = .due d q →
      IsCommand p.output.comments p.rest d.command := by
    intro p q d hlook
    obtain ⟨first, more, block, -, -, hcollect, hclass, -⟩ := Position.look_due hlook
    have htext : block.text = d.command :=
      (CommentBlock.classify_eq_directive hclass).2.2.2.1.symm
    refine ⟨⟨p.rest, List.suffix_rfl, p.line, block, q.rest, hcollect, htext⟩, ?_⟩
    rw [← htext]
    exact fun hnone => CommentBlock.classify_ne_directive hnone d hclass
  have later : ∀ {p q : Position} {s t : Session ω κ} {c : Text}, Advance b importer p s q t →
      IsCommand q.output.comments q.rest c → IsCommand p.output.comments p.rest c := by
    intro p q s t c hstep h
    obtain ⟨rest, hrest, start, block, after, hcollect, htext⟩ := h.block
    rw [Output.comments, hstep.kind_eq] at hcollect
    exact ⟨⟨rest, hrest.trans hstep.rest_suffix.1, start, block, after, hcollect, htext⟩, h.keyword⟩
  induction p, s using run_induction b importer with
  | nothing p s hlook =>
    refine ⟨[], ?_, fun c hc => absurd hc List.not_mem_nil⟩
    rw [walk_nothing hlook, List.append_nil]
  | passed p s q w hlook ih =>
    obtain ⟨commands, hbegun, hblocks⟩ := ih
    refine ⟨commands, ?_, fun c hc => later (.passed (s := s) hlook) (hblocks c hc)⟩
    rw [walk_passed hlook, ← s.begun_told w]
    exact hbegun
  | failed p s q d e t hlook hfail =>
    refine ⟨[d.command], ?_, fun c hc => ?_⟩
    · rw [walk_failed hlook hfail]
      exact (begun_of_carryOut hi).2 e hfail
    · cases List.mem_singleton.1 hc
      exact here hlook
  | carried p s q d splice output t hlook hdone ih =>
    obtain ⟨commands, hbegun, hblocks⟩ := ih
    refine ⟨d.command :: commands, ?_, fun c hc => ?_⟩
    · rw [walk_carried hlook hdone, hbegun, (begun_of_carryOut hi).1 _ hdone, List.append_assoc]
      rfl
    · rcases List.mem_cons.1 hc with rfl | hc
      · exact here hlook
      · exact later (.carried hlook hdone) (hblocks c hc)

/-- A directive that is due is the first one to be begun. -/
theorem begun_of_due (hi : importer.Confined) {p q : Position} (s : Session ω κ)
    {d : Directive} (look : p.look = .due d q) :
    ∃ post, (walk b importer p s).2.begun = s.begun ++ d.command :: post := by
  cases hdone : carryOut b importer d q.output q.rest s with
  | error e t =>
    rw [walk_failed look hdone]
    exact ⟨[], (begun_of_carryOut hi).2 e hdone⟩
  | ok r t =>
    obtain ⟨splice, output⟩ := r
    obtain ⟨commands, hbegun, -⟩ :=
      walk_begun (b := b) hi (q.passSplice splice d.indent output) t
    refine ⟨commands, ?_⟩
    rw [walk_carried look hdone, hbegun, (begun_of_carryOut hi).1 _ hdone, List.append_assoc]
    rfl

/-- A directive that cannot be carried out cannot be carried out later either, wherever it stands
then. -/
private theorem carryOut_error_alike (hi : importer.Confined) {s s' t : Session ω κ}
    (hs : s.Alike s') {d : Directive} {o : Output} {lines : List Text} {e : Failure}
    (h : carryOut b importer d o lines s = .error e t) (start length : Nat) (others : List Text) :
    ∃ t', carryOut b importer (d.standingAt start length) o others s' = .error e t' := by
  obtain ⟨r, u, u', hu, hu', -, -, -⟩ := Action.fetch_alike (b := b) hi hs d start length
  rw [carryOut_eq, hu] at h
  rw [carryOut_eq, hu']
  cases r with
  | error e' =>
    cases h
    exact ⟨u', rfl⟩
  | ok m =>
    simp only [Action.outcome] at h ⊢
    cases hweave : o.weave d m lines with
    | ok r =>
      rw [hweave] at h
      cases h
    | error e' =>
      rw [hweave] at h
      cases h
      have hweave' : o.weave (d.standingAt start length) m others = .error e' :=
        Output.weave_error hweave others
      exact ⟨u', by rw [hweave']⟩

/-! ## On the way through lines that are left -/

/-- A run gets from one position to another, where it has `lines` before it, without having begun a
directive on its way. -/
structure ComesTo (b : Backend ω κ) (importer : Importer ω κ) (p : Position) (s : Session ω κ)
    (lines : List Text) (q : Position) (t : Session ω κ) : Prop where
  walk : walk b importer p s = walk b importer q t
  rest : q.rest = lines
  gate : q.gate = p.gate
  output : q.output = p.output
  alike : s.Alike t
  begun : t.begun = s.begun

/-- A run gets through lines without directives, if the last of them does not join the lines
below. -/
theorem walk_undirected (b : Backend ω κ) (importer : Importer ω κ) (p : Position)
    (s : Session ω κ) {left others : List Text}
    (hrest : p.rest = left ++ others) (hleft : p.output.comments.Undirected left)
    (hlast : ∀ line, left.getLast? = some line → p.output.comments.indent? 2 line = none) :
    ∃ q t, ComesTo b importer p s others q t := by
  induction hn : left.length using Nat.strongRecOn generalizing p s left with
  | ind n ih =>
    by_cases hne : left = []
    · subst hne
      exact ⟨p, s, rfl, hrest, rfl, rfl, .refl s, rfl⟩
    · obtain ⟨front, after, rfl, hlt, hlast', hlook⟩ := Position.look_of_append hrest hne hlast
      -- a line that is no comment is passed, and so is a comment that is no directive
      have hpassed : p.output.comments.Undirected after ∧
          ∃ w, p.look = .passed (p.behind front (after ++ others)) w := by
        rcases hlook with ⟨hremarks, hlook⟩ | ⟨block, hremarks, hlook⟩
        · rw [CommentStyle.Undirected, hremarks] at hleft
          exact ⟨hleft, none, hlook⟩
        · rw [CommentStyle.Undirected, hremarks, List.forall_mem_cons] at hleft
          obtain ⟨w, hw⟩ := Position.judge_remark hleft.1
          exact ⟨hleft.2, w, hlook.trans hw⟩
      obtain ⟨hafter, w, hw⟩ := hpassed
      obtain ⟨q, t, h⟩ :=
        ih after.length (hn ▸ hlt) (p.behind front (after ++ others)) (s.told w) rfl
        hafter hlast' rfl
      refine ⟨q, t, ?_, h.rest, h.gate, h.output, (alike_told (.refl s) none w).trans h.alike,
        h.begun.trans (s.begun_told w)⟩
      rw [walk_passed hw]
      exact h.walk

/-- A run begins the first directive among lines behind an open gate, if the last of them does not
join the lines below. -/
theorem walk_directed (hi : importer.Confined) (p : Position) (s : Session ω κ)
    {left others : List Text} (hrest : p.rest = left ++ others) (hactive : p.gate.active = true)
    (hranges : ∀ text ∈ p.output.comments.remarks left, Keyword.ofComment? text ≠ some .range)
    (hleft : ¬ p.output.comments.Undirected left)
    (hlast : ∀ line, left.getLast? = some line → p.output.comments.indent? 2 line = none) :
    ∃ text post, text ∈ p.output.comments.remarks left ∧ (Keyword.ofComment? text).isSome = true ∧
      (walk b importer p s).2.begun = s.begun ++ text :: post := by
  induction hn : left.length using Nat.strongRecOn generalizing p s left with
  | ind n ih =>
    have hne : left ≠ [] := by
      rintro rfl
      apply hleft
      intro text htext
      rw [CommentStyle.remarks_nil] at htext
      exact absurd htext List.not_mem_nil
    obtain ⟨front, after, rfl, hlt, hlast', hlook⟩ := Position.look_of_append hrest hne hlast
    -- lines that are passed leave the question to those behind them
    have later : ∀ w, p.look = .passed (p.behind front (after ++ others)) w →
        (∀ text ∈ p.output.comments.remarks after,
          text ∈ p.output.comments.remarks (front ++ after)) →
        ¬ p.output.comments.Undirected after →
        ∃ text post, text ∈ p.output.comments.remarks (front ++ after) ∧
          (Keyword.ofComment? text).isSome = true ∧
          (walk b importer p s).2.begun = s.begun ++ text :: post := by
      intro w hw hsub hafter
      obtain ⟨text, post, htext, hkeyword, hbegun⟩ := ih after.length (hn ▸ hlt)
        (p.behind front (after ++ others)) (s.told w) rfl hactive
        (fun text htext => hranges text (hsub text htext)) hafter hlast' rfl
      refine ⟨text, post, hsub text htext, hkeyword, ?_⟩
      rw [walk_passed hw, ← s.begun_told w]
      exact hbegun
    rcases hlook with ⟨hremarks, hlook⟩ | ⟨block, hremarks, hlook⟩
    · refine later none hlook (fun text htext => hremarks ▸ htext) fun hafter => hleft ?_
      rw [CommentStyle.Undirected, hremarks]
      exact hafter
    · have hblock : block.text ∈ p.output.comments.remarks (front ++ after) := by
        rw [hremarks]
        exact List.mem_cons_self ..
      cases hkeyword : Keyword.ofComment? block.text with
      | none =>
        -- it is a later comment that is begun
        obtain ⟨w, hw⟩ := Position.judge_remark hkeyword
        refine later w (hlook.trans hw) (fun text htext => ?_) fun hafter => hleft ?_
        · rw [hremarks]
          exact List.mem_cons_of_mem _ htext
        · rw [CommentStyle.Undirected, hremarks, List.forall_mem_cons]
          exact ⟨hkeyword, hafter⟩
      | some k =>
        -- this comment is begun
        have hrange : k ≠ .range := fun hk => hranges _ hblock (hk ▸ hkeyword)
        obtain ⟨d, hdue, hcommand⟩ := Position.judge_keyword (q := p.behind front (after ++ others))
          hkeyword hrange hactive
        obtain ⟨post, hbegun⟩ := begun_of_due (b := b) hi s (hlook.trans hdue)
        exact ⟨block.text, post, hblock, by rw [hkeyword]; rfl, by rw [hbegun, hcommand]⟩

/-- A run gets to the first comment. -/
theorem walk_skip (b : Backend ω κ) (importer : Importer ω κ) (p : Position)
    (s : Session ω κ) :
    ∃ q t, ComesTo b importer p s (p.output.comments.skip p.rest) q t := by
  let front := p.rest.takeWhile fun line => !p.output.comments.isComment line
  have hfront : ∀ line ∈ front, p.output.comments.isComment line = false := by
    intro line hline
    have hall := List.all_eq_true.1 List.all_takeWhile line hline
    simpa using hall
  have hrest : p.rest = front ++ p.output.comments.skip p.rest :=
    List.takeWhile_append_dropWhile.symm
  apply walk_undirected b importer p s hrest
  · exact CommentStyle.undirected_of_not_comment hfront
  · intro line hline
    -- a doubled marker would make the line a comment
    have hcomment := hfront line (List.mem_of_getLast? hline)
    rw [Option.eq_none_iff_forall_ne_some]
    intro i hi
    rw [CommentStyle.isComment_of_continues (CommentStyle.continues_iff.2 ⟨i, hi, hi⟩)] at hcomment
    cases hcomment

/-! ## What is written -/

/-- In a run from a position, the directive `d` at the position `q` makes the change `splice` of the
lines of the position `r`. -/
def Writes (b : Backend ω κ) (importer : Importer ω κ) (p : Position) (s : Session ω κ)
    (q : Position) (d : Directive) (r : Position) (splice : Splice) : Prop :=
  ∃ m output, Obtains b importer p s q d r m ∧ r.output.weave d m r.rest = .ok (splice, output)

namespace Writes

variable {p p' q r : Position} {s t : Session ω κ} {d : Directive} {splice : Splice}

theorem step (first : Advance b importer p s p' t) (h : Writes b importer p' t q d r splice) :
    Writes b importer p s q d r splice := by
  obtain ⟨m, output, hobtains, hweave⟩ := h
  exact ⟨m, output, hobtains.step first, hweave⟩

theorem here {output : Output} (look : p.look = .due d r)
    (done : carryOut b importer d r.output r.rest s = .ok (splice, output) t) :
    Writes b importer p s p d r splice := by
  obtain ⟨m, hfetch, hweave⟩ := carryOut_eq_ok.1 done
  exact ⟨m, output, .here look hfetch, hweave⟩

/-- Where lines are passed, everything is written after them. -/
theorem of_passed {w : Option Warning} (look : p.look = .passed p' w)
    (h : Writes b importer p s q d r splice) :
    Writes b importer p' (s.told w) q d r splice := by
  obtain ⟨m, output, ⟨n, t, u, hreach, hlook, hfetch⟩, hweave⟩ := h
  cases hreach with
  | refl =>
    rw [look] at hlook
    cases hlook
  | step first later =>
    cases first with
    | passed look' =>
      rw [look] at look'
      cases look'
      exact ⟨m, output, ⟨_, t, u, later, hlook, hfetch⟩, hweave⟩
    | carried look' =>
      rw [look] at look'
      cases look'

/-- Where a directive is due, it is carried out if anything is written, and everything else is
written after it. -/
theorem of_due {d' : Directive} (look : p.look = .due d' p')
    (h : Writes b importer p s q d r splice) :
    ∃ splice' output t, carryOut b importer d' p'.output p'.rest s = .ok (splice', output) t ∧
      (q = p ∧ d = d' ∧ r = p' ∧ splice = splice' ∨
        Writes b importer (p'.passSplice splice' d'.indent output) t q d r splice) := by
  obtain ⟨m, output, ⟨n, t, u, hreach, hlook, hfetch⟩, hweave⟩ := h
  cases hreach with
  | refl =>
    rw [look] at hlook
    cases hlook
    exact ⟨splice, output, u, carryOut_eq_ok.2 ⟨m, hfetch, hweave⟩, .inl ⟨rfl, rfl, rfl, rfl⟩⟩
  | step first later =>
    cases first with
    | passed look' =>
      rw [look] at look'
      cases look'
    | carried look' done =>
      rw [look] at look'
      cases look'
      exact ⟨_, _, _, done, .inr ⟨m, output, ⟨_, t, u, later, hlook, hfetch⟩, hweave⟩⟩

/-- Nothing is written where there are no lines. -/
theorem look_ne_nothing (h : Writes b importer p s q d r splice) : p.look ≠ .nothing := by
  intro look
  obtain ⟨m, output, ⟨n, t, u, hreach, hlook, hfetch⟩, hweave⟩ := h
  cases hreach with
  | refl =>
    rw [look] at hlook
    cases hlook
  | step first later =>
    cases first with
    | passed look' =>
      rw [look] at look'
      cases look'
    | carried look' =>
      rw [look] at look'
      cases look'

end Writes

/-! ## One iteration of two runs -/

/-- A later run follows a run: it stands above the comments that the run leaves, with the same gate
and output, but there can be lines `left` in between. Lines that are no comments can be different
ones. -/
structure Follows (b : Backend ω κ) (importer : Importer ω κ) (left : List Text) (p : Position)
    (s : Session ω κ) (p' : Position) (s' : Session ω κ) : Prop where
  gate : p'.gate = p.gate
  output : p'.output = p.output
  rest : ∃ below, p'.rest = left ++ below ∧
    p.output.comments.skip below = p.output.comments.skip (woven b importer p s)
  alike : s.Alike s'

namespace Follows

variable {p q p' : Position} {s s' t : Session ω κ} {d : Directive}

/-- Where a run stands at a comment, the later one gets to the same comment, above what the run
leaves below it. -/
private theorem arrive (h : Follows b importer [] p s p' s') {first : Text} {lines : List Text}
    (hwoven : woven b importer p s = first :: lines)
    (hcomment : p.output.comments.isComment first = true) :
    ∃ q t, ComesTo b importer p' s' (first :: lines) q t := by
  obtain ⟨below, hrest, hskip⟩ := h.rest
  have hskip' : p'.output.comments.skip p'.rest = first :: lines := by
    rw [h.output, hrest, List.nil_append, hskip, hwoven, CommentStyle.skip_comment hcomment]
  rw [← hskip']
  exact walk_skip b importer p' s'

/-- The later run follows past lines that are passed. -/
theorem passed (h : Follows b importer [] p s p' s') {w : Option Warning}
    (look : p.look = .passed q w) :
    ∃ r t, walk b importer p' s' = walk b importer r t ∧ t.begun = s'.begun ∧
      Follows b importer [] q (s.told w) r t := by
  obtain ⟨first, more, gate, -, hq, hkind, hagain⟩ := Position.look_passed look
  have hoq : q.output = p.output := by rw [hq]; rfl
  have hgq : q.gate = gate := by rw [hq]
  have habove : q.above = (first :: more).reverse ++ p.above := by rw [hq]; rfl
  have hwoven : woven b importer p s = first :: more ++ woven b importer q (s.told w) :=
    woven_advance (.passed look) habove
  cases hcomment : p.output.comments.isComment first with
  | false =>
    -- a line that is no comment is not waited for
    obtain ⟨rfl, rfl⟩ := hkind.resolve_left (by rw [hcomment]; exact Bool.false_ne_true)
    obtain ⟨below, hbelow, hskip⟩ := h.rest
    have hsame : p.output.comments.skip (woven b importer p s) =
        p.output.comments.skip (woven b importer q (s.told w)) := by
      rw [hwoven]
      exact CommentStyle.skip_append (by simpa using hcomment) _
    exact ⟨p', s', rfl, rfl, h.gate.trans hgq.symm, h.output.trans hoq.symm,
      ⟨below, hbelow, by rw [hoq, hskip, hsame]⟩, alike_told h.alike w none⟩
  | true =>
    -- a comment that is passed is passed again, with the same gate behind it
    obtain ⟨r, t, hr⟩ := h.arrive hwoven hcomment
    obtain ⟨w', hw'⟩ := hagain r (woven b importer q (s.told w)) (hr.gate.trans h.gate)
      (hr.output.trans h.output) hr.rest fun line hline => .inl (head_woven b importer q _ ▸ hline)
    refine ⟨{ r.behind (first :: more) (woven b importer q (s.told w)) with gate }, t.told w', ?_,
      (t.begun_told w').trans hr.begun, hgq.symm, (hr.output.trans h.output).trans hoq.symm,
      ⟨_, rfl, rfl⟩, alike_told (h.alike.trans hr.alike) w w'⟩
    rw [hr.walk, walk_passed hw']

/-- Where a directive fails, the later run begins it as well, and ends. -/
theorem failed (hi : importer.Confined) (h : Follows b importer [] p s p' s') {e : Failure}
    (look : p.look = .due d q) (failed : carryOut b importer d q.output q.rest s = .error e t) :
    (walk b importer p' s').2.begun = s'.begun ++ [d.command] := by
  obtain ⟨first, more, -, hrest, hq, -, -, -, hcomment, -, -, hagain⟩ := Position.look_due look
  have hoq : q.output = p.output := by rw [hq]; rfl
  have hwoven : woven b importer p s = first :: (more ++ q.rest) := by
    rw [woven_failed look failed, hrest]
    rfl
  obtain ⟨r, t', hr⟩ := h.arrive hwoven hcomment
  have hlook := hagain r q.rest (hr.gate.trans h.gate) (hr.output.trans h.output) hr.rest
    fun line hline => .inl hline
  obtain ⟨u, hfail⟩ := carryOut_error_alike hi (h.alike.trans hr.alike) failed r.line
    (first :: more).length q.rest
  have hor : r.output = q.output := (hr.output.trans h.output).trans hoq.symm
  rw [← hor] at hfail
  rw [hr.walk, walk_failed hlook hfail, (begun_of_carryOut hi).2 e hfail, hr.begun]
  rfl

/-- Where a directive is carried out, the later run carries it out as well: it fetches and writes
the same, and follows below what is left of the old lines. -/
theorem begin_again (hi : importer.Confined) (h : Follows b importer [] p s p' s')
    {splice : Splice} {output : Output} (look : p.look = .due d q)
    (done : carryOut b importer d q.output q.rest s = .ok (splice, output) t)
    (hapart : splice.Apart q.output.comments p.rest q.rest d.indent) :
    ∃ left r u, walk b importer p' s' = walk b importer r u ∧
      u.begun = s'.begun ++ [d.command] ∧
      q.output.comments.Leftover (splice.written d.indent) left ∧
      Follows b importer left (q.passSplice splice d.indent output) t r u := by
  obtain ⟨first, more, -, hrest, hq, -, -, -, hcomment, -, -, hagain⟩ := Position.look_due look
  obtain ⟨m, hfetch, hweave⟩ := carryOut_eq_ok.1 done
  have hoq : q.output = p.output := by rw [hq]; rfl
  have hgq : q.gate = p.gate := by rw [hq]; rfl
  have hfirst : p.rest.head? = some first := by rw [hrest]; rfl
  have habove : (q.passSplice splice d.indent output).above =
      (first :: more ++ splice.written d.indent).reverse ++ p.above := by
    rw [hq, List.reverse_append, List.append_assoc]
    rfl
  have hcomments : output.comments = q.output.comments := comments_of_carryOut done
  have hwoven := woven_advance (.carried look done) habove
  rw [List.append_assoc] at hwoven
  have hothers := head_woven b importer (q.passSplice splice d.indent output) t
  generalize hlines : woven b importer (q.passSplice splice d.indent output) t = lines at *
  -- below the comment stands what is written, or the line that the change has left there
  have hhead : (splice.written d.indent ++ lines).head? =
      (splice.written d.indent ++ q.rest.drop splice.removed).head? := by
    rw [List.head?_append, List.head?_append, hothers]
    rfl
  obtain ⟨r, t', hr⟩ := h.arrive hwoven hcomment
  have hlook := hagain r (splice.written d.indent ++ lines) (hr.gate.trans h.gate)
    (hr.output.trans h.output) hr.rest
    fun line hline => hoq ▸ hapart first hfirst line (hhead ▸ hline)
  obtain ⟨x, u, u', hu, hu', halike, -, -⟩ := Action.fetch_alike (b := b) hi
    (h.alike.trans hr.alike) d r.line (first :: more).length
  rw [hfetch] at hu
  cases x with
  | error e => cases hu
  | ok m' =>
    cases hu
    -- the second change is made above the lines of the first one, and may leave some of them
    obtain ⟨splice', left, below, hre⟩ := Output.exists_rewoven hweave d.indent hothers
    have hor : r.output = q.output := (hr.output.trans h.output).trans hoq.symm
    have hdone : carryOut b importer (d.standingAt r.line (first :: more).length) r.output
        (splice.written d.indent ++ lines) t' = .ok (splice', output) u' :=
      carryOut_eq_ok.2 ⟨m, hu', hor ▸ hre.weave⟩
    refine ⟨left, (r.behind (first :: more) (splice.written d.indent ++ lines)).passSplice splice'
      d.indent output, u', ?_, ?_, hre.leftover, ?_⟩
    · rw [hr.walk, walk_carried hlook hdone]
      rfl
    · rw [(begun_of_carryOut hi).1 _ hdone, hr.begun]
      rfl
    · refine ⟨(hr.gate.trans h.gate).trans hgq.symm, rfl, ⟨below, hre.drop, ?_⟩, halike⟩
      have hskip := hre.skip
      rw [← hcomments, ← hlines] at hskip
      exact hskip

/-- The later run gets through lines that are left, if they have no directives. -/
theorem resume {left : List Text} (h : Follows b importer left p s p' s')
    (hleft : p.output.comments.Undirected left)
    (hlast : ∀ line, left.getLast? = some line → p.output.comments.indent? 2 line = none) :
    ∃ r t, walk b importer p' s' = walk b importer r t ∧ t.begun = s'.begun ∧
      Follows b importer [] p s r t := by
  obtain ⟨below, hrest, hskip⟩ := h.rest
  rw [← h.output] at hleft hlast
  obtain ⟨r, t, hr⟩ := walk_undirected b importer p' s' hrest hleft hlast
  exact ⟨r, t, hr.walk, hr.begun, hr.gate.trans h.gate, hr.output.trans h.output,
    ⟨below, hr.rest, hskip⟩, h.alike.trans hr.alike⟩

/-- If they have one, it begins the first of them behind an open gate. -/
theorem directed (hi : importer.Confined) {left : List Text} (h : Follows b importer left p s p' s')
    (hactive : p.gate.active = true)
    (hranges : ∀ text ∈ p.output.comments.remarks left, Keyword.ofComment? text ≠ some .range)
    (hleft : ¬ p.output.comments.Undirected left)
    (hlast : ∀ line, left.getLast? = some line → p.output.comments.indent? 2 line = none) :
    ∃ text post, text ∈ p.output.comments.remarks left ∧ (Keyword.ofComment? text).isSome = true ∧
      (walk b importer p' s').2.begun = s'.begun ++ text :: post := by
  obtain ⟨below, hrest, -⟩ := h.rest
  rw [← h.output] at hranges hleft hlast ⊢
  rw [← h.gate] at hactive
  exact walk_directed hi p' s' hrest hactive hranges hleft hlast

end Follows

end Run

end QueryWeave
