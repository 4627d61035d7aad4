import Mathlib.Data.List.Induction
import QueryWeave.Proofs.FailedDirectives
import QueryWeave.Proofs.Transactions

/-!
# Selected ranges

A run that is restricted to named ranges keeps one flag: the beginning of any of these ranges sets
it, and the end of any of them clears it. A directive is carried out where the flag is set, which
means that one of the ranges was opened and none of them was closed since then. Where the ranges do
not overlap, this is the same as standing inside of one of them. Where they overlap, the end of one
range also ends the other.

## Architecture

`Run.Finds` collects the directives that a run comes to, carried out or not, and `Selects` and
`IsOpenRange` are properties of this list alone. What one directive does to the flag
(`RangeGate.active_after`) gives what all of them do (`RangeGate.active_foldl_iff`), and one
iteration of a run follows the directive that it finds (`Run.Advance.gate_eq`), hence so do all of
them (`Run.Finds.gate_eq`).

Main statement: `Run.process_ranges`.
-/

namespace QueryWeave

open Text

/-! ## Ranges in a list of directives -/

namespace Directive

/-- The directive `RANGE BEGIN name`. -/
def Opens (d : Directive) (name : Text) : Prop :=
  d.keyword = .range ∧ ∃ more, words d.body = "BEGIN".toList :: name :: more

/-- The directive `RANGE END name`. -/
def Closes (d : Directive) (name : Text) : Prop :=
  d.keyword = .range ∧ ∃ more, words d.body = "END".toList :: name :: more

end Directive

/-- After the directives, a range is open: it has been opened, and not closed since then. -/
def IsOpenRange (name : Text) (found : List Directive) : Prop :=
  ∃ before d after, found = before ++ d :: after ∧ d.Opens name ∧ ∀ e ∈ after, ¬ e.Closes name

/-- After the directives, the run carries out what comes next: all of the document was asked for, or
one of the ranges that were asked for has been opened, and none of them closed since then. -/
def Selects (ranges : Option (List Text)) (found : List Directive) : Prop :=
  match ranges with
  | none => True
  | some names => ∃ name ∈ names, ∃ before d after, found = before ++ d :: after ∧ d.Opens name ∧
      ∀ e ∈ after, ∀ n ∈ names, ¬ e.Closes n

/-- Of the ranges that were asked for, no one is closed while another one is open. -/
def Separate (ranges : Option (List Text)) (found : List Directive) : Prop :=
  ∀ names ∈ ranges, ∀ before d after, found = before ++ d :: after → ∀ n ∈ names, d.Closes n →
    ∀ name ∈ names, IsOpenRange name before → name = n

section Found

variable {found : List Directive} {d : Directive}

/-- What is marked by a last directive, and not unmarked after it, in a list with one more
directive. -/
private theorem exists_marked_append (found : List Directive) (d : Directive)
    {P Q : Directive → Prop} :
    (∃ before e after, found ++ [d] = before ++ e :: after ∧ P e ∧ ∀ x ∈ after, ¬ Q x) ↔
      P d ∨ (∃ before e after, found = before ++ e :: after ∧ P e ∧ ∀ x ∈ after, ¬ Q x) ∧
        ¬ Q d := by
  constructor
  · rintro ⟨before, e, after, hfound, he, hafter⟩
    rcases List.eq_nil_or_concat after with rfl | ⟨after', x, rfl⟩
    · -- the marking directive is the last one
      obtain ⟨-, hlast⟩ := List.append_inj' hfound rfl
      rw [List.singleton_inj] at hlast
      exact .inl (hlast ▸ he)
    · rw [List.concat_eq_append] at hfound hafter
      rw [← List.cons_append, ← List.append_assoc] at hfound
      obtain ⟨hfront, hlast⟩ := List.append_inj' hfound rfl
      rw [List.singleton_inj] at hlast
      subst hlast
      refine .inr ⟨⟨before, e, after', hfront, he, fun y hy => ?_⟩, ?_⟩
      · exact hafter y (List.mem_append_left _ hy)
      · exact hafter d (List.mem_append_right _ (List.mem_singleton_self d))
  · rintro (hd | ⟨⟨before, e, after, rfl, he, hafter⟩, hd⟩)
    · exact ⟨found, d, [], rfl, hd, by simp⟩
    · refine ⟨before, e, after ++ [d], by simp, he, fun x hx => ?_⟩
      rcases List.mem_append.1 hx with hx | hx
      · exact hafter x hx
      · rw [List.mem_singleton.1 hx]
        exact hd

theorem isOpenRange_append {name : Text} :
    IsOpenRange name (found ++ [d]) ↔ d.Opens name ∨ IsOpenRange name found ∧ ¬ d.Closes name :=
  exists_marked_append found d

theorem selects_append {names : List Text} :
    Selects (some names) (found ++ [d]) ↔
      (∃ name ∈ names, d.Opens name) ∨
        Selects (some names) found ∧ ∀ n ∈ names, ¬ d.Closes n := by
  -- a list of names is marked by a directive that opens any of them
  have hmarked := exists_marked_append found d
    (P := fun e => ∃ name ∈ names, e.Opens name) (Q := fun e => ∃ n ∈ names, e.Closes n)
  have hselects : ∀ ds, Selects (some names) ds ↔ ∃ before e after, ds = before ++ e :: after ∧
      (∃ name ∈ names, e.Opens name) ∧ ∀ x ∈ after, ¬ ∃ n ∈ names, x.Closes n := by
    intro ds
    constructor
    · rintro ⟨name, hname, before, e, after, hds, he, hafter⟩
      exact ⟨before, e, after, hds, ⟨name, hname, he⟩, fun x hx ⟨n, hn, h⟩ => hafter x hx n hn h⟩
    · rintro ⟨before, e, after, hds, ⟨name, hname, he⟩, hafter⟩
      exact ⟨name, hname, before, e, after, hds, he, fun x hx n hn h => hafter x hx ⟨n, hn, h⟩⟩
  rw [hselects, hmarked, ← hselects]
  simp only [not_exists, not_and]

/-- What is carried out stands inside of one of the ranges. -/
theorem Selects.exists_isOpenRange {names : List Text} (h : Selects (some names) found) :
    ∃ name ∈ names, IsOpenRange name found := by
  obtain ⟨name, hname, before, e, after, hfound, he, hafter⟩ := h
  exact ⟨name, hname, before, e, after, hfound, he, fun x hx => hafter x hx name hname⟩

theorem Separate.of_append {ranges : Option (List Text)} (h : Separate ranges (found ++ [d])) :
    Separate ranges found := by
  intro names hnames before e after hfound
  exact h names hnames before e (after ++ [d]) (by rw [hfound]; simp)

/-- Where the ranges do not overlap, whatever stands inside of one of them is carried out. -/
theorem Separate.selects_iff {names : List Text} (h : Separate (some names) found) :
    Selects (some names) found ↔ ∃ name ∈ names, IsOpenRange name found := by
  refine ⟨Selects.exists_isOpenRange, ?_⟩
  induction found using List.reverseRecOn with
  | nil =>
    rintro ⟨name, -, before, e, after, hfound, -⟩
    simp at hfound
  | append_singleton found d ih =>
    rintro ⟨name, hname, hopen⟩
    rw [selects_append]
    rcases isOpenRange_append.1 hopen with hd | ⟨hfound, hd⟩
    · exact .inl ⟨name, hname, hd⟩
    · refine .inr ⟨ih h.of_append ⟨name, hname, hfound⟩, fun n hn hclose => ?_⟩
      -- the only range that can be closed here is the open one
      have hsame := h names rfl found d [] rfl n hn hclose name hname hfound
      exact hd (hsame ▸ hclose)

end Found

/-! ## The gate -/

namespace RangeGate

/-- The gate behind a directive. -/
def after (gate : RangeGate) (d : Directive) : RangeGate :=
  if d.keyword = .range then (gate.apply d.body).1 else gate

/-- The names that were asked for stay the same. -/
theorem allowed_after (gate : RangeGate) (d : Directive) :
    (gate.after d).allowed = gate.allowed := by
  unfold after apply
  grind

/-- What one directive does to the flag: the beginning of a range that was asked for sets it, and
the end of one clears it. -/
theorem active_after (gate : RangeGate) (d : Directive) :
    (gate.after d).active = true ↔
      (∃ name ∈ gate.allowed, d.Opens name) ∨
        gate.active = true ∧ ∀ n ∈ gate.allowed, ¬ d.Closes n := by
  unfold after Directive.Opens Directive.Closes
  by_cases hrange : d.keyword = .range
  · simp only [hrange, if_true, true_and, apply]
    split
    · next operation name more hwords =>
      -- the words say which of the two operations it is, and for which range
      have hends : "BEGIN".toList ≠ "END".toList := by decide
      generalize "BEGIN".toList = opening at *
      generalize "END".toList = closing at *
      simp only [hwords, List.cons.injEq, exists_and_left, exists_eq', and_true,
        List.contains_eq_mem]
      by_cases hname : name ∈ gate.allowed
      · by_cases hopen : operation = opening
        · simp [hname, hopen]
        · by_cases hclose : operation = closing
          · simp [hname, hclose, hends.symm]
          · simp [hname, hopen, hclose]
      · have hother : ∀ n ∈ gate.allowed, name ≠ n := fun n hn h => hname (h ▸ hn)
        simp +contextual [hname, hother]
    · next hwords =>
      have hnone : ∀ operation name more, words d.body ≠ operation :: name :: more :=
        fun operation name more h => hwords operation name more h
      simp [hnone]
  · simp [hrange]

theorem allowed_foldl (gate : RangeGate) (found : List Directive) :
    (found.foldl after gate).allowed = gate.allowed := by
  induction found generalizing gate with
  | nil => rfl
  | cons d found ih => exact (ih _).trans (gate.allowed_after d)

/-- What all directives do to the flag. -/
theorem active_foldl_iff (ranges : Option (List Text)) (found : List Directive) :
    (found.foldl after (start ranges)).active = true ↔ Selects ranges found := by
  induction found using List.reverseRecOn with
  | nil => cases ranges <;> simp [start, Selects]
  | append_singleton found d ih =>
    rw [List.foldl_append, List.foldl_cons, List.foldl_nil, active_after, ih, allowed_foldl]
    cases ranges with
    | none => simp [start, Selects]
    | some names => exact selects_append.symm

end RangeGate

/-! ## What a run comes to -/

namespace Position

/-- The directive that begins at a position, whether it is carried out or not. -/
def directive? (p : Position) : Option Directive :=
  (p.output.comments.collect? p.line p.rest).bind fun found => found.1.classify.directive?

/-- A directive that begins at a position is judged by the gate there, and the position behind it is
in the same document. -/
theorem look_of_directive? {p : Position} {d : Directive} (h : p.directive? = some d) :
    ∃ q, q.document = p.document ∧ q.output = p.output ∧ q.gate = p.gate ∧
      p.look = if d.keyword = .range then
          .passed { q with gate := (q.gate.apply d.body).1 } ((q.gate.apply d.body).2.map .range)
        else if q.gate.active then .due d q
        else .passed q none := by
  unfold directive? at h
  obtain ⟨⟨block, rest⟩, hcollect, hd⟩ := Option.bind_eq_some_iff.1 h
  have hclass : block.classify = .directive d := by
    cases hc : block.classify <;> simp_all [CommentClass.directive?]
  obtain ⟨first, more, hlines, -, -, hstart, hnext, -⟩ := CommentStyle.collect?_eq_some hcollect
  refine ⟨p.behind (first :: more) rest, ?_, rfl, rfl, ?_⟩
  · simp [document, behind, hlines]
  · rw [look_of_collect? hcollect hlines hstart hnext]
    simp only [judge, hclass]

/-- Where no directive begins, nothing happens to the gate. -/
theorem look_of_directive?_eq_none {p : Position} (h : p.directive? = none) :
    p.look = .nothing ∨ ∃ q w, p.look = .passed q w ∧ q.gate = p.gate := by
  cases hrest : p.rest with
  | nil => exact .inl (look_eq_nothing.2 hrest)
  | cons line rest =>
    right
    simp only [directive?, hrest] at h
    simp only [look, hrest]
    split
    · exact ⟨_, _, rfl, rfl⟩
    · next block after hcollect =>
      -- the block is no directive, so it is passed
      simp only [hcollect, Option.bind_some] at h
      cases hclass : block.classify with
      | plain => exact ⟨p.passBlock block after, none, by simp only [judge, hclass], rfl⟩
      | unknown word =>
        exact ⟨p.passBlock block after, some (.unknownKeyword (block.start + 1) word),
          by simp only [judge, hclass], rfl⟩
      | directive d => simp [hclass, CommentClass.directive?] at h

end Position

namespace Run

variable {ω κ : Type} {b : Backend ω κ} {importer : Importer ω κ}

/-- The run comes from one position to another, and finds directives on its way. -/
inductive Finds (b : Backend ω κ) (importer : Importer ω κ) :
    List Directive → Position → Session ω κ → Position → Session ω κ → Prop
  | refl {p : Position} {s : Session ω κ} : Finds b importer [] p s p s
  | step {found : List Directive} {p₁ p₂ p₃ : Position} {s₁ s₂ s₃ : Session ω κ}
      (first : Advance b importer p₁ s₁ p₂ s₂) (later : Finds b importer found p₂ s₂ p₃ s₃) :
      Finds b importer (p₁.directive?.toList ++ found) p₁ s₁ p₃ s₃

/-- A directive is passed, and the run comes further. -/
theorem Finds.passed {found : List Directive} {p q r : Position} {s t : Session ω κ}
    {d : Directive} {w : Option Warning} (hd : p.directive? = some d) (look : p.look = .passed q w)
    (later : Finds b importer found q (s.told w) r t) : Finds b importer (d :: found) p s r t := by
  have hstep : Finds b importer (p.directive?.toList ++ found) p s r t := .step (.passed look) later
  rw [hd] at hstep
  exact hstep

/-- Wherever a run gets, it has found some directives on its way. -/
theorem Reaches.exists_finds {n : Nat} {p q : Position} {s t : Session ω κ}
    (h : Reaches b importer n p s q t) : ∃ found, Finds b importer found p s q t := by
  induction h with
  | refl => exact ⟨[], .refl⟩
  | step first _ ih =>
    obtain ⟨found, hfinds⟩ := ih
    exact ⟨_, .step first hfinds⟩

/-- An iteration leaves the gate as the directive that it finds makes it. -/
theorem Advance.gate_eq {p q : Position} {s t : Session ω κ} (h : Advance b importer p s q t) :
    q.gate = p.directive?.toList.foldl RangeGate.after p.gate := by
  cases hd : p.directive? with
  | none =>
    show q.gate = p.gate
    rcases Position.look_of_directive?_eq_none hd with hlook | ⟨r, w, hlook, hgate⟩
    · cases h with
      | passed look | carried look =>
        rw [hlook] at look
        cases look
    · cases h with
      | passed look =>
        rw [hlook] at look
        cases look
        exact hgate
      | carried look =>
        rw [hlook] at look
        cases look
  | some d =>
    show q.gate = p.gate.after d
    obtain ⟨r, -, -, hgate, hlook⟩ := Position.look_of_directive? hd
    rw [← hgate, RangeGate.after]
    cases h with
    | passed look =>
      rw [hlook] at look
      split at look
      · next hrange =>
        cases look
        simp only [hrange, if_true]
      · next hrange =>
        simp only [hrange, if_false]
        split at look
        · cases look
        · cases look
          rfl
    | carried look =>
      -- only a directive that is no range is carried out, and it leaves the gate alone
      rw [hlook] at look
      split at look
      · cases look
      · next hrange =>
        simp only [hrange, if_false]
        split at look
        · cases look
          rfl
        · cases look

/-- So do all iterations of a run. -/
theorem Finds.gate_eq {found : List Directive} {p q : Position} {s t : Session ω κ}
    (h : Finds b importer found p s q t) : q.gate = found.foldl RangeGate.after p.gate := by
  induction h with
  | refl => rfl
  | step first _ ih => rw [List.foldl_append, ← first.gate_eq, ih]

/-! ## What becomes of a directive -/

/-- The run carries out the directive at a position: it asks the database what the directive asks,
and goes on below what is written, or fails. -/
def Executes (b : Backend ω κ) (importer : Importer ω κ) (p : Position) (s : Session ω κ)
    (d : Directive) : Prop :=
  ∃ q, p.look = .due d q ∧ q.document = p.document ∧
    walk b importer p s =
      match carryOut b importer d q.output q.rest s with
      | .ok (splice, output) t => walk b importer (q.passSplice splice d.indent output) t
      | .error e t => (⟨q, some (q.located d e)⟩, t)

/-- The run goes on behind the comment at a position. It asks nothing of the database, it leaves the
lines and the output alone, and it may only tell what is wrong with a range. -/
def PassesOver (b : Backend ω κ) (importer : Importer ω κ) (p : Position) (s : Session ω κ)
    (d : Directive) : Prop :=
  ∃ q w, p.look = .passed q w ∧ q.document = p.document ∧ q.output = p.output ∧
    walk b importer p s = walk b importer q (s.told w) ∧ (d.keyword ≠ .range → w = none)

/-- What becomes of a directive is decided by the gate. -/
theorem executes_iff {p : Position} {d : Directive} (hd : p.directive? = some d)
    (s : Session ω κ) :
    (Executes b importer p s d ↔ d.keyword ≠ .range ∧ p.gate.active = true) ∧
      (¬ Executes b importer p s d → PassesOver b importer p s d) := by
  obtain ⟨q, hdocument, houtput, hgate, hlook⟩ := Position.look_of_directive? hd
  by_cases hrange : d.keyword = .range
  · -- a range sets the gate, and is passed
    rw [if_pos hrange] at hlook
    refine ⟨⟨?_, fun h => absurd hrange h.1⟩, fun _ => ?_⟩
    · rintro ⟨_, look, -⟩
      rw [hlook] at look
      cases look
    · exact ⟨_, _, hlook, hdocument, houtput, walk_passed hlook s, fun h => absurd hrange h⟩
  · rw [if_neg hrange] at hlook
    by_cases hactive : p.gate.active = true
    · rw [if_pos (hgate ▸ hactive)] at hlook
      have hexecutes : Executes b importer p s d := by
        have hwalk := @walk_eq _ _ b importer p s
        rw [hlook] at hwalk
        exact ⟨q, hlook, hdocument, hwalk⟩
      exact ⟨⟨fun _ => ⟨hrange, hactive⟩, fun _ => hexecutes⟩, fun h => absurd hexecutes h⟩
    · rw [if_neg (hgate ▸ hactive)] at hlook
      refine ⟨⟨?_, fun h => absurd h.2 hactive⟩, fun _ => ?_⟩
      · rintro ⟨_, look, -⟩
        rw [hlook] at look
        cases look
      · exact ⟨_, _, hlook, hdocument, houtput, walk_passed hlook s, fun _ => rfl⟩

/-! ## Whole documents -/

/-- A directive stands inside of one of the ranges that were asked for, given the directives before
it; it does so anyway if all of the document was asked for. -/
def Within (ranges : Option (List Text)) (found : List Directive) : Prop :=
  ∀ names ∈ ranges, ∃ name ∈ names, IsOpenRange name found

/-- In the run of a document, the position `p` is reached, and the directives `found` stand above
it. -/
def Comes (b : Backend ω κ) (importer : Importer ω κ) (settings : Settings) (kind : DocumentKind)
    (name : Text) (input : Document) (s : Session ω κ) (found : List Directive) (p : Position)
    (u : Session ω κ) : Prop :=
  ∃ t, Action.startTransaction b s = .ok () t ∧
    Finds b importer found (start settings kind name input) t p u

/-- A directive that a run comes to is carried out exactly if all of the document was asked for, or
one of the ranges that were asked for was opened above the directive and none of them was closed
since then. Any other directive asks nothing of the database and changes no line. What is carried
out stands inside of one of the ranges, and if the ranges do not overlap, whatever stands inside of
one of them is carried out. -/
theorem process_ranges (b : Backend ω κ) (importer : Importer ω κ) (settings : Settings)
    (kind : DocumentKind) (name : Text) (input : Document) (s : Session ω κ) :
    let first := start settings kind name input
    (∀ t, Action.startTransaction b s = .ok () t → ∃ found p u,
      Comes b importer settings kind name input s found p u ∧
        Ends b importer p u (walk b importer first t)) ∧
    ∀ found p u d, Comes b importer settings kind name input s found p u →
      p.directive? = some d →
        (Executes b importer p u d ↔ d.keyword ≠ .range ∧ Selects settings.ranges found) ∧
        (¬ Executes b importer p u d → PassesOver b importer p u d) ∧
        (Selects settings.ranges found → Within settings.ranges found) ∧
        (Separate settings.ranges found →
          (Selects settings.ranges found ↔ Within settings.ranges found)) := by
  intro first
  constructor
  · intro t hopen
    obtain ⟨n, p, u, hreach, hend⟩ := exists_ending b importer first t
    obtain ⟨found, hfinds⟩ := hreach.exists_finds
    exact ⟨found, p, u, ⟨t, hopen, hfinds⟩, hend⟩
  · rintro found p u d ⟨t, -, hfinds⟩ hd
    have hactive : p.gate.active = true ↔ Selects settings.ranges found := by
      rw [hfinds.gate_eq]
      exact RangeGate.active_foldl_iff settings.ranges found
    have hiff : Executes b importer p u d ↔ d.keyword ≠ .range ∧ p.gate.active = true :=
      (executes_iff hd u).1
    have hpasses : ¬ Executes b importer p u d → PassesOver b importer p u d :=
      (executes_iff hd u).2
    rw [hactive] at hiff
    refine ⟨hiff, hpasses, ?_, ?_⟩
    · intro h names hnames
      rw [Option.mem_def.1 hnames] at h
      exact h.exists_isOpenRange
    · intro hseparate
      cases hranges : settings.ranges with
      | none => simp [Selects, Within]
      | some names =>
        rw [hranges] at hseparate
        rw [hseparate.selects_iff]
        simp [Within]

/-- The range that is asked for is opened inside of another one, which is then closed. -/
theorem process_ranges_nested :
    let input : Document := ⟨["% RANGE BEGIN a".toList, "% RANGE BEGIN b".toList,
      "% RANGE END a".toList, "% SQL UPDATE t SET x = 1".toList]⟩
    let settings : Settings := { ranges := some ["b".toList] }
    let s := Rehearsal.session []
    ∃ found p u d, Comes Rehearsal.backend (Importer.resultLines Rehearsal.backend) settings .latex
        "doc".toList input s found p u ∧
      p.directive? = some d ∧ d.command = "SQL UPDATE t SET x = 1".toList ∧
      Executes Rehearsal.backend (Importer.resultLines Rehearsal.backend) p u d := by
  intro input settings s
  have hopen : Action.startTransaction Rehearsal.backend s =
    .ok () (s.note (.executed "BEGIN TRANSACTION".toList true)) := rfl
  -- three comments about ranges are passed
  have hcomes : Comes Rehearsal.backend (Importer.resultLines Rehearsal.backend) settings .latex
      "doc".toList input s _ _ _ :=
    ⟨_, hopen, .passed (w := none) rfl rfl (.passed (w := none) rfl rfl
      (.passed (w := none) rfl rfl .refl))⟩
  obtain ⟨hiff, -⟩ := (process_ranges Rehearsal.backend (Importer.resultLines Rehearsal.backend)
    settings .latex "doc".toList input s).2 _ _ _ _ hcomes rfl
  refine ⟨_, _, _, _, hcomes, rfl, rfl, hiff.2 ⟨by decide, ?_⟩⟩
  exact (RangeGate.active_foldl_iff settings.ranges _).1 (by rfl)

/-- Where two ranges overlap, the end of the first one ends the second one as well: a directive
inside of the second one is not carried out. -/
theorem open_range_ended_by_other :
    let input : Document := ⟨["% RANGE BEGIN a".toList, "% RANGE BEGIN b".toList,
      "% RANGE END a".toList, "% SQL UPDATE t SET x = 1".toList, "% RANGE END b".toList]⟩
    let settings : Settings := { ranges := some ["a".toList, "b".toList] }
    let s := Rehearsal.session []
    let run := process Rehearsal.backend (Importer.resultLines Rehearsal.backend) settings .latex
      "doc".toList input s
    run.2.transcript = [.opened true, .committed true] ∧
    ¬ ∀ found p u d, Comes Rehearsal.backend (Importer.resultLines Rehearsal.backend) settings
        .latex "doc".toList input s found p u → p.directive? = some d → d.keyword ≠ .range →
      (Executes Rehearsal.backend (Importer.resultLines Rehearsal.backend) p u d ↔
        Within settings.ranges found) := by
  intro input settings s run
  refine ⟨by decide +kernel, fun hclaim => ?_⟩
  have hopen : Action.startTransaction Rehearsal.backend s =
    .ok () (s.note (.executed "BEGIN TRANSACTION".toList true)) := rfl
  let beginA : Directive := ⟨.range, "RANGE BEGIN a".toList, "BEGIN a".toList, 0, 1, 0⟩
  let beginB : Directive := ⟨.range, "RANGE BEGIN b".toList, "BEGIN b".toList, 1, 2, 0⟩
  let endA : Directive := ⟨.range, "RANGE END a".toList, "END a".toList, 2, 3, 0⟩
  have hcomes : Comes Rehearsal.backend (Importer.resultLines Rehearsal.backend) settings .latex
      "doc".toList input s [beginA, beginB, endA] _ _ :=
    ⟨_, hopen, .passed (w := none) rfl rfl (.passed (w := none) rfl rfl
      (.passed (w := none) rfl rfl .refl))⟩
  have hwithin : Within settings.ranges [beginA, beginB, endA] := by
    intro names hnames
    cases hnames
    refine ⟨"b".toList, by decide, [beginA], beginB, [endA], rfl, ⟨rfl, [], by decide⟩, ?_⟩
    rintro e he ⟨-, more, hwords⟩
    rw [List.mem_singleton.1 he] at hwords
    have hbody : words endA.body = ["END".toList, "a".toList] := by decide
    rw [hbody] at hwords
    simp at hwords
  obtain ⟨q, look, -⟩ := (hclaim _ _ _ _ hcomes rfl (by decide)).2 hwithin
  cases look

end Run

end QueryWeave
