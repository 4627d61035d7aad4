import QueryWeave.Proofs.Places
import QueryWeave.Proofs.SessionInvariants

/-!
# Sessions and the files of their databases

A database works on files of its own, and a run cannot see what it does there. What can be relied on
is said here about any kind of database: which places of a directory tree belong to the databases of
a command, and that nothing a command asks of them changes anything else
(`Backend.KeepsTo`). This is asked for the connection strings that the command meets and for what it
has sent, and for nothing more.

A session is *intact* if its directories are the ones that the command has found, and everything
that belongs to no database is as it should be. It stays so in a run, whatever the document says.

Main statement: `Session.isInvariant_guarded`.
-/

namespace QueryWeave

open Text QueryWeave.Tree

variable {κ α : Type}

/-! ## What belongs to databases -/

/-- What belongs to the databases of a command: places of the directory tree, and connections. -/
structure Footprint (κ : Type) where
  places : Place → Prop
  connections : κ → Prop

/-- Work that keeps to what belongs to databases: in every tree with the directories of `t` it
changes nothing else, and a connection goes on to be one of theirs. -/
def Footprint.Confines (F : Footprint κ) (t : Tree)
    (work : κ × Tree → Except Failure α × κ × Tree) : Prop :=
  ∀ c u, F.connections c → t.SameDirectories u →
    F.connections (work (c, u)).2.1 ∧ u.ChangesOnly F.places (work (c, u)).2.2

/-- The connection string of the directive that an event begins, if it goes over to another
database. -/
def Event.target? : Event → Option Text
  | .began d => if d.keyword = .connect then some d.body else none
  | _ => none

/-- The connection strings of a command: the one that it is given, and those in its transcript. -/
def Session.targets (first : Text) (transcript : List Event) : List Text :=
  first :: transcript.filterMap Event.target?

theorem Session.mem_targets {first : Text} {transcript : List Event} {d : Directive}
    (h : .began d ∈ transcript) (hd : d.keyword = .connect) :
    d.body ∈ Session.targets first transcript := by
  refine List.mem_cons_of_mem _ (List.mem_filterMap.2 ⟨_, h, ?_⟩)
  rw [Event.target?, if_pos hd]

/-- The databases of a command keep to what belongs to them. The command is given the connection
string `first` and finds the tree `t`, and the transcript tells what it has asked of them. -/
structure Backend.KeepsTo (b : Backend Tree κ) (F : Footprint κ) (t : Tree) (first : Text)
    (transcript : List Event) : Prop where
  /-- A connection that is opened belongs to them; an attempt that fails can leave a trace at their
  places. -/
  connect : ∀ text ∈ Session.targets first transcript, ∀ u, t.SameDirectories u →
    u.ChangesOnly F.places (b.connect text u).2 ∧
      ∀ c, (b.connect text u).1 = .ok c → F.connections c
  close : ∀ c u, F.connections c → t.SameDirectories u → u.ChangesOnly F.places (b.close c u)
  execute : ∀ sql ok, .executed sql ok ∈ transcript → F.Confines t (b.execute sql)
  query : ∀ sql values ok, .queried sql values ok ∈ transcript → F.Confines t (b.query sql values)
  hasTable : ∀ name, .soughtTable name ∈ transcript → F.Confines t (b.hasTable name)

/-! ## Intact sessions -/

namespace Session

/-- The directories are those of `t`, the connection is one of those that belong to the databases,
and what belongs to none of them stands as `old` says. -/
structure Intact (F : Footprint κ) (t : Tree) (old : Place → Option Node)
    (s : Session Tree κ) : Prop where
  same : t.SameDirectories s.world
  connection : F.connections s.connection
  agrees : AgreesOff F.places old s.world.node?

/-- A session is intact, if nothing was done in it but what the transcript of the command tells. -/
def Guarded (F : Footprint κ) (t : Tree) (transcript : List Event) (old : Place → Option Node)
    (s : Session Tree κ) : Prop :=
  s.transcript ⊆ transcript → s.Intact F t old

variable {b : Backend Tree κ} {F : Footprint κ} {t u : Tree} {first : Text}
  {transcript : List Event} {old : Place → Option Node} {s : Session Tree κ} {c : κ}

namespace Intact

/-- Nothing was written: only the databases have changed the tree. -/
theorem changesOnly (h : s.Intact F t t.node?) : t.ChangesOnly F.places s.world :=
  ⟨h.same, h.agrees⟩

theorem note (h : s.Intact F t old) (e : Event) : (s.note e).Intact F t old :=
  ⟨h.same, h.connection, h.agrees⟩

/-- The databases change what belongs to them. -/
theorem change (h : s.Intact F t old) (hc : F.connections c)
    (hu : s.world.ChangesOnly F.places u) :
    ({ s with connection := c, world := u } : Session Tree κ).Intact F t old :=
  ⟨h.same.trans hu.same, hc, h.agrees.trans hu.agrees⟩

/-- Work that keeps to what belongs to the databases is done, and then it is told. -/
theorem after_ask {work : κ × Tree → Except Failure α × κ × Tree} {event : Bool → Event}
    (h : s.Intact F t old) (hwork : F.Confines t work) :
    ((Action.ask work event).after s).Intact F t old := by
  obtain ⟨hc, hu⟩ := hwork s.connection s.world h.connection h.same
  rw [Action.after_ask]
  exact (h.change hc hu).note _

end Intact

/-- What is told at the end was told before, or is the last entry. -/
theorem subset_of_note {e : Event} (h : (s.note e).transcript ⊆ transcript) :
    s.transcript ⊆ transcript ∧ e ∈ transcript :=
  ⟨List.Subset.trans (List.subset_append_left ..) h,
    h (List.mem_append_right _ (List.mem_singleton_self e))⟩

theorem keeps_guarded_ask {work : κ × Tree → Except Failure α × κ × Tree} {event : Bool → Event}
    (hwork : ∀ ok, event ok ∈ transcript → F.Confines t work) :
    Action.Keeps (Guarded F t transcript old) (Action.ask work event) := by
  intro s h hsub
  have hafter := Action.after_ask work event s
  rw [hafter] at hsub
  obtain ⟨hbefore, hevent⟩ := subset_of_note hsub
  exact (h hbefore).after_ask (hwork _ hevent)

theorem keeps_guarded_execute (hb : b.KeepsTo F t first transcript) (sql : Text) :
    Action.Keeps (Guarded F t transcript old) (Action.execute b sql) :=
  keeps_guarded_ask fun ok h => hb.execute sql ok h

/-- Going over to another database: the new one is opened, and then the old one is given up. -/
theorem Guarded.connect (hb : b.KeepsTo F t first transcript) (h : s.Guarded F t transcript old)
    {target : Text} (htarget : s.transcript ⊆ transcript → target ∈ targets first transcript) :
    ((Action.connect b target).after s).Guarded F t transcript old := by
  -- whether or not it can be opened, the old connection is still there
  have hopened : ({ s with world := (b.connect target s.world).2 } : Session Tree κ).Guarded F t
      transcript old := by
    intro hsub
    have hs := h hsub
    obtain ⟨hw, -⟩ := hb.connect target (htarget hsub) s.world hs.same
    exact hs.change hs.connection hw
  have hcommitted := keeps_guarded_execute hb "COMMIT TRANSACTION" _ hopened
  refine Action.after_connect_cases rfl hopened hcommitted fun new hnew => ?_
  refine keeps_guarded_execute hb "BEGIN TRANSACTION" _ fun hsub => ?_
  have hv := hcommitted (subset_of_note hsub).1
  -- the new connection was opened in a tree with the same directories
  have hbefore : s.transcript ⊆ transcript := by
    have htold := (subset_of_note hsub).1
    change ((Action.ask _ _).after _).transcript ⊆ transcript at htold
    rw [Action.after_ask] at htold
    exact (subset_of_note htold).1
  obtain ⟨-, hconnection⟩ := hb.connect target (htarget hbefore) s.world (h hbefore).same
  exact (hv.change (hconnection new hnew) (hb.close _ _ hv.connection hv.same)).note _

/-- No request of a run ends that a session is intact. -/
theorem isInvariant_guarded (hb : b.KeepsTo F t first transcript) (old : Place → Option Node) :
    IsInvariant b (Guarded F t transcript old) where
  note e s h hsub := (h (subset_of_note hsub).1).note e
  execute := keeps_guarded_execute hb
  query sql values := keeps_guarded_ask fun ok h => hb.query sql values ok h
  hasTable name := keeps_guarded_ask fun _ h => hb.hasTable name h
  connect d s hd h := by
    refine Guarded.connect hb (fun hsub => (h (subset_of_note hsub).1).note _) fun hsub => ?_
    exact mem_targets (subset_of_note hsub).2 hd

/-! ## Transcripts -/

section

variable {ω : Type} {b : Backend ω κ}

theorem keeps_prefix_ask (events : List Event) (work : κ × ω → Except Failure α × κ × ω)
    (event : Bool → Event) : Action.Keeps (events <+: ·.transcript) (Action.ask work event) := by
  intro s h
  rw [Action.after_ask]
  exact h.trans (List.prefix_append ..)

/-- What was told stays told. -/
theorem isInvariant_startsWith (b : Backend ω κ) (events : List Event) :
    IsInvariant b (events <+: ·.transcript) where
  note e s h := h.trans (List.prefix_append ..)
  execute sql := keeps_prefix_ask events _ _
  query sql values := keeps_prefix_ask events _ _
  hasTable name := keeps_prefix_ask events _ _
  connect d s hd h := by
    have htold : events <+: (s.note (.began d)).transcript := h.trans (List.prefix_append ..)
    have hcommitted : events <+: ((Action.commit b).after { s.note (.began d) with
        world := (b.connect d.body (s.note (.began d)).world).2 }).transcript :=
      keeps_prefix_ask events _ _ _ htold
    refine Action.after_connect_cases (I := (events <+: ·.transcript)) rfl htold hcommitted
      fun new _ => ?_
    exact keeps_prefix_ask events _ _ _ (hcommitted.trans (List.prefix_append ..))

end

end Session

end QueryWeave
