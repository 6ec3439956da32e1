import Mathlib.Data.Finset.Card
import TaskRunner.Proofs.Session.Failures

/-! The chain of the files that are being read.  At every point of every evaluation it lists the
file that the session began with and, after it, the files that are being read in, the outermost
first; no file is in it twice.  Hence files are read in no deeper than there are files, and a file
is refused exactly while it is being read. -/

namespace TaskRunner

variable {ω η : Type}

theorem Host.SameFiles.canonicalPath {host : Host ω η} {world other : ω}
    (h : host.SameFiles world other) (path : String) :
    host.canonicalPath other path = host.canonicalPath world path := by
  rw [Host.canonicalPath, ← h.canonical path, Host.canonicalPath]

theorem Path.same_comm (a b : String) : Path.same a b = Path.same b a := by
  rw [Path.same, Path.same, BEq.comm, @BEq.comm _ _ _ (Path.names _)]

/-- A session that reads in some files, the outermost first, in a world in which they are what they
were when the session began. -/
structure Session.ChainsTo (host : Host ω η) (origin : String) (first : ω) (files : List String)
    (session : Session ω η) : Prop where
  /-- The chain is the canonical path of the first file and of one file for each that is being read
  in. -/
  chain : session.chain = (origin :: files).map (host.canonicalPath first)
  /-- The last element belongs to the file that is being read. -/
  last : session.chain.getLast? = some (host.canonicalPath first session.origin)
  distinct : session.chain.Pairwise fun key other => Path.same key other = false
  readable : ∀ path ∈ files, ∃ text, host.readText path first = .ok text

/-- The file that a path leads to is being read. -/
def Session.IsOpen (host : Host ω η) (origin : String) (first : ω) (files : List String)
    (path : String) : Prop :=
  ∃ file ∈ origin :: files,
    Path.same (host.canonicalPath first path) (host.canonicalPath first file)

/-- The session after the statement or the file of a point. -/
def Point.after (host : Host ω η) (point : Point ω η) : Session ω η :=
  match point.turn with
  | .statement statement => (Session.execute host (point.fuel + 1) statement point.session).2
  | .file path => (Session.readIn host (Session.execute host point.fuel) path point.session).2

/-- The turn is that of a file that is refused because it is being read. -/
def Point.Refuses (host : Host ω η) (path : String) (point : Point ω η) : Prop :=
  point.turn = .file path ∧
    Session.opened host path point.session = .error (.circularExtends path)

namespace Session

variable {host : Host ω η} {origin : String} {first : ω} {files : List String}
  {session after : Session ω η}

theorem ChainsTo.of_eq (h : ChainsTo host origin first files session)
    (horigin : after.origin = session.origin) (hchain : after.chain = session.chain) :
    ChainsTo host origin first files after where
  chain := hchain.trans h.chain
  last := by rw [hchain, horigin, h.last]
  distinct := hchain ▸ h.distinct
  readable := h.readable

theorem ChainsTo.any_same_iff (h : ChainsTo host origin first files session) (path : String) :
    session.chain.any (Path.same (host.canonicalPath first path)) = true ↔
      IsOpen host origin first files path := by
  rw [h.chain, List.any_map, List.any_eq_true]
  rfl

/-- The files that are being read in have different canonical paths. -/
theorem ChainsTo.nodup (h : ChainsTo host origin first files session) :
    (files.map (host.canonicalPath first)).Nodup := by
  have hdistinct := h.distinct
  rw [h.chain, List.map_cons] at hdistinct
  refine (List.pairwise_cons.1 hdistinct).2.imp fun {key other} hsame heq => ?_
  rw [heq, Path.same_self] at hsame
  cases hsame

/-- There are no more files being read in than there are canonical paths of readable files. -/
theorem ChainsTo.length_le (h : ChainsTo host origin first files session) {names : Finset String}
    (hnames : ∀ path text, host.readText path first = .ok text →
      ∃ key ∈ names, host.canonical? path first = some key) :
    files.length ≤ names.card := by
  -- The files have different canonical paths, and each of these belongs to a readable file.
  have hsubset : (files.map (host.canonicalPath first)).toFinset ⊆ names := by
    intro key hkey
    obtain ⟨path, hpath, rfl⟩ := List.mem_map.1 (List.mem_toFinset.1 hkey)
    obtain ⟨text, htext⟩ := h.readable path hpath
    obtain ⟨key, hmem, hcanonical⟩ := hnames path text htext
    rwa [Host.canonicalPath, hcanonical]
  calc files.length
      = (files.map (host.canonicalPath first)).toFinset.card := by
        rw [List.toFinset_card_of_nodup h.nodup, List.length_map]
    _ ≤ names.card := Finset.card_le_card hsubset

/-- A file that is opened comes last in the chain. -/
theorem ChainsTo.enter (h : ChainsTo host origin first files session) {path : String}
    {statements : List Statement} {inside : Session ω η}
    (hfiles : host.SameFiles first session.world)
    (hopened : opened host path session = .ok (statements, inside)) :
    ChainsTo host origin first (files ++ [path]) inside := by
  obtain ⟨hfresh, ⟨text, htext, -⟩, rfl⟩ := of_opened_ok hopened
  have hkey := hfiles.canonicalPath path
  rw [hkey] at hfresh
  constructor
  case chain =>
    dsimp only
    rw [hkey, h.chain, ← List.cons_append, List.map_append]
    rfl
  case last =>
    dsimp only
    rw [hkey, List.getLast?_concat]
  case distinct =>
    dsimp only
    rw [hkey]
    refine List.pairwise_append.2
      ⟨h.distinct, List.pairwise_singleton _ _, fun key hmem other hlast => ?_⟩
    rw [List.mem_singleton.1 hlast, Path.same_comm]
    simpa using List.any_eq_false.1 hfresh key hmem
  case readable =>
    intro file hfile
    rcases List.mem_append.1 hfile with hfile | hfile
    · exact h.readable file hfile
    · rw [List.mem_singleton.1 hfile]
      exact ⟨text, (hfiles.readText path).trans htext⟩

/-! ### Points of a walk -/

theorem continues_after (host : Host ω η) (point : Point ω η) :
    Continues point.session (point.after host) := by
  unfold Point.after
  split
  · exact within_execute (isFrame_continues host) _ _ _
  · exact within_readIn (isFrame_continues host)
      (within_execute (isFrame_continues host) _) _ _

/-- If the files are what they were, the chain is that of the files being read in, at every
point. -/
def ChainAccount (host : Host ω η) (origin : String) (first : ω) (files : List String)
    (session : Session ω η) (points : List (Point ω η)) (_ : Option Halt) (after : Session ω η) :
    Prop :=
  (after.origin = session.origin ∧ after.chain = session.chain) ∧
    ((∀ point ∈ points, host.SameFiles first point.session.world) →
      ChainsTo host origin first files session →
        ∀ point ∈ points, ChainsTo host origin first point.files point.session)

theorem chainAccount_of_continues (h : Continues session after) (halt : Option Halt) :
    ChainAccount host origin first files session [] halt after :=
  ⟨⟨h.origin, h.chain⟩, fun _ _ _ hpoint => nomatch hpoint⟩

theorem chainAccount_singleton (h : Continues session after) (fuel : Nat) (turn : Turn)
    (halt : Option Halt) :
    ChainAccount host origin first files session [⟨fuel, files, turn, session⟩] halt after :=
  ⟨⟨h.origin, h.chain⟩, fun _ hchains _ hpoint => by
    rw [List.mem_singleton.1 hpoint]
    exact hchains⟩

theorem ChainAccount.cons {points : List (Point ω η)} {halt : Option Halt}
    (h : ChainAccount host origin first files session points halt after) (fuel : Nat)
    (turn : Turn) :
    ChainAccount host origin first files session (⟨fuel, files, turn, session⟩ :: points) halt
      after := by
  refine ⟨h.1, fun hfiles hchains => ?_⟩
  obtain ⟨-, hmore⟩ := List.forall_mem_cons.1 hfiles
  exact List.forall_mem_cons.2 ⟨hchains, h.2 hmore hchains⟩

theorem isAccount_chain (host : Host ω η) (origin : String) (first : ω) :
    Walk.IsAccount host (ChainAccount host origin first) where
  none _ s := chainAccount_of_continues ((isFrame_continues host).refl s) _
  seq h h' := by
    obtain ⟨⟨horigin, hchain⟩, hpoints⟩ := h
    obtain ⟨⟨horigin', hchain'⟩, hmore⟩ := h'
    refine ⟨⟨horigin'.trans horigin, hchain'.trans hchain⟩, fun hfiles hchains => ?_⟩
    obtain ⟨hfirst, hlater⟩ := List.forall_mem_append.1 hfiles
    exact List.forall_mem_append.2
      ⟨hpoints hfirst hchains, hmore hlater (hchains.of_eq horigin hchain)⟩
  exhausted _ s := chainAccount_of_continues ((isFrame_continues host).refl s) _
  undefined _ s _ _ _ := chainAccount_of_continues ((isFrame_continues host).refl s) _
  invalid _ s _ := chainAccount_of_continues ((isFrame_continues host).refl s) _
  captured _ s fuel run :=
    chainAccount_of_continues (within_capture (isFrame_continues host) fuel run s) _
  configured _ s name value :=
    chainAccount_of_continues ((isFrame_continues host).configured s name value) _
  boundVariable _ s name value :=
    chainAccount_of_continues ((isFrame_continues host).boundVariable s name value) _
  declared _ s fuel name body :=
    chainAccount_singleton ((isFrame_continues host).boundTarget s name _) _ _ _
  described _ s fuel lines :=
    chainAccount_singleton
      (show Continues s { s with queue := s.queue ++ _ } from
        ⟨rfl, rfl, rfl, List.prefix_append _ _⟩) _ _ _
  acted _ s fuel script :=
    chainAccount_singleton (within_action (isFrame_continues host) fuel script s) _ _ _
  entered fuel _ _ h := h.cons fuel _
  scope h := ⟨h.1, fun hfiles hchains => h.2 hfiles (hchains.of_eq rfl rfl)⟩
  closed _ s fuel _ _ _ :=
    chainAccount_singleton ((isFrame_continues host).refl s) _ _ _
  file {_ _ _ _} fuel _ _ _ _ hopened h := by
    refine ⟨⟨rfl, rfl⟩, fun hfiles hchains => ?_⟩
    obtain ⟨hhere, hinside⟩ := List.forall_mem_cons.1 hfiles
    exact List.forall_mem_cons.2 ⟨hchains, h.2 hinside (hchains.enter hhere hopened)⟩

/-! ### Files that are refused -/

theorem opened_eq_circularExtends_iff {path other : String} :
    opened host path session = .error (.circularExtends other) ↔
      other = path ∧
        session.chain.any (Path.same (host.canonicalPath session.world path)) = true := by
  unfold opened
  grind

/-- The walk ended because a file is refused just if its course came to that file. -/
def TellsRefusals (host : Host ω η) (points : List (Point ω η)) (halt : Option Halt) : Prop :=
  ∀ path, halt = some (.error (.circularExtends path)) ↔ ∃ point ∈ points, point.Refuses host path

theorem tellsRefusals_nil {halt : Option Halt}
    (h : ∀ path, halt ≠ some (.error (.circularExtends path))) : TellsRefusals host [] halt :=
  fun path => ⟨fun hhalt => absurd hhalt (h path), fun ⟨_, hpoint, _⟩ => nomatch hpoint⟩

theorem TellsRefusals.cons {points : List (Point ω η)} {halt : Option Halt} {point : Point ω η}
    (hpoint : ∀ path, ¬ point.Refuses host path) (h : TellsRefusals host points halt) :
    TellsRefusals host (point :: points) halt := by
  intro path
  rw [h path, List.exists_mem_cons_iff]
  exact ⟨.inr, fun hrefuses => hrefuses.resolve_left (hpoint path)⟩

theorem TellsRefusals.append {points more : List (Point ω η)} {halt : Option Halt}
    (h : TellsRefusals host points none) (h' : TellsRefusals host more halt) :
    TellsRefusals host (points ++ more) halt := by
  intro path
  have hnone : ¬ ∃ point ∈ points, point.Refuses host path := fun hrefuses =>
    nomatch (h path).2 hrefuses
  simp only [h' path, List.mem_append, or_and_right, exists_or, hnone, false_or]

theorem not_refuses_statement (fuel : Nat) (statement : Statement) (path : String) :
    ¬ Point.Refuses host path ⟨fuel, files, .statement statement, session⟩ :=
  fun h => nomatch h.1

theorem isAccount_refusals (host : Host ω η) :
    Walk.IsAccount host fun _ _ points halt _ => TellsRefusals host points halt where
  none _ _ := tellsRefusals_nil (by simp)
  seq h h' := h.append h'
  exhausted _ _ := tellsRefusals_nil (by simp)
  undefined _ _ _ _ htarget := by
    obtain ⟨name, rfl⟩ := Environment.targetOf_error htarget
    exact tellsRefusals_nil (by simp)
  invalid _ _ _ := tellsRefusals_nil (by simp)
  captured _ s fuel run := tellsRefusals_nil fun _ hhalt => nomatch isApart_of_capture hhalt
  configured _ _ _ _ := tellsRefusals_nil (by simp)
  boundVariable _ _ _ _ := tellsRefusals_nil (by simp)
  declared _ _ fuel _ _ := (tellsRefusals_nil (by simp)).cons (not_refuses_statement fuel _)
  described _ _ fuel _ := (tellsRefusals_nil (by simp)).cons (not_refuses_statement fuel _)
  acted _ s fuel script :=
    (tellsRefusals_nil fun _ hhalt => nomatch isApart_of_action hhalt).cons
      (not_refuses_statement fuel _)
  entered fuel _ _ h := h.cons (not_refuses_statement fuel _)
  scope h := h
  closed _ s fuel path error hopened other := by
    simp only [List.mem_singleton, exists_eq_left, Point.Refuses, Turn.file.injEq]
    constructor
    · rintro heq
      cases heq
      obtain ⟨rfl, -⟩ := opened_eq_circularExtends_iff.1 hopened
      exact ⟨rfl, hopened⟩
    · rintro ⟨rfl, hother⟩
      cases hopened.symm.trans hother
      rfl
  file {_ _ _ _} fuel _ _ _ _ hopened h :=
    h.cons fun other ⟨hturn, hrefuses⟩ => by
      cases hturn
      rw [hopened] at hrefuses
      cases hrefuses

/-! ### Evaluations -/

/-- The sessions that come of the one that begins with a file, by evaluations of any statements that
end in any way. -/
inductive Arises (host : Host ω η) (origin : String) (first : ω) : Session ω η → Prop where
  | start : Arises host origin first (start host origin first)
  | evaluated {session : Session ω η} {fuel : Nat} {statements : List Statement} {sink : Sink}
      {done : Evaluation ω η} (harises : Arises host origin first session)
      (hdone : evaluate host fuel statements session sink = some done) :
      Arises host origin first done.session

/-- Between evaluations no file is being read in. -/
theorem Arises.chainsTo (h : Arises host origin first session) :
    ChainsTo host origin first [] session := by
  induction h with
  | start =>
    exact ⟨rfl, rfl, List.pairwise_singleton _ _, fun _ hpath => nomatch hpath⟩
  | evaluated _ hdone ih =>
    obtain ⟨horigin, hchain, -⟩ := continues_evaluate hdone
    exact ih.of_eq horigin hchain

end Session

/-- What the chain is at a point of an evaluation, and what follows from it. -/
structure Point.IsChained (host : Host ω η) (origin : String) (first : ω) (point : Point ω η) :
    Prop where
  before : Session.ChainsTo host origin first point.files point.session
  after : Session.ChainsTo host origin first point.files (point.after host)
  /-- Files are read in no deeper than there are canonical paths of readable files. -/
  bounded {names : Finset String} :
    (∀ path text, host.readText path first = .ok text →
      ∃ key ∈ names, host.canonical? path first = some key) → point.files.length ≤ names.card
  /-- A file is refused just if it is being read. -/
  refused {path : String} : point.turn = .file path →
    (point.Refuses host path ↔ Session.IsOpen host origin first point.files path)
  /-- A file that is not refused is not refused either after it was read in any number of times. -/
  again {path : String} (n : Nat) {later : Session ω η} : point.turn = .file path →
    ¬ point.Refuses host path →
      later = (fun session =>
        (Session.readIn host (Session.execute host point.fuel) path session).2)^[n] point.session →
        host.SameFiles first later.world →
          Session.opened host path later ≠ .error (.circularExtends path)

namespace Session

variable {host : Host ω η} {origin : String} {first : ω}

/-- In a world in which files are what they were, a file is refused just if it is being read. -/
theorem ChainsTo.refused_iff {files : List String} {session : Session ω η}
    (h : ChainsTo host origin first files session) (hfiles : host.SameFiles first session.world)
    (path : String) :
    opened host path session = .error (.circularExtends path) ↔
      IsOpen host origin first files path := by
  rw [opened_eq_circularExtends_iff, hfiles.canonicalPath, h.any_same_iff]
  exact ⟨fun h => h.2, fun h => ⟨rfl, h⟩⟩

theorem ChainsTo.iterate_readIn {files : List String} {session : Session ω η}
    (h : ChainsTo host origin first files session) (fuel n : Nat) (path : String) :
    ChainsTo host origin first files
      ((fun session => (readIn host (execute host fuel) path session).2)^[n] session) := by
  induction n with
  | zero => exact h
  | succ n ih =>
    rw [Function.iterate_succ_apply']
    have hread := within_readIn (isFrame_continues host)
      (within_execute (isFrame_continues host) fuel) path
      ((fun session => (readIn host (execute host fuel) path session).2)^[n] session)
    exact ih.of_eq hread.origin hread.chain

theorem ChainsTo.isChained {point : Point ω η}
    (h : ChainsTo host origin first point.files point.session)
    (hfiles : host.SameFiles first point.session.world) :
    point.IsChained host origin first where
  before := h
  after := h.of_eq (continues_after host point).origin (continues_after host point).chain
  bounded hnames := h.length_le hnames
  refused {path} hturn := (and_iff_right hturn).trans (h.refused_iff hfiles path)
  again {path} n later hturn hfresh hlater hsame hrefused := by
    subst hlater
    have hopen := ((h.iterate_readIn point.fuel n path).refused_iff hsame path).1 hrefused
    exact hfresh ⟨hturn, (h.refused_iff hfiles path).2 hopen⟩

/-- The chain of the files is sound in every evaluation of every session under which the files do
not change: at every point, and after it, however it ended, the chain is that of the files being
read; and the walk ends because of a file that is extended in a circle just if it comes to a file
that is being read. -/
theorem extends_chain_is_sound (host : Host ω η) {origin : String} {first : ω}
    {session : Session ω η} (harises : Arises host origin first session) (fuel : Nat)
    (statements : List Statement)
    (hfiles : ∀ point ∈ courseOf host fuel statements session,
      host.SameFiles first point.session.world) :
    ChainsTo host origin first [] session ∧
      ChainsTo host origin first [] (Walk.each (execute host fuel) statements session).2 ∧
      (∀ point ∈ courseOf host fuel statements session, point.IsChained host origin first) ∧
      ∀ path, (Walk.each (execute host fuel) statements session).1 =
          .error (.error (.circularExtends path)) ↔
        ∃ point ∈ courseOf host fuel statements session,
          point.turn = .file path ∧ IsOpen host origin first point.files path := by
  have hstart := harises.chainsTo
  have hwalked := continues_each host fuel statements session
  have hchained : ∀ point ∈ courseOf host fuel statements session,
      point.IsChained host origin first := fun point hpoint =>
    ((tells_courseOf (isAccount_chain host origin first) fuel statements session).2 hfiles hstart
      point hpoint).isChained (hfiles point hpoint)
  refine ⟨hstart, hstart.of_eq hwalked.origin hwalked.chain, hchained, fun path => ?_⟩
  have hrefusals := tells_courseOf (isAccount_refusals host) fuel statements session path
  have hhalt (result : Except Halt (List (Option String))) (halt : Halt) :
      result = .error halt ↔ Walk.halt? result = some halt := by
    cases result <;> simp [Walk.halt?]
  rw [hhalt, hrefusals]
  refine exists_congr fun point => and_congr_right fun hpoint => ?_
  constructor
  · intro hrefuses
    exact ⟨hrefuses.1, ((hchained point hpoint).refused hrefuses.1).1 hrefuses⟩
  · rintro ⟨hturn, hopen⟩
    exact ((hchained point hpoint).refused hturn).2 hopen

/-- A file that is read in twice, and two files that extend each other. -/
theorem extends_chain_is_sound_circle :
    let host := Host.recordedBeside [("b.rny", "extends \x7b c.rny \x7d"),
      ("c.rny", "extends \x7b b.rny \x7d"), ("d.rny", "")] fun _ => ⟨⟨[], [], []⟩, .code 0⟩
    let statements : List Statement :=
      [.extend [.string "d.rny", .string "d.rny", .string "b.rny"]]
    let session := start host "a.rny" []
    Arises host "a.rny" [] session ∧
      (∀ point ∈ courseOf host 9 statements session, host.SameFiles [] point.session.world) ∧
      (Walk.each (execute host 9) statements session).1 =
        .error (.error (.circularExtends "b.rny")) ∧
      (∀ point ∈ courseOf host 9 statements session, point.IsChained host "a.rny" []) ∧
      (∃ point ∈ courseOf host 9 statements session,
        point.turn = .file "b.rny" ∧ IsOpen host "a.rny" [] point.files "b.rny") ∧
      (Walk.each (execute host 9) statements session).2.chain = ["a.rny"] := by
  intro host statements session
  have hfiles : ∀ point ∈ courseOf host 9 statements session,
      host.SameFiles [] point.session.world := fun _ _ => ⟨fun _ => rfl, fun _ => rfl⟩
  have hcircle : (Walk.each (execute host 9) statements session).1 =
      .error (.error (.circularExtends "b.rny")) := by decide +kernel
  obtain ⟨-, hafter, hchained, hrefused⟩ :=
    extends_chain_is_sound host .start 9 statements hfiles
  refine ⟨.start, hfiles, hcircle, hchained, (hrefused "b.rny").1 hcircle, ?_⟩
  rw [hafter.chain]
  decide

end Session

end TaskRunner
