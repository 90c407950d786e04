import Mathlib.Logic.Function.Basic
import SyncthingSocket.Effect.Interpret

/-!
Programs that work on a state and may be stopped anywhere: a program is judged by what holds when
it ends and by what holds in every state on the way. Files written one after another are such a
state, of which the last may be torn.
-/

namespace Effect

namespace Program

variable {Op : Type} {Answer : Op → Type} {State α β : Type}

inductive Carries (effects : (op : Op) → Answer op → State → State → Prop) :
    History Answer → State → State → Prop
  | here (state : State) : Carries effects [] state state
  | next {op : Op} {answer : Answer op} {history : History Answer} {before middle after : State} :
      effects op answer before middle → Carries effects history middle after →
        Carries effects (⟨op, answer⟩ :: history) before after

/-- From this state on the program keeps `always` and ends in `post`. -/
def Holds (effects : (op : Op) → Answer op → State → State → Prop) (always : State → Prop)
    (post : α → State → Prop) :
    Program Op Answer α → State → Prop
  | done value, state => post value state
  | ask op next, state => ∀ answer later, effects op answer state later →
      always later ∧ Holds effects always post (next answer) later

variable {effects : (op : Op) → Answer op → State → State → Prop} {always : State → Prop} {state : State}

theorem Holds.mono {weaker : State → Prop} {post after : α → State → Prop}
    {program : Program Op Answer α} (holds : Holds effects always post program state)
    (kept : ∀ later, always later → weaker later)
    (implies : ∀ value later, post value later → after value later) :
    Holds effects weaker after program state := by
  induction program generalizing state with
  | done value => exact implies value state holds
  | ask op next ih =>
      intro answer later changed
      exact ⟨kept later (holds answer later changed).1, ih answer (holds answer later changed).2⟩

theorem Holds.bind {post : β → State → Prop} {program : Program Op Answer α}
    {following : α → Program Op Answer β}
    (holds : Holds effects always
      (fun value later => Holds effects always post (following value) later) program state) :
    Holds effects always post (program >>= following) state := by
  induction program generalizing state with
  | done value => exact holds
  | ask op next ih =>
      intro answer later changed
      exact ⟨(holds answer later changed).1, ih answer (holds answer later changed).2⟩

def Onward {ε : Type} (next : α → State → Prop) (ended : ε → State → Prop) :
    Except ε α → State → Prop
  | .ok value => next value
  | .error code => ended code

theorem Holds.bindExcept {ε : Type} {post : Except ε β → State → Prop}
    {program : ExceptT ε (Program Op Answer) α} {following : α → ExceptT ε (Program Op Answer) β}
    (holds : Holds effects always
      (Onward (fun value later => Holds effects always post (following value).run later)
      fun code later => post (.error code) later) program.run state) :
    Holds effects always post (program >>= following).run state := by
  refine Holds.bind (holds.mono (fun _ kept => kept) fun value later reached => ?_)
  cases value with
  | ok value => exact reached
  | error code => exact reached

/-- The rule is sound for every run, also for one that was stopped. -/
theorem Holds.runs {post : α → State → Prop} {program rest : Program Op Answer α}
    {history : History Answer} {later : State} (holds : Holds effects always post program state)
    (initially : always state) (run : Runs program history rest)
    (carries : Carries effects history state later) :
    always later ∧ Holds effects always post rest later := by
  induction run generalizing state with
  | start _ =>
      cases carries
      exact ⟨initially, holds⟩
  | step answer _ ih =>
      cases carries with
      | next changed rest =>
          obtain ⟨kept, following⟩ := holds answer _ changed
          exact ih following kept rest

theorem Holds.finishes {post : α → State → Prop} {program : Program Op Answer α}
    {history : History Answer} {later : State} {value : α}
    (holds : Holds effects always post program state) (initially : always state)
    (run : Runs program history (done value)) (carries : Carries effects history state later) :
    post value later :=
  (holds.runs initially run carries).2

def play (carryOut : (op : Op) → State → Answer op × State) :
    Program Op Answer α → State → History Answer × α × State
  | done value, state => ([], value, state)
  | ask op next, state =>
      let answered := carryOut op state
      let rest := play carryOut (next answered.1) answered.2
      (⟨op, answered.1⟩ :: rest.1, rest.2)

theorem play_runs (carryOut : (op : Op) → State → Answer op × State)
    (program : Program Op Answer α) (state : State) :
    Runs program (play carryOut program state).1 (done (play carryOut program state).2.1) := by
  induction program generalizing state with
  | done value => exact Runs.start _
  | ask op next ih => exact Runs.step _ (ih _ _)

theorem play_carries {carryOut : (op : Op) → State → Answer op × State}
    (sound : ∀ op state, effects op (carryOut op state).1 state (carryOut op state).2)
    (program : Program Op Answer α) (state : State) :
    Carries effects (play carryOut program state).1 state (play carryOut program state).2.2 := by
  induction program generalizing state with
  | done value => exact .here _
  | ask op next ih => exact .next (sound op state) (ih _ _)

end Program

abbrev Disk (Path Piece : Type) := Path → Option (List Piece)

namespace Disk

variable {Path Piece : Type} [DecidableEq Path]

def put (disk : Disk Path Piece) (path : Path) (contents : List Piece) : Disk Path Piece :=
  Function.update disk path (some contents)

def putAll (disk : Disk Path Piece) (writes : List (Path × List Piece)) : Disk Path Piece :=
  writes.foldl (fun disk file => disk.put file.1 file.2) disk

/-- The files are written in turn, and that is stopped somewhere: the file that is being
written holds a part of its contents. -/
inductive Stages : Disk Path Piece → List (Path × List Piece) → Disk Path Piece → Prop
  | start (disk : Disk Path Piece) (writes : List (Path × List Piece)) : Stages disk writes disk
  | torn {path : Path} {kept contents : List Piece} (disk : Disk Path Piece)
    (rest : List (Path × List Piece)) :
      kept <+: contents → Stages disk ((path, contents) :: rest) (disk.put path kept)
  | later {path : Path} {contents : List Piece} {disk after : Disk Path Piece}
    {rest : List (Path × List Piece)} :
      Stages (disk.put path contents) rest after → Stages disk ((path, contents) :: rest) after

variable {disk after : Disk Path Piece} {writes : List (Path × List Piece)} {path : Path}

theorem put_put (disk : Disk Path Piece) (path : Path) (first second : List Piece) :
    (disk.put path first).put path second = disk.put path second := Function.update_idem _ _ _

theorem put_same (disk : Disk Path Piece) (path : Path) (contents : List Piece) :
    disk.put path contents path = some contents := Function.update_self _ _ _

theorem put_other {other : Path} (disk : Disk Path Piece) (contents : List Piece)
    (apart : other ≠ path) :
    disk.put path contents other = disk other := Function.update_of_ne apart _ _

theorem putAll_append (disk : Disk Path Piece) (first second : List (Path × List Piece)) :
    disk.putAll (first ++ second) = (disk.putAll first).putAll second := List.foldl_append

theorem putAll_other (apart : ∀ file ∈ writes, file.1 ≠ path) :
    disk.putAll writes path = disk path := by
  induction writes generalizing disk with
  | nil => rfl
  | cons file rest ih =>
      have later : (disk.put file.1 file.2).putAll rest path = disk.put file.1 file.2 path :=
        ih fun other member => apart other (List.mem_cons_of_mem _ member)
      exact later.trans (put_other _ _ (apart file List.mem_cons_self).symm)

theorem putAll_mem {contents : List Piece} (distinct : (writes.map Prod.fst).Nodup)
    (member : (path, contents) ∈ writes) :
    disk.putAll writes path = some contents := by
  induction writes generalizing disk with
  | nil => cases member
  | cons file rest ih =>
      obtain ⟨fresh, distinct⟩ := List.nodup_cons.mp distinct
      rcases List.mem_cons.mp member with rfl | later
      · have behind : (disk.put path contents).putAll rest path = disk.put path contents path :=
          putAll_other fun other found same => fresh (List.mem_map.mpr ⟨other, found, same⟩)
        exact behind.trans (put_same _ _ _)
      · exact ih distinct later

theorem putAll_self (present : ∀ file ∈ writes, disk file.1 = some file.2) :
    disk.putAll writes = disk := by
  induction writes with
  | nil => rfl
  | cons file rest ih =>
      have same : disk.put file.1 file.2 = disk := by
        rw [put, ← present file List.mem_cons_self]
        exact Function.update_eq_self _ _
      change (disk.put file.1 file.2).putAll rest = disk
      rw [same]
      exact ih fun other member => present other (List.mem_cons_of_mem _ member)

theorem Stages.during {kept contents : List Piece} (disk : Disk Path Piece)
    (before rest : List (Path × List Piece)) (path : Path) (part : kept <+: contents) :
    Stages disk (before ++ (path, contents) :: rest) ((disk.putAll before).put path kept) := by
  induction before generalizing disk with
  | nil => exact .torn disk rest part
  | cons file before ih => exact .later (ih _)

theorem Stages.between (disk : Disk Path Piece) (before rest : List (Path × List Piece)) :
    Stages disk (before ++ rest) (disk.putAll before) := by
  induction before generalizing disk with
  | nil => exact .start disk rest
  | cons file before ih => exact .later (ih _)

theorem Stages.held (stages : Stages disk writes after) (path : Path) :
    after path = disk path ∨ ∃ contents kept, (path, contents) ∈ writes ∧ kept <+: contents ∧
      after path = some kept := by
  induction stages with
  | start disk writes => exact .inl rfl
  | @torn written kept contents disk rest part =>
      by_cases same : path = written
      · subst same
        exact .inr ⟨contents, kept, List.mem_cons_self, part, put_same _ _ _⟩
      · exact .inl (put_other _ _ same)
  | @later written contents disk after rest _ ih =>
      rcases ih with kept | ⟨later, kept, member, part, holds⟩
      · by_cases same : path = written
        · subst same
          exact .inr ⟨contents, contents, List.mem_cons_self, List.prefix_rfl,
            kept.trans (put_same _ _ _)⟩
        · exact .inl (kept.trans (put_other _ _ same))
      · exact .inr ⟨later, kept, List.mem_cons_of_mem _ member, part, holds⟩

theorem Stages.untouched (stages : Stages disk writes after)
    (apart : ∀ file ∈ writes, file.1 ≠ path) :
    after path = disk path := by
  rcases stages.held path with same | ⟨contents, _, member, _⟩
  · exact same
  · exact absurd rfl (apart _ member)

end Disk

end Effect
