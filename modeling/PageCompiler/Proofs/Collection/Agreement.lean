/-
  Collection with one more node in the document.

  Two runs are compared step by step, from the same tables. They agree as long as no reference that is
  met has the name of the new node. Which derived nodes are met shows in the tables in which the run
  ends, also if it ends in a failure, because collection never takes a derived node out of the tables
  again (`Tables.Widens`). The bounds on nesting differ, but neither is met.
-/
import PageCompiler.Proofs.Collection.Coverage
import PageCompiler.Proofs.Insertion

namespace PageCompiler

open Collection

/-- No reference of the node has the name. -/
def Node.Avoids (node : Node) (name : Text) : Prop :=
  ∀ reference, node.Refers reference → Reference.name reference ≠ name

namespace Tables

variable {document : Document} {before middle after : Tables}

/-- Derived nodes come in, all of them from the document, and none goes. -/
structure Widens (document : Document) (before after : Tables) : Prop where
  keeps : before.derived.keys ⊆ after.derived.keys
  known : before.derived.keys ⊆ document.keys → after.derived.keys ⊆ document.keys

theorem Widens.refl : Widens document before before := ⟨List.Subset.refl _, id⟩

theorem Widens.trans (first : Widens document before middle) (second : Widens document middle after) :
    Widens document before after :=
  ⟨List.Subset.trans first.keeps second.keeps, second.known ∘ first.known⟩

theorem Widens.of_same (same : after.derived = before.derived) : Widens document before after := by
  constructor <;> rw [same]
  · exact List.Subset.refl _
  · exact id

/-- The derived nodes in the tables do not refer to the name. -/
def Avoids (tables : Tables) (document : Document) (name : Text) : Prop :=
  ∀ id ∈ tables.derived.keys, ∀ node, document.get? id = some node → node.Avoids name

theorem Avoids.of_widens {name : Text} (widens : Widens document before after)
    (avoids : after.Avoids document name) : before.Avoids document name :=
  fun id member => avoids id (widens.keeps member)

end Tables

namespace Compile

variable {α β : Type} {document : Document} {before middle after : Tables} {name : Text}

/-- The tables in which a step ends, well or not. -/
def final (step : Compile α) (before : Tables) : Tables :=
  match step.run before with
  | .ok _ after => after
  | .error _ after => after

theorem run_bind (step : Compile α) (next : α → Compile β) (before : Tables) :
    (step >>= next).run before =
      match step.run before with
      | .ok value middle => (next value).run middle
      | .error failure after => .error failure after := by
  simp only [EStateM.run, bind, EStateM.bind]
  cases step before <;> rfl

theorem final_bind (step : Compile α) (next : α → Compile β) (before : Tables) :
    (step >>= next).final before =
      match step.run before with
      | .ok value middle => (next value).final middle
      | .error _ after => after := by
  rw [final, run_bind]
  cases step.run before <;> rfl

/-- However the step ends, the derived nodes in the tables have only become more. -/
def Widening (document : Document) (step : Compile α) : Prop :=
  ∀ before, Tables.Widens document before (step.final before)

namespace Widening

theorem pure (value : α) : Widening document (Pure.pure value : Compile α) := fun _ => .refl

theorem ofExcept (result : Except Failure α) : Widening document (Compile.ofExcept result) := by
  cases result <;> exact fun _ => .refl

theorem modify {change : Tables → Tables}
    (same : ∀ tables, (change tables).derived = tables.derived) :
    Widening document (modify change : Compile Unit) :=
  fun before => .of_same (same before)

theorem allocate (suggestion : Text) : Widening document (Compile.allocate suggestion) :=
  fun _ => .of_same rfl

theorem get_bind {next : Tables → Compile β} (then_ : ∀ tables, Widening document (next tables)) :
    Widening document (get >>= next) :=
  fun before => then_ before before

theorem bind {step : Compile α} {next : α → Compile β} (first : Widening document step)
    (then_ : ∀ value, Widening document (next value)) : Widening document (step >>= next) := by
  intro before
  have widens := first before
  rw [final_bind]
  rw [final] at widens
  cases ran : step.run before with
  | ok value middle =>
      rw [ran] at widens
      exact widens.trans (then_ value middle)
  | error failure middle =>
      rw [ran] at widens
      exact widens

theorem forM {items : List α} {step : α → Compile Unit}
    (each : ∀ item ∈ items, Widening document (step item)) :
    Widening document (items.forM step) := by
  induction items with
  | nil => exact .pure ()
  | cons item rest ih =>
      exact .bind (each item List.mem_cons_self) fun _ =>
        ih fun other member => each other (.tail _ member)

theorem addDerived {node : Node} (stored : node.id ∈ document.keys) :
    Widening document (Compile.addDerived node) := by
  refine .get_bind fun tables => ?_
  split
  · exact .pure _
  · next absent =>
      refine .bind (.allocate _) fun identifier => .bind ?_ fun _ => .pure _
      intro before
      change Tables.Widens document before
        { before with derived := before.derived.insert node.id identifier, dependencies := _ }
      constructor
      · change before.derived.keys ⊆ (before.derived.insert node.id identifier).keys
        rw [Table.keys_insert]
        split <;> simp
      · intro known
        change (before.derived.insert node.id identifier).keys ⊆ document.keys
        rw [Table.keys_insert]
        split
        · exact known
        · exact List.append_subset.mpr ⟨known, by simpa using stored⟩

theorem ite {condition : Prop} [Decidable condition] {first second : Compile α}
    (yes : Widening document first) (no : Widening document second) :
    Widening document (if condition then first else second) := by
  split
  · exact yes
  · exact no

end Widening

/-- The other step does the same, if the derived nodes of the tables in which this one ends do not
    refer to the name. -/
def Agrees (document : Document) (name : Text) (step step' : Compile α) (before : Tables) : Prop :=
  (step.final before).Avoids document name → step'.run before = step.run before

namespace Agrees

theorem refl (step : Compile α) : Agrees document name step step before := fun _ => rfl

theorem bind {step step' : Compile α} {next next' : α → Compile β}
    (first : Agrees document name step step' before)
    (widening : ∀ value, Widening document (next value))
    (then_ : ∀ value middle, step.run before = .ok value middle →
      Agrees document name (next value) (next' value) middle) :
    Agrees document name (step >>= next) (step' >>= next') before := by
  intro avoids
  rw [final_bind] at avoids
  rw [run_bind, run_bind]
  rw [Agrees, final] at first
  cases ran : step.run before with
  | ok value middle =>
      rw [ran] at first avoids
      rw [first (avoids.of_widens (widening value middle))]
      exact then_ value middle ran avoids
  | error failure middle =>
      rw [ran] at first avoids
      rw [first avoids]

/-- A loop whose passes agree, from any tables that are ready. -/
theorem forM {items : List α} {step step' : α → Compile Unit} (ready : Tables → Prop)
    (stays : ∀ {before after}, Tables.Widens document before after → ready before → ready after)
    (widening : ∀ item ∈ items, Widening document (step item))
    (each : ∀ item ∈ items, ∀ tables, ready tables →
      Agrees document name (step item) (step' item) tables)
    (start : ready before) :
    Agrees document name (items.forM step) (items.forM step') before := by
  induction items generalizing before with
  | nil => exact .refl _
  | cons item rest ih =>
      refine .bind (each item List.mem_cons_self before start)
        (fun _ => .forM fun other member => widening other (.tail _ member)) ?_
      intro _ middle ran
      have widens := widening item List.mem_cons_self before
      rw [final, ran] at widens
      exact ih (fun other member => widening other (.tail _ member))
        (fun other member => each other (.tail _ member)) (stays widens start)

end Agrees

end Compile

namespace Collection

open Compile (Widening Agrees)

variable {env : Environment} {document : Document} {owner target : Node} {reference name : Text}
  {tables : Tables} {fuel fuel' : Nat}

theorem widening_elementAccessor (path : List Text) :
    Widening document (elementAccessor env target path) := by
  refine .get_bind fun tables => ?_
  split
  · exact .pure _
  · refine .bind (.ofExcept _) fun argument => .bind (.get_bind fun tables => ?_) fun cell => .pure _
    split
    · exact .pure _
    · exact .bind (.allocate _) fun _ => .bind (.allocate _) fun _ =>
        .bind (.modify fun _ => rfl) fun _ => .pure _

theorem widening_noteRead (identifier : Text) :
    Widening document (Environment.noteRead owner target reference identifier) := by
  unfold Environment.noteRead
  exact .ite (.bind (.modify fun _ => rfl) fun _ => .modify fun _ => rfl) (.modify fun _ => rfl)

theorem widening_collectProps {collect : Text → Compile Unit} {node : Node}
    (each : ∀ reference, Widening document (collect reference)) :
    Widening document (collectProps collect node) := by
  refine .forM fun prop _ => ?_
  cases prop with
  | none => exact .pure ()
  | some value => exact .bind (.ofExcept _) fun references => .forM fun reference _ => each reference

theorem widening_collectReference (consistent : env.Consistent) (fuel : Nat) (owner : Node)
    (reference : Text) :
    Widening env.document (collectReference env fuel (some owner) reference) := by
  induction fuel generalizing owner reference with
  | zero => exact fun _ => .refl
  | succ fuel ih =>
      cases named : env.target? reference with
      | none =>
          rw [Environment.collectReference_of_none named]
          exact .modify fun _ => rfl
      | some target =>
          rw [Environment.collectReference_of_some consistent named]
          cases target.kind with
          | page _ => exact .modify fun _ => rfl
          | element _ => exact .bind (widening_elementAccessor _) fun _ => .modify fun _ => rfl
          | derived _ =>
              have stored : target.id ∈ env.document.keys :=
                Table.mem_keys_iff.mpr ⟨target, consistent.get?_target named⟩
              refine .bind (.addDerived stored) fun opened => .ite ?_ (widening_noteRead _)
              exact .bind (widening_collectProps (ih target)) fun _ => widening_noteRead _

/-- All derived nodes in the tables are the document's, and two runs have room for the others. -/
structure Room (document : Document) (fuel fuel' : Nat) (tables : Tables) : Prop where
  known : tables.derived.keys ⊆ document.keys
  room : document.size < fuel + tables.derived.size
  room' : document.size < fuel' + tables.derived.size

theorem Room.widen {before after : Tables} (widens : Tables.Widens document before after)
    (room : Room document fuel fuel' before) : Room document fuel fuel' after := by
  have larger := before.derived.distinct.length_le_of_subset widens.keeps
  have size : before.derived.size ≤ after.derived.size := by
    simpa [Table.size, Table.keys] using larger
  obtain ⟨known, first, second⟩ := room
  exact ⟨widens.known known, by omega, by omega⟩

/-- There is room for one more level of nesting. -/
theorem Room.pos (room : Room document fuel fuel' tables) : 0 < fuel ∧ 0 < fuel' := by
  have few := tables.derived.distinct.length_le_of_subset room.known
  have size : tables.derived.size ≤ document.size := by
    simpa [Table.size, Table.keys] using few
  obtain ⟨_, first, second⟩ := room
  omega

theorem opened_of_addDerived {identifier : Text} {after : Tables}
    (ran : (Compile.addDerived target).run tables = .ok (identifier, true) after) :
    tables.derived.get? target.id = none ∧
      after.derived = tables.derived.insert target.id identifier := by
  have ends : (Compile.addDerived target).Ends tables (fun opened after => opened.2 = true →
      tables.derived.get? target.id = none ∧
        after.derived = tables.derived.insert target.id opened.1) fun _ => True := by
    rw [Compile.ends_addDerived]
    split
    · exact fun isNew => nomatch isNew
    · next absent => exact fun _ => ⟨absent, rfl⟩
  exact ends.of_ok ran rfl

/-- A new derived node pays for the level of nesting below it. -/
theorem Room.open {identifier : Text} {after : Tables}
    (room : Room document (fuel + 1) (fuel' + 1) tables) (stored : target.id ∈ document.keys)
    (ran : (Compile.addDerived target).run tables = .ok (identifier, true) after) :
    Room document fuel fuel' after := by
  obtain ⟨absent, opened⟩ := opened_of_addDerived ran
  have widens := Widening.addDerived stored tables
  rw [Compile.final, ran] at widens
  have larger := Table.size_insert_of_absent identifier absent
  rw [← opened] at larger
  obtain ⟨known, first, second⟩ := room
  exact ⟨widens.known known, by omega, by omega⟩

theorem agrees_collectProps {collect collect' : Text → Compile Unit}
    (room : Room document fuel fuel' tables) (avoids : owner.Avoids name)
    (widening : ∀ reference, Widening document (collect reference))
    (each : ∀ reference tables, Room document fuel fuel' tables → Reference.name reference ≠ name →
      Agrees document name (collect reference) (collect' reference) tables) :
    Agrees document name (collectProps collect owner) (collectProps collect' owner) tables := by
  refine .forM (Room document fuel fuel') Room.widen ?_ ?_ room
  · intro prop _
    cases prop with
    | none => exact .pure ()
    | some value =>
        exact .bind (.ofExcept _) fun references => .forM fun reference _ => widening reference
  · intro prop member middle ready
    cases prop with
    | none => exact .refl _
    | some value =>
        refine .bind (.refl _) (fun references => .forM fun reference _ => widening reference) ?_
        intro references after ran
        obtain ⟨read, rfl⟩ : value.references = .ok references ∧ after = middle := by
          cases known : value.references with
          | ok others =>
              rw [known] at ran
              cases ran
              exact ⟨rfl, rfl⟩
          | error failure =>
              rw [known] at ran
              cases ran
        refine .forM (Room document fuel fuel') Room.widen (fun reference _ => widening reference) ?_
          ready
        intro reference inside tables ready
        exact each reference tables ready (avoids reference ⟨value, references, member, read, inside⟩)

/-- The references of a derived node that is in the tables, and what comes after them. That the node
    avoids the name shows at the end, because it stays in the tables until then. -/
theorem agrees_collectOpened {collect collect' : Text → Compile Unit} {next : Compile Unit}
    (room : Room document fuel fuel' tables) (found : document.get? target.id = some target)
    (opened : target.id ∈ tables.derived.keys) (last : Widening document next)
    (widening : ∀ reference, Widening document (collect reference))
    (each : ∀ reference tables, Room document fuel fuel' tables → Reference.name reference ≠ name →
      Agrees document name (collect reference) (collect' reference) tables) :
    Agrees document name (collectProps collect target >>= fun _ => next)
      (collectProps collect' target >>= fun _ => next) tables := by
  intro avoids
  have all : Widening document (collectProps collect target >>= fun _ => next) :=
    .bind (widening_collectProps widening) fun _ => last
  have targetAvoids := avoids target.id ((all tables).keeps opened) target found
  have first := agrees_collectProps room targetAvoids widening each
  exact first.bind (fun _ => last) (fun _ _ _ => .refl _) avoids

end Collection

namespace Environment

/-- The environment with another document. -/
def within (env : Environment) (document : Document) : Environment :=
  { env with document, snapshot := document.snapshot }

variable {env : Environment} {larger : Document} {node owner : Node} {reference : Text}
  {tables : Tables} {fuel fuel' : Nat}

theorem Consistent.within (consistent : env.Consistent) (inserts : env.document.Inserts node larger) :
    (env.within larger).Consistent :=
  ⟨inserts.keyed consistent.keyed, rfl, inserts.mem_values.mpr (.inr consistent.page_mem)⟩

theorem target?_within (consistent : env.Consistent) (inserts : env.document.Inserts node larger)
    (differs : Reference.name reference ≠ node.name) :
    (env.within larger).target? reference = env.target? reference := by
  rw [target?, target?, consistent.snapshot_eq]
  exact inserts.named?_of_ne differs

end Environment

namespace Collection

open Compile (Widening Agrees)

variable {env : Environment} {larger : Document} {node owner : Node} {reference : Text}
  {tables : Tables} {fuel fuel' : Nat}

/-- Collecting a reference that does not name the new node. -/
theorem agrees_collectReference (consistent : env.Consistent)
    (inserts : env.document.Inserts node larger) (room : Room env.document fuel fuel' tables)
    (differs : Reference.name reference ≠ node.name) :
    Agrees env.document node.name (collectReference env fuel (some owner) reference)
      (collectReference (env.within larger) fuel' (some owner) reference) tables := by
  induction fuel generalizing fuel' owner reference tables with
  | zero => exact absurd room.pos.1 (Nat.lt_irrefl 0)
  | succ fuel ih =>
      obtain ⟨fuel', rfl⟩ := Nat.exists_eq_succ_of_ne_zero (Nat.ne_of_gt room.pos.2)
      have sameTarget := Environment.target?_within consistent inserts differs
      cases named : env.target? reference with
      | none =>
          rw [Environment.collectReference_of_none named,
            Environment.collectReference_of_none (sameTarget.trans named)]
          exact .refl _
      | some target =>
          rw [Environment.collectReference_of_some consistent named,
            Environment.collectReference_of_some (consistent.within inserts) (sameTarget.trans named)]
          cases target.kind with
          | page _ => exact .refl _
          | element _ => exact .refl _
          | derived _ =>
              have found := consistent.get?_target named
              have stored : target.id ∈ env.document.keys := Table.mem_keys_iff.mpr ⟨target, found⟩
              have widening := widening_collectReference consistent fuel target
              refine .bind (.refl _) (fun opened => .ite (.bind (widening_collectProps widening)
                fun _ => widening_noteRead _) (widening_noteRead _)) ?_
              rintro ⟨identifier, isNew⟩ middle ran
              cases isNew with
              | false => exact .refl _
              | true =>
                  have opened : target.id ∈ middle.derived.keys := by
                    rw [(opened_of_addDerived ran).2, Table.mem_keys_iff]
                    exact ⟨identifier, Table.get?_insert_self _ _ _⟩
                  exact agrees_collectOpened (room.open stored ran) found opened
                    (widening_noteRead identifier) widening fun _ _ ready differs => ih ready differs

theorem agrees_collectPage (consistent : env.Consistent)
    (inserts : env.document.Inserts node larger) (apart : ¬ larger.snapshot.Below env.page node)
    (placed : ∀ other, env.snapshot.Below env.page other → other.Avoids node.name)
    (known : tables.derived.keys ⊆ env.document.keys) :
    Agrees env.document node.name (collectPage env) (collectPage (env.within larger)) tables := by
  have walk : (env.within larger).snapshot.descendants? (env.within larger).page =
      env.snapshot.descendants? env.page := by
    rw [consistent.snapshot_eq]
    exact inserts.descendants?_eq consistent.keyed consistent.page_mem apart
  rw [collectPage, collectPage, walk]
  cases walked : env.snapshot.descendants? env.page with
  | none => exact .refl _
  | some nodes =>
      have size := inserts.size_eq
      have room : Room env.document (nestingBound env) (nestingBound (env.within larger)) tables :=
        ⟨known, by simp only [nestingBound]; omega,
          by simp only [nestingBound, Environment.within]; omega⟩
      refine .forM (Room env.document (nestingBound env) (nestingBound (env.within larger)))
        Room.widen ?_ ?_ room
      · exact fun other _ => widening_collectProps (widening_collectReference consistent _ other)
      · intro other member tables ready
        have below := (Snapshot.mem_descendants walked other).mp member
        exact agrees_collectProps ready (placed other below)
          (widening_collectReference consistent _ other)
          fun _ _ ready differs => agrees_collectReference consistent inserts ready differs

end Collection

end PageCompiler
