import Mathlib.Data.List.Chain
import Mathlib.Data.List.Nodup
import Mathlib.Data.List.Perm.Subperm
import Mathlib.Logic.Relation

/-!
Contract: walks along links that lead from each position to at most one other.

A walk takes a bounded number of steps. Where links stay below a bound and no
position leads back to itself, `path` lists everything that a position leads to,
nearest first, and no bound that is large enough shows in it. `path_eq` is the
recursion that proofs follow; `path_nearest` is the same for a walk that stops only
at some of the positions.

Does not own: which links a program has.
-/

namespace BuilderSynthesis.Walk

/-- The positions met on a walk, up to a number of steps. -/
def visited (next : Nat → Option Nat) : Nat → Option Nat → List Nat
  | 0, _ => []
  | _ + 1, none => []
  | steps + 1, some position => position :: visited next steps (next position)

/-- Whether a position has a link to another. -/
def Leads (next : Nat → Option Nat) (position other : Nat) : Prop :=
  next position = some other

/-- Links lead from below a bound to below it. -/
def Bounded (next : Nat → Option Nat) (bound : Nat) : Prop :=
  ∀ position other, Leads next position other → position < bound ∧ other < bound

/-- No position leads back to itself. -/
def Acyclic (next : Nat → Option Nat) : Prop :=
  ∀ position, ¬ Relation.TransGen (Leads next) position position

/-- Everything that a position leads to, nearest first. -/
def path (next : Nat → Option Nat) (bound position : Nat) : List Nat :=
  visited next bound (next position)

theorem visited_none (next : Nat → Option Nat) (steps : Nat) : visited next steps none = [] := by
  cases steps <;> rfl

/-- A walk that ended before its last step stays the same with any number of steps that it has
room in. -/
theorem visited_eq_of_short {next : Nat → Option Nat} {steps : Nat} {start : Option Nat}
    (short : (visited next steps start).length < steps) {other : Nat}
    (room : (visited next steps start).length ≤ other) :
    visited next other start = visited next steps start := by
  induction steps generalizing start other with
  | zero => simp at short
  | succ steps inductionHypothesis =>
      cases start with
      | none => simp [visited_none]
      | some position =>
          simp only [visited, List.length_cons] at short room ⊢
          cases other with
          | zero => omega
          | succ other =>
              rw [visited, inductionHypothesis (by omega) (by omega)]

theorem reaches_of_mem_visited {next : Nat → Option Nat} {steps : Nat} {position other : Nat}
    (member : other ∈ visited next steps (next position)) :
    Relation.TransGen (Leads next) position other := by
  induction steps generalizing position with
  | zero => simp [visited] at member
  | succ steps inductionHypothesis =>
      cases link : next position with
      | none => simp [link, visited] at member
      | some nearest =>
          rw [link, visited, List.mem_cons] at member
          rcases member with same | later
          · exact .single (same ▸ link)
          · exact .head link (inductionHypothesis later)

theorem eq_or_reaches_of_mem_visited {next : Nat → Option Nat} {steps : Nat}
    {position other : Nat} (member : other ∈ visited next steps (some position)) :
    other = position ∨ Relation.TransGen (Leads next) position other := by
  cases steps with
  | zero => cases member
  | succ steps => exact (List.mem_cons.1 member).imp_right reaches_of_mem_visited

theorem nodup_cons_visited {next : Nat → Option Nat} (acyclic : Acyclic next) (steps : Nat)
    (position : Nat) : (position :: visited next steps (next position)).Nodup := by
  induction steps generalizing position with
  | zero => simp [visited]
  | succ steps inductionHypothesis =>
      refine List.nodup_cons.2 ⟨fun member => acyclic position (reaches_of_mem_visited member), ?_⟩
      cases next position with
      | none => simp [visited]
      | some nearest => exact inductionHypothesis nearest

/-- Links along which a rank falls lead nowhere back. -/
theorem acyclic_of_rank {next : Nat → Option Nat} (rank : Nat → Nat)
    (falls : ∀ position other, Leads next position other → rank other < rank position) :
    Acyclic next := by
  have lower : ∀ {position other : Nat}, Relation.TransGen (Leads next) position other →
      rank other < rank position := by
    intro position other reaches
    induction reaches with
    | single link => exact falls _ _ link
    | tail _ link inductionHypothesis => exact Nat.lt_trans (falls _ _ link) inductionHypothesis
  exact fun position loop => Nat.lt_irrefl (rank position) (lower loop)

/-- Links that lead down only lead nowhere back. -/
theorem acyclic_of_descending {next : Nat → Option Nat}
    (descending : ∀ position other, Leads next position other → other < position) :
    Acyclic next :=
  acyclic_of_rank id descending

/-- Different positions below a bound are no more than the bound. -/
theorem length_le_of_nodup {bound : Nat} {items : List Nat} (distinct : items.Nodup)
    (below : ∀ item ∈ items, item < bound) : items.length ≤ bound := by
  have within : items ⊆ List.range bound := fun item member => List.mem_range.2 (below item member)
  simpa using (distinct.subperm within).length_le

section Bounded

variable {next : Nat → Option Nat} {bound : Nat}

theorem lt_of_reaches (bounded : Bounded next bound) {position other : Nat}
    (reaches : Relation.TransGen (Leads next) position other) : other < bound := by
  cases reaches with
  | single link => exact (bounded _ _ link).2
  | tail _ link => exact (bounded _ _ link).2

theorem length_path_lt (acyclic : Acyclic next) (bounded : Bounded next bound) {position : Nat}
    (known : position < bound) : (path next bound position).length < bound := by
  have below : ∀ other ∈ position :: visited next bound (next position), other < bound := by
    intro other member
    rcases List.mem_cons.1 member with same | later
    · exact same ▸ known
    · exact lt_of_reaches bounded (reaches_of_mem_visited later)
  exact length_le_of_nodup (nodup_cons_visited acyclic bound position) below

/-- What a position leads to is the position it has a link to and what that leads to. -/
theorem path_eq (acyclic : Acyclic next) (bounded : Bounded next bound) (position : Nat) :
    path next bound position =
      match next position with
      | none => []
      | some nearest => nearest :: path next bound nearest := by
  unfold path
  cases link : next position with
  | none => exact visited_none next bound
  | some nearest =>
      have known := (bounded _ _ link).2
      have short := length_path_lt acyclic bounded known
      cases bound with
      | zero => exact absurd known (Nat.not_lt_zero nearest)
      | succ less =>
          rw [visited, visited_eq_of_short short (Nat.le_of_lt_succ short)]

/-- What holds of a position if it holds of the one that it has a link to holds of all. -/
theorem induction_on (acyclic : Acyclic next) (bounded : Bounded next bound)
    {motive : Nat → Prop} (position : Nat)
    (step : ∀ position, (∀ other, next position = some other → motive other) → motive position) :
    motive position := by
  generalize size : (path next bound position).length = length
  induction length generalizing position with
  | zero =>
      refine step position fun other link => ?_
      rw [path_eq acyclic bounded, link] at size
      cases size
  | succ length inductionHypothesis =>
      refine step position fun other link => inductionHypothesis other ?_
      rw [path_eq acyclic bounded, link] at size
      exact Nat.succ.inj size

/-- A position leads to exactly what its path lists. -/
theorem mem_path_iff (acyclic : Acyclic next) (bounded : Bounded next bound)
    (position other : Nat) :
    other ∈ path next bound position ↔ Relation.TransGen (Leads next) position other := by
  constructor
  · exact reaches_of_mem_visited
  · intro reaches
    induction reaches using Relation.TransGen.head_induction_on with
    | single link =>
        rw [path_eq acyclic bounded, link]
        exact List.mem_cons_self
    | head link _ inductionHypothesis =>
        rw [path_eq acyclic bounded, link]
        exact List.mem_cons_of_mem _ inductionHypothesis

/-- Before each position of a path come those that lead to it, and after it all that it leads
to. -/
theorem path_split (acyclic : Acyclic next) (bounded : Bounded next bound)
    {position other : Nat} (member : other ∈ path next bound position) :
    ∃ before, path next bound position = before ++ other :: path next bound other ∧
      ∀ between ∈ before, Relation.TransGen (Leads next) between other := by
  have reaches := reaches_of_mem_visited member
  induction reaches using Relation.TransGen.head_induction_on with
  | single link =>
      refine ⟨[], ?_, fun _ impossible => nomatch impossible⟩
      rw [path_eq acyclic bounded, link]
      rfl
  | @head position nearest link reaches inductionHypothesis =>
      obtain ⟨before, split, lead⟩ :=
        inductionHypothesis ((mem_path_iff acyclic bounded nearest other).2 reaches)
      refine ⟨nearest :: before, ?_, List.forall_mem_cons.2 ⟨reaches, lead⟩⟩
      rw [path_eq acyclic bounded, link]
      simp only [split, List.cons_append]

theorem nodup_cons_path (acyclic : Acyclic next) (bound position : Nat) :
    (position :: path next bound position).Nodup :=
  nodup_cons_visited acyclic bound position

/-- Each position of a path has a link to the one after it. -/
theorem isChain_cons_path (acyclic : Acyclic next) (bounded : Bounded next bound)
    (position : Nat) : (position :: path next bound position).IsChain (Leads next) := by
  induction position using induction_on acyclic bounded with
  | step position inductionHypothesis =>
      rw [path_eq acyclic bounded]
      cases link : next position with
      | none => exact .singleton position
      | some nearest => exact .cons_cons link (inductionHypothesis nearest link)

/-- A path goes on to a position without a link. -/
theorem exists_last_cons_path (acyclic : Acyclic next) (bounded : Bounded next bound)
    (position : Nat) :
    ∃ last, (position :: path next bound position).getLast? = some last ∧ next last = none := by
  induction position using induction_on acyclic bounded with
  | step position inductionHypothesis =>
      rw [path_eq acyclic bounded]
      cases link : next position with
      | none => exact ⟨position, rfl, link⟩
      | some nearest =>
          obtain ⟨last, there, ends⟩ := inductionHypothesis nearest link
          exact ⟨last, by rw [List.getLast?_cons_cons, there], ends⟩

/-! ### Walks that stop at some positions only -/

/-- The link to the nearest position of a kind. -/
def nearest (next : Nat → Option Nat) (bound : Nat) (kind : Nat → Bool) (position : Nat) :
    Option Nat :=
  (path next bound position).find? kind

theorem nearest_closed {kind : Nat → Bool} (position other : Nat) (_ : kind position = true)
    (link : nearest next bound kind position = some other) : kind other = true :=
  List.find?_some link

theorem reaches_of_nearest {kind : Nat → Bool} {position other : Nat}
    (link : Leads (nearest next bound kind) position other) :
    Relation.TransGen (Leads next) position other :=
  reaches_of_mem_visited (List.mem_of_find?_eq_some link)

theorem acyclic_nearest (acyclic : Acyclic next) (kind : Nat → Bool) :
    Acyclic (nearest next bound kind) := by
  intro position loop
  refine acyclic position ?_
  exact Relation.TransGen.closed (fun _ _ => reaches_of_nearest) _ _ loop

theorem bounded_nearest (bounded : Bounded next bound) (kind : Nat → Bool) :
    Bounded (nearest next bound kind) bound := by
  intro position other link
  have reaches := reaches_of_nearest link
  refine ⟨?_, lt_of_reaches bounded reaches⟩
  obtain ⟨first, start, _⟩ := Relation.TransGen.head'_iff.1 reaches
  exact (bounded _ _ start).1

/-- A walk that stops at positions of one kind meets those of the whole path. -/
theorem path_nearest (acyclic : Acyclic next) (bounded : Bounded next bound)
    (kind : Nat → Bool) (position : Nat) :
    path (nearest next bound kind) bound position = (path next bound position).filter kind := by
  have unfolded := path_eq (acyclic_nearest acyclic kind) (bounded_nearest bounded kind)
  induction position using induction_on acyclic bounded with
  | step position inductionHypothesis =>
      rw [unfolded]
      unfold nearest
      rw [path_eq acyclic bounded]
      cases link : next position with
      | none => rfl
      | some other =>
          by_cases stops : kind other = true
          · rw [List.find?_cons_of_pos stops, List.filter_cons_of_pos stops,
              ← inductionHypothesis other link]
            rfl
          · rw [List.find?_cons_of_neg stops, List.filter_cons_of_neg stops,
              ← inductionHypothesis other link, unfolded]
            rfl

end Bounded

/-! ### Walks under other names -/

/-- A walk along links that carry the names of other positions carries the names of that walk, if
it stays among positions of which the names are known. -/
theorem visited_map {next named : Nat → Option Nat} {name : Nat → Nat} {known : Nat → Prop}
    (closed : ∀ position other, known position → next position = some other → known other)
    (agrees : ∀ position, known position → named (name position) = (next position).map name)
    (steps : Nat) {position : Nat} (start : known position) :
    visited named steps (some (name position)) =
      (visited next steps (some position)).map name := by
  induction steps generalizing position with
  | zero => rfl
  | succ steps inductionHypothesis =>
      rw [visited, visited, List.map_cons, agrees position start]
      cases link : next position with
      | none => rw [Option.map_none, visited_none, visited_none, List.map_nil]
      | some other =>
          rw [Option.map_some, inductionHypothesis (closed position other start link)]

/-- What such links lead to carries the name of what a position leads to. -/
theorem exists_of_reaches_named {next named : Nat → Option Nat} {name : Nat → Nat}
    {known : Nat → Prop}
    (closed : ∀ position other, known position → next position = some other → known other)
    (agrees : ∀ position, known position → named (name position) = (next position).map name)
    {position image : Nat} (start : known position)
    (reaches : Relation.TransGen (Leads named) (name position) image) :
    ∃ other, Relation.TransGen (Leads next) position other ∧ known other ∧ image = name other := by
  induction reaches with
  | single link =>
      rw [Leads, agrees position start] at link
      obtain ⟨other, here, rfl⟩ := Option.map_eq_some_iff.1 link
      exact ⟨other, .single here, closed position other start here, rfl⟩
  | tail _ link inductionHypothesis =>
      obtain ⟨middle, before, there, rfl⟩ := inductionHypothesis
      rw [Leads, agrees middle there] at link
      obtain ⟨other, here, rfl⟩ := Option.map_eq_some_iff.1 link
      exact ⟨other, before.tail here, closed middle other there here, rfl⟩

/-- Under names that are distinct no position leads back to itself if none does without them. -/
theorem not_reaches_of_named {next named : Nat → Option Nat} {name : Nat → Nat}
    {known : Nat → Prop}
    (closed : ∀ position other, known position → next position = some other → known other)
    (agrees : ∀ position, known position → named (name position) = (next position).map name)
    (distinct : ∀ left right, known left → known right → name left = name right → left = right)
    (acyclic : Acyclic next) {position : Nat} (start : known position) :
    ¬ Relation.TransGen (Leads named) (name position) (name position) := by
  intro loop
  obtain ⟨other, reaches, there, same⟩ := exists_of_reaches_named closed agrees start loop
  obtain rfl := distinct position other start there same
  exact acyclic position reaches

/-- A start and its path are the walk from the start, with room for all of them. -/
theorem visited_eq_cons_path {next : Nat → Option Nat} {bound : Nat} (acyclic : Acyclic next)
    (bounded : Bounded next bound) {position : Nat} (known : position < bound) {steps : Nat}
    (room : bound ≤ steps) :
    visited next steps (some position) = position :: path next bound position := by
  have short := length_path_lt acyclic bounded known
  cases steps with
  | zero => omega
  | succ steps => rw [visited, visited_eq_of_short short (by unfold path at short; omega), path]

end BuilderSynthesis.Walk
