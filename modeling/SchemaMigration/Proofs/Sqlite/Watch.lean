import SchemaMigration.Proofs.Sqlite.Block

/-!
Watching a script. Something that statements change is followed through a script and asks something
of each statement. Whether all of them are admitted is decided change by change, as long as what is
known of the watched state at a moment of the difference carries over to the next one.
-/

namespace SchemaMigration.Sqlite

/-- Something that statements change, and what it asks of each of them. It is no setting. -/
structure Watch (σ : Type) where
  after : σ → Statement → σ
  Admits : σ → Statement → Prop
  after_set (g : σ) (setting : Setting) : after g (.set setting) = g
  admits_set (g : σ) (setting : Setting) : Admits g (.set setting)

namespace Watch

variable {σ : Type} {w : Watch σ} {g : σ} {first second statements : List Statement}
  {st : Statement}

def run (w : Watch σ) (g : σ) (statements : List Statement) : σ := statements.foldl w.after g

def AdmitsAll (w : Watch σ) (g : σ) : List Statement → Prop
  | [] => True
  | st :: rest => w.Admits g st ∧ w.AdmitsAll (w.after g st) rest

@[simp] theorem run_nil : w.run g [] = g := rfl

@[simp] theorem run_cons : w.run g (st :: statements) = w.run (w.after g st) statements := rfl

@[simp] theorem run_append : w.run g (first ++ second) = w.run (w.run g first) second := by
  simp [run]

@[simp] theorem admitsAll_nil : w.AdmitsAll g [] ↔ True := Iff.rfl

@[simp] theorem admitsAll_cons :
    w.AdmitsAll g (st :: statements) ↔
      w.Admits g st ∧ w.AdmitsAll (w.after g st) statements := Iff.rfl

@[simp] theorem admitsAll_append :
    w.AdmitsAll g (first ++ second) ↔
      w.AdmitsAll g first ∧ w.AdmitsAll (w.run g first) second := by
  induction first generalizing g with
  | nil => simp
  | cons st rest ih => simp [ih, and_assoc]

theorem admitsAll_of_admits (h : ∀ st ∈ statements, ∀ g, w.Admits g st) :
    w.AdmitsAll g statements := by
  induction statements generalizing g with
  | nil => trivial
  | cons st rest ih =>
    exact ⟨h st List.mem_cons_self g, ih fun s hs => h s (List.mem_cons_of_mem _ hs)⟩

theorem run_bracketed (rebuilds touchesKeys : Bool) :
    w.run g (bracketed rebuilds touchesKeys statements) = w.run g statements := by
  unfold bracketed
  split
  · simp [w.after_set]
  · split
    · simp [w.after_set]
    · simp

theorem admitsAll_bracketed (rebuilds touchesKeys : Bool) :
    w.AdmitsAll g (bracketed rebuilds touchesKeys statements) ↔ w.AdmitsAll g statements := by
  unfold bracketed
  split
  · simp [w.after_set, w.admits_set]
  · split
    · simp [w.after_set, w.admits_set]
    · simp

variable {c : Comparison} {p p' : Progress} {done rest : List Change} {x : Change}
  {Known : List Change → Progress → σ → Prop} {Allowed : List Change → Change → Prop}

/-- What is known of a watched state carries over from one moment to the next one, and the
statements for a change are admitted if the change is allowed at its moment. -/
structure Keeps (w : Watch σ) (c : Comparison) (Known : List Change → Progress → σ → Prop)
    (Allowed : List Change → Change → Prop) : Prop where
  admits_iff : ∀ {done x p p' statements g}, c.Moment (done ++ [x]) → Known done p g →
    Emits c p x p' statements → (w.AdmitsAll g statements ↔ Allowed done x)
  step : ∀ {done x p p' statements g}, c.Moment (done ++ [x]) → Known done p g →
    Emits c p x p' statements → w.AdmitsAll g statements →
      Known (done ++ [x]) p' (w.run g statements)

theorem forall_split_cons {P : List Change → Change → Prop} :
    (∀ before y after, x :: rest = before ++ y :: after → P before y) ↔
      P [] x ∧ ∀ before y after, rest = before ++ y :: after → P (x :: before) y := by
  constructor
  · intro h
    refine ⟨h [] x rest rfl, ?_⟩
    rintro before y after rfl
    exact h (x :: before) y after rfl
  · rintro ⟨first, others⟩ before y after heq
    cases before with
    | nil =>
      obtain ⟨rfl, -⟩ := List.cons.inj heq
      exact first
    | cons z before =>
      obtain ⟨rfl, hrest⟩ := List.cons.inj heq
      exact others before y after hrest

theorem Keeps.emitsAll (h : w.Keeps c Known Allowed) (hc : c.current.Distinct)
    (ht : c.target.Distinct) (emits : EmitsAll c p rest p' statements) (known : Known done p g)
    (order : done ++ rest = c.ordered) :
    (w.AdmitsAll g statements ↔
        ∀ before x after, rest = before ++ x :: after → Allowed (done ++ before) x) ∧
      (w.AdmitsAll g statements → Known (done ++ rest) p' (w.run g statements)) := by
  induction emits generalizing done g with
  | nil => simpa using known
  | @cons p p₁ p₂ x rest first others head tail ih =>
    rw [← List.singleton_append, ← List.append_assoc] at order
    have moment := Comparison.moment_of_prefix hc ht ⟨rest, order⟩
    have allowed := h.admits_iff moment known head
    rw [admitsAll_append, forall_split_cons (P := fun before => Allowed (done ++ before)),
      List.append_nil, ← allowed, run_append]
    by_cases admitted : w.AdmitsAll g first
    · obtain ⟨hiff, hknown⟩ := ih (h.step moment known head admitted) order
      simp only [admitted, true_and, hiff, List.append_assoc, List.singleton_append] at hknown ⊢
      exact hknown
    · simp [admitted]

/-- A script is admitted if all of its changes are allowed. -/
theorem Keeps.script (h : w.Keeps c Known Allowed) (hc : c.current.Distinct)
    (ht : c.target.Distinct) {d : Difference} (hd : c.difference = .ok d) {s done : Session}
    {generatedAt : String} {emitted : List Statement}
    (script : Script s c d generatedAt done emitted)
    (start : ∀ p, p.rebuilt = [] → Known [] p g) :
    (w.AdmitsAll g (bracketed (!done.progress.rebuilding.isEmpty) d.touchesForeignKeys emitted) ↔
        ∀ before x after, d.changes = before ++ x :: after → Allowed before x) ∧
      (w.AdmitsAll g
          (bracketed (!done.progress.rebuilding.isEmpty) d.touchesForeignKeys emitted) →
        ∃ p, Known d.changes p (w.run g
          (bracketed (!done.progress.rebuilding.isEmpty) d.touchesForeignKeys emitted))) := by
  obtain ⟨p, p', unrebuilt, emits⟩ := script.emits
  obtain ⟨hiff, hknown⟩ := h.emitsAll hc ht emits (start p unrebuilt)
    (Comparison.changes_of_difference hd)
  rw [admitsAll_bracketed, run_bracketed]
  exact ⟨hiff, fun admitted => ⟨p', hknown admitted⟩⟩

end Watch

end SchemaMigration.Sqlite
