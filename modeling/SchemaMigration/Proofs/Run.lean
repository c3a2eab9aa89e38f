import SchemaMigration.Proofs.Result
import SchemaMigration.Run

/-!
The course of a run. Whatever a connection factory, a reader and a receiver do, the script is handed
over at most once, after all stages were passed, and a connection that was opened is closed once
before that.
-/

namespace SchemaMigration

namespace RunM

variable {α β : Type} {r r' : Run} {connection : Connection}

/-- What a step of a run answers and what it makes of the run. -/
def after (x : RunM α) (r : Run) : Except Failure α × Run := x.run.run r

/-! ### Steps in a row -/

theorem after_bind (x : RunM α) (f : α → RunM β) (r : Run) :
    (x >>= f).after r =
      match x.after r with
      | (.ok a, r) => (f a).after r
      | (.error failure, r) => (.error failure, r) := by
  simp only [after, ExceptT.run_bind, StateT.run_bind]
  rcases x.run.run r with ⟨_ | _, _⟩ <;> rfl

theorem bind_ok {x : RunM α} {f : α → RunM β} {b : β} (h : (x >>= f).after r = (.ok b, r')) :
    ∃ a middle, x.after r = (.ok a, middle) ∧ (f a).after middle = (.ok b, r') := by
  rw [after_bind] at h
  rcases hx : x.after r with ⟨_ | a, middle⟩ <;> rw [hx] at h
  · cases h
  · exact ⟨a, middle, rfl, h⟩

/-- The last step is taken in any case, and its failure outweighs the one before. -/
theorem after_tryFinally (x : RunM α) (y : RunM β) (r : Run) :
    (tryFinally x y).after r =
      match x.after r with
      | (result, r) =>
        match y.after r with
        | (.ok _, r) => (result, r)
        | (.error failure, r) => (.error failure, r) := by
  unfold after
  rcases hx : x.run.run r with ⟨result, middle⟩
  rcases hy : y.run.run middle with ⟨last, r'⟩
  simp only [ExceptT.run, StateT.run] at hx hy
  cases result <;> cases last <;>
    simp only [tryFinally, MonadFinally.tryFinally', ExceptT.run, StateT.run, Functor.map,
      ExceptT.map, ExceptT.mk, bind, StateT.bind, hx, hy] <;> rfl

@[simp] theorem after_pure (a : α) : (pure a : RunM α).after r = (.ok a, r) := rfl

@[simp] theorem after_throw (failure : Failure) :
    (throw failure : RunM α).after r = (.error failure, r) := rfl

@[simp] theorem after_get : (get : RunM Run).after r = (.ok r, r) := rfl

@[simp] theorem after_modify (f : Run → Run) : (modify f : RunM Unit).after r = (.ok (), f r) := rfl

@[simp] theorem after_note (event : RunEvent) :
    (note event).after r = (.ok (), { r with events := r.events ++ [event] }) := rfl

@[simp] theorem after_changeSession (f : Session → Session) :
    (changeSession f).after r = (.ok (), { r with session := f r.session }) := rfl

theorem after_stage (st : Stage) (result : Except Failure α) (r : Run) :
    (stage st result).after r =
      match result with
      | .ok a => (.ok a, { r with events := r.events ++ [.passed st] })
      | .error failure => (.error failure, r) := by
  cases result <;> rfl

theorem after_writeStage (st : Stage) (write : Session → Session.Outcome) (r : Run) :
    (writeStage st write).after r =
      match (write r.session).failure with
      | none => (.ok (), ⟨(write r.session).session, r.connection, r.events ++ [.passed st]⟩)
      | some failure => (.error failure, { r with session := (write r.session).session }) := by
  simp only [writeStage, after_bind, after_get, after_changeSession]
  cases (write r.session).failure <;> rfl

/-! ### The connection -/

def opening (connection : Connection) : List RunEvent :=
  if connection.closes then [.opened] else []

def closing (connection : Connection) : List RunEvent :=
  if connection.closes then [.closed] else []

@[simp] theorem mem_opening {event : RunEvent} :
    event ∈ opening connection ↔ connection.closes = true ∧ event = .opened := by
  simp [opening]

@[simp] theorem mem_closing {event : RunEvent} :
    event ∈ closing connection ↔ connection.closes = true ∧ event = .closed := by
  simp [closing]

theorem after_openConnection (e : Executor) (r : Run) :
    (openConnection e).after r =
      match e.connect r.session.dialect e.configuration.connectionString with
      | .error failure => (.error (.migration .cannotConnect (some failure)), r)
      | .ok connection =>
        (.ok (), ⟨r.session, some connection, r.events ++ opening connection ++
          [.passed .connecting]⟩) := by
  simp only [openConnection, after_bind, after_get]
  cases e.connect r.session.dialect e.configuration.connectionString with
  | error failure => rfl
  | ok connection => cases h : connection.closes <;> simp [after_bind, opening, h]

theorem after_closeConnection (r : Run) :
    closeConnection.after r =
      match r.connection with
      | none => (.ok (), ⟨r.session, none, r.events⟩)
      | some connection =>
        (match connection.fault? with
          | none => .ok ()
          | some failure => .error failure,
        ⟨r.session, none, r.events ++ closing connection⟩) := by
  simp only [closeConnection, after_bind, after_get, after_modify]
  cases r.connection with
  | none => rfl
  | some connection =>
    cases h : connection.closes <;> cases hfault : connection.fault? <;>
      simp [after_bind, closing, h, hfault]

/-! ### Writing -/

def Passes (r r' : Run) : Prop :=
  r'.connection = r.connection ∧ ∃ stages : List Stage, r'.events = r.events ++ stages.map .passed

theorem Passes.rfl : Passes r r := ⟨.refl _, [], by simp⟩

def Quiet (x : RunM α) : Prop := ∀ r, Passes r (x.after r).2

theorem Quiet.bind {x : RunM α} {f : α → RunM β} (hx : Quiet x) (hf : ∀ a, Quiet (f a)) :
    Quiet (x >>= f) := by
  intro r
  have first := hx r
  rw [after_bind]
  rcases h : x.after r with ⟨_ | a, middle⟩ <;> rw [h] at first
  · exact first
  · obtain ⟨hconnection, stages, hevents⟩ := first
    obtain ⟨hconnection', stages', hevents'⟩ := hf a middle
    refine ⟨hconnection'.trans hconnection, stages ++ stages', ?_⟩
    dsimp only at hevents ⊢
    rw [hevents', hevents, List.map_append, List.append_assoc]

theorem quiet_get : Quiet get := fun _ => .rfl

theorem quiet_changeSession (f : Session → Session) : Quiet (changeSession f) :=
  fun _ => ⟨rfl, [], by simp⟩

@[simp] theorem after_keep (found : Context → Context) :
    (keep found).after r = (.ok (), { r with session :=
      { r.session with context := some (found r.session.contextOrEmpty) } }) := rfl

theorem quiet_stage (st : Stage) (result : Except Failure α) : Quiet (stage st result) := by
  intro r
  rw [after_stage]
  cases result with
  | ok a => exact ⟨rfl, [st], rfl⟩
  | error failure => exact .rfl

theorem quiet_writeStage (st : Stage) (write : Session → Session.Outcome) :
    Quiet (writeStage st write) := by
  intro r
  rw [after_writeStage]
  cases (write r.session).failure with
  | none => exact ⟨rfl, [st], rfl⟩
  | some failure => exact ⟨rfl, [], by simp⟩

theorem after_readCurrent (e : Executor) (r : Run) :
    (readCurrent e).after r =
      (stage .reading (guarded .cannotReadCurrent
        (e.readCurrent r.session.dialect (r.connection.getD .absent)))).after r := rfl

theorem quiet_readCurrent (e : Executor) : Quiet (readCurrent e) := fun r => quiet_stage _ _ r

theorem quiet_writeScript (e : Executor) (generatedAt : String) :
    Quiet (writeScript e generatedAt) :=
  (quiet_changeSession _).bind fun _ => (quiet_readCurrent e).bind fun _ =>
    (quiet_changeSession _).bind fun _ => quiet_get.bind fun _ => (quiet_stage _ _).bind fun _ =>
      (quiet_changeSession _).bind fun _ => quiet_get.bind fun _ => (quiet_stage _ _).bind fun _ =>
        (quiet_changeSession _).bind fun _ => (quiet_writeStage _ _).bind fun _ =>
          quiet_writeStage _ _

end RunM

theorem Session.compare_eq_ok_iff {s : Session} {skips : Bool} {current target : Snapshot}
    {x : Context} : s.compare skips current target = .ok x ↔
      ∃ d, (Comparison.mk current target s.dialect.rules skips).difference = .ok d ∧
        x = ⟨s.dialect, current, target, d.changes, skips⟩ := by
  unfold Session.compare
  cases (Comparison.mk current target s.dialect.rules skips).difference with
  | ok d => simp [eq_comm]
  | error fault =>
    constructor
    · intro h
      cases h
    · rintro ⟨d, hd, -⟩
      cases hd

@[simp] theorem Session.contextOrEmpty_known (s : Session) (x : Context) :
    Session.contextOrEmpty { s with context := some x } = x := rfl

/-! What is known of a run is not touched by its prolog. -/

theorem Session.context_addSettings (s : Session) (settings : List Setting) :
    (s.addSettings settings).session.context = s.context := by
  induction settings generalizing s with
  | nil => rfl
  | cons setting rest ih =>
    have added : (s.addProlog (Dialect.settingText setting)).session.context = s.context := by
      unfold Session.addProlog
      split <;> rfl
    rw [Session.addSettings]
    split
    · exact added
    · rw [ih, added]

theorem Session.context_writeProlog (s : Session) (x : Context) :
    (s.writeProlog x).session.context = s.context := by
  unfold Session.writeProlog
  split
  · rfl
  · exact Session.context_addSettings _ _

theorem Session.contextOrEmpty_of_writeProlog {s opened : Session} {x : Context}
    (hknown : s.context = some x) (h : s.writeProlog x = ⟨opened, none⟩) :
    opened.contextOrEmpty = x := by
  have kept := s.context_writeProlog x
  rw [h] at kept
  rw [Session.contextOrEmpty, kept, hknown]
  rfl

def Stage.writing : List Stage := [reading, projecting, comparing, prolog, body]

/-- All that has to succeed for a script to be complete: the current snapshot is read, the schema
has a projection, the two can be compared, and the prolog and the changes can be written. -/
structure Completes (e : Executor) (generatedAt : String) (s : Session) (connection : Connection)
    (x : Context) (opened done : Session) : Prop where
  current : e.readCurrent s.dialect connection = .ok x.current
  target : s.dialect.projection.project s.schema = .ok x.target
  context : s.compare e.configuration.skipsConstraints x.current x.target = .ok x
  prolog : { s.writeHead generatedAt with context := some x }.writeProlog x = ⟨opened, none⟩
  body : opened.writeBody x = ⟨done, none⟩

namespace RunM

variable {e : Executor} {generatedAt : String} {connection : Connection} {r r' : Run}
  {x : Context} {opened done : Session}

theorem guarded_ok {α : Type} (stage : MigrationError) (a : α) :
    guarded stage (.ok a) = .ok a := rfl

theorem eq_ok_of_guarded {α : Type} {stage : MigrationError} {result : Except Failure α} {a : α}
    (h : guarded stage result = .ok a) : result = .ok a :=
  eq_ok_of_mapError h

/-- A complete script passes all stages that write. -/
theorem writeScript_of_completes (h : Completes e generatedAt r.session connection x opened done)
    (hconnection : r.connection = some connection) :
    (writeScript e generatedAt).after r =
      (.ok (), ⟨done, some connection,
        r.events ++ Stage.writing.map .passed⟩) := by
  have hcurrent : e.readCurrent (r.session.writeHead generatedAt).dialect connection =
      .ok x.current := h.current
  have htarget : (r.session.writeHead generatedAt).dialect.projection.project
      (r.session.writeHead generatedAt).schema = .ok x.target := h.target
  have hcontext (known : Option Context) :
      Session.compare { r.session.writeHead generatedAt with context := known }
        e.configuration.skipsConstraints x.current x.target = .ok x := h.context
  have hopened := Session.contextOrEmpty_of_writeProlog rfl h.prolog
  simp [writeScript, after_bind, after_readCurrent, after_stage, after_writeStage, hconnection,
    hcurrent, htarget, hcontext, guarded_ok, h.prolog, h.body, Session.Outcome.guarded,
    Stage.writing, Session.contextOrEmpty_known, hopened]

theorem completes_unique {x₁ x₂ : Context} {opened₁ opened₂ done₁ done₂ : Session} {s : Session}
    (h₁ : Completes e generatedAt s connection x₁ opened₁ done₁)
    (h₂ : Completes e generatedAt s connection x₂ opened₂ done₂) : done₁ = done₂ := by
  have first := writeScript_of_completes (r := ⟨s, some connection, []⟩) h₁ rfl
  have second := writeScript_of_completes (r := ⟨s, some connection, []⟩) h₂ rfl
  cases first.symm.trans second
  rfl

theorem stage_ok {α : Type} {st : Stage} {result : Except Failure α} {a : α}
    (h : (stage st result).after r = (.ok a, r')) :
    result = .ok a ∧ r' = { r with events := r.events ++ [.passed st] } := by
  cases result with
  | ok => cases h; exact ⟨rfl, rfl⟩
  | error failure => cases h

theorem writeStage_ok {st : Stage} {write : Session → Session.Outcome}
    (h : (writeStage st write).after r = (.ok (), r')) :
    write r.session = ⟨r'.session, none⟩ := by
  rw [after_writeStage] at h
  rcases hwrite : write r.session with ⟨session, _ | failure⟩ <;> rw [hwrite] at h <;> cases h
  rfl

theorem eq_of_guarded_none {stage : MigrationError} {o : Session.Outcome} {s : Session}
    (h : o.guarded stage = ⟨s, none⟩) : o = ⟨s, none⟩ := by
  rcases o with ⟨session, _ | failure⟩ <;> cases h
  rfl

theorem completes_of_writeScript (hconnection : r.connection = some connection)
    (h : (writeScript e generatedAt).after r = (.ok (), r')) :
    ∃ x opened done, Completes e generatedAt r.session connection x opened done := by
  obtain ⟨_, _, hhead, h⟩ := bind_ok h
  cases hhead
  obtain ⟨current, _, hread, h⟩ := bind_ok h
  obtain ⟨hcurrent, rfl⟩ := stage_ok hread
  obtain ⟨_, _, hkeep, h⟩ := bind_ok h
  cases hkeep
  obtain ⟨_, _, hget, h⟩ := bind_ok h
  cases hget
  obtain ⟨target, _, hproject, h⟩ := bind_ok h
  obtain ⟨htarget, rfl⟩ := stage_ok hproject
  obtain ⟨_, _, hkeep, h⟩ := bind_ok h
  cases hkeep
  obtain ⟨_, _, hget, h⟩ := bind_ok h
  cases hget
  obtain ⟨x, _, hcompare, h⟩ := bind_ok h
  obtain ⟨hcontext, rfl⟩ := stage_ok hcompare
  obtain ⟨_, _, hkeep, h⟩ := bind_ok h
  cases hkeep
  obtain ⟨_, left, hprolog, hbody⟩ := bind_ok h
  have prolog := eq_of_guarded_none (writeStage_ok hprolog)
  have body := eq_of_guarded_none (writeStage_ok hbody)
  rw [Session.contextOrEmpty_of_writeProlog rfl prolog] at body
  have hread := eq_ok_of_guarded hcurrent
  rw [hconnection] at hread
  have hx : x.current = current ∧ x.target = target := by
    obtain ⟨d, -, rfl⟩ := Session.compare_eq_ok_iff.mp hcontext
    exact ⟨rfl, rfl⟩
  obtain ⟨rfl, rfl⟩ := hx
  refine ⟨x, _, _, ⟨?_, ?_, ?_, prolog, body⟩⟩
  · exact hread
  · exact htarget
  · exact hcontext

/-! ### A whole run -/

/-- After a script, complete or not, its connection is closed. -/
theorem after_script {result : Except Failure Unit}
    (hwrite : (writeScript e generatedAt).after r = (result, r'))
    (hconnection : r.connection = some connection) :
    (tryFinally (writeScript e generatedAt) closeConnection).after r =
      (match connection.fault? with
        | none => result
        | some failure => .error failure,
      ⟨r'.session, none, r'.events ++ closing connection⟩) := by
  have kept : r'.connection = r.connection := by
    have := (quiet_writeScript e generatedAt r).1
    rwa [hwrite] at this
  rw [after_tryFinally, hwrite]
  dsimp only
  rw [after_closeConnection, kept, hconnection]
  cases hfault : connection.fault? <;> simp [hfault]

theorem after_deliver (e : Executor) (r : Run) :
    (deliver e).after r = ((e.receive r.session.buffer.fragments).map fun _ =>
      r.session.buffer.fragments, { r with
        events := r.events ++ [.delivered r.session.buffer.fragments] }) := by
  simp only [deliver, after_bind, after_get, after_note]
  cases e.receive r.session.buffer.fragments <;> rfl

theorem execute_eq {s : Session} {result : Except Failure (List Fragment)}
    (h : (execute e generatedAt).after ⟨s, none, []⟩ = (result, r)) :
    s.execute e generatedAt = ⟨result, r.events, r.session⟩ := by
  unfold after at h
  rw [Session.execute, h]

theorem execute_of_unconnected {s : Session} {failure : Failure}
    (h : e.connect s.dialect e.configuration.connectionString = .error failure) :
    s.execute e generatedAt =
      ⟨.error (.migration .cannotConnect (some failure)), [], s.restart⟩ := by
  have connects := after_openConnection e ⟨s.restart, none, []⟩
  rw [show s.restart.dialect = s.dialect from rfl, h] at connects
  refine execute_eq (r := ⟨s.restart, none, []⟩) ?_
  simp only [execute, after_bind, after_changeSession, connects]

def connected (s : Session) (connection : Connection) : Run :=
  ⟨s.restart, some connection, opening connection ++ [.passed .connecting]⟩

variable {s : Session}

theorem after_connected
    (h : e.connect s.dialect e.configuration.connectionString = .ok connection) :
    (execute e generatedAt).after ⟨s, none, []⟩ =
      (do tryFinally (writeScript e generatedAt) closeConnection; deliver e : RunM _).after
        (connected s connection) := by
  have connects := after_openConnection e ⟨s.restart, none, []⟩
  rw [show s.restart.dialect = s.dialect from rfl, h] at connects
  rw [execute, after_bind, after_changeSession]
  dsimp only
  rw [after_bind, connects]
  rfl

/-- The script or the connection fails. -/
theorem execute_of_failure {result : Except Failure Unit} {failure : Failure}
    (h : e.connect s.dialect e.configuration.connectionString = .ok connection)
    (hwrite : (writeScript e generatedAt).after (connected s connection) = (result, r))
    (hfailure : connection.fault? = some failure ∨
      connection.fault? = none ∧ result = .error failure) :
    s.execute e generatedAt = ⟨.error failure, r.events ++ closing connection, r.session⟩ := by
  refine execute_eq (r := ⟨r.session, none, r.events ++ closing connection⟩) ?_
  rw [after_connected h, after_bind, after_script hwrite rfl]
  rcases hfailure with hfault | ⟨hfault, rfl⟩ <;> simp [hfault]

theorem execute_of_success
    (h : e.connect s.dialect e.configuration.connectionString = .ok connection)
    (hwrite : (writeScript e generatedAt).after (connected s connection) = (.ok (), r))
    (hfault : connection.fault? = none) :
    s.execute e generatedAt =
      ⟨(e.receive r.session.buffer.fragments).map fun _ => r.session.buffer.fragments,
        r.events ++ closing connection ++ [.delivered r.session.buffer.fragments], r.session⟩ := by
  refine execute_eq (r := ⟨r.session, none, r.events ++ closing connection ++
    [.delivered r.session.buffer.fragments]⟩) ?_
  rw [after_connected h, after_bind, after_script hwrite rfl]
  simp [hfault, after_deliver]

def course (connection : Connection) (stages : List Stage) : List RunEvent :=
  opening connection ++ stages.map RunEvent.passed ++ closing connection

end RunM

open RunM

/-- How a run can end: without a connection, without a complete script or with a connection that
cannot be closed, or by handing the script over. -/
inductive Ends (s : Session) (e : Executor) (generatedAt : String) : RunResult → Prop
  | unconnected {failure : Failure}
      (h : e.connect s.dialect e.configuration.connectionString = .error failure) :
      Ends s e generatedAt ⟨.error (.migration .cannotConnect (some failure)), [], s.restart⟩
  | failed {connection : Connection} {stages : List Stage} {failure : Failure} {left : Session}
      (h : e.connect s.dialect e.configuration.connectionString = .ok connection)
      (fails : ∀ x opened done, Completes e generatedAt s.restart connection x opened done →
        connection.fault? ≠ none) :
      Ends s e generatedAt ⟨.error failure, course connection stages, left⟩
  | delivered {connection : Connection} {x : Context} {opened done : Session}
      (h : e.connect s.dialect e.configuration.connectionString = .ok connection)
      (completes : Completes e generatedAt s.restart connection x opened done)
      (quiet : connection.fault? = none) :
      Ends s e generatedAt ⟨(e.receive done.buffer.fragments).map fun _ => done.buffer.fragments,
        course connection (.connecting :: Stage.writing) ++ [.delivered done.buffer.fragments],
        done⟩

/-- A complete script is handed over if its connection can be closed. -/
theorem Completes.execute {s : Session} {e : Executor} {generatedAt : String}
    {connection : Connection} {x : Context} {opened done : Session}
    (completes : Completes e generatedAt s.restart connection x opened done)
    (h : e.connect s.dialect e.configuration.connectionString = .ok connection)
    (quiet : connection.fault? = none) :
    s.execute e generatedAt =
      ⟨(e.receive done.buffer.fragments).map fun _ => done.buffer.fragments,
        course connection (.connecting :: Stage.writing) ++ [.delivered done.buffer.fragments],
        done⟩ := by
  rw [execute_of_success h (writeScript_of_completes completes rfl) quiet]
  simp [connected, course]

theorem Session.ends_execute (s : Session) (e : Executor) (generatedAt : String) :
    Ends s e generatedAt (s.execute e generatedAt) := by
  cases h : e.connect s.dialect e.configuration.connectionString with
  | error failure =>
    rw [execute_of_unconnected h]
    exact .unconnected h
  | ok connection =>
    obtain ⟨-, stages, passed⟩ := quiet_writeScript e generatedAt (connected s connection)
    rcases hwrite : (writeScript e generatedAt).after (connected s connection) with ⟨result, r⟩
    have events : r.events ++ closing connection = course connection (.connecting :: stages) := by
      rw [hwrite] at passed
      dsimp only at passed
      simp [passed, connected, course]
    cases hfault : connection.fault? with
    | some failure =>
      rw [execute_of_failure h hwrite (.inl hfault), events]
      exact .failed h fun _ _ _ _ => by simp [hfault]
    | none =>
      cases result with
      | error failure =>
        rw [execute_of_failure h hwrite (.inr ⟨hfault, rfl⟩), events]
        refine .failed h fun x opened done completes => ?_
        cases hwrite.symm.trans (writeScript_of_completes completes rfl)
      | ok =>
        obtain ⟨x, opened, done, completes⟩ := completes_of_writeScript rfl hwrite
        rw [completes.execute h hfault]
        exact .delivered h completes hfault

structure RunContract (s : Session) (e : Executor) (generatedAt : String) (r : RunResult) :
    Prop where
  delivers : ∀ fragments, .delivered fragments ∈ r.events ↔
    ∃ connection x opened done,
      e.connect s.dialect e.configuration.connectionString = .ok connection ∧
      Completes e generatedAt s.restart connection x opened done ∧
      connection.fault? = none ∧ fragments = done.buffer.fragments
  delivery : ∀ fragments, .delivered fragments ∈ r.events →
    fragments = r.session.buffer.fragments ∧
    r.result = (e.receive fragments).map (fun _ => fragments) ∧
    ∃ before, r.events = before ++ [.delivered fragments] ∧
      (∀ other, .delivered other ∉ before) ∧ ∀ stage, .passed stage ∈ before
  fails : (∀ fragments, .delivered fragments ∉ r.events) → ∃ failure, r.result = .error failure
  opens : .opened ∈ r.events ↔ ∃ connection,
    e.connect s.dialect e.configuration.connectionString = .ok connection ∧ connection.closes
  closes : .opened ∈ r.events → ∃ before later, r.events = before ++ .closed :: later ∧
    .opened ∈ before ∧ .closed ∉ before ∧ .closed ∉ later ∧
    ∀ fragments, .delivered fragments ∉ before
  closesOpened : .closed ∈ r.events → .opened ∈ r.events

namespace RunContract

variable {s : Session} {e : Executor} {generatedAt : String} {connection : Connection}
  {stages : List Stage} {x : Context} {opened done left : Session} {failure : Failure}
  {last : List RunEvent}

theorem closed_once (hlast : ∀ event ∈ last, ∃ fragments, event = .delivered fragments)
    (h : .opened ∈ course connection stages ++ last) :
    ∃ before later, course connection stages ++ last = before ++ .closed :: later ∧
      .opened ∈ before ∧ .closed ∉ before ∧ .closed ∉ later ∧
      ∀ fragments, .delivered fragments ∉ before := by
  have quiet : .opened ∉ last := by
    intro hmem
    cases hlast _ hmem
    contradiction
  have hcloses : connection.closes = true := by simpa [course, quiet] using h
  refine ⟨opening connection ++ stages.map RunEvent.passed, last, ?_, ?_, ?_, ?_, ?_⟩
  · simp [course, closing, hcloses]
  · simp [hcloses]
  · simp
  · intro hmem
    cases hlast _ hmem
    contradiction
  · simp

theorem of_failure
    (h : e.connect s.dialect e.configuration.connectionString = .ok connection)
    (fails : ∀ x opened done, Completes e generatedAt s.restart connection x opened done →
      connection.fault? ≠ none) :
    RunContract s e generatedAt ⟨.error failure, course connection stages, left⟩ where
  delivers fragments := by
    constructor
    · simp [course]
    · rintro ⟨other, x, opened, done, hother, completes, hfault, -⟩
      obtain rfl : connection = other := Except.ok.inj (h.symm.trans hother)
      exact absurd hfault (fails x opened done completes)
  delivery := by simp [course]
  fails _ := ⟨_, rfl⟩
  opens := by simp [h, course]
  closes hopened := by
    have once := closed_once (List.forall_mem_nil _) (by simpa using hopened)
    simpa using once
  closesOpened := by simp [course]

theorem of_delivery
    (h : e.connect s.dialect e.configuration.connectionString = .ok connection)
    (completes : Completes e generatedAt s.restart connection x opened done)
    (quiet : connection.fault? = none) :
    RunContract s e generatedAt
      ⟨(e.receive done.buffer.fragments).map fun _ => done.buffer.fragments,
        course connection (.connecting :: Stage.writing) ++ [.delivered done.buffer.fragments],
        done⟩ where
  delivers fragments := by
    constructor
    · intro hmem
      have hfragments : fragments = done.buffer.fragments := by simpa [course] using hmem
      exact ⟨connection, x, opened, done, h, completes, quiet, hfragments⟩
    · rintro ⟨other, x', opened', done', hother, completes', -, rfl⟩
      obtain rfl : connection = other := Except.ok.inj (h.symm.trans hother)
      rw [completes_unique completes' completes]
      simp
  delivery := by
    intro fragments hmem
    obtain rfl : fragments = done.buffer.fragments := by simpa [course] using hmem
    refine ⟨rfl, rfl, _, rfl, by simp [course], fun stage => ?_⟩
    cases stage <;> simp [course, Stage.writing]
  fails hnone := absurd (by simp) (hnone done.buffer.fragments)
  opens := by simp [h, course]
  closes := closed_once (by simp)
  closesOpened := by simp [course]

end RunContract

/-- Every run keeps to the contract. -/
theorem Session.execute_keeps_contract (s : Session) (e : Executor) (generatedAt : String) :
    RunContract s e generatedAt (s.execute e generatedAt) := by
  have ends := s.ends_execute e generatedAt
  generalize s.execute e generatedAt = r at ends ⊢
  cases ends with
  | unconnected h =>
    exact {
      delivers := by simp [h]
      delivery := by simp
      fails := fun _ => ⟨_, rfl⟩
      opens := by simp [h]
      closes := by simp
      closesOpened := by simp }
  | failed h fails => exact .of_failure h fails
  | delivered h completes quiet => exact .of_delivery h completes quiet

end SchemaMigration
