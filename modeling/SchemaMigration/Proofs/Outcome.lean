import SchemaMigration.Proofs.Script

/-!
The outcome of a run can be computed from what the run is given, the dialect and the schema of its
session. So it does not matter what the session was used for before.
-/

namespace SchemaMigration

/-! ### What a run computes -/

def Emission.bodyTexts (x : Context) (p : Progress) (d : Dialect) :
    Except Failure (List String) :=
  match (body x p).2.fault with
  | none => .ok ((body x p).2.statements.map d.text)
  | some fault => .error (.ofEmission fault)

def Context.script (x : Context) (d : Dialect) (charset : String) :
    Except Failure (List Fragment) := do
  let (p, settings) ←
    guarded .cannotWriteProlog ((Emission.prolog x charset).mapError .ofEmission)
  let body ← guarded .cannotApply (Emission.bodyTexts x p d)
  return (if body = [] then [] else settings.map Dialect.settingText ++ body).flatMap
    (Buffer.separated d.separator .statement)

namespace Executor

variable (e : Executor) (d : Dialect) (schema : Schema)

def scriptOver (connection : Connection) : Except Failure (List Fragment) := do
  let current ← guarded .cannotReadCurrent (e.readCurrent d connection)
  let target ← d.projection.project schema
  let x ← (Session.start d schema).compare e.configuration.skipsConstraints current target
  x.script d schema.charset

/-- The script without its head. A connection that cannot be closed spoils it. -/
def script : Except Failure (List Fragment) :=
  match e.connect d e.configuration.connectionString with
  | .error failure => .error (.migration .cannotConnect (some failure))
  | .ok connection =>
    match connection.fault? with
    | some failure => .error failure
    | none => e.scriptOver d schema connection

def handOver (head rest : List Fragment) : Except Failure (List Fragment) :=
  (e.receive (head ++ rest)).map fun _ => head ++ rest

end Executor

/-! ### A run comes out as computed -/

namespace RunM

variable {α β γ : Type} {e : Executor} {generatedAt : String} {s : Session}
  {connection : Connection} {r : Run} {x : Context}

/-- A step fails for the computed reason, or leaves behind what belongs to the computed result. -/
def ComesOut (step : RunM α) (r : Run) (computed : Except Failure β) (left : β → Run → Prop) :
    Prop :=
  match computed with
  | .error failure => (step.after r).1 = .error failure
  | .ok b => ∃ a r', step.after r = (.ok a, r') ∧ left b r'

namespace ComesOut

variable {computed : Except Failure β} {left : β → Run → Prop}

theorem of_after {step later : RunM α} {r' : Run} (hafter : step.after r = later.after r')
    (h : ComesOut later r' computed left) : ComesOut step r computed left := by
  unfold ComesOut at h ⊢
  rwa [hafter]

theorem changeSession {f : Session → Session} {rest : Unit → RunM α}
    (h : ComesOut (rest ()) { r with session := f r.session } computed left) :
    ComesOut (RunM.changeSession f >>= rest) r computed left := by
  refine of_after ?_ h
  rw [after_bind, after_changeSession]

theorem get {rest : Run → RunM α} (h : ComesOut (rest r) r computed left) :
    ComesOut (MonadState.get >>= rest) r computed left := by
  refine of_after ?_ h
  rw [after_bind, after_get]

theorem stage {st : Stage} {result : Except Failure γ} {rest : γ → RunM α}
    {f : γ → Except Failure β}
    (h : ∀ c, ComesOut (rest c) { r with events := r.events ++ [.passed st] } (f c) left) :
    ComesOut (RunM.stage st result >>= rest) r (result >>= f) left := by
  cases result with
  | error failure => exact congrArg Prod.fst (after_bind _ _ _)
  | ok c =>
    refine of_after ?_ (h c)
    rw [after_bind, after_stage]

theorem writeStage {st : Stage} {write : Session → Session.Outcome} {rest : Unit → RunM α}
    {result : Except Failure γ} {f : γ → Except Failure β}
    (fails : ∀ failure, result = .error failure → (write r.session).failure = some failure)
    (succeeds : ∀ c, result = .ok c → ∃ written, write r.session = ⟨written, none⟩ ∧
      ComesOut (rest ()) ⟨written, r.connection, r.events ++ [.passed st]⟩ (f c) left) :
    ComesOut (RunM.writeStage st write >>= rest) r (result >>= f) left := by
  cases result with
  | error failure =>
    show ((RunM.writeStage st write >>= rest).after r).1 = .error failure
    rw [after_bind, after_writeStage, fails failure rfl]
  | ok c =>
    obtain ⟨written, hwrite, h⟩ := succeeds c rfl
    refine of_after ?_ h
    rw [after_bind, after_writeStage, hwrite]

end ComesOut

theorem comesOut_body {p : Progress} {settings : List Setting}
    (hsession : r.session = s.chosen generatedAt x p settings) :
    ComesOut
      (writeStage .body fun s => (s.writeBody s.contextOrEmpty).guarded .cannotApply) r
      (do
        let body ← guarded .cannotApply (Emission.bodyTexts x p s.dialect)
        return (if body = [] then [] else settings.map Dialect.settingText ++ body).flatMap
          (Buffer.separated s.dialect.separator .statement))
      fun rest left => left.session.buffer.fragments = s.headOf generatedAt ++ rest := by
  have body := Session.writeBody_eq (s := s.chosen generatedAt x p settings) rfl x
  have hx : (s.chosen generatedAt x p settings).contextOrEmpty = x := rfl
  rw [show (s.chosen generatedAt x p settings).progress = p from rfl] at body
  rw [← bind_pure (writeStage _ _), Emission.bodyTexts]
  cases hfault : (Emission.body x p).2.fault with
  | some fault =>
    rw [hfault] at body
    refine .writeStage ?_ nofun
    rintro _ ⟨⟩
    rw [hsession, hx, body]
    rfl
  | none =>
    rw [hfault] at body
    refine .writeStage nofun ?_
    rintro _ ⟨⟩
    refine ⟨_, by rw [hsession, hx, body]; rfl, (), _, rfl, ?_⟩
    exact Buffer.fragments_committed _ _

theorem comesOut_changes
    (hsession : r.session = { s.restart.writeHead generatedAt with context := some x }) :
    ComesOut
      (do
        writeStage .prolog fun s => (s.writeProlog s.contextOrEmpty).guarded .cannotWriteProlog
        writeStage .body fun s => (s.writeBody s.contextOrEmpty).guarded .cannotApply)
      r (x.script s.dialect s.schema.charset)
      fun rest left => left.session.buffer.fragments = s.headOf generatedAt ++ rest := by
  have prolog := s.writeProlog_eq generatedAt x
  rw [← hsession] at prolog
  have hx : r.session.contextOrEmpty = x := by
    rw [hsession]
    rfl
  unfold Context.script
  cases hfound : Emission.prolog x s.schema.charset with
  | error fault =>
    rw [hfound] at prolog
    refine .writeStage ?_ nofun
    rintro _ ⟨⟩
    rw [hx, prolog]
    rfl
  | ok found =>
    rw [hfound] at prolog
    refine .writeStage nofun ?_
    rintro _ ⟨⟩
    exact ⟨_, by rw [hx, prolog]; rfl, comesOut_body rfl⟩

/-- What an earlier run has found out is overwritten before anything reads it: the current snapshot
and the flag after reading, the target after projecting, and the rest after comparing. -/
theorem comesOut_writeScript (hsession : r.session = s.restart)
    (hconnection : r.connection = some connection) :
    ComesOut (writeScript e generatedAt) r (e.scriptOver s.dialect s.schema connection)
      fun rest left => left.session.buffer.fragments = s.headOf generatedAt ++ rest := by
  obtain ⟨_, _, events⟩ := r
  cases hsession
  cases hconnection
  refine .changeSession (.stage fun current => .changeSession (.get ?_))
  refine .stage fun target => .changeSession (.get ?_)
  exact .stage fun x => .changeSession (comesOut_changes rfl)

/-- The result of a run, whatever the run before has left behind. -/
theorem result_execute (e : Executor) (generatedAt : String) (r : Run) :
    ((execute e generatedAt).after r).1 =
      e.script r.session.dialect r.session.schema >>=
        e.handOver (r.session.headOf generatedAt) := by
  unfold execute Executor.script
  rw [after_bind, after_changeSession]
  dsimp only
  rw [after_bind, after_openConnection, show r.session.restart.dialect = r.session.dialect from rfl]
  cases e.connect r.session.dialect e.configuration.connectionString with
  | error failure => rfl
  | ok connection =>
    dsimp only
    have script : ComesOut (writeScript e generatedAt) ⟨r.session.restart, some connection,
        r.events ++ opening connection ++ [.passed .connecting]⟩
        (e.scriptOver r.session.dialect r.session.schema connection) fun rest left =>
          left.session.buffer.fragments = r.session.headOf generatedAt ++ rest :=
      comesOut_writeScript rfl rfl
    rcases hwrite : (writeScript e generatedAt).after _ with ⟨result, left⟩
    rw [after_bind, after_script hwrite rfl]
    cases hfault : connection.fault? with
    | some failure => rfl
    | none =>
      dsimp only
      cases hscript : e.scriptOver r.session.dialect r.session.schema connection with
      | error failure =>
        rw [hscript] at script
        obtain rfl : result = .error failure := (congrArg Prod.fst hwrite).symm.trans script
        rfl
      | ok rest =>
        rw [hscript] at script
        obtain ⟨⟨⟩, _, hleft, fragments⟩ := script
        cases hwrite.symm.trans hleft
        dsimp only
        rw [after_deliver, fragments]
        rfl

end RunM

theorem Session.result_of_connected {e : Executor} {s : Session} {connection : Connection}
    (hconnect : e.connect s.dialect e.configuration.connectionString = .ok connection)
    (hclose : connection.fault? = none) (generatedAt : String) :
    (s.execute e generatedAt).result =
      e.scriptOver s.dialect s.schema connection >>= e.handOver (s.headOf generatedAt) := by
  have result := RunM.result_execute e generatedAt ⟨s, none, []⟩
  rw [Executor.script, hconnect] at result
  dsimp only at result
  rw [hclose] at result
  exact result

/-! ### Runs in one session -/

namespace Session

def Serves (d : Dialect) (schema : Schema) (s : Session) : Prop :=
  s.dialect = d ∧ s.schema = schema

variable {d : Dialect} {schema : Schema} {s : Session}

theorem Serves.write (h : s.Serves d schema) (statements : List Statement) :
    (s.write statements).Serves d schema := by
  induction statements generalizing s with
  | nil => exact h
  | cons statement rest ih =>
    rw [Session.write, List.foldl_cons, writeStatement_eq]
    exact ih h

theorem Serves.addSettings (h : s.Serves d schema) (settings : List Setting) :
    (s.addSettings settings).session.Serves d schema := by
  induction settings generalizing s with
  | nil => exact h
  | cons setting rest ih =>
    have added : (s.addProlog (Dialect.settingText setting)).session.Serves d schema := by
      unfold addProlog
      split <;> exact h
    rw [Session.addSettings]
    split
    · exact added
    · exact ih added

theorem Serves.writeProlog (h : s.Serves d schema) (x : Context) :
    (s.writeProlog x).session.Serves d schema := by
  unfold Session.writeProlog
  split
  · exact h
  · refine Serves.addSettings ?_ _
    exact h

theorem Serves.writeBody (h : s.Serves d schema) (x : Context) :
    (s.writeBody x).session.Serves d schema :=
  h.write (Emission.body x s.progress).2.statements

end Session

namespace RunM

variable {α β : Type} {d : Dialect} {schema : Schema}

/-- A step, failing or not, stays with the dialect and the schema of its session. -/
def Serves (d : Dialect) (schema : Schema) (step : RunM α) : Prop :=
  ∀ r, r.session.Serves d schema → (step.after r).2.session.Serves d schema

namespace Serves

theorem bind {step : RunM α} {rest : α → RunM β} (hstep : step.Serves d schema)
    (hrest : ∀ a, (rest a).Serves d schema) : (step >>= rest).Serves d schema := by
  intro r hr
  have first := hstep r hr
  rw [after_bind]
  rcases hafter : step.after r with ⟨_ | a, middle⟩ <;> rw [hafter] at first
  · exact first
  · exact hrest a middle first

theorem tryFinally {step : RunM α} {last : RunM β} (hstep : step.Serves d schema)
    (hlast : last.Serves d schema) : (tryFinally step last).Serves d schema := by
  intro r hr
  have first := hstep r hr
  rw [after_tryFinally]
  rcases hafter : step.after r with ⟨result, middle⟩
  rw [hafter] at first
  have second := hlast middle first
  dsimp only
  rcases hafter : last.after middle with ⟨_ | _, left⟩ <;> rw [hafter] at second <;> exact second

theorem restart : (changeSession Session.restart).Serves d schema := fun _ hr => hr

theorem writeHead (generatedAt : String) :
    (changeSession fun s => s.writeHead generatedAt).Serves d schema := fun _ hr => hr

theorem keep (found : Context → Context) : (keep found).Serves d schema := fun _ hr => hr

theorem get : Serves d schema (MonadState.get : RunM Run) := fun _ hr => hr

theorem stage (st : Stage) (result : Except Failure α) : (stage st result).Serves d schema := by
  intro r hr
  rw [after_stage]
  cases result <;> exact hr

theorem writeStage (st : Stage) {write : Session → Session.Outcome}
    (h : ∀ s : Session, s.Serves d schema → (write s).session.Serves d schema) :
    (writeStage st write).Serves d schema := by
  intro r hr
  rw [after_writeStage]
  cases (write r.session).failure <;> exact h r.session hr

theorem openConnection (e : Executor) : (openConnection e).Serves d schema := by
  intro r hr
  rw [after_openConnection]
  cases e.connect r.session.dialect e.configuration.connectionString <;> exact hr

theorem closeConnection : RunM.closeConnection.Serves d schema := by
  intro r hr
  rw [after_closeConnection]
  cases r.connection <;> exact hr

theorem deliver (e : Executor) : (deliver e).Serves d schema := by
  intro r hr
  rw [after_deliver]
  exact hr

theorem writeScript (e : Executor) (generatedAt : String) :
    (writeScript e generatedAt).Serves d schema := by
  refine (writeHead generatedAt).bind fun _ => ?_
  refine (get.bind fun r => stage _ _).bind fun current => ?_
  refine (keep _).bind fun _ => get.bind fun _ => (stage _ _).bind fun target => ?_
  refine (keep _).bind fun _ => get.bind fun _ => (stage _ _).bind fun x => ?_
  refine (keep _).bind fun _ => (writeStage _ fun s h => ?_).bind fun _ =>
    writeStage _ fun s h => ?_
  · exact h.writeProlog _
  · exact h.writeBody _

theorem execute (e : Executor) (generatedAt : String) :
    (execute e generatedAt).Serves d schema := by
  refine restart.bind fun _ => (openConnection e).bind fun _ => ?_
  exact (tryFinally (writeScript e generatedAt) closeConnection).bind fun _ => deliver e

end Serves

def afterAll (history : List (Executor × String)) (r : Run) : Run :=
  history.foldl (fun r (e, generatedAt) => ((execute e generatedAt).after r).2) r

theorem serves_afterAll {r : Run} (hr : r.session.Serves d schema)
    (history : List (Executor × String)) : (afterAll history r).session.Serves d schema := by
  induction history generalizing r with
  | nil => exact hr
  | cons run rest ih => exact ih (Serves.execute run.1 run.2 r hr)

/-- A session that was used before serves as well as a new one: up to the time in the head, the next
run hands over the same script or fails for the same reason, however the runs before ended. -/
theorem execute_forgets_history (d : Dialect) (schema : Schema)
    (history : List (Executor × String)) (e : Executor) :
    ∃ script : Except Failure (List Fragment), ∀ generatedAt,
      ((execute e generatedAt).after (afterAll history ⟨.start d schema, none, []⟩)).1 =
        script >>= e.handOver ((Session.start d schema).headOf generatedAt) ∧
      ((Session.start d schema).execute e generatedAt).result =
        script >>= e.handOver ((Session.start d schema).headOf generatedAt) := by
  refine ⟨e.script d schema, fun generatedAt => ⟨?_, ?_⟩⟩
  · have served : (afterAll history ⟨.start d schema, none, []⟩).session.Serves d schema :=
      serves_afterAll ⟨rfl, rfl⟩ history
    rw [result_execute, Session.headOf, Session.useLine, served.1, served.2]
    rfl
  · exact result_execute e generatedAt ⟨.start d schema, none, []⟩

end RunM

end SchemaMigration
