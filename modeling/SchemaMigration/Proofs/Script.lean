import Mathlib.Data.List.Nodup
import SchemaMigration.Proofs.Alteration
import SchemaMigration.Proofs.Buffer
import SchemaMigration.Proofs.Run

/-!
The shape of a script: its head, and then one statement after the other, the prolog before the
others. A prolog alone is not written.
-/

namespace SchemaMigration

/-! ### Statements on a buffer -/

namespace Buffer

variable {b : Buffer}

def committed (b : Buffer) (texts : List String) : Buffer :=
  if texts = [] then b
  else { b with
    fragments := b.fragments ++ (b.prolog ++ texts).flatMap (separated b.separator .statement)
    prolog := [] }

theorem scratch_committed (b : Buffer) (texts : List String) :
    (b.committed texts).scratch = b.scratch := by
  unfold committed
  split <;> rfl

theorem fragments_committed (b : Buffer) (texts : List String) :
    (b.committed texts).fragments = b.fragments ++
      (if texts = [] then [] else b.prolog ++ texts).flatMap
        (separated b.separator .statement) := by
  unfold committed
  split <;> simp_all

/-- A statement may be put together on the scratch. -/
theorem commit_push (b : Buffer) (line text : String) :
    (b.push line).commit text = b.commit (line ++ "\n" ++ text) := by
  have joined : b.scratch ++ line ++ "\n" ++ text = b.scratch ++ (line ++ "\n" ++ text) := by
    simp only [String.append_assoc]
  simp only [commit, commitAs, push, flushProlog, if_true, joined]
  rfl

theorem commit_eq (h : b.scratch = "") (text : String) : b.commit text = b.committed [text] := by
  have hterminated : b.terminated .statement = separated b.separator .statement := rfl
  simp [commit, commitAs, committed, flushProlog, h, hterminated]
  rfl

theorem committed_committed (b : Buffer) (first second : List String) :
    (b.committed first).committed second = b.committed (first ++ second) := by
  by_cases hf : first = [] <;> by_cases hs : second = [] <;> simp [committed, hf, hs]

theorem foldl_commit (h : b.scratch = "") (texts : List String) :
    texts.foldl commit b = b.committed texts := by
  induction texts generalizing b with
  | nil => simp [committed]
  | cons text rest ih =>
    have hscratch : (b.committed [text]).scratch = "" := (scratch_committed b [text]).trans h
    rw [List.foldl_cons, commit_eq h, ih hscratch, committed_committed]
    rfl

end Buffer

/-! ### The texts of statements -/

namespace Dialect

theorem text_createTable (d : Dialect) (t : TableClause) :
    d.text (.createTable t) =
      d.tableOpening t.name ++ "\n" ++ d.tableBody t ++ "\n" ++ d.tableClosing t := rfl

/-- A text that begins like no setting does. -/
def Acts (text : String) : Prop := ∃ c, text.toList.head? = some c ∧ c ≠ 'S' ∧ c ≠ 'P'

theorem Acts.append {text : String} (h : Acts text) (rest : String) : Acts (text ++ rest) := by
  obtain ⟨c, hc, hne⟩ := h
  refine ⟨c, ?_, hne⟩
  rw [String.toList_append, List.head?_append, hc]
  rfl

theorem acts_text (d : Dialect) {statement : Statement}
    (unset : ∀ setting, statement ≠ .set setting) : Acts (d.text statement) := by
  have hcreate : Acts "CREATE " := ⟨'C', rfl, by decide⟩
  have hdrop : Acts "DROP INDEX " := ⟨'D', rfl, by decide⟩
  have halter : ∀ table, Acts (d.alterTable table) := fun table =>
    Acts.append ⟨'A', rfl, by decide⟩ (d.quote table)
  have halters : ∀ table clause name, Acts (d.alterTable table ++ clause ++ name) :=
    fun table clause name => ((halter table).append clause).append name
  have hdropConstraint : ∀ table name, Acts (d.dropConstraintText table name) :=
    fun table name => halters table _ _
  cases statement with
  | set setting => exact absurd rfl (unset setting)
  | createTable t =>
    have hopening : Acts (d.tableOpening t.name) :=
      .append (.append ⟨'C', rfl, by decide⟩ _) _
    exact (((hopening.append _).append _).append _).append _
  | dropTable table => exact .append ⟨'D', rfl, by decide⟩ _
  | copyRows source target columns =>
    have hinsert : Acts "INSERT INTO " := ⟨'I', rfl, by decide⟩
    exact ((((((hinsert.append _).append _).append _).append _).append _).append _).append _
  | createIndex table index =>
    have hunique : Acts ("CREATE " ++ if index.unique then "UNIQUE " else "") := hcreate.append _
    exact ((((((hunique.append _).append _).append _).append _).append _).append _).append _
  | dropIndex table index =>
    cases d with
    | sqlite => exact .append ⟨'D', rfl, by decide⟩ _
    | postgres => exact hdrop.append _
    | mysql | sqlServer => exact ((hdrop.append _).append _).append _
  | renameTable old new => exact halters old _ _
  | addColumn table clause => exact halters table _ _
  | dropColumn table column => exact halters table _ _
  | modifyColumn table clause =>
    unfold Dialect.text
    dsimp only
    split <;> exact halters table _ _
  | setType table clause converts =>
    exact ((((halters table _ _).append _).append _).append _).append _
  | setNullable table column nullable =>
    exact ((halters table _ _).append _).append _
  | setDefault table column expression =>
    unfold Dialect.text
    dsimp only
    split
    · exact ((((halters table _ _).append _).append _).append _).append _
    · exact ((halters table _ _).append _).append _
  | dropDefault table column =>
    unfold Dialect.text
    dsimp only
    split
    · exact hdropConstraint table _
    · exact (halters table _ _).append _
  | addCheck table column => exact ((halters table _ _).append _).append _
  | dropCheck table column =>
    unfold Dialect.text
    dsimp only
    split
    · exact hdropConstraint table _
    · exact halters table _ _
  | addPrimaryKey table columns => exact halters table _ _
  | dropPrimaryKey table =>
    unfold Dialect.text
    dsimp only
    split
    · exact (halter table).append _
    · exact hdropConstraint table _
  | convertCharset table charset collation =>
    exact (halters table _ _).append _
  | addForeignKey table clause => exact halters table _ _
  | dropForeignKey table name =>
    unfold Dialect.text
    dsimp only
    split
    · exact halters table _ _
    · exact hdropConstraint table _

theorem not_acts_settingText (setting : Setting) : ¬ Acts (settingText setting) := by
  rintro ⟨c, hc, hS, hP⟩
  cases setting with
  | names charset =>
    unfold settingText at hc
    dsimp only at hc
    rw [String.toList_append, List.head?_append] at hc
    exact hS (Option.some.inj hc).symm
  | foreignKeys enforced =>
    unfold settingText at hc
    dsimp only at hc
    rw [String.toList_append, List.head?_append] at hc
    exact hP (Option.some.inj hc).symm
  | _ => exact hS (Option.some.inj hc).symm

end Dialect

/-! ### What changes emit -/

namespace Emission

variable {first second : Emission} {x : Context} {p : Progress}

def Unset (e : Emission) : Prop := ∀ statement ∈ e.statements, ∀ setting, statement ≠ .set setting

theorem mem_append {statement : Statement} (h : statement ∈ (first ++ second).statements) :
    statement ∈ first.statements ∨ statement ∈ second.statements := by
  cases hfault : first.fault with
  | some fault =>
    have stopped : first ++ second = first := by
      show first.andThen second = first
      rw [andThen, hfault]
    exact .inl (stopped ▸ h)
  | none =>
    rw [append_of_fault_none hfault] at h
    exact List.mem_append.mp h

theorem Unset.append (hf : first.Unset) (hs : second.Unset) : (first ++ second).Unset := by
  intro statement hmem
  rcases mem_append hmem with hmem | hmem
  · exact hf statement hmem
  · exact hs statement hmem

theorem unset_of_append {firsts seconds : List Statement} (hf : (of firsts).Unset)
    (hs : (of seconds).Unset) : (of (firsts ++ seconds)).Unset := by
  intro statement hmem
  rcases List.mem_append.mp hmem with hmem | hmem
  · exact hf statement hmem
  · exact hs statement hmem

theorem unset_stop (fault : EmissionFault) : (stop fault).Unset := by simp [stop, Unset]

theorem unset_withColumn (d : Dialect) (c : Column) {statement : ColumnClause → Statement}
    (h : ∀ clause setting, statement clause ≠ .set setting) :
    (withColumn d c statement).Unset := by
  unfold withColumn
  split
  · simpa [of, Unset] using h _
  · exact unset_stop _

theorem unset_createTable (x : Context) (table : Table) (name : String) :
    (createTable x table name).Unset := by
  unfold createTable
  split
  · simp [of, Unset]
  · exact unset_stop _

theorem unset_alterTable (d : Dialect) (old new : Table) : (alterTable d old new).Unset := by
  refine .append ?_ ?_
  · simp only [of, Unset]
    split
    · simp
    · split <;> split <;> simp
  · split
    · simp [of, Unset]
    · unfold convertTable
      split <;> simp [of, Unset]

theorem unset_dropForeignKey (table : String) (k : ForeignKey) :
    (dropForeignKey table k).Unset := by
  unfold dropForeignKey
  split
  · simp [of, Unset]
  · exact unset_stop _

theorem unset_plain (x : Context) (c : Change) : (plain x c).Unset := by
  unfold plain
  split
  case h_1 => exact unset_createTable _ _ _
  case h_3 => exact unset_alterTable _ _ _
  case h_4 => exact unset_withColumn _ _ (by simp)
  case h_9 => exact unset_dropForeignKey _ _
  case h_12 => exact unset_stop _
  all_goals simp [of, Unset]

structure Carries (p : Progress) (done : Progress × Emission) : Prop where
  unset : done.2.Unset
  rebuilding : done.1.rebuilding = p.rebuilding

theorem carries_mysql (x : Context) (p : Progress) (c : Change) :
    Carries p (Mysql.emit x p c) := by
  have modifies (table : String) (column : Column) :
      Carries p (Mysql.modifyColumn x p table column) := by
    unfold Mysql.modifyColumn
    dsimp only
    split
    · exact ⟨by simp [of, Unset], rfl⟩
    · exact ⟨unset_withColumn x.dialect column (by simp), rfl⟩
  unfold Mysql.emit
  split
  · exact modifies ..
  · exact modifies ..
  · exact ⟨unset_plain x c, rfl⟩

theorem unset_setType (d : Dialect) (table : String) (old : Option Column) (new : Column) :
    (Postgres.setType d table old new).Unset := by
  unfold Postgres.setType
  split
  · exact unset_withColumn _ _ (by simp)
  · split
    · split <;> simp [of, Unset]
    · exact unset_stop _
    · exact unset_stop _

theorem carries_postgres (x : Context) (p : Progress) (c : Change) :
    Carries p (Postgres.emit x p c) := by
  unfold Postgres.emit
  split
  · refine ⟨.append (.append ?_ (unset_setType _ _ _ _)) ?_, rfl⟩
    · simp only [of, Unset]
      split <;> simp
    · simp only [of, Unset]
      split <;> simp
  · refine ⟨?_, rfl⟩
    refine unset_of_append ?_ ?_
    · split <;> simp [of, Unset]
    · split
      · simp [of, Unset]
      · split <;> simp [of, Unset]
  · exact ⟨unset_plain x c, rfl⟩

theorem unset_dropBound (table : String) (c : Column) :
    (of (SqlServer.dropBound table c)).Unset := by
  refine unset_of_append ?_ ?_
  all_goals split <;> simp [of, Unset]

theorem unset_addDefault (table : String) (c : Column) :
    (of (SqlServer.addDefault table c)).Unset := by
  unfold SqlServer.addDefault
  split <;> simp [of, Unset]

theorem carries_alterColumn (x : Context) (p : Progress) (table : String) (old : Option Column)
    (new : Column) : Carries p (SqlServer.alterColumn x p table old new) := by
  have hold : (of ((old.map (SqlServer.dropBound table)).getD [])).Unset := by
    cases old with
    | none => simp [of, Unset]
    | some old => exact unset_dropBound table old
  have hnew : (of ((if new.HasEnumValues then [Statement.addCheck table new] else []) ++
      SqlServer.addDefault table new)).Unset := by
    refine unset_of_append ?_ (unset_addDefault table new)
    split <;> simp [of, Unset]
  unfold SqlServer.alterColumn
  dsimp only
  split
  · exact ⟨by simp [of, Unset], rfl⟩
  · exact ⟨(hold.append (unset_withColumn _ _ (by simp))).append hnew, rfl⟩

theorem carries_sqlServer (x : Context) (p : Progress) (c : Change) :
    Carries p (SqlServer.emit x p c) := by
  unfold SqlServer.emit
  split
  · exact carries_alterColumn ..
  · unfold SqlServer.alterNullDefault
    split
    · exact ⟨by simp [of, Unset], rfl⟩
    · split
      · exact carries_alterColumn ..
      · split
        · refine ⟨unset_of_append ?_ (unset_addDefault _ _), rfl⟩
          split <;> simp [of, Unset]
        · exact carries_alterColumn ..
  · exact ⟨unset_of_append (unset_dropBound _ _) (by simp [of, Unset]), rfl⟩
  · exact ⟨unset_stop _, rfl⟩
  · exact ⟨unset_plain x c, rfl⟩

theorem unset_replaceTable (x : Context) (p : Progress) (name : String) (old : Option Table)
    (new : Table) : (Sqlite.replaceTable x p name old new).Unset := by
  unfold Sqlite.replaceTable
  dsimp only
  split
  · exact unset_stop _
  · refine .append ?_ ?_
    · simp only [of, Unset]
      split <;> simp
    · split
      · exact unset_stop _
      · simp [of, Unset]

theorem carries_rebuild (x : Context) (p : Progress) (name : String) :
    Carries p (Sqlite.rebuild x p name) := by
  unfold Sqlite.rebuild
  split
  · exact ⟨by simp [of, Unset], rfl⟩
  · refine ⟨?_, rfl⟩
    dsimp only
    split
    · exact unset_stop _
    · exact (unset_createTable _ _ _).append (unset_replaceTable _ _ _ _ _)

theorem carries_sqlite (x : Context) (p : Progress) (c : Change) :
    Carries p (Sqlite.emit x p c) := by
  have idle : Carries p (p, of []) := ⟨by simp [of, Unset], rfl⟩
  have plainly : Carries p (p, plain x c) := ⟨unset_plain x c, rfl⟩
  have stops : Carries p (p, stop (.absent .name)) := ⟨unset_stop _, rfl⟩
  have rebuilds := carries_rebuild x p c.table
  have unlessRebuilt {done} (h : Carries p done) :
      Carries p (if p.rebuilding.contains c.table then Sqlite.rebuild x p c.table else done) := by
    split
    · exact rebuilds
    · exact h
  cases haction : c.action with
  | alterTable | alterColumnType | alterColumnNullDefault =>
    simpa only [Sqlite.emit, haction] using rebuilds
  | addColumn | dropColumn => simpa only [Sqlite.emit, haction] using unlessRebuilt plainly
  | addForeignKey | dropForeignKey => simpa only [Sqlite.emit, haction] using unlessRebuilt idle
  | addIndex index =>
    simp only [Sqlite.emit, haction]
    exact ⟨unset_plain x c, rfl⟩
  | createTable | dropTable | dropIndex => simpa only [Sqlite.emit, haction] using plainly
  | incomplete kind =>
    cases kind with
    | alterTable | alterColumnType | alterColumnNullDefault =>
      simpa only [Sqlite.emit, haction] using rebuilds
    | addColumn | dropColumn => simpa only [Sqlite.emit, haction] using unlessRebuilt stops
    | addForeignKey | dropForeignKey => simpa only [Sqlite.emit, haction] using unlessRebuilt idle
    | createTable | dropTable | addIndex | dropIndex =>
      simpa only [Sqlite.emit, haction] using stops

theorem carries_emit (x : Context) (p : Progress) (c : Change) : Carries p (emit x p c) := by
  unfold emit
  split
  · exact carries_mysql x p c
  · exact carries_postgres x p c
  · exact carries_sqlite x p c
  · exact carries_sqlServer x p c

theorem carries_emitAll (x : Context) (p : Progress) (changes : List Change) :
    Carries p (emitAll x p changes) := by
  induction changes generalizing p with
  | nil => exact ⟨by simp [emitAll, of, Unset], rfl⟩
  | cons c rest ih =>
    have first := carries_emit x p c
    unfold emitAll
    dsimp only
    split
    · exact first
    · exact ⟨first.unset.append (ih _).unset, (ih _).rebuilding.trans first.rebuilding⟩

structure Opens (x : Context) (p : Progress) (settings : List Setting) : Prop where
  nodup : (settings.map Dialect.settingText).Nodup
  off : p.rebuilding ≠ [] → settings = [.foreignKeys false]
  unchanged : x.changes = [] → p.rebuilding = []
  progress : p = { Progress.start with rebuilding := p.rebuilding }

theorem opens_sqlite {names : List String} (h : Sqlite.tablesToRebuild x = .ok names)
    (touches : Bool) :
    Opens x { Progress.start with rebuilding := names }
      (if names ≠ [] then [.foreignKeys false]
        else if touches then [.foreignKeys true] else []) where
  nodup := by
    split
    · exact List.nodup_singleton _
    · split
      · exact List.nodup_singleton _
      · exact List.nodup_nil
  off hnames := if_pos hnames
  unchanged hchanges := by
    simp only [Sqlite.tablesToRebuild, hchanges] at h
    cases h
    rfl
  progress := rfl

theorem opens_of_prolog {charset : String} {settings : List Setting}
    (h : prolog x charset = .ok (p, settings)) : Opens x p settings := by
  have always {settings : List Setting} (nodup : (settings.map Dialect.settingText).Nodup) :
      Opens x .start (if x.changes = [] then [] else settings) :=
    ⟨by split <;> simp [nodup], fun hne => absurd rfl hne, fun _ => rfl, rfl⟩
  cases hd : x.dialect with
  | mysql =>
    simp only [prolog, hd] at h
    cases h
    exact always (List.nodup_singleton _)
  | postgres =>
    simp only [prolog, hd] at h
    cases h
    exact always (List.nodup_singleton _)
  | sqlServer =>
    simp only [prolog, hd] at h
    cases h
    exact always (by decide)
  | sqlite =>
    simp only [prolog, hd] at h
    cases hnames : Sqlite.tablesToRebuild x with
    | error fault =>
      rw [hnames] at h
      cases h
    | ok names =>
      rw [hnames] at h
      cases h
      exact opens_sqlite hnames _

/-- A script without changes has no body. -/
theorem body_of_unchanged {settings : List Setting} (h : Opens x p settings)
    (hchanges : x.changes = []) : (body x p).2.statements = [] := by
  have hrebuilding := h.unchanged hchanges
  simp [body, hchanges, emitAll, hrebuilding, of, append_of_fault_none]

/-- The body never sets what the prolog has set. -/
theorem settingText_not_mem_body {settings : List Setting} (h : Opens x p settings) (d : Dialect)
    {setting : Setting} (hsetting : setting ∈ settings) :
    Dialect.settingText setting ∉ (body x p).2.statements.map d.text := by
  have carries := carries_emitAll x p x.changes
  intro hmem
  obtain ⟨statement, hstatement, htext⟩ := List.mem_map.mp hmem
  have hcases : statement ∈ (emitAll x p x.changes).2.statements ∨
      p.rebuilding ≠ [] ∧ statement = .set (.foreignKeys true) := by
    rcases mem_append hstatement with hown | hlast
    · exact .inl hown
    · right
      rw [carries.rebuilding] at hlast
      by_cases hempty : p.rebuilding = []
      · simp [hempty, of] at hlast
      · exact ⟨hempty, by simpa [hempty, of] using hlast⟩
  rcases hcases with hown | ⟨hne, rfl⟩
  · have acts := Dialect.acts_text d (carries.unset statement hown)
    rw [htext] at acts
    exact Dialect.not_acts_settingText setting acts
  · rw [h.off hne] at hsetting
    cases List.mem_singleton.mp hsetting
    have hset : "PRAGMA foreign_keys = ON" = "PRAGMA foreign_keys = OFF" := htext
    exact absurd hset (by decide)

end Emission

/-! ### A whole script -/

namespace Session

variable {s : Session}

theorem writeStatement_eq (s : Session) (statement : Statement) :
    s.writeStatement statement = s.commit (s.dialect.text statement) := by
  cases statement with
  | createTable t =>
    have joined : s.dialect.tableOpening t.name ++ "\n" ++
        (s.dialect.tableBody t ++ "\n" ++ s.dialect.tableClosing t) =
          s.dialect.text (.createTable t) := by
      simp only [Dialect.text_createTable, String.append_assoc]
    simp only [writeStatement, push, commit, updateBuffer, Buffer.commit_push, joined]
  | _ => rfl

/-- Writing statements is committing their texts. -/
theorem write_eq (h : s.buffer.scratch = "") (statements : List Statement) :
    s.write statements =
      { s with buffer := s.buffer.committed (statements.map s.dialect.text) } := by
  rw [← Buffer.foldl_commit h]
  clear h
  induction statements generalizing s with
  | nil => rfl
  | cons statement rest ih =>
    rw [write, List.foldl_cons, writeStatement_eq, ← write, ih]
    rfl

theorem addSettings_eq (h : s.buffer.hasStatement = false) (settings : List Setting) :
    s.addSettings settings = ⟨{ s with buffer := { s.buffer with
      prolog := s.buffer.prolog ++ settings.map Dialect.settingText } }, none⟩ := by
  induction settings generalizing s with
  | nil => simp [addSettings]
  | cons setting rest ih =>
    have added : s.addProlog (Dialect.settingText setting) =
        ⟨{ s with buffer := { s.buffer with
          prolog := s.buffer.prolog ++ [Dialect.settingText setting] } }, none⟩ := by
      simp [addProlog, Buffer.addProlog?, h]
    rw [addSettings, added]
    refine Eq.trans (ih (s := { s with buffer := { s.buffer with
      prolog := s.buffer.prolog ++ [Dialect.settingText setting] } }) h) ?_
    simp

theorem writeBody_eq (h : s.buffer.scratch = "") (x : Context) :
    s.writeBody x =
      ⟨{ s with
          progress := (Emission.body x s.progress).1
          buffer := s.buffer.committed
            ((Emission.body x s.progress).2.statements.map s.dialect.text) },
        (Emission.body x s.progress).2.fault.map Failure.ofEmission⟩ := by
  unfold writeBody writeEmission
  dsimp only
  rw [write_eq h]

def headOf (s : Session) (generatedAt : String) : List Fragment :=
  [⟨.comment, commentText "Automatically generated migration script" ++ "\n"⟩,
    ⟨.comment, commentText ("Generated at " ++ generatedAt) ++ "\n"⟩,
    ⟨.separator, "\n"⟩,
    ⟨.comment, s.useLine ++ "\n"⟩,
    ⟨.separator, "\n"⟩]

def chosen (s : Session) (generatedAt : String) (x : Context) (p : Progress)
    (settings : List Setting) : Session :=
  { s with
    buffer := ⟨s.dialect.separator, s.headOf generatedAt, settings.map Dialect.settingText, ""⟩
    context := some x
    progress := p }

theorem writeProlog_eq (s : Session) (generatedAt : String) (x : Context) :
    Session.writeProlog { s.restart.writeHead generatedAt with context := some x } x =
      match Emission.prolog x s.schema.charset with
      | .error fault =>
        ⟨{ s.restart.writeHead generatedAt with context := some x }, some (.ofEmission fault)⟩
      | .ok (p, settings) => ⟨s.chosen generatedAt x p settings, none⟩ := by
  have hcharset : (s.restart.writeHead generatedAt).schema.charset = s.schema.charset := rfl
  unfold writeProlog
  dsimp only
  rw [hcharset]
  cases hfound : Emission.prolog x s.schema.charset with
  | error fault => rfl
  | ok found =>
    obtain ⟨p, settings⟩ := found
    have progress : ({ Progress.start with rebuilding := p.rebuilding } : Progress) = p :=
      (Emission.opens_of_prolog hfound).progress.symm
    have restarted : (s.restart.writeHead generatedAt).progress = .start := rfl
    dsimp only
    rw [restarted, progress]
    exact addSettings_eq rfl settings

structure Wrote (s : Session) (generatedAt : String) (x : Context) (done : Session)
    (statements : List Statement) : Prop where
  emitted : ∃ p settings body, Emission.prolog x s.schema.charset = .ok (p, settings) ∧
    Emission.body x p = (done.progress, .of body) ∧
    statements = if body = [] then [] else settings.map .set ++ body
  completes : (s.restart.writeHead generatedAt).applyChanges x true = ⟨done, none⟩
  fragments : done.buffer.fragments = s.headOf generatedAt ++
    (statements.map s.dialect.text).flatMap (Buffer.separated s.dialect.separator .statement)

theorem texts_of_script (d : Dialect) (settings : List Setting) (statements : List Statement) :
    (if statements = [] then [] else settings.map .set ++ statements).map d.text =
      if statements.map d.text = [] then []
      else settings.map Dialect.settingText ++ statements.map d.text := by
  have set : ∀ setting, d.text (.set setting) = Dialect.settingText setting := fun _ => rfl
  simp only [List.map_eq_nil_iff]
  split
  · rfl
  · simp only [List.map_append, List.map_map, Function.comp_def, set]

theorem wrote_of_body {x : Context} {p p' : Progress} {settings : List Setting}
    {statements : List Statement} (generatedAt : String)
    (prolog : Emission.prolog x s.schema.charset = .ok (p, settings))
    (body : Emission.body x p = (p', .of statements)) :
    ∃ done, done.progress = p' ∧ s.Wrote generatedAt x done
      (if statements = [] then [] else settings.map .set ++ statements) := by
  have hopened := s.writeProlog_eq generatedAt x
  rw [prolog] at hopened
  have hbody := writeBody_eq (s := s.chosen generatedAt x p settings) rfl x
  rw [show (s.chosen generatedAt x p settings).progress = p from rfl, body] at hbody
  refine ⟨{ s.chosen generatedAt x p settings with
    progress := p'
    buffer := (s.chosen generatedAt x p settings).buffer.committed
      (statements.map s.dialect.text) }, rfl, ⟨p, settings, statements, prolog, body, rfl⟩, ?_, ?_⟩
  · rw [applyChanges, if_pos rfl, hopened]
    exact hbody
  · refine (Buffer.fragments_committed _ _).trans ?_
    rw [texts_of_script]
    rfl

end Session

section Completes

variable {e : Executor} {generatedAt : String} {s opened done : Session} {connection : Connection}
  {x : Context} {p : Progress} {settings : List Setting}

theorem Completes.buffer (h : Completes e generatedAt s.restart connection x opened done) :
    ∃ p settings, Emission.prolog x s.schema.charset = .ok (p, settings) ∧
      done.buffer = (s.chosen generatedAt x p settings).buffer.committed
        ((Emission.body x p).2.statements.map s.dialect.text) := by
  have hopened := (s.writeProlog_eq generatedAt x).symm.trans h.prolog
  cases hfound : Emission.prolog x s.schema.charset with
  | error fault =>
    rw [hfound] at hopened
    cases hopened
  | ok found =>
    rw [hfound] at hopened
    obtain rfl : s.chosen generatedAt x found.1 found.2 = opened :=
      congrArg Session.Outcome.session hopened
    have hdone := (Session.writeBody_eq rfl x).symm.trans h.body
    exact ⟨found.1, found.2, rfl, congrArg (fun outcome => outcome.session.buffer) hdone.symm⟩

/-- A script is complete if all changes can be emitted. -/
theorem completes_of_body (current : e.readCurrent s.dialect connection = .ok x.current)
    (target : s.dialect.projection.project s.schema = .ok x.target)
    (context : s.compare e.configuration.skipsConstraints x.current x.target = .ok x)
    (prolog : Emission.prolog x s.schema.charset = .ok (p, settings))
    (body : (Emission.body x p).2.fault = none) :
    ∃ opened done, Completes e generatedAt s.restart connection x opened done := by
  have hbody := Session.writeBody_eq (s := s.chosen generatedAt x p settings) rfl x
  rw [show (s.chosen generatedAt x p settings).progress = p from rfl, body] at hbody
  refine ⟨_, _, current, target, context, ?_, hbody⟩
  rw [s.writeProlog_eq generatedAt x, prolog]

end Completes

/-- The shape of a script: its head, and then the statements of the body, if there are any, with the
settings of the prolog before them. -/
structure ScriptShape (s : Session) (e : Executor) (generatedAt : String) (x : Context)
    (settings : List Setting) (body : List String) (r : RunResult) : Prop where
  current : ∃ connection, e.connect s.dialect e.configuration.connectionString = .ok connection ∧
    e.readCurrent s.dialect connection = .ok x.current
  target : s.dialect.projection.project s.schema = .ok x.target
  changes : ∃ d, (Comparison.mk x.current x.target s.dialect.rules
    e.configuration.skipsConstraints).difference = .ok d ∧ x.changes = d.changes
  written : ∃ p, Emission.prolog x s.schema.charset = .ok (p, settings) ∧
    body = (Emission.body x p).2.statements.map s.dialect.text
  result : r.result = .ok (s.headOf generatedAt ++
    (if body = [] then [] else settings.map Dialect.settingText ++ body).flatMap
      (Buffer.separated s.dialect.separator .statement))
  once : ∀ setting ∈ settings,
    (settings.map Dialect.settingText ++ body).count (Dialect.settingText setting) = 1
  unchanged : x.changes = [] → body = []
  scratch : r.session.buffer.scratch = ""

/-- The script of every run that succeeds has this shape. -/
theorem Session.execute_shapes_script {s : Session} {e : Executor} {generatedAt : String}
    {fragments : List Fragment} (h : (s.execute e generatedAt).result = .ok fragments) :
    ∃ x settings body, ScriptShape s e generatedAt x settings body (s.execute e generatedAt) := by
  have ends := s.ends_execute e generatedAt
  generalize s.execute e generatedAt = r at ends h ⊢
  cases ends with
  | unconnected => cases h
  | failed => cases h
  | @delivered connection x opened done hconnect completes quiet =>
    obtain ⟨p, settings, hsettings, hbuffer⟩ := completes.buffer
    have opens := Emission.opens_of_prolog hsettings
    refine ⟨x, settings, (Emission.body x p).2.statements.map s.dialect.text, ?_⟩
    exact {
      current := ⟨connection, hconnect, completes.current⟩
      target := completes.target
      changes := by
        obtain ⟨d, hd, hx⟩ := Session.compare_eq_ok_iff.mp completes.context
        exact ⟨d, hd, congrArg Context.changes hx⟩
      written := ⟨p, hsettings, rfl⟩
      result := by
        cases hreceive : e.receive done.buffer.fragments with
        | error failure =>
          rw [hreceive] at h
          cases h
        | ok =>
          rw [hbuffer]
          exact congrArg Except.ok (Buffer.fragments_committed _ _)
      once := by
        intro setting hsetting
        have inProlog := List.count_eq_one_of_mem opens.nodup (List.mem_map_of_mem hsetting)
        have inBody := List.count_eq_zero_of_not_mem
          (Emission.settingText_not_mem_body opens s.dialect hsetting)
        rw [List.count_append, inProlog, inBody]
      unchanged := fun hchanges => by rw [Emission.body_of_unchanged opens hchanges]; rfl
      scratch := by
        rw [hbuffer, Buffer.scratch_committed]
        rfl }

/-! A shop whose items get a shorter number. -/

namespace Shop

def longItems : Table := { items with columns := [{ number "id" with type := .bigInt }] }

def shortItems : Table := { items with columns := [number "id"] }

def shortening : Schema :=
  { Schema.ofName "shop" with
    tables := [{
      name := "items"
      columns := [⟨"id", "INT", none, none, false, none, none, none⟩]
      primaryKey := ["id"]
      indexes := []
      foreignKeys := []
      charset := none
      collation := none }] }

def shortener : Executor where
  configuration := ⟨none, none, false, "sqlite", none⟩
  registry := ⟨.empty⟩
  disk := .empty
  schema := some shortening
  connectionFactory := none
  currentReader := some fun _ => .ok (.ofTables [longItems])
  receive := fun _ => .ok ()

def shorteningComparison : Comparison :=
  ⟨.ofTables [longItems], .ofTables [shortItems], Dialect.rules .sqlite, false⟩

def shorteningContext : Context :=
  ⟨.sqlite, .ofTables [longItems], .ofTables [shortItems], shorteningComparison.changes, false⟩

theorem compare_items : (Session.start .sqlite shortening).compare false (.ofTables [longItems])
    (.ofTables [shortItems]) = .ok shorteningContext := by
  obtain ⟨g, -, -, -, hd⟩ :=
    Comparison.difference_of_nodup (c := shorteningComparison) (by decide)
  have hchanges := Comparison.changes_of_sorted hd (by decide)
  refine Session.compare_eq_ok_iff.mpr ⟨_, hd, ?_⟩
  rw [hchanges]
  rfl

theorem items_are_rebuilt :
    ∃ fragments, ((Session.start .sqlite shortening).execute shortener "today").result =
        .ok fragments ∧
      ∃ x settings body, ScriptShape (.start .sqlite shortening) shortener "today" x settings body
        ((Session.start .sqlite shortening).execute shortener "today") := by
  have complete : ∃ opened done, Completes shortener "today"
      (Session.start .sqlite shortening).restart ⟨.empty, true⟩ shorteningContext opened done :=
    completes_of_body (p := { Progress.start with rebuilding := ["items"] })
      rfl rfl compare_items rfl rfl
  obtain ⟨opened, done, completes⟩ := complete
  have success : ((Session.start .sqlite shortening).execute shortener "today").result =
      .ok done.buffer.fragments := by
    rw [completes.execute rfl rfl]
    rfl
  exact ⟨_, success, Session.execute_shapes_script success⟩

end Shop

end SchemaMigration
