import SchemaMigration.Migration
import SchemaMigration.Proofs.Decoder
import SchemaMigration.Proofs.Disk
import SchemaMigration.Proofs.Json
import SchemaMigration.Proofs.Result

/-!
Snapshot files. A snapshot is read from the file that it was written to, field by field.
-/

namespace SchemaMigration

/-! ### Decoding what was encoded -/

open Json.Decoder

theorem ColumnType.inverts_decode : Inverts decode fun t => .text t.name := by
  intro t
  rw [decode, choice, ofName?_name]

theorem Column.inverts_decode : Inverts decode encode := by
  intro c
  rw [encode, decode, record, inverts_text.required rfl, ColumnType.inverts_decode.required rfl,
    inverts_optional_integer.withDefault _ rfl, inverts_optional_integer.withDefault _ rfl,
    inverts_flag.withDefault _ rfl, inverts_optional_text.withDefault _ rfl,
    inverts_texts.withDefault _ rfl, inverts_optional_text.withDefault _ rfl]
  rfl

theorem Index.inverts_decode : Inverts decode encode := by
  intro i
  rw [encode, decode, record, inverts_text.required rfl, inverts_texts.required rfl,
    inverts_flag.withDefault _ rfl]
  rfl

theorem ForeignKey.inverts_decode : Inverts decode encode := by
  intro k
  rw [encode, decode, record, inverts_optional_text.withDefault _ rfl, inverts_texts.required rfl,
    inverts_text.required rfl, inverts_texts.required rfl, inverts_text.withDefault _ rfl,
    inverts_text.withDefault _ rfl]
  rfl

theorem Table.inverts_decode : Inverts decode encode := by
  intro t
  rw [encode, decode, record, inverts_text.required rfl,
    Column.inverts_decode.tuple.withDefault _ rfl, inverts_texts.withDefault _ rfl,
    Index.inverts_decode.tuple.withDefault _ rfl,
    ForeignKey.inverts_decode.tuple.withDefault _ rfl, inverts_optional_text.withDefault _ rfl,
    inverts_optional_text.withDefault _ rfl]
  rfl

namespace Snapshot

theorem ofList_entries (s : Snapshot) : (⟨.ofList s.tables.entries⟩ : Snapshot) = s := by
  obtain ⟨⟨entries, distinct⟩⟩ := s
  have kept : (OrderedMap.ofList entries).entries = entries := OrderedMap.entries_ofList distinct
  congr 1
  cases h : OrderedMap.ofList entries
  rw [h] at kept
  cases kept
  rfl

theorem inverts_decode : Inverts decode encode := by
  intro s
  rw [encode, decode, record, Table.inverts_decode.dictionary.withDefault _ rfl]
  exact congrArg Validated.valid s.ofList_entries

end Snapshot

/-! ### What the text of a snapshot keeps -/

namespace Json

variable {room : Nat}

theorem keeps_text (s : String) : Keeps room (.text s) := trivial

theorem keeps_texts (ss : List String) : Keeps (room + 1) (.texts ss) := by
  refine ⟨Nat.succ_pos room, ?_⟩
  induction ss with
  | nil => trivial
  | cons s ss ih => exact ⟨trivial, ih⟩

theorem keeps_optional_text (o : Option String) : Keeps room (.ofOption .text o) := by
  cases o <;> trivial

theorem keeps_optional_int {o : Option Int} (h : Writer.isWritable (.ofOption .int o) = true) :
    Keeps room (.ofOption .int o) := by
  cases o with
  | none => trivial
  | some n => exact h

theorem keeps_array {α : Type} {encode : α → Json}
    (hkeeps : ∀ a, Writer.isWritable (encode a) = true → Keeps room (encode a)) {as : List α}
    (h : Writer.isWritable (.array (as.map encode)) = true) :
    Keeps (room + 1) (.array (as.map encode)) := by
  refine ⟨Nat.succ_pos room, ?_⟩
  induction as with
  | nil => trivial
  | cons a as ih =>
    obtain ⟨first, others⟩ := Bool.and_eq_true_iff.mp h
    exact ⟨hkeeps a first, ih others⟩

theorem keeps_dictionary {α : Type} {encode : α → Json}
    (hkeeps : ∀ a, Writer.isWritable (encode a) = true → Keeps room (encode a))
    {ms : List (String × α)} (distinct : (ms.map Prod.fst).Nodup)
    (h : Writer.isWritable (.object (ms.map fun m => (m.1, encode m.2))) = true) :
    Keeps (room + 1) (.object (ms.map fun m => (m.1, encode m.2))) := by
  refine ⟨Nat.succ_pos room, by rwa [List.map_map], ?_⟩
  clear distinct
  induction ms with
  | nil => trivial
  | cons m ms ih =>
    obtain ⟨first, others⟩ := Bool.and_eq_true_iff.mp h
    exact ⟨hkeeps m.2 first, ih others⟩

end Json

open Json

theorem Column.keeps_encode {room : Nat} (c : Column) (h : Writer.isWritable c.encode = true) :
    Keeps (room + 2) c.encode := by
  simp only [encode, Writer.isWritable, Writer.membersWritable, Bool.and_eq_true] at h
  obtain ⟨-, -, hlength, hscale, -⟩ := h
  refine ⟨Nat.succ_pos _, by simp, keeps_text _, keeps_text _, keeps_optional_int hlength,
    keeps_optional_int hscale, trivial, keeps_optional_text _, keeps_texts _,
    keeps_optional_text _, trivial⟩

theorem Index.keeps_encode {room : Nat} (i : Index) : Keeps (room + 2) i.encode :=
  ⟨Nat.succ_pos _, by simp, keeps_text _, keeps_texts _, trivial, trivial⟩

theorem ForeignKey.keeps_encode {room : Nat} (k : ForeignKey) : Keeps (room + 2) k.encode :=
  ⟨Nat.succ_pos _, by simp, keeps_optional_text _, keeps_texts _, keeps_text _, keeps_texts _,
    keeps_text _, keeps_text _, trivial⟩

theorem Table.keeps_encode {room : Nat} (t : Table) (h : Writer.isWritable t.encode = true) :
    Keeps (room + 4) t.encode := by
  simp only [encode, Writer.isWritable, Writer.membersWritable, Bool.and_eq_true] at h
  obtain ⟨-, hcolumns, -, hindexes, hkeys, -⟩ := h
  exact ⟨Nat.succ_pos _, by simp, keeps_text _, keeps_array Column.keeps_encode hcolumns,
    keeps_texts _, keeps_array (fun i _ => i.keeps_encode) hindexes,
    keeps_array (fun k _ => k.keeps_encode) hkeys, keeps_optional_text _, keeps_optional_text _,
    trivial⟩

theorem Snapshot.keeps_encode {room : Nat} (s : Snapshot) (h : Writer.isWritable s.encode = true) :
    Keeps (room + 6) s.encode := by
  simp only [encode, Writer.isWritable, Writer.membersWritable, Bool.and_eq_true] at h
  exact ⟨Nat.succ_pos _, by simp, keeps_dictionary Table.keeps_encode s.tables.distinct h.1,
    trivial⟩

/-- A snapshot is read as it was written. -/
theorem Snapshot.ofText_toText {s : Snapshot} (h : Writer.isWritable s.encode = true) :
    ofText s.toText = .ok s := by
  have room : Keeps depthLimit s.encode := s.keeps_encode h
  rw [ofText, toText, parse_pretty room]
  dsimp only
  rw [inverts_decode s]

/-! ### Files -/

theorem Text.normalizeLineEnds_eq_self {cs : List Char} (h : '\r' ∉ cs) :
    normalizeLineEnds cs = cs := by
  induction cs with
  | nil => rfl
  | cons c cs ih =>
    rw [List.mem_cons, not_or] at h
    rw [normalizeLineEnds.eq_def]
    split
    · contradiction
    · simp_all
    · simp_all
    · simp_all

theorem Snapshot.toFile_eq_ok_iff {s : Snapshot} {disk disk' : Disk} {path : String} :
    s.toFile disk path = .ok disk' ↔
      ∃ made : Disk, disk.makeParents path = .ok made ∧ Writer.isWritable s.encode = true ∧
        made.put path s.toText = .ok disk' := by
  unfold toFile
  constructor
  · intro h
    cases hmade : disk.makeParents path with
    | error fault =>
      rw [hmade] at h
      cases h
    | ok made =>
      rw [hmade] at h
      by_cases hwritable : Writer.isWritable s.encode = true
      · rw [pretty?, if_pos hwritable] at h
        exact ⟨made, rfl, hwritable, eq_ok_of_mapError h⟩
      · rw [pretty?, if_neg hwritable] at h
        cases h
  · rintro ⟨made, hmade, hwritable, hput⟩
    rw [hmade, pretty?, if_pos hwritable]
    change (made.put path s.toText).mapError Failure.disk = .ok disk'
    rw [hput]
    rfl

/-- The snapshot of a file is the one that was written to it. -/
theorem Snapshot.ofFile_of_toFile {s : Snapshot} {disk disk' : Disk} {path : String}
    (h : s.toFile disk path = .ok disk') : ofFile disk' path = .ok s := by
  obtain ⟨made, -, hwritable, hput⟩ := toFile_eq_ok_iff.mp h
  have kept : String.ofList (Text.normalizeLineEnds s.toText.toList) = s.toText := by
    rw [toText, pretty, String.toList_ofList,
      Text.normalizeLineEnds_eq_self (return_not_mem_value returnless_indented 0 s.encode)]
  have read : disk'.read? (Path.normalized path) = .ok (some s.toText) := by
    rw [Disk.read?_put hput, kept]
  unfold ofFile
  dsimp only
  rw [read]
  change (ofText s.toText).mapError _ = _
  rw [ofText_toText hwritable]
  rfl

/-! ### Which snapshots can be written -/

namespace Json.Writer

variable {α : Type} {encode : α → Json}

theorem isWritable_array_map {as : List α} :
    isWritable (.array (as.map encode)) = true ↔ ∀ a ∈ as, isWritable (encode a) = true := by
  rw [isWritable]
  induction as with
  | nil => simp [areWritable]
  | cons a as ih => simp [areWritable, ih]

theorem isWritable_object_map {ms : List (String × α)} :
    isWritable (.object (ms.map fun m => (m.1, encode m.2))) = true ↔
      ∀ m ∈ ms, isWritable (encode m.2) = true := by
  rw [isWritable]
  induction ms with
  | nil => simp [membersWritable]
  | cons m ms ih => simp [membersWritable, ih]

theorem isWritable_texts (ss : List String) : isWritable (.texts ss) = true :=
  isWritable_array_map.mpr fun _ _ => rfl

theorem isWritable_optional_text (o : Option String) : isWritable (.ofOption .text o) = true := by
  cases o <;> rfl

theorem isWritable_optional_int {o : Option Int} :
    isWritable (.ofOption .int o) = true ↔ ∀ n ∈ o, Text.isWritable n = true := by
  cases o <;> simp [ofOption, isWritable]

end Json.Writer

open Json.Writer

/-- The integers of a column, which have no bound. -/
def Column.integers (c : Column) : List Int := c.length.toList ++ c.scale.toList

def Snapshot.integers (s : Snapshot) : List Int :=
  s.tables.entries.flatMap fun entry => entry.2.columns.flatMap Column.integers

theorem Column.isWritable_encode {c : Column} :
    isWritable c.encode = true ↔ ∀ n ∈ c.integers, Text.isWritable n = true := by
  simp [encode, integers, isWritable, membersWritable, isWritable_texts, isWritable_optional_text,
    isWritable_optional_int, or_imp, forall_and]

theorem Table.isWritable_encode {t : Table} :
    isWritable t.encode = true ↔ ∀ c ∈ t.columns, isWritable c.encode = true := by
  have indexes : isWritable (.array (t.indexes.map Index.encode)) = true :=
    isWritable_array_map.mpr fun i _ => by
      simp [Index.encode, isWritable, membersWritable, isWritable_texts]
  have keys : isWritable (.array (t.foreignKeys.map ForeignKey.encode)) = true :=
    isWritable_array_map.mpr fun k _ => by
      simp [ForeignKey.encode, isWritable, membersWritable, isWritable_texts,
        isWritable_optional_text]
  have name : isWritable (.text t.name) = true := rfl
  rw [encode, isWritable]
  simp [membersWritable, isWritable_texts, isWritable_optional_text, indexes, keys, name,
    isWritable_array_map]

theorem Snapshot.isWritable_encode {s : Snapshot} :
    isWritable s.encode = true ↔ ∀ n ∈ s.integers, Text.isWritable n = true := by
  rw [encode, isWritable]
  simp only [membersWritable, Bool.and_true]
  rw [isWritable_object_map]
  simp only [integers, List.forall_mem_flatMap, Table.isWritable_encode, Column.isWritable_encode]

inductive Snapshot.RoundTrip (s : Snapshot) (disk : Disk) (path : String) : Prop
  | kept {made disk' : Disk} (parents : disk.makeParents path = .ok made)
      (put : made.put path s.toText = .ok disk') (written : s.toFile disk path = .ok disk')
      (text : ofText s.toText = .ok s) (read : ofFile disk' path = .ok s)
  | refused {fault : DiskError} (refuses : disk.makeParents path = .error fault ∨
      ∃ made : Disk, disk.makeParents path = .ok made ∧ made.put path s.toText = .error fault)
      (failed : s.toFile disk path = .error (.disk fault))
  | tooLarge {n : Int} (found : n ∈ s.integers)
      (digits : Text.digitLimit < (Nat.toDigits 10 n.natAbs).length)
      (failed : s.toFile disk path = .error (.invalidInteger .unwritable))

/-- Every snapshot that can be written is read as it was written. -/
theorem Snapshot.roundTrip (s : Snapshot) (disk : Disk) (path : String) :
    s.RoundTrip disk path := by
  cases hmade : disk.makeParents path with
  | error fault =>
    refine .refused (.inl hmade) ?_
    rw [toFile, hmade]
    rfl
  | ok made =>
    by_cases hwritable : isWritable s.encode = true
    · cases hput : made.put path s.toText with
      | error fault =>
        refine .refused (.inr ⟨made, hmade, hput⟩) ?_
        rw [toFile, hmade, pretty?, if_pos hwritable]
        change (made.put path s.toText).mapError Failure.disk = _
        rw [hput]
        rfl
      | ok disk' =>
        have written := toFile_eq_ok_iff.mpr ⟨made, hmade, hwritable, hput⟩
        exact .kept hmade hput written (ofText_toText hwritable) (ofFile_of_toFile written)
    · obtain ⟨n, hn, hlarge⟩ : ∃ n ∈ s.integers, ¬ Text.isWritable n = true := by
        rw [isWritable_encode] at hwritable
        push Not at hwritable
        exact hwritable
      refine .tooLarge hn ?_ ?_
      · rw [Text.isWritable, decide_eq_true_eq] at hlarge
        omega
      · rw [toFile, hmade, pretty?, if_neg hwritable]
        rfl

end SchemaMigration
