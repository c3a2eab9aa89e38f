import Mathlib.Data.List.DropRight
import SchemaMigration.Buffer

/-!
Buffers in use. What a buffer holds after any operations can be told from the operations alone: each
of them adds its own fragments at the end, and the prolog comes in one block with the first
statement.
-/

namespace SchemaMigration.Buffer

/-- An operation on a buffer. A statement is never appended as it is, it has to be committed. -/
inductive Operation
  | comment (text : String)
  | blankLine
  | push (line : String)
  | prolog (statement : String)
  | commit (kind : FragmentKind) (text : String)
  | raw (kind : FragmentKind) (text : String) (loose : kind ≠ .statement)
  deriving DecidableEq, Repr

namespace Operation

def isCommit : Operation → Bool
  | commit _ _ => true
  | _ => false

def commitsStatement : Operation → Bool
  | commit .statement _ => true
  | _ => false

def line? : Operation → Option String
  | push line => some (line ++ "\n")
  | _ => none

def prolog? : Operation → Option String
  | prolog statement => some statement
  | _ => none

/-- The fragment of an operation that is neither about statements nor commits anything. -/
def loose? : Operation → Option Fragment
  | comment text => some ⟨.comment, text ++ "\n"⟩
  | blankLine => some ⟨.separator, "\n"⟩
  | raw kind text _ => some ⟨kind, text⟩
  | push _ | prolog _ | commit _ _ => none

end Operation

open Operation

def haveStatement (ops : List Operation) : Bool := ops.any commitsStatement

def prologOf (ops : List Operation) : List String :=
  (ops.takeWhile fun op => !op.commitsStatement).filterMap prolog?

def pendingOf (ops : List Operation) : List String :=
  if haveStatement ops then [] else prologOf ops

def scratchOf (ops : List Operation) : String :=
  String.join ((ops.rtakeWhile fun op => !op.isCommit).filterMap line?)

def separated (separator : String) (kind : FragmentKind) (text : String) : List Fragment :=
  [⟨kind, text⟩, ⟨.separator, separator ++ "\n"⟩]

def added (separator : String) (pending : List String) (scratch : String) :
    Operation → List Fragment
  | .commit kind text =>
    (if kind = .statement then pending.flatMap (separated separator .statement) else []) ++
      separated separator kind (scratch ++ text)
  | op => op.loose?.toList

/-- What operations add to the script, one after the other, after the operations `before` them. -/
def fragmentsOf (separator : String) (before : List Operation) : List Operation → List Fragment
  | [] => []
  | op :: rest =>
    added separator (pendingOf before) (scratchOf before) op ++
      fragmentsOf separator (before ++ [op]) rest

def body? (scratch : String) : Operation → Option String
  | .commit .statement text => some (scratch ++ text)
  | _ => none

def bodyOf (before : List Operation) : List Operation → List String
  | [] => []
  | op :: rest => (body? (scratchOf before) op).toList ++ bodyOf (before ++ [op]) rest

def perform? (b : Buffer) : Operation → Option Buffer
  | .comment text => some (b.comment text)
  | .blankLine => some b.blankLine
  | .push line => some (b.push line)
  | .prolog statement => b.addProlog? statement
  | .commit kind text => some (b.commitAs kind text)
  | .raw kind text _ => some (b.raw kind text)

def perform (b : Buffer) (op : Operation) : Buffer := (b.perform? op).getD b

def after (separator : String) (ops : List Operation) : Buffer :=
  ops.foldl perform (.ofSeparator separator)

def statements (fragments : List Fragment) : List String :=
  (fragments.filter fun f => f.kind == .statement).map Fragment.text

variable {separator : String} {ops before : List Operation} {b : Buffer}

/-! ### What the operations tell -/

theorem after_concat (ops : List Operation) (op : Operation) :
    after separator (ops ++ [op]) = (after separator ops).perform op := by
  simp [after]

theorem fragmentsOf_append (before first second : List Operation) :
    fragmentsOf separator before (first ++ second) =
      fragmentsOf separator before first ++ fragmentsOf separator (before ++ first) second := by
  induction first generalizing before with
  | nil => simp [fragmentsOf]
  | cons op rest ih => simp [fragmentsOf, ih]

theorem bodyOf_append (before first second : List Operation) :
    bodyOf before (first ++ second) = bodyOf before first ++ bodyOf (before ++ first) second := by
  induction first generalizing before with
  | nil => simp [bodyOf]
  | cons op rest ih => simp [bodyOf, ih]

theorem haveStatement_concat (ops : List Operation) (op : Operation) :
    haveStatement (ops ++ [op]) = (haveStatement ops || op.commitsStatement) := by
  simp [haveStatement]

theorem scratchOf_concat (ops : List Operation) (op : Operation) :
    scratchOf (ops ++ [op]) =
      if op.isCommit then "" else scratchOf ops ++ op.line?.getD "" := by
  cases hop : op.isCommit with
  | true => simp [scratchOf, hop, String.join]
  | false => cases hline : op.line? <;> simp [scratchOf, hop, hline, String.join]

/-- The prolog grows as long as there is no statement. -/
theorem prologOf_concat (ops : List Operation) (op : Operation) :
    prologOf (ops ++ [op]) =
      prologOf ops ++ if haveStatement ops then [] else op.prolog?.toList := by
  cases hops : haveStatement ops with
  | true =>
    obtain ⟨x, hx, hcommits⟩ := List.any_eq_true.mp hops
    have stops : (ops ++ [op]).takeWhile (fun x => !x.commitsStatement) =
        ops.takeWhile fun x => !x.commitsStatement := by
      rw [List.takeWhile_append, if_neg]
      intro hlength
      have hall : ops.takeWhile (fun x => !x.commitsStatement) = ops :=
        (List.takeWhile_prefix _).eq_of_length hlength
      have := List.takeWhile_eq_self_iff.mp hall x hx
      simp [hcommits] at this
    simp [prologOf, stops]
  | false =>
    have none : ∀ x ∈ ops, (!x.commitsStatement) = true := by
      simpa [haveStatement] using hops
    have passes : ops.takeWhile (fun x => !x.commitsStatement) = ops :=
      List.takeWhile_eq_self_iff.mpr none
    have last : ([op].takeWhile fun x => !x.commitsStatement).filterMap prolog? =
        op.prolog?.toList := by
      cases op with
      | commit kind text => cases kind <;> rfl
      | _ => rfl
    rw [prologOf, prologOf, List.takeWhile_append_of_pos none, passes, List.filterMap_append, last]
    rfl

theorem body?_eq_none {op : Operation} (h : op.commitsStatement = false) (scratch : String) :
    body? scratch op = none := by
  cases op with
  | commit kind text =>
    cases kind with
    | statement => cases h
    | _ => rfl
  | _ => rfl

theorem bodyOf_eq_nil (h : haveStatement ops = false) : bodyOf before ops = [] := by
  induction ops generalizing before with
  | nil => rfl
  | cons op rest ih =>
    obtain ⟨hop, hrest⟩ : op.commitsStatement = false ∧ haveStatement rest = false := by
      simpa [haveStatement] using h
    rw [bodyOf, body?_eq_none hop, ih hrest]
    rfl

/-! ### One operation -/

theorem separator_perform (b : Buffer) (op : Operation) :
    (b.perform op).separator = b.separator := by
  cases op with
  | prolog statement => cases h : b.hasStatement <;> simp [perform, perform?, addProlog?, h]
  | commit kind text => cases kind <;> rfl
  | _ => rfl

theorem scratch_perform (b : Buffer) (op : Operation) :
    (b.perform op).scratch = if op.isCommit then "" else b.scratch ++ op.line?.getD "" := by
  cases op with
  | push line => exact String.append_assoc
  | prolog statement =>
    cases h : b.hasStatement <;> simp [perform, perform?, addProlog?, h, isCommit, line?]
  | commit kind text => rfl
  | _ => exact String.append_empty.symm

theorem prolog_perform (b : Buffer) (op : Operation) :
    (b.perform op).prolog = if op.commitsStatement then []
      else b.prolog ++ if b.hasStatement then [] else op.prolog?.toList := by
  cases op with
  | prolog statement =>
    cases h : b.hasStatement <;>
      simp [perform, perform?, addProlog?, h, commitsStatement, prolog?]
  | commit kind text =>
    cases kind <;> simp [perform, perform?, commitAs, commitsStatement, prolog?, flushProlog]
  | _ => simp [perform, perform?, commitsStatement, prolog?, comment, blankLine, push, raw, append]

theorem fragments_perform (b : Buffer) (op : Operation) :
    (b.perform op).fragments = b.fragments ++ added b.separator b.prolog b.scratch op := by
  cases op with
  | prolog statement =>
    cases h : b.hasStatement <;> simp [perform, perform?, addProlog?, h, added, loose?]
  | commit kind text =>
    cases kind with
    | statement => exact List.append_assoc ..
    | _ => rfl
  | push line => exact (List.append_nil _).symm
  | _ => rfl

theorem hasStatement_perform (b : Buffer) (op : Operation) :
    (b.perform op).hasStatement = (b.hasStatement || op.commitsStatement) := by
  have adds : (added b.separator b.prolog b.scratch op).any (fun f => f.kind == .statement) =
      op.commitsStatement := by
    cases op with
    | commit kind text => cases kind <;> simp [added, separated, commitsStatement]
    | raw kind text loose => simpa [added, loose?, commitsStatement] using loose
    | _ => rfl
  rw [hasStatement, fragments_perform, List.any_append, adds]
  rfl

structure Follows (separator : String) (ops : List Operation) (b : Buffer) : Prop where
  ends : b.separator = separator
  scratch : b.scratch = scratchOf ops
  prolog : b.prolog = pendingOf ops
  hasStatement : b.hasStatement = haveStatement ops
  fragments : b.fragments = fragmentsOf separator [] ops

theorem Follows.perform (h : Follows separator ops b) (op : Operation) :
    Follows separator (ops ++ [op]) (b.perform op) where
  ends := (separator_perform b op).trans h.ends
  scratch := by rw [scratch_perform, scratchOf_concat, h.scratch]
  prolog := by
    rw [prolog_perform, h.prolog, h.hasStatement, pendingOf, pendingOf, haveStatement_concat,
      prologOf_concat]
    cases haveStatement ops <;> cases op.commitsStatement <;> simp
  hasStatement := by rw [hasStatement_perform, haveStatement_concat, h.hasStatement]
  fragments := by
    rw [fragments_perform, fragmentsOf_append, h.fragments, h.ends, h.prolog, h.scratch]
    simp [fragmentsOf]

theorem follows_after (separator : String) (ops : List Operation) :
    Follows separator ops (after separator ops) := by
  induction ops using List.reverseRecOn with
  | nil => exact ⟨rfl, rfl, rfl, rfl, rfl⟩
  | append_singleton ops op ih =>
    rw [after_concat]
    exact ih.perform op

/-! ### A whole script -/

theorem statements_append (first second : List Fragment) :
    statements (first ++ second) = statements first ++ statements second := by
  simp [statements]

theorem statements_separated (separator : String) (texts : List String) :
    statements (texts.flatMap (separated separator .statement)) = texts := by
  induction texts with
  | nil => rfl
  | cons text rest ih =>
    rw [List.flatMap_cons, statements_append, ih]
    rfl

theorem statements_added (separator : String) (pending : List String) (scratch : String)
    (op : Operation) : statements (added separator pending scratch op) =
      if op.commitsStatement then pending ++ (body? scratch op).toList else [] := by
  cases op with
  | commit kind text =>
    cases kind with
    | statement =>
      have own : statements (separated separator .statement (scratch ++ text)) =
          [scratch ++ text] := rfl
      simp [added, statements_append, statements_separated, own, commitsStatement, body?]
    | _ => rfl
  | raw kind text loose => simp [added, loose?, statements, loose, commitsStatement]
  | _ => rfl

/-- The statements are the prolog and what was committed, once there is a statement at all. -/
theorem statements_fragmentsOf (separator : String) (ops : List Operation) :
    statements (fragmentsOf separator [] ops) =
      if haveStatement ops then prologOf ops ++ bodyOf [] ops else [] := by
  induction ops using List.reverseRecOn with
  | nil => rfl
  | append_singleton ops op ih =>
    have last : bodyOf ops [op] = (body? (scratchOf ops) op).toList := List.append_nil _
    rw [fragmentsOf_append, statements_append, ih, bodyOf_append, haveStatement_concat,
      prologOf_concat]
    simp only [List.nil_append, fragmentsOf, List.append_nil, statements_added, last, pendingOf]
    cases hop : op.commitsStatement <;> cases hops : haveStatement ops
    · simp
    · simp [body?_eq_none hop]
    · have noLine : op.prolog? = none := by
        cases op with
        | prolog => cases hop
        | _ => rfl
      simp [bodyOf_eq_nil hops, noLine]
    · simp

def Separated (separator : String) (fragments : List Fragment) : Prop :=
  ∀ i f, fragments[i]? = some f → f.kind = .statement →
    fragments[i + 1]? = some ⟨.separator, separator ++ "\n"⟩

theorem Separated.append {first second : List Fragment} (hf : Separated separator first)
    (hs : Separated separator second) : Separated separator (first ++ second) := by
  intro i f hi hkind
  by_cases h : i < first.length
  · have := hf i f (by rwa [List.getElem?_append_left h] at hi) hkind
    have inside : i + 1 < first.length := (List.getElem?_eq_some_iff.mp this).1
    rwa [List.getElem?_append_left inside]
  · have later : first.length ≤ i := Nat.le_of_not_lt h
    rw [List.getElem?_append_right later] at hi
    rw [List.getElem?_append_right (by omega), Nat.sub_add_comm later]
    exact hs _ f hi hkind

theorem Separated.of_loose {fragments : List Fragment}
    (h : ∀ f ∈ fragments, f.kind ≠ .statement) : Separated separator fragments :=
  fun _ f hi hkind => absurd hkind (h f (List.mem_of_getElem? hi))

theorem separated_separated (separator : String) (kind : FragmentKind) (text : String) :
    Separated separator (separated separator kind text) := by
  intro i f hi hkind
  match i with
  | 0 => rfl
  | 1 =>
    cases hi
    cases hkind
  | i + 2 => cases hi

theorem separated_added (separator : String) (pending : List String) (scratch : String)
    (op : Operation) : Separated separator (added separator pending scratch op) := by
  cases op with
  | commit kind text =>
    refine .append ?_ (separated_separated separator kind _)
    split
    · induction pending with
      | nil => exact .of_loose (by simp)
      | cons text rest ih => exact (separated_separated separator .statement text).append ih
    · exact .of_loose (by simp)
  | raw kind text loose => exact .of_loose (by simp [added, loose?, loose])
  | _ => exact .of_loose (by simp [added, loose?])

theorem separated_fragmentsOf (separator : String) (before ops : List Operation) :
    Separated separator (fragmentsOf separator before ops) := by
  induction ops generalizing before with
  | nil => exact .of_loose (by simp [fragmentsOf])
  | cons op rest ih => exact (separated_added separator _ _ op).append (ih _)

theorem haveStatement_iff : haveStatement ops = true ↔ ∃ text, .commit .statement text ∈ ops := by
  constructor
  · intro h
    obtain ⟨op, hop, hcommits⟩ := List.any_eq_true.mp h
    cases op with
    | commit kind text =>
      cases kind with
      | statement => exact ⟨text, hop⟩
      | _ => cases hcommits
    | _ => cases hcommits
  · rintro ⟨text, hop⟩
    exact List.any_eq_true.mpr ⟨_, hop, rfl⟩

theorem perform?_eq_none_iff {op : Operation} :
    b.perform? op = none ↔ b.hasStatement = true ∧ ∃ statement, op = .prolog statement := by
  cases op with
  | prolog statement => simp [perform?, addProlog?]
  | _ => simp [perform?]

theorem loose_sublist (separator : String) (before ops : List Operation) :
    (ops.filterMap loose?).Sublist (fragmentsOf separator before ops) := by
  induction ops generalizing before with
  | nil => exact .slnil
  | cons op rest ih =>
    rw [List.filterMap_cons, fragmentsOf]
    cases hop : op.loose? with
    | none => exact (ih _).trans (List.sublist_append_right ..)
    | some f =>
      have own : added separator (pendingOf before) (scratchOf before) op = [f] := by
        cases op with
        | commit kind text => cases hop
        | _ => simp [added, hop]
      rw [own]
      exact (ih _).cons_cons f

structure Protocol (separator : String) (ops : List Operation) : Prop where
  refuses : ∀ op, (after separator ops).perform? op = none ↔
    (∃ text, .commit .statement text ∈ ops) ∧ ∃ statement, op = .prolog statement
  unchanged : ∀ op, (after separator ops).perform? op = none →
    after separator (ops ++ [op]) = after separator ops
  statements : statements (after separator ops).fragments =
    if haveStatement ops then prologOf ops ++ bodyOf [] ops else []
  commits : ∀ before kind text rest, ops = before ++ .commit kind text :: rest →
    ∃ later, (after separator ops).fragments =
        (after separator before).fragments ++
          (if kind = .statement ∧ haveStatement before = false
            then (prologOf before).flatMap (separated separator .statement) else []) ++
          separated separator kind (scratchOf before ++ text) ++ later ∧
      (haveStatement before = false →
        ∀ f ∈ (after separator before).fragments, f.kind ≠ .statement)
  separated : Separated separator (after separator ops).fragments
  loose : (ops.filterMap loose?).Sublist (after separator ops).fragments
  fragments : (after separator ops).fragments = fragmentsOf separator [] ops

/-- A buffer keeps its promises whatever is done to it. -/
theorem operations_keep_protocol (separator : String) (ops : List Operation) :
    Protocol separator ops where
  refuses op := by
    rw [perform?_eq_none_iff, (follows_after separator ops).hasStatement, haveStatement_iff]
  unchanged op h := by
    rw [after_concat, perform, h]
    rfl
  statements := by rw [(follows_after separator ops).fragments, statements_fragmentsOf]
  commits before kind text rest hops := by
    refine ⟨fragmentsOf separator (before ++ [.commit kind text]) rest, ?_, ?_⟩
    · rw [(follows_after separator ops).fragments, (follows_after separator before).fragments, hops,
        fragmentsOf_append, fragmentsOf]
      cases hs : haveStatement before <;> simp [added, pendingOf, hs]
    · intro hnone f hf hkind
      have quiet : Buffer.statements (after separator before).fragments = [] := by
        rw [(follows_after separator before).fragments, statements_fragmentsOf, hnone]
        rfl
      simp only [Buffer.statements, List.map_eq_nil_iff, List.filter_eq_nil_iff] at quiet
      exact quiet f hf (by simp [hkind])
  separated := by
    rw [(follows_after separator ops).fragments]
    exact separated_fragmentsOf separator [] ops
  loose := by
    rw [(follows_after separator ops).fragments]
    exact loose_sublist separator [] ops
  fragments := (follows_after separator ops).fragments

example :
    (after ";" [.prolog "A", .push "x", .commit .comment "y", .push "B", .commit .statement "C",
      .prolog "D"]).fragments =
      [⟨.comment, "x\ny"⟩, ⟨.separator, ";\n"⟩, ⟨.statement, "A"⟩, ⟨.separator, ";\n"⟩,
        ⟨.statement, "B\nC"⟩, ⟨.separator, ";\n"⟩] := by
  decide

end SchemaMigration.Buffer
