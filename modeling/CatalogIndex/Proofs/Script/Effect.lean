/-
  CatalogIndex.Proofs.Script.Effect — what the operations of a script make of a document.

  The cluster carries scripts out, so what an operation does to the fields of a document is a
  definition of its own here.  Each of the operations below is about one field: it reads the field
  and the parameters, and the field gets a new value or goes.  A field that is not there and a field
  that holds `null` are the same to a script.

  A run of a script is taken apart field by field: `run_fields` says that the run succeeds, and what
  it leaves, as soon as that is known for every field on its own.

  ## Main definitions

    * `valueAt` — a field as a script reads it;
    * `ScriptOp.target?`, `ScriptOp.rewritten?` — the field of an operation, and its new value;
    * `Script.patched?` — a document after a script.
-/
import CatalogIndex.Proofs.Keyed
import CatalogIndex.Script.Basic

namespace CatalogIndex

/-! ## §1. Fields as scripts read and write them. -/

/-- The value of a field; a field that is not there reads as `null`. -/
def valueAt (fields : Fields) (key : String) : Json := Json.orNull (Keyed.get? fields key)

/-- The fields with a new value under `key`; `null` drops the key. -/
def putValue (fields : Fields) (key : String) (value : Json) : Fields :=
  if value = .null then Keyed.erase fields key else Keyed.insert fields key value

/-- What does not read as `null` is there. -/
theorem get?_of_valueAt {fields : Fields} {key : String} (h : valueAt fields key ≠ .null) :
    Keyed.get? fields key = some (valueAt fields key) := by
  unfold valueAt at h ⊢
  cases hget : Keyed.get? fields key with
  | none =>
    rw [hget] at h
    exact absurd rfl h
  | some v => rfl

theorem valueAt_eq_of_get? {a b : Fields} {key : String} (h : Keyed.get? a key = Keyed.get? b key) :
    valueAt a key = valueAt b key := by
  unfold valueAt
  rw [h]

/-- What is stored under a key is read there. -/
theorem valueAt_insert_self (fields : Fields) (key : String) (value : Json) :
    valueAt (Keyed.insert fields key value) key = value := by
  simp [valueAt, Json.orNull]

theorem valueAt_putValue (fields : Fields) (key other : String) (value : Json) :
    valueAt (putValue fields key value) other = if other = key then value else valueAt fields other := by
  unfold putValue valueAt
  by_cases hnull : value = .null
  · rw [if_pos hnull, Keyed.get?_erase]
    by_cases hkey : other = key
    · simp [hkey, hnull, Json.orNull]
    · simp [hkey]
  · rw [if_neg hnull, Keyed.get?_insert]
    by_cases hkey : other = key
    · simp [hkey, Json.orNull]
    · simp [hkey]

/-! ## §2. Single operations. -/

/-- The known ids, and behind them each of the given ids that is not there yet. -/
def appendMissing (known ids : List Json) : List Json :=
  ids.foldl (fun acc id => if id ∈ acc then acc else acc ++ [id]) known

namespace ScriptOp

/-- The field that an operation is about, for the operations whose effect is told here. -/
def target? : ScriptOp → Option String
  | .setUpdatedAt => some "updatedAt"
  | .addFollowers | .removeFollowers => some "followers"
  | .replaceField field => some field
  | .removeDomain => some "domain"
  | _ => none

/-- The new value of the field that an operation is about; `none` if the script fails because the
    field or the parameter is not the list that it has to be. -/
def rewritten? (params : Fields) (current : Json) : ScriptOp → Option Json
  | .setUpdatedAt => some (valueAt params "updatedAt")
  | .addFollowers =>
    match current, valueAt params "followers" with
    | .null, .arr ids => some (.arr (appendMissing [] ids))
    | .arr known, .arr ids => some (.arr (appendMissing known ids))
    | _, _ => none
  | .removeFollowers =>
    match current, valueAt params "removedFollowers" with
    | .null, _ => some .null
    | .arr known, .arr ids => some (.arr (known.filter (· ∉ ids)))
    | _, _ => none
  | .replaceField field => some (valueAt params field)
  | .removeDomain => some .null
  | _ => none

/-- The document after an operation. -/
def effect? (params doc : Fields) (op : ScriptOp) : Option Fields := do
  let key ← op.target?
  let value ← op.rewritten? params (valueAt doc key)
  some (putValue doc key value)

end ScriptOp

/-! ## §3. Runs. -/

/-- The document after operations, one after the other. -/
def runOps? (params : Fields) (ops : List ScriptOp) (doc : Fields) : Option Fields :=
  ops.foldlM (fun doc op => op.effect? params doc) doc

/-- The document after a script. -/
def Script.patched? (s : Script) (doc : Fields) : Option Fields := runOps? s.params s.ops doc

/-- What operations make of one field: only those that are about it count. -/
def runField? (params : Fields) (ops : List ScriptOp) (key : String) (current : Json) : Option Json :=
  (ops.filter fun op => op.target? = some key).foldlM (fun v op => op.rewritten? params v) current

theorem runField?_nil (params : Fields) (key : String) (current : Json) :
    runField? params [] key current = some current := rfl

/-- An operation on another field makes no difference. -/
theorem runField?_cons_of_ne {op : ScriptOp} {key : String} (h : op.target? ≠ some key)
    (params : Fields) (ops : List ScriptOp) (current : Json) :
    runField? params (op :: ops) key current = runField? params ops key current := by
  unfold runField?
  rw [List.filter_cons_of_neg (by simpa using h)]

/-- An operation on the field gives it the value from which the others go on. -/
theorem runField?_cons_of_eq {op : ScriptOp} {key : String} (h : op.target? = some key)
    (params : Fields) (ops : List ScriptOp) (current : Json) :
    runField? params (op :: ops) key current
      = (op.rewritten? params current).bind (runField? params ops key) := by
  unfold runField?
  rw [List.filter_cons_of_pos (by simpa using h), List.foldlM_cons]
  rfl

/-- **A run succeeds if it does on every field, and leaves there what it leaves on the field alone.** -/
theorem run_fields {params : Fields} {ops : List ScriptOp} {result : String → Json}
    (htarget : ∀ op ∈ ops, ∃ key, op.target? = some key) {doc : Fields}
    (hfield : ∀ key, runField? params ops key (valueAt doc key) = some (result key)) :
    ∃ after, runOps? params ops doc = some after ∧ ∀ key, valueAt after key = result key := by
  induction ops generalizing doc with
  | nil =>
    refine ⟨doc, rfl, fun key => ?_⟩
    have h := hfield key
    rw [runField?_nil] at h
    exact Option.some.inj h
  | cons op rest ih =>
    obtain ⟨target, hop⟩ := htarget op List.mem_cons_self
    -- the field of the operation gets a value, since the run on that field succeeds
    have hself := hfield target
    rw [runField?_cons_of_eq hop] at hself
    obtain ⟨value, hvalue, hrest⟩ := Option.bind_eq_some_iff.1 hself
    have heffect : op.effect? params doc = some (putValue doc target value) := by
      simp [ScriptOp.effect?, hop, hvalue]
    -- after the operation every field still has a successful run before it
    have hnext : ∀ key,
        runField? params rest key (valueAt (putValue doc target value) key) = some (result key) := by
      intro key
      rw [valueAt_putValue]
      by_cases hkey : key = target
      · subst hkey
        rw [if_pos rfl]
        exact hrest
      · have hother : op.target? ≠ some key := by
          rw [hop]
          exact fun h => hkey (Option.some.inj h).symm
        rw [if_neg hkey, ← runField?_cons_of_ne hother]
        exact hfield key
    obtain ⟨after, hrun, hafter⟩ := ih (fun o ho => htarget o (List.mem_cons_of_mem _ ho)) hnext
    refine ⟨after, ?_, hafter⟩
    unfold runOps? at hrun ⊢
    rw [List.foldlM_cons, heffect]
    exact hrun

/-- A field that no operation is about keeps its value. -/
theorem runField?_of_forall_ne {params : Fields} {ops : List ScriptOp} {key : String}
    (h : ∀ op ∈ ops, op.target? ≠ some key) (current : Json) :
    runField? params ops key current = some current := by
  induction ops with
  | nil => rfl
  | cons op rest ih =>
    rw [runField?_cons_of_ne (h op List.mem_cons_self)]
    exact ih fun o ho => h o (List.mem_cons_of_mem _ ho)

/-- A field to which every operation on it gives the same value has that value in the end, if there
    is such an operation. -/
theorem runField?_of_forall_eq {params : Fields} {ops : List ScriptOp} {key : String} {value : Json}
    (hvalue : ∀ op ∈ ops, op.target? = some key → ∀ v, op.rewritten? params v = some value)
    (hsome : ∃ op ∈ ops, op.target? = some key) (current : Json) :
    runField? params ops key current = some value := by
  induction ops generalizing current with
  | nil =>
    obtain ⟨op, hop, -⟩ := hsome
    cases hop
  | cons op rest ih =>
    have hrest := fun o (ho : o ∈ rest) => hvalue o (List.mem_cons_of_mem _ ho)
    by_cases hop : op.target? = some key
    · rw [runField?_cons_of_eq hop, hvalue op List.mem_cons_self hop current, Option.bind_some]
      by_cases hmore : ∃ o ∈ rest, o.target? = some key
      · exact ih hrest hmore value
      · exact runField?_of_forall_ne (fun o ho h => hmore ⟨o, ho, h⟩) value
    · rw [runField?_cons_of_ne hop]
      obtain ⟨o, ho, htarget⟩ := hsome
      rcases List.mem_cons.1 ho with rfl | ho
      · exact absurd htarget hop
      · exact ih hrest ⟨o, ho, htarget⟩ current

end CatalogIndex
