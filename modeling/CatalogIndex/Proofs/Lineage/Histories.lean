/-
  CatalogIndex.Proofs.Lineage.Histories — walks whose searches are answered by anything at all.

  The index may change while a walk is under way: the same search may give other documents the next time,
  or fail.  What answers the searches is therefore a service with a state of its own, of which nothing is
  known.  A walk keeps a record of the searches that it has made, with the answers; the record is there
  for a failed walk, too.

  What a walk ensures is proved along its steps.  A statement about a step says what holds of the record
  before it, what holds of the result and the record if it succeeds, and what holds of the record if it
  fails.

  ## Main definitions

    * `Service`, `Asking` — what answers searches, and programs that make them;
    * `run` — the result of a program, and the searches that it has made;
    * `Ensures` — what a program ensures.

  ## Main results

    * `ensures_pure`, `ensures_bind`, `ensures_ask`, `ensures_foldlM` — the steps of a program;
    * `Ensures.ok`, `Ensures.made` — what a whole run ends with.
-/
import CatalogIndex.Error
import CatalogIndex.Lineage.Traversal

namespace CatalogIndex.Lineage

variable {σ α β : Type}

/-! ## §1. Programs that search. -/

/-- What answers searches.  An answer may depend on the searches before. -/
abbrev Service (σ : Type) := Query → σ → Outcome (List Fields) × σ

/-- A search and its answer. -/
structure Search where
  query : Query
  answer : Outcome (List Fields)

/-- What has happened: the state of the service, and the searches that were made. -/
structure History (σ : Type) where
  state : σ
  made : List Search := []

/-- Programs that search, and may fail. -/
abbrev Asking (σ : Type) := ExceptT Error (StateM (History σ))

/-- Makes a search. -/
def ask (service : Service σ) (q : Query) : Asking σ (List Fields) := fun h =>
  ((service q h.state).1,
    { state := (service q h.state).2, made := h.made ++ [⟨q, (service q h.state).1⟩] })

/-- The result of a program, and the searches that it has made. -/
def run (program : Asking σ α) (state : σ) : Outcome α × List Search :=
  ((program { state }).1, (program { state }).2.made)

/-! ## §2. What a program ensures. -/

/-- What holds at the end: of the result and the searches after a success, and of the searches alone
    after a failure. -/
def Ends (Q : α → List Search → Prop) (E : List Search → Prop) : Outcome α → List Search → Prop
  | .ok a, made => Q a made
  | .error _, made => E made

/-- If the searches so far have `P`, the end is as said. -/
def Ensures (P : List Search → Prop) (program : Asking σ α) (Q : α → List Search → Prop)
    (E : List Search → Prop) : Prop :=
  ∀ h : History σ, P h.made → Ends Q E (program h).1 (program h).2.made

variable {P : List Search → Prop} {Q : α → List Search → Prop} {E : List Search → Prop}

/-- A program ensures less from more. -/
theorem Ensures.mono {program : Asking σ α} (h : Ensures P program Q E) {P' E' : List Search → Prop}
    {Q' : α → List Search → Prop} (hP : ∀ made, P' made → P made)
    (hQ : ∀ a made, Q a made → Q' a made) (hE : ∀ made, E made → E' made) :
    Ensures P' program Q' E' := by
  intro history hstart
  have hend := h history (hP _ hstart)
  cases hresult : (program history).1 with
  | error e =>
    rw [hresult] at hend
    exact hE _ hend
  | ok a =>
    rw [hresult] at hend
    exact hQ a _ hend

theorem ensures_pure {a : α} (h : ∀ made, P made → Q a made) :
    Ensures P (pure a : Asking σ α) Q E := fun history hP => h history.made hP

theorem ensures_bind {x : Asking σ α} {f : α → Asking σ β} {R : β → List Search → Prop}
    (hx : Ensures P x Q E) (hf : ∀ a, Ensures (Q a) (f a) R E) : Ensures P (x >>= f) R E := by
  intro history hP
  have hend := hx history hP
  show Ends R E (ExceptT.bindCont f (x history).1 (x history).2).1
    (ExceptT.bindCont f (x history).1 (x history).2).2.made
  cases hresult : (x history).1 with
  | error e =>
    rw [hresult] at hend
    exact hend
  | ok a =>
    rw [hresult] at hend
    exact hf a (x history).2 hend

/-- A search adds itself to the record; of its answer only that is known that it is one. -/
theorem ensures_ask {service : Service σ} {q : Query} {Q : List Fields → List Search → Prop}
    (h : ∀ made, P made → ∀ answer, (∃ state, (service q state).1 = answer) →
      Ends Q E answer (made ++ [⟨q, answer⟩])) :
    Ensures P (ask service q) Q E := fun history hP => h history.made hP _ ⟨history.state, rfl⟩

/-- **What every step of a fold keeps, the fold keeps.** -/
theorem ensures_foldlM {step : β → α → Asking σ β} {I : β → List Search → Prop} {as : List α}
    (hstep : ∀ b, ∀ a ∈ as, Ensures (I b) (step b a) I E) (b : β) :
    Ensures (I b) (as.foldlM step b) I E := by
  -- the invariant of the fold is what each step hands over to the next
  induction as generalizing b with
  | nil => exact ensures_pure fun _ h => h
  | cons a rest ih =>
    rw [List.foldlM_cons]
    refine ensures_bind (hstep b a List.mem_cons_self) fun b' => ?_
    exact ih (fun b a ha => hstep b a (List.mem_cons_of_mem _ ha)) b'

/-! ## §3. Whole runs. -/

/-- What holds after a run that succeeded. -/
theorem Ensures.ok {program : Asking σ α} (h : Ensures (· = []) program Q E) {state : σ} {a : α}
    (ha : (run program state).1 = .ok a) : Q a (run program state).2 := by
  have hend : Ends Q E (run program state).1 (run program state).2 := h { state } rfl
  rwa [ha] at hend

/-- What holds of the searches of a run, whatever it ends with. -/
theorem Ensures.made {program : Asking σ α} {S : List Search → Prop}
    (h : Ensures (· = []) program (fun _ => S) S) (state : σ) : S (run program state).2 := by
  have hend : Ends (fun _ => S) S (run program state).1 (run program state).2 := h { state } rfl
  cases hresult : (run program state).1 <;> rw [hresult] at hend <;> exact hend

end CatalogIndex.Lineage
