/-
  CatalogIndex.Proofs.Cascade.InheritedMarks — copies in children are marked.

  A child tells the copy of a pointer that it took over from its parent from a value of its own by the mark
  `inherited` alone.  So every owner and every domain that a script writes into children has to carry it.

  Owners always do: whatever a change says about them, the script carries the owners of the entity itself.
  The domain comes from the change.  Of several entries for it, the last one that is updated or added
  counts.  If it can be read as a pointer it is marked; for an updated domain, that takes the old value as
  well as the new one.  Otherwise the new value is assigned as it is, and if it is a pointer all the same,
  it stays unmarked.

  ## Main definitions

    * `Script.MarksCopies` — what the script writes for owners and domain is marked;
    * `domainReads` — the entries for the domain, and what they are read as.

  ## Main results

    * `ownersOf_collected` — the owners in a script are those of the entity;
    * `DomainRun.foldl` — the last entry for the domain counts;
    * `marks_copies_iff` — copies are marked, up to one kind of domain;
    * `unread_domain_unmarked` — a domain of that kind.
-/
import CatalogIndex.Proofs.Cascade.InheritedFields
import CatalogIndex.Proofs.Entity.Written

namespace CatalogIndex

/-! ## §1. What a script writes. -/

/-- The field that an operation puts the parameter of its name into. -/
def ScriptOp.assigned? : ScriptOp → Option String
  | .propagateField field | .propagateReference field | .updatePropagatedReference field => some field
  | _ => none

/-- The parameters that hold owners which documents get. -/
def ownerParams : List String := ["updatedOwners", "remainingOwners"]

/-- If the value is a reference, it is marked as a copy. -/
def MarkedIfReference (v : Json) : Prop :=
  ∀ r, readValue EntityReference.decode? v = .ok r → r.inherited = some true

theorem markedIfReference_asInherited (r : EntityReference) : MarkedIfReference r.asInherited.toJson := by
  intro read hread
  rw [EntityReference.readValue_toJson] at hread
  cases hread
  rfl

namespace Script

variable {s : Script} {field key : String}

/-- The script puts a value into the field. -/
def Assigns (s : Script) (field : String) : Prop := ∃ op ∈ s.ops, op.assigned? = some field

/-- **Copies are marked.**  The owners that documents get can be read, and carry the mark; a domain that
    documents get is there, and carries the mark if it is a reference. -/
structure MarksCopies (s : Script) : Prop where
  owners : ∀ key ∈ ownerParams, ∀ v, Keyed.get? s.params key = some v →
    ∃ owners, readValue (Source.listOf? EntityReference.decode?) v = .ok owners
      ∧ ∀ owner ∈ owners, owner.inherited = some true
  domain : s.Assigns "domain" → ∃ v, Keyed.get? s.params "domain" = some v ∧ MarkedIfReference v

@[simp] theorem assigns_push (op : ScriptOp) :
    (s.push op).Assigns field ↔ s.Assigns field ∨ op.assigned? = some field := by
  simp [Assigns, push, or_and_right, exists_or]

@[simp] theorem assigns_setParam (value : Json) :
    (s.setParam key value).Assigns field ↔ s.Assigns field := Iff.rfl

@[simp] theorem params_push (op : ScriptOp) : (s.push op).params = s.params := rfl

theorem get?_setParam (key other : String) (value : Json) :
    Keyed.get? (s.setParam key value).params other
      = if other = key then some value else Keyed.get? s.params other :=
  Keyed.get?_insert s.params key other value

theorem not_assigns_start (field : String) : ¬ ({} : Script).Assigns field := by
  intro h
  obtain ⟨op, hop, -⟩ := h
  cases hop

end Script

/-- The mark is written for every owner, and read back. -/
theorem readValue_inheritedOwners (e : Entity) :
    readValue (Source.listOf? EntityReference.decode?) (inheritedOwners e)
      = .ok (e.owners.map EntityReference.asInherited) := by
  have hform : inheritedOwners e
      = .arr ((e.owners.map EntityReference.asInherited).map EntityReference.toJson) := by
    rw [List.map_map]
    rfl
  rw [hform]
  exact readValue_list fun r _ => r.decode?_written

namespace InheritedUpdate

variable {e : Entity} {s : Script} {f : FieldChange} {c : ChangeDescription}

/-! ## §2. Owners. -/

/-- Owners that the script carries for documents are those of the entity, marked. -/
def OwnersOf (e : Entity) (s : Script) : Prop :=
  ∀ key ∈ ownerParams, ∀ v, Keyed.get? s.params key = some v → v = inheritedOwners e

theorem OwnersOf.setParam {key : String} {value : Json} (h : OwnersOf e s)
    (hkey : key ∈ ownerParams → value = inheritedOwners e) : OwnersOf e (s.setParam key value) := by
  intro other hother v hv
  rw [Script.get?_setParam] at hv
  by_cases heq : other = key
  · rw [if_pos heq] at hv
    cases hv
    exact hkey (heq ▸ hother)
  · rw [if_neg heq] at hv
    exact h other hother v hv

theorem OwnersOf.push (h : OwnersOf e s) (op : ScriptOp) : OwnersOf e (s.push op) := h

/-- No field that children copy has a name that its parameters share with the owners. -/
theorem notMem_ownerParams (hf : isInheritable f.name = true) :
    f.name ∉ ownerParams ∧ f.name ++ "BeforeUpdate" ∉ ownerParams := by
  have hall : ∀ name ∈ inheritableFields,
      name ∉ ownerParams ∧ name ++ "BeforeUpdate" ∉ ownerParams := by decide
  exact hall f.name (List.contains_iff_mem.1 hf)

theorem ownersOf_assign {entityType : String} (hf : isInheritable f.name = true) (h : OwnersOf e s) :
    OwnersOf e (assign entityType s f) := by
  have hname := (notMem_ownerParams hf).1
  unfold assign
  split
  · exact (h.push _).setParam fun hkey => absurd hkey (by decide)
  · split
    · exact (h.push _).setParam fun hkey => absurd hkey hname
    · exact (h.push _).setParam fun hkey => absurd hkey hname

theorem ownersOf_setOwners (h : OwnersOf e s) : OwnersOf e (setOwners e s) :=
  (h.push _).setParam fun _ => rfl

theorem ownersOf_deleted (hf : isInheritable f.name = true) (h : OwnersOf e s) :
    OwnersOf e (deleted e s f) := by
  unfold deleted
  split
  · exact ((h.push _).setParam fun hkey => absurd hkey (by decide)).setParam fun _ => rfl
  · split
    · exact (h.push _).setParam fun hkey => absurd hkey (notMem_ownerParams hf).1
    · exact h.push _

theorem ownersOf_updated (hf : isInheritable f.name = true) (h : OwnersOf e s) :
    OwnersOf e (updated e s f) := by
  obtain ⟨hname, hbefore⟩ := notMem_ownerParams hf
  unfold updated
  split
  · exact ownersOf_setOwners h
  · split
    · exact ((h.push _).setParam fun hkey => absurd hkey hbefore).setParam fun hkey => absurd hkey hname
    · exact ownersOf_assign hf h

theorem ownersOf_added (hf : isInheritable f.name = true) (h : OwnersOf e s) :
    OwnersOf e (added e s f) := by
  unfold added
  split
  · exact ownersOf_setOwners h
  · split
    · exact (h.push _).setParam fun hkey => absurd hkey (notMem_ownerParams hf).1
    · exact ownersOf_assign hf h

/-- **Owners come from the entity**, whatever the change says about them. -/
theorem ownersOf_collected (c : ChangeDescription) (e : Entity) : OwnersOf e (collected c e) := by
  have hstart : OwnersOf e {} := by
    intro key _ v hv
    cases hv
  exact keeps_collected hstart (fun _ _ => ownersOf_deleted) (fun _ _ => ownersOf_updated)
    (fun _ _ => ownersOf_added)

/-! ## §3. The domain of a step. -/

/-- What an updated field is read as.  Both of its values have to be references. -/
def updatedReference (f : FieldChange) : Outcome EntityReference := do
  let _ ← f.oldAs EntityReference.decode?
  f.newAs EntityReference.decode?

/-- What an added field is read as. -/
def addedReference (f : FieldChange) : Outcome EntityReference := f.newAs EntityReference.decode?

/-- What children get: the marked reference, or the new value as it is. -/
def passedOn (f : FieldChange) : Outcome EntityReference → Json
  | .ok reference => reference.asInherited.toJson
  | .error _ => plainValue f.newValue

/-- The script gives children the value if the field is the domain; another field leaves the domain of
    the script alone. -/
structure GivesDomain (f : FieldChange) (v : Json) (s s' : Script) : Prop where
  assigns : s'.Assigns "domain" ↔ s.Assigns "domain" ∨ f.name = "domain"
  param : Keyed.get? s'.params "domain"
    = if f.name = "domain" then some v else Keyed.get? s.params "domain"

theorem givesDomain_assign (entityType : String) (s : Script) (f : FieldChange) :
    GivesDomain f (plainValue f.newValue) s (assign entityType s f) := by
  unfold assign
  by_cases hsuites : f.name = "testSuites"
  · rw [if_pos hsuites]
    constructor
    · simp [ScriptOp.assigned?, hsuites]
    · simp [Script.get?_setParam, hsuites]
  · rw [if_neg hsuites]
    by_cases hshown : f.name = "displayName"
    · rw [if_pos hshown]
      constructor
      · simp [ScriptOp.assigned?, hshown]
      · simp [Script.get?_setParam, hshown]
    · rw [if_neg hshown]
      constructor
      · simp [ScriptOp.assigned?]
      · simp [Script.get?_setParam, eq_comm]

theorem givesDomain_setOwners (hname : f.name = "owners") (v : Json) :
    GivesDomain f v s (setOwners e s) := by
  constructor
  · simp [setOwners, ScriptOp.assigned?, hname]
  · simp [setOwners, Script.get?_setParam, hname]

/-- The value before an update goes into another parameter than the domain. -/
theorem domain_ne_beforeUpdate (name : String) : "domain" ≠ name ++ "BeforeUpdate" := by
  intro h
  have hlength := congrArg String.length h
  rw [String.length_append] at hlength
  have hdomain : "domain".length = 6 := by decide
  have hbefore : "BeforeUpdate".length = 12 := by decide
  omega

/-- An updated field is marked only if both of its values can be read. -/
theorem givesDomain_updated (e : Entity) (s : Script) (f : FieldChange) :
    GivesDomain f (passedOn f (updatedReference f)) s (updated e s f) := by
  unfold updated
  by_cases hname : f.name = "owners"
  · rw [if_pos hname]
    exact givesDomain_setOwners hname _
  · rw [if_neg hname]
    unfold updatedReference
    cases f.oldAs EntityReference.decode? with
    | error _ => exact givesDomain_assign _ s f
    | ok before =>
      cases f.newAs EntityReference.decode? with
      | error _ => exact givesDomain_assign _ s f
      | ok after =>
        constructor
        · simp [ScriptOp.assigned?]
        · simp [Script.get?_setParam, domain_ne_beforeUpdate, passedOn, bind, Except.bind, eq_comm]

/-- An added field needs its new value only. -/
theorem givesDomain_added (e : Entity) (s : Script) (f : FieldChange) :
    GivesDomain f (passedOn f (addedReference f)) s (added e s f) := by
  unfold added
  by_cases hname : f.name = "owners"
  · rw [if_pos hname]
    exact givesDomain_setOwners hname _
  · rw [if_neg hname]
    unfold addedReference
    cases f.newAs EntityReference.decode? with
    | error _ => exact givesDomain_assign _ s f
    | ok reference =>
      constructor
      · simp [ScriptOp.assigned?]
      · simp [Script.get?_setParam, passedOn, eq_comm]

/-- A deleted field takes a domain away, and gives none. -/
theorem assigns_deleted (e : Entity) (s : Script) (f : FieldChange) :
    (deleted e s f).Assigns "domain" ↔ s.Assigns "domain" := by
  unfold deleted
  split
  · simp [ScriptOp.assigned?]
  · split
    · simp [ScriptOp.assigned?]
    · simp [ScriptOp.assigned?]

/-! ## §4. The domain of a run. -/

/-- The entries for the domain in a list of fields, and what they are read as. -/
def domainEntries (read : FieldChange → Outcome EntityReference) (fields : List FieldChange) :
    List (FieldChange × Outcome EntityReference) :=
  (fields.filter (·.name == "domain")).map fun f => (f, read f)

/-- The entries that give children a domain, in the order of the script: updated ones, then added ones. -/
def domainReads (c : ChangeDescription) : List (FieldChange × Outcome EntityReference) :=
  domainEntries updatedReference c.fieldsUpdated ++ domainEntries addedReference c.fieldsAdded

/-- After the given entries the script puts a domain into children if there is one, and it is the last. -/
structure DomainRun (entries : List (FieldChange × Outcome EntityReference)) (s s' : Script) : Prop where
  assigns : s'.Assigns "domain" ↔ s.Assigns "domain" ∨ entries ≠ []
  param : Keyed.get? s'.params "domain"
    = (entries.getLast?.map fun entry => passedOn entry.1 entry.2).or (Keyed.get? s.params "domain")

/-- Of two runs one after the other, the entries of the second one count first. -/
theorem DomainRun.trans {entries entries' : List (FieldChange × Outcome EntityReference)}
    {s s' s'' : Script} (h : DomainRun entries s s') (h' : DomainRun entries' s' s'') :
    DomainRun (entries ++ entries') s s'' := by
  constructor
  · rw [h'.assigns, h.assigns, or_assoc]
    simp only [ne_eq, List.append_eq_nil_iff, Decidable.not_and_iff_not_or_not]
  · rw [h'.param, h.param, List.getLast?_append]
    cases entries'.getLast? <;> rfl

/-- **The last entry counts.** -/
theorem DomainRun.foldl {read : FieldChange → Outcome EntityReference}
    {step : Script → FieldChange → Script}
    (hstep : ∀ s f, GivesDomain f (passedOn f (read f)) s (step s f)) (fields : List FieldChange)
    (s : Script) : DomainRun (domainEntries read fields) s (fields.foldl step s) := by
  induction fields generalizing s with
  | nil => exact ⟨by simp [domainEntries], by simp [domainEntries]⟩
  | cons f rest ih =>
    obtain ⟨hassigns, hparam⟩ := ih (step s f)
    rw [(hstep s f).assigns] at hassigns
    rw [(hstep s f).param] at hparam
    by_cases hname : f.name = "domain"
    · have hentries : domainEntries read (f :: rest) = (f, read f) :: domainEntries read rest := by
        simp [domainEntries, hname]
      rw [hentries]
      rw [if_pos hname] at hparam
      refine ⟨?_, ?_⟩
      · rw [List.foldl_cons, hassigns]
        simp [hname]
      · -- later entries cover this one
        rw [List.foldl_cons, hparam, List.getLast?_cons]
        cases (domainEntries read rest).getLast? <;> rfl
    · have hentries : domainEntries read (f :: rest) = domainEntries read rest := by
        simp [domainEntries, hname]
      rw [hentries]
      rw [if_neg hname] at hparam
      refine ⟨?_, hparam⟩
      rw [List.foldl_cons, hassigns]
      simp [hname]

/-- Leaving out fields that children do not copy leaves the domain in. -/
theorem domainEntries_relevant (read : FieldChange → Outcome EntityReference)
    (fields : List FieldChange) : domainEntries read (relevant fields) = domainEntries read fields := by
  have hdomain : isInheritable "domain" = true := by decide
  unfold domainEntries relevant
  rw [List.filter_filter]
  congr 1
  refine List.filter_congr fun f _ => ?_
  by_cases hname : f.name = "domain"
  · simp [hname, hdomain]
  · simp [hname]

/-- The domain of a script is that of the last entry; deleted fields give none. -/
theorem domainRun_collected (c : ChangeDescription) (e : Entity) :
    ∃ s, ¬ s.Assigns "domain" ∧ DomainRun (domainReads c) s (collected c e) := by
  have hgone : ¬ ((relevant c.fieldsDeleted).foldl (deleted e) {}).Assigns "domain" :=
    keeps_foldl (P := fun s => ¬ s.Assigns "domain")
      (fun s f _ hs hassigns => hs ((assigns_deleted e s f).1 hassigns)) c.fieldsDeleted
      (Script.not_assigns_start "domain")
  have hupdated := DomainRun.foldl (givesDomain_updated e) (relevant c.fieldsUpdated)
    ((relevant c.fieldsDeleted).foldl (deleted e) {})
  have hadded := DomainRun.foldl (givesDomain_added e) (relevant c.fieldsAdded)
    ((relevant c.fieldsUpdated).foldl (updated e) ((relevant c.fieldsDeleted).foldl (deleted e) {}))
  rw [domainEntries_relevant] at hupdated hadded
  exact ⟨_, hgone, hupdated.trans hadded⟩

/-! ## §5. Marks. -/

theorem readValue_owners_of {key : String} {v : Json} (hkey : key ∈ ownerParams)
    (hv : Keyed.get? (of c e).script.params key = some v) :
    readValue (Source.listOf? EntityReference.decode?) v
      = .ok (e.owners.map EntityReference.asInherited) := by
  rw [ownersOf_collected c e key hkey v hv]
  exact readValue_inheritedOwners e

/-- Dropping repeated operations neither adds nor takes away that a domain is given. -/
theorem assigns_domain_of : (of c e).script.Assigns "domain" ↔ domainReads c ≠ [] := by
  obtain ⟨s, hs, hrun⟩ := domainRun_collected c e
  have hcollected := hrun.assigns
  rw [or_iff_right hs] at hcollected
  rw [script_of, ← hcollected]
  simp [Script.Assigns, mem_dropRepeats]

theorem get?_domain_of {reference : Outcome EntityReference}
    (hlast : (domainReads c).getLast? = some (f, reference)) :
    Keyed.get? (of c e).script.params "domain" = some (passedOn f reference) := by
  obtain ⟨s, -, hrun⟩ := domainRun_collected c e
  rw [script_of, hrun.param, hlast]
  rfl

end InheritedUpdate

open InheritedUpdate

/-- **Copies in children are marked, up to one kind of domain.**  The owners that a script carries are
    those of the entity, each with the mark.  All copies are marked exactly if the last entry that gives
    children a domain was read as a reference, or its new value is no reference without a mark. -/
theorem marks_copies_iff (c : ChangeDescription) (e : Entity) :
    (∀ key ∈ ownerParams, ∀ v, Keyed.get? (InheritedUpdate.of c e).script.params key = some v →
        readValue (Source.listOf? EntityReference.decode?) v
          = .ok (e.owners.map EntityReference.asInherited))
      ∧ ((InheritedUpdate.of c e).script.MarksCopies ↔
          ∀ f error, (domainReads c).getLast? = some (f, .error error) →
            MarkedIfReference (plainValue f.newValue)) := by
  refine ⟨fun key hkey v hv => readValue_owners_of hkey hv, ?_, ?_⟩
  · intro hmarks f error hlast
    have hsome : domainReads c ≠ [] := by
      intro hnil
      rw [hnil] at hlast
      cases hlast
    obtain ⟨v, hv, hmarked⟩ := hmarks.domain (assigns_domain_of.2 hsome)
    rw [get?_domain_of hlast] at hv
    cases hv
    exact hmarked
  · intro hlast
    constructor
    · intro key hkey v hv
      refine ⟨_, readValue_owners_of hkey hv, ?_⟩
      intro owner howner
      obtain ⟨r, -, hr⟩ := List.mem_map.1 howner
      rw [← hr]
      rfl
    · intro hassigned
      cases hentry : (domainReads c).getLast? with
      | none => exact absurd (List.getLast?_eq_none_iff.1 hentry) (assigns_domain_of.1 hassigned)
      | some entry =>
        obtain ⟨f, reference⟩ := entry
        refine ⟨passedOn f reference, get?_domain_of hentry, ?_⟩
        cases reference with
        | ok r => exact markedIfReference_asInherited r
        | error error => exact hlast f error hentry

/-- The reference to a domain. -/
def finance : EntityReference where
  id := ⟨1⟩
  entityType := "domain"
  name := some "Finance"

/-- A domain that was a mere name before the change, and is a reference now. -/
def unreadDomain : ChangeDescription where
  fieldsUpdated :=
    [{ name := "domain", oldValue := some (.str "Sales"), newValue := some finance.toJson }]

/-- A table whose domain changed in this way. -/
def redomainedTable : Entity where
  id := .nil
  entityType := "table"
  name := "orders"
  fullyQualifiedName := "svc.db.orders"
  version := .zero
  updatedAt := 1
  change := some unreadDomain

/-- What is below the table gets the domain without a mark. -/
theorem unread_domain_unmarked :
    ¬ (InheritedUpdate.of unreadDomain redomainedTable).script.MarksCopies := by
  intro hmarks
  have hop : (InheritedUpdate.of unreadDomain redomainedTable).script.ops
      = [.propagateField "domain"] := by decide +kernel
  have hparam : Keyed.get? (InheritedUpdate.of unreadDomain redomainedTable).script.params "domain"
      = some finance.toJson := by decide +kernel
  obtain ⟨v, hv, hmarked⟩ := hmarks.domain ⟨.propagateField "domain", by simp [hop], rfl⟩
  rw [hparam] at hv
  cases hv
  have hmark : finance.inherited = some true := hmarked finance finance.readValue_toJson
  cases hmark

end CatalogIndex
