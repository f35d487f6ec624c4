/-
  CatalogIndex.Proofs.Script.Brackets — the code of scripts is well bracketed.

  Code is put together from trees, and the names that operations hold become part of its text.  A reader of
  brackets goes through a text with a stack of the brackets that it awaits.  A piece of code turns one stack
  into another whatever lies below, and pieces compose: a whole expression or statement leaves every stack as
  it was, provided that none of the names in it has a bracket or a quote of its own.

  ## Main definitions

    * `Text.meet?`, `Text.WellBracketed` — the reader, and the texts that it accepts;
    * `Text.Unmarked` — a text without brackets and single quotes;
    * `Text.Turns` — what a piece of text does to the brackets that are awaited;
    * `Expr.texts`, `Stmt.textsAll` — the texts that code holds;
    * `ScriptOp.names` — the names that an operation brings into its code.

  ## Main results

    * `Engine.Expr.turns_chars`, `Engine.Stmt.turns_charsAll` — code leaves the awaited brackets as they were;
    * `Engine.unmarked_textsAll_body` — the code of an operation holds no marks but those of its names;
    * `Engine.encodeScript_wellBracketed` — the source of a script is well bracketed, and not empty if there
      is an operation.
-/
import CatalogIndex.Engine.Script
import CatalogIndex.Proofs.Keyed
import CatalogIndex.Proofs.Text.Pieces

namespace CatalogIndex

/-! ## §1. Reading brackets. -/

namespace Text

/-- The bracket that closes the one given. -/
def closing? : Char → Option Char
  | '(' => some ')'
  | '[' => some ']'
  | '{' => some '}'
  | _ => none

/-- Meets a character with some closing brackets awaited, the next one first.  A bracket that closes has to
    be the next one. -/
def meet? (awaited : List Char) (c : Char) : Option (List Char) :=
  match closing? c with
  | some closing => some (closing :: awaited)
  | none =>
    if [')', ']', '}'].contains c then if awaited.head? = some c then some awaited.tail else none
    else some awaited

/-- Every bracket closes the last one that is open, and in the end none is open. -/
def WellBracketed (cs : List Char) : Prop := cs.foldlM meet? [] = some []

instance (cs : List Char) : Decidable (WellBracketed cs) :=
  inferInstanceAs (Decidable (cs.foldlM meet? [] = some []))

/-- Brackets of different kinds do not cross. -/
example : WellBracketed "\x7b[()]()\x7d".toList ∧ ¬ WellBracketed "([)]".toList := by decide

/-- The characters that have a meaning of their own in code. -/
def marks : List Char := ['\'', '(', ')', '[', ']', '{', '}']

/-- A text without brackets and single quotes. -/
def Unmarked (cs : List Char) : Prop := ∀ c ∈ cs, c ∉ marks

instance (cs : List Char) : Decidable (Unmarked cs) := List.decidableBAll _ _

theorem meet?_of_unmarked {c : Char} (h : c ∉ marks) (awaited : List Char) :
    meet? awaited c = some awaited := by
  simp only [marks, List.mem_cons, List.not_mem_nil, or_false, not_or] at h
  have hopen : closing? c = none := by
    unfold closing?
    split <;> simp_all
  have hclose : [')', ']', '}'].contains c = false := by simp [h]
  simp only [meet?, hopen, hclose, Bool.false_eq_true, if_false]

theorem Unmarked.append {as bs : List Char} (ha : Unmarked as) (hb : Unmarked bs) : Unmarked (as ++ bs) := by
  intro c hc
  rcases List.mem_append.1 hc with hc | hc
  · exact ha c hc
  · exact hb c hc

theorem Unmarked.of_subset {as bs : List Char} (hb : Unmarked bs) (h : ∀ c ∈ as, c ∈ bs) : Unmarked as :=
  fun c hc => hb c (h c hc)

theorem unmarked_toDigits (n : Nat) : Unmarked (Nat.toDigits 10 n) := by
  intro c hc hmark
  have hdigit := Nat.isDigit_of_mem_toDigits (by decide) (by decide) hc
  have hnone : marks.all (!Char.isDigit ·) = true := by decide
  have hother := List.all_eq_true.1 hnone c hmark
  rw [hdigit] at hother
  cases hother

/-! ## §2. What a piece of text does. -/

/-- With the brackets `before` awaited, and any others around them, `cs` leads to `after`.  Its quotes come
    in pairs. -/
structure Turns (before after cs : List Char) : Prop where
  brackets : ∀ outer, cs.foldlM meet? (before ++ outer) = some (after ++ outer)
  quotes : cs.count '\'' % 2 = 0

namespace Turns

variable {a b c as bs cs : List Char}

/-- One piece after another. -/
theorem append (h₁ : Turns a b as) (h₂ : Turns b c bs) : Turns a c (as ++ bs) := by
  refine ⟨fun outer => ?_, ?_⟩
  · rw [List.foldlM_append, h₁.brackets outer]
    exact h₂.brackets outer
  · rw [List.count_append, Nat.add_mod, h₁.quotes, h₂.quotes]

/-- What a piece does, it does with more brackets around it. -/
theorem within (h : Turns [] [] cs) (a : List Char) : Turns a a cs :=
  ⟨fun outer => h.brackets (a ++ outer), h.quotes⟩

/-- A piece with nothing awaited after it is well bracketed on its own. -/
theorem wellBracketed (h : Turns [] [] cs) : WellBracketed cs := h.brackets []

theorem nil : Turns a a [] := ⟨fun _ => rfl, rfl⟩

theorem of_unmarked (h : Unmarked cs) : Turns [] [] cs := by
  refine ⟨fun outer => ?_, ?_⟩
  · induction cs with
    | nil => rfl
    | cons c rest ih =>
      rw [List.foldlM_cons, meet?_of_unmarked (h c List.mem_cons_self)]
      exact ih fun d hd => h d (List.mem_cons_of_mem _ hd)
  · have hnone : '\'' ∉ cs := fun hquote => h _ hquote List.mem_cons_self
    rw [List.count_eq_zero.2 hnone]

/-- A piece between a bracket and the one that closes it. -/
theorem bracketed {opening closing : Char} (hclosing : closing? opening = some closing)
    (h : Turns [] [] cs) : Turns [] [] (opening :: (cs ++ [closing])) := by
  have hopen : Turns [] [closing] [opening] := by
    unfold closing? at hclosing
    split at hclosing <;> cases hclosing <;> exact ⟨fun _ => rfl, rfl⟩
  have hclose : Turns [closing] [] [closing] := by
    unfold closing? at hclosing
    split at hclosing <;> cases hclosing <;> exact ⟨fun _ => rfl, rfl⟩
  exact hopen.append ((h.within _).append hclose)

/-- An unmarked character in front. -/
theorem cons {c : Char} (hc : c ∉ marks) (h : Turns a b cs) : Turns a b (c :: cs) := by
  refine ⟨fun outer => ?_, ?_⟩
  · rw [List.foldlM_cons, meet?_of_unmarked hc]
    exact h.brackets outer
  · have hquote : c ≠ '\'' := fun heq => hc (heq ▸ List.mem_cons_self)
    rw [List.count_cons_of_ne hquote]
    exact h.quotes

/-- An unmarked text between quotes. -/
theorem quoted (h : Unmarked cs) : Turns [] [] ('\'' :: (cs ++ ['\''])) := by
  have hunmarked := of_unmarked h
  refine ⟨fun outer => ?_, ?_⟩
  -- the reader passes quotes by, and both of them count
  · show (cs ++ ['\'']).foldlM meet? ([] ++ outer) = some outer
    rw [List.foldlM_append, hunmarked.brackets outer]
    rfl
  · have hquotes := hunmarked.quotes
    rw [List.count_cons_self, List.count_append, List.count_singleton_self]
    omega

/-- Pieces in a row. -/
theorem flatMap {α : Type} {f : α → List Char} {xs : List α} (h : ∀ x ∈ xs, Turns [] [] (f x)) :
    Turns [] [] (xs.flatMap f) := by
  induction xs with
  | nil => exact nil
  | cons x rest ih =>
    rw [List.flatMap_cons]
    exact (h x List.mem_cons_self).append (ih fun y hy => h y (List.mem_cons_of_mem _ hy))

end Turns

end Text

/-! ## §3. The texts in code. -/

/-- The names that an operation brings into its code. -/
def ScriptOp.names : ScriptOp → List String
  | .replaceField field | .propagateField field | .removePropagatedField field | .propagateReference field
  | .updatePropagatedReference field | .removePropagatedReference field | .renameStart field => [field]
  | .propagateNested path param => [path, param]
  | _ => []

namespace Engine

open Text

/-- The texts that an expression holds. -/
def Expr.texts : Expr → List String
  | .text s | .var s | .field s | .param s | .paramOf s => [s]
  | .member inner s | .call inner s | .function s inner => s :: inner.texts
  | .callWith inner s arg => s :: (inner.texts ++ arg.texts)
  | .not inner | .group inner => inner.texts
  | .entry a b | .op _ a b => a.texts ++ b.texts
  | _ => []

mutual

/-- The texts that a statement holds. -/
def Stmt.texts : Stmt → List String
  | .assign target value => target.texts ++ value.texts
  | .declare type name value => type :: name :: value.texts
  | .run inner => inner.texts
  | .when condition body | .while condition body => condition.texts ++ Stmt.textsAll body
  | .choose condition yes no => condition.texts ++ Stmt.textsAll yes ++ Stmt.textsAll no
  | .each name list body => name :: (list.texts ++ Stmt.textsAll body)

/-- The texts that statements hold. -/
def Stmt.textsAll : List Stmt → List String
  | [] => []
  | s :: rest => s.texts ++ Stmt.textsAll rest

end

/-- A dotted path, by dots or by brackets. -/
theorem turns_fieldText (e : Engine) {path : String} (h : Unmarked path.toList) :
    Turns [] [] (fieldText e path) := by
  cases e with
  | elasticsearch => exact (Turns.of_unmarked (by decide)).append (Turns.of_unmarked h)
  | opensearch =>
    refine (Turns.of_unmarked (by decide)).append (Turns.flatMap fun key hkey => ?_)
    have hunmarked : Unmarked key := fun c hc => h c (mem_of_mem_pieces hkey hc)
    show Turns [] [] ('[' :: '\'' :: key ++ ['\'', ']'])
    simpa using (Turns.quoted hunmarked).bracketed (show closing? '[' = some ']' from rfl)

theorem turns_binaryOp (symbol : BinaryOp) : Turns [] [] symbol.text := by
  cases symbol <;> exact Turns.of_unmarked (by decide)

/-- **An expression leaves the awaited brackets as they were**, by induction on its tree. -/
theorem Expr.turns_chars (e : Engine) {x : Expr} (h : ∀ text ∈ x.texts, Unmarked text.toList) :
    Turns [] [] (x.chars e) := by
  induction x with
  | null => exact Turns.of_unmarked (show Unmarked "null".toList by decide)
  | document => exact Turns.of_unmarked (show Unmarked "ctx._source".toList by decide)
  | params => exact Turns.of_unmarked (show Unmarked "params".toList by decide)
  | bool b =>
    cases b with
    | false => exact Turns.of_unmarked (show Unmarked "false".toList by decide)
    | true => exact Turns.of_unmarked (show Unmarked "true".toList by decide)
  | number n => exact Turns.of_unmarked (unmarked_toDigits n)
  | text s => exact Turns.quoted (h s (List.mem_singleton_self s))
  | emptyList => exact Turns.nil.bracketed rfl
  | newList =>
    exact (Turns.of_unmarked (show Unmarked "new ArrayList".toList by decide)).append (Turns.nil.bracketed rfl)
  | var name => exact Turns.of_unmarked (h name (List.mem_singleton_self name))
  | field path => exact turns_fieldText e (h path (List.mem_singleton_self path))
  | param name =>
    exact (Turns.of_unmarked (by decide)).append (Turns.of_unmarked (h name (List.mem_singleton_self name)))
  | paramOf name =>
    have hquoted := Turns.quoted (h name (List.mem_singleton_self name))
    exact (Turns.of_unmarked (show Unmarked "params".toList by decide)).append (hquoted.bracketed rfl)
  | member inner name ih =>
    obtain ⟨hname, hinner⟩ := List.forall_mem_cons.1 h
    exact (ih hinner).append ((Turns.of_unmarked hname).cons (by decide))
  | entry inner key ihInner ihKey =>
    obtain ⟨hinner, hkey⟩ := List.forall_mem_append.1 h
    exact (ihInner hinner).append ((ihKey hkey).bracketed rfl)
  | call inner method ih =>
    obtain ⟨hmethod, hinner⟩ := List.forall_mem_cons.1 h
    exact (ih hinner).append (((Turns.of_unmarked hmethod).append (Turns.nil.bracketed rfl)).cons (by decide))
  | callWith inner method arg ihInner ihArg =>
    obtain ⟨hmethod, hparts⟩ := List.forall_mem_cons.1 h
    obtain ⟨hinner, harg⟩ := List.forall_mem_append.1 hparts
    exact (ihInner hinner).append
      (((Turns.of_unmarked hmethod).append ((ihArg harg).bracketed rfl)).cons (by decide))
  | not inner ih => exact (ih h).cons (by decide)
  | op symbol left right ihLeft ihRight =>
    obtain ⟨hleft, hright⟩ := List.forall_mem_append.1 h
    exact ((ihLeft hleft).append (turns_binaryOp symbol)).append (ihRight hright)
  | group inner ih => exact (ih h).bracketed rfl
  | function name body ih =>
    obtain ⟨hname, hbody⟩ := List.forall_mem_cons.1 h
    exact ((Turns.of_unmarked hname).append (Turns.of_unmarked (by decide))).append (ih hbody)

/-- Statements in a block. -/
theorem turns_block {cs : List Char} (h : Turns [] [] cs) :
    Turns [] [] ('{' :: ' ' :: (cs ++ [' ', '}'])) := by
  have hopen : Turns [] ['}'] ['{', ' '] := ⟨fun _ => rfl, rfl⟩
  have hclose : Turns ['}'] [] [' ', '}'] := ⟨fun _ => rfl, rfl⟩
  exact hopen.append ((h.within _).append hclose)

/-- What stands before a block: `opening` opens a parenthesis, and `cs` stands in it. -/
theorem turns_head {opening cs : List Char} (hopening : Turns [] [')'] opening) (h : Turns [] [] cs) :
    Turns [] [] (opening ++ cs ++ ") ".toList) := by
  have hclose : Turns [')'] [] ") ".toList := ⟨fun _ => rfl, rfl⟩
  exact (hopening.append (h.within _)).append hclose

mutual

/-- A statement leaves the awaited brackets as they were. -/
theorem Stmt.turns_chars (e : Engine) :
    ∀ s : Stmt, (∀ text ∈ s.texts, Unmarked text.toList) → Turns [] [] (s.chars e)
  | .assign target value, h => by
    obtain ⟨htarget, hvalue⟩ := List.forall_mem_append.1 h
    have hassign : Turns [] [] " = ".toList := Turns.of_unmarked (by decide)
    exact (((Expr.turns_chars e htarget).append hassign).append (Expr.turns_chars e hvalue)).append
      (Turns.of_unmarked (by decide))
  | .declare type name value, h => by
    obtain ⟨htype, hrest⟩ := List.forall_mem_cons.1 h
    obtain ⟨hname, hvalue⟩ := List.forall_mem_cons.1 hrest
    have hassign : Turns [] [] " = ".toList := Turns.of_unmarked (by decide)
    have hvalued := (((Turns.of_unmarked hname).append hassign).append (Expr.turns_chars e hvalue)).append
      (Turns.of_unmarked (show Unmarked [';'] by decide))
    exact (Turns.of_unmarked htype).append (hvalued.cons (by decide))
  | .run inner, h => (Expr.turns_chars e h).append (Turns.of_unmarked (by decide))
  | .when condition body, h => by
    obtain ⟨hcondition, hbody⟩ := List.forall_mem_append.1 h
    have hif : Turns [] [')'] "if (".toList := ⟨fun _ => rfl, rfl⟩
    exact (turns_head hif (Expr.turns_chars e hcondition)).append
      (turns_block (Stmt.turns_charsAll e body hbody))
  | .choose condition yes no, h => by
    obtain ⟨hboth, hno⟩ := List.forall_mem_append.1 h
    obtain ⟨hcondition, hyes⟩ := List.forall_mem_append.1 hboth
    have hif : Turns [] [')'] "if (".toList := ⟨fun _ => rfl, rfl⟩
    -- the text between the blocks closes the first one
    have hopen : Turns [] ['}'] ['{', ' '] := ⟨fun _ => rfl, rfl⟩
    have helse : Turns ['}'] [] (' ' :: '}' :: " else ".toList) := ⟨fun _ => rfl, rfl⟩
    have hblocks := (((Stmt.turns_charsAll e yes hyes).within ['}']).append helse).append
      (turns_block (Stmt.turns_charsAll e no hno))
    exact (turns_head hif (Expr.turns_chars e hcondition)).append (hopen.append hblocks)
  | .each name list body, h => by
    obtain ⟨hname, hrest⟩ := List.forall_mem_cons.1 h
    obtain ⟨hlist, hbody⟩ := List.forall_mem_append.1 hrest
    have hfor : Turns [] [')'] "for (def ".toList := ⟨fun _ => rfl, rfl⟩
    have hin : Turns [] [] " : ".toList := Turns.of_unmarked (by decide)
    have hopening := (hfor.append ((Turns.of_unmarked hname).within _)).append (hin.within _)
    exact (turns_head hopening (Expr.turns_chars e hlist)).append
      (turns_block (Stmt.turns_charsAll e body hbody))
  | .while condition body, h => by
    obtain ⟨hcondition, hbody⟩ := List.forall_mem_append.1 h
    have hwhile : Turns [] [')'] "while (".toList := ⟨fun _ => rfl, rfl⟩
    exact (turns_head hwhile (Expr.turns_chars e hcondition)).append
      (turns_block (Stmt.turns_charsAll e body hbody))

/-- **Statements leave the awaited brackets as they were**, whatever their number and order. -/
theorem Stmt.turns_charsAll (e : Engine) :
    ∀ body : List Stmt, (∀ text ∈ Stmt.textsAll body, Unmarked text.toList) → Turns [] [] (Stmt.charsAll e body)
  | [], _ => Turns.nil
  | [s], h => Stmt.turns_chars e s fun text htext => h text (List.mem_append_left _ htext)
  | s :: t :: rest, h => by
    obtain ⟨hs, hrest⟩ := List.forall_mem_append.1 h
    exact (Stmt.turns_chars e s hs).append ((Stmt.turns_charsAll e (t :: rest) hrest).cons (by decide))

end

/-! ## §4. The code of operations. -/

theorem Stmt.textsAll_append (as bs : List Stmt) :
    Stmt.textsAll (as ++ bs) = Stmt.textsAll as ++ Stmt.textsAll bs := by
  induction as with
  | nil => rfl
  | cons s rest ih => rw [List.cons_append, Stmt.textsAll, ih, Stmt.textsAll, List.append_assoc]

theorem mem_textsAll_singleton {s : Stmt} {text : String} : text ∈ Stmt.textsAll [s] ↔ text ∈ s.texts := by
  simp [Stmt.textsAll]

/-- Changing the start of a name brings no marks of its own. -/
theorem unmarked_texts_moved {name : Expr} (h : ∀ text ∈ name.texts, Unmarked text.toList) :
    ∀ text ∈ (Stmt.when (name.isThere.both (.group name.underOldParent)) [.assign name name.movedName]).texts,
      Unmarked text.toList := by
  have fixed : ∀ text ∈ ["oldParentFQN", "newParentFQN", "startsWith", ".", "substring", "length"],
      Unmarked text.toList := by decide
  intro text htext
  have hcase : text ∈ name.texts ∨
      text ∈ ["oldParentFQN", "newParentFQN", "startsWith", ".", "substring", "length"] := by
    simp only [Stmt.texts, Stmt.textsAll, Expr.texts, Expr.isThere, Expr.differs, Expr.both,
      Expr.underOldParent, Expr.equal, Expr.oneOf, Expr.movedName, List.mem_append, List.mem_cons,
      List.not_mem_nil, or_false] at htext ⊢
    grind
  exact hcase.elim (h text) (fixed text)

/-- The start of names is changed in the list and the leaf that a dotted field names, or in the field
    itself. -/
theorem unmarked_textsAll_renameStart {field : String} (h : Unmarked field.toList) :
    ∀ text ∈ Stmt.textsAll (renameStart field), Unmarked text.toList := by
  intro text htext
  unfold renameStart at htext
  split at htext
  · rename_i list leaf hcut
    have hparts := (eq_of_cutFirst? hcut).1
    have hlist : Unmarked (String.ofList list).toList := by
      rw [String.toList_ofList]
      exact h.of_subset fun c hc => hparts ▸ List.mem_append_left _ hc
    have hleaf : Unmarked (String.ofList leaf).toList := by
      rw [String.toList_ofList]
      exact h.of_subset fun c hc => hparts ▸ List.mem_append_right _ (List.mem_cons_of_mem _ hc)
    have hitem : Unmarked "item".toList := by decide
    have hname : ∀ text ∈ (Expr.member (.var "item") (String.ofList leaf)).texts, Unmarked text.toList :=
      List.forall_mem_cons.2 ⟨hleaf, List.forall_mem_singleton.2 hitem⟩
    -- the list is there, its elements are called items, and the leaf of each is changed
    rcases List.mem_append.1 (mem_textsAll_singleton.1 htext) with hthere | heach
    · rw [List.mem_singleton.1 hthere]
      exact hlist
    rcases List.mem_cons.1 (mem_textsAll_singleton.1 heach) with rfl | hrest
    · exact hitem
    rcases List.mem_append.1 hrest with hin | hwhen
    · rw [List.mem_singleton.1 hin]
      exact hlist
    · exact unmarked_texts_moved hname text (mem_textsAll_singleton.1 hwhen)
  · have hname : ∀ text ∈ (Expr.field field).texts, Unmarked text.toList := List.forall_mem_singleton.2 h
    exact unmarked_texts_moved hname text (mem_textsAll_singleton.1 htext)

/-- A value at a dotted path is assigned where what stands before the last dot is there. -/
theorem unmarked_textsAll_propagateNested {path param : String} (hpath : Unmarked path.toList)
    (hparam : Unmarked param.toList) :
    ∀ text ∈ Stmt.textsAll (propagateNested path param), Unmarked text.toList := by
  intro text htext
  unfold propagateNested at htext
  split at htext
  · rename_i outer leaf hcut
    have houter : Unmarked (String.ofList outer).toList := by
      rw [String.toList_ofList]
      exact hpath.of_subset fun c hc => eq_of_cutLast? hcut ▸ List.mem_append_left _ hc
    have hcase : text = String.ofList outer ∨ text = path ∨ text = param := by
      simp only [Stmt.textsAll, Stmt.texts, Expr.texts, Expr.isThere, Expr.differs, List.mem_append,
        List.mem_cons, List.not_mem_nil, or_false] at htext
      grind
    rcases hcase with rfl | rfl | rfl
    · exact houter
    · exact hpath
    · exact hparam
  · have hcase : text = path ∨ text = param := by
      simpa [Stmt.textsAll, Stmt.texts, Expr.texts] using htext
    rcases hcase with rfl | rfl
    · exact hpath
    · exact hparam

/-- **The code of an operation holds no marks but those of its names**, on both engines. -/
theorem unmarked_textsAll_body (e : Engine) {op : ScriptOp} (h : ∀ name ∈ op.names, Unmarked name.toList) :
    ∀ text ∈ Stmt.textsAll (e.body op), Unmarked text.toList := by
  cases op with
  | renameStart field => exact unmarked_textsAll_renameStart (h field (List.mem_singleton_self field))
  | propagateNested path param =>
    exact unmarked_textsAll_propagateNested (h path List.mem_cons_self) (h param (by simp [ScriptOp.names]))
  | setDeleted deleted | flagSoleMember deleted => cases e <;> cases deleted <;> decide
  | replaceField name | propagateField name | removePropagatedField name | propagateReference name
    | updatePropagatedReference name | removePropagatedReference name =>
    have hname := h name (List.mem_singleton_self name)
    have fixed : ∀ text ∈ ["remove", "inherited", "id"], Unmarked text.toList := by decide
    have hbefore : Unmarked (name ++ "BeforeUpdate").toList := by
      rw [String.toList_append]
      exact hname.append (by decide)
    intro text htext
    have hcase : text = name ∨ text = name ++ "BeforeUpdate" ∨ text ∈ ["remove", "inherited", "id"] := by
      simp only [body, dropField, Stmt.textsAll, Stmt.texts, Expr.texts, Expr.isThere, Expr.isNull,
        Expr.differs, Expr.both, Expr.equal, Expr.oneOf, List.mem_append, List.mem_cons,
        List.not_mem_nil, or_false] at htext ⊢
      grind
    rcases hcase with rfl | rfl | hfixed
    · exact hname
    · exact hbefore
    · exact fixed text hfixed
  | _ => cases e <;> decide

/-- The code of operations in a row holds the texts of each. -/
theorem unmarked_textsAll_flatMap (e : Engine) {ops : List ScriptOp}
    (h : ∀ op ∈ ops, ∀ name ∈ op.names, Unmarked name.toList) :
    ∀ text ∈ Stmt.textsAll (ops.flatMap e.body), Unmarked text.toList := by
  induction ops with
  | nil => exact fun text htext => by cases htext
  | cons op rest ih =>
    obtain ⟨hop, hrest⟩ := List.forall_mem_cons.1 h
    rw [List.flatMap_cons, Stmt.textsAll_append]
    exact List.forall_mem_append.2 ⟨unmarked_textsAll_body e hop, ih hrest⟩

/-! ## §5. The source of a script. -/

theorem Stmt.chars_ne_nil (e : Engine) (s : Stmt) : s.chars e ≠ [] := by
  -- a semicolon or a brace stands in it
  cases s <;> exact List.append_ne_nil_of_right_ne_nil _ (List.cons_ne_nil _ _)

theorem Stmt.charsAll_ne_nil (e : Engine) {body : List Stmt} (h : body ≠ []) :
    Stmt.charsAll e body ≠ [] := by
  cases body with
  | nil => exact absurd rfl h
  | cons s rest =>
    cases rest with
    | nil => exact Stmt.chars_ne_nil e s
    | cons t rest => exact List.append_ne_nil_of_left_ne_nil (Stmt.chars_ne_nil e s) _

/-- Every operation does something. -/
theorem body_ne_nil (e : Engine) (op : ScriptOp) : e.body op ≠ [] := by
  cases op with
  | renameStart field =>
    show renameStart field ≠ []
    unfold renameStart
    split <;> exact List.cons_ne_nil _ _
  | propagateNested path param =>
    show propagateNested path param ≠ []
    unfold propagateNested
    split <;> exact List.cons_ne_nil _ _
  | _ => exact List.cons_ne_nil _ _

theorem scriptText_ne_empty (e : Engine) {s : Script} (h : s.ops ≠ []) : e.scriptText s ≠ "" := by
  obtain ⟨op, rest, hops⟩ := List.exists_cons_of_ne_nil h
  have hcode : s.ops.flatMap e.body ≠ [] := by
    rw [hops, List.flatMap_cons]
    exact List.append_ne_nil_of_left_ne_nil (body_ne_nil e op) _
  intro hempty
  exact Stmt.charsAll_ne_nil e hcode (by simpa [scriptText, Stmt.textAll] using congrArg String.toList hempty)

/-- **The source of a script is well bracketed.**  On both engines, whatever the operations of a script and
    their order, the encoded script has a source; the source is not empty if there is an operation, and if
    no name in an operation has a bracket or a single quote, then every bracket of the source closes the
    last one that is open, none stays open, and the single quotes come in pairs. -/
theorem encodeScript_wellBracketed (e : Engine) (s : Script) :
    ∃ source : String, (e.encodeScript s).field? "source" = some (.str source) ∧
      (s.ops ≠ [] → source ≠ "") ∧
      ((∀ op ∈ s.ops, ∀ name ∈ op.names, Unmarked name.toList) →
        WellBracketed source.toList ∧ source.toList.count '\'' % 2 = 0) := by
  refine ⟨e.scriptText s, Json.field?_object .., scriptText_ne_empty e, fun hnames => ?_⟩
  have hcode := Stmt.turns_charsAll e _ (unmarked_textsAll_flatMap e hnames)
  have hchars : (e.scriptText s).toList = Stmt.charsAll e (s.ops.flatMap e.body) := String.toList_ofList
  rw [hchars]
  exact ⟨hcode.wellBracketed, hcode.quotes⟩

/-- Owners that are handed down, a name at a dotted path and the start of names in a list. -/
theorem encodeScript_wellBracketed_handed_down :
    ∃ source : String,
      (opensearch.encodeScript
        { ops := [.removeOwners, .propagateNested "service.displayName" "displayName",
            .renameStart "tags.tagFQN"] }).field? "source" = some (.str source) ∧
      source ≠ "" ∧ WellBracketed source.toList ∧ source.toList.count '\'' % 2 = 0 := by
  obtain ⟨source, hsource, hsome, hbrackets⟩ := encodeScript_wellBracketed opensearch
    { ops := [.removeOwners, .propagateNested "service.displayName" "displayName",
        .renameStart "tags.tagFQN"] }
  exact ⟨source, hsource, hsome (List.cons_ne_nil _ _), hbrackets (by decide)⟩

/-- A name with a bracket leaves it open in the source. -/
example : ¬ WellBracketed (elasticsearch.scriptText { ops := [.removePropagatedField "a(b"] }).toList := by
  decide

end Engine

end CatalogIndex
