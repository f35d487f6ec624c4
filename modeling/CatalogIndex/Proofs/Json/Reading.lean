/-
  CatalogIndex.Proofs.Json.Reading — reading back what was printed.

  The reader gives the tree of a text, the printer the text of a value.  A value that was printed is read
  as the tree that says the same, as long as its numbers are integers of a machine word: a double is
  printed as the shortest decimal, and what that reads as is a matter of double arithmetic.

  The proof goes along the value.  The reader of a value stops where its text ends, so its lemma has any
  rest behind the text; only a number has to be followed by something that does not continue it, and what
  follows a value inside another one is a comma or a closing bracket.

  ## Main definitions

    * `Json.WordSized` — all numbers of a value are integers of a machine word;
    * `Json.toWritten` — the tree that says the same as a value.

  ## Main results

    * `Decimal.readLiteral?_writtenInt` — integers are read back;
    * `Written.textTail?_quotedTail` — texts are read back, whatever characters they hold;
    * `Written.read?_compact` — values are read back.
-/
import CatalogIndex.Json.Printer
import CatalogIndex.Json.Written

namespace CatalogIndex

/-! ## §1. Integers. -/

/-- What may follow a number: nothing, or a character that ends it. -/
def EndsNumber (rest : List Char) : Prop := ∀ c ∈ rest.head?, c = ',' ∨ c = ']' ∨ c = '}'

namespace Decimal

theorem ofDigits_toDigits (n : Nat) : ofDigits (Nat.toDigits 10 n) = n := by
  show Nat.ofDigitChars 10 (Nat.toDigits 10 n) 0 = n
  exact Nat.ofDigitChars_ten_toDigits

/-- Only zero is written with a zero in front. -/
theorem toDigits_leadingZero {n : Nat} {ds : List Char} (h : Nat.toDigits 10 n = '0' :: ds) :
    ds = [] := by
  induction n using Nat.strongRecOn generalizing ds with
  | ind n ih =>
    by_cases hsmall : n < 10
    · rw [Nat.toDigits_of_lt_base hsmall] at h
      injection h with _ h
      exact h.symm
    · rw [Nat.toDigits_of_base_le (by decide) (by omega)] at h
      cases hfront : Nat.toDigits 10 (n / 10) with
      | nil => exact absurd hfront Nat.toDigits_ne_nil
      | cons d front =>
        rw [hfront] at h
        injection h with hd _
        subst hd
        -- the digits in front would be a single zero, so that `n` had one digit only
        obtain rfl := ih (n / 10) (by omega) hfront
        have hzero := ofDigits_toDigits (n / 10)
        rw [hfront] at hzero
        have : n / 10 = 0 := hzero.symm
        omega

theorem spanDigits_toDigits (n : Nat) {rest : List Char} (h : EndsNumber rest) :
    spanDigits (Nat.toDigits 10 n ++ rest) = (Nat.toDigits 10 n, rest) := by
  have hdigits : ∀ c ∈ Nat.toDigits 10 n, c.isDigit = true :=
    fun c hc => Nat.isDigit_of_mem_toDigits (by decide) (by decide) hc
  unfold spanDigits
  rw [List.takeWhile_append_of_pos hdigits, List.dropWhile_append_of_pos hdigits]
  cases rest with
  | nil => simp
  | cons c rest =>
    have hc : c.isDigit = false := by
      rcases h c rfl with rfl | rfl | rfl <;> decide
    simp [hc]

theorem readFraction?_of_endsNumber {rest : List Char} (h : EndsNumber rest) :
    readFraction? rest = some (none, rest) := by
  cases rest with
  | nil => rfl
  | cons c rest => rcases h c rfl with rfl | rfl | rfl <;> rfl

theorem readExponent?_of_endsNumber {rest : List Char} (h : EndsNumber rest) :
    readExponent? rest = some (none, rest) := by
  cases rest with
  | nil => rfl
  | cons c rest => rcases h c rfl with rfl | rfl | rfl <;> rfl

/-- Reads the part of a literal behind its sign. -/
def unsigned? (negative : Bool) (cs : List Char) : Option (Literal × List Char) := do
  let (whole, cs) := spanDigits cs
  match whole with
  | [] => none
  | '0' :: _ :: _ => none
  | _ =>
    let (fraction, cs) ← readFraction? cs
    let (exponent, cs) ← readExponent? cs
    some ({ negative, whole, fraction, exponent }, cs)

theorem readLiteral?_minus (cs : List Char) : readLiteral? ('-' :: cs) = unsigned? true cs := rfl

theorem readLiteral?_of_ne_minus {c : Char} (hc : c ≠ '-') (cs : List Char) :
    readLiteral? (c :: cs) = unsigned? false (c :: cs) := by
  unfold readLiteral?
  split
  rename_i heq
  split at heq
  · rename_i heq'
    injection heq' with hminus _
    exact absurd hminus hc
  · cases heq
    rfl

theorem unsigned?_toDigits (negative : Bool) (n : Nat) {rest : List Char} (h : EndsNumber rest) :
    unsigned? negative (Nat.toDigits 10 n ++ rest)
      = some ({ negative, whole := Nat.toDigits 10 n, fraction := none, exponent := none }, rest) := by
  unfold unsigned?
  rw [spanDigits_toDigits n h]
  dsimp only
  split
  · rename_i hempty
    exact absurd hempty Nat.toDigits_ne_nil
  · rename_i hzero
    cases toDigits_leadingZero hzero
  · rw [readFraction?_of_endsNumber h, Option.bind_eq_bind, Option.bind_some,
      readExponent?_of_endsNumber h]
    rfl

theorem exists_toDigits (n : Nat) : ∃ d ds, Nat.toDigits 10 n = d :: ds ∧ d.isDigit = true := by
  cases hdigits : Nat.toDigits 10 n with
  | nil => exact absurd hdigits Nat.toDigits_ne_nil
  | cons d ds =>
    refine ⟨d, ds, rfl, Nat.isDigit_of_mem_toDigits (b := 10) (n := n) (by decide) (by decide) ?_⟩
    rw [hdigits]
    exact List.mem_cons_self

/-- An integer is written with a digit or a minus in front. -/
theorem exists_writtenInt (n : Int) :
    ∃ c cs, Json.writtenInt n = c :: cs ∧ (c.isDigit = true ∨ c = '-') := by
  unfold Json.writtenInt
  by_cases hn : n < 0
  · rw [if_pos hn]
    exact ⟨'-', _, rfl, Or.inr rfl⟩
  · rw [if_neg hn]
    obtain ⟨d, ds, hdigits, hd⟩ := exists_toDigits n.natAbs
    exact ⟨d, ds, hdigits, Or.inl hd⟩

/-- **An integer is read back**, as the literal of its sign and digits. -/
theorem readLiteral?_writtenInt (n : Int) {rest : List Char} (h : EndsNumber rest) :
    readLiteral? (Json.writtenInt n ++ rest)
      = some ({ negative := decide (n < 0), whole := Nat.toDigits 10 n.natAbs, fraction := none,
                exponent := none }, rest) := by
  unfold Json.writtenInt
  by_cases hn : n < 0
  · rw [if_pos hn, decide_eq_true hn, List.cons_append, readLiteral?_minus]
    exact unsigned?_toDigits true n.natAbs h
  · have hunsigned := unsigned?_toDigits false n.natAbs h
    obtain ⟨d, ds, hdigits, hd⟩ := exists_toDigits n.natAbs
    have hminus : d ≠ '-' := by
      rintro rfl
      exact absurd hd (by decide)
    rw [if_neg hn, decide_eq_false hn]
    rw [hdigits] at hunsigned ⊢
    exact (readLiteral?_of_ne_minus hminus _).trans hunsigned

theorem value?_of_toDigits {n : Int} (hlow : -(Nat.pow 2 63 : Int) ≤ n) (hhigh : n < Nat.pow 2 64) :
    Literal.value? { negative := decide (n < 0), whole := Nat.toDigits 10 n.natAbs, fraction := none,
                     exponent := none } = some (.int n) := by
  unfold Literal.value?
  rw [ofDigits_toDigits]
  have hword : maxWord = Nat.pow 2 64 - 1 := rfl
  by_cases hn : n < 0
  · rw [decide_eq_true hn, if_neg (by simp), if_pos ⟨rfl, rfl, rfl, by omega, by omega⟩]
    congr 2
    omega
  · rw [decide_eq_false hn, if_pos ⟨rfl, rfl, by simp, by omega⟩]
    congr 2
    omega

end Decimal

/-! ## §2. Texts. -/

namespace Written

theorem hexValue?_digitChar : ∀ d < 16, hexValue? (Nat.digitChar d) = some d := by decide

/-- A character that needs no escape stands for itself. -/
theorem textTail?_plain {c : Char} (hquote : c ≠ '"') (hbackslash : c ≠ '\\') (hplain : ¬ c.toNat < 32)
    (acc rest : List Char) :
    textTail? (some acc) none (c :: rest) = textTail? (some (c :: acc)) none rest := by
  rw [textTail?.eq_def]
  -- the reader looks for quotes and backslashes first, and `c` is neither
  split
  · contradiction
  · rename_i heq
    injection heq with hc _
    exact absurd hc hquote
  · rename_i heq
    injection heq with hc _
    exact absurd hc hbackslash
  · rename_i heq
    injection heq with hc _
    exact absurd hc hbackslash
  · rename_i heq
    injection heq with hc hrest
    subst hc hrest
    rw [if_neg (by simp [hplain, hbackslash])]
    rfl

/-- A control character stands as its number, in four hexadecimal digits. -/
theorem textTail?_control {c : Char} (hcontrol : c.toNat < 32) (acc rest : List Char) :
    textTail? (some acc) none ('\\' :: 'u' :: '0' :: '0' :: Nat.digitChar (c.toNat / 16)
      :: Nat.digitChar (c.toNat % 16) :: rest) = textTail? (some (c :: acc)) none rest := by
  have hdigits : hex4? '0' '0' (Nat.digitChar (c.toNat / 16)) (Nat.digitChar (c.toNat % 16))
      = some c.toNat := by
    unfold hex4?
    rw [hexValue?_digitChar _ (by omega), hexValue?_digitChar _ (by omega)]
    show some ((((0 * 16 + 0) * 16 + c.toNat / 16) * 16 + c.toNat % 16)) = some c.toNat
    congr 1
    omega
  -- such a number is no half of a pair
  have hlow : isLowHalf c.toNat = false := by
    simp [isLowHalf]
    omega
  have hhigh : isHighHalf c.toNat = false := by
    simp [isHighHalf]
    omega
  simp only [textTail?]
  rw [hdigits, Option.bind_eq_bind, Option.bind_some, hlow, hhigh, Char.ofNat_toNat]
  rfl

/-- What stands for one character adds this character to the text. -/
theorem textTail?_escaped (c : Char) (acc : List Char) (rest : List Char) :
    textTail? (some acc) none (Json.escaped c ++ rest) = textTail? (some (c :: acc)) none rest := by
  unfold Json.escaped
  split
  · subst_vars; rfl
  split
  · subst_vars; rfl
  split
  · subst_vars; rfl
  split
  · subst_vars; rfl
  split
  · subst_vars; rfl
  split
  · subst_vars; rfl
  split
  · subst_vars; rfl
  split
  · rename_i hcontrol
    exact textTail?_control hcontrol acc rest
  · rename_i hquote hbackslash _ _ _ _ _ hplain
    exact textTail?_plain hquote hbackslash hplain acc rest

/-- **A text is read back**, whatever characters it holds. -/
theorem textTail?_quotedTail (cs acc rest : List Char) :
    textTail? (some acc) none (Json.quotedTail cs ++ rest)
      = some (some (String.ofList (acc.reverse ++ cs)), rest) := by
  induction cs generalizing acc with
  | nil =>
    show some (some (String.ofList acc.reverse), rest) = _
    rw [List.append_nil]
  | cons c cs ih =>
    unfold Json.quotedTail
    rw [List.append_assoc, textTail?_escaped, ih, List.reverse_cons, List.append_assoc]
    rfl

end Written

/-! ## §3. Values. -/

namespace Json

mutual

/-- All numbers in the value are integers of a machine word, signed or unsigned. -/
def WordSized : Json → Prop
  | .num (.int n) => -(Nat.pow 2 63 : Int) ≤ n ∧ n < Nat.pow 2 64
  | .num (.double _) => False
  | .arr items => WordSizedItems items
  | .obj fields => WordSizedFields fields
  | _ => True

def WordSizedItems : List Json → Prop
  | [] => True
  | v :: rest => v.WordSized ∧ WordSizedItems rest

def WordSizedFields : List (String × Json) → Prop
  | [] => True
  | (_, v) :: rest => v.WordSized ∧ WordSizedFields rest

end

mutual

/-- The tree that says the same as a value. -/
def toWritten : Json → Written
  | .null => .null
  | .bool b => .bool b
  | .num n => .num (some n)
  | .str s => .str (some s)
  | .arr items => .arr (toWrittenItems items)
  | .obj fields => .obj (toWrittenFields fields)

def toWrittenItems : List Json → List Written
  | [] => []
  | v :: rest => v.toWritten :: toWrittenItems rest

def toWrittenFields : List (String × Json) → List (Option String × Written)
  | [] => []
  | (key, v) :: rest => (some key, v.toWritten) :: toWrittenFields rest

end

theorem endsNumber_renderItems (items : List Json) (rest : List Char) :
    EndsNumber (renderItems items ++ rest) := by
  cases items with
  | nil =>
    rintro c ⟨⟩
    exact Or.inr (Or.inl rfl)
  | cons v items =>
    rintro c ⟨⟩
    exact Or.inl rfl

theorem endsNumber_renderFields (fields : List (String × Json)) (rest : List Char) :
    EndsNumber (renderFields fields ++ rest) := by
  cases fields with
  | nil =>
    rintro c ⟨⟩
    exact Or.inr (Or.inr rfl)
  | cons field fields =>
    rintro c ⟨⟩
    exact Or.inl rfl

end Json

namespace Written

theorem skipGap_cons {c : Char} (h : isGap c = false) (cs : List Char) :
    skipGap (c :: cs) = c :: cs := by
  unfold skipGap
  rw [List.dropWhile_cons, h]
  rfl

/-- A digit is unlike any character that begins something else. -/
theorem ne_of_isDigit {c d : Char} (hc : c.isDigit = true ∨ c = '-')
    (hd : d.isDigit = false ∧ d ≠ '-') : c ≠ d := by
  rintro rfl
  rcases hc with hdigit | hminus
  · rw [hd.1] at hdigit
    cases hdigit
  · exact hd.2 hminus

theorem isGap_of_isDigit {c : Char} (hc : c.isDigit = true ∨ c = '-') : isGap c = false := by
  unfold isGap
  have hblank : c ≠ ' ' := ne_of_isDigit hc (by decide)
  have htab : c ≠ '\t' := ne_of_isDigit hc (by decide)
  have hline : c ≠ '\n' := ne_of_isDigit hc (by decide)
  have hreturn : c ≠ '\r' := ne_of_isDigit hc (by decide)
  simp [hblank, htab, hline, hreturn]

/-- What a value begins with is neither a gap nor the end of a list or an object. -/
theorem exists_render {v : Json} (h : v.WordSized) :
    ∃ c cs, v.render = c :: cs ∧ isGap c = false ∧ c ≠ ']' ∧ c ≠ '}' := by
  cases v with
  | num n =>
    cases n with
    | double d => exact h.elim
    | int n =>
      obtain ⟨c, cs, hcs, hc⟩ := Decimal.exists_writtenInt n
      exact ⟨c, cs, hcs, isGap_of_isDigit hc, ne_of_isDigit hc (by decide),
        ne_of_isDigit hc (by decide)⟩
  | null => exact ⟨'n', _, rfl, by decide⟩
  | bool b => cases b <;> exact ⟨_, _, rfl, by decide⟩
  | str s => exact ⟨'"', _, rfl, by decide⟩
  | arr items => cases items <;> exact ⟨'[', _, rfl, by decide⟩
  | obj fields => cases fields <;> exact ⟨'{', _, rfl, by decide⟩

theorem value?_number (steps : Nat) {c : Char} (cs : List Char) (h : c.isDigit = true ∨ c = '-') :
    value? (steps + 1) (c :: cs) = number? (c :: cs) := by
  have hno : ∀ d rest, d.isDigit = false ∧ d ≠ '-' → ¬ c :: cs = d :: rest := by
    intro d rest hd heq
    injection heq with hcd _
    exact ne_of_isDigit h hd hcd
  unfold value?
  rw [skipGap_cons (isGap_of_isDigit h)]
  split <;> first | rfl | (rename_i heq; exact absurd heq (hno _ _ (by decide)))

theorem value?_quoted (steps : Nat) (s : String) (rest : List Char) :
    value? (steps + 1) (Json.quoted s ++ rest) = some (.str (some s), rest) := by
  have htext := textTail?_quotedTail s.toList [] rest
  rw [List.reverse_nil, List.nil_append, String.ofList_toList] at htext
  unfold Json.quoted value?
  rw [List.cons_append, skipGap_cons (by decide)]
  simp only [htext]
  rfl

/-- A list is read by its first item and the rest of them. -/
theorem value?_arr {steps : Nat} {c : Char} {cs rest rest' : List Char} {v : Written}
    {more : List Written} (hgap : isGap c = false) (hc : c ≠ ']')
    (hv : value? steps (c :: cs) = some (v, rest)) (hmore : items? steps rest = some (more, rest')) :
    value? (steps + 1) ('[' :: c :: cs) = some (.arr (v :: more), rest') := by
  unfold value?
  rw [skipGap_cons (by decide)]
  simp only [skipGap_cons hgap]
  split
  · rename_i heq
    injection heq with hclosing _
    exact absurd hclosing hc
  · rw [hv, Option.bind_eq_bind, Option.bind_some, hmore]
    rfl

/-- An object is read by its first field and the rest of them. -/
theorem value?_obj {steps : Nat} {c : Char} {cs rest rest' : List Char} {pair : Option String × Written}
    {more : List (Option String × Written)} (hgap : isGap c = false) (hc : c ≠ '}')
    (hpair : pair? steps (c :: cs) = some (pair, rest))
    (hmore : pairs? steps rest = some (more, rest')) :
    value? (steps + 1) ('{' :: c :: cs) = some (.obj (pair :: more), rest') := by
  unfold value?
  rw [skipGap_cons (by decide)]
  simp only [skipGap_cons hgap]
  split
  · rename_i heq
    injection heq with hclosing _
    exact absurd hclosing hc
  · rw [hpair, Option.bind_eq_bind, Option.bind_some, hmore]
    rfl

theorem pair?_quoted {steps : Nat} (key : String) {cs rest : List Char} {v : Written}
    (hv : value? steps cs = some (v, rest)) :
    pair? (steps + 1) (Json.quoted key ++ ':' :: cs) = some ((some key, v), rest) := by
  have htext := textTail?_quotedTail key.toList [] (':' :: cs)
  rw [List.reverse_nil, List.nil_append, String.ofList_toList] at htext
  unfold Json.quoted pair?
  rw [List.cons_append, skipGap_cons (by decide)]
  have hcolon : skipGap (':' :: cs) = ':' :: cs := skipGap_cons (by decide) cs
  simp only [htext, Option.bind_eq_bind, Option.bind_some, hcolon, hv]

theorem items?_next {steps : Nat} {cs rest rest' : List Char} {v : Written} {more : List Written}
    (hv : value? steps cs = some (v, rest)) (hmore : items? steps rest = some (more, rest')) :
    items? (steps + 1) (',' :: cs) = some (v :: more, rest') := by
  unfold items?
  rw [skipGap_cons (by decide)]
  simp only [hv, hmore, Option.bind_eq_bind, Option.bind_some]

theorem pairs?_next {steps : Nat} {cs rest rest' : List Char} {pair : Option String × Written}
    {more : List (Option String × Written)} (hpair : pair? steps cs = some (pair, rest))
    (hmore : pairs? steps rest = some (more, rest')) :
    pairs? (steps + 1) (',' :: cs) = some (pair :: more, rest') := by
  unfold pairs?
  rw [skipGap_cons (by decide)]
  simp only [hpair, hmore, Option.bind_eq_bind, Option.bind_some]

theorem length_render_pos {v : Json} (h : v.WordSized) : 0 < v.render.length := by
  obtain ⟨c, cs, hcs, -⟩ := exists_render h
  rw [hcs]
  exact Nat.succ_pos _

mutual

/-- **A value is read back.**  There have to be as many steps as characters, and what follows must not
    continue a number. -/
theorem value?_render : ∀ (v : Json), v.WordSized → ∀ (steps : Nat) (rest : List Char),
    v.render.length ≤ steps → EndsNumber rest →
    value? steps (v.render ++ rest) = some (v.toWritten, rest)
  | v, hv, 0, rest, hsteps, _ => absurd (length_render_pos hv) (by omega)
  | .null, _, steps + 1, rest, _, _ => by
    show value? (steps + 1) ('n' :: 'u' :: 'l' :: 'l' :: rest) = _
    unfold value?
    rw [skipGap_cons (by decide)]
    rfl
  | .bool true, _, steps + 1, rest, _, _ => by
    show value? (steps + 1) ('t' :: 'r' :: 'u' :: 'e' :: rest) = _
    unfold value?
    rw [skipGap_cons (by decide)]
    rfl
  | .bool false, _, steps + 1, rest, _, _ => by
    show value? (steps + 1) ('f' :: 'a' :: 'l' :: 's' :: 'e' :: rest) = _
    unfold value?
    rw [skipGap_cons (by decide)]
    rfl
  | .num (.int n), hn, steps + 1, rest, _, hrest => by
    obtain ⟨c, cs, hcs, hc⟩ := Decimal.exists_writtenInt n
    show value? (steps + 1) (Json.writtenInt n ++ rest) = _
    rw [hcs, List.cons_append, value?_number steps _ hc, ← List.cons_append, ← hcs]
    unfold number?
    rw [Decimal.readLiteral?_writtenInt n hrest]
    simp only [Option.bind_eq_bind, Option.bind_some, Decimal.value?_of_toDigits hn.1 hn.2]
    rfl
  | .num (.double _), hd, _ + 1, _, _, _ => hd.elim
  | .str s, _, steps + 1, rest, _, _ => value?_quoted steps s rest
  | .arr [], _, steps + 1, rest, _, _ => by
    have hclosing : skipGap (']' :: rest) = ']' :: rest := skipGap_cons (by decide) rest
    show value? (steps + 1) ('[' :: ']' :: rest) = _
    unfold value?
    rw [skipGap_cons (by decide)]
    simp only [hclosing]
    rfl
  | .arr (v :: items), h, steps + 1, rest, hsteps, hrest => by
    obtain ⟨c, cs, hcs, hgap, hc, -⟩ := exists_render h.1
    have hlength : v.render.length + (Json.renderItems items).length ≤ steps := by
      simpa [Json.render] using hsteps
    have hv := value?_render v h.1 steps (Json.renderItems items ++ rest) (by omega)
      (Json.endsNumber_renderItems items rest)
    have hitems := items?_renderItems items h.2 steps rest (by omega)
    show value? (steps + 1) ('[' :: (v.render ++ Json.renderItems items ++ rest)) = _
    rw [List.append_assoc, hcs, List.cons_append]
    rw [hcs, List.cons_append] at hv
    exact value?_arr hgap hc hv hitems
  | .obj [], _, steps + 1, rest, _, _ => by
    have hclosing : skipGap ('}' :: rest) = '}' :: rest := skipGap_cons (by decide) rest
    show value? (steps + 1) ('{' :: '}' :: rest) = _
    unfold value?
    rw [skipGap_cons (by decide)]
    simp only [hclosing]
    rfl
  | .obj ((key, v) :: fields), h, steps + 1, rest, hsteps, hrest => by
    have hpos := length_render_pos h.1
    have hlength : (Json.quoted key).length + (v.render.length + (Json.renderFields fields).length + 1)
        ≤ steps := by
      simpa [Json.render] using hsteps
    obtain ⟨k, rfl⟩ : ∃ k, steps = k + 1 := ⟨steps - 1, by omega⟩
    have hv := value?_render v h.1 k (Json.renderFields fields ++ rest) (by omega)
      (Json.endsNumber_renderFields fields rest)
    have hfields := pairs?_renderFields fields h.2 (k + 1) rest (by omega)
    have hshape : (Json.obj ((key, v) :: fields)).render ++ rest
        = '{' :: '"' :: (Json.quotedTail key.toList
          ++ ':' :: (v.render ++ (Json.renderFields fields ++ rest))) := by
      simp [Json.render, Json.quoted]
    rw [hshape]
    exact value?_obj (by decide) (by decide) (pair?_quoted key hv) hfields

theorem items?_renderItems : ∀ (items : List Json), Json.WordSizedItems items →
    ∀ (steps : Nat) (rest : List Char), (Json.renderItems items).length ≤ steps →
    items? steps (Json.renderItems items ++ rest) = some (Json.toWrittenItems items, rest)
  | [], _, 0, _, hsteps => absurd hsteps (by simp [Json.renderItems])
  | [], _, steps + 1, rest, _ => by
    show items? (steps + 1) (']' :: rest) = _
    unfold items?
    rw [skipGap_cons (by decide)]
    rfl
  | v :: items, _, 0, _, hsteps => absurd hsteps (by simp [Json.renderItems])
  | v :: items, h, steps + 1, rest, hsteps => by
    have hlength : v.render.length + (Json.renderItems items).length ≤ steps := by
      simpa [Json.renderItems] using hsteps
    have hv := value?_render v h.1 steps (Json.renderItems items ++ rest) (by omega)
      (Json.endsNumber_renderItems items rest)
    have hitems := items?_renderItems items h.2 steps rest (by omega)
    show items? (steps + 1) (',' :: (v.render ++ Json.renderItems items ++ rest)) = _
    rw [List.append_assoc]
    exact items?_next hv hitems

theorem pairs?_renderFields : ∀ (fields : List (String × Json)), Json.WordSizedFields fields →
    ∀ (steps : Nat) (rest : List Char), (Json.renderFields fields).length ≤ steps →
    pairs? steps (Json.renderFields fields ++ rest) = some (Json.toWrittenFields fields, rest)
  | [], _, 0, _, hsteps => absurd hsteps (by simp [Json.renderFields])
  | [], _, steps + 1, rest, _ => by
    show pairs? (steps + 1) ('}' :: rest) = _
    unfold pairs?
    rw [skipGap_cons (by decide)]
    rfl
  | (key, v) :: fields, _, 0, _, hsteps => absurd hsteps (by simp [Json.renderFields])
  | (key, v) :: fields, h, steps + 1, rest, hsteps => by
    have hlength : (Json.quoted key).length + (v.render.length + (Json.renderFields fields).length + 1)
        ≤ steps := by
      simpa [Json.renderFields] using hsteps
    obtain ⟨k, rfl⟩ : ∃ k, steps = k + 1 := ⟨steps - 1, by omega⟩
    have hv := value?_render v h.1 k (Json.renderFields fields ++ rest) (by omega)
      (Json.endsNumber_renderFields fields rest)
    have hfields := pairs?_renderFields fields h.2 (k + 1) rest (by omega)
    have hshape : Json.renderFields ((key, v) :: fields) ++ rest
        = ',' :: (Json.quoted key ++ ':' :: (v.render ++ (Json.renderFields fields ++ rest))) := by
      simp [Json.renderFields]
    rw [hshape]
    exact pairs?_next (pair?_quoted key hv) hfields

end

/-- **The compact text of a value is read back**, as the tree that says the same. -/
theorem read?_compact {v : Json} (h : v.WordSized) : read? v.compact = some v.toWritten := by
  have hread := value?_render v h (2 * v.render.length + 2) [] (by omega) (by rintro c ⟨⟩)
  rw [List.append_nil] at hread
  unfold read? Json.compact
  rw [String.toList_ofList]
  dsimp only
  rw [hread]
  rfl

end Written

end CatalogIndex
