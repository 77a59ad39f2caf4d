import Mathlib.Data.List.DropRight
import Polysql.Proofs.Evaluation.Overflow
import Polysql.Proofs.Place.Descent
import Polysql.Proofs.Writing.Text
import Polysql.Render
/-!
Texts brought to a length on engines without `LPAD` and `RPAD`. They are spelled out by other
functions; what is drafted is read as a term of these (`TextTerm`), and what the term denotes is
compared with what the evaluator computes (`TextTerm.value_padded_iff`). The filling of SQLite is
made of the zeros of a blob: replacing each pair of digits gives copies of the filling
(`Text.replaceFrom_zeros`), whose beginning is the filling read round and round
(`Text.cycled_eq_take`).
-/

namespace Polysql

open Writers (ofRank call_ofRank expr_ofRank)

/-! ### Texts over and over -/

namespace Text

variable {n m : Nat}

/-- Replacing each of some pairs of zeros. -/
lemma replaceFrom_zeros (by_ : List Char) (n : Nat) :
    replaceFrom ['0', '0'] by_ 0 (copies n ['0', '0']) = copies n by_ := by
  induction n with
  | zero => rfl
  | succ n ih =>
    rw [copies_succ, copies_succ, ← ih]
    rfl

/-- The last characters of two texts, one after the other. -/
lemma rtake_append (a b : List Char) (m : Nat) :
    (a ++ b).rtake m = a.rtake (m - b.length) ++ b.rtake m := by
  simp only [List.rtake_eq_reverse_take_reverse, List.reverse_append, List.take_append,
    List.length_reverse]

lemma rtake_of_length_le {a : List Char} (h : a.length ≤ m) : a.rtake m = a := by
  rw [List.rtake, Nat.sub_eq_zero_of_le h, List.drop_zero]

/-- The copies of one character are the same from both ends. -/
lemma rtake_copies_singleton (x : Char) (h : m ≤ n) :
    (copies n [x]).rtake m = (copies n [x]).take m := by
  have hcopies : copies n [x] = List.replicate n x := by
    rw [copies, List.flatten_replicate_singleton]
  rw [hcopies, List.rtake, List.length_replicate, List.drop_replicate, List.take_replicate]
  congr 1
  omega

end Text

/-! ### Texts that are written alike -/

/-- Two drafts are written as the same text, with the same values bound, whatever has been written
before. -/
def Draft.Alike (a b : Draft) : Prop :=
  ∀ (st : Style) (r : Written), r.error? = none → st.run r a = st.run r b

namespace Draft.Alike

variable {a b c : Draft}

lemma refl (a : Draft) : a.Alike a :=
  fun _ _ _ => rfl

lemma trans (h : a.Alike b) (h' : b.Alike c) : a.Alike c :=
  fun st r hr => (h st r hr).trans (h' st r hr)

/-- The same in front of drafts that are written alike. -/
lemma after (a : Draft) (h : b.Alike c) : (a ++ b).Alike (a ++ c) := fun st r hr => by
  rw [st.run_append a b hr, st.run_append a c hr]
  cases hw : st.run r a with
  | error e => rfl
  | ok w => exact h st w (st.error?_of_run hw)

/-- A text is the same as its parts, one after the other. -/
lemma split {z : String} (parts : List String) (hz : z = String.join parts) {b c : Draft}
    (h : b.Alike c) : (text z ++ b).Alike (parts.foldr (fun x d => text x ++ d) c) := by
  subst hz
  -- the text is written as its parts are, one after the other
  induction parts with
  | nil =>
    intro st r hr
    have hnothing : r.add "" = r := by rw [Written.add, String.append_empty]
    change st.run r (text "" ++ b) = st.run r c
    rw [st.run_append _ _ hr, st.run_text _ hr, hnothing]
    exact h st r hr
  | cons x parts ih =>
    refine trans (fun st r hr => ?_) (after (text x) ih)
    have hx : (r.add x).error? = none := hr
    have hadd : r.add (String.join (x :: parts)) = (r.add x).add (String.join parts) := by
      rw [Written.add, Written.add, Written.add, String.join_cons, String.append_assoc]
    rw [st.run_append _ _ hr, st.run_text _ hr, st.run_append _ _ hr, st.run_text x hr, hadd]
    change _ = st.run (r.add x) _
    rw [st.run_append _ _ hx, st.run_text _ hx]

end Draft.Alike

/-! ### Terms of engines without `LPAD` and `RPAD` -/

/-- A number of characters in the terms of such an engine. -/
inductive CountTerm where
  /-- The length that the text is brought to. -/
  | length
  /-- `LENGTH`, of the text. -/
  | ofText
  /-- `a - b`. -/
  | minus (a b : CountTerm)

/-- A text in the terms of such an engine. -/
inductive TextTerm where
  /-- The text that is brought to a length. -/
  | text
  /-- The filling. -/
  | fill
  /-- Two texts one after the other: `a + b` or `a || b`. -/
  | joined (sign : String) (a b : TextTerm)
  /-- `REPLICATE`: a text several times over. -/
  | replicate (a : TextTerm) (n : CountTerm)
  /-- `LEFT`: the first characters. -/
  | left (a : TextTerm) (n : CountTerm)
  /-- `RIGHT`: the last characters. -/
  | right (a : TextTerm) (n : CountTerm)
  /-- `SUBSTR` from the first character on. -/
  | substr (a : TextTerm) (n : CountTerm)
  /-- `REPLACE`: every occurrence of a fixed text replaced. -/
  | replace (a : TextTerm) (part : String) (by_ : TextTerm)
  /-- `HEX(ZEROBLOB(n))`: the hexadecimal digits of `n` bytes that are zero. -/
  | zeroDigits (n : CountTerm)

namespace CountTerm

/-- The draft of a number of characters. -/
def draft (text length : Draft) : CountTerm → Draft
  | .length => length
  | .ofText => "LENGTH(" ++ text ++ ")"
  | .minus a b => a.draft text length ++ " - " ++ b.draft text length

/-- The number. -/
def value (text : List Char) (n : Nat) : CountTerm → Int
  | .length => n
  | .ofText => text.length
  | .minus a b => a.value text n - b.value text n

end CountTerm

namespace TextTerm

/-- The draft of a term. -/
def draft (text length fill : Draft) : TextTerm → Draft
  | .text => text
  | .fill => fill
  | .joined sign a b => a.draft text length fill ++ sign ++ b.draft text length fill
  | .replicate a n =>
    "REPLICATE(" ++ a.draft text length fill ++ ", " ++ n.draft text length ++ ")"
  | .left a n => "LEFT(" ++ a.draft text length fill ++ ", " ++ n.draft text length ++ ")"
  | .right a n => "RIGHT(" ++ a.draft text length fill ++ ", " ++ n.draft text length ++ ")"
  | .substr a n => "SUBSTR(" ++ a.draft text length fill ++ ", 1, " ++ n.draft text length ++ ")"
  | .replace a part by_ =>
    "REPLACE(" ++ a.draft text length fill ++ ", '" ++ part ++ "', " ++
      by_.draft text length fill ++ ")"
  | .zeroDigits n => "HEX(ZEROBLOB(" ++ n.draft text length ++ "))"

/-- The text that a term denotes. A negative number of characters is none. -/
def value (text : List Char) (n : Nat) (fill : List Char) : TextTerm → List Char
  | .text => text
  | .fill => fill
  | .joined _ a b => a.value text n fill ++ b.value text n fill
  | .replicate a m => Text.copies (m.value text n).toNat (a.value text n fill)
  | .left a m => (a.value text n fill).take (m.value text n).toNat
  | .right a m => (a.value text n fill).rtake (m.value text n).toNat
  | .substr a m => (a.value text n fill).take (m.value text n).toNat
  | .replace a part by_ =>
    Text.replaceFrom part.toList (by_.value text n fill) 0 (a.value text n fill)
  | .zeroDigits m => Text.copies (m.value text n).toNat ['0', '0']

/-- A text brought to a length by more of the filling than it takes, and cut. -/
def cut (atStart : Bool) : TextTerm :=
  if atStart then .right (.joined " + " (.replicate .fill .length) .text) .length
  else .left (.joined " + " .text (.replicate .fill .length)) .length

/-- The filling for what a text lacks of a length. -/
def padding : TextTerm :=
  .substr (.replace (.zeroDigits .length) "00" .fill) (.minus .length .ofText)

/-- A text with the filling for what it lacks of a length. -/
def filled (atStart : Bool) : TextTerm :=
  if atStart then .joined " || " padding .text else .joined " || " .text padding

end TextTerm

/-- The function that brings a text to a length. -/
def Func.padding (atStart : Bool) : Func :=
  if atStart then .padStart else .padEnd

/-! ### What padding is drafted as -/

namespace TextTerm

open Draft.Alike (refl after split)

variable (w : Writers) {s : Scope} (e n fill : Expr)

lemma padWith_cut (h : s.family.isSqlServerLike) (atStart : Bool) :
    (w.padWith s atStart e n fill).Alike
      ((cut atStart).draft (w.expr s e) (w.expr s n) (w.expr s fill)) := by
  have hpad : w.padWith s atStart e n fill =
      if atStart then
        "RIGHT(REPLICATE(" ++ w.expr s fill ++ ", " ++ w.expr s n ++ ") + " ++ w.expr s e ++
          ", " ++ w.expr s n ++ ")"
      else
        "LEFT(" ++ w.expr s e ++ " + REPLICATE(" ++ w.expr s fill ++ ", " ++ w.expr s n ++
          "), " ++ w.expr s n ++ ")" := by
    rw [Writers.padWith]
    split
    · rfl
    · rfl
    all_goals simp_all [Family.isSqlServerLike]
  rw [hpad]
  cases atStart with
  | true =>
    simp only [cut, draft, CountTerm.draft, if_true, Draft.append_assoc]
    -- the fixed texts of the draft run over the borders of the term, and are split there
    exact split ["RIGHT(", "REPLICATE("] (by decide) (after _ (after _ (after _
      (split [")", " + "] (by decide) (refl _)))))
  | false =>
    simp only [cut, draft, CountTerm.draft, Bool.false_eq_true, if_false, Draft.append_assoc]
    exact after _ (after _ (split [" + ", "REPLICATE("] (by decide) (after _ (after _ (after _
      (split [")", ", "] (by decide) (refl _)))))))

lemma blobPadding_alike (rest : Draft) :
    (w.blobPadding s e n fill ++ rest).Alike
      (padding.draft (w.expr s e) (w.expr s n) (w.expr s fill) ++ rest) := by
  simp only [Writers.blobPadding, padding, draft, CountTerm.draft, Draft.append_assoc]
  exact split ["SUBSTR(", "REPLACE(", "HEX(ZEROBLOB("] (by decide) (after _
    (split ["))", ", '", "00", "', "] (by decide) (after _
      (split [")", ", 1, "] (by decide) (after _
        (split [" - ", "LENGTH("] (by decide) (after _
          (split [")", ")"] (by decide) (refl _)))))))))

lemma padWith_filled (h : s.family = .sqlite) (atStart : Bool) :
    (w.padWith s atStart e n fill).Alike
      ((filled atStart).draft (w.expr s e) (w.expr s n) (w.expr s fill)) := by
  have hpad : w.padWith s atStart e n fill =
      if atStart then w.blobPadding s e n fill ++ " || " ++ w.expr s e
      else w.expr s e ++ " || " ++ w.blobPadding s e n fill := by
    rw [Writers.padWith, h]
  rw [hpad]
  cases atStart with
  | true =>
    simp only [if_true, filled, draft, Draft.append_assoc]
    exact blobPadding_alike w e n fill _
  | false =>
    have hend := blobPadding_alike w e n fill (s := s) .empty
    simp only [Draft.append_empty] at hend
    exact after _ hend

/-- The call of a function that brings a text to a length. -/
lemma expr_padding (s : Scope) (atStart : Bool) :
    ofRank.expr s (.callOf (.padding atStart) [e, n, fill]) =
      ofRank.padWith s atStart e n fill := by
  have hcall : ofRank.draftCall s ⟨.padding atStart, [e, n, fill], false, none⟩ =
      ofRank.callPlain s ⟨.padding atStart, [e, n, fill], false, none⟩ := by
    rw [Writers.draftCall]
    split <;> rfl
  rw [expr_ofRank]
  change ofRank.call s _ = _
  rw [call_ofRank, hcall]
  cases atStart <;> rfl

end TextTerm

/-! ### What padding yields -/

section

variable (atStart : Bool) {text fill : List Char} {n : Nat}

/-- A text that is not long enough is filled up. An empty filling adds nothing. -/
lemma padded_of_lt (h : text.length < n) :
    padded atStart text n fill =
      if atStart then (Text.copies n fill).take (n - text.length) ++ text
      else text ++ (Text.copies n fill).take (n - text.length) := by
  rw [padded, if_neg (Nat.not_le_of_lt h)]
  split
  next hempty =>
    obtain rfl := List.isEmpty_iff.mp hempty
    have hnothing : Text.copies n [] = [] :=
      List.eq_nil_of_length_eq_zero (Text.length_copies n [])
    simp [hnothing]
  next hfill =>
    have hle := Text.le_mul_length (mt List.isEmpty_iff.mpr hfill) n
    rw [← Text.cycled_eq_take (Nat.le_trans (Nat.sub_le n _) hle)]

lemma padded_of_le (h : n ≤ text.length) : padded atStart text n fill = text.take n :=
  if_pos h

end

/-- The evaluator brings a text to a length, if a text can have as many bytes. -/
lemma Expr.eval_padding (atStart : Bool) {columns : Bindings} {e length f : Expr}
    {text fill : String} {v : Value} {n : Nat} (he : e.eval columns = .ok (.string text))
    (hlength : length.eval columns = .ok v) (hf : f.eval columns = .ok (.string fill))
    (hv : (Func.padding atStart).countOf [.string text, v, .string fill] 1 = .ok n) :
    let result := String.ofList (padded atStart text.toList n fill.toList)
    (Expr.callOf (.padding atStart) [e, length, f]).eval columns =
      if result.utf8ByteSize ≤ Text.maxBytes then .ok (.string result)
      else .error (.panic "capacity overflow") := by
  intro result
  have hargs : evalEach columns [e, length, f] =
      [.ok (.string text), .ok v, .ok (.string fill)] := by
    rw [evalEach, evalEach, evalEach, evalEach, he, hlength, hf]
  have hnull : v.isNull = false := by
    cases v <;> first | rfl | (cases atStart <;> cases hv)
  -- only the room is asked for, since the bytes are counted before the text is made
  have hpad : (Func.padding atStart).pad [.string text, v, .string fill] = do
      checkRoom (paddedBytes text.toList n fill.toList)
      return .string result := by
    rw [Func.pad, hv]
    cases atStart <;> rfl
  have happly : (Func.padding atStart).apply [.string text, v, .string fill] =
      if result.utf8ByteSize ≤ Text.maxBytes then .ok (.string result)
      else .error (.panic "capacity overflow") := by
    have hany : [Value.string text, v, .string fill].any Value.isNull = false := by
      rw [List.any_cons, List.any_cons, hnull]
      rfl
    have hstrict : (Func.padding atStart).apply [.string text, v, .string fill] =
        (Func.padding atStart).pad [.string text, v, .string fill] := by
      cases atStart <;> exact if_neg (by rw [hany]; exact Bool.false_ne_true)
    rw [hstrict, hpad, paddedBytes_eq atStart, checkRoom]
    split <;> rfl
  rw [← happly]
  change (if (Func.padding atStart).isAggregate then _ else do
    (Func.padding atStart).apply (← collect (evalEach columns [e, length, f]))) = _
  rw [hargs, show collect [.ok (.string text), .ok v, .ok (.string fill)] =
    .ok [.string text, v, .string fill] from rfl]
  cases atStart <;> rfl

namespace TextTerm

/-! ### The texts that terms denote -/

variable (text fill : List Char) (n : Nat)

lemma value_cut_end : (cut false).value text n fill = padded false text n fill := by
  change (text ++ Text.copies n fill).take n = _
  by_cases h : n ≤ text.length
  · rw [padded_of_le false h, List.take_append_of_le_length h]
  · have hlt := Nat.lt_of_not_le h
    rw [padded_of_lt false hlt, if_neg Bool.false_ne_true, List.take_append,
      List.take_of_length_le (Nat.le_of_lt hlt)]

/-- The last characters of the filling and the text are the text filled up if the filling ends as it
begins, or if the text does where it is cut. -/
lemma value_cut_start_iff :
    (cut true).value text n fill = padded true text n fill ↔
      if n ≤ text.length then text.rtake n = text.take n
      else (Text.copies n fill).rtake (n - text.length) =
        (Text.copies n fill).take (n - text.length) := by
  change (Text.copies n fill ++ text).rtake n = _ ↔ _
  rw [Text.rtake_append]
  split
  next h => rw [padded_of_le true h, Nat.sub_eq_zero_of_le h, List.rtake_zero, List.nil_append]
  next h =>
    have hlt := Nat.lt_of_not_le h
    rw [padded_of_lt true hlt, if_pos rfl, Text.rtake_of_length_le (Nat.le_of_lt hlt),
      List.append_cancel_right_eq]

/-- A filling of one character begins as it ends. -/
lemma value_cut_start_singleton (x : Char) (h : text.length ≤ n) :
    (cut true).value text n [x] = padded true text n [x] := by
  rw [value_cut_start_iff]
  split
  next hle =>
    obtain rfl : n = text.length := Nat.le_antisymm hle h
    rw [List.take_length, Text.rtake_of_length_le (Nat.le_refl _)]
  next => exact Text.rtake_copies_singleton x (Nat.sub_le n _)

lemma value_padding :
    padding.value text n fill = (Text.copies n fill).take (n - text.length) := by
  change (Text.replaceFrom ['0', '0'] fill 0 (Text.copies (n : Int).toNat ['0', '0'])).take
    ((n : Int) - text.length).toNat = _
  rw [Int.toNat_natCast, Text.replaceFrom_zeros, ← Int.toNat_sub]

/-- A text with the filling for what it lacks is the text brought to a length unless it is longer
than that. -/
lemma value_filled_iff (atStart : Bool) :
    (filled atStart).value text n fill = padded atStart text n fill ↔ text.length ≤ n := by
  have hvalue : (filled atStart).value text n fill =
      if atStart then (Text.copies n fill).take (n - text.length) ++ text
      else text ++ (Text.copies n fill).take (n - text.length) := by
    rw [← value_padding]
    cases atStart <;> rfl
  rw [hvalue]
  -- a text that is short enough is filled, one that is as long stays, and a longer one should be
  -- cut but is not
  obtain hlt | rfl | hgt := Nat.lt_trichotomy text.length n
  · rw [padded_of_lt atStart hlt]
    exact iff_of_true rfl (Nat.le_of_lt hlt)
  · rw [padded_of_le atStart (Nat.le_refl _), Nat.sub_self, List.take_zero, List.take_length,
      List.nil_append, List.append_nil, ite_self]
    exact iff_of_true rfl (Nat.le_refl _)
  · rw [padded_of_le atStart (Nat.le_of_lt hgt), Nat.sub_eq_zero_of_le (Nat.le_of_lt hgt),
      List.take_zero, List.nil_append, List.append_nil, ite_self]
    refine iff_of_false (fun h => ?_) (Nat.not_le_of_lt hgt)
    have hlength := congrArg List.length h
    rw [List.length_take] at hlength
    omega

/-- **Padding.** Engines without `LPAD` and `RPAD` bring a text to a length by functions that they
have: SQL Server and Sybase cut what more of the filling than needed makes of the text, and SQLite
adds as much of the filling as the text lacks. At the end, the former is always what the evaluator
computes. At the start, where the last characters are kept and not the first ones, it is so exactly
if these are the same: those of the text where it is too long, and those of the filling where it is
needed, as is the case for a filling of one character. The latter is what the evaluator computes
exactly if the text is not longer than the length. -/
theorem value_padded_iff (text fill : String) (n : Nat) :
    let yields (t : TextTerm) (atStart : Bool) : Prop :=
      t.value text.toList n fill.toList = padded atStart text.toList n fill.toList
    let copies := Text.copies n fill.toList
    let lack := n - text.length
    (∀ (atStart : Bool) (columns : Bindings) (e length f : Expr) (v : Value),
      e.eval columns = .ok (.string text) → length.eval columns = .ok v →
      f.eval columns = .ok (.string fill) →
      (Func.padding atStart).countOf [.string text, v, .string fill] 1 = .ok n →
        let result := String.ofList (padded atStart text.toList n fill.toList)
        (Expr.callOf (.padding atStart) [e, length, f]).eval columns =
          if result.utf8ByteSize ≤ Text.maxBytes then .ok (.string result)
          else .error (.panic "capacity overflow")) ∧
      (∀ (s : Scope) (atStart : Bool) (e length f : Expr),
        let call := ofRank.expr s (.callOf (.padding atStart) [e, length, f])
        let term (t : TextTerm) : Draft :=
          t.draft (ofRank.expr s e) (ofRank.expr s length) (ofRank.expr s f)
        (s.family.isSqlServerLike → call.Alike (term (cut atStart))) ∧
          (s.family = .sqlite → call.Alike (term (filled atStart)))) ∧
      yields (cut false) false ∧
      (yields (cut true) true ↔
        if n ≤ text.length then text.toList.rtake n = text.toList.take n
        else copies.rtake lack = copies.take lack) ∧
      (∀ atStart, yields (filled atStart) atStart ↔ text.length ≤ n) ∧
      (text.length ≤ n → fill.length = 1 → yields (cut true) true) := by
  intro yields copies lack
  have hlength : text.length = text.toList.length := String.length_toList.symm
  refine ⟨fun atStart columns e length f v he hl hf hv => Expr.eval_padding atStart he hl hf hv,
    fun s atStart e length f => ?_, value_cut_end _ _ _, ?_, fun atStart => ?_,
    fun hle hone => ?_⟩
  · dsimp only
    rw [expr_padding]
    exact ⟨fun h => padWith_cut ofRank e length f h atStart,
      fun h => padWith_filled ofRank e length f h atStart⟩
  · simp only [lack, hlength]
    exact value_cut_start_iff _ _ _
  · rw [hlength]
    exact value_filled_iff _ _ _ atStart
  · obtain ⟨x, hx⟩ : ∃ x, fill.toList = [x] :=
      List.length_eq_one_iff.mp (String.length_toList.trans hone)
    simp only [yields, hx]
    exact value_cut_start_singleton _ _ x (hlength ▸ hle)

/-- A text that is filled up by a single character. -/
theorem value_padded_iff_digits :
    let call : Expr := .callOf (.padding true)
      [.literal (.string "7"), .literal (.decimal ⟨3, 0, by decide, by decide⟩),
        .literal (.string "0")]
    let sql (d : Dialect) := (({ dialect := d } : Renderer).render
      (.select { fields := [⟨call, none⟩] })).map Rendered.sql
    call.eval Bindings.none_ = .ok (.string "007") ∧
      sql .sqlServer = .ok "SELECT RIGHT(REPLICATE('0', 3) + '7', 3)" ∧
      sql .sqlite = .ok
        "SELECT SUBSTR(REPLACE(HEX(ZEROBLOB(3)), '00', '0'), 1, 3 - LENGTH('7')) || '7'" ∧
      String.ofList ((cut true).value ['7'] 3 ['0']) = "007" ∧
      String.ofList ((filled true).value ['7'] 3 ['0']) = "007" := by
  intro call sql
  obtain ⟨heval, -, -, -, hfilled, hone⟩ := value_padded_iff "7" "0" 3
  have hcount : (Func.padding true).countOf
      [.string "7", .decimal ⟨3, 0, by decide, by decide⟩, .string "0"] 1 = .ok 3 := by
    rfl
  refine ⟨?_, by decide +kernel, by decide +kernel, ?_, ?_⟩
  · exact heval true Bindings.none_ _ _ _ _ rfl rfl rfl hcount
  · exact congrArg String.ofList (hone (by decide) (by decide))
  · exact congrArg String.ofList ((hfilled true).mpr (by decide))

/-- A text that is cut is cut at the wrong side, or not at all; and a filling of two characters
starts with the wrong one. -/
theorem value_padded_iff_cut :
    let call (atStart : Bool) (text : String) (n : Nat) (fill : String) : Expr :=
      .callOf (.padding atStart)
        [.literal (.string text), .number n, .literal (.string fill)]
    let sql (d : Dialect) (e : Expr) := (({ dialect := d } : Renderer).render
      (.select { fields := [⟨e, none⟩] })).map Rendered.sql
    let value (t : TextTerm) (text : String) (n : Nat) (fill : String) : String :=
      .ofList (t.value text.toList n fill.toList)
    let pad (atStart : Bool) (text : String) (n : Nat) (fill : String) : String :=
      .ofList (padded atStart text.toList n fill.toList)
    sql .sqlServer (call true "abc" 2 "x") = .ok "SELECT RIGHT(REPLICATE('x', 2) + 'abc', 2)" ∧
      value (cut true) "abc" 2 "x" = "bc" ∧ pad true "abc" 2 "x" = "ab" ∧
      sql .sqlServer (call true "x" 4 "ab") = .ok "SELECT RIGHT(REPLICATE('ab', 4) + 'x', 4)" ∧
      value (cut true) "x" 4 "ab" = "babx" ∧ pad true "x" 4 "ab" = "abax" ∧
      sql .sqlite (call false "abc" 2 "x") = .ok
        "SELECT 'abc' || SUBSTR(REPLACE(HEX(ZEROBLOB(2)), '00', 'x'), 1, 2 - LENGTH('abc'))" ∧
      value (filled false) "abc" 2 "x" = "abc" ∧ pad false "abc" 2 "x" = "ab" := by
  intro call sql value pad
  exact ⟨by decide +kernel, by decide +kernel, by decide +kernel, by decide +kernel,
    by decide +kernel, by decide +kernel, by decide +kernel, by decide +kernel,
    by decide +kernel⟩

end TextTerm

end Polysql
