import Mathlib.Algebra.GroupWithZero.Nat
import Polysql.Draft.Limit
import Polysql.Proofs.Reading.Token
import Polysql.Proofs.Text.Numeral
/-!
Texts that limit rows, and what they mean. A clause of a query says how many rows are left out, or
how many there are at most behind these (`RowClause.keep`). A query around another one keeps rows by
their numbers: a row is given its number by `ROWNUM` when it meets the condition, so the rows that
do not are not counted (`numberedRows`), and a number that is selected is a further column of the
row (`Layer.rows`). Clauses and conditions are read from their texts as they are written
(`RowClause.read_tokens`, `RowCondition.read_tokens`).
-/

namespace Polysql

/-! ### Numbers in texts -/

/-- The number that a word is. -/
def numeral? (s : String) : Option Nat :=
  if s.toList.all Char.isDigit then some (Nat.ofDigitChars 10 s.toList 0) else none

section

variable (n : Nat)

lemma numeral?_repr : numeral? (Nat.repr n) = some n := by
  rw [numeral?, if_pos (List.all_eq_true.mpr fun _ => isDigit_of_mem_repr n), toList_repr,
    Nat.ofDigitChars_toDigits (by decide) (by decide)]

lemma map_numeral?_repr {α : Type} (make : Nat → α) :
    (numeral? (Nat.repr n)).map make = some (make n) := by
  rw [numeral?_repr, Option.map_some]

lemma tokensOfText_repr : tokensOfText (Nat.repr n) = [.word (Nat.repr n)] := by
  refine tokensOfText_word ?_ fun c hc => ?_
  · rw [toList_repr]
    exact Nat.toDigits_ne_nil
  · simp [isWordChar, Char.isAlphanum, isDigit_of_mem_repr n hc]

end

namespace Draft

/-- A way to begin a text, which adds nothing but white space to it. -/
structure Begins (start : String → Draft) : Prop where
  error? (words : String) : (start words).error? = none
  tokens (words : String) : (start words).tokens = tokensOfText words

lemma begins_text : Begins text :=
  ⟨error?_text, tokens_text⟩

lemma begins_clause (s : Scope) : Begins s.clause :=
  ⟨fun _ => rfl, fun words => List.flatMap_singleton Piece.tokens (.text words)⟩

/-- Further text in the same line. -/
def further (words : String) : Draft :=
  text (" " ++ words)

lemma begins_further : Begins further where
  error? _ := rfl
  tokens words := by
    rw [further, tokens_text, tokensOfText, String.toList_append]
    rfl

/-- A number between words. -/
def numbered (start : String → Draft) (before : String) (n : Nat) (after? : Option String) :
    Draft :=
  start before ++ number n ++ ofOption text after?

lemma tokens_numbered {start : String → Draft} (h : Begins start) (before : String) (n : Nat)
    (after? : Option String) :
    (numbered start before n after?).tokens =
      tokensOfText before ++ .word (Nat.repr n) :: (after?.elim [] tokensOfText) := by
  have hnumber : (start before ++ number n).error? = none :=
    error?_append.mpr ⟨h.error? before, rfl⟩
  rw [numbered, tokens_append hnumber, tokens_append (h.error? before), h.tokens, number,
    tokens_text, tokensOfText_repr, List.append_assoc]
  cases after? with
  | none => rfl
  | some after => rw [ofOption, tokens_text]; rfl

end Draft

/-! ### Clauses of a query -/

/-- A clause of a query that limits its rows. -/
inductive RowClause where
  /-- `LIMIT n`. -/
  | limit (n : Nat)
  /-- `LIMIT -1`, which limits nothing. -/
  | unlimited
  /-- `FETCH NEXT n ROWS ONLY`. -/
  | fetchNext (n : Nat)
  /-- `TOP n`. -/
  | top (n : Nat)
  /-- `FIRST n`. -/
  | first (n : Nat)
  /-- `OFFSET m`. -/
  | offset (m : Nat)
  /-- `OFFSET m ROWS`. -/
  | offsetRows (m : Nat)
  /-- `SKIP m`. -/
  | skip (m : Nat)
deriving DecidableEq, Repr

namespace RowClause

/-- The text of a clause. -/
def draft (start : String → Draft) : RowClause → Draft
  | limit n => .numbered start "LIMIT " n none
  | unlimited => start "LIMIT -1"
  | fetchNext n => .numbered start "FETCH NEXT " n (some " ROWS ONLY")
  | top n => .numbered start "TOP " n (some " ")
  | first n => .numbered start "FIRST " n (some " ")
  | offset m => .numbered start "OFFSET " m none
  | offsetRows m => .numbered start "OFFSET " m (some " ROWS")
  | skip m => .numbered start "SKIP " m (some " ")

/-- The texts of some clauses. -/
def drafts (start : String → Draft) (cs : List RowClause) : Draft :=
  .concat (cs.map (draft start))

/-- The clause that some tokens are. -/
def read : List Token → Option RowClause
  | [.word "LIMIT", .word n] => (numeral? n).map limit
  | [.word "LIMIT", .sign "-", .word "1"] => some unlimited
  | [.word "FETCH", .word "NEXT", .word n, .word "ROWS", .word "ONLY"] => (numeral? n).map fetchNext
  | [.word "TOP", .word n] => (numeral? n).map top
  | [.word "FIRST", .word n] => (numeral? n).map first
  | [.word "OFFSET", .word m] => (numeral? m).map offset
  | [.word "OFFSET", .word m, .word "ROWS"] => (numeral? m).map offsetRows
  | [.word "SKIP", .word m] => (numeral? m).map skip
  | _ => none

/-- A clause is read from its text as it is. -/
lemma read_tokens {start : String → Draft} (h : Draft.Begins start) (c : RowClause) :
    read (c.draft start).tokens = some c := by
  cases c with
  | unlimited =>
    rw [draft, h.tokens]
    rfl
  | _ =>
    rw [draft, Draft.tokens_numbered h]
    exact map_numeral?_repr _ _

/-- How many rows a clause leaves out. -/
def skipped : RowClause → Nat
  | offset m | offsetRows m | skip m => m
  | _ => 0

/-- How many rows there are at most by a clause. -/
def count? : RowClause → Option Nat
  | limit n | fetchNext n | top n | first n => some n
  | _ => none

/-- The rows that some clauses keep: rows are left out first and counted then, in whatever order the
clauses stand. -/
def keep {α : Type} (cs : List RowClause) (rows : List α) : List α :=
  let rest := rows.drop (cs.map skipped).sum
  match cs.findSome? count? with
  | some n => rest.take n
  | none => rest

end RowClause

/-! ### Queries around another -/

/-- A condition on the number of a row. -/
inductive RowCondition where
  /-- `WHERE ROWNUM <= n`. -/
  | upTo (n : Nat)
  /-- `WHERE rn > m`. -/
  | above (m : Nat)
deriving DecidableEq, Repr

namespace RowCondition

/-- The text of a condition. -/
def draft (start : String → Draft) : RowCondition → Draft
  | upTo n => .numbered start "WHERE ROWNUM <= " n none
  | above m => .numbered start "WHERE rn > " m none

/-- The condition that some tokens are. -/
def read : List Token → Option RowCondition
  | [.word "WHERE", .word "ROWNUM", .sign "<=", .word n] => (numeral? n).map upTo
  | [.word "WHERE", .word "rn", .sign ">", .word m] => (numeral? m).map above
  | _ => none

/-- A condition is read from its text as it is. -/
lemma read_tokens {start : String → Draft} (h : Draft.Begins start) (c : RowCondition) :
    read (c.draft start).tokens = some c := by
  cases c <;>
  · rw [draft, Draft.tokens_numbered h]
    exact map_numeral?_repr _ _

/-- A row that would have a number meets the condition. The numbers that are columns of it are those
that the queries in parentheses have added, the last one being `rn`. -/
def holds {α : Type} (row : α × List Nat) (number : Nat) : RowCondition → Bool
  | upTo n => number ≤ n
  | above m => row.2.getLast?.any (m < ·)

end RowCondition

/-- The rows that meet a condition with their numbers. A row is tested with the next number, which
is given to the next row if it fails. -/
def numberedRows {α : Type} (test : α → Nat → Bool) (next : Nat) : List α → List (α × Nat)
  | [] => []
  | row :: rows =>
    if test row next then (row, next) :: numberedRows test (next + 1) rows
    else numberedRows test next rows

/-- A query that selects from another one by the numbers of its rows. -/
structure Layer where
  /-- The number of a row is selected as `rn` behind its columns. -/
  numbers : Bool
  /-- The query in parentheses has a name. -/
  named : Bool
  /-- The condition. -/
  condition? : Option RowCondition
deriving DecidableEq, Repr

namespace Layer

/-- What stands before the query in parentheses. -/
def opening (l : Layer) : String :=
  if l.numbers then "SELECT q.*, ROWNUM rn FROM (" else "SELECT * FROM ("

/-- How the condition begins: in the same line where numbers are selected. -/
def start (s : Scope) (l : Layer) : String → Draft :=
  if l.numbers then .further else s.clause

/-- What stands behind the query in parentheses. -/
def closing (s : Scope) (l : Layer) : Draft :=
  Draft.text (if l.named then ") q" else ")") ++
    Draft.ofOption (RowCondition.draft (l.start s)) l.condition?

lemma begins_start (s : Scope) (l : Layer) : Draft.Begins (l.start s) := by
  rw [start]
  split
  · exact Draft.begins_further
  · exact Draft.begins_clause s

/-- A row with its number as a further column. -/
def addNumber {α : Type} (row : (α × List Nat) × Nat) : α × List Nat :=
  (row.1.1, row.1.2 ++ [row.2])

/-- The rows that are selected. -/
def rows {α : Type} (l : Layer) (rows : List (α × List Nat)) : List (α × List Nat) :=
  (numberedRows (fun row k => l.condition?.all (RowCondition.holds row k)) 1 rows).map fun row =>
    if l.numbers then addNumber row else row.1

/-- The columns that are selected. -/
def columns {γ : Type} (rn : γ) (l : Layer) (columns : List γ) : List γ :=
  if l.numbers then columns ++ [rn] else columns

end Layer

/-! ### Rows by their positions -/

section

variable {α : Type}

/-- The rows up to a position are the first ones. -/
lemma filter_zipIdx_le (n k : Nat) (rows : List α) :
    (rows.zipIdx k).filter (fun p => decide (p.2 ≤ n)) = (rows.take (n + 1 - k)).zipIdx k := by
  induction rows generalizing k with
  | nil => simp
  | cons row rows ih =>
    rw [List.zipIdx_cons, List.filter_cons, ih]
    by_cases hk : k ≤ n
    · have htake : n + 1 - k = n + 1 - (k + 1) + 1 := by omega
      rw [if_pos (decide_eq_true hk), htake, List.take_succ_cons, List.zipIdx_cons]
    · have htake : n + 1 - k = 0 := by omega
      have hnext : n + 1 - (k + 1) = 0 := by omega
      rw [if_neg (by simpa using hk), htake, hnext]
      rfl

/-- The rows behind a position are the other ones. -/
lemma map_fst_filter_zipIdx_lt (m k : Nat) (rows : List α) :
    ((rows.zipIdx k).filter fun p => decide (m < p.2)).map Prod.fst = rows.drop (m + 1 - k) := by
  induction rows generalizing k with
  | nil => simp
  | cons row rows ih =>
    rw [List.zipIdx_cons, List.filter_cons]
    by_cases hk : m < k
    · have hdrop : m + 1 - k = 0 := by omega
      have hnext : m + 1 - (k + 1) = 0 := by omega
      rw [if_pos (decide_eq_true hk), List.map_cons, ih, hdrop, hnext, List.drop_zero,
        List.drop_zero]
    · have hdrop : m + 1 - k = m + 1 - (k + 1) + 1 := by omega
      rw [if_neg (by simpa using hk), ih, hdrop, List.drop_succ_cons]

/-- The rows between two positions. -/
lemma map_fst_filter_zipIdx (m n : Nat) (rows : List α) :
    ((rows.zipIdx 1).filter fun p => decide (m < p.2) && decide (p.2 ≤ n)).map Prod.fst =
      (rows.take n).drop m := by
  rw [← List.filter_filter, filter_zipIdx_le, map_fst_filter_zipIdx_lt, Nat.add_sub_cancel,
    Nat.add_sub_cancel]

/-- With a condition on `ROWNUM`, the first rows get numbers. -/
lemma numberedRows_upTo (n k : Nat) (rows : List α) :
    numberedRows (fun _ i => decide (i ≤ n)) k rows = (rows.take (n + 1 - k)).zipIdx k := by
  induction rows generalizing k with
  | nil => simp [numberedRows]
  | cons row rows ih =>
    rw [numberedRows]
    by_cases hk : k ≤ n
    · have htake : n + 1 - k = n + 1 - (k + 1) + 1 := by omega
      rw [if_pos (decide_eq_true hk), ih, htake, List.take_succ_cons, List.zipIdx_cons]
    · -- the number is never given away, so no later row gets one
      have htake : n + 1 - k = 0 := by omega
      rw [if_neg (by simpa using hk), ih, htake, List.take_zero, List.take_zero]

/-- Without a condition, every row gets the next number. -/
lemma numberedRows_all (k : Nat) (rows : List α) :
    numberedRows (fun _ _ => true) k rows = rows.zipIdx k := by
  induction rows generalizing k with
  | nil => rfl
  | cons row rows ih => rw [numberedRows, if_pos rfl, ih, List.zipIdx_cons]

/-- A condition on the row alone is a filter. -/
lemma map_fst_numberedRows (p : α → Bool) (k : Nat) (rows : List α) :
    (numberedRows (fun row _ => p row) k rows).map Prod.fst = rows.filter p := by
  induction rows generalizing k with
  | nil => rfl
  | cons row rows ih =>
    rw [numberedRows, List.filter_cons]
    split
    · rw [List.map_cons, ih]
    · exact ih k

namespace Layer

variable (rows : List (α × List Nat))

/-- A condition on `ROWNUM` keeps the first rows. -/
lemma rows_upTo (n : Nat) (named : Bool) :
    (⟨false, named, some (.upTo n)⟩ : Layer).rows rows = rows.take n := by
  change (numberedRows (fun _ k => decide (k ≤ n)) 1 rows).map Prod.fst = _
  rw [numberedRows_upTo, Nat.add_sub_cancel, List.zipIdx_map_fst]

/-- The rows get their positions as numbers. -/
lemma rows_numbered (n? : Option Nat) (named : Bool) :
    (⟨true, named, n?.map .upTo⟩ : Layer).rows rows =
      ((n?.elim rows rows.take).zipIdx 1).map addNumber := by
  cases n? with
  | none =>
    change (numberedRows (fun _ _ => true) 1 rows).map addNumber = _
    rw [numberedRows_all]
    rfl
  | some n =>
    change (numberedRows (fun _ k => decide (k ≤ n)) 1 rows).map addNumber = _
    rw [numberedRows_upTo, Nat.add_sub_cancel]
    rfl

/-- Of rows with their positions, a condition on these leaves out the first ones. -/
lemma map_fst_rows_above (m : Nat) (named : Bool) :
    ((⟨false, named, some (.above m)⟩ : Layer).rows
        ((rows.zipIdx 1).map addNumber)).map Prod.fst = (rows.drop m).map Prod.fst := by
  let above (row : α × List Nat) : Bool := row.2.getLast?.any fun k => decide (m < k)
  have habove : above ∘ addNumber = fun row => decide (m < row.2) := by
    funext row
    change (row.1.2 ++ [row.2]).getLast?.any _ = _
    rw [List.getLast?_concat, Option.any_some]
  have hfst : Prod.fst ∘ addNumber = Prod.fst ∘ (Prod.fst : (α × List Nat) × Nat → _) := rfl
  change ((numberedRows (fun row _ => above row) 1 _).map Prod.fst).map _ = _
  rw [map_fst_numberedRows, List.filter_map, habove, List.map_map, hfst, ← List.map_map,
    map_fst_filter_zipIdx_lt, Nat.add_sub_cancel]

/-- Rows to which no number has been added. -/
lemma map_fst_unnumbered (rows : List α) :
    (rows.map (·, ([] : List Nat))).map Prod.fst = rows := by
  rw [List.map_map]
  exact List.map_id rows

lemma map_fst_rows_upTo (rows : List α) (n : Nat) (named : Bool) :
    ((⟨false, named, some (.upTo n)⟩ : Layer).rows (rows.map (·, []))).map Prod.fst =
      rows.take n := by
  rw [rows_upTo, List.map_take, map_fst_unnumbered]

/-- A condition on the numbers that a query in parentheses adds to the rows of another one. -/
lemma map_fst_rows_window (rows : List α) (n? : Option Nat) (m : Nat) :
    ((⟨false, false, some (.above m)⟩ : Layer).rows
        ((⟨true, true, n?.map .upTo⟩ : Layer).rows (rows.map (·, [])))).map Prod.fst =
      (n?.elim rows rows.take).drop m := by
  rw [rows_numbered, map_fst_rows_above, List.map_drop]
  cases n? with
  | none => rw [Option.elim_none, Option.elim_none, map_fst_unnumbered]
  | some n => rw [Option.elim_some, Option.elim_some, List.map_take, map_fst_unnumbered]

end Layer

end

end Polysql
