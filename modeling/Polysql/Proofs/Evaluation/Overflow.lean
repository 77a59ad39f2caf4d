import Polysql.Evaluation
import Polysql.Proofs.Outcome
import Polysql.Proofs.Text.Repeated
/-!
Which operations on values panic. Those of arithmetic, casts and patterns yield a value or return an
error (`Value.returns_arith`, `Value.returns_cast`, `Truth.returns_like`). Among the functions,
those that make a text out of copies of others panic if that text has more bytes than a text can
have, and a few panic on the smallest or the greatest integer; no other call does
(`Func.apply_eq_panic_iff`).
-/

namespace Polysql

/-- An evaluation yields a value or returns an error. -/
def Evaluated.Returns {α : Type} (x : Evaluated α) : Prop :=
  ∀ message, x ≠ .error (.panic message)

namespace Evaluated

variable {α β : Type} {x : Evaluated α} {message : String}

lemma returns_ok (a : α) : Returns (.ok a) :=
  nofun

lemma returns_pure (a : α) : Returns (pure a) :=
  nofun

lemma returns_refuse (message : String) : (refuse message : Evaluated α).Returns :=
  nofun

lemma returns_ofExcept (x : Except Error α) : (ofExcept x).Returns := by
  cases x <;> exact nofun

lemma Returns.bind (hx : x.Returns) {f : α → Evaluated β} (hf : ∀ a, (f a).Returns) :
    Returns (x >>= f) := by
  cases x with
  | error e => exact fun m h => hx m (congrArg Except.error (Except.error.inj h))
  | ok a => exact hf a

lemma Returns.map (hx : x.Returns) (f : α → β) : Returns (x.map f) := by
  cases x with
  | error e => exact fun m h => hx m (congrArg Except.error (Except.error.inj h))
  | ok a => exact nofun

/-- What follows a value panics, as nothing before it does. -/
lemma Returns.bind_eq_panic_iff (hx : x.Returns) {f : α → Evaluated β} :
    (x >>= f) = .error (.panic message) ↔ ∃ a, x = .ok a ∧ f a = .error (.panic message) := by
  cases x with
  | error e =>
    refine iff_of_false (fun h => hx message (congrArg Except.error (Except.error.inj h))) ?_
    rintro ⟨a, ⟨⟩, -⟩
  | ok a => simp

/-- What comes before evaluations that return panics by itself. -/
lemma bind_eq_panic_iff_left {f : α → Evaluated β} (hf : ∀ a, (f a).Returns) :
    (x >>= f) = .error (.panic message) ↔ x = .error (.panic message) := by
  cases x with
  | error e => rw [error_bind, Except.error.injEq, Except.error.injEq]
  | ok a => exact iff_of_false (hf a message) nofun

lemma checkRoom_bind_eq_panic_iff {bytes : Nat} {a : α} :
    (do checkRoom bytes; return a : Evaluated α) = .error (.panic message) ↔
      Text.maxBytes < bytes ∧ message = "capacity overflow" := by
  rw [checkRoom]
  split
  next h => exact iff_of_false nofun fun hlt => absurd h (Nat.not_le_of_lt hlt.1)
  next h =>
    rw [error_bind, Except.error.injEq, Failure.panic.injEq, eq_comm]
    exact (and_iff_right (Nat.lt_of_not_le h)).symm

end Evaluated

open Evaluated

/-! ### Operations that always return -/

namespace Value

lemma returns_orFail (message : String) (v? : Option Value) : (orFail message v?).Returns := by
  cases v? <;> exact nofun

lemma returns_arith (op : ArithOp) (a b : Value) : (arith op a b).Returns := by
  rw [arith]
  split
  · exact returns_ok _
  split
  · exact returns_refuse _
  rw [arithNumbers.eq_def]
  split <;> exact returns_orFail _ _

lemma returns_negate (a : Value) : a.negate.Returns :=
  returns_arith .sub _ a

lemma returns_bitwise (op : Int64 → Int64 → Int64) (a b : Value) : (bitwise op a b).Returns := by
  rw [bitwise]
  split
  · exact returns_ok _
  split
  · exact returns_ok _
  · exact returns_refuse _

lemma returns_power (a b : Value) : (power a b).Returns := by
  rw [power]
  split
  · exact returns_ok _
  · exact returns_orFail _ _

lemma returns_bitXor (a b : Value) : (bitXor a b).Returns :=
  (returns_bitwise _ a b).bind fun _ => (returns_bitwise _ a b).bind fun _ => returns_arith .sub _ _

lemma returns_bitNot (a : Value) : (bitNot a).Returns :=
  (returns_negate a).bind fun _ => returns_arith .sub _ _

lemma returns_bit (op : BitOp) (a b : Value) : (bit op a b).Returns := by
  cases op with
  | and | or => exact returns_bitwise _ a b
  | xor => exact returns_bitXor a b
  | not => exact returns_bitNot a
  | nand | nor => exact (returns_bitwise _ a b).bind returns_bitNot
  | xnor => exact (returns_bitXor a b).bind returns_bitNot
  | shiftLeft | shiftRight => exact (returns_power _ b).bind fun _ => returns_arith _ a _

lemma returns_cast (v : Value) (type : DataType) : (v.cast type).Returns := by
  rw [cast]
  split
  · exact returns_ok _
  · exact returns_orFail _ _

end Value

namespace Truth

lemma returns_like (l : Like) (text pattern : Value) : (like l text pattern).Returns := by
  rw [like.eq_def]
  split
  · exact returns_ok _
  split
  · exact returns_ok _
  · exact returns_refuse _

lemma returns_ofValue (v : Value) : (ofValue v).Returns := by
  rw [ofValue.eq_def]
  split
  · exact returns_ok _
  · exact returns_ok _
  split
  · exact returns_ok _
  · exact returns_refuse _

end Truth

/-! ### The bytes of a filled text -/

/-- The bytes that a text brought to a length takes. -/
lemma paddedBytes_eq (atStart : Bool) (text : List Char) (length : Nat) (fill : List Char) :
    paddedBytes text length fill =
      (String.ofList (padded atStart text length fill)).utf8ByteSize := by
  rw [Text.utf8ByteSize_ofList, paddedBytes, padded]
  split
  · rfl
  split
  · rfl
  next hfill =>
    dsimp only
    rw [← Text.bytes_cycled (mt List.isEmpty_iff.mpr hfill)]
    cases atStart with
    | true => rw [if_pos rfl, Text.bytes_append, Nat.add_comm]
    | false => rw [if_neg Bool.false_ne_true, Text.bytes_append]

namespace Func

variable {f : Func} {args : Args} {message : String}

/-! ### Calls that overflow -/

/-- The text that a call makes of copies of others. -/
inductive Makes : Func → Args → String → Prop
  | replaced {args : Args} {s part by_ : String} : replace.text args 0 = .ok s →
      replace.text args 1 = .ok part → replace.text args 2 = .ok by_ →
      Makes replace args (Text.replaceAll s part by_)
  | replicated {args : Args} {s : String} {n : Nat} : replicate.text args 0 = .ok s →
      replicate.countOf args 1 = .ok n → Makes replicate args (Text.repeated s n)
  | padded {f : Func} {args : Args} {s fill : String} {n : Nat} : f = padStart ∨ f = padEnd →
      f.text args 0 = .ok s → f.countOf args 1 = .ok n →
      readOr args 2 " " (f.text args 2) = .ok fill →
      Makes f args (.ofList (Polysql.padded (f = padStart) s.toList n fill.toList))

/-- A call of a function panics: the text to be made has more bytes than a text can have, or an
integer has no room in its width. -/
inductive Overflows : Func → Args → String → Prop
  | text {f : Func} {args : Args} {s : String} : Makes f args s → Text.maxBytes < s.utf8ByteSize →
      Overflows f args "capacity overflow"
  | amount32 : Overflows abs [.int32 Int32.minValue] "attempt to negate with overflow"
  | amount64 : Overflows abs [.int64 Int64.minValue] "attempt to negate with overflow"
  | start {args : Args} {s : String} {x : Float} : substring.text args 0 = .ok s →
      substring.number args 1 = .ok x → Binary64.toInt64 x = Int64.minValue →
      Overflows substring args "attempt to subtract with overflow"
  | place {args : Args} {part s : String} {n : Nat} : position.text args 0 = .ok part →
      position.text args 1 = .ok s → Text.positionIn part.toList s.toList = some n →
      Int32.ofNat n = Int32.maxValue → Overflows position args "attempt to add with overflow"

/-- The functions that make texts out of copies of others. -/
def making : List Func :=
  [replace, replicate, padStart, padEnd]

/-- The functions that have calls which panic. -/
def overflowing : List Func :=
  [abs, substring, position] ++ making

lemma Makes.mem_making {s : String} (h : Makes f args s) : f ∈ making := by
  cases h with
  | padded hf => obtain rfl | rfl := hf <;> decide
  | replaced | replicated => decide

lemma Overflows.mem_overflowing (h : Overflows f args message) : f ∈ overflowing := by
  cases h with
  | text hmakes _ => exact List.mem_append_right _ hmakes.mem_making
  | amount32 | amount64 | start | place => decide

/-! ### Arguments -/

lemma returns_number (f : Func) (args : Args) (i : Nat) : (f.number args i).Returns := by
  rw [number]
  split <;> exact nofun

lemma returns_text (f : Func) (args : Args) (i : Nat) : (f.text args i).Returns := by
  rw [text]
  split <;> exact nofun

lemma returns_countOf (f : Func) (args : Args) (i : Nat) : (f.countOf args i).Returns :=
  (returns_number f args i).map _

lemma returns_readOr {α : Type} (i : Nat) (otherwise : α) {read : Evaluated α}
    (h : read.Returns) : (readOr args i otherwise read).Returns := by
  rw [readOr]
  split
  · exact h
  · exact returns_ok _

lemma returns_onNumber (f : Func) (args : Args) (g : Float → Float) :
    (f.onNumber args g).Returns :=
  (returns_number f args 0).map _

lemma returns_onText (f : Func) (args : Args) (g : String → String) : (f.onText args g).Returns :=
  (returns_text f args 0).map _

lemma returns_rounded (f : Func) (args : Args) (g : Float → Float) :
    (f.rounded args g).Returns := by
  rw [rounded.eq_def]
  split
  · exact returns_ok _
  · exact returns_ok _
  · exact returns_onNumber f args g

lemma returns_roundPlaces (args : Args) : (roundPlaces args).Returns := by
  refine (returns_readOr 1 0 (returns_number round args 1)).bind fun places => ?_
  exact (returns_number round args 0).bind fun _ => returns_ok _

lemma returns_extreme (wanted : Ordering) (args : Args) : (extreme wanted args).Returns := by
  have hbetter (best v : Value) : (better wanted best v).Returns := by
    rw [better]
    split <;> exact nofun
  rw [extreme.eq_def]
  split
  · exact returns_ok _
  next v vs =>
    induction vs generalizing v with
    | nil => exact returns_ok _
    | cons u us ih =>
      rw [List.foldlM_cons]
      exact (hbetter v u).bind ih

lemma returns_concatenated (args : Args) : (concatenated args).Returns := by
  refine Returns.bind ?_ fun _ => returns_ok _
  induction List.range args.length with
  | nil => exact returns_ok _
  | cons i is ih =>
    rw [List.mapM_cons]
    exact (returns_text concat args i).bind fun _ => ih.bind fun _ => returns_ok _

/-! ### Which calls panic -/

lemma amount_eq_panic_iff :
    amount args = .error (.panic message) ↔ Overflows abs args message := by
  constructor
  · intro h
    rw [amount.eq_def] at h
    split at h
    · split at h
      next hn =>
        cases h
        rw [hn]
        exact .amount32
      next => cases h
    · split at h
      next hn =>
        cases h
        rw [hn]
        exact .amount64
      next => cases h
    · cases h
    -- what is no integer and no decimal is taken as a double, which has room for its amount
    · exact absurd h (returns_onNumber abs args Float.abs message)
  · intro h
    cases h with
    | text hmakes _ => exact absurd hmakes.mem_making (by decide)
    | amount32 | amount64 => rfl

lemma predecessor_eq_panic_iff {n : Int64} : predecessor n = .error (.panic message) ↔
    n = Int64.minValue ∧ message = "attempt to subtract with overflow" := by
  rw [predecessor]
  split
  next h => rw [Except.error.injEq, Failure.panic.injEq, eq_comm, and_iff_right h]
  next h => exact iff_of_false nofun fun hn => h hn.1

lemma successor_eq_panic_iff {n : Int32} : successor n = .error (.panic message) ↔
    n = Int32.maxValue ∧ message = "attempt to add with overflow" := by
  rw [successor]
  split
  next h => rw [Except.error.injEq, Failure.panic.injEq, eq_comm, and_iff_right h]
  next h => exact iff_of_false nofun fun hn => h hn.1

lemma partOf_eq_panic_iff :
    partOf args = .error (.panic message) ↔ Overflows substring args message := by
  -- once the start is known, nothing else panics
  have hlength (first : Int64) (s : String) : Returns (do
      let length ← readOr args 2 s.length (substring.countOf args 2)
      return Value.string (String.ofList ((s.toList.drop first.toInt.toNat).take length))) :=
    (returns_readOr 2 s.length (returns_countOf substring args 2)).bind fun _ => returns_ok _
  rw [partOf, (returns_text substring args 0).bind_eq_panic_iff]
  simp only [(returns_number substring args 1).bind_eq_panic_iff]
  constructor
  · rintro ⟨s, hs, x, hx, h⟩
    rw [bind_eq_panic_iff_left fun first => hlength first s, predecessor_eq_panic_iff] at h
    obtain ⟨hmin, rfl⟩ := h
    exact .start hs hx hmin
  · intro h
    cases h with
    | text hmakes _ => exact absurd hmakes.mem_making (by decide)
    | start hs hx hmin =>
      refine ⟨_, hs, _, hx, ?_⟩
      rw [bind_eq_panic_iff_left fun first => hlength first _, predecessor_eq_panic_iff]
      exact ⟨hmin, rfl⟩

lemma positionOf_eq_panic_iff :
    positionOf args = .error (.panic message) ↔ Overflows position args message := by
  rw [positionOf, (returns_text position args 0).bind_eq_panic_iff]
  simp only [(returns_text position args 1).bind_eq_panic_iff]
  constructor
  · rintro ⟨part, hpart, s, hs, h⟩
    split at h
    next n hn =>
      rw [bind_eq_panic_iff_left fun _ => returns_pure _, successor_eq_panic_iff] at h
      obtain ⟨hmax, rfl⟩ := h
      exact .place hpart hs hn hmax
    next => cases h
  · intro h
    -- the case of a long text is that of other functions
    cases h with
    | text hmakes _ => exact absurd hmakes.mem_making (by decide)
    | place hpart hs hn hmax =>
      refine ⟨_, hpart, _, hs, ?_⟩
      rw [hn]
      exact (bind_eq_panic_iff_left fun _ => returns_pure _).mpr
        (successor_eq_panic_iff.mpr ⟨hmax, rfl⟩)

lemma replaced_eq_panic_iff :
    replaced args = .error (.panic message) ↔ Overflows replace args message := by
  rw [replaced, (returns_text replace args 0).bind_eq_panic_iff]
  simp only [(returns_text replace args 1).bind_eq_panic_iff,
    (returns_text replace args 2).bind_eq_panic_iff, checkRoom_bind_eq_panic_iff]
  constructor
  · rintro ⟨s, hs, part, hpart, by_, hby, hroom, rfl⟩
    exact .text (.replaced hs hpart hby) hroom
  · intro h
    cases h with
    | text hmakes hroom =>
      cases hmakes with
      | replaced hs hpart hby => exact ⟨_, hs, _, hpart, _, hby, hroom, rfl⟩
      | padded hf => exact absurd hf (by decide)

lemma replicated_eq_panic_iff :
    replicated args = .error (.panic message) ↔ Overflows replicate args message := by
  rw [replicated, (returns_text replicate args 0).bind_eq_panic_iff]
  simp only [(returns_countOf replicate args 1).bind_eq_panic_iff, checkRoom_bind_eq_panic_iff,
    ← Text.utf8ByteSize_repeated]
  constructor
  · rintro ⟨s, hs, n, hn, hroom, rfl⟩
    exact .text (.replicated hs hn) hroom
  · intro h
    cases h with
    | text hmakes hroom =>
      cases hmakes with
      | replicated hs hn => exact ⟨_, hs, _, hn, hroom, rfl⟩
      | padded hf => exact absurd hf (by decide)

lemma pad_eq_panic_iff (hf : f = padStart ∨ f = padEnd) :
    f.pad args = .error (.panic message) ↔ Overflows f args message := by
  rw [pad, (returns_text f args 0).bind_eq_panic_iff]
  simp only [(returns_countOf f args 1).bind_eq_panic_iff,
    (returns_readOr 2 " " (returns_text f args 2)).bind_eq_panic_iff, checkRoom_bind_eq_panic_iff,
    paddedBytes_eq (f = padStart)]
  constructor
  · rintro ⟨s, hs, n, hn, fill, hfill, hroom, rfl⟩
    exact .text (.padded hf hs hn hfill) hroom
  · intro h
    cases h with
    | text hmakes hroom =>
      cases hmakes with
      | padded _ hs hn hfill => exact ⟨_, hs, _, hn, _, hfill, hroom, rfl⟩
      | replaced | replicated => exact absurd hf (by decide)
    | amount32 | amount64 | start | place => exact absurd hf (by decide)

/-- A function that looks at values panics on them exactly if the call overflows. -/
lemma applyStrict_eq_panic_iff :
    f.applyStrict args = .error (.panic message) ↔ Overflows f args message := by
  -- the functions without such calls, of which nothing but the outcome is to be seen
  have hother (hmem : f ∉ overflowing) (hreturns : (f.applyStrict args).Returns) :
      f.applyStrict args = .error (.panic message) ↔ Overflows f args message :=
    iff_of_false (hreturns message) fun h => hmem h.mem_overflowing
  cases f with
  | abs => exact amount_eq_panic_iff
  | substring => exact partOf_eq_panic_iff
  | position => exact positionOf_eq_panic_iff
  | replace => exact replaced_eq_panic_iff
  | replicate => exact replicated_eq_panic_iff
  | padStart => exact pad_eq_panic_iff (.inl rfl)
  | padEnd => exact pad_eq_panic_iff (.inr rfl)
  | ceil | floor => exact hother (by decide) (returns_rounded _ args _)
  | round => exact hother (by decide) (returns_roundPlaces args)
  | sqrt | exp | ln | sin | cos | tan | sinh | cosh | tanh | coth =>
    exact hother (by decide) (returns_onNumber _ args _)
  | log =>
    exact hother (by decide) ((returns_number log args 1).bind fun _ =>
      (returns_number log args 0).bind fun _ => returns_ok _)
  | power =>
    exact hother (by decide) ((returns_number power args 0).bind fun _ =>
      (returns_number power args 1).bind fun _ => returns_ok _)
  | sign => exact hother (by decide) ((returns_number sign args 0).map _)
  | least | greatest => exact hother (by decide) (returns_extreme _ args)
  | upper | lower | trim | trimStart | trimEnd =>
    exact hother (by decide) (returns_onText _ args _)
  | charLength => exact hother (by decide) ((returns_text charLength args 0).map _)
  | concat => exact hother (by decide) (returns_concatenated args)
  | left =>
    exact hother (by decide) ((returns_text left args 0).bind fun _ =>
      (returns_countOf left args 1).bind fun _ => returns_ok _)
  | right =>
    exact hother (by decide) ((returns_text right args 0).bind fun _ =>
      (returns_countOf right args 1).bind fun _ => returns_ok _)
  | custom name =>
    exact hother (by simp [overflowing, making]) (returns_refuse _)
  | _ => exact hother (by decide) (returns_refuse _)

/-- **Calls that panic.** A call panics exactly if none of its arguments is NULL and it overflows: a
text is to be made that has more bytes than a text can have, or an integer has no room. -/
theorem apply_eq_panic_iff : f.apply args = .error (.panic message) ↔
    (∀ v ∈ args, v.isNull = false) ∧ Overflows f args message := by
  -- the functions that look at NULL themselves choose among their arguments
  have hchoice {x : Evaluated Value} (hmem : f ∉ overflowing) (hx : x.Returns) :
      x = .error (.panic message) ↔
        (∀ v ∈ args, v.isNull = false) ∧ Overflows f args message :=
    iff_of_false (hx message) fun h => hmem h.2.mem_overflowing
  rw [apply.eq_def]
  split
  · exact hchoice (by decide) (returns_ok _)
  · exact hchoice (by decide) (returns_ok _)
  · refine hchoice (by decide) ?_
    split
    · exact returns_ok _
    · exact returns_refuse _
  · refine hchoice (by decide) ?_
    split
    · exact returns_ok _
    · exact returns_refuse _
  split
  next hnull =>
    obtain ⟨v, hv, hvnull⟩ := List.any_eq_true.mp hnull
    exact iff_of_false nofun fun h => Bool.false_ne_true ((h.1 v hv).symm.trans hvnull)
  next hnull =>
    rw [applyStrict_eq_panic_iff, and_iff_right]
    exact fun v hv => Bool.eq_false_iff.mpr fun hv' => hnull (List.any_eq_true.mpr ⟨v, hv, hv'⟩)

end Func

end Polysql
