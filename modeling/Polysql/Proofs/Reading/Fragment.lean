import Polysql.Proofs.Reading.Token
import Polysql.Proofs.Writing.Text
/-!
Fixed texts that run into each other. The tokens of a draft are those of its pieces, each taken by
itself, but in the written text there is no border between two fixed texts: `~` and `~` make up
`~~`. So fixed texts that stand next to each other are joined (`Draft.joined`) until no two of them
are left side by side (`Piece.isChain_join`), which changes nothing of what is written
(`Style.run_joined`). The tokens of a draft are those of the text if and only if no fixed text runs
into the next one (`Draft.tokens_joined_iff`), and delimiters at the ends of texts keep them apart
(`Draft.Clear`).
-/

namespace Polysql

/-! ### Delimiters -/

/-- What a character that is no part of a longer token is seen as: nothing if it is a blank. -/
def delimiter? (c : Char) : Option (List Token) :=
  if c = ' ' then some []
  else if c = '(' then some [.opening]
  else if c = ')' then some [.closing]
  else if c = ',' then some [.comma]
  else none

lemma tokensAfter_delimiter {c : Char} {ts : List Token} (h : delimiter? c = some ts)
    (pending cs : List Char) :
    tokensAfter pending (c :: cs) = pendingToken pending ++ (ts ++ tokensAfter [] cs) := by
  rw [tokensAfter.eq_def]
  dsimp only
  -- the four delimiters, in the order in which the tokens are told apart
  rw [delimiter?] at h
  split at h
  next hc => cases h; rw [if_pos hc]; rfl
  next hblank =>
  rw [if_neg hblank]
  split at h
  next hc => cases h; rw [if_pos hc]; rfl
  next hopening =>
  rw [if_neg hopening]
  split at h
  next hc => cases h; rw [if_pos hc]; rfl
  next hclosing =>
  rw [if_neg hclosing]
  split at h
  next hc => cases h; rw [if_pos hc]; rfl
  next => cases h

lemma tokensAfter_cons {c : Char} (h : delimiter? c = none) (pending cs : List Char) :
    tokensAfter pending (c :: cs) =
      match pending with
      | [] => tokensAfter [c] cs
      | p :: _ =>
        if isWordChar p == isWordChar c then tokensAfter (c :: pending) cs
        else pendingToken pending ++ tokensAfter [c] cs := by
  have hne (d : Char) (hd : delimiter? d ≠ none) : c ≠ d := by
    rintro rfl
    exact hd h
  rw [tokensAfter.eq_def]
  cases pending <;>
    simp only [if_neg (hne ' ' (by decide)), if_neg (hne '(' (by decide)),
      if_neg (hne ')' (by decide)), if_neg (hne ',' (by decide))]

/-! ### Two texts -/

/-- Two characters next to each other are part of one token. -/
def sticks (c d : Char) : Bool :=
  (delimiter? c).isNone && (delimiter? d).isNone && isWordChar c == isWordChar d

/-- A character, if there is one, is part of the first token of what follows. -/
def sticksTo (last? : Option Char) (ds : List Char) : Bool :=
  match last?, ds.head? with
  | some c, some d => sticks c d
  | _, _ => false

/-- The last token of a text goes on in the next text. -/
def runsInto (s t : String) : Bool :=
  sticksTo s.toList.getLast? t.toList

/-- The tokens of a whole are those of its two parts, but for one that they have in common. -/
def Share (shared : Bool) (whole first second : List Token) : Prop :=
  if shared then whole.length + 1 = first.length + second.length else whole = first ++ second

lemma Share.behind {shared : Bool} {whole first second : List Token}
    (h : Share shared whole first second) (before : List Token) :
    Share shared (before ++ whole) (before ++ first) second := by
  cases shared with
  | false => exact (congrArg (before ++ ·) h).trans (List.append_assoc ..).symm
  | true =>
    change whole.length + 1 = first.length + second.length at h
    change (before ++ whole).length + 1 = (before ++ first).length + second.length
    rw [List.length_append, List.length_append]
    omega

lemma Share.inFrontOf {shared : Bool} {whole first second : List Token}
    (h : Share shared whole first second) (after : List Token) :
    Share shared (whole ++ after) first (second ++ after) := by
  cases shared with
  | false => exact (congrArg (· ++ after) h).trans (List.append_assoc ..)
  | true =>
    change whole.length + 1 = first.length + second.length at h
    change (whole ++ after).length + 1 = first.length + (second ++ after).length
    rw [List.length_append, List.length_append]
    omega

lemma Share.length_eq {shared : Bool} {whole first second : List Token}
    (h : Share shared whole first second) :
    whole.length + (if shared then 1 else 0) = first.length + second.length := by
  cases shared with
  | false => exact (congrArg List.length h).trans List.length_append
  | true => exact h

lemma length_pendingToken_cons (c : Char) (cs : List Char) :
    (pendingToken (c :: cs)).length = 1 := rfl

/-- Of a token that has begun, only its last character counts for those that follow. -/
lemma length_tokensAfter (c : Char) (before before' cs : List Char) :
    (tokensAfter (c :: before) cs).length = (tokensAfter (c :: before') cs).length := by
  induction cs generalizing c before before' with
  | nil => rfl
  | cons d cs ih =>
    cases hd : delimiter? d with
    | some ts =>
      simp only [tokensAfter_delimiter hd, List.length_append, length_pendingToken_cons]
    | none =>
      simp only [tokensAfter_cons hd]
      split
      · exact ih d (c :: before) (c :: before')
      · simp only [List.length_append, length_pendingToken_cons]

lemma sticksTo_of_delimiter {c : Char} {ts : List Token} (h : delimiter? c = some ts)
    (last? : Option Char) (ds : List Char) :
    sticksTo (last?.or (some c)) ds = sticksTo last? ds := by
  cases last? with
  | some _ => rfl
  | none => cases ds <;> simp [sticksTo, sticks, h]

/-- A token that has begun, and a further text. -/
lemma share_pending {pending : List Char} (hpending : ∀ c ∈ pending.head?, delimiter? c = none)
    (ds : List Char) :
    Share (sticksTo pending.head? ds) (tokensAfter pending ds) (pendingToken pending)
      (tokensAfter [] ds) := by
  cases ds with
  | nil =>
    have hnothing : sticksTo pending.head? [] = false := by cases pending <;> rfl
    rw [hnothing]
    exact (List.append_nil _).symm
  | cons d ds =>
    cases hd : delimiter? d with
    | some ts =>
      have hborder : sticksTo pending.head? (d :: ds) = false := by
        cases pending <;> simp [sticksTo, sticks, hd]
      rw [hborder, tokensAfter_delimiter hd, tokensAfter_delimiter hd]
      rfl
    | none =>
      rw [tokensAfter_cons hd, tokensAfter_cons hd]
      cases pending with
      | nil => exact (List.nil_append _).symm
      | cons p ps =>
        have hborder : sticksTo (p :: ps).head? (d :: ds) = (isWordChar p == isWordChar d) := by
          simp [sticksTo, sticks, hpending p rfl, hd]
        rw [hborder]
        dsimp only
        cases hsame : isWordChar p == isWordChar d with
        | false => rfl
        -- both are part of one token, whose length does not depend on how it has begun
        | true =>
          change (tokensAfter (d :: p :: ps) ds).length + 1 = 1 + (tokensAfter [d] ds).length
          rw [length_tokensAfter d (p :: ps) [], Nat.add_comm]

/-- The tokens of two texts, of which the first has been read in part. -/
lemma share_tokensAfter (pending : List Char)
    (hpending : ∀ c ∈ pending.head?, delimiter? c = none) (cs ds : List Char) :
    Share (sticksTo (cs.getLast?.or pending.head?) ds) (tokensAfter pending (cs ++ ds))
      (tokensAfter pending cs) (tokensAfter [] ds) := by
  induction cs generalizing pending with
  | nil => exact share_pending hpending ds
  | cons c cs ih =>
    -- the text ends as its rest does, or with `c` if there is no rest
    have hlast : (c :: cs).getLast?.or pending.head? = cs.getLast?.or (some c) := by
      cases cs with
      | nil => rfl
      | cons d cs =>
        rw [List.getLast?_cons_cons]
        cases h : (d :: cs).getLast? with
        | none => simp at h
        | some _ => rfl
    rw [hlast, List.cons_append]
    cases hc : delimiter? c with
    | some ts =>
      have hrest := ih [] nofun
      rw [List.head?_nil, Option.or_none] at hrest
      rw [sticksTo_of_delimiter hc, tokensAfter_delimiter hc, tokensAfter_delimiter hc]
      exact (hrest.behind ts).behind (pendingToken pending)
    | none =>
      have hgoesOn (before : List Char) := ih (c :: before) fun d hd => by
        obtain rfl : c = d := Option.some.inj hd
        exact hc
      rw [tokensAfter_cons hc, tokensAfter_cons hc]
      cases pending with
      | nil => exact hgoesOn []
      | cons p ps =>
        dsimp only
        split
        · exact hgoesOn (p :: ps)
        · exact (hgoesOn []).behind (pendingToken (p :: ps))

/-- The tokens of two texts, one after the other. -/
lemma share_tokensOfText (s t : String) :
    Share (runsInto s t) (tokensOfText (s ++ t)) (tokensOfText s) (tokensOfText t) := by
  have h := share_tokensAfter [] nofun s.toList t.toList
  rwa [List.head?_nil, Option.or_none, ← String.toList_append] at h

/-! ### Fixed texts next to each other -/

/-- The text of a piece that is fixed. The start of a clause is a blank, unless there is a layout.
-/
def Piece.fixed? : Piece → Option String
  | .text s => some s
  | .clause _ => some " "
  | _ => none

/-- A fixed text in front of pieces, as part of the first one if that is a fixed text too. -/
def Piece.inFront (s : String) : List Piece → List Piece
  | .text t :: ps => .text (s ++ t) :: ps
  | ps => .text s :: ps

/-- The pieces with the fixed texts joined that stand next to each other. -/
def Piece.join : List Piece → List Piece
  | [] => []
  | p :: ps =>
    match p.fixed? with
    | some s => inFront s (join ps)
    | none => p :: join ps

/-- A fixed text runs into what stands behind it. -/
def Piece.runsIntoNext (s : String) : List Piece → Bool
  | .text t :: _ => runsInto s t
  | _ => false

/-- How many fixed texts run into what stands behind them. -/
def Piece.glued : List Piece → Nat
  | [] => 0
  | p :: ps =>
    match p.fixed? with
    | some s => (if runsIntoNext s (join ps) then 1 else 0) + glued ps
    | none => glued ps

namespace Piece

lemma tokens_of_fixed {p : Piece} {s : String} (h : p.fixed? = some s) :
    p.tokens = tokensOfText s := by
  cases p <;> cases h <;> rfl

lemma share_inFront (s : String) (ps : List Piece) :
    Share (runsIntoNext s ps) ((inFront s ps).flatMap tokens) (tokensOfText s)
      (ps.flatMap tokens) := by
  rw [inFront.eq_def, runsIntoNext.eq_def]
  split
  next t ps =>
    simp only [List.flatMap_cons]
    exact (share_tokensOfText s t).inFrontOf (ps.flatMap tokens)
  next => exact List.flatMap_cons

/-- Every fixed text that runs into another one costs a token. -/
lemma length_tokens_join (ps : List Piece) :
    ((join ps).flatMap tokens).length + glued ps = (ps.flatMap tokens).length := by
  induction ps with
  | nil => rfl
  | cons p ps ih =>
    rw [join, glued, List.flatMap_cons, List.length_append, ← ih]
    cases hp : p.fixed? with
    | none => rw [List.flatMap_cons, List.length_append, Nat.add_assoc]
    | some s =>
      have h := (share_inFront s (join ps)).length_eq
      rw [tokens_of_fixed hp]
      dsimp only
      omega

lemma tokens_join {ps : List Piece} (h : glued ps = 0) :
    (join ps).flatMap tokens = ps.flatMap tokens := by
  induction ps with
  | nil => rfl
  | cons p ps ih =>
    rw [join, List.flatMap_cons]
    rw [glued] at h
    cases hp : p.fixed? with
    | none =>
      rw [hp] at h
      rw [List.flatMap_cons, ih h]
    | some s =>
      rw [hp] at h
      obtain ⟨hborder, hrest⟩ := Nat.add_eq_zero_iff.mp h
      have hapart : runsIntoNext s (join ps) = false := by
        cases hruns : runsIntoNext s (join ps) with
        | false => rfl
        | true => simp [hruns] at hborder
      have hshare := share_inFront s (join ps)
      rw [hapart] at hshare
      rw [tokens_of_fixed hp, ← ih hrest]
      exact hshare

/-- What is fixed in joined pieces is a text. -/
lemma fixed_of_mem_join {ps : List Piece} {p : Piece} (h : p ∈ join ps) :
    p.fixed? = none ∨ ∃ s, p = .text s := by
  induction ps generalizing p with
  | nil => cases h
  | cons q ps ih =>
    rw [join] at h
    cases hq : q.fixed? with
    | none =>
      rw [hq] at h
      obtain rfl | h := List.mem_cons.mp h
      · exact .inl hq
      · exact ih h
    | some s =>
      rw [hq] at h
      dsimp only at h
      -- the text may be put in front of a text that is joined already
      rw [inFront.eq_def] at h
      split at h
      next t qs heq =>
        obtain rfl | h := List.mem_cons.mp h
        · exact .inr ⟨_, rfl⟩
        · exact ih (heq ▸ List.mem_cons_of_mem _ h)
      next =>
        obtain rfl | h := List.mem_cons.mp h
        · exact .inr ⟨_, rfl⟩
        · exact ih h

/-- No two fixed texts are left next to each other. -/
lemma isChain_join (ps : List Piece) :
    (join ps).IsChain fun p q => p.fixed? = none ∨ q.fixed? = none := by
  induction ps with
  | nil => exact List.IsChain.nil
  | cons p ps ih =>
    rw [join]
    cases hp : p.fixed? with
    | none => exact ih.cons fun q _ => .inl hp
    | some s =>
      dsimp only
      rw [inFront.eq_def]
      split
      next t qs heq =>
        -- what stands behind the longer text stands behind its end
        rw [heq] at ih
        exact ih.tail.cons fun q hq => .inr (((List.isChain_cons.mp ih).1 q hq).resolve_left nofun)
      next hne =>
        refine ih.cons fun q hq => .inr ?_
        obtain ⟨qs, hqs⟩ := List.head?_eq_some_iff.mp hq
        refine (fixed_of_mem_join (hqs ▸ List.mem_cons_self)).resolve_right ?_
        rintro ⟨t, rfl⟩
        exact hne t qs hqs

end Piece

/-! ### Drafts -/

/-- The draft with the fixed texts joined that stand next to each other. -/
def Draft.joined (d : Draft) : Draft :=
  ⟨Piece.join d.pieces, d.error?⟩

namespace Style

variable {st : Style}

lemma writePieces_inFront (s : String) (ps : List Piece) {r : Written} (hr : r.error? = none) :
    st.writePieces r (Piece.inFront s ps) = st.writePieces (r.add s) ps := by
  have htext (t : String) (qs : List Piece) {r : Written} (hr : r.error? = none) :
      st.writePieces r (.text t :: qs) = st.writePieces (r.add t) qs := by
    rw [writePieces, writePiece, show (r.add t).error? = none from hr]
  rw [Piece.inFront.eq_def]
  split
  next t qs =>
    rw [htext _ _ hr, htext _ _ (show (r.add s).error? = none from hr), Written.add, Written.add,
      Written.add, String.append_assoc]
  next => exact htext s _ hr

/-- Without a layout, the joined draft is written as the draft is. -/
lemma writePieces_join (hst : st.settings.formatted = false) (ps : List Piece) {r : Written}
    (hr : r.error? = none) : st.writePieces r (Piece.join ps) = st.writePieces r ps := by
  induction ps generalizing r with
  | nil => rfl
  | cons p ps ih =>
    rw [Piece.join, writePieces]
    cases hp : p.fixed? with
    | some s =>
      have hadd : st.writePiece r p = r.add s := by
        cases p with
        | text => cases hp; rfl
        | clause depth =>
          cases hp
          rw [writePiece, separator, hst]
          rfl
        | _ => cases hp
      have hnone : (r.add s).error? = none := hr
      -- `inFront` writes the text first, and then what stood there
      dsimp only
      rw [writePieces_inFront s _ hr, ih hnone, hadd, hnone]
    | none =>
      dsimp only
      rw [writePieces]
      cases hpiece : (st.writePiece r p).error? with
      | some e => rfl
      | none => exact ih hpiece

lemma run_joined (hst : st.settings.formatted = false) (d : Draft) {r : Written}
    (hr : r.error? = none) : st.run r d.joined = st.run r d := by
  rw [run_eq, run_eq, Draft.joined, writePieces_join hst d.pieces hr]

end Style

namespace Draft

/-- The tokens of a draft are those of the text if and only if no fixed text runs into the next. -/
theorem tokens_joined_iff (d : Draft) : d.joined.tokens = d.tokens ↔ Piece.glued d.pieces = 0 := by
  refine ⟨fun h => ?_, Piece.tokens_join⟩
  have hlength := Piece.length_tokens_join d.pieces
  rw [show (Piece.join d.pieces).flatMap Piece.tokens = d.pieces.flatMap Piece.tokens from h]
    at hlength
  omega

/-- The complement of a complement is drafted as two signs, and read as one. -/
example (a : NamePart) :
    let d : Draft := "~" ++ ("~" ++ ofPiece (.name a))
    d.tokens = [.sign "~", .sign "~", .part a] ∧ d.joined.tokens = [.sign "~~", .part a] :=
  ⟨rfl, rfl⟩

end Draft

/-! ### Texts with a delimiter at an end -/

/-- No token goes on in the text. -/
def opens (s : String) : Bool :=
  s.toList.head?.any fun c => (delimiter? c).isSome

/-- No token of the text goes on behind it. -/
def closes (s : String) : Bool :=
  s.toList.getLast?.all fun c => (delimiter? c).isSome

lemma runsInto_of_opens (s : String) {t : String} (h : opens t = true) : runsInto s t = false := by
  rw [runsInto, sticksTo.eq_def]
  split
  next c d _ hd =>
    rw [opens, hd] at h
    simp [sticks, Option.isNone_eq_false_iff.mpr h]
  next => rfl

lemma runsInto_of_closes {s : String} (h : closes s = true) (t : String) :
    runsInto s t = false := by
  rw [runsInto, sticksTo.eq_def]
  split
  next c d hc _ =>
    rw [closes, hc] at h
    simp [sticks, Option.isNone_eq_false_iff.mpr h]
  next => rfl

namespace Piece

lemma runsIntoNext_of_closes {s : String} (h : closes s = true) (ps : List Piece) :
    runsIntoNext s ps = false := by
  rw [runsIntoNext.eq_def]
  split
  next t _ => exact runsInto_of_closes h t
  next => rfl

/-- What a text meets in front of others is the first of them that is not empty. -/
lemma runsIntoNext_inFront (s t : String) (ps : List Piece) :
    runsIntoNext s (inFront t ps) = if t = "" then runsIntoNext s ps else runsInto s t := by
  have hfirst (u : String) (ht : t ≠ "") : runsInto s (t ++ u) = runsInto s t := by
    cases hchars : t.toList with
    | nil => exact absurd (String.toList_eq_nil_iff.mp hchars) ht
    | cons c cs => rw [runsInto, runsInto, String.toList_append, hchars]; rfl
  rw [inFront.eq_def]
  split
  next u ps =>
    split
    next ht => rw [ht, String.empty_append]
    next ht => exact hfirst u ht
  next hne =>
    change runsInto s t = _
    split
    next ht =>
      have hnext : runsIntoNext s ps = false := by
        rw [runsIntoNext.eq_def]
        split
        next u qs => exact absurd rfl (hne u qs)
        next => rfl
      rw [hnext, ht, runsInto]
      cases s.toList.getLast? <;> rfl
    next => rfl

lemma runsIntoNext_join_append {s : String} (hs : opens s = true) (t : String)
    (ps qs : List Piece) :
    runsIntoNext t (join (ps ++ .text s :: qs)) = runsIntoNext t (join ps) := by
  induction ps with
  | nil =>
    have hs' : s ≠ "" := by
      rintro rfl
      exact Bool.false_ne_true hs
    change runsIntoNext t (inFront s (join qs)) = false
    rw [runsIntoNext_inFront, if_neg hs', runsInto_of_opens t hs]
  -- an empty text lets the one in front of it see what comes behind
  | cons p ps ih =>
    rw [List.cons_append, join, join]
    cases hp : p.fixed? with
    | none =>
      cases p with
      | text => cases hp
      | _ => rfl
    | some u =>
      dsimp only
      rw [runsIntoNext_inFront, runsIntoNext_inFront, ih]

lemma glued_text {s : String} (hs : closes s = true) (ps : List Piece) :
    glued (.text s :: ps) = glued ps := by
  rw [glued]
  dsimp only [fixed?]
  rw [runsIntoNext_of_closes hs]
  exact Nat.zero_add _

lemma glued_append_text {s : String} (hs : opens s = true) (ps qs : List Piece) :
    glued (ps ++ .text s :: qs) = glued ps + glued (.text s :: qs) := by
  induction ps with
  | nil => exact (Nat.zero_add _).symm
  | cons p ps ih =>
    rw [List.cons_append, glued, glued, ih]
    cases p.fixed? with
    | none => rfl
    | some t =>
      dsimp only
      rw [runsIntoNext_join_append hs, Nat.add_assoc]

end Piece

namespace Draft

/-- A draft that does not fail, and whose tokens are those of its text. -/
structure Clear (d : Draft) : Prop where
  error? : d.error? = none
  glued : Piece.glued d.pieces = 0

variable {a b : Draft} {s : String}

lemma clear_text_append (hs : closes s = true) : (text s ++ a).Clear ↔ a.Clear := by
  have h : Piece.glued (text s ++ a).pieces = Piece.glued a.pieces := Piece.glued_text hs a.pieces
  exact ⟨fun ha => ⟨ha.error?, h.symm.trans ha.glued⟩, fun ha => ⟨ha.error?, h.trans ha.glued⟩⟩

lemma clear_append_text_append (hs : opens s = true) :
    (a ++ (text s ++ b)).Clear ↔ a.Clear ∧ (text s ++ b).Clear := by
  obtain ⟨ps, _ | e⟩ := a
  · have h := Piece.glued_append_text hs ps b.pieces
    constructor
    · intro hab
      have hzero := Nat.add_eq_zero_iff.mp (h.symm.trans hab.glued)
      exact ⟨⟨rfl, hzero.1⟩, ⟨hab.error?, hzero.2⟩⟩
    · intro hab
      exact ⟨hab.2.error?, h.trans (Nat.add_eq_zero_iff.mpr ⟨hab.1.glued, hab.2.glued⟩)⟩
  · exact ⟨fun hab => (nomatch hab.error?), fun hab => (nomatch hab.1.error?)⟩

lemma clear_text (s : String) : (text s).Clear :=
  ⟨rfl, rfl⟩

lemma clear_append_text (hs : opens s = true) : (a ++ text s).Clear ↔ a.Clear := by
  rw [← append_empty (text s), clear_append_text_append hs, append_empty]
  exact and_iff_left (clear_text s)

lemma Clear.around (ha : a.Clear) (hopens : opens s = true) (hcloses : closes s = true)
    (hb : b.Clear) : (a ++ text s ++ b).Clear := by
  rw [append_assoc, clear_append_text_append hopens, clear_text_append hcloses]
  exact ⟨ha, hb⟩

lemma Clear.enclosed {t : String} (ha : a.Clear) (hs : closes s = true) (ht : opens t = true) :
    (text s ++ a ++ text t).Clear := by
  rw [clear_append_text ht, clear_text_append hs]
  exact ha

lemma clear_separated (hopens : opens s = true) (hcloses : closes s = true) {ds : List Draft}
    (h : ∀ d ∈ ds, d.Clear) : (separated s ds).Clear := by
  induction ds with
  | nil => exact ⟨rfl, rfl⟩
  | cons d ds ih =>
    obtain ⟨hd, hds⟩ := List.forall_mem_cons.mp h
    cases ds with
    | nil => exact hd
    | cons d' ds =>
      exact hd.around hopens hcloses (ih hds)

/-- The texts between the parts of a name do not touch. -/
lemma clear_column (s : Scope) (n : Name) : (column s n).Clear := by
  have hnames (ps : List NamePart) :
      (separated "." (ps.map fun p => ofPiece (.name p))).Clear := by
    induction ps with
    | nil => exact ⟨rfl, rfl⟩
    | cons p ps ih =>
      cases ps with
      | nil => exact ⟨rfl, rfl⟩
      | cons q ps =>
        have hnext : ∃ qs, (separated "." ((q :: ps).map fun p => ofPiece (.name p))).pieces =
            .name q :: qs := by
          cases ps <;> exact ⟨_, rfl⟩
        obtain ⟨qs, hqs⟩ := hnext
        have hglued := ih.glued
        rw [hqs] at hglued
        refine ⟨ih.error?, ?_⟩
        change Piece.glued (.name p :: .text "." ::
          (separated "." ((q :: ps).map fun p => ofPiece (.name p))).pieces) = 0
        rw [hqs]
        exact (Nat.zero_add _).trans hglued
  rw [column]
  split
  · exact hnames n.parts
  · rw [unqualified]
    cases n.parts.getLast? with
    | none => exact ⟨rfl, rfl⟩
    | some p => exact ⟨rfl, rfl⟩

end Draft

end Polysql
