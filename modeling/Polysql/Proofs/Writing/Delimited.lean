import Polysql.Proofs.Text.Delimited
import Polysql.Proofs.Writing.Text
/-!
String literals and names between delimiters, as an engine reads them. A literal stands for the text
that it was made of, and nothing in that text ends it early (`Dialect.readString?_literal`). Where
all parts of names are quoted, a name is read part by part as it was, whatever dots and delimiters
its parts hold (`Style.readParts?_qualified`).
-/

namespace Polysql

open Text (delimited? delimitedChar)

/-! ### String literals -/

/-- A dialect without a version brings its whole family into a set. -/
lemma DialectSet.contains_since_families {ds : List Dialect} (h : ∀ e ∈ ds, e.isFamily = true)
    (d : Dialect) : (since ds).contains d = ds.any fun e => d.family == e.family := by
  rw [since, Bool.eq_iff_iff, List.any_eq_true, List.any_eq_true]
  refine exists_congr fun e => and_congr_right fun he => ?_
  rw [h e he, Bool.true_or, Bool.and_true]

namespace Dialect

variable (d : Dialect)

/-- In a string literal, the engine takes the character after a backslash as it is. -/
def takesBackslash : Bool :=
  d.family == .mySql || d.family == .mariaDb

/-- How an engine reads the string literal in front of a text: what it stands for, and the text
behind it. -/
def readString? : List Char → Option (String × List Char)
  | '\'' :: cs => (delimited? '\'' d.takesBackslash cs).map (Prod.map String.ofList id)
  | _ => none

lemma contains_backslashEscapes : Feature.backslashEscapes.contains d = d.takesBackslash := by
  rw [Feature.backslashEscapes, DialectSet.contains_since_families (by decide), takesBackslash,
    List.any_cons, List.any_cons, List.any_nil, Bool.or_false]
  rfl

lemma stringChar_eq : d.stringChar = delimitedChar '\'' d.takesBackslash := by
  funext c
  rw [stringChar, delimitedChar, contains_backslashEscapes]
  by_cases hquote : c = '\''
  · rw [if_pos hquote, if_pos (.inl hquote), hquote]
  · by_cases hbackslash : c = '\\' ∧ d.takesBackslash = true
    · rw [if_neg hquote, if_pos hbackslash, if_pos (.inr hbackslash), hbackslash.1]
    · rw [if_neg hquote, if_neg hbackslash, if_neg (not_or.mpr ⟨hquote, hbackslash⟩)]

lemma stringLiteral_toList (s : String) :
    (d.stringLiteral s).toList =
      '\'' :: (s.toList.flatMap (delimitedChar '\'' d.takesBackslash) ++ ['\'']) := by
  rw [stringLiteral, String.toList_ofList, stringChar_eq]

/-- The literal in front of a text that goes on with no quote. -/
lemma readString?_append (s : String) {rest : List Char} (h : rest.head? ≠ some '\'') :
    d.readString? ((d.stringLiteral s).toList ++ rest) = some (s, rest) := by
  rw [stringLiteral_toList, List.cons_append, readString?, List.append_assoc, List.singleton_append,
    Text.delimited?_flatMap '\'' _ _ h, Option.map_some, Prod.map, String.ofList_toList, id]

/-- **String literals.** The literal of a text is read as this text, and reading stops where the
literal ends, whatever follows it but another quote. So two texts have different literals. -/
theorem readString?_literal :
    (∀ (s : String) (type : DataType), ∃ text, d.literal type (.string s) = .ok text ∧
      ∀ rest : List Char, rest.head? ≠ some '\'' →
        d.readString? (text.toList ++ rest) = some (s, rest)) ∧
    ∀ (s t : String) (type type' : DataType),
      d.literal type (.string s) = d.literal type' (.string t) ↔ s = t := by
  refine ⟨fun s type => ⟨d.stringLiteral s, rfl, fun rest => d.readString?_append s⟩,
    fun s t type type' => ⟨fun h => ?_, fun h => congrArg (Except.ok ∘ d.stringLiteral) h⟩⟩
  have hliteral : d.stringLiteral s = d.stringLiteral t := Except.ok.inj h
  have hs : d.readString? ((d.stringLiteral s).toList ++ []) = some (s, []) :=
    d.readString?_append s (by simp)
  rw [hliteral, d.readString?_append t (by simp)] at hs
  exact (congrArg Prod.fst (Option.some.inj hs)).symm

/-- A backslash and a quote, in front of words that would count if either of them were written
once. -/
theorem readString?_literal_backslash :
    let rest := " OR 'x' = 'x'".toList
    rest.head? ≠ some '\'' ∧
      Dialect.mySql.literal .clob (.string "\\'") = .ok "'\\\\'''" ∧
      Dialect.mySql.readString? ("'\\\\'''".toList ++ rest) = some ("\\'", rest) := by
  intro rest
  have hrest : rest.head? ≠ some '\'' := by decide
  have htext : Dialect.mySql.literal .clob (.string "\\'") = .ok "'\\\\'''" := by decide +kernel
  obtain ⟨text, hliteral, hread⟩ := Dialect.mySql.readString?_literal.1 "\\'" .clob
  cases htext.symm.trans hliteral
  exact ⟨hrest, htext, hread rest hrest⟩

end Dialect

/-! ### Names -/

namespace Family

variable (f : Family)

/-- How an engine reads a text that is a name between delimiters: its parts, with dots between
them. -/
def readParts? : List Char → Option (List String)
  | [] => none
  | c :: cs =>
    if c = f.identifierDelimiters.1 then
      match _ : delimited? f.identifierDelimiters.2 false cs with
      | none => none
      | some (part, []) => some [String.ofList part]
      | some (part, d :: rest) =>
        if d = '.' then (readParts? rest).map (String.ofList part :: ·) else none
    else none
termination_by cs => cs.length
decreasing_by
  have hlength := Text.length_of_delimited? _ _ ‹delimited? _ _ _ = _›
  simp only [List.length_cons] at hlength ⊢
  omega

lemma delimited_toList (text : String) :
    (f.delimited text).toList = f.identifierDelimiters.1 ::
      (text.toList.flatMap (delimitedChar f.identifierDelimiters.2 false) ++
        [f.identifierDelimiters.2]) := by
  rw [delimited, Text.delimitedChar_plain, String.toList_append, String.toList_append,
    Text.doubled, String.toList_ofList]
  simp

lemma closing_ne_dot : f.identifierDelimiters.2 ≠ '.' := by
  cases f <;> decide

/-- A part between delimiters at the end of the text. -/
lemma readParts?_last (part : String) : f.readParts? (f.delimited part).toList = some [part] := by
  have hread := @Text.delimited?_flatMap f.identifierDelimiters.2 false part.toList [] (by simp)
  rw [delimited_toList, readParts?, if_pos rfl]
  split
  case h_1 h => cases h.symm.trans hread
  case h_2 h =>
    cases h.symm.trans hread
    rw [String.ofList_toList]
  case h_3 h => cases h.symm.trans hread

/-- A part between delimiters in front of a dot. -/
lemma readParts?_dot (part : String) (cs : List Char) :
    f.readParts? ((f.delimited part).toList ++ '.' :: cs) =
      (f.readParts? cs).map (part :: ·) := by
  have hread := @Text.delimited?_flatMap f.identifierDelimiters.2 false part.toList ('.' :: cs)
    fun h => f.closing_ne_dot (Option.some.inj h).symm
  rw [delimited_toList, List.cons_append, List.append_assoc, List.singleton_append, readParts?,
    if_pos rfl]
  split
  case h_1 h => cases h.symm.trans hread
  case h_2 h => cases h.symm.trans hread
  case h_3 h =>
    cases h.symm.trans hread
    rw [if_pos rfl, String.ofList_toList]

/-- Parts between delimiters are read one by one. -/
lemma readParts?_joined {parts : List String} (h : parts ≠ []) :
    f.readParts? (Text.joined "." (parts.map f.delimited)).toList = some parts := by
  induction parts with
  | nil => exact absurd rfl h
  | cons part parts ih =>
    cases parts with
    | nil => exact f.readParts?_last part
    | cons next parts =>
      -- behind the first part stand a dot and the rest, joined in the same way
      have hjoined : (Text.joined "." ((part :: next :: parts).map f.delimited)).toList =
          (f.delimited part).toList ++
            '.' :: (Text.joined "." ((next :: parts).map f.delimited)).toList := by
        rw [Text.joined, List.map_cons, List.map_cons, String.intercalate_cons_cons,
          String.toList_append, String.toList_append, List.append_assoc]
        rfl
      rw [hjoined, readParts?_dot, ih (List.cons_ne_nil next parts)]
      rfl

end Family

namespace Style

variable {st : Style}

/-- Where all names are quoted and keep their case, a name is its parts between delimiters. -/
lemma name_eq (hquoting : st.settings.quoting = .always) (hcase : st.settings.nameCase = .asIs)
    (n : Name) : st.name n =
      Text.joined "." ((n.parts.map NamePart.text).map st.dialect.family.delimited) := by
  rw [name, List.map_map]
  refine congrArg (Text.joined ".") (List.map_congr_left fun p _ => ?_)
  rw [NamePart.written, Settings.quotes, hquoting, Settings.cased, hcase]
  rfl

/-- **Quoted names.** Where all names are quoted and keep their case, the text of a name that has
parts is read as the texts of its parts, and reading takes the whole of it. So names have one text
only if their parts have the same texts. -/
theorem readParts?_qualified (hquoting : st.settings.quoting = .always)
    (hcase : st.settings.nameCase = .asIs) :
    (∀ n : Name, n.isEmpty = false → ∃ text, st.text (.qualified n) = .ok text ∧
      st.dialect.family.readParts? text.toList = some (n.parts.map NamePart.text)) ∧
    ∀ n m : Name, n.isEmpty = false → m.isEmpty = false →
      (st.text (.qualified n) = st.text (.qualified m) ↔
        n.parts.map NamePart.text = m.parts.map NamePart.text) := by
  have hread (n : Name) (hn : n.isEmpty = false) :
      st.dialect.family.readParts? (st.name n).toList = some (n.parts.map NamePart.text) := by
    have hne : n.parts.map NamePart.text ≠ [] := by
      rw [ne_eq, List.map_eq_nil_iff]
      exact fun h => by simp [Name.isEmpty, h] at hn
    rw [name_eq hquoting hcase, Family.readParts?_joined _ hne]
  -- a text determines what is read back from it, so names of one text are equal
  refine ⟨fun n hn => ⟨st.name n, text_qualified n, hread n hn⟩, fun n m hn hm => ?_⟩
  rw [text_qualified, text_qualified]
  constructor
  · intro h
    have hparts := hread n hn
    rw [Except.ok.inj h, hread m hm] at hparts
    exact (Option.some.inj hparts).symm
  · intro h
    rw [name_eq hquoting hcase, name_eq hquoting hcase, h]

/-- A name of two parts, one of which holds what would end it. -/
theorem readParts?_qualified_brackets :
    let st : Style := ⟨.sqlServer, { quoting := .always }⟩
    let n := Name.ofTexts ["a].[b", "c]"]
    let m := Name.ofTexts ["a", "b", "c]"]
    st.settings.quoting = .always ∧ st.settings.nameCase = .asIs ∧ n.isEmpty = false ∧
      m.isEmpty = false ∧ st.text (.qualified n) = .ok "[a]].[b].[c]]]" ∧
      st.dialect.family.readParts? "[a]].[b].[c]]]".toList = some ["a].[b", "c]"] ∧
      st.text (.qualified n) ≠ st.text (.qualified m) := by
  intro st n m
  have htext : st.text (.qualified n) = .ok "[a]].[b].[c]]]" := by decide +kernel
  obtain ⟨hread, halike⟩ := @readParts?_qualified st rfl rfl
  obtain ⟨text, hwritten, hparts⟩ := hread n rfl
  cases htext.symm.trans hwritten
  exact ⟨rfl, rfl, rfl, rfl, htext, hparts, mt (halike n m rfl rfl).mp (by decide)⟩

end Style

end Polysql
