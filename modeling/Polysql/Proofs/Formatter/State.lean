import Polysql.Proofs.Writing.Text
/-!
Rendering on one formatter. Drafts are functions of the place they are made for. A formatter is
that place as one record, which a rendering changes on its way and hands on to everything it
renders: what it has to change for a part, it has to put back after the part, whether the part is
written or fails. `Formatter.Restored` says what has to be there again afterwards.

Whatever is only written, without changing the place, is a draft (`Formatting.emit`). The ways to
change the place are `Formatting.within` for a change that is put back, `Formatting.collecting` for
the semi and anti joins that a condition takes over, and `Formatting.nested` for a text of its own.
-/

namespace Polysql

/-! ### Formatters -/

/-- What renders the parts of a statement. -/
structure Formatter where
  /-- The engine, the settings and what is known of the database. -/
  renderer : Renderer
  /-- The text so far. -/
  text : String
  /-- The values that are bound so far. -/
  parameters : List Parameter
  /-- How many queries enclose the place. -/
  depth : Nat
  /-- Values are written out. -/
  inline : Bool
  /-- Columns keep their qualifier. -/
  qualify : Bool
  /-- Tables are introduced with their alias, and not only referred to. -/
  declareTables : Bool
  /-- What is selected keeps its alias. -/
  declareFields : Bool
  /-- The junction whose operand is rendered. -/
  junction? : Option Junction
  /-- How many blocks enclose the place. -/
  blockDepth : Nat
  /-- The conditions that take over semi and anti joins, where there can be any. -/
  absorbed? : Option (List Condition)

namespace Formatter

/-- The formatter of a statement, when some values are bound already. -/
def start (r : Renderer) (bound : List Parameter) : Formatter where
  renderer := r
  text := ""
  parameters := bound
  depth := 0
  inline := false
  qualify := true
  declareTables := true
  declareFields := true
  junction? := none
  blockDepth := 0
  absorbed? := none

/-- The place that the formatter has come to. -/
def scope (f : Formatter) : Scope where
  target := f.renderer.target
  depth := f.depth
  inline := f.inline
  qualify := f.qualify
  declareTables := f.declareTables
  declareFields := f.declareFields
  junction? := f.junction?
  inBlock := decide (0 < f.blockDepth)
  absorbs := f.absorbed?.isSome

/-- What has been written so far. -/
def written (f : Formatter) : Written :=
  ⟨f.text, f.parameters, none⟩

/-- The formatter when more has been written and further joins have been taken over. -/
def after (f : Formatter) (w : Written) (cs : List Condition) : Formatter :=
  { f with
    text := w.text
    parameters := w.parameters
    absorbed? := f.absorbed?.map (· ++ cs) }

/-- The formatter of a text of its own, which shares the values that are bound. -/
def apart (f : Formatter) : Formatter :=
  { f with
    text := ""
    depth := 0
    inline := true
    declareTables := true
    declareFields := true
    junction? := none
    absorbed? := none }

/-- A formatter is left as it was found: its place is the same, and the text, the values that are
bound and the conditions that take over joins have only become more. -/
structure Restored (f g : Formatter) : Prop where
  /-- Text has been added. -/
  text : ∃ added, g.text = f.text ++ added
  /-- Values have been added. -/
  parameters : ∃ added, g.parameters = f.parameters ++ added
  /-- Joins can be taken over where they could before, and further ones have been. -/
  absorbed : ∃ added, g.absorbed? = f.absorbed?.map (· ++ added)
  renderer : g.renderer = f.renderer
  depth : g.depth = f.depth
  inline : g.inline = f.inline
  qualify : g.qualify = f.qualify
  declareTables : g.declareTables = f.declareTables
  declareFields : g.declareFields = f.declareFields
  junction : g.junction? = f.junction?
  blockDepth : g.blockDepth = f.blockDepth

variable {f g h : Formatter}

/-- The formatter is the one before it with more text, values and conditions. -/
lemma restored_iff : f.Restored g ↔ ∃ (t : String) (ps : List Parameter) (cs : List Condition),
    g = f.after ⟨f.text ++ t, f.parameters ++ ps, none⟩ cs := by
  constructor
  · rintro ⟨⟨t, ht⟩, ⟨ps, hps⟩, ⟨cs, hcs⟩, hrenderer, hdepth, hinline, hqualify, htables, hfields,
      hjunction, hblocks⟩
    refine ⟨t, ps, cs, ?_⟩
    cases g
    simp only at ht hps hcs hrenderer hdepth hinline hqualify htables hfields hjunction hblocks
    subst ht hps hcs hrenderer hdepth hinline hqualify htables hfields hjunction hblocks
    rfl
  · rintro ⟨t, ps, cs, rfl⟩
    exact ⟨⟨t, rfl⟩, ⟨ps, rfl⟩, ⟨cs, rfl⟩, rfl, rfl, rfl, rfl, rfl, rfl, rfl, rfl⟩

lemma after_nil (f : Formatter) (w : Written) :
    f.after w [] = { f with text := w.text, parameters := w.parameters } := by
  cases habsorbed : f.absorbed? <;> simp [after, habsorbed]

lemma after_after (f : Formatter) (v w : Written) (cs ds : List Condition) :
    (f.after v cs).after w ds = f.after w (cs ++ ds) := by
  cases habsorbed : f.absorbed? <;> simp [after, habsorbed]

@[simp] lemma scope_after (f : Formatter) (w : Written) (cs : List Condition) :
    (f.after w cs).scope = f.scope := by
  simp only [scope, after, Option.isSome_map]
  rfl

lemma written_after (f : Formatter) {w : Written} (hw : w.error? = none) (cs : List Condition) :
    (f.after w cs).written = w := by
  cases w
  cases hw
  rfl

namespace Restored

@[trans] lemma trans (hfg : f.Restored g) (hgh : g.Restored h) : f.Restored h := by
  obtain ⟨t, ps, cs, rfl⟩ := restored_iff.mp hfg
  obtain ⟨t', ps', cs', rfl⟩ := restored_iff.mp hgh
  rw [after_after, restored_iff]
  exact ⟨t ++ t', ps ++ ps', cs ++ cs', by
    rw [← String.append_assoc, ← List.append_assoc]
    rfl⟩

end Restored

end Formatter

/-! ### Changes of the place -/

/-- A change of the place for what is rendered there. -/
structure Change where
  /-- The formatter at the new place. -/
  enter : Formatter → Formatter
  /-- The formatter back at the place of the first one. -/
  leave : Formatter → Formatter → Formatter

namespace Change

/-- A query inside another. -/
def inQuery : Change where
  enter f := { f with
    depth := f.depth + 1
    absorbed? := none
    junction? := none
    declareFields := true }
  leave f g := { g with
    declareFields := f.declareFields
    junction? := f.junction?
    absorbed? := f.absorbed?
    depth := g.depth - 1 }

/-- An operand of a junction, or a condition in parentheses. -/
def operandOf (junction? : Option Junction) : Change where
  enter f := { f with junction? }
  leave f g := { g with junction? := f.junction? }

/-- An operand of a set operation, whose columns have the names of the first one. -/
def withoutFieldNames : Change where
  enter f := { f with declareFields := false }
  leave f g := { g with declareFields := f.declareFields }

/-- Columns leave their qualifier out. -/
def unqualified : Change where
  enter f := { f with qualify := false }
  leave f g := { g with qualify := f.qualify }

/-- Values are written out. -/
def writtenOut : Change where
  enter f := { f with inline := true }
  leave f g := { g with inline := f.inline }

/-- Tables are only referred to. -/
def referring : Change where
  enter f := { f with declareTables := false }
  leave f g := { g with declareTables := f.declareTables }

/-- The statements of a block. -/
def insideBlock : Change where
  enter f := { f with blockDepth := f.blockDepth + 1 }
  leave _ g := { g with blockDepth := g.blockDepth - 1 }

end Change

/-! ### Renderings -/

/-- A rendering: it changes a formatter, and ends with a result or an error. -/
abbrev Formatting := EStateM Error Formatter

namespace Formatting

/-- What is written at the place that the formatter has come to. -/
def emit (draft : Scope → Draft) : Formatting Unit := fun f =>
  let w := f.renderer.style.write f.written (draft f.scope)
  match w.error? with
  | none => .ok () (f.after w [])
  | some e => .error e (f.after w [])

/-- Fixed text. -/
def text (s : String) : Formatting Unit :=
  emit fun _ => .text s

instance : Coe String (Formatting Unit) := ⟨text⟩

/-- An error. -/
def fail (e : Error) : Formatting Unit :=
  emit fun _ => .fail e

/-- The rendering fails because the engine lacks a feature. -/
def refuse (feature : String) : Formatting Unit :=
  emit fun s => s.refuse feature

/-- The start of a clause. -/
def clause (keyword : String) : Formatting Unit :=
  emit fun s => s.clause keyword

/-- Goes on by the place that the formatter has come to. -/
def asking {α : Type} (k : Scope → Formatting α) : Formatting α := fun f =>
  k f.scope f

/-- Nothing. -/
def empty : Formatting Unit :=
  pure ()

instance : Append (Formatting Unit) := ⟨fun a b => do a; b⟩

/-- The renderings one after the other. -/
def concat (ms : List (Formatting Unit)) : Formatting Unit :=
  ms.foldr (· ++ ·) empty

/-- The renderings with `separator` between them. -/
def separated (separator : String) : List (Formatting Unit) → Formatting Unit
  | [] => empty
  | [m] => m
  | m :: ms => m ++ text separator ++ separated separator ms

/-- The renderings with commas between them. -/
def commas (ms : List (Formatting Unit)) : Formatting Unit :=
  separated ", " ms

/-- The rendering, if a condition is met. -/
def onlyIf (b : Bool) (m : Formatting Unit) : Formatting Unit :=
  if b then m else empty

/-- The rendering of something that may be absent. -/
def ofOption {α : Type} (render : α → Formatting Unit) : Option α → Formatting Unit
  | some a => render a
  | none => empty

/-- Goes on with what was computed, or fails. -/
def ofResult {α : Type} (result : Except Error α) (render : α → Formatting Unit) :
    Formatting Unit :=
  match result with
  | .ok a => render a
  | .error e => fail e

/-- A further join that a condition takes over. -/
def absorb (c : Condition) : Formatting Unit := fun f =>
  .ok () { f with absorbed? := f.absorbed?.map (· ++ [c]) }

/-- A rendering on a changed formatter. What was changed is put back, also after an error. -/
def within {α : Type} (c : Change) (m : Formatting α) : Formatting α := fun f =>
  match m (c.enter f) with
  | .ok a g => .ok a (c.leave f g)
  | .error e g => .error e (c.leave f g)

/-- The conditions that take over the semi and anti joins of what is rendered. -/
def collecting (m : Formatting Unit) : Formatting (List Condition) := fun f =>
  match m { f with absorbed? := some [] } with
  | .ok _ g => .ok (g.absorbed?.getD []) { g with absorbed? := f.absorbed? }
  | .error e g => .error e { g with absorbed? := f.absorbed? }

/-- A text of its own, in which every value is written out. Values that are bound nevertheless
are bound with the others. -/
def nested (m : Formatting Unit) : Formatting String := fun f =>
  match m f.apart with
  | .ok _ g => .ok g.text { f with parameters := g.parameters }
  | .error e g => .error e { f with parameters := g.parameters }

/-- A text of its own, put into the text as it is there. -/
def apart (m : Formatting Unit) (around : String → String) : Formatting Unit := do
  let t ← nested m
  text (around t)

end Formatting

end Polysql
