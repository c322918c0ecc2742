import DocSync.Text.Lines

/-! # Text documents

  A document is the list of its lines, without their breaks. It is known to
  the editor by an identifier, an arbitrary text that is compared as it stands:
  nothing about it is normalized.

  Only `Document.ofText` makes documents for a store. `Document.blank`, which
  has no line at all, is the value of an unset document; its content is that of
  the document with one empty line, and yet the two differ.
-/

namespace DocSync

/-! ### Identifiers -/

/-- The name under which an editor knows a document. -/
structure DocumentId where
  text : String
  deriving DecidableEq, Repr

namespace DocumentId

/-- Identifiers are ordered by their characters, which is also the order of
    their encoded bytes. -/
def order (a b : DocumentId) : Ordering := compare a.text b.text

instance : ToString DocumentId := ⟨text⟩

end DocumentId

/-! ### Documents -/

/-- A document, as the list of its lines. -/
structure Document where
  lines : List String
  deriving DecidableEq, Repr

namespace Document

def blank : Document := ⟨[]⟩

def ofText (text : String) : Document :=
  ⟨(Text.splitLines text.toList).map String.ofList⟩

def lineCount (d : Document) : Nat := d.lines.length

/-- The line at a position counted from zero. -/
def line? (d : Document) (n : Nat) : Option String := d.lines[n]?

/-- The text of the document, with a line feed between each two lines. -/
def content (d : Document) : String :=
  String.ofList (Text.joinLines (d.lines.map String.toList))

theorem lines_ofText (text : String) :
    (ofText text).lines = (Text.splitLines text.toList).map String.ofList := rfl

/-- Even the empty text spells a document with a line. -/
theorem lines_ofText_ne_nil (text : String) : (ofText text).lines ≠ [] := by
  simp [lines_ofText, Text.splitLines_ne_nil]

theorem lineCount_ofText_pos (text : String) : 0 < (ofText text).lineCount :=
  List.length_pos_iff.2 (lines_ofText_ne_nil text)

/-- The content of a spelled document is its text with every break written as
    a single line feed. -/
theorem content_ofText (text : String) :
    (ofText text).content = String.ofList (Text.normalizeBreaks text.toList) := by
  simp [content, lines_ofText, Function.comp_def, Text.joinLines_splitLines]

end Document

end DocSync
