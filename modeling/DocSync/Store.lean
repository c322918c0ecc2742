import DocSync.Document

/-! # The store of open documents

  A store holds at most one document per identifier. Opening and changing both
  put the document that a text spells, whether or not the identifier was open
  before; closing takes it away.

  The reads fall into two groups. Those on a single document that insist on it
  (`line`, `content`, `count`) are refused when it is not open, and `line` also
  when the document has no such line. All others answer in every store.

  `get?_put` and `get?_close` are the view of a store through which everything
  else about it is known; `get?_edit` says the same of edits as data.
-/

namespace DocSync

/-- The open documents, each under its own identifier. -/
structure Store where
  entries : List (DocumentId × Document)
  nodup : (entries.map Prod.fst).Nodup

namespace Store

def empty : Store := ⟨[], List.nodup_nil⟩

/-! ### Changing a store -/

/-- The entries under other identifiers. -/
def without (entries : List (DocumentId × Document)) (id : DocumentId) :
    List (DocumentId × Document) :=
  entries.filter (fun entry => entry.1 ≠ id)

theorem not_mem_keys_without (entries : List (DocumentId × Document)) (id : DocumentId) :
    id ∉ (without entries id).map Prod.fst := by
  simp [without]

theorem nodup_without {entries : List (DocumentId × Document)}
    (h : (entries.map Prod.fst).Nodup) (id : DocumentId) :
    ((without entries id).map Prod.fst).Nodup :=
  h.sublist (List.filter_sublist.map _)

/-- Nothing is open under the identifier any more. -/
def close (s : Store) (id : DocumentId) : Store :=
  ⟨without s.entries id, nodup_without s.nodup id⟩

/-- Exactly this document is open under the identifier. -/
def put (s : Store) (id : DocumentId) (d : Document) : Store :=
  ⟨(id, d) :: without s.entries id,
    List.nodup_cons.2 ⟨not_mem_keys_without _ _, nodup_without s.nodup id⟩⟩

/-- Opens the document that a text spells, replacing any that was open. -/
def openText (s : Store) (id : DocumentId) (text : String) : Store :=
  s.put id (.ofText text)

/-- Gives an identifier a new text, opening it if it was not open. -/
def changeText (s : Store) (id : DocumentId) (text : String) : Store :=
  s.put id (.ofText text)

/-! ### Reads that always answer -/

/-- The document open under an identifier. -/
def get? (s : Store) (id : DocumentId) : Option Document := s.entries.lookup id

/-- Tells whether a document is open under the identifier. -/
def isOpen (s : Store) (id : DocumentId) : Bool := (s.get? id).isSome

/-- The identifiers of the open documents, each once. -/
def ids (s : Store) : List DocumentId := s.entries.map Prod.fst

def size (s : Store) : Nat := s.entries.length

def isEmpty (s : Store) : Bool := s.entries.isEmpty

/-- The number of lines of a document, if it is open. -/
def lineCount? (s : Store) (id : DocumentId) : Option Nat := (s.get? id).map Document.lineCount

/-! ### Reads that insist on an open document -/

/-- Why a read is refused. -/
inductive Refusal where
  /-- No document is open under the identifier. -/
  | notOpen (id : DocumentId)
  /-- The document is open but has too few lines. -/
  | lineOutOfRange (line : Nat) (id : DocumentId) (count : Nat)
  deriving DecidableEq, Repr

def Refusal.message : Refusal → String
  | .notOpen id => "document is not open: " ++ id.text
  | .lineOutOfRange line id count =>
    "line " ++ toString line ++ " out of range for " ++ id.text ++
      " (" ++ toString count ++ " lines)"

/-- The document open under an identifier, which has to be open. -/
def get (s : Store) (id : DocumentId) : Except Refusal Document :=
  match s.get? id with
  | some d => .ok d
  | none => .error (.notOpen id)

def line (s : Store) (id : DocumentId) (n : Nat) : Except Refusal String :=
  match s.get id with
  | .error refusal => .error refusal
  | .ok d =>
    match d.line? n with
    | some text => .ok text
    | none => .error (.lineOutOfRange n id d.lineCount)

def content (s : Store) (id : DocumentId) : Except Refusal String :=
  (s.get id).map Document.content

/-- The number of lines of an open document. -/
def count (s : Store) (id : DocumentId) : Except Refusal Nat :=
  (s.get id).map Document.lineCount

/-! ### Edits and queries as data -/

inductive Edit where
  | openText (id : DocumentId) (text : String)
  | changeText (id : DocumentId) (text : String)
  | close (id : DocumentId)
  deriving DecidableEq, Repr

def Edit.id : Edit → DocumentId
  | .openText id _ => id
  | .changeText id _ => id
  | .close id => id

/-- What an edit leaves open under its identifier. -/
def Edit.document? : Edit → Option Document
  | .openText _ text => some (.ofText text)
  | .changeText _ text => some (.ofText text)
  | .close _ => none

/-- The store after an edit. -/
def edit (s : Store) : Edit → Store
  | .openText id text => s.openText id text
  | .changeText id text => s.changeText id text
  | .close id => s.close id

inductive Query where
  | isOpen (id : DocumentId)
  | line (id : DocumentId) (n : Nat)
  | content (id : DocumentId)
  | count (id : DocumentId)
  | lineCount (id : DocumentId)
  | document (id : DocumentId)
  | ids
  | size
  | isEmpty
  deriving DecidableEq, Repr

/-- What a read gives. -/
inductive Answer where
  | flag (value : Bool)
  | text (value : String)
  | number (value : Nat)
  | numberIfOpen (value : Option Nat)
  | documentIfOpen (value : Option Document)
  | ids (value : List DocumentId)
  deriving DecidableEq, Repr

/-- The answer of a store to a query, or the reason for refusing it. -/
def answer (s : Store) : Query → Except Refusal Answer
  | .isOpen id => .ok (.flag (s.isOpen id))
  | .line id n => (s.line id n).map .text
  | .content id => (s.content id).map .text
  | .count id => (s.count id).map .number
  | .lineCount id => .ok (.numberIfOpen (s.lineCount? id))
  | .document id => .ok (.documentIfOpen (s.get? id))
  | .ids => .ok (.ids s.ids)
  | .size => .ok (.number s.size)
  | .isEmpty => .ok (.flag s.isEmpty)

/-! ### The view of a store -/

@[simp] theorem get?_empty (id : DocumentId) : empty.get? id = none := rfl

theorem lookup_without (entries : List (DocumentId × Document)) (id other : DocumentId) :
    (without entries id).lookup other = if other = id then none else entries.lookup other := by
  induction entries with
  | nil => simp [without]
  | cons entry rest ih =>
    obtain ⟨key, d⟩ := entry
    by_cases hkey : key = id
    · subst hkey
      have hw : without ((key, d) :: rest) key = without rest key := by simp [without]
      rw [hw, ih]
      by_cases ho : other = key
      · simp [ho]
      · simp [ho, List.lookup_cons, beq_eq_false_iff_ne.2 ho]
    · have hw : without ((key, d) :: rest) id = (key, d) :: without rest id := by
        simp [without, hkey]
      rw [hw, List.lookup_cons, List.lookup_cons, ih]
      by_cases ho : other = key
      · subst ho
        simp [hkey]
      · simp [beq_eq_false_iff_ne.2 ho]

/-- Putting a document sets its identifier and no other. -/
@[simp] theorem get?_put (s : Store) (id : DocumentId) (d : Document) (other : DocumentId) :
    (s.put id d).get? other = if other = id then some d else s.get? other := by
  simp only [get?, put, List.lookup_cons, lookup_without]
  by_cases h : other = id
  · simp [h]
  · simp [h, beq_eq_false_iff_ne.2 h]

/-- Closing clears its identifier and no other. -/
@[simp] theorem get?_close (s : Store) (id other : DocumentId) :
    (s.close id).get? other = if other = id then none else s.get? other :=
  lookup_without _ _ _

/-- An edit sets what is open under its identifier and under no other. -/
@[simp] theorem get?_edit (s : Store) (e : Edit) (other : DocumentId) :
    (s.edit e).get? other = if other = e.id then e.document? else s.get? other := by
  cases e with
  | openText id text => exact get?_put s id (.ofText text) other
  | changeText id text => exact get?_put s id (.ofText text) other
  | close id => exact get?_close s id other

theorem mem_ids_iff (s : Store) (id : DocumentId) : id ∈ s.ids ↔ (s.get? id).isSome := by
  obtain ⟨entries, h⟩ := s
  simp only [ids, get?]
  clear h
  induction entries with
  | nil => simp
  | cons entry rest ih =>
    obtain ⟨key, d⟩ := entry
    by_cases ho : id = key
    · simp [ho]
    · simp [ho, List.lookup_cons, beq_eq_false_iff_ne.2 ho, ← ih]

theorem nodup_ids (s : Store) : s.ids.Nodup := s.nodup

theorem size_eq_length_ids (s : Store) : s.size = s.ids.length := by simp [size, ids]

end Store

end DocSync
